import Switchboard.Proofs.Admission.Targets
import Switchboard.Proofs.Desk.Edits

/-!
# Carrying out actions

What admission asks for is carried out one action after the other, and each asks telephony first.
Whatever telephony refuses, the calls are then those that some first part of the actions makes of
them (`actAll_applies`): an action is either done as a whole or not at all.
-/

namespace Switchboard

/-- The record of a call that is dialed, once it has a number. -/
def DialRequest.toCall (request : DialRequest) (id : CallId) : Call :=
  { Call.fresh id request.slot request.bearer .dialing .outgoing request.number with
    video := request.video, emergency := request.emergency }

/-- The record of a call that arrives, once it has a number. -/
def Arrival.toCall (arrival : Arrival) (id : CallId) : Call :=
  { Call.fresh id arrival.slot arrival.bearer .incoming .incoming arrival.number with
    video := arrival.video }

namespace Desk

open Admission DeskM

variable {d : Desk}

/-- The desk after a call number was given out. -/
def issued (d : Desk) : Desk := { d with registry := d.registry.allocate.2 }

theorem ends_allocate {Q : CallId → Desk → Prop} {E : CallError → Desk → Prop} :
    allocate.Ends d Q E ↔ Q d.registry.nextId d.issued := Iff.rfl

/-- Asking admission says what it decided, and changes nothing else. -/
theorem ends_evaluate {request : Request} {id : Option CallId} {Q : Outcome → Desk → Prop}
    {E : CallError → Desk → Prop} :
    (evaluate request id).Ends d Q E ↔
      Q (d.policy.evaluate request d.registry.calls)
        (d.emit (.admissionDecided id (d.policy.evaluate request d.registry.calls).decision)) :=
  Iff.rfl

/-- An action looks its call up and asks telephony before it changes anything. -/
theorem ends_commanded {id : CallId} {command : Call → Command} {x : DeskM Unit}
    {Q : Unit → Desk → Prop} {E : CallError → Desk → Prop}
    (hx : ∀ c ∈ d.registry.calls, c.id = id → x.Ends (d.telephoned (command c)) Q E)
    (ha : E (.callNotFound id) d)
    (ht : ∀ c, E (d.outside.failure (.telephony (command c))) (d.telephoned (command c))) :
    (do
      telephone (command (← call id))
      x : DeskM Unit).Ends d Q E := by
  rw [ends_bind]
  refine ends_call (fun c hc hid => ?_) fun _ => ha
  rw [ends_bind]
  exact ends_telephone (hx c hc hid) (ht c)

/-- An action is done as a whole, or the calls are as before. -/
theorem act_applies (a : Action) (d : Desk) :
    (act a).Ends d
      (fun _ d' => d'.registry.calls = a.apply d.registry.calls ∧
        d'.registry.nextId = d.registry.nextId)
      (fun e d' => e ≠ .dialInProgress ∧ d'.registry = d.registry) := by
  have ha (id : CallId) : CallError.callNotFound id ≠ .dialInProgress ∧ d.registry = d.registry :=
    ⟨by simp, rfl⟩
  have ht (command : Command) : d.outside.failure (.telephony command) ≠ .dialInProgress ∧
      (d.telephoned command).registry = d.registry :=
    ⟨d.outside.failure_ne_dialInProgress command, registry_telephoned d command⟩
  cases a with
  | hold id =>
    refine ends_commanded (fun c hc hid => ?_) (ha id) fun _ => ht _
    subst hid
    refine (ends_setState_of_mem (by simpa using hc)).mpr ?_
    rw [registry_moved, registry_telephoned]
    exact ⟨rfl, rfl⟩
  | hangUp id =>
    refine ends_commanded (fun c hc hid => ?_) (ha id) fun _ => ht _
    subst hid
    refine (ends_finish_of_mem (by simpa using hc)).mpr ?_
    rw [calls_finished, nextId_finished, registry_telephoned]
    exact ⟨rfl, rfl⟩
  | reject id =>
    refine ends_commanded (fun c hc hid => ?_) (ha id) fun _ => ht _
    subst hid
    refine (ends_unregister_of_mem (by simpa using hc)).mpr ?_
    rw [registry_dropped, registry_telephoned]
    exact ⟨rfl, rfl⟩

/-- If all actions succeed, all are applied; if one fails, those before it are. -/
theorem actAll_applies (actions : List Action) (d : Desk) :
    (actAll actions).Ends d
      (fun _ d' => d'.registry.calls = applyAll actions d.registry.calls ∧
        d'.registry.nextId = d.registry.nextId)
      (fun e d' => e ≠ .dialInProgress ∧ d'.registry.nextId = d.registry.nextId ∧
        Partly actions d.registry.calls d'.registry.calls) := by
  induction actions generalizing d with
  | nil => exact ⟨rfl, rfl⟩
  | cons a rest ih =>
    unfold actAll
    rw [ends_bind]
    refine (act_applies a d).mono (fun _ d₁ h₁ => ?_) fun e d₁ h₁ => ?_
    · refine (ih d₁).mono (fun _ d₂ h₂ => ?_) fun e d₂ h₂ => ?_
      · rw [h₂.1, h₂.2, h₁.1, h₁.2]
        exact ⟨rfl, rfl⟩
      · obtain ⟨he, hn, hpartly⟩ := h₂
        rw [h₁.1] at hpartly
        exact ⟨he, hn.trans h₁.2, hpartly.cons⟩
    · rw [h₁.2]
      exact ⟨h₁.1, rfl, .none _ _⟩

end Desk

end Switchboard
