import Switchboard.Admission.Policy
import Switchboard.Proofs.Registry.Effects

/-!
# What actions do to the calls

The actions that admission asks for, as functions on lists of calls.

* `applyAll`: the calls after actions, one after the other; `Partly`: after the first few of them.
* `mem_applyAll`: what is there after the actions was there before, and nothing was done to it, or
  it was put on hold.
* `Policy.onAnswer_target`: before a call is answered, something is done to every other call that is
  engaged, whatever the mix of calls.
-/

namespace Switchboard

/-- In conversation, or on its way to one: active, dialing or alerting. -/
def CallState.isEngaged (s : CallState) : Bool := s == .active || s.isConnecting

theorem CallState.isEngaged_iff {s : CallState} :
    s.isEngaged = true ↔ s = .active ∨ s.isConnecting = true := by
  simp [isEngaged]

namespace Admission

/-- The calls after an action: a call that is held changes its state, one that is hung up or
declined leaves. -/
def Action.apply : Action → List Call → List Call
  | .hold id, calls => Registry.adjust id ({ · with state := .holding }) calls
  | .hangUp id, calls | .reject id, calls => calls.filter (·.id != id)

/-- The calls after actions, one after the other. -/
def applyAll : List Action → List Call → List Call
  | [], calls => calls
  | a :: rest, calls => applyAll rest (a.apply calls)

/-- Of some actions, a first part was done to `calls`, and nothing else. -/
def Partly (actions : List Action) (calls calls' : List Call) : Prop :=
  ∃ done, done <+: actions ∧ calls' = applyAll done calls

theorem Partly.none (actions : List Action) (calls : List Call) : Partly actions calls calls :=
  ⟨[], List.nil_prefix, rfl⟩

theorem Partly.all (actions : List Action) (calls : List Call) :
    Partly actions calls (applyAll actions calls) := ⟨actions, List.prefix_refl actions, rfl⟩

theorem Partly.cons {a : Action} {rest : List Action} {calls calls' : List Call}
    (h : Partly rest (a.apply calls) calls') : Partly (a :: rest) calls calls' := by
  obtain ⟨done, hdone, hcalls⟩ := h
  exact ⟨a :: done, (List.prefix_cons_inj a).mpr hdone, hcalls⟩

/-- Actions add no calls, and leave them in order. -/
theorem ids_applyAll_sublist (actions : List Action) (calls : List Call) :
    ((applyAll actions calls).map (·.id)).Sublist (calls.map (·.id)) := by
  induction actions generalizing calls with
  | nil => exact .refl _
  | cons a rest ih =>
    refine (ih (a.apply calls)).trans ?_
    cases a with
    | hold id => simp only [Action.apply, Registry.ids_adjust, List.Sublist.refl]
    | hangUp id | reject id => exact List.filter_sublist.map _

theorem ids_applyAll_subset (actions : List Action) (calls : List Call) :
    (applyAll actions calls).map (·.id) ⊆ calls.map (·.id) :=
  (ids_applyAll_sublist actions calls).subset

theorem Partly.ids_subset {actions : List Action} {calls calls' : List Call}
    (h : Partly actions calls calls') : calls'.map (·.id) ⊆ calls.map (·.id) := by
  obtain ⟨done, -, rfl⟩ := h
  exact ids_applyAll_subset done calls

/-! ## What is left -/

theorem mem_apply {a : Action} {calls : List Call} {x : Call} (hx : x ∈ a.apply calls) :
    (x ∈ calls ∧ a.target ≠ x.id) ∨ (x.state = .holding ∧ a = .hold x.id) := by
  cases a with
  | hold id =>
    unfold Action.apply Registry.adjust at hx
    obtain ⟨c, hc, rfl⟩ := List.mem_map.mp hx
    by_cases hid : c.id = id
    · rw [if_pos (beq_iff_eq.mpr hid)]
      exact .inr ⟨rfl, by rw [hid]⟩
    · rw [if_neg (by simpa using hid)]
      exact .inl ⟨hc, fun h => hid h.symm⟩
  | hangUp id | reject id =>
    obtain ⟨hx, hid⟩ := List.mem_filter.mp hx
    exact .inl ⟨hx, (bne_iff_ne.mp hid).symm⟩

/-- What is there after the actions was there before, and nothing was done to it; or it was put on
hold. -/
theorem mem_applyAll {actions : List Action} {calls : List Call} {x : Call}
    (hx : x ∈ applyAll actions calls) :
    (x ∈ calls ∧ ∀ a ∈ actions, a.target ≠ x.id) ∨
      (x.state = .holding ∧ .hold x.id ∈ actions) := by
  induction actions generalizing calls with
  | nil => exact .inl ⟨hx, by simp⟩
  | cons a rest ih =>
    rcases ih hx with ⟨hrest, htargets⟩ | ⟨hs, hmem⟩
    · rcases mem_apply hrest with ⟨hcalls, htarget⟩ | ⟨hs, rfl⟩
      · refine .inl ⟨hcalls, fun b hb => ?_⟩
        rcases List.mem_cons.mp hb with rfl | hb
        · exact htarget
        · exact htargets b hb
      · exact .inr ⟨hs, by simp⟩
    · exact .inr ⟨hs, by simp [hmem]⟩

/-- What is not on hold after the actions was there before, and nothing was done to it. -/
theorem mem_applyAll_of_ne_holding {actions : List Action} {calls : List Call} {x : Call}
    (hx : x ∈ applyAll actions calls) (hs : x.state ≠ .holding) :
    x ∈ calls ∧ ∀ a ∈ actions, a.target ≠ x.id :=
  (mem_applyAll hx).resolve_right fun h => hs h.1

/-- A call that nothing is done to stays as it is. -/
theorem mem_applyAll_of_spared {actions : List Action} {calls : List Call} {x : Call}
    (hx : x ∈ calls) (h : ∀ a ∈ actions, a.target ≠ x.id) : x ∈ applyAll actions calls := by
  induction actions generalizing calls with
  | nil => exact hx
  | cons a rest ih =>
    have ha : a.target ≠ x.id := h a (by simp)
    refine ih ?_ fun b hb => h b (by simp [hb])
    cases a with
    | hold id =>
      exact List.mem_map.mpr ⟨x, hx, if_neg fun h => ha (beq_iff_eq.mp h).symm⟩
    | hangUp id | reject id =>
      exact List.mem_filter.mpr ⟨hx, bne_iff_ne.mpr ha.symm⟩

theorem Partly.mem_of_spared {actions : List Action} {calls calls' : List Call} {x : Call}
    (h : Partly actions calls calls') (hx : x ∈ calls) (hs : ∀ a ∈ actions, a.target ≠ x.id) :
    x ∈ calls' := by
  obtain ⟨done, hdone, rfl⟩ := h
  exact mem_applyAll_of_spared hx fun a ha => hs a (hdone.subset ha)

/-! ## Answering -/

theorem endConversations_target {calls : List Call} {c : Call} (hc : c ∈ calls)
    (hs : c.state.isEngaged) : ∃ a ∈ (endConversations calls).actions, a.target = c.id := by
  refine ⟨.hangUp c.id, ?_, rfl⟩
  refine List.mem_map.mpr ⟨c, List.mem_filter.mpr ⟨hc, ?_⟩, rfl⟩
  rcases CallState.isEngaged_iff.mp hs with ha | hconnecting
  · simp [ha, CallState.isConnected]
  · simp [hconnecting]

namespace Policy

/-- An answer beside two calls deals with the one of them that is engaged. -/
theorem answerBeside_target {anchor other c : Call} {o : Outcome}
    (h : answerBeside anchor other = some o) (hc : c = anchor ∨ c = other)
    (hs : c.state.isEngaged) : ∃ a ∈ o.actions, a.target = c.id := by
  unfold answerBeside at h
  rcases hc with rfl | rfl
  · cases hstate : c.state with
    | active =>
      rw [hstate] at h
      dsimp only at h
      split at h
      · cases h
        exact ⟨.hold c.id, by simp [Outcome.autoHold], rfl⟩
      · split at h
        · cases h
          exact ⟨.hold c.id, by simp [Outcome.autoHold], rfl⟩
        · cases h
    | holding => simp [hstate, CallState.isEngaged, CallState.isConnecting] at hs
    | _ => simp [hstate] at h
  · rcases CallState.isEngaged_iff.mp hs with ha | hconnecting
    · -- An active call is neither connecting nor ringing, so no answer goes ahead beside it.
      split at h <;> simp [ha, CallState.isConnecting, CallState.isRinging] at h
    · split at h
      · rw [if_pos hconnecting] at h
        cases h
        exact ⟨.hangUp c.id, by simp [Outcome.answer], rfl⟩
      · rw [if_pos hconnecting] at h
        cases h
        exact ⟨.hangUp c.id, by simp [Outcome.autoHold], rfl⟩
      · cases h

/-- The answer beside whichever of two calls is connected deals with the one that is engaged. -/
theorem answered_target {first second c : Call} {r : Refusal} (hc : c = first ∨ c = second)
    (hs : c.state.isEngaged) :
    let o := (if first.state.isConnected then answerBeside first second
      else answerBeside second first).getD (.refuse r)
    o.isRejected = false → ∃ a ∈ o.actions, a.target = c.id := by
  split
  · cases ho : answerBeside first second with
    | none => exact fun hr => by cases hr
    | some o => exact fun _ => answerBeside_target ho hc hs
  · cases ho : answerBeside second first with
    | none => exact fun hr => by cases hr
    | some o => exact fun _ => answerBeside_target ho hc.symm hs

/-- Of a held call and an active one, the active one is engaged. -/
theorem heldAndActive?_target {first second held active c : Call}
    (h : heldAndActive? first second = some (held, active)) (hc : c = first ∨ c = second)
    (hs : c.state.isEngaged) : active = c := by
  unfold heldAndActive? at h
  split at h
  · rename_i hf _
    cases h
    rcases hc with rfl | rfl
    · rw [hf] at hs
      cases hs
    · rfl
  · rename_i _ hf
    cases h
    rcases hc with rfl | rfl
    · rfl
    · rw [hf] at hs
      cases hs
  · cases h

/-- Before a call is answered, something is done to every other call that is engaged. -/
theorem onAnswer_target (video : VideoState) {calls : List Call} {c : Call} (hc : c ∈ calls)
    (hs : c.state.isEngaged) (hr : (onAnswer video calls).isRejected = false) :
    ∃ a ∈ (onAnswer video calls).actions, a.target = c.id := by
  unfold onAnswer at *
  split
  · exact endConversations_target hc hs
  · rename_i hend
    rw [if_neg hend] at hr
    match calls, hc with
    | [x], hc =>
      obtain rfl := List.mem_singleton.mp hc
      rcases CallState.isEngaged_iff.mp hs with ha | hconnecting
      · simp [ha, Outcome.autoHold, Action.target]
      · have ha : c.state ≠ .active := fun ha => by simp [ha, CallState.isConnecting] at hconnecting
        simp [ha, hconnecting, Outcome.answer, Action.target]
    | [first, second], hc =>
      have hc : c = first ∨ c = second := by simpa using hc
      dsimp only at hr ⊢
      split
      · rename_i held active hpair
        obtain rfl := heldAndActive?_target hpair hc hs
        exact ⟨.hold active.id, by simp [Outcome.autoHold], rfl⟩
      · rename_i hpair
        rw [hpair] at hr
        have hh : ¬(first.state == .holding && second.state == .holding) = true := by
          intro hh
          simp only [Bool.and_eq_true, beq_iff_eq] at hh
          rcases hc with rfl | rfl <;> simp [hh, CallState.isEngaged, CallState.isConnecting] at hs
        dsimp only at hr
        rw [if_neg hh] at hr ⊢
        exact answered_target hc hs hr
    | _ :: _ :: _ :: _, _ => cases hr

/-- A call that is answered is the only active one once the actions are done. -/
theorem evaluate_answer_lone (p : Policy) {calls : List Call} {c : Call} {media : VideoState}
    (hr : (p.evaluate (.answer c media) calls).isRejected = false) :
    ∀ x ∈ applyAll (p.evaluate (.answer c media) calls).actions calls, x.state = .active →
      x.id = c.id := by
  intro x hx ha
  obtain ⟨hcalls, htargets⟩ := mem_applyAll_of_ne_holding hx (by simp [ha])
  by_cases hne : x.id = c.id
  · exact hne
  have hx' : x ∈ others (.answer c media) calls :=
    List.mem_filter.mpr ⟨hcalls, by simp [ha, CallState.isTerminal, Request.answer, hne]⟩
  have hs : x.state.isEngaged := CallState.isEngaged_iff.mpr (.inl ha)
  obtain ⟨a, hmem, htarget⟩ := onAnswer_target media hx' hs hr
  exact absurd htarget (htargets a hmem)

end Policy

end Admission

end Switchboard
