import Switchboard.Proofs.Admission.Places

/-!
# Proper outcomes

Whoever carries out an outcome does what it asks for without a second look. So an outcome only asks
for what can be done: each action is done to another call, and to one in a state that the action is
meant for; a call is held at most once, at the end, and exactly where the decision says so.

* `Outcome.Proper`: the shapes that the outcome of a policy has beside the calls that count.
* `Policy.evaluate_wellFormed`: what follows for the calls that the request was put with.
-/

namespace Switchboard.Admission

/-- A call in this state may be the target of the action: an active call is held, one that is
connecting or connected is hung up, a ringing one is declined. -/
def Action.suits : Action → CallState → Bool
  | .hold _, s => s == .active
  | .hangUp _, s => s.isConnecting || s.isConnected
  | .reject _, s => s.isRinging

/-- The action puts a call on hold. -/
def Action.holds : Action → Bool
  | .hold _ => true
  | .hangUp _ | .reject _ => false

/-- The action is done to one of the calls, and suits it. -/
def Action.Fits (a : Action) (calls : List Call) : Prop :=
  ∃ c ∈ calls, c.id = a.target ∧ a.suits c.state = true

/-- The outcomes that a policy may have beside `calls`. -/
inductive Outcome.Proper (calls : List Call) : Outcome → Prop
  | answer {actions : List Action} (h : ∀ a ∈ actions, a.holds = false ∧ a.Fits calls) :
    Proper calls (.answer actions)
  | autoHold {before : List Action} {id : CallId}
    (h : ∀ a ∈ before, a.holds = false ∧ a.Fits calls) (hid : (Action.hold id).Fits calls) :
    Proper calls (.autoHold (before ++ [.hold id]))
  | queue : Proper calls .queue
  | refuse (reason : Refusal) : Proper calls (.refuse reason)

/-- An outcome that can be carried out beside `calls` as it stands. -/
structure Outcome.WellFormed (o : Outcome) (request : Request) (calls : List Call) : Prop where
  /-- No two actions are done to the same call. -/
  distinct : (o.actions.map (·.target)).Nodup
  /-- Each action is done to a call that counts, in a state that it is meant for. -/
  suits : ∀ a ∈ o.actions, ∃ c ∈ calls, c.id = a.target ∧ c.state.isTerminal = false ∧
    some c.id ≠ request.call ∧ a.suits c.state = true
  /-- A call is held exactly where the decision says so. -/
  autoHold_iff : o.decision = .autoHold ↔ ∃ a ∈ o.actions, a.holds = true
  /-- Only one call is held, and after everything else. -/
  hold_last : o.decision = .autoHold → ∃ before id, o.actions = before ++ [.hold id] ∧
    ∀ a ∈ before, a.holds = false
  /-- Only a call that arrives can be told to wait. -/
  queued : o.decision = .queueAsWaiting → request.kind = .incoming
  /-- Nothing is done for a request that does not go ahead. -/
  idle : o.decision = .queueAsWaiting ∨ o.decision = .reject → o.actions = []
  /-- A reason is given exactly for a refusal. -/
  reason_iff : o.reason.isSome = true ↔ o.decision = .reject

namespace Outcome

variable {calls calls' : List Call} {c other : Call} {o : Outcome}

/-! ## Proper outcomes -/

theorem Proper.of_nil : Proper calls (.answer []) := .answer (by simp)

theorem fits_hangUp (hc : c ∈ calls) (hs : (c.state.isConnecting || c.state.isConnected) = true) :
    (Action.hangUp c.id).Fits calls := ⟨c, hc, rfl, hs⟩

theorem fits_hold (hc : c ∈ calls) (ha : c.state = .active) : (Action.hold c.id).Fits calls :=
  ⟨c, hc, rfl, beq_iff_eq.mpr ha⟩

theorem Proper.hangUp (hc : c ∈ calls)
    (hs : (c.state.isConnecting || c.state.isConnected) = true) :
    Proper calls (.answer [.hangUp c.id]) :=
  .answer fun a ha => by
    rw [List.mem_singleton.mp ha]
    exact ⟨rfl, fits_hangUp hc hs⟩

theorem Proper.hold (hc : c ∈ calls) (ha : c.state = .active) :
    Proper calls (.autoHold [.hold c.id]) :=
      @Proper.autoHold calls [] c.id (by simp) (fits_hold hc ha)

/-- One call is ended, and then another one held. -/
theorem Proper.hangUp_hold (ho : other ∈ calls)
    (hs : (other.state.isConnecting || other.state.isConnected) = true) (hc : c ∈ calls)
    (ha : c.state = .active) : Proper calls (.autoHold [.hangUp other.id, .hold c.id]) := by
  refine @Proper.autoHold calls [.hangUp other.id] c.id (fun a hm => ?_) (fits_hold hc ha)
  rw [List.mem_singleton.mp hm]
  exact ⟨rfl, fits_hangUp ho hs⟩

theorem Proper.getD {o : Option Outcome} (h : ∀ o', o = some o' → o'.Proper calls)
    (reason : Refusal) : (o.getD (.refuse reason)).Proper calls := by
  cases o with
  | none => exact .refuse reason
  | some o => exact h o rfl

/-! ## What they have in common -/

/-- Every action of a proper outcome has a call that it suits. -/
theorem Proper.fits (h : o.Proper calls) : ∀ a ∈ o.actions, a.Fits calls := by
  intro a ha
  cases h with
  | answer h => exact (h a ha).2
  | autoHold h hid =>
    rcases List.mem_append.mp ha with ha | ha
    · exact (h a ha).2
    · rw [List.mem_singleton.mp ha]
      exact hid
  | queue | refuse => nomatch ha

/-- The decision says that a call is held just when one is. -/
theorem Proper.autoHold_iff (h : o.Proper calls) :
    o.decision = .autoHold ↔ ∃ a ∈ o.actions, a.holds = true := by
  cases h with
  | answer h =>
    constructor
    · intro hd
      cases hd
    · rintro ⟨a, ha, hh⟩
      rw [(h a ha).1] at hh
      cases hh
  | @autoHold _ id =>
    constructor
    · exact fun _ => ⟨.hold id, by simp [Outcome.autoHold], rfl⟩
    · exact fun _ => rfl
  | queue | refuse =>
    constructor
    · intro hd
      cases hd
    · rintro ⟨a, ha, -⟩
      cases ha

/-- The held call comes last. -/
theorem Proper.hold_last (h : o.Proper calls) (hd : o.decision = .autoHold) :
    ∃ before id, o.actions = before ++ [.hold id] ∧ ∀ a ∈ before, a.holds = false := by
  cases h with
  | @autoHold before id h => exact ⟨before, id, rfl, fun a ha => (h a ha).1⟩
  | answer | queue | refuse => cases hd

theorem Proper.idle (h : o.Proper calls)
    (hd : o.decision = .queueAsWaiting ∨ o.decision = .reject) : o.actions = [] := by
  cases h with
  | queue | refuse => rfl
  | answer | autoHold => rcases hd with hd | hd <;> cases hd

theorem Proper.reason_iff (h : o.Proper calls) :
    o.reason.isSome = true ↔ o.decision = .reject := by
  cases h with
  | refuse => exact ⟨fun _ => rfl, fun _ => rfl⟩
  | answer | autoHold | queue => exact ⟨nofun, nofun⟩

end Outcome

namespace Policy

open Outcome

variable {p : Policy} {request : Request} {calls : List Call}

/-! ## Every outcome is proper -/

theorem proper_endConversations (calls : List Call) : (endConversations calls).Proper calls := by
  refine .answer fun a ha => ?_
  obtain ⟨c, hc, rfl⟩ := List.mem_map.mp ha
  obtain ⟨hc, hs⟩ := List.mem_filter.mp hc
  exact ⟨rfl, fits_hangUp hc hs⟩

/-- The pair is told apart by state. -/
theorem heldAndActive?_states {first second held active : Call}
    (h : heldAndActive? first second = some (held, active)) :
    held.state = .holding ∧ active.state = .active := by
  unfold heldAndActive? at h
  split at h
  · cases h
    exact ⟨‹_›, ‹_›⟩
  · cases h
    exact ⟨‹_›, ‹_›⟩
  · cases h

/-- The held one of two calls gives way, and the active one is held. -/
theorem proper_heldAndActive {first second held active : Call}
    (h : heldAndActive? first second = some (held, active)) :
    (Outcome.autoHold [.hangUp held.id, .hold active.id]).Proper [first, second] := by
  obtain ⟨hh, ha⟩ := heldAndActive?_states h
  have hperm := heldAndActive?_perm h
  have hs : (held.state.isConnecting || held.state.isConnected) = true := by rw [hh]; rfl
  exact .hangUp_hold (hperm.subset (by simp)) hs (hperm.subset (by simp)) ha

theorem proper_onIncoming (slot : SlotId) (calls : List Call) :
    (p.onIncoming slot calls).Proper calls := by
  unfold onIncoming
  split
  · exact .refuse _
  split
  · exact .of_nil
  -- Beside one call.
  · split
    · rename_i ha
      exact .hold (by simp) (beq_iff_eq.mp ha)
    · split
      · exact .queue
      · exact .of_nil
  -- Beside two calls.
  · split
    · rename_i hpair
      split
      · exact proper_heldAndActive hpair
      · exact .queue
    · dsimp only
      split
      · exact .queue
      · split
        · exact .queue
        · exact .refuse _
  · exact .refuse _

/-- An answer beside two calls ends the other if it is connecting, and holds the anchor if it is
active. -/
theorem proper_answerBeside {anchor other : Call} (ha : anchor ∈ calls) (ho : other ∈ calls)
    {o : Outcome} (h : answerBeside anchor other = some o) : o.Proper calls := by
  unfold answerBeside at h
  split at h
  · split at h
    · rename_i hconnecting
      cases h
      exact .hangUp ho (by simp [hconnecting])
    · split at h
      · cases h
        exact .of_nil
      · cases h
  -- The anchor is active, and has to be held as well.
  · rename_i hactive
    split at h
    · rename_i hconnecting
      cases h
      exact .hangUp_hold ho (by simp [hconnecting]) ha hactive
    · split at h
      · cases h
        exact .hold ha hactive
      · cases h
  · cases h

theorem proper_onAnswer (video : VideoState) (calls : List Call) :
    (onAnswer video calls).Proper calls := by
  unfold onAnswer
  split
  · exact proper_endConversations calls
  split
  · exact .of_nil
  -- Beside one call.
  · split
    · rename_i ha
      exact .hold (by simp) (beq_iff_eq.mp ha)
    · split
      · rename_i hconnecting
        exact .hangUp (by simp) (by simp [hconnecting])
      · exact .of_nil
  -- Beside two calls.
  · split
    · rename_i hpair
      exact proper_heldAndActive hpair
    · split
      · exact .of_nil
      · dsimp only
        split <;> exact .getD (fun _ => proper_answerBeside (by simp) (by simp)) _
  · exact .refuse _

/-- What an emergency call does to a call in its way suits it, and is no hold. -/
theorem clearAway?_fits {c : Call} {a : Action} (hc : c ∈ calls) (h : clearAway? c = some a) :
    a.holds = false ∧ a.Fits calls := by
  unfold clearAway? at h
  split at h
  · rename_i hs
    cases h
    exact ⟨rfl, fits_hangUp hc hs⟩
  · split at h
    · rename_i hs
      cases h
      exact ⟨rfl, c, hc, rfl, hs⟩
    · cases h

theorem proper_onEmergencyDial (calls : List Call) : (onEmergencyDial calls).Proper calls := by
  unfold onEmergencyDial
  split
  · exact .refuse _
  · refine .answer fun a ha => ?_
    obtain ⟨c, hc, hclear⟩ := List.mem_filterMap.mp ha
    exact clearAway?_fits hc hclear

theorem proper_onDial (calls : List Call) : (p.onDial calls).Proper calls := by
  unfold onDial
  split
  · exact .of_nil
  split
  · exact .refuse _
  split
  · exact .refuse _
  split
  · exact .refuse _
  split
  · split
    · rename_i ha
      exact .hold (by simp) (beq_iff_eq.mp ha)
    · split
      · exact .of_nil
      · exact .refuse _
  · exact .refuse _

/-- Whatever the request, the outcome is proper beside the calls that count. -/
theorem evaluate_proper (p : Policy) (request : Request) (calls : List Call) :
    (p.evaluate request calls).Proper (others request calls) := by
  unfold evaluate
  dsimp only
  split
  · exact proper_onIncoming _ _
  · exact proper_onAnswer _ _
  · exact proper_onEmergencyDial _
  · exact proper_onDial _

/-! ## Who is told to wait -/

theorem answerBeside_ne_queue {anchor other : Call} {o : Outcome}
    (h : answerBeside anchor other = some o) : o.decision ≠ .queueAsWaiting := by
  unfold answerBeside at h
  repeat' split at h
  all_goals cases h <;> nofun

theorem onAnswer_ne_queue (video : VideoState) (calls : List Call) :
    (onAnswer video calls).decision ≠ .queueAsWaiting := by
  have getD {o : Option Outcome} {reason : Refusal}
      (h : ∀ o', o = some o' → o'.decision ≠ .queueAsWaiting) :
      (o.getD (.refuse reason)).decision ≠ .queueAsWaiting := by
    cases o with
    | none => nofun
    | some o => exact h o rfl
  unfold onAnswer
  split
  · nofun
  split
  · nofun
  · split
    · nofun
    · split <;> nofun
  · split
    · nofun
    · split
      · nofun
      · dsimp only
        split <;> exact getD fun _ => answerBeside_ne_queue
  · nofun

/-- Only a call that arrives can be told to wait. -/
theorem evaluate_queued (h : (p.evaluate request calls).decision = .queueAsWaiting) :
    request.kind = .incoming := by
  unfold evaluate at h
  dsimp only at h
  split at h
  case h_1 hk => exact hk
  case h_2 => exact absurd h (onAnswer_ne_queue _ _)
  case h_3 => exact absurd h onEmergencyDial_ne_queue
  case h_4 => exact absurd h onDial_ne_queue

/-- **Outcomes are well formed.** Beside calls with different numbers, a policy asks for actions on
different calls that count, each in a state that the action is meant for; it holds one call, and
that last, exactly where the decision is to hold; and it asks for nothing where the request has to
wait or is refused, which it gives a reason for. -/
theorem evaluate_wellFormed (p : Policy) (request : Request) {calls : List Call}
    (hids : (calls.map (·.id)).Nodup) : (p.evaluate request calls).WellFormed request calls := by
  have hproper := p.evaluate_proper request calls
  have htargets := p.evaluate_targets request calls
  refine ⟨?_, fun a ha => ?_, hproper.autoHold_iff, hproper.hold_last, evaluate_queued,
    hproper.idle, hproper.reason_iff⟩
  · exact (htargets.of_sublist List.filter_sublist).nodup hids
  · obtain ⟨c, hc, hid, hs⟩ := hproper.fits a ha
    obtain ⟨hmem, hlive, hother⟩ := mem_others.mp hc
    exact ⟨c, hmem, hid, hlive, hother, hs⟩

/-- A call is answered beside one that is active, one that is being dialed, and one that has ended.
-/
theorem evaluate_wellFormed_dialing :
    let active := Call.fresh 1 0 .cs .active .outgoing "100"
    let gone := Call.fresh 2 0 .cs .disconnected .outgoing "101"
    let ringing := Call.fresh 3 0 .cs .waiting .incoming "102"
    let dialing := Call.fresh 4 0 .ims .dialing .outgoing "103"
    let calls := [active, gone, ringing, dialing]
    let o := (Policy.mk true 6).evaluate (.answer ringing .voice) calls
    (calls.map (·.id)).Nodup ∧ o = .autoHold [.hangUp 4, .hold 1] ∧
      o.WellFormed (.answer ringing .voice) calls := by
  intro active gone ringing dialing calls o
  have hids : (calls.map (·.id)).Nodup := by decide
  exact ⟨hids, by decide, evaluate_wellFormed _ _ hids⟩

end Policy

end Switchboard.Admission
