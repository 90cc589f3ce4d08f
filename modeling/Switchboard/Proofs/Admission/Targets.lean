import Mathlib.Data.List.Perm.Subperm
import Switchboard.Proofs.Admission.Actions

/-!
# The calls that actions are done to

The actions of an outcome are done to different calls, and all of them are among the calls at hand
that are not the call that asks (`Policy.evaluate_targets`). So an action never meets a call that an
action before it took away, and nothing is done to a call that is answered
(`Policy.evaluate_answer_spares`).
-/

namespace Switchboard.Admission

/-- Each action of an outcome is done to another one of the calls. -/
def Outcome.Targets (o : Outcome) (calls : List Call) : Prop :=
  (o.actions.map (·.target)).Subperm (calls.map (·.id))

namespace Outcome

variable {calls calls' : List Call} {o : Outcome}

theorem Targets.of_nil (h : o.actions = []) : o.Targets calls := by
  rw [Targets, h]
  exact List.nil_subperm

theorem Targets.of_sublist (h : o.Targets calls) (hsub : calls.Sublist calls') :
    o.Targets calls' := h.trans (hsub.map _).subperm

theorem Targets.of_perm (h : o.Targets calls) (hperm : calls.Perm calls') : o.Targets calls' :=
  h.trans (hperm.map _).subperm

/-- An action that is done to one call. -/
theorem targets_singleton {a : Action} {c : Call} (ho : o.actions = [a]) (ht : a.target = c.id)
    (hc : c ∈ calls) : o.Targets calls := by
  rw [Targets, ho, List.map_singleton, List.singleton_subperm_iff, ht]
  exact List.mem_map_of_mem hc

/-- An action is done to one of the calls. -/
theorem Targets.exists_mem (h : o.Targets calls) {a : Action} (ha : a ∈ o.actions) :
    ∃ c ∈ calls, c.id = a.target :=
  List.mem_map.mp (h.subset (List.mem_map_of_mem ha))

/-- No two actions are done to the same call, where calls have different numbers. -/
theorem Targets.nodup (h : o.Targets calls) (hids : (calls.map (·.id)).Nodup) :
    (o.actions.map (·.target)).Nodup := by
  obtain ⟨ids, hperm, hsub⟩ := h
  exact hperm.nodup_iff.mp (hids.sublist hsub)

end Outcome

namespace Policy

variable {calls : List Call} {p : Policy}

theorem targets_endConversations (calls : List Call) :
    (endConversations calls).Targets calls := by
  refine List.Sublist.subperm ?_
  show ((List.map _ (calls.filter _)).map _).Sublist _
  rw [List.map_map]
  exact List.filter_sublist.map _

/-- A held call and an active one are the two calls at hand. -/
theorem heldAndActive?_perm {first second held active : Call}
    (h : heldAndActive? first second = some (held, active)) :
    [held, active].Perm [first, second] := by
  unfold heldAndActive? at h
  split at h
  · cases h
    exact .refl _
  · cases h
    exact .swap _ _ _
  · cases h

theorem targets_heldAndActive {first second held active : Call}
    (h : heldAndActive? first second = some (held, active)) :
    (Outcome.autoHold [.hangUp held.id, .hold active.id]).Targets [first, second] := by
  have ho : (Outcome.autoHold [.hangUp held.id, .hold active.id]).Targets [held, active] :=
    List.Subperm.refl [held.id, active.id]
  exact ho.of_perm (heldAndActive?_perm h)

/-- Answering beside two calls: what is done to the anchor and the other. -/
theorem targets_answerBeside {anchor other : Call} {o : Outcome}
    (h : answerBeside anchor other = some o) : o.Targets [anchor, other] := by
  unfold answerBeside at h
  split at h
  · split at h
    · cases h
      exact Outcome.targets_singleton rfl rfl (by simp)
    · split at h
      · cases h
        exact .of_nil rfl
      · cases h
  · split at h
    · cases h
      have ho : (Outcome.autoHold [.hangUp other.id, .hold anchor.id]).Targets [other, anchor] :=
        List.Subperm.refl [other.id, anchor.id]
      exact ho.of_perm (.swap _ _ _)
    · split at h
      · cases h
        exact Outcome.targets_singleton rfl rfl (by simp)
      · cases h
  · cases h

/-- A refusal in place of no outcome does nothing to any call. -/
theorem targets_getD {o : Option Outcome} {r : Refusal}
    (h : ∀ o', o = some o' → o'.Targets calls) : (o.getD (.refuse r)).Targets calls := by
  cases o with
  | none => exact .of_nil rfl
  | some o => exact h o rfl

/-- An answer acts only on calls beside it, on each at most once. -/
theorem targets_onAnswer (video : VideoState) (calls : List Call) :
    (onAnswer video calls).Targets calls := by
  unfold onAnswer
  split
  · exact targets_endConversations calls
  split
  · exact .of_nil rfl
  · split
    · exact Outcome.targets_singleton rfl rfl (by simp)
    · split
      · exact Outcome.targets_singleton rfl rfl (by simp)
      · exact .of_nil rfl
  · rename_i first second _
    split
    · rename_i hpair
      exact targets_heldAndActive hpair
    · split
      · exact .of_nil rfl
      · dsimp only
        split
        · exact targets_getD fun _ => targets_answerBeside
        · exact targets_getD fun _ ho => (targets_answerBeside ho).of_perm (.swap _ _ _)
  · exact .of_nil rfl

/-- An arrival acts only on calls beside it, on each at most once. -/
theorem targets_onIncoming (slot : SlotId) (calls : List Call) :
    (p.onIncoming slot calls).Targets calls := by
  unfold onIncoming
  split
  · exact .of_nil rfl
  split
  · exact .of_nil rfl
  · split
    · exact Outcome.targets_singleton rfl rfl (by simp)
    · split <;> exact .of_nil rfl
  · split
    · rename_i hpair
      split
      · exact targets_heldAndActive hpair
      · exact .of_nil rfl
    · dsimp only
      split
      · exact .of_nil rfl
      · split <;> exact .of_nil rfl
  · exact .of_nil rfl

/-- An emergency call clears a call away by an action on that call. -/
theorem clearAway?_target {c : Call} {a : Action} (h : clearAway? c = some a) :
    a.target = c.id := by
  unfold clearAway? at h
  split at h
  · cases h
    rfl
  · split at h
    · cases h
      rfl
    · cases h

/-- Calls are cleared away in their order, with at most one action for each. -/
theorem clearAway_sublist (calls : List Call) :
    ((calls.filterMap clearAway?).map (·.target)).Sublist (calls.map (·.id)) := by
  induction calls with
  | nil => exact .slnil
  | cons c rest ih =>
    cases hc : clearAway? c with
    | none =>
      rw [List.filterMap_cons_none hc]
      exact ih.cons c.id
    | some a =>
      rw [List.filterMap_cons_some hc, List.map_cons, clearAway?_target hc]
      exact ih.cons_cons c.id

theorem targets_onEmergencyDial (calls : List Call) : (onEmergencyDial calls).Targets calls := by
  unfold onEmergencyDial
  split
  · exact .of_nil rfl
  · exact (clearAway_sublist calls).subperm

/-- A dialed call acts only on calls beside it, on each at most once. -/
theorem targets_onDial (calls : List Call) : (p.onDial calls).Targets calls := by
  unfold onDial
  split
  · exact .of_nil rfl
  repeat' split
  all_goals first | exact .of_nil rfl | exact Outcome.targets_singleton rfl rfl (by simp)

/-- The actions of an outcome are done to different calls that count. -/
theorem evaluate_targets (p : Policy) (request : Request) (calls : List Call) :
    (p.evaluate request calls).Targets (others request calls) := by
  unfold evaluate
  dsimp only
  split
  · exact targets_onIncoming _ _
  · exact targets_onAnswer _ _
  · exact targets_onEmergencyDial _
  · exact targets_onDial _

/-- Answering a call does nothing to the call itself. -/
theorem evaluate_answer_spares (p : Policy) (calls : List Call) (c : Call) (media : VideoState) :
    ∀ a ∈ (p.evaluate (.answer c media) calls).actions, a.target ≠ c.id := by
  intro a ha hid
  obtain ⟨x, hx, hxid⟩ := (p.evaluate_targets (.answer c media) calls).exists_mem ha
  have hne := (List.mem_filter.mp hx).2
  simp [Request.answer, hxid, hid] at hne

end Policy

end Switchboard.Admission
