import Switchboard.Proofs.Admission.Clearing
import Switchboard.Proofs.Admission.Targets

/-!
# The places that admission fills

A call is live until it is on its way out. No action that admission asks for makes more calls live
(`liveAmong_applyAll_le`), and once the actions are done,

* a dialed call finds at most one live call beside it, and that one only where the configuration has
  room for two (`evaluate_dial_leaves`);
* a call that arrives finds at most two (`evaluate_incoming_leaves`). Whether the configuration has
  room for it is not asked.
-/

namespace Switchboard

/-- How many of some calls are live. -/
def liveAmong (calls : List Call) : Nat := calls.countP fun c => !c.state.isTerminal

theorem Registry.liveCount_eq (r : Registry) : r.liveCount = liveAmong r.calls := rfl

/-- There are no more live calls than there were if each of them was live before. -/
theorem liveAmong_le {calls calls' : List Call} (hids : (calls'.map (·.id)).Nodup)
    (h : ∀ x ∈ calls', x.state.isTerminal = false →
      ∃ c ∈ calls, c.id = x.id ∧ c.state.isTerminal = false) :
    liveAmong calls' ≤ liveAmong calls := by
  let live (calls : List Call) : List CallId :=
    (calls.filter fun c => !c.state.isTerminal).map (·.id)
  have hlength (calls : List Call) : liveAmong calls = (live calls).length := by
    rw [List.length_map, liveAmong, List.countP_eq_length_filter]
  have hsub : live calls' ⊆ live calls := by
    intro id hid
    obtain ⟨x, hx, rfl⟩ := List.mem_map.mp hid
    obtain ⟨hx, hlive⟩ := List.mem_filter.mp hx
    obtain ⟨c, hc, hcid, hclive⟩ := h x hx (by simpa using hlive)
    exact List.mem_map.mpr ⟨c, List.mem_filter.mpr ⟨hc, by simpa using hclive⟩, hcid⟩
  rw [hlength, hlength]
  exact (List.subperm_of_subset (hids.sublist (List.filter_sublist.map _)) hsub).length_le

theorem liveAmong_of_states {calls calls' : List Call}
    (h : calls'.map (·.state) = calls.map (·.state)) : liveAmong calls' = liveAmong calls := by
  have hmap (calls : List Call) :
      liveAmong calls = (calls.map (·.state)).countP fun s => !s.isTerminal := by
    rw [List.countP_map]
    rfl
  rw [hmap, h, hmap]

theorem liveAmong_place_le (c : Call) (calls : List Call) :
    liveAmong (Registry.place c calls) ≤ liveAmong calls + 1 := by
  obtain ⟨before, after, rfl, hp⟩ := Registry.place_split c calls
  have hone : liveAmong [c] ≤ 1 := List.countP_le_length
  rw [hp]
  unfold liveAmong at *
  simp only [List.countP_append]
  omega

namespace Admission.Policy

variable {p : Policy} {request : Request} {calls : List Call}

theorem length_others (hr : request.call = none) :
    (others request calls).length = liveAmong calls := by
  have hf : (fun c : Call => !c.state.isTerminal && some c.id != request.call) =
      fun c => !c.state.isTerminal := by
    funext c
    rw [hr, show (some c.id != none) = true from rfl, Bool.and_true]
  rw [liveAmong, List.countP_eq_length_filter, others, hf]

/-- What is live after actions was live before: no action is done to a call on its way out. -/
theorem liveAmong_applyAll_le (p : Policy) (request : Request) (hids : (calls.map (·.id)).Nodup)
    {done : List Action} (hdone : done ⊆ (p.evaluate request calls).actions) :
    liveAmong (applyAll done calls) ≤ liveAmong calls := by
  refine liveAmong_le (hids.sublist (ids_applyAll_sublist done calls)) fun x hx hlive => ?_
  rcases mem_applyAll hx with ⟨hx, -⟩ | ⟨-, hheld⟩
  · exact ⟨x, hx, rfl, hlive⟩
  · obtain ⟨c, hc, hid⟩ := (p.evaluate_targets request calls).exists_mem (hdone hheld)
    obtain ⟨hc, hclive, -⟩ := mem_others.mp hc
    exact ⟨c, hc, hid, hclive⟩

theorem onEmergencyDial_ne_queue : (onEmergencyDial calls).decision ≠ .queueAsWaiting := by
  unfold onEmergencyDial
  split <;> nofun

theorem onDial_ne_queue : (p.onDial calls).decision ≠ .queueAsWaiting := by
  unfold onDial
  repeat' split
  all_goals nofun

/-- A dialed call never waits: it is refused, or it goes ahead. -/
theorem evaluate_dial_admits {emergency : Bool} (hk : request.kind = .dial emergency)
    (hr : (p.evaluate request calls).isRejected = false) : (p.evaluate request calls).Admits := by
  have hq : (p.evaluate request calls).decision ≠ .queueAsWaiting := by
    unfold evaluate
    rw [hk]
    cases emergency with
    | true => exact onEmergencyDial_ne_queue
    | false => exact onDial_ne_queue
  unfold Outcome.isRejected at hr
  cases hd : (p.evaluate request calls).decision with
  | answer => exact .inl hd
  | autoHold => exact .inr hd
  | reject =>
    rw [hd] at hr
    cases hr
  | queueAsWaiting => exact absurd hd hq

/-- An ordinary call is dialed while there is nothing else, or while there is room for another. -/
theorem onDial_room (hr : (p.onDial calls).isRejected = false) :
    calls = [] ∨ calls.length < p.maxCalls := by
  unfold onDial at hr
  split at hr
  · exact .inl (List.isEmpty_iff.mp ‹_›)
  split at hr
  · cases hr
  split at hr
  · cases hr
  split at hr
  · cases hr
  · exact .inr (Nat.lt_of_not_le ‹_›)

/-- Once the actions are done, a dialed call finds at most one live call beside it, and that one
only where the configuration has room for two. -/
theorem evaluate_dial_leaves {emergency : Bool} (hk : request.kind = .dial emergency)
    (hn : request.call = none) (hids : (calls.map (·.id)).Nodup)
    (hr : (p.evaluate request calls).isRejected = false) :
    liveAmong (applyAll (p.evaluate request calls).actions calls) = 0 ∨
      liveAmong (applyAll (p.evaluate request calls).actions calls) = 1 ∧ 2 ≤ p.maxCalls := by
  have hd := evaluate_dial_admits hk hr
  have hle := p.liveAmong_applyAll_le request hids (List.Subset.refl _)
  rw [← length_others hn] at *
  cases emergency with
  | true =>
    rw [evaluate_emergency_clears hk hd]
    exact .inl rfl
  | false =>
    rcases evaluate_dial_clears hk hids hd with hnil | ⟨c, hone, -⟩
    · rw [hnil]
      exact .inl rfl
    · have hroom : others request calls = [] ∨ (others request calls).length < p.maxCalls := by
        unfold evaluate at hr
        rw [hk] at hr
        exact onDial_room hr
      rw [hone, ← length_others hn] at hle
      rw [hone]
      rcases hroom with hnil | hroom
      · rw [hnil] at hle
        cases hle
      · exact .inr ⟨rfl, Nat.succ_le_of_lt (Nat.lt_of_le_of_lt hle hroom)⟩

theorem length_onIncoming {slot : SlotId} (hr : (p.onIncoming slot calls).isRejected = false) :
    calls.length ≤ 2 := by
  unfold onIncoming at hr
  split at hr
  · cases hr
  match calls with
  | [] | [_] | [_, _] => simp
  | _ :: _ :: _ :: _ => cases hr

/-- A call that arrives finds at most two live calls beside it. -/
theorem evaluate_incoming_leaves (hk : request.kind = .incoming) (hn : request.call = none)
    (hids : (calls.map (·.id)).Nodup) (hr : (p.evaluate request calls).isRejected = false) :
    liveAmong (applyAll (p.evaluate request calls).actions calls) ≤ 2 := by
  refine Nat.le_trans (p.liveAmong_applyAll_le request hids (List.Subset.refl _)) ?_
  rw [← length_others hn]
  unfold evaluate at hr
  rw [hk] at hr
  exact length_onIncoming hr

end Admission.Policy

end Switchboard
