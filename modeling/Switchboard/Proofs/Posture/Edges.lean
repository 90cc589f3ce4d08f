import Switchboard.Proofs.Posture.Follows
import Switchboard.Proofs.Registry.Table

/-!
# Edges are neither lost nor invented

The signals of one call's move are found from the calls as they are after it and the two states of
the call alone. Still they are just the signals of the classes that have come to have their first
call, and after them those of the classes that have lost their last one (`edges_exact`).

* `AgreeApart`: two lists hold the same calls, apart from one. That call may have come, gone or
  changed; `stateOf?` is its state on either side.
* `Rises`, `Falls`: the calls in some states come to be one, or cease to be.
* `crossings`: the signals of the classes that rise, and then of those that fall.
* `Registry.edges_insert`, `Registry.edges_setState`, `Registry.edges_remove`: so it is for what the
  registry does to a call.
-/

namespace Switchboard

/-! ## Classes that rise and fall -/

/-- The calls in some states have risen from none to one. -/
def Rises (states : List CallState) (before after : List Call) : Prop :=
  before.countP (·.state ∈ states) = 0 ∧ after.countP (·.state ∈ states) = 1

/-- The calls in some states have fallen from one to none. -/
def Falls (states : List CallState) (before after : List Call) : Prop :=
  before.countP (·.state ∈ states) = 1 ∧ after.countP (·.state ∈ states) = 0

instance (states : List CallState) (before after : List Call) :
    Decidable (Rises states before after) := by unfold Rises; infer_instance

instance (states : List CallState) (before after : List Call) :
    Decidable (Falls states before after) := by unfold Falls; infer_instance

/-- The signals of the classes that rise, and then of the classes that fall. -/
def crossings (before after : List Call) (bearer : Bearer) : List Signal :=
  [if Rises [.dialing] before after then [.newDialing] else [],
    if Rises [.alerting] before after then [.newAlerting] else [],
    if Rises [.incoming, .waiting] before after then [.newIncoming] else [],
    if Rises [.active] before after then
      [if bearer = .ims then .newActiveIms else .newActiveCs] else [],
    if Falls [.dialing] before after then [.noMoreDialing] else [],
    if Falls [.alerting] before after then [.noMoreAlerting] else [],
    if Falls [.incoming, .waiting] before after then [.noMoreIncoming] else [],
    if Falls [.active] before after then [.noMoreActive] else []].flatten

namespace CallClass

/-- Every class. -/
def all : List CallClass := [.dialing, .alerting, .ringing, .active]

/-- The states of a class. -/
def states : CallClass → List CallState
  | .dialing => [.dialing]
  | .alerting => [.alerting]
  | .ringing => [.incoming, .waiting]
  | .active => [.active]

theorem of?_eq_some_iff (k : CallClass) (s : CallState) : of? s = some k ↔ s ∈ k.states := by
  cases k <;> cases s <;> decide

/-- A class counts the calls in its states. -/
theorem count_eq_countP (k : CallClass) (calls : List Call) :
    k.count calls = calls.countP (·.state ∈ k.states) := by
  refine List.countP_congr fun c _ => ?_
  rw [beq_iff_eq, decide_eq_true_iff, of?_eq_some_iff]

end CallClass

section

variable {before after : List Call} {prior next : Option CallClass}

theorem rises_states_iff (k : CallClass) :
    Rises k.states before after ↔ k.count before = 0 ∧ k.count after = 1 := by
  rw [k.count_eq_countP, k.count_eq_countP]
  rfl

theorem falls_states_iff (k : CallClass) :
    Falls k.states before after ↔ k.count before = 1 ∧ k.count after = 0 := by
  rw [k.count_eq_countP, k.count_eq_countP]
  rfl

/-- The crossings, class by class. -/
theorem crossings_eq (before after : List Call) (b : Bearer) :
    crossings before after b =
      (CallClass.all.flatMap fun k =>
        if Rises k.states before after then [k.firstSignal b] else []) ++
      CallClass.all.flatMap fun k =>
        if Falls k.states before after then [k.lastSignal] else [] := by
  simp only [crossings, CallClass.all, List.flatten_cons, List.flatten_nil, List.flatMap_cons,
    List.flatMap_nil, List.append_nil, List.append_assoc]
  rfl

/-- Only the class that the call has gone to can rise, and does so if the call is alone there. -/
theorem rises_iff (hm : (Tally.ofCalls before).Moves (.ofCalls after) prior next)
    (hne : prior ≠ next) (k : CallClass) :
    Rises k.states before after ↔ next = some k ∧ k.count after = 1 := by
  rw [rises_states_iff, ← Tally.count_ofCalls, ← Tally.count_ofCalls]
  constructor
  · rintro ⟨hzero, hone⟩
    refine ⟨?_, hone⟩
    -- A class that the call has not gone to stays empty.
    by_contra hn
    rw [hm.eq_zero k hzero hn] at hone
    cases hone
  · rintro ⟨hn, hone⟩
    have hk := hm k
    rw [if_pos hn, if_neg (hn ▸ hne)] at hk
    exact ⟨by omega, hone⟩

/-- Only the class that the call has left can fall, and does so if no call is left there. -/
theorem falls_iff (hm : (Tally.ofCalls before).Moves (.ofCalls after) prior next)
    (hne : prior ≠ next) (k : CallClass) :
    Falls k.states before after ↔ prior = some k ∧ k.count after = 0 := by
  rw [falls_states_iff, ← Tally.count_ofCalls, ← Tally.count_ofCalls]
  constructor
  · rintro ⟨hone, hzero⟩
    exact ⟨hm.prior_eq k (by omega) hzero, hzero⟩
  · rintro ⟨hp, hzero⟩
    have hk := hm k
    rw [if_pos hp, if_neg fun hn => hne (hp.trans hn.symm)] at hk
    exact ⟨by omega, hzero⟩

/-- In a move within a class none rises or falls. -/
theorem crossings_within (hm : (Tally.ofCalls before).Moves (.ofCalls after) prior prior)
    (b : Bearer) : crossings before after b = [] := by
  have hk (k : CallClass) : k.count before = k.count after := by
    have := hm.count_eq k
    rwa [Tally.count_ofCalls, Tally.count_ofCalls] at this
  have hrises (k : CallClass) : ¬Rises k.states before after := by
    rw [rises_states_iff, hk]
    omega
  have hfalls (k : CallClass) : ¬Falls k.states before after := by
    rw [falls_states_iff, hk]
    omega
  rw [crossings_eq]
  simp [hrises, hfalls]

/-- Among all classes a given one is found just once. -/
theorem CallClass.flatMap_all (o : Option CallClass) (p : CallClass → Prop) [DecidablePred p]
    (f : CallClass → Signal) :
    (CallClass.all.flatMap fun k => if o = some k ∧ p k then [f k] else []) =
      match o with
      | some k => if p k then [f k] else []
      | none => [] := by
  rcases o with _ | _ | _ | _ | _ <;> simp [CallClass.all]

/-- The signals of a move are those of the classes that rise and fall. -/
theorem edges_of_moves {prior next : Option CallState}
    (hm : (Tally.ofCalls before).Moves (.ofCalls after) (prior.bind CallClass.of?)
      (next.bind CallClass.of?)) (b : Bearer) :
    edges after b prior next = crossings before after b := by
  unfold edges
  dsimp only
  split
  · rename_i he
    rw [he] at hm
    exact (crossings_within hm b).symm
  · rename_i hne
    rw [crossings_eq]
    simp only [rises_iff hm hne, falls_iff hm hne]
    have hfirst := CallClass.flatMap_all (next.bind CallClass.of?) (fun k => k.count after = 1)
      (·.firstSignal b)
    have hlast := CallClass.flatMap_all (prior.bind CallClass.of?) (fun k => k.count after = 0)
      (·.lastSignal)
    exact (congrArg₂ (· ++ ·) hfirst hlast).symm

end

/-! ## Lists that agree apart from one call -/

/-- The two lists hold the same calls, apart from the call `id`. -/
def AgreeApart (id : CallId) (before after : List Call) : Prop :=
  ∀ c, c.id ≠ id → (c ∈ before ↔ c ∈ after)

/-- The state of the call `id`; none if it is not among the calls. -/
def stateOf? (id : CallId) (calls : List Call) : Option CallState :=
  (calls.find? (·.id == id)).map (·.state)

section

variable {id : CallId} {calls before after : List Call}

theorem AgreeApart.symm (h : AgreeApart id before after) : AgreeApart id after before :=
  fun c hc => (h c hc).symm

theorem AgreeApart.trans {later : List Call} (h : AgreeApart id before after)
    (h' : AgreeApart id after later) : AgreeApart id before later :=
  fun c hc => (h c hc).trans (h' c hc)

/-- Of calls with different numbers one may be put in front. -/
theorem perm_find_filter (hn : (calls.map (·.id)).Nodup) (id : CallId) :
    calls.Perm ((calls.find? (·.id == id)).toList ++ calls.filter (·.id != id)) := by
  induction calls with
  | nil => exact .nil
  | cons c rest ih =>
    obtain ⟨hc, hrest⟩ := List.nodup_cons.mp hn
    by_cases hid : c.id = id
    · have hothers : rest.filter (·.id != id) = rest := by
        refine List.filter_eq_self.mpr fun d hd => bne_iff_ne.mpr fun hdid => hc ?_
        exact List.mem_map.mpr ⟨d, hd, hdid.trans hid.symm⟩
      simp [hid, hothers]
    · simp only [List.find?_cons, List.filter_cons, beq_eq_false_iff_ne.mpr hid,
        bne_iff_ne.mpr hid, if_true]
      exact ((ih hrest).cons c).trans List.perm_middle.symm

/-- The calls that the lists agree on are the same, in whatever order. -/
theorem AgreeApart.perm_others (h : AgreeApart id before after)
    (hb : (before.map (·.id)).Nodup) (ha : (after.map (·.id)).Nodup) :
    (before.filter (·.id != id)).Perm (after.filter (·.id != id)) := by
  refine (List.perm_ext_iff_of_nodup (hb.of_map.filter _) (ha.of_map.filter _)).mpr fun c => ?_
  simp only [List.mem_filter, bne_iff_ne]
  exact and_congr_left fun hid => h c hid

/-- The counts before a move can be told from those after it and the call's two states. -/
theorem AgreeApart.moves (h : AgreeApart id before after) (hb : (before.map (·.id)).Nodup)
    (ha : (after.map (·.id)).Nodup) :
    (Tally.ofCalls before).Moves (.ofCalls after) ((stateOf? id before).bind CallClass.of?)
      ((stateOf? id after).bind CallClass.of?) := by
  have hbefore := (perm_find_filter hb id).trans ((h.perm_others hb ha).append_left _)
  have hafter := perm_find_filter ha id
  intro k
  have hk := Tally.moves_of_replaced [] (after.filter (·.id != id))
    (before.find? (·.id == id)) (after.find? (·.id == id)) k
  rw [Tally.count_ofCalls, Tally.count_ofCalls] at hk ⊢
  unfold CallClass.count at hk ⊢
  rw [hbefore.countP_eq, hafter.countP_eq]
  exact hk

/-- **Edges are neither lost nor invented.** Let the calls before and after a move have different
numbers and be the same apart from one, which has come, gone or changed in whatever way. From the
calls after the move and the states of that one call, `edges` gives the signal of the first call of
each class whose calls have risen from none to one, then the signal of the last call of each class
whose calls have fallen from one to none, and nothing else. Incoming and waiting calls are one
class. -/
theorem edges_exact (hb : (before.map (·.id)).Nodup) (ha : (after.map (·.id)).Nodup)
    (h : AgreeApart id before after) (b : Bearer) :
    edges after b (stateOf? id before) (stateOf? id after) =
      [if Rises [.dialing] before after then [.newDialing] else [],
        if Rises [.alerting] before after then [.newAlerting] else [],
        if Rises [.incoming, .waiting] before after then [.newIncoming] else [],
        if Rises [.active] before after then
          [if b = .ims then .newActiveIms else .newActiveCs] else [],
        if Falls [.dialing] before after then [.noMoreDialing] else [],
        if Falls [.alerting] before after then [.noMoreAlerting] else [],
        if Falls [.incoming, .waiting] before after then [.noMoreIncoming] else [],
        if Falls [.active] before after then [.noMoreActive] else []].flatten := by
  have hm := h.moves hb ha
  exact edges_of_moves hm b

/-- Beside a call on hold, one is dialed, alerts, becomes active and ends, and another one waits and
is answered. -/
theorem edges_exact_every_class :
    let held := Call.fresh 1 0 .cs .holding .outgoing "1"
    let calls (b : Bearer) (state : CallState) := [Call.fresh 2 0 b state .incoming "2", held]
    (([held].map (·.id)).Nodup ∧ ((calls .cs .active).map (·.id)).Nodup) ∧
      AgreeApart 2 [held] (calls .cs .dialing) ∧
      AgreeApart 2 (calls .cs .dialing) (calls .cs .alerting) ∧
      AgreeApart 2 (calls .cs .active) [held] ∧
      edges (calls .cs .dialing) .cs none (some .dialing) = [.newDialing] ∧
      edges (calls .cs .alerting) .cs (some .dialing) (some .alerting) =
        [.newAlerting, .noMoreDialing] ∧
      edges (calls .cs .active) .cs (some .alerting) (some .active) =
        [.newActiveCs, .noMoreAlerting] ∧
      edges [held] .cs (some .active) none = [.noMoreActive] ∧
      edges (calls .ims .waiting) .ims none (some .waiting) = [.newIncoming] ∧
      edges (calls .ims .active) .ims (some .waiting) (some .active) =
        [.newActiveIms, .noMoreIncoming] := by
  intro held calls
  have hone : ([held].map (·.id)).Nodup := by decide
  have htwo (b : Bearer) (state : CallState) : ((calls b state).map (·.id)).Nodup := by
    simp [calls, held, Call.fresh]
  have hcomes (b : Bearer) (state : CallState) : AgreeApart 2 [held] (calls b state) := by
    intro c hc
    have hne : c ≠ Call.fresh 2 0 b state .incoming "2" := fun he => hc (he ▸ rfl)
    simp [calls, hne]
  have hmoves (b : Bearer) (prior next : CallState) :
      AgreeApart 2 (calls b prior) (calls b next) :=
    (hcomes b prior).symm.trans (hcomes b next)
  exact ⟨⟨hone, htwo _ _⟩, hcomes _ _, hmoves _ _ _, (hcomes _ _).symm,
    (edges_exact hone (htwo _ _) (hcomes _ _) .cs).trans (by decide),
    (edges_exact (htwo _ _) (htwo _ _) (hmoves _ .dialing _) .cs).trans (by decide),
    (edges_exact (htwo _ _) (htwo _ _) (hmoves _ .alerting _) .cs).trans (by decide),
    (edges_exact (htwo .cs .active) hone (hcomes _ _).symm .cs).trans (by decide),
    (edges_exact hone (htwo _ _) (hcomes _ _) .ims).trans (by decide),
    (edges_exact (htwo _ _) (htwo _ _) (hmoves _ .waiting _) .ims).trans (by decide)⟩

end

/-! ## The registry's moves -/

namespace Registry

variable {r r' : Registry} {c : Call} {id : CallId}

theorem agreeApart_insert (h : r.insert c = .ok r') : AgreeApart c.id r.calls r'.calls := by
  intro x hx
  rw [(insert_eq_ok h).1, mem_place]
  exact ⟨.inr, fun hc => hc.resolve_left fun he => hx (he ▸ rfl)⟩

theorem agreeApart_modify (r : Registry) (id : CallId) (f : Call → Call) :
    AgreeApart id r.calls (r.modify id f).calls := by
  intro x hx
  rw [modify_calls, mem_adjust]
  refine ⟨fun hr => .inl ⟨hr, hx⟩, ?_⟩
  rintro (⟨hr, -⟩ | ⟨c, -, rfl, rfl⟩)
  · exact hr
  · exact absurd rfl hx

theorem agreeApart_erase (r : Registry) (id : CallId) :
    AgreeApart id r.calls (r.erase id).calls := by
  intro x hx
  rw [mem_erase]
  exact ⟨fun hr => ⟨hr, hx⟩, And.left⟩

theorem edges_of_agreeApart (h : AgreeApart id r.calls r'.calls) (b : Bearer) :
    edges r'.calls b ((r.get? id).map (·.state)) ((r'.get? id).map (·.state)) =
      crossings r.calls r'.calls b :=
  edges_of_moves (h.moves r.nodup_ids r'.nodup_ids) b

/-- A call is registered. -/
theorem edges_insert (h : r.insert c = .ok r') (b : Bearer) :
    edges r'.calls b none (some c.state) = crossings r.calls r'.calls b := by
  have he := edges_of_agreeApart (agreeApart_insert h) b
  rwa [get?_of_absent (insert_eq_ok h).2.2, get?_insert_self h] at he

/-- A call is put into a state. -/
theorem edges_setState {prior state : CallState} (h : r.setState id state = .ok (prior, r'))
    (b : Bearer) : edges r'.calls b (some prior) (some state) = crossings r.calls r'.calls b := by
  rcases r.exists_or_absent id with ⟨c, hc, rfl⟩ | habsent
  · rw [setState_of_mem hc] at h
    cases h
    have he := edges_of_agreeApart (r.agreeApart_modify c.id ({ · with state })) b
    rwa [get?_of_mem hc, get?_modify_self hc] at he
  · rw [setState_of_absent habsent] at h
    cases h

/-- A call is taken out. -/
theorem edges_remove (h : r.remove id = some (c, r')) (b : Bearer) :
    edges r'.calls b (some c.state) none = crossings r.calls r'.calls b := by
  rcases r.exists_or_absent id with ⟨d, hd, rfl⟩ | habsent
  · rw [remove_of_mem hd] at h
    cases h
    have he := edges_of_agreeApart (r.agreeApart_erase c.id) b
    rwa [get?_of_mem hd, get?_erase_self] at he
  · rw [remove_of_absent habsent] at h
    cases h

end Registry

end Switchboard
