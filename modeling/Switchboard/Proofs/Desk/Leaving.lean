import Switchboard.Proofs.Desk.History
import Switchboard.Proofs.Desk.Sure

/-!
# Leaving a conference

A separation takes one member of a conference aside, and a kick-out drops one. Each is a few edits
after another; together they make every record into another one in a way that does not depend on the
other records (`ends_separate`, `ends_kickOut`), but for what the others are left in: it is the
conference that they were in if there are enough of them (`Desk.remainder`). The conference may have
any number of members, in any states (`leave_conference`).
-/

namespace Switchboard.Desk

open DeskM

variable {d d' : Desk} {c x : Call} {id main : CallId}

/-! ## Those that remain -/

/-- The other members of a conference. -/
def companions (d : Desk) (main id : CallId) : List Call :=
  (members d.registry main).filter (·.id != id)

/-- What the others are left in: a lone one is in no conference. -/
def remainder (d : Desk) (main id : CallId) : Option CallId :=
  if (d.companions main id).length = 1 then none else some main

theorem mem_companions : x ∈ d.companions main id ↔
    x ∈ d.registry.calls ∧ x.conference = some main ∧ x.id ≠ id := by
  simp [companions, mem_members, and_assoc]

/-- Who is in the conference after an edit of all records. -/
theorem length_members_map {g : Call → Call} (h : d'.registry.calls = d.registry.calls.map g)
    (hg : ∀ x ∈ d.registry.calls,
      (g x).conference = some main ↔ x.conference = some main ∧ x.id ≠ id) :
    (members d'.registry main).length = (d.companions main id).length := by
  unfold companions members
  rw [h, List.filter_map, List.length_map, List.filter_filter]
  congr 1
  refine List.filter_congr fun x hx => ?_
  rw [Bool.eq_iff_iff]
  simpa [and_comm] using hg x hx

/-! ## Separation -/

/-- A record, taken out of its conference if it is that of the call `id`. -/
def aside (id : CallId) (x : Call) : Call :=
  if x.id = id then { x with conference := none } else x

/-- What a separation of the call `id` makes of a record. -/
def separated (d : Desk) (main id : CallId) (x : Call) : Call :=
  if x.id = id then { x with state := .active, conference := none }
  else if x.conference = some main then
    { x with
      state := if x.state = .active then .holding else x.state
      conference := d.remainder main id }
  else x

theorem separated_self (d : Desk) (main : CallId) (h : x.id = id) :
    d.separated main id x = { x with state := .active, conference := none } := if_pos h

@[simp] theorem separated_id (d : Desk) (main id : CallId) (x : Call) :
    (d.separated main id x).id = x.id := by
  unfold separated
  split
  · rfl
  · split <;> rfl

theorem aside_id (id : CallId) (x : Call) : (aside id x).id = x.id := by
  unfold aside
  split <;> rfl

theorem aside_conference_iff : (aside id x).conference = some main ↔
    x.conference = some main ∧ x.id ≠ id := by
  unfold aside
  split <;> simp [*]

/-- Those that are held once the call is taken aside are the other active members. -/
theorem mem_held_iff (h : d'.registry.calls = d.registry.calls.map (aside id))
    (hx : x ∈ d.registry.calls) :
    x.id ∈ ((members d'.registry main).filter (·.state == .active)).map (·.id) ↔
      x.id ≠ id ∧ x.conference = some main ∧ x.state = .active := by
  simp only [List.mem_map, List.mem_filter, mem_members, h, beq_iff_eq]
  constructor
  · rintro ⟨_, ⟨⟨⟨y, hy, rfl⟩, hm⟩, hs⟩, hid⟩
    rw [aside_id] at hid
    obtain rfl := Registry.eq_of_id_eq hy hx hid
    obtain ⟨hm, hne⟩ := aside_conference_iff.mp hm
    rw [aside, if_neg hne] at hs
    exact ⟨hne, hm, hs⟩
  · rintro ⟨hne, hm, hs⟩
    have ha : aside id x = x := if_neg hne
    exact ⟨x, ⟨⟨⟨x, hx, ha⟩, hm⟩, hs⟩, rfl⟩

/-- The others are as the separation makes them before the call itself is made active. -/
theorem leftIn_held_aside {held : List CallId}
    (hheld : x.id ∈ held ↔ x.id ≠ id ∧ x.conference = some main ∧ x.state = .active) :
    leftIn main (d.remainder main id) (putAmong held .holding (aside id x)) =
      if x.id = id then { x with conference := none } else d.separated main id x := by
  by_cases hid : x.id = id
  · have hn : ({ x with conference := none } : Call).id ∉ held := fun hh => (hheld.mp hh).1 hid
    rw [if_pos hid, aside, if_pos hid, putAmong_of_not_mem hn, leftIn_of_ne (by simp)]
  · rw [if_neg hid, aside, if_neg hid, separated, if_neg hid]
    by_cases hm : x.conference = some main
    · rw [if_pos hm, leftIn_of_eq (by simpa using hm)]
      by_cases hs : x.state = .active
      · rw [putAmong_of_mem (hheld.mpr ⟨hid, hm, hs⟩), if_pos hs]
      · rw [putAmong_of_not_mem fun hh => hs (hheld.mp hh).2.2, if_neg hs]
    · rw [if_neg hm, putAmong_of_not_mem fun hh => hm (hheld.mp hh).2.1, leftIn_of_ne hm]

/-- Once the call is taken aside, the rest of the conference is held, and left in what it is left
in. -/
theorem ends_holdRest {d₁ : Desk} (h : d₁.registry.calls = d.registry.calls.map (aside id))
    {y : DeskM Unit} {Q : Unit → Desk → Prop} {E : CallError → Desk → Prop}
    (hy : ∀ d', d'.registry.calls = d.registry.calls.map (fun x =>
      if x.id = id then { x with conference := none } else d.separated main id x) → y.Ends d' Q E) :
    (do
      setStates .holding ((members d₁.registry main).filter (·.state == .active))
      dissolveIfSingle main
      y : DeskM Unit).Ends d₁ Q E := by
  have hpresent : ∀ p ∈ (members d₁.registry main).filter (·.state == .active), p.id ∈ d₁.ids :=
    fun p hp => id_mem_ids (mem_members.mp (List.mem_filter.mp hp).1).1
  refine (setStates_puts .holding hpresent).ends_bind fun _ d₂ h₂ => ?_
  refine (dissolveIfSingle_leaves main d₂).ends_bind fun _ d₃ h₃ => hy d₃ ?_
  rw [h, List.map_map] at h₂
  have hlength : (members d₂.registry main).length = (d.companions main id).length :=
    length_members_map h₂ fun x _ => by simp [aside_conference_iff]
  rw [hlength, h₂, List.map_map] at h₃
  exact h₃.trans (List.map_congr_left fun x hx => leftIn_held_aside (mem_held_iff h hx))

/-- A separation that goes through makes every record into what is said of it. -/
theorem ends_separate (hc : c ∈ d.registry.calls) (hm : c.conference = some main) :
    (separate c.id).Ends d
      (fun _ d' => d'.registry.calls = d.registry.calls.map (d.separated main c.id))
      fun _ _ => True := by
  refine (ends_bind _).mpr (ends_member (fun c' hc' main' hid hm' => ?_) fun _ _ => trivial)
  obtain rfl := Registry.eq_of_id_eq hc' hc hid
  obtain rfl := Option.some.inj (hm'.symm.trans hm)
  refine (ends_bind _).mpr (ends_telephone ?_ trivial)
  have ht : (d.telephoned (.separate c')).registry = d.registry := registry_telephoned d _
  have hct : c' ∈ (d.telephoned (.separate c')).registry.calls := by rwa [ht]
  refine (ends_bind _).mpr (ends_discard.mpr ((ends_amend_of_mem hct).mpr ?_))
  have h₁ : ((d.telephoned (.separate c')).amended c'.id
      ({ · with conference := none })).registry.calls = d.registry.calls.map (aside c'.id) := by
    show Registry.adjust c'.id _ (d.telephoned (.separate c')).registry.calls = _
    rw [ht]
    refine List.map_congr_left fun x _ => ?_
    by_cases hx : x.id = c'.id <;> simp [aside, hx]
  refine (ends_bind _).mpr (ends_get.mpr (ends_holdRest h₁ fun d' h' => (ends_ite _ _).mpr ?_))
  constructor
  · intro _
    have hid : c'.id ∈ d'.ids := by
      rw [ids_of_map h' fun x => by split <;> simp]
      exact id_mem_ids hc
    refine Ends.mono (setState_puts .active hid) (fun _ d₄ h₄ => ?_) fun _ _ => False.elim
    rw [h₄, h', List.map_map]
    refine List.map_congr_left fun x _ => ?_
    by_cases hx : x.id = c'.id
    · simp [hx, putAmong, separated_self]
    · simp [hx, putAmong]
  · intro hs
    refine h'.trans (List.map_congr_left fun x hx => ?_)
    split
    · -- The call itself was active already.
      rename_i hid
      obtain rfl := Registry.eq_of_id_eq hx hc hid
      rw [separated_self d main' rfl, ← Decidable.not_not.mp hs]
    · rfl

/-! ## Kick-out -/

/-- A kick-out that goes through leaves the other records as they are, but for what the rest of the
conference is left in. -/
theorem ends_kickOut (hc : c ∈ d.registry.calls) (hm : c.conference = some main) :
    (kickOut c.id).Ends d
      (fun _ d' => d'.registry.calls =
        (d.registry.calls.filter (·.id != c.id)).map (leftIn main (d.remainder main c.id)))
      fun _ _ => True := by
  refine (ends_bind _).mpr (ends_member (fun c' hc' main' hid hm' => ?_) fun _ _ => trivial)
  obtain rfl := Registry.eq_of_id_eq hc' hc hid
  obtain rfl := Option.some.inj (hm'.symm.trans hm)
  refine (ends_bind _).mpr (ends_telephone ?_ trivial)
  have ht : (d.telephoned (.kickOut c')).registry = d.registry := registry_telephoned d _
  have hct : c' ∈ (d.telephoned (.kickOut c')).registry.calls := by rwa [ht]
  refine (ends_bind _).mpr ((ends_finish_of_mem hct).mpr ?_)
  have hf : ((d.telephoned (.kickOut c')).finished c' .normal).registry.calls =
      d.registry.calls.filter (·.id != c'.id) := by rw [calls_finished, ht]
  generalize (d.telephoned (.kickOut c')).finished c' .normal = d₁ at hf ⊢
  refine Ends.mono (dissolveIfSingle_leaves main' d₁) (fun _ d' h' => ?_) fun _ _ => False.elim
  have hlength : (members d₁.registry main').length = (d.companions main' c'.id).length := by
    unfold companions members
    rw [hf, List.filter_filter, List.filter_filter]
    simp only [Bool.and_comm]
  rw [h', hf, hlength]
  rfl

/-! ## The conference after it -/

/-- At `d'` the call `c` of the conference `main` is taken aside. -/
structure TakenAside (main : CallId) (c : Call) (d d' : Desk) : Prop where
  /-- The call is active and in no conference. -/
  aside : d'.registry.get? c.id = some { c with state := .active, conference := none }
  /-- Those of the others that were active are held. -/
  companions : ∀ x ∈ d.companions main c.id, d'.registry.get? x.id = some
    { x with
      state := if x.state = .active then .holding else x.state
      conference := d.remainder main c.id }
  others : ∀ x ∈ d.registry.calls, x.conference ≠ some main → d'.registry.get? x.id = some x
  ids : d'.ids = d.ids

/-- At `d'` the call `c` of the conference `main` is gone. -/
structure Expelled (main : CallId) (c : Call) (d d' : Desk) : Prop where
  gone : d'.registry.get? c.id = none
  companions : ∀ x ∈ d.companions main c.id, d'.registry.get? x.id = some
    { x with conference := d.remainder main c.id }
  others : ∀ x ∈ d.registry.calls, x.conference ≠ some main → d'.registry.get? x.id = some x
  ids : d'.ids = d.ids.filter (· != c.id)

/-- A call of another conference, or of none, is another call. -/
theorem id_ne_of_conference_ne (hc : c ∈ d.registry.calls) (hm : c.conference = some main)
    (hx : x ∈ d.registry.calls) (hne : x.conference ≠ some main) : x.id ≠ c.id :=
  fun hid => hne (Registry.eq_of_id_eq hx hc hid ▸ hm)

theorem takenAside_of_calls (hc : c ∈ d.registry.calls) (hm : c.conference = some main)
    (h : d'.registry.calls = d.registry.calls.map (d.separated main c.id)) :
    d.TakenAside main c d' := by
  have hget : ∀ x ∈ d.registry.calls, d'.registry.get? x.id = some (d.separated main c.id x) :=
    fun x hx => Registry.get?_eq_some_iff.mpr
      ⟨h ▸ List.mem_map_of_mem hx, separated_id d main c.id x⟩
  refine ⟨?_, fun x hx => ?_, fun x hx hne => ?_, ids_of_map h (separated_id d main c.id)⟩
  · rw [hget c hc, separated_self d main rfl]
  · obtain ⟨hx, hxm, hid⟩ := mem_companions.mp hx
    rw [hget x hx, separated, if_neg hid, if_pos hxm]
  · rw [hget x hx, separated, if_neg (id_ne_of_conference_ne hc hm hx hne), if_neg hne]

theorem expelled_of_calls (hc : c ∈ d.registry.calls) (hm : c.conference = some main)
    (h : d'.registry.calls =
      (d.registry.calls.filter (·.id != c.id)).map (leftIn main (d.remainder main c.id))) :
    d.Expelled main c d' := by
  have hget : ∀ x ∈ d.registry.calls, x.id ≠ c.id →
      d'.registry.get? x.id = some (leftIn main (d.remainder main c.id) x) := by
    intro x hx hid
    have hf : x ∈ d.registry.calls.filter (·.id != c.id) := by simp [hx, hid]
    exact Registry.get?_eq_some_iff.mpr ⟨h ▸ List.mem_map_of_mem hf, leftIn_id _ _ x⟩
  refine ⟨?_, fun x hx => ?_, fun x hx hne => ?_, ?_⟩
  · refine Registry.get?_of_absent fun y hy => ?_
    rw [h] at hy
    obtain ⟨x, hx, rfl⟩ := List.mem_map.mp hy
    rw [leftIn_id]
    simpa using (List.mem_filter.mp hx).2
  · obtain ⟨hx, hxm, hid⟩ := mem_companions.mp hx
    rw [hget x hx hid, leftIn_of_eq hxm]
  · rw [hget x hx (id_ne_of_conference_ne hc hm hx hne), leftIn_of_ne hne]
  · unfold ids
    rw [h, List.map_map, List.filter_map]
    exact List.map_congr_left fun x _ => leftIn_id _ _ x

/-- **Leaving a conference.** Whatever the members of a conference are doing, and however many there
are: a separation that succeeds takes its call aside and holds the active ones of the others, and a
kick-out that succeeds removes its call. Both leave the others in the conference, or in none if
there is just one, and the calls that were not in the conference as they were. -/
theorem leave_conference (hc : c ∈ d.registry.calls) (hm : c.conference = some main) :
    ((Operation.separate c.id).Succeeds d →
      d.TakenAside main c (d.after (.operation (.separate c.id)))) ∧
    ((Operation.kickOut c.id).Succeeds d →
      d.Expelled main c (d.after (.operation (.kickOut c.id)))) := by
  constructor
  · have h := ends_conclude (ends_inService (fun _ => ends_separate hc hm) fun _ => trivial)
    exact fun hs => takenAside_of_calls hc hm (h.1 hs)
  · have h := ends_conclude (ends_inService (fun _ => ends_kickOut hc hm) fun _ => trivial)
    exact fun hs => expelled_of_calls hc hm (h.1 hs)

/-- Of three members one is on its way out. It is taken aside, or kicked out, and the others stay.
-/
theorem leave_conference_disconnecting :
    let run : List Happening :=
      [.operation .start, .operation (.arrive ⟨"1", 0, .ims, .voice⟩),
        .operation (.reportState 1 .holding none), .operation (.arrive ⟨"2", 0, .ims, .voice⟩),
        .operation (.reportState 2 .holding none), .operation (.arrive ⟨"3", 0, .ims, .voice⟩),
        .operation (.reportState 3 .active none), .operation (.combine 3),
        .operation (.reportState 1 .disconnecting none)]
    let d := standard.afterAll run
    ∃ c ∈ d.registry.calls, c.id = 1 ∧ c.state = .disconnecting ∧ c.conference = some 3 ∧
      (d.companions 3 1).map (·.id) = [2, 3] ∧
      d.TakenAside 3 c (d.after (.operation (.separate 1))) ∧
      d.Expelled 3 c (d.after (.operation (.kickOut 1))) := by
  intro run d
  have hseparates : (Operation.separate 1).Succeeds d := by decide +kernel
  have hkicksOut : (Operation.kickOut 1).Succeeds d := by decide +kernel
  obtain ⟨c, hc, hid, hs, hm⟩ : ∃ c ∈ d.registry.calls,
      c.id = 1 ∧ c.state = .disconnecting ∧ c.conference = some 3 := by decide +kernel
  have h := leave_conference hc hm
  rw [hid] at h
  exact ⟨c, hc, hid, hs, hm, by decide +kernel, h.1 hseparates, h.2 hkicksOut⟩

end Switchboard.Desk
