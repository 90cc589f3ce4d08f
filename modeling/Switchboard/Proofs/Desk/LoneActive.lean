import Switchboard.Proofs.Desk.History

/-!
# One active call at most

Answering, resuming, switching and the resumption after a call has ended each make a call active,
and each puts the other active calls on hold or ends them before. So calls never meet, unless they
are brought together on purpose: in a conference, by answering a third-party voice call, which
admission has no say over, or by a report of the radio (`one_active`).
-/

namespace Switchboard.Desk

variable {d d' : Desk}

/-! ## The step -/

theorem Single.of_subset (h : d.Single)
    (hsub : ∀ x ∈ d'.registry.calls, x.state = .active →
      ∃ y ∈ d.registry.calls, y.state = .active ∧ y.id = x.id) : d'.Single := by
  intro x hx y hy hxa hya
  obtain ⟨x', hx', hxa', hxid⟩ := hsub x hx hxa
  obtain ⟨y', hy', hya', hyid⟩ := hsub y hy hya
  rw [← hxid, ← hyid]
  exact h x' hx' y' hy' hxa' hya'

theorem Lone.single {id : CallId} (h : d.Lone id) : d.Single := fun x hx y hy hxa hya =>
  (h x hx hxa).trans (h y hy hya).symm

/-- A step that keeps to the rule makes no second call active. -/
theorem Step.single (h : Step (.order True) d d') (hd : d.Single) : d'.Single := by
  rcases h.registry_eq with he | ⟨c, hc, -, ha, -⟩ | ⟨id, he⟩ | ⟨id, f, he, hf⟩
  · refine hd.of_subset fun x hx hxa => ⟨x, ?_, hxa, rfl⟩
    rwa [he] at hx
  · refine hd.of_subset fun x hx hxa => ?_
    rw [(Registry.insert_eq_ok hc).1] at hx
    rcases Registry.mem_place.mp hx with rfl | hx
    · exact absurd hxa ha
    · exact ⟨x, hx, hxa, rfl⟩
  · refine hd.of_subset fun x hx hxa => ?_
    rw [he] at hx
    exact ⟨x, (Registry.mem_erase.mp hx).1, hxa, rfl⟩
  · by_cases hl : d.Lone id
    · -- Whatever was active is the changed record.
      have hl' : d'.Lone id := fun x hx hxa => by
        rw [he] at hx
        rcases Registry.mem_adjust.mp hx with ⟨hx, -⟩ | ⟨c, -, hid, rfl⟩
        · exact hl x hx hxa
        · exact hid
      exact hl'.single
    · -- The changed record is not active unless it was before.
      refine hd.of_subset fun x hx hxa => ?_
      rw [he] at hx
      rcases Registry.mem_adjust.mp hx with ⟨hx, -⟩ | ⟨c, hc, -, rfl⟩
      · exact ⟨x, hx, hxa, rfl⟩
      · exact ⟨c, hc, (hf.2.2.1 trivial c hxa).resolve_right hl, rfl⟩

/-- A step that keeps to the rule forms no conference. -/
theorem Step.separate (h : Step (.order True) d d') (hd : d.Separate) : d'.Separate := by
  intro x hx
  rcases h.registry_eq with he | ⟨c, hc, -, -, hconference, -⟩ | ⟨id, he⟩ | ⟨id, f, he, hf⟩
  · rw [he] at hx
    exact hd x hx
  · rw [(Registry.insert_eq_ok hc).1] at hx
    rcases Registry.mem_place.mp hx with rfl | hx
    · exact hconference
    · exact hd x hx
  · rw [he] at hx
    exact hd x (Registry.mem_erase.mp hx).1
  · rw [he] at hx
    rcases Registry.mem_adjust.mp hx with ⟨hx, -⟩ | ⟨c, hc, -, rfl⟩
    · exact hd x hx
    · rcases hf.2.1 (Rule.not_joins_of_orderly trivial) c with hconference | hconference
      · exact hconference.trans (hd c hc)
      · exact hconference

/-! ## The run -/

theorem invariant_single_separate : Invariant (.order True) fun _ d => d.Single ∧ d.Separate where
  idle _ _ := ⟨fun _ hx => (nomatch hx), fun _ hx => (nomatch hx)⟩
  step hd h := ⟨h.single hd.1, h.separate hd.2⟩
  issued hd := hd
  congr hd hr _ := by
    unfold Single Separate
    rw [hr]
    exact hd

theorem byManager_of_orderly {h : Happening} (ho : h.Orderly d) : h.ByManager := by
  cases h with
  | audio => exact ho
  | operation | circumstance | rest => trivial

theorem Single.countByState_le (h : d.Single) : d.registry.countByState .active ≤ 1 := by
  have hasc : (d.registry.calls.filter (·.state == .active)).Pairwise fun a b => a.id < b.id :=
    d.registry.ascending.filter _
  have hmem (x : Call) (hx : x ∈ d.registry.calls.filter (·.state == .active)) :
      x ∈ d.registry.calls ∧ x.state = .active := by simpa using hx
  rw [Registry.countByState, List.countP_eq_length_filter]
  generalize d.registry.calls.filter (·.state == .active) = active at hasc hmem
  match active with
  | [] => exact Nat.zero_le 1
  | [_] => exact Nat.le_refl 1
  | x :: y :: rest =>
    obtain ⟨hx, hxa⟩ := hmem x (by simp)
    obtain ⟨hy, hya⟩ := hmem y (by simp)
    have hlt := List.rel_of_pairwise_cons hasc (List.mem_cons_self (a := y) (l := rest))
    exact absurd (h x hx y hy hxa hya) (UInt32.ne_of_lt hlt)

/-- **In every orderly run at most one call is active.** -/
theorem one_active {n : Nat} (h : Reach (fun d h => h.Orderly d) n d) :
    d.registry.countByState .active ≤ 1 :=
  ((invariant_single_separate.reach (fun _ _ => byManager_of_orderly)
    (fun _ _ _ hd ho _ => ⟨ho, hd⟩) h).1).countByState_le

/-- An orderly run in which calls meet: the second call is answered while the first is active, and
the first is put on hold. -/
theorem one_active_answered :
    let run : List Happening :=
      [.operation .start, .operation (.dial ⟨"1", 0, .cs, .voice, false⟩),
        .operation (.reportState 1 .active none), .operation (.arrive ⟨"2", 0, .ims, .voice⟩),
        .operation (.answer 2 .voice)]
    let d := standard.afterAll run
    Reach (fun d h => h.Orderly d) 2 d ∧
      d.registry.calls.map (·.state) = [.holding, .active] ∧
      d.registry.countByState .active ≤ 1 := by
  intro run d
  have hp : Permits (fun d h => h.Orderly d) standard run := by
    refine ⟨trivial, trivial, fun _ => ?_, trivial, fun _ => ?_, trivial⟩
    · show Lone _ 1
      decide
    · decide
  have h : Reach (fun d h => h.Orderly d) 2 d := (reach_standard _).all hp
  exact ⟨h, by decide, one_active h⟩

end Switchboard.Desk
