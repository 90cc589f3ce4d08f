import Switchboard.Proofs.Desk.History
import Switchboard.Proofs.Desk.Sure

/-!
# Lone members

A conference of one is none. A separation and a kick-out look after the member that they leave alone
(`accompanied_separate`, `accompanied_kickOut`), and a combination brings at least two calls
together (`combine_gathers`). The other requests and the reports take calls out of a conference
without a look at the rest: `Desk.Strands` says of one that it leaves a lone member behind, as
hanging up may (`hangUp_strands`). Unless that happens, no conference ever has just one member
(`never_alone`).
-/

namespace Switchboard

/-- It takes a call out of a conference and looks after the rest. -/
def Happening.detaches : Happening → Bool
  | operation (.separate _) | operation (.kickOut _) => true
  | _ => false

namespace Desk

open DeskM

variable {d d' : Desk} {c : Call} {id main x : CallId} {n : Nat}

/-! ## Parties -/

/-- The numbers of the calls of a conference. -/
def party (d : Desk) (main : CallId) : List CallId := (members d.registry main).map (·.id)

theorem mem_party : x ∈ d.party main ↔
    ∃ c ∈ d.registry.calls, c.conference = some main ∧ c.id = x := by
  simp [party, members, and_assoc]

theorem nodup_party (d : Desk) (main : CallId) : (d.party main).Nodup := by
  have hasc : (members d.registry main).Pairwise fun a b => a.id < b.id :=
    d.registry.ascending.filter _
  exact List.pairwise_map.mpr (hasc.imp UInt32.ne_of_lt)

/-- Two desks agree on who is in a conference. -/
def Concur (main : CallId) (d d' : Desk) : Prop := ∀ x, x ∈ d'.party main ↔ x ∈ d.party main

theorem Concur.trans {d'' : Desk} (h : Concur main d d') (h' : Concur main d' d'') :
    Concur main d d'' := fun x => (h' x).trans (h x)

theorem concur_of_registry_eq (h : d'.registry = d.registry) : Concur main d d' := fun x => by
  rw [mem_party, mem_party, h]

/-- One of two differs from a third. -/
theorem exists_mem_ne {ids : List CallId} {a b : CallId} (ha : a ∈ ids) (hb : b ∈ ids) (hne : a ≠ b)
    (x : CallId) : ∃ y ∈ ids, y ≠ x := by
  by_cases hx : x = a
  · exact ⟨b, hb, fun h => hne (hx.symm.trans h.symm)⟩
  · exact ⟨a, ha, Ne.symm hx⟩

/-- The conference does not have one member only. -/
def Accompanied (main : CallId) (d : Desk) : Prop := (members d.registry main).length ≠ 1

/-- Whoever is in a conference without a lone member is there with another. -/
theorem accompanied_iff : d.Accompanied main ↔
    ∀ a ∈ d.party main, ∃ b ∈ d.party main, b ≠ a := by
  have hl : (members d.registry main).length = (d.party main).length := (List.length_map _).symm
  have hn := d.nodup_party main
  unfold Accompanied
  rw [hl]
  generalize d.party main = party at hn
  match party with
  | [] => simp
  | [_] => simp
  | a :: b :: rest =>
    have hab : a ≠ b := fun h => (List.nodup_cons.mp hn).1 (h ▸ List.mem_cons_self)
    exact ⟨fun _ x _ => exists_mem_ne (by simp) (by simp) hab x, fun _ => by simp⟩

theorem Accompanied.concur (hd : d.Accompanied main) (h : Concur main d d') :
    d'.Accompanied main := by
  rw [accompanied_iff] at hd ⊢
  intro a ha
  obtain ⟨b, hb, hne⟩ := hd a ((h a).mp ha)
  exact ⟨b, (h b).mpr hb, hne⟩

/-! ## Edits -/

/-- An edit takes a call out of a conference or into it, or it leaves the conference alone. -/
theorem mem_party_modify {f : Call → Call} (h : d'.registry = d.registry.modify id f) :
    x ∈ d'.party main ↔ (x ∈ d.party main ∧ x ≠ id) ∨
      ∃ c ∈ d.registry.calls, c.id = id ∧ (f c).conference = some main ∧ id = x := by
  rw [mem_party, mem_party, h, Registry.modify_calls]
  simp only [Registry.mem_adjust]
  constructor
  · rintro ⟨c, ⟨hc, hne⟩ | ⟨c, hc, rfl, rfl⟩, hm, rfl⟩
    · exact .inl ⟨⟨c, hc, hm, rfl⟩, hne⟩
    · exact .inr ⟨c, hc, rfl, hm, rfl⟩
  · rintro (⟨⟨c, hc, hm, rfl⟩, hne⟩ | ⟨c, hc, rfl, hm, rfl⟩)
    · exact ⟨c, .inl ⟨hc, hne⟩, hm, rfl⟩
    · exact ⟨_, .inr ⟨c, hc, rfl, rfl⟩, hm, rfl⟩

theorem concur_of_modify {f : Call → Call} (h : d'.registry = d.registry.modify id f)
    (hf : ∀ c ∈ d.registry.calls, c.id = id →
      ((f c).conference = some main ↔ c.conference = some main)) : Concur main d d' := by
  intro x
  rw [mem_party_modify h]
  constructor
  · rintro (⟨hx, -⟩ | ⟨c, hc, rfl, hm, rfl⟩)
    · exact hx
    · exact mem_party.mpr ⟨c, hc, (hf c hc rfl).mp hm, rfl⟩
  · intro hx
    by_cases hid : x = id
    · obtain ⟨c, hc, hm, rfl⟩ := mem_party.mp hx
      exact .inr ⟨c, hc, hid, (hf c hc hid).mpr hm, hid.symm⟩
    · exact .inl ⟨hx, hid⟩

/-- An edit of all records that leaves every call in its conference. -/
theorem concur_of_map {g : Call → Call} (h : d'.registry.calls = d.registry.calls.map g)
    (hid : ∀ x, (g x).id = x.id)
    (hg : ∀ x, (g x).conference = some main ↔ x.conference = some main) : Concur main d d' := by
  intro x
  rw [mem_party, mem_party, h]
  simp [hid, hg]

theorem concur_moved (d : Desk) (c : Call) (next : CallState) (main : CallId) :
    Concur main d (d.moved c next) :=
  concur_of_modify (registry_moved d c next) fun _ _ _ => Iff.rfl

/-- A call of another conference may be removed. -/
theorem concur_finished (hc : c ∈ d.registry.calls) (hm : c.conference ≠ some main)
    (ended : EndReason) : Concur main d (d.finished c ended) := by
  intro x
  rw [mem_party, mem_party, calls_finished]
  simp only [List.mem_filter, bne_iff_ne]
  constructor
  · rintro ⟨y, ⟨hy, -⟩, hym, rfl⟩
    exact ⟨y, hy, hym, rfl⟩
  · rintro ⟨y, hy, hym, rfl⟩
    refine ⟨y, ⟨hy, fun hid => hm ?_⟩, hym, rfl⟩
    rw [← Registry.eq_of_id_eq hy hc hid]
    exact hym

/-! ## Leaving with a look at the rest -/

/-- Calls that are there can be put into another state, and stay in their conferences. -/
theorem sure_setStates_concur (next : CallState) {calls : List Call}
    (hp : ∀ p ∈ calls, p.id ∈ d.ids) :
    (setStates next calls).Sure d fun d' => ∀ main, Concur main d d' :=
  (setStates_puts next hp).mono fun _ h _ => concur_of_map h (putAmong_id _ next) fun _ => by simp

/-- If only one member is left, it is taken out too; other conferences are not touched. -/
theorem sure_dissolveIfSingle_accompanied (conference : CallId) (d : Desk) :
    (dissolveIfSingle conference).Sure d fun d' =>
      d'.Accompanied conference ∧ ∀ main ≠ conference, Concur main d d' := by
  refine (dissolveIfSingle_leaves conference d).mono fun d' h => ⟨?_, fun main hne => ?_⟩
  · split at h
    · -- Nobody is in the conference any more.
      refine accompanied_iff.mpr fun a ha => ?_
      obtain ⟨y, hy, hm, -⟩ := mem_party.mp ha
      obtain ⟨x, -, rfl⟩ := List.mem_map.mp (h ▸ hy)
      rw [leftIn_conference] at hm
      split at hm
      · cases hm
      · contradiction
    · rename_i hl
      have hd : d.Accompanied conference := hl
      refine hd.concur (concur_of_map h (leftIn_id _ _) fun x => ?_)
      rw [leftIn_conference]
      split <;> simp [*]
  · refine concur_of_map h (leftIn_id _ _) fun x => ?_
    rw [leftIn_conference]
    split
    · rename_i hx
      split <;> simp [hx, Ne.symm hne]
    · exact Iff.rfl

/-- What left the other conferences alone, and looks after this one in the end, leaves no lone
member. -/
theorem accompanied_dissolved {conference : CallId} (hd : d.Accompanied main)
    (h : ∀ main ≠ conference, Concur main d d') :
    (dissolveIfSingle conference).Within d' (Accompanied main) := by
  refine Ends.mono (sure_dissolveIfSingle_accompanied conference d') (fun _ d₂ h₂ => ?_)
    fun _ _ => False.elim
  by_cases hm : main = conference
  · exact hm ▸ h₂.1
  · exact hd.concur ((h main hm).trans (h₂.2 main hm))

/-- A kick-out leaves no lone member. -/
theorem accompanied_kickOut (hd : d.Accompanied main) (id : CallId) :
    (kickOut id).Within d (Accompanied main) := by
  refine within_bind.mpr (ends_member (fun c hc conference hid hmain => ?_) fun _ _ => hd)
  subst hid
  have ht : (d.telephoned (.kickOut c)).registry = d.registry := registry_telephoned d _
  refine within_bind.mpr (ends_telephone ?_ (hd.concur (concur_of_registry_eq ht)))
  have hc : c ∈ (d.telephoned (.kickOut c)).registry.calls := by rwa [ht]
  refine within_bind.mpr ((ends_finish_of_mem hc).mpr ?_)
  refine accompanied_dissolved hd fun main hne => (concur_of_registry_eq ht).trans ?_
  exact concur_finished hc (by simp [hmain, Ne.symm hne]) _

/-- A separation leaves no lone member. -/
theorem accompanied_separate (hd : d.Accompanied main) (id : CallId) :
    (separate id).Within d (Accompanied main) := by
  refine within_bind.mpr (ends_member (fun c hc conference hid hmain => ?_) fun _ _ => hd)
  subst hid
  have ht : (d.telephoned (.separate c)).registry = d.registry := registry_telephoned d _
  refine within_bind.mpr (ends_telephone ?_ (hd.concur (concur_of_registry_eq ht)))
  have hc : c ∈ (d.telephoned (.separate c)).registry.calls := by rwa [ht]
  refine within_bind.mpr (ends_discard.mpr ((ends_amend_of_mem hc).mpr ?_))
  refine within_bind.mpr (ends_get.mpr ?_)
  refine (sure_setStates_concur _ fun p hp => ?_).ends_bind fun _ d₁ h₁ => ?_
  · exact id_mem_ids (mem_members.mp (List.mem_filter.mp hp).1).1
  refine Within.bind (accompanied_dissolved hd fun main hne => ?_) fun _ d₂ h₂ => ?_
  · refine ((concur_of_registry_eq ht).trans ?_).trans (h₁ main)
    refine concur_of_modify rfl fun c' hc' hid => ?_
    obtain rfl := Registry.eq_of_id_eq hc' hc hid
    simp [hmain, Ne.symm hne]
  · split
    · exact ends_setState (fun c' _ _ => h₂.concur (concur_moved d₂ c' _ main)) fun _ => h₂
    · exact h₂

/-! ## Joining -/

/-- Calls that are there join a conference without fail, and leave the ones that they were in. -/
theorem ends_joinPeers (conference : CallId) (peers : List Call)
    (hp : ∀ p ∈ peers, ∃ c ∈ d.registry.calls, c.id = p.id) :
    (joinPeers conference peers).Ends d
      (fun _ d' => (∀ main ≠ conference, d'.party main ⊆ d.party main) ∧
        d.party conference ⊆ d'.party conference ∧ ∀ p ∈ peers, p.id ∈ d'.party conference)
      fun _ _ => False := by
  induction peers generalizing d with
  | nil => exact ⟨fun _ _ _ hx => hx, fun _ hx => hx, fun _ hp => nomatch hp⟩
  | cons p rest ih =>
    obtain ⟨c, hc, hid⟩ := hp p (by simp)
    unfold joinPeers
    rw [ends_bind, ends_discard, ← hid, ends_amend_of_mem hc, ends_bind,
      ends_setState_of_mem (mem_amended (f := ({ · with conference := some conference })) hc)]
    -- One peer has joined. For the others only who is in which conference matters.
    generalize hj : (d.amended c.id ({ · with conference := some conference })).moved _ .active = d₁
    have hparty {main x : CallId} : x ∈ d₁.party main ↔ (x ∈ d.party main ∧ x ≠ c.id) ∨
        conference = main ∧ c.id = x := by
      rw [← hj, concur_moved, mem_party_modify rfl]
      simp only [Option.some.injEq]
      constructor
      · rintro (hx | ⟨_, -, -, hm, hx⟩)
        · exact .inl hx
        · exact .inr ⟨hm, hx⟩
      · rintro (hx | ⟨hm, hx⟩)
        · exact .inl hx
        · exact .inr ⟨c, hc, rfl, hm, hx⟩
    refine (ih fun q hq => ?_).mono (fun _ d₂ h₂ => ?_) fun _ _ => id
    · rw [← hj, registry_moved]
      exact present_amended (present_amended (hp q (by simp [hq])))
    obtain ⟨hothers, hstay, hjoin⟩ := h₂
    refine ⟨?_, ?_, ?_⟩
    · intro main hne x hx
      rcases hparty.mp (hothers main hne hx) with ⟨hx, -⟩ | ⟨he, -⟩
      · exact hx
      · exact absurd he.symm hne
    · intro x hx
      refine hstay (hparty.mpr ?_)
      by_cases hxc : x = c.id
      · exact .inr ⟨rfl, hxc.symm⟩
      · exact .inl ⟨hx, hxc⟩
    · intro q hq
      rcases List.mem_cons.mp hq with rfl | hq
      · exact hstay (hparty.mpr (.inr ⟨rfl, hid⟩))
      · exact hjoin q hq

/-- Nobody joins a conference alone. -/
theorem combine_gathers (id main : CallId) :
    (combine id).Within d fun d' => d'.party main ⊆ d.party main ∨ d'.Accompanied main := by
  have same {d' : Desk} (h : d'.registry = d.registry) : d'.party main ⊆ d.party main :=
    fun x => (concur_of_registry_eq h x).mp
  refine within_bind.mpr (ends_callIn (fun c hc hid hs => ?_) fun _ _ => .inl (same rfl))
  subst hid
  refine within_bind.mpr (ends_get.mpr ?_)
  have ht : (d.telephoned (.combine c)).registry = d.registry := registry_telephoned d _
  cases hpeers : d.registry.findByState .holding with
  | nil => exact within_throw_bind (.inl (same rfl))
  | cons p rest =>
    refine within_bind.mpr (ends_telephone ?_ (.inl (same ht)))
    have hc' : c ∈ (d.telephoned (.combine c)).registry.calls := by rwa [ht]
    refine within_bind.mpr (ends_discard.mpr ((ends_amend_of_mem hc').mpr ?_))
    have hpresent (q : Call) (hq : q ∈ p :: rest) : q ∈ d.registry.calls ∧ q.state = .holding := by
      rw [← hpeers] at hq
      simpa [Registry.findByState] using hq
    refine (ends_joinPeers c.id _ fun q hq => present_amended ⟨q, ?_, rfl⟩).mono
      (fun _ d₁ h₁ => ?_) fun _ _ => False.elim
    · rw [ht]
      exact (hpresent q hq).1
    obtain ⟨hothers, hstay, hjoin⟩ := h₁
    -- The conference that is formed has the call and its first peer; the others only lose members.
    by_cases hm : main = c.id
    · refine .inr ?_
      subst hm
      refine accompanied_iff.mpr fun x _ => exists_mem_ne (a := c.id) (hstay ?_)
        (hjoin p (by simp)) (fun he => ?_) x
      · exact (mem_party_modify rfl).mpr (.inr ⟨c, hc', rfl, rfl, rfl⟩)
      · obtain ⟨hp, hph⟩ := hpresent p (by simp)
        obtain rfl := Registry.eq_of_id_eq hc hp he
        simp [hph] at hs
    · refine .inl fun x hx => ?_
      rcases (mem_party_modify rfl).mp (hothers main hm hx) with ⟨hx, -⟩ | ⟨_, -, -, he, -⟩
      · exact same ht hx
      · exact absurd (Option.some.inj he).symm hm

/-! ## Everything that happens -/

/-- Where no conference is formed, nobody joins one. -/
theorem invariant_party (main : CallId) (party : List CallId) :
    Invariant (.without [.join]) fun _ d => d.party main ⊆ party where
  idle _ _ := fun _ hx => nomatch hx
  step {_ d d'} hd h := by
    intro x hx
    rw [mem_party] at hx
    obtain ⟨c, hc, hm, rfl⟩ := hx
    have hp {c : Call} (hc : c ∈ d.registry.calls) (hm : c.conference = some main) :
        c.id ∈ party := hd (mem_party.mpr ⟨c, hc, hm, rfl⟩)
    rcases h.registry_eq with he | ⟨c', hi, -, -, hn, -⟩ | ⟨id, he⟩ | ⟨id, f, he, -, hf, -⟩
    · rw [he] at hc
      exact hp hc hm
    · rw [(Registry.insert_eq_ok hi).1] at hc
      rcases Registry.mem_place.mp hc with rfl | hc
      · simp [hn] at hm
      · exact hp hc hm
    · rw [he] at hc
      exact hp (Registry.mem_erase.mp hc).1 hm
    · rw [he] at hc
      rcases Registry.mem_adjust.mp hc with ⟨hc, -⟩ | ⟨c', hc', -, rfl⟩
      · exact hp hc hm
      · rcases hf Rule.not_joins_without c' with hs | hs
        · exact hp (c := c') hc' (hs.symm.trans hm)
        · exact nomatch hs.symm.trans hm
  issued hd := hd
  congr {_ d d'} hd hr _ := fun x hx => hd ((concur_of_registry_eq hr x).mp hx)

/-- The members of a conference leave it, all but one, and nobody looks after that one. -/
def Strands (main : CallId) (d : Desk) (h : Happening) : Prop :=
  h.detaches = false ∧
    ∃ last ∈ d.party main, last ∈ (d.after h).party main ∧
      (∃ id ∈ d.party main, id ≠ last) ∧
      ∀ id ∈ d.party main, id ≠ last → id ∉ (d.after h).party main

instance (main : CallId) (d : Desk) (h : Happening) : Decidable (d.Strands main h) :=
  inferInstanceAs (Decidable (_ ∧ _))

/-- Whatever happens, nobody joins a conference alone. -/
theorem gathered_after {h : Happening} (hm : h.ByManager) (hq : d.Quiet) (main : CallId) :
    (d.after h).party main ⊆ d.party main ∨ (d.after h).Accompanied main := by
  by_cases hj : .join ∈ h.deeds
  · cases h with
    | operation o =>
      cases o with
      | combine id =>
        have hw : (inService (combine id)).Within d fun d' =>
            d'.party main ⊆ d.party main ∨ d'.Accompanied main :=
          ends_inService (fun _ => combine_gathers id main) fun _ => .inl fun _ hx => hx
        exact hw.perform
      | _ => simp [Happening.deeds, Operation.deeds] at hj
    | audio | circumstance | rest => simp [Happening.deeds] at hj
  · have hh : h.Heeds (.without [.join]) d := Happening.heeds_without d (by simpa using hj)
    have hp := transitions_after hm hh False.elim
    exact .inl ((invariant_party main (d.party main)).transitions (m := 0) hp hq fun _ hx => hx)

theorem accompanied_after {h : Happening} (hm : h.ByManager) (hq : d.Quiet)
    (hs : ¬d.Strands main h) (hd : d.Accompanied main) : (d.after h).Accompanied main := by
  cases ht : h.detaches with
  | true =>
    cases h with
    | operation o =>
      cases o with
      | separate id =>
        have hw : (inService (separate id)).Within d (Accompanied main) :=
          ends_inService (fun _ => accompanied_separate hd id) fun _ => hd
        exact hw.perform
      | kickOut id =>
        have hw : (inService (kickOut id)).Within d (Accompanied main) :=
          ends_inService (fun _ => accompanied_kickOut hd id) fun _ => hd
        exact hw.perform
      | _ => cases ht
    | audio | circumstance | rest => cases ht
  | false =>
    rcases gathered_after hm hq main with hsub | ha
    · rw [accompanied_iff] at hd ⊢
      intro last hlast
      by_contra hall
      push Not at hall
      obtain ⟨other, hother, hne⟩ := hd last (hsub hlast)
      exact hs ⟨ht, last, hsub hlast, hlast, ⟨other, hother, hne⟩, fun id _ hid hin =>
        hid (hall id hin)⟩
    · exact ha

/-- **No conference has a lone member, unless it is stranded.** In every run, whatever fails, nobody
joins a conference alone, and a separation and a kick-out take the last member out too. -/
theorem never_alone (h : Reach (fun d h => h.ByManager ∧ ¬d.Strands main h) n d) :
    (members d.registry main).length ≠ 1 := by
  suffices d.Accompanied main from this
  induction h with
  | assembled hd _ =>
    rw [assemble_eq hd]
    exact Nat.zero_ne_one
  | next h hm ih => exact accompanied_after hm.1 (h.quiet fun _ _ hm => hm.1) hm.2 ih

/-- One of two members is kicked out, and the other one is alone. -/
theorem never_alone_kickOut :
    let run : List Happening :=
      [.operation .start, .operation (.dial ⟨"1", 0, .cs, .voice, false⟩),
        .operation (.reportState 1 .active none), .operation (.hold 1),
        .operation (.dial ⟨"2", 0, .cs, .voice, false⟩),
        .operation (.reportState 2 .active none), .operation (.combine 2)]
    let d := standard.afterAll run
    let d' := d.after (.operation (.kickOut 1))
    Reach (fun d h => h.ByManager ∧ ¬d.Strands 2 h) 2 d' ∧ d.party 2 = [1, 2] ∧
      d'.registry.calls.map (·.id) = [2] ∧ (members d'.registry 2).length ≠ 1 := by
  intro run d d'
  have hp : Permits (fun d h => h.ByManager ∧ ¬d.Strands 2 h) standard
      (run ++ [.operation (.kickOut 1)]) :=
    ⟨⟨trivial, by decide⟩, ⟨trivial, by decide⟩, ⟨trivial, by decide⟩, ⟨trivial, by decide⟩,
      ⟨trivial, by decide⟩, ⟨trivial, by decide⟩, ⟨trivial, by decide⟩, ⟨trivial, by decide⟩,
      trivial⟩
  have h : Reach (fun d h => h.ByManager ∧ ¬d.Strands 2 h) 2 d' := (reach_standard _).all hp
  exact ⟨h, by decide, by decide, never_alone h⟩

/-- Hanging up does not look after the rest: of two members the other one stays in the conference.
-/
theorem hangUp_strands :
    let run : List Happening :=
      [.operation .start, .operation (.dial ⟨"1", 0, .cs, .voice, false⟩),
        .operation (.reportState 1 .active none), .operation (.hold 1),
        .operation (.dial ⟨"2", 0, .cs, .voice, false⟩),
        .operation (.reportState 2 .active none), .operation (.combine 2), .operation (.hangUp 1)]
    let d := standard.afterAll run
    Reach (fun _ h => h.ByManager) 2 d ∧ (members d.registry 2).map (·.id) = [2] := by
  intro run d
  have hp : Permits (fun _ h => h.ByManager) standard run :=
    ⟨trivial, trivial, trivial, trivial, trivial, trivial, trivial, trivial, trivial⟩
  exact ⟨(reach_standard _).all hp, by decide⟩

end Desk

end Switchboard
