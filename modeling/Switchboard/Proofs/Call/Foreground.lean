import Mathlib.Data.List.Nodup
import Mathlib.Data.List.Induction
import Mathlib.Tactic.SplitIfs
import Switchboard.Desk.Operation
import Switchboard.Proofs.Desk.Edits
import Switchboard.Proofs.Posture.Follows

/-!
# The foreground call

Three places ask which call the user is dealing with: the foreground is looked for among calls in
any order, the tally keeps the lowest number among the active ones, and the audio side takes the
first active one of the registry. They agree.

* `InFront calls c`: no other call precedes `c`. Among calls of distinct numbers there is at most
  one such call (`InFront.unique`), and it is the one that `foreground?` finds.
* `leadingActive?_eq_filter`: the tally's leading call is the foreground call, if that is active.
* `Posture.Reflects`: what the posture says of the foreground call.
-/

namespace Switchboard

variable {calls other : List Call} {c x : Call}

/-! ## Precedence -/

/-- The order of precedence of a state; one without precedence comes last. -/
def CallState.rank (s : CallState) : Nat := s.precedence?.getD 4

theorem CallState.isTerminal_iff {s : CallState} : s.isTerminal = true ↔ s.rank = 4 := by
  cases s <;> decide

theorem CallState.rank_le (s : CallState) : s.rank ≤ 4 := by
  cases s <;> decide

theorem Call.precedes_iff : x.precedes c = true ↔ x.state.isTerminal = false ∧
    (x.state.rank < c.state.rank ∨ x.state.rank = c.state.rank ∧ x.id < c.id) := by
  unfold precedes CallState.rank
  cases x.state <;> cases c.state <;> simp [CallState.precedence?, CallState.isTerminal]

theorem Call.precedes_irrefl (c : Call) : c.precedes c = false := by
  rw [Bool.eq_false_iff, ne_eq, precedes_iff]
  rintro ⟨-, h | ⟨-, h⟩⟩
  · exact Nat.lt_irrefl _ h
  · exact UInt32.lt_irrefl _ h

theorem Call.precedes_trans {d : Call} (hx : x.precedes c = true) (hc : c.precedes d = true) :
    x.precedes d = true := by
  rw [precedes_iff] at hx hc ⊢
  refine ⟨hx.1, ?_⟩
  rcases hx.2 with hx | ⟨hxc, hx⟩ <;> rcases hc.2 with hc | ⟨hcd, hc⟩
  · exact .inl (by omega)
  · exact .inl (by omega)
  · exact .inl (by omega)
  · exact .inr ⟨by omega, UInt32.lt_trans hx hc⟩

/-! ## The call in front -/

/-- The call `c` is in front of all `calls`. -/
structure InFront (calls : List Call) (c : Call) : Prop where
  mem : c ∈ calls
  live : c.state.isTerminal = false
  unpreceded : ∀ x ∈ calls, x.precedes c = false

theorem InFront.perm (h : InFront calls c) (hp : other.Perm calls) : InFront other c :=
  ⟨hp.mem_iff.mpr h.mem, h.live, fun x hx => h.unpreceded x (hp.mem_iff.mp hx)⟩

/-- No call has a state that comes before that of the call in front. -/
theorem InFront.rank_le (h : InFront calls c) (hx : x ∈ calls) : c.state.rank ≤ x.state.rank := by
  by_cases ht : x.state.isTerminal = true
  · rw [CallState.isTerminal_iff.mp ht]
    exact c.state.rank_le
  · have hn := h.unpreceded x hx
    rw [Bool.eq_false_iff, ne_eq, Call.precedes_iff] at hn
    by_contra hlt
    exact hn ⟨by simpa using ht, .inl (by omega)⟩

/-- Of two calls in front, neither has the lower number. -/
theorem InFront.id_le (h : InFront calls c) (hx : InFront calls x) : c.id ≤ x.id := by
  have hrank : x.state.rank = c.state.rank :=
    Nat.le_antisymm (hx.rank_le h.mem) (h.rank_le hx.mem)
  have hn := h.unpreceded x hx.mem
  rw [Bool.eq_false_iff, ne_eq, Call.precedes_iff] at hn
  exact UInt32.not_lt.mp fun hlt => hn ⟨hx.live, .inr ⟨hrank, hlt⟩⟩

theorem InFront.unique (hd : (calls.map (·.id)).Nodup) (hc : InFront calls c)
    (hx : InFront calls x) : c = x :=
  List.inj_on_of_nodup_map hd hc.mem hx.mem (UInt32.le_antisymm (hc.id_le hx) (hx.id_le hc))

/-- The call `best`, or none, is what is in front once all `calls` were looked at. -/
def Fronts (calls : List Call) : Option Call → Prop
  | some c => InFront calls c
  | none => ∀ c ∈ calls, c.state.isTerminal = true

theorem Fronts.next {best : Option Call} (h : Fronts calls best) (c : Call) :
    Fronts (calls ++ [c]) (outranks best c) := by
  unfold outranks
  cases best with
  | none =>
    have h : ∀ x ∈ calls, x.state.isTerminal = true := h
    dsimp only
    split
    · rename_i ht
      intro x hx
      rcases List.mem_append.mp hx with hx | hx
      · exact h x hx
      · exact List.mem_singleton.mp hx ▸ ht
    · rename_i ht
      refine ⟨by simp, by simpa using ht, fun x hx => ?_⟩
      rcases List.mem_append.mp hx with hx | hx
      · rw [Bool.eq_false_iff, ne_eq, Call.precedes_iff]
        exact fun hp => by simp [h x hx] at hp
      · exact List.mem_singleton.mp hx ▸ c.precedes_irrefl
  | some b =>
    have h : InFront calls b := h
    dsimp only
    split
    · rename_i hcb
      refine ⟨by simp, (Call.precedes_iff.mp hcb).1, fun x hx => ?_⟩
      rcases List.mem_append.mp hx with hx | hx
      · -- What precedes `c` also precedes `b`.
        rw [Bool.eq_false_iff]
        exact fun hxc => by simpa [Call.precedes_trans hxc hcb] using h.unpreceded x hx
      · exact List.mem_singleton.mp hx ▸ c.precedes_irrefl
    · rename_i hcb
      refine ⟨by simp [h.mem], h.live, fun x hx => ?_⟩
      rcases List.mem_append.mp hx with hx | hx
      · exact h.unpreceded x hx
      · exact List.mem_singleton.mp hx ▸ by simpa using hcb

theorem fronts_foreground? (calls : List Call) : Fronts calls (foreground? calls) := by
  rw [foreground?_eq]
  induction calls using List.reverseRecOn with
  | nil => exact fun _ hc => nomatch hc
  | append_singleton calls c ih =>
    rw [List.foldl_append]
    exact ih.next c

theorem inFront_of_foreground? (h : foreground? calls = some c) : InFront calls c := by
  have := fronts_foreground? calls
  rwa [h] at this

/-- There is no foreground call if and only if every call is terminal. -/
theorem foreground?_eq_none_iff :
    foreground? calls = none ↔ ∀ c ∈ calls, c.state.isTerminal = true := by
  have hf := fronts_foreground? calls
  cases h : foreground? calls with
  | none =>
    rw [h] at hf
    exact iff_of_true rfl hf
  | some c =>
    rw [h] at hf
    refine iff_of_false (by simp) fun hall => ?_
    have := hf.live
    simp [hall c hf.mem] at this

theorem foreground?_eq_some_iff (hd : (calls.map (·.id)).Nodup) :
    foreground? calls = some c ↔ InFront calls c := by
  refine ⟨inFront_of_foreground?, fun hc => ?_⟩
  cases h : foreground? calls with
  | none =>
    have := hc.live
    simp [foreground?_eq_none_iff.mp h c hc.mem] at this
  | some b => rw [(inFront_of_foreground? h).unique hd hc]

/-- The foreground does not depend on the order of the calls. -/
theorem foreground?_perm (hd : (calls.map (·.id)).Nodup) (hp : other.Perm calls) :
    foreground? other = foreground? calls := by
  refine Option.ext fun c => ?_
  rw [foreground?_eq_some_iff hd, foreground?_eq_some_iff ((hp.map _).nodup_iff.mpr hd)]
  exact ⟨fun h => h.perm hp.symm, fun h => h.perm hp⟩

/-! ## The leading active call -/

/-- Looking for the foreground and for the leading active call go hand in hand. -/
theorem overtakes_filter (best : Option Call) (c : Call) :
    Tally.overtakes (best.filter (·.state == .active)) c =
      (outranks best c).filter (·.state == .active) := by
  unfold Tally.overtakes outranks
  cases best with
  | none => cases hc : c.state <;> simp [Option.filter_some, CallState.isTerminal, hc]
  | some b =>
    unfold Call.precedes
    cases hc : c.state <;> cases hb : b.state <;>
      simp [Option.filter_some, CallState.precedence?, hc, hb, apply_ite (Option.filter _)]

/-- The leading active call is the foreground call, if that is active. -/
theorem leadingActive?_eq_filter (calls : List Call) :
    Tally.leadingActive? calls = (foreground? calls).filter (·.state == .active) := by
  show calls.foldl Tally.overtakes none = _
  rw [foreground?_eq]
  induction calls using List.reverseRecOn with
  | nil => rfl
  | append_singleton calls c ih =>
    rw [List.foldl_append, List.foldl_append, ih]
    exact overtakes_filter _ c

/-- The first active call of a registry is the foreground call, if that is active. -/
theorem Registry.head?_findByState_active (r : Registry) :
    (r.findByState .active).head? = r.foreground?.filter (·.state == .active) := by
  unfold foreground?
  rw [← leadingActive?_eq_filter, Tally.leadingActive?_eq r.ascending]
  rfl

/-- Some call is active if and only if the foreground call is. -/
theorem hasActive_iff : hasActive calls = true ↔
    ∃ c, foreground? calls = some c ∧ c.state = .active := by
  unfold hasActive
  rw [List.any_eq_true]
  constructor
  · rintro ⟨x, hx, ha⟩
    have ha : x.state = .active := by simpa using ha
    cases hf : foreground? calls with
    | none =>
      have := foreground?_eq_none_iff.mp hf x hx
      rw [ha] at this
      cases this
    | some c =>
      refine ⟨c, rfl, ?_⟩
      have hle := (inFront_of_foreground? hf).rank_le hx
      rw [ha] at hle
      cases hc : c.state <;> rw [hc] at hle <;> revert hle <;> decide
  · rintro ⟨c, hf, ha⟩
    exact ⟨c, mem_of_foreground? hf, by simpa using ha⟩

/-! ## The posture -/

/-- What the posture of some calls says of the call in front of them. -/
structure Posture.Reflects (p : Posture) (front : Option Call) : Prop where
  inactive : p = .inactive ↔ front = none
  holding : p = .holding ↔ ∃ c ∈ front, c.state = .holding
  incoming : p = .incoming ↔ ∃ c ∈ front, c.state.isRinging = true
  connecting : p = .alerting ∨ p = .dialing ↔ ∃ c ∈ front, c.state.isConnecting = true
  /-- In every other case the posture is that of the bearer. -/
  bearer : ∀ c ∈ front, c.state ≠ .holding → c.state.isRinging = false →
    c.state.isConnecting = false → c.state = .active ∧ p.Bears c.bearer

namespace Tally

theorem active_pos : 0 < (ofCalls calls).active ↔ ∃ c ∈ calls, c.state.rank = 0 := by
  unfold ofCalls
  rw [List.countP_pos_iff]
  refine exists_congr fun c => and_congr_right fun _ => ?_
  cases c.state <;> decide

theorem connecting_pos : 0 < (ofCalls calls).alerting ∨ 0 < (ofCalls calls).dialing ↔
    ∃ c ∈ calls, c.state.rank = 1 := by
  unfold ofCalls
  rw [List.countP_pos_iff, List.countP_pos_iff, ← exists_or]
  refine exists_congr fun c => ?_
  rw [← and_or_left]
  refine and_congr_right fun _ => ?_
  cases c.state <;> decide

theorem ringing_pos : 0 < (ofCalls calls).ringing ↔ ∃ c ∈ calls, c.state.rank = 2 := by
  unfold ofCalls
  rw [List.countP_pos_iff]
  refine exists_congr fun c => and_congr_right fun _ => ?_
  cases c.state <;> decide

theorem holding_pos : 0 < (ofCalls calls).holding ↔ ∃ c ∈ calls, c.state.rank = 3 := by
  unfold ofCalls
  rw [List.countP_pos_iff]
  refine exists_congr fun c => and_congr_right fun _ => ?_
  cases c.state <;> decide

end Tally

open Tally Posture

/-- The order of precedence of the calls that a posture speaks of. -/
def Posture.rank : Posture → Nat
  | .cs | .ims | .ott => 0
  | .alerting | .dialing => 1
  | .incoming => 2
  | .holding => 3
  | .inactive => 4

theorem Posture.rank_ofBearer (b : Option Bearer) : (ofBearer b).rank = 0 := by
  unfold ofBearer
  split <;> rfl

theorem Posture.rank_ofTally (t : Tally) : (ofTally t).rank =
    if 0 < t.active then 0
    else if 0 < t.alerting ∨ 0 < t.dialing then 1
    else if 0 < t.ringing then 2
    else if 0 < t.holding then 3
    else 4 := by
  unfold ofTally
  split_ifs <;> first | exact rank_ofBearer _ | rfl | omega

/-- The order of precedence of the foreground call; without one, what comes last. -/
def frontRank (calls : List Call) : Nat := (foreground? calls).elim 4 (·.state.rank)

theorem frontRank_le (hx : x ∈ calls) : frontRank calls ≤ x.state.rank := by
  unfold frontRank
  cases hf : foreground? calls with
  | none =>
    rw [CallState.isTerminal_iff.mp (foreground?_eq_none_iff.mp hf x hx)]
    exact Nat.le_refl 4
  | some c => exact (inFront_of_foreground? hf).rank_le hx

theorem exists_frontRank (h : frontRank calls ≠ 4) :
    ∃ x ∈ calls, x.state.rank = frontRank calls := by
  unfold frontRank at h ⊢
  cases hf : foreground? calls with
  | none =>
    rw [hf] at h
    exact absurd rfl h
  | some c => exact ⟨c, mem_of_foreground? hf, rfl⟩

/-- The posture speaks of calls that are on a par with the foreground call. -/
theorem rank_posture (calls : List Call) : (ofTally (ofCalls calls)).rank = frontRank calls := by
  have hle {rank : Nat} : (∃ x ∈ calls, x.state.rank = rank) → frontRank calls ≤ rank := by
    rintro ⟨x, hx, rfl⟩
    exact frontRank_le hx
  have hne {rank : Nat} (h : ¬∃ x ∈ calls, x.state.rank = rank) (hr : rank ≠ 4) :
      frontRank calls ≠ rank := fun he => h (he ▸ exists_frontRank (he ▸ hr))
  rw [rank_ofTally]
  simp only [active_pos, connecting_pos, ringing_pos, holding_pos]
  split
  · have := hle ‹_›
    omega
  have := hne ‹_› (by decide)
  split
  · have := hle ‹_›
    omega
  have := hne ‹_› (by decide)
  split
  · have := hle ‹_›
    omega
  have := hne ‹_› (by decide)
  split
  · have := hle ‹_›
    omega
  have := hne ‹_› (by decide)
  by_contra hlt
  obtain ⟨x, -, hx⟩ := exists_frontRank (Ne.symm hlt)
  have := x.state.rank_le
  omega

/-- The posture of an active foreground call is that of its bearer. -/
theorem posture_of_active (h : foreground? calls = some c) (ha : c.state = .active) :
    ofTally (ofCalls calls) = .ofBearer (some c.bearer) := by
  have hactive := active_pos.mpr ⟨c, mem_of_foreground? h, by rw [ha]; rfl⟩
  have hbearer : (ofCalls calls).activeBearer = some c.bearer := by
    unfold ofCalls
    simp [leadingActive?_eq_filter, h, ha]
  unfold ofTally
  rw [if_pos hactive, hbearer]

/-- The posture that calls call for reflects the foreground call. -/
theorem reflects_foreground? (calls : List Call) :
    (ofTally (ofCalls calls)).Reflects (foreground? calls) := by
  have hrank := rank_posture calls
  unfold frontRank at hrank
  cases hf : foreground? calls with
  | none =>
    rw [hf] at hrank
    generalize ofTally (ofCalls calls) = p at hrank
    cases p <;> first
      | exact absurd hrank (by decide)
      | constructor <;> simp
  | some c =>
    have hlive := (inFront_of_foreground? hf).live
    have hactive := fun ha => bears_iff.mpr (posture_of_active hf ha)
    rw [hf] at hrank
    generalize ofTally (ofCalls calls) = p at hrank hactive
    have hrank : p.rank = c.state.rank := hrank
    cases hs : c.state with
    | idle | disconnecting | disconnected =>
      rw [hs] at hlive
      cases hlive
    | _ =>
      -- Only postures on a par with the state are left.
      rw [hs] at hrank
      cases p <;> first
        | exact absurd hrank (by decide)
        | constructor <;> simp_all [CallState.isRinging, CallState.isConnecting]

/-! ## The audio side -/

/-- Calls of distinct numbers can be registered, whatever their order. -/
theorem exists_registry (hd : (calls.map (·.id)).Nodup) : ∃ r : Registry, r.calls.Perm calls := by
  induction calls with
  | nil => exact ⟨.empty, .nil⟩
  | cons c rest ih =>
    obtain ⟨hc, hrest⟩ := List.nodup_cons.mp hd
    obtain ⟨r, hr⟩ := ih hrest
    have hnew : ∀ x ∈ r.calls, x.id ≠ c.id := fun x hx hid =>
      hc (List.mem_map.mpr ⟨x, hr.mem_iff.mp hx, hid⟩)
    obtain ⟨before, after, hsplit, hplace⟩ := Registry.place_split c r.calls
    refine ⟨{ r with
      calls := Registry.place c r.calls
      ascending := Registry.ascending_place r.ascending hnew }, ?_⟩
    show (Registry.place c r.calls).Perm (c :: rest)
    rw [hplace, List.append_assoc]
    exact List.perm_middle.trans (.cons c (hsplit ▸ hr))

/-- Where the foreground call is active, it leads, and no other call does. -/
theorem Desk.leads_iff {d : Desk} (hc : d.registry.foreground? = some c) (ha : c.state = .active)
    (hx : x ∈ d.registry.calls) : d.leads x.id = decide (x = c) := by
  unfold leads
  rw [Registry.head?_findByState_active, hc]
  simp only [Option.filter_some, ha, beq_self_eq_true, if_true, Option.any_some]
  by_cases he : x = c
  · simp [he]
  · have hne : c.id ≠ x.id := fun hid =>
      he (Registry.eq_of_id_eq hx (mem_of_foreground? hc) hid.symm)
    simp [he, hne]

/-- **The foreground.** For calls of distinct numbers, in any order: the order does not matter to
the foreground, there is none if and only if every call is terminal, and the posture reflects it. If
some call is active, the foreground call is, the registry gives it as the first active call, and a
change of bearer is a signal to the posture machine if and only if the bearer is that of this call.
-/
theorem foreground_agrees (hd : (calls.map (·.id)).Nodup) :
    (∀ other, other.Perm calls → foreground? other = foreground? calls) ∧
    (foreground? calls = none ↔ ∀ c ∈ calls, c.state.isTerminal = true) ∧
    (ofTally (ofCalls calls)).Reflects (foreground? calls) ∧
    (hasActive calls = true → ∃ c, foreground? calls = some c ∧ c.state = .active ∧
      (∃ d : Desk, d.registry.calls.Perm calls) ∧
      ∀ d : Desk, d.registry.calls.Perm calls →
        (d.registry.findByState .active).head? = some c ∧
        ∀ x ∈ calls, ∀ old new, (AudioOperation.bearerChanged x.id old new).perform d =
          (.result (.ok ()), d.handedOver (x = c) old new)) := by
  refine ⟨fun _ => foreground?_perm hd, foreground?_eq_none_iff, reflects_foreground? calls,
    fun hactive => ?_⟩
  obtain ⟨c, hc, ha⟩ := hasActive_iff.mp hactive
  obtain ⟨r, hr⟩ := exists_registry hd
  refine ⟨c, hc, ha, ⟨{ Desk.idle .standard (.willing 0) with registry := r }, hr⟩, fun d hp => ?_⟩
  have hfront : d.registry.foreground? = some c := (foreground?_perm hd hp).trans hc
  refine ⟨?_, fun x hx old new => ?_⟩
  · rw [Registry.head?_findByState_active, hfront]
    simp [ha]
  · have hx := hp.mem_iff.mpr hx
    have hends : (Desk.bearerChanged x.id old new).perform d =
        (.ok (), d.handedOver (x = c) old new) :=
      DeskM.Ends.perform_eq ((Desk.ends_bearerChanged_of_mem hx).mpr
        (by rw [Desk.leads_iff hfront ha hx]))
    show Operation.conclude (Desk.bearerChanged x.id old new) d = _
    rw [Operation.conclude, hends]

/-- A ringing, an active and a held call, in descending order: the active one is in front. -/
theorem foreground_agrees_descending :
    let held := Call.fresh 1 0 .cs .holding .outgoing "1"
    let talking := Call.fresh 2 0 .ims .active .outgoing "2"
    let ringing := Call.fresh 3 0 .cs .waiting .incoming "3"
    let calls := [ringing, talking, held]
    (calls.map (·.id)).Nodup ∧ foreground? calls = some talking ∧
      foreground? [held, talking, ringing] = some talking ∧ ofTally (ofCalls calls) = .ims ∧
      ∃ d : Desk, d.registry.calls.Perm calls ∧
        (d.registry.findByState .active).head? = some talking := by
  intro held talking ringing calls
  have hd : (calls.map (·.id)).Nodup := by decide
  have hactive : hasActive calls = true := by decide
  obtain ⟨hperm, -, hreflects, hfront⟩ := foreground_agrees hd
  obtain ⟨c, hc, -, ⟨d, hr⟩, hall⟩ := hfront hactive
  have htalking : foreground? calls = some talking := by decide
  obtain rfl := Option.some.inj (hc.symm.trans htalking)
  have hother := hperm [held, talking, ringing] (by decide)
  have hposture := (hreflects.bearer talking (by rw [htalking]; rfl) (by decide) (by decide)
    (by decide)).2.ims rfl
  exact ⟨hd, hc, hother.trans hc, hposture, d, hr, (hall d hr).1⟩

end Switchboard
