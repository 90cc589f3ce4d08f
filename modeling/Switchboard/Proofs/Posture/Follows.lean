import Switchboard.Posture.Edges
import Switchboard.Posture.Machine

/-!
# The posture follows the calls

What the signals of one call's move, and the correction after them, make of a posture that was in
line with the calls before the move.

* `Posture.Follows`: the posture is the one that the tally calls for. There is one exception: it may
  still be `incoming` while a call rings, none is active, and one has come to dial or alert.
* `Posture.Bears`: the posture is that of an active call of a bearer.
* `Posture.Tenable`: a posture that the correction (`Posture.settle`) turns into one that follows.
* `Follows.afterMove`: the move of one call keeps `Follows`.
-/

namespace Switchboard

/-! ## Counts of the classes -/

/-- How many calls of a class a tally counts. -/
def Tally.count (t : Tally) : CallClass → Nat
  | .dialing => t.dialing
  | .alerting => t.alerting
  | .ringing => t.ringing
  | .active => t.active

theorem Tally.count_ofCalls (calls : List Call) (k : CallClass) :
    (Tally.ofCalls calls).count k = k.count calls := by
  cases k <;> refine List.countP_congr fun c _ => ?_ <;> cases c.state <;> decide

namespace Posture

/-! ## Postures and tallies -/

/-- The posture is the one that the calls call for, or it is still `incoming`: a call rings, none is
active, and one has come to dial or alert. -/
def Follows (p : Posture) (t : Tally) : Prop :=
  p = ofTally t ∨ (p = .incoming ∧ 0 < t.ringing ∧ t.active = 0 ∧ (0 < t.dialing ∨ 0 < t.alerting))

/-- The posture is that of an active call of a bearer. Applications and third-party voice services
share one. -/
structure Bears (p : Posture) (b : Bearer) : Prop where
  cs : b = .cs → p = .cs
  ims : b = .ims → p = .ims
  ott : b = .ott ∨ b = .voip → p = .ott

theorem bears_iff {p : Posture} {b : Bearer} : p.Bears b ↔ p = ofBearer (some b) := by
  constructor
  · rintro ⟨hcs, hims, hott⟩
    cases b with
    | cs => exact hcs rfl
    | ims => exact hims rfl
    | ott => exact hott (.inl rfl)
    | voip => exact hott (.inr rfl)
  · rintro rfl
    cases b <;> constructor <;> simp [ofBearer]

/-- The calls that a posture speaks of are there, and those that come before them are not. A ringing
call may have dialing and alerting ones beside it. -/
def Tenable (t : Tally) : Posture → Prop
  | .dialing => 0 < t.dialing ∧ t.alerting = 0 ∧ t.active = 0
  | .alerting => 0 < t.alerting ∧ t.active = 0
  | .incoming => 0 < t.ringing ∧ t.active = 0
  | .holding | .inactive => ∀ k, t.count k = 0
  | .cs | .ims | .ott => 0 < t.active

theorem isBearer_ofBearer (b : Option Bearer) : (ofBearer b).isBearer = true := by
  rcases b with _ | _ | _ | _ | _ <;> rfl

theorem tenable_iff_of_isBearer {p : Posture} (h : p.isBearer = true) (t : Tally) :
    Tenable t p ↔ 0 < t.active := by
  cases p <;> first | exact Iff.rfl | cases h

theorem tenable_ofTally (t : Tally) : Tenable t (ofTally t) := by
  unfold ofTally
  split
  · rwa [tenable_iff_of_isBearer (isBearer_ofBearer _)]
  split
  · exact ⟨‹_›, by omega⟩
  split
  · exact ⟨‹_›, by omega, by omega⟩
  split
  · exact ⟨‹_›, by omega⟩
  split
  all_goals
    intro k
    cases k <;> simp only [Tally.count] <;> omega

theorem Follows.tenable {p : Posture} {t : Tally} (h : p.Follows t) : Tenable t p := by
  rcases h with rfl | ⟨rfl, hr, ha, -⟩
  · exact tenable_ofTally t
  · exact ⟨hr, ha⟩

/-! ## The correction -/

/-- The posture after the correction: where it strays, the one that the calls call for. -/
def settle (p : Posture) (t : Tally) : Posture := if p.strays (ofTally t) t then ofTally t else p

/-- A posture of an active call, at rest or on hold is always corrected. -/
theorem settle_eq_ofTally {p : Posture} {t : Tally}
    (hp : p = .inactive ∨ p = .holding ∨ p.isBearer = true) : p.settle t = ofTally t := by
  unfold settle
  split
  · rfl
  · rename_i hs
    by_cases he : p = ofTally t
    · exact he
    · have hb : t.active = 0 ∨ (ofTally t).isBearer = true := by
        rcases Nat.eq_zero_or_pos t.active with h | h
        · exact .inl h
        · refine .inr ?_
          rw [ofTally, if_pos h]
          exact isBearer_ofBearer _
      exfalso
      apply hs
      simp only [strays, Bool.and_eq_true, Bool.or_eq_true, bne_iff_ne, beq_iff_eq]
      refine ⟨he, ?_⟩
      rcases hp with hp | hp | hp
      · exact .inl (.inl (.inr hp))
      · exact .inl (.inr hp)
      · exact .inr ⟨hp, hb.symm⟩

/-- The correction brings every tenable posture in line with the calls. -/
theorem Tenable.follows_settle {p : Posture} {t : Tally} (h : Tenable t p) :
    (p.settle t).Follows t := by
  cases p with
  | dialing =>
    have he : ofTally t = .dialing := by simp [ofTally, h.1, h.2.1, h.2.2]
    exact .inl (by simp [settle, he])
  | alerting =>
    have he : ofTally t = .alerting := by simp [ofTally, h.1, h.2]
    exact .inl (by simp [settle, he])
  | incoming =>
    unfold settle
    split
    · exact .inl rfl
    · by_cases hc : 0 < t.dialing ∨ 0 < t.alerting
      · exact .inr ⟨rfl, h.1, h.2, hc⟩
      · refine .inl ?_
        simp only [not_or, Nat.not_lt, Nat.le_zero_eq] at hc
        simp [ofTally, h.1, h.2, hc.1, hc.2]
  | inactive => exact .inl (settle_eq_ofTally (.inl rfl))
  | holding => exact .inl (settle_eq_ofTally (.inr (.inl rfl)))
  | cs => exact .inl (settle_eq_ofTally (.inr (.inr rfl)))
  | ims => exact .inl (settle_eq_ofTally (.inr (.inr rfl)))
  | ott => exact .inl (settle_eq_ofTally (.inr (.inr rfl)))

theorem settle_ofTally (t : Tally) : (ofTally t).settle t = ofTally t := by
  simp [settle]

/-! ## The signals of a move -/

/-- The posture after a signal. -/
def after (p : Posture) (t : Tally) (s : Signal) : Posture :=
  match p.next s t with
  | .refuse | .stay | .waitingTone => p
  | .goto next => next
  | .reevaluate => ofTally t

theorem after_of_refuse {p : Posture} {t : Tally} {s : Signal} (h : p.next s t = .refuse) :
    p.after t s = p := by
  rw [after, h]

/-- The signal that a class is empty either leaves the posture alone or picks it from scratch. -/
theorem after_lastSignal (p : Posture) (t : Tally) (k : CallClass) :
    p.after t k.lastSignal = p ∨ p.after t k.lastSignal = ofTally t := by
  cases k <;> cases p <;> first | exact .inl rfl | exact .inr rfl

/-- A bearer's posture stays one until the active calls are gone. -/
theorem isBearer_after_firstSignal {p : Posture} (h : p.isBearer = true) (t : Tally)
    (k : CallClass) (b : Bearer) : (p.after t (k.firstSignal b)).isBearer = true := by
  cases p <;> cases k <;> cases b <;> first | rfl | cases h

/-- The first active call takes a posture that waits for it to that of a bearer. -/
theorem isBearer_after_active {p : Posture} {t : Tally} (h : t.active = 1)
    (hp : p = .dialing ∨ p = .alerting ∨ p = .incoming) (b : Bearer) :
    (p.after t (CallClass.active.firstSignal b)).isBearer = true := by
  rcases hp with rfl | rfl | rfl <;> cases b <;>
    simp [after, CallClass.firstSignal, next, h, isBearer]

end Posture

/-- The counts before and after one call has moved from a class to another. -/
def Tally.Moves (t₀ t : Tally) (prior next : Option CallClass) : Prop :=
  ∀ k, t₀.count k + (if next = some k then 1 else 0) = t.count k + (if prior = some k then 1 else 0)

section

variable {t₀ t : Tally} {prior next : Option CallClass}

/-- Only the class that the call has gone to can have come to be. -/
theorem Tally.Moves.eq_zero (hm : t₀.Moves t prior next) (k : CallClass) (h : t₀.count k = 0)
    (hn : next ≠ some k) : t.count k = 0 := by
  have := hm k
  rw [if_neg hn] at this
  omega

/-- Only the class that the call has left can have come to be empty. -/
theorem Tally.Moves.prior_eq (hm : t₀.Moves t prior next) (k : CallClass) (h : 0 < t₀.count k)
    (hz : t.count k = 0) : prior = some k := by
  have := hm k
  by_cases hp : prior = some k
  · exact hp
  · rw [if_neg hp] at this
    omega

/-- The class that the call has gone to has one call if it had none. -/
theorem Tally.Moves.eq_one (hm : t₀.Moves t prior next) (k : CallClass) (h : t₀.count k = 0)
    (hne : prior ≠ next) (hn : next = some k) : t.count k = 1 := by
  have := hm k
  rw [if_pos hn, if_neg (hn ▸ hne)] at this
  omega

namespace Posture

/-- What the correction, or else the signal that the class which the call left is empty, puts in
line with the calls. -/
def Mendable (t : Tally) (prior : Option CallClass) (p : Posture) : Prop :=
  p = .inactive ∨ p = .holding ∨ p.isBearer = true ∨ Tenable t p ∨
    ∃ k, prior = some k ∧ t.count k = 0 ∧ p.after t k.lastSignal = ofTally t

/-- The posture after the signal of the first call of a class. -/
def afterFirst (p : Posture) (t : Tally) (b : Bearer) : Option CallClass → Posture
  | some k => if t.count k = 1 then p.after t (k.firstSignal b) else p
  | none => p

/-- The posture after the signal that a class is empty. -/
def afterLast (p : Posture) (t : Tally) : Option CallClass → Posture
  | some k => if t.count k = 0 then p.after t k.lastSignal else p
  | none => p

theorem afterFirst_eq (p : Posture) (b : Bearer) (k : CallClass) (h : t.count k = 1) :
    p.afterFirst t b (some k) = p.after t (k.firstSignal b) := if_pos h

/-- A signal that the posture refuses leaves it as it was. -/
theorem afterFirst_of_refuse {p : Posture} {b : Bearer}
    (h : ∀ k, next = some k → p.next (k.firstSignal b) t = .refuse) :
    p.afterFirst t b next = p := by
  cases next with
  | none => rfl
  | some k =>
    by_cases hk : t.count k = 1
    · rw [afterFirst_eq p b k hk, after_of_refuse (h k rfl)]
    · exact if_neg hk

/-- From `dialing`, the first active and the first alerting call take the posture along. -/
theorem mendable_dialing (h : Tenable t₀ .dialing) (hm : t₀.Moves t prior next)
    (hne : prior ≠ next) (b : Bearer) : Mendable t prior (dialing.afterFirst t b next) := by
  obtain ⟨hd, ha, hx⟩ := h
  by_cases hna : next = some .active
  · have h1 : t.active = 1 := hm.eq_one .active hx hne hna
    rw [hna, afterFirst_eq _ b .active h1]
    exact .inr (.inr (.inl (isBearer_after_active h1 (.inl rfl) b)))
  have hx' : t.active = 0 := hm.eq_zero .active hx hna
  by_cases hnl : next = some .alerting
  · have h1 : t.alerting = 1 := hm.eq_one .alerting ha hne hnl
    rw [hnl, afterFirst_eq _ b .alerting h1]
    exact .inr (.inr (.inr (.inl ⟨by omega, hx'⟩)))
  have ha' : t.alerting = 0 := hm.eq_zero .alerting ha hnl
  rw [afterFirst_of_refuse fun k hk => by cases k <;> first | rfl | contradiction]
  -- No signal was taken: the last dialing call has left, or one is still there.
  rcases Nat.eq_zero_or_pos t.dialing with hd' | hd'
  · exact .inr (.inr (.inr (.inr ⟨.dialing, hm.prior_eq .dialing hd hd', hd', rfl⟩)))
  · exact .inr (.inr (.inr (.inl ⟨hd', ha', hx'⟩)))

/-- From `alerting`, only the first active call takes the posture along. -/
theorem mendable_alerting (h : Tenable t₀ .alerting) (hm : t₀.Moves t prior next)
    (hne : prior ≠ next) (b : Bearer) : Mendable t prior (alerting.afterFirst t b next) := by
  obtain ⟨ha, hx⟩ := h
  by_cases hna : next = some .active
  · have h1 : t.active = 1 := hm.eq_one .active hx hne hna
    rw [hna, afterFirst_eq _ b .active h1]
    exact .inr (.inr (.inl (isBearer_after_active h1 (.inr (.inl rfl)) b)))
  have hx' : t.active = 0 := hm.eq_zero .active hx hna
  rw [afterFirst_of_refuse fun k hk => by cases k <;> first | rfl | contradiction]
  rcases Nat.eq_zero_or_pos t.alerting with ha' | ha'
  · exact .inr (.inr (.inr (.inr ⟨.alerting, hm.prior_eq .alerting ha ha', ha', rfl⟩)))
  · exact .inr (.inr (.inr (.inl ⟨ha', hx'⟩)))

/-- From `incoming`, only the first active call takes the posture along. -/
theorem mendable_incoming (h : Tenable t₀ .incoming) (hm : t₀.Moves t prior next)
    (hne : prior ≠ next) (b : Bearer) : Mendable t prior (incoming.afterFirst t b next) := by
  obtain ⟨hr, hx⟩ := h
  by_cases hna : next = some .active
  · have h1 : t.active = 1 := hm.eq_one .active hx hne hna
    rw [hna, afterFirst_eq _ b .active h1]
    exact .inr (.inr (.inl (isBearer_after_active h1 (.inr (.inr rfl)) b)))
  have hx' : t.active = 0 := hm.eq_zero .active hx hna
  rw [afterFirst_of_refuse fun k hk => by cases k <;> first | rfl | contradiction]
  rcases Nat.eq_zero_or_pos t.ringing with hr' | hr'
  · exact .inr (.inr (.inr (.inr ⟨.ringing, hm.prior_eq .ringing hr hr', hr', rfl⟩)))
  · exact .inr (.inr (.inr (.inl ⟨hr', hx'⟩)))

theorem isBearer_afterFirst {p : Posture} (h : p.isBearer = true) (b : Bearer) :
    (p.afterFirst t b next).isBearer = true := by
  unfold afterFirst
  split
  · split
    · exact isBearer_after_firstSignal h t _ b
    · exact h
  · exact h

/-- From rest every call takes the posture along. -/
theorem mendable_inactive (h : ∀ k, t₀.count k = 0) (hm : t₀.Moves t prior next)
    (hne : prior ≠ next) (b : Bearer) : Mendable t prior (inactive.afterFirst t b next) := by
  have zero (k : CallClass) : next ≠ some k → t.count k = 0 := hm.eq_zero k (h k)
  have one (k : CallClass) : next = some k → t.count k = 1 := hm.eq_one k (h k) hne
  rcases next with _ | _ | _ | _ | _
  · exact .inl rfl
  · rw [afterFirst_eq _ b _ (one _ rfl)]
    have hd : t.dialing = 1 := one .dialing rfl
    exact .inr (.inr (.inr (.inl
      ⟨by omega, zero .alerting (by decide), zero .active (by decide)⟩)))
  · rw [afterFirst_eq _ b _ (one _ rfl)]
    have ha : t.alerting = 1 := one .alerting rfl
    exact .inr (.inr (.inr (.inl ⟨by omega, zero .active (by decide)⟩)))
  · rw [afterFirst_eq _ b _ (one _ rfl)]
    have hr : t.ringing = 1 := one .ringing rfl
    exact .inr (.inr (.inr (.inl ⟨by omega, zero .active (by decide)⟩)))
  · rw [afterFirst_eq _ b _ (one _ rfl)]
    exact .inr (.inr (.inl (by cases b <;> rfl)))

/-- From `holding` the first ringing and the first active call do. -/
theorem mendable_holding (h : ∀ k, t₀.count k = 0) (hm : t₀.Moves t prior next)
    (hne : prior ≠ next) (b : Bearer) : Mendable t prior (holding.afterFirst t b next) := by
  have one (k : CallClass) : next = some k → t.count k = 1 := hm.eq_one k (h k) hne
  rcases next with _ | _ | _ | _ | _
  · exact .inr (.inl rfl)
  · exact .inr (.inl (by rw [afterFirst_eq _ b _ (one _ rfl)]; rfl))
  · exact .inr (.inl (by rw [afterFirst_eq _ b _ (one _ rfl)]; rfl))
  · have hr : t.ringing = 1 := one .ringing rfl
    have hx : t.active = 0 := hm.eq_zero .active (h .active) (by decide)
    have he : holding.afterFirst t b (some .ringing) = .incoming := by
      simp [afterFirst_eq _ b .ringing hr, after, CallClass.firstSignal, next, hr]
    rw [he]
    exact .inr (.inr (.inr (.inl ⟨by omega, hx⟩)))
  · have hx : t.active = 1 := one .active rfl
    rw [afterFirst_eq _ b .active hx]
    refine .inr (.inr (.inl ?_))
    cases b <;> simp [after, CallClass.firstSignal, next, hx, isBearer]

/-- After the signal of a first call every posture can be put in line. -/
theorem Tenable.mendable {p : Posture} (h : Tenable t₀ p) (hm : t₀.Moves t prior next)
    (hne : prior ≠ next) (b : Bearer) : Mendable t prior (p.afterFirst t b next) := by
  cases p with
  | dialing => exact mendable_dialing h hm hne b
  | alerting => exact mendable_alerting h hm hne b
  | incoming => exact mendable_incoming h hm hne b
  | inactive => exact mendable_inactive h hm hne b
  | holding => exact mendable_holding h hm hne b
  | cs => exact .inr (.inr (.inl (isBearer_afterFirst rfl b)))
  | ims => exact .inr (.inr (.inl (isBearer_afterFirst rfl b)))
  | ott => exact .inr (.inr (.inl (isBearer_afterFirst rfl b)))

/-- The signal that a class is empty does no harm to a posture that the correction puts in line. -/
theorem follows_settle_afterLast {p : Posture} (h : (p.settle t).Follows t)
    (prior : Option CallClass) : ((p.afterLast t prior).settle t).Follows t := by
  unfold afterLast
  split
  · split
    · rename_i k _
      rcases after_lastSignal p t k with he | he
      · rwa [he]
      · rw [he, settle_ofTally]
        exact .inl rfl
    · exact h
  · exact h

/-- After both signals of a move the correction puts every such posture in line. -/
theorem Mendable.follows_settle {p : Posture} (h : Mendable t prior p) :
    ((p.afterLast t prior).settle t).Follows t := by
  rcases h with h | h | h | h | ⟨k, rfl, hk, he⟩
  · exact follows_settle_afterLast (.inl (settle_eq_ofTally (.inl h))) prior
  · exact follows_settle_afterLast (.inl (settle_eq_ofTally (.inr (.inl h)))) prior
  · exact follows_settle_afterLast (.inl (settle_eq_ofTally (.inr (.inr h)))) prior
  · exact follows_settle_afterLast h.follows_settle prior
  · rw [afterLast, if_pos hk, he, settle_ofTally]
    exact .inl rfl

/-- The signals of a move, and the correction after them, put the posture in line with the calls. -/
theorem Tenable.follows_settle_move {p : Posture} (h : Tenable t₀ p) (hm : t₀.Moves t prior next)
    (hne : prior ≠ next) (b : Bearer) :
    (((p.afterFirst t b next).afterLast t prior).settle t).Follows t :=
  (h.mendable hm hne b).follows_settle

/-- A change of bearer is a matter of the postures of bearers alone. -/
theorem Tenable.after_bearerSignal {p : Posture} (h : Tenable t p) {s : Signal}
    (hs : s = .csBecameIms ∨ s = .imsBecameCs) : Tenable t (p.after t s) := by
  rcases hs with rfl | rfl <;> cases p <;> exact h

end Posture

/-! ## The move of one call -/

/-- The counts do not change as a call moves within its class. -/
theorem Tally.Moves.count_eq (hm : t₀.Moves t prior prior) (k : CallClass) :
    t₀.count k = t.count k := by
  have := hm k
  omega

/-- One call of a list is replaced: it comes, goes or changes. -/
theorem Tally.moves_of_replaced (before after : List Call) (old new : Option Call) :
    (Tally.ofCalls (before ++ old.toList ++ after)).Moves
      (Tally.ofCalls (before ++ new.toList ++ after))
      ((old.map (·.state)).bind CallClass.of?) ((new.map (·.state)).bind CallClass.of?) := by
  intro k
  rw [count_ofCalls, count_ofCalls]
  cases old <;> cases new <;>
    simp only [CallClass.count, Option.toList_none, Option.toList_some, Option.map_none,
      Option.map_some, Option.bind_none, Option.bind_some, List.append_nil, List.countP_append,
      List.countP_singleton, beq_iff_eq, reduceCtorEq, if_false] <;>
    omega

namespace Posture

theorem Tenable.congr {p : Posture} (h : Tenable t₀ p) (hc : ∀ k, t₀.count k = t.count k) :
    Tenable t p := by
  have hd : t₀.dialing = t.dialing := hc .dialing
  have ha : t₀.alerting = t.alerting := hc .alerting
  have hr : t₀.ringing = t.ringing := hc .ringing
  have hx : t₀.active = t.active := hc .active
  cases p with
  | dialing => exact ⟨hd ▸ h.1, ha ▸ h.2.1, hx ▸ h.2.2⟩
  | alerting => exact ⟨ha ▸ h.1, hx ▸ h.2⟩
  | incoming => exact ⟨hr ▸ h.1, hx ▸ h.2⟩
  | inactive | holding => exact fun k => hc k ▸ h k
  | cs | ims | ott =>
    have hp : 0 < t₀.active := h
    rwa [hx] at hp

/-- The posture after the signals of a move. -/
theorem foldl_after_edges (p : Posture) (calls : List Call) (b : Bearer)
    {prior next : Option CallState} (hne : prior.bind CallClass.of? ≠ next.bind CallClass.of?) :
    (edges calls b prior next).foldl (·.after (Tally.ofCalls calls) ·) p =
      (p.afterFirst (Tally.ofCalls calls) b (next.bind CallClass.of?)).afterLast
        (Tally.ofCalls calls) (prior.bind CallClass.of?) := by
  unfold edges
  dsimp only
  rw [if_neg hne, List.foldl_append]
  cases next.bind CallClass.of? <;> cases prior.bind CallClass.of? <;>
    simp only [afterFirst, afterLast, Tally.count_ofCalls] <;>
    (repeat' split) <;> rfl

/-- The posture after the signals of a call's move and the correction. -/
def afterMove (p : Posture) (calls : List Call) (b : Bearer) (prior next : Option CallState) :
    Posture :=
  ((edges calls b prior next).foldl (·.after (.ofCalls calls) ·) p).settle (.ofCalls calls)

/-- A posture that followed the calls before a move follows them after it. -/
theorem Follows.afterMove {p : Posture} {calls : List Call} {prior next : Option CallState}
    (h : p.Follows t₀)
    (hm : t₀.Moves (.ofCalls calls) (prior.bind CallClass.of?) (next.bind CallClass.of?))
    (b : Bearer) : (p.afterMove calls b prior next).Follows (.ofCalls calls) := by
  unfold Posture.afterMove
  by_cases hne : prior.bind CallClass.of? = next.bind CallClass.of?
  · have he : edges calls b prior next = [] := by
      unfold edges
      dsimp only
      rw [if_pos hne]
    rw [he]
    rw [hne] at hm
    exact (h.tenable.congr hm.count_eq).follows_settle
  · rw [foldl_after_edges p calls b hne]
    exact h.tenable.follows_settle_move hm hne b

end Posture
end
end Switchboard
