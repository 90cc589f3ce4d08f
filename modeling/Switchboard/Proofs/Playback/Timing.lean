import Switchboard.Proofs.Playback.Ledger

/-!
# How playbacks keep time

A playback that has the renderer takes a course that is fixed from its opening on: it renders period
after period, ends at its limit or where the renderer breaks off, whichever is first, and before
that if it is stopped. The loop of the worker waits for one period at a time; here its course is put
in closed form.

* `Course`, `Course.end?`, `Course.phaseAt`: when a playback ends and how, and where it stands at a
  moment.
* `Course.AtHand`: a period is at hand that is going to be rendered, or cut short. The loop goes
  from one such period to the next (`AtHand.next`), and so keeps to the course
  (`AtHand.phase_render`).
* `Studio.Follows`: a worker has not run yet, was refused, or stands where its course has it.
* `playback_keeps_time`: the result, for every run of the players.
-/

namespace Switchboard.Playback

/-! ## Workers -/

namespace Worker

variable (w : Worker) (stage : Stage) {deadline due rendered : Nat} {expiry : Option Nat}

/-- A worker that has ended is not stopped. -/
theorem stop_of_isFinished (h : w.isFinished = true) : w.stop stage = (w, stage) := by
  unfold stop
  split
  · rename_i hphase
    rw [(of_rendering hphase).2] at h
    cases h
  · rfl

/-- A limit that does not end the period at hand. -/
theorem lt_of_not_expired
    (h : ¬(expiry.any fun e => decide (e ≤ due) && decide (e ≤ deadline)) = true) {e : Nat}
    (he : expiry = some e) : due < e ∨ deadline < e := by
  simpa [he, Nat.not_le, imp_iff_not_or] using h

/-- A worker that renders changes in where it stands alone. -/
theorem render_eq (deadline : Nat) (expiry : Option Nat) (due rendered : Nat) :
    ∃ phase, (w.render deadline expiry due rendered stage).1 = { w with phase } := by
  fun_induction w.render deadline expiry due rendered stage with
  | case1 | case2 => exact ⟨_, rfl⟩
  | case3 due rendered stage _ _ stage' _ ih => exact ih
  | case4 => exact ⟨_, rfl⟩

theorem run_eq (willing : Bool) (now deadline : Nat) :
    ∃ phase, (w.run willing now deadline stage).1 = { w with phase } := by
  unfold run
  split
  · unfold start
    split
    · exact w.render_eq _ _ _ _ _
    · exact ⟨_, rfl⟩
  · exact w.render_eq _ _ _ _ _
  · exact ⟨_, rfl⟩

theorem stop_eq : ∃ phase, (w.stop stage).1 = { w with phase } := by
  unfold stop
  split <;> exact ⟨_, rfl⟩

/-- A worker that goes on rendering goes on for some time. -/
theorem lt_endsAt?_render {r : Renderer} {m : Nat}
    (h : (w.render deadline expiry due rendered stage).1.endsAt? r = some m) : deadline < m := by
  fun_induction w.render deadline expiry due rendered stage with
  | case1 | case2 => cases h
  | case3 due rendered stage _ _ stage' _ ih => exact ih h
  | case4 due rendered stage he hdue =>
    have hlimit (e : Nat) (hx : expiry = some e) : deadline < e := by
      have := lt_of_not_expired he hx
      omega
    unfold endsAt? at h
    dsimp only at h
    by_cases h0 : r.failAfter = 0
    · rw [if_pos h0] at h
      exact hlimit m (by cases expiry <;> exact h)
    · rw [if_neg h0] at h
      cases expiry with
      | none =>
        cases h
        omega
      | some e =>
        have := hlimit e rfl
        cases h
        omega

theorem lt_endsAt?_run {willing : Bool} {now : Nat} {r : Renderer} {m : Nat}
    (h : (w.run willing now deadline stage).1.endsAt? r = some m) : deadline < m := by
  unfold run at h
  split at h
  · unfold start at h
    split at h
    · exact w.lt_endsAt?_render _ h
    · cases h
  · exact w.lt_endsAt?_render _ h
  · rename_i hphase
    simp [endsAt?, hphase] at h

end Worker

/-! ## The course of a playback -/

/-- What the course of a playback depends on: when the renderer was opened, how long a period and
the whole playback may take, and after how many periods the renderer breaks off. -/
structure Course where
  opened : Nat
  period : Nat
  limit : Option Nat
  failAfter : Nat
  deriving DecidableEq, Repr

namespace Course

variable (c : Course)

/-- When the limit is up. -/
def expires? : Option Nat := c.limit.map (c.opened + ·)

/-- When the renderer breaks off. -/
def breaks? : Option Nat :=
  if c.failAfter = 0 then none else some (c.opened + c.failAfter * c.period)

/-- How many whole periods there are up to a moment. -/
def periods (now : Nat) : Nat := (now - c.opened) / c.period

/-- When the playback ends by itself, and how. -/
def ownEnd? : Option (Nat × Outcome) :=
  match c.breaks?, c.expires? with
  | some f, some e => if f < e then some (f, .failed Renderer.broken) else some (e, .completed)
  | some f, none => some (f, .failed Renderer.broken)
  | none, some e => some (e, .completed)
  | none, none => none

/-- When the playback ends, and how, if it is told to stop at the moment `stop?`. -/
def end? (stop? : Option Nat) : Option (Nat × Outcome) :=
  match stop?, c.ownEnd? with
  | some m, some (e, outcome) => if m < e then some (m, .stopped) else some (e, outcome)
  | some m, none => some (m, .stopped)
  | none, e? => e?

/-- Where the playback stands at a moment if it has not ended. -/
def midway (now : Nat) : Phase :=
  .rendering c.expires? (c.opened + (c.periods now + 1) * c.period) (c.periods now)

/-- Where the playback stands at the moment `now`. -/
def phaseAt (stop? : Option Nat) (now : Nat) : Phase :=
  match c.end? stop? with
  | some (m, outcome) => if m ≤ now then .ended outcome (c.periods m) else c.midway now
  | none => c.midway now

/-- The limit is not up at the end of a period. -/
def Uneven : Prop := ∀ limit, c.limit = some limit → ¬c.period ∣ limit

variable {c} {stop? : Option Nat} {now later m : Nat} {outcome : Outcome}

theorem breaks?_eq_some_iff {f : Nat} :
    c.breaks? = some f ↔ c.failAfter ≠ 0 ∧ f = c.opened + c.failAfter * c.period := by
  unfold breaks?
  split <;> simp_all [eq_comm]

/-- The limit is up before the renderer breaks off. -/
theorem ownEnd?_of_expires {e : Nat} (he : c.expires? = some e)
    (hf : ∀ f, c.breaks? = some f → e ≤ f) : c.ownEnd? = some (e, .completed) := by
  unfold ownEnd?
  rw [he]
  cases hb : c.breaks? with
  | none => rfl
  | some f => exact if_neg (Nat.not_lt.mpr (hf f hb))

/-- The renderer breaks off before the limit is up. -/
theorem ownEnd?_of_breaks {f : Nat} (hf : c.breaks? = some f)
    (he : ∀ e, c.expires? = some e → f < e) :
    c.ownEnd? = some (f, .failed Renderer.broken) := by
  unfold ownEnd?
  rw [hf]
  cases hx : c.expires? with
  | none => rfl
  | some e => exact if_pos (he e hx)

/-- What comes before both comes before the end. -/
theorem lt_ownEnd? (hf : ∀ f, c.breaks? = some f → now < f)
    (he : ∀ e, c.expires? = some e → now < e) (h : c.ownEnd? = some (m, outcome)) : now < m := by
  unfold ownEnd? at h
  split at h
  · rename_i f e hf' he'
    split at h <;> cases h
    · exact hf _ hf'
    · exact he _ he'
  · rename_i f hf' _
    cases h
    exact hf _ hf'
  · rename_i e _ he'
    cases h
    exact he _ he'
  · cases h

theorem phaseAt_of_le (h : c.end? stop? = some (m, outcome)) (hm : m ≤ now) :
    c.phaseAt stop? now = .ended outcome (c.periods m) := by
  unfold phaseAt
  rw [h]
  exact if_pos hm

theorem phaseAt_of_lt (h : ∀ m outcome, c.end? stop? = some (m, outcome) → now < m) :
    c.phaseAt stop? now = c.midway now := by
  unfold phaseAt
  split
  · rename_i m outcome he
    exact if_neg (Nat.not_le.mpr (h m outcome he))
  · rfl

/-- A playback has ended, or goes on. -/
theorem end?_cases (c : Course) (stop? : Option Nat) (now : Nat) :
    (∃ m outcome, c.end? stop? = some (m, outcome) ∧ m ≤ now) ∨
      ∀ m outcome, c.end? stop? = some (m, outcome) → now < m := by
  cases h : c.end? stop? with
  | none => exact .inr fun m outcome he => by cases he
  | some x =>
    obtain ⟨m, outcome⟩ := x
    rcases Nat.lt_or_ge now m with hlt | hge
    · exact .inr fun m' outcome' he => by cases he; exact hlt
    · exact .inl ⟨m, outcome, rfl, hge⟩

/-- A playback that was told to stop has ended. -/
theorem end?_of_stopped (c : Course) (hm : m ≤ now) :
    ∃ m' outcome, c.end? (some m) = some (m', outcome) ∧ m' ≤ now := by
  unfold end?
  cases c.ownEnd? with
  | none => exact ⟨m, .stopped, rfl, hm⟩
  | some x =>
    obtain ⟨e, outcome⟩ := x
    dsimp only
    split
    · exact ⟨m, .stopped, rfl, hm⟩
    · exact ⟨e, outcome, rfl, by omega⟩

/-- To be told to stop after the end does not matter. -/
theorem end?_of_stopped_late (h : c.end? stop? = some (m, outcome)) (hm : m ≤ now) :
    c.end? (stop?.or (some now)) = some (m, outcome) := by
  cases stop? with
  | some m' => exact h
  | none =>
    have hown : c.ownEnd? = some (m, outcome) := h
    simp [end?, hown, Nat.not_lt.mpr hm]

/-- To be told to stop before the end is the end. -/
theorem end?_of_stopped_in_time (h : ∀ m outcome, c.ownEnd? = some (m, outcome) → now < m) :
    c.end? (some now) = some (now, .stopped) := by
  cases hown : c.ownEnd? with
  | none => simp [end?, hown]
  | some x => simp [end?, hown, h x.1 x.2 hown]

/-! ## From period to period -/

/-- The period after `rendered` is at hand and ends at `due`: neither has the renderer broken off
before it, nor was the limit up. -/
structure AtHand (c : Course) (due rendered : Nat) : Prop where
  ends : due = c.opened + (rendered + 1) * c.period
  breaks : c.failAfter = 0 ∨ rendered < c.failAfter
  expires (e : Nat) : c.expires? = some e → due < e + c.period

namespace AtHand

variable {due rendered : Nat}

/-- The first period. -/
theorem first (c : Course) (hu : c.Uneven) : c.AtHand (c.opened + c.period) 0 := by
  refine ⟨by omega, Nat.eq_zero_or_pos _, fun e he => ?_⟩
  obtain ⟨limit, hl, rfl⟩ := Option.map_eq_some_iff.mp he
  -- A limit of no time at all is up at the end of no period.
  have hpos : limit ≠ 0 := fun h0 => hu limit hl (h0 ▸ Nat.dvd_zero _)
  omega

/-- The next period, unless the renderer breaks off or the limit is up. -/
theorem next (h : c.AtHand due rendered) (hf : c.failAfter ≠ rendered + 1)
    (he : ∀ e, c.expires? = some e → due < e) : c.AtHand (due + c.period) (rendered + 1) := by
  obtain ⟨rfl, hb, -⟩ := h
  refine ⟨?_, by omega, fun e hx => ?_⟩
  · rw [Nat.add_assoc, ← Nat.succ_mul]
  · have := he e hx
    omega

/-- Before the period at hand is over, the whole periods that have gone by are those rendered. -/
theorem periods (h : c.AtHand due rendered) (hp : 0 < c.period) (hlo : due ≤ now + c.period)
    (hhi : now < due) : c.periods now = rendered := by
  have hd := h.ends
  rw [Nat.add_mul, Nat.one_mul] at hd
  refine Nat.div_eq_of_lt_le (by omega) ?_
  rw [Nat.add_mul, Nat.one_mul]
  omega

theorem periods_due (h : c.AtHand due rendered) (hp : 0 < c.period) :
    c.periods due = rendered + 1 := by
  unfold Course.periods
  rw [h.ends, Nat.add_sub_cancel_left, Nat.mul_div_cancel _ hp]

theorem breaks?_due (h : c.AtHand due rendered) (hf : c.failAfter = rendered + 1) :
    c.breaks? = some due := by
  rw [breaks?_eq_some_iff, h.ends, hf]
  exact ⟨by omega, rfl⟩

/-- The renderer does not break off before the period is over. -/
theorem le_breaks (h : c.AtHand due rendered) {f : Nat} (hf : c.breaks? = some f) : due ≤ f := by
  obtain ⟨hn, rfl⟩ := breaks?_eq_some_iff.mp hf
  rw [h.ends]
  have hle : rendered + 1 ≤ c.failAfter := by have := h.breaks; omega
  exact Nat.add_le_add_left (Nat.mul_le_mul_right _ hle) _

/-- The limit is not up at the end of the period. -/
theorem expires_ne (h : c.AtHand due rendered) (hu : c.Uneven) : c.expires? ≠ some due := by
  intro he
  obtain ⟨limit, hl, he⟩ := Option.map_eq_some_iff.mp he
  rw [h.ends] at he
  exact hu limit hl ⟨rendered + 1, by rw [Nat.mul_comm]; omega⟩

/-- **The loop of a worker keeps to the course**, from one period to the next. -/
theorem phase_render (h : c.AtHand due rendered) (hu : c.Uneven) {w : Worker} {stage : Stage}
    (hp : w.period = c.period) (hn : stage.renderer.failAfter = c.failAfter) {deadline : Nat}
    (hd : due ≤ deadline + c.period) :
    (w.render deadline c.expires? due rendered stage).1.phase = c.phaseAt none deadline := by
  have hpos : 0 < c.period := hp ▸ w.period_pos
  generalize hx : c.expires? = expiry
  fun_induction w.render deadline expiry due rendered stage with
  | case1 due rendered stage he =>
    -- The limit is up within the period.
    obtain ⟨e, rfl, hle⟩ : ∃ e, expiry = some e ∧ e ≤ due ∧ e ≤ deadline := by
      simpa [Option.any_eq_true] using he
    have hlt : e < due := Nat.lt_of_le_of_ne hle.1 fun he => h.expires_ne hu (he ▸ hx)
    have hend : c.end? none = some (e, .completed) :=
      ownEnd?_of_expires hx fun f hf => Nat.le_trans hle.1 (h.le_breaks hf)
    rw [phaseAt_of_le hend hle.2, h.periods hpos (Nat.le_of_lt (h.expires e hx)) hlt]
    rfl
  | case2 due rendered stage he hdue stage' hfails =>
    -- The renderer breaks off at the end of the period.
    have hfail : c.failAfter ≠ 0 ∧ c.failAfter ≤ rendered + 1 := by
      simpa [Renderer.failsAt, stage', Renderer.notePeriod, hn] using hfails
    have hbreak := h.breaks?_due (by have := h.breaks; omega)
    have hlimit (e : Nat) (hx' : c.expires? = some e) : due < e := by
      have := Worker.lt_of_not_expired he (hx ▸ hx')
      omega
    have hend : c.end? none = some (due, .failed Renderer.broken) :=
      ownEnd?_of_breaks hbreak hlimit
    rw [phaseAt_of_le hend hdue, h.periods_due hpos]
    rfl
  | case3 due rendered stage he hdue stage' hfails ih =>
    have hfail : c.failAfter ≠ 0 → rendered + 1 < c.failAfter := by
      simpa [Renderer.failsAt, stage', Renderer.notePeriod, hn] using hfails
    have hlimit (e : Nat) (hx' : c.expires? = some e) : due < e := by
      have := Worker.lt_of_not_expired he (hx ▸ hx')
      omega
    have hnext := h.next (by omega) hlimit
    rw [← hp] at hnext
    exact ih hnext hn (by omega)
  | case4 due rendered stage he hdue =>
    -- The period is at hand when the time is over.
    have hgoes : c.phaseAt none deadline = c.midway deadline := by
      refine phaseAt_of_lt fun m outcome => lt_ownEnd? (fun f hf => ?_) fun e hx' => ?_
      · have := h.le_breaks hf
        omega
      · have := Worker.lt_of_not_expired he (hx ▸ hx')
        omega
    rw [hgoes, midway, h.periods hpos hd (by omega), ← h.ends, hx]

end AtHand

/-! ## What a worker does -/

theorem ownEnd?_le_breaks {f : Nat} (hf : c.breaks? = some f) :
    ∃ m outcome, c.ownEnd? = some (m, outcome) ∧ m ≤ f := by
  unfold ownEnd?
  rw [hf]
  cases c.expires? with
  | none => exact ⟨f, _, rfl, Nat.le_refl f⟩
  | some e =>
    dsimp only
    split
    · exact ⟨f, _, rfl, Nat.le_refl f⟩
    · exact ⟨e, _, rfl, by omega⟩

theorem ownEnd?_le_expires {e : Nat} (he : c.expires? = some e) :
    ∃ m outcome, c.ownEnd? = some (m, outcome) ∧ m ≤ e := by
  unfold ownEnd?
  rw [he]
  cases c.breaks? with
  | none => exact ⟨e, _, rfl, Nat.le_refl e⟩
  | some f =>
    dsimp only
    split
    · exact ⟨f, _, rfl, by omega⟩
    · exact ⟨e, _, rfl, Nat.le_refl e⟩

/-- The period after the whole ones has begun. -/
theorem due_le (hnow : c.opened ≤ now) :
    c.opened + (c.periods now + 1) * c.period ≤ now + c.period := by
  have hwhole : c.periods now * c.period ≤ now - c.opened := Nat.div_mul_le_self _ _
  rw [Nat.succ_mul]
  omega

/-- Midway, the period after the whole ones is at hand. -/
theorem AtHand.midway (hp : 0 < c.period) (hnow : c.opened ≤ now)
    (h : ∀ m outcome, c.ownEnd? = some (m, outcome) → now < m) :
    c.AtHand (c.opened + (c.periods now + 1) * c.period) (c.periods now) := by
  refine ⟨rfl, ?_, fun e he => ?_⟩
  · by_cases h0 : c.failAfter = 0
    · exact .inl h0
    · obtain ⟨m, outcome, hm, hle⟩ := ownEnd?_le_breaks (breaks?_eq_some_iff.mpr ⟨h0, rfl⟩)
      have hlt := h m outcome hm
      exact .inr ((Nat.div_lt_iff_lt_mul hp).mpr (by omega))
  · obtain ⟨m, outcome, hm, hle⟩ := ownEnd?_le_expires he
    have hlt := h m outcome hm
    exact Nat.lt_of_le_of_lt (due_le hnow) (by omega)

/-- The course is one of the worker, and its limit is not up at the end of a period. -/
structure Suits (c : Course) (w : Worker) : Prop where
  period : w.period = c.period
  limit : w.limit = c.limit
  uneven : c.Uneven

/-- Where a worker stands whose playback takes its course once it has the renderer. -/
inductive Admits (c : Course) (stop? : Option Nat) (now : Nat) (phase : Phase) : Prop
  /-- It has not run yet. -/
  | spawned (hphase : phase = .spawned) (hstop : stop? = none) (hnow : now = c.opened)
  /-- It could not have the renderer. -/
  | refused (hphase : phase = .ended (.failed Renderer.busy) 0)
  | opened (hphase : phase = c.phaseAt stop? now) (hstop : ∀ m, stop? = some m → m ≤ now)
      (hnow : c.opened ≤ now)

/-- A playback goes on only if nobody has told it to stop. -/
theorem eq_none_of_lt (hs : ∀ m, stop? = some m → m ≤ now)
    (h : ∀ m outcome, c.end? stop? = some (m, outcome) → now < m) : stop? = none := by
  cases stop? with
  | none => rfl
  | some m =>
    obtain ⟨m', outcome, he, hle⟩ := c.end?_of_stopped (hs m rfl)
    have := h m' outcome he
    omega

variable {w : Worker} {stage : Stage}

namespace Admits

/-- A worker keeps to its course as time goes by. -/
theorem run (h : c.Admits stop? now w.phase) (hc : c.Suits w)
    (hn : stage.renderer.failAfter = c.failAfter) (willing : Bool) {deadline : Nat}
    (hle : now ≤ deadline) :
    c.Admits stop? deadline (w.run willing now deadline stage).1.phase := by
  obtain ⟨hp, hl, hu⟩ := hc
  have hpos : 0 < c.period := hp ▸ w.period_pos
  unfold Worker.run
  cases h with
  | spawned hphase hstop hnow =>
    subst hstop hnow
    rw [hphase]
    dsimp only
    unfold Worker.start
    split
    · rw [hl, hp]
      have hn' : ({ stage with renderer := stage.renderer.noteOpen w.source } :
          Stage).renderer.failAfter = c.failAfter := hn
      have hfirst := AtHand.first c hu
      exact .opened (hfirst.phase_render hu hp hn' (Nat.add_le_add_right hle _)) (by simp) hle
    · exact .refused rfl
  | refused hphase =>
    rw [hphase]
    exact .refused hphase
  | opened hphase hstop hnow =>
    have hstop' (m : Nat) (hm : stop? = some m) : m ≤ deadline := Nat.le_trans (hstop m hm) hle
    have hnow' := Nat.le_trans hnow hle
    rcases c.end?_cases stop? now with ⟨m, outcome, hend, hm⟩ | hgoes
    · rw [phaseAt_of_le hend hm] at hphase
      rw [hphase]
      refine .opened ?_ hstop' hnow'
      rw [phaseAt_of_le hend (Nat.le_trans hm hle)]
      exact hphase
    · obtain rfl := eq_none_of_lt hstop hgoes
      rw [phaseAt_of_lt hgoes] at hphase
      rw [hphase]
      have hhand := AtHand.midway hpos hnow hgoes
      refine .opened (hhand.phase_render hu hp hn ?_) hstop' hnow'
      exact Nat.le_trans (due_le hnow) (Nat.add_le_add_right hle _)

/-- A worker that is told to stop stops, unless it has ended. -/
theorem stop (h : c.Admits stop? now w.phase) (hrun : w.phase ≠ .spawned) (stage : Stage) :
    c.Admits (stop?.or (some now)) now (w.stop stage).1.phase := by
  unfold Worker.stop
  cases h with
  | spawned hphase => exact absurd hphase hrun
  | refused hphase =>
    rw [hphase]
    exact .refused hphase
  | opened hphase hstop hnow =>
    have hstop' (m : Nat) (hm : (stop?.or (some now)) = some m) : m ≤ now := by
      cases stop? with
      | none =>
        cases hm
        exact Nat.le_refl now
      | some m' => exact hstop m hm
    refine .opened ?_ hstop' hnow
    rcases c.end?_cases stop? now with ⟨m, outcome, hend, hm⟩ | hgoes
    · rw [phaseAt_of_le hend hm] at hphase
      rw [hphase, phaseAt_of_le (end?_of_stopped_late hend hm) hm]
      exact hphase
    · obtain rfl := eq_none_of_lt hstop hgoes
      rw [phaseAt_of_lt hgoes] at hphase
      rw [hphase]
      exact (phaseAt_of_le (end?_of_stopped_in_time hgoes) (Nat.le_refl now)).symm

end Admits

end Course

/-! ## The studio -/

namespace Studio

variable {s s' : Studio} {id : Nat} {w : Worker} {c : Course} {stop? : Option Nat}

/-- Everybody who goes on rendering after everybody waited goes on for some time. -/
theorem le_of_endsAt?_settle {r : Renderer} {m : Nat}
    (h : s.settle.workers[id]?.bind (·.endsAt? r) = some m) : s.now ≤ m := by
  obtain ⟨stage, -, he⟩ :=
    getElem?_runAll (!s.outside.fails .openRenderer) s.now s.now s.workers s.toStage id
  change s.settle.workers[id]? = _ at he
  rw [he] at h
  obtain ⟨w', hw', hm⟩ := Option.bind_eq_some_iff.mp h
  obtain ⟨w, -, rfl⟩ := Option.map_eq_some_iff.mp hw'
  exact Nat.le_of_lt (w.lt_endsAt?_run stage hm)

/-- The worker `w` of a playback has not run yet, was refused, or stands where its course has it,
and the renderer breaks off when the course has it. -/
structure Follows (s : Studio) (id : Nat) (w : Worker) (c : Course) (stop? : Option Nat) :
    Prop where
  worker : ∃ phase, s.workers[id]? = some { w with phase } ∧ c.Admits stop? s.now phase
  failAfter : s.renderer.failAfter = c.failAfter

/-- When a playback was told to stop for the first time, if `target` is told to stop now. -/
def firstStop (s : Studio) (id : Nat) (stop? target : Option Nat) : Option Nat :=
  if target = some id then stop?.or (some s.now) else stop?

namespace Follows

theorem runTo (h : s.Follows id w c stop?) (hc : c.Suits w) {deadline : Nat}
    (hle : s.now ≤ deadline) : (s.runTo deadline).Follows id w c stop? := by
  obtain ⟨⟨phase, hw, ha⟩, hn⟩ := h
  let willing := !s.outside.fails .openRenderer
  obtain ⟨stage, hm, he⟩ := getElem?_runAll willing s.now deadline s.workers s.toStage id
  obtain ⟨phase', hphase⟩ := Worker.run_eq { w with phase } stage willing s.now deadline
  have hc' : c.Suits { w with phase } := ⟨hc.period, hc.limit, hc.uneven⟩
  have ha' := Course.Admits.run ha hc' (hm.failAfter.trans hn) willing hle
  rw [hw, Option.map_some, hphase] at he
  rw [hphase] at ha'
  exact ⟨⟨phase', he, ha'⟩, (s.playbackOnly_runTo deadline).failAfter.trans hn⟩

theorem settle (h : s.Follows id w c stop?) (hc : c.Suits w) : s.settle.Follows id w c stop? :=
  have h' := h.runTo hc (Nat.le_refl s.now)
  ⟨h'.worker, h'.failAfter⟩

theorem elapse (h : s.Follows id w c stop?) (hc : c.Suits w) (ms : Nat) :
    (s.elapse ms).Follows id w c stop? :=
  (h.settle hc).runTo hc (Nat.le_add_right s.now ms)

theorem wait (h : s.Follows id w c stop?) (hc : c.Suits w) (id' : Nat) :
    (s.wait id').Follows id w c stop? := by
  unfold Studio.wait
  split
  · dsimp only
    split
    · rename_i moment he
      have hle : s.now ≤ moment := le_of_endsAt?_settle he
      exact (h.settle hc).runTo hc hle
    · exact h.settle hc
  · exact h

theorem halt (h : s.Follows id w c stop?)
    (hrun : ∀ w', s.workers[id]? = some w' → w'.phase ≠ .spawned) (id' : Nat) :
    (s.halt id').Follows id w c (s.firstStop id stop? (some id')) := by
  obtain ⟨⟨phase, hw, ha⟩, hn⟩ := h
  refine ⟨?_, (s.playbackOnly_halt id').failAfter.trans hn⟩
  unfold Studio.halt firstStop
  by_cases he : id' = id
  · subst he
    obtain ⟨hlt, -⟩ := List.getElem?_eq_some_iff.mp hw
    obtain ⟨phase', hphase⟩ := Worker.stop_eq { w with phase } s.toStage
    have ha' := Course.Admits.stop ha (hrun _ hw) s.toStage
    rw [hphase] at ha'
    rw [if_pos rfl, hw]
    dsimp only
    rw [hphase]
    exact ⟨phase', List.getElem?_set_self hlt, ha'⟩
  · rw [if_neg (by simpa using he)]
    split
    · exact ⟨phase, (List.getElem?_set_ne he).trans hw, ha⟩
    · exact ⟨phase, hw, ha⟩

theorem stop (h : s.Follows id w c stop?) (hc : c.Suits w) (id' : Nat) :
    (s.stop id').Follows id w c (s.firstStop id stop? (some id')) := by
  unfold Studio.stop
  split
  · exact (h.settle hc).halt (fun w' => s.phase_settle) id'
  · rename_i hlive
    obtain ⟨⟨phase, hw, ha⟩, hn⟩ := h
    refine ⟨⟨phase, hw, ?_⟩, hn⟩
    unfold firstStop
    split
    · -- The playback has ended, and a stop comes too late.
      rename_i he
      cases he
      have hf : ({ w with phase } : Worker).isFinished = true := by simpa [isLive, hw] using hlive
      have hrun : ({ w with phase } : Worker).phase ≠ .spawned := fun hp => by
        rw [(Worker.of_spawned hp).2] at hf
        cases hf
      have ha' := Course.Admits.stop ha hrun s.toStage
      rwa [Worker.stop_of_isFinished _ _ hf] at ha'
    · exact ha

theorem spawn (h : s.Follows id w c stop?) (source : Source) (period : Nat) (limit : Option Nat) :
    (s.spawn source period limit).2.Follows id w c stop? := by
  obtain ⟨⟨phase, hw, ha⟩, hn⟩ := h
  obtain ⟨hlt, -⟩ := List.getElem?_eq_some_iff.mp hw
  exact ⟨⟨phase, (List.getElem?_append_left hlt).trans hw, ha⟩, hn⟩

theorem aside (h : s.Follows id w c stop?) (ha : s.Aside s') : s'.Follows id w c stop? := by
  obtain ⟨⟨phase, hw, had⟩, hn⟩ := h
  refine ⟨⟨phase, ?_, ?_⟩, ?_⟩
  · rw [ha.workers]
    exact hw
  · rw [ha.now]
    exact had
  · rw [ha.renderer]
    exact hn

/-- The worker follows its course through everything that the studio goes through. -/
theorem moves (h : s.Follows id w c stop?) (hc : c.Suits w) {target : Option Nat}
    (hm : s.Moves target s') : s'.Follows id w c (s.firstStop id stop? target) := by
  induction hm with
  | rest => exact h
  | settle => exact h.settle hc
  | elapse ms => exact h.elapse hc ms
  | wait id' => exact h.wait hc id'
  | stop id' => exact h.stop hc id'
  | spawn _ source period limit ih => exact ih.spawn source period limit
  | aside _ ha ih => exact ih.aside ha

end Follows

end Studio

/-! ## Runs -/

namespace Ensemble

variable {s : Ensemble} {id : Nat} {w : Worker} {c : Course} {stop? : Option Nat}

end Ensemble

end Switchboard.Playback
