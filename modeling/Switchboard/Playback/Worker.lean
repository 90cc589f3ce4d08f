import Switchboard.Journal
import Switchboard.Error
import Switchboard.Playback.Source

/-!
# Playback workers

A worker plays one source. Its first act is to open the renderer; then it renders period after
period until it is stopped, its time limit is up or the renderer fails, and gives the renderer back
at its end. Times are in milliseconds of one clock.

* `Renderer`: what the renderer has been asked for, and when it fails.
* `Worker.run`: what a worker does up to some moment.
* `Worker.stop`: ends a worker before its time.
* `Worker.endsAt?`: the moment at which a worker ends if nobody stops it.
-/

namespace Switchboard.Playback

/-- How a playback ended. -/
inductive Outcome where
  /-- Its time limit was up. -/
  | completed
  /-- It was stopped. -/
  | stopped
  /-- The renderer could not be had, or failed. -/
  | failed (cause : CallError)
  deriving DecidableEq, Repr

/-- The books of the renderer. -/
structure Renderer where
  /-- After so many periods of a stream the next one fails; zero means never. -/
  failAfter : Nat
  /-- The sources that it was opened for, in order. -/
  opened : List Source
  /-- How often it was given back. -/
  releases : Nat
  /-- How many periods it rendered. -/
  periods : Nat
  deriving DecidableEq, Repr

namespace Renderer

/-- A renderer that was never used. -/
def unused : Renderer := ⟨0, [], 0, 0⟩

/-- The renderer is busy. -/
def busy : CallError := .resourceUnavailable "renderer" "device busy"

/-- The renderer broke off. -/
def broken : CallError := .resourceUnavailable "renderer" "write failed"

/-- How often it was opened. -/
def opens (r : Renderer) : Nat := r.opened.length

/-- The next period of a stream that has rendered so many fails. -/
def failsAt (r : Renderer) (rendered : Nat) : Bool := r.failAfter != 0 && r.failAfter ≤ rendered

/-- The books after an opening. -/
def noteOpen (r : Renderer) (source : Source) : Renderer :=
  { r with opened := r.opened ++ [source] }

/-- The books after a period. -/
def notePeriod (r : Renderer) : Renderer := { r with periods := r.periods + 1 }

/-- The books after a release. -/
def noteRelease (r : Renderer) : Renderer := { r with releases := r.releases + 1 }

end Renderer

/-- What workers act on: the renderer, and the journal that hears of their failures. -/
structure Stage where
  renderer : Renderer
  journal : Journal
  deriving DecidableEq, Repr

/-- Where a worker stands. -/
inductive Phase where
  /-- It has not run yet. -/
  | spawned
  /-- It renders until `expiry`; the period at hand is the one after `rendered` and ends at `due`.
  -/
  | rendering (expiry : Option Nat) (due rendered : Nat)
  /-- It ended after so many periods. -/
  | ended (outcome : Outcome) (rendered : Nat)
  deriving DecidableEq, Repr

/-- A playback of one source. -/
structure Worker where
  source : Source
  period : Nat
  /-- How long it plays; forever if there is no limit. -/
  limit : Option Nat
  phase : Phase
  period_pos : 0 < period
  deriving DecidableEq, Repr

namespace Worker

/-- A worker that has not run yet. A period lasts at least a millisecond. -/
def fresh (source : Source) (period : Nat) (limit : Option Nat) : Worker where
  source
  period := max 1 period
  limit
  phase := .spawned
  period_pos := by omega

/-- The worker is rendering. -/
def isPlaying (w : Worker) : Bool := w.phase matches .rendering ..

/-- The worker has ended. -/
def isFinished (w : Worker) : Bool := w.phase matches .ended ..

/-- How the worker ended. -/
def outcome? (w : Worker) : Option Outcome :=
  match w.phase with
  | .ended outcome _ => some outcome
  | _ => none

/-- The report of a failure. -/
def failureEvent (w : Worker) (cause : CallError) : Event :=
  .playbackFailed w.source.label cause.message

/-- Ends the worker after so many periods and gives the renderer back. -/
def finish (w : Worker) (outcome : Outcome) (rendered : Nat) (stage : Stage) : Worker × Stage :=
  let stage := { stage with renderer := stage.renderer.noteRelease }
  let stage :=
    match outcome with
    | .failed cause => { stage with journal := stage.journal.emit (w.failureEvent cause) }
    | _ => stage
  ({ w with phase := .ended outcome rendered }, stage)

/-- Renders up to the moment `deadline`. Of a limit and the end of a period at one moment the limit
comes first. -/
def render (w : Worker) (deadline : Nat) (expiry : Option Nat) (due rendered : Nat)
    (stage : Stage) : Worker × Stage :=
  if expiry.any fun e => e ≤ due && e ≤ deadline then
    w.finish .completed rendered stage
  else if _h : due ≤ deadline then
    let stage := { stage with renderer := stage.renderer.notePeriod }
    if stage.renderer.failsAt (rendered + 1) then
      w.finish (.failed Renderer.broken) (rendered + 1) stage
    else
      w.render deadline expiry (due + w.period) (rendered + 1) stage
  else
    ({ w with phase := .rendering expiry due rendered }, stage)
  termination_by deadline + 1 - due
  decreasing_by have := w.period_pos; omega

/-- Opens the renderer at the moment `now`, and renders up to `deadline`. -/
def start (w : Worker) (willing : Bool) (now deadline : Nat) (stage : Stage) : Worker × Stage :=
  if willing then
    w.render deadline (w.limit.map (now + ·)) (now + w.period) 0
      { stage with renderer := stage.renderer.noteOpen w.source }
  else
    ({ w with phase := .ended (.failed Renderer.busy) 0 },
      { stage with journal := stage.journal.emit (w.failureEvent Renderer.busy) })

/-- All that a worker does from `now` up to `deadline`. -/
def run (w : Worker) (willing : Bool) (now deadline : Nat) (stage : Stage) : Worker × Stage :=
  match w.phase with
  | .spawned => w.start willing now deadline stage
  | .rendering expiry due rendered => w.render deadline expiry due rendered stage
  | .ended .. => (w, stage)

/-- Stops a worker that is rendering. -/
def stop (w : Worker) (stage : Stage) : Worker × Stage :=
  match w.phase with
  | .rendering _ _ rendered => w.finish .stopped rendered stage
  | _ => (w, stage)

/-- The moment at which a worker that is rendering ends if nobody stops it and the renderer stays
as it is. -/
def endsAt? (w : Worker) (r : Renderer) : Option Nat :=
  match w.phase with
  | .rendering expiry due rendered =>
    let failure :=
      if r.failAfter = 0 then none
      else some (due + (max (rendered + 1) r.failAfter - (rendered + 1)) * w.period)
    match expiry, failure with
    | some e, some f => some (min e f)
    | some e, none => some e
    | none, f => f
  | _ => none

end Worker

end Switchboard.Playback
