import Switchboard.Outside
import Switchboard.Playback.Worker

/-!
# The studio

The studio keeps the playback workers, in the order in which they were spawned, on one clock.
Workers do not run by themselves: they run when time passes or when somebody waits for one of them.

* `Studio.settle`: waits until every worker waits in turn; no time passes.
* `Studio.elapse`: lets some time pass.
* `Studio.spawn`, `Studio.stop`, `Studio.wait`: start a playback, stop it, or wait for its end.
-/

namespace Switchboard.Playback

/-- The workers with their clock and surroundings. -/
structure Studio extends Stage where
  /-- Milliseconds since the clock began. -/
  now : Nat
  outside : Outside
  workers : List Worker
  /-- How often somebody has waited for the workers. -/
  turns : Nat

namespace Studio

/-- A studio in which nothing has happened. -/
def silent (journal : Journal) (outside : Outside) : Studio where
  renderer := .unused
  journal
  now := 0
  outside
  workers := []
  turns := 0

/-- Appends an event to the journal. -/
def emit (s : Studio) (e : Event) : Studio := { s with journal := s.journal.emit e }

/-- Runs workers one after the other from `now` up to `deadline`. -/
def runAll (willing : Bool) (now deadline : Nat) : List Worker → Stage → List Worker × Stage
  | [], stage => ([], stage)
  | w :: rest, stage =>
    let (w, stage) := w.run willing now deadline stage
    let (rest, stage) := runAll willing now deadline rest stage
    (w :: rest, stage)

/-- Moves the clock to `deadline` and lets every worker do what falls due until then. -/
def runTo (s : Studio) (deadline : Nat) : Studio :=
  let willing := !s.outside.fails .openRenderer
  let (workers, stage) := runAll willing s.now deadline s.workers s.toStage
  { s with toStage := stage, workers, now := deadline }

/-- Waits until every worker waits in turn. -/
def settle (s : Studio) : Studio := { s.runTo s.now with turns := s.turns + 1 }

/-- Lets so many milliseconds pass. -/
def elapse (s : Studio) (ms : Nat) : Studio := (s.settle).runTo (s.now + ms)

/-- Starts a playback. Also gives its number. -/
def spawn (s : Studio) (source : Source) (period : Nat) (limit : Option Nat) : Nat × Studio :=
  (s.workers.length, { s with workers := s.workers ++ [.fresh source period limit] })

/-- The worker of a playback is rendering. -/
def isPlaying (s : Studio) (id : Nat) : Bool := s.workers[id]?.any (·.isPlaying)

/-- The worker of a playback has not ended. -/
def isLive (s : Studio) (id : Nat) : Bool := s.workers[id]?.any (!·.isFinished)

/-- How a playback ended. -/
def outcome? (s : Studio) (id : Nat) : Option Outcome := s.workers[id]?.bind (·.outcome?)

/-- Stops the worker of a playback that is rendering. -/
def halt (s : Studio) (id : Nat) : Studio :=
  match s.workers[id]? with
  | some w =>
    let (w, stage) := w.stop s.toStage
    { s with toStage := stage, workers := s.workers.set id w }
  | none => s

/-- Stops a playback and waits for the end of its worker. A worker that has ended is not waited
for; otherwise every worker runs until it waits, and this one stops. -/
def stop (s : Studio) (id : Nat) : Studio := if s.isLive id then s.settle.halt id else s

/-- Waits until the worker of a playback ends by itself. -/
def wait (s : Studio) (id : Nat) : Studio :=
  if s.isLive id then
    let s := s.settle
    match s.workers[id]?.bind (·.endsAt? s.renderer) with
    | some moment => s.runTo moment
    | none => s
  else s

end Studio

end Switchboard.Playback
