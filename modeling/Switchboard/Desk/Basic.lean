import Switchboard.Playback.Sound
import Switchboard.Posture.Machine
import Switchboard.Registry
import Switchboard.Route.Machine

/-!
# The desk

The desk is everything that the switchboard keeps: the registry of calls, the two machines with
what they go by, the players in their studio, the queue of signals and the flags of its life cycle.

* `Desk.assemble`: a desk of a valid configuration, with all its collaborators.
* `Desk.emit`, `Desk.ask`: tell the listeners, and make a demand on the outside.
* `DeskM`: operations that may fail. What was done before a failure stays done.
-/

namespace Switchboard

open Playback (Sound)

/-- The state of the switchboard. -/
structure Desk extends Sound where
  config : Config
  registry : Registry
  posture : Posture.Machine
  route : Route.Machine
  /-- What calls hold of the audio focus. -/
  focus : Focus
  /-- A Bluetooth headset is at hand. -/
  bluetooth : Bool
  /-- A wired headset is plugged in. -/
  headset : Bool
  /-- The microphone is muted. -/
  muted : Bool
  /-- Video was on show when the route was last looked at. -/
  videoShown : Bool
  /-- Signals that wait to be dispatched; none before the queue is opened and after it is closed. -/
  queue : Option (List Signal)
  started : Bool
  /-- A dial request is being carried out. -/
  dialing : Bool

/-- What a desk cannot do without. -/
inductive Collaborator where
  | telephony
  | audioPlatform
  | renderer
  | vibrator
  deriving DecidableEq, Repr

instance : Spelled Collaborator where
  all := [.telephony, .audioPlatform, .renderer, .vibrator]
  spell
    | .telephony => "telephony"
    | .audioPlatform => "audio_platform"
    | .renderer => "renderer"
    | .vibrator => "vibrator"

/-- What is wrong when a collaborator is missing. -/
def Collaborator.demand : Collaborator → String
  | .telephony => "a telephony backend is required"
  | .audioPlatform => "an audio platform is required"
  | .renderer => "an audio renderer is required"
  | .vibrator => "a vibrator is required"

namespace Desk

/-- A desk at which nothing has happened. -/
def idle (config : Config) (outside : Outside) : Desk where
  toSound := .silent config (.ofCapacity config.channelCapacity.toNat) outside
  config
  registry := .empty
  posture := .rest
  route := .rest
  focus := .released
  bluetooth := false
  headset := false
  muted := false
  videoShown := false
  queue := none
  started := false
  dialing := false

/-- A desk of a configuration, unless that is invalid or a collaborator is missing. -/
def assemble (config : Config) (missing : List Collaborator) (outside : Outside) :
    Except CallError Desk :=
  match config.fault? with
  | some fault => .error (.configuration fault)
  | none =>
    match (Spelled.all : List Collaborator).find? (missing.contains ·) with
    | some collaborator => .error (.configuration collaborator.demand)
    | none => .ok (idle config outside)

/-- Tells the listeners. -/
def emit (d : Desk) (e : Event) : Desk := { d with journal := d.journal.emit e }

/-- Makes a demand on the outside. Also says whether it was met. -/
def ask (d : Desk) (demand : Demand) : Bool × Desk :=
  let (met, outside) := d.outside.ask demand
  (met, { d with outside })

end Desk

/-- Operations on the desk that may fail. A failure does not undo what was done before it. -/
abbrev DeskM := EStateM CallError Desk

namespace DeskM

/-- Fails if `result` is an error. -/
def ofExcept {α : Type} : Except CallError α → DeskM α
  | .ok a => pure a
  | .error e => throw e

/-- Carries an operation out: its result, and the desk after it. -/
def perform {α : Type} (x : DeskM α) (d : Desk) : Except CallError α × Desk :=
  match x d with
  | .ok a d => (.ok a, d)
  | .error e d => (.error e, d)

end DeskM

end Switchboard
