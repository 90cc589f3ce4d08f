import Switchboard.Posture.Basic
import Switchboard.Signal

/-!
# The posture machine

The machine that follows the calls. Each posture takes some signals and refuses the rest, and a
refused signal changes nothing. The machine touches no hardware: a transition queues `Effect`s,
which are carried out later.

* `Posture.next`: what a posture does with a signal.
* `Posture.Machine.process`: feeds a signal to the machine.
* `Posture.Machine.switch`: moves the machine to a posture, whatever its rules.
* `Posture.Machine.drain`: takes the queued effects out.
-/

namespace Switchboard

/-- What a transition asks for. -/
inductive Effect where
  | playRingback
  | stopRingback
  | startRinging
  | stopRinging
  | playWaitingTone
  /-- Nothing is ringing, alerting or dialing any more. -/
  | muteNetworkRing
  | modeChanged (mode : AudioMode)
  deriving DecidableEq, Repr

namespace Posture

/-- What a posture does with a signal. -/
inductive Step where
  | refuse
  | stay
  | goto (next : Posture)
  /-- Goes to whatever posture the calls at hand call for. -/
  | reevaluate
  /-- Stays, and sounds the call-waiting tone. -/
  | waitingTone
  deriving DecidableEq, Repr

/-- What the posture does with a signal while the calls at hand count `t`. -/
def next (p : Posture) (signal : Signal) (t : Tally) : Step :=
  match p, signal with
  | .inactive, .newDialing => .goto .dialing
  | .inactive, .newActiveCs => .goto .cs
  | .inactive, .newActiveIms => .goto .ims
  | .inactive, .newAlerting => .goto .alerting
  | .inactive, .newIncoming => .goto .incoming
  | .dialing, .noMoreDialing => .reevaluate
  | .dialing, .newActiveCs => .goto .cs
  | .dialing, .newActiveIms => .goto .ims
  | .dialing, .newAlerting => .goto .alerting
  | .alerting, .noMoreAlerting => .reevaluate
  | .alerting, .newActiveCs => .goto .cs
  | .alerting, .newActiveIms => .goto .ims
  | .incoming, .noMoreIncoming => .reevaluate
  | .incoming, .newActiveCs => if t.active = 1 then .goto .cs else .stay
  | .incoming, .newActiveIms => if t.active = 1 then .goto .ims else .stay
  | .cs, .noMoreActive => .reevaluate
  | .cs, .newIncoming => .waitingTone
  | .cs, .csBecameIms => .goto .ims
  | .ims, .noMoreActive => .reevaluate
  | .ims, .newIncoming => .waitingTone
  | .ims, .imsBecameCs => .goto .cs
  | .holding, .newActiveCs => if t.active = 1 then .goto .cs else .stay
  | .holding, .newActiveIms => if t.active = 1 then .goto .ims else .stay
  | .holding, .newIncoming => if t.ringing = 1 then .goto .incoming else .stay
  | _, _ => .refuse

/-- The effects of leaving a posture. -/
def farewell : Posture → List Effect
  | .alerting => [.stopRingback]
  | .incoming => [.stopRinging]
  | _ => []

/-- The effects of entering a posture. -/
def welcome : Posture → List Effect
  | .alerting => [.playRingback]
  | .incoming => [.startRinging]
  | _ => []

/-- The posture machine: where it stands, the audio scene that it last asked for, and the effects
that have not been carried out. -/
structure Machine where
  current : Posture
  mode : AudioMode
  pending : List Effect
  deriving DecidableEq, Repr

namespace Machine

/-- A machine at rest. -/
def rest : Machine := ⟨.inactive, .idle, []⟩

/-- Queues effects behind those that are pending. -/
def push (m : Machine) (effects : List Effect) : Machine :=
  { m with pending := m.pending ++ effects }

/-- The audio scene and its effect on entering a posture: none if the scene is the one at hand. -/
def scene (m : Machine) (next : Posture) : AudioMode × List Effect :=
  match next.mode? with
  | some mode => if mode = m.mode then (m.mode, []) else (mode, [.modeChanged mode])
  | none => (m.mode, [])

/-- Moves the machine to another posture and queues the effects of the move. -/
def transition (m : Machine) (next : Posture) (t : Tally) : Machine :=
  if m.current = next then m
  else
    let (mode, sceneEffects) := m.scene next
    let quiet := if t.hasRingActivity then [] else [.muteNetworkRing]
    { current := next
      mode
      pending := m.pending ++ (farewell m.current ++ welcome next ++ sceneEffects ++ quiet) }

/-- Feeds a signal to the machine. Also says whether the machine took it. -/
def process (m : Machine) (signal : Signal) (t : Tally) : Bool × Machine :=
  match m.current.next signal t with
  | .refuse => (false, m)
  | .stay => (true, m)
  | .waitingTone => (true, m.push [.playWaitingTone])
  | .goto next => (true, m.transition next t)
  | .reevaluate => (true, m.transition (ofTally t) t)

/-- Moves the machine to a posture, whatever its rules. Also says whether that is a change. -/
def switch (m : Machine) (next : Posture) (t : Tally) : Bool × Machine :=
  (m.current != next, m.transition next t)

/-- Takes the pending effects out. -/
def drain (m : Machine) : List Effect × Machine := (m.pending, { m with pending := [] })

end Machine

end Posture

end Switchboard
