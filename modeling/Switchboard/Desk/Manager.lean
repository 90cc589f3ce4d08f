import Switchboard.Desk.Requests

/-!
# The switchboard in service

What the desk offers once it has been started. Requests and reports are refused before `start` and
after `shutdown`; the microphone, the output device and the ringer mode can be set at any time.

* `Desk.start`, `Desk.shutdown`: calls that are tracked stay as they are.
* `Desk.dialTogether`: dial requests that are made at once.
* `Desk.rest`: what goes on by itself once an operation is over.
-/

namespace Switchboard.Desk

/-- Fails unless the desk has been started. -/
def ensureStarted : DeskM Unit := do unless (← get).started do throw .notInitialized

/-- An operation that is only offered by a desk in service. -/
def inService {α : Type} (x : DeskM α) : DeskM α := do
  ensureStarted
  x

/-- Puts the desk into service. -/
def start : DeskM Unit := do
  if (← get).started then throw .alreadyInitialized
  modify ({ · with started := true })
  try openQueue
  catch e =>
    modify ({ · with started := false })
    throw e

/-- Takes the desk out of service and silences it. -/
def shutdown : DeskM Unit := do
  unless (← get).started do throw .notInitialized
  modify ({ · with started := false })
  closeQueue

/-- Dials for several requests that are made at once. They are carried out in order; but once one
of them has to wait, all that follow find it in progress. -/
def dialTogether : List DialRequest → Desk → List (Except CallError CallId) × Desk
  | [], d => ([], d)
  | request :: rest, d =>
    let (result, after) := (inService (dial request)).perform d
    if after.turns = d.turns then
      let (results, after) := dialTogether rest after
      (result :: results, after)
    else
      (result :: rest.map fun _ => .error .dialInProgress, after)

/-- A wired headset was plugged in or out. -/
def reportHeadset (connected : Bool) : DeskM Unit := inService do
  modify fun d => (d.dispatch (if connected then .headsetConnected else .headsetDisconnected)).2

/-- A Bluetooth headset came or went. -/
def reportBluetooth (connected : Bool) : DeskM Unit := inService do
  modify fun d =>
    (d.dispatch (if connected then .bluetoothConnected else .bluetoothDisconnected)).2

/-- What goes on by itself once an operation is over: queued signals are dispatched, and every
worker runs until it waits. -/
def rest (d : Desk) : Desk := d.drain.onSound (·.settle)

end Switchboard.Desk
