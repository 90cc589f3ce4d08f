import Switchboard.Error
import Switchboard.Route.Basic
import Switchboard.Signal

/-!
# The route machine

The machine that follows accessories and the audio focus. The priority of routes falls out of the
signals that each node takes: Bluetooth ignores a headset being plugged in, the headset gives way
to Bluetooth, and the earpiece and the loudspeaker give way to both.

* `Route.next`: what a node does with a signal.
* `Route.Machine.process`: feeds a signal to the machine.
* `Route.Machine.choose`: the user's choice of a device, which fails if the device is absent or if
  no call holds the audio focus.
-/

namespace Switchboard.Route

/-- What a node does with a signal. -/
inductive Step where
  | refuse
  | stay
  | goto (next : Route)
  /-- Picks a route from scratch. -/
  | reselect
  /-- Stays on Bluetooth and opens the link. -/
  | openLink (link : ScoLink)
  deriving DecidableEq, Repr

/-- What a node does with a signal. -/
def next : Route → Signal → Step
  | .earpiece, .headsetConnected => .goto .wiredHeadset
  | .earpiece, .bluetoothConnected => .goto .bluetoothSco
  | .speaker, .headsetConnected => .goto .wiredHeadset
  | .speaker, .bluetoothConnected => .goto .bluetoothSco
  | .speaker, .audioActivated => .reselect
  | .wiredHeadset, .headsetDisconnected => .reselect
  | .wiredHeadset, .bluetoothConnected => .goto .bluetoothSco
  | .bluetoothSco, .bluetoothConnected => .stay
  | .bluetoothSco, .bluetoothDisconnected => .reselect
  | .bluetoothSco, .audioActivated => .openLink .voice
  | .bluetoothSco, .audioRinging => .openLink .ringing
  | .bluetoothSco, .audioDeactivated => .goto .inactive
  | .inactive, .audioActivated => .reselect
  | .inactive, .audioRinging => .reselect
  | .inactive, .audioDeactivated => .stay
  | _, _ => .refuse

/-- The route machine: where it stands, and what the Bluetooth link is open for. -/
structure Machine where
  current : Route
  link : ScoLink
  deriving DecidableEq, Repr

namespace Machine

/-- A machine at rest: no route, no link. -/
def rest : Machine := ⟨.inactive, .closed⟩

/-- The machine on a route; on Bluetooth the link serves the focus, elsewhere it is closed. -/
def on (route : Route) (ctx : Context) : Machine :=
  ⟨route, if route = .bluetoothSco then ctx.focus.link else .closed⟩

/-- Feeds a signal to the machine. Also says whether the machine took it. -/
def process (m : Machine) (signal : Signal) (ctx : Context) : Bool × Machine :=
  match m.current.next signal with
  | .refuse => (false, m)
  | .stay => (true, m)
  | .goto next => (true, on next ctx)
  | .reselect => (true, on (select ctx) ctx)
  | .openLink link => (true, { m with link })

/-- The route to a device that is at hand. -/
def target? (device : Device) (ctx : Context) : Option Route :=
  match device with
  | .bluetoothSco => if ctx.bluetooth then some .bluetoothSco else none
  | .wiredHeadset => if ctx.headset then some .wiredHeadset else none
  | .speaker => some .speaker
  | .earpiece => some .earpiece
  | .disabled => none

/-- Chooses a device. `disabled` drops the route and always succeeds. -/
def choose (device : Device) (ctx : Context) : Except CallError Machine :=
  if device = .disabled then .ok rest
  else
    match target? device ctx with
    | none => .error (.deviceUnavailable (spell device))
    | some route =>
      if ctx.focus = .released then
        .error (.deviceUnavailable s!"{spell device} (no call audio)")
      else .ok (on route ctx)

end Machine

end Switchboard.Route
