import Switchboard.Spelled

/-!
# Signals

The common vocabulary of the two state machines. A call signal says that the first call of a kind
has come or the last has gone, and drives the posture machine; a device signal reports an accessory
or the audio focus, and drives the route machine. No signal is for both, and `unknown` is for
neither.
-/

namespace Switchboard

/-- A transition of calls, accessories or audio focus. -/
inductive Signal where
  | newIncoming
  | noMoreIncoming
  | newDialing
  | noMoreDialing
  | newActiveCs
  | newActiveIms
  | noMoreActive
  | csBecameIms
  | imsBecameCs
  | newAlerting
  | noMoreAlerting
  | headsetConnected
  | headsetDisconnected
  | bluetoothConnected
  | bluetoothDisconnected
  | audioActivated
  | audioDeactivated
  | audioRinging
  | unknown
  deriving DecidableEq, Repr, Inhabited

namespace Signal

instance : Spelled Signal where
  all := [.newIncoming, .noMoreIncoming, .newDialing, .noMoreDialing, .newActiveCs, .newActiveIms,
    .noMoreActive, .csBecameIms, .imsBecameCs, .newAlerting, .noMoreAlerting, .headsetConnected,
    .headsetDisconnected, .bluetoothConnected, .bluetoothDisconnected, .audioActivated,
    .audioDeactivated, .audioRinging, .unknown]
  spell
    | .newIncoming => "NewIncomingCall"
    | .noMoreIncoming => "NoMoreIncomingCall"
    | .newDialing => "NewDialingCall"
    | .noMoreDialing => "NoMoreDialingCall"
    | .newActiveCs => "NewActiveCsCall"
    | .newActiveIms => "NewActiveImsCall"
    | .noMoreActive => "NoMoreActiveCall"
    | .csBecameIms => "CallTypeCsChangeIms"
    | .imsBecameCs => "CallTypeImsChangeCs"
    | .newAlerting => "NewAlertingCall"
    | .noMoreAlerting => "NoMoreAlertingCall"
    | .headsetConnected => "WiredHeadsetConnected"
    | .headsetDisconnected => "WiredHeadsetDisconnected"
    | .bluetoothConnected => "BluetoothScoConnected"
    | .bluetoothDisconnected => "BluetoothScoDisconnected"
    | .audioActivated => "AudioActivated"
    | .audioDeactivated => "AudioDeactivated"
    | .audioRinging => "AudioRinging"
    | .unknown => "UnknownEvent"

/-- The signal is about calls. -/
def isCall : Signal → Bool
  | .newIncoming | .noMoreIncoming | .newDialing | .noMoreDialing | .newActiveCs | .newActiveIms
  | .noMoreActive | .csBecameIms | .imsBecameCs | .newAlerting | .noMoreAlerting => true
  | _ => false

/-- The signal is about an accessory or the audio focus. -/
def isDevice : Signal → Bool
  | .headsetConnected | .headsetDisconnected | .bluetoothConnected | .bluetoothDisconnected
  | .audioActivated | .audioDeactivated | .audioRinging => true
  | _ => false

/-- The place of a signal in the list of all signals. -/
def index (s : Signal) : Nat := (Spelled.all : List Signal).idxOf s

end Signal

end Switchboard
