import Switchboard.Spelled

/-!
# Output routes

Where the sound of a call comes out. `Route.select` picks a route from scratch: Bluetooth, then the
wired headset, then the loudspeaker while ringing, in video or on request, else the earpiece; and
no route while calls do not hold the audio focus.
-/

namespace Switchboard

/-- An output device. -/
inductive Device where
  | earpiece
  | speaker
  | wiredHeadset
  | bluetoothSco
  /-- No device: audio is not in use. -/
  | disabled
  deriving DecidableEq, Repr, Inhabited

instance : Spelled Device where
  all := [.earpiece, .speaker, .wiredHeadset, .bluetoothSco, .disabled]
  spell
    | .earpiece => "Earpiece"
    | .speaker => "Speaker"
    | .wiredHeadset => "WiredHeadset"
    | .bluetoothSco => "BluetoothSco"
    | .disabled => "Disabled"

/-- A node of the route machine. -/
inductive Route where
  | earpiece
  | speaker
  | wiredHeadset
  | bluetoothSco
  | inactive
  deriving DecidableEq, Repr, Inhabited

instance : Spelled Route where
  all := [.earpiece, .speaker, .wiredHeadset, .bluetoothSco, .inactive]
  spell
    | .earpiece => "Earpiece"
    | .speaker => "Speaker"
    | .wiredHeadset => "WiredHeadset"
    | .bluetoothSco => "BluetoothSco"
    | .inactive => "Inactive"

/-- The device that a route leads to. -/
def Route.device : Route → Device
  | .earpiece => .earpiece
  | .speaker => .speaker
  | .wiredHeadset => .wiredHeadset
  | .bluetoothSco => .bluetoothSco
  | .inactive => .disabled

/-- What the Bluetooth link is open for. -/
inductive ScoLink where
  | closed
  /-- Two-way voice. -/
  | voice
  /-- The ring signal alone. -/
  | ringing
  deriving DecidableEq, Repr, Inhabited

instance : Spelled ScoLink where
  all := [.closed, .voice, .ringing]
  spell
    | .closed => "Closed"
    | .voice => "Voice"
    | .ringing => "Ringing"

/-- Whether calls hold the audio focus. -/
inductive Focus where
  /-- No call audio. -/
  | released
  /-- A call rings. -/
  | ringing
  /-- A call owns the audio path. -/
  | inCall
  deriving DecidableEq, Repr, Inhabited

instance : Spelled Focus where
  all := [.released, .ringing, .inCall]
  spell
    | .released => "UnInterrupt"
    | .ringing => "InRinging"
    | .inCall => "InInterrupt"

/-- What the Bluetooth link is for while calls hold a focus. -/
def Focus.link : Focus → ScoLink
  | .released => .closed
  | .ringing => .ringing
  | .inCall => .voice

namespace Route

/-- What a route is chosen by. -/
structure Context where
  bluetooth : Bool
  headset : Bool
  focus : Focus
  /-- An active or foreground call is a video call. -/
  video : Bool
  /-- The foreground call asked for the loudspeaker. -/
  speakerphone : Bool
  deriving DecidableEq, Repr

/-- Picks a route from scratch. -/
def select (ctx : Context) : Route :=
  if ctx.focus = .released then .inactive
  else if ctx.bluetooth then .bluetoothSco
  else if ctx.headset then .wiredHeadset
  else if ctx.focus = .ringing || ctx.video || ctx.speakerphone then .speaker
  else .earpiece

end Route

end Switchboard
