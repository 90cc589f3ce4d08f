import Switchboard.Admission.Basic
import Switchboard.Playback.Tone
import Switchboard.Posture.Basic
import Switchboard.Route.Basic

/-!
# Events

What the switchboard tells its listeners.
-/

namespace Switchboard

open Admission (Decision)

/-- A notification. -/
inductive Event where
  /-- A call was registered. -/
  | callAdded (call : Call)
  /-- A registered call changed its state. -/
  | callStateChanged (id : CallId) (previous current : CallState)
  /-- A call left the registry. -/
  | callRemoved (id : CallId) (ended : EndReason)
  /-- Admission decided on a request. -/
  | admissionDecided (id : Option CallId) (decision : Decision)
  /-- The posture machine moved. -/
  | postureChanged (previous current : Posture)
  | audioModeChanged (mode : AudioMode)
  | deviceChanged (previous current : Device)
  | videoStateChanged (id : CallId) (previous current : VideoState)
  | muteChanged (muted : Bool)
  | ringingChanged (ringing : Bool)
  | toneStarted (tone : Tone)
  /-- A playback could not get or drive the renderer. -/
  | playbackFailed (source reason : String)
  deriving DecidableEq, Repr

end Switchboard
