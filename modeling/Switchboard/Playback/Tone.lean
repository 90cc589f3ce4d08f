import Switchboard.Call.Basic

/-!
# Tones

`Tone` is what the call logic asks for, `RenderTone` what a renderer understands.

* `Tone.ofDigit`: the tone of a key of the dial pad; other characters have none.
* `Tone.rendering`: the renderer's tone for a tone. `noTone` is silence.
* `Tone.loops`: keys, ringback and call waiting sound until they are stopped; the others for a
  fixed time.
-/

namespace Switchboard

/-- A tone of the call logic. -/
inductive Tone where
  | unknown
  | engaged
  | finished
  | waiting
  | ringback
  | noService
  | invalidNumber
  | callRecording
  | dtmf0
  | dtmf1
  | dtmf2
  | dtmf3
  | dtmf4
  | dtmf5
  | dtmf6
  | dtmf7
  | dtmf8
  | dtmf9
  /-- The star key. -/
  | dtmfStar
  /-- The hash key. -/
  | dtmfHash
  deriving DecidableEq, Repr, Inhabited

/-- A tone of the renderer. -/
inductive RenderTone where
  /-- A digit key. -/
  | dial (digit : UInt8)
  | dialStar
  | dialHash
  | ringtone
  | callWaiting
  | busy
  | congestion
  | radioNotAvailable
  | prompt
  | beep
  /-- Silence. -/
  | noTone
  deriving DecidableEq, Repr

namespace Tone

instance : Spelled Tone where
  all := [.unknown, .engaged, .finished, .waiting, .ringback, .noService, .invalidNumber,
    .callRecording, .dtmf0, .dtmf1, .dtmf2, .dtmf3, .dtmf4, .dtmf5, .dtmf6, .dtmf7, .dtmf8, .dtmf9,
    .dtmfStar, .dtmfHash]
  spell
    | .unknown => "Unknown"
    | .engaged => "Engaged"
    | .finished => "Finished"
    | .waiting => "Waiting"
    | .ringback => "Ringback"
    | .noService => "NoService"
    | .invalidNumber => "InvalidNumber"
    | .callRecording => "CallRecording"
    | .dtmf0 => "Dtmf0"
    | .dtmf1 => "Dtmf1"
    | .dtmf2 => "Dtmf2"
    | .dtmf3 => "Dtmf3"
    | .dtmf4 => "Dtmf4"
    | .dtmf5 => "Dtmf5"
    | .dtmf6 => "Dtmf6"
    | .dtmf7 => "Dtmf7"
    | .dtmf8 => "Dtmf8"
    | .dtmf9 => "Dtmf9"
    | .dtmfStar => "DtmfP"
    | .dtmfHash => "DtmfW"

/-- The tone is that of a key. -/
def isDtmf : Tone → Bool
  | .dtmf0 | .dtmf1 | .dtmf2 | .dtmf3 | .dtmf4 | .dtmf5 | .dtmf6 | .dtmf7 | .dtmf8 | .dtmf9
  | .dtmfStar | .dtmfHash => true
  | _ => false

/-- The tone sounds until it is stopped. -/
def loops (t : Tone) : Bool := t.isDtmf || t == .ringback || t == .waiting

/-- The tone of a key of the dial pad. -/
def ofDigit : Char → Tone
  | '0' => .dtmf0
  | '1' => .dtmf1
  | '2' => .dtmf2
  | '3' => .dtmf3
  | '4' => .dtmf4
  | '5' => .dtmf5
  | '6' => .dtmf6
  | '7' => .dtmf7
  | '8' => .dtmf8
  | '9' => .dtmf9
  | '*' => .dtmfStar
  | '#' => .dtmfHash
  | _ => .unknown

/-- The renderer's tone for a tone. -/
def rendering : Tone → RenderTone
  | .dtmf0 => .dial 0
  | .dtmf1 => .dial 1
  | .dtmf2 => .dial 2
  | .dtmf3 => .dial 3
  | .dtmf4 => .dial 4
  | .dtmf5 => .dial 5
  | .dtmf6 => .dial 6
  | .dtmf7 => .dial 7
  | .dtmf8 => .dial 8
  | .dtmf9 => .dial 9
  | .dtmfStar => .dialStar
  | .dtmfHash => .dialHash
  | .ringback => .ringtone
  | .waiting => .callWaiting
  | .engaged => .busy
  | .finished => .prompt
  | .noService => .radioNotAvailable
  | .invalidNumber => .congestion
  | .callRecording => .beep
  | .unknown => .noTone

/-- The tone that tells why a call ended. -/
def ofEnd : EndReason → Tone
  | .busy => .engaged
  | .normal => .finished
  | .invalidNumber => .invalidNumber
  | .unknown => .unknown

end Tone

namespace RenderTone

/-- The renderer's tones that carry no digit. -/
def plain : List RenderTone :=
  [.dialStar, .dialHash, .ringtone, .callWaiting, .busy, .congestion, .radioNotAvailable, .prompt,
    .beep, .noTone]

/-- The name of a tone, apart from its digit. -/
def name : RenderTone → String
  | .dial _ => "Dial"
  | .dialStar => "DialS"
  | .dialHash => "DialP"
  | .ringtone => "SupervisoryRingtone"
  | .callWaiting => "SupervisoryCallWaiting"
  | .busy => "SupervisoryBusy"
  | .congestion => "SupervisoryCongestion"
  | .radioNotAvailable => "SupervisoryRadioNotAvailable"
  | .prompt => "PropPrompt"
  | .beep => "PropBeep"
  | .noTone => "NumTones"

/-- How a tone is named in reports. -/
def label : RenderTone → String
  | .dial digit => s!"Dial({digit.toNat})"
  | t => t.name

end RenderTone

end Switchboard
