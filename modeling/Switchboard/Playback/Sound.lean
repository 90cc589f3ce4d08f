import Switchboard.Config.Basic
import Switchboard.Playback.Studio

/-!
# Tones and ringing

The tone player and the ringer share the studio. The tone player owns at most one playback: a tone
replaces the one before it. The ringer owns the ringtone and the vibrator, and uses them according
to the ringer mode.

* `Sound.playTone`, `Sound.stopTone`, `Sound.stopToneIf`, `Sound.currentTone?`.
* `Sound.ring`, `Sound.stopRing`, `Sound.isRinging`.
-/

namespace Switchboard.Playback

/-- The studio with its two players. -/
structure Sound extends Studio where
  /-- The render period of playbacks, in milliseconds. -/
  period : Nat
  /-- How long a tone plays that does not loop, in milliseconds. -/
  toneDuration : Nat
  vibrationPattern : List UInt64
  /-- The tone that the tone player owns, and its playback. -/
  tone : Option (Tone × Nat)
  ringerMode : RingerMode
  ringtonePath : String
  /-- The playback that the ringer owns. -/
  ringtone : Option Nat
  /-- The ringer has set the vibrator going. -/
  vibrating : Bool

namespace Sound

/-- Players that have not played. -/
def silent (config : Config) (journal : Journal) (outside : Outside) : Sound where
  toStudio := .silent journal outside
  period := config.renderPeriod.toNat
  toneDuration := config.toneDuration.toNat
  vibrationPattern := config.vibrationPattern
  tone := none
  ringerMode := config.ringerMode
  ringtonePath := config.ringtonePath
  ringtone := none
  vibrating := false

/-- Waits until every worker waits in turn. -/
def settle (s : Sound) : Sound := { s with toStudio := s.toStudio.settle }

/-- Lets so many milliseconds pass. -/
def elapse (s : Sound) (ms : Nat) : Sound := { s with toStudio := s.toStudio.elapse ms }

/-- Makes a demand on the outside. Also says whether it was met. -/
def ask (s : Sound) (demand : Demand) : Bool × Sound :=
  let (met, outside) := s.outside.ask demand
  (met, { s with outside })

/-! ## The tone player -/

/-- The tone whose playback has not ended. -/
def currentTone? (s : Sound) : Option Tone :=
  match s.tone with
  | some (tone, id) => if s.isLive id then some tone else none
  | none => none

/-- The tone player's playback is rendering. -/
def isTonePlaying (s : Sound) : Bool := s.tone.any fun (_, id) => s.isPlaying id

/-- Stops the tone. Also says whether its playback had not ended. -/
def stopTone (s : Sound) : Bool × Sound :=
  match s.tone with
  | some (_, id) => (s.isLive id, { s with toStudio := s.toStudio.stop id, tone := none })
  | none => (false, s)

/-- Stops the tone if it is the given one. -/
def stopToneIf (s : Sound) (tone : Tone) : Bool × Sound :=
  if s.tone.any fun (owned, _) => owned == tone then s.stopTone else (false, s)

/-- Plays a tone in place of the one before. A tone without a rendering changes nothing. -/
def playTone (s : Sound) (tone : Tone) : Sound :=
  if tone.rendering = .noTone then s
  else
    let s := s.stopTone.2
    let limit := if tone.loops then none else some s.toneDuration
    let (id, studio) := s.toStudio.spawn (.tone tone.rendering) s.period limit
    { s with toStudio := studio.emit (.toneStarted tone), tone := some (tone, id) }

/-! ## The ringer -/

/-- The ringtone is playing or the vibrator is going. -/
def isRinging (s : Sound) : Bool := s.ringtone.any s.isLive || s.vibrating

/-- Stops the vibrator if the ringer has set it going. -/
def stillVibrator (s : Sound) : Sound :=
  if s.vibrating then { (s.ask .stillVibrator).2 with vibrating := false } else s

/-- Stops the ringtone's playback. -/
def stopRingtone (s : Sound) : Sound :=
  match s.ringtone with
  | some id => { s with toStudio := s.toStudio.stop id, ringtone := none }
  | none => s

/-- Stops ringing. Also says whether there was anything to stop. -/
def stopRing (s : Sound) : Bool × Sound := (s.isRinging, s.stopRingtone.stillVibrator)

/-- Rings for a call on `slot` as the ringer mode has it. A mode that needs a ringtone fails if
there is none, and then nothing changes. -/
def ring (s : Sound) (slot : SlotId) : Except CallError Sound :=
  if s.ringerMode = .normal ∧ s.ringtonePath = "" then
    .error (.resourceUnavailable "ringtone" "ringtone path is empty")
  else
    let s := s.stopRing.2
    match s.ringerMode with
    | .silent => .ok s
    | mode =>
      let (started, s) := s.ask (.vibrate s.vibrationPattern)
      let s := if started then { s with vibrating := true } else s
      if mode = .normal then
        let (id, studio) := s.toStudio.spawn (.ringtone s.ringtonePath slot) s.period none
        .ok { s with toStudio := studio, ringtone := some id }
      else .ok s

end Sound

end Switchboard.Playback
