import Switchboard.Error

/-!
# Configuration

The settings of the switchboard, their defaults, and what makes them valid.

* `Config.validate`: the first thing that is wrong with a configuration, if any.
* `Setting`: one field with its value; `Config.apply` puts it in place. Every way to write a
  configuration down comes to a list of settings over the defaults, `Config.ofSettings`.
-/

namespace Switchboard

/-- How an incoming call is announced. -/
inductive RingerMode where
  /-- By ringing and vibrating. -/
  | normal
  /-- By vibrating alone. -/
  | vibrate
  /-- Not at all. -/
  | silent
  deriving DecidableEq, Repr, Inhabited

instance : Spelled RingerMode where
  all := [.normal, .vibrate, .silent]
  spell
    | .normal => "normal"
    | .vibrate => "vibrate"
    | .silent => "silent"

/-- The settings of the switchboard. -/
structure Config where
  /-- A second call may ring while another is active. -/
  callWaiting : Bool
  /-- How many calls are tracked at once. -/
  maxCalls : UInt64
  ringerMode : RingerMode
  ringtonePath : String
  /-- How long a tone plays that does not loop, in milliseconds. -/
  toneDuration : UInt64
  /-- The period that a playback renders at a time, in milliseconds. -/
  renderPeriod : UInt64
  /-- Alternating spells of vibration and rest, in milliseconds. -/
  vibrationPattern : List UInt64
  /-- How many signals the queue holds. -/
  queueCapacity : UInt64
  /-- How many events are held for listeners. -/
  channelCapacity : UInt64
  deriving DecidableEq, Repr

namespace Config

/-- The settings that hold unless others are given. -/
def standard : Config where
  callWaiting := true
  maxCalls := 6
  ringerMode := .normal
  ringtonePath := "ringtones/default.ogg"
  toneDuration := 3000
  renderPeriod := 20
  vibrationPattern := [1000, 1000]
  queueCapacity := 64
  channelCapacity := 256

/-- What is wrong with a configuration; of several faults the first in this order. -/
def fault? (c : Config) : Option String :=
  if c.maxCalls == 0 then some "max_calls must be at least 1"
  else if c.toneDuration == 0 then some "tone_duration_ms must be non-zero"
  else if c.renderPeriod == 0 then some "render_period_ms must be non-zero"
  else if c.queueCapacity == 0 || c.channelCapacity == 0 then
    some "event capacities must be non-zero"
  else if c.vibrationPattern.all (· == 0) then
    some "vibration_pattern_ms needs at least one non-zero entry"
  else none

/-- The configuration itself if nothing is wrong with it. -/
def validate (c : Config) : Except CallError Config :=
  match c.fault? with
  | some fault => .error (.configuration fault)
  | none => .ok c

end Config

/-- One field of the configuration and its value. -/
inductive Setting where
  | callWaiting (value : Bool)
  | maxCalls (value : UInt64)
  | ringerMode (value : RingerMode)
  | ringtonePath (value : String)
  | toneDuration (value : UInt64)
  | renderPeriod (value : UInt64)
  | vibrationPattern (value : List UInt64)
  | queueCapacity (value : UInt64)
  | channelCapacity (value : UInt64)
  deriving DecidableEq, Repr

namespace Config

/-- Puts a setting in place. -/
def apply (c : Config) : Setting → Config
  | .callWaiting value => { c with callWaiting := value }
  | .maxCalls value => { c with maxCalls := value }
  | .ringerMode value => { c with ringerMode := value }
  | .ringtonePath value => { c with ringtonePath := value }
  | .toneDuration value => { c with toneDuration := value }
  | .renderPeriod value => { c with renderPeriod := value }
  | .vibrationPattern value => { c with vibrationPattern := value }
  | .queueCapacity value => { c with queueCapacity := value }
  | .channelCapacity value => { c with channelCapacity := value }

/-- The defaults with settings put in place one after the other; a later one wins. -/
def ofSettings (settings : List Setting) : Config := settings.foldl apply standard

/-- The configuration of a list of settings, if it is valid. -/
def build (settings : List Setting) : Except CallError Config := (ofSettings settings).validate

end Config

/-- A span of time, as whole seconds and a rest in nanoseconds. -/
structure Span where
  seconds : UInt64
  nanos : UInt32
  deriving DecidableEq, Repr

/-- The whole milliseconds of a span. -/
def Span.millis (d : Span) : Nat := d.seconds.toNat * 1000 + d.nanos.toNat / 1000000

/-- How long one-shot tones play. The milliseconds are kept as a 64-bit word, so the count wraps. -/
def Setting.toneDurationSpan (d : Span) : Setting := .toneDuration (UInt64.ofNat d.millis)

/-- The render period. The milliseconds are kept as a 64-bit word, so the count wraps. -/
def Setting.renderPeriodSpan (d : Span) : Setting := .renderPeriod (UInt64.ofNat d.millis)

/-- A number of milliseconds in nanoseconds. -/
def nanosOfMillis (ms : UInt64) : Nat := ms.toNat * 1000000

end Switchboard
