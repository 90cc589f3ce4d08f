import Switchboard.Call.Basic

/-!
# Postures

The posture is the aggregate state of all calls: who is dialing, ringing, talking or held.

* `Tally`: how many calls there are of each kind, and the bearer of the active call with the lowest
  number.
* `Posture.ofTally`: the posture that a tally calls for: active calls come first, then alerting,
  dialing, ringing and held ones.
* `Posture.mode?`: the audio scene that comes with a posture; on hold the scene stays as it was.
-/

namespace Switchboard

/-- The audio scene that the platform is asked for. -/
inductive AudioMode where
  | idle
  | ringtone
  | inCall
  | inVoip
  deriving DecidableEq, Repr, Inhabited

instance : Spelled AudioMode where
  all := [.idle, .ringtone, .inCall, .inVoip]
  spell
    | .idle => "Idle"
    | .ringtone => "Ringtone"
    | .inCall => "InCall"
    | .inVoip => "InVoip"

/-- The aggregate state of all calls. -/
inductive Posture where
  | inactive
  | dialing
  | alerting
  | incoming
  /-- A circuit-switched call is active. -/
  | cs
  /-- An IMS call is active. -/
  | ims
  /-- A call of another bearer is active. -/
  | ott
  | holding
  deriving DecidableEq, Repr, Inhabited

instance : Spelled Posture where
  all := [.inactive, .dialing, .alerting, .incoming, .cs, .ims, .ott, .holding]
  spell
    | .inactive => "Inactive"
    | .dialing => "Dialing"
    | .alerting => "Alerting"
    | .incoming => "Incoming"
    | .cs => "Cs"
    | .ims => "Ims"
    | .ott => "Ott"
    | .holding => "Holding"

/-- The calls at hand, counted. -/
structure Tally where
  active : Nat
  alerting : Nat
  dialing : Nat
  /-- Incoming and waiting calls. -/
  ringing : Nat
  holding : Nat
  /-- The bearer of the active call with the lowest number. -/
  activeBearer : Option Bearer
  deriving DecidableEq, Repr

namespace Tally

/-- The active call with the lowest number; of equal numbers the first counts. -/
def leadingActive? (calls : List Call) : Option Call :=
  calls.foldl
    (fun lead c =>
      if c.state == .active && lead.all (c.id < ·.id) then some c else lead)
    none

/-- Counts the calls. -/
def ofCalls (calls : List Call) : Tally where
  active := calls.countP (·.state == .active)
  alerting := calls.countP (·.state == .alerting)
  dialing := calls.countP (·.state == .dialing)
  ringing := calls.countP (·.state.isRinging)
  holding := calls.countP (·.state == .holding)
  activeBearer := (leadingActive? calls).map (·.bearer)

/-- Something gives or awaits a ring signal. -/
def hasRingActivity (t : Tally) : Bool := 0 < t.ringing || 0 < t.alerting || 0 < t.dialing

end Tally

namespace Posture

/-- The posture of an active call of a bearer. -/
def ofBearer : Option Bearer → Posture
  | some .ims => .ims
  | some .ott | some .voip => .ott
  | some .cs | none => .cs

/-- The posture that the calls at hand call for. -/
def ofTally (t : Tally) : Posture :=
  if 0 < t.active then ofBearer t.activeBearer
  else if 0 < t.alerting then .alerting
  else if 0 < t.dialing then .dialing
  else if 0 < t.ringing then .incoming
  else if 0 < t.holding then .holding
  else .inactive

/-- The audio scene that comes with a posture, if it brings one. -/
def mode? : Posture → Option AudioMode
  | .inactive | .dialing | .alerting => some .idle
  | .incoming => some .ringtone
  | .cs => some .inCall
  | .ims | .ott => some .inVoip
  | .holding => none

/-- Some call is active. -/
def isBearer : Posture → Bool
  | .cs | .ims | .ott => true
  | _ => false

end Posture

end Switchboard
