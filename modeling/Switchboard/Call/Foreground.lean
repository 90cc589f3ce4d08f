import Switchboard.Call.Basic

/-!
# What a list of calls holds

Questions that admission and audio put to the calls at hand.

* `hasActive`, `hasDialing`, `hasConnecting`, `hasConnected`, `hasRinging`, `hasEmergency`.
* `foreground?`: the call that the user is dealing with. An active call comes first, then a
  connecting one, a ringing one and a held one; within a class the lowest number wins. Terminal
  calls are never in the foreground.
* `videoInUse`: whether the picture of some call is on show.
-/

namespace Switchboard

/-- Some call is active. -/
def hasActive (calls : List Call) : Bool := calls.any (·.state == .active)

/-- Some call is dialing. -/
def hasDialing (calls : List Call) : Bool := calls.any (·.state == .dialing)

/-- Some call is dialing or alerting. -/
def hasConnecting (calls : List Call) : Bool := calls.any (·.state.isConnecting)

/-- Some call is active or held. -/
def hasConnected (calls : List Call) : Bool := calls.any (·.state.isConnected)

/-- Some call is incoming or waiting. -/
def hasRinging (calls : List Call) : Bool := calls.any (·.state.isRinging)

/-- Some emergency call is not terminal. -/
def hasEmergency (calls : List Call) : Bool :=
  calls.any fun c => c.emergency && !c.state.isTerminal

/-- The order of precedence of a state in the foreground; terminal states have none. -/
def CallState.precedence? : CallState → Option Nat
  | .active => some 0
  | .alerting | .dialing => some 1
  | .incoming | .waiting => some 2
  | .holding => some 3
  | .idle | .disconnecting | .disconnected => none

/-- The call `c` comes before the call `d` in the foreground: its state has precedence, or the
states are on a par and its number is lower. -/
def Call.precedes (c d : Call) : Bool :=
  match c.state.precedence?, d.state.precedence? with
  | some p, some q => p < q || (p == q && c.id < d.id)
  | some _, none => true
  | none, _ => false

/-- The call in the foreground of `calls`, if one of them is not terminal. -/
def foreground? (calls : List Call) : Option Call :=
  calls.foldl
    (fun best c =>
      match best with
      | some b => if c.precedes b then some c else some b
      | none => if c.state.isTerminal then none else some c)
    none

/-- Video is on show: some active call, or the foreground call, is a video call. -/
def videoInUse (calls : List Call) : Bool :=
  calls.any (fun c => c.state == .active && c.video.isVideoCall)
    || (foreground? calls).any (·.video.isVideoCall)

/-- The foreground call has asked for the loudspeaker. -/
def speakerphoneInUse (calls : List Call) : Bool :=
  (foreground? calls).any (·.speakerphone)

end Switchboard
