import Switchboard.Admission.Basic
import Switchboard.Call.Foreground
import Switchboard.Config.Basic

/-!
# The admission policy

What happens when a call arrives, is answered or is dialed while other calls exist. The policy is a
function of the request and the list of calls; it changes nothing itself.

* `Policy.others`: the calls that count. The call that makes the request and terminal calls do not.
* `Policy.evaluate`: the outcome of a request, by its kind.
-/

namespace Switchboard.Admission

/-- The settings of admission. -/
structure Policy where
  /-- A second call may ring while another is active. -/
  callWaiting : Bool
  /-- How many calls there may be for another to be dialed below that number. -/
  maxCalls : Nat
  deriving DecidableEq, Repr

/-- The policy that a configuration sets. -/
def Policy.ofConfig (c : Config) : Policy := ⟨c.callWaiting, c.maxCalls.toNat⟩

/-- Answering with video ends every call that is connecting or connected. -/
def videoEndsOthers (video : VideoState) (others : List Call) : Bool :=
  video != .voice && others.any fun c => c.state.isConnecting || c.state.isConnected

/-- Answering with voice ends those calls too while a connected call carries video. -/
def voiceEndsVideo (video : VideoState) (others : List Call) : Bool :=
  video == .voice && hasConnected (others.filter (·.carriesVideo))

/-- Hangs up every call that is connecting or connected. -/
def endConversations (others : List Call) : Outcome :=
  .answer <|
    (others.filter fun c => c.state.isConnecting || c.state.isConnected).map fun c => .hangUp c.id

/-- The held and the active one of two calls, if they are such a pair. -/
def heldAndActive? (first second : Call) : Option (Call × Call) :=
  match first.state, second.state with
  | .holding, .active => some (first, second)
  | .active, .holding => some (second, first)
  | _, _ => none

namespace Policy

/-- The calls that a request has to get along with. -/
def others (request : Request) (calls : List Call) : List Call :=
  calls.filter fun c => !c.state.isTerminal && some c.id != request.call

/-- A call arrives on `slot`. -/
def onIncoming (p : Policy) (slot : SlotId) (calls : List Call) : Outcome :=
  if !p.callWaiting && hasActive calls then .refuse .callWaitingDisabled
  else
    match calls with
    | [] => .answer []
    | [c] =>
      if c.state == .active then .autoHold [.hold c.id]
      else if c.state.isRinging then .queue
      else .answer []
    | [first, second] =>
      match heldAndActive? first second with
      | some (held, active) =>
        -- A call held on another slot gives way to the slot that the new call arrives on.
        if held.slot != slot && active.slot == slot then
          .autoHold [.hangUp held.id, .hold active.id]
        else .queue
      | none =>
        let pending (c : Call) := c.state.isConnecting || c.state.isRinging
        if first.state == .holding && second.state == .holding then .queue
        else if (first.state.isConnected && pending second)
            || (second.state.isConnected && pending first) then .queue
        else .refuse (.cannotTake first.state second.state)
    | _ => .refuse .unsupportedMix

/-- A ringing call is answered beside a connected call `anchor` and another call. -/
def answerBeside (anchor other : Call) : Option Outcome :=
  match anchor.state with
  | .holding =>
    if other.state.isConnecting then some (.answer [.hangUp other.id])
    else if other.state.isRinging then some (.answer [])
    else none
  | .active =>
    if other.state.isConnecting then some (.autoHold [.hangUp other.id, .hold anchor.id])
    else if other.state.isRinging then some (.autoHold [.hold anchor.id])
    else none
  | _ => none

/-- A ringing call is answered with the video state `video`. -/
def onAnswer (video : VideoState) (calls : List Call) : Outcome :=
  if calls.length ≤ 2 && (videoEndsOthers video calls || voiceEndsVideo video calls) then
    endConversations calls
  else
    match calls with
    | [] => .answer []
    | [c] =>
      if c.state == .active then .autoHold [.hold c.id]
      else if c.state.isConnecting then .answer [.hangUp c.id]
      else .answer []
    | [first, second] =>
      match heldAndActive? first second with
      | some (held, active) => .autoHold [.hangUp held.id, .hold active.id]
      | none =>
        if first.state == .holding && second.state == .holding then .answer []
        else
          let outcome :=
            if first.state.isConnected then answerBeside first second
            else answerBeside second first
          outcome.getD (.refuse (.cannotAnswer first.state second.state))
    | _ => .refuse .unsupportedMix

/-- What an emergency call does to a call in its way. -/
def clearAway? (c : Call) : Option Action :=
  if c.state.isConnecting || c.state.isConnected then some (.hangUp c.id)
  else if c.state.isRinging then some (.reject c.id)
  else none

/-- The user dials an emergency number: everything else gives way. -/
def onEmergencyDial (calls : List Call) : Outcome :=
  if calls.any fun c => c.emergency && c.state.isConnecting then .refuse .emergencyConnecting
  else .answer (calls.filterMap clearAway?)

/-- The user dials an ordinary number. -/
def onDial (p : Policy) (calls : List Call) : Outcome :=
  if calls.isEmpty then .answer []
  else if hasConnecting calls then .refuse .callConnecting
  else if hasRinging calls then .refuse .callRinging
  else if p.maxCalls ≤ calls.length then .refuse (.limitReached p.maxCalls)
  else
    match calls with
    | [c] =>
      if c.state == .active then .autoHold [.hold c.id]
      else if c.state == .holding then .answer []
      else .refuse .tooManyCalls
    | _ => .refuse .tooManyCalls

/-- The outcome of a request beside `calls`. -/
def evaluate (p : Policy) (request : Request) (calls : List Call) : Outcome :=
  let calls := others request calls
  match request.kind with
  | .incoming => p.onIncoming request.slot calls
  | .answer video => onAnswer video calls
  | .dial true => onEmergencyDial calls
  | .dial false => p.onDial calls

end Policy

end Switchboard.Admission
