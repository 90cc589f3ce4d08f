import Switchboard.Call.Basic

/-!
# Admission requests and outcomes

What is asked of admission, and what it answers: a `Decision`, the `Action`s to take on other calls
before the request goes ahead, and the `Refusal` when it does not.
-/

namespace Switchboard.Admission

/-- What becomes of the call that makes a request. -/
inductive Decision where
  /-- It goes ahead: it rings, is answered or is dialed. -/
  | answer
  /-- It goes ahead once the call at hand is on hold. -/
  | autoHold
  /-- It is refused. -/
  | reject
  /-- It rings as a waiting call. -/
  | queueAsWaiting
  deriving DecidableEq, Repr, Inhabited

instance : Spelled Decision where
  all := [.answer, .autoHold, .reject, .queueAsWaiting]
  spell
    | .answer => "Answer"
    | .autoHold => "AutoHold"
    | .reject => "Reject"
    | .queueAsWaiting => "QueueAsWaiting"

/-- How much a decision lets through; decisions are compared by this rank. -/
def Decision.permissiveness : Decision → Nat
  | .answer => 3
  | .autoHold => 2
  | .queueAsWaiting => 1
  | .reject => 0

/-- What is done to another call before a request goes ahead. -/
inductive Action where
  | hold (id : CallId)
  | hangUp (id : CallId)
  /-- Declines a ringing call. -/
  | reject (id : CallId)
  deriving DecidableEq, Repr

/-- The call that an action is done to. -/
def Action.target : Action → CallId
  | .hold id | .hangUp id | .reject id => id

/-- The kinds of request. -/
inductive Kind where
  /-- A call arrives from the network. -/
  | incoming
  /-- The user answers a ringing call with a video state. -/
  | answer (video : VideoState)
  /-- The user dials. -/
  | dial (emergency : Bool)
  deriving DecidableEq, Repr

/-- A request for admission. -/
structure Request where
  kind : Kind
  /-- The call that makes the request, if it is registered. -/
  call : Option CallId
  slot : SlotId
  bearer : Bearer
  deriving DecidableEq, Repr

/-- The request of a call that arrives. -/
def Request.incoming (slot : SlotId) (bearer : Bearer) : Request := ⟨.incoming, none, slot, bearer⟩

/-- The request to answer `c` with the video state `video`. -/
def Request.answer (c : Call) (video : VideoState) : Request :=
  ⟨.answer video, some c.id, c.slot, c.bearer⟩

/-- The request to dial. -/
def Request.dial (slot : SlotId) (bearer : Bearer) (emergency : Bool) : Request :=
  ⟨.dial emergency, none, slot, bearer⟩

/-- Why a request is refused. -/
inductive Refusal where
  | callWaitingDisabled
  | cannotTake (first second : CallState)
  | cannotAnswer (first second : CallState)
  | unsupportedMix
  | emergencyConnecting
  | callConnecting
  | callRinging
  | limitReached (limit : Nat)
  | tooManyCalls
  deriving DecidableEq, Repr

/-- The wording of a refusal. -/
def Refusal.text : Refusal → String
  | callWaitingDisabled => "call waiting is disabled"
  | cannotTake first second => s!"cannot take a call while {spell first} and {spell second}"
  | cannotAnswer first second => s!"cannot answer while {spell first} and {spell second}"
  | unsupportedMix => "unsupported call mix"
  | emergencyConnecting => "an emergency call is already connecting"
  | callConnecting => "a call is already connecting"
  | callRinging => "ringing call present"
  | limitReached limit => s!"call limit of {limit} reached"
  | tooManyCalls => "too many calls to place another"

/-- The answer to a request. -/
structure Outcome where
  decision : Decision
  /-- Done in order before the request goes ahead. -/
  actions : List Action
  reason : Option Refusal
  deriving DecidableEq, Repr

namespace Outcome

/-- The request goes ahead after `actions`. -/
def answer (actions : List Action) : Outcome := ⟨.answer, actions, none⟩

/-- The request goes ahead after `actions`, the last of which puts a call on hold. -/
def autoHold (actions : List Action) : Outcome := ⟨.autoHold, actions, none⟩

/-- The call is to wait. -/
def queue : Outcome := ⟨.queueAsWaiting, [], none⟩

/-- The request is refused. -/
def refuse (reason : Refusal) : Outcome := ⟨.reject, [], some reason⟩

/-- The request was refused. -/
def isRejected (o : Outcome) : Bool := o.decision == .reject

end Outcome

end Switchboard.Admission
