import Switchboard.Posture.Basic
import Switchboard.Signal

/-!
# Edges

The posture machine hears of the first and the last call of a class only. `edges` finds these
signals for the move of one call, from the calls as they are after the move; `Posture.strays` says
when the machine stands in a posture that no signal will correct.
-/

namespace Switchboard

/-- The classes of calls that have a signal for their first and their last call. -/
inductive CallClass where
  | dialing
  | alerting
  | ringing
  | active
  deriving DecidableEq, Repr

namespace CallClass

/-- The class of a state, if it belongs to one. -/
def of? : CallState → Option CallClass
  | .dialing => some .dialing
  | .alerting => some .alerting
  | .incoming | .waiting => some .ringing
  | .active => some .active
  | _ => none

/-- How many calls belong to the class. -/
def count (k : CallClass) (calls : List Call) : Nat := calls.countP fun c => of? c.state == some k

/-- The signal of the first call of a class, on a bearer. -/
def firstSignal (k : CallClass) (bearer : Bearer) : Signal :=
  match k with
  | .dialing => .newDialing
  | .alerting => .newAlerting
  | .ringing => .newIncoming
  | .active => if bearer = .ims then .newActiveIms else .newActiveCs

/-- The signal that the last call of a class is gone. -/
def lastSignal : CallClass → Signal
  | .dialing => .noMoreDialing
  | .alerting => .noMoreAlerting
  | .ringing => .noMoreIncoming
  | .active => .noMoreActive

end CallClass

/-- The signals of one call's move from `prior` to `next`, where `none` stands for not being
registered and `calls` are the calls after the move. -/
def edges (calls : List Call) (bearer : Bearer) (prior next : Option CallState) : List Signal :=
  let priorClass := prior.bind CallClass.of?
  let nextClass := next.bind CallClass.of?
  if priorClass = nextClass then []
  else
    let first :=
      match nextClass with
      | some k => if k.count calls = 1 then [k.firstSignal bearer] else []
      | none => []
    let last :=
      match priorClass with
      | some k => if k.count calls = 0 then [k.lastSignal] else []
      | none => []
    first ++ last

/-- The machine stands in a posture other than the expected one, and no signal will correct it. -/
def Posture.strays (current expected : Posture) (t : Tally) : Bool :=
  current != expected
    && (expected == .inactive || current == .inactive || current == .holding
      || (current.isBearer && (expected.isBearer || t.active == 0)))

end Switchboard
