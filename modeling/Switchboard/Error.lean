import Switchboard.Call.Basic

/-!
# Errors

Why an operation of the switchboard fails. `CallError` names the cause, `CallError.message` is the
one place that words it, and `CallError.category` sorts causes into the broad classes that callers
act on.
-/

namespace Switchboard

/-- The broad classes of failure. -/
inductive ErrorCategory where
  /-- An event that the current node of a machine does not take. -/
  | invalidTransition
  /-- A request that admission refuses. -/
  | admissionConflict
  /-- A renderer, ringtone or accessory that cannot be had. -/
  | resource
  /-- A call that does not exist or is in the wrong state. -/
  | localState
  /-- A request that the call's bearer does not offer. -/
  | unsupported
  /-- A failure on the telephony side. -/
  | backend
  /-- Configuration or life-cycle misuse. -/
  | setup
  deriving DecidableEq, Repr

instance : Spelled ErrorCategory where
  all := [.invalidTransition, .admissionConflict, .resource, .localState, .unsupported, .backend,
    .setup]
  spell
    | .invalidTransition => "InvalidTransition"
    | .admissionConflict => "AdmissionConflict"
    | .resource => "Resource"
    | .localState => "LocalState"
    | .unsupported => "Unsupported"
    | .backend => "Backend"
    | .setup => "Setup"

/-- The causes of failure. -/
inductive CallError where
  | invalidTransition (state event : String)
  | notAllowed (reason : String)
  | dialInProgress
  | resourceUnavailable (resource reason : String)
  | deviceUnavailable (device : String)
  | callNotFound (id : CallId)
  | invalidState (id : CallId) (state : CallState) (operation : String)
  | unsupported (operation : String) (bearer : Bearer)
  | backend (operation message : String)
  | configuration (message : String)
  | notInitialized
  | alreadyInitialized
  | internal (message : String)
  deriving DecidableEq, Repr

namespace CallError

/-- The name of a cause. -/
def kind : CallError → String
  | invalidTransition .. => "InvalidTransition"
  | notAllowed .. => "NotAllowed"
  | dialInProgress => "DialInProgress"
  | resourceUnavailable .. => "ResourceUnavailable"
  | deviceUnavailable .. => "DeviceUnavailable"
  | callNotFound .. => "CallNotFound"
  | invalidState .. => "InvalidState"
  | unsupported .. => "Unsupported"
  | backend .. => "Backend"
  | configuration .. => "Configuration"
  | notInitialized => "NotInitialized"
  | alreadyInitialized => "AlreadyInitialized"
  | internal .. => "Internal"

/-- The wording of an error. -/
def message : CallError → String
  | invalidTransition state event => s!"Event {event} not accepted in state {state}"
  | notAllowed reason => s!"Not allowed: {reason}"
  | dialInProgress => "A dial request is already in progress"
  | resourceUnavailable resource reason => s!"Resource {resource} unavailable: {reason}"
  | deviceUnavailable device => s!"Audio device unavailable: {device}"
  | callNotFound id => s!"Call not found: {id.toNat}"
  | invalidState id state operation =>
    s!"Call {id.toNat} is {spell state}, cannot {operation}"
  | unsupported operation bearer => s!"{operation} is not supported for {spell bearer} calls"
  | backend operation message => s!"Backend error in {operation}: {message}"
  | configuration message => s!"Configuration error: {message}"
  | notInitialized => "Not initialized"
  | alreadyInitialized => "Already initialized"
  | internal message => s!"Internal error: {message}"

/-- The class that an error falls into. -/
def category : CallError → ErrorCategory
  | invalidTransition .. => .invalidTransition
  | notAllowed .. | dialInProgress => .admissionConflict
  | resourceUnavailable .. | deviceUnavailable .. => .resource
  | callNotFound .. | invalidState .. => .localState
  | unsupported .. => .unsupported
  | backend .. => .backend
  | configuration .. | notInitialized | alreadyInitialized | internal .. => .setup

end CallError

end Switchboard
