import Switchboard.Admission.Policy
import Switchboard.Desk.Audio

/-!
# Requests and reports

What users ask for and what the radio reports. A request looks up its call, asks admission where
that has a say, asks telephony, and only then edits the registry; every edit is reported to the
audio side.

* `Desk.dial`, `Desk.arrive`, `Desk.answer`: the requests that admission decides on.
* `Desk.reportState`, `Desk.reportBearer`, `Desk.reportVideo`: what the radio reports.
-/

namespace Switchboard.Desk

open Admission (Action Decision Outcome Policy Request)

/-! ## The registry, from a request's side -/

/-- The record of a call, or the failure that there is none. -/
def call (id : CallId) : DeskM Call := do DeskM.ofExcept ((← get).registry.require id)

/-- The record of a call in one of the allowed states. -/
def callIn (id : CallId) (allowed : List CallState) (operation : String) : DeskM Call := do
  let c ← call id
  unless allowed.contains c.state do throw (.invalidState id c.state operation)
  pure c

/-- The record of a call on the IMS bearer. -/
def imsCall (id : CallId) (operation : String) : DeskM Call := do
  let c ← call id
  unless c.bearer = .ims do throw (.unsupported operation c.bearer)
  pure c

/-- Changes the record of a call. Gives it as it was. -/
def amend (id : CallId) (f : Call → Call) : DeskM Call := do
  let (c, registry) ← DeskM.ofExcept ((← get).registry.update id f)
  modify ({ · with registry })
  pure c

/-- Asks telephony for something. Its answer may take time, in which playbacks go on. -/
def telephone (command : Command) : DeskM Unit := do
  modify fun d => if d.outside.delay = 0 then d else d.onSound (·.elapse d.outside.delay)
  let failure := (← get).outside.failure (.telephony command)
  let met ← modifyGet (·.ask (.telephony command))
  unless met do throw failure

/-- Registers a call and says so. -/
def register (c : Call) : DeskM Unit := do
  let registry ← DeskM.ofExcept ((← get).registry.insert c)
  modify ({ · with registry })
  modify (·.emit (.callAdded c))
  modify (·.callCreated c)

/-- Takes a call out of the registry and says so. -/
def unregister (id : CallId) : DeskM Unit := do
  match (← get).registry.remove id with
  | none => pure ()
  | some (c, registry) =>
    modify ({ · with registry })
    modify (·.emit (.callRemoved id c.ended))
    modify fun d => if c.state.isRinging then d.ringingCallGone c else d.callDestroyed c

/-- Puts a call into a state, and says so if that is a change. -/
def setState (id : CallId) (next : CallState) : DeskM Unit := do
  let (prior, registry) ← DeskM.ofExcept ((← get).registry.setState id next)
  modify ({ · with registry })
  if prior ≠ next then
    modify (·.emit (.callStateChanged id prior next))
    callUpdated id prior next

/-- Disconnects a call and takes it out of the registry. -/
def finish (id : CallId) (ended : EndReason) : DeskM Unit := do
  discard <| amend id ({ · with ended })
  setState id .disconnected
  unregister id

/-! ## Admission -/

/-- The policy that the configuration sets. -/
def policy (d : Desk) : Policy := .ofConfig d.config

/-- Asks admission, and says what it decided. -/
def evaluate (request : Request) (id : Option CallId) : DeskM Outcome := do
  let d ← get
  let outcome := d.policy.evaluate request d.registry.calls
  set (d.emit (.admissionDecided id outcome.decision))
  pure outcome

/-- Does an action to another call. -/
def act : Action → DeskM Unit
  | .hold id => do
    telephone (.hold (← call id))
    setState id .holding
  | .hangUp id => do
    telephone (.hangUp (← call id))
    finish id .normal
  | .reject id => do
    telephone (.reject (← call id))
    unregister id

/-- Does actions in order, up to the first that fails. -/
def actAll : List Action → DeskM Unit
  | [] => pure ()
  | action :: rest => do
    act action
    actAll rest

/-- The failure of a request that admission refused. -/
def refusal (outcome : Outcome) : CallError :=
  .notAllowed ((outcome.reason.map (·.text)).getD "")

/-! ## Dialing -/

/-- Gives out the next call number. -/
def allocate : DeskM CallId :=
  modifyGet fun d =>
    let (id, registry) := d.registry.allocate
    (id, { d with registry })

/-- Dials once nothing else is being dialed. -/
def dialAdmitted (request : DialRequest) : DeskM CallId := do
  let outcome ← evaluate (.dial request.slot request.bearer request.emergency) none
  if outcome.isRejected then throw (refusal outcome)
  actAll outcome.actions
  let id ← allocate
  let c : Call :=
    { Call.fresh id request.slot request.bearer .dialing .outgoing request.number with
      video := request.video, emergency := request.emergency }
  register c
  try telephone (.dial c)
  catch e =>
    unregister id
    throw e
  pure id

/-- Carries an operation out while the desk counts as dialing. -/
def whileDialing {α : Type} (x : DeskM α) : DeskM α := fun d =>
  match x { d with dialing := true } with
  | .ok a d => .ok a { d with dialing := false }
  | .error e d => .error e { d with dialing := false }

/-- Places an outgoing call, unless another is being dialed. -/
def dial (request : DialRequest) : DeskM CallId := do
  if (← get).dialing then throw .dialInProgress
  whileDialing (dialAdmitted request)

/-- A call arrives from the network. One that is refused is declined, and gets a number all the
same. -/
def arrive (arrival : Arrival) : DeskM (CallId × Decision) := do
  let id ← allocate
  let c : Call :=
    { Call.fresh id arrival.slot arrival.bearer .incoming .incoming arrival.number with
      video := arrival.video }
  let outcome ← evaluate (.incoming arrival.slot arrival.bearer) (some id)
  if outcome.isRejected then
    telephone (.reject c)
    pure (id, outcome.decision)
  else
    try actAll outcome.actions
    catch e =>
      try telephone (.reject c) catch _ => pure ()
      throw e
    register (if outcome.decision = .queueAsWaiting then { c with state := .waiting } else c)
    pure (id, outcome.decision)

/-- Answers a ringing call. Admission has no say over third-party voice services. -/
def answer (id : CallId) (media : VideoState) : DeskM Unit := do
  let c ← callIn id [.incoming, .waiting] "answer"
  if c.bearer ≠ .voip then
    let outcome ← evaluate (.answer c media) (some id)
    if outcome.isRejected then throw (refusal outcome)
    actAll outcome.actions
  telephone (.answer c media)
  let prior ← amend id ({ · with video := media, state := .active })
  modify (·.emit (.callStateChanged id prior.state .active))
  callAnswered id

/-! ## Ending and holding -/

/-- Keeps held calls from being resumed without being asked for. -/
def keepHeld : List Call → DeskM Unit
  | [] => pure ()
  | held :: rest => do
    discard <| amend held.id ({ · with canUnhold := false })
    keepHeld rest

/-- Declines a ringing call. The calls that are held meanwhile stay held. -/
def reject (id : CallId) : DeskM Unit := do
  let c ← callIn id [.incoming, .waiting] "reject"
  telephone (.reject c)
  keepHeld ((← get).registry.findByState .holding)
  unregister id

/-- Makes a held call active. -/
def resume (held : Call) : DeskM Unit := do
  telephone (.unhold held)
  setState held.id .active

/-- Ends a call. If it was the active one, a held call is resumed; that may fail without harm. -/
def hangUp (id : CallId) : DeskM Unit := do
  let c ← call id
  if c.state.isTerminal then throw (.invalidState id c.state "hang up")
  telephone (.hangUp c)
  finish id .normal
  let d ← get
  if c.state = .active ∧ hasActive d.registry.calls = false then
    if let some held := (d.registry.findByState .holding).find? (·.canUnhold) then
      try resume held catch _ => pure ()

/-- Puts the active call on hold. -/
def hold (id : CallId) : DeskM Unit := do
  let c ← callIn id [.active] "hold"
  telephone (.hold c)
  setState id .holding

/-- Puts calls on hold, asking telephony for each. -/
def holdAll : List Call → DeskM Unit
  | [] => pure ()
  | c :: rest => do
    telephone (.hold c)
    setState c.id .holding
    holdAll rest

/-- Resumes a held call, after every active one was put on hold. -/
def unhold (id : CallId) : DeskM Unit := do
  let c ← callIn id [.holding] "unhold"
  holdAll ((← get).registry.findByState .active)
  discard <| amend id ({ · with canUnhold := true })
  resume c

/-- Puts calls into a state one after the other. -/
def setStates (next : CallState) : List Call → DeskM Unit
  | [] => pure ()
  | c :: rest => do
    setState c.id next
    setStates next rest

/-- Swaps active and held calls. -/
def switch (id : CallId) : DeskM Unit := do
  let c ← callIn id [.active, .holding] "switch"
  let registry := (← get).registry
  let (toHold, toResume) ←
    if c.state = .holding then pure (registry.findByState .active, c)
    else
      match (registry.findByState .holding).head? with
      | some held => pure ([c], held)
      | none => throw (.notAllowed "no held call to switch to")
  if toHold.isEmpty then throw (.notAllowed "no active call to switch from")
  telephone (.switch c)
  setStates .holding toHold
  setState toResume.id .active

/-! ## Conferences -/

/-- The calls of a conference. -/
def members (registry : Registry) (conference : CallId) : List Call :=
  registry.calls.filter (·.conference == some conference)

/-- Makes held calls members of a conference and active. -/
def joinPeers (main : CallId) : List Call → DeskM Unit
  | [] => pure ()
  | peer :: rest => do
    discard <| amend peer.id ({ · with conference := some main })
    setState peer.id .active
    joinPeers main rest

/-- Merges the held calls into a conference with the active call `id`. -/
def combine (id : CallId) : DeskM Unit := do
  let main ← callIn id [.active] "combine conference"
  let peers := (← get).registry.findByState .holding
  if peers.isEmpty then throw (.notAllowed "no held call to merge")
  telephone (.combine main)
  discard <| amend id ({ · with conference := some id })
  joinPeers id peers

/-- A call that is left alone is not in a conference. -/
def dissolveIfSingle (conference : CallId) : DeskM Unit := do
  match members (← get).registry conference with
  | [last] => discard <| amend last.id ({ · with conference := none })
  | _ => pure ()

/-- The record of a call in a conference, and the conference. -/
def member (id : CallId) (operation : String) : DeskM (Call × CallId) := do
  let c ← call id
  match c.conference with
  | some conference => pure (c, conference)
  | none => throw (.invalidState id c.state operation)

/-- Takes one member of a conference aside; the active rest of it is held. -/
def separate (id : CallId) : DeskM Unit := do
  let (c, conference) ← member id "separate from conference"
  telephone (.separate c)
  discard <| amend id ({ · with conference := none })
  setStates .holding ((members (← get).registry conference).filter (·.state == .active))
  dissolveIfSingle conference
  if c.state ≠ .active then setState id .active

/-- Drops one member of a conference. -/
def kickOut (id : CallId) : DeskM Unit := do
  let (c, conference) ← member id "kick out of conference"
  telephone (.kickOut c)
  finish id .normal
  dissolveIfSingle conference

/-- Invites more parties into the conversation of an active call. -/
def join (id : CallId) (numbers : List String) : DeskM Unit := do
  let c ← callIn id [.active] "join conference"
  if numbers.isEmpty then throw (.notAllowed "no numbers to invite")
  telephone (.invite c.slot numbers)

/-! ## Text, media and keys -/

/-- Starts real-time text on an IMS call. -/
def startRtt (id : CallId) (text : String) : DeskM Unit := do
  telephone (.startRtt (← imsCall id "start rtt") text)

/-- Stops real-time text on an IMS call. -/
def stopRtt (id : CallId) : DeskM Unit := do
  telephone (.stopRtt (← imsCall id "stop rtt"))

/-- Changes the media of an IMS call. -/
def setImsMode (id : CallId) (mode : ImsMode) : DeskM Unit := do
  let c ← imsCall id "update call mode"
  telephone (.updateMode c mode)
  videoChanged id c.video mode.video

/-- Sends the tone of a key to the other party, and lets the user hear it. -/
def startDtmf (id : CallId) (digit : Char) : DeskM Unit := do
  let c ← callIn id [.active] "send dtmf"
  telephone (.startDtmf c digit)
  modify (·.soundKey digit)

/-- Stops the tone of a key. -/
def stopDtmf (id : CallId) : DeskM Unit := do
  let c ← callIn id [.active] "stop dtmf"
  telephone (.stopDtmf c)
  modify fun d => d.silenceDtmf.2

/-! ## Reports of the radio -/

/-- The radio reports a call's state, and why it ended if it did. -/
def reportState (id : CallId) (state : CallState) (ended : Option EndReason) : DeskM Unit := do
  discard <| call id
  if let some ended := ended then discard <| amend id ({ · with ended })
  if state = .disconnected ∨ state = .idle then
    setState id .disconnected
    unregister id
  else setState id state

/-- The radio reports a call's bearer. -/
def reportBearer (id : CallId) (bearer : Bearer) : DeskM Unit := do
  let prior ← amend id ({ · with bearer })
  if prior.bearer ≠ bearer then bearerChanged id prior.bearer bearer

/-- The radio reports a call's video state. -/
def reportVideo (id : CallId) (media : VideoState) : DeskM Unit := do
  let c ← call id
  videoChanged id c.video media

end Switchboard.Desk
