import Switchboard.Desk.Manager

/-!
# Operations

Everything that can happen at a desk, as data, so that whole histories can be spoken of.

* `Operation`: what users and the radio bring to a desk in service.
* `AudioOperation`: what can be done to the audio side alone.
* `Circumstance`: the passage of time, and changes in what the outside can do.
* `Operation.perform`, `AudioOperation.perform`, `Circumstance.perform`: the `Reply` and the desk
  after it.
-/

namespace Switchboard

open Admission (Decision)

/-- What an operation answers. -/
inductive Reply where
  | nothing
  | result (result : Except CallError Unit)
  | results (results : List (Except CallError Unit))
  | dialed (result : Except CallError CallId)
  | dialedTogether (results : List (Except CallError CallId))
  | arrived (result : Except CallError (CallId × Decision))
  | flag (value : Bool)

/-- What users and the radio bring to a desk. -/
inductive Operation where
  | start
  | shutdown
  | dial (request : DialRequest)
  | dialTogether (requests : List DialRequest)
  | arrive (arrival : Arrival)
  | answer (id : CallId) (media : VideoState)
  | reject (id : CallId)
  | hangUp (id : CallId)
  | hold (id : CallId)
  | unhold (id : CallId)
  | switch (id : CallId)
  | combine (id : CallId)
  | separate (id : CallId)
  | kickOut (id : CallId)
  | join (id : CallId) (numbers : List String)
  | setImsMode (id : CallId) (mode : ImsMode)
  | startRtt (id : CallId) (text : String)
  | stopRtt (id : CallId)
  | startDtmf (id : CallId) (digit : Char)
  | stopDtmf (id : CallId)
  | setMute (muted : Bool)
  | setDevice (device : Device)
  | setRingerMode (mode : RingerMode)
  | reportState (id : CallId) (state : CallState) (ended : Option EndReason)
  | reportBearer (id : CallId) (bearer : Bearer)
  | reportVideo (id : CallId) (media : VideoState)
  | reportHeadset (connected : Bool)
  | reportBluetooth (connected : Bool)
  deriving DecidableEq, Repr

/-- What can be done to the audio side alone. -/
inductive AudioOperation where
  | openQueue
  | closeQueue
  | dispatch (signal : Signal)
  | submit (signals : List Signal)
  | callCreated (call : Call)
  | callDestroyed (call : Call)
  | ringingCallGone (call : Call)
  | callUpdated (id : CallId) (prior next : CallState)
  | callAnswered (id : CallId)
  | bearerChanged (id : CallId) (old new : Bearer)
  | videoChanged (id : CallId) (old new : VideoState)
  | routeVideo
  | playRingtone
  | stopRinging
  | playTone (tone : Tone)
  | soundKey (digit : Char)
  | stopTone
  | stopDtmf
  | muteNetworkRing
  deriving DecidableEq, Repr

/-- What happens around a desk. -/
inductive Circumstance where
  /-- So many milliseconds pass. -/
  | elapse (ms : Nat)
  /-- A service fails from now on, or is willing again. -/
  | setFailing (service : Service) (failing : Bool)
  /-- Streams of the renderer fail after so many periods; zero means never. -/
  | failRenderAfter (periods : Nat)
  deriving DecidableEq, Repr

namespace Operation

/-- Carries an operation out that answers with success or failure alone. -/
def conclude (x : DeskM Unit) (d : Desk) : Reply × Desk :=
  let (result, d) := x.perform d
  (.result result, d)

/-- Carries an operation out. -/
def perform (d : Desk) : Operation → Reply × Desk
  | start => conclude Desk.start d
  | shutdown => conclude Desk.shutdown d
  | dial request =>
    let (result, d) := (Desk.inService (Desk.dial request)).perform d
    (.dialed result, d)
  | dialTogether requests =>
    let (results, d) := Desk.dialTogether requests d
    (.dialedTogether results, d)
  | arrive arrival =>
    let (result, d) := (Desk.inService (Desk.arrive arrival)).perform d
    (.arrived result, d)
  | answer id media => conclude (Desk.inService (Desk.answer id media)) d
  | reject id => conclude (Desk.inService (Desk.reject id)) d
  | hangUp id => conclude (Desk.inService (Desk.hangUp id)) d
  | hold id => conclude (Desk.inService (Desk.hold id)) d
  | unhold id => conclude (Desk.inService (Desk.unhold id)) d
  | switch id => conclude (Desk.inService (Desk.switch id)) d
  | combine id => conclude (Desk.inService (Desk.combine id)) d
  | separate id => conclude (Desk.inService (Desk.separate id)) d
  | kickOut id => conclude (Desk.inService (Desk.kickOut id)) d
  | join id numbers => conclude (Desk.inService (Desk.join id numbers)) d
  | setImsMode id mode => conclude (Desk.inService (Desk.setImsMode id mode)) d
  | startRtt id text => conclude (Desk.inService (Desk.startRtt id text)) d
  | stopRtt id => conclude (Desk.inService (Desk.stopRtt id)) d
  | startDtmf id digit => conclude (Desk.inService (Desk.startDtmf id digit)) d
  | stopDtmf id => conclude (Desk.inService (Desk.stopDtmf id)) d
  | setMute muted => conclude (Desk.setMute muted) d
  | setDevice device => conclude (Desk.setDevice device) d
  | setRingerMode mode => (.nothing, d.setRingerMode mode)
  | reportState id state ended => conclude (Desk.inService (Desk.reportState id state ended)) d
  | reportBearer id bearer => conclude (Desk.inService (Desk.reportBearer id bearer)) d
  | reportVideo id media => conclude (Desk.inService (Desk.reportVideo id media)) d
  | reportHeadset connected => conclude (Desk.reportHeadset connected) d
  | reportBluetooth connected => conclude (Desk.reportBluetooth connected) d

end Operation

namespace AudioOperation

/-- Puts signals into the queue one after the other, and gives the result of each. -/
def submitAll : List Signal → Desk → List (Except CallError Unit) × Desk
  | [], d => ([], d)
  | signal :: rest, d =>
    let (result, d) := (Desk.submit signal).perform d
    let (results, d) := submitAll rest d
    (result :: results, d)

/-- A flag and the desk it goes with, as a reply. -/
def answerFlag (outcome : Bool × Desk) : Reply × Desk := (.flag outcome.1, outcome.2)

/-- Carries an operation out. -/
def perform (d : Desk) : AudioOperation → Reply × Desk
  | openQueue => Operation.conclude Desk.openQueue d
  | closeQueue => Operation.conclude Desk.closeQueue d
  | dispatch signal => answerFlag (d.dispatch signal)
  | submit signals =>
    let (results, d) := submitAll signals d
    (.results results, d)
  | callCreated c => (.nothing, d.callCreated c)
  | callDestroyed c => (.nothing, d.callDestroyed c)
  | ringingCallGone c => (.nothing, d.ringingCallGone c)
  | callUpdated id prior next => Operation.conclude (Desk.callUpdated id prior next) d
  | callAnswered id => Operation.conclude (Desk.callAnswered id) d
  | bearerChanged id old new => Operation.conclude (Desk.bearerChanged id old new) d
  | videoChanged id old new => Operation.conclude (Desk.videoChanged id old new) d
  | routeVideo => answerFlag d.routeVideo
  | playRingtone => Operation.conclude Desk.playRingtone d
  | stopRinging => answerFlag d.stopRinging
  | playTone tone => (.result (.ok ()), d.soundTone tone)
  | soundKey digit => (.result (.ok ()), d.soundKey digit)
  | stopTone => answerFlag d.silenceTone
  | stopDtmf => answerFlag d.silenceDtmf
  | muteNetworkRing => answerFlag (d.silenceToneIf .ringback)

end AudioOperation

namespace Circumstance

/-- Lets something happen around the desk. -/
def perform (d : Desk) : Circumstance → Desk
  | elapse ms => d.onSound (·.elapse ms)
  | setFailing service failing => { d with outside := d.outside.setFailing service failing }
  | failRenderAfter periods => { d with renderer := { d.renderer with failAfter := periods } }

end Circumstance

end Switchboard
