import Switchboard.Desk.Basic
import Switchboard.Posture.Edges

/-!
# The audio side of the desk

The audio side keeps the two machines, the players and the platform in step with the registry. The
posture machine follows the calls; where it stands decides on the audio focus, the focus and the
accessories decide on the route, and transitions start and stop tones and ringing.

* `Desk.dispatch`: feeds one signal to the machine that it is for, and says whether it was taken.
* `Desk.callMoved`: dispatches the signals of one call's move, and then reconciles the posture
  with the registry.
* `Desk.submit`, `Desk.receive`, `Desk.drain`: the queue of signals.
-/

namespace Switchboard.Desk

open Playback (Sound)

/-! ## Tones and ringing -/

/-- Changes the players. -/
def onSound (d : Desk) (f : Sound → Sound) : Desk := { d with toSound := f d.toSound }

/-- Plays a tone in place of the one before. -/
def soundTone (d : Desk) (tone : Tone) : Desk := d.onSound (·.playTone tone)

/-- Stops the tone. Also says whether its playback had not ended. -/
def silenceTone (d : Desk) : Bool × Desk :=
  let (live, sound) := d.toSound.stopTone
  (live, { d with toSound := sound })

/-- Stops the tone if it is the given one. Also says whether its playback had not ended. -/
def silenceToneIf (d : Desk) (tone : Tone) : Bool × Desk :=
  let (live, sound) := d.toSound.stopToneIf tone
  (live, { d with toSound := sound })

/-- Stops the feedback of a key. Also says whether there was any. -/
def silenceDtmf (d : Desk) : Bool × Desk :=
  match d.toSound.currentTone? with
  | some tone => if tone.isDtmf then d.silenceToneIf tone else (false, d)
  | none => (false, d)

/-- The slot of the first ringing call. -/
def ringingSlot (calls : List Call) : SlotId :=
  match calls.find? (·.state.isRinging) with
  | some c => c.slot
  | none => 0

/-- Starts ringing and says so. -/
def startRinging (d : Desk) (slot : SlotId) : Except CallError Desk :=
  match d.toSound.ring slot with
  | .ok sound => .ok ({ d with toSound := sound }.emit (.ringingChanged true))
  | .error e => .error e

/-- Stops ringing, and says so if there was anything to stop. -/
def stopRinging (d : Desk) : Bool × Desk :=
  let (stopped, sound) := d.toSound.stopRing
  let d := { d with toSound := sound }
  (stopped, if stopped then d.emit (.ringingChanged false) else d)

/-! ## The route -/

/-- What a route is chosen by, beside `calls`. -/
def context (d : Desk) (calls : List Call) : Route.Context where
  bluetooth := d.bluetooth
  headset := d.headset
  focus := d.focus
  video := videoInUse calls
  speakerphone := speakerphoneInUse calls

/-- Moves the route machine, and tells the platform and the listeners what that changes. -/
def moveRoute (d : Desk) (next : Route.Machine) : Desk :=
  let before := d.route
  let d := { d with route := next }
  let d :=
    if next.current = before.current then d
    else
      let d := (d.ask (.route next.current.device)).2
      d.emit (.deviceChanged before.current.device next.current.device)
  if next.link = before.link then d else (d.ask (.link next.link)).2

/-- Feeds a signal to the route machine. Losing the focus drops the route even where the machine
does not take the signal. -/
def feedRoute (d : Desk) (signal : Signal) (calls : List Call) : Bool × Desk :=
  let (taken, next) := d.route.process signal (d.context calls)
  (taken,
    d.moveRoute (if !taken && signal == .audioDeactivated then .rest else next))

/-- Mutes the microphone or lets it be heard, if the platform complies. -/
def applyMute (d : Desk) (muted : Bool) : Desk :=
  if d.muted = muted then d
  else
    let (met, d) := d.ask (.micMute muted)
    if met then { d with muted }.emit (.muteChanged muted) else d

/-- The focus that goes with a posture. -/
def focusOf : Posture → Focus
  | .inactive => .released
  | .incoming => .ringing
  | _ => .inCall

/-- The signal of a change to a focus. -/
def focusSignal : Focus → Signal
  | .released => .audioDeactivated
  | .ringing => .audioRinging
  | .inCall => .audioActivated

/-- Brings the focus in line with the posture. Without calls the microphone is not muted. -/
def updateFocus (d : Desk) (calls : List Call) : Desk :=
  let next := focusOf d.posture.current
  if next = d.focus then d
  else
    let d := ({ d with focus := next }.feedRoute (focusSignal next) calls).2
    if next = .released then d.applyMute false else d

/-- Moves a call on the earpiece to the loudspeaker. Also says whether that changed the route. -/
def leaveEarpiece (d : Desk) (calls : List Call) : Bool × Desk :=
  if d.route.current = .earpiece then
    match Route.Machine.choose .speaker (d.context calls) with
    | .ok next => (true, d.moveRoute next)
    | .error _ => (false, d)
  else (false, d)

/-- Takes the calls off the earpiece when they turn to video. A later choice of the earpiece
stands. -/
def updateVideoRoute (d : Desk) (calls : List Call) : Desk :=
  let video := videoInUse calls
  let became := video && !d.videoShown
  let d := { d with videoShown := video }
  if became then (d.leaveEarpiece calls).2 else d

/-- Takes video calls off the earpiece. Also says whether that changed the route. -/
def routeVideo (d : Desk) : Bool × Desk :=
  let calls := d.registry.calls
  let d := { d with videoShown := videoInUse calls }
  if d.videoShown then d.leaveEarpiece calls else (false, d)

/-! ## Signals -/

/-- Carries out an effect of the posture machine. -/
def carryOut (calls : List Call) (d : Desk) : Effect → Desk
  | .playRingback => d.soundTone .ringback
  | .stopRingback => (d.silenceToneIf .ringback).2
  | .startRinging =>
    match d.startRinging (ringingSlot calls) with
    | .ok d => d
    | .error e => d.emit (.playbackFailed "ringtone" e.message)
  | .stopRinging => d.stopRinging.2
  | .playWaitingTone => d.soundTone .waiting
  | .muteNetworkRing => (d.silenceToneIf .ringback).2
  | .modeChanged mode => (d.ask (.audioMode mode)).2.emit (.audioModeChanged mode)

/-- Brings everything else in line after the posture machine has moved from `previous`. -/
def afterTransition (d : Desk) (previous : Posture) (calls : List Call) (t : Tally) : Desk :=
  let d :=
    if d.posture.current = previous then d
    else d.emit (.postureChanged previous d.posture.current)
  let (effects, posture) := d.posture.drain
  let d := effects.foldl (carryOut calls) { d with posture }
  let d := if t.ringing = 0 then (d.silenceToneIf .waiting).2 else d
  (d.updateFocus calls).updateVideoRoute calls

/-- Feeds a call signal to the posture machine. -/
def dispatchCall (d : Desk) (signal : Signal) : Bool × Desk :=
  let calls := d.registry.calls
  let t := Tally.ofCalls calls
  let (taken, posture) := d.posture.process signal t
  if taken then (true, { d with posture }.afterTransition d.posture.current calls t)
  else (false, d)

/-- Notes what a signal says of the accessories. -/
def noteAccessory (d : Desk) : Signal → Desk
  | .headsetConnected => { d with headset := true }
  | .headsetDisconnected => { d with headset := false }
  | .bluetoothConnected => { d with bluetooth := true }
  | .bluetoothDisconnected => { d with bluetooth := false }
  | _ => d

/-- Feeds a device signal to the route machine. -/
def dispatchDevice (d : Desk) (signal : Signal) : Bool × Desk :=
  (d.noteAccessory signal).feedRoute signal d.registry.calls

/-- Feeds a signal to the machine that it is for. Also says whether the machine took it. -/
def dispatch (d : Desk) (signal : Signal) : Bool × Desk :=
  if signal.isCall then d.dispatchCall signal
  else if signal.isDevice then d.dispatchDevice signal
  else (false, d)

/-- Brings the posture in line with the registry where no signal will. -/
def reconcile (d : Desk) : Desk :=
  let calls := d.registry.calls
  let t := Tally.ofCalls calls
  let previous := d.posture.current
  let expected := Posture.ofTally t
  let d := if previous.strays expected t then { d with posture := (d.posture.switch expected t).2 }
    else d
  d.afterTransition previous calls t

/-- A call on a bearer has moved from `prior` to `next`; the registry shows it after the move. -/
def callMoved (d : Desk) (bearer : Bearer) (prior next : Option CallState) : Desk :=
  ((edges d.registry.calls bearer prior next).foldl (fun d s => (d.dispatch s).2) d).reconcile

/-! ## Reports of the requests -/

/-- A call was registered. An emergency call is always heard. -/
def callCreated (d : Desk) (c : Call) : Desk :=
  let d := d.callMoved c.bearer none (some c.state)
  if c.emergency then d.applyMute false else d

/-- A call left the registry. -/
def callDestroyed (d : Desk) (c : Call) : Desk := d.callMoved c.bearer (some c.state) none

/-- A ringing call left the registry unanswered. -/
def ringingCallGone (d : Desk) (c : Call) : Desk :=
  let d := d.callMoved c.bearer (some .incoming) none
  if hasRinging d.registry.calls then d else d.stopRinging.2

/-- The states out of which a call ends with a tone. -/
def endsAudibly : CallState → Bool
  | .active | .dialing | .holding => true
  | _ => false

/-- A registered call changed its state. -/
def callUpdated (id : CallId) (prior next : CallState) : DeskM Unit := do
  let c ← DeskM.ofExcept ((← get).registry.require id)
  modify (·.callMoved c.bearer (some prior) (some next))
  if next = .disconnected ∧ endsAudibly prior then
    modify (·.soundTone (.ofEnd c.ended))

/-- A ringing call was answered. -/
def callAnswered (id : CallId) : DeskM Unit := do
  let c ← DeskM.ofExcept ((← get).registry.require id)
  modify (·.callMoved c.bearer (some .incoming) (some c.state))

/-- The signal of a change of bearer, if there is one. -/
def bearerSignal? (old new : Bearer) : Option Signal :=
  match old, new with
  | .cs, .ims => some .csBecameIms
  | .ims, .cs => some .imsBecameCs
  | _, _ => none

/-- A registered call changed its bearer. Only the active call with the lowest number matters to
the posture machine. -/
def bearerChanged (id : CallId) (old new : Bearer) : DeskM Unit := do
  let c ← DeskM.ofExcept ((← get).registry.require id)
  let leads := ((← get).registry.findByState .active).head?.any (·.id == c.id)
  match bearerSignal? old new with
  | some signal => if leads then modify fun d => (d.dispatch signal).2
  | none => pure ()
  modify reconcile

/-- A registered call is to have another video state. -/
def videoChanged (id : CallId) (old new : VideoState) : DeskM Unit := do
  let (_, registry) ← DeskM.ofExcept ((← get).registry.update id fun c => { c with video := new })
  modify ({ · with registry })
  if old ≠ new then
    modify (·.emit (.videoStateChanged id old new))
  if old.isVideoCall ≠ new.isVideoCall then
    modify fun d => d.routeVideo.2

/-! ## The user's choices -/

/-- Chooses an output device. The foreground call remembers whether it is the loudspeaker. -/
def setDevice (device : Device) : DeskM Unit := do
  let d ← get
  let calls := d.registry.calls
  let next ← DeskM.ofExcept (Route.Machine.choose device (d.context calls))
  if let some c := foreground? calls then
    modify fun d =>
      { d with registry := d.registry.modify c.id ({ · with speakerphone := device == .speaker }) }
  modify (·.moveRoute next)

/-- Mutes the microphone or lets it be heard. During an emergency call it is not muted. -/
def setMute (muted : Bool) : DeskM Unit := do
  let d ← get
  let effective := muted && !hasEmergency d.registry.calls
  if d.muted ≠ effective then
    let met ← modifyGet (·.ask (.micMute effective))
    unless met do throw (d.outside.failure (.micMute effective))
    modify ({ · with muted := effective })
    modify (·.emit (.muteChanged effective))

/-- Rings for the first ringing call. -/
def playRingtone : DeskM Unit := do
  let d ← get
  set (← DeskM.ofExcept (d.startRinging (ringingSlot d.registry.calls)))

/-- Sounds the tone of a key. -/
def soundKey (d : Desk) (digit : Char) : Desk := d.soundTone (.ofDigit digit)

/-- How a ringing call is announced from the next ring on. -/
def setRingerMode (d : Desk) (mode : RingerMode) : Desk := { d with ringerMode := mode }

/-! ## The queue of signals -/

/-- Opens the queue. -/
def openQueue : DeskM Unit := do
  if (← get).queue.isSome then throw .alreadyInitialized
  modify ({ · with queue := some [] })

/-- Puts a signal at the end of the queue. -/
def submit (signal : Signal) : DeskM Unit := do
  match (← get).queue with
  | none => throw .notInitialized
  | some waiting =>
    if waiting.length < (← get).config.queueCapacity.toNat then
      modify ({ · with queue := some (waiting ++ [signal]) })
    else throw (.resourceUnavailable "audio event queue" "queue is full")

/-- Dispatches the signal at the head of the queue, if there is one. -/
def receive (d : Desk) : Desk :=
  match d.queue with
  | some (signal :: rest) => ({ d with queue := some rest }.dispatch signal).2
  | _ => d

/-- Dispatches signals one after the other. -/
def dispatchAll (d : Desk) (signals : List Signal) : Desk :=
  signals.foldl (fun d s => (d.dispatch s).2) d

/-- Dispatches every signal in the queue, in order. -/
def drain (d : Desk) : Desk :=
  match d.queue with
  | some signals => { d with queue := some [] }.dispatchAll signals
  | none => d

/-- Dispatches what is in the queue, closes it and silences the players. -/
def closeQueue : DeskM Unit := do
  if (← get).queue.isNone then throw .notInitialized
  modify fun d => { d.drain with queue := none }
  modify fun d => d.silenceTone.2
  modify (·.onSound fun s => s.stopRing.2)

/-! ## What can be asked -/

/-- The foreground call unless it is on hold. -/
def currentCall? (d : Desk) : Option Call := d.registry.foreground?.filter (·.state != .holding)

/-- Calls hold the audio focus. -/
def isAudioActive (d : Desk) : Bool := d.focus != .released

end Switchboard.Desk
