import Switchboard.Error
import Switchboard.Posture.Basic
import Switchboard.Route.Basic

/-!
# The outside

The switchboard works through services that it does not own: telephony, the audio platform and the
vibrator. What it asks of them is a `Demand`; every demand and its outcome go into a log.

* `Outside.ask`: makes a demand. Whether the service is willing may depend on how many demands came
  before, so any pattern of failures can be had.
* `Failures`: what is known of the errors of services that fail.
* `Outside.modes`, `Outside.routes`, `Outside.links`, `Outside.micMuted`, `Outside.vibrating`: what
  the services have been brought to, read off the log.
-/

namespace Switchboard

/-- A request to telephony. The record is the call as it stood when the request was made. -/
inductive Command where
  | dial (call : Call)
  | answer (call : Call) (media : VideoState)
  | reject (call : Call)
  | hangUp (call : Call)
  | hold (call : Call)
  | unhold (call : Call)
  | switch (call : Call)
  | combine (call : Call)
  | separate (call : Call)
  | kickOut (call : Call)
  | invite (slot : SlotId) (numbers : List String)
  | startRtt (call : Call) (text : String)
  | stopRtt (call : Call)
  | updateMode (call : Call) (mode : ImsMode)
  | startDtmf (call : Call) (digit : Char)
  | stopDtmf (call : Call)
  deriving DecidableEq, Repr

/-- What can be asked of the outside, apart from arguments. -/
inductive Service where
  | dial
  | answer
  | reject
  | hangUp
  | hold
  | unhold
  | switch
  | combine
  | separate
  | kickOut
  | invite
  | startRtt
  | stopRtt
  | updateMode
  | startDtmf
  | stopDtmf
  | setAudioMode
  | setMicrophoneMute
  | setOutputRoute
  | setScoLink
  | vibratorStart
  | vibratorStop
  /-- Opening the renderer for a playback. -/
  | openRenderer
  deriving DecidableEq, Repr

instance : Spelled Service where
  all := [.dial, .answer, .reject, .hangUp, .hold, .unhold, .switch, .combine, .separate, .kickOut,
    .invite, .startRtt, .stopRtt, .updateMode, .startDtmf, .stopDtmf, .setAudioMode,
    .setMicrophoneMute, .setOutputRoute, .setScoLink, .vibratorStart, .vibratorStop, .openRenderer]
  spell
    | .dial => "dial"
    | .answer => "answer"
    | .reject => "reject"
    | .hangUp => "hang_up"
    | .hold => "hold"
    | .unhold => "unhold"
    | .switch => "switch"
    | .combine => "combine_conference"
    | .separate => "separate_conference"
    | .kickOut => "kick_out_from_conference"
    | .invite => "invite_to_conference"
    | .startRtt => "start_rtt"
    | .stopRtt => "stop_rtt"
    | .updateMode => "update_call_mode"
    | .startDtmf => "start_dtmf"
    | .stopDtmf => "stop_dtmf"
    | .setAudioMode => "set_audio_mode"
    | .setMicrophoneMute => "set_microphone_mute"
    | .setOutputRoute => "set_output_route"
    | .setScoLink => "set_sco_link"
    | .vibratorStart => "vibrator_start"
    | .vibratorStop => "vibrator_stop"
    | .openRenderer => "open"

/-- The service that a telephony request goes to. -/
def Command.service : Command → Service
  | .dial _ => .dial
  | .answer _ _ => .answer
  | .reject _ => .reject
  | .hangUp _ => .hangUp
  | .hold _ => .hold
  | .unhold _ => .unhold
  | .switch _ => .switch
  | .combine _ => .combine
  | .separate _ => .separate
  | .kickOut _ => .kickOut
  | .invite _ _ => .invite
  | .startRtt _ _ => .startRtt
  | .stopRtt _ => .stopRtt
  | .updateMode _ _ => .updateMode
  | .startDtmf _ _ => .startDtmf
  | .stopDtmf _ => .stopDtmf

/-- The record that a telephony request is about. -/
def Command.call? : Command → Option Call
  | .dial c | .answer c _ | .reject c | .hangUp c | .hold c | .unhold c | .switch c | .combine c
  | .separate c | .kickOut c | .startRtt c _ | .stopRtt c | .updateMode c _ | .startDtmf c _
  | .stopDtmf c => some c
  | .invite _ _ => none

/-- Something asked of the outside. -/
inductive Demand where
  | telephony (command : Command)
  | audioMode (mode : AudioMode)
  | micMute (muted : Bool)
  | route (device : Device)
  | link (link : ScoLink)
  | vibrate (pattern : List UInt64)
  | stillVibrator
  deriving DecidableEq, Repr

namespace Demand

/-- The service that a demand goes to. -/
def service : Demand → Service
  | telephony command => command.service
  | audioMode _ => .setAudioMode
  | micMute _ => .setMicrophoneMute
  | route _ => .setOutputRoute
  | link _ => .setScoLink
  | vibrate _ => .vibratorStart
  | stillVibrator => .vibratorStop

/-- The demand is a request to telephony. -/
def isTelephony : Demand → Bool
  | telephony _ => true
  | _ => false

end Demand

/-- The errors with which the services fail. Which errors these are is up to the services, but they
are of the kind that the service is responsible for. -/
structure Failures where
  /-- The error of a demand that is not met when this many demands have been made before. -/
  error : Nat → Demand → CallError
  /-- Telephony fails with an error of telephony. -/
  telephony : ∀ n command, ∃ operation message,
    error n (.telephony command) = .backend operation message
  /-- The audio platform and the vibrator fail with a resource that cannot be had. -/
  devices : ∀ n demand, demand.isTelephony = false → ∃ resource reason,
    error n demand = .resourceUnavailable resource reason

/-- The errors of services that are made to fail. -/
def Failures.injected : Failures where
  error
    | _, .telephony command => .backend (spell command.service) "injected failure"
    | _, .audioMode _ | _, .micMute _ | _, .route _ | _, .link _ =>
      .resourceUnavailable "platform" "injected failure"
    | _, .vibrate _ => .resourceUnavailable "vibrator" "not available"
    | _, .stillVibrator => .resourceUnavailable "vibrator" "injected failure"
  telephony _ _ := ⟨_, _, rfl⟩
  devices _ demand h := by
    cases demand with
    | telephony command => cases h
    | _ => exact ⟨_, _, rfl⟩

/-- A demand that was made, and whether it was met. -/
structure Contact where
  demand : Demand
  met : Bool
  deriving DecidableEq, Repr

/-- The services around the switchboard. -/
structure Outside where
  /-- Whether a service fails when this many demands have been made before. -/
  refuses : Nat → Service → Bool
  /-- The errors of the services that fail. -/
  failures : Failures
  /-- Every demand so far, in order. -/
  log : List Contact
  /-- How long telephony takes to answer a request, in milliseconds. -/
  delay : Nat

namespace Outside

/-- Willing services, of which nothing was asked yet. -/
def willing (delay : Nat) : Outside := ⟨fun _ _ => false, .injected, [], delay⟩

/-- Makes a service fail from now on, or makes it willing again. -/
def setFailing (o : Outside) (service : Service) (failing : Bool) : Outside :=
  { o with refuses := fun n s => if s = service then failing else o.refuses n s }

/-- A service fails if it is asked now. -/
def fails (o : Outside) (service : Service) : Bool := o.refuses o.log.length service

/-- The error of a demand that is made now, and not met. -/
def failure (o : Outside) (demand : Demand) : CallError := o.failures.error o.log.length demand

theorem failure_telephony (o : Outside) (command : Command) :
    ∃ operation message, o.failure (.telephony command) = .backend operation message :=
  o.failures.telephony _ command

theorem failure_ne_dialInProgress (o : Outside) (command : Command) :
    o.failure (.telephony command) ≠ .dialInProgress := by
  obtain ⟨operation, message, he⟩ := o.failure_telephony command
  simp [he]

theorem failure_ne_internal (o : Outside) (command : Command) (message : String) :
    o.failure (.telephony command) ≠ .internal message := by
  obtain ⟨operation, text, he⟩ := o.failure_telephony command
  simp [he]

/-- Makes a demand. Also says whether it was met. -/
def ask (o : Outside) (demand : Demand) : Bool × Outside :=
  let met := !o.fails demand.service
  (met, { o with log := o.log ++ [⟨demand, met⟩] })

/-! ## What the services have been brought to -/

/-- The demands that were met. -/
def achieved (o : Outside) : List Demand := (o.log.filter (·.met)).map (·.demand)

/-- The telephony requests that were carried out. -/
def commands (o : Outside) : List Command :=
  o.achieved.filterMap fun | .telephony command => some command | _ => none

/-- The audio scenes that the platform was set to. -/
def modes (o : Outside) : List AudioMode :=
  o.achieved.filterMap fun | .audioMode mode => some mode | _ => none

/-- The devices that the platform was routed to. -/
def routes (o : Outside) : List Device :=
  o.achieved.filterMap fun | .route device => some device | _ => none

/-- The states that the Bluetooth link was set to. -/
def links (o : Outside) : List ScoLink :=
  o.achieved.filterMap fun | .link link => some link | _ => none

/-- The platform's microphone is muted. -/
def micMuted (o : Outside) : Bool :=
  (o.achieved.filterMap fun | .micMute muted => some muted | _ => none).getLast?.getD false

/-- How often the vibrator was started. -/
def vibrations (o : Outside) : Nat :=
  o.achieved.countP fun | .vibrate _ => true | _ => false

/-- The vibrator is running. -/
def vibrating (o : Outside) : Bool :=
  (o.achieved.filterMap fun | .vibrate _ => some true | .stillVibrator => some false | _ => none)
    |>.getLast?.getD false

end Outside

end Switchboard
