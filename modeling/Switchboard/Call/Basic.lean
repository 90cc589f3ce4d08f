import Switchboard.Spelled

/-!
# Calls

The vocabulary of one call leg, and the record that the switchboard keeps of it.

* `CallState` with `isConnecting`, `isRinging`, `isConnected` and `isTerminal`: the classes of
  states that admission and audio ask about. A terminal call no longer takes part in arbitration.
* `VideoState.isVideoCall`: only two-way video counts as a video call for routing, while
  `Call.carriesVideo` holds of video in either direction.
* `Call`: the record.
-/

namespace Switchboard

/-- A call's number in the registry. Numbers are given out in increasing order and wrap only after
the last 32-bit word. -/
abbrev CallId := UInt32

/-- The SIM slot or account that carries a call. -/
abbrev SlotId := UInt8

/-- How a slot is named in messages. -/
def SlotId.label (slot : SlotId) : String := s!"slot{slot.toNat}"

/-- What carries a call. -/
inductive Bearer where
  /-- Circuit switched. -/
  | cs
  /-- IP multimedia subsystem. -/
  | ims
  /-- An over-the-top application. -/
  | ott
  /-- A third-party voice service. -/
  | voip
  deriving DecidableEq, Repr, Inhabited

instance : Spelled Bearer where
  all := [.cs, .ims, .ott, .voip]
  spell
    | .cs => "cs"
    | .ims => "ims"
    | .ott => "ott"
    | .voip => "voip"

/-- Carrier bearers are the ones the radio arbitrates. -/
def Bearer.isCarrier : Bearer → Bool
  | .cs | .ims => true
  | .ott | .voip => false

/-- Where a call leg stands in its life. -/
inductive CallState where
  | idle
  | dialing
  | alerting
  | incoming
  | waiting
  | active
  | holding
  | disconnecting
  | disconnected
  deriving DecidableEq, Repr, Inhabited

namespace CallState

instance : Spelled CallState where
  all := [.idle, .dialing, .alerting, .incoming, .waiting, .active, .holding, .disconnecting,
    .disconnected]
  spell
    | .idle => "idle"
    | .dialing => "dialing"
    | .alerting => "alerting"
    | .incoming => "incoming"
    | .waiting => "waiting"
    | .active => "active"
    | .holding => "holding"
    | .disconnecting => "disconnecting"
    | .disconnected => "disconnected"

/-- On its way to the other party: dialing or alerting. -/
def isConnecting : CallState → Bool
  | .dialing | .alerting => true
  | _ => false

/-- Asking for an answer here: incoming or waiting. -/
def isRinging : CallState → Bool
  | .incoming | .waiting => true
  | _ => false

/-- In conversation, perhaps on hold: active or holding. -/
def isConnected : CallState → Bool
  | .active | .holding => true
  | _ => false

/-- Idle or on its way out. -/
def isTerminal : CallState → Bool
  | .idle | .disconnecting | .disconnected => true
  | _ => false

end CallState

/-- Which pictures a call carries. -/
inductive VideoState where
  | voice
  | twoWay
  | sendOnly
  | receiveOnly
  deriving DecidableEq, Repr, Inhabited

instance : Spelled VideoState where
  all := [.voice, .twoWay, .sendOnly, .receiveOnly]
  spell
    | .voice => "voice"
    | .twoWay => "video"
    | .sendOnly => "send_only"
    | .receiveOnly => "receive_only"

/-- Only two-way video counts as a video call; one-way video is routed like voice. -/
def VideoState.isVideoCall (v : VideoState) : Bool := v == .twoWay

/-- Which side placed a call. -/
inductive Direction where
  | outgoing
  | incoming
  deriving DecidableEq, Repr, Inhabited

instance : Spelled Direction where
  all := [.outgoing, .incoming]
  spell
    | .outgoing => "Outgoing"
    | .incoming => "Incoming"

/-- Why a call ended. -/
inductive EndReason where
  | normal
  | busy
  | invalidNumber
  | unknown
  deriving DecidableEq, Repr, Inhabited

instance : Spelled EndReason where
  all := [.normal, .busy, .invalidNumber, .unknown]
  spell
    | .normal => "Normal"
    | .busy => "Busy"
    | .invalidNumber => "InvalidNumber"
    | .unknown => "Unknown"

/-- The media that a user asks an IMS call to carry. -/
inductive ImsMode where
  | audioOnly
  | sendOnly
  | receiveOnly
  | sendReceive
  deriving DecidableEq, Repr, Inhabited

instance : Spelled ImsMode where
  all := [.audioOnly, .sendOnly, .receiveOnly, .sendReceive]
  spell
    | .audioOnly => "AudioOnly"
    | .sendOnly => "SendOnly"
    | .receiveOnly => "ReceiveOnly"
    | .sendReceive => "SendReceive"

/-- The video state of a call in a given media mode. -/
def ImsMode.video : ImsMode → VideoState
  | .audioOnly => .voice
  | .sendOnly => .sendOnly
  | .receiveOnly => .receiveOnly
  | .sendReceive => .twoWay

/-- The record of one call leg. -/
structure Call where
  id : CallId
  slot : SlotId
  bearer : Bearer
  state : CallState
  video : VideoState
  direction : Direction
  number : String
  emergency : Bool
  /-- Cleared when a ringing call is declined while this one is held. -/
  canUnhold : Bool
  speakerphone : Bool
  /-- The main call of the conference that this call belongs to. -/
  conference : Option CallId
  ended : EndReason
  deriving DecidableEq, Repr, Inhabited

namespace Call

/-- A call that has just come into being. -/
def fresh (id : CallId) (slot : SlotId) (bearer : Bearer) (state : CallState)
    (direction : Direction) (number : String) : Call where
  id
  slot
  bearer
  state
  video := .voice
  direction
  number
  emergency := false
  canUnhold := true
  speakerphone := false
  conference := none
  ended := .normal

/-- The call carries video in at least one direction. -/
def carriesVideo (c : Call) : Bool := c.video != .voice

end Call

/-- What a user asks for when dialing. -/
structure DialRequest where
  number : String
  slot : SlotId
  bearer : Bearer
  video : VideoState
  emergency : Bool
  deriving DecidableEq, Repr, Inhabited

/-- What the network says of a call that arrives. -/
structure Arrival where
  number : String
  slot : SlotId
  bearer : Bearer
  video : VideoState
  deriving DecidableEq, Repr, Inhabited

end Switchboard
