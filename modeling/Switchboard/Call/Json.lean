import Switchboard.Admission.Basic
import Switchboard.Json
import Switchboard.Playback.Tone
import Switchboard.Time.Timestamp

/-!
# Calls in JSON

How records and requests are read from JSON and written to it. Objects may have their members in
any order and further members besides; every field must be there, except that a call's conference
may be missing.

* `StampedCall`: a call with the moment at which it came into being. `StampedCall.ofJson?` and
  `StampedCall.toJson` read and write it.
* `DialRequest.ofJson?`, `Arrival.ofJson?`, `Admission.Action.ofJson?`, `Admission.Kind.ofJson?`,
  `RenderTone.ofJson?`, each with its `toJson`.
-/

namespace Switchboard

open Time (Timestamp)

/-- A value of a vocabulary, as its word. -/
def Json.ofSpelled {α : Type} [Spelled α] (a : α) : Json := .text (spell a)

/-- A call and the moment at which it came into being. -/
structure StampedCall extends Call where
  createdAt : Timestamp
  deriving DecidableEq, Repr

namespace StampedCall

/-- Reads a call. -/
def ofJson? (j : Json) : Option StampedCall := do
  guard (j.holdsRecord 13)
  let id ← (← j.field? 0 "call_id").word32?
  let slot ← (← j.field? 1 "slot_id").word8?
  let bearer ← (← j.field? 2 "call_type").spelled?
  let state ← (← j.field? 3 "state").spelled?
  let video ← (← j.field? 4 "video_state").spelled?
  let direction ← (← j.field? 5 "direction").spelled?
  let number ← (← j.field? 6 "phone_number").text?
  let emergency ← (← j.field? 7 "is_emergency").bool?
  let canUnhold ← (← j.field? 8 "can_unhold").bool?
  let speakerphone ← (← j.field? 9 "speakerphone_on").bool?
  let conference ← j.optionalField? 10 "conference_id" Json.word32?
  let ended ← (← j.field? 11 "ended_type").spelled?
  let createdAt ← Timestamp.read? (← (← j.field? 12 "created_at").text?)
  pure { id, slot, bearer, state, video, direction, number, emergency, canUnhold, speakerphone,
         conference, ended, createdAt }

/-- Writes a call. -/
def toJson (c : StampedCall) : Json :=
  .object [
    ("call_id", .int c.id.toNat),
    ("slot_id", .int c.slot.toNat),
    ("call_type", .ofSpelled c.bearer),
    ("state", .ofSpelled c.state),
    ("video_state", .ofSpelled c.video),
    ("direction", .ofSpelled c.direction),
    ("phone_number", .text c.number),
    ("is_emergency", .bool c.emergency),
    ("can_unhold", .bool c.canUnhold),
    ("speakerphone_on", .bool c.speakerphone),
    ("conference_id", match c.conference with | some id => .int id.toNat | none => .null),
    ("ended_type", .ofSpelled c.ended),
    ("created_at", .text c.createdAt.render)]

end StampedCall

/-- Reads a dial request. -/
def DialRequest.ofJson? (j : Json) : Option DialRequest := do
  guard (j.holdsRecord 5)
  let number ← (← j.field? 0 "phone_number").text?
  let slot ← (← j.field? 1 "slot_id").word8?
  let bearer ← (← j.field? 2 "call_type").spelled?
  let video ← (← j.field? 3 "video_state").spelled?
  let emergency ← (← j.field? 4 "is_emergency").bool?
  pure { number, slot, bearer, video, emergency }

/-- Writes a dial request. -/
def DialRequest.toJson (r : DialRequest) : Json :=
  .object [("phone_number", .text r.number), ("slot_id", .int r.slot.toNat),
    ("call_type", .ofSpelled r.bearer), ("video_state", .ofSpelled r.video),
    ("is_emergency", .bool r.emergency)]

/-- Reads an arrival. -/
def Arrival.ofJson? (j : Json) : Option Arrival := do
  guard (j.holdsRecord 4)
  let number ← (← j.field? 0 "phone_number").text?
  let slot ← (← j.field? 1 "slot_id").word8?
  let bearer ← (← j.field? 2 "call_type").spelled?
  let video ← (← j.field? 3 "video_state").spelled?
  pure { number, slot, bearer, video }

/-- Writes an arrival. -/
def Arrival.toJson (a : Arrival) : Json :=
  .object [("phone_number", .text a.number), ("slot_id", .int a.slot.toNat),
    ("call_type", .ofSpelled a.bearer), ("video_state", .ofSpelled a.video)]

namespace Admission

/-- Reads an action. -/
def Action.ofJson? (j : Json) : Option Action := do
  let (word, value) ← j.single?
  match word with
  | "Hold" => return .hold (← value.word32?)
  | "HangUp" => return .hangUp (← value.word32?)
  | "Reject" => return .reject (← value.word32?)
  | _ => none

/-- Writes an action. -/
def Action.toJson : Action → Json
  | .hold id => .object [("Hold", .int id.toNat)]
  | .hangUp id => .object [("HangUp", .int id.toNat)]
  | .reject id => .object [("Reject", .int id.toNat)]

/-- Reads a kind of request. -/
def Kind.ofJson? (j : Json) : Option Kind :=
  match j with
  | .text "Incoming" => some .incoming
  | .object [("Incoming", .null)] => some .incoming
  | .object [("Answer", value)] => do
    guard (value.holdsRecord 1)
    return .answer (← (← value.field? 0 "video_state").spelled?)
  | .object [("Dial", value)] => do
    guard (value.holdsRecord 1)
    return .dial (← (← value.field? 0 "is_emergency").bool?)
  | _ => none

/-- Writes a kind of request. -/
def Kind.toJson : Kind → Json
  | .incoming => .text "Incoming"
  | .answer video => .object [("Answer", .object [("video_state", .ofSpelled video)])]
  | .dial emergency => .object [("Dial", .object [("is_emergency", .bool emergency)])]

end Admission

/-- Reads a tone of the renderer. -/
def RenderTone.ofJson? (j : Json) : Option RenderTone :=
  match j with
  | .text word | .object [(word, .null)] => RenderTone.plain.find? (·.name == word)
  | .object [("Dial", value)] => value.word8?.map .dial
  | _ => none

/-- Writes a tone of the renderer. -/
def RenderTone.toJson : RenderTone → Json
  | .dial digit => .object [("Dial", .int digit.toNat)]
  | t => .text t.name

end Switchboard
