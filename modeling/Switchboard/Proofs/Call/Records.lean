import Switchboard.Call.Json
import Switchboard.Proofs.Json.Members
import Switchboard.Proofs.Time.Timestamps

/-!
# Records survive JSON

A call that is written to JSON is read back as it was, and whatever was read as a call is, written
again, read as the same call (`StampedCall.survives_json`).

* `StampedCall.WrittenIn`: every way to write a call that is read as it (`ofJson?_of_writtenIn`).
* `StampedCall.rewritten?`: what reading a call and writing it again makes of a JSON value.
-/

namespace Switchboard

open Time (Timestamp)

instance : Spelled.Readable Bearer := ⟨fun a => by cases a <;> decide⟩

instance : Spelled.Readable CallState := ⟨fun a => by cases a <;> decide⟩

instance : Spelled.Readable VideoState := ⟨fun a => by cases a <;> decide⟩

instance : Spelled.Readable Direction := ⟨fun a => by cases a <;> decide⟩

instance : Spelled.Readable EndReason := ⟨fun a => by cases a <;> decide⟩

namespace StampedCall

/-! ## Every way to write a call -/

/-- The keys of a record. -/
def keys : List String :=
  ["call_id", "slot_id", "call_type", "state", "video_state", "direction", "phone_number",
    "is_emergency", "can_unhold", "speakerphone_on", "conference_id", "ended_type", "created_at"]

/-- How it is written which conference a call belongs to. -/
def conferenceJson : Option CallId → Json
  | some id => .int id.toNat
  | none => .null

/-- The members that write the fields of a call, in their order, with its moment in some form. -/
def fields (c : StampedCall) (moment : String) : List (String × Json) :=
  [("call_id", .int c.id.toNat),
    ("slot_id", .int c.slot.toNat),
    ("call_type", .ofSpelled c.bearer),
    ("state", .ofSpelled c.state),
    ("video_state", .ofSpelled c.video),
    ("direction", .ofSpelled c.direction),
    ("phone_number", .text c.number),
    ("is_emergency", .bool c.emergency),
    ("can_unhold", .bool c.canUnhold),
    ("speakerphone_on", .bool c.speakerphone),
    ("conference_id", conferenceJson c.conference),
    ("ended_type", .ofSpelled c.ended),
    ("created_at", .text moment)]

variable {c : StampedCall} {moment : String} {members : List (String × Json)}

/-- The members write the call, in whatever order and among whatever others: its moment in whatever
form is read as it, and that there is no conference as `null` or not at all. -/
def WrittenIn (c : StampedCall) (members : List (String × Json)) : Prop :=
  ∃ moment, Timestamp.read? moment = some c.createdAt ∧
    ((members.filter (·.1 ∈ keys)).Perm (c.fields moment) ∨
      c.conference = none ∧
        (members.filter (·.1 ∈ keys)).Perm ((c.fields moment).filter (·.1 ≠ "conference_id")))

theorem map_fields (c : StampedCall) (moment : String) :
    (c.fields moment).map (·.1) = keys := rfl

theorem nodup_fields (c : StampedCall) (moment : String) :
    ((c.fields moment).map (·.1)).Nodup := by
  rw [map_fields]
  decide

theorem mem_keys_of_mem {member : String × Json} (h : member ∈ c.fields moment) :
    member.1 ∈ keys := List.mem_map_of_mem h

/-- Every field but the conference is found. -/
theorem lookup_of_writtenIn (h : c.WrittenIn members) :
    ∃ moment, Timestamp.read? moment = some c.createdAt ∧
      ∀ member ∈ c.fields moment, member.1 ≠ "conference_id" →
        members.lookup member.1 = some member.2 := by
  obtain ⟨moment, hmoment, hp | ⟨-, hp⟩⟩ := h
  · exact ⟨moment, hmoment, fun member hm _ =>
      Json.lookup_of_written hp (c.nodup_fields moment) (mem_keys_of_mem hm) hm⟩
  · refine ⟨moment, hmoment, fun member hm hne => ?_⟩
    have hs : ((c.fields moment).filter (·.1 ≠ "conference_id")).Sublist (c.fields moment) :=
      List.filter_sublist
    have hn := (c.nodup_fields moment).sublist (hs.map _)
    exact Json.lookup_of_written hp hn (mem_keys_of_mem hm)
      (List.mem_filter.mpr ⟨hm, decide_eq_true hne⟩)

/-- The conference is found, or found not to be there. -/
theorem conference_of_writtenIn (h : c.WrittenIn members) :
    (Json.object members).optionalField? 10 "conference_id" Json.word32? = some c.conference := by
  have hkey : "conference_id" ∈ keys := by decide
  obtain ⟨moment, -, hp | ⟨hnone, hp⟩⟩ := h
  · have hm : ("conference_id", conferenceJson c.conference) ∈ c.fields moment := by
      simp [StampedCall.fields]
    have hl := Json.lookup_of_written hp (c.nodup_fields moment) hkey hm
    rw [Json.optionalField?_of_some hl]
    cases c.conference with
    | none => rfl
    | some id =>
      show (Json.word32? (.int id.toNat)).map some = some (some id)
      rw [Json.word32?_toNat, Option.map_some]
  · have hl := Json.lookup_of_unwritten hp hkey (by simp)
    rw [Json.optionalField?_of_none hl, hnone]

/-- A call is read from every way to write it. -/
theorem ofJson?_of_writtenIn (h : c.WrittenIn members) : ofJson? (.object members) = some c := by
  have hconference := conference_of_writtenIn h
  obtain ⟨moment, hmoment, hfields⟩ := lookup_of_writtenIn h
  simp only [StampedCall.fields, List.forall_mem_cons, ne_eq, String.reduceEq, not_false_eq_true,
    forall_const, not_true_eq_false, false_imp_iff, true_and] at hfields
  obtain ⟨hid, hslot, hbearer, hstate, hvideo, hdirection, hnumber, hemergency, hunhold, hspeaker,
    hended, hcreated, -⟩ := hfields
  unfold ofJson?
  refine Option.bind_eq_some_iff.mpr ⟨(), rfl, ?_⟩
  refine Json.field?_bind hid (Json.word32?_toNat _) ?_
  refine Json.field?_bind hslot (Json.word8?_toNat _) ?_
  refine Json.field?_bind hbearer (Json.spelled?_text _) ?_
  refine Json.field?_bind hstate (Json.spelled?_text _) ?_
  refine Json.field?_bind hvideo (Json.spelled?_text _) ?_
  refine Json.field?_bind hdirection (Json.spelled?_text _) ?_
  refine Json.field?_bind hnumber rfl ?_
  refine Json.field?_bind hemergency rfl ?_
  refine Json.field?_bind hunhold rfl ?_
  refine Json.field?_bind hspeaker rfl ?_
  refine Option.bind_eq_some_iff.mpr ⟨_, hconference, ?_⟩
  refine Json.field?_bind hended (Json.spelled?_text _) ?_
  refine Json.field?_bind hcreated rfl ?_
  exact Option.bind_eq_some_iff.mpr ⟨_, hmoment, rfl⟩

/-- The order of the fields is one of the ways to write a call, with its moment in any form. -/
theorem writtenIn_fields (h : Timestamp.read? moment = some c.createdAt) :
    c.WrittenIn (c.fields moment) := by
  refine ⟨moment, h, .inl ?_⟩
  rw [List.filter_eq_self.mpr fun member hm => decide_eq_true (mem_keys_of_mem hm)]

theorem toJson_eq (c : StampedCall) : c.toJson = .object (c.fields c.createdAt.render) := rfl

theorem ofJson?_toJson (hk : Timestamp.isKeptYear c.createdAt.date.year = true) :
    ofJson? c.toJson = some c := by
  rw [toJson_eq]
  exact ofJson?_of_writtenIn (writtenIn_fields (Timestamp.read?_render hk))

/-! ## Reading and writing again -/

/-- What reading a call and writing it again makes of a JSON value. -/
def rewritten? (j : Json) : Option Json := (ofJson? j).map toJson

/-- **Records survive JSON.** A call whose year has four digits is read from what is written of it.
It is also read from whatever else writes it: its fields in any order and among any others, `null`
or nothing where there is no conference, and its moment in any form that is read as it, such as that
on any clock. And from whatever JSON value the call was read: what is written then is read as the
same call, and reading and writing once more changes nothing. -/
theorem survives_json (c : StampedCall) (hy : c.createdAt.HasFourDigitYear) :
    ofJson? c.toJson = some c ∧
      (∀ members, c.WrittenIn members → ofJson? (.object members) = some c) ∧
      (∀ offset : Int, -1440 < offset → offset < 1440 →
        c.WrittenIn (c.fields (c.createdAt.renderAt offset))) ∧
      ∀ j, ofJson? j = some c →
        (rewritten? j).bind ofJson? = some c ∧ (rewritten? j).bind rewritten? = rewritten? j := by
  have hback : ofJson? c.toJson = some c := ofJson?_toJson hy.isKeptYear
  refine ⟨hback, fun _ => ofJson?_of_writtenIn, fun offset hlow hhigh => ?_, fun j hj => ?_⟩
  · exact writtenIn_fields
      (Timestamp.read?_renderAt hlow hhigh hy.isKeptYear (hy.isKeptYear_onClock offset))
  · have hrewritten : rewritten? j = some c.toJson := by rw [rewritten?, hj, Option.map_some]
    rw [hrewritten, Option.bind_some, Option.bind_some]
    exact ⟨hback, by rw [rewritten?, hback, Option.map_some]⟩

/-- On a clock an hour ahead it is March already, while the record is of the leap day. -/
theorem survives_json_leap_day :
    let t : Timestamp := ⟨⟨2024, 2, 29, by decide⟩, 23, 30, 0, 500000000, by decide, by decide,
      by decide, by decide⟩
    let c : StampedCall := { Call.fresh 7 1 .ims .holding .incoming "5550100" with createdAt := t }
    let members := ("created_at", .text "2024-03-01T00:30:00.5+01:00") :: ("note", .fraction) ::
      (c.fields t.render).filter fun member => member.1 ∉ ["conference_id", "created_at"]
    t.HasFourDigitYear ∧ c.WrittenIn members ∧ ofJson? (.object members) = some c ∧
      t.render = "2024-02-29T23:30:00.500Z" ∧
      rewritten? (.object members) = some c.toJson ∧ rewritten? c.toJson = some c.toJson := by
  intro t c members
  have hy : t.HasFourDigitYear := ⟨by decide, by decide⟩
  have hw : c.WrittenIn members := by
    refine ⟨"2024-03-01T00:30:00.5+01:00", by decide +kernel, .inr ⟨rfl, ?_⟩⟩
    exact (List.perm_append_singleton _ _).symm
  obtain ⟨-, hread, -, hagain⟩ := survives_json c hy
  have hfirst : rewritten? (.object members) = some c.toJson := by
    rw [rewritten?, hread members hw, Option.map_some]
  have hsecond := (hagain _ (hread members hw)).2
  rw [hfirst, Option.bind_some] at hsecond
  exact ⟨hy, hw, hread members hw, by decide +kernel, hfirst, hsecond⟩

end StampedCall

end Switchboard
