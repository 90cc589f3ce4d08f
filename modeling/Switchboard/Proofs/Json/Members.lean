import Switchboard.Json

/-!
# Reading JSON back

What is read from JSON values that were written, and what is found among the members of an object
that write the fields of a record.

* `Spelled.Readable`: each value of a vocabulary is read from its word.
* `Json.lookup_of_written`, `Json.lookup_of_unwritten`: what is found under a key, if the members
  write the keys of a record in whatever order and among whatever others.
* `Json.field?_bind`: a field is read, and reading goes on.
-/

namespace Switchboard

/-! ## Words -/

/-- Each value can be read from its word. -/
class Spelled.Readable (α : Type) [Spelled α] : Prop where
  read?_spell (a : α) : (Spelled.read? (spell a) : Option α) = some a

namespace Json

/-! ## Values -/

theorem spelled?_text {α : Type} [Spelled α] [Spelled.Readable α] (a : α) :
    (Json.text (spell a)).spelled? = some a := Spelled.Readable.read?_spell a

theorem nat?_int {bound n : Nat} (h : n < bound) : Json.nat? bound (.int n) = some n :=
  if_pos ⟨Int.natCast_nonneg n, Int.ofNat_lt.mpr h⟩

theorem word8?_toNat (value : UInt8) : Json.word8? (.int value.toNat) = some value := by
  rw [word8?, nat?_int value.toNat_lt, Option.map_some, UInt8.ofNat_toNat]

theorem word32?_toNat (value : UInt32) : Json.word32? (.int value.toNat) = some value := by
  rw [word32?, nat?_int value.toNat_lt, Option.map_some, UInt32.ofNat_toNat]

/-! ## Members -/

variable {members written : List (String × Json)} {keys : List String} {key : String} {value : Json}

/-- Of members with different keys each is found. -/
theorem lookup_eq_some_of_mem (hn : (members.map (·.1)).Nodup) (h : (key, value) ∈ members) :
    members.lookup key = some value := by
  induction members with
  | nil => cases h
  | cons member rest ih =>
    obtain ⟨hm, hrest⟩ := List.nodup_cons.mp hn
    rcases List.mem_cons.mp h with rfl | h
    · exact List.lookup_cons_self
    · have hne : key ≠ member.1 := by
        rintro rfl
        exact hm (List.mem_map.mpr ⟨_, h, rfl⟩)
      rw [List.lookup_cons, beq_eq_false_iff_ne.mpr hne]
      exact ih hrest h

/-- Members of other keys do not matter. -/
theorem lookup_filter (h : key ∈ keys) :
    (members.filter (·.1 ∈ keys)).lookup key = members.lookup key := by
  induction members with
  | nil => rfl
  | cons member rest ih =>
    by_cases hm : member.1 ∈ keys
    · rw [List.filter_cons_of_pos (by simpa using hm), List.lookup_cons, List.lookup_cons, ih]
    · have hne : key ≠ member.1 := fun he => hm (he ▸ h)
      rw [List.filter_cons_of_neg (by simpa using hm), List.lookup_cons,
        beq_eq_false_iff_ne.mpr hne, ih]

/-- What is written under a key is found there. -/
theorem lookup_of_written (hp : (members.filter (·.1 ∈ keys)).Perm written)
    (hn : (written.map (·.1)).Nodup) (hk : key ∈ keys) (h : (key, value) ∈ written) :
    members.lookup key = some value := by
  rw [← lookup_filter hk]
  exact lookup_eq_some_of_mem ((hp.map _).nodup_iff.mpr hn) (hp.mem_iff.mpr h)

/-- Under a key that is not written nothing is found. -/
theorem lookup_of_unwritten (hp : (members.filter (·.1 ∈ keys)).Perm written)
    (hk : key ∈ keys) (h : key ∉ written.map (·.1)) : members.lookup key = none := by
  rw [← lookup_filter hk, List.lookup_eq_none_iff]
  intro member hm
  rw [bne_iff_ne]
  rintro rfl
  exact h (List.mem_map_of_mem (hp.mem_iff.mp hm))

/-- A field is read from what is found under its key, and reading goes on. -/
theorem field?_bind {α β : Type} {place : Nat} {read : Json → Option α} {f : α → Option β} {a : α}
    {b : β} (hl : members.lookup key = some value) (hr : read value = some a) (hf : f a = some b) :
    ((object members).field? place key >>= fun value => read value >>= f) = some b := by
  show (members.lookup key >>= fun value => read value >>= f) = some b
  exact Option.bind_eq_some_iff.mpr ⟨value, hl, Option.bind_eq_some_iff.mpr ⟨a, hr, hf⟩⟩

theorem optionalField?_of_some {α : Type} {place : Nat} {read : Json → Option α}
    (h : members.lookup key = some value) :
    (object members).optionalField? place key read = optional? read value := by
  have hf : (object members).field? place key = some value := h
  unfold optionalField?
  rw [hf]

theorem optionalField?_of_none {α : Type} {place : Nat} {read : Json → Option α}
    (h : members.lookup key = none) :
    (object members).optionalField? place key read = some none := by
  have hf : (object members).field? place key = none := h
  unfold optionalField?
  rw [hf]

end Json

end Switchboard
