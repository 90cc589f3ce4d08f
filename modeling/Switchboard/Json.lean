import Switchboard.Spelled

/-!
# JSON values

JSON as data, and the strict reading of plain values from it: a number must be an integer in range,
`null` is no number, and nothing is converted between kinds.

* `Json.field?`: a field of an object by its name, or of a list by its place; a record may be
  written either way.
* `Json.spelled?`: a word of some vocabulary. `{"word": null}` is as good as the word.
-/

namespace Switchboard

/-- A JSON value. -/
inductive Json where
  | null
  | bool (value : Bool)
  | int (value : Int)
  /-- A number with a fraction or an exponent; its value is not kept. -/
  | fraction
  | text (value : String)
  | list (items : List Json)
  | object (members : List (String × Json))
  deriving Inhabited

namespace Json

/-- A truth value. -/
def bool? : Json → Option Bool
  | bool value => some value
  | _ => none

/-- A text. -/
def text? : Json → Option String
  | text value => some value
  | _ => none

/-- A natural number below `bound`. -/
def nat? (bound : Nat) : Json → Option Nat
  | int value => if 0 ≤ value ∧ value < bound then some value.toNat else none
  | _ => none

/-- A number of 8 bits. -/
def word8? (j : Json) : Option UInt8 := (j.nat? UInt8.size).map .ofNat

/-- A number of 32 bits. -/
def word32? (j : Json) : Option UInt32 := (j.nat? UInt32.size).map .ofNat

/-- A number of 64 bits. -/
def word64? (j : Json) : Option UInt64 := (j.nat? UInt64.size).map .ofNat

/-- A list of numbers of 64 bits. -/
def words64? : Json → Option (List UInt64)
  | list items => items.mapM word64?
  | _ => none

/-- A word of a vocabulary. -/
def spelled? {α : Type} [Spelled α] : Json → Option α
  | text word => Spelled.read? word
  | object [(word, null)] => Spelled.read? word
  | _ => none

/-- `null`, or a value. -/
def optional? {α : Type} (read : Json → Option α) : Json → Option (Option α)
  | null => some none
  | j => (read j).map some

/-- The value can hold a record of so many fields: it is an object, or a list that is not longer. -/
def holdsRecord (fields : Nat) : Json → Bool
  | object _ => true
  | list items => items.length ≤ fields
  | _ => false

/-- A field of an object by its name, or of a list by its place. -/
def field? (place : Nat) (name : String) : Json → Option Json
  | object members => members.lookup name
  | list items => items[place]?
  | _ => none

/-- A field that may be missing from an object, though not from a list. -/
def optionalField? {α : Type} (place : Nat) (name : String) (read : Json → Option α) (j : Json) :
    Option (Option α) :=
  match j.field? place name, j with
  | some value, _ => optional? read value
  | none, object _ => some none
  | none, _ => none

/-- The one member of an object that has but one. -/
def single? : Json → Option (String × Json)
  | object [member] => some member
  | _ => none

end Json

end Switchboard
