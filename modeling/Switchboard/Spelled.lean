/-!
# Types whose values are words

Most vocabulary of the switchboard is a small set of named values: call states, routes, events.
`Spelled α` gives such a type its list of values and the one word that each is written as, so that
reading and writing agree by construction.

* `Spelled.read?`: the value that a word spells, if any. Words are compared exactly, letter case
  included.
-/

namespace Switchboard

/-- A type with finitely many values, each of which is written as one word. -/
class Spelled (α : Type) where
  /-- Every value, in the order of declaration. -/
  all : List α
  /-- The word for a value. -/
  spell : α → String

namespace Spelled

/-- The value that `word` spells. -/
def read? {α : Type} [Spelled α] (word : String) : Option α :=
  (all : List α).find? fun a => spell a == word

end Spelled

export Spelled (spell)

end Switchboard
