/-!
# TOML values

The values of a TOML document, and the rules by which its statements build one table.

A table is `explicit` once a header or an inline table has written it, `implied` while only headers
of tables inside it have been seen, and `dotted` if a dotted key made it. The rules on redefinition
go by this origin:

* `Entries.openTable`: a header may complete an implied table, and nothing else that exists.
* `Entries.openElement`: a double-bracket header appends a table to an array of such tables.
* `Entries.assign`: a key is set once. A dotted key goes through tables that dotted keys have made
  or that are only implied, and ends in one that a dotted key has made.
-/

namespace Switchboard.Toml

/-- How a table came to be. -/
inductive Origin where
  | explicit
  | implied
  | dotted
  deriving DecidableEq, Repr

/-- A TOML value. Of floats and datetimes only the kind is kept. -/
inductive Value where
  | text (value : String)
  | int (value : Int)
  | float
  | bool (value : Bool)
  | datetime
  | list (items : List Value)
  /-- A table that is complete as written. -/
  | inline (entries : List (String × Value))
  | table (origin : Origin) (entries : List (String × Value))
  /-- An array of tables, each written under a header of its own. -/
  | tables (elements : List (List (String × Value)))

/-- The entries of a table, in the order in which they were made. -/
abbrev Entries := List (String × Value)

namespace Entries

/-- Puts a value in place of the one under `key`. -/
def replace (es : Entries) (key : String) (value : Value) : Entries :=
  es.map fun (k, v) => (k, if k == key then value else v)

/-- Changes the table at the end of a path by `f`, which also learns how that table came to be.
Tables that are missing on the way are made; an array of tables stands for its last one. A dotted
path does not lead into an explicit table. -/
def descend (dotted : Bool) (f : Origin → Entries → Option Entries) :
    List String → Origin → Entries → Option Entries
  | [], origin, es => f origin es
  | key :: path, _, es =>
    match es.lookup key with
    | none => do
      let origin := if dotted then Origin.dotted else Origin.implied
      let inner ← descend dotted f path origin []
      some (es ++ [(key, .table origin inner)])
    | some (.table origin inner) =>
      if dotted && origin == .explicit then none
      else do
        let inner ← descend dotted f path origin inner
        some (replace es key (.table origin inner))
    | some (.tables elements) =>
      match elements.getLast? with
      | none => none
      | some last => do
        let last ← descend dotted f path .explicit last
        some (replace es key (.tables (elements.dropLast ++ [last])))
    | some _ => none

/-- Splits a path into what leads to its last key, and that key. -/
def splitPath (path : List String) : Option (List String × String) :=
  path.getLast?.map fun key => (path.dropLast, key)

/-- Opens the table that a header names. -/
def openTable (es : Entries) (path : List String) : Option Entries := do
  let (parents, key) ← splitPath path
  descend false
    (fun _ es =>
      match es.lookup key with
      | none => some (es ++ [(key, .table .explicit [])])
      | some (.table .implied inner) => some (replace es key (.table .explicit inner))
      | some _ => none)
    parents .explicit es

/-- Opens another table of the array that a double-bracket header names. -/
def openElement (es : Entries) (path : List String) : Option Entries := do
  let (parents, key) ← splitPath path
  descend false
    (fun _ es =>
      match es.lookup key with
      | none => some (es ++ [(key, .tables [[]])])
      | some (.tables elements) => some (replace es key (.tables (elements ++ [[]])))
      | some _ => none)
    parents .explicit es

/-- Sets the key at the end of a dotted path, which starts in a table of the given origin. -/
def assign (origin : Origin) (es : Entries) (path : List String) (value : Value) :
    Option Entries := do
  let (parents, key) ← splitPath path
  descend true
    (fun reached es =>
      -- A plain key does not extend a table that dotted keys have made, nor a dotted key another.
      if (reached == .dotted) == parents.isEmpty then none
      else if (es.lookup key).isSome then none
      else some (es ++ [(key, value)]))
    parents origin es

/-- Sets a key in the table that the latest header has opened. -/
def assignUnder (es : Entries) (header path : List String) (value : Value) : Option Entries :=
  descend false (fun origin es => assign origin es path value) header .explicit es

/-- The entries of an inline table, from its keys and values in order. -/
def ofPairs (pairs : List (List String × Value)) : Option Entries :=
  pairs.foldlM (fun es (path, value) => assign .explicit es path value) []

end Entries

end Switchboard.Toml
