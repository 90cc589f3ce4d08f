import Switchboard.Toml.Scan
import Switchboard.Toml.Value

/-!
# TOML documents

A document is a list of statements, one a line: headers, and keys with their values.

* `value`: a value; arrays may run over several lines, inline tables may not.
* `statements`: the statements of a document.
* `parse?`: the table that a document writes, if it follows the grammar and sets nothing twice.
-/

namespace Switchboard.Toml

open Scan

/-! ## Values -/

/-- Takes the items of an array after its opening bracket. A comma may follow the last. -/
def arrayItems (item : Scan Value) : Nat → Scan (List Value)
  | 0 => failure
  | n + 1 => do
    trivia
    if (← peek?) = some ']' then
      mark ']'
      return []
    let first ← item
    trivia
    match ← next with
    | ',' => return first :: (← arrayItems item n)
    | ']' => pure [first]
    | _ => failure

/-- Takes a key, an equals sign and a value. -/
def pair (item : Scan Value) : Scan (List String × Value) := do
  let path ← key
  mark '='
  blanks
  let v ← item
  pure (path, v)

/-- Takes the pairs of an inline table after the first of them is sure to come. -/
def inlinePairs (item : Scan Value) : Nat → Scan (List (List String × Value))
  | 0 => failure
  | n + 1 => do
    let first ← pair item
    blanks
    match ← next with
    | ',' => return first :: (← inlinePairs item n)
    | '\x7d' => pure [first]
    | _ => failure

/-- Takes a value that does not hold others. -/
def scalar : Scan Value :=
  (Value.text <$> string)
  <|> (do word "true"; pure (.bool true))
  <|> (do word "false"; pure (.bool false))
  <|> (do datetime; pure .datetime)
  <|> (do float; pure .float)
  <|> (Value.int <$> integer)

/-- Takes a value, in which arrays and inline tables nest no deeper than `depth`. -/
def value : Nat → Scan Value
  | 0 => do
    match ← peek? with
    | some '[' | some '\x7b' => failure
    | _ => scalar
  | depth + 1 => do
    match ← peek? with
    | some '[' =>
      mark '['
      return .list (← arrayItems (value depth) (← fuel))
    | some '\x7b' =>
      mark '\x7b'
      blanks
      if (← peek?) = some '\x7d' then
        mark '\x7d'
        return .inline []
      match Entries.ofPairs (← inlinePairs (value depth) (← fuel)) with
      | some entries => pure (.inline entries)
      | none => failure
    | _ => scalar

/-! ## Statements -/

/-- A line of a document that says something. -/
inductive Statement where
  /-- The header of a table. -/
  | table (path : List String)
  /-- The header of a table in an array of tables. -/
  | element (path : List String)
  | pair (path : List String) (value : Value)

/-- Takes a statement and the rest of its line. -/
def statement : Scan Statement := do
  let s ←
    if ← sees "[[" then do
      word "[["
      let path ← key
      word "]]"
      pure (.element path)
    else if ← sees "[" then do
      word "["
      let path ← key
      word "]"
      pure (.table path)
    else do
      let (path, v) ← pair (value depthLimit)
      pure (.pair path v)
  lineEnd
  pure s

/-- Takes the statements of a document. -/
def statements : Nat → Scan (List Statement)
  | 0 => failure
  | n + 1 => do
    blanks
    match ← peek? with
    | none => pure []
    | some '#' | some '\n' | some '\r' => do
      lineEnd
      statements n
    | _ => do
      let first ← statement
      return first :: (← statements n)

/-! ## The table of a document -/

/-- Adds what a statement says to the table so far. Keys go under the latest header. -/
def obey (state : Entries × List String) : Statement → Option (Entries × List String)
  | .table path => (state.1.openTable path).map fun es => (es, path)
  | .element path => (state.1.openElement path).map fun es => (es, path)
  | .pair path v => (state.1.assignUnder state.2 path v).map fun es => (es, state.2)

/-- The table that a list of statements writes. -/
def build? (ss : List Statement) : Option Entries := (ss.foldlM obey ([], [])).map (·.1)

/-- A text without the byte order mark in front. -/
def dropByteOrderMark : List Char → List Char
  | '\ufeff' :: cs => cs
  | cs => cs

/-- The table that a document writes. -/
def parse? (text : String) : Option Entries := do
  let cs := dropByteOrderMark text.toList
  let (ss, _) ← statements (cs.length + 1) cs
  build? ss

end Switchboard.Toml
