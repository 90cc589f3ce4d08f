import Switchboard.Error

/-!
# Logging

Levels of detail, and which parts of the program log at which level.

* `LogLevel.read?`: a level by its name in any letter case, or by its number.
* `LogPlan.directives`: what the log filter is told, the base level first.
-/

namespace Switchboard

/-- A level of detail, from the fewest lines to the most. -/
inductive LogLevel where
  | error
  | warn
  | info
  | debug
  | trace
  deriving DecidableEq, Repr, Inhabited

namespace LogLevel

instance : Spelled LogLevel where
  all := [.error, .warn, .info, .debug, .trace]
  spell
    | .error => "error"
    | .warn => "warn"
    | .info => "info"
    | .debug => "debug"
    | .trace => "trace"

/-- The name of a level in capitals. -/
def capitals (l : LogLevel) : String := (spell l).map Char.toUpper

/-- The number that a text writes in decimal digits, with or without a plus sign. -/
def number? (text : String) : Option Nat :=
  let ds := match text.toList with
    | '+' :: ds => ds
    | ds => ds
  if !ds.isEmpty && ds.all Char.isDigit then
    some (ds.foldl (fun n d => n * 10 + (d.toNat - '0'.toNat)) 0)
  else none

/-- The level of a number from one to five. -/
def ofNumber? : Nat → Option LogLevel
  | 0 => none
  | n + 1 => (Spelled.all : List LogLevel)[n]?

/-- The level that a text names. -/
def read? (text : String) : Option LogLevel :=
  match (number? text).bind ofNumber? with
  | some l => some l
  | none => Spelled.read? (text.map Char.toLower)

/-- The level that a text names, or what is wrong with the text. -/
def parse (text : String) : Except CallError LogLevel :=
  match read? text with
  | some l => .ok l
  | none => .error (.configuration s!"Invalid log level: {text}")

end LogLevel

/-- What is logged, and how. -/
structure LogPlan where
  level : LogLevel
  /-- The level of the audio machines, if it is another. -/
  audio : Option LogLevel
  /-- The level of admission and requests, if it is another. -/
  admission : Option LogLevel
  json : Bool
  fileInfo : Bool
  spans : Bool
  deriving DecidableEq, Repr

namespace LogPlan

/-- Plain lines of one level. -/
def plain (level : LogLevel) : LogPlan := ⟨level, none, none, false, false, false⟩

/-- The name under which the audio machines log. -/
def audioTarget : String := "rvoip_call_manager_core::audio"

/-- The name under which admission and requests log. -/
def admissionTarget : String := "rvoip_call_manager_core::admission"

/-- What the log filter is told, the base level first. -/
def directives (p : LogPlan) : List String :=
  spell p.level
    :: ([(audioTarget, p.audio), (admissionTarget, p.admission)].filterMap fun (target, level) =>
      level.map fun l => target ++ "=" ++ spell l)

/-- Makes a plan from the texts of its levels. The first text that names no level counts. -/
def ofTexts (level audio admission : Option String) (json fileInfo spans : Bool) :
    Except CallError LogPlan := do
  let base ← match level with
    | some text => LogLevel.parse text
    | none => pure .info
  let audio ← audio.mapM LogLevel.parse
  let admission ← admission.mapM LogLevel.parse
  pure ⟨base, audio, admission, json, fileInfo, spans⟩

/-- Takes the log of the process over, of which there is one. That fails if it is `taken`; the
plan itself is never at fault. -/
def setUp (_ : LogPlan) (taken : Bool) : Except CallError Unit :=
  if taken then .error (.configuration "logging setup failed") else .ok ()

end LogPlan

end Switchboard
