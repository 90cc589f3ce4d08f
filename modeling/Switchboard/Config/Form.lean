import Switchboard.Config.Basic
import Switchboard.Json
import Switchboard.Toml.Document

/-!
# Written configurations

A configuration may be written as a TOML document, as a JSON value, or setting by setting in code.
All three come down to a list of settings: `Setting.read?` knows the keys and what kind of value
each takes, and a `Reader` says how one format writes these kinds. Keys that are not known are
passed over.

* `Config.ofToml`, `Config.ofFile`: a valid configuration, or what is wrong with it. The whole
  document is read before any value is judged.
* `Config.ofJson?`: likewise; none if the JSON value has the wrong shape.
-/

namespace Switchboard

/-- How a format writes the kinds of value that a setting may have. -/
structure Reader (V : Type) where
  bool? : V → Option Bool
  word? : V → Option UInt64
  words? : V → Option (List UInt64)
  text? : V → Option String
  mode? : V → Option RingerMode

/-- The keys of all settings, in the order of the configuration's fields. -/
def Setting.keys : List String :=
  ["call_waiting_enabled", "max_calls", "ringer_mode", "ringtone_path", "tone_duration_ms",
    "render_period_ms", "vibration_pattern_ms", "event_queue_capacity", "event_channel_capacity"]

/-- The setting that a key and its value write: none inside if the key is not known, none at all if
the value is not of the kind that the key takes. -/
def Setting.read? {V : Type} (r : Reader V) (key : String) (value : V) : Option (Option Setting) :=
  match key with
  | "call_waiting_enabled" => (r.bool? value).map (some <| .callWaiting ·)
  | "max_calls" => (r.word? value).map (some <| .maxCalls ·)
  | "ringer_mode" => (r.mode? value).map (some <| .ringerMode ·)
  | "ringtone_path" => (r.text? value).map (some <| .ringtonePath ·)
  | "tone_duration_ms" => (r.word? value).map (some <| .toneDuration ·)
  | "render_period_ms" => (r.word? value).map (some <| .renderPeriod ·)
  | "vibration_pattern_ms" => (r.words? value).map (some <| .vibrationPattern ·)
  | "event_queue_capacity" => (r.word? value).map (some <| .queueCapacity ·)
  | "event_channel_capacity" => (r.word? value).map (some <| .channelCapacity ·)
  | _ => some none

/-- The settings that a list of keys and values writes. -/
def Setting.readAll? {V : Type} (r : Reader V) (entries : List (String × V)) :
    Option (List Setting) :=
  (entries.mapM fun entry => Setting.read? r entry.1 entry.2).map fun read => read.filterMap id

/-! ## TOML -/

/-- A number of 64 bits. -/
def Toml.Value.word? : Toml.Value → Option UInt64
  | .int value => if 0 ≤ value then some (.ofNat value.toNat) else none
  | _ => none

/-- How TOML writes settings. A ringer mode may also be the key of an empty table. -/
def Toml.reader : Reader Toml.Value where
  bool?
    | .bool value => some value
    | _ => none
  word? := Toml.Value.word?
  words?
    | .list items => items.mapM Toml.Value.word?
    | _ => none
  text?
    | .text value => some value
    | _ => none
  mode?
    | .text word => Spelled.read? word
    | .inline [(word, .inline [])] => Spelled.read? word
    | .table _ [(word, .inline [])] => Spelled.read? word
    | .table _ [(word, .table _ [])] => Spelled.read? word
    | _ => none

/-- The configuration that a TOML document writes. -/
def Config.ofToml (text : String) : Except CallError Config :=
  match (Toml.parse? text).bind (Setting.readAll? Toml.reader) with
  | some settings => Config.build settings
  | none => .error (.configuration "TOML parse error")

/-- The configuration in a file, which is none if the file does not exist. -/
def Config.ofFile (contents : Option ByteArray) : Except CallError Config :=
  match contents with
  | none => .error (.configuration "I/O error: No such file or directory (os error 2)")
  | some bytes =>
    match String.fromUTF8? bytes with
    | some text => Config.ofToml text
    | none => .error (.configuration "I/O error: stream did not contain valid UTF-8")

/-! ## JSON -/

/-- How JSON writes settings. -/
def Json.reader : Reader Json where
  bool? := Json.bool?
  word? := Json.word64?
  words? := Json.words64?
  text? := Json.text?
  mode? := Json.spelled?

/-- The settings that a JSON value writes: an object by key, a list in the order of the fields. -/
def Json.settings? : Json → Option (List Setting)
  | .object members => Setting.readAll? Json.reader members
  | .list items =>
    if items.length ≤ Setting.keys.length then
      Setting.readAll? Json.reader (Setting.keys.zip items)
    else none
  | _ => none

/-- The configuration that a JSON value writes. -/
def Config.ofJson? (j : Json) : Option (Except CallError Config) := j.settings?.map Config.build

end Switchboard
