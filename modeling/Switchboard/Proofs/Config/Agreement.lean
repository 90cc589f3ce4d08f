import Switchboard.Proofs.Config.Durations

/-!
# Written configurations agree

A configuration may be written as a TOML document, as a JSON object, or setting by setting in code.
What is chosen is the same configuration whichever way it is written, or has the same fault, however
the settings are ordered and whatever else is written beside them (`configured_alike`).

* `Writer`: how a format writes the kinds of value that a setting may have. A reader fits a writer
  (`Writer.Fits`) if it reads what was written.
* `Choice.WrittenIn`: among entries of any other keys, a choice is written in some order.
* `Setting.made`: a setting as a builder takes it, with spans of time for durations.
-/

namespace Switchboard

/-! ## Writing settings -/

/-- How a format writes the kinds of value that a setting may have. A ringer mode is a text. -/
structure Writer (V : Type) where
  bool : Bool → V
  word : UInt64 → V
  words : List UInt64 → V
  text : String → V

/-- The reader reads what was written. -/
structure Writer.Fits {V : Type} (w : Writer V) (r : Reader V) : Prop where
  bool (value : Bool) : r.bool? (w.bool value) = some value
  word (value : UInt64) : r.word? (w.word value) = some value
  words (values : List UInt64) : r.words? (w.words values) = some values
  text (value : String) : r.text? (w.text value) = some value
  mode (mode : RingerMode) : r.mode? (w.text (spell mode)) = some mode

/-- How TOML writes settings. -/
def Toml.writer : Writer Toml.Value where
  bool := .bool
  word value := .int value.toNat
  words values := .list (values.map fun value => .int value.toNat)
  text := .text

/-- How JSON writes settings. -/
def Json.writer : Writer Json where
  bool := .bool
  word value := .int value.toNat
  words values := .list (values.map fun value => .int value.toNat)
  text := .text

theorem mapM_map_of_reads {α V : Type} {write : α → V} {read? : V → Option α}
    (h : ∀ a, read? (write a) = some a) (as : List α) : (as.map write).mapM read? = some as := by
  induction as with
  | nil => rfl
  | cons a rest ih => simp [h, ih]

theorem read?_spell (mode : RingerMode) :
    (Spelled.read? (spell mode) : Option RingerMode) = some mode := by
  cases mode <;> decide

theorem Toml.writer_fits : Toml.writer.Fits Toml.reader := by
  have hw (value : UInt64) : Toml.Value.word? (.int value.toNat) = some value := by
    simp [Toml.Value.word?]
  exact ⟨fun _ => rfl, hw, mapM_map_of_reads hw, fun _ => rfl, read?_spell⟩

theorem Json.writer_fits : Json.writer.Fits Json.reader := by
  have hw (value : UInt64) : Json.word64? (.int value.toNat) = some value := by
    have hlt : (value.toNat : Int) < UInt64.size := Int.ofNat_lt.mpr value.toNat_lt
    unfold Json.word64? Json.nat?
    dsimp only
    rw [if_pos ⟨Int.natCast_nonneg _, hlt⟩, Int.toNat_natCast, Option.map_some, UInt64.ofNat_toNat]
  refine ⟨fun _ => rfl, ?_, ?_, fun _ => rfl, read?_spell⟩ <;> dsimp only [reader, writer]
  · exact hw
  · exact mapM_map_of_reads hw

namespace Setting

/-- The value of a setting, as a format writes it. -/
def write {V : Type} (w : Writer V) : Setting → V
  | callWaiting value => w.bool value
  | ringerMode mode => w.text (spell mode)
  | ringtonePath value => w.text value
  | vibrationPattern values => w.words values
  | maxCalls value | toneDuration value | renderPeriod value | queueCapacity value
  | channelCapacity value => w.word value

/-- A setting as a builder takes it. -/
def made : Setting → Setting
  | toneDuration value => toneDurationSpan (.ofMillis value)
  | renderPeriod value => renderPeriodSpan (.ofMillis value)
  | s => s

theorem made_eq (s : Setting) : s.made = s := by
  have hw (value : UInt64) : UInt64.ofNat (Span.ofMillis value).millis = value := by
    rw [Span.millis_ofMillis]
    exact UInt64.ofNat_toNat
  cases s with
  | toneDuration value => exact congrArg toneDuration (hw value)
  | renderPeriod value => exact congrArg renderPeriod (hw value)
  | _ => rfl

variable {V : Type} {w : Writer V} {r : Reader V}

theorem read?_write (hr : w.Fits r) (s : Setting) :
    read? r s.key (s.write w) = some (some s) := by
  cases s with
  | callWaiting value => exact congrArg (Option.map _) (hr.bool value)
  | ringerMode mode => exact congrArg (Option.map _) (hr.mode mode)
  | ringtonePath value => exact congrArg (Option.map _) (hr.text value)
  | vibrationPattern values => exact congrArg (Option.map _) (hr.words values)
  | maxCalls value | toneDuration value | renderPeriod value | queueCapacity value
  | channelCapacity value => exact congrArg (Option.map _) (hr.word value)

/-- Whatever stands under another key is passed over. -/
theorem read?_of_not_mem {key : String} (h : key ∉ keys) (value : V) :
    read? r key value = some none := by
  unfold read?
  split <;> first | rfl | exact absurd (by simp [keys]) h

/-- What is read, if every entry can be read. -/
theorem readAll?_eq {entries : List (String × V)} {f : String × V → Option Setting}
    (h : ∀ entry ∈ entries, read? r entry.1 entry.2 = some (f entry)) :
    readAll? r entries = some (entries.filterMap f) := by
  have hm : entries.mapM (fun entry => read? r entry.1 entry.2) = some (entries.map f) := by
    induction entries with
    | nil => rfl
    | cons entry rest ih =>
      simp [h entry (by simp), ih fun e he => h e (by simp [he])]
  unfold readAll?
  rw [hm, Option.map_some, List.filterMap_map]
  rfl

end Setting

/-! ## Every way to write a choice -/

/-- The entries write a choice, in some order; what else they write has other keys. -/
def Choice.WrittenIn {V : Type} (choice : Choice) (w : Writer V) (entries : List (String × V)) :
    Prop :=
  (entries.filter (·.1 ∈ Setting.keys)).Perm (choice.settings.map fun s => (s.key, s.write w))

variable {V : Type} {w : Writer V} {r : Reader V} {choice : Choice} {entries : List (String × V)}

/-- A choice that was written is read, in some order. -/
theorem Choice.WrittenIn.readAll? (h : choice.WrittenIn w entries) (hr : w.Fits r) :
    ∃ settings, Setting.readAll? r entries = some settings ∧ settings.Perm choice.settings := by
  let f (entry : String × V) : Option Setting := (Setting.read? r entry.1 entry.2).join
  have hf : ∀ entry ∈ entries, Setting.read? r entry.1 entry.2 = some (f entry) := by
    intro entry he
    by_cases hk : entry.1 ∈ Setting.keys
    · have hm : entry ∈ entries.filter (·.1 ∈ Setting.keys) :=
        List.mem_filter.mpr ⟨he, by simpa using hk⟩
      obtain ⟨s, -, rfl⟩ := List.mem_map.mp (h.mem_iff.mp hm)
      simp only [f, Setting.read?_write hr, Option.join_some]
    · simp only [f, Setting.read?_of_not_mem hk, Option.join_some]
  refine ⟨_, Setting.readAll?_eq hf, ?_⟩
  have hfilter : entries.filterMap f = (entries.filter (·.1 ∈ Setting.keys)).filterMap f := by
    rw [List.filterMap_filter]
    refine List.filterMap_congr fun entry _ => ?_
    by_cases hk : entry.1 ∈ Setting.keys
    · simp [hk]
    · simp [hk, f, Setting.read?_of_not_mem hk]
  have hwritten : (choice.settings.map fun s => (s.key, s.write w)).filterMap f =
      choice.settings := by
    rw [List.filterMap_map]
    refine (List.filterMap_congr fun s _ => ?_).trans List.filterMap_some
    simp only [Function.comp_apply, f, Setting.read?_write hr, Option.join_some]
  rw [hfilter, ← hwritten]
  exact h.filterMap f

theorem build_of_perm {steps : List Setting} (h : steps.Perm choice.settings) :
    Config.build steps = (choice.onto .standard).validate := by
  unfold Config.build
  rw [Choice.ofSettings_eq_onto h]

/-- **The ways to configure agree.** For every choice of values for some of the fields: a document
of which the keys of the configuration write just these, a JSON object of which they do so, and a
builder that is given just these, each in any order and with whatever else in the document and the
object, give the same configuration or the same error. It is the standard configuration with the
chosen values in place of its own, if nothing is wrong with that. -/
theorem configured_alike (choice : Choice) {text : String} {entries : Toml.Entries}
    {members : List (String × Json)} {steps : List Setting} (hp : Toml.parse? text = some entries)
    (ht : choice.WrittenIn Toml.writer entries) (hj : choice.WrittenIn Json.writer members)
    (hs : steps.Perm choice.settings) :
    let result := (choice.onto .standard).validate
    Config.ofToml text = result ∧ Config.ofJson? (.object members) = some result ∧
      Config.build (steps.map Setting.made) = result ∧
      ∀ c, result = .ok c ↔ c = choice.onto .standard ∧ (choice.onto .standard).fault? = none := by
  intro result
  obtain ⟨read, hread, hreadp⟩ := ht.readAll? Toml.writer_fits
  obtain ⟨read', hread', hreadp'⟩ := hj.readAll? Json.writer_fits
  refine ⟨?_, ?_, ?_, fun c => Config.validate_eq_ok_iff⟩
  · unfold Config.ofToml
    rw [hp, Option.bind_some, hread]
    exact build_of_perm hreadp
  · show (Setting.readAll? Json.reader members).map Config.build = some result
    rw [hread', Option.map_some, build_of_perm hreadp']
  · have hm : Setting.made = id := funext Setting.made_eq
    rw [hm, List.map_id, build_of_perm hs]

theorem Toml.text?_eq_some {value : Toml.Value} {text : String} :
    Toml.reader.text? value = some text ↔ value = .text text := by
  cases value <;> simp [Toml.reader]

/-- A ringtone and no ringing, among a key and a table that mean nothing. -/
theorem configured_alike_silent :
    let choice : Choice := ⟨none, none, some .silent, some "a", none, none, none, none, none⟩
    let text := "ringtone_path = 'a'\nx = 'y'\nringer_mode = 'silent'\n[t]\nmax_calls = ''"
    let members : List (String × Json) :=
      [("x", .null), ("ringtone_path", .text "a"), ("ringer_mode", .text "silent"), ("x", .null)]
    let steps : List Setting := [.ringtonePath "a", .ringerMode .silent]
    let c : Config := { Config.standard with ringerMode := .silent, ringtonePath := "a" }
    (∃ entries, Toml.parse? text = some entries ∧ choice.WrittenIn Toml.writer entries) ∧
      choice.WrittenIn Json.writer members ∧ steps.Perm choice.settings ∧
      Config.ofToml text = .ok c ∧ Config.ofJson? (.object members) = some (.ok c) ∧
      Config.build (steps.map Setting.made) = .ok c := by
  intro choice text members steps c
  -- Values cannot be compared, but the texts that they read as can.
  have hread : (Toml.parse? text).map (fun entries => (entries.filter (·.1 ∈ Setting.keys)).map
      fun entry => (entry.1, Toml.reader.text? entry.2)) =
      some [("ringtone_path", some "a"), ("ringer_mode", some "silent")] := by
    decide +kernel
  obtain ⟨entries, hp, hentries⟩ := Option.map_eq_some_iff.mp hread
  have hwritten : entries.filter (·.1 ∈ Setting.keys) =
      [("ringtone_path", .text "a"), ("ringer_mode", .text "silent")] := by
    obtain ⟨⟨key, value⟩, rest, hes, hfirst, hrest⟩ := List.map_eq_cons_iff.mp hentries
    obtain ⟨⟨key', value'⟩, hes', hsecond⟩ := List.map_eq_singleton_iff.mp hrest
    simp only [Prod.mk.injEq, Toml.text?_eq_some] at hfirst hsecond
    rw [hes, hes', hfirst.1, hfirst.2, hsecond.1, hsecond.2]
  have ht : choice.WrittenIn Toml.writer entries := by
    unfold Choice.WrittenIn
    rw [hwritten]
    exact .swap _ _ []
  have hj : choice.WrittenIn Json.writer members := .swap _ _ []
  have hs : steps.Perm choice.settings := .swap _ _ []
  obtain ⟨htoml, hjson, hbuilt, hok⟩ := configured_alike choice hp ht hj hs
  have hc := (hok c).mpr ⟨rfl, by decide⟩
  rw [hc] at htoml hjson hbuilt
  exact ⟨⟨entries, hp, ht⟩, hj, hs, htoml, hjson, hbuilt⟩

end Switchboard
