import Mathlib.Data.List.Nodup
import Switchboard.Config.Form

/-!
# Settings in any order

A configuration is made by putting settings in place one after the other. Settings of different
fields do not get into each other's way, so their order does not matter (`Config.foldl_apply_perm`);
and whatever is set, a field that is set last has the value that was last set
(`Config.ofSettings_append_cons`).

* `Setting.key`: the field that a setting sets, by its key.
* `Choice`: a value for some of the fields. `Choice.settings` are its settings, and `Choice.onto` is
  a configuration with the chosen values in place of its own.
-/

namespace Switchboard

/-- The key of the field that a setting sets. -/
def Setting.key : Setting → String
  | callWaiting _ => "call_waiting_enabled"
  | maxCalls _ => "max_calls"
  | ringerMode _ => "ringer_mode"
  | ringtonePath _ => "ringtone_path"
  | toneDuration _ => "tone_duration_ms"
  | renderPeriod _ => "render_period_ms"
  | vibrationPattern _ => "vibration_pattern_ms"
  | queueCapacity _ => "event_queue_capacity"
  | channelCapacity _ => "event_channel_capacity"

namespace Config

variable {c c' : Config} {s t : Setting} {before after : List Setting}

/-! ## One setting after the other -/

/-- Settings of different fields may be put in place in either order. -/
theorem apply_comm (h : s.key ≠ t.key) : (c.apply s).apply t = (c.apply t).apply s := by
  cases s <;> cases t <;> first | rfl | exact absurd rfl h

theorem foldl_apply_comm (h : ∀ t ∈ after, s.key ≠ t.key) :
    after.foldl apply (c.apply s) = (after.foldl apply c).apply s := by
  induction after generalizing c with
  | nil => rfl
  | cons t rest ih =>
    rw [List.foldl_cons, List.foldl_cons, apply_comm (h t (by simp))]
    exact ih fun x hx => h x (by simp [hx])

/-- A setting whose field is not set again might as well come last. -/
theorem ofSettings_append_cons (h : ∀ t ∈ after, s.key ≠ t.key) :
    ofSettings (before ++ s :: after) = (ofSettings (before ++ after)).apply s := by
  unfold ofSettings
  rw [List.foldl_append, List.foldl_append, List.foldl_cons, foldl_apply_comm h]

/-- The order of settings of different fields does not matter. -/
theorem foldl_apply_perm {settings settings' : List Setting} (hn : (settings.map (·.key)).Nodup)
    (hp : settings.Perm settings') (c : Config) :
    settings.foldl apply c = settings'.foldl apply c := by
  refine hp.foldl_eq' (fun s hs t ht c => ?_) c
  by_cases h : s.key = t.key
  · rw [List.inj_on_of_nodup_map hn hs ht h]
  · exact apply_comm h

/-! ## Faults -/

/-- What is asked of a configuration. -/
theorem fault?_eq_none_iff (c : Config) : c.fault? = none ↔
    c.maxCalls ≠ 0 ∧ c.toneDuration ≠ 0 ∧ c.renderPeriod ≠ 0 ∧
      (c.queueCapacity ≠ 0 ∧ c.channelCapacity ≠ 0) ∧ ∃ ms ∈ c.vibrationPattern, ms ≠ 0 := by
  have check {p : Prop} [Decidable p] {fault : String} {others : Option String} :
      (if p then some fault else others) = none ↔ ¬p ∧ others = none := by
    split <;> simp [*]
  simp [fault?, check]

theorem validate_eq_ok_iff : c.validate = .ok c' ↔ c' = c ∧ c.fault? = none := by
  unfold validate
  cases c.fault? with
  | some fault => simp
  | none => simp [eq_comm]

end Config

/-! ## Choices -/

/-- A value for some of the fields. -/
structure Choice where
  callWaiting : Option Bool
  maxCalls : Option UInt64
  ringerMode : Option RingerMode
  ringtonePath : Option String
  toneDuration : Option UInt64
  renderPeriod : Option UInt64
  vibrationPattern : Option (List UInt64)
  queueCapacity : Option UInt64
  channelCapacity : Option UInt64

namespace Choice

/-- A configuration with the chosen values in place of its own. -/
def onto (choice : Choice) (c : Config) : Config where
  callWaiting := choice.callWaiting.getD c.callWaiting
  maxCalls := choice.maxCalls.getD c.maxCalls
  ringerMode := choice.ringerMode.getD c.ringerMode
  ringtonePath := choice.ringtonePath.getD c.ringtonePath
  toneDuration := choice.toneDuration.getD c.toneDuration
  renderPeriod := choice.renderPeriod.getD c.renderPeriod
  vibrationPattern := choice.vibrationPattern.getD c.vibrationPattern
  queueCapacity := choice.queueCapacity.getD c.queueCapacity
  channelCapacity := choice.channelCapacity.getD c.channelCapacity

/-- For each field its setting, if a value is chosen. -/
def fields (choice : Choice) : List (Option Setting) :=
  [choice.callWaiting.map .callWaiting, choice.maxCalls.map .maxCalls,
    choice.ringerMode.map .ringerMode, choice.ringtonePath.map .ringtonePath,
    choice.toneDuration.map .toneDuration, choice.renderPeriod.map .renderPeriod,
    choice.vibrationPattern.map .vibrationPattern, choice.queueCapacity.map .queueCapacity,
    choice.channelCapacity.map .channelCapacity]

/-- The settings of a choice, in the order of the fields. -/
def settings (choice : Choice) : List Setting := choice.fields.filterMap id

variable {choice : Choice}

theorem keys_sublist {fields : List (Option Setting)} {keys : List String}
    (h : List.Forall₂ (fun field key => ∀ s ∈ field, s.key = key) fields keys) :
    ((fields.filterMap id).map (·.key)).Sublist keys := by
  induction h with
  | nil => exact .refl []
  | @cons field key _ _ hf _ ih =>
    cases field with
    | none => exact ih.cons key
    | some s =>
      rw [List.filterMap_cons_some (show id (some s) = some s from rfl), List.map_cons, hf s rfl]
      exact ih.cons_cons key

/-- No field is chosen twice. -/
theorem nodup_keys (choice : Choice) : (choice.settings.map (·.key)).Nodup := by
  have sets {α : Type} {o : Option α} {mk : α → Setting} {key : String}
      (hk : ∀ a, (mk a).key = key) : ∀ s ∈ o.map mk, s.key = key := by
    intro s hs
    obtain ⟨a, -, rfl⟩ := Option.map_eq_some_iff.mp hs
    exact hk a
  have h : List.Forall₂ (fun field key => ∀ s ∈ field, s.key = key) choice.fields Setting.keys := by
    unfold fields Setting.keys
    repeat' first | exact .nil | refine .cons (sets fun _ => rfl) ?_
  exact (keys_sublist h).nodup (by decide)

/-- A setting is put in place, if there is one. -/
def put (c : Config) (field : Option Setting) : Config := field.elim c c.apply

theorem foldl_put (fields : List (Option Setting)) (c : Config) :
    (fields.filterMap id).foldl Config.apply c = fields.foldl put c := by
  induction fields generalizing c with
  | nil => rfl
  | cons field rest ih =>
    cases field with
    | none => exact ih c
    | some s => exact ih (c.apply s)

/-- A field has the chosen value, or keeps its own. -/
theorem put_map {α : Type} (mk : α → Setting) (get : Config → α)
    (h : ∀ c : Config, c.apply (mk (get c)) = c) (o : Option α) (c : Config) :
    put c (o.map mk) = c.apply (mk (o.getD (get c))) := by
  cases o with
  | none => exact (h c).symm
  | some a => rfl

/-- The settings of a choice put its values in place, and no others. -/
theorem foldl_settings (choice : Choice) (c : Config) :
    choice.settings.foldl Config.apply c = choice.onto c := by
  unfold settings fields
  simp only [foldl_put, List.foldl_cons, List.foldl_nil,
    put_map .callWaiting (·.callWaiting) fun _ => rfl, put_map .maxCalls (·.maxCalls) fun _ => rfl,
    put_map .ringerMode (·.ringerMode) fun _ => rfl,
    put_map .ringtonePath (·.ringtonePath) fun _ => rfl,
    put_map .toneDuration (·.toneDuration) fun _ => rfl,
    put_map .renderPeriod (·.renderPeriod) fun _ => rfl,
    put_map .vibrationPattern (·.vibrationPattern) fun _ => rfl,
    put_map .queueCapacity (·.queueCapacity) fun _ => rfl,
    put_map .channelCapacity (·.channelCapacity) fun _ => rfl]
  rfl

/-- The settings of a choice, in whatever order. -/
theorem ofSettings_eq_onto {steps : List Setting} (h : steps.Perm choice.settings) :
    Config.ofSettings steps = choice.onto .standard :=
  (Config.foldl_apply_perm choice.nodup_keys h.symm .standard).symm.trans
    (choice.foldl_settings .standard)

end Choice

end Switchboard
