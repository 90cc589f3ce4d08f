import Switchboard.Proofs.Config.Settings

/-!
# Durations that are built

A builder takes the duration of tones and the render period as spans of time; the configuration
keeps the milliseconds of each as a 64-bit word. So a span is kept up to its whole milliseconds, if
these fit (`built_duration`). Of a span of 2^64 milliseconds or more the word keeps the rest: the
builder takes it for a short one, or refuses it as if it were zero (`long_span_lost`).
-/

namespace Switchboard

/-- The nanoseconds of a span. -/
def Span.total (d : Span) : Nat := d.seconds.toNat * 1000000000 + d.nanos.toNat

theorem Span.total_div (d : Span) : d.total / 1000000 = d.millis := by
  unfold total millis
  omega

/-- The span of a number of milliseconds. -/
def Span.ofMillis (ms : UInt64) : Span := ⟨ms / 1000, .ofNat (ms.toNat % 1000 * 1000000)⟩

theorem Span.millis_ofMillis (ms : UInt64) : (ofMillis ms).millis = ms.toNat := by
  have hn : (UInt32.ofNat (ms.toNat % 1000 * 1000000)).toNat = ms.toNat % 1000 * 1000000 :=
    UInt32.toNat_ofNat_of_lt' (by
      show _ < 4294967296
      omega)
  unfold ofMillis millis
  rw [hn, UInt64.toNat_div]
  show ms.toNat / 1000 * 1000 + _ = _
  omega

/-- A setting that is a span of time. -/
inductive Timing where
  | tone
  | period

namespace Timing

/-- The setting that a span makes. -/
def setting : Timing → Span → Setting
  | tone => .toneDurationSpan
  | period => .renderPeriodSpan

/-- The milliseconds that a configuration keeps. -/
def millis : Timing → Config → UInt64
  | tone => (·.toneDuration)
  | period => (·.renderPeriod)

/-- The key of the field. -/
def key : Timing → String
  | tone => "tone_duration_ms"
  | period => "render_period_ms"

variable (t : Timing) (d e : Span) (c : Config)

theorem key_setting : (t.setting d).key = t.key := by cases t <;> rfl

theorem millis_apply : t.millis (c.apply (t.setting d)) = .ofNat d.millis := by cases t <;> rfl

theorem toNat_millis_apply :
    (t.millis (c.apply (t.setting d))).toNat = d.millis % UInt64.size := by
  rw [millis_apply]
  exact UInt64.toNat_ofNat'

/-- The setting of a number of milliseconds. -/
def word : Timing → UInt64 → Setting
  | tone => .toneDuration
  | period => .renderPeriod

theorem setting_eq : t.setting d = t.word (.ofNat d.millis) := by cases t <;> rfl

/-- Beside settings with which some milliseconds are valid, all are but zero. -/
theorem fault?_apply_word {c : Config} {ms ms' : UInt64}
    (h : (c.apply (t.word ms')).fault? = none) :
    (c.apply (t.word ms)).fault? = none ↔ ms ≠ 0 := by
  rw [Config.fault?_eq_none_iff] at h ⊢
  cases t with
  | tone =>
    obtain ⟨hmax, -, hperiod, hcapacities, hpattern⟩ := h
    exact ⟨fun h => h.2.1, fun h => ⟨hmax, h, hperiod, hcapacities, hpattern⟩⟩
  | period =>
    obtain ⟨hmax, htone, -, hcapacities, hpattern⟩ := h
    exact ⟨fun h => h.2.2.1, fun h => ⟨hmax, htone, h, hcapacities, hpattern⟩⟩

/-- Beside settings with which some span is valid, those are whose milliseconds leave a rest. -/
theorem fault?_apply_iff (he : (c.apply (t.setting e)).fault? = none) :
    (c.apply (t.setting d)).fault? = none ↔ d.millis % UInt64.size ≠ 0 := by
  rw [setting_eq] at he ⊢
  rw [t.fault?_apply_word he, ne_eq, ← UInt64.toNat_inj]
  exact Iff.rfl

end Timing

namespace Config

variable {t : Timing} {before after : List Setting}

theorem build_timing_iff (ha : ∀ s ∈ after, s.key ≠ t.key) (d : Span) (c : Config) :
    build (before ++ t.setting d :: after) = .ok c ↔
      c = (ofSettings (before ++ after)).apply (t.setting d) ∧
        ((ofSettings (before ++ after)).apply (t.setting d)).fault? = none := by
  have hlast : ∀ s ∈ after, (t.setting d).key ≠ s.key := fun s hs => by
    rw [t.key_setting]
    exact (ha s hs).symm
  unfold build
  rw [validate_eq_ok_iff, ofSettings_append_cons hlast]

/-- **What is kept of a duration.** A builder with a span for the duration of tones, or for the
render period, that is not set again afterwards: a configuration that it builds has the whole
milliseconds of the span, but for the multiples of 2^64; and beside settings with which it builds
for some span, it builds for this one if these milliseconds are not zero. So a span whose
milliseconds fit is rounded down to whole milliseconds, and is built with if that is at least one.
-/
theorem built_duration (ha : ∀ s ∈ after, s.key ≠ t.key) (d : Span) :
    let built (d : Span) (c : Config) := build (before ++ t.setting d :: after) = .ok c
    (∀ c, built d c → nanosOfMillis (t.millis c) = d.millis % UInt64.size * 1000000) ∧
      (∀ e, (∃ c, built e c) → ((∃ c, built d c) ↔ d.millis % UInt64.size ≠ 0)) ∧
      (d.millis < UInt64.size →
        (∀ c, built d c → nanosOfMillis (t.millis c) = d.total / 1000000 * 1000000) ∧
          ∀ e, (∃ c, built e c) → 1000000 ≤ d.total → ∃ c, built d c) := by
  intro built
  have hkept (c : Config) (hc : built d c) :
      nanosOfMillis (t.millis c) = d.millis % UInt64.size * 1000000 := by
    rw [((build_timing_iff ha d c).mp hc).1, nanosOfMillis, t.toNat_millis_apply]
  have hbuilt (e : Span) : (∃ c, built e c) →
      ((∃ c, built d c) ↔ d.millis % UInt64.size ≠ 0) := by
    rintro ⟨c, hc⟩
    have hvalid := ((build_timing_iff ha e c).mp hc).2
    rw [← t.fault?_apply_iff d e _ hvalid]
    exact ⟨fun ⟨c, hc⟩ => ((build_timing_iff ha d c).mp hc).2,
      fun h => ⟨_, (build_timing_iff ha d _).mpr ⟨rfl, h⟩⟩⟩
  refine ⟨hkept, hbuilt, fun hlt => ⟨fun c hc => ?_, fun e he htotal => (hbuilt e he).mpr ?_⟩⟩
  · rw [hkept c hc, Nat.mod_eq_of_lt hlt, d.total_div]
  · rw [Nat.mod_eq_of_lt hlt, ← d.total_div]
    omega

/-- A render period of two and a half milliseconds beside other settings. -/
theorem built_duration_period :
    let before : List Setting := [.renderPeriod 0, .toneDuration 500]
    let after : List Setting := [.maxCalls 2]
    let d : Span := ⟨0, 2500000⟩
    (∀ s ∈ after, s.key ≠ Timing.period.key) ∧ d.millis < UInt64.size ∧
      (∃ c, build (before ++ Timing.period.setting d :: after) = .ok c ∧
        nanosOfMillis c.renderPeriod = 2000000) := by
  intro before after d
  have ha : ∀ s ∈ after, s.key ≠ Timing.period.key := by decide
  have hlt : d.millis < UInt64.size := by decide
  have he : ∃ c, build (before ++ Timing.period.setting ⟨1, 0⟩ :: after) = .ok c := ⟨_, rfl⟩
  obtain ⟨-, -, hfits⟩ := built_duration ha d
  obtain ⟨hkept, hbuilds⟩ := hfits hlt
  obtain ⟨c, hc⟩ := hbuilds ⟨1, 0⟩ he (by decide)
  exact ⟨ha, hlt, c, hc, (hkept c hc).trans (by decide)⟩

/-- Two spans of half a billion years, one millisecond apart: the builder refuses the one as if it
were zero, and tones of the other play for a millisecond. -/
theorem long_span_lost :
    let none : Span := ⟨18446744073709551, 616000000⟩
    let short : Span := ⟨18446744073709551, 617000000⟩
    1000000 ≤ none.total ∧ build [.toneDurationSpan none] =
        .error (.configuration "tone_duration_ms must be non-zero") ∧
      short.total = 18446744073709551617000000 ∧ build [.toneDurationSpan short] =
        .ok { standard with toneDuration := 1 } ∧
      nanosOfMillis ({ standard with toneDuration := 1 } : Config).toneDuration = 1000000 := by
  decide

end Config

end Switchboard
