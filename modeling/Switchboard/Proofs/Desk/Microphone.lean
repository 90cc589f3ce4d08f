import Switchboard.Proofs.Desk.Mirror

/-!
# The microphone in an emergency

An emergency call is to be heard. The microphone is turned on when one is registered
(`muted_added`), and it is not muted while one is there, so as long as the platform complies it
stays on (`emergency_heard`). A call that is on its way out does not count; if the radio reports
that it is back, nobody looks after the microphone (`reportState_revives`). `Desk.Revives` says of a
happening that it brings an emergency call back.

The platform's microphone is as the desk has it, whatever fails (`Mutation.mic_eq`).
-/

namespace Switchboard

namespace Desk

open DeskM

variable {allowed : Deed → Prop} {rule : Rule} {d d' : Desk} {c : Call} {n : Nat}

/-! ## The microphone -/

/-- The microphone is muted: as the desk has it, and as the platform does. -/
def mic (d : Desk) : Bool × Bool := (d.muted, d.outside.micMuted)

theorem mic_playbackOnly (h : d.PlaybackOnly d') : d'.mic = d.mic :=
  congrArg (fun r : Reflection => (r.muted, r.micMuted)) (reflection_playbackOnly h)

/-- No other demand touches the microphone. -/
theorem mic_ask (d : Desk) (demand : Demand) (h : ∀ muted, demand ≠ .micMute muted) :
    (d.ask demand).2.mic = d.mic := by
  refine (congrArg (fun r : Reflection => (r.muted, r.micMuted)) (reflection_ask d demand)).trans ?_
  split
  · cases demand <;> first | rfl | exact absurd rfl (h _)
  · rfl

theorem ignoresMachines_mic : IgnoresMachines mic where
  playbackOnly := mic_playbackOnly
  machines _ _ _ := rfl
  told _ _ _ := rfl
  asked d demand hd := mic_ask d demand (by rintro muted rfl; cases hd)

/-- A mutation leaves the microphone as it is, or sets it, at the desk and on the platform. -/
theorem Mutation.mic_eq (h : Mutation allowed d d') : d'.mic = d.mic ∨
    ∃ value, (value = true → allowed .mute) ∧ d'.mic = (value, value) := by
  cases h with
  | sounded h => exact .inl (mic_playbackOnly h.playbackOnly)
  | turned calls => exact .inl (ignoresMachines_mic.turned d calls _)
  | routed next => exact .inl (ignoresMachines_mic.moveRoute d next)
  | @muted value hm =>
    have ha : (d.ask (.micMute value)).2.outside.micMuted =
        (if (d.ask (.micMute value)).1 then d.reflection.brought (.micMute value)
        else d.reflection).micMuted := congrArg Reflection.micMuted (reflection_ask d _)
    unfold applyMute
    split
    · exact .inl rfl
    · dsimp only
      split
      · rename_i hmet
        rw [if_pos hmet] at ha
        exact .inr ⟨value, hm, congrArg (value, ·) ha⟩
      · rename_i hmet
        rw [if_neg hmet] at ha
        exact .inl (congrArg (d.muted, ·) ha)
  | asked command => exact .inl (mic_ask d (.telephony command) (by simp))
  | ringer | setFailAfter | noted | told | amended | moved | added | dropped | issued =>
    exact .inl rfl

/-- The platform's microphone is as the desk has it. -/
def Attuned (d : Desk) : Prop := d.outside.micMuted = d.muted

/-- Along mutations the desk and the platform change the microphone together. -/
theorem Mutations.attuned (h : Mutations allowed d d') (hd : d.Attuned) : d'.Attuned := by
  induction h with
  | refl => exact hd
  | tail _ h ih =>
    rcases h.mic_eq with he | ⟨value, -, he⟩
    · obtain ⟨hm, ho⟩ := Prod.mk.inj he
      exact ho.trans (ih.trans hm.symm)
    · obtain ⟨hm, ho⟩ := Prod.mk.inj he
      exact ho.trans hm.symm

/-- Where the microphone may not be muted, it is muted only if it was. -/
theorem Mutations.muted_before (h : Mutations allowed d d') (ha : ¬allowed .mute)
    (hm : d'.muted = true) : d.muted = true := by
  induction h with
  | refl => exact hm
  | tail _ h ih =>
    refine ih ?_
    rcases h.mic_eq with he | ⟨value, hv, he⟩
    · exact (Prod.mk.inj he).1.symm.trans hm
    · exact absurd (hv ((Prod.mk.inj he).1.symm.trans hm)) ha

theorem muted_applyMute (hg : d.outside.Grants .setMicrophoneMute) (value : Bool) :
    (d.applyMute value).muted = value := by
  have hmet : (d.ask (.micMute value)).1 = true := hg.met
  unfold applyMute
  split
  · assumption
  · dsimp only
    rw [if_pos hmet]
    rfl

/-- When an emergency call is registered, the microphone is turned on. -/
theorem muted_added (hg : d.outside.Grants .setMicrophoneMute) (he : c.emergency = true)
    (registry : Registry) : (d.added c registry).muted = false := by
  have hb : Mutations (fun _ => False) (({ d with registry } : Desk).emit (.callAdded c)) _ :=
    (audioMutations_callMoved _ c.bearer none (some c.state)).mutations
  unfold added callCreated
  dsimp only
  rw [if_pos he]
  exact muted_applyMute (hg.of_refuses hb.refuses_eq) false

/-! ## Emergency calls -/

/-- If the microphone is muted, it was so before, and no emergency call has come since. -/
def Unalarmed (d d' : Desk) : Prop :=
  d'.muted = true → d.muted = true ∧ ∀ c' ∈ d'.registry.calls, c'.emergency = true →
    ∃ c ∈ d.registry.calls, c.emergency = true ∧ c.id = c'.id

theorem Unalarmed.trans {d'' : Desk} (h : Unalarmed d d') (h' : Unalarmed d' d'') :
    Unalarmed d d'' := by
  intro hm
  obtain ⟨hm', hcalls'⟩ := h' hm
  obtain ⟨hm, hcalls⟩ := h hm'
  refine ⟨hm, fun c'' hc'' he'' => ?_⟩
  obtain ⟨c', hc', he', hid'⟩ := hcalls' c'' hc'' he''
  obtain ⟨c, hc, he, hid⟩ := hcalls c' hc' he'
  exact ⟨c, hc, he, hid.trans hid'⟩

theorem unalarmed_of_calls_eq (hm : d'.muted = true → d.muted = true)
    (hc : d'.registry.calls = d.registry.calls) : Unalarmed d d' := fun h =>
  ⟨hm h, fun c hc' he => ⟨c, hc ▸ hc', he, rfl⟩⟩

/-- A step that is not the user's muting: an emergency call that is registered is heard, and the
others were there. -/
theorem Step.unalarmed (h : Step rule d d') (ha : ¬rule.allowed .mute)
    (hg : d.outside.Grants .setMicrophoneMute) : Unalarmed d d' := by
  intro hm
  refine ⟨h.mutations.muted_before (by simpa [Rule.permits] using ha) hm, fun x hx he => ?_⟩
  rcases h.registry_eq with hr | ⟨c, hi, -, -, -, -, hadded⟩ | ⟨id, hr⟩ | ⟨id, f, hr, hf, -, -⟩
  · rw [hr] at hx
    exact ⟨x, hx, he, rfl⟩
  · rw [(Registry.insert_eq_ok hi).1] at hx
    -- If the emergency call is the new one, the microphone was turned on for it.
    rcases Registry.mem_place.mp hx with rfl | hx
    · rw [hadded, muted_added hg he] at hm
      cases hm
    · exact ⟨x, hx, he, rfl⟩
  · rw [hr] at hx
    exact ⟨x, (Registry.mem_erase.mp hx).1, he, rfl⟩
  · rw [hr] at hx
    rcases Registry.mem_adjust.mp hx with ⟨hx, -⟩ | ⟨c, hc, -, rfl⟩
    · exact ⟨x, hx, he, rfl⟩
    · exact ⟨c, hc, (hf c).symm.trans he, rfl⟩

theorem Steps.unalarmed (h : Steps rule d n d') (ha : ¬rule.allowed .mute)
    (hg : d.outside.Grants .setMicrophoneMute) : Unalarmed d d' := by
  induction h with
  | refl => exact unalarmed_of_calls_eq id rfl
  | step hs h ih => exact ih.trans (h.unalarmed ha (hg.of_refuses hs.mutations.refuses_eq))
  | issued _ ih => exact ih.trans (unalarmed_of_calls_eq id rfl)

theorem Transition.unalarmed (h : Transition rule d n d') (ha : ¬rule.allowed .mute)
    (hb : ¬rule.allowed .befall) (hg : d.outside.Grants .setMicrophoneMute) : Unalarmed d d' := by
  have hm := (h.mutations hb).muted_before (by simpa [Rule.permits] using ha)
  cases h with
  | steps h => exact h.unalarmed ha hg
  | dialed _ h => exact h.unalarmed ha hg
  | opened | stopped => exact unalarmed_of_calls_eq hm rfl
  | closed =>
    have hr : d.closed.registry = d.registry :=
      registry_drain ({ d with started := false } : Desk)
    exact unalarmed_of_calls_eq hm (congrArg Registry.calls hr)
  | rested =>
    have hr : d.rest.registry = d.registry := registry_drain d
    exact unalarmed_of_calls_eq hm (congrArg Registry.calls hr)
  | befallen hc => exact absurd hc hb

theorem Transitions.unalarmed (h : Transitions rule d n d') (ha : ¬rule.allowed .mute)
    (hb : ¬rule.allowed .befall) (hg : d.outside.Grants .setMicrophoneMute) : Unalarmed d d' := by
  induction h with
  | refl => exact unalarmed_of_calls_eq id rfl
  | next hs h ih => exact ih.trans (h.unalarmed ha hb (hg.of_refuses (hs.mutations hb).refuses_eq))

/-! ## Everything that happens -/

/-- An emergency call that was on its way out is back. -/
def Revives (d : Desk) (h : Happening) : Prop :=
  ∃ c ∈ d.registry.calls, c.emergency = true ∧ c.state.isTerminal = true ∧
    ∃ c' ∈ (d.after h).registry.calls, c'.id = c.id ∧ c'.state.isTerminal = false

instance (d : Desk) (h : Happening) : Decidable (d.Revives h) :=
  inferInstanceAs (Decidable (∃ c ∈ _, _ ∧ _))

/-- While there is an emergency call, the microphone is on. -/
def Audible (d : Desk) : Prop := hasEmergency d.registry.calls = true → d.muted = false

theorem Unalarmed.audible {h : Happening} (hu : Unalarmed d (d.after h))
    (hr : d.muted = true → ¬d.Revives h) (hd : d.Audible) : (d.after h).Audible := by
  intro he
  refine eq_false_of_ne_true fun hm => ?_
  obtain ⟨hmd, hcalls⟩ := hu hm
  obtain ⟨c', hc', hlive⟩ := List.any_eq_true.mp he
  obtain ⟨he', ht'⟩ : c'.emergency = true ∧ c'.state.isTerminal = false := by simpa using hlive
  obtain ⟨c, hc, hec, hid⟩ := hcalls c' hc' he'
  cases ht : c.state.isTerminal with
  -- The call did not count before: it was brought back.
  | true => exact hr hmd ⟨c, hc, hec, ht, c', hc', hid.symm, ht'⟩
  | false =>
    have hlive : hasEmergency d.registry.calls = true :=
      List.any_eq_true.mpr ⟨c, hc, by simp [hec, ht]⟩
    exact absurd hmd (by simp [hd hlive])

/-- The user cannot mute the microphone while there is an emergency call. -/
theorem audible_setMute (hg : d.outside.Grants .setMicrophoneMute) (muted : Bool) :
    (setMute muted).Within d Audible := by
  have ha : (d.applyMute (muted && !hasEmergency d.registry.calls)).Audible := by
    intro he
    have hr : (d.applyMute (muted && !hasEmergency d.registry.calls)).registry = d.registry :=
      congrArg Core.registry (core_applyMute d _)
    rw [hr] at he
    rw [muted_applyMute hg, he]
    exact Bool.and_false muted
  exact ends_setMute ha fun _ => ha

/-- What happens leaves the emergency calls heard, if it brings none of them back to a muted
microphone. -/
theorem audible_after {h : Happening} (hm : h.ByManager)
    (hg : d.outside.Grants .setMicrophoneMute) (hr : d.muted = true → ¬d.Revives h)
    (hd : d.Audible) : (d.after h).Audible := by
  have other (hd' : ∀ deed ∈ [Deed.mute, .befall], deed ∉ h.deeds) :
      (d.after h).Audible := by
    have hp := transitions_after hm (Happening.heeds_without d hd') False.elim
    exact (hp.unalarmed (by simp [Rule.without]) (by simp [Rule.without]) hg).audible hr hd
  cases h with
  | operation o =>
    cases o with
    | setMute muted => exact (audible_setMute hg muted).perform
    | _ => exact other (by simp [Happening.deeds, Operation.deeds])
  | audio => exact hm.elim
  | circumstance c => cases c <;> exact hd
  | rest => exact other (by simp [Happening.deeds])

theorem attuned_after (h : Happening) (hd : d.Attuned) : (d.after h).Attuned := by
  rcases mutations_or_setFailing [] (by simp) d h (by simp) with hb | ⟨_, _, rfl⟩
  · exact hb.attuned hd
  · exact hd

/-- **An emergency call is heard.** In every run in which the platform never fails to mute the
microphone or to turn it on, and no emergency call comes back while it is muted: while there is an
emergency call that is not on its way out, the microphone is on, at the desk and on the platform. -/
theorem emergency_heard
    (h : Reach (fun d h => h.ByManager ∧ d.outside.Grants .setMicrophoneMute ∧
      (d.muted = true → ¬d.Revives h)) n d)
    (he : hasEmergency d.registry.calls = true) :
    d.muted = false ∧ d.outside.micMuted = false := by
  suffices hd : d.Audible ∧ d.Attuned from ⟨hd.1 he, hd.2.trans (hd.1 he)⟩
  clear he
  induction h with
  | @assembled _ _ outside _ hd hl =>
    obtain ⟨refuses, failures, log, delay⟩ := outside
    obtain rfl : log = [] := hl
    rw [assemble_eq hd]
    exact ⟨fun _ => rfl, rfl⟩
  | next _ hm ih =>
    obtain ⟨hm, hg, hr⟩ := hm
    exact ⟨audible_after hm hg hr ih.1, attuned_after _ ih.2⟩

/-- An emergency call is dialed while the microphone is muted, the user mutes it again in vain, and
the call comes back while it is on. -/
theorem emergency_heard_dialed :
    let run : List Happening :=
      [.operation .start, .operation (.setMute true),
        .operation (.dial ⟨"112", 0, .cs, .voice, true⟩), .operation (.setMute true),
        .operation (.reportState 1 .disconnecting none), .operation (.reportState 1 .active none)]
    let d := standard.afterAll run
    Reach (fun d h => h.ByManager ∧ d.outside.Grants .setMicrophoneMute ∧
        (d.muted = true → ¬d.Revives h)) 1 d ∧
      hasEmergency d.registry.calls = true ∧ d.journal.mutes = [true, false] ∧
      d.muted = false ∧ d.outside.micMuted = false := by
  intro run d
  have hp : Permits (fun d h => h.ByManager ∧ d.outside.Grants .setMicrophoneMute ∧
      (d.muted = true → ¬d.Revives h)) standard run :=
    ⟨⟨trivial, fun _ => rfl, by decide⟩, ⟨trivial, fun _ => rfl, by decide⟩,
      ⟨trivial, fun _ => rfl, by decide⟩, ⟨trivial, fun _ => rfl, by decide⟩,
      ⟨trivial, fun _ => rfl, by decide⟩, ⟨trivial, fun _ => rfl, by decide⟩, trivial⟩
  have h := (reach_standard _).all hp
  have he : hasEmergency d.registry.calls = true := by decide
  exact ⟨h, he, by decide, emergency_heard h he⟩

/-- A report can bring an emergency call back while the microphone is muted, and it stays muted. -/
theorem reportState_revives :
    let run : List Happening :=
      [.operation .start, .operation (.dial ⟨"112", 0, .cs, .voice, true⟩),
        .operation (.reportState 1 .disconnecting none), .operation (.setMute true),
        .operation (.reportState 1 .active none)]
    let d := standard.afterAll run
    Reach (fun d h => h.ByManager ∧ d.outside.Grants .setMicrophoneMute) 1 d ∧
      hasEmergency d.registry.calls = true ∧ d.muted = true ∧ d.outside.micMuted = true := by
  intro run d
  have hp : Permits (fun d h => h.ByManager ∧ d.outside.Grants .setMicrophoneMute) standard run :=
    ⟨⟨trivial, fun _ => rfl⟩, ⟨trivial, fun _ => rfl⟩, ⟨trivial, fun _ => rfl⟩,
      ⟨trivial, fun _ => rfl⟩, ⟨trivial, fun _ => rfl⟩, trivial⟩
  exact ⟨(reach_standard _).all hp, by decide, by decide, by decide⟩

end Desk

end Switchboard
