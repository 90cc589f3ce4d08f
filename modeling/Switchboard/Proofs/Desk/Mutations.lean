import Switchboard.Proofs.Desk.AudioSteps
import Switchboard.Proofs.Desk.History
import Switchboard.Proofs.Desk.AudioMutations

/-!
# Mutations

A step is made of mutations (`Step.mutations`), and so is what is done to the audio side alone
(`audio_mutations`). A mutation touches one thing: the players, the posture machine, the route, the
microphone, a flag or one record of the registry, and does at once what goes with it: it tells the
listeners, and makes its demand on the outside. So what is said of the journal and of the log of the
outside is proved mutation by mutation.

Of all that happens at a desk, only that a service fails from now on, or is willing again, is not
made of mutations: `mutations_or_setFailing`.
-/

namespace Switchboard

open Playback (Sound)

/-- The event is news of neither a record nor a machine. -/
def Event.isAside : Event → Bool
  | admissionDecided .. | videoStateChanged .. => true
  | _ => false

namespace Desk

/-- One thing is touched at the desk. -/
inductive Mutation (allowed : Deed → Prop) (d : Desk) : Desk → Prop
  /-- The players did something, or time went by. -/
  | sounded {d' : Desk} (h : d.Sounded allowed d') : Mutation allowed d d'
  /-- The user chose a ringer mode. -/
  | ringer (hr : allowed .ringer) (mode : RingerMode) : Mutation allowed d (d.setRingerMode mode)
  /-- The renderer is to fail at another time. -/
  | setFailAfter (hb : allowed .befall) (periods : Nat) :
    Mutation allowed d { d with renderer := { d.renderer with failAfter := periods } }
  /-- The posture machine moved. -/
  | turned (calls : List Call) {posture : Posture.Machine} (h : d.posture.Moves posture) :
    Mutation allowed d (d.turned calls posture)
  /-- The route machine moved. -/
  | routed (next : Route.Machine) : Mutation allowed d (d.moveRoute next)
  /-- The microphone was to be muted, or to be heard. -/
  | muted {value : Bool} (hm : value = true → allowed .mute) :
    Mutation allowed d (d.applyMute value)
  /-- The desk noted something for itself. -/
  | noted (focus : Focus) (bluetooth headset videoShown started dialing : Bool)
    (queue : Option (List Signal)) :
    Mutation allowed d { d with focus, bluetooth, headset, videoShown, started, dialing, queue }
  /-- Telephony was asked for something. -/
  | asked (command : Command) : Mutation allowed d (d.ask (.telephony command)).2
  /-- Something was said that is news of neither a record nor a machine. -/
  | told {e : Event} (he : e.isAside = true) : Mutation allowed d (d.emit e)
  /-- A record was changed, but not its state. -/
  | amended {id : CallId} {f : Call → Call}
    (hf : ∀ c ∈ d.registry.calls, c.id = id → (f c).state = c.state)
    (hu : ∀ c, (f c).canUnhold = false → c.canUnhold = false ∨ allowed .holdBack) :
    Mutation allowed d (d.amended id f)
  /-- A call went into another state, and this was said. -/
  | moved {c : Call} {f : Call → Call} {next : CallState} (hm : allowed .move)
    (h : c ∈ d.registry.calls) (hf : (f c).state = next) (hs : c.state ≠ next)
    (hu : (f c).canUnhold = c.canUnhold) :
    Mutation allowed d ((d.amended c.id f).emit (.callStateChanged c.id c.state next))
  /-- A call was registered, and this was said. -/
  | added {c : Call} {registry : Registry} (hr : allowed .register)
    (h : d.registry.insert c = .ok registry) (hu : c.canUnhold = true) :
    Mutation allowed d ({ d with registry }.emit (.callAdded c))
  /-- A call was removed, and this was said. -/
  | dropped {c : Call} (h : c ∈ d.registry.calls) :
    Mutation allowed d
      ({ d with registry := d.registry.erase c.id }.emit (.callRemoved c.id c.ended))
  /-- A call number was given out. -/
  | issued : Mutation allowed d d.issued

/-- Mutations one after the other. -/
abbrev Mutations (allowed : Deed → Prop) : Desk → Desk → Prop :=
  Relation.ReflTransGen (Mutation allowed)

variable {allowed : Deed → Prop} {rule : Rule} {d d' : Desk} {n : Nat} {calls : List Call}

theorem Mutation.mutations (h : Mutation allowed d d') : Mutations allowed d d' := .single h

/-- A record was changed in a matter of no consequence here. -/
theorem mutations_amended (d : Desk) (id : CallId) {f : Call → Call}
    (hf : ∀ c, (f c).state = c.state) (hu : ∀ c, (f c).canUnhold = c.canUnhold) :
    Mutations allowed d (d.amended id f) :=
  (Mutation.amended (fun c _ _ => hf c) fun c h => .inl ((hu c).symm.trans h)).mutations

/-- What the players do at once is one mutation. -/
theorem Sounded.mutations (h : d.Sounded allowed d') : Mutations allowed d d' :=
  (Mutation.sounded h).mutations

/-- A mutation of the audio side does none of the deeds. -/
theorem AudioMutation.toMutation (h : AudioMutation d d') : Mutation allowed d d' := by
  cases h with
  | sounded h => exact .sounded (h.mono fun _ => False.elim)
  | turned calls h => exact .turned calls h
  | routed next => exact .routed next
  | unmuted => exact .muted (by simp)
  | noted => exact .noted _ _ _ _ _ _ _

/-- The same goes for many of them: what the audio side does by itself breaks no rule. -/
theorem AudioMutations.mutations (h : AudioMutations d d') : Mutations allowed d d' := by
  induction h with
  | refl => exact .refl
  | tail _ h ih => exact ih.tail h.toMutation

/-- Telephony takes its time, and is asked. -/
theorem mutations_telephoned (d : Desk) (command : Command) :
    Mutations allowed d (d.telephoned command) :=
  (audioMutations_kept d).mutations.tail (.asked command)

/-! ## Mutations that do less -/

/-- A mutation may be made under any rule that permits more. -/
theorem Mutation.mono {allowed' : Deed → Prop} (ha : ∀ deed, allowed deed → allowed' deed)
    (h : Mutation allowed d d') : Mutation allowed' d d' := by
  cases h with
  | sounded h => exact .sounded (h.mono ha)
  | ringer hr mode => exact .ringer (ha _ hr) mode
  | setFailAfter hb periods => exact .setFailAfter (ha _ hb) periods
  | turned calls h => exact .turned calls h
  | routed next => exact .routed next
  | muted hm => exact .muted fun hv => ha _ (hm hv)
  | noted => exact .noted _ _ _ _ _ _ _
  | asked command => exact .asked command
  | told he => exact .told he
  | amended hf hu => exact .amended hf fun c h => (hu c h).imp_right (ha _)
  | moved hm h hf hs hu => exact .moved (ha _ hm) h hf hs hu
  | added hr h hu => exact .added (ha _ hr) h hu
  | dropped h => exact .dropped h
  | issued => exact .issued

/-- Any number of mutations may be made under any rule that permits more. -/
theorem Mutations.mono {allowed' : Deed → Prop} (ha : ∀ deed, allowed deed → allowed' deed)
    (h : Mutations allowed d d') : Mutations allowed' d d' := by
  induction h with
  | refl => exact .refl
  | tail _ h ih => exact ih.tail (h.mono ha)

/-! ## Steps -/

/-- A call that goes into another state is a change of its record, and of the audio side. -/
theorem mutations_moved (hm : allowed .move) {c : Call} (h : c ∈ d.registry.calls)
    (next : CallState) : Mutations allowed d (d.moved c next) := by
  unfold moved
  dsimp only
  split
  · rename_i hs
    refine (Mutation.amended (f := ({ · with state := next })) (fun x hx hid => ?_)
      fun _ => .inl).mutations
    rw [Registry.eq_of_id_eq hx h hid]
    exact hs.symm
  · rename_i hs
    have hd : Mutations allowed d _ :=
      (Mutation.moved (f := ({ · with state := next })) hm h rfl hs rfl).mutations
    exact hd.trans (audioMutations_updated _ c c.state next).mutations

/-- An answer is a change of the record, of its state and video state at once, and of the audio
side. -/
theorem mutations_answered (hm : allowed .move) {c : Call} (h : c ∈ d.registry.calls)
    (hr : c.state.isRinging = true) (media : VideoState) :
    Mutations allowed d (d.answered c media) := by
  -- A ringing call is not active yet, so the change of state is one.
  have hs : c.state ≠ .active := by
    rintro hs
    rw [hs] at hr
    cases hr
  have hd : Mutations allowed d _ :=
    (Mutation.moved (f := ({ · with video := media, state := .active })) hm h rfl hs rfl).mutations
  exact hd.trans (audioMutations_callMoved _ _ _ _).mutations

/-- A call that is removed is first gone from the registry, and then from the audio side. -/
theorem mutations_dropped {c : Call} (h : c ∈ d.registry.calls) :
    Mutations allowed d (d.dropped c) := by
  have hd : Mutations allowed d _ := (Mutation.dropped h).mutations
  unfold dropped
  dsimp only
  refine hd.trans ?_
  split
  · exact (audioMutations_ringingCallGone _ c).mutations
  · exact (audioMutations_callMoved _ _ _ _).mutations

theorem mutations_added {c : Call} {registry : Registry} (hr : allowed .register)
    (h : d.registry.insert c = .ok registry) (hu : c.canUnhold = true) :
    Mutations allowed d (d.added c registry) :=
  (Mutation.added hr h hu).mutations.trans (audioMutations_callCreated _ c).mutations

/-- A change of the video state is a change of the record, news of it, and a look at the route. -/
theorem mutations_shown (d : Desk) (id : CallId) (old new : VideoState) :
    Mutations allowed d (d.shown id old new) := by
  have ha : Mutations allowed d (d.amended id ({ · with video := new })) :=
    mutations_amended d id (fun _ => rfl) fun _ => rfl
  have he : Mutations allowed d (if old = new then d.amended id ({ · with video := new })
      else (d.amended id ({ · with video := new })).emit (.videoStateChanged id old new)) := by
    split
    · exact ha
    · exact ha.tail (.told rfl)
  unfold shown
  dsimp only
  split
  · exact he
  · exact he.trans (audioMutations_routeVideo _).mutations

/-- The desk after a call went into another state, one way or another. -/
inductive Relocated (released : Prop) (d : Desk) : Desk → Prop
  | moved {c : Call} (h : c ∈ d.registry.calls) (next : CallState)
    (hb : c.Pinned → next = .holding ∨ released) : Relocated released d (d.moved c next)
  | answered {c : Call} (h : c ∈ d.registry.calls) (hr : c.state.isRinging) (media : VideoState) :
    Relocated released d (d.answered c media)
  | parted {c : Call} (h : c ∈ d.registry.calls) : Relocated released d (d.parted c)

/-- A step that takes no call into another state is made of mutations that take none there. -/
theorem Step.mutations_or_relocated (h : Step rule d d') :
    Mutations rule.allowed d d' ∨ Relocated (rule.allowed .release) d d' := by
  cases h with
  | moved h next _ _ hb => exact .inr (.moved h next hb)
  | answered h hr media => exact .inr (.answered h hr media)
  | parted h => exact .inr (.parted h)
  | telephoned command => exact .inl (mutations_telephoned d command)
  | decided => exact .inl (Mutation.told rfl).mutations
  | added hr h _ _ _ hu => exact .inl (mutations_added hr h hu)
  | amended id e he =>
    -- Of the edits only one holds a call back, and its rule has to admit it.
    refine .inl (Mutation.amended (fun c _ _ => e.apply_state c) fun c hu => ?_).mutations
    cases e with
    | canUnhold value =>
      cases value with
      | false => exact .inr he
      | true => cases hu
    | ended | speakerphone | conference => exact .inl hu
  | dropped h => exact .inl (mutations_dropped h)
  | @rebeared c h bearer =>
    have ha : Mutations rule.allowed d (d.amended c.id ({ · with bearer })) :=
      mutations_amended d c.id (fun _ => rfl) fun _ => rfl
    exact .inl (ha.trans (audioMutations_rebeared _ _ _).mutations)
  | @kept c h => exact .inl (mutations_amended d c.id (fun _ => rfl) fun _ => rfl)
  | shown h new => exact .inl (mutations_shown d _ _ new)
  | keyed hk digit => exact .inl (sounded_ofDigit hk d digit).mutations
  | released => exact .inl (audioMutations_silenceDtmf d).mutations
  | muted hm value => exact .inl (Mutation.muted fun _ => hm).mutations
  | routed => exact .inl (Mutation.routed _).mutations
  | ringer hr mode => exact .inl (Mutation.ringer hr mode).mutations
  | accessory => exact .inl (audioMutations_dispatch d _).mutations

/-- A step is made of mutations that its rule permits. -/
theorem Step.mutations (h : Step rule d d') : Mutations rule.permits d d' := by
  rcases h.mutations_or_relocated with hb | hm
  · exact hb.mono fun _ => .inr
  · cases hm with
    | moved hc next => exact mutations_moved (.inl rfl) hc next
    | answered hc hr media => exact mutations_answered (.inl rfl) hc hr media
    | parted hc =>
      have hd : Mutations rule.permits d _ := mutations_moved (.inl rfl) hc .disconnected
      exact hd.trans (mutations_dropped (mem_moved hc .disconnected))

/-- Steps are made of mutations; that a number is given out is one of its own. -/
theorem Steps.mutations (h : Steps rule d n d') : Mutations rule.permits d d' := by
  induction h with
  | refl => exact .refl
  | step _ h ih => exact ih.trans h.mutations
  | issued _ ih => exact ih.tail .issued

/-! ## What the outside is willing to do -/

/-- No machine changes what the outside is willing to do. -/
theorem ignoresMachines_refuses : IgnoresMachines fun d => d.outside.refuses where
  playbackOnly h := h.outside.refuses
  machines _ _ _ := rfl
  told _ _ _ := rfl
  asked _ _ _ := rfl

/-- A mutation does not change what the outside is willing to do. -/
theorem Mutation.refuses_eq (h : Mutation allowed d d') :
    d'.outside.refuses = d.outside.refuses := by
  cases h with
  | sounded h => exact h.playbackOnly.outside.refuses
  | turned calls => exact ignoresMachines_refuses.turned d calls _
  | routed next => exact ignoresMachines_refuses.moveRoute d next
  | muted => exact view_applyMute (fun d => d.outside.refuses) rfl fun _ => rfl
  | ringer | setFailAfter | noted | asked | told | amended | moved | added | dropped | issued => rfl

theorem Mutations.refuses_eq (h : Mutations allowed d d') :
    d'.outside.refuses = d.outside.refuses := by
  induction h with
  | refl => rfl
  | tail _ h ih => exact h.refuses_eq.trans ih

/-! ## The journal only grows -/

/-- What every effect keeps that is among those to be carried out, and some effect brings about,
holds once they are carried out. -/
theorem foldl_carryOut {P : Desk → Prop} (effects : List Effect)
    (keep : ∀ e ∈ effects, ∀ d, P d → P (carryOut calls d e))
    (hd : P d ∨ ∃ e ∈ effects, ∀ d, P (carryOut calls d e)) :
    P (effects.foldl (carryOut calls) d) := by
  induction effects generalizing d with
  | nil => exact hd.elim id fun ⟨e, he, _⟩ => by cases he
  | cons e rest ih =>
    refine ih (fun e he => keep e (List.mem_cons_of_mem _ he)) ?_
    rcases hd with hd | ⟨e', he', hp⟩
    · exact .inl (keep e (List.mem_cons_self ..) d hd)
    · rcases List.mem_cons.mp he' with rfl | he'
      · exact .inl (hp d)
      · exact .inr ⟨e', he', hp⟩

/-- What the posture machine asks for takes nothing back that was said. -/
theorem entries_carryOut (calls : List Call) (d : Desk) (e : Effect) :
    d.journal.entries <+: (carryOut calls d e).journal.entries := by
  cases he : e.mode? with
  | none =>
    obtain ⟨events, h, -⟩ := (playbackOnly_carryOut calls d he).journal.added
    exact ⟨events, h.symm⟩
  | some mode =>
    cases e with
    | modeChanged mode => exact ⟨[_], rfl⟩
    | _ => cases he

theorem entries_foldl_carryOut (calls : List Call) (d : Desk) (effects : List Effect) :
    d.journal.entries <+: (effects.foldl (carryOut calls) d).journal.entries :=
  foldl_carryOut (P := fun d' => d.journal.entries <+: d'.journal.entries) effects
    (fun e _ d' h => h.trans (entries_carryOut calls d' e)) (.inl List.prefix_rfl)

/-- A mutation takes back nothing that was said. -/
theorem Mutation.entries_prefix (h : Mutation allowed d d') :
    d.journal.entries <+: d'.journal.entries := by
  cases h with
  | sounded h =>
    obtain ⟨events, he, -⟩ := h.playbackOnly.journal.added
    exact ⟨events, he.symm⟩
  | turned calls =>
    unfold Desk.turned
    dsimp only
    refine List.IsPrefix.trans ?_ (entries_foldl_carryOut _ _ _)
    split
    · exact List.prefix_rfl
    · exact ⟨[_], rfl⟩
  | routed next =>
    unfold moveRoute
    dsimp only
    split <;> split <;> first | exact List.prefix_rfl | exact ⟨[_], rfl⟩
  | muted =>
    unfold applyMute
    split
    · exact List.prefix_rfl
    · dsimp only
      split
      · exact ⟨[_], rfl⟩
      · exact List.prefix_rfl
  | told | moved | added | dropped => exact ⟨[_], rfl⟩
  | ringer | setFailAfter | noted | asked | amended | issued => exact List.prefix_rfl

/-- Any number of mutations takes nothing back from the journal. -/
theorem Mutations.entries_prefix (h : Mutations allowed d d') :
    d.journal.entries <+: d'.journal.entries := by
  induction h with
  | refl => exact List.prefix_rfl
  | tail _ h ih => exact ih.trans h.entries_prefix

/-! ## Everything that happens -/

/-- A desk that goes out of service stops the ringtone without saying so, and does nothing else that
is forbidden. -/
theorem mutations_closed (hc : allowed .close) (d : Desk) : Mutations allowed d d.closed :=
  (audioMutations_silenced d).mutations.tail (.sounded (.hushed (.inl hc)))

/-- Everything but the circumstances is made of mutations that the rule permits. -/
theorem Transition.mutations (h : Transition rule d n d') (hb : ¬rule.allowed .befall) :
    Mutations rule.permits d d' := by
  have noted {d : Desk} (started dialing : Bool) (queue : Option (List Signal)) :
      Mutations rule.permits d { d with started, dialing, queue } :=
    (Mutation.noted _ _ _ _ _ _ _).mutations
  cases h with
  | steps h => exact h.mutations
  | @dialed _ d₁ _ h =>
    exact (noted d.started true d.queue).trans (h.mutations.trans (noted d₁.started false d₁.queue))
  | opened => exact noted true d.dialing (some [])
  | stopped => exact noted false d.dialing d.queue
  | closed hc => exact mutations_closed (.inr hc) d
  | rested => exact (audioMutations_rest d).mutations
  | befallen hc => exact absurd hc hb

theorem Transitions.mutations (h : Transitions rule d n d') (hb : ¬rule.allowed .befall) :
    Mutations rule.permits d d' := by
  induction h with
  | refl => exact .refl
  | next _ h ih => exact ih.trans (h.mutations hb)

/-- An operation that does none of some deeds is made of mutations that do none of them. -/
theorem mutations_operation {deeds : List Deed} {o : Operation} (hm : .move ∉ deeds)
    (ho : ∀ deed ∈ deeds, deed ∉ o.deeds) : Mutations (· ∉ deeds) d (o.perform d).2 := by
  -- Circumstances are not permitted here, so that what is left is mutations alone.
  have hh : (Happening.operation o).Heeds (.without (.befall :: deeds)) d := by
    refine Happening.heeds_without d fun deed hm => ?_
    rcases List.mem_cons.mp hm with rfl | hm
    · cases o <;> simp [Happening.deeds, Operation.deeds]
    · exact ho deed hm
  have hp := transitions_operation hh False.elim
  refine (hp.mutations (by simp [Rule.without])).mono fun deed hd hdeed => ?_
  rcases hd with rfl | hd
  · exact hm hdeed
  · exact hd (List.mem_cons_of_mem _ hdeed)

/-- What is done to the audio side alone is made of mutations that do no other deed. -/
theorem AudioStep.mutations (h : AudioStep d d') (hp : allowed .play) : Mutations allowed d d' := by
  cases h with
  | told b prior next => exact (audioMutations_callMoved d b prior next).mutations
  | dispatched s => exact (audioMutations_dispatch d s).mutations
  | reconciled => exact (audioMutations_reconcile d).mutations
  | shown h old new => exact mutations_shown d _ old new
  | screened => exact (audioMutations_routeVideo d).mutations
  | unmuted => exact (Mutation.muted (by simp)).mutations
  | toned tone => exact (Sounded.toned tone (fun _ => hp) fun _ => .inr hp).mutations
  | silenced => exact Sounded.silenced.mutations
  | silencedIf tone => exact (Sounded.silencedIf tone).mutations
  | rang h => exact (Sounded.rang hp h).mutations
  | stilled => exact Sounded.stilled.mutations
  | hushed => exact (Sounded.hushed (.inr hp)).mutations
  | opened => exact (Mutation.noted _ _ _ _ _ _ _).mutations
  | submitted => exact (Mutation.noted _ _ _ _ _ _ _).mutations
  | drained => exact (audioMutations_drain d).mutations.tail (.noted _ _ _ _ _ _ _)

/-- Every operation on the audio side alone is made of mutations. -/
theorem audio_mutations (hp : allowed .play) (o : AudioOperation) (d : Desk) :
    Mutations allowed d (o.perform d).2 := by
  have h := audioSteps_perform o d
  generalize (o.perform d).2 = d' at h ⊢
  induction h with
  | refl => exact .refl
  | tail _ h ih => exact ih.trans (h.mutations hp)

/-- Whatever happens is made of mutations, or it changes what the outside is willing to do. -/
theorem mutations_or_setFailing (deeds : List Deed) (hm : .move ∉ deeds) (d : Desk) (h : Happening)
    (hd : ∀ deed ∈ deeds, deed ∉ h.deeds) :
    Mutations (· ∉ deeds) d (d.after h) ∨
      ∃ service failing, h = .circumstance (.setFailing service failing) := by
  cases h with
  | operation o => exact .inl (mutations_operation hm hd)
  | audio o => exact .inl (audio_mutations (fun hm => hd _ hm (.head _)) o d)
  | circumstance c =>
    cases c with
    | elapse ms => exact .inl (Sounded.elapsed ms).mutations
    | setFailing service failing => exact .inr ⟨_, _, rfl⟩
    | failRenderAfter periods =>
      exact .inl (Mutation.setFailAfter (fun hm => hd _ hm (.head _)) periods).mutations
  | rest => exact .inl (audioMutations_rest d).mutations

/-- What the outside is willing to do changes only when this is said. -/
theorem refuses_after {h : Happening}
    (hs : ∀ service failing, h ≠ .circumstance (.setFailing service failing)) :
    (d.after h).outside.refuses = d.outside.refuses := by
  rcases mutations_or_setFailing [] (by simp) d h (by simp) with hb | ⟨service, failing, he⟩
  · exact hb.refuses_eq
  · exact absurd he (hs service failing)

end Desk

end Switchboard
