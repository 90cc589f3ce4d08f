import Switchboard.Desk.Manager
import Switchboard.Proofs.Desk.Steps
import Switchboard.Proofs.Playback.Additions
import Switchboard.Proofs.Posture.Pairing

/-!
# Mutations of the audio side

What the audio side does when a call moves is made of small mutations (`audioMutations_callMoved`):
the players play, the machines move, the microphone is turned on, and the desk notes something for
itself. None of them changes a record, or says anything of one. So a view of the desk that ignores
all of this is the same afterwards (`AudioMutations.view_eq`).

* `Desk.PlaybackOnly`: only the players did something.
* `Desk.Sounded`: what the players may do at once.
* `Desk.IgnoresMachines`: a view that ignores the players and the machines.
* `Desk.IgnoresAudio`: a view that ignores every mutation of the audio side.
-/

namespace Switchboard

open Playback (Sound)

/-- The event is news of a tone, of ringing or of a failed playback. -/
def Event.isPlayback : Event → Bool
  | toneStarted _ | ringingChanged _ | playbackFailed .. => true
  | _ => false

/-- The event is news of a machine. -/
def Event.isOfMachine : Event → Bool
  | postureChanged .. | deviceChanged .. | audioModeChanged _ => true
  | _ => false

/-- The demand is one that a machine has made. -/
def Demand.isOfMachine : Demand → Bool
  | audioMode _ | route _ | link _ => true
  | _ => false

namespace Desk

/-- Nothing changed but the sound: the players only said what is theirs to say, and only asked for
the vibrator. -/
structure PlaybackOnly (d d' : Desk) : Prop where
  journal : d.journal.AddsOnly Event.isPlayback d'.journal
  outside : d.outside.VibratorOnly d'.outside
  ringerMode : d'.ringerMode = d.ringerMode
  failAfter : d'.renderer.failAfter = d.renderer.failAfter
  rest : d' = { d with toSound := d'.toSound }

/-- The desk once the posture machine has become `posture`: a move of it is said, and what it asks
for is done. -/
def turned (d : Desk) (calls : List Call) (posture : Posture.Machine) : Desk :=
  let next := { d with posture := posture.drain.2 }
  posture.pending.foldl (carryOut calls)
    (if posture.current = d.posture.current then next
    else next.emit (.postureChanged d.posture.current posture.current))

/-- What the players may do at once, but for what the posture machine has them do. -/
inductive Sounded (allowed : Deed → Prop) (d : Desk) : Desk → Prop
  /-- Every playback had its turn. -/
  | settled : Sounded allowed d (d.onSound (·.settle))
  | elapsed (ms : Nat) : Sounded allowed d (d.onSound (·.elapse ms))
  /-- A tone was played. Of the tones that go with a posture the posture machine is in charge. -/
  | toned (tone : Tone) (ht : tone = .ringback ∨ tone = .waiting → allowed .play)
    (hk : tone.isDtmf = true → allowed .key ∨ allowed .play) : Sounded allowed d (d.soundTone tone)
  | silenced : Sounded allowed d d.silenceTone.2
  | silencedIf (tone : Tone) : Sounded allowed d (d.silenceToneIf tone).2
  /-- It rang without a call to ring for. -/
  | rang {slot : SlotId} {d' : Desk} (hp : allowed .play) (h : d.startRinging slot = .ok d') :
    Sounded allowed d d'
  | stilled : Sounded allowed d d.stopRinging.2
  /-- Ringing was stopped, and this was not said. -/
  | hushed (hc : allowed .close ∨ allowed .play) : Sounded allowed d (d.onSound (·.stopRing.2))

variable {allowed : Deed → Prop} {d d' : Desk}

/-! ## The players -/

/-- What the players did one time after the other is still all that happened. -/
theorem PlaybackOnly.trans {d'' : Desk} (h : d.PlaybackOnly d') (h' : d'.PlaybackOnly d'') :
    d.PlaybackOnly d'' := by
  refine ⟨h.journal.trans h'.journal, h.outside.trans h'.outside,
    h'.ringerMode.trans h.ringerMode, h'.failAfter.trans h.failAfter, ?_⟩
  rw [h'.rest, h.rest]

/-- The players did something, and nothing else happened. -/
theorem playbackOnly_of_sound {sound : Sound} (h : d.toSound.PlaybackOnly sound) :
    d.PlaybackOnly { d with toSound := sound } := by
  refine ⟨h.stage.journal.mono fun e he => ?_, h.outside, h.ringerMode, h.stage.failAfter, rfl⟩
  cases e with
  | toneStarted | playbackFailed => rfl
  | _ => cases he

theorem playbackOnly_soundTone (d : Desk) (tone : Tone) : d.PlaybackOnly (d.soundTone tone) :=
  playbackOnly_of_sound (.playTone _ tone)

theorem playbackOnly_silenceTone (d : Desk) : d.PlaybackOnly d.silenceTone.2 :=
  playbackOnly_of_sound (.stopTone _)

theorem playbackOnly_silenceToneIf (d : Desk) (tone : Tone) :
    d.PlaybackOnly (d.silenceToneIf tone).2 :=
  playbackOnly_of_sound (.stopToneIf _ tone)

theorem playbackOnly_stopRing (d : Desk) : d.PlaybackOnly (d.onSound (·.stopRing.2)) :=
  playbackOnly_of_sound (.stopRing _)

theorem playbackOnly_emit (d : Desk) {e : Event} (he : e.isPlayback = true) :
    d.PlaybackOnly (d.emit e) :=
  ⟨.emit _ he, .refl _, rfl, rfl, rfl⟩

/-- Ringing that begins is said to begin, and that is news of the players as well. -/
theorem playbackOnly_startRinging {slot : SlotId} (h : d.startRinging slot = .ok d') :
    d.PlaybackOnly d' := by
  unfold startRinging at h
  split at h
  · rename_i sound hs
    cases h
    have hr : d.PlaybackOnly { d with toSound := sound } := playbackOnly_of_sound (.ring _ hs)
    exact hr.trans (playbackOnly_emit _ rfl)
  · cases h

/-- Ringing that stops is said to stop only if something did ring. -/
theorem playbackOnly_stopRinging (d : Desk) : d.PlaybackOnly d.stopRinging.2 := by
  unfold stopRinging
  dsimp only
  split
  · exact (playbackOnly_stopRing d).trans (playbackOnly_emit _ rfl)
  · exact playbackOnly_stopRing d

/-- Of what the posture machine asks for, only an audio scene is more than the players' doing. -/
theorem playbackOnly_carryOut (calls : List Call) (d : Desk) {e : Effect} (he : e.mode? = none) :
    d.PlaybackOnly (carryOut calls d e) := by
  cases e with
  | playRingback => exact playbackOnly_soundTone d .ringback
  | stopRingback => exact playbackOnly_silenceToneIf d .ringback
  | startRinging =>
    unfold carryOut
    dsimp only
    split
    · exact playbackOnly_startRinging ‹_›
    · exact playbackOnly_emit d rfl
  | stopRinging => exact playbackOnly_stopRinging d
  | playWaitingTone => exact playbackOnly_soundTone d .waiting
  | muteNetworkRing => exact playbackOnly_silenceToneIf d .ringback
  | modeChanged mode => cases he

/-- Whatever the players may do at once is nothing but their doing. -/
theorem Sounded.playbackOnly (h : d.Sounded allowed d') : d.PlaybackOnly d' := by
  cases h with
  | settled => exact playbackOnly_of_sound (.settle _)
  | elapsed ms => exact playbackOnly_of_sound (.elapse _ ms)
  | toned tone => exact playbackOnly_soundTone d tone
  | silenced => exact playbackOnly_silenceTone d
  | silencedIf tone => exact playbackOnly_silenceToneIf d tone
  | rang _ h => exact playbackOnly_startRinging h
  | stilled => exact playbackOnly_stopRinging d
  | hushed => exact playbackOnly_stopRing d

/-- The tone that tells why a call ended goes with no posture. -/
theorem sounded_ofEnd (d : Desk) (ended : EndReason) :
    d.Sounded allowed (d.soundTone (.ofEnd ended)) :=
  .toned _ (fun ht => by cases ended <;> simp [Tone.ofEnd] at ht) fun hk => by
    cases ended <;> cases hk

/-- The tone of a key goes with no posture, but needs a key to be pressed. -/
theorem sounded_ofDigit (hk : allowed .key) (d : Desk) (digit : Char) :
    d.Sounded allowed (d.soundTone (.ofDigit digit)) := by
  refine .toned _ (fun ht => ?_) fun _ => .inl hk
  unfold Tone.ofDigit at ht
  split at ht <;> simp at ht

/-- What the players may do under some deeds they may do under more of them. -/
theorem Sounded.mono {allowed' : Deed → Prop} (ha : ∀ deed, allowed deed → allowed' deed)
    (h : d.Sounded allowed d') : d.Sounded allowed' d' := by
  cases h with
  | settled => exact .settled
  | elapsed ms => exact .elapsed ms
  | toned tone ht hk => exact .toned tone (fun h => ha _ (ht h)) fun h => (hk h).imp (ha _) (ha _)
  | silenced => exact .silenced
  | silencedIf tone => exact .silencedIf tone
  | rang hp h => exact .rang (ha _ hp) h
  | stilled => exact .stilled
  | hushed hc => exact .hushed (hc.imp (ha _) (ha _))

/-! ## Views that the machines do not touch -/

/-- A view of the desk that notices neither the players nor the machines, neither what is said of
them nor what they ask for. -/
structure IgnoresMachines {β : Type} (view : Desk → β) : Prop where
  playbackOnly {d d' : Desk} (h : d.PlaybackOnly d') : view d' = view d
  machines (d : Desk) (posture : Posture.Machine) (route : Route.Machine) :
    view { d with posture, route } = view d
  told (d : Desk) {e : Event} (he : e.isOfMachine = true) : view (d.emit e) = view d
  asked (d : Desk) {demand : Demand} (hd : demand.isOfMachine = true) :
    view (d.ask demand).2 = view d

namespace IgnoresMachines

variable {β : Type} {view : Desk → β}

theorem carryOut (h : IgnoresMachines view) (calls : List Call) (d : Desk) (e : Effect) :
    view (carryOut calls d e) = view d := by
  cases he : e.mode? with
  | none => exact h.playbackOnly (playbackOnly_carryOut calls d he)
  | some mode =>
    cases e with
    | modeChanged mode => exact (h.told _ rfl).trans (h.asked d rfl)
    | _ => cases he

/-- A move of the posture machine goes unnoticed, with everything that it asks for. -/
theorem turned (h : IgnoresMachines view) (d : Desk) (calls : List Call)
    (posture : Posture.Machine) : view (d.turned calls posture) = view d := by
  have hfold (d : Desk) (effects : List Effect) :
      view (effects.foldl (Desk.carryOut calls) d) = view d := by
    induction effects generalizing d with
    | nil => rfl
    | cons e rest ih => rw [List.foldl_cons, ih, h.carryOut]
  have hm : view { d with posture := posture.drain.2 } = view d := h.machines d _ d.route
  unfold Desk.turned
  dsimp only
  rw [hfold]
  split
  · exact hm
  · exact (h.told _ rfl).trans hm

theorem moveRoute (h : IgnoresMachines view) (d : Desk) (next : Route.Machine) :
    view (d.moveRoute next) = view d := by
  have hm : view { d with route := next } = view d := h.machines d d.posture next
  have hc : view (if next.current = d.route.current then { d with route := next }
      else (({ d with route := next }.ask (.route next.current.device)).2).emit
        (.deviceChanged d.route.current.device next.current.device)) = view d := by
    split
    · exact hm
    · exact ((h.told _ rfl).trans (h.asked _ rfl)).trans hm
  unfold Desk.moveRoute
  dsimp only
  split
  · exact hc
  · exact (h.asked _ rfl).trans hc

end IgnoresMachines

/-! ## Mutations of the audio side -/

/-- One thing changes on the audio side: no record is changed, and nothing is said of one. -/
inductive AudioMutation (d : Desk) : Desk → Prop
  /-- The players did something, or time went by. -/
  | sounded {d' : Desk} (h : d.Sounded (fun _ => False) d') : AudioMutation d d'
  /-- The posture machine moved. -/
  | turned (calls : List Call) {posture : Posture.Machine} (h : d.posture.Moves posture) :
    AudioMutation d (d.turned calls posture)
  /-- The route machine moved. -/
  | routed (next : Route.Machine) : AudioMutation d (d.moveRoute next)
  /-- The microphone was to be heard. -/
  | unmuted : AudioMutation d (d.applyMute false)
  /-- The desk noted something for itself. -/
  | noted (focus : Focus) (bluetooth headset videoShown started dialing : Bool)
    (queue : Option (List Signal)) :
    AudioMutation d { d with focus, bluetooth, headset, videoShown, started, dialing, queue }

/-- Mutations of the audio side one after the other. -/
abbrev AudioMutations : Desk → Desk → Prop := Relation.ReflTransGen AudioMutation

theorem AudioMutation.audioMutations (h : AudioMutation d d') : AudioMutations d d' := .single h

theorem Sounded.audioMutations (h : d.Sounded (fun _ => False) d') : AudioMutations d d' :=
  (AudioMutation.sounded h).audioMutations

/-- A view that ignores every mutation of the audio side. -/
structure IgnoresAudio {β : Type} (view : Desk → β) : Prop extends IgnoresMachines view where
  unmuted (d : Desk) : view (d.applyMute false) = view d
  noted (d : Desk) (focus : Focus) (bluetooth headset videoShown started dialing : Bool)
    (queue : Option (List Signal)) :
    view { d with focus, bluetooth, headset, videoShown, started, dialing, queue } = view d

/-- A view that ignores the audio side is the same after one audio mutation. -/
theorem AudioMutation.view_eq {β : Type} {view : Desk → β} (hv : IgnoresAudio view)
    (h : AudioMutation d d') : view d' = view d := by
  cases h with
  | sounded h => exact hv.playbackOnly h.playbackOnly
  | turned calls => exact hv.turned d calls _
  | routed next => exact hv.moveRoute d next
  | unmuted => exact hv.unmuted d
  | noted => exact hv.noted d _ _ _ _ _ _ _

/-- What the audio side does not touch is the same after any number of its mutations. -/
theorem AudioMutations.view_eq {β : Type} {view : Desk → β} (hv : IgnoresAudio view)
    (h : AudioMutations d d') : view d' = view d := by
  induction h with
  | refl => rfl
  | tail _ h ih => exact (h.view_eq hv).trans ih

theorem audioMutations_kept (d : Desk) : AudioMutations d d.kept := by
  unfold kept
  split
  · exact .refl
  · exact (Sounded.elapsed _).audioMutations

theorem audioMutations_silenceDtmf (d : Desk) : AudioMutations d d.silenceDtmf.2 := by
  unfold silenceDtmf
  split
  · split
    · exact (Sounded.silencedIf _).audioMutations
    · exact .refl
  · exact .refl

/-! ## The machines -/

/-- The focus follows the posture. The route hears of a new focus, and once it is released the
microphone is on. -/
theorem audioMutations_updateFocus (d : Desk) (calls : List Call) :
    AudioMutations d (d.updateFocus calls) := by
  unfold updateFocus
  dsimp only
  split
  · exact .refl
  · have hf : AudioMutations d ({ d with focus := focusOf d.posture.current }.feedRoute
        (focusSignal (focusOf d.posture.current)) calls).2 :=
      (AudioMutation.noted _ _ _ _ _ _ _).audioMutations.tail (.routed _)
    split
    · exact hf.tail .unmuted
    · exact hf

theorem audioMutations_leaveEarpiece (d : Desk) (calls : List Call) :
    AudioMutations d (d.leaveEarpiece calls).2 := by
  unfold leaveEarpiece
  split
  · split
    · exact (AudioMutation.routed _).audioMutations
    · exact .refl
  · exact .refl

/-- When video comes on show, the call leaves the earpiece. -/
theorem audioMutations_updateVideoRoute (d : Desk) (calls : List Call) :
    AudioMutations d (d.updateVideoRoute calls) := by
  have hn : AudioMutations d { d with videoShown := videoInUse calls } :=
    (AudioMutation.noted _ _ _ _ _ _ _).audioMutations
  unfold updateVideoRoute
  dsimp only
  split
  · exact hn.trans (audioMutations_leaveEarpiece _ calls)
  · exact hn

theorem audioMutations_routeVideo (d : Desk) : AudioMutations d d.routeVideo.2 := by
  have hn : AudioMutations d { d with videoShown := videoInUse d.registry.calls } :=
    (AudioMutation.noted _ _ _ _ _ _ _).audioMutations
  unfold routeVideo
  dsimp only
  split
  · exact hn.trans (audioMutations_leaveEarpiece _ _)
  · exact hn

/-- After a transition of the posture machine the waiting tone stops if nothing rings, and then the
focus and the route follow. -/
theorem afterTransition_eq (d : Desk) (posture : Posture.Machine) (calls : List Call) (t : Tally) :
    { d with posture }.afterTransition d.posture.current calls t =
      ((if t.ringing = 0 then ((d.turned calls posture).silenceToneIf .waiting).2
        else d.turned calls posture).updateFocus calls).updateVideoRoute calls := by
  unfold afterTransition turned
  by_cases h : posture.current = d.posture.current
  · simp only [h, if_true]
    rfl
  · simp only [h, if_false]
    rfl

/-- However the posture machine has moved. -/
theorem audioMutations_afterTransition (d : Desk) {posture : Posture.Machine}
    (h : d.posture.Moves posture) (calls : List Call) (t : Tally) :
    AudioMutations d ({ d with posture }.afterTransition d.posture.current calls t) := by
  have ht : AudioMutations d (d.turned calls posture) :=
    (AudioMutation.turned calls h).audioMutations
  rw [afterTransition_eq]
  refine Relation.ReflTransGen.trans ?_ (audioMutations_updateVideoRoute _ calls)
  refine Relation.ReflTransGen.trans ?_ (audioMutations_updateFocus _ calls)
  split
  · exact ht.tail (.sounded (.silencedIf .waiting))
  · exact ht

/-- A signal moves the posture machine if it is about calls, and else the route machine. -/
theorem audioMutations_dispatch (d : Desk) (s : Signal) : AudioMutations d (d.dispatch s).2 := by
  unfold dispatch
  split
  · unfold dispatchCall
    dsimp only
    split
    · exact audioMutations_afterTransition d (d.posture.moves_process s _) _ _
    · exact .refl
  · split
    · have hn : AudioMutations d (d.noteAccessory s) := by
        cases s <;> exact (AudioMutation.noted _ _ _ _ _ _ _).audioMutations
      exact hn.tail (.routed _)
    · exact .refl

theorem audioMutations_dispatchAll (d : Desk) (signals : List Signal) :
    AudioMutations d (d.dispatchAll signals) := by
  unfold dispatchAll
  induction signals generalizing d with
  | nil => exact .refl
  | cons s rest ih => exact (audioMutations_dispatch d s).trans (ih _)

/-- Signals that wait are dispatched one after the other, in the order in which they came. -/
theorem audioMutations_drain (d : Desk) : AudioMutations d d.drain := by
  unfold drain
  split
  · exact (AudioMutation.noted _ _ _ _ _ _ _).audioMutations.trans (audioMutations_dispatchAll _ _)
  · exact .refl

theorem audioMutations_reconcile (d : Desk) : AudioMutations d d.reconcile := by
  unfold reconcile
  dsimp only
  split
  · exact audioMutations_afterTransition d (.went _ _) _ _
  · exact audioMutations_afterTransition d .stayed _ _

/-- A move of a call is told signal by signal, and then the posture is corrected. -/
theorem audioMutations_callMoved (d : Desk) (b : Bearer) (prior next : Option CallState) :
    AudioMutations d (d.callMoved b prior next) :=
  (audioMutations_dispatchAll d _).trans (audioMutations_reconcile _)

theorem audioMutations_callCreated (d : Desk) (c : Call) : AudioMutations d (d.callCreated c) := by
  have h : AudioMutations d (d.callMoved c.bearer none (some c.state)) :=
    audioMutations_callMoved d _ _ _
  unfold callCreated
  dsimp only
  split
  · exact h.tail .unmuted
  · exact h

theorem audioMutations_ringingCallGone (d : Desk) (c : Call) :
    AudioMutations d (d.ringingCallGone c) := by
  have h : AudioMutations d (d.callMoved c.bearer (some .incoming) none) :=
    audioMutations_callMoved d _ _ _
  unfold ringingCallGone
  dsimp only
  split
  · exact h
  · exact h.tail (.sounded .stilled)

/-- The audio side is told of a move, and a call that ends has a tone. -/
theorem audioMutations_updated (d : Desk) (c : Call) (prior next : CallState) :
    AudioMutations d (d.updated c prior next) := by
  unfold updated
  dsimp only
  split
  · exact (audioMutations_callMoved _ _ _ _).tail (.sounded (sounded_ofEnd _ _))
  · exact audioMutations_callMoved _ _ _ _

theorem audioMutations_rebeared (d : Desk) (c : Call) (old : Bearer) :
    AudioMutations d (d.rebeared c old) := by
  unfold rebeared
  split
  · refine Relation.ReflTransGen.trans ?_ (audioMutations_reconcile _)
    split
    · exact audioMutations_dispatch d _
    · exact .refl
  · exact audioMutations_reconcile d

/-- The desk goes out of service: what waits is done, the queue is closed, and no tone sounds. -/
theorem audioMutations_silenced (d : Desk) :
    AudioMutations d
      { ({ d with started := false } : Desk).drain with queue := none }.silenceTone.2 := by
  have hs : AudioMutations d { d with started := false } :=
    (AudioMutation.noted _ _ _ _ _ _ _).audioMutations
  have hq : AudioMutations d { ({ d with started := false } : Desk).drain with queue := none } :=
    (hs.trans (audioMutations_drain _)).tail (.noted _ _ _ _ _ _ _)
  exact hq.tail (.sounded .silenced)

/-- When the desk comes to rest, nothing waits and every playback has had its turn. -/
theorem audioMutations_rest (d : Desk) : AudioMutations d d.rest :=
  (audioMutations_drain d).tail (.sounded .settled)

end Desk

end Switchboard
