import Mathlib.Logic.Relation
import Switchboard.Desk.Operation
import Switchboard.Proofs.Desk.Edits

/-!
# Steps of the audio side

The audio side can be driven alone: told of moves that no call made, fed with any signal, or asked
for tones and rings. `AudioStep` is what such an operation is made of, and `audioSteps_perform`
says that nothing else happens, whichever way the operation ends.
-/

namespace Switchboard.Desk

open DeskM

/-- A part of an operation on the audio side alone. -/
inductive AudioStep (d : Desk) : Desk → Prop
  /-- The audio side was told that a call has moved. -/
  | told (b : Bearer) (prior next : Option CallState) : AudioStep d (d.callMoved b prior next)
  /-- A signal was dispatched. -/
  | dispatched (s : Signal) : AudioStep d (d.dispatch s).2
  /-- The posture was corrected. -/
  | reconciled : AudioStep d d.reconcile
  /-- A call changed its video state. -/
  | shown {c : Call} (h : c ∈ d.registry.calls) (old new : VideoState) :
    AudioStep d (d.shown c.id old new)
  /-- Video calls were taken off the earpiece. -/
  | screened : AudioStep d d.routeVideo.2
  /-- The microphone was to be heard. -/
  | unmuted : AudioStep d (d.applyMute false)
  /-- A tone was played. -/
  | toned (tone : Tone) : AudioStep d (d.soundTone tone)
  /-- The tone was stopped. -/
  | silenced : AudioStep d d.silenceTone.2
  /-- One tone was stopped, if it was playing. -/
  | silencedIf (tone : Tone) : AudioStep d (d.silenceToneIf tone).2
  /-- Ringing began. -/
  | rang {slot : SlotId} {d' : Desk} (h : d.startRinging slot = .ok d') : AudioStep d d'
  /-- Ringing was stopped, and this was said. -/
  | stilled : AudioStep d d.stopRinging.2
  /-- Ringing was stopped in silence. -/
  | hushed : AudioStep d (d.onSound (·.stopRing.2))
  /-- The queue of signals was opened. -/
  | opened (h : d.queue = none) : AudioStep d { d with queue := some [] }
  /-- A signal was put into the queue. -/
  | submitted (s : Signal) {waiting : List Signal} (h : d.queue = some waiting)
    (hlt : waiting.length < d.config.queueCapacity.toNat) :
    AudioStep d { d with queue := some (waiting ++ [s]) }
  /-- What waited in the queue was dispatched, and the queue was closed. -/
  | drained (h : d.queue.isNone = false) : AudioStep d { d.drain with queue := none }

/-- Steps of the audio side one after the other. -/
abbrev AudioSteps : Desk → Desk → Prop := Relation.ReflTransGen AudioStep

variable {d : Desk}

/-- Whether the queue is opened or was open already, at most one step is taken. -/
theorem audioSteps_openQueue (d : Desk) : openQueue.Within d (AudioSteps d) := by
  refine within_bind.mpr ?_
  rw [ends_get]
  split
  · exact within_throw_bind .refl
  · rename_i hq
    exact within_modify (.single (.opened (by simpa using hq)))

/-- A queue that is closed is emptied first, and then neither a tone nor a ringtone is left playing.
-/
theorem audioSteps_closeQueue (d : Desk) : closeQueue.Within d (AudioSteps d) := by
  refine within_bind.mpr ?_
  rw [ends_get]
  split
  · exact within_throw_bind .refl
  · rename_i hq
    have hd := AudioStep.drained (eq_false_of_ne_true hq)
    -- Nothing is said when the ringtone stops here, so this step is not `stilled`.
    exact ((Relation.ReflTransGen.single hd).tail .silenced).tail .hushed

/-- A signal finds its place at the end of the queue, or is refused and nothing happens. -/
theorem audioSteps_submit (s : Signal) (d : Desk) : (submit s).Within d (AudioSteps d) := by
  refine within_bind.mpr ?_
  rw [ends_get]
  split
  · exact within_throw .refl
  · rename_i waiting hq
    refine within_bind.mpr ?_
    rw [ends_get]
    split
    · exact within_modify (.single (.submitted s hq ‹_›))
    · exact within_throw .refl

/-- Signals are submitted one by one, each to the queue that the one before it has left. -/
theorem audioSteps_submitAll (signals : List Signal) (d : Desk) :
    AudioSteps d (AudioOperation.submitAll signals d).2 := by
  induction signals generalizing d with
  | nil => exact .refl
  | cons s rest ih => exact (audioSteps_submit s d).perform.trans (ih _)

theorem audioSteps_playRingtone (d : Desk) : playRingtone.Within d (AudioSteps d) := by
  simp only [playRingtone, Within, ends_bind, ends_get, ends_ofExcept, ends_set]
  cases hr : d.startRinging (ringingSlot d.registry.calls) with
  | ok d' => exact .single (.rang hr)
  | error e => exact .refl

/-- Apart from the move of a new call, at most the microphone is turned on for it. -/
theorem audioSteps_callCreated (d : Desk) (c : Call) : AudioSteps d (d.callCreated c) := by
  have ht : AudioSteps d (d.callMoved c.bearer none (some c.state)) := .single (.told _ _ _)
  unfold callCreated
  dsimp only
  split
  · exact ht.tail .unmuted
  · exact ht

/-- Apart from the move of a call that rang, at most ringing ends with it. -/
theorem audioSteps_ringingCallGone (d : Desk) (c : Call) :
    AudioSteps d (d.ringingCallGone c) := by
  have ht : AudioSteps d (d.callMoved c.bearer (some .incoming) none) := .single (.told _ _ _)
  unfold ringingCallGone
  dsimp only
  split
  · exact ht
  · exact ht.tail .stilled

theorem audioSteps_silenceDtmf (d : Desk) : AudioSteps d d.silenceDtmf.2 := by
  unfold silenceDtmf
  split
  · split
    · exact .single (.silencedIf _)
    · exact .refl
  · exact .refl

/-- The audio side is told of a registered call, or finds none and does nothing. -/
theorem audioSteps_of_call (id : CallId) {x : DeskM Unit}
    (hx : ∀ c ∈ d.registry.calls, c.id = id → x.Within d (AudioSteps d))
    (hE : d.registry.require id = .error (.callNotFound id) → x.Within d (AudioSteps d)) :
    x.Within d (AudioSteps d) := by
  rcases d.registry.exists_or_absent id with ⟨c, hc, hid⟩ | ha
  · exact hx c hc hid
  · exact hE (Registry.require_of_absent ha)

/-- A call that ends sounds its tone once the audio side has heard of the move. -/
theorem audioSteps_callUpdated (id : CallId) (prior next : CallState) (d : Desk) :
    (callUpdated id prior next).Within d (AudioSteps d) := by
  refine audioSteps_of_call id (fun c hc hid => ?_) fun ha => ?_
  · subst hid
    have ht : AudioSteps d (d.callMoved c.bearer (some prior) (some next)) :=
      .single (.told _ _ _)
    refine (ends_callUpdated hc).mpr ?_
    -- Only the end of a call has a tone, and it comes after the move: the posture has settled by
    -- then.
    unfold updated
    dsimp only
    split
    · exact ht.tail (.toned _)
    · exact ht
  · simp [callUpdated, Within, ha, Relation.ReflTransGen.refl]

theorem audioSteps_callAnswered (id : CallId) (d : Desk) :
    (callAnswered id).Within d (AudioSteps d) := by
  refine audioSteps_of_call id (fun c hc hid => ?_) fun ha => ?_
  · subst hid
    exact (ends_callAnswered hc).mpr (.single (.told _ _ _))
  · simp [callAnswered, Within, ha, Relation.ReflTransGen.refl]

/-- A change of bearer is told as a signal only if there is one for it and the call leads the active
ones; the posture is corrected in every case. -/
theorem audioSteps_bearerChanged (id : CallId) (old new : Bearer) (d : Desk) :
    (bearerChanged id old new).Within d (AudioSteps d) := by
  refine audioSteps_of_call id (fun c hc hid => ?_) fun ha => ?_
  · subst hid
    simp only [bearerChanged, Within, ends_bind, ends_get, ends_ofExcept,
      Registry.require_of_mem hc]
    cases bearerSignal? old new with
    | none => exact .single .reconciled
    | some signal =>
      simp only [ends_bind, ends_ite, ends_modify]
      exact ⟨fun _ => (Relation.ReflTransGen.single (.dispatched signal)).tail .reconciled,
        fun _ => .single .reconciled⟩
  · simp [bearerChanged, Within, ha, Relation.ReflTransGen.refl]

theorem audioSteps_videoChanged (id : CallId) (old new : VideoState) (d : Desk) :
    (videoChanged id old new).Within d (AudioSteps d) := by
  refine audioSteps_of_call id (fun c hc hid => ?_) fun ha => ?_
  · subst hid
    exact (ends_videoChanged hc).mpr (.single (.shown hc old new))
  · simp [videoChanged, Within, Registry.update, ha, Relation.ReflTransGen.refl]

/-- Every operation on the audio side alone is made of its steps. -/
theorem audioSteps_perform (o : AudioOperation) (d : Desk) :
    AudioSteps d (o.perform d).2 := by
  cases o with
  | openQueue => exact (audioSteps_openQueue d).perform
  | closeQueue => exact (audioSteps_closeQueue d).perform
  | dispatch s => exact .single (.dispatched s)
  | submit signals => exact audioSteps_submitAll signals d
  | callCreated c => exact audioSteps_callCreated d c
  | callDestroyed c => exact .single (.told c.bearer (some c.state) none)
  | ringingCallGone c => exact audioSteps_ringingCallGone d c
  | callUpdated id prior next => exact (audioSteps_callUpdated id prior next d).perform
  | callAnswered id => exact (audioSteps_callAnswered id d).perform
  | bearerChanged id old new => exact (audioSteps_bearerChanged id old new d).perform
  | videoChanged id old new => exact (audioSteps_videoChanged id old new d).perform
  | routeVideo => exact .single .screened
  | playRingtone => exact (audioSteps_playRingtone d).perform
  | stopRinging => exact .single .stilled
  | playTone tone => exact .single (.toned tone)
  | soundKey digit => exact .single (.toned _)
  | stopTone => exact .single .silenced
  | stopDtmf => exact audioSteps_silenceDtmf d
  | muteNetworkRing => exact .single (.silencedIf .ringback)

end Switchboard.Desk
