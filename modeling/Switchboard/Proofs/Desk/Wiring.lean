import Switchboard.Proofs.Desk.AudioSteps
import Switchboard.Proofs.Desk.History
import Switchboard.Proofs.Route.Fitting

/-!
# The wiring of the desk

`Desk.wiring` is the part of the desk that the route hangs on: the posture, the focus, the
accessories and the route machine itself. Most of what goes on at the desk leaves it alone; the rest
is made of the steps of `Wiring.Step`:

* the posture settles anew, and the focus and the route follow it;
* a call on the earpiece moves to the loudspeaker;
* a signal of an accessory or of the focus is reported;
* the user chooses a device.

`Transition.rewires` says so of everything that happens, and `AudioStep.rewires` of the audio side
alone.
-/

namespace Switchboard

open Playback (Sound)

/-- What the route hangs on. -/
structure Wiring where
  /-- Where the posture machine stands. -/
  posture : Posture
  focus : Focus
  bluetooth : Bool
  headset : Bool
  route : Route.Machine

namespace Wiring

/-- What a route is chosen by while the calls ask for video and for the loudspeaker, or do not. -/
def context (w : Wiring) (video speakerphone : Bool) : Route.Context :=
  ⟨w.bluetooth, w.headset, w.focus, video, speakerphone⟩

/-- The wiring once it is noted what a signal says of the accessories. -/
def note (w : Wiring) : Signal → Wiring
  | .headsetConnected => { w with headset := true }
  | .headsetDisconnected => { w with headset := false }
  | .bluetoothConnected => { w with bluetooth := true }
  | .bluetoothDisconnected => { w with bluetooth := false }
  | _ => w

/-- The wiring after a signal was fed to the route machine. -/
def feed (w : Wiring) (s : Signal) (video speakerphone : Bool) : Wiring :=
  let (taken, next) := w.route.process s (w.context video speakerphone)
  { w with route := if !taken && s == .audioDeactivated then .rest else next }

/-- The wiring once the focus goes with the posture. -/
def refocus (w : Wiring) (video speakerphone : Bool) : Wiring :=
  let next := Desk.focusOf w.posture
  if next = w.focus then w
  else { w with focus := next }.feed (Desk.focusSignal next) video speakerphone

/-- What may happen to the wiring. -/
inductive Step (rule : Rule) (w : Wiring) : Wiring → Prop
  /-- The posture settles anew. -/
  | settled (posture : Posture) (video speakerphone : Bool) :
    Step rule w ({ w with posture }.refocus video speakerphone)
  /-- A call on the earpiece moves to the loudspeaker. -/
  | relieved {video speakerphone : Bool} {next : Route.Machine} (hr : w.route.current = .earpiece)
    (h : Route.Machine.choose .speaker (w.context video speakerphone) = .ok next) :
    Step rule w { w with route := next }
  /-- A signal is reported. -/
  | reported {s : Signal} (video speakerphone : Bool) (h : rule.reported s) :
    Step rule w ((w.note s).feed s video speakerphone)
  /-- The user chooses a device. -/
  | chosen {device : Device} {video speakerphone : Bool} {next : Route.Machine}
    (hd : rule.chosen device)
    (h : Route.Machine.choose device (w.context video speakerphone) = .ok next) :
    Step rule w { w with route := next }

/-- To note a signal in the wiring is to note it in what the route is chosen by. -/
theorem context_note (w : Wiring) (s : Signal) (video speakerphone : Bool) :
    (w.note s).context video speakerphone = (w.context video speakerphone).note s := by
  cases s <;> rfl

end Wiring

namespace Desk

/-- The part of the desk that the route hangs on. -/
def wiring (d : Desk) : Wiring := ⟨d.posture.current, d.focus, d.bluetooth, d.headset, d.route⟩

/-! ## What the wiring does not notice -/

@[simp] theorem wiring_onSound (d : Desk) (f : Sound → Sound) : (d.onSound f).wiring = d.wiring :=
  rfl

@[simp] theorem wiring_emit (d : Desk) (e : Event) : (d.emit e).wiring = d.wiring := rfl

@[simp] theorem wiring_ask (d : Desk) (demand : Demand) : (d.ask demand).2.wiring = d.wiring := rfl

@[simp] theorem wiring_soundTone (d : Desk) (tone : Tone) : (d.soundTone tone).wiring = d.wiring :=
  rfl

@[simp] theorem wiring_silenceTone (d : Desk) : d.silenceTone.2.wiring = d.wiring := rfl

@[simp] theorem wiring_silenceToneIf (d : Desk) (tone : Tone) :
    (d.silenceToneIf tone).2.wiring = d.wiring := rfl

@[simp] theorem wiring_silenceDtmf (d : Desk) : d.silenceDtmf.2.wiring = d.wiring := by
  unfold silenceDtmf
  split
  · split
    · exact wiring_silenceToneIf d _
    · rfl
  · rfl

theorem wiring_startRinging {d d' : Desk} {slot : SlotId} (h : d.startRinging slot = .ok d') :
    d'.wiring = d.wiring := by
  unfold startRinging at h
  split at h
  · cases h
    rfl
  · cases h

@[simp] theorem wiring_stopRinging (d : Desk) : d.stopRinging.2.wiring = d.wiring := by
  unfold stopRinging
  dsimp only
  split <;> rfl

@[simp] theorem wiring_applyMute (d : Desk) (muted : Bool) :
    (d.applyMute muted).wiring = d.wiring := view_applyMute wiring rfl fun _ => rfl

/-- What the posture machine asks for is a matter of sound and of the audio scene. -/
@[simp] theorem wiring_carryOut (calls : List Call) (d : Desk) (e : Effect) :
    (carryOut calls d e).wiring = d.wiring := by
  cases e with
  | playRingback => exact wiring_soundTone d _
  | stopRingback => exact wiring_silenceToneIf d _
  | startRinging =>
    unfold carryOut
    dsimp only
    split
    · exact wiring_startRinging ‹_›
    · rfl
  | stopRinging => exact wiring_stopRinging d
  | playWaitingTone => exact wiring_soundTone d _
  | muteNetworkRing => exact wiring_silenceToneIf d _
  | modeChanged mode => rfl

@[simp] theorem wiring_foldl_carryOut (calls : List Call) (d : Desk) (effects : List Effect) :
    (effects.foldl (carryOut calls) d).wiring = d.wiring := by
  induction effects generalizing d with
  | nil => rfl
  | cons e rest ih => rw [List.foldl_cons, ih, wiring_carryOut]

/-! ## What the route machine does -/

@[simp] theorem wiring_moveRoute (d : Desk) (next : Route.Machine) :
    (d.moveRoute next).wiring = { d.wiring with route := next } := by
  unfold moveRoute
  dsimp only
  split <;> split <;> rfl

/-- The route machine is fed with the calls' demands for video and for the loudspeaker. -/
theorem wiring_feedRoute (d : Desk) (s : Signal) (calls : List Call) :
    (d.feedRoute s calls).2.wiring =
      d.wiring.feed s (videoInUse calls) (speakerphoneInUse calls) := by
  unfold feedRoute
  dsimp only
  rw [wiring_moveRoute]
  rfl

/-- The focus follows the posture: the route machine hears of it only if the focus is a new one. -/
theorem wiring_updateFocus (d : Desk) (calls : List Call) :
    (d.updateFocus calls).wiring =
      d.wiring.refocus (videoInUse calls) (speakerphoneInUse calls) := by
  unfold updateFocus Wiring.refocus
  by_cases hf : focusOf d.posture.current = d.focus
  -- Both sides branch on the same test, one on the desk and the other on its wiring.
  · have hw : focusOf d.wiring.posture = d.wiring.focus := hf
    rw [if_pos hw]
    simp only [hf, if_true]
  · have hw : ¬focusOf d.wiring.posture = d.wiring.focus := hf
    rw [if_neg hw]
    simp only [hf, if_false]
    split
    · rw [wiring_applyMute, wiring_feedRoute]
      rfl
    · rw [wiring_feedRoute]
      rfl

/-- What a signal says of the accessories is noted before the route machine is fed. -/
theorem wiring_dispatchDevice (d : Desk) (s : Signal) :
    (d.dispatchDevice s).2.wiring = (d.wiring.note s).feed s (videoInUse d.registry.calls)
      (speakerphoneInUse d.registry.calls) := by
  have hn : (d.noteAccessory s).wiring = d.wiring.note s := by cases s <;> rfl
  rw [dispatchDevice, wiring_feedRoute, hn]

/-! ## Steps of the desk -/

variable {rule : Rule} {d d' d'' : Desk} {n : Nat}

/-- What lies between two desks is made of steps of the wiring. -/
def Rewires (rule : Rule) (d d' : Desk) : Prop :=
  Relation.ReflTransGen (Wiring.Step rule) d.wiring d'.wiring

theorem Rewires.refl (d : Desk) : Rewires rule d d := Relation.ReflTransGen.refl

theorem Rewires.trans (h : Rewires rule d d') (h' : Rewires rule d' d'') : Rewires rule d d'' :=
  Relation.ReflTransGen.trans h h'

theorem Rewires.of_eq (h : d'.wiring = d.wiring) : Rewires rule d d' := by
  rw [Rewires, h]

/-- What does not touch the wiring may follow. -/
theorem Rewires.congr (h : Rewires rule d d') (he : d''.wiring = d'.wiring) : Rewires rule d d'' :=
  h.trans (.of_eq he)

/-- What does not touch the wiring may come first. -/
theorem Rewires.since (h : Rewires rule d' d'') (he : d'.wiring = d.wiring) : Rewires rule d d'' :=
  Rewires.trans (.of_eq he) h

/-- What every step of the wiring keeps is kept. -/
theorem Rewires.kept {P : Wiring → Prop} (h : Rewires rule d d')
    (hP : ∀ w w', Wiring.Step rule w w' → P w → P w') (hd : P d.wiring) : P d'.wiring := by
  unfold Rewires at h
  -- The induction is on the steps between the wirings; the desk at the end is any that has the last
  -- one.
  generalize d'.wiring = w' at h
  induction h with
  | refl => exact hd
  | tail _ h ih => exact hP _ _ h ih

/-- The earpiece is left only for the loudspeaker, and only where the route machine lets it be
chosen. -/
theorem rewires_leaveEarpiece (d : Desk) (calls : List Call) :
    Rewires rule d (d.leaveEarpiece calls).2 := by
  unfold leaveEarpiece
  split
  · rename_i hr
    split
    · rename_i next hnext
      refine .single ?_
      rw [wiring_moveRoute]
      exact Wiring.Step.relieved hr hnext
    · exact .refl d
  · exact .refl d

theorem rewires_updateVideoRoute (d : Desk) (calls : List Call) :
    Rewires rule d (d.updateVideoRoute calls) := by
  unfold updateVideoRoute
  dsimp only
  split
  · exact rewires_leaveEarpiece { d with videoShown := videoInUse calls } calls
  · exact .refl d

theorem rewires_routeVideo (d : Desk) : Rewires rule d d.routeVideo.2 := by
  unfold routeVideo
  dsimp only
  split
  · exact rewires_leaveEarpiece { d with videoShown := videoInUse d.registry.calls } _
  · exact .refl d

/-- Once the focus and the route have followed a move of the posture, the wiring has settled. -/
theorem rewires_settled (hd : d'.wiring = { d.wiring with posture := d'.posture.current })
    (calls : List Call) : Rewires rule d ((d'.updateFocus calls).updateVideoRoute calls) := by
  have hsettled : Wiring.Step rule d.wiring ({ d.wiring with posture := d'.posture.current }.refocus
      (videoInUse calls) (speakerphoneInUse calls)) := .settled _ _ _
  rw [← hd, ← wiring_updateFocus] at hsettled
  exact Rewires.trans (.single hsettled) (rewires_updateVideoRoute _ calls)

/-- However the posture machine has moved. -/
theorem rewires_afterTransition (d : Desk) (posture : Posture.Machine) (previous : Posture)
    (calls : List Call) (t : Tally) :
    Rewires rule d ({ d with posture }.afterTransition previous calls t) := by
  -- The effects that are carried out and the tone that is stopped leave the wiring alone, so when
  -- the focus is updated only the posture differs from `d`.
  have hcongr {d₁ : Desk} (h : d₁.wiring = ({ d with posture } : Desk).wiring) :
      d₁.wiring = { d.wiring with posture := d₁.posture.current } := by
    have hp : d₁.posture.current = posture.current := congrArg Wiring.posture h
    rw [h, hp]
    rfl
  unfold afterTransition
  dsimp only
  refine rewires_settled (hcongr ?_) calls
  split
  · rw [wiring_silenceToneIf, wiring_foldl_carryOut]
    split <;> rfl
  · rw [wiring_foldl_carryOut]
    split <;> rfl

theorem rewires_dispatchCall (d : Desk) (s : Signal) : Rewires rule d (d.dispatchCall s).2 := by
  unfold dispatchCall
  dsimp only
  split
  · exact rewires_afterTransition d _ _ _ _
  · exact .refl d

/-- A signal that is not about calls must be one that may be reported. -/
theorem rewires_dispatch (d : Desk) {s : Signal} (h : s.isCall = false → rule.reported s) :
    Rewires rule d (d.dispatch s).2 := by
  unfold dispatch
  split
  · exact rewires_dispatchCall d s
  · rename_i hs
    split
    · refine .single ?_
      rw [wiring_dispatchDevice]
      exact Wiring.Step.reported _ _ (h (by simpa using hs))
    · exact .refl d

/-- Signals one after the other, if those that are not about calls may be reported. -/
theorem rewires_dispatchAll (d : Desk) {signals : List Signal}
    (h : ∀ s ∈ signals, s.isCall = false → rule.reported s) :
    Rewires rule d (d.dispatchAll signals) := by
  unfold dispatchAll
  induction signals generalizing d with
  | nil => exact .refl d
  | cons s rest ih =>
    exact (rewires_dispatch d (h s (by simp))).trans (ih _ fun x hx => h x (by simp [hx]))

theorem rewires_reconcile (d : Desk) : Rewires rule d d.reconcile := by
  unfold reconcile
  dsimp only
  split
  · exact rewires_afterTransition d _ _ _ _
  · exact rewires_afterTransition d d.posture _ _ _

/-- The signals of a moved call are all about calls, so any rule lets them be dispatched. -/
theorem rewires_callMoved (d : Desk) (b : Bearer) (prior next : Option CallState) :
    Rewires rule d (d.callMoved b prior next) := by
  refine (rewires_dispatchAll d fun s hs hc => ?_).trans (rewires_reconcile _)
  rw [isCall_of_mem_edges hs] at hc
  cases hc

theorem rewires_callCreated (d : Desk) (c : Call) : Rewires rule d (d.callCreated c) := by
  unfold callCreated
  dsimp only
  split
  · exact (rewires_callMoved d c.bearer none (some c.state)).congr (wiring_applyMute _ _)
  · exact rewires_callMoved d c.bearer none (some c.state)

theorem rewires_ringingCallGone (d : Desk) (c : Call) : Rewires rule d (d.ringingCallGone c) := by
  unfold ringingCallGone
  dsimp only
  split
  · exact rewires_callMoved d c.bearer (some .incoming) none
  · exact (rewires_callMoved d c.bearer (some .incoming) none).congr (wiring_stopRinging _)

/-- Signals that wait are dispatched one after the other, if there are any. -/
theorem rewires_drain (hq : d.Quiet ∨ ∀ s, rule.reported s) : Rewires rule d d.drain := by
  unfold drain
  split
  · rename_i signals hd
    refine rewires_dispatchAll { d with queue := some [] } fun s hs _ => ?_
    rcases hq with (hq | hq) | hr
    · rw [hq] at hd
      cases hd
    · rw [hq] at hd
      cases hd
      cases hs
    · exact hr s
  · exact .refl d

/-! ## Everything that happens -/

theorem rewires_updated (d : Desk) (c : Call) (prior next : CallState) :
    Rewires rule d (d.updated c prior next) := by
  unfold updated
  dsimp only
  split
  · exact (rewires_callMoved d _ _ _).congr (wiring_soundTone _ _)
  · exact rewires_callMoved d _ _ _

theorem rewires_shown (d : Desk) (id : CallId) (old new : VideoState) :
    Rewires rule d (d.shown id old new) := by
  unfold shown
  dsimp only
  split
  · refine .of_eq ?_
    split <;> rfl
  · refine Rewires.since (rewires_routeVideo _) ?_
    split <;> rfl

/-- The signals for a change of bearer are about calls, and so is the correction that follows them.
-/
theorem rewires_rebeared (d : Desk) (c : Call) (old : Bearer) :
    Rewires rule d (d.rebeared c old) := by
  unfold rebeared
  split
  · rename_i s hs
    refine Rewires.trans ?_ (rewires_reconcile _)
    split
    · refine rewires_dispatch d fun hc => ?_
      rcases bearerSignal?_eq hs with rfl | rfl <;> cases hc
    · exact .refl d
  · exact rewires_reconcile d

theorem wiring_telephoned (d : Desk) (command : Command) :
    (d.telephoned command).wiring = d.wiring := by
  unfold telephoned kept
  rw [wiring_ask]
  split <;> rfl

theorem rewires_added (d : Desk) (c : Call) (registry : Registry) :
    Rewires rule d (d.added c registry) :=
  Rewires.since (rewires_callCreated _ c) rfl

theorem rewires_moved (d : Desk) (c : Call) (next : CallState) :
    Rewires rule d (d.moved c next) := by
  unfold moved
  dsimp only
  split
  · exact .of_eq rfl
  · exact Rewires.since (rewires_updated _ c c.state next) rfl

theorem rewires_answered (d : Desk) (c : Call) (media : VideoState) :
    Rewires rule d (d.answered c media) :=
  Rewires.since (rewires_callMoved _ _ _ _) rfl

theorem rewires_dropped (d : Desk) (c : Call) : Rewires rule d (d.dropped c) := by
  unfold dropped
  dsimp only
  split
  · exact Rewires.since (rewires_ringingCallGone _ c) rfl
  · exact Rewires.since (rewires_callMoved _ _ _ _) rfl

/-- A step is made of steps of the wiring that keep to its rule. -/
theorem Step.rewires (h : Step rule d d') : Rewires rule d d' := by
  cases h with
  | telephoned command => exact .of_eq (wiring_telephoned d command)
  | decided | amended | kept | keyed | ringer => exact .of_eq rfl
  | muted _ value => exact .of_eq (wiring_applyMute d value)
  | added => exact rewires_added d _ _
  | moved h next => exact rewires_moved d _ next
  | answered h hr media => exact rewires_answered d _ media
  | dropped h => exact rewires_dropped d _
  | parted h => exact (rewires_moved d _ .disconnected).trans (rewires_dropped _ _)
  | rebeared h bearer => exact Rewires.since (rewires_rebeared _ _ _) rfl
  | shown h new => exact rewires_shown d _ _ new
  | released => exact .of_eq (wiring_silenceDtmf d)
  | routed hd hnext =>
    refine .single ?_
    rw [wiring_moveRoute]
    exact Wiring.Step.chosen hd hnext
  | accessory hr _ => exact rewires_dispatch d fun _ => hr

theorem Steps.rewires (h : Steps rule d n d') : Rewires rule d d' := by
  induction h with
  | refl => exact .refl d
  | step _ h ih => exact ih.trans h.rewires
  | issued _ ih => exact ih.congr rfl

/-- What happens, but for the audio side alone, is made of steps of the wiring, if no signals wait
or any may be reported. -/
theorem Transition.rewires (h : Transition rule d n d') (hq : d.Quiet ∨ ∀ s, rule.reported s) :
    Rewires rule d d' := by
  cases h with
  | steps h => exact h.rewires
  | dialed _ h => exact h.rewires.congr rfl
  | opened | stopped => exact .of_eq rfl
  | closed =>
    have h := rewires_drain (d := { d with started := false }) hq
    exact h.congr rfl
  | rested => exact (rewires_drain hq).congr rfl
  | befallen _ c => cases c <;> exact .of_eq rfl

/-- Happenings in a row are made of steps of the wiring: a desk that was quiet before each of them
stays quiet. -/
theorem Transitions.rewires (h : Transitions rule d n d') (hq : d.Quiet ∨ ∀ s, rule.reported s) :
    Rewires rule d d' := by
  induction h with
  | refl => exact .refl d
  | next hs h ih => exact ih.trans (h.rewires (hq.imp_left hs.quiet))

/-- Operations on the audio side alone are made of steps of the wiring, if every signal may be
reported. -/
theorem AudioStep.rewires (h : AudioStep d d') (hr : ∀ s, rule.reported s) :
    Rewires rule d d' := by
  cases h with
  | told b prior next => exact rewires_callMoved d b prior next
  | dispatched s => exact rewires_dispatch d fun _ => hr s
  | reconciled => exact rewires_reconcile d
  | shown h old new => exact rewires_shown d _ old new
  | screened => exact rewires_routeVideo d
  | unmuted => exact .of_eq (wiring_applyMute d false)
  | toned | silenced | silencedIf | hushed | opened | submitted => exact .of_eq rfl
  | rang h => exact .of_eq (wiring_startRinging h)
  | stilled => exact .of_eq (wiring_stopRinging d)
  | drained => exact (rewires_drain (.inr hr)).congr rfl

/-- Every operation on the audio side alone is made of steps of the wiring. -/
theorem audio_rewires (o : AudioOperation) (d : Desk) (hr : ∀ s, rule.reported s) :
    Rewires rule d (o.perform d).2 := by
  have h := audioSteps_perform o d
  generalize (o.perform d).2 = d' at h ⊢
  induction h with
  | refl => exact .refl d
  | tail _ h ih => exact ih.trans (h.rewires hr)

/-- Whatever happens is made of steps of the wiring. -/
theorem rewires_after (d : Desk) (h : Happening) : Rewires (.order False) d (d.after h) := by
  by_cases hm : h.ByManager
  · have hp : Transitions (.order False) d (d.given h) (d.after h) :=
      transitions_after hm (h.heeds_order False d) False.elim
    exact hp.rewires (.inr fun _ => trivial)
  · cases h with
    | audio o => exact audio_rewires o d fun _ => trivial
    | operation | circumstance | rest => exact absurd trivial hm

end Desk

end Switchboard
