import Switchboard.Desk.Audio
import Switchboard.Proofs.Posture.Follows

/-!
# The core of the desk

The audio side plays, rings and routes, but never edits the registry; and what it does hangs on the
calls and the posture alone. `Desk.core` is the part of the desk that matters to the calls. The
lemmas here say of each step of the audio side what it does to the core:

* nothing, for all that plays, rings, mutes or routes;
* a move of the posture, for signals of calls (`core_dispatch_call`) and for what follows a call's
  move (`core_reconcile`, `core_callMoved`).
-/

namespace Switchboard

open Playback (Sound)

/-- What calls hinge on. -/
structure Core where
  config : Config
  registry : Registry
  /-- Where the posture machine stands. -/
  posture : Posture
  queue : Option (List Signal)
  started : Bool
  dialing : Bool

namespace Desk

/-- The part of the desk that calls hinge on. -/
def core (d : Desk) : Core :=
  ⟨d.config, d.registry, d.posture.current, d.queue, d.started, d.dialing⟩

/-! ## What the core does not notice -/

@[simp] theorem core_ask (d : Desk) (demand : Demand) : (d.ask demand).2.core = d.core := rfl

@[simp] theorem core_soundTone (d : Desk) (tone : Tone) : (d.soundTone tone).core = d.core := rfl

@[simp] theorem core_silenceTone (d : Desk) : d.silenceTone.2.core = d.core := rfl

@[simp] theorem core_silenceToneIf (d : Desk) (tone : Tone) :
    (d.silenceToneIf tone).2.core = d.core := rfl

@[simp] theorem core_silenceDtmf (d : Desk) : d.silenceDtmf.2.core = d.core := by
  unfold silenceDtmf
  split
  · split
    · exact core_silenceToneIf d _
    · rfl
  · rfl

/-- To ring is nothing to the core. -/
theorem core_startRinging {d d' : Desk} {slot : SlotId} (h : d.startRinging slot = .ok d') :
    d'.core = d.core := by
  unfold startRinging at h
  split at h
  · cases h
    rfl
  · cases h

@[simp] theorem core_stopRinging (d : Desk) : d.stopRinging.2.core = d.core := by
  unfold stopRinging
  dsimp only
  split <;> rfl

/-- A move of the route does not touch the core: the platform is asked for it and the listeners are
told. -/
@[simp] theorem core_moveRoute (d : Desk) (next : Route.Machine) :
    (d.moveRoute next).core = d.core := by
  unfold moveRoute
  dsimp only
  split <;> split <;> rfl

@[simp] theorem core_feedRoute (d : Desk) (signal : Signal) (calls : List Call) :
    (d.feedRoute signal calls).2.core = d.core := core_moveRoute d _

/-- Setting the mute is nothing to a view that sees neither the demand nor the mute that was set. -/
theorem view_applyMute {α : Type} (view : Desk → α) {d : Desk} {muted : Bool}
    (asked : view (d.ask (.micMute muted)).2 = view d)
    (set : ∀ d : Desk, view ({ d with muted }.emit (.muteChanged muted)) = view d) :
    view (d.applyMute muted) = view d := by
  unfold applyMute
  split
  · rfl
  · dsimp only
    split
    · exact (set _).trans asked
    · exact asked

@[simp] theorem core_applyMute (d : Desk) (muted : Bool) : (d.applyMute muted).core = d.core :=
  view_applyMute core rfl fun _ => rfl

/-- The focus is none of the core, and what follows it neither. -/
@[simp] theorem core_updateFocus (d : Desk) (calls : List Call) :
    (d.updateFocus calls).core = d.core := by
  unfold updateFocus
  dsimp only
  split
  · rfl
  · split
    · rw [core_applyMute, core_feedRoute]
      rfl
    · rw [core_feedRoute]
      rfl

@[simp] theorem core_leaveEarpiece (d : Desk) (calls : List Call) :
    (d.leaveEarpiece calls).2.core = d.core := by
  unfold leaveEarpiece
  split
  · split
    · exact core_moveRoute d _
    · rfl
  · rfl

/-- Video on show takes calls off the earpiece, which is a move of the route. -/
@[simp] theorem core_updateVideoRoute (d : Desk) (calls : List Call) :
    (d.updateVideoRoute calls).core = d.core := by
  unfold updateVideoRoute
  dsimp only
  split
  · rw [core_leaveEarpiece]
    rfl
  · rfl

@[simp] theorem core_routeVideo (d : Desk) : d.routeVideo.2.core = d.core := by
  unfold routeVideo
  dsimp only
  split
  · rw [core_leaveEarpiece]
    rfl
  · rfl

/-- What the posture machine asks for is played, rung or asked of the platform. -/
@[simp] theorem core_carryOut (calls : List Call) (d : Desk) (e : Effect) :
    (carryOut calls d e).core = d.core := by
  cases e with
  | playRingback => exact core_soundTone d _
  | stopRingback => exact core_silenceToneIf d _
  | startRinging =>
    unfold carryOut
    dsimp only
    split
    · exact core_startRinging ‹_›
    · rfl
  | stopRinging => exact core_stopRinging d
  | playWaitingTone => exact core_soundTone d _
  | muteNetworkRing => exact core_silenceToneIf d _
  | modeChanged mode => rfl

theorem core_foldl_carryOut (calls : List Call) (d : Desk) (effects : List Effect) :
    (effects.foldl (carryOut calls) d).core = d.core := by
  induction effects generalizing d with
  | nil => rfl
  | cons e rest ih => rw [List.foldl_cons, ih, core_carryOut]

/-- What follows a move of the posture machine leaves the machine where it stands. -/
@[simp] theorem core_afterTransition (d : Desk) (previous : Posture) (calls : List Call)
    (t : Tally) : (d.afterTransition previous calls t).core = d.core := by
  unfold afterTransition
  dsimp only
  rw [core_updateVideoRoute, core_updateFocus]
  split
  · split <;> simp only [core_silenceToneIf, core_foldl_carryOut] <;> rfl
  · split <;> simp only [core_foldl_carryOut] <;> rfl

theorem core_noteAccessory (d : Desk) (signal : Signal) :
    (d.noteAccessory signal).core = d.core := by
  cases signal <;> rfl

@[simp] theorem core_dispatchDevice (d : Desk) (signal : Signal) :
    (d.dispatchDevice signal).2.core = d.core := by
  unfold dispatchDevice
  rw [core_feedRoute, core_noteAccessory]

/-! ## Moves of the posture -/

end Desk

/-- A transition ends in its posture, also when that is the posture it starts from. -/
theorem Posture.Machine.current_transition (m : Machine) (next : Posture) (t : Tally) :
    (m.transition next t).current = next := by
  unfold transition
  split
  · assumption
  · rfl

/-- The machine goes where the rules of the posture say, which look at the calls. -/
theorem Posture.Machine.current_process (m : Machine) (s : Signal) (t : Tally) :
    (m.process s t).2.current = m.current.after t s := by
  unfold process after
  cases m.current.next s t with
  | refuse | stay | waitingTone => rfl
  | goto next => exact m.current_transition next t
  | reevaluate => exact m.current_transition (.ofTally t) t

namespace Desk

/-- The calls, counted. -/
def tally (d : Desk) : Tally := .ofCalls d.registry.calls

/-- A signal of calls moves the posture as the posture machine has it. -/
theorem core_dispatchCall (d : Desk) (signal : Signal) :
    (d.dispatchCall signal).2.core =
      { d.core with posture := d.posture.current.after d.tally signal } := by
  unfold dispatchCall
  dsimp only
  split
  · rw [core_afterTransition]
    show { d.core with posture := (d.posture.process signal d.tally).2.current } = _
    rw [Posture.Machine.current_process]
  · rename_i hf
    have hn : d.posture.current.next signal d.tally = .refuse := by
      unfold Posture.Machine.process at hf
      split at hf
      · assumption
      all_goals exact absurd rfl hf
    rw [Posture.after_of_refuse hn]
    rfl

/-- A signal of calls is dispatched to the posture machine. -/
theorem core_dispatch_call (d : Desk) {signal : Signal} (h : signal.isCall = true) :
    (d.dispatch signal).2.core =
      { d.core with posture := d.posture.current.after d.tally signal } := by
  rw [dispatch, if_pos h, core_dispatchCall]

/-- Other signals do not concern the posture. -/
theorem core_dispatch_device (d : Desk) {signal : Signal} (h : signal.isCall = false) :
    (d.dispatch signal).2.core = d.core := by
  rw [dispatch, if_neg (by simp [h])]
  split
  · exact core_dispatchDevice d signal
  · rfl

/-- A signal moves the posture at most. -/
theorem core_dispatch (d : Desk) (signal : Signal) :
    ∃ posture, (d.dispatch signal).2.core = { d.core with posture } := by
  cases h : signal.isCall with
  | true => exact ⟨_, core_dispatch_call d h⟩
  | false => exact ⟨_, core_dispatch_device d h⟩

/-- Signals one after the other move the posture at most. -/
theorem core_dispatchAll (d : Desk) (signals : List Signal) :
    ∃ posture, (d.dispatchAll signals).core = { d.core with posture } := by
  unfold dispatchAll
  induction signals generalizing d with
  | nil => exact ⟨_, rfl⟩
  | cons s rest ih =>
    obtain ⟨p, hs⟩ := core_dispatch d s
    obtain ⟨p', hrest⟩ := ih (d.dispatch s).2
    rw [hs] at hrest
    exact ⟨p', hrest⟩

/-- Signals that wait move the posture once they are dispatched, and nothing else. -/
theorem core_drain (d : Desk) : ∃ posture queue, d.drain.core = { d.core with posture, queue } := by
  unfold drain
  split
  · rename_i signals _
    obtain ⟨p, hp⟩ := core_dispatchAll { d with queue := some [] } signals
    exact ⟨p, some [], hp⟩
  · exact ⟨_, _, rfl⟩

/-- No signal that waited changes a record. -/
@[simp] theorem registry_drain (d : Desk) : d.drain.registry = d.registry := by
  obtain ⟨_, _, h⟩ := core_drain d
  exact congrArg Core.registry h

@[simp] theorem config_drain (d : Desk) : d.drain.config = d.config := by
  obtain ⟨_, _, hc⟩ := core_drain d
  exact congrArg Core.config hc

/-- The correction of the posture. -/
theorem core_reconcile (d : Desk) :
    d.reconcile.core = { d.core with posture := d.posture.current.settle d.tally } := by
  unfold reconcile
  dsimp only
  rw [core_afterTransition]
  unfold Posture.settle
  -- A posture that strays from the calls is put right by their count; any other is left alone.
  by_cases h : d.posture.current.strays (.ofTally d.tally) d.tally = true
  · rw [if_pos h]
    show Desk.core (if d.posture.current.strays (.ofTally d.tally) d.tally = true then _ else _) = _
    rw [if_pos h]
    show { d.core with posture := (d.posture.transition (.ofTally d.tally) d.tally).current } = _
    rw [Posture.Machine.current_transition]
  · rw [if_neg h]
    show Desk.core (if d.posture.current.strays (.ofTally d.tally) d.tally = true then _ else _) = _
    rw [if_neg h]
    rfl

end Desk

/-- Every signal of a moved call is about calls. -/
theorem isCall_of_mem_edges {calls : List Call} {b : Bearer} {prior next : Option CallState}
    {s : Signal} (h : s ∈ edges calls b prior next) : s.isCall = true := by
  have hfirst (k : CallClass) : (k.firstSignal b).isCall = true := by
    cases k <;> cases b <;> rfl
  have hlast (k : CallClass) : k.lastSignal.isCall = true := by cases k <;> rfl
  unfold edges at h
  dsimp only at h
  split at h
  · cases h
  · rcases List.mem_append.mp h with h | h
    · split at h
      · split at h
        · rw [List.mem_singleton.mp h]
          exact hfirst _
        · cases h
      · cases h
    · split at h
      · split at h
        · rw [List.mem_singleton.mp h]
          exact hlast _
        · cases h
      · cases h

namespace Desk

/-- Signals of calls move the posture one after the other, all by the count of the same calls. -/
theorem core_foldl_dispatch (d : Desk) (signals : List Signal)
    (h : ∀ s ∈ signals, s.isCall = true) :
    (signals.foldl (fun d s => (d.dispatch s).2) d).core =
      { d.core with posture := signals.foldl (·.after d.tally ·) d.posture.current } := by
  induction signals generalizing d with
  | nil => rfl
  | cons s rest ih =>
    have hs := core_dispatch_call d (h s (by simp))
    -- The first signal changed no record, so the rest is dispatched by the same count.
    have hr : (d.dispatch s).2.registry = d.registry := congrArg Core.registry hs
    have hp : (d.dispatch s).2.posture.current = d.posture.current.after d.tally s :=
      congrArg Core.posture hs
    have ht : (d.dispatch s).2.tally = d.tally := by rw [tally, hr, tally]
    rw [List.foldl_cons, List.foldl_cons, ih _ fun x hx => h x (by simp [hx]), hs, ht, hp]

/-- The move of a call: its signals, and the correction after them. -/
theorem core_callMoved (d : Desk) (b : Bearer) (prior next : Option CallState) :
    (d.callMoved b prior next).core =
      { d.core with posture := d.posture.current.afterMove d.registry.calls b prior next } := by
  have hs :=
    core_foldl_dispatch d (edges d.registry.calls b prior next) fun _ => isCall_of_mem_edges
  unfold callMoved
  generalize (edges d.registry.calls b prior next).foldl (fun d s => (d.dispatch s).2) d = d' at hs
  have hr : d'.registry = d.registry := congrArg Core.registry hs
  have hp := congrArg Core.posture hs
  have ht : d'.tally = d.tally := by rw [tally, hr, tally]
  rw [core_reconcile, hs, ht]
  exact congrArg (fun p => { d.core with posture := p.settle d.tally }) hp

/-- A call that is new, or gone, moves the posture; the microphone and the ring do not count. -/
theorem core_callCreated (d : Desk) (c : Call) :
    (d.callCreated c).core = (d.callMoved c.bearer none (some c.state)).core := by
  unfold callCreated
  dsimp only
  split
  · rw [core_applyMute]
  · rfl

/-- A ringing call that is gone moves the posture as one that was `incoming`; the ring does not
count. -/
theorem core_ringingCallGone (d : Desk) (c : Call) :
    (d.ringingCallGone c).core = (d.callMoved c.bearer (some .incoming) none).core := by
  unfold ringingCallGone
  dsimp only
  split
  · rfl
  · rw [core_stopRinging]

end Desk
end Switchboard
