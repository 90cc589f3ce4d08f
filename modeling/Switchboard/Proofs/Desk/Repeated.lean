import Switchboard.Proofs.Desk.History
import Switchboard.Proofs.Desk.Sure
import Switchboard.Proofs.Desk.Wiring

/-!
# What is said twice

The radio repeats its reports, and users press a button twice. What says how things are to be, and
not that something is to be done, has no effect once things are that way (`Operation.isRepeatable`).

* `DeskM.Sticks`: an operation that leaves itself nothing to do. Where it fails it changes nothing,
  and at the desk where it has succeeded it succeeds again and changes nothing.
* `Desk.vetoed?`: the one exception, a change of the microphone that the platform refuses. It is not
  noted as made, so the next attempt asks the platform again.
-/

namespace Switchboard

/-- It says how things are to be. The reports that a call has ended are not of this kind: the first
of them takes the call out of the registry. -/
def Operation.isRepeatable : Operation → Bool
  | reportState _ state _ => state != .disconnected && state != .idle
  | reportBearer .. | reportVideo .. | reportHeadset _ | reportBluetooth _ | setMute _
  | setDevice _ => true
  | _ => false

namespace Registry

variable {r : Registry} {id : CallId} {f : Call → Call}

/-- A change that finds its records as it would leave them changes nothing. -/
theorem modify_eq_self (h : ∀ c ∈ r.calls, c.id = id → { f c with id := c.id } = c) :
    r.modify id f = r := by
  have hcalls : adjust id f r.calls = r.calls := by
    refine (List.map_congr_left (g := fun c => c) fun c hc => ?_).trans (List.map_id _)
    split
    · rename_i hid
      exact h c hc (by simpa using hid)
    · rfl
  obtain ⟨calls, nextId, created, removed, ascending⟩ := r
  unfold modify
  congr 1

end Registry

namespace Route.Machine

variable {s : Signal} {ctx : Context}

/-- A choice looks at the accessories and the focus alone. -/
theorem choose_congr {ctx' : Context} (device : Device) (hb : ctx'.bluetooth = ctx.bluetooth)
    (hh : ctx'.headset = ctx.headset) (hf : ctx'.focus = ctx.focus) :
    choose device ctx' = choose device ctx := by
  unfold choose target? on
  rw [hb, hh, hf]

/-- Once it is known that an accessory came or went, the machine has nothing to do about it. -/
theorem process_again (m : Machine) (hs : s = .headsetConnected ∨ s = .headsetDisconnected ∨
      s = .bluetoothConnected ∨ s = .bluetoothDisconnected) :
    ((m.process s (ctx.note s)).2.process s (ctx.note s)).2 = (m.process s (ctx.note s)).2 := by
  have hselect : s = .headsetDisconnected ∨ s = .bluetoothDisconnected →
      ((on (select (ctx.note s)) (ctx.note s)).process s (ctx.note s)).2 =
        on (select (ctx.note s)) (ctx.note s) := by
    have hat := select_atHand (ctx.note s)
    rintro (rfl | rfl)
    · have hn : select (ctx.note .headsetDisconnected) ≠ .wiredHeadset := fun he =>
        nomatch hat.headset he
      generalize select (ctx.note .headsetDisconnected) = r at hn
      cases r <;> first | rfl | exact absurd rfl hn
    · have hn : select (ctx.note .bluetoothDisconnected) ≠ .bluetoothSco := fun he =>
        nomatch hat.bluetooth he
      generalize select (ctx.note .bluetoothDisconnected) = r at hn
      cases r <;> first | rfl | exact absurd rfl hn
  obtain ⟨current, link⟩ := m
  rcases hs with rfl | rfl | rfl | rfl <;> cases current <;>
    first | rfl | exact hselect (.inl rfl) | exact hselect (.inr rfl)

end Route.Machine

namespace DeskM

variable {x : DeskM Unit} {d : Desk}

/-- Where `x` fails at `d` it changes nothing; where it succeeds the desk stays in service, or out
of it, and there `x` succeeds again and changes nothing. -/
def Sticks (x : DeskM Unit) (d : Desk) : Prop :=
  x.Ends d (fun _ d' => d'.started = d.started ∧ x.Sure d' (· = d')) fun _ d' => d' = d

/-- What sticks ends the second time as it did the first time. -/
theorem Sticks.perform_again (h : x.Sticks d) : x.perform (x.perform d).2 = x.perform d := by
  unfold Sticks Sure Ends at h
  unfold perform
  cases hx : x d with
  | ok a d₁ =>
    simp only [hx] at h ⊢
    obtain ⟨-, h⟩ := h
    cases hx₁ : x d₁ with
    | ok a₁ d₂ =>
      rw [hx₁] at h
      rw [show d₂ = d₁ from h]
    | error e d₂ =>
      rw [hx₁] at h
      exact h.elim
  | error e d₁ =>
    simp only [hx] at h ⊢
    obtain rfl : d₁ = d := h
    rw [hx]

theorem Sticks.conclude_again (h : x.Sticks d) :
    Operation.conclude x (Operation.conclude x d).2 = Operation.conclude x d := by
  have hp := h.perform_again
  unfold Operation.conclude
  dsimp only
  rw [hp]

/-- An operation that cannot succeed answers with the one failure that it can have. -/
theorem concluded_of_fails {e : CallError} {d' : Desk}
    (h : x.Ends d (fun _ _ => False) fun e₁ d₁ => e₁ = e ∧ d₁ = d') :
    Operation.conclude x d = (.result (.error e), d') := by
  unfold Ends at h
  unfold Operation.conclude perform
  cases hx : x d with
  | ok a d₁ =>
    rw [hx] at h
    exact h.elim
  | error e₁ d₁ =>
    rw [hx] at h
    obtain ⟨rfl, rfl⟩ : e₁ = e ∧ d₁ = d' := h
    rfl

/-- A desk that is out of service offers nothing, the second time as the first time. -/
theorem Sticks.inService (h : x.Sticks d) : (Desk.inService x).Sticks d := by
  refine Desk.ends_inService (fun hs => h.mono ?_ fun _ _ he => he) fun _ => rfl
  rintro _ d' ⟨he, hx⟩
  have hs' : d'.started = true := he.trans hs
  exact ⟨he, Desk.ends_inService (fun _ => hx) fun hn => by simp [hs'] at hn⟩

end DeskM

namespace Desk

open DeskM

variable {d : Desk} {c : Call} {id : CallId}

/-! ## Edits that change nothing -/

theorem amended_eq_self {f : Call → Call} (hc : c ∈ d.registry.calls)
    (hf : { f c with id := c.id } = c) : d.amended c.id f = d := by
  have hr : d.registry.modify c.id f = d.registry :=
    Registry.modify_eq_self fun x hx hid => by rwa [Registry.eq_of_id_eq hx hc hid]
  unfold amended
  rw [hr]

/-- A call is moved into the state that it is in. -/
theorem moved_eq_self (hc : c ∈ d.registry.calls) : d.moved c c.state = d := by
  unfold moved
  rw [if_pos rfl]
  exact amended_eq_self hc rfl

/-- A video state that is shown already is not shown again. -/
theorem shown_eq_self (hc : c ∈ d.registry.calls) : d.shown c.id c.video c.video = d := by
  unfold shown
  dsimp only
  rw [if_pos rfl, if_pos rfl]
  exact amended_eq_self hc rfl

/-- The route moves to where it is. -/
theorem moveRoute_eq_self (d : Desk) : d.moveRoute d.route = d := by
  unfold moveRoute
  dsimp only
  rw [if_pos rfl, if_pos rfl]

/-! ## Reports of calls -/

/-- A registered call `id` is as a report tells it. -/
def Knows (d : Desk) (id : CallId) (told : Call → Prop) : Prop :=
  ∃ c ∈ d.registry.calls, c.id = id ∧ told c

theorem Knows.of_registry {d' : Desk} {told : Call → Prop} (h : d.Knows id told)
    (hr : d'.registry = d.registry) : d'.Knows id told := by
  unfold Knows
  rw [hr]
  exact h

/-- A report sticks if it is known once it was made, and changes nothing where it is known. -/
theorem sticks_of_knows (id : CallId) (told : Call → Prop) {x : DeskM Unit}
    (hreport : x.Ends d (fun _ d' => d'.started = d.started ∧ d'.Knows id told) fun _ d' => d' = d)
    (hknown : ∀ (d' : Desk), ∀ c ∈ d'.registry.calls, c.id = id → told c → x.Sure d' (· = d')) :
    x.Sticks d := by
  refine hreport.mono ?_ fun _ _ he => he
  rintro _ d' ⟨hs, c, hc, hid, ht⟩
  exact ⟨hs, hknown d' c hc hid ht⟩

/-- A known state, with a known reason if one is told. -/
theorem reportState_known {state : CallState} {ended : Option EndReason}
    (hstay : ¬(state = .disconnected ∨ state = .idle)) (hc : c ∈ d.registry.calls)
    (hs : c.state = state) (he : ∀ reason, ended = some reason → c.ended = reason) :
    (reportState c.id state ended).Sure d (· = d) := by
  subst hs
  have hmoved : (setState c.id c.state).Sure d (· = d) :=
    (ends_setState_of_mem hc).mpr (moved_eq_self hc)
  unfold reportState Sure
  rw [ends_bind, ends_discard]
  refine ends_call (fun _ _ _ => ?_) fun ha => absurd rfl (ha c hc)
  rw [if_neg hstay]
  cases ended with
  | none => exact hmoved
  | some reason =>
    dsimp only
    obtain rfl : c.ended = reason := he reason rfl
    rw [ends_bind, ends_discard, ends_amend_of_mem hc, amended_eq_self hc rfl]
    exact hmoved

/-- After the first report the state is known. -/
theorem reportState_sticks {state : CallState} (ended : Option EndReason)
    (hstay : ¬(state = .disconnected ∨ state = .idle)) :
    (reportState id state ended).Sticks d := by
  refine sticks_of_knows id
    (fun c => c.state = state ∧ ∀ reason, ended = some reason → c.ended = reason) ?_
    fun d' c hc hid ht => hid ▸ reportState_known hstay hc ht.1 ht.2
  have hmoved {d₁ : Desk} {c : Call} (h₁ : d₁.started = d.started) (hc : c ∈ d₁.registry.calls)
      (hid : c.id = id) (he : ∀ reason, ended = some reason → c.ended = reason) :
      (setState id state).Ends d₁
        (fun _ d' => d'.started = d.started ∧ d'.Knows id fun c => c.state = state ∧
          ∀ reason, ended = some reason → c.ended = reason) fun _ d' => d' = d := by
    subst hid
    exact (ends_setState_of_mem hc).mpr
      ⟨(congrArg Core.started (core_moved d₁ c state)).trans h₁, _, mem_moved hc state, rfl,
        rfl, he⟩
  unfold reportState
  rw [ends_bind, ends_discard]
  refine ends_call (fun c hc hid => ?_) fun _ => rfl
  subst hid
  rw [if_neg hstay]
  cases ended with
  | none => exact hmoved rfl hc rfl nofun
  | some reason =>
    dsimp only
    rw [ends_bind, ends_discard, ends_amend_of_mem hc]
    have hr : { c with ended := reason } ∈ (d.amended c.id _).registry.calls :=
      mem_amended (f := ({ · with ended := reason })) hc
    exact hmoved rfl hr rfl fun _ he => Option.some.inj he

theorem reportBearer_known {bearer : Bearer} (hc : c ∈ d.registry.calls) (hb : c.bearer = bearer) :
    (reportBearer c.id bearer).Sure d (· = d) := by
  subst hb
  unfold reportBearer Sure
  rw [ends_bind, ends_amend_of_mem hc, if_neg (not_not_intro rfl)]
  exact amended_eq_self hc rfl

/-- Nothing but the bearer is written. -/
theorem reportBearer_sticks (bearer : Bearer) : (reportBearer id bearer).Sticks d := by
  refine sticks_of_knows id (·.bearer = bearer) ?_
    fun d' c hc hid hb => hid ▸ reportBearer_known hc hb
  unfold reportBearer
  refine (ends_bind _).mpr (ends_amend (fun c hc hid => ?_) fun _ => rfl)
  subst hid
  have hb : { c with bearer } ∈ (d.amended c.id ({ · with bearer })).registry.calls :=
    mem_amended hc
  have hknows : (d.amended c.id ({ · with bearer })).Knows c.id (·.bearer = bearer) :=
    ⟨_, hb, rfl, rfl⟩
  split
  · obtain ⟨p, hcore, -⟩ := core_rebeared (d.amended c.id ({ · with bearer })) { c with bearer }
      c.bearer
    exact (ends_bearerChanged hb).mpr
      ⟨congrArg Core.started hcore, hknows.of_registry (congrArg Core.registry hcore)⟩
  · exact ⟨rfl, hknows⟩

theorem reportVideo_known {media : VideoState} (hc : c ∈ d.registry.calls) (hv : c.video = media) :
    (reportVideo c.id media).Sure d (· = d) := by
  subst hv
  unfold reportVideo Sure
  rw [ends_bind]
  refine ends_call (fun c' hc' hid => ?_) fun ha => absurd rfl (ha c hc)
  rw [Registry.eq_of_id_eq hc' hc hid]
  exact (ends_videoChanged hc).mpr (shown_eq_self hc)

/-- Nothing but the video state is written, and what is on show follows. -/
theorem reportVideo_sticks (media : VideoState) : (reportVideo id media).Sticks d := by
  refine sticks_of_knows id (·.video = media) ?_
    fun d' c hc hid hv => hid ▸ reportVideo_known hc hv
  unfold reportVideo
  refine (ends_bind _).mpr (ends_call (fun c hc hid => ?_) fun _ => rfl)
  subst hid
  have hcore := core_shown d c.id c.video media
  have hknows : (d.amended c.id ({ · with video := media })).Knows c.id (·.video = media) :=
    ⟨_, mem_amended hc, rfl, rfl⟩
  exact (ends_videoChanged hc).mpr
    ⟨congrArg Core.started hcore, hknows.of_registry (congrArg Core.registry hcore)⟩

/-! ## Reports of accessories -/

/-- What is known of an accessory is not noted again. -/
theorem noteAccessory_eq_self {s : Signal} (h : d.wiring.note s = d.wiring) :
    d.noteAccessory s = d := by
  cases s with
  | headsetConnected | headsetDisconnected =>
    exact congrArg (fun headset => ({ d with headset } : Desk)) (congrArg Wiring.headset h)
  | bluetoothConnected | bluetoothDisconnected =>
    exact congrArg (fun bluetooth => ({ d with bluetooth } : Desk)) (congrArg Wiring.bluetooth h)
  | _ => rfl

/-- A desk that has heard of an accessory does nothing when it hears the same again. -/
theorem dispatch_again (d : Desk) {s : Signal} (hs : s = .headsetConnected ∨
      s = .headsetDisconnected ∨ s = .bluetoothConnected ∨ s = .bluetoothDisconnected) :
    ((d.dispatch s).2.dispatch s).2 = (d.dispatch s).2 := by
  have hdevice (d : Desk) : (d.dispatch s).2 = (d.dispatchDevice s).2 := by
    rcases hs with rfl | rfl | rfl | rfl <;> rfl
  have hother : (s == .audioDeactivated) = false := by rcases hs with rfl | rfl | rfl | rfl <;> rfl
  rw [hdevice, hdevice]
  generalize hd' : (d.dispatchDevice s).2 = d'
  have hregistry : d'.registry = d.registry :=
    hd' ▸ congrArg Core.registry (core_dispatchDevice d s)
  have hwiring := wiring_dispatchDevice d s
  rw [hd'] at hwiring
  have hnoted : d'.noteAccessory s = d' := by
    refine noteAccessory_eq_self ?_
    rw [hwiring]
    rcases hs with rfl | rfl | rfl | rfl <;> rfl
  have hcontext : d'.context d.registry.calls = (d.context d.registry.calls).note s :=
    (congrArg (fun w : Wiring => w.context (videoInUse d.registry.calls)
      (speakerphoneInUse d.registry.calls)) hwiring).trans (d.wiring.context_note s _ _)
  have hroute : d'.route = (d.route.process s ((d.context d.registry.calls).note s)).2 := by
    have hfed := congrArg Wiring.route hwiring
    unfold Wiring.feed at hfed
    simp only [Wiring.context_note, hother, Bool.and_false, Bool.false_eq_true, if_false] at hfed
    refine hfed.trans ?_
    rcases hs with rfl | rfl | rfl | rfl <;> rfl
  unfold dispatchDevice feedRoute
  rw [hnoted, hregistry, hcontext]
  simp only [hother, Bool.and_false, Bool.false_eq_true, if_false]
  -- The machine is where the first signal put it, so the second one moves it nowhere.
  rw [hroute, Route.Machine.process_again _ hs, ← hroute, moveRoute_eq_self]

/-- A report of an accessory is a signal for the route. -/
theorem accessory_sticks {s : Signal} (hs : s = .headsetConnected ∨ s = .headsetDisconnected ∨
      s = .bluetoothConnected ∨ s = .bluetoothDisconnected) :
    (Desk.inService (modify fun d => (d.dispatch s).2)).Sticks d := by
  have hcall : s.isCall = false := by rcases hs with rfl | rfl | rfl | rfl <;> rfl
  exact Sticks.inService ⟨congrArg Core.started (core_dispatch_device d hcall), dispatch_again d hs⟩

theorem reportHeadset_sticks (connected : Bool) : (reportHeadset connected).Sticks d :=
  accessory_sticks (by cases connected <;> simp)

theorem reportBluetooth_sticks (connected : Bool) : (reportBluetooth connected).Sticks d :=
  accessory_sticks (by cases connected <;> simp)

/-! ## The choice of a device -/

/-- The desk once the foreground call remembers whether the loudspeaker was chosen. -/
def preferring (d : Desk) (device : Device) : Desk :=
  match foreground? d.registry.calls with
  | some c => d.amended c.id ({ · with speakerphone := device == .speaker })
  | none => d

/-- The choice of a device succeeds if the route allows it. -/
theorem ends_setDevice {device : Device} {Q : Unit → Desk → Prop} {E : CallError → Desk → Prop} :
    (setDevice device).Ends d Q E ↔
      match Route.Machine.choose device (d.context d.registry.calls) with
      | .ok next => Q () ((d.preferring device).moveRoute next)
      | .error e => E e d := by
  unfold setDevice preferring
  rw [ends_bind, ends_get, ends_bind, ends_ofExcept]
  cases Route.Machine.choose device (d.context d.registry.calls) with
  | error => rfl
  | ok next =>
    dsimp only
    cases foreground? d.registry.calls <;> rfl

/-- The foreground call stays in the foreground, and remembers no more than it does already. -/
theorem preferring_again {device : Device} {d' : Desk}
    (hr : d'.registry = (d.preferring device).registry) : d'.preferring device = d' := by
  have hcalls : foreground? d'.registry.calls =
      (foreground? d.registry.calls).map ({ · with speakerphone := device == .speaker }) := by
    rw [hr]
    unfold preferring
    cases hf : foreground? d.registry.calls with
    | none => exact hf
    | some c =>
      refine (foreground?_map fun x _ => ?_).trans ?_
      · split <;> exact ⟨rfl, rfl⟩
      · rw [hf, Option.map_some, Option.map_some, if_pos (beq_self_eq_true c.id)]
  unfold preferring
  rw [hcalls]
  cases hf : foreground? d.registry.calls with
  | none => rfl
  | some c =>
    rw [hf] at hcalls
    exact amended_eq_self (mem_of_foreground? hcalls) rfl

/-- A choice looks at the accessories and the focus, and changes neither. -/
theorem setDevice_sticks (device : Device) : (setDevice device).Sticks d := by
  refine ends_setDevice.mpr ?_
  split
  · rename_i next hnext
    have hpreferring : (d.preferring device).wiring = d.wiring ∧
        (d.preferring device).started = d.started := by
      unfold preferring
      split <;> exact ⟨rfl, rfl⟩
    generalize hd' : (d.preferring device).moveRoute next = d'
    have hcore : d'.core = (d.preferring device).core := hd' ▸ core_moveRoute _ next
    have hmoved : d'.wiring = { d.wiring with route := next } := by
      rw [← hd', wiring_moveRoute, hpreferring.1]
    have hchoose : Route.Machine.choose device (d'.context d'.registry.calls) = .ok next := by
      rw [← hnext]
      exact Route.Machine.choose_congr device (congrArg Wiring.bluetooth hmoved :)
        (congrArg Wiring.headset hmoved :) (congrArg Wiring.focus hmoved :)
    refine ⟨(congrArg Core.started hcore).trans hpreferring.2, ends_setDevice.mpr ?_⟩
    rw [hchoose]
    dsimp only
    have hroute : d'.route = next := congrArg Wiring.route hmoved
    rw [preferring_again (congrArg Core.registry hcore), ← hroute, moveRoute_eq_self]
  · rfl

/-! ## The microphone -/

/-- The demand that an operation fails with because the platform refuses to mute the microphone, or
to let it be heard. -/
def vetoed? (d : Desk) : Operation → Option Demand
  | .setMute muted =>
    let effective := muted && !hasEmergency d.registry.calls
    if d.muted ≠ effective ∧ d.outside.fails .setMicrophoneMute then some (.micMute effective)
    else none
  | _ => none

/-- The desk after a demand was made in vain: nothing but the log tells. -/
def rebuffed (d : Desk) (demand : Demand) : Desk :=
  { d with outside := { d.outside with log := d.outside.log ++ [⟨demand, false⟩] } }

theorem setMute_vetoed {muted : Bool} {demand : Demand}
    (h : d.vetoed? (.setMute muted) = some demand) : (setMute muted).Ends d (fun _ _ => False)
      fun e d' => e = d.outside.failure demand ∧ d' = d.rebuffed demand := by
  unfold vetoed? at h
  dsimp only at h
  split at h
  · rename_i hv
    obtain rfl := Option.some.inj h
    have hask (muted : Bool) : d.ask (.micMute muted) = (false, d.rebuffed (.micMute muted)) := by
      unfold ask Outside.ask rebuffed
      have hf : d.outside.fails (Demand.micMute muted).service = true := hv.2
      rw [hf]
      rfl
    unfold setMute
    rw [ends_bind, ends_get, if_pos hv.1, ends_bind, ends_modifyGet, hask]
    exact ⟨rfl, rfl⟩
  · cases h

/-- The microphone is as it was asked for. -/
theorem setMute_known {muted : Bool} (h : d.muted = (muted && !hasEmergency d.registry.calls)) :
    (setMute muted).Sure d (· = d) := by
  unfold setMute Sure
  rw [ends_bind, ends_get, if_neg (not_not_intro h)]
  rfl

/-- A change that the platform makes is noted, and then there is nothing to change. -/
theorem setMute_sticks {muted : Bool} (h : d.vetoed? (.setMute muted) = none) :
    (setMute muted).Sticks d := by
  by_cases hm : d.muted = (muted && !hasEmergency d.registry.calls)
  · refine Ends.mono (setMute_known hm) ?_ fun _ _ => False.elim
    rintro _ d' rfl
    exact ⟨rfl, setMute_known hm⟩
  · have hf : d.outside.fails .setMicrophoneMute = false := by
      unfold vetoed? at h
      simpa [hm] using h
    have hmet (muted : Bool) : (d.ask (.micMute muted)).1 = true := by
      show (!d.outside.fails .setMicrophoneMute) = true
      rw [hf]
      rfl
    unfold Sticks
    generalize hagain : (fun d' : Desk => (setMute muted).Sure d' (· = d')) = again
    unfold setMute
    rw [ends_bind, ends_get, if_pos hm, ends_bind, ends_modifyGet, hmet]
    subst hagain
    exact ⟨rfl, setMute_known rfl⟩

/-! ## Every operation -/

/-- **What says how things are to be has no effect the second time.** At every desk, a report of a
call's state in which it stays registered, of its bearer, its video or an accessory, and a choice of
the device or of the microphone, answers the second time as it did the first time, and then the desk
is just as it was after the first time: its calls, its machines, what it announced, what it asked of
the outside, and what plays. Only a change of the microphone that the platform refuses stays to be
made: it fails, and nothing but the log of the platform tells of it. -/
theorem again_as_once {o : Operation} (ho : o.isRepeatable = true) (d : Desk) :
    match d.vetoed? o with
    | none => o.perform (o.perform d).2 = o.perform d
    | some demand =>
      o.perform d = (.result (.error (d.outside.failure demand)), d.rebuffed demand) := by
  cases o with
  | reportState id state ended =>
    have hstay : ¬(state = .disconnected ∨ state = .idle) := by
      simpa [Operation.isRepeatable] using ho
    exact (reportState_sticks ended hstay).inService.conclude_again
  | reportBearer id bearer => exact (reportBearer_sticks bearer).inService.conclude_again
  | reportVideo id media => exact (reportVideo_sticks media).inService.conclude_again
  | reportHeadset connected => exact (reportHeadset_sticks connected).conclude_again
  | reportBluetooth connected => exact (reportBluetooth_sticks connected).conclude_again
  | setDevice device => exact (setDevice_sticks device).conclude_again
  | setMute muted =>
    cases hv : d.vetoed? (.setMute muted) with
    | none => exact (setMute_sticks hv).conclude_again
    | some demand => exact concluded_of_fails (setMute_vetoed hv)
  | _ => cases ho

/-- A call turns to video and leaves the earpiece. Once it has, the choice of the earpiece stands:
the same report does not move the call again. -/
theorem again_as_once_video :
    let d := standard.afterAll [.operation .start, .operation (.dial ⟨"1", 0, .ims, .voice, false⟩),
      .operation (.reportState 1 .active none)]
    let o : Operation := .reportVideo 1 .twoWay
    o.isRepeatable = true ∧ d.route.current = .earpiece ∧ (o.perform d).2.route.current = .speaker ∧
      o.perform (o.perform d).2 = o.perform d := by
  intro d o
  exact ⟨rfl, by decide +kernel, by decide +kernel, again_as_once (o := o) rfl d⟩

/-- The platform refuses to mute the microphone, and is asked for it once more. -/
theorem setMute_asks_again :
    let run : List Happening :=
      [.operation .start, .operation (.dial ⟨"1", 0, .cs, .voice, false⟩),
        .operation (.reportState 1 .active none),
        .circumstance (.setFailing .setMicrophoneMute true)]
    let d := standard.afterAll run
    let o : Operation := .setMute true
    Reach (fun _ h => h.ByManager) 1 d ∧ o.isRepeatable = true ∧
      o.perform (o.perform d).2 ≠ o.perform d := by
  intro run d o
  have hp : Permits (fun _ h => h.ByManager) standard run :=
    ⟨trivial, trivial, trivial, trivial, trivial⟩
  have hn : 0 + standard.givenAll run = 1 := by decide +kernel
  have hlog : (o.perform (o.perform d).2).2.outside.log.length ≠
      (o.perform d).2.outside.log.length := by decide +kernel
  exact ⟨hn ▸ (reach_standard _).all hp, rfl, fun he => hlog (by rw [he])⟩

end Desk

end Switchboard
