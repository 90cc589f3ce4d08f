import Switchboard.Route.Machine

/-!
# Routes that fit

A route to an accessory needs the accessory, and an open link needs the route to Bluetooth
(`Machine.Fits`). Any signal and any choice of the user keep this, as long as the accessories at
hand are those that the signals told of (`Machine.Fits.process`, `Machine.fits_of_choose`).

A machine that only hears of accessories and of changes of the focus does better: its route is the
one with the highest priority, and the link serves the focus (`Machine.Serves`).

* `Machine.process_cases`, `Machine.choose_eq_ok`: all that a signal or a choice can do.
* `Machine.Serves.accessory`, `Machine.Serves.focus`: the priority is kept.
-/

namespace Switchboard.Route

variable {ctx : Context}

/-- The context after a signal of an accessory. -/
def Context.note (ctx : Context) : Signal → Context
  | .headsetConnected => { ctx with headset := true }
  | .headsetDisconnected => { ctx with headset := false }
  | .bluetoothConnected => { ctx with bluetooth := true }
  | .bluetoothDisconnected => { ctx with bluetooth := false }
  | _ => ctx

@[simp] theorem Context.note_focus (ctx : Context) (s : Signal) :
    (ctx.note s).focus = ctx.focus := by
  cases s <;> rfl

/-- The accessory that a route leads to is at hand. -/
structure AtHand (r : Route) (ctx : Context) : Prop where
  bluetooth : r = .bluetoothSco → ctx.bluetooth = true
  headset : r = .wiredHeadset → ctx.headset = true

theorem select_atHand (ctx : Context) : (select ctx).AtHand ctx := by
  constructor <;> intro h <;> unfold select at h <;> grind

theorem select_of_released (hf : ctx.focus = .released) : select ctx = .inactive := if_pos hf

namespace Machine

variable {m : Machine} {s : Signal}

/-! ## What a signal and a choice can do -/

/-- What a signal makes of the machine. An accessory that goes while it is in use is not ignored. -/
theorem process_cases (m : Machine) (s : Signal) (ctx : Context) :
    ((m.process s ctx).2 = m ∧ (s = .headsetDisconnected → m.current ≠ .wiredHeadset) ∧
      (s = .bluetoothDisconnected → m.current ≠ .bluetoothSco)) ∨
    (m.process s ctx).2 = on (select ctx) ctx ∨
    (m.process s ctx).2 = rest ∨
    (s = .headsetConnected ∧ (m.process s ctx).2 = on .wiredHeadset ctx) ∨
    (s = .bluetoothConnected ∧ (m.process s ctx).2 = on .bluetoothSco ctx) ∨
    (m.current = .bluetoothSco ∧ (s = .audioActivated ∨ s = .audioRinging) ∧
      ∃ link, (m.process s ctx).2 = { m with link }) := by
  obtain ⟨current, link⟩ := m
  cases current <;> cases s <;> simp [process, next, on, rest]

/-- A choice that succeeds drops the route, or leads to a device at hand while calls hold the
focus. -/
theorem choose_eq_ok {device : Device} {next : Machine} (h : choose device ctx = .ok next) :
    device = .disabled ∧ next = rest ∨
      ctx.focus ≠ .released ∧ ∃ route, target? device ctx = some route ∧ next = on route ctx := by
  unfold choose at h
  split at h
  · rename_i hd
    exact .inl ⟨hd, (Except.ok.inj h).symm⟩
  · split at h
    · cases h
    · rename_i route hroute
      split at h
      · cases h
      · rename_i hf
        exact .inr ⟨hf, route, hroute, (Except.ok.inj h).symm⟩

theorem target?_atHand {device : Device} {route : Route} (h : target? device ctx = some route) :
    route.AtHand ctx := by
  constructor <;> intro hr <;> subst hr <;> unfold target? at h <;> grind

/-! ## Fitting -/

/-- Only accessories at hand are in use, and the link is only open on Bluetooth. -/
structure Fits (m : Machine) (ctx : Context) : Prop where
  atHand : m.current.AtHand ctx
  link : m.link ≠ .closed → m.current = .bluetoothSco

theorem fits_rest (ctx : Context) : rest.Fits ctx where
  atHand := ⟨nofun, nofun⟩
  link h := absurd rfl h

theorem fits_on {r : Route} (h : r.AtHand ctx) : (on r ctx).Fits ctx where
  atHand := h
  link hl := Decidable.byContradiction fun hr => hl (if_neg hr)

/-- Only the accessories matter to what fits. -/
theorem Fits.congr {ctx' : Context} (h : m.Fits ctx) (hb : ctx'.bluetooth = ctx.bluetooth)
    (hh : ctx'.headset = ctx.headset) : m.Fits ctx' where
  atHand := ⟨fun hr => hb.trans (h.atHand.bluetooth hr), fun hr => hh.trans (h.atHand.headset hr)⟩
  link := h.link

/-- A machine that is not on the accessory that a signal takes away fits afterwards. -/
theorem Fits.note (h : m.Fits ctx) (hh : s = .headsetDisconnected → m.current ≠ .wiredHeadset)
    (hb : s = .bluetoothDisconnected → m.current ≠ .bluetoothSco) : m.Fits (ctx.note s) := by
  refine ⟨⟨fun hr => ?_, fun hr => ?_⟩, h.link⟩
  · have hat := h.atHand.bluetooth hr
    cases s with
    | bluetoothDisconnected => exact absurd hr (hb rfl)
    | bluetoothConnected => rfl
    | _ => exact hat
  · have hat := h.atHand.headset hr
    cases s with
    | headsetDisconnected => exact absurd hr (hh rfl)
    | headsetConnected => rfl
    | _ => exact hat

/-- Whatever is signalled, the machine fits what is at hand afterwards. -/
theorem Fits.process (h : m.Fits ctx) (s : Signal) :
    (m.process s (ctx.note s)).2.Fits (ctx.note s) := by
  rcases process_cases m s (ctx.note s) with ⟨he, hh, hb⟩ | he | he | ⟨hs, he⟩ | ⟨hs, he⟩ |
    ⟨hm, hs, link, he⟩ <;> rw [he]
  · exact h.note hh hb
  · exact fits_on (select_atHand _)
  · exact fits_rest _
  · subst hs
    exact fits_on ⟨nofun, fun _ => rfl⟩
  · subst hs
    exact fits_on ⟨fun _ => rfl, nofun⟩
  · have hn : m.Fits (ctx.note s) := h.note (by grind) (by grind)
    exact ⟨hn.atHand, fun _ => hm⟩

theorem fits_of_choose {device : Device} {next : Machine} (h : choose device ctx = .ok next) :
    next.Fits ctx := by
  rcases choose_eq_ok h with ⟨-, rfl⟩ | ⟨-, route, hroute, rfl⟩
  · exact fits_rest ctx
  · exact fits_on (target?_atHand hroute)

/-- Without the focus a machine that is off stays off. -/
theorem process_of_released (hf : ctx.focus = .released) (hm : m.current = .inactive) (s : Signal) :
    (m.process s ctx).2.current = .inactive := by
  obtain ⟨current, link⟩ := m
  subst hm
  cases s <;> simp [process, next, on, select_of_released hf]

/-! ## Priority -/

/-- The route has the highest priority of those at hand. -/
def Leading (r : Route) (ctx : Context) : Prop :=
  if ctx.focus = .released then r = .inactive
  else if ctx.bluetooth then r = .bluetoothSco
  else if ctx.headset then r = .wiredHeadset
  else r = .speaker ∨ r = .earpiece

/-- The machine is on a leading route, and the link serves the focus. -/
def Serves (m : Machine) (ctx : Context) : Prop := Leading m.current ctx ∧ m = on m.current ctx

theorem leading_select (ctx : Context) : Leading (select ctx) ctx := by
  unfold Leading select
  grind

theorem serves_on {r : Route} (h : Leading r ctx) : (on r ctx).Serves ctx := ⟨h, rfl⟩

/-- The machine goes with every signal of an accessory: what has priority takes over when it comes,
and gives way when it goes. -/
theorem Serves.accessory (h : m.Serves ctx) (hs : s = .headsetConnected ∨ s = .headsetDisconnected ∨
    s = .bluetoothConnected ∨ s = .bluetoothDisconnected) :
    (m.process s (ctx.note s)).2.Serves (ctx.note s) := by
  obtain ⟨hl, hm⟩ := h
  generalize m.current = r at hl hm
  subst hm
  have hsel : (on (select (ctx.note s)) (ctx.note s)).Serves (ctx.note s) :=
    serves_on (leading_select _)
  rcases hs with rfl | rfl | rfl | rfl
  · -- A headset takes over from the earpiece and the loudspeaker.
    cases r <;> simp_all [Serves, Leading, process, next, on, Context.note]
  · -- Only a headset in use is given up.
    cases r <;> first | exact hsel | simp_all [Serves, Leading, process, next, on, Context.note]
  · -- Bluetooth takes over from all others.
    cases r <;> simp_all [Serves, Leading, process, next, on, Context.note]
  · -- Only Bluetooth in use is given up.
    cases r <;> first | exact hsel | simp_all [Serves, Leading, process, next, on, Context.note]

/-- Without the focus the machine that is off serves. -/
theorem serves_rest (hf : ctx.focus = .released) : rest.Serves ctx := by
  refine ⟨?_, rfl⟩
  rw [Leading, if_pos hf]
  rfl

section

variable {ctx' : Context} (h : m.Serves ctx) (hb : ctx'.bluetooth = ctx.bluetooth)
  (hh : ctx'.headset = ctx.headset)
include h hb hh

/-- The machine goes with calls that begin to ring. -/
theorem Serves.ringing (hf : ctx'.focus = .ringing) :
    (m.process .audioRinging ctx').2.Serves ctx' := by
  obtain ⟨hl, hm⟩ := h
  generalize m.current = r at hl hm
  subst hm
  have hsel : (on (select ctx') ctx').Serves ctx' := serves_on (leading_select ctx')
  cases r with
  | inactive => exact hsel
  | _ => simp_all [Serves, Leading, process, next, on, Focus.link]

/-- The machine goes with a call that takes the audio path. -/
theorem Serves.activated (hf : ctx'.focus = .inCall) :
    (m.process .audioActivated ctx').2.Serves ctx' := by
  obtain ⟨hl, hm⟩ := h
  generalize m.current = r at hl hm
  subst hm
  have hsel : (on (select ctx') ctx').Serves ctx' := serves_on (leading_select ctx')
  cases r with
  | inactive | speaker => exact hsel
  | _ => simp_all [Serves, Leading, process, next, on, Focus.link]

end

/-- A machine that serves does not refuse to be turned off and stay on. -/
theorem Serves.deactivated (h : m.Serves ctx) {ctx' : Context}
    (ht : (m.process .audioDeactivated ctx').1 = true) :
    (m.process .audioDeactivated ctx').2 = rest := by
  obtain ⟨-, hm⟩ := h
  generalize m.current = r at hm
  subst hm
  cases r <;> simp_all [process, next, on, rest]

/-- A leading route stays so while the focus and the accessories do. -/
theorem Serves.congr {ctx' : Context} (h : m.Serves ctx) (hb : ctx'.bluetooth = ctx.bluetooth)
    (hh : ctx'.headset = ctx.headset) (hf : ctx'.focus = ctx.focus) : m.Serves ctx' := by
  unfold Serves Leading on at *
  rw [hb, hh, hf]
  exact h

/-- The loudspeaker serves in place of the earpiece. -/
theorem Serves.speaker (h : m.Serves ctx) (hm : m.current = .earpiece) :
    (on .speaker ctx).Serves ctx := by
  obtain ⟨hl, -⟩ := h
  refine serves_on ?_
  unfold Leading at *
  grind

end Machine

end Switchboard.Route
