import Switchboard.Proofs.Desk.Wiring

/-!
# The route of the desk

Two results on where the sound of calls comes out, both by an invariant of the wiring
(`Desk.wiring`) that every step keeps:

* `route_in_order`: whatever is done to the desk, the focus goes with the posture, there is no route
  without the focus, and no accessory is in use that is not at hand.
* `route_by_priority`: as long as the user chooses no device and the audio side is not driven alone,
  Bluetooth comes before the headset, and the headset before the rest; and the Bluetooth link serves
  the focus.
-/

namespace Switchboard

open Desk (focusOf focusSignal)

namespace Wiring

variable {rule : Rule} {w w' : Wiring} {s : Signal} {video speakerphone : Bool}

/-! ## Feeding the route machine -/

@[simp] theorem focus_feed : (w.feed s video speakerphone).focus = w.focus := rfl

@[simp] theorem posture_feed : (w.feed s video speakerphone).posture = w.posture := rfl

@[simp] theorem bluetooth_feed : (w.feed s video speakerphone).bluetooth = w.bluetooth := rfl

@[simp] theorem headset_feed : (w.feed s video speakerphone).headset = w.headset := rfl

@[simp] theorem focus_note : (w.note s).focus = w.focus := by cases s <;> rfl

@[simp] theorem posture_note : (w.note s).posture = w.posture := by cases s <;> rfl

@[simp] theorem route_note : (w.note s).route = w.route := by cases s <;> rfl

theorem note_focusSignal (w : Wiring) (f : Focus) : w.note (focusSignal f) = w := by
  cases f <;> rfl

/-- The machine does with a signal what it does, or drops the route with the focus. -/
theorem route_feed (w : Wiring) (s : Signal) (video speakerphone : Bool) :
    (w.feed s video speakerphone).route =
        (w.route.process s (w.context video speakerphone)).2 ∨
      (w.feed s video speakerphone).route = .rest := by
  unfold feed
  dsimp only
  split
  · exact .inr rfl
  · exact .inl rfl

/-- Only the loss of the focus drops a route that the machine would keep. -/
theorem route_feed_of_ne (w : Wiring) (h : s ≠ .audioDeactivated) :
    (w.feed s video speakerphone).route =
      (w.route.process s (w.context video speakerphone)).2 := by
  have hs : (s == .audioDeactivated) = false := by simpa using h
  simp [feed, hs]

/-- Without the focus there is no route. -/
theorem route_feed_deactivated (w : Wiring) (video speakerphone : Bool) :
    (w.feed .audioDeactivated video speakerphone).route.current = .inactive := by
  obtain ⟨_, _, _, _, current, link⟩ := w
  cases current <;> rfl

theorem fits_feed (h : w.route.Fits (w.context video speakerphone)) (s : Signal) :
    ((w.note s).feed s video speakerphone).route.Fits
      (((w.note s).feed s video speakerphone).context video speakerphone) := by
  show Route.Machine.Fits _ ((w.note s).context video speakerphone)
  rw [context_note]
  rcases route_feed (w.note s) s video speakerphone with he | he <;> rw [he]
  · rw [route_note, context_note]
    exact h.process s
  · exact Route.Machine.fits_rest _

/-- A posture that settles anew changes the focus, or does not. -/
theorem refocus_cases (w : Wiring) (posture : Posture) (video speakerphone : Bool) :
    (focusOf posture = w.focus ∧
      { w with posture }.refocus video speakerphone = { w with posture }) ∨
    { w with posture }.refocus video speakerphone =
      { w with posture, focus := focusOf posture }.feed (focusSignal (focusOf posture)) video
        speakerphone := by
  by_cases hf : focusOf posture = w.focus
  · exact .inl ⟨hf, if_pos hf⟩
  · exact .inr (if_neg hf)

/-! ## Order -/

/-- The focus goes with the posture, there is no route without it, and the route fits what is at
hand. -/
structure InOrder (w : Wiring) : Prop where
  focus : w.focus = focusOf w.posture
  released : w.focus = .released → w.route.current = .inactive
  fits : w.route.Fits (w.context false false)

/-- Video and the loudspeaker have no say in what fits. -/
theorem InOrder.fits' (hw : w.InOrder) : w.route.Fits (w.context video speakerphone) :=
  hw.fits.congr rfl rfl

theorem InOrder.settled (hw : w.InOrder) (posture : Posture) (video speakerphone : Bool) :
    ({ w with posture }.refocus video speakerphone).InOrder := by
  rcases refocus_cases w posture video speakerphone with ⟨hf, he⟩ | he <;> rw [he]
  · exact ⟨hf.symm, hw.released, hw.fits⟩
  · refine ⟨rfl, fun hreleased => ?_, ?_⟩
    · have hr : focusOf posture = .released := hreleased
      simp only [hr]
      exact route_feed_deactivated _ video speakerphone
    · have hfit : Route.Machine.Fits w.route
          (context { w with posture, focus := focusOf posture } video speakerphone) :=
        hw.fits.congr rfl rfl
      have h := fits_feed (w := { w with posture, focus := focusOf posture }) hfit
        (focusSignal (focusOf posture))
      rw [note_focusSignal] at h
      exact h.congr rfl rfl

/-- A machine that was chosen is on a route only if calls hold the focus. -/
theorem InOrder.chosen (hw : w.InOrder) {device : Device} {next : Route.Machine}
    (h : Route.Machine.choose device (w.context video speakerphone) = .ok next) :
    InOrder { w with route := next } where
  focus := hw.focus
  released hf := by
    rcases Route.Machine.choose_eq_ok h with ⟨-, rfl⟩ | ⟨hn, -⟩
    · rfl
    · exact absurd hf hn
  fits := (Route.Machine.fits_of_choose h).congr rfl rfl

theorem InOrder.reported (hw : w.InOrder) (s : Signal) (video speakerphone : Bool) :
    ((w.note s).feed s video speakerphone).InOrder where
  focus := by
    rw [focus_feed, posture_feed, focus_note, posture_note]
    exact hw.focus
  released hf := by
    rw [focus_feed] at hf
    have hr : (w.note s).route.current = .inactive := by
      rw [route_note]
      exact hw.released (focus_note.symm.trans hf)
    rcases route_feed (w.note s) s video speakerphone with he | he <;> rw [he]
    · exact Route.Machine.process_of_released hf hr s
    · rfl
  fits := (fits_feed hw.fits' s).congr rfl rfl

/-- Every step keeps the wiring in order. -/
theorem Step.inOrder (h : Step rule w w') (hw : w.InOrder) : w'.InOrder := by
  cases h with
  | settled posture video speakerphone => exact hw.settled posture video speakerphone
  | relieved hr h => exact hw.chosen h
  | reported video speakerphone h => exact hw.reported _ video speakerphone
  | chosen hd h => exact hw.chosen h

/-! ## Priority -/

/-- The focus goes with the posture, and the route machine serves it. -/
structure Served (w : Wiring) : Prop where
  focus : w.focus = focusOf w.posture
  serves : w.route.Serves (w.context false false)

theorem Served.serves' (hw : w.Served) : w.route.Serves (w.context video speakerphone) :=
  hw.serves.congr rfl rfl rfl

/-- The machine goes with a change of the focus. -/
theorem serves_refocused (h : w.route.Serves (w.context video speakerphone)) (f : Focus) :
    ({ w with focus := f }.feed (focusSignal f) video speakerphone).route.Serves
      ({ w with focus := f }.context video speakerphone) := by
  cases f with
  | ringing =>
    rw [focusSignal, route_feed_of_ne _ (by decide)]
    exact h.ringing rfl rfl rfl
  | inCall =>
    rw [focusSignal, route_feed_of_ne _ (by decide)]
    exact h.activated rfl rfl rfl
  | released =>
    have hrest : ({ w with focus := .released }.feed (focusSignal .released) video
        speakerphone).route = .rest := by
      unfold feed
      dsimp only
      split
      · rfl
      · exact h.deactivated (by simp_all [focusSignal])
    rw [hrest]
    exact Route.Machine.serves_rest rfl

theorem Served.settled (hw : w.Served) (posture : Posture) (video speakerphone : Bool) :
    ({ w with posture }.refocus video speakerphone).Served := by
  rcases refocus_cases w posture video speakerphone with ⟨hf, he⟩ | he <;> rw [he]
  · exact ⟨hf.symm, hw.serves⟩
  · have hserves : w.route.Serves (w.context video speakerphone) := hw.serves'
    have hs := serves_refocused (w := { w with posture }) hserves (focusOf posture)
    exact ⟨rfl, hs.congr rfl rfl rfl⟩

theorem Served.reported (hw : w.Served) (hs : s.isAccessory = true) (video speakerphone : Bool) :
    ((w.note s).feed s video speakerphone).Served where
  focus := by
    rw [focus_feed, posture_feed, focus_note, posture_note]
    exact hw.focus
  serves := by
    have hne : s ≠ .audioDeactivated := by
      rintro rfl
      cases hs
    suffices h : ((w.note s).feed s video speakerphone).route.Serves
        ((w.note s).context video speakerphone) from h.congr rfl rfl rfl
    rw [route_feed_of_ne _ hne, route_note, context_note]
    refine hw.serves'.accessory ?_
    cases s <;> simp_all [Signal.isAccessory]

/-- Every step keeps the wiring served that is not a choice of the user and reports nothing but
accessories. -/
theorem Step.served (hchosen : ∀ device, ¬rule.chosen device)
    (hreported : ∀ s, rule.reported s → s.isAccessory = true) (h : Step rule w w')
    (hw : w.Served) : w'.Served := by
  cases h with
  | settled posture video speakerphone => exact hw.settled posture video speakerphone
  | relieved hr h =>
    rcases Route.Machine.choose_eq_ok h with ⟨hd, -⟩ | ⟨-, route, hroute, rfl⟩
    · cases hd
    · obtain rfl : Route.speaker = route := Option.some.inj hroute
      exact ⟨hw.focus, (hw.serves'.speaker hr).congr rfl rfl rfl⟩
  | reported video speakerphone h => exact hw.reported (hreported _ h) video speakerphone
  | chosen hd h => exact absurd hd (hchosen _)

/-- A step that reports nothing leaves the accessories at hand. -/
theorem Step.accessories_eq (hreported : ∀ s, ¬rule.reported s) (h : Step rule w w') :
    w'.bluetooth = w.bluetooth ∧ w'.headset = w.headset := by
  cases h with
  | settled posture video speakerphone =>
    rcases refocus_cases w posture video speakerphone with ⟨-, he⟩ | he <;> rw [he] <;>
      exact ⟨rfl, rfl⟩
  | relieved | chosen => exact ⟨rfl, rfl⟩
  | reported _ _ h => exact absurd h (hreported _)

end Wiring

/-- What a report says of a Bluetooth headset. -/
def Happening.bluetooth? : Happening → Option Bool
  | operation (.reportBluetooth connected) => some connected
  | _ => none

/-- What a report says of a wired headset. -/
def Happening.headset? : Happening → Option Bool
  | operation (.reportHeadset connected) => some connected
  | _ => none

/-- It is not the user's choice of a device. -/
def Happening.Unchosen : Happening → Prop
  | operation (.setDevice _) => False
  | _ => True

namespace Desk

variable {rule : Rule} {d d' : Desk} {n : Nat}

/-! ## Order in every run -/

theorem Rewires.inOrder (h : Rewires rule d d') (hd : d.wiring.InOrder) : d'.wiring.InOrder :=
  h.kept (fun _ _ hs => hs.inOrder) hd

theorem idle_inOrder (config : Config) (outside : Outside) :
    (idle config outside).wiring.InOrder where
  focus := rfl
  released _ := rfl
  fits := Route.Machine.fits_rest _

/-- **The route is in order in every run**, whatever is done to the desk and to its audio side
alone. The focus is released, ringing or in a call just as the posture is inactive, incoming or
another. When it is released there is no route. A Bluetooth headset or a wired one is only in use
while it is at hand, and the Bluetooth link is only open while Bluetooth is in use. -/
theorem route_in_order (h : Reach (fun _ _ => True) n d) :
    ((d.focus = .released ↔ d.posture.current = .inactive) ∧
      (d.focus = .ringing ↔ d.posture.current = .incoming) ∧
      (d.focus = .inCall ↔ d.posture.current ≠ .inactive ∧ d.posture.current ≠ .incoming)) ∧
    (d.focus = .released → d.route.current = .inactive) ∧
    (d.route.current = .bluetoothSco → d.bluetooth = true) ∧
    (d.route.current = .wiredHeadset → d.headset = true) ∧
    (d.route.link ≠ .closed → d.route.current = .bluetoothSco) := by
  have hd : d.wiring.InOrder := by
    induction h with
    | assembled hd _ =>
      rw [assemble_eq hd]
      exact idle_inOrder _ _
    | @next n d h _ _ ih => exact (rewires_after d h).inOrder ih
  refine ⟨?_, hd.released, hd.fits.atHand.bluetooth, hd.fits.atHand.headset, hd.fits.link⟩
  have hf : d.focus = focusOf d.posture.current := hd.focus
  rw [hf]
  cases d.posture.current <;> simp [focusOf]

/-- A run that leaves Bluetooth while a call is dialed: signals that no accessory sent take the
focus from the route machine and give it back. -/
theorem route_in_order_injected :
    let run : List Happening :=
      [.operation .start, .operation (.reportBluetooth true), .operation (.reportHeadset true),
        .operation (.dial ⟨"1", 0, .cs, .voice, false⟩), .audio (.dispatch .audioRinging),
        .audio (.submit [.audioDeactivated, .bluetoothDisconnected, .audioActivated]), .rest]
    let d := standard.afterAll run
    Reach (fun _ _ => True) 1 d ∧ d.route = ⟨.wiredHeadset, .closed⟩ ∧
      (d.route.current = .wiredHeadset → d.headset = true) := by
  intro run d
  have hp : Permits (fun _ _ => True) standard run :=
    ⟨trivial, trivial, trivial, trivial, trivial, trivial, trivial, trivial⟩
  have h : Reach (fun _ _ => True) 1 d := (reach_standard _).all hp
  exact ⟨h, by decide, (route_in_order h).2.2.2.1⟩

/-! ## Reports of accessories -/

/-- What a happening reports that the desk takes: it must be in service. -/
def taken (d : Desk) (report? : Happening → Option Bool) (h : Happening) : Option Bool :=
  if d.started then report? h else none

/-- The reports among some happenings that the desk takes, in order. -/
def reports (report? : Happening → Option Bool) : Desk → List Happening → List Bool
  | _, [] => []
  | d, h :: rest => (d.taken report? h).toList ++ (d.after h).reports report? rest

/-- The last report that the desk took, if there was one. -/
def lastReport (d : Desk) (report? : Happening → Option Bool) (run : List Happening) :
    Option Bool :=
  (d.reports report? run).getLast?

theorem lastReport_cons (report? : Happening → Option Bool) (h : Happening) (run : List Happening) :
    d.lastReport report? (h :: run) =
      ((d.after h).lastReport report? run).or (d.taken report? h) := by
  rw [lastReport, reports, List.getLast?_append]
  cases d.taken report? h <;> rfl

/-- A rule under which no device is chosen, and of accessories only what `reported` says. -/
def unchosen (reported : Signal → Prop) : Rule := ⟨False, fun _ => False, reported, fun _ => True⟩

variable {h : Happening}

theorem rewires_unchosen (reported : Signal → Prop) (hm : h.ByManager) (hu : h.Unchosen)
    (hq : d.Quiet)
    (hbluetooth : ∀ b, h.bluetooth? = some b →
      reported (if b then .bluetoothConnected else .bluetoothDisconnected))
    (hheadset : ∀ b, h.headset? = some b →
      reported (if b then .headsetConnected else .headsetDisconnected)) :
    Rewires (unchosen reported) d (d.after h) ∧ (d.after h).Quiet := by
  have hh : h.Heeds (unchosen reported) d := by
    unfold Happening.Heeds
    split
    · exact hu.elim
    · exact fun _ _ _ _ => .inr trivial
    · exact hheadset _ rfl
    · exact hbluetooth _ rfl
    all_goals trivial
  have hp : Transitions (unchosen reported) d (d.given h) (d.after h) :=
    transitions_after hm hh False.elim
  exact ⟨hp.rewires (.inl hq), hp.quiet hq⟩

/-- Whatever happens, the wiring stays served. -/
theorem served_after (hm : h.ByManager) (hu : h.Unchosen) (hq : d.Quiet) (hd : d.wiring.Served) :
    (d.after h).wiring.Served ∧ (d.after h).Quiet := by
  obtain ⟨hw, hquiet⟩ := rewires_unchosen (fun s => s.isAccessory = true) hm hu hq
    (fun b _ => by cases b <;> rfl) (fun b _ => by cases b <;> rfl)
  exact ⟨hw.kept (fun _ _ hs => hs.served (fun _ => id) fun _ => id) hd, hquiet⟩

/-- What is no report leaves the accessories at hand. -/
theorem accessories_after (hm : h.ByManager) (hu : h.Unchosen) (hq : d.Quiet)
    (hb : h.bluetooth? = none) (hh : h.headset? = none) :
    (d.after h).bluetooth = d.bluetooth ∧ (d.after h).headset = d.headset := by
  obtain ⟨hw, -⟩ := rewires_unchosen (fun _ => False) hm hu hq
    (fun b h => by simp [hb] at h) (fun b h => by simp [hh] at h)
  refine hw.kept (P := fun w => w.bluetooth = d.bluetooth ∧ w.headset = d.headset)
    (fun w w' hs hw => ?_) ⟨rfl, rfl⟩
  obtain ⟨hb, hh⟩ := hs.accessories_eq fun _ => id
  exact ⟨hb.trans hw.1, hh.trans hw.2⟩

/-- A report is noted if the desk takes it. -/
theorem accessories_report (d : Desk) {s : Signal} (hs : s.isAccessory = true) :
    (inService (modify fun d => (d.dispatch s).2)).Within d fun d' =>
      d'.bluetooth = (if d.started then d.wiring.note s else d.wiring).bluetooth ∧
      d'.headset = (if d.started then d.wiring.note s else d.wiring).headset := by
  have hdevice : s.isDevice = true := by cases s <;> first | rfl | cases hs
  have hw : (d.dispatch s).2.wiring = (d.wiring.note s).feed s (videoInUse d.registry.calls)
      (speakerphoneInUse d.registry.calls) := by
    rw [dispatch, if_neg (by simp [Signal.isCall_of_isAccessory hs]), if_pos hdevice,
      wiring_dispatchDevice]
  refine ends_inService (fun hstarted => ?_) fun hstarted => ?_
  · rw [if_pos hstarted]
    exact ⟨congrArg Wiring.bluetooth hw, congrArg Wiring.headset hw⟩
  · rw [if_neg (by simp [hstarted])]
    exact ⟨rfl, rfl⟩

/-- The accessories at hand after a happening are those that it reports, or those before it. -/
theorem accessories_eq (hm : h.ByManager) (hu : h.Unchosen) (hq : d.Quiet) :
    (d.after h).bluetooth = (d.taken (·.bluetooth?) h).getD d.bluetooth ∧
      (d.after h).headset = (d.taken (·.headset?) h).getD d.headset := by
  -- What reports neither accessory leaves both as they are.
  have plain (hb : h.bluetooth? = none) (hh : h.headset? = none) :
      (d.after h).bluetooth = (d.taken (·.bluetooth?) h).getD d.bluetooth ∧
        (d.after h).headset = (d.taken (·.headset?) h).getD d.headset := by
    obtain ⟨hbluetooth, hheadset⟩ := accessories_after hm hu hq hb hh
    simp [taken, hb, hh, hbluetooth, hheadset]
  cases h with
  | operation o =>
    cases o with
    | reportHeadset connected =>
      have hs : (if connected then Signal.headsetConnected else .headsetDisconnected).isAccessory
          = true := by cases connected <;> rfl
      have hr := (accessories_report d hs).perform
      cases hstarted : d.started <;> cases connected <;>
        simp_all [taken, Happening.bluetooth?, Happening.headset?, Wiring.note] <;> exact hr
    | reportBluetooth connected =>
      have hs :
          (if connected then Signal.bluetoothConnected else .bluetoothDisconnected).isAccessory
          = true := by cases connected <;> rfl
      have hr := (accessories_report d hs).perform
      cases hstarted : d.started <;> cases connected <;>
        simp_all [taken, Happening.bluetooth?, Happening.headset?, Wiring.note] <;> exact hr
    | _ => exact plain rfl rfl
  | audio => exact hm.elim
  | circumstance | rest => exact plain rfl rfl

/-! ## Priority in every run -/

/-- What a run of the manager in which the user chooses no device makes of the accessories. -/
theorem served_afterAll {run : List Happening} (hr : ∀ h ∈ run, h.ByManager ∧ h.Unchosen)
    (hq : d.Quiet) (hd : d.wiring.Served) :
    (d.afterAll run).wiring.Served ∧
      (d.afterAll run).bluetooth = (d.lastReport (·.bluetooth?) run).getD d.bluetooth ∧
      (d.afterAll run).headset = (d.lastReport (·.headset?) run).getD d.headset := by
  induction run generalizing d with
  | nil => exact ⟨hd, rfl, rfl⟩
  | cons h rest ih =>
    obtain ⟨hm, hu⟩ := hr h (by simp)
    obtain ⟨hd', hq'⟩ := served_after hm hu hq hd
    obtain ⟨hbluetooth, hheadset⟩ := accessories_eq hm hu hq
    obtain ⟨hserved, hb, hh⟩ := ih (fun x hx => hr x (by simp [hx])) hq' hd'
    refine ⟨hserved, ?_, ?_⟩
    · rw [afterAll, hb, lastReport_cons, hbluetooth, Option.getD_or]
    · rw [afterAll, hh, lastReport_cons, hheadset, Option.getD_or]

theorem idle_served (config : Config) (outside : Outside) :
    (idle config outside).wiring.Served where
  focus := rfl
  serves := Route.Machine.serves_rest rfl

/-- **The route goes by priority.** In a run of the manager in which the user chooses no device, and
while the posture is not inactive: Bluetooth is in use if the last report of it that the desk took
said that it is there; else the wired headset if its last report said so; else the loudspeaker or
the earpiece. While Bluetooth is in use, its link is for the ring signal if the posture is incoming,
and else for voice. A desk out of service takes no reports. -/
theorem route_by_priority {config : Config} {missing : List Collaborator} {outside : Outside}
    {d₀ : Desk} (hd₀ : assemble config missing outside = .ok d₀) {run : List Happening}
    (hr : ∀ h ∈ run, h.ByManager ∧ h.Unchosen)
    (hp : (d₀.afterAll run).posture.current ≠ .inactive) :
    (if d₀.lastReport (·.bluetooth?) run = some true then
        (d₀.afterAll run).route.current = .bluetoothSco
      else if d₀.lastReport (·.headset?) run = some true then
        (d₀.afterAll run).route.current = .wiredHeadset
      else
        (d₀.afterAll run).route.current = .speaker ∨
          (d₀.afterAll run).route.current = .earpiece) ∧
    ((d₀.afterAll run).route.current = .bluetoothSco →
      (d₀.afterAll run).route.link =
        if (d₀.afterAll run).posture.current = .incoming then .ringing else .voice) := by
  rw [assemble_eq hd₀] at *
  obtain ⟨⟨hf, hlead, hlink⟩, hb, hh⟩ := served_afterAll (d := idle config outside) hr (.inl rfl)
    (idle_served config outside)
  have hbluetooth : (idle config outside).lastReport (·.bluetooth?) run = some true ↔
      ((idle config outside).afterAll run).bluetooth = true := by
    rw [hb]
    cases (idle config outside).lastReport (·.bluetooth?) run <;> simp [idle]
  have hheadset : (idle config outside).lastReport (·.headset?) run = some true ↔
      ((idle config outside).afterAll run).headset = true := by
    rw [hh]
    cases (idle config outside).lastReport (·.headset?) run <;> simp [idle]
  simp only [hbluetooth, hheadset]
  generalize (idle config outside).afterAll run = d at *
  have hfocus : d.focus = focusOf d.posture.current := hf
  have hheld : ¬d.focus = .released := by
    rw [hfocus]
    revert hp
    cases d.posture.current <;> simp [focusOf]
  refine ⟨?_, fun hr => ?_⟩
  · have hl : if d.focus = .released then d.route.current = .inactive
        else if d.bluetooth then d.route.current = .bluetoothSco
        else if d.headset then d.route.current = .wiredHeadset
        else d.route.current = .speaker ∨ d.route.current = .earpiece := hlead
    rwa [if_neg hheld] at hl
  · have hl : d.route.link = if d.route.current = .bluetoothSco then d.focus.link else .closed :=
      congrArg Route.Machine.link hlink
    rw [hl, if_pos hr, hfocus]
    revert hp
    cases d.posture.current <;> simp [focusOf, Focus.link]

/-- A run in which Bluetooth stays in use although its last report said that it is gone: the desk
was out of service by then. -/
theorem route_by_priority_shutdown :
    let run : List Happening :=
      [.operation .start, .operation (.reportHeadset true),
        .operation (.arrive ⟨"1", 0, .cs, .voice⟩), .operation (.reportBluetooth true),
        .operation .shutdown, .operation (.reportBluetooth false)]
    assemble .standard [] (.willing 0) = .ok standard ∧ (∀ h ∈ run, h.ByManager ∧ h.Unchosen) ∧
      (standard.afterAll run).posture.current ≠ .inactive ∧
      standard.lastReport (·.bluetooth?) run = some true ∧
      (standard.afterAll run).route = ⟨.bluetoothSco, .ringing⟩ ∧
      ((standard.afterAll run).route.current = .bluetoothSco →
        (standard.afterAll run).route.link =
          if (standard.afterAll run).posture.current = .incoming then .ringing else .voice) := by
  intro run
  have hd : assemble .standard [] (.willing 0) = .ok standard := rfl
  have hr : ∀ h ∈ run, h.ByManager ∧ h.Unchosen := by
    simp [run, Happening.ByManager, Happening.Unchosen]
  have hp : (standard.afterAll run).posture.current ≠ .inactive := by decide
  exact ⟨hd, hr, hp, by decide, by decide, (route_by_priority hd hr hp).2⟩

/-- Taken as they were made, and not as the desk took them, the last reports do not settle the
route: a desk out of service ignores a Bluetooth headset, while a call is still being dialed. -/
theorem route_ignores_refused_report :
    let run : List Happening :=
      [.operation .start, .operation (.dial ⟨"100", 0, .cs, .voice, false⟩), .operation .shutdown,
        .operation (.reportBluetooth true)]
    (∀ h ∈ run, h.ByManager ∧ h.Unchosen) ∧
      (standard.afterAll run).posture.current ≠ .inactive ∧
      (run.filterMap (·.bluetooth?)).getLast? = some true ∧
      (standard.afterAll run).route.current ≠ .bluetoothSco := by
  intro run
  refine ⟨?_, by decide, rfl, by decide⟩
  simp [run, Happening.ByManager, Happening.Unchosen]

end Desk

end Switchboard
