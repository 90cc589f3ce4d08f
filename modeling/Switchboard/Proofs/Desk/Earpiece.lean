import Switchboard.Proofs.Desk.Attendance
import Switchboard.Proofs.Desk.Routing

/-!
# The earpiece

Two results on when the sound of calls comes out of the earpiece, by what the audio side keeps while
the user does not choose it (`Desk.Discreet`):

* `video_off_earpiece`: video is not played on the earpiece.
* `ringing_on_speaker`: a call that rings is heard from the loudspeaker where no accessory is at
  hand, unless a call was on the earpiece when it began to ring.

The audio side remembers whether video was on show (`videoShown`) and takes the calls off the
earpiece when they turn to video. In the middle of a transition the memory is behind the calls, so
what is kept there is weaker (`watched`); after every step it is up to date (`Step.shown_eq`).

The second result has its exception because the earpiece does not give way to ringing:
`ringing_on_earpiece`.
-/

namespace Switchboard

open Playback (Sound)

/-! ## The way to the earpiece -/

namespace Route

variable {ctx : Context} {m : Machine} {s : Signal}

theorem select_eq_earpiece (h : select ctx = .earpiece) :
    ctx.focus = .inCall ∧ ctx.video = false := by
  obtain ⟨bluetooth, headset, focus, video, _⟩ := ctx
  cases bluetooth <;> cases headset <;> cases focus <;> cases video <;> simp [select] at h ⊢

/-- A signal leads to the earpiece only in a call without video. -/
theorem Machine.process_eq_earpiece (h : (m.process s ctx).2.current = .earpiece) :
    m.current = .earpiece ∨ ctx.focus = .inCall ∧ ctx.video = false := by
  rcases m.process_cases s ctx with ⟨he, -⟩ | he | he | ⟨-, he⟩ | ⟨-, he⟩ | ⟨-, -, link, he⟩ <;>
    rw [he] at h
  · exact .inl h
  · exact .inr (select_eq_earpiece h)
  · cases h
  · cases h
  · cases h
  · exact .inl h

/-- The user gets to the earpiece by choosing it. -/
theorem Machine.choose_eq_earpiece {device : Device} {next : Machine}
    (h : choose device ctx = .ok next) (hn : next.current = .earpiece) : device = .earpiece := by
  rcases choose_eq_ok h with ⟨-, rfl⟩ | ⟨-, route, hroute, rfl⟩
  · cases hn
  · obtain rfl : route = .earpiece := hn
    cases device <;> simp [target?] at hroute ⊢

/-- While calls hold the focus, the loudspeaker can be chosen. -/
theorem Machine.choose_speaker (hf : ctx.focus ≠ .released) :
    choose .speaker ctx = .ok (on .speaker ctx) := by
  simp [choose, target?, hf]

end Route

/-! ## The device that is announced -/

/-- What listeners know of the device: which one is in use, and which one was when the posture last
became `incoming`. -/
structure Outlet where
  device : Device
  rang : Device
  deriving DecidableEq

/-- What listeners know of the device after another event. -/
def Outlet.hear (o : Outlet) : Event → Outlet
  | .deviceChanged _ device => { o with device }
  | .postureChanged _ .incoming => { o with rang := o.device }
  | _ => o

/-- What listeners know of the device. -/
def Journal.outlet (j : Journal) : Outlet := j.entries.foldl Outlet.hear ⟨.disabled, .disabled⟩

theorem Journal.outlet_emit (j : Journal) (e : Event) : (j.emit e).outlet = j.outlet.hear e := by
  unfold outlet emit
  rw [List.foldl_append]
  rfl

namespace Desk

variable {rule : Rule} {d d' : Desk} {n : Nat} {calls : List Call} {watched : Prop}

/-- What the use of the earpiece hangs on. -/
def handset (d : Desk) : Wiring × Bool × Outlet := (d.wiring, d.videoShown, d.journal.outlet)

theorem handset_emit (d : Desk) {e : Event} (he : d.journal.outlet.hear e = d.journal.outlet) :
    (d.emit e).handset = d.handset := by
  unfold handset
  rw [show (d.emit e).journal.outlet = _ from d.journal.outlet_emit e, he]
  rfl

theorem handset_playbackOnly (h : d.PlaybackOnly d') : d'.handset = d.handset := by
  -- Playback does not concern the device.
  have houtlet : d'.journal.outlet = d.journal.outlet :=
    h.journal.reading_eq (·.foldl Outlet.hear ⟨.disabled, .disabled⟩) fun events e he => by
      rw [List.foldl_append]
      cases e <;> first | rfl | cases he
  unfold handset
  rw [houtlet, h.rest]
  rfl

theorem handset_ask (d : Desk) (demand : Demand) : (d.ask demand).2.handset = d.handset := rfl

theorem handset_applyMute (d : Desk) (muted : Bool) : (d.applyMute muted).handset = d.handset :=
  view_applyMute handset rfl fun _ => handset_emit _ rfl

theorem handset_carryOut (calls : List Call) (d : Desk) (e : Effect) :
    (carryOut calls d e).handset = d.handset := by
  cases he : e.mode? with
  | none => exact handset_playbackOnly (playbackOnly_carryOut calls d he)
  | some mode =>
    cases e with
    | modeChanged mode => exact handset_emit _ rfl
    | _ => cases he

/-- The posture machine moves, and the listeners hear of it. -/
theorem handset_turned (d : Desk) (calls : List Call) (posture : Posture.Machine) :
    (d.turned calls posture).handset =
      ({ d.wiring with posture := posture.current }, d.videoShown,
        if posture.current = d.posture.current then d.journal.outlet
        else d.journal.outlet.hear (.postureChanged d.posture.current posture.current)) := by
  have hfold (effects : List Effect) (d : Desk) :
      (effects.foldl (carryOut calls) d).handset = d.handset := by
    induction effects generalizing d with
    | nil => rfl
    | cons e rest ih => rw [List.foldl_cons, ih, handset_carryOut]
  unfold turned
  dsimp only
  rw [hfold]
  split
  · rfl
  · unfold handset
    rw [show (Desk.emit _ _).journal.outlet = _ from Journal.outlet_emit _ _]
    rfl

theorem videoShown_moveRoute (d : Desk) (next : Route.Machine) :
    (d.moveRoute next).videoShown = d.videoShown := by
  unfold moveRoute
  dsimp only
  split <;> split <;> rfl

/-- The route machine moves, and the listeners hear of it. -/
theorem outlet_moveRoute (d : Desk) (next : Route.Machine) :
    (d.moveRoute next).journal.outlet =
      if next.current = d.route.current then d.journal.outlet
      else { d.journal.outlet with device := next.current.device } := by
  unfold moveRoute
  dsimp only
  split <;> split
  · rfl
  · exact Journal.outlet_emit _ _
  · rfl
  · exact Journal.outlet_emit _ _

/-! ## Staying off the earpiece -/

/-- What is announced is the device in use, and the earpiece is in use only for a reason: video that
is watched for was not on show when it was last looked for, and if a call rings then a call was on
the earpiece already when it began to. -/
structure Discreet (watched : Prop) (d : Desk) : Prop where
  announced : d.journal.outlet.device = d.route.current.device
  screened : d.route.current = .earpiece → watched → d.videoShown = false
  rang : d.route.current = .earpiece → d.posture.current = .incoming →
    d.journal.outlet.rang = .earpiece

theorem Discreet.of_handset (h : d.Discreet watched) (hs : d'.handset = d.handset) :
    d'.Discreet watched := by
  obtain ⟨hw, hv, ho⟩ : d'.wiring = d.wiring ∧ d'.videoShown = d.videoShown ∧
      d'.journal.outlet = d.journal.outlet := by simpa [handset] using hs
  have hroute : d'.route = d.route := congrArg Wiring.route hw
  have hposture : d'.posture.current = d.posture.current := congrArg Wiring.posture hw
  refine ⟨?_, ?_, ?_⟩
  · rw [ho, hroute]
    exact h.announced
  · rw [hv, hroute]
    exact h.screened
  · rw [ho, hroute, hposture]
    exact h.rang

theorem Discreet.mono {watched' : Prop} (h : d.Discreet watched) (hw : watched' → watched) :
    d.Discreet watched' :=
  ⟨h.announced, fun hr hw' => h.screened hr (hw hw'), h.rang⟩

/-- If a call begins to ring, what listeners know of is the device that is in use. -/
theorem Discreet.turned (h : d.Discreet watched) (calls : List Call) (posture : Posture.Machine) :
    (d.turned calls posture).Discreet watched := by
  obtain ⟨hw, hv, ho⟩ : _ ∧ _ ∧ _ := by simpa [handset] using handset_turned d calls posture
  have hroute : (d.turned calls posture).route = d.route := congrArg Wiring.route hw
  have hposture : (d.turned calls posture).posture.current = posture.current :=
    congrArg Wiring.posture hw
  refine ⟨?_, ?_, fun hr hp => ?_⟩
  · rw [ho, hroute, ← h.announced]
    split
    · rfl
    · cases posture.current <;> rfl
  · rw [hv, hroute]
    exact h.screened
  · rw [hroute] at hr
    rw [hposture] at hp
    rw [ho]
    split
    · rename_i hsame
      exact h.rang hr (hsame ▸ hp)
    · rw [hp]
      show d.journal.outlet.device = _
      rw [h.announced, hr]
      rfl

/-- The route machine may move to the earpiece in a call without video. -/
theorem Discreet.moveRoute (h : d.Discreet watched) {next : Route.Machine}
    (hn : next.current = .earpiece → d.route.current = .earpiece ∨
      d.posture.current ≠ .incoming ∧ (watched → d.videoShown = false)) :
    (d.moveRoute next).Discreet watched := by
  have hw := wiring_moveRoute d next
  have ho := outlet_moveRoute d next
  have hroute : (d.moveRoute next).route = next := congrArg Wiring.route hw
  have hposture : (d.moveRoute next).posture.current = d.posture.current :=
    congrArg Wiring.posture hw
  refine ⟨?_, fun hr hwatched => ?_, fun hr hp => ?_⟩
  · rw [ho, hroute]
    split
    · rename_i hsame
      rw [hsame]
      exact h.announced
    · rfl
  · rw [hroute] at hr
    rw [videoShown_moveRoute]
    rcases hn hr with he | ⟨-, hs⟩
    · exact h.screened he hwatched
    · exact hs hwatched
  · rw [hroute] at hr
    rw [hposture] at hp
    have hrang : (d.moveRoute next).journal.outlet.rang = d.journal.outlet.rang := by
      rw [ho]
      split <;> rfl
    rw [hrang]
    rcases hn hr with he | ⟨hn, -⟩
    · exact h.rang he hp
    · exact absurd hp hn

theorem Discreet.feedRoute (h : d.Discreet watched) (hf : d.focus = focusOf d.posture.current)
    (hv : videoInUse calls = false → watched → d.videoShown = false) (s : Signal) :
    (d.feedRoute s calls).2.Discreet watched := by
  unfold Desk.feedRoute
  dsimp only
  refine h.moveRoute fun hn => ?_
  split at hn
  · cases hn
  · rcases Route.Machine.process_eq_earpiece hn with he | ⟨hfocus, hvideo⟩
    · exact .inl he
    · refine .inr ⟨fun hp => ?_, hv hvideo⟩
      have hringing : d.focus = .ringing := by rw [hf, hp]; rfl
      cases hfocus.symm.trans hringing

/-- When the focus follows the posture, video of the calls at hand is still watched for. -/
theorem Discreet.updateFocus (h : d.Discreet (videoInUse calls = true)) :
    (d.updateFocus calls).Discreet (videoInUse calls = true) := by
  unfold Desk.updateFocus
  dsimp only
  split
  · exact h
  · have hd : ({ d with focus := focusOf d.posture.current } : Desk).Discreet
        (videoInUse calls = true) := ⟨h.announced, h.screened, h.rang⟩
    have hfed := hd.feedRoute rfl (fun hv hw => absurd (hv.symm.trans hw) Bool.false_ne_true)
      (focusSignal (focusOf d.posture.current))
    split
    · exact hfed.of_handset (handset_applyMute _ _)
    · exact hfed

/-- Calls that left the earpiece are not on it. -/
theorem Discreet.leaveEarpiece (h : d.Discreet watched)
    (hf : d.route.current = .earpiece → d.focus ≠ .released) :
    (d.leaveEarpiece calls).2.Discreet True := by
  unfold Desk.leaveEarpiece
  split
  · rename_i hr
    rw [Route.Machine.choose_speaker (hf hr)]
    have hoff : (Route.Machine.on .speaker (d.context calls)).current ≠ .earpiece := by
      simp [Route.Machine.on]
    have hm := h.moveRoute fun hn => absurd hn hoff
    have hroute : (d.moveRoute (.on .speaker (d.context calls))).route.current = .speaker :=
      congrArg (·.route.current) (wiring_moveRoute d _)
    exact ⟨hm.announced, fun he => by simp [hroute] at he, hm.rang⟩
  · rename_i hr
    exact ⟨h.announced, fun he => absurd he hr, h.rang⟩

/-- After the memory of video is brought up to date, all of it is watched for. -/
theorem Discreet.updateVideoRoute (h : d.Discreet (videoInUse calls = true))
    (hf : d.route.current = .earpiece → d.focus ≠ .released) :
    (d.updateVideoRoute calls).Discreet True := by
  unfold Desk.updateVideoRoute
  dsimp only
  split
  · have hd : ({ d with videoShown := videoInUse calls } : Desk).Discreet False :=
      ⟨h.announced, fun _ => False.elim, h.rang⟩
    exact hd.leaveEarpiece hf
  · rename_i hbecame
    refine ⟨h.announced, fun hr _ => ?_, h.rang⟩
    show videoInUse calls = false
    by_contra hv
    have hv : videoInUse calls = true := by simpa using hv
    exact hbecame (by simp [hv, h.screened hr hv])

theorem Discreet.routeVideo (h : d.Discreet watched) (ho : d.wiring.InOrder) :
    d.routeVideo.2.Discreet True := by
  have hd : ({ d with videoShown := videoInUse d.registry.calls } : Desk).Discreet False :=
    ⟨h.announced, fun _ => False.elim, h.rang⟩
  unfold Desk.routeVideo
  dsimp only
  split
  · refine hd.leaveEarpiece fun hr hf => ?_
    cases (ho.released hf).symm.trans hr
  · rename_i hv
    exact ⟨h.announced, fun _ _ => by simpa using hv, h.rang⟩

/-! ## Corrections of the posture -/

/-- The memory of video is up to date. -/
def Shown (d : Desk) : Prop := d.videoShown = videoInUse d.registry.calls

theorem videoShown_leaveEarpiece (d : Desk) (calls : List Call) :
    (d.leaveEarpiece calls).2.videoShown = d.videoShown := by
  unfold leaveEarpiece
  split
  · split
    · exact videoShown_moveRoute d _
    · rfl
  · rfl

theorem shown_routeVideo (d : Desk) : d.routeVideo.2.Shown := by
  have hr : d.routeVideo.2.registry = d.registry := congrArg Core.registry (core_routeVideo d)
  unfold Shown
  rw [hr]
  unfold routeVideo
  dsimp only
  split
  · exact videoShown_leaveEarpiece _ _
  · rfl

/-- The audio side looks after the memory of video whenever it corrects the posture. -/
theorem shown_reconcile (d : Desk) : d.reconcile.Shown := by
  have hr : d.reconcile.registry = d.registry := congrArg Core.registry (core_reconcile d)
  have hv (d : Desk) (calls : List Call) :
      (d.updateVideoRoute calls).videoShown = videoInUse calls := by
    unfold updateVideoRoute
    dsimp only
    split
    · exact videoShown_leaveEarpiece _ _
    · rfl
  unfold Shown
  rw [hr]
  exact hv _ _

/-- What every transition keeps while the user does not choose the earpiece. -/
structure Guarded (d : Desk) : Prop where
  order : d.wiring.InOrder
  discreet : d.Discreet True

/-- What every step keeps then: the memory of video is up to date, too. -/
structure Screened (d : Desk) : Prop extends Guarded d where
  shown : d.Shown

theorem Guarded.of_handset (h : d.Guarded) (hs : d'.handset = d.handset) : d'.Guarded where
  order := by
    rw [show d'.wiring = d.wiring from congrArg Prod.fst hs]
    exact h.order
  discreet := h.discreet.of_handset hs

/-- However the posture machine has moved. -/
theorem Guarded.afterTransition (h : d.Guarded) (posture : Posture.Machine) (calls : List Call)
    (t : Tally) : ({ d with posture }.afterTransition d.posture.current calls t).Guarded := by
  have hw : Rewires (.order False) d
      ({ d with posture }.afterTransition d.posture.current calls t) :=
    rewires_afterTransition d posture _ calls t
  refine ⟨hw.inOrder h.order, ?_⟩
  rw [afterTransition_eq]
  generalize hturned : (if t.ringing = 0 then _ else _ : Desk) = next
  have hs : next.handset = (d.turned calls posture).handset := by
    rw [← hturned]
    split
    · exact handset_playbackOnly (playbackOnly_silenceToneIf _ _)
    · rfl
  have hnext : next.Discreet True := (h.discreet.turned calls posture).of_handset hs
  refine (hnext.mono fun _ => trivial).updateFocus.updateVideoRoute fun hr hf => ?_
  -- Once the focus goes with the posture again, there is no route without it.
  have hordered : (next.updateFocus calls).wiring.InOrder := by
    have hwiring : next.wiring = { d.wiring with posture := posture.current } :=
      (congrArg Prod.fst hs).trans (congrArg Prod.fst (handset_turned d calls posture))
    rw [wiring_updateFocus, hwiring]
    exact h.order.settled _ _ _
  cases (hordered.released hf).symm.trans hr

theorem Guarded.dispatch (h : d.Guarded) {s : Signal} (hs : s.isCall = true) :
    (d.dispatch s).2.Guarded := by
  unfold Desk.dispatch
  rw [if_pos hs]
  unfold dispatchCall
  dsimp only
  split
  · exact h.afterTransition _ _ _
  · exact h

theorem Guarded.dispatchAll (h : d.Guarded) {signals : List Signal}
    (hs : ∀ s ∈ signals, s.isCall = true) : (d.dispatchAll signals).Guarded := by
  unfold Desk.dispatchAll
  induction signals generalizing d with
  | nil => exact h
  | cons s rest ih =>
    exact ih (h.dispatch (hs s List.mem_cons_self)) fun x hx => hs x (List.mem_cons_of_mem _ hx)

/-- Whatever has become of the calls, the correction of the posture catches up with it. -/
theorem Guarded.reconcile (h : d.Guarded) : d.reconcile.Screened := by
  refine ⟨?_, shown_reconcile d⟩
  unfold Desk.reconcile
  dsimp only
  split
  · exact h.afterTransition _ _ _
  · exact h.afterTransition d.posture _ _

/-- To route the video anew catches up with the calls, too. -/
theorem Guarded.routeVideo (h : d.Guarded) : d.routeVideo.2.Screened := by
  have hw : Rewires (.order False) d d.routeVideo.2 := rewires_routeVideo d
  exact ⟨⟨hw.inOrder h.order, h.discreet.routeVideo h.order⟩, shown_routeVideo d⟩

theorem Guarded.callMoved (h : d.Guarded) (b : Bearer) (prior next : Option CallState) :
    (d.callMoved b prior next).Screened :=
  (h.dispatchAll fun _ hs => isCall_of_mem_edges hs).reconcile

/-! ## Steps -/

section

variable (h : d.Screened)
include h

theorem Screened.congr (hs : d'.handset = d.handset) (hr : d'.registry = d.registry) :
    d'.Screened := by
  refine ⟨h.toGuarded.of_handset hs, ?_⟩
  have hv : d'.videoShown = d.videoShown := congrArg (·.2.1) hs
  unfold Shown
  rw [hv, hr]
  exact h.shown

theorem Screened.playbackOnly (hm : d.PlaybackOnly d') : d'.Screened :=
  h.congr (handset_playbackOnly hm) (by rw [hm.rest])

theorem Screened.applyMute (muted : Bool) : (d.applyMute muted).Screened :=
  h.congr (handset_applyMute d muted) (congrArg Core.registry (core_applyMute d muted))

/-- An edit that keeps the state of a call, and whether it is a video call, can be overlooked. -/
theorem Screened.amended {id : CallId} {f : Call → Call} (hf : ∀ c ∈ d.registry.calls, c.id = id →
      (f c).state = c.state ∧ (f c).video.isVideoCall = c.video.isVideoCall) :
    (d.amended id f).Screened :=
  ⟨h.toGuarded.of_handset rfl, h.shown.trans (videoInUse_adjust hf).symm⟩

/-- A call went into another state, or into the one that it is in. -/
theorem Screened.moved {c : Call} (hc : c ∈ d.registry.calls) (next : CallState) :
    (d.moved c next).Screened := by
  unfold Desk.moved
  dsimp only
  split
  · rename_i hs
    refine h.amended fun x hx hid => ⟨?_, rfl⟩
    rw [Registry.eq_of_id_eq hx hc hid]
    exact hs.symm
  · have hsaid : ((d.amended c.id ({ · with state := next })).emit
        (.callStateChanged c.id c.state next)).Guarded :=
      h.toGuarded.of_handset (handset_emit _ rfl)
    unfold updated
    dsimp only
    split
    · exact (hsaid.callMoved _ _ _).playbackOnly (playbackOnly_soundTone _ _)
    · exact hsaid.callMoved _ _ _

theorem Screened.answered (c : Call) (media : VideoState) : (d.answered c media).Screened := by
  have hsaid : ((d.amended c.id ({ · with video := media, state := .active })).emit
      (.callStateChanged c.id c.state .active)).Guarded :=
    h.toGuarded.of_handset (handset_emit _ rfl)
  exact hsaid.callMoved _ _ _

theorem Screened.dropped (c : Call) : (d.dropped c).Screened := by
  have hsaid : (({ d with registry := d.registry.erase c.id } : Desk).emit
      (.callRemoved c.id c.ended)).Guarded := h.toGuarded.of_handset (handset_emit _ rfl)
  unfold Desk.dropped
  dsimp only
  split
  · unfold ringingCallGone
    dsimp only
    split
    · exact hsaid.callMoved _ _ _
    · exact (hsaid.callMoved _ _ _).playbackOnly (playbackOnly_stopRinging _)
  · exact hsaid.callMoved _ _ _

theorem Screened.added (c : Call) (registry : Registry) : (d.added c registry).Screened := by
  have hsaid : (({ d with registry } : Desk).emit (.callAdded c)).Guarded :=
    h.toGuarded.of_handset (handset_emit _ rfl)
  unfold Desk.added callCreated
  dsimp only
  split
  · exact (hsaid.callMoved _ _ _).applyMute false
  · exact hsaid.callMoved _ _ _

theorem Screened.rebeared (c : Call) (old : Bearer) : (d.rebeared c old).Screened := by
  unfold Desk.rebeared
  split
  · rename_i s hs
    have hcall : s.isCall = true := by rcases bearerSignal?_eq hs with rfl | rfl <;> rfl
    split
    · exact (h.toGuarded.dispatch hcall).reconcile
    · exact h.toGuarded.reconcile
  · exact h.toGuarded.reconcile

/-- When a call turns to video, or away from it, the memory of video is brought up to date. -/
theorem Screened.turnedTo {c : Call} (hc : c ∈ d.registry.calls) (new : VideoState) :
    (d.shown c.id c.video new).Screened := by
  generalize hold : c.video = old
  have hsaid (d : Desk) : (if old = new then d
      else d.emit (.videoStateChanged c.id old new)).handset = d.handset := by
    split
    · rfl
    · exact handset_emit d rfl
  unfold Desk.shown
  dsimp only
  split
  · rename_i hsame
    have ha : (d.amended c.id ({ · with video := new })).Screened := by
      refine h.amended fun x hx hid => ⟨rfl, ?_⟩
      rw [Registry.eq_of_id_eq hx hc hid, hold]
      exact hsame.symm
    exact ha.congr (hsaid _) (by split <;> rfl)
  · have hg := h.toGuarded.of_handset (hsaid (d.amended c.id ({ · with video := new })))
    exact hg.routeVideo

/-- The user chooses another device. -/
theorem Screened.choose {device : Device} {calls : List Call} {next : Route.Machine}
    (hc : Route.Machine.choose device (d.context calls) = .ok next) (hn : device ≠ .earpiece) :
    (d.moveRoute next).Screened := by
  have hr : (d.moveRoute next).registry = d.registry :=
    congrArg Core.registry (core_moveRoute d next)
  refine ⟨⟨?_, ?_⟩, ?_⟩
  · rw [wiring_moveRoute]
    exact h.order.chosen hc
  · exact h.discreet.moveRoute fun he => absurd (Route.Machine.choose_eq_earpiece hc he) hn
  · unfold Shown
    rw [videoShown_moveRoute, hr]
    exact h.shown

/-- An accessory that goes may leave the calls to the earpiece, but not if video is on show. -/
theorem Screened.dispatch {s : Signal} (hs : s.isCall = false) : (d.dispatch s).2.Screened := by
  have hr : (d.dispatch s).2.registry = d.registry :=
    congrArg Core.registry (core_dispatch_device d hs)
  unfold Desk.dispatch at hr ⊢
  rw [if_neg (by simp [hs])] at hr ⊢
  split
  · rename_i hdevice
    rw [if_pos hdevice] at hr
    have hnoted : (d.noteAccessory s).Discreet True := by
      cases s <;> exact ⟨h.discreet.announced, h.discreet.screened, h.discreet.rang⟩
    have hf : (d.noteAccessory s).focus = focusOf (d.noteAccessory s).posture.current := by
      cases s <;> exact h.order.focus
    have hv : (d.noteAccessory s).videoShown = d.videoShown := by cases s <;> rfl
    refine ⟨⟨?_, hnoted.feedRoute hf (fun hn _ => hv.trans (h.shown.trans hn)) s⟩, ?_⟩
    · rw [wiring_dispatchDevice]
      exact h.order.reported s _ _
    · unfold Shown
      rw [hr]
      exact (videoShown_moveRoute _ _).trans (hv.trans h.shown)
  · exact h

end

theorem handset_telephoned (d : Desk) (command : Command) :
    (d.telephoned command).handset = d.handset := by
  unfold telephoned kept
  rw [handset_ask]
  split
  · rfl
  · exact handset_playbackOnly (playbackOnly_of_sound (.elapse _ _))

/-- Every step that does not choose the earpiece keeps off it. -/
theorem Step.screened (h : Step rule d d') (hc : ¬rule.chosen .earpiece) (hd : d.Screened) :
    d'.Screened := by
  cases h with
  | telephoned command =>
    exact hd.congr (handset_telephoned d command) (registry_telephoned d command)
  | decided => exact hd.congr (handset_emit _ rfl) rfl
  | added => exact hd.added _ _
  | amended id e => exact hd.amended fun c _ _ => ⟨e.apply_state c, by cases e <;> rfl⟩
  | moved h next => exact hd.moved h next
  | answered h hr media => exact hd.answered _ media
  | dropped h => exact hd.dropped _
  | parted h => exact (hd.moved h .disconnected).dropped _
  | @rebeared c h bearer =>
    have ha : (d.amended c.id ({ · with bearer })).Screened := hd.amended fun _ _ _ => ⟨rfl, rfl⟩
    exact ha.rebeared _ _
  | kept h => exact hd.amended fun _ _ _ => ⟨rfl, rfl⟩
  | shown h new => exact hd.turnedTo h new
  | keyed => exact hd.playbackOnly (playbackOnly_soundTone d _)
  | released =>
    unfold silenceDtmf
    split
    · split
      · exact hd.playbackOnly (playbackOnly_silenceToneIf d _)
      · exact hd
    · exact hd
  | muted _ value => exact hd.applyMute value
  | routed hchosen h => exact hd.choose h fun he => hc (he ▸ hchosen)
  | ringer => exact hd.congr rfl rfl
  | accessory _ hs => exact hd.dispatch (Signal.isCall_of_isAccessory hs)

/-! ## Runs -/

theorem Steps.screened (h : Steps rule d n d') (hc : ¬rule.chosen .earpiece)
    (hd : d.Screened) : d'.Screened := by
  induction h with
  | refl => exact hd
  | step _ h ih => exact h.screened hc ih
  | issued _ ih => exact ⟨ih.toGuarded.of_handset rfl, ih.shown⟩

theorem Transition.screened (h : Transition rule d n d') (hc : ¬rule.chosen .earpiece)
    (hq : d.Quiet) (hd : d.Screened) : d'.Screened := by
  cases h with
  | steps h => exact h.screened hc hd
  | @dialed _ d₁ _ h =>
    have h₁ : d₁.Screened := h.screened hc (hd.congr rfl rfl)
    exact h₁.congr rfl rfl
  | opened | stopped => exact hd.congr rfl rfl
  | closed =>
    have hdrain : ({ d with started := false } : Desk).drain = { d with started := false } :=
      Quiet.drain_eq hq
    unfold Desk.closed
    rw [hdrain]
    have hs : ({ d with started := false, queue := none } : Desk).Screened := hd.congr rfl rfl
    exact (hs.playbackOnly (playbackOnly_silenceTone _)).playbackOnly (playbackOnly_stopRing _)
  | rested =>
    unfold rest
    rw [hq.drain_eq]
    exact hd.playbackOnly (playbackOnly_of_sound (.settle _))
  | befallen _ c =>
    cases c with
    | elapse ms => exact hd.playbackOnly (playbackOnly_of_sound (.elapse _ ms))
    | setFailing | failRenderAfter => exact hd.congr rfl rfl

theorem Transitions.screened (h : Transitions rule d n d') (hc : ¬rule.chosen .earpiece)
    (hq : d.Quiet) (hd : d.Screened) : d'.Screened := by
  induction h with
  | refl => exact hd
  | next hs h ih => exact h.screened hc (hs.quiet hq) ih

theorem idle_screened (config : Config) (outside : Outside) : (idle config outside).Screened :=
  ⟨⟨idle_inOrder config outside, rfl, nofun, nofun⟩, rfl⟩

/-- A rule under which the user does not choose the earpiece. -/
def sparing : Rule := { Rule.order False with chosen := (· ≠ .earpiece) }

end Desk

/-- It is not that the user chooses the earpiece and gets it. -/
def Happening.SparesEarpiece (d : Desk) : Happening → Prop
  | operation (.setDevice .earpiece) => ¬(Operation.setDevice .earpiece).Succeeds d
  | _ => True

namespace Desk

theorem heeds_sparing {h : Happening} (hs : h.SparesEarpiece d) : h.Heeds sparing d := by
  unfold Happening.Heeds
  split
  · rintro hsucceeds rfl
    exact hs hsucceeds
  · exact fun _ _ _ _ => .inr trivial
  all_goals trivial

/-- Nothing but the choice of the user makes the desk indiscreet. -/
theorem Reach.screened {may : Desk → Happening → Prop}
    (hmay : ∀ d h, may d h → h.ByManager ∧ h.SparesEarpiece d) (h : Reach may n d) :
    d.Screened := by
  induction h with
  | assembled hd =>
    rw [assemble_eq hd]
    exact idle_screened _ _
  | @next n d h hr hm ih =>
    obtain ⟨hmanager, hs⟩ := hmay d h hm
    have hp : Transitions sparing d (d.given h) (d.after h) :=
      transitions_after hmanager (heeds_sparing hs) False.elim
    exact hp.screened (fun hn => hn rfl) (hr.quiet fun d h hm => (hmay d h hm).1) ih

/-- **Video is not played on the earpiece** unless the user has chosen it: in every run in which no
choice of the earpiece succeeds, while an active call or the foreground call is a video call, the
route is another one. -/
theorem video_off_earpiece (h : Reach (fun d h => h.ByManager ∧ h.SparesEarpiece d) n d)
    (hv : ∃ c ∈ d.registry.calls, c.video = .twoWay ∧
      (c.state = .active ∨ d.registry.foreground? = some c)) : d.route.current ≠ .earpiece := by
  have hd := h.screened fun _ _ hm => hm
  have hinUse : videoInUse d.registry.calls = true := videoInUse_iff.mpr hv
  intro hr
  have hshown := hd.discreet.screened hr trivial
  rw [hd.shown, hinUse] at hshown
  cases hshown

/-- A call that turned to video is put on hold and a headset is unplugged; before the call the
earpiece was chosen in vain. -/
theorem video_off_earpiece_held :
    let run : List Happening :=
      [.operation .start, .operation (.setDevice .earpiece),
        .operation (.dial ⟨"1", 0, .ims, .voice, false⟩), .operation (.reportState 1 .active none),
        .operation (.reportVideo 1 .twoWay), .operation (.reportHeadset true), .operation (.hold 1),
        .operation (.reportHeadset false)]
    let d := standard.afterAll run
    Reach (fun d h => h.ByManager ∧ h.SparesEarpiece d) 1 d ∧
      (∃ c ∈ d.registry.calls, c.video = .twoWay ∧
        (c.state = .active ∨ d.registry.foreground? = some c)) ∧
      d.route.current ≠ .earpiece := by
  intro run d
  have hrefused : ¬(Operation.setDevice .earpiece).Succeeds (standard.after (.operation .start)) :=
    nofun
  have hp : Permits (fun d h => h.ByManager ∧ h.SparesEarpiece d) standard run :=
    ⟨⟨trivial, trivial⟩, ⟨trivial, hrefused⟩, ⟨trivial, trivial⟩, ⟨trivial, trivial⟩,
      ⟨trivial, trivial⟩, ⟨trivial, trivial⟩, ⟨trivial, trivial⟩, ⟨trivial, trivial⟩, trivial⟩
  have h : Reach (fun d h => h.ByManager ∧ h.SparesEarpiece d) 1 d := (reach_standard _).all hp
  have hv : ∃ c ∈ d.registry.calls, c.video = .twoWay ∧
      (c.state = .active ∨ d.registry.foreground? = some c) := by decide +kernel
  exact ⟨h, hv, video_off_earpiece h hv⟩

/-! ## Ringing -/

theorem Reach.served {may : Desk → Happening → Prop}
    (hmay : ∀ d h, may d h → h.ByManager ∧ h.Unchosen) (h : Reach may n d) : d.wiring.Served := by
  induction h with
  | assembled hd =>
    rw [assemble_eq hd]
    exact idle_served _ _
  | @next n d h hr hm ih =>
    obtain ⟨hmanager, hu⟩ := hmay d h hm
    exact (served_after hmanager hu (hr.quiet fun d h hm => (hmay d h hm).1) ih).1

/-- **Ringing is heard from the loudspeaker** in every run in which the user chooses no device,
while neither Bluetooth nor a headset is at hand, if no call was on the earpiece when it began to
ring. That is the route that would be picked from scratch. -/
theorem ringing_on_speaker (h : Reach (fun _ h => h.ByManager ∧ h.Unchosen) n d)
    (hf : d.focus = .ringing) (hb : d.bluetooth = false) (hh : d.headset = false)
    (hr : d.journal.outlet.rang ≠ .earpiece) :
    d.route.current = .speaker ∧ Route.select (d.context d.registry.calls) = .speaker := by
  have hd := h.screened fun _ h hm => ⟨hm.1, by
    cases h with
    | operation o => cases o <;> first | exact hm.2.elim | trivial
    | _ => trivial⟩
  have hposture : d.posture.current = .incoming := by
    have hfocus : d.focus = focusOf d.posture.current := hd.order.focus
    rw [hf] at hfocus
    cases hp : d.posture.current <;> rw [hp] at hfocus <;> first | rfl | cases hfocus
  have hleads : d.route.current = .speaker ∨ d.route.current = .earpiece := by
    have hl : if d.focus = .released then d.route.current = .inactive
        else if d.bluetooth then d.route.current = .bluetoothSco
        else if d.headset then d.route.current = .wiredHeadset
        else d.route.current = .speaker ∨ d.route.current = .earpiece :=
      (h.served fun _ _ hm => hm).serves.1
    simpa [hf, hb, hh] using hl
  refine ⟨hleads.resolve_right fun he => hr (hd.discreet.rang he hposture), ?_⟩
  simp [Route.select, context, hf, hb, hh]

/-- A call comes in, a headset is plugged in and unplugged again while it rings. -/
theorem ringing_on_speaker_unplugged :
    let run : List Happening :=
      [.operation .start, .operation (.arrive ⟨"1", 0, .cs, .voice⟩),
        .operation (.reportHeadset true),
        .operation (.reportHeadset false)]
    let d := standard.afterAll run
    Reach (fun _ h => h.ByManager ∧ h.Unchosen) 1 d ∧ d.focus = .ringing ∧ d.bluetooth = false ∧
      d.headset = false ∧ d.journal.outlet.rang ≠ .earpiece ∧ d.route.current = .speaker := by
  intro run d
  have hp : Permits (fun _ h => h.ByManager ∧ h.Unchosen) standard run :=
    ⟨⟨trivial, trivial⟩, ⟨trivial, trivial⟩, ⟨trivial, trivial⟩, ⟨trivial, trivial⟩, trivial⟩
  have h : Reach (fun _ h => h.ByManager ∧ h.Unchosen) 1 d := (reach_standard _).all hp
  have hf : d.focus = .ringing := by decide +kernel
  have hb : d.bluetooth = false := by decide +kernel
  have hh : d.headset = false := by decide +kernel
  have hr : d.journal.outlet.rang ≠ .earpiece := by decide +kernel
  exact ⟨h, hf, hb, hh, hr, (ringing_on_speaker h hf hb hh hr).1⟩

/-- The earpiece does not give way to ringing: a call on it is put on hold, another one comes in,
and it rings on the earpiece although the loudspeaker would be picked from scratch. -/
theorem ringing_on_earpiece :
    let run : List Happening :=
      [.operation .start, .operation (.dial ⟨"1", 0, .cs, .voice, false⟩),
        .operation (.reportState 1 .active none), .operation (.hold 1),
        .operation (.arrive ⟨"2", 0, .cs, .voice⟩)]
    let d := standard.afterAll run
    Reach (fun _ h => h.ByManager ∧ h.Unchosen) 2 d ∧ d.focus = .ringing ∧ d.bluetooth = false ∧
      d.headset = false ∧ Route.select (d.context d.registry.calls) = .speaker ∧
      d.route.current = .earpiece := by
  intro run d
  have hp : Permits (fun _ h => h.ByManager ∧ h.Unchosen) standard run :=
    ⟨⟨trivial, trivial⟩, ⟨trivial, trivial⟩, ⟨trivial, trivial⟩, ⟨trivial, trivial⟩,
      ⟨trivial, trivial⟩, trivial⟩
  have h : Reach (fun _ h => h.ByManager ∧ h.Unchosen) 2 d := (reach_standard _).all hp
  exact ⟨h, by decide +kernel, by decide +kernel, by decide +kernel, by decide +kernel,
    by decide +kernel⟩

end Desk

end Switchboard
