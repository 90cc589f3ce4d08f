import Switchboard.Proofs.Desk.Players
import Switchboard.Proofs.Desk.Sure

/-!
# The tones of keys

A key is pressed and released on an active call, and its tone sounds until it is released. As long
as no operation takes the last active call out of that state without a tone of its own and leaves
the key sounding (`Desk.Forsakes`), some call is active while a key sounds, so the key can be
released (`key_under_active_call`). A key that is forsaken: `hold_forsakes`.

* `Desk.Talking`: a call is active. Most operations leave it so, whichever way they end; a switch
  and a separation leave some other call active in its stead.
* `Desk.Silent`: no key sounds. Ending an active call brings this about, since it sounds a tone that
  takes the place of the one before.
* `Desk.Covered`: what every happening keeps that does not forsake a key.
-/

namespace Switchboard

open Playback (Sound)

/-- The operation may take a call out of its active state without a tone of its own. A call that
ends sounds a tone, unless the reason is unknown. -/
def Operation.LaysAside (d : Desk) : Operation → Prop
  | .dial _ | .dialTogether _ | .arrive _ | .answer .. | .hold _ | .unhold _ => True
  | .reportState id state ended =>
    if state = .disconnected ∨ state = .idle then
      ∃ c ∈ d.registry.calls, c.id = id ∧ ended.getD c.ended = .unknown
    else state ≠ .active
  | _ => False

/-- The operation may end a call that is active. -/
def Operation.mayEnd : Operation → Bool
  | .hangUp _ | .kickOut _ | .reportState .. => true
  | _ => false

namespace Desk

open DeskM

variable {d d' : Desk} {id : CallId} {c : Call} {n : Nat}

/-! ## A call that stays active -/

/-- The call is active. -/
def Talking (d : Desk) (id : CallId) : Prop := ∃ c ∈ d.registry.calls, c.id = id ∧ c.state = .active

theorem hasActive_iff : hasActive d.registry.calls = true ↔ ∃ id, d.Talking id := by
  simp only [hasActive, List.any_eq_true, beq_iff_eq, Talking]
  constructor
  · rintro ⟨c, hc, hs⟩
    exact ⟨c.id, c, hc, rfl, hs⟩
  · rintro ⟨_, c, hc, -, hs⟩
    exact ⟨c, hc, hs⟩

namespace Talking

theorem of_registry (h : d.Talking id) (hr : d'.registry = d.registry) : d'.Talking id := by
  unfold Talking
  rw [hr]
  exact h

/-- To write a field other than the state leaves the call active. -/
theorem amended (h : d.Talking id) (id' : CallId) {f : Call → Call}
    (hf : ∀ c, (f c).state = c.state) : (d.amended id' f).Talking id := by
  obtain ⟨c, hc, rfl, hs⟩ := h
  by_cases hid : c.id = id'
  · exact ⟨_, Registry.mem_adjust.mpr (.inr ⟨c, hc, hid, rfl⟩), rfl, (hf c).trans hs⟩
  · exact ⟨c, Registry.mem_adjust.mpr (.inl ⟨hc, hid⟩), rfl, hs⟩

/-- To move another call leaves the call active, and so does to make the call itself active. -/
theorem moved (h : d.Talking id) {next : CallState} (hn : c.id = id → next = .active) :
    (d.moved c next).Talking id := by
  obtain ⟨x, hx, rfl, hs⟩ := h
  unfold Talking
  rw [registry_moved]
  by_cases hid : x.id = c.id
  · exact ⟨_, Registry.mem_adjust.mpr (.inr ⟨x, hx, hid, rfl⟩), rfl, hn hid.symm⟩
  · exact ⟨x, Registry.mem_adjust.mpr (.inl ⟨hx, hid⟩), rfl, hs⟩

/-- To drop another call leaves the call active. -/
theorem dropped (h : d.Talking id) (hne : c.id ≠ id) : (d.dropped c).Talking id := by
  obtain ⟨x, hx, rfl, hs⟩ := h
  unfold Talking
  rw [registry_dropped]
  exact ⟨x, Registry.mem_erase.mpr ⟨hx, hne.symm⟩, rfl, hs⟩

/-! ## Operations that leave it active -/

theorem telephone (h : d.Talking id) (command : Command) :
    (telephone command).Within d (·.Talking id) :=
  ends_telephone (h.of_registry (registry_telephoned d command))
    (h.of_registry (registry_telephoned d command))

theorem amend (h : d.Talking id) (id' : CallId) {f : Call → Call}
    (hf : ∀ c, (f c).state = c.state) : (amend id' f).Within d (·.Talking id) :=
  ends_amend (fun _ _ _ => h.amended id' hf) fun _ => h

theorem activate (h : d.Talking id) (id' : CallId) :
    (setState id' .active).Within d (·.Talking id) :=
  ends_setState (fun _ _ _ => h.moved fun _ => rfl) fun _ => h

theorem videoChanged (h : d.Talking id) (hc : c ∈ d.registry.calls) (new : VideoState) :
    (videoChanged c.id c.video new).Within d (·.Talking id) := by
  have ha : (d.amended c.id ({ · with video := new })).Talking id :=
    h.amended c.id fun _ => rfl
  exact (ends_videoChanged hc).mpr (ha.of_registry (congrArg Core.registry (core_shown d _ _ _)))

theorem keepHeld (h : d.Talking id) (calls : List Call) :
    (keepHeld calls).Within d (·.Talking id) := by
  induction calls generalizing d with
  | nil => exact h
  | cons c rest ih =>
    exact (h.amend c.id (f := ({ · with canUnhold := false })) fun _ => rfl).discard_bind
      fun _ h => ih h

/-- A call that rings is another one. -/
theorem reject (h : d.Talking id) (id' : CallId) : (reject id').Within d (·.Talking id) := by
  refine within_bind.mpr (ends_callIn (fun c hc hid hs => ?_) fun _ _ => h)
  subst hid
  -- The rejected call rings, and one that rings is not active.
  have hne : c.id ≠ id := fun he => by
    obtain ⟨x, hx, hid, ha⟩ := h
    rw [Registry.eq_of_id_eq hc hx (he.trans hid.symm), ha] at hs
    simp at hs
  refine (h.telephone _).bind fun _ d₁ h₁ => within_bind.mpr ?_
  refine (h₁.keepHeld _).bind fun _ d₂ h₂ => ?_
  exact ends_unregister (fun x _ hid => h₂.dropped (hid ▸ hne)) fun _ => h₂

theorem joinPeers (h : d.Talking id) (main : CallId) (peers : List Call) :
    (joinPeers main peers).Within d (·.Talking id) := by
  induction peers generalizing d with
  | nil => exact h
  | cons peer rest ih =>
    refine (h.amend peer.id (f := ({ · with conference := some main })) fun _ => rfl).discard_bind
      fun _ h => ?_
    exact (h.activate peer.id).bind fun _ _ h => ih h

theorem combine (h : d.Talking id) (id' : CallId) : (combine id').Within d (·.Talking id) := by
  refine within_bind.mpr (ends_callIn (fun c _ _ _ => within_bind.mpr ?_) fun _ _ => h)
  rw [ends_get]
  dsimp only
  split
  · exact within_throw_bind h
  · refine (h.telephone _).bind fun _ _ h => ?_
    exact (h.amend id' (f := ({ · with conference := some id' })) fun _ => rfl).discard_bind
      fun _ h => h.joinPeers id' _

theorem join (h : d.Talking id) (id' : CallId) (numbers : List String) :
    (join id' numbers).Within d (·.Talking id) := by
  refine within_bind.mpr (ends_callIn (fun c _ _ _ => ?_) fun _ _ => h)
  split
  · exact within_throw_bind h
  · exact h.telephone _

theorem startRtt (h : d.Talking id) (id' : CallId) (text : String) :
    (startRtt id' text).Within d (·.Talking id) :=
  within_bind.mpr (ends_imsCall (fun _ _ _ => h.telephone _) fun _ _ => h)

theorem stopRtt (h : d.Talking id) (id' : CallId) : (stopRtt id').Within d (·.Talking id) :=
  within_bind.mpr (ends_imsCall (fun _ _ _ => h.telephone _) fun _ _ => h)

theorem setImsMode (h : d.Talking id) (id' : CallId) (mode : ImsMode) :
    (setImsMode id' mode).Within d (·.Talking id) := by
  refine within_bind.mpr (ends_imsCall (fun c hc hid => ?_) fun _ _ => h)
  subst hid
  have ht : (d.telephoned (.updateMode c mode)).Talking id :=
    h.of_registry (registry_telephoned d _)
  exact within_bind.mpr (ends_telephone (ht.videoChanged (by rwa [registry_telephoned]) _) ht)

theorem startDtmf (h : d.Talking id) (id' : CallId) (digit : Char) :
    (startDtmf id' digit).Within d (·.Talking id) :=
  within_bind.mpr (ends_callIn (fun _ _ _ _ => (h.telephone _).bind fun _ _ h =>
    within_modify (h.of_registry rfl)) fun _ _ => h)

theorem stopDtmf (h : d.Talking id) (id' : CallId) : (stopDtmf id').Within d (·.Talking id) :=
  within_bind.mpr (ends_callIn (fun _ _ _ _ => (h.telephone _).bind fun _ d₁ h =>
    within_modify (h.of_registry (congrArg Core.registry (core_silenceDtmf d₁)))) fun _ _ => h)

theorem reportBearer (h : d.Talking id) (id' : CallId) (bearer : Bearer) :
    (reportBearer id' bearer).Within d (·.Talking id) := by
  refine within_bind.mpr (ends_amend (fun c hc hid => ?_) fun _ => h)
  subst hid
  have ha : (d.amended c.id ({ · with bearer })).Talking id := h.amended c.id fun _ => rfl
  have hb : { c with bearer } ∈ (d.amended c.id ({ · with bearer })).registry.calls :=
    mem_amended hc
  split
  · obtain ⟨_, hcore, -⟩ :=
      core_rebeared (d.amended c.id ({ · with bearer })) { c with bearer } c.bearer
    exact (ends_bearerChanged hb).mpr (ha.of_registry (congrArg Core.registry hcore))
  · exact ha

theorem reportVideo (h : d.Talking id) (id' : CallId) (media : VideoState) :
    (reportVideo id' media).Within d (·.Talking id) :=
  within_bind.mpr (ends_call (fun _ hc hid => hid ▸ h.videoChanged hc _) fun _ => h)

theorem setMute (h : d.Talking id) (muted : Bool) : (setMute muted).Within d (·.Talking id) :=
  have hm := h.of_registry (congrArg Core.registry (core_applyMute d
    (muted && !hasEmergency d.registry.calls)))
  ends_setMute hm fun _ => hm

theorem setDevice (h : d.Talking id) (device : Device) :
    (setDevice device).Within d (·.Talking id) := by
  unfold Desk.setDevice
  refine within_bind.mpr ?_
  rw [ends_get]
  refine within_bind.mpr ((ends_ofExcept _).mpr ?_)
  split
  · rename_i next _
    split
    · rename_i c _
      have ha : (d.amended c.id ({ · with speakerphone := device == .speaker })).Talking id :=
        h.amended c.id fun _ => rfl
      exact ha.of_registry (congrArg Core.registry (core_moveRoute _ next))
    · exact h.of_registry (congrArg Core.registry (core_moveRoute d next))
  · exact h

theorem start (h : d.Talking id) : start.Within d (·.Talking id) := by
  refine within_bind.mpr ?_
  rw [ends_get]
  split
  · exact within_throw_bind h
  · refine within_bind.mpr ((ends_modify _).mpr ((ends_tryCatch _).mpr ((ends_bind _).mpr ?_)))
    rw [ends_get]
    split <;> exact h.of_registry rfl

theorem shutdown (h : d.Talking id) : shutdown.Within d (·.Talking id) := by
  refine within_bind.mpr ?_
  rw [ends_get]
  split
  · refine within_bind.mpr ((ends_modify _).mpr (within_bind.mpr ?_))
    rw [ends_get]
    split
    · exact h.of_registry rfl
    · exact h.of_registry (registry_drain { d with started := false })
  · exact within_throw_bind h

end Talking

/-! ## Operations that leave another call active in its stead -/

theorem talking_moved (h : c ∈ d.registry.calls) : (d.moved c .active).Talking c.id :=
  ⟨_, mem_moved h .active, rfl, rfl⟩

/-- Some call is active. -/
def Active (d : Desk) : Prop := ∃ id, d.Talking id

theorem Talking.within {x : DeskM Unit} (h : x.Within d (·.Talking id)) : x.Within d Active :=
  h.mono (fun _ _ h => ⟨id, h⟩) fun _ _ h => ⟨id, h⟩

/-- A registered call is made active. -/
theorem active_setState (h : id ∈ d.ids) : (setState id .active).Within d Active := by
  obtain ⟨c, hc, rfl⟩ := List.mem_map.mp h
  exact (ends_setState_of_mem hc).mpr ⟨c.id, talking_moved hc⟩

theorem switch_active (h : d.Talking id) (id' : CallId) : (switch id').Within d Active := by
  have hd : d.Active := ⟨id, h⟩
  have swap {c : Call} {toHold : List Call} {id' : CallId} (hid : id' ∈ d.ids)
      (hhold : ∀ x ∈ toHold, x.id ∈ d.ids) :
      (do
        telephone (.switch c)
        setStates .holding toHold
        setState id' .active).Within d Active := by
    have ht := h.of_registry (registry_telephoned d (.switch c))
    refine within_bind.mpr (ends_telephone ?_ ⟨id, ht⟩)
    refine within_bind.mpr (Ends.mono (sure_setStates .holding (by simpa using hhold))
      (fun _ d₁ h₁ => active_setState ?_) fun _ _ => False.elim)
    simpa [h₁] using hid
  refine within_bind.mpr (ends_callIn (fun c hc _ _ => within_bind.mpr ?_) fun _ _ => hd)
  rw [ends_get]
  dsimp only
  split
  · refine within_bind.mpr ((ends_pure _).mpr ?_)
    split
    · exact within_throw_bind hd
    · exact swap (id_mem_ids hc) fun x hx => id_mem_ids (List.mem_filter.mp hx).1
  · split
    · rename_i held hhead
      refine within_bind.mpr ((ends_pure _).mpr ?_)
      split
      · exact within_throw_bind hd
      · refine swap (id_mem_ids (List.mem_filter.mp (List.mem_of_head? hhead)).1) fun x hx => ?_
        exact List.mem_singleton.mp hx ▸ id_mem_ids hc
    · exact within_throw_bind hd

/-- Other calls are put on hold. -/
theorem Talking.setStates_holding (h : d.Talking id) {calls : List Call}
    (hne : ∀ c ∈ calls, c.id ≠ id) : (setStates .holding calls).Within d (·.Talking id) := by
  induction calls generalizing d with
  | nil => exact h
  | cons c rest ih =>
    refine within_bind.mpr (ends_setState (fun x hx hid => ?_) fun _ => h)
    exact ih (h.moved fun he => absurd (hid.symm.trans he) (hne c (by simp)))
      fun y hy => hne y (by simp [hy])

theorem Talking.dissolveIfSingle (h : d.Talking id) (main : CallId) :
    (dissolveIfSingle main).Within d (·.Talking id) := by
  refine within_bind.mpr ?_
  rw [ends_get]
  split
  · rename_i last _
    exact ends_discard.mpr (h.amend last.id (f := ({ · with conference := none })) fun _ => rfl)
  · exact h

/-- The call that is taken aside is active in the end, whether it was before or not. -/
theorem separate_active (h : d.Talking id) (id' : CallId) : (separate id').Within d Active := by
  refine within_bind.mpr (ends_member (fun c hc main hid hmain => ?_) fun _ _ => ⟨id, h⟩)
  subst hid
  have hc' : c ∈ (d.telephoned (.separate c)).registry.calls := by rwa [registry_telephoned]
  have ht := h.of_registry (registry_telephoned d (.separate c))
  refine within_bind.mpr (ends_telephone ?_ ⟨id, ht⟩)
  refine within_bind.mpr (ends_discard.mpr ((ends_amend_of_mem hc').mpr ?_))
  have haside := mem_amended (f := ({ · with conference := none })) hc'
  generalize (d.telephoned (.separate c)).amended c.id ({ · with conference := none }) =
    d₁ at haside
  refine within_bind.mpr ?_
  rw [ends_get]
  by_cases hs : c.state = .active
  · have hactive : d₁.Talking c.id := ⟨_, haside, rfl, hs⟩
    have hothers : ∀ x ∈ (members d₁.registry main).filter (·.state == .active), x.id ≠ c.id := by
      intro x hx hid
      have hx := List.mem_filter.mp (List.mem_filter.mp hx).1
      rw [Registry.eq_of_id_eq hx.1 haside hid] at hx
      cases hx.2
    refine Talking.within ((hactive.setStates_holding hothers).bind fun _ _ h₂ => ?_)
    refine (h₂.dissolveIfSingle main).bind fun _ _ h₃ => ?_
    rw [if_neg (not_not.mpr hs)]
    exact h₃
  · refine within_bind.mpr (Ends.mono (sure_setStates .holding fun x hx => ?_)
      (fun _ d₂ h₂ => ?_) fun _ _ => False.elim)
    · exact id_mem_ids (List.mem_filter.mp (List.mem_filter.mp hx).1).1
    refine within_bind.mpr (Ends.mono (sure_dissolveIfSingle main d₂) (fun _ d₃ h₃ => ?_)
      fun _ _ => False.elim)
    rw [if_pos hs]
    refine active_setState ?_
    rw [h₃, h₂]
    exact (id_mem_ids haside :)

/-! ## Operations that end calls -/

/-- No key sounds. -/
structure Silent (d : Desk) : Prop where
  tended : d.Tended
  silent : d.keySounds = false

theorem Silent.of_plays (h : d.Silent) (hp : d.Plays (·.isDtmf = false) d') : d'.Silent :=
  ⟨hp.tended h.tended, eq_false_of_ne_true fun hk => by
    have hk := hp.keySounds h.tended hk
    rw [h.silent] at hk
    cases hk⟩

/-- Another tone takes the place of the one of a key. -/
theorem silent_soundTone (h : d.Tended) {tone : Tone} (hr : tone.rendering ≠ .noTone)
    (hn : tone.isDtmf = false) : (d.soundTone tone).Silent := by
  have hp : d.Plays (·.isDtmf = false) (d.soundTone tone) := plays_soundTone d hn
  refine ⟨hp.tended h, eq_false_of_ne_true fun hk => ?_⟩
  obtain ⟨sounding, id, ht, hd, -⟩ := Sound.keySounds_iff.mp hk
  have hs : (d.soundTone tone).tone.map (·.1) = some tone := by
    show (d.toSound.playTone tone).tone.map (·.1) = _
    rw [Sound.playTone, if_neg hr]
    rfl
  rw [ht] at hs
  cases hs
  rw [hn] at hd
  cases hd

/-- An active call that ends for a known reason says so with a tone. -/
theorem silent_moved (h : d.Tended) (hs : c.state = .active) (he : c.ended ≠ .unknown) :
    (d.moved c .disconnected).Silent := by
  have hne : c.state ≠ .disconnected := by simp [hs]
  have hr : (Tone.ofEnd c.ended).rendering ≠ .noTone := by
    cases hc : c.ended <;> simp_all [Tone.ofEnd, Tone.rendering]
  have hn : (Tone.ofEnd c.ended).isDtmf = false := by cases c.ended <;> rfl
  unfold moved
  dsimp only
  rw [if_neg hne, updated, if_pos ⟨rfl, by rw [hs]; rfl⟩]
  -- The call has moved, and the tone is still to come.
  have hb : Mutations (· ∉ [.key, .play]) _ _ := (audioMutations_callMoved
    ((d.amended c.id ({ · with state := .disconnected })).emit
      (.callStateChanged c.id c.state .disconnected)) c.bearer (some c.state)
      (some .disconnected)).mutations
  have hp : d.Plays (·.isDtmf = false) ((d.amended c.id ({ · with state := .disconnected })).emit
      (.callStateChanged c.id c.state .disconnected)) := .single (.told _)
  exact silent_soundTone (hb.plays_unkeyed.tended (hp.tended h)) hr hn

/-- If a key sounds, some call is active. -/
structure Covered (d : Desk) : Prop where
  tended : d.Tended
  active : d.keySounds = true → d.Active

theorem Active.covered (h : d.Active) (ht : d.Tended) : d.Covered := ⟨ht, fun _ => h⟩

theorem Silent.covered (h : d.Silent) : d.Covered :=
  ⟨h.tended, fun hk => by
    rw [h.silent] at hk
    cases hk⟩

/-- What plays no key and leaves active calls active leaves no key alone. -/
theorem Covered.of_plays (h : d.Covered) (hp : d.Plays (·.isDtmf = false) d')
    (ha : ∀ id, d.Talking id → d'.Talking id) : d'.Covered :=
  ⟨hp.tended h.tended, fun hk => (h.active (hp.keySounds h.tended hk)).imp ha⟩

theorem Covered.telephoned (h : d.Covered) (command : Command) : (d.telephoned command).Covered :=
  h.of_plays (mutations_telephoned d command).plays_unkeyed
    fun _ ht => ht.of_registry (registry_telephoned d command)

theorem Covered.amended (h : d.Covered) (id : CallId) {f : Call → Call}
    (hf : ∀ c, (f c).state = c.state) : (d.amended id f).Covered :=
  h.of_plays (plays_of_sound rfl) fun _ h => h.amended id hf

theorem Covered.activate (h : d.Covered) (id : CallId) :
    (setState id .active).Within d Covered := by
  refine ends_setState (fun c hc _ => ?_) fun _ => h
  exact h.of_plays (mutations_moved (by simp) hc .active).plays_unkeyed
    fun _ h => h.moved fun _ => rfl

/-- A held call may be resumed meanwhile. -/
theorem Covered.resume (h : d.Covered) (held : Call) : (resume held).Within d Covered :=
  have ht := h.telephoned (.unhold held)
  within_bind.mpr (ends_telephone (ht.activate held.id) ht)

theorem Covered.dissolveIfSingle (h : d.Covered) (main : CallId) :
    (dissolveIfSingle main).Within d Covered := by
  refine within_bind.mpr ?_
  rw [ends_get]
  split
  · rename_i last _
    exact ends_discard.mpr (ends_amend (fun _ _ _ => h.amended last.id fun _ => rfl) fun _ => h)
  · exact h

/-- If the active call ends, it says so with a tone; and if another one does, the active one stays.
-/
theorem Covered.parted (h : d.Covered) (hc : c ∈ d.registry.calls) (he : c.ended ≠ .unknown) :
    (d.parted c).Covered := by
  have hdropped : Mutations (· ∉ [.key, .play]) (d.moved c .disconnected) (d.parted c) :=
    mutations_dropped (mem_moved hc .disconnected)
  by_cases hs : c.state = .active
  · exact ((silent_moved h.tended hs he).of_plays hdropped.plays_unkeyed).covered
  · have hmoved : Mutations (· ∉ [.key, .play]) d (d.moved c .disconnected) :=
      mutations_moved (by simp) hc .disconnected
    have hparted : Mutations (· ∉ [.key, .play]) d (d.parted c) := hmoved.trans hdropped
    refine h.of_plays hparted.plays_unkeyed fun id ht => ?_
    -- The call that goes is not the active one.
    have hne : c.id ≠ id := fun hid => by
      obtain ⟨x, hx, hxid, ha⟩ := ht
      exact hs (Registry.eq_of_id_eq hc hx (hid.trans hxid.symm) ▸ ha)
    exact (ht.moved fun hid => absurd hid hne).dropped hne

/-- A call that is ended for a known reason sounds its tone. -/
theorem Covered.finish (h : d.Covered) (id : CallId) {ended : EndReason} (he : ended ≠ .unknown) :
    (finish id ended).Within d Covered := by
  refine within_bind.mpr (ends_discard.mpr (ends_amend (fun c hc hid => ?_) fun _ => h))
  subst hid
  have ha : (d.amended c.id ({ · with ended })).Covered := h.amended c.id fun _ => rfl
  refine ends_part (fun x hx hid => ha.parted hx ?_) fun _ => ha
  rw [Registry.eq_of_id_eq hx (mem_amended hc) hid]
  exact he

/-- Hanging up ends one call, and may resume another. -/
theorem Covered.hangUp (h : d.Covered) (id : CallId) : (hangUp id).Within d Covered := by
  refine within_bind.mpr (ends_call (fun c _ _ => ?_) fun _ => h)
  split
  · exact within_throw_bind h
  have ht := h.telephoned (.hangUp c)
  refine within_bind.mpr (ends_telephone ?_ ht)
  refine (ht.finish id (by decide)).bind fun _ d₁ h₁ => within_bind.mpr ?_
  rw [ends_get]
  split
  · split
    · exact (ends_tryCatch _).mpr (h₁.resume _)
    · exact h₁
  · exact h₁

/-- A member is kicked out of its conference, which may dissolve. -/
theorem Covered.kickOut (h : d.Covered) (id : CallId) : (kickOut id).Within d Covered := by
  refine within_bind.mpr (ends_member (fun c _ main _ _ => ?_) fun _ _ => h)
  have ht := h.telephoned (.kickOut c)
  refine within_bind.mpr (ends_telephone ?_ ht)
  exact (ht.finish id (by decide)).bind fun _ d₁ h₁ => h₁.dissolveIfSingle main

/-- The radio reports that a call is active, or that it has ended for a known reason. -/
theorem Covered.reportState (h : d.Covered) {id : CallId} {state : CallState}
    {ended : Option EndReason} (hl : ¬(Operation.reportState id state ended).LaysAside d) :
    (reportState id state ended).Within d Covered := by
  have go {d₁ : Desk} (h₁ : d₁.Covered) (he : state = .disconnected ∨ state = .idle →
        ∀ c ∈ d₁.registry.calls, c.id = id → c.ended ≠ .unknown) :
      (if state = .disconnected ∨ state = .idle then do
        setState id .disconnected
        unregister id
      else setState id state).Within d₁ Covered := by
    split
    · rename_i hs
      exact ends_part (fun c hc hid => h₁.parted hc (he hs c hc hid)) fun _ => h₁
    · rename_i hs
      have hactive : state = .active := by simpa [Operation.LaysAside, hs] using hl
      subst hactive
      exact h₁.activate id
  have hknown (hs : state = .disconnected ∨ state = .idle) :
      ∀ c ∈ d.registry.calls, c.id = id → ended.getD c.ended ≠ .unknown := by
    simpa [Operation.LaysAside, hs] using hl
  unfold Desk.reportState
  refine within_bind.mpr (ends_discard.mpr (ends_call (fun c hc hid => ?_) fun _ => h))
  cases ended with
  | none => exact go h fun hs c hc hid => hknown hs c hc hid
  | some reason =>
    refine within_bind.mpr (ends_discard.mpr (ends_amend (fun c hc hid => ?_) fun _ => h))
    subst hid
    refine go (h.amended c.id fun _ => rfl) fun hs x hx hid => ?_
    rw [Registry.eq_of_id_eq hx (mem_amended hc) hid]
    exact hknown hs c hc rfl

/-! ## Runs -/

/-- The operation takes the last active call out of its state, and a key sounds all the same. -/
def Forsakes (d : Desk) : Happening → Prop
  | .operation o => o.LaysAside d ∧ hasActive d.registry.calls = true ∧
    hasActive (d.after (.operation o)).registry.calls = false ∧
    (d.after (.operation o)).keySounds = true
  | _ => False

/-- In service or not, the operation leaves some call active. -/
theorem Talking.served {x : DeskM Unit} (h : d.Talking id) (hx : x.Within d Active) :
    ((inService x).perform d).2.Active :=
  Within.perform (ends_inService (fun _ => hx) fun _ => ⟨id, h⟩)

/-- An operation that neither lays a call aside nor ends one leaves some call active. -/
theorem Talking.perform {o : Operation} (h : d.Talking id) (hl : ¬o.LaysAside d)
    (he : o.mayEnd = false) : (o.perform d).2.Active := by
  have accessory (s : Signal) (hs : s.isCall = false) : (d.dispatch s).2.Talking id :=
    h.of_registry (congrArg Core.registry (core_dispatch_device d hs))
  cases o with
  | dial | dialTogether | arrive | answer | hold | unhold => exact absurd trivial hl
  | hangUp | kickOut | reportState => cases he
  | start => exact Within.perform (Talking.within h.start)
  | shutdown => exact Within.perform (Talking.within h.shutdown)
  | reject id' => exact h.served (Talking.within (h.reject id'))
  | switch id' => exact h.served (switch_active h id')
  | combine id' => exact h.served (Talking.within (h.combine id'))
  | separate id' => exact h.served (separate_active h id')
  | join id' numbers => exact h.served (Talking.within (h.join id' numbers))
  | setImsMode id' mode => exact h.served (Talking.within (h.setImsMode id' mode))
  | startRtt id' text => exact h.served (Talking.within (h.startRtt id' text))
  | stopRtt id' => exact h.served (Talking.within (h.stopRtt id'))
  | startDtmf id' digit => exact h.served (Talking.within (h.startDtmf id' digit))
  | stopDtmf id' => exact h.served (Talking.within (h.stopDtmf id'))
  | setMute muted => exact Within.perform (Talking.within (h.setMute muted))
  | setDevice device => exact Within.perform (Talking.within (h.setDevice device))
  | setRingerMode mode => exact ⟨id, h.of_registry rfl⟩
  | reportBearer id' bearer => exact h.served (Talking.within (h.reportBearer id' bearer))
  | reportVideo id' media => exact h.served (Talking.within (h.reportVideo id' media))
  | reportHeadset connected =>
    refine h.served (within_modify ⟨id, ?_⟩)
    cases connected <;> exact accessory _ rfl
  | reportBluetooth connected =>
    refine h.served (within_modify ⟨id, ?_⟩)
    cases connected <;> exact accessory _ rfl

theorem Covered.served {x : DeskM Unit} (hd : d.Covered) (hx : x.Within d Covered) :
    ((inService x).perform d).2.Covered :=
  Within.perform (ends_inService (fun _ => hx) fun _ => hd)

/-- A key is pressed on an active call only. -/
theorem Covered.startDtmf (hd : d.Covered) (id : CallId) (digit : Char) :
    (startDtmf id digit).Within d Covered := by
  refine within_bind.mpr (ends_callIn (fun c hc hid hs => ?_) fun _ _ => hd)
  subst hid
  have ht := hd.telephoned (.startDtmf c digit)
  refine within_bind.mpr (ends_telephone ?_ ht)
  have hc : c ∈ (d.telephoned (.startDtmf c digit)).registry.calls := by rwa [registry_telephoned]
  have hkeyed : (d.telephoned (.startDtmf c digit)).Plays (fun _ => True)
    ((d.telephoned (.startDtmf c digit)).soundKey digit) := plays_soundTone _ trivial
  exact Active.covered ⟨c.id, c, hc, rfl, List.mem_singleton.mp hs⟩ (hkeyed.tended ht.tended)

/-- Whatever happens covers the keys, unless it forsakes one. -/
theorem Covered.after {h : Happening} (hd : d.Covered) (hm : h.ByManager) (hf : ¬d.Forsakes h) :
    (d.after h).Covered := by
  -- Where no key is pressed, a key that sounds did so before, when some call was active.
  have unkeyed (hk : .key ∉ h.deeds) (ha : d.Active → (d.after h).keySounds = true →
      (d.after h).Active) : (d.after h).Covered := by
    have hp : .play ∉ h.deeds := by
      cases h with
      | operation o => cases o <;> simp [Happening.deeds, Operation.deeds]
      | audio => exact hm.elim
      | circumstance | rest => simp [Happening.deeds]
    have hplays := d.plays_after_of_unkeyed hk hp
    exact ⟨hplays.tended hd.tended, fun hs => ha (hd.active (hplays.keySounds hd.tended hs)) hs⟩
  cases h with
  | audio => exact hm.elim
  | circumstance c =>
    refine unkeyed (by simp [Happening.deeds]) fun ha _ => ha.imp fun id ht => ?_
    cases c <;> exact ht.of_registry rfl
  | rest =>
    exact unkeyed (by simp [Happening.deeds]) fun ha _ =>
      ha.imp fun id ht => ht.of_registry (registry_drain d)
  | operation o =>
    by_cases hl : o.LaysAside d
    · refine unkeyed ?_ fun ha hs => ?_
      · cases o <;> first | exact hl.elim | simp [Happening.deeds, Operation.deeds]
      · refine hasActive_iff.mp (eq_true_of_ne_false fun hn => ?_)
        exact hf ⟨hl, hasActive_iff.mpr ha, hn, hs⟩
    · cases o with
      | hangUp id => exact hd.served (hd.hangUp id)
      | kickOut id => exact hd.served (hd.kickOut id)
      | reportState id state ended => exact hd.served (hd.reportState hl)
      | startDtmf id digit => exact hd.served (hd.startDtmf id digit)
      | _ =>
        refine unkeyed (by simp [Happening.deeds, Operation.deeds]) fun ha _ => ?_
        obtain ⟨_, ht⟩ := ha
        exact ht.perform hl rfl

/-- Invariant of every run in which no key is forsaken. -/
theorem Reach.covered (h : Reach (fun d h => h.ByManager ∧ ¬d.Forsakes h) n d) : d.Covered := by
  induction h with
  | @assembled config _ outside _ hd hl =>
    obtain ⟨refuses, failures, log, delay⟩ := outside
    obtain rfl : log = [] := hl
    rw [assemble_eq hd]
    exact ⟨Sound.tended_silent config _ refuses failures delay, nofun⟩
  | next _ hm ih => exact ih.after hm.1 hm.2

/-! ## Releasing a key -/

/-- Released, a key does not sound, whatever sounded before. -/
theorem keySounds_silenceDtmf (d : Desk) : d.silenceDtmf.2.keySounds = false := by
  unfold silenceDtmf
  cases ht : d.currentTone? with
  | none =>
    show d.currentTone?.any (·.isDtmf) = false
    rw [ht]
    rfl
  | some tone =>
    dsimp only
    split
    · have hnone : (d.toSound.stopToneIf tone).2.tone = none := by
        refine Option.map_eq_none_iff.mp ((Sound.tone?_stopToneIf _ _).trans ?_)
        exact if_pos (Sound.tone?_of_currentTone? ht)
      show (d.toSound.stopToneIf tone).2.currentTone?.any (·.isDtmf) = false
      rw [Sound.currentTone?, hnone]
      rfl
    · rename_i hn
      show d.currentTone?.any (·.isDtmf) = false
      rw [ht]
      exact eq_false_of_ne_true hn

/-- A key is released on an active call, if telephony complies. -/
theorem stopDtmf_active (hc : c ∈ d.registry.calls) (hs : c.state = .active) :
    (stopDtmf c.id).Ends d (fun _ d' => d'.keySounds = false)
      fun e _ => e = d.outside.failure (.telephony (.stopDtmf c)) := by
  have hcall : (callIn c.id [.active] "stop dtmf").Ends d (fun c' d' => c' = c ∧ d' = d)
      fun _ _ => False := by
    refine (ends_bind _).mpr (ends_call (fun x hx hid => ?_) fun ha => ha c hc rfl)
    obtain rfl := Registry.eq_of_id_eq hx hc hid
    rw [hs]
    exact ⟨rfl, rfl⟩
  refine (ends_bind _).mpr (hcall.mono ?_ fun _ _ => False.elim)
  rintro _ _ ⟨rfl, rfl⟩
  exact (ends_bind _).mpr (ends_telephone (keySounds_silenceDtmf _) rfl)

/-! ## Every run -/

/-- **A key sounds under an active call.** In every run in which no operation forsakes a key, some
call is active while a key sounds; and on every active call the key can be released: it falls
silent, unless the desk is out of service or telephony does not comply. -/
theorem key_under_active_call (h : Reach (fun d h => h.ByManager ∧ ¬d.Forsakes h) n d)
    (hk : d.keySounds = true) :
    hasActive d.registry.calls = true ∧ ∀ c ∈ d.registry.calls, c.state = .active →
      let (reply, released) := (Operation.stopDtmf c.id).perform d
      (reply = .result (.ok ()) → released.keySounds = false) ∧
        ∀ e, reply = .result (.error e) →
          e = .notInitialized ∨ e = d.outside.failure (.telephony (.stopDtmf c)) := by
  refine ⟨hasActive_iff.mpr (h.covered.active hk), fun c hc hs => ?_⟩
  have hends : (inService (stopDtmf c.id)).Ends d (fun _ d' => d'.keySounds = false) fun e _ =>
      e = .notInitialized ∨ e = d.outside.failure (.telephony (.stopDtmf c)) :=
    ends_inService (fun _ => (stopDtmf_active hc hs).mono (fun _ _ h => h) fun _ _ => .inr)
      fun _ => .inl rfl
  exact ⟨(ends_conclude hends).1, fun e he => hends.failed (Reply.result.inj he)⟩

/-- A key is pressed while another call is on hold, and the calls are switched: the key can be
released on the other one. -/
theorem key_under_active_call_switched :
    let run : List Happening :=
      [.operation .start, .operation (.dial ⟨"1", 0, .cs, .voice, false⟩),
        .operation (.reportState 1 .active none), .operation (.hold 1),
        .operation (.dial ⟨"2", 0, .cs, .voice, false⟩), .operation (.reportState 2 .active none),
        .operation (.startDtmf 2 '5'), .operation (.switch 2)]
    let d := standard.afterAll run
    Reach (fun d h => h.ByManager ∧ ¬d.Forsakes h) 2 d ∧ d.keySounds = true ∧
      hasActive d.registry.calls = true ∧
      d.registry.calls.map (·.state) = [.active, .holding] := by
  intro run d
  -- No key sounds before the one that is pressed last.
  have hp : Permits (fun d h => h.ByManager ∧ ¬d.Forsakes h) standard run :=
    ⟨⟨trivial, fun h => h.1⟩, ⟨trivial, fun h => absurd h.2.2.2 (by decide +kernel)⟩,
      ⟨trivial, fun h => absurd h.2.2.2 (by decide +kernel)⟩,
      ⟨trivial, fun h => absurd h.2.2.2 (by decide +kernel)⟩,
      ⟨trivial, fun h => absurd h.2.2.2 (by decide +kernel)⟩,
      ⟨trivial, fun h => absurd h.2.2.2 (by decide +kernel)⟩, ⟨trivial, fun h => h.1⟩,
      ⟨trivial, fun h => h.1⟩, trivial⟩
  have hn : 0 + standard.givenAll run = 2 := by decide +kernel
  have h : Reach (fun d h => h.ByManager ∧ ¬d.Forsakes h) 2 d := hn ▸ (reach_standard _).all hp
  have hk : d.keySounds = true := by decide +kernel
  exact ⟨h, hk, (key_under_active_call h hk).1, by decide +kernel⟩

/-- A call is put on hold while a key is pressed. The key goes on sounding under no active call, and
can no longer be released. -/
theorem hold_forsakes :
    let run : List Happening :=
      [.operation .start, .operation (.dial ⟨"1", 0, .cs, .voice, false⟩),
        .operation (.reportState 1 .active none), .operation (.startDtmf 1 '5'),
        .operation (.hold 1)]
    let d := standard.afterAll run
    Reach (fun _ h => h.ByManager) 1 d ∧ d.keySounds = true ∧
      hasActive d.registry.calls = false ∧
      ((Operation.stopDtmf 1).perform d).1 =
        .result (.error (.invalidState 1 .holding "stop dtmf")) := by
  intro run d
  have hp : Permits (fun _ h => h.ByManager) standard run :=
    ⟨trivial, trivial, trivial, trivial, trivial, trivial⟩
  have hn : 0 + standard.givenAll run = 1 := by decide +kernel
  have hrefused : ((inService (stopDtmf 1)).perform d).1 =
      .error (.invalidState 1 .holding "stop dtmf") := by decide +kernel
  exact ⟨hn ▸ (reach_standard _).all hp, by decide +kernel, by decide +kernel,
    congrArg Reply.result hrefused⟩

end Desk

end Switchboard
