import Switchboard.Proofs.Desk.Mutations

/-!
# The players attend to the posture

The posture machine says when it is to ring and when a ringback tone is to sound, and it says so
whenever it enters or leaves the posture that goes with it, so these two never outlast the posture:
`Desk.Attended`, which every mutation keeps. The call-waiting tone is not tied to a posture. It is
stopped when the audio side finds that no call rings any more, which it looks at after every move of
a call: `Desk.Awaited`, which every step keeps. Both together are `playback_attends`.

What a player owns may be over, as a playback can end by itself; nothing here depends on that.
-/

namespace Switchboard

open Playback (Sound)

/-! ## What the players own -/

namespace Playback.Sound

variable (s : Sound) (tone : Tone)

/-- The tone that the tone player owns. -/
def tone? : Option Tone := s.tone.map (·.1)

/-- What the ringer owns: its ringtone, and the vibrator. -/
def bell : Option Nat × Bool := (s.ringtone, s.vibrating)

variable {s tone}

/-- A tone that sounds is owned by the tone player. -/
theorem tone?_of_currentTone? (h : s.currentTone? = some tone) : s.tone? = some tone := by
  unfold currentTone? at h
  unfold tone?
  split at h
  · rename_i owned id ht
    split at h
    · rw [ht]
      exact h
    · cases h
  · cases h

/-- Where the ringer owns nothing it does not ring. -/
theorem isRinging_of_bell (h : s.bell = (none, false)) : s.isRinging = false := by
  obtain ⟨hr, hv⟩ := Prod.mk.inj h
  simp [isRinging, hr, hv]

variable (s tone)

/-- A stopped tone is owned no more, whether its playback was over or not. -/
@[simp] theorem tone?_stopTone : s.stopTone.2.tone? = none := by
  unfold stopTone
  split
  · rfl
  · rename_i ht
    simp [tone?, ht]

@[simp] theorem bell_stopTone : s.stopTone.2.bell = s.bell := by
  unfold stopTone
  split <;> rfl

/-- One tone is stopped only if it is the one that is owned. -/
@[simp] theorem tone?_stopToneIf :
    (s.stopToneIf tone).2.tone? = if s.tone? = some tone then none else s.tone? := by
  have hs : s.stopTone.2.tone = none := Option.map_eq_none_iff.mp s.tone?_stopTone
  unfold stopToneIf tone?
  cases ht : s.tone with
  | none => simp [ht]
  | some owned => by_cases ho : owned.1 = tone <;> simp [hs, ht, ho]

@[simp] theorem bell_stopToneIf : (s.stopToneIf tone).2.bell = s.bell := by
  unfold stopToneIf
  split
  · exact s.bell_stopTone
  · rfl

/-- A tone without a rendering is not played. -/
theorem tone?_playTone :
    (s.playTone tone).tone? = s.tone? ∨ (s.playTone tone).tone? = some tone := by
  unfold playTone
  split
  · exact .inl rfl
  · exact .inr rfl

@[simp] theorem bell_playTone : (s.playTone tone).bell = s.bell := by
  unfold playTone
  split
  · rfl
  · exact s.bell_stopTone

/-- To stop ringing leaves the ringer with nothing. -/
@[simp] theorem bell_stopRing : s.stopRing.2.bell = (none, false) := by
  have hv (s : Sound) : s.stillVibrator.bell = (s.ringtone, false) := by
    unfold stillVibrator bell
    split
    · rfl
    · rename_i h
      rw [eq_false_of_ne_true h]
  have hr : s.stopRingtone.ringtone = none := by
    unfold stopRingtone
    split
    · rfl
    · assumption
  exact (hv _).trans (by rw [hr])

/-- The ringer does not touch the tone. -/
@[simp] theorem tone?_stopRing : s.stopRing.2.tone? = s.tone? := by
  have hv (s : Sound) : s.stillVibrator.tone? = s.tone? := by
    unfold stillVibrator
    split <;> rfl
  refine (hv _).trans ?_
  unfold stopRingtone
  split <;> rfl

/-- The ringer does not touch the tone when it begins to ring. -/
theorem tone?_ring {s' : Sound} {slot : SlotId} (h : s.ring slot = .ok s') :
    s'.tone? = s.tone? := by
  have hr (s : Sound) : s.roused.tone? = s.tone? := by
    unfold roused
    dsimp only
    split <;> rfl
  rcases ring_cases h with ⟨-, rfl⟩ | ⟨-, rfl⟩ | ⟨-, rfl⟩
  · exact s.tone?_stopRing
  · exact (hr _).trans s.tone?_stopRing
  · exact (hr _).trans s.tone?_stopRing

end Playback.Sound

/-! ## What the posture machine asks for -/

namespace Posture.Machine

/-- Entering and leaving a posture is announced to the players that go with it. -/
structure Heralds (m m' : Machine) (effects : List Effect) : Prop where
  pending : m'.pending = m.pending ++ effects
  ring : .startRinging ∈ effects → m.current ≠ .incoming ∧ m'.current = .incoming
  /-- It is to begin to ring once. -/
  once : effects.count .startRinging ≤ 1
  still : m.current = .incoming → m'.current ≠ .incoming → .stopRinging ∈ effects
  ringback : .playRingback ∈ effects → m'.current = .alerting
  silence : m.current = .alerting → m'.current ≠ .alerting → .stopRingback ∈ effects

/-- However the posture machine moves, it asks for what goes with the posture it leaves and with the
one that it enters. -/
theorem Moves.heralds {m m' : Machine} (h : m.Moves m') : ∃ effects, m.Heralds m' effects := by
  have stayed : m.Heralds m [] :=
    ⟨(List.append_nil _).symm, by simp, by simp, fun h h' => absurd h h', by simp,
      fun h h' => absurd h h'⟩
  cases h with
  | stayed => exact ⟨_, stayed⟩
  | pushed =>
    exact ⟨_, rfl, by simp, by decide, fun h h' => absurd h h', by simp, fun h h' => absurd h h'⟩
  | went next t =>
    unfold transition
    split
    · exact ⟨_, stayed⟩
    rename_i hne
    -- The scene of a posture is a mode of the platform at most, and nothing that the players do.
    have hscene (e : Effect) (he : e ∈ (m.scene next).2) : ∃ mode, e = .modeChanged mode := by
      unfold scene at he
      split at he
      · split at he
        · cases he
        · exact ⟨_, List.mem_singleton.mp he⟩
      · cases he
    -- To start something is asked for only by the posture that is entered.
    have hwelcome {e : Effect} (he : e ∈ farewell m.current ++ welcome next ++ (m.scene next).2 ++
        if t.hasRingActivity then [] else [.muteNetworkRing])
        (hs : e = .startRinging ∨ e = .playRingback) : e ∈ welcome next := by
      simp only [List.mem_append] at he
      rcases he with ((he | he) | he) | he
      · cases hp : m.current <;> rw [hp] at he <;> simp [farewell] at he <;> simp [he] at hs
      · exact he
      · obtain ⟨mode, rfl⟩ := hscene e he
        simp at hs
      · split at he <;> simp at he
        simp [he] at hs
    refine ⟨_, rfl, fun he => ?_, ?_, fun h _ => ?_, fun he => ?_, fun h _ => ?_⟩
    · have he := hwelcome he (.inl rfl)
      obtain rfl : next = .incoming := by cases next <;> simp [welcome] at he ⊢
      exact ⟨hne, rfl⟩
    · have hf : (farewell m.current).count .startRinging = 0 := by cases m.current <;> rfl
      have hs : (m.scene next).2.count .startRinging = 0 :=
        List.count_eq_zero.mpr fun he => by obtain ⟨mode, h⟩ := hscene _ he; cases h
      have hw : (welcome next).count .startRinging ≤ 1 := by cases next <;> decide
      have hq : (if t.hasRingActivity then [] else [Effect.muteNetworkRing]).count .startRinging
          = 0 := by split <;> rfl
      simp only [List.count_append, hf, hs, hq]
      omega
    · simp [farewell, show m.current = _ from h]
    · have he := hwelcome he (.inr rfl)
      cases next <;> simp [welcome] at he ⊢
    · simp [farewell, show m.current = _ from h]

end Posture.Machine

namespace Desk

variable {allowed : Deed → Prop} {rule : Rule} {d d' : Desk} {n : Nat} {calls : List Call}

/-! ## What does not concern the players -/

/-- The calls, the posture machine and what the players own. -/
def tableau (d : Desk) : Registry × Posture.Machine × Option Tone × Option Nat × Bool :=
  (d.registry, d.posture, d.tone?, d.bell)

@[simp] theorem tableau_moveRoute (d : Desk) (next : Route.Machine) :
    (d.moveRoute next).tableau = d.tableau := by
  unfold moveRoute
  dsimp only
  split <;> split <;> rfl

@[simp] theorem tableau_applyMute (d : Desk) (value : Bool) :
    (d.applyMute value).tableau = d.tableau := view_applyMute tableau rfl fun _ => rfl

/-- The focus and the route are nothing to the players. -/
@[simp] theorem tableau_updateFocus (d : Desk) (calls : List Call) :
    (d.updateFocus calls).tableau = d.tableau := by
  have hf (d : Desk) (signal : Signal) : (d.feedRoute signal calls).2.tableau = d.tableau :=
    tableau_moveRoute d _
  unfold updateFocus
  dsimp only
  split
  · rfl
  · split
    · exact (tableau_applyMute _ _).trans (hf _ _)
    · exact hf _ _

@[simp] theorem tableau_leaveEarpiece (d : Desk) (calls : List Call) :
    (d.leaveEarpiece calls).2.tableau = d.tableau := by
  unfold leaveEarpiece
  split
  · split
    · exact tableau_moveRoute d _
    · rfl
  · rfl

@[simp] theorem tableau_updateVideoRoute (d : Desk) (calls : List Call) :
    (d.updateVideoRoute calls).tableau = d.tableau := by
  unfold updateVideoRoute
  dsimp only
  split
  · exact tableau_leaveEarpiece _ _
  · rfl

@[simp] theorem tableau_routeVideo (d : Desk) : d.routeVideo.2.tableau = d.tableau := by
  unfold routeVideo
  dsimp only
  split
  · exact tableau_leaveEarpiece _ _
  · rfl

theorem tableau_dispatchDevice (d : Desk) (signal : Signal) :
    (d.dispatchDevice signal).2.tableau = d.tableau := by
  have hn : (d.noteAccessory signal).tableau = d.tableau := by cases signal <;> rfl
  exact (tableau_moveRoute _ _).trans hn

/-- What the tableau is made of goes by it. -/
theorem of_tableau (h : d'.tableau = d.tableau) :
    d'.registry = d.registry ∧ d'.posture = d.posture ∧ d'.tone? = d.tone? ∧ d'.bell = d.bell := by
  simpa [tableau] using h

@[simp] theorem tone?_stopRinging (d : Desk) : d.stopRinging.2.tone? = d.tone? := by
  unfold stopRinging
  dsimp only
  split <;> exact d.tone?_stopRing

/-- After ringing was stopped the ringer owns nothing. -/
@[simp] theorem bell_stopRinging (d : Desk) : d.stopRinging.2.bell = (none, false) := by
  unfold stopRinging
  dsimp only
  split <;> exact d.bell_stopRing

/-- A tone that was stopped is not owned. -/
theorem tone?_silenceToneIf_ne (d : Desk) (tone : Tone) :
    (d.silenceToneIf tone).2.tone? ≠ some tone := by
  show (d.toSound.stopToneIf tone).2.tone? ≠ _
  rw [Sound.tone?_stopToneIf]
  split
  · simp
  · assumption

/-- To stop a key's tone stops that tone or nothing. -/
theorem tone?_silenceDtmf (d : Desk) :
    d.silenceDtmf.2.tone? = d.tone? ∨ d.silenceDtmf.2.tone? = none := by
  unfold silenceDtmf
  split
  · rename_i tone _
    split
    · refine (em (d.tone? = some tone)).elim (fun h => .inr ?_) fun h => .inl ?_
      · exact (d.tone?_stopToneIf tone).trans (if_pos h)
      · exact (d.tone?_stopToneIf tone).trans (if_neg h)
    · exact .inl rfl
  · exact .inl rfl

/-! ## Effects of the posture machine -/

/-- Only to start ringing makes the ringer own something. -/
theorem bell_carryOut {e : Effect} (he : e ≠ .startRinging) (hd : d.bell = (none, false)) :
    (carryOut calls d e).bell = (none, false) := by
  cases e with
  | playRingback | playWaitingTone => exact (d.bell_playTone _).trans hd
  | stopRingback | muteNetworkRing => exact (d.bell_stopToneIf _).trans hd
  | stopRinging => exact d.bell_stopRinging
  | modeChanged mode => exact hd
  | startRinging => exact absurd rfl he

theorem tone?_startRinging {slot : SlotId} (h : d.startRinging slot = .ok d') :
    d'.tone? = d.tone? := by
  unfold startRinging at h
  split at h
  · rename_i sound hs
    cases h
    have ht : sound.tone? = d.tone? := Sound.tone?_ring d.toSound hs
    exact ht
  · cases h

/-- Only to play the ringback tone makes the tone player own it. -/
theorem tone?_carryOut {e : Effect} (he : e ≠ .playRingback) (hd : d.tone? ≠ some .ringback) :
    (carryOut calls d e).tone? ≠ some .ringback := by
  cases e with
  | playRingback => exact absurd rfl he
  | playWaitingTone =>
    rcases d.tone?_playTone .waiting with h | h
    · exact fun hw => hd (h.symm.trans hw)
    · exact fun hw => by simp [show (carryOut calls d .playWaitingTone).tone? = _ from h] at hw
  | stopRingback | muteNetworkRing =>
    show (d.toSound.stopToneIf .ringback).2.tone? ≠ _
    rw [Sound.tone?_stopToneIf, if_neg hd]
    exact hd
  | startRinging =>
    unfold carryOut
    dsimp only
    split
    · rw [tone?_startRinging ‹_›]
      exact hd
    · exact hd
  | stopRinging =>
    show d.stopRinging.2.tone? ≠ _
    rw [tone?_stopRinging]
    exact hd
  | modeChanged mode => exact hd

/-- What the posture machine asks for does not move it. -/
theorem posture_foldl_carryOut (d : Desk) (effects : List Effect) :
    (effects.foldl (carryOut calls) d).posture = d.posture := by
  refine foldl_carryOut (P := fun d' => d'.posture = d.posture) effects (fun e _ d' h => ?_)
    (.inl rfl)
  cases he : e.mode? with
  | none => rw [(playbackOnly_carryOut calls d' he).rest]; exact h
  | some mode =>
    cases e with
    | modeChanged mode => exact h
    | _ => cases he

/-! ## Ringing and the ringback tone -/

/-- It does not ring but while a call comes in, no ringback tone sounds but while one alerts, and
nothing that the posture machine asked for is left to be done. -/
structure Attended (d : Desk) : Prop where
  settled : d.posture.pending = []
  ring : d.posture.current ≠ .incoming → d.bell = (none, false)
  ringback : d.posture.current ≠ .alerting → d.tone? ≠ some .ringback

theorem Attended.of_tableau (h : d.Attended) (hs : d'.tableau = d.tableau) : d'.Attended := by
  obtain ⟨-, hp, htone, hbell⟩ := Desk.of_tableau hs
  constructor
  · rw [hp]
    exact h.settled
  · rw [hp, hbell]
    exact h.ring
  · rw [hp, htone]
    exact h.ringback

/-- A move of the posture machine has the players do what goes with it. -/
theorem Attended.turned (h : d.Attended) (calls : List Call) {posture : Posture.Machine}
    (hm : d.posture.Moves posture) : (d.turned calls posture).Attended := by
  obtain ⟨effects, he⟩ := hm.heralds
  have hpending : posture.pending = effects := by rw [he.pending, h.settled, List.nil_append]
  unfold Desk.turned
  dsimp only
  rw [hpending]
  generalize hnext : (if posture.current = d.posture.current then _ else _ : Desk) = next
  have hposture : next.posture = { posture with pending := [] } := by
    rw [← hnext]
    split <;> rfl
  have hbell : next.bell = d.bell := by
    rw [← hnext]
    split <;> rfl
  have htone : next.tone? = d.tone? := by
    rw [← hnext]
    split <;> rfl
  have hcurrent : (effects.foldl (carryOut calls) next).posture.current = posture.current := by
    rw [posture_foldl_carryOut, hposture]
  refine ⟨by rw [posture_foldl_carryOut, hposture], fun hn => ?_, fun hn => ?_⟩
  · rw [hcurrent] at hn
    -- Nothing that is asked for rings, since the posture is not `incoming`. If it was, ringing is
    -- stopped on the way; if it was not, the ringer owned nothing before.
    refine foldl_carryOut (P := fun d => d.bell = (none, false)) effects
      (fun e hm d => bell_carryOut fun hs => hn (he.ring (hs ▸ hm)).2) ?_
    by_cases hi : d.posture.current = .incoming
    · exact .inr ⟨_, he.still hi hn, bell_stopRinging⟩
    · exact .inl (hbell.trans (h.ring hi))
  · rw [hcurrent] at hn
    -- The ringback tone goes the same way.
    refine foldl_carryOut (P := fun d => d.tone? ≠ some .ringback) effects
      (fun e hm d => tone?_carryOut fun hs => hn (he.ringback (hs ▸ hm))) ?_
    by_cases ha : d.posture.current = .alerting
    · exact .inr ⟨_, he.silence ha hn, (tone?_silenceToneIf_ne · .ringback)⟩
    · refine .inl ?_
      rw [htone]
      exact h.ringback ha

/-- What the players do at once is in keeping with the posture: the tones that go with a posture are
left to the machine. -/
theorem Sounded.attended (h : d.Sounded allowed d') (hp : ¬allowed .play) (hd : d.Attended) :
    d'.Attended := by
  have toned (tone : Option Tone) (hd' : d'.posture = d.posture) (hb : d'.bell = d.bell)
      (ht : d'.tone? = d.tone? ∨ d'.tone? = tone) (hr : tone ≠ some .ringback) : d'.Attended := by
    refine ⟨by rw [hd']; exact hd.settled, by rw [hd', hb]; exact hd.ring, fun ha => ?_⟩
    rw [hd'] at ha
    rcases ht with ht | ht
    · rw [ht]
      exact hd.ringback ha
    · rw [ht]
      exact hr
  have hposture : d'.posture = d.posture := by rw [h.playbackOnly.rest]
  cases h with
  | settled | elapsed => exact hd.of_tableau rfl
  | toned tone ht _ =>
    refine toned (some tone) rfl (d.bell_playTone tone) (d.tone?_playTone tone) fun he => ?_
    exact hp (ht (.inl (Option.some.inj he)))
  | silenced => exact toned none rfl d.bell_stopTone (.inr d.tone?_stopTone) (by simp)
  | silencedIf tone =>
    refine toned none rfl (d.bell_stopToneIf tone) ?_ (by simp)
    rw [show (d.silenceToneIf tone).2.tone? = _ from d.tone?_stopToneIf tone]
    split
    · exact .inr rfl
    · exact .inl rfl
  | rang hp' => exact absurd hp' hp
  | stilled =>
    refine ⟨by rw [hposture]; exact hd.settled, fun _ => d.bell_stopRinging, fun ha => ?_⟩
    rw [hposture] at ha
    rw [tone?_stopRinging]
    exact hd.ringback ha
  | hushed =>
    refine ⟨hd.settled, fun _ => d.bell_stopRing, fun ha => ?_⟩
    rw [show (d.onSound (·.stopRing.2)).tone? = _ from d.tone?_stopRing]
    exact hd.ringback ha

/-- While nobody tells the audio side to play what no call is behind, every mutation keeps the
players in attendance. -/
theorem Mutation.attended (h : Mutation allowed d d') (hp : ¬allowed .play) (hd : d.Attended) :
    d'.Attended := by
  cases h with
  | sounded h => exact h.attended hp hd
  | turned calls hm => exact hd.turned calls hm
  | routed next => exact hd.of_tableau (tableau_moveRoute d next)
  | muted => exact hd.of_tableau (tableau_applyMute d _)
  | ringer | setFailAfter | noted | asked | told | amended | moved | added | dropped | issued =>
    exact ⟨hd.settled, hd.ring, hd.ringback⟩

theorem Mutations.attended (h : Mutations allowed d d') (hp : ¬allowed .play) (hd : d.Attended) :
    d'.Attended := by
  induction h with
  | refl => exact hd
  | tail _ h ih => exact h.attended hp ih

/-! ## The call-waiting tone -/

/-- No call-waiting tone sounds but while a call rings. -/
def Awaited (d : Desk) : Prop := d.tone? = some .waiting → hasRinging d.registry.calls = true

theorem Awaited.of_tableau (h : d.Awaited) (hs : d'.tableau = d.tableau) : d'.Awaited := by
  obtain ⟨hr, -, ht, -⟩ := Desk.of_tableau hs
  unfold Awaited
  rw [hr, ht]
  exact h

/-- Any tone but the call-waiting one may be played. -/
theorem Awaited.soundTone (h : d.Awaited) {tone : Tone} (ht : tone ≠ .waiting) :
    (d.soundTone tone).Awaited := by
  intro hw
  rcases d.tone?_playTone tone with he | he
  · exact h (he.symm.trans hw)
  · exact absurd (Option.some.inj (he.symm.trans hw)) ht

theorem Awaited.stopRinging (h : d.Awaited) : d.stopRinging.2.Awaited := by
  have hr : d.stopRinging.2.registry = d.registry := congrArg Core.registry (core_stopRinging d)
  unfold Awaited
  rw [hr, tone?_stopRinging]
  exact h

/-- An edit that keeps the states leaves as many calls ringing. -/
theorem Awaited.amended (h : d.Awaited) {id : CallId} {f : Call → Call}
    (hf : ∀ c ∈ d.registry.calls, c.id = id → (f c).state = c.state) :
    (d.amended id f).Awaited := by
  intro ht
  obtain ⟨c, hc, hr⟩ := List.any_eq_true.mp (h ht)
  refine List.any_eq_true.mpr ?_
  by_cases hid : c.id = id
  · refine ⟨{ f c with id := c.id }, Registry.mem_adjust.mpr (.inr ⟨c, hc, hid, rfl⟩), ?_⟩
    show (f c).state.isRinging = true
    rw [hf c hc hid]
    exact hr
  · exact ⟨c, Registry.mem_adjust.mpr (.inl ⟨hc, hid⟩), hr⟩

/-- When no call rings, what follows a move of the posture machine stops the call-waiting tone. -/
theorem tone?_afterTransition (d : Desk) (previous : Posture) (calls : List Call) {t : Tally}
    (ht : t.ringing = 0) : (d.afterTransition previous calls t).tone? ≠ some .waiting := by
  unfold afterTransition
  dsimp only
  rw [if_pos ht, (Desk.of_tableau ((tableau_updateVideoRoute _ _).trans
    (tableau_updateFocus _ _))).2.2.1]
  exact tone?_silenceToneIf_ne _ .waiting

/-- The audio side looks after the call-waiting tone whenever it corrects the posture. -/
theorem awaited_reconcile (d : Desk) : d.reconcile.Awaited := by
  intro ht
  have hr : d.reconcile.registry = d.registry := congrArg Core.registry (core_reconcile d)
  rw [hr]
  cases h : hasRinging d.registry.calls with
  | true => rfl
  | false =>
    refine absurd ht (tone?_afterTransition _ _ _ ?_)
    exact List.countP_eq_zero.mpr fun c hc => by simpa using List.any_eq_false.mp h c hc

/-- Every move of a call ends with such a correction. -/
theorem awaited_callMoved (d : Desk) (b : Bearer) (prior next : Option CallState) :
    (d.callMoved b prior next).Awaited := awaited_reconcile _

theorem awaited_added (d : Desk) (c : Call) (registry : Registry) :
    (d.added c registry).Awaited := by
  have h := awaited_callMoved (({ d with registry } : Desk).emit (.callAdded c)) c.bearer none
    (some c.state)
  unfold added callCreated
  dsimp only
  split
  · exact h.of_tableau (tableau_applyMute _ _)
  · exact h

/-- A call that stays in its state is no move, and one that ends has a tone of its own. -/
theorem awaited_moved (h : d.Awaited) {c : Call} (hc : c ∈ d.registry.calls) (next : CallState) :
    (d.moved c next).Awaited := by
  unfold moved
  dsimp only
  split
  · rename_i hs
    refine h.amended fun x hx hid => ?_
    rw [Registry.eq_of_id_eq hx hc hid]
    exact hs.symm
  · unfold updated
    dsimp only
    split
    · exact (awaited_callMoved _ _ _ _).soundTone (by cases c.ended <;> simp [Tone.ofEnd])
    · exact awaited_callMoved _ _ _ _

theorem awaited_dropped (d : Desk) (c : Call) : (d.dropped c).Awaited := by
  unfold dropped
  dsimp only
  split
  · unfold ringingCallGone
    dsimp only
    split
    · exact awaited_callMoved _ _ _ _
    · exact (awaited_callMoved _ _ _ _).stopRinging
  · exact awaited_callMoved _ _ _ _

theorem awaited_rebeared (d : Desk) (c : Call) (old : Bearer) : (d.rebeared c old).Awaited := by
  unfold rebeared
  split <;> exact awaited_reconcile _

theorem tableau_telephoned (d : Desk) (command : Command) :
    (d.telephoned command).tableau = d.tableau := by
  unfold telephoned kept
  split <;> rfl

/-- Every step leaves no call-waiting tone that no call is behind. -/
theorem Step.awaited (h : Step rule d d') (hd : d.Awaited) : d'.Awaited := by
  cases h with
  | telephoned command => exact hd.of_tableau (tableau_telephoned d command)
  | decided => exact hd.of_tableau rfl
  | added => exact awaited_added d _ _
  | amended id e => exact hd.amended fun c _ _ => e.apply_state c
  | moved hc next => exact awaited_moved hd hc next
  | answered => exact awaited_callMoved _ _ _ _
  | dropped => exact awaited_dropped d _
  | parted => exact awaited_dropped _ _
  | rebeared => exact awaited_rebeared _ _ _
  | kept => exact hd.amended fun _ _ _ => rfl
  | @shown c hc new =>
    have ha : (d.amended c.id ({ · with video := new })).Awaited := hd.amended fun _ _ _ => rfl
    unfold Desk.shown
    dsimp only
    split
    · split <;> exact ha
    · refine Awaited.of_tableau ?_ (tableau_routeVideo _)
      split <;> exact ha
  -- The tone of a key takes the place of whatever sounded.
  | keyed _ digit => exact hd.soundTone (by unfold Tone.ofDigit; split <;> simp)
  | released =>
    have hr : d.silenceDtmf.2.registry = d.registry := congrArg Core.registry (core_silenceDtmf d)
    intro ht
    rw [hr]
    rcases d.tone?_silenceDtmf with he | he
    · exact hd (he.symm.trans ht)
    · simp [he] at ht
  | muted => exact hd.of_tableau (tableau_applyMute d _)
  | routed => exact hd.of_tableau (tableau_moveRoute d _)
  | ringer => exact hd.of_tableau rfl
  | @accessory signal _ hs =>
    have hd' : (d.dispatch signal).2.tableau = d.tableau := by
      unfold dispatch
      rw [if_neg (by simp [Signal.isCall_of_isAccessory hs])]
      split
      · exact tableau_dispatchDevice d signal
      · rfl
    exact hd.of_tableau hd'

/-! ## Runs -/

/-- Steps one after the other leave no call-waiting tone that no call is behind. -/
theorem Steps.awaited (h : Steps rule d n d') (hd : d.Awaited) : d'.Awaited := by
  induction h with
  | refl => exact hd
  | step _ h ih => exact h.awaited ih
  | issued _ ih => exact ih

/-- Where no signal waits there is nothing to drain. -/
theorem Quiet.drain_eq (h : d.Quiet) : d.drain = d := by
  unfold drain
  rcases h with h | h
  · rw [h]
  · rw [h]
    show { d with queue := some [] } = d
    rw [← h]

/-- Whatever else happens at a quiet desk, no call-waiting tone is left alone. -/
theorem Transition.awaited (h : Transition rule d n d') (hq : d.Quiet) (hd : d.Awaited) :
    d'.Awaited := by
  cases h with
  | steps h => exact h.awaited hd
  | @dialed _ d₁ _ h =>
    have h₁ : d₁.Awaited := h.awaited hd
    exact h₁
  | opened | stopped => exact hd
  | closed =>
    intro ht
    have hnone : d.closed.tone? = none := by
      show (({ d with started := false } : Desk).drain.toSound.stopTone.2.stopRing.2).tone? = none
      rw [Sound.tone?_stopRing, Sound.tone?_stopTone]
    rw [hnone] at ht
    cases ht
  | rested =>
    have he : d.rest = d.onSound (·.settle) := by
      unfold rest
      rw [hq.drain_eq]
    rw [he]
    exact hd
  | befallen _ c => cases c <;> exact hd

theorem Transitions.awaited (h : Transitions rule d n d') (hq : d.Quiet) (hd : d.Awaited) :
    d'.Awaited := by
  induction h with
  | refl => exact hd
  | next hs h ih => exact h.awaited (hs.quiet hq) ih

/-- The players attend to the posture whatever happens, but for what is done to the audio side
alone. -/
theorem attended_after {h : Happening} (hm : h.ByManager) (hd : d.Attended) :
    (d.after h).Attended := by
  have hp : .play ∉ h.deeds := by
    cases h with
    | operation o => cases o <;> simp [Happening.deeds, Operation.deeds]
    | audio o => exact hm.elim
    | circumstance | rest => simp [Happening.deeds]
  rcases mutations_or_setFailing [.play] (by simp) d h (by simpa using hp) with hb | ⟨_, _, rfl⟩
  · exact hb.attended (by simp) hd
  · exact hd.of_tableau rfl

/-- The players attend to the posture, and to the calls that wait, in every run of the manager. -/
theorem Reach.attends {may : Desk → Happening → Prop} (hmay : ∀ d h, may d h → h.ByManager)
    (h : Reach may n d) : d.Attended ∧ d.Awaited := by
  induction h with
  | assembled hd =>
    rw [assemble_eq hd]
    exact ⟨⟨rfl, fun _ => rfl, fun _ => by simp [idle, Sound.silent, Sound.tone?]⟩,
      fun ht => by simp [idle, Sound.silent, Sound.tone?] at ht⟩
  | @next n d h hr hm ih =>
    have hp : Transitions (.order False) d (d.given h) (d.after h) :=
      transitions_after (hmay d h hm) (h.heeds_order False d) False.elim
    exact ⟨attended_after (hmay d h hm) ih.1, hp.awaited (hr.quiet hmay) ih.2⟩

/-- **The players attend to the posture.** In every run, whatever fails and however time goes by: it
rings only while the posture is `incoming`, a ringback tone sounds only while it is `alerting`, and
the call-waiting tone only while a registered call rings. -/
theorem playback_attends (h : Reach (fun _ h => h.ByManager) n d) :
    (d.isRinging = true → d.posture.current = .incoming) ∧
      (d.currentTone? = some .ringback → d.posture.current = .alerting) ∧
      (d.currentTone? = some .waiting →
        ∃ c ∈ d.registry.calls, c.state = .incoming ∨ c.state = .waiting) := by
  obtain ⟨hd, hw⟩ := h.attends fun _ _ h => h
  refine ⟨fun hr => ?_, fun ht => ?_, fun ht => ?_⟩
  · by_contra hn
    rw [Sound.isRinging_of_bell (hd.ring hn)] at hr
    cases hr
  · by_contra hn
    exact hd.ringback hn (Sound.tone?_of_currentTone? ht)
  · obtain ⟨c, hc, hr⟩ := List.any_eq_true.mp (hw (Sound.tone?_of_currentTone? ht))
    refine ⟨c, hc, ?_⟩
    cases hs : c.state <;> simp_all [CallState.isRinging]

/-- A call alerts. In another run the second of two calls is put on hold while a third one waits, so
that this one rings, and its call-waiting tone still sounds. -/
theorem playback_attends_held :
    let alerting : List Happening :=
      [.operation .start, .operation (.dial ⟨"1", 0, .cs, .voice, false⟩),
        .operation (.reportState 1 .alerting none)]
    let waiting : List Happening :=
      [.operation .start, .operation (.dial ⟨"1", 0, .cs, .voice, false⟩),
        .operation (.reportState 1 .active none), .operation (.dial ⟨"2", 0, .cs, .voice, false⟩),
        .operation (.reportState 2 .active none), .operation (.arrive ⟨"3", 0, .cs, .voice⟩),
        .operation (.hold 2)]
    let d := standard.afterAll alerting
    let d' := standard.afterAll waiting
    Reach (fun _ h => h.ByManager) 1 d ∧ Reach (fun _ h => h.ByManager) 3 d' ∧
      (d.currentTone? = some .ringback ∧ d.posture.current = .alerting) ∧
      (d'.isRinging = true ∧ d'.posture.current = .incoming) ∧
      d'.currentTone? = some .waiting ∧
        ∃ c ∈ d'.registry.calls, c.state = .incoming ∨ c.state = .waiting := by
  intro alerting waiting d d'
  have hp : Permits (fun _ h => h.ByManager) standard alerting :=
    ⟨trivial, trivial, trivial, trivial⟩
  have hp' : Permits (fun _ h => h.ByManager) standard waiting :=
    ⟨trivial, trivial, trivial, trivial, trivial, trivial, trivial, trivial⟩
  have hd : Reach (fun _ h => h.ByManager) 1 d := (reach_standard _).all hp
  have hd' : Reach (fun _ h => h.ByManager) 3 d' := (reach_standard _).all hp'
  have hringback : d.currentTone? = some .ringback := by decide +kernel
  have hrings : d'.isRinging = true := by decide +kernel
  have hwaiting : d'.currentTone? = some .waiting := by decide +kernel
  exact ⟨hd, hd', ⟨hringback, (playback_attends hd).2.1 hringback⟩,
    ⟨hrings, (playback_attends hd').1 hrings⟩, hwaiting, (playback_attends hd').2.2 hwaiting⟩

end Desk

end Switchboard
