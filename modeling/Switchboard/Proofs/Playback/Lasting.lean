import Switchboard.Proofs.Playback.Books
import Switchboard.Proofs.Playback.Additions

/-!
# Ringing that lasts

Ringing lasts until it is stopped if the vibrator is going, or if the ringtone is playing and the
renderer never fails: nothing but the ringer stops its ringtone (`Sound.Lasts`). It begins so if the
ringer mode lets it be felt or heard and the vibrator, or the renderer, is at hand
(`Sound.Lasts.ring`).
-/

namespace Switchboard.Playback

/-! ## Workers -/

namespace Worker

/-- The worker has no end of its own, as long as the renderer does not fail. -/
def Steady (w : Worker) : Prop :=
  w.limit = none ∧ (w.phase = .spawned ∨ ∃ due rendered, w.phase = .rendering none due rendered)

variable {w : Worker} {stage : Stage}

/-- A worker that has no end of its own is not at its end. -/
theorem Steady.isFinished (h : w.Steady) : w.isFinished = false := by
  rcases h.2 with h | ⟨due, rendered, h⟩
  · exact (of_spawned h).2
  · exact (of_rendering h).2

/-- However many periods it renders, a playback without a limit goes on if the renderer does not
fail. -/
theorem steady_render (hl : w.limit = none) (hf : stage.renderer.failAfter = 0) (deadline : Nat)
    (due rendered : Nat) : (w.render deadline none due rendered stage).1.Steady := by
  fun_induction w.render deadline none due rendered stage with
  | case1 due rendered stage he => simp at he
  | case2 due rendered stage _ _ stage' hfails =>
    have hf' : stage'.renderer.failAfter = 0 := hf
    simp [Renderer.failsAt, hf'] at hfails
  | case3 due rendered stage _ _ stage' _ ih => exact ih hf
  | case4 due rendered stage => exact ⟨hl, .inr ⟨due, rendered, rfl⟩⟩

/-- The turn of a worker that has no end of its own leaves it so, whether it opens its stream now or
has opened it before. -/
theorem Steady.run (h : w.Steady) (hf : stage.renderer.failAfter = 0) (now deadline : Nat) :
    (w.run true now deadline stage).1.Steady := by
  -- A worker's turn opens its stream first if that has not been done, and then renders as it would
  -- have.
  unfold Worker.run
  rcases h.2 with hp | ⟨due, rendered, hp⟩
  · rw [hp]
    show (w.start true now deadline stage).1.Steady
    unfold start
    have hf' : ({ stage with renderer := stage.renderer.noteOpen w.source } :
        Stage).renderer.failAfter = 0 := hf
    rw [if_pos rfl, h.1]
    exact steady_render h.1 hf' deadline _ _
  · rw [hp]
    exact steady_render h.1 hf deadline due rendered

end Worker

/-! ## The studio -/

namespace Studio

variable {s : Studio} {id : Nat}

/-- The renderer can be had whenever it is asked for, and never fails. -/
structure Renders (s : Studio) : Prop where
  opens : s.outside.Grants .openRenderer
  failAfter : s.renderer.failAfter = 0

/-- A playback goes on until somebody stops it. -/
def Goes (s : Studio) (id : Nat) : Prop := ∃ w, s.workers[id]? = some w ∧ w.Steady

theorem Goes.lt (h : s.Goes id) : id < s.workers.length := by
  obtain ⟨w, hw, -⟩ := h
  exact (List.getElem?_eq_some_iff.mp hw).1

/-- A playback that goes on is live. -/
theorem Goes.isLive (h : s.Goes id) : s.isLive id = true := by
  obtain ⟨w, hw, hs⟩ := h
  simp [Studio.isLive, hw, hs.isFinished]

/-- Every worker that had no end of its own has none after all have had their turn: the ones before
it do not make the renderer fail. -/
theorem steady_runAll {workers : List Worker} {stage : Stage} {w : Worker}
    (hf : stage.renderer.failAfter = 0) (hw : workers[id]? = some w) (hs : w.Steady)
    (now deadline : Nat) :
    ∃ w', (runAll true now deadline workers stage).1[id]? = some w' ∧ w'.Steady := by
  obtain ⟨stage', hm, he⟩ := getElem?_runAll true now deadline workers stage id
  rw [hw] at he
  exact ⟨_, he, hs.run (hm.failAfter.trans hf) now deadline⟩

/-- A playback goes on however long the players run, if the renderer serves them. -/
theorem Goes.runTo (h : s.Goes id) (hr : s.Renders) (deadline : Nat) :
    (s.runTo deadline).Goes id := by
  obtain ⟨w, hw, hs⟩ := h
  have hwilling : (!s.outside.fails .openRenderer) = true := by simp [Outside.fails, hr.opens _]
  have hf : s.toStage.renderer.failAfter = 0 := hr.failAfter
  have hall := steady_runAll hf hw hs s.now deadline
  rw [← hwilling] at hall
  exact hall

theorem Renders.settle (h : s.Renders) : s.settle.Renders :=
  ⟨h.opens, s.playbackOnly_settle.failAfter.trans h.failAfter⟩

theorem Goes.settle (h : s.Goes id) (hr : s.Renders) : s.settle.Goes id := h.runTo hr s.now

theorem Goes.elapse (h : s.Goes id) (hr : s.Renders) (ms : Nat) : (s.elapse ms).Goes id :=
  (h.settle hr).runTo hr.settle (s.now + ms)

/-- To stop another playback does not matter. -/
theorem Goes.stop (h : s.Goes id) (hr : s.Renders) {id' : Nat} (hne : id' ≠ id) :
    (s.stop id').Goes id := by
  unfold Studio.stop
  split
  · obtain ⟨w, hw, hs⟩ := h.settle hr
    refine ⟨w, ?_, hs⟩
    unfold halt
    split
    · exact (List.getElem?_set_ne hne).trans hw
    · exact hw
  · exact h

/-- A playback that goes on is not touched by a new one. -/
theorem Goes.spawn (h : s.Goes id) (source : Source) (period : Nat) (limit : Option Nat) :
    (s.spawn source period limit).2.Goes id := by
  have hlt := h.lt
  obtain ⟨w, hw, hs⟩ := h
  exact ⟨w, (List.getElem?_append_left hlt).trans hw, hs⟩

/-- A playback without a limit. -/
theorem goes_spawn (s : Studio) (source : Source) (period : Nat) :
    (s.spawn source period none).2.Goes s.workers.length :=
  ⟨_, List.getElem?_concat_length, rfl, .inl rfl⟩

end Studio

/-! ## Ringing -/

namespace Sound

variable {s s' : Sound}

/-- The tone player's playback has been started. -/
def Counted (s : Sound) : Prop := ∀ tone id, s.tone = some (tone, id) → id < s.workers.length

/-- The ringtone goes on until the ringer stops it. -/
def Chimes (s : Sound) : Prop :=
  ∃ id, s.ringtone = some id ∧ s.Goes id ∧ ∀ tone, s.tone ≠ some (tone, id)

/-- It rings, and goes on until the ringer stops it. -/
def Lasts (s : Sound) : Prop := s.vibrating = true ∨ s.Chimes

/-- What rings does not fail. -/
def Assured (s : Sound) : Prop := s.vibrating = true ∨ s.Renders

/-- Ringing that begins now can be felt, or heard, until it is stopped. -/
def Noticeable (s : Sound) : Prop :=
  (s.ringerMode ≠ .silent ∧ s.outside.Grants .vibratorStart) ∨ (s.ringerMode = .normal ∧ s.Renders)

/-- Ringing that lasts is ringing. -/
theorem Lasts.isRinging (h : s.Lasts) : s.isRinging = true := by
  unfold Sound.isRinging
  rcases h with h | ⟨id, hid, hg, -⟩
  · rw [h, Bool.or_true]
  · simp [hid, hg.isLive]

/-- What the players do without telling the vibrator, and without failing. -/
theorem Assured.playbackOnly (h : s.Assured) (hm : s.PlaybackOnly s')
    (hv : s'.vibrating = s.vibrating) : s'.Assured := by
  rcases h with h | h
  · exact .inl (hv.trans h)
  · exact .inr ⟨h.opens.of_refuses hm.outside.refuses, hm.stage.failAfter.trans h.failAfter⟩

/-- Ringing that lasts, unless the vibrator is what rings, lasts as long as the ringtone does. -/
theorem Lasts.of_chimes (h : s.Lasts) (ha : s.Assured) (hv : s'.vibrating = s.vibrating)
    (hc : s.Renders → s.Chimes → s'.Chimes) : s'.Lasts := by
  rcases ha with ha | ha
  · exact .inl (hv.trans ha)
  · exact h.imp (hv.trans ·) (hc ha)

/-- Ringing goes on when every playback has its turn. -/
theorem Lasts.settle (h : s.Lasts) (ha : s.Assured) : s.settle.Lasts :=
  h.of_chimes ha rfl fun hr ⟨id, hid, hg, hne⟩ => ⟨id, hid, hg.settle hr, hne⟩

/-- Ringing goes on as time goes by. -/
theorem Lasts.elapse (h : s.Lasts) (ha : s.Assured) (ms : Nat) : (s.elapse ms).Lasts :=
  h.of_chimes ha rfl fun hr ⟨id, hid, hg, hne⟩ => ⟨id, hid, hg.elapse hr ms, hne⟩

@[simp] theorem vibrating_stopTone (s : Sound) : s.stopTone.2.vibrating = s.vibrating := by
  unfold stopTone
  split <;> rfl

/-- To stop the tone does not stop the ringtone, which is another playback. -/
theorem Lasts.stopTone (h : s.Lasts) (ha : s.Assured) : s.stopTone.2.Lasts := by
  refine h.of_chimes ha s.vibrating_stopTone fun hr ⟨id, hid, hg, hne⟩ => ?_
  unfold Sound.stopTone
  split
  · rename_i tone id' ht
    refine ⟨id, hid, hg.stop hr fun he => ?_, by simp⟩
    subst he
    exact hne tone ht
  · exact ⟨id, hid, hg, hne⟩

theorem Lasts.stopToneIf (h : s.Lasts) (ha : s.Assured) (tone : Tone) :
    (s.stopToneIf tone).2.Lasts := by
  unfold Sound.stopToneIf
  split
  · exact h.stopTone ha
  · exact h

/-- A new tone does not stop the ringtone: it is yet another playback. -/
theorem Lasts.playTone (h : s.Lasts) (ha : s.Assured) (tone : Tone) : (s.playTone tone).Lasts := by
  unfold Sound.playTone
  split
  · exact h
  · rcases h.stopTone ha with hv | ⟨id, hid, hg, -⟩
    · exact .inl hv
    · refine .inr ⟨id, hid, hg.spawn _ _ _, fun tone' he => ?_⟩
      -- The tone's playback is a new one.
      cases he
      exact absurd hg.lt (Nat.lt_irrefl _)

/-- A vibrator that is at hand is going once it is told to. -/
theorem vibrating_roused (h : s.outside.Grants .vibratorStart) : s.roused.vibrating = true := by
  have hmet : (s.ask (.vibrate s.vibrationPattern)).1 = true := h.met
  unfold roused
  dsimp only
  rw [if_pos hmet]

/-! ### The numbers of playbacks -/

theorem Counted.of_eq (h : s.Counted) (ht : s'.tone = s.tone)
    (hl : s'.workers.length = s.workers.length) : s'.Counted := by
  unfold Counted
  rw [ht, hl]
  exact h

theorem Counted.stopTone (h : s.Counted) : s.stopTone.2.Counted := by
  unfold Sound.stopTone
  split
  · exact fun tone id ht => by cases ht
  · exact h

theorem Counted.stopToneIf (h : s.Counted) (tone : Tone) : (s.stopToneIf tone).2.Counted := by
  unfold Sound.stopToneIf
  split
  · exact h.stopTone
  · exact h

theorem Counted.playTone (h : s.Counted) (tone : Tone) : (s.playTone tone).Counted := by
  unfold Sound.playTone
  split
  · exact h
  · intro tone' id he
    cases he
    show _ < (_ ++ [_]).length
    simp

/-- The tone player's playback stays one that has been started when the ringer stops. -/
theorem Counted.stopRing (h : s.Counted) : s.stopRing.2.Counted := by
  have hr : s.stopRingtone.Counted := by
    unfold Sound.stopRingtone
    split
    · exact h.of_eq rfl (s.onward_stop _).length
    · exact h
  show s.stopRingtone.stillVibrator.Counted
  unfold stillVibrator
  split
  · exact hr.of_eq rfl rfl
  · exact hr

theorem Counted.roused (h : s.Counted) : s.roused.Counted := by
  unfold Sound.roused
  dsimp only
  split <;> exact h.of_eq rfl rfl

theorem Counted.chimed (h : s.Counted) (slot : SlotId) : (s.chimed slot).Counted := by
  intro tone id ht
  show id < (s.workers ++ [_]).length
  rw [List.length_append]
  exact Nat.lt_add_right _ (h tone id ht)

/-- To ring leaves the tone a playback of the studio, whatever the ringer mode is. -/
theorem Counted.ring (h : s.Counted) {slot : SlotId} (hr : s.ring slot = .ok s') :
    s'.Counted := by
  rcases ring_cases hr with ⟨-, rfl⟩ | ⟨-, rfl⟩ | ⟨-, rfl⟩
  · exact h.stopRing
  · exact h.stopRing.roused
  · exact h.stopRing.roused.chimed slot

/-! ### The beginning of ringing -/

/-- Ringing that can be felt or heard lasts. -/
theorem Lasts.ring (ha : s.Noticeable) (hn : s.Counted) {slot : SlotId} (h : s.ring slot = .ok s') :
    s'.Lasts ∧ s'.Assured := by
  have hstop := PlaybackOnly.stopRing s
  have hm := hstop.trans (.roused s.stopRing.2)
  have felt (hg : s.outside.Grants .vibratorStart) : s.stopRing.2.roused.vibrating = true :=
    vibrating_roused (hg.of_refuses hstop.outside.refuses)
  rcases ring_cases h with ⟨hmode, rfl⟩ | ⟨hmode, rfl⟩ | ⟨-, rfl⟩
  · rcases ha with ⟨hne, -⟩ | ⟨he, -⟩
    · exact absurd hmode hne
    · rw [hmode] at he
      cases he
  · rcases ha with ⟨-, hg⟩ | ⟨he, -⟩
    · exact ⟨.inl (felt hg), .inl (felt hg)⟩
    · rw [hmode] at he
      cases he
  · rcases ha with ⟨-, hg⟩ | ⟨-, hr⟩
    · exact ⟨.inl (felt hg), .inl (felt hg)⟩
    · refine ⟨.inr ⟨_, rfl, Studio.goes_spawn _ _ _, fun tone ht => ?_⟩, .inr ?_⟩
      -- The ringtone is the latest playback, and the tone player's was started before it.
      · exact absurd (hn.stopRing.roused tone _ ht) (Nat.lt_irrefl _)
      · exact ⟨hr.opens.of_refuses hm.outside.refuses, hm.stage.failAfter.trans hr.failAfter⟩

end Sound

end Switchboard.Playback
