import Mathlib.Data.List.Nodup
import Mathlib.Data.List.Perm.Subperm
import Switchboard.Playback.Bench
import Switchboard.Proofs.Playback.Books
import Switchboard.Proofs.Playback.Additions

/-!
# Runs of the players

The tone player, the ringer and others who start playbacks of their own share the studio. Here is
what holds whatever they do, in any order, while the renderer and the vibrator fail at will and time
goes by.

* `Cue`, `Ensemble.after`: what may happen, and the ensemble after it.
* `Sound.Eases`, `Sound.Starts`: nothing is started, or one playback. All that a cue does is one of
  the two, or the first and then the second (`takes_heed`).
* `Ensemble.Kept`: the books balance, and no player has left behind a playback that goes on.
* `books_balance`: the result, of every run.
-/

namespace Switchboard

/-! ## The vibrator -/

namespace Outside

/-- The vibrator stopped whenever it was to stop. -/
def Stilled (o : Outside) : Prop := ∀ c ∈ o.log, c.demand = .stillVibrator → c.met = true

instance (o : Outside) : Decidable o.Stilled :=
  inferInstanceAs (Decidable (∀ c ∈ o.log, c.demand = .stillVibrator → c.met = true))

/-- What held of the vibrator after a demand held before it. -/
theorem Stilled.of_ask {o : Outside} {demand : Demand} (h : (o.ask demand).2.Stilled) :
    o.Stilled := fun c hc => h c (List.mem_append_left _ hc)

/-- A vibrator that was to stop did. -/
theorem Stilled.met {o : Outside} (h : (o.ask .stillVibrator).2.Stilled) :
    (o.ask .stillVibrator).1 = true :=
  h ⟨.stillVibrator, !o.fails .vibratorStop⟩
    (List.mem_append_right _ (List.mem_singleton_self _)) rfl

/-- A vibrator that is to start goes if it complies, or if it was going. -/
theorem vibrating_vibrate (o : Outside) (pattern : List UInt64) :
    (o.ask (.vibrate pattern)).2.vibrating = ((o.ask (.vibrate pattern)).1 || o.vibrating) := by
  unfold vibrating
  rw [achieved_ask]
  cases (o.ask (.vibrate pattern)).1 <;> simp

/-- A vibrator that complies is still. -/
theorem vibrating_stillVibrator {o : Outside} (h : (o.ask .stillVibrator).1 = true) :
    (o.ask .stillVibrator).2.vibrating = false := by
  unfold vibrating
  rw [achieved_ask, h]
  simp

end Outside

namespace Playback

/-! ## What may happen -/

/-- Who owns playbacks. -/
inductive Player where
  | tone
  | ringer
  deriving DecidableEq, Repr

/-- The playback that a player owns. -/
def Sound.owned (s : Sound) : Player → Option Nat
  | .tone => s.tone.map (·.2)
  | .ringer => s.ringtone

/-- The players, and others with handles on playbacks of their own. -/
structure Ensemble extends Sound where
  /-- The playback of each handle that has not been used up. -/
  handles : List (Option Nat)
  /-- The player that started each playback, unless somebody else did. -/
  starters : List (Option Player)

/-- What may happen. -/
inductive Cue where
  | playTone (tone : Tone)
  | stopTone
  | stopToneIf (tone : Tone)
  | ring (slot : SlotId)
  | stopRing
  | setRingerMode (mode : RingerMode)
  | setRingtone (path : String)
  /-- Somebody else starts a playback. -/
  | spawn (source : Source) (period : Nat) (limit : Option Nat)
  /-- A playback is stopped by its handle. To let go of the handle is the same. -/
  | stop (handle : Nat)
  /-- The end of a playback is waited for by its handle. -/
  | wait (handle : Nat)
  /-- Everybody waits in turn. -/
  | settle
  | elapse (ms : Nat)
  | setFailing (service : Service) (failing : Bool)
  | failRenderAfter (periods : Nat)

/-- The player that a cue is for, if it may start a playback. -/
def Cue.player? : Cue → Option Player
  | playTone _ => some .tone
  | ring _ => some .ringer
  | _ => none

namespace Ensemble

/-- Nobody has played. -/
def silent (config : Config) (journal : Journal) (outside : Outside) : Ensemble where
  toSound := .silent config journal outside
  handles := []
  starters := []

/-- Changes the players. -/
def onSound (s : Ensemble) (f : Sound → Sound) : Ensemble := { s with toSound := f s.toSound }

/-- Does something at the workbench. -/
def onBench (s : Ensemble) (f : Bench → Bench) : Ensemble :=
  let b := f ⟨s.toStudio, s.handles, []⟩
  { s with toStudio := b.studio, handles := b.handles }

/-- Does what a cue is for. -/
def heed (s : Ensemble) : Cue → Ensemble
  | .playTone tone => s.onSound (·.playTone tone)
  | .stopTone => s.onSound (·.stopTone.2)
  | .stopToneIf tone => s.onSound fun sound => (sound.stopToneIf tone).2
  | .ring slot =>
    match s.toSound.ring slot with
    | .ok sound => { s with toSound := sound }
    | .error _ => s
  | .stopRing => s.onSound (·.stopRing.2)
  | .setRingerMode mode => { s with ringerMode := mode }
  | .setRingtone path => { s with ringtonePath := path }
  | .spawn source period limit => s.onBench fun b => (b.spawn source period limit).2
  | .stop handle => s.onBench fun b => (b.stop handle).2
  | .wait handle => s.onBench fun b => (b.wait handle).2
  | .settle => s.onSound (·.settle)
  | .elapse ms => s.onSound (·.elapse ms)
  | .setFailing service failing => { s with outside := s.outside.setFailing service failing }
  | .failRenderAfter periods => { s with renderer := { s.renderer with failAfter := periods } }

/-- The ensemble after a cue. It is noted who has started the playbacks that are new. -/
def after (s : Ensemble) (cue : Cue) : Ensemble :=
  let s' := s.heed cue
  let started := s'.workers.length - s.workers.length
  { s' with starters := s.starters ++ List.replicate started cue.player? }

/-- The ensemble after cues, one after the other. -/
def afterAll : Ensemble → List Cue → Ensemble
  | s, [] => s
  | s, cue :: rest => (s.after cue).afterAll rest

/-- The playbacks that a player started and that have not ended. -/
def unended (s : Ensemble) (player : Player) : List Nat :=
  (List.range s.workers.length).filter fun id =>
    s.isLive id && s.starters[id]? == some (some player)

end Ensemble

/-! ## Steps of the players -/

namespace Sound

variable {s s' s'' : Sound}

/-- Nothing was started, and a player that let go of its playback has ended it. -/
structure Eases (s s' : Sound) : Prop where
  onward : s.toStudio.Onward s'.toStudio
  owned (player : Player) : s'.owned player = s.owned player ∨
    ∀ id, s.owned player = some id → s'.isLive id = false

/-- One playback was started; a player that started it owns it. -/
structure Starts (player? : Option Player) (s s' : Sound) : Prop where
  workers : ∃ source period limit, s'.workers = s.workers ++ [.fresh source period limit]
  renderer : s'.renderer = s.renderer
  owned (player : Player) : s'.owned player =
    if player? = some player then some s.workers.length else s.owned player

/-- Something may have ended, and a player that owned nothing then may have started a playback. -/
def Takes (player? : Option Player) (s s' : Sound) : Prop :=
  s.Eases s' ∨ ∃ s₁, s.Eases s₁ ∧ (∀ player, player? = some player → s₁.owned player = none) ∧
    s₁.Starts player? s'

theorem Eases.refl (s : Sound) : s.Eases s := ⟨.refl _, fun _ => .inl rfl⟩

/-- The players own what they owned. -/
theorem eases_of_owned (h : s.toStudio.Onward s'.toStudio) (ht : s'.tone = s.tone)
    (hr : s'.ringtone = s.ringtone) : s.Eases s' := by
  refine ⟨h, fun player => .inl ?_⟩
  cases player with
  | tone => exact congrArg (Option.map _) ht
  | ringer => exact hr

/-- To ask something of the outside concerns no playback. -/
theorem eases_ask (s : Sound) (demand : Demand) (vibrating : Bool) :
    s.Eases { (s.ask demand).2 with vibrating } :=
  eases_of_owned (Studio.onward_of_eq rfl rfl rfl) rfl rfl

/-- A player lets go of its playback in one part or the other, and it has ended either way. -/
theorem Eases.trans (h : s.Eases s') (h' : s'.Eases s'') : s.Eases s'' := by
  refine ⟨h.onward.trans h'.onward, fun player => ?_⟩
  rcases h.owned player with he | hd
  · rcases h'.owned player with he' | hd'
    · exact .inl (he'.trans he)
    · exact .inr fun id hid => hd' id (he.trans hid)
  · refine .inr fun id hid => eq_false_of_ne_true fun hl => ?_
    have := h'.onward.isLive hl
    rw [hd id hid] at this
    cases this

variable (s)

/-- The tone player lets go of its tone, which has ended then. -/
theorem eases_stopTone : s.Eases s.stopTone.2 ∧ s.stopTone.2.owned .tone = none := by
  unfold stopTone
  split
  · rename_i tone id ht
    refine ⟨⟨s.onward_stop id, fun player => ?_⟩, rfl⟩
    cases player with
    | tone =>
      refine .inr fun id' hid => ?_
      have he : s.owned .tone = some id := by simp [owned, ht]
      rw [he] at hid
      cases hid
      exact s.isLive_stop id
    | ringer => exact .inl rfl
  · rename_i ht
    exact ⟨.refl s, by simp [owned, ht]⟩

/-- The ringer lets go of its ringtone, which has ended then; the vibrator is no playback. -/
theorem eases_stopRing : s.Eases s.stopRing.2 ∧ s.stopRing.2.owned .ringer = none := by
  have hr : s.Eases s.stopRingtone ∧ s.stopRingtone.ringtone = none := by
    unfold stopRingtone
    split
    · rename_i id hid
      refine ⟨⟨s.onward_stop id, fun player => ?_⟩, rfl⟩
      cases player with
      | tone => exact .inl rfl
      | ringer =>
        refine .inr fun id' hid' => ?_
        obtain rfl : id = id' := Option.some.inj (hid.symm.trans hid')
        exact s.isLive_stop id
    · exact ⟨.refl s, ‹_›⟩
  have hv (s : Sound) : s.Eases s.stillVibrator ∧ s.stillVibrator.ringtone = s.ringtone := by
    unfold stillVibrator
    split
    · exact ⟨s.eases_ask .stillVibrator false, rfl⟩
    · exact ⟨.refl s, rfl⟩
  exact ⟨hr.1.trans (hv _).1, (hv _).2.trans hr.2⟩

/-- A new tone is started once the old one has ended. -/
theorem takes_playTone (tone : Tone) : s.Takes (some .tone) (s.playTone tone) := by
  unfold playTone
  split
  · exact .inl (.refl s)
  · obtain ⟨he, ho⟩ := s.eases_stopTone
    refine .inr ⟨_, he, ?_, ⟨_, _, _, rfl⟩, rfl, fun player => ?_⟩
    · rintro player ⟨⟩
      exact ho
    · cases player <;> rfl

/-- A ringtone is started once the old one has ended, if the ringer mode asks for one. -/
theorem takes_ring {slot : SlotId} (h : s.ring slot = .ok s') : s.Takes (some .ringer) s' := by
  have hr (s : Sound) : s.Eases s.roused ∧ s.roused.ringtone = s.ringtone := by
    unfold roused
    dsimp only
    split
    · exact ⟨s.eases_ask _ true, rfl⟩
    · exact ⟨s.eases_ask _ s.vibrating, rfl⟩
  obtain ⟨he, ho⟩ := s.eases_stopRing
  rcases ring_cases h with ⟨-, rfl⟩ | ⟨-, rfl⟩ | ⟨-, rfl⟩
  · exact .inl he
  · exact .inl (he.trans (hr _).1)
  · refine .inr ⟨_, he.trans (hr _).1, ?_, ⟨_, _, _, rfl⟩, rfl, fun player => ?_⟩
    · rintro player ⟨⟩
      exact (hr _).2.trans ho
    · cases player <;> rfl

end Sound

namespace Ensemble

variable (s : Ensemble)

/-- A cue starts at most one playback, and that for the player that it is for. -/
theorem takes_heed (cue : Cue) : s.toSound.Takes cue.player? (s.heed cue).toSound := by
  have consumed (handle : Nat) {ending : Studio → Nat → Studio}
      (h : ∀ (s : Studio) id, s.Onward (ending s id)) :
      s.toSound.Takes none (s.onBench fun b => (b.consume handle ending).2).toSound := by
    unfold onBench Bench.consume
    dsimp only
    split
    · exact .inl (Sound.eases_of_owned (h s.toStudio _) rfl rfl)
    · exact .inl (.refl _)
  cases cue with
  | playTone tone => exact s.takes_playTone tone
  | stopTone => exact .inl s.eases_stopTone.1
  | stopToneIf tone =>
    show s.toSound.Takes none (s.toSound.stopToneIf tone).2
    unfold Sound.stopToneIf
    split
    · exact .inl s.eases_stopTone.1
    · exact .inl (.refl _)
  | ring slot =>
    unfold heed
    dsimp only
    split
    · exact s.takes_ring ‹_›
    · exact .inl (.refl _)
  | stopRing => exact .inl s.eases_stopRing.1
  | spawn source period limit =>
    refine .inr ⟨s.toSound, .refl _, by simp [Cue.player?], ⟨source, period, limit, rfl⟩, rfl, ?_⟩
    intro player
    cases player <;> rfl
  | stop handle => exact consumed handle Studio.onward_stop
  | wait handle => exact consumed handle Studio.onward_wait
  | settle => exact .inl (Sound.eases_of_owned s.onward_settle rfl rfl)
  | elapse ms => exact .inl (Sound.eases_of_owned (s.onward_elapse ms) rfl rfl)
  | setRingerMode | setRingtone | setFailing | failRenderAfter =>
    exact .inl (Sound.eases_of_owned (Studio.onward_of_eq rfl rfl rfl) rfl rfl)

end Ensemble

/-! ## Whose playback goes on -/

namespace Sound

variable {s s' : Sound} {starters : List (Option Player)} {player? : Option Player}

/-- A playback that goes on and was started by a player is the one that this player owns. -/
structure Held (s : Sound) (starters : List (Option Player)) : Prop where
  length : starters.length = s.workers.length
  owned {player : Player} {id : Nat} : starters[id]? = some (some player) → s.isLive id = true →
    s.owned player = some id

/-- Where nothing is started, a playback that goes on is still owned. -/
theorem Held.eases (h : s.Held starters) (he : s.Eases s') : s'.Held starters := by
  refine ⟨h.length.trans he.onward.length.symm, fun {player id} hs hl => ?_⟩
  have ho := h.owned hs (he.onward.isLive hl)
  rcases he.owned player with hsame | hdead
  · exact hsame.trans ho
  · rw [hdead id ho] at hl
    cases hl

/-- A player that owned nothing owns what it starts. -/
theorem Held.starts (h : s.Held starters)
    (hn : ∀ player, player? = some player → s.owned player = none) (hs : s.Starts player? s') :
    s'.Held (starters ++ [player?]) := by
  obtain ⟨source, period, limit, hw⟩ := hs.workers
  refine ⟨by simp [hw, h.length], fun {player id} hid hl => ?_⟩
  rw [hs.owned player]
  rcases Nat.lt_or_ge id starters.length with hlt | hge
  · -- An older playback: the player that started it owned it before, so it has not started another.
    rw [List.getElem?_append_left hlt] at hid
    have hl' : s.isLive id = true := by
      unfold Studio.isLive at hl ⊢
      rwa [hw, List.getElem?_append_left (h.length ▸ hlt)] at hl
    have ho := h.owned hid hl'
    split
    · rw [hn player ‹_›] at ho
      cases ho
    · exact ho
  -- The new playback is the last one, and its starter is the player of the cue.
  · have he : id = starters.length := by
      obtain ⟨hlt, -⟩ := List.getElem?_eq_some_iff.mp hid
      rw [List.length_append, List.length_singleton] at hlt
      omega
    subst he
    rw [List.getElem?_concat_length] at hid
    rw [if_pos (Option.some.inj hid), h.length]

/-- After a cue, every playback that goes on and was started by a player is owned by it. -/
theorem Held.takes (h : s.Held starters) (ht : s.Takes player? s') :
    s'.Held (starters ++ List.replicate (s'.workers.length - s.workers.length) player?) := by
  rcases ht with he | ⟨s₁, he, hn, hs⟩
  · rw [he.onward.length, Nat.sub_self, List.replicate_zero, List.append_nil]
    exact h.eases he
  · have hl : s'.workers.length - s.workers.length = 1 := by
      obtain ⟨source, period, limit, hw⟩ := hs.workers
      rw [hw, List.length_append, he.onward.length, Nat.add_sub_cancel_left]
      rfl
    rw [hl]
    exact (h.eases he).starts hn hs

/-- Every worker that was there goes on from where it was. -/
theorem Takes.continues (h : s.Takes player? s') : s.toStudio.Continues s'.toStudio := by
  rcases h with he | ⟨s₁, he, -, hs⟩
  · exact he.onward.toContinues
  · obtain ⟨source, period, limit, hw⟩ := hs.workers
    refine he.onward.toContinues.trans ⟨?_, ?_⟩
    · rw [hw, hs.renderer]
      exact .fresh _ _ source period limit
    · rw [hw]
      exact .append _ _

/-! ## The vibrator -/

/-- If the vibrator stopped whenever it was to stop, it is going just when the ringer has it so. -/
def VibratorAgrees (s : Sound) : Prop := s.outside.Stilled → s.outside.vibrating = s.vibrating

/-- Whether the vibrator agrees goes by what was asked of it. -/
theorem VibratorAgrees.of_log (h : s.VibratorAgrees) (hl : s'.outside.log = s.outside.log)
    (hv : s'.vibrating = s.vibrating) : s'.VibratorAgrees := by
  intro hs
  have h := h fun c hc => hs c (hl ▸ hc)
  rw [hv, ← h]
  unfold Outside.vibrating Outside.achieved
  rw [hl]

/-- A ringer that stops asks for the vibrator to stop, and takes it to be still. -/
theorem VibratorAgrees.stillVibrator (h : s.VibratorAgrees) : s.stillVibrator.VibratorAgrees := by
  unfold Sound.stillVibrator
  split
  · exact fun hs => Outside.vibrating_stillVibrator (Outside.Stilled.met hs)
  · exact h

/-- A ringer that starts takes the vibrator to go only if it complies. -/
theorem VibratorAgrees.roused (h : s.VibratorAgrees) : s.roused.VibratorAgrees := by
  have ha := s.outside.vibrating_vibrate s.vibrationPattern
  unfold Sound.roused
  dsimp only
  split
  · rename_i hmet
    have hmet : (s.outside.ask (.vibrate s.vibrationPattern)).1 = true := hmet
    rw [hmet, Bool.true_or] at ha
    exact fun _ => ha
  · rename_i hmet
    have hmet : (s.outside.ask (.vibrate s.vibrationPattern)).1 = false := eq_false_of_ne_true hmet
    rw [hmet, Bool.false_or] at ha
    exact fun hs => ha.trans (h hs.of_ask)

theorem VibratorAgrees.stopTone (h : s.VibratorAgrees) : s.stopTone.2.VibratorAgrees := by
  unfold Sound.stopTone
  split
  · exact h.of_log (congrArg Outside.log (s.outside_stop _)) rfl
  · exact h

theorem VibratorAgrees.stopRing (h : s.VibratorAgrees) : s.stopRing.2.VibratorAgrees := by
  have hr : s.stopRingtone.VibratorAgrees := by
    unfold Sound.stopRingtone
    split
    · exact h.of_log (congrArg Outside.log (s.outside_stop _)) rfl
    · exact h
  exact hr.stillVibrator

theorem VibratorAgrees.ring {slot : SlotId} (h : s.VibratorAgrees) (hr : s.ring slot = .ok s') :
    s'.VibratorAgrees := by
  rcases ring_cases hr with ⟨-, rfl⟩ | ⟨-, rfl⟩ | ⟨-, rfl⟩
  · exact h.stopRing
  · exact h.stopRing.roused
  · exact h.stopRing.roused.of_log rfl rfl

end Sound

/-! ## Runs -/

namespace Ensemble

variable {s : Ensemble}

/-- No cue puts the ringer at odds with the vibrator. -/
theorem vibratorAgrees_heed (h : s.VibratorAgrees) (cue : Cue) : (s.heed cue).VibratorAgrees := by
  have consumed (handle : Nat) {ending : Studio → Nat → Studio}
      (ho : ∀ (s : Studio) id, (ending s id).outside = s.outside) :
      (s.onBench fun b => (b.consume handle ending).2).VibratorAgrees := by
    unfold onBench Bench.consume
    dsimp only
    split
    · exact h.of_log (congrArg Outside.log (ho _ _)) rfl
    · exact h
  cases cue with
  | playTone tone =>
    show (s.toSound.playTone tone).VibratorAgrees
    unfold Sound.playTone
    split
    · exact h
    · exact h.stopTone.of_log rfl rfl
  | stopTone => exact h.stopTone
  | stopToneIf tone =>
    show (s.toSound.stopToneIf tone).2.VibratorAgrees
    unfold Sound.stopToneIf
    split
    · exact h.stopTone
    · exact h
  | ring slot =>
    unfold heed
    dsimp only
    split
    · exact h.ring ‹_›
    · exact h
  | stopRing => exact h.stopRing
  | stop handle => exact consumed handle Studio.outside_stop
  | wait handle => exact consumed handle Studio.outside_wait
  | spawn | settle | elapse | setRingerMode | setRingtone | setFailing | failRenderAfter =>
    exact h.of_log rfl rfl

/-- What holds of an ensemble whatever it has been through. -/
structure Kept (s : Ensemble) : Prop where
  books : Balanced s.workers s.renderer
  held : s.toSound.Held s.starters
  vibratorAgrees : s.VibratorAgrees

/-- In the beginning there are no workers, and the vibrator is still. -/
theorem kept_silent (config : Config) (journal : Journal) (refuses : Nat → Service → Bool)
    (failures : Failures) (delay : Nat) :
    (silent config journal ⟨refuses, failures, [], delay⟩).Kept :=
  ⟨⟨rfl, rfl⟩, ⟨rfl, fun h => by simp [silent] at h⟩, fun _ => rfl⟩

/-- Every cue keeps the books, the players and the vibrator in order. -/
theorem Kept.after (h : s.Kept) (cue : Cue) : (s.after cue).Kept :=
  have ht := s.takes_heed cue
  ⟨ht.continues.books.balanced h.books, h.held.takes ht, vibratorAgrees_heed h.vibratorAgrees cue⟩

/-- Every sequence of cues keeps the books, the players and the vibrator in order. -/
theorem Kept.afterAll (h : s.Kept) (cues : List Cue) : (s.afterAll cues).Kept := by
  induction cues generalizing s with
  | nil => exact h
  | cons cue rest ih => exact ih (h.after cue)

/-- No player has left behind a playback that goes on. -/
theorem Kept.unended_le (h : s.Kept) (player : Player) : (s.unended player).length ≤ 1 := by
  have hsub : s.unended player ⊆ (s.owned player).toList := by
    intro id hid
    obtain ⟨-, hid⟩ := List.mem_filter.mp hid
    simp only [Bool.and_eq_true, beq_iff_eq] at hid
    rw [h.held.owned hid.2 hid.1]
    simp
  -- Distinct playbacks that are all the one that the player owns are at most one.
  have hnodup : (s.unended player).Nodup := List.nodup_range.filter _
  refine Nat.le_trans (hnodup.subperm hsub).length_le ?_
  cases s.owned player <;> simp

/-- **The books of the renderer balance.** Whatever the tone player, the ringer and others do, in
any order, and whatever fails: of the streams that were opened, those are still out with which a
worker is rendering. Every worker that could open the renderer has opened it once, and every one of
these that has ended has given it back once; it does nothing after that. Of the playbacks that a
player started, at most one goes on, and an unknown tone changes nothing. If the vibrator stopped
whenever it was to stop, it is going just when the ringer has set it going. -/
theorem books_balance (config : Config) (journal : Journal) (refuses : Nat → Service → Bool)
    (failures : Failures) (delay : Nat) (cues : List Cue) :
    let s := (silent config journal ⟨refuses, failures, [], delay⟩).afterAll cues
    s.renderer.opens - s.renderer.releases = s.workers.countP (·.isPlaying) ∧
      s.renderer.releases ≤ s.renderer.opens ∧
      s.renderer.opens = s.workers.countP (·.hasOpened) ∧
      s.renderer.releases = s.workers.countP (·.hasReleased) ∧
      (∀ (cue : Cue) (id : Nat) (w : Worker), s.workers[id]? = some w →
        ∃ w', (s.after cue).workers[id]? = some w' ∧ w.Onward w') ∧
      (∀ player, (s.unended player).length ≤ 1) ∧
      s.toSound.playTone .unknown = s.toSound ∧
      (s.outside.Stilled → s.outside.vibrating = s.vibrating) := by
  intro s
  have h : s.Kept := (kept_silent config journal refuses failures delay).afterAll cues
  have hcount := countP_hasOpened s.workers
  obtain ⟨ho, hr⟩ := h.books
  refine ⟨by omega, by omega, ho, hr, fun cue => ?_, h.unended_le, rfl, h.vibratorAgrees⟩
  exact (s.takes_heed cue).continues.workers

/-- One playback is stopped, one comes to its limit, two break off, one cannot have the renderer,
and the last one goes on. -/
theorem books_balance_every_end :
    let s := (silent .standard (.ofCapacity 16) (.willing 0)).afterAll
      [.playTone .ringback, .settle, .playTone .engaged, .spawn (.tone .beep) 20 (some 30),
        .elapse 50, .failRenderAfter 2, .ring 0, .elapse 100, .setFailing .openRenderer true,
        .playTone .waiting, .settle, .setFailing .openRenderer false, .failRenderAfter 0, .ring 1,
        .settle]
    s.outside.Stilled ∧ s.outside.vibrating = s.vibrating ∧
      s.renderer.opens - s.renderer.releases = s.workers.countP (·.isPlaying) ∧
      s.renderer.opens = 5 ∧ s.renderer.releases = 4 ∧ s.vibrating = true := by
  intro s
  have hs : s.outside.Stilled := by decide +kernel
  obtain ⟨hbalance, -, -, -, -, -, -, hvibrating⟩ :=
    books_balance .standard (.ofCapacity 16) (fun _ _ => false) .injected 0 _
  exact ⟨hs, hvibrating hs, hbalance, by decide +kernel, by decide +kernel, by decide +kernel⟩

end Ensemble

end Playback

end Switchboard
