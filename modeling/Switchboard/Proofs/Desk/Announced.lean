import Mathlib.Data.List.Chain
import Switchboard.Proofs.Desk.Attendance
import Switchboard.Proofs.Playback.Lasting

/-!
# Ringing as it is announced

The listeners are told when it begins to ring, and when it has ended. It is announced that ringing
has begun whenever the ringer was told to ring, but that it has ended only if something could be
felt or heard until then. So the announcements tell the truth as long as ringing lasts until it is
stopped: if it can be felt or heard when it begins, if what rings does not fail, and if the desk is
not taken out of service over it (`Desk.Discernible`). Then they alternate, and it is announced as
ended once the posture is not `incoming` any more (`ringing_announced`).

Where nothing can be felt or heard, an end is missing: `silence_unannounced`.
-/

namespace Switchboard

open Playback (Sound)

/-! ## What was announced -/

namespace Journal

/-- What was announced of ringing: that it has begun, and that it has ended. -/
def rings (j : Journal) : List Bool :=
  j.entries.filterMap fun | .ringingChanged ringing => some ringing | _ => none

theorem rings_emit (j : Journal) {e : Event} (he : ∀ ringing, e ≠ .ringingChanged ringing) :
    (j.emit e).rings = j.rings := by
  unfold rings emit
  rw [List.filterMap_append]
  cases e with
  | ringingChanged ringing => exact absurd rfl (he ringing)
  | _ => exact List.append_nil _

theorem rings_announce (j : Journal) (ringing : Bool) :
    (j.emit (.ringingChanged ringing)).rings = j.rings ++ [ringing] := List.filterMap_append

/-- What was announced stays so. -/
theorem count_rings_le {j j' : Journal} (h : j.entries <+: j'.entries) (ringing : Bool) :
    j.rings.count ringing ≤ j'.rings.count ringing := (h.filterMap _).sublist.count_le ringing

end Journal

/-- An announcement that differs from the last one keeps them alternating. -/
theorem isChain_announce {rings : List Bool} {ringing : Bool}
    (h : (false :: rings).IsChain (· ≠ ·)) (hl : rings.getLastD false ≠ ringing) :
    (false :: (rings ++ [ringing])).IsChain (· ≠ ·) := by
  have happend : false :: (rings ++ [ringing]) = (false :: rings) ++ [ringing] := rfl
  rw [happend, List.isChain_append]
  refine ⟨h, List.isChain_singleton _, ?_⟩
  intro x hx y hy
  obtain rfl : ringing = y := by simpa using hy
  obtain rfl : rings.getLastD false = x := by
    rw [List.getLast?_cons] at hx
    rw [List.getLastD_eq_getLast?]
    exact Option.some.inj hx
  exact hl

namespace Desk

open DeskM

variable {allowed : Deed → Prop} {rule : Rule} {d d' d'' : Desk} {n : Nat} {calls : List Call}

/-! ## What ringing depends on -/

/-- How ringing calls are announced, when the renderer fails, and what the outside is willing to do.
-/
def ringConditions (d : Desk) : RingerMode × Nat × (Nat → Service → Bool) :=
  (d.ringerMode, d.renderer.failAfter, d.outside.refuses)

/-- Nothing that the machines do bears on what ringing depends on. -/
theorem ignoresMachines_ringConditions : IgnoresMachines ringConditions where
  playbackOnly h := by unfold ringConditions; rw [h.ringerMode, h.failAfter, h.outside.refuses]
  machines _ _ _ := rfl
  told _ _ _ := rfl
  asked _ _ _ := rfl

/-- Only a new ringer mode and what befalls the services change what ringing depends on. -/
theorem Mutation.ringConditions_eq (h : Mutation allowed d d') (hr : ¬allowed .ringer)
    (hb : ¬allowed .befall) : d'.ringConditions = d.ringConditions := by
  cases h with
  | sounded h => exact ignoresMachines_ringConditions.playbackOnly h.playbackOnly
  | ringer hr' => exact absurd hr' hr
  | setFailAfter hb' => exact absurd hb' hb
  | turned calls => exact ignoresMachines_ringConditions.turned d calls _
  | routed next => exact ignoresMachines_ringConditions.moveRoute d next
  | muted => exact view_applyMute ringConditions rfl fun _ => rfl
  | noted | asked | told | amended | moved | added | dropped | issued => rfl

/-- Whether ringing can be felt or heard is read off what it depends on. -/
theorem noticeable_of_ringConditions (h : d.Noticeable)
    (ht : d'.ringConditions = d.ringConditions) : d'.Noticeable := by
  obtain ⟨hm, hf, hr⟩ : d'.ringerMode = d.ringerMode ∧
      d'.renderer.failAfter = d.renderer.failAfter ∧ d'.outside.refuses = d.outside.refuses := by
    simpa [ringConditions] using ht
  unfold Sound.Noticeable
  rw [hm]
  refine h.imp (And.imp_right (·.of_refuses hr)) (And.imp_right fun h => ?_)
  exact ⟨h.opens.of_refuses hr, hf.trans h.failAfter⟩

/-! ## What does not concern ringing -/

/-- Something was said that is no news of ringing, or something was asked of the outside. -/
structure Apart (d d' : Desk) : Prop where
  sound : d'.toSound = { d.toSound with journal := d'.journal, outside := d'.outside }
  rings : d'.journal.rings = d.journal.rings
  refuses : d'.outside.refuses = d.outside.refuses

theorem Apart.trans (h : d.Apart d') (h' : d'.Apart d'') : d.Apart d'' :=
  ⟨by rw [h'.sound, h.sound], h'.rings.trans h.rings, h'.refuses.trans h.refuses⟩

theorem apart_emit (d : Desk) {e : Event} (he : ∀ ringing, e ≠ .ringingChanged ringing) :
    d.Apart (d.emit e) := ⟨rfl, d.journal.rings_emit he, rfl⟩

theorem apart_ask (d : Desk) (demand : Demand) : d.Apart (d.ask demand).2 := ⟨rfl, rfl, rfl⟩

theorem apart_moveRoute (d : Desk) (next : Route.Machine) : d.Apart (d.moveRoute next) := by
  have hn : d.Apart { d with route := next } := ⟨rfl, rfl, rfl⟩
  have hc : d.Apart (if next.current = d.route.current then { d with route := next }
      else (({ d with route := next }.ask (.route next.current.device)).2).emit
        (.deviceChanged d.route.current.device next.current.device)) := by
    split
    · exact hn
    · exact (hn.trans (apart_ask _ _)).trans (apart_emit _ (by simp))
  unfold moveRoute
  dsimp only
  split
  · exact hc
  · exact hc.trans (apart_ask _ _)

theorem apart_applyMute (d : Desk) (value : Bool) : d.Apart (d.applyMute value) := by
  unfold applyMute
  split
  · exact ⟨rfl, rfl, rfl⟩
  · have ha := d.apart_ask (.micMute value)
    dsimp only
    split
    · have hm : d.Apart { (d.ask (.micMute value)).2 with muted := value } :=
        ⟨ha.sound, ha.rings, ha.refuses⟩
      exact hm.trans (apart_emit _ (by simp))
    · exact ha

/-! ## Announcements that tell the truth -/

/-- The announcements alternate, and it rings just when the last one says so. -/
structure Announced (d : Desk) : Prop where
  chain : (false :: d.journal.rings).IsChain (· ≠ ·)
  lasts : d.journal.rings.getLastD false = true → d.Lasts
  hushed : d.journal.rings.getLastD false = false → d.bell = (none, false)
  counted : d.Counted

/-- The announcements tell the truth, and what rings does not fail. -/
structure Sustained (d : Desk) : Prop extends Announced d where
  assured : d.journal.rings.getLastD false = true → d.Assured

theorem Announced.isRinging_eq (h : d.Announced) :
    d.isRinging = d.journal.rings.getLastD false := by
  cases hr : d.journal.rings.getLastD false with
  | true => exact (h.lasts hr).isRinging
  | false => exact Sound.isRinging_of_bell (h.hushed hr)

/-- What does not concern ringing leaves its announcements true. -/
theorem Sustained.apart (h : d.Sustained) (ha : d.Apart d') : d'.Sustained := by
  refine ⟨⟨?_, ?_, ?_, ?_⟩, ?_⟩
  · rw [ha.rings]
    exact h.chain
  · rw [ha.rings, ha.sound]
    exact h.lasts
  · rw [ha.rings, ha.sound]
    exact h.hushed
  · rw [ha.sound]
    exact h.counted
  · rw [ha.rings, ha.sound]
    exact fun hr => (h.assured hr).imp_right fun hr =>
      ⟨hr.opens.of_refuses ha.refuses, hr.failAfter⟩

/-- The players did something that is not the ringer's. -/
theorem Sustained.played (h : d.Sustained) {sound : Sound} (hm : d.toSound.PlaybackOnly sound)
    (hb : sound.bell = d.bell) (hl : d.Lasts → d.Assured → sound.Lasts) (hc : sound.Counted) :
    Sustained { d with toSound := sound } := by
  have hrings : sound.journal.rings = d.journal.rings :=
    hm.stage.journal.filterMap_eq fun e he => by cases e <;> first | rfl | cases he
  refine ⟨⟨?_, ?_, ?_, hc⟩, ?_⟩
  · rw [hrings]
    exact h.chain
  · rw [hrings]
    exact fun hr => hl (h.lasts hr) (h.assured hr)
  · rw [hrings]
    exact fun hr => hb.trans (h.hushed hr)
  · rw [hrings]
    exact fun hr => (h.assured hr).playbackOnly hm (congrArg Prod.snd hb)

theorem Sustained.soundTone (h : d.Sustained) (tone : Tone) : (d.soundTone tone).Sustained :=
  h.played (.playTone _ tone) (d.bell_playTone tone) (fun hl ha => hl.playTone ha tone)
    (h.counted.playTone tone)

theorem Sustained.silenceToneIf (h : d.Sustained) (tone : Tone) :
    (d.silenceToneIf tone).2.Sustained :=
  h.played (.stopToneIf _ tone) (d.bell_stopToneIf tone) (fun hl ha => hl.stopToneIf ha tone)
    (h.counted.stopToneIf tone)

/-- When ringing is stopped, it is announced as ended if it was announced. -/
theorem Sustained.stopRinging (h : d.Sustained) : d.stopRinging.2.Sustained := by
  have hrings : d.toSound.stopRing.2.journal.rings = d.journal.rings :=
    (Sound.PlaybackOnly.stopRing d.toSound).stage.journal.filterMap_eq fun e he => by
      cases e <;> first | rfl | cases he
  have hringing : d.toSound.stopRing.1 = d.journal.rings.getLastD false := h.isRinging_eq
  unfold Desk.stopRinging
  dsimp only
  split
  · rename_i hs
    rw [hringing] at hs
    have hj : (d.toSound.stopRing.2.journal.emit (.ringingChanged false)).rings =
        d.journal.rings ++ [false] := by rw [Journal.rings_announce, hrings]
    refine ⟨⟨?_, fun hr => ?_, fun _ => d.bell_stopRing, h.counted.stopRing⟩, fun hr => ?_⟩
    · exact hj ▸ isChain_announce h.chain (by rw [hs]; decide)
    · exact absurd ((congrArg (·.getLastD false) hj).symm.trans hr) (by simp)
    · exact absurd ((congrArg (·.getLastD false) hj).symm.trans hr) (by simp)
  · rename_i hs
    rw [hringing] at hs
    refine ⟨⟨hrings ▸ h.chain, fun hr => ?_, fun _ => d.bell_stopRing, h.counted.stopRing⟩,
      fun hr => ?_⟩
    · exact absurd ((congrArg (·.getLastD false) hrings).symm.trans hr) hs
    · exact absurd ((congrArg (·.getLastD false) hrings).symm.trans hr) hs

/-- Ringing that begins is announced as begun. -/
theorem rings_startRinging {slot : SlotId} (h : d.startRinging slot = .ok d') :
    d'.journal.rings = d.journal.rings ++ [true] := by
  unfold Desk.startRinging at h
  split at h
  · rename_i sound hs
    cases h
    have hrings : sound.journal.rings = d.journal.rings :=
      (Sound.PlaybackOnly.ring d.toSound hs).stage.journal.filterMap_eq fun e he => by
        cases e <;> first | rfl | cases he
    exact (sound.journal.rings_announce true).trans (by rw [hrings])
  · cases h

/-- Where it does not ring, ringing that begins is announced. -/
theorem Sustained.startRinging (h : d.Sustained) (hb : d.bell = (none, false)) (hn : d.Noticeable)
    {slot : SlotId} (hr : d.startRinging slot = .ok d') : d'.Sustained := by
  have hrings := rings_startRinging hr
  -- An announced ringing would still last, but the ringer is silent.
  have hlast : d.journal.rings.getLastD false ≠ true := fun ht => by
    have := (h.lasts ht).isRinging
    rw [Sound.isRinging_of_bell hb] at this
    cases this
  unfold Desk.startRinging at hr
  split at hr
  · rename_i sound hs
    cases hr
    have hc : sound.Counted := Sound.Counted.ring (s := d.toSound) h.counted hs
    have hl : sound.Lasts := (Sound.Lasts.ring hn h.counted hs).1
    have ha : sound.Assured := (Sound.Lasts.ring hn h.counted hs).2
    refine ⟨⟨?_, fun _ => hl, fun hf => ?_, hc⟩, fun _ => ?_⟩
    · rw [hrings]
      exact isChain_announce h.chain hlast
    · rw [hrings] at hf
      simp at hf
    · exact ha.imp_right fun hr => ⟨hr.opens, hr.failAfter⟩
  · cases hr

/-! ## Mutations -/

/-- An effect, which is to begin ringing only where it does not ring. -/
theorem Sustained.carryOut (h : d.Sustained) (calls : List Call) {e : Effect}
    (hb : e = .startRinging → d.bell = (none, false))
    (hn : d.Noticeable ∨
      (Desk.carryOut calls d e).journal.rings.count true ≤ d.journal.rings.count true) :
    (Desk.carryOut calls d e).Sustained := by
  cases e with
  | playRingback | playWaitingTone => exact h.soundTone _
  | stopRingback | muteNetworkRing => exact h.silenceToneIf _
  | stopRinging => exact h.stopRinging
  | modeChanged mode => exact h.apart ((apart_ask _ _).trans (apart_emit _ (by simp)))
  | startRinging =>
    unfold Desk.carryOut at hn ⊢
    dsimp only at hn ⊢
    split
    · rename_i d' hr
      -- Either it can be noticed, or nothing was announced, and then the ringer did not start.
      rcases hn with hn | hn
      · exact h.startRinging (hb rfl) hn hr
      · simp only [hr, rings_startRinging hr, List.count_append, List.count_singleton_self] at hn
        omega
    · exact h.apart (apart_emit _ (by simp))

/-- Effects among which it is to begin to ring once at most, and only where it does not ring. -/
theorem Sustained.foldl_carryOut (h : d.Sustained) (effects : List Effect)
    (hc : effects.count .startRinging ≤ 1)
    (hb : .startRinging ∈ effects → d.bell = (none, false))
    (hn : d.Noticeable ∨ (effects.foldl (Desk.carryOut calls) d).journal.rings.count true ≤
      d.journal.rings.count true) :
    (effects.foldl (Desk.carryOut calls) d).Sustained := by
  induction effects generalizing d with
  | nil => exact h
  | cons e rest ih =>
    have hd := Journal.count_rings_le (entries_carryOut calls d e) true
    have hrest := Journal.count_rings_le
      (entries_foldl_carryOut calls (Desk.carryOut calls d e) rest) true
    rw [List.foldl_cons] at hn ⊢
    refine ih (h.carryOut calls (fun he => hb (he ▸ List.mem_cons_self ..)) ?_) ?_ (fun hm => ?_) ?_
    · exact hn.imp_right fun hn => hrest.trans hn
    · rw [List.count_cons] at hc
      omega
    · have hne : e ≠ .startRinging := by
        rintro rfl
        rw [List.count_cons_self] at hc
        have := List.count_pos_iff.mpr hm
        omega
      exact bell_carryOut hne (hb (List.mem_cons_of_mem _ hm))
    · have hc := ignoresMachines_ringConditions.carryOut calls d e
      exact hn.imp (noticeable_of_ringConditions · hc) fun hn => hn.trans hd

/-- The posture moves, and its effects are carried out. -/
theorem Sustained.turned (h : d.Sustained) (ha : d.Attended) (calls : List Call)
    {posture : Posture.Machine} (hm : d.posture.Moves posture)
    (hn : d.Noticeable ∨
      (d.turned calls posture).journal.rings.count true ≤ d.journal.rings.count true) :
    (d.turned calls posture).Sustained := by
  obtain ⟨effects, he⟩ := hm.heralds
  have hpending : posture.pending = effects := by rw [he.pending, ha.settled, List.nil_append]
  unfold Desk.turned at hn ⊢
  dsimp only at hn ⊢
  rw [hpending] at hn ⊢
  generalize hnext : (if posture.current = d.posture.current then _ else _ : Desk) = next at hn ⊢
  have hapart : d.Apart next := by
    rw [← hnext]
    split
    · exact ⟨rfl, rfl, rfl⟩
    · have hp : d.Apart { d with posture := posture.drain.2 } := ⟨rfl, rfl, rfl⟩
      exact hp.trans (apart_emit _ (by simp))
  have hconditions : next.ringConditions = d.ringConditions := by
    rw [← hnext]
    split <;> rfl
  have hbell : next.bell = d.bell := by rw [hapart.sound]; rfl
  rw [← hapart.rings] at hn
  refine (h.apart hapart).foldl_carryOut effects he.once (fun hs => ?_)
    (hn.imp_left (noticeable_of_ringConditions · hconditions))
  rw [hbell]
  exact ha.ring (he.ring hs).1

/-- What the players do, unless they are played directly or closed. -/
theorem Sounded.sustained (h : d.Sounded allowed d') (hp : ¬allowed .play) (hc : ¬allowed .close)
    (hd : d.Sustained) : d'.Sustained := by
  cases h with
  | settled =>
    have hc : d.toSound.settle.Counted := hd.counted.of_eq rfl d.onward_settle.length
    exact hd.played (.settle _) rfl (fun hl => hl.settle) hc
  | elapsed ms =>
    have hc : (d.toSound.elapse ms).Counted := hd.counted.of_eq rfl (d.onward_elapse ms).length
    exact hd.played (.elapse _ ms) rfl (fun hl ha => hl.elapse ha ms) hc
  | toned tone => exact hd.soundTone tone
  | silenced =>
    exact hd.played (.stopTone _) d.bell_stopTone (fun hl => hl.stopTone) hd.counted.stopTone
  | silencedIf tone => exact hd.silenceToneIf tone
  | stilled => exact hd.stopRinging
  | rang hp' => exact absurd hp' hp
  | hushed h => exact (h.elim hc hp).elim

/-- A mutation that does not silence the ringer in secret, and leaves the conditions of ringing as
they are. -/
theorem Mutation.sustained (h : Mutation allowed d d') (hp : ¬allowed .play) (hc : ¬allowed .close)
    (hr : ¬allowed .ringer) (hb : ¬allowed .befall) (ha : d.Attended)
    (hn : d.Noticeable ∨ d'.journal.rings.count true ≤ d.journal.rings.count true)
    (hd : d.Sustained) : d'.Sustained := by
  cases h with
  | sounded h => exact h.sustained hp hc hd
  | turned calls hm => exact hd.turned ha calls hm hn
  | ringer hr' => exact absurd hr' hr
  | setFailAfter hb' => exact absurd hb' hb
  | routed next => exact hd.apart (apart_moveRoute d next)
  | muted => exact hd.apart (apart_applyMute d _)
  | asked command => exact hd.apart (apart_ask d _)
  | told he => exact hd.apart (apart_emit d (by rintro _ rfl; cases he))
  | noted | amended | issued => exact hd.apart ⟨rfl, rfl, rfl⟩
  | moved | added | dropped => exact hd.apart ⟨rfl, d.journal.rings_emit (by simp), rfl⟩

theorem Mutations.sustained (h : Mutations allowed d d') (hp : ¬allowed .play)
    (hc : ¬allowed .close) (hr : ¬allowed .ringer) (hb : ¬allowed .befall) (ha : d.Attended)
    (hn : d.Noticeable ∨ d'.journal.rings.count true ≤ d.journal.rings.count true)
    (hd : d.Sustained) : d'.Sustained := by
  have hconditions {d d' : Desk} (h : Mutations allowed d d') :
      d'.ringConditions = d.ringConditions := by
    -- Along a sequence the number of announcements only grows, so a bound at its end holds
    -- throughout.
    induction h with
    | refl => rfl
    | tail _ h ih => exact (h.ringConditions_eq hr hb).trans ih
  induction h with
  | refl => exact hd
  | tail hs h ih =>
    have hle := Journal.count_rings_le h.entries_prefix true
    have hle' := Journal.count_rings_le (Mutations.entries_prefix hs) true
    refine h.sustained hp hc hr hb (Mutations.attended hs hp ha) ?_ (ih (hn.imp_right hle.trans))
    exact hn.imp (noticeable_of_ringConditions · (hconditions hs)) fun hn => hn.trans hle'

/-! ## Runs -/

/-- Ringing that is announced can be felt or heard, what rings does not fail, and the desk is not
taken out of service while it rings. -/
structure Discernible (d : Desk) (h : Happening) : Prop where
  noticeable : d.journal.rings.count true < (d.after h).journal.rings.count true → d.Noticeable
  assured : d.isRinging = true → d.Assured
  still : h = .operation .shutdown → d.isRinging = false

/-- That the desk was taken out of service says nothing of ringing. -/
theorem Sustained.closed (h : d.Sustained) (hq : d.Quiet) (hr : d.isRinging = false) :
    d.closed.Announced := by
  have hl : d.journal.rings.getLastD false = false := h.isRinging_eq.symm.trans hr
  have hdrain : ({ d with started := false } : Desk).drain = { d with started := false } :=
    Quiet.drain_eq hq
  have hn : Sustained { d with started := false, queue := none } := h.apart ⟨rfl, rfl, rfl⟩
  have ht := hn.played (.stopTone _) d.bell_stopTone (fun hl => hl.stopTone) hn.counted.stopTone
  have hs := ht.played (.stopRing _) ?_ ?_ ht.counted.stopRing
  · unfold Desk.closed
    rw [hdrain]
    exact hs.toAnnounced
  · exact (Sound.bell_stopRing _).trans (d.bell_stopTone.trans (h.hushed hl)).symm
  · intro hlasts
    have := hlasts.isRinging
    rw [Sound.isRinging_of_bell (d.bell_stopTone.trans (h.hushed hl))] at this
    cases this

/-- A shutdown while it does not ring. -/
theorem Sustained.shutdown (h : d.Sustained) (hq : d.Quiet) (hr : d.isRinging = false) :
    (Desk.shutdown.perform d).2.Announced := by
  have hs : Desk.shutdown.Within d Announced := by
    refine within_bind.mpr ?_
    rw [ends_get]
    split
    · refine within_bind.mpr ((ends_modify _).mpr ?_)
      refine within_bind.mpr ?_
      rw [ends_get]
      split
      · exact ⟨h.chain, h.lasts, h.hushed, h.counted⟩
      · exact h.closed hq hr
    · exact within_throw_bind h.toAnnounced
  exact hs.perform

/-- A step that keeps to the conditions, in a run of the manager. -/
theorem announced_after {h : Happening} (hm : h.ByManager) (hh : d.Discernible h) (hq : d.Quiet)
    (ha : d.Attended) (hd : d.Announced) : (d.after h).Announced := by
  have hs : d.Sustained := ⟨hd, fun hr => hh.assured (hd.isRinging_eq.trans hr)⟩
  have hn : d.Noticeable ∨
      (d.after h).journal.rings.count true ≤ d.journal.rings.count true :=
    (Nat.lt_or_ge _ _).imp_left hh.noticeable
  have plain (hb : ∀ deed ∈ [Deed.play, .close, .ringer, .befall], deed ∉ h.deeds) :
      (d.after h).Announced := by
    rcases mutations_or_setFailing _ (by simp) d h hb with hb | ⟨_, _, rfl⟩
    · exact (hb.sustained (by simp) (by simp) (by simp) (by simp) ha hn hs).toAnnounced
    · exact ⟨hd.chain, hd.lasts, hd.hushed, hd.counted⟩
  cases h with
  | operation o =>
    cases o with
    | shutdown => exact hs.shutdown hq (hh.still rfl)
    | setRingerMode mode => exact ⟨hd.chain, hd.lasts, hd.hushed, hd.counted⟩
    | _ => exact plain (by simp [Happening.deeds, Operation.deeds])
  | audio o => exact hm.elim
  | circumstance c =>
    cases c with
    | elapse ms =>
      exact (Sounded.sustained (.elapsed ms : d.Sounded (fun _ => False) _) id id hs).toAnnounced
    | setFailing service failing => exact ⟨hd.chain, hd.lasts, hd.hushed, hd.counted⟩
    | failRenderAfter periods => exact ⟨hd.chain, hd.lasts, hd.hushed, hd.counted⟩
  | rest => exact plain (by simp [Happening.deeds])

/-- Invariant of every run that keeps to the conditions. -/
theorem Reach.announced (h : Reach (fun d h => h.ByManager ∧ d.Discernible h) n d) :
    d.Announced := by
  induction h with
  | assembled hd =>
    rw [assemble_eq hd]
    refine ⟨List.isChain_singleton _, fun hr => ?_, fun _ => rfl, fun tone id ht => ?_⟩
    · cases hr
    · cases ht
  | @next n d h hr hm ih =>
    exact announced_after hm.1 hm.2 (hr.quiet fun _ _ h => h.1) (hr.attends fun _ _ h => h.1).1 ih

/-- **Ringing is announced truthfully.** In every run in which ringing that is announced can be felt
or heard, what rings does not fail and no shutdown comes while it rings: that it rings and that it
has ended is announced in turn, that it rings first, and whenever the posture is not `incoming` the
last announcement, if there is one, says that ringing has ended. -/
theorem ringing_announced (h : Reach (fun d h => h.ByManager ∧ d.Discernible h) n d) :
    (false :: d.journal.rings).IsChain (· ≠ ·) ∧
      (d.posture.current ≠ .incoming → d.journal.rings.getLastD false = false) := by
  have ha := h.announced
  refine ⟨ha.chain, fun hn => ?_⟩
  have hb := (h.attends fun _ _ h => h.1).1.ring hn
  rw [← ha.isRinging_eq]
  exact Sound.isRinging_of_bell hb

/-- A call rings, is rejected and ends. While another call rings later, its caller gives up. -/
theorem ringing_announced_twice :
    let happenings : List Happening :=
      [.operation .start, .operation (.arrive ⟨"1", 0, .cs, .voice⟩), .circumstance (.elapse 3000),
        .operation (.reject 1), .operation (.reportState 1 .disconnected none),
        .operation (.arrive ⟨"2", 0, .cs, .voice⟩), .operation (.reportState 2 .disconnected none)]
    let d := standard.afterAll happenings
    Reach (fun d h => h.ByManager ∧ d.Discernible h) 2 d ∧
      d.journal.rings = [true, false, true, false] ∧
      (false :: d.journal.rings).IsChain (· ≠ ·) ∧ d.posture.current ≠ .incoming ∧
      d.journal.rings.getLastD false = false := by
  intro happenings d
  have renders (d : Desk) (hm : d.ringerMode = .normal) (hf : d.renderer.failAfter = 0)
      (hr : d.outside.Grants .openRenderer) (h : Happening) (hs : h ≠ .operation .shutdown) :
      d.Discernible h :=
    ⟨fun _ => .inr ⟨hm, hr, hf⟩, fun _ => .inr ⟨hr, hf⟩, fun he => absurd he hs⟩
  have hp : Permits (fun d h => h.ByManager ∧ d.Discernible h) standard happenings := by
    refine ⟨⟨trivial, ?_⟩, ⟨trivial, ?_⟩, ⟨trivial, ?_⟩, ⟨trivial, ?_⟩, ⟨trivial, ?_⟩,
      ⟨trivial, ?_⟩, ⟨trivial, ?_⟩, trivial⟩
    all_goals
      refine renders _ (by decide +kernel) (by decide +kernel) ?_ _ (by simp)
      exact Outside.Grants.of_refuses (o := standard.outside) (fun _ => rfl)
        (by simp [refuses_after])
  have hn : 0 + standard.givenAll happenings = 2 := by decide +kernel
  have hd : Reach (fun d h => h.ByManager ∧ d.Discernible h) 2 d := hn ▸ (reach_standard _).all hp
  have hn : d.posture.current ≠ .incoming := by decide +kernel
  have h := ringing_announced hd
  exact ⟨hd, by decide +kernel, h.1, hn, h.2 hn⟩

/-- With the ringer silent nothing is felt or heard, so an end is not announced: ringing is
announced, and still holds when the posture is `inactive` again, and is announced once more. -/
theorem silence_unannounced :
    let happenings : List Happening :=
      [.operation .start, .operation (.setRingerMode .silent),
        .operation (.arrive ⟨"1", 0, .cs, .voice⟩), .operation (.hangUp 1)]
    let d := standard.afterAll happenings
    let d' := d.after (.operation (.arrive ⟨"2", 0, .cs, .voice⟩))
    Reach (fun _ h => h.ByManager) 1 d ∧ Reach (fun _ h => h.ByManager) 2 d' ∧
      d.posture.current = .inactive ∧ d.journal.rings = [true] ∧
      d'.journal.rings = [true, true] := by
  intro happenings d d'
  have hn : 0 + standard.givenAll happenings = 1 := by decide +kernel
  have hp : Permits (fun _ h => h.ByManager) standard happenings :=
    ⟨trivial, trivial, trivial, trivial, trivial⟩
  have hd : Reach (fun _ h => h.ByManager) 1 d := hn ▸ (reach_standard _).all hp
  have hg : 1 + d.given (.operation (.arrive ⟨"2", 0, .cs, .voice⟩)) = 2 := by decide +kernel
  have hd' : Reach (fun _ h => h.ByManager) 2 d' :=
    hg ▸ hd.next (h := .operation (.arrive ⟨"2", 0, .cs, .voice⟩)) trivial
  exact ⟨hd, hd', by decide +kernel, by decide +kernel, by decide +kernel⟩

end Desk

end Switchboard
