import Switchboard.Proofs.Desk.Attendance
import Switchboard.Proofs.Playback.Ensemble

/-!
# What the players do

Mutations touch the players, and what they make the players do is made of acts (`Sound.Act`): time
goes by, one tone is played, the ringer starts or stops, something is said or asked for. A mutation
plays the tone of a key only where a key may be pressed (`Mutation.plays`).

* `Sound.Tended`: every playback that goes on is owned by one of the players, and the vibrator is
  going just when the ringer has it so. Every act keeps this, so whoever silences both players
  silences everything (`Tended.silenced`).
* `Sound.keySounds`: the tone of a key sounds. It never begins to sound by itself (`Act.keySounds`).
-/

namespace Switchboard

theorem Outside.vibrating_ask {o : Outside} {demand : Demand} (hd : demand.isVibrator = false) :
    (o.ask demand).2.vibrating = o.vibrating := by
  unfold vibrating
  rw [achieved_ask]
  cases (o.ask demand).1 with
  | false => rw [if_neg (by simp), List.append_nil]
  | true =>
    rw [if_pos rfl, List.filterMap_append]
    refine congrArg (fun l : List Bool => l.getLast?.getD false) ?_
    cases demand <;> first | exact List.append_nil _ | cases hd

namespace Playback.Sound

/-! ## Acts -/

/-- What happens to the players. Of the tones only some are played. -/
inductive Act (tones : Tone → Prop) (s : Sound) : Sound → Prop
  | settled : Act tones s s.settle
  | elapsed (ms : Nat) : Act tones s (s.elapse ms)
  | toned {tone : Tone} (ht : tones tone) : Act tones s (s.playTone tone)
  | silenced : Act tones s s.stopTone.2
  | rang {slot : SlotId} {s' : Sound} (h : s.ring slot = .ok s') : Act tones s s'
  | stilled : Act tones s s.stopRing.2
  /-- Something was said. -/
  | told (e : Event) : Act tones s { s with journal := s.journal.emit e }
  /-- Something was asked of the outside, but not of the vibrator. -/
  | asked {demand : Demand} (hd : demand.isVibrator = false) : Act tones s (s.ask demand).2
  | chosen (mode : RingerMode) : Act tones s { s with ringerMode := mode }
  | setFailAfter (periods : Nat) :
    Act tones s { s with renderer := { s.renderer with failAfter := periods } }
  | setFailing (service : Service) (failing : Bool) :
    Act tones s { s with outside := s.outside.setFailing service failing }

variable {tones : Tone → Prop} {s s' : Sound}

/-- An act starts no playback but one that a player owns. -/
theorem Act.takes (h : Act tones s s') : ∃ player, s.Takes (some player) s' := by
  have eased (h : s.Eases s') : ∃ player, s.Takes (some player) s' := ⟨.tone, .inl h⟩
  cases h with
  | settled => exact eased (eases_of_owned s.onward_settle rfl rfl)
  | elapsed ms => exact eased (eases_of_owned (s.onward_elapse ms) rfl rfl)
  | @toned tone _ => exact ⟨.tone, s.takes_playTone tone⟩
  | silenced => exact eased s.eases_stopTone.1
  | rang h => exact ⟨.ringer, s.takes_ring h⟩
  | stilled => exact eased s.eases_stopRing.1
  | told | asked | chosen | setFailAfter | setFailing =>
    exact eased (eases_of_owned (Studio.onward_of_eq rfl rfl rfl) rfl rfl)

/-- Every act leaves the vibrator as the ringer has it. -/
theorem Act.vibratorAgrees (h : Act tones s s') (hs : s.VibratorAgrees) : s'.VibratorAgrees := by
  cases h with
  | toned =>
    unfold playTone
    split
    · exact hs
    · exact hs.stopTone.of_log rfl rfl
  | silenced => exact hs.stopTone
  | rang h => exact hs.ring h
  | stilled => exact hs.stopRing
  | asked hd =>
    intro hstilled
    exact (Outside.vibrating_ask hd).trans (hs hstilled.of_ask)
  | settled | elapsed | told | chosen | setFailAfter | setFailing => exact hs.of_log rfl rfl

/-- The tone player keeps its tone, has none, or has started one. -/
theorem Act.tone_eq (h : Act tones s s') : s'.tone = s.tone ∨ s'.tone = none ∨
    ∃ tone, tones tone ∧ s'.tone = some (tone, s.workers.length) ∧
      s.workers.length < s'.workers.length := by
  have hstopped : s.stopTone.2.tone = none := Option.map_eq_none_iff.mp s.tone?_stopTone
  have hstilled : s.stopRing.2.tone = s.tone := by
    have hv (s : Sound) : s.stillVibrator.tone = s.tone := by
      unfold stillVibrator
      split <;> rfl
    refine (hv _).trans ?_
    unfold stopRingtone
    split <;> rfl
  cases h with
  | @toned tone ht =>
    unfold playTone
    split
    · exact .inl rfl
    · have hlength : s.stopTone.2.workers.length = s.workers.length :=
        s.eases_stopTone.1.onward.length
      refine .inr (.inr ⟨tone, ht, ?_, ?_⟩)
      · show some (tone, s.stopTone.2.workers.length) = _
        rw [hlength]
      · show _ < (s.stopTone.2.workers ++ [_]).length
        rw [List.length_append, hlength]
        exact Nat.lt_succ_self _
  | silenced => exact .inr (.inl hstopped)
  | rang h =>
    have hroused (s : Sound) : s.roused.tone = s.tone := by
      unfold roused
      dsimp only
      split <;> rfl
    rcases ring_cases h with ⟨-, rfl⟩ | ⟨-, rfl⟩ | ⟨-, rfl⟩
    · exact .inl hstilled
    · exact .inl ((hroused _).trans hstilled)
    · exact .inl ((hroused _).trans hstilled)
  | stilled => exact .inl hstilled
  | settled | elapsed | told | asked | chosen | setFailAfter | setFailing => exact .inl rfl

/-- A playback that was there and goes on went on before. -/
theorem Takes.isLive {player? : Option Player} (h : s.Takes player? s') {id : Nat}
    (hid : id < s.workers.length) (hl : s'.isLive id = true) : s.isLive id = true := by
  rcases h with he | ⟨s₁, he, -, hs⟩
  · exact he.onward.isLive hl
  · obtain ⟨source, period, limit, hw⟩ := hs.workers
    refine he.onward.isLive ?_
    unfold Studio.isLive at hl ⊢
    rwa [hw, List.getElem?_append_left (he.onward.length ▸ hid)] at hl

/-- Playbacks are started, and never forgotten. -/
theorem Takes.length_le {player? : Option Player} (h : s.Takes player? s') :
    s.workers.length ≤ s'.workers.length := by
  rcases h with he | ⟨s₁, he, -, hs⟩
  · exact he.onward.length.ge
  · obtain ⟨source, period, limit, hw⟩ := hs.workers
    rw [hw, List.length_append, he.onward.length]
    exact Nat.le_add_right _ _

/-! ## Playbacks and their owners -/

/-- All that plays was started by a player that owns it, and the vibrator is going just when the
ringer has it so. -/
structure Tended (s : Sound) : Prop where
  held : ∃ starters : List Player, s.Held (starters.map some)
  /-- The tone player owns no playback that is still to be started. -/
  tone_lt {tone : Tone} {id : Nat} : s.tone = some (tone, id) → id < s.workers.length
  vibratorAgrees : s.VibratorAgrees

theorem tended_silent (config : Config) (journal : Journal) (refuses : Nat → Service → Bool)
    (failures : Failures) (delay : Nat) :
    (silent config journal ⟨refuses, failures, [], delay⟩).Tended :=
  ⟨⟨[], rfl, nofun⟩, nofun, fun _ => rfl⟩

theorem Tended.owned (h : s.Tended) {id : Nat} (hl : s.isLive id = true) :
    ∃ player, s.owned player = some id := by
  obtain ⟨starters, hs⟩ := h.held
  have hlt : id < starters.length := by
    have hlength : starters.length = s.workers.length := by simpa using hs.length
    rw [hlength]
    -- A playback that was never started does not go on.
    refine Nat.lt_of_not_le fun hge => ?_
    rw [Studio.isLive, List.getElem?_eq_none hge] at hl
    cases hl
  exact ⟨starters[id], hs.owned (by simp [hlt]) hl⟩

/-- Every act leaves all that plays with the players. -/
theorem Act.tended (h : Act tones s s') (hs : s.Tended) : s'.Tended := by
  obtain ⟨player, ht⟩ := h.takes
  obtain ⟨starters, hheld⟩ := hs.held
  refine ⟨⟨starters ++ List.replicate (s'.workers.length - s.workers.length) player, ?_⟩,
    fun {tone id} htone => ?_, h.vibratorAgrees hs.vibratorAgrees⟩
  · rw [List.map_append, List.map_replicate]
    exact hheld.takes ht
  · rcases h.tone_eq with he | he | ⟨_, -, he, hlt⟩ <;> rw [he] at htone
    · exact Nat.lt_of_lt_of_le (hs.tone_lt htone) ht.length_le
    · cases htone
    · cases htone
      exact hlt

/-- Nothing plays, and the vibrator is off, unless it refused to be stopped. -/
structure AtRest (s : Sound) : Prop where
  isLive (id : Nat) : s.isLive id = false
  vibrating : s.vibrating = false
  outside : s.outside.Stilled → s.outside.vibrating = false

/-- Once both players are silenced, nothing plays any more. -/
theorem Tended.silenced (h : s.Tended) : s.stopTone.2.stopRing.2.AtRest := by
  have hs : s.stopTone.2.Tended := (Act.silenced : Act (fun _ => True) s _).tended h
  have hr : s.stopTone.2.stopRing.2.Tended := (Act.stilled : Act (fun _ => True) _ _).tended hs
  have hv : s.stopTone.2.stopRing.2.vibrating = false :=
    congrArg (·.2) s.stopTone.2.bell_stopRing
  refine ⟨fun id => eq_false_of_ne_true fun hl => ?_, hv,
    fun hst => (hr.vibratorAgrees hst).trans hv⟩
  obtain ⟨player, ho⟩ := hr.owned hl
  cases player with
  | tone =>
    have ht : s.stopTone.2.stopRing.2.tone = none :=
      Option.map_eq_none_iff.mp ((tone?_stopRing _).trans s.tone?_stopTone)
    rw [Sound.owned, ht] at ho
    cases ho
  | ringer =>
    rw [s.stopTone.2.eases_stopRing.2] at ho
    cases ho

/-! ## The tones of keys -/

/-- The tone of a key sounds. -/
def keySounds (s : Sound) : Bool := s.currentTone?.any (·.isDtmf)

theorem keySounds_iff : s.keySounds = true ↔
    ∃ tone id, s.tone = some (tone, id) ∧ tone.isDtmf = true ∧ s.isLive id = true := by
  unfold keySounds currentTone?
  cases ht : s.tone with
  | none => simp
  | some owned =>
    obtain ⟨tone, id⟩ := owned
    cases hl : s.isLive id <;> simp [hl]

/-- An act that plays no key leaves no key sounding that did not sound before. -/
theorem Act.keySounds (h : Act (·.isDtmf = false) s s') (hs : s.Tended) (hk : s'.keySounds = true) :
    s.keySounds = true := by
  obtain ⟨tone, id, ht, hd, hl⟩ := keySounds_iff.mp hk
  rcases h.tone_eq with he | he | ⟨played, hp, he, -⟩ <;> rw [he] at ht
  · obtain ⟨player, htakes⟩ := h.takes
    exact keySounds_iff.mpr ⟨tone, id, ht, hd, htakes.isLive (hs.tone_lt ht) hl⟩
  · cases ht
  · cases ht
    rw [hp] at hd
    cases hd

end Playback.Sound

namespace Desk

open Playback (Sound)

variable {tones : Tone → Prop} {allowed : Deed → Prop} {d d' : Desk}

/-! ## What a mutation has the players do -/

/-- What lies between two desks is made of acts of the players. -/
abbrev Plays (tones : Tone → Prop) (d d' : Desk) : Prop :=
  Relation.ReflTransGen (Sound.Act tones) d.toSound d'.toSound

/-- The players did nothing. -/
theorem plays_of_sound (h : d'.toSound = d.toSound) : d.Plays tones d' := by
  unfold Plays
  rw [h]

theorem plays_emit (d : Desk) (e : Event) : d.Plays tones (d.emit e) := .single (.told e)

theorem plays_soundTone (d : Desk) {tone : Tone} (ht : tones tone) :
    d.Plays tones (d.soundTone tone) :=
  .single (.toned ht)

theorem plays_silenceToneIf (d : Desk) (tone : Tone) : d.Plays tones (d.silenceToneIf tone).2 := by
  show Relation.ReflTransGen (Sound.Act tones) d.toSound (d.toSound.stopToneIf tone).2
  unfold Sound.stopToneIf
  split
  · exact .single .silenced
  · exact .refl

theorem plays_startRinging {slot : SlotId} (h : d.startRinging slot = .ok d') :
    d.Plays tones d' := by
  unfold startRinging at h
  split at h
  · rename_i sound hs
    cases h
    have hrang : d.Plays tones { d with toSound := sound } := .single (.rang hs)
    exact hrang.tail (.told _)
  · cases h

theorem plays_stopRinging (d : Desk) : d.Plays tones d.stopRinging.2 := by
  have hs : d.Plays tones (d.onSound (·.stopRing.2)) := .single .stilled
  unfold stopRinging
  dsimp only
  split
  · exact hs.tail (.told _)
  · exact hs

/-- The effects of the posture machine play no key. -/
theorem plays_carryOut (hp : ∀ tone : Tone, tone.isDtmf = false → tones tone) (calls : List Call)
    (d : Desk) (e : Effect) : d.Plays tones (carryOut calls d e) := by
  cases e with
  | playRingback => exact plays_soundTone d (hp .ringback rfl)
  | stopRingback => exact plays_silenceToneIf d .ringback
  | startRinging =>
    unfold carryOut
    dsimp only
    split
    · exact plays_startRinging ‹_›
    · exact plays_emit d _
  | stopRinging => exact plays_stopRinging d
  | playWaitingTone => exact plays_soundTone d (hp .waiting rfl)
  | muteNetworkRing => exact plays_silenceToneIf d .ringback
  | modeChanged mode =>
    have ha : d.Plays tones (d.ask (.audioMode mode)).2 := .single (.asked rfl)
    exact ha.tail (.told _)

theorem plays_turned (hp : ∀ tone : Tone, tone.isDtmf = false → tones tone) (d : Desk)
    (calls : List Call) (posture : Posture.Machine) : d.Plays tones (d.turned calls posture) := by
  have hfold (d : Desk) (effects : List Effect) :
      d.Plays tones (effects.foldl (carryOut calls) d) := by
    induction effects generalizing d with
    | nil => exact .refl
    | cons e rest ih => exact (plays_carryOut hp calls d e).trans (ih _)
  unfold turned
  refine Relation.ReflTransGen.trans ?_ (hfold _ _)
  split
  · exact .refl
  · exact plays_emit _ _

theorem plays_moveRoute (d : Desk) (next : Route.Machine) : d.Plays tones (d.moveRoute next) := by
  have hc : d.Plays tones (if next.current = d.route.current then { d with route := next }
      else (({ d with route := next }.ask (.route next.current.device)).2).emit
        (.deviceChanged d.route.current.device next.current.device)) := by
    split
    · exact .refl
    · have ha : d.Plays tones ({ d with route := next }.ask (.route next.current.device)).2 :=
        .single (.asked rfl)
      exact ha.tail (.told _)
  unfold moveRoute
  dsimp only
  split
  · exact hc
  · exact hc.tail (.asked rfl)

theorem plays_applyMute (d : Desk) (muted : Bool) : d.Plays tones (d.applyMute muted) := by
  have ha : d.Plays tones (d.ask (.micMute muted)).2 := .single (.asked rfl)
  unfold applyMute
  split
  · exact .refl
  · dsimp only
    split
    · exact ha.tail (.told _)
    · exact ha

theorem Sounded.plays (h : d.Sounded allowed d')
    (ht : ∀ tone : Tone, (tone.isDtmf = true → allowed .key ∨ allowed .play) → tones tone) :
    d.Plays tones d' := by
  cases h with
  | settled => exact .single .settled
  | elapsed ms => exact .single (.elapsed ms)
  | toned tone _ hk => exact plays_soundTone d (ht tone hk)
  | silenced => exact .single .silenced
  | silencedIf tone => exact plays_silenceToneIf d tone
  | rang _ h => exact plays_startRinging h
  | stilled => exact plays_stopRinging d
  | hushed => exact .single .stilled

/-- A mutation is made of acts of the players, and plays a key only where a key may be pressed. -/
theorem Mutation.plays (h : Mutation allowed d d')
    (ht : ∀ tone : Tone, (tone.isDtmf = true → allowed .key ∨ allowed .play) → tones tone) :
    d.Plays tones d' := by
  cases h with
  | sounded h => exact h.plays ht
  | ringer _ mode => exact .single (.chosen mode)
  | setFailAfter _ periods => exact .single (.setFailAfter periods)
  | turned calls =>
    exact plays_turned (fun tone hn => ht tone fun hd => by simp [hn] at hd) d calls _
  | routed next => exact plays_moveRoute d next
  | muted => exact plays_applyMute d _
  | asked command => exact .single (.asked rfl)
  | told => exact plays_emit d _
  | moved | added | dropped => exact plays_emit _ _
  | noted | amended | issued => exact .refl

theorem Mutations.plays (h : Mutations allowed d d')
    (ht : ∀ tone : Tone, (tone.isDtmf = true → allowed .key ∨ allowed .play) → tones tone) :
    d.Plays tones d' := by
  induction h with
  | refl => exact .refl
  | tail _ h ih => exact ih.trans (h.plays ht)

/-- Mutations in which no key may be pressed play none. -/
theorem Mutations.plays_unkeyed (h : Mutations (· ∉ [.key, .play]) d d') :
    d.Plays (·.isDtmf = false) d' :=
  h.plays fun tone ht => eq_false_of_ne_true fun hd => by simpa using ht hd

/-- Whatever happens is made of acts of the players. -/
theorem plays_after (d : Desk) (h : Happening) : d.Plays (fun _ => True) (d.after h) := by
  rcases mutations_or_setFailing [] (by simp) d h (by simp) with hb | ⟨service, failing, rfl⟩
  · exact hb.plays fun _ _ => trivial
  · exact .single (.setFailing service failing)

/-- What presses no key plays none. -/
theorem plays_after_of_unkeyed {h : Happening} (hk : .key ∉ h.deeds) (hp : .play ∉ h.deeds)
    (d : Desk) : d.Plays (·.isDtmf = false) (d.after h) := by
  rcases mutations_or_setFailing [.key, .play] (by simp) d h (by simpa using ⟨hk, hp⟩) with
    hb | ⟨service, failing, rfl⟩
  · exact hb.plays_unkeyed
  · exact .single (.setFailing service failing)

theorem Plays.tended (h : d.Plays tones d') (hd : d.Tended) : d'.Tended := by
  unfold Plays at h
  generalize d'.toSound = s at h ⊢
  induction h with
  | refl => exact hd
  | tail _ h ih => exact h.tended ih

/-- Where no key is played, no key begins to sound. -/
theorem Plays.keySounds (h : d.Plays (·.isDtmf = false) d') (hd : d.Tended)
    (hk : d'.keySounds = true) : d.keySounds = true := by
  unfold Plays at h
  generalize d'.toSound = s at h hk
  suffices s.Tended ∧ (s.keySounds = true → d.keySounds = true) from this.2 hk
  clear hk
  induction h with
  | refl => exact ⟨hd, id⟩
  | tail _ h ih => exact ⟨h.tended ih.1, fun hk => ih.2 (h.keySounds ih.1 hk)⟩

end Desk

end Switchboard
