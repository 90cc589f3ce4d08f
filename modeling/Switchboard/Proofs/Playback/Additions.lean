import Switchboard.Playback.Sound

/-!
# What the players add

Players and workers add to the journal and to the log of the outside, and take nothing back. All
that they add is news of tones and of failed playbacks (`Event.isOfPlayers`) and demands on the
vibrator (`Demand.isVibrator`). So what is read off other events and other demands does not notice
them (`Sound.PlaybackOnly`). Nor do they change how ringing calls are announced, or when the
renderer fails.
-/

namespace Switchboard

/-- The event is news of a tone or of a failed playback. -/
def Event.isOfPlayers : Event → Bool
  | toneStarted _ | playbackFailed .. => true
  | _ => false

/-- The demand is one on the vibrator. -/
def Demand.isVibrator : Demand → Bool
  | vibrate _ | stillVibrator => true
  | _ => false

/-- The service is willing, however often it is asked. -/
def Outside.Grants (o : Outside) (s : Service) : Prop := ∀ n, o.refuses n s = false

namespace Outside.Grants

variable {o o' : Outside}

/-- A service that grants everything meets every demand on it. -/
theorem met {demand : Demand} (h : o.Grants demand.service) : (o.ask demand).1 = true := by
  have : o.fails demand.service = false := h o.log.length
  simp [ask, this]

/-- Whether a service is willing goes by what the outside refuses. -/
theorem of_refuses {s : Service} (h : o.Grants s) (hr : o'.refuses = o.refuses) : o'.Grants s := by
  intro n
  rw [hr]
  exact h n

end Outside.Grants

/-- What was achieved grows by a demand that was met. -/
theorem Outside.achieved_ask (o : Outside) (demand : Demand) :
    (o.ask demand).2.achieved = o.achieved ++ if (o.ask demand).1 then [demand] else [] := by
  unfold achieved ask
  dsimp only
  rw [List.filter_append, List.map_append]
  cases o.fails demand.service <;> rfl

/-- A journal after some more events of a kind. -/
structure Journal.AddsOnly (kind : Event → Bool) (j j' : Journal) : Prop where
  added : ∃ events, j'.entries = j.entries ++ events ∧ ∀ e ∈ events, kind e = true

/-- The outside after some more demands on the vibrator. -/
structure Outside.VibratorOnly (o o' : Outside) : Prop where
  added : ∃ contacts, o'.log = o.log ++ contacts ∧ ∀ c ∈ contacts, c.demand.isVibrator = true
  refuses : o'.refuses = o.refuses

namespace Journal.AddsOnly

variable {kind kind' : Event → Bool} {j j' j'' : Journal}

theorem refl (j : Journal) : j.AddsOnly kind j := ⟨[], by simp⟩

theorem trans (h : j.AddsOnly kind j') (h' : j'.AddsOnly kind j'') : j.AddsOnly kind j'' := by
  obtain ⟨es, he, hp⟩ := h.added
  obtain ⟨es', he', hp'⟩ := h'.added
  refine ⟨es ++ es', by rw [he', he, List.append_assoc], fun e hm => ?_⟩
  exact (List.mem_append.mp hm).elim (hp e) (hp' e)

/-- One event of the kind is such an addition. -/
theorem emit (j : Journal) {e : Event} (he : kind e = true) : j.AddsOnly kind (j.emit e) :=
  ⟨[e], rfl, by simpa using he⟩

theorem mono (h : j.AddsOnly kind j') (hk : ∀ e, kind e = true → kind' e = true) :
    j.AddsOnly kind' j' := by
  obtain ⟨es, he, hp⟩ := h.added
  exact ⟨es, he, fun e hm => hk e (hp e hm)⟩

/-- A reading that notices no such event is the same. -/
theorem reading_eq {β : Type} (h : j.AddsOnly kind j') (read : List Event → β)
    (hr : ∀ events e, kind e = true → read (events ++ [e]) = read events) :
    read j'.entries = read j.entries := by
  obtain ⟨added, he, hp⟩ := h.added
  rw [he]
  -- The events so far are generalized, since each added event is read after the ones before it.
  clear he
  generalize j.entries = events
  induction added generalizing events with
  | nil => rw [List.append_nil]
  | cons e rest ih =>
    rw [List.append_cons, ih fun x hx => hp x (by simp [hx]), hr events e (hp e (by simp))]

/-- What is read off other events is the same. -/
theorem filterMap_eq {β : Type} (h : j.AddsOnly kind j') {f : Event → Option β}
    (hf : ∀ e, kind e = true → f e = none) :
    j'.entries.filterMap f = j.entries.filterMap f :=
  h.reading_eq (·.filterMap f) fun events e he => by simp [hf e he]

end Journal.AddsOnly

namespace Outside.VibratorOnly

variable {o o' o'' : Outside}

theorem refl (o : Outside) : o.VibratorOnly o := ⟨⟨[], by simp⟩, rfl⟩

theorem trans (h : o.VibratorOnly o') (h' : o'.VibratorOnly o'') : o.VibratorOnly o'' := by
  obtain ⟨cs, hc, hv⟩ := h.added
  obtain ⟨cs', hc', hv'⟩ := h'.added
  refine ⟨⟨cs ++ cs', by rw [hc', hc, List.append_assoc], fun c hm => ?_⟩,
    h'.refuses.trans h.refuses⟩
  exact (List.mem_append.mp hm).elim (hv c) (hv' c)

theorem ask (o : Outside) {demand : Demand} (hd : demand.isVibrator = true) :
    o.VibratorOnly (o.ask demand).2 := ⟨⟨[_], rfl, by simpa using hd⟩, rfl⟩

end Outside.VibratorOnly

namespace Playback

/-! ## Workers -/

/-- What workers have said, and the renderer fails when it did. -/
structure Stage.PlaybackOnly (stage stage' : Stage) : Prop where
  journal : stage.journal.AddsOnly Event.isOfPlayers stage'.journal
  failAfter : stage'.renderer.failAfter = stage.renderer.failAfter

theorem Stage.PlaybackOnly.refl (stage : Stage) : stage.PlaybackOnly stage := ⟨.refl _, rfl⟩

theorem Stage.PlaybackOnly.trans {stage stage' stage'' : Stage} (h : stage.PlaybackOnly stage')
    (h' : stage'.PlaybackOnly stage'') : stage.PlaybackOnly stage'' :=
  ⟨h.journal.trans h'.journal, h'.failAfter.trans h.failAfter⟩

namespace Worker

variable (w : Worker) (stage : Stage)

/-- A worker that is done says so only if it failed. -/
theorem playbackOnly_finish (outcome : Outcome) (rendered : Nat) :
    stage.PlaybackOnly (w.finish outcome rendered stage).2 := by
  unfold finish
  dsimp only
  split
  · exact ⟨.emit _ rfl, rfl⟩
  · exact ⟨.refl _, rfl⟩

/-- However many periods a worker renders, at its end it may say that it failed. -/
theorem playbackOnly_render (deadline : Nat) (expiry : Option Nat) (due rendered : Nat) :
    stage.PlaybackOnly (w.render deadline expiry due rendered stage).2 := by
  have noted {stage : Stage} {after : Stage}
      (h : Stage.PlaybackOnly { stage with renderer := stage.renderer.notePeriod } after) :
      stage.PlaybackOnly after := ⟨h.journal, h.failAfter⟩
  fun_induction w.render deadline expiry due rendered stage with
  | case1 due rendered stage => exact playbackOnly_finish w stage _ _
  | case2 due rendered stage _ _ stage' => exact noted (playbackOnly_finish w stage' _ _)
  | case3 due rendered stage _ _ stage' _ ih => exact noted ih
  | case4 due rendered stage => exact .refl _

/-- A worker's turn may open a stream and render, or fail to open it and say so. -/
theorem playbackOnly_run (willing : Bool) (now deadline : Nat) :
    stage.PlaybackOnly (w.run willing now deadline stage).2 := by
  unfold run
  split
  · unfold start
    split
    · have h := playbackOnly_render w
        { stage with renderer := stage.renderer.noteOpen w.source } deadline
        (w.limit.map (now + ·)) (now + w.period) 0
      exact ⟨h.journal, h.failAfter⟩
    · exact ⟨.emit _ rfl, rfl⟩
  · exact playbackOnly_render w stage deadline _ _ _
  · exact .refl _

theorem playbackOnly_stop : stage.PlaybackOnly (w.stop stage).2 := by
  unfold stop
  split
  · exact playbackOnly_finish w stage _ _
  · exact .refl _

end Worker

/-! ## The studio -/

namespace Studio

/-- Workers take their turns in the order in which they were started. -/
theorem playbackOnly_runAll (willing : Bool) (now deadline : Nat) (workers : List Worker)
    (stage : Stage) : stage.PlaybackOnly (runAll willing now deadline workers stage).2 := by
  induction workers generalizing stage with
  | nil => exact .refl _
  | cons w rest ih => exact (w.playbackOnly_run stage willing now deadline).trans (ih _)

/-- Each worker runs for itself, on the stage that the workers before it have left. -/
theorem getElem?_runAll (willing : Bool) (now deadline : Nat) (workers : List Worker)
    (stage : Stage) (id : Nat) :
    ∃ stage', stage.PlaybackOnly stage' ∧
      (runAll willing now deadline workers stage).1[id]? =
        workers[id]?.map fun w => (w.run willing now deadline stage').1 := by
  induction workers generalizing id stage with
  | nil => exact ⟨stage, .refl _, rfl⟩
  | cons w rest ih =>
    cases id with
    | zero => exact ⟨stage, .refl _, rfl⟩
    | succ id =>
      obtain ⟨stage', hm, he⟩ := ih (w.run willing now deadline stage).2 id
      exact ⟨stage', (w.playbackOnly_run stage willing now deadline).trans hm, he⟩

variable (s : Studio)

theorem playbackOnly_runTo (deadline : Nat) : s.toStage.PlaybackOnly (s.runTo deadline).toStage :=
  playbackOnly_runAll _ s.now deadline s.workers s.toStage

theorem playbackOnly_settle : s.toStage.PlaybackOnly s.settle.toStage := s.playbackOnly_runTo s.now

theorem playbackOnly_elapse (ms : Nat) : s.toStage.PlaybackOnly (s.elapse ms).toStage :=
  s.playbackOnly_settle.trans (s.settle.playbackOnly_runTo (s.now + ms))

theorem playbackOnly_halt (id : Nat) : s.toStage.PlaybackOnly (s.halt id).toStage := by
  unfold halt
  split
  · rename_i w _
    exact w.playbackOnly_stop s.toStage
  · exact .refl _

theorem playbackOnly_stop (id : Nat) : s.toStage.PlaybackOnly (s.stop id).toStage := by
  unfold stop
  split
  · exact s.playbackOnly_settle.trans (s.settle.playbackOnly_halt id)
  · exact .refl _

/-- Workers ask nothing of the outside. -/
theorem outside_stop (id : Nat) : (s.stop id).outside = s.outside := by
  unfold stop halt
  split
  · split <;> rfl
  · rfl

theorem outside_wait (id : Nat) : (s.wait id).outside = s.outside := by
  unfold wait
  split
  · dsimp only
    split <;> rfl
  · rfl

end Studio

/-! ## The players -/

/-- Sound after which nothing was added but news of the players and demands on the vibrator. -/
structure Sound.PlaybackOnly (s s' : Sound) : Prop where
  stage : s.toStage.PlaybackOnly s'.toStage
  outside : s.outside.VibratorOnly s'.outside
  ringerMode : s'.ringerMode = s.ringerMode

namespace Sound.PlaybackOnly

variable {s s' s'' : Sound}

theorem refl (s : Sound) : s.PlaybackOnly s := ⟨.refl _, .refl _, rfl⟩

theorem trans (h : s.PlaybackOnly s') (h' : s'.PlaybackOnly s'') : s.PlaybackOnly s'' :=
  ⟨h.stage.trans h'.stage, h.outside.trans h'.outside, h'.ringerMode.trans h.ringerMode⟩

variable (s)

theorem settle : s.PlaybackOnly s.settle := ⟨s.playbackOnly_settle, .refl _, rfl⟩

theorem elapse (ms : Nat) : s.PlaybackOnly (s.elapse ms) := ⟨s.playbackOnly_elapse ms, .refl _, rfl⟩

/-- To stop a playback asks nothing of the outside. -/
theorem stop (id : Nat) : s.PlaybackOnly { s with toStudio := s.toStudio.stop id } :=
  ⟨s.playbackOnly_stop id, by
    rw [s.outside_stop id]
    exact .refl _, rfl⟩

/-- What the players own does not matter. -/
theorem own (h : s.PlaybackOnly s') (tone : Option (Tone × Nat)) (ringtone : Option Nat)
    (vibrating : Bool) : s.PlaybackOnly { s' with tone, ringtone, vibrating } :=
  ⟨h.stage, h.outside, h.ringerMode⟩

theorem stopTone : s.PlaybackOnly s.stopTone.2 := by
  unfold Sound.stopTone
  split
  · rename_i id _
    exact own s (stop s id) none s.ringtone s.vibrating
  · exact refl s

theorem stopToneIf (tone : Tone) : s.PlaybackOnly (s.stopToneIf tone).2 := by
  unfold Sound.stopToneIf
  split
  · exact stopTone s
  · exact refl s

/-- A new tone is said to start, after the old one is stopped. -/
theorem playTone (tone : Tone) : s.PlaybackOnly (s.playTone tone) := by
  unfold Sound.playTone
  split
  · exact refl s
  · have h := stopTone s
    exact ⟨⟨h.stage.journal.trans (.emit _ rfl), h.stage.failAfter⟩, h.outside, h.ringerMode⟩

/-- To stop ringing stops the ringtone and asks for the vibrator to stop, if it is going. -/
theorem stopRing : s.PlaybackOnly s.stopRing.2 := by
  have hr : s.PlaybackOnly s.stopRingtone := by
    unfold stopRingtone
    split
    · rename_i id _
      exact own s (stop s id) s.tone none s.vibrating
    · exact refl s
  refine hr.trans ?_
  show PlaybackOnly _ s.stopRingtone.stillVibrator
  unfold stillVibrator
  split
  · exact ⟨.refl _, .ask _ rfl, rfl⟩
  · exact refl _

end Sound.PlaybackOnly

namespace Sound

/-- The ringer after it was to set the vibrator going. -/
def roused (s : Sound) : Sound :=
  let (started, s) := s.ask (.vibrate s.vibrationPattern)
  if started then { s with vibrating := true } else s

/-- The ringer after it started its ringtone. -/
def chimed (s : Sound) (slot : SlotId) : Sound :=
  { s with
    toStudio := (s.toStudio.spawn (.ringtone s.ringtonePath slot) s.period none).2
    ringtone := some s.workers.length }

/-- What ringing is made of, by the ringer mode. -/
theorem ring_cases {s s' : Sound} {slot : SlotId} (h : s.ring slot = .ok s') :
    (s.ringerMode = .silent ∧ s' = s.stopRing.2) ∨
      (s.ringerMode = .vibrate ∧ s' = s.stopRing.2.roused) ∨
      s.ringerMode = .normal ∧ s' = s.stopRing.2.roused.chimed slot := by
  have hmode : s.stopRing.2.ringerMode = s.ringerMode := (PlaybackOnly.stopRing s).ringerMode
  unfold ring at h
  split at h
  · cases h
  · dsimp only at h
    split at h
    · rename_i hm
      cases h
      exact .inl ⟨hmode.symm.trans hm, rfl⟩
    · rename_i hsilent
      rw [hmode] at h hsilent
      cases hm : s.ringerMode with
      | silent => exact absurd hm hsilent
      | vibrate =>
        rw [hm] at h
        cases h
        exact .inr (.inl ⟨rfl, rfl⟩)
      | normal =>
        rw [hm] at h
        cases h
        exact .inr (.inr ⟨rfl, rfl⟩)

end Sound

namespace Sound.PlaybackOnly

variable (s : Sound) {s' : Sound}

/-- The vibrator is asked for once, whether it complies or not. -/
theorem roused : s.PlaybackOnly s.roused := by
  have hv : s.PlaybackOnly (s.ask (.vibrate s.vibrationPattern)).2 := ⟨.refl _, .ask _ rfl, rfl⟩
  unfold Sound.roused
  dsimp only
  split
  · exact own s hv s.tone s.ringtone true
  · exact hv

/-- A call that rings may set the vibrator going and start the ringtone. -/
theorem ring {slot : SlotId} (h : s.ring slot = .ok s') : s.PlaybackOnly s' := by
  have hr := (stopRing s).trans (roused _)
  rcases ring_cases h with ⟨-, rfl⟩ | ⟨-, rfl⟩ | ⟨-, rfl⟩
  · exact stopRing s
  · exact hr
  · exact ⟨hr.stage, hr.outside, hr.ringerMode⟩

end Sound.PlaybackOnly

end Playback

end Switchboard
