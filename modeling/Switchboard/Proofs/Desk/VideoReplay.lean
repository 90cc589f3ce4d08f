import Switchboard.Proofs.Desk.History
import Switchboard.Proofs.Desk.AudioMutations

/-!
# What the listeners see of a call

A listener can keep track of the video state of a call: it takes it from the call as it is added,
and from every change that is said. `VideoReplay.observe` refuses a change that does not start from
the video state that the listener has, so a video state that is had by `VideoReplay.replay` shows
that every change followed on what was said before it.

A change that a user asks for in a call, or that the radio reports, is said as it is made
(`VideoReplayed.shown`). An answer changes the video state too, and does not say so: `Desk.Redubs`.
In every run in which that does not happen to a call, what the listeners have of it is what the
registry has (`video_replays`), and otherwise it may not be: `answer_unseen`.
-/

namespace Switchboard

/-- The event is news of a call that was added, or of the video state of one. -/
def Event.isOfVideo : Event → Bool
  | callAdded _ | videoStateChanged .. => true
  | _ => false

namespace VideoReplay

/-- What a listener has for the video state of the call `id` after an event, if the event follows on
what it had. -/
def observe (id : CallId) (seen : Option VideoState) : Event → Option (Option VideoState)
  | .callAdded c => some (if c.id = id then some c.video else seen)
  | .videoStateChanged id' previous current =>
    if id' ≠ id then some seen
    else if seen = some previous then some (some current)
    else none
  | _ => some seen

/-- What a listener has for the video state of the call `id` after events from the beginning, if
each follows on those before it. -/
def replay (id : CallId) (events : List Event) : Option (Option VideoState) :=
  events.foldlM (observe id) none

variable {id : CallId} {seen : Option VideoState}

/-- News that are not of video change nothing of what a listener has. -/
theorem observe_of_not_isOfVideo {e : Event} (he : e.isOfVideo = false) :
    observe id seen e = some seen := by
  cases e <;> first | rfl | cases he

/-- Replaying one more event observes it after the others. -/
theorem replay_concat (events : List Event) (e : Event) :
    replay id (events ++ [e]) = (replay id events).bind (observe id · e) := by
  unfold replay
  rw [List.foldlM_append]
  cases events.foldlM (observe id) none with
  | none => rfl
  | some seen => exact bind_pure (observe id seen e)

/-- An event that is no news of video does not count. -/
theorem replay_concat_of_not_isOfVideo (events : List Event) {e : Event}
    (he : e.isOfVideo = false) : replay id (events ++ [e]) = replay id events := by
  rw [replay_concat]
  cases replay id events with
  | none => rfl
  | some seen => exact observe_of_not_isOfVideo he

end VideoReplay

namespace Desk

variable {rule : Rule} {d d' : Desk} {id : CallId} {c : Call} {n : Nat}

/-! ## What a listener has, beside the calls -/

/-- The calls, and what a listener has for the video state of one. -/
def videoView (id : CallId) (d : Desk) : List Call × Option (Option VideoState) :=
  (d.registry.calls, VideoReplay.replay id d.journal.entries)

theorem videoView_emit (d : Desk) {e : Event} (he : e.isOfVideo = false) :
    (d.emit e).videoView id = d.videoView id :=
  congrArg (Prod.mk _) (VideoReplay.replay_concat_of_not_isOfVideo _ he)

/-- The audio side does not touch the video state of a call, and says nothing of it. -/
theorem ignoresAudio_videoView (id : CallId) : IgnoresAudio (videoView id) where
  playbackOnly {d d'} h := by
    have hseen :
        VideoReplay.replay id d'.journal.entries = VideoReplay.replay id d.journal.entries :=
      h.journal.reading_eq (VideoReplay.replay id) fun events e he =>
        VideoReplay.replay_concat_of_not_isOfVideo events (by cases e <;> first | rfl | cases he)
    unfold videoView
    rw [hseen, h.rest]
  machines _ _ _ := rfl
  told d e he := videoView_emit d (by cases e <;> first | rfl | cases he)
  asked _ _ _ := rfl
  unmuted d := view_applyMute (videoView id) rfl fun _ => videoView_emit _ rfl
  noted _ _ _ _ _ _ _ _ := rfl

/-- To ask telephony for something changes no video state. -/
theorem videoView_telephoned (d : Desk) (command : Command) :
    (d.telephoned command).videoView id = d.videoView id := by
  have hk : d.kept.videoView id = d.videoView id :=
    (audioMutations_kept d).view_eq (ignoresAudio_videoView id)
  exact hk

/-- The events on the call replay to its video state, if it is there. -/
def VideoReplayed (id : CallId) (d : Desk) : Prop :=
  ∃ seen, VideoReplay.replay id d.journal.entries = some seen ∧
    ∀ c ∈ d.registry.calls, c.id = id → seen = some c.video

theorem VideoReplayed.of_videoView (hd : d.VideoReplayed id)
    (h : d'.videoView id = d.videoView id) : d'.VideoReplayed id := by
  obtain ⟨hc, hr⟩ := Prod.mk.inj h
  unfold VideoReplayed at *
  rwa [hc, hr]

/-- What goes on by itself is no news of video. -/
theorem VideoReplayed.audioMutations (hd : d.VideoReplayed id) (h : AudioMutations d d') :
    d'.VideoReplayed id :=
  hd.of_videoView (h.view_eq (ignoresAudio_videoView id))

theorem VideoReplayed.told (hd : d.VideoReplayed id) {e : Event} (he : e.isOfVideo = false) :
    (d.emit e).VideoReplayed id := hd.of_videoView (videoView_emit d he)

/-! ## Edits -/

/-- An edit that leaves the video state of the call alone need not be said. -/
theorem VideoReplayed.amended (hd : d.VideoReplayed id) {id' : CallId} {f : Call → Call}
    (hf : ∀ c ∈ d.registry.calls, c.id = id' → id' = id → (f c).video = c.video) :
    (d.amended id' f).VideoReplayed id := by
  obtain ⟨seen, hr, hs⟩ := hd
  refine ⟨seen, hr, fun c hc hid => ?_⟩
  rcases Registry.mem_adjust.mp hc with ⟨hc, -⟩ | ⟨x, hx, hid', rfl⟩
  · exact hs c hc hid
  · rw [hs x hx hid, ← hf x hx hid' (hid'.symm.trans hid)]

/-- A change of the call's state is no news of its video. -/
theorem VideoReplayed.moved (hd : d.VideoReplayed id) (c : Call) (next : CallState) :
    (d.moved c next).VideoReplayed id := by
  have ha : (d.amended c.id ({ · with state := next })).VideoReplayed id :=
    hd.amended fun _ _ _ _ => rfl
  unfold Desk.moved
  dsimp only
  split
  · exact ha
  · exact (ha.told rfl).audioMutations (audioMutations_updated _ c c.state next)

/-- A call that is removed leaves nothing to replay for it. -/
theorem VideoReplayed.dropped (hd : d.VideoReplayed id) (c : Call) :
    (d.dropped c).VideoReplayed id := by
  have he : ({ d with registry := d.registry.erase c.id } : Desk).VideoReplayed id := by
    obtain ⟨seen, hr, hs⟩ := hd
    exact ⟨seen, hr, fun x hx hid => hs x (Registry.mem_erase.mp hx).1 hid⟩
  have ht := he.told (e := .callRemoved c.id c.ended) rfl
  unfold Desk.dropped
  dsimp only
  split
  · exact ht.audioMutations (audioMutations_ringingCallGone _ c)
  · exact ht.audioMutations (audioMutations_callMoved _ _ _ _)

/-- The listeners see the video state of a call as it is added. -/
theorem VideoReplayed.added (hd : d.VideoReplayed id) {registry : Registry}
    (h : d.registry.insert c = .ok registry) : (d.added c registry).VideoReplayed id := by
  obtain ⟨seen, hr, hs⟩ := hd
  obtain ⟨hcalls, -, hnew⟩ := Registry.insert_eq_ok h
  have hi : (({ d with registry } : Desk).emit (.callAdded c)).VideoReplayed id := by
    refine ⟨if c.id = id then some c.video else seen, ?_, fun x hx hid => ?_⟩
    · exact (VideoReplay.replay_concat _ _).trans (by rw [hr]; rfl)
    · rcases Registry.mem_place.mp (hcalls ▸ hx) with rfl | hx
      · exact if_pos hid
      · rw [if_neg fun hc => hnew x hx (hid.trans hc.symm)]
        exact hs x hx hid
  exact hi.audioMutations (audioMutations_callCreated _ c)

/-- A change of the video state is said as it is made. -/
theorem videoReplayed_said (hd : d.VideoReplayed id) (hc : c ∈ d.registry.calls)
    (new : VideoState) : ((d.amended c.id ({ · with video := new })).emit
      (.videoStateChanged c.id c.video new)).VideoReplayed id := by
  obtain ⟨seen, hr, hs⟩ := hd
  have hreplay : VideoReplay.replay id
      (d.journal.entries ++ [.videoStateChanged c.id c.video new]) =
      VideoReplay.observe id seen (.videoStateChanged c.id c.video new) := by
    rw [VideoReplay.replay_concat, hr]
    rfl
  -- The listener has the video state of this call and no other, so only its own changes count.
  by_cases hid : c.id = id
  · have hseen : seen = some c.video := hs c hc hid
    refine ⟨some new, hreplay.trans (by simp [VideoReplay.observe, hid, hseen]),
      fun x hx hxid => ?_⟩
    rcases Registry.mem_adjust.mp hx with ⟨-, hne⟩ | ⟨y, -, -, rfl⟩
    · exact absurd (hxid.trans hid.symm) hne
    · rfl
  · refine ⟨seen, hreplay.trans (if_pos hid), fun x hx hxid => ?_⟩
    rcases Registry.mem_adjust.mp hx with ⟨hx, -⟩ | ⟨y, -, hyid, rfl⟩
    · exact hs x hx hxid
    · exact absurd (hyid.symm.trans hxid) hid

/-- Whether the video state changes or is set to what it was, the listeners have it right. -/
theorem VideoReplayed.shown (hd : d.VideoReplayed id) (hc : c ∈ d.registry.calls)
    (new : VideoState) : (d.shown c.id c.video new).VideoReplayed id := by
  have hs : (if c.video = new then d.amended c.id ({ · with video := new })
      else (d.amended c.id ({ · with video := new })).emit
        (.videoStateChanged c.id c.video new)).VideoReplayed id := by
    split
    · rename_i hv
      refine hd.amended fun x hx hxc _ => ?_
      rw [Registry.eq_of_id_eq hx hc hxc]
      exact hv.symm
    · exact videoReplayed_said hd hc new
  unfold Desk.shown
  dsimp only
  split
  · exact hs
  · exact hs.audioMutations (audioMutations_routeVideo _)

/-- An answer does not say what it makes of the video state of its call. -/
theorem VideoReplayed.answered (hd : d.VideoReplayed id) (hc : c ∈ d.registry.calls)
    {media : VideoState} (hv : c.video = media ∨ c.id ≠ id) :
    (d.answered c media).VideoReplayed id := by
  have ha : (d.amended c.id ({ · with video := media, state := .active })).VideoReplayed id := by
    refine hd.amended fun x hx hxc hid => ?_
    rw [Registry.eq_of_id_eq hx hc hxc]
    exact (hv.resolve_right fun hne => hne hid).symm
  exact (ha.told rfl).audioMutations (audioMutations_callMoved _ _ _ _)

/-! ## Steps -/

/-- The listeners see what a step does to the video state of the call, unless it answers the call
with another one. -/
theorem Step.videoReplayed (h : Step rule d d') (hr : ¬rule.allowed (.redub id))
    (hd : d.VideoReplayed id) : d'.VideoReplayed id := by
  cases h with
  | telephoned command => exact hd.of_videoView (videoView_telephoned d command)
  | decided => exact hd.told rfl
  | added _ hi => exact hd.added hi
  | amended id' e => exact hd.amended fun c _ _ _ => by cases e <;> rfl
  | moved hc next => exact hd.moved _ next
  | answered hc _ media _ hv =>
    exact hd.answered hc (hv.imp_right fun ha hid => hr (hid ▸ ha))
  | dropped => exact hd.dropped _
  | parted => exact (hd.moved _ .disconnected).dropped _
  | rebeared hc bearer =>
    exact (hd.amended (f := ({ · with bearer })) fun _ _ _ _ => rfl).audioMutations
      (audioMutations_rebeared _ _ _)
  | kept => exact hd.amended fun _ _ _ _ => rfl
  | shown hc new => exact hd.shown hc new
  | keyed _ digit =>
    exact hd.of_videoView ((ignoresAudio_videoView id).playbackOnly (playbackOnly_soundTone d _))
  | released => exact hd.audioMutations (audioMutations_silenceDtmf d)
  | muted _ value =>
    exact hd.of_videoView (view_applyMute (videoView id) rfl fun _ => videoView_emit _ rfl)
  | routed => exact hd.audioMutations (AudioMutation.routed _).audioMutations
  | ringer => exact hd
  | accessory => exact hd.audioMutations (audioMutations_dispatch d _)

/-- Steps one after the other keep a listener's video state in step, if none answers the call with
another one. -/
theorem Steps.videoReplayed (h : Steps rule d n d') (hr : ¬rule.allowed (.redub id))
    (hd : d.VideoReplayed id) : d'.VideoReplayed id := by
  induction h with
  | refl => exact hd
  | step _ h ih => exact h.videoReplayed hr ih
  | issued _ ih => exact ih

theorem VideoReplayed.closed (hd : d.VideoReplayed id) : d.closed.VideoReplayed id :=
  (hd.audioMutations (audioMutations_silenced d)).of_videoView
    ((ignoresAudio_videoView id).playbackOnly (playbackOnly_stopRing _))

/-- Everything else that happens at the desk leaves the video states alone. -/
theorem Transition.videoReplayed (h : Transition rule d n d') (hr : ¬rule.allowed (.redub id))
    (hd : d.VideoReplayed id) : d'.VideoReplayed id := by
  cases h with
  | steps h => exact h.videoReplayed hr hd
  | @dialed _ d₁ _ h =>
    have hd : ({ d with dialing := true } : Desk).VideoReplayed id := hd
    have h₁ : d₁.VideoReplayed id := h.videoReplayed hr hd
    exact h₁
  | opened | stopped => exact hd
  | closed => exact hd.closed
  | rested => exact hd.audioMutations (audioMutations_rest d)
  | befallen _ c =>
    cases c with
    | elapse ms => exact hd.audioMutations (Sounded.audioMutations (.elapsed ms))
    | setFailing | failRenderAfter => exact hd

theorem Transitions.videoReplayed (h : Transitions rule d n d') (hr : ¬rule.allowed (.redub id))
    (hd : d.VideoReplayed id) : d'.VideoReplayed id := by
  induction h with
  | refl => exact hd
  | next _ h ih => exact h.videoReplayed hr ih

/-! ## Every run -/

/-- The call is answered with another video state than it has. -/
def Redubs (d : Desk) (id : CallId) (h : Happening) : Prop :=
  ∃ media, h = .operation (.answer id media) ∧ (Operation.answer id media).Succeeds d ∧
    ∃ c ∈ d.registry.calls, c.id = id ∧ c.video ≠ media

/-- A happening that does not redub the call keeps to the rule without that deed. -/
theorem heeds_of_not_redubs {h : Happening} (hr : ¬d.Redubs id h) :
    h.Heeds (.without [.redub id]) d := by
  by_cases hd : .redub id ∈ h.deeds
  · cases h with
    | operation o =>
      cases o with
      | answer id' media =>
        have hid : id = id' := by simpa [Happening.deeds, Operation.deeds] using hd
        subst hid
        refine fun hs c hc hcid => .inl ?_
        by_contra hne
        exact hr ⟨media, rfl, hs, c, hc, hcid, hne⟩
      | _ => simp [Happening.deeds, Operation.deeds] at hd
    | audio | circumstance | rest => simp [Happening.deeds] at hd
  · exact Happening.heeds_without d (by simpa using hd)

theorem videoReplayed_after {h : Happening} (hm : h.ByManager) (hr : ¬d.Redubs id h)
    (hd : d.VideoReplayed id) : (d.after h).VideoReplayed id :=
  (transitions_after hm (heeds_of_not_redubs hr) False.elim).videoReplayed
    (by simp [Rule.without]) hd

/-- **The listeners see the video state of a call**, in every run in which it is not answered with
another one than it has. Whatever else happens and whatever fails: every change of the video state
that is said starts from the one that was said last, and if the call is registered, then the one
that was said last is the one that it has. -/
theorem video_replays (h : Reach (fun d h => h.ByManager ∧ ¬d.Redubs id h) n d) :
    ∃ seen, VideoReplay.replay id d.journal.entries = some seen ∧
      ∀ c ∈ d.registry.calls, c.id = id → seen = some c.video := by
  suffices d.VideoReplayed id from this
  induction h with
  | assembled hd _ =>
    rw [assemble_eq hd]
    exact ⟨none, rfl, fun _ hc => nomatch hc⟩
  | next _ hm ih => exact videoReplayed_after hm.1 hm.2 ih

/-- One call is answered with other media than it came with, and ends. The next one is answered as
it came, and becomes a video call later, step by step. -/
theorem video_replays_upgraded :
    let run : List Happening :=
      [.operation .start, .operation (.arrive ⟨"1", 0, .ims, .voice⟩),
        .operation (.answer 1 .twoWay), .operation (.reportState 1 .disconnected none),
        .operation (.arrive ⟨"2", 0, .ims, .voice⟩), .operation (.answer 2 .voice),
        .operation (.setImsMode 2 .sendOnly), .operation (.reportVideo 2 .twoWay)]
    let d := standard.afterAll run
    Reach (fun d h => h.ByManager ∧ ¬d.Redubs 2 h) 2 d ∧
      (∃ c ∈ d.registry.calls, c.id = 2 ∧ c.video = .twoWay) ∧
      VideoReplay.replay 2 d.journal.entries = some (some .twoWay) := by
  intro run d
  have hvoice : ∀ c ∈ (standard.afterAll (run.take 5)).registry.calls, c.id = 2 →
      c.video = .voice := by decide +kernel
  have hp : Permits (fun d h => h.ByManager ∧ ¬d.Redubs 2 h) standard run := by
    refine ⟨⟨trivial, ?_⟩, ⟨trivial, ?_⟩, ⟨trivial, ?_⟩, ⟨trivial, ?_⟩, ⟨trivial, ?_⟩,
      ⟨trivial, ?_⟩, ⟨trivial, ?_⟩, ⟨trivial, ?_⟩, trivial⟩
    case refine_6 =>
      rintro ⟨media, he, -, c, hc, hid, hv⟩
      have hm : VideoState.voice = media := by simpa using he
      exact hv (hm ▸ hvoice c hc hid)
    all_goals
      rintro ⟨media, he, -⟩
      simp at he
  have hn : 0 + standard.givenAll run = 2 := by decide +kernel
  have h : Reach (fun d h => h.ByManager ∧ ¬d.Redubs 2 h) 2 d := hn ▸ (reach_standard _).all hp
  obtain ⟨c, hc, hid, hv⟩ : ∃ c ∈ d.registry.calls, c.id = 2 ∧ c.video = .twoWay := by
    decide +kernel
  obtain ⟨seen, hr, hs⟩ := video_replays h
  exact ⟨h, ⟨c, hc, hid, hv⟩, by rw [hr, hs c hc hid, hv]⟩

/-- An answer makes a video call of a voice call, and the listeners see a voice call. -/
theorem answer_unseen :
    let run : List Happening :=
      [.operation .start, .operation (.arrive ⟨"1", 0, .ims, .voice⟩),
        .operation (.answer 1 .twoWay)]
    let d := standard.afterAll run
    Reach (fun _ h => h.ByManager) 1 d ∧
      VideoReplay.replay 1 d.journal.entries = some (some .voice) ∧
      ∃ c ∈ d.registry.calls, c.id = 1 ∧ c.video = .twoWay := by
  intro run d
  have hp : Permits (fun _ h => h.ByManager) standard run := ⟨trivial, trivial, trivial, trivial⟩
  have hn : 0 + standard.givenAll run = 1 := by decide +kernel
  exact ⟨hn ▸ (reach_standard _).all hp, by decide +kernel, by decide +kernel⟩

end Desk

end Switchboard
