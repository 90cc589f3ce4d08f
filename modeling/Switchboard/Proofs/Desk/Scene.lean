import Switchboard.Proofs.Desk.Mirror
import Switchboard.Proofs.Desk.PostureFollows

/-!
# The ring scene

On hold the audio scene stays as it was, so where calls are held the scene hangs on how the posture
came there. `Desk.staging` is the part of the desk that this is about: the posture machine, the
moves of it that were announced, and the scenes that the platform was asked for.

The scene is the one for ringing just while the posture is `incoming`, and where it has gone from
`incoming` to `holding` (`Staging.Coherent`). In the first case a call rings. In the second none
need ring any more, and the platform is left with the scene (`ring_scene`, `ring_scene_left`).
-/

namespace Switchboard

/-- The scene that is asked for, if one is. -/
def Demand.scene? : Demand → Option AudioMode
  | audioMode mode => some mode
  | _ => none

/-- The move of the posture that is announced, if one is. -/
def Event.turn? : Event → Option (Posture × Posture)
  | postureChanged previous current => some (previous, current)
  | _ => none

namespace Outside

/-- The scenes that the platform was asked for, whether it complied or not. -/
def scenes (o : Outside) : List AudioMode := o.log.filterMap (·.demand.scene?)

/-- Every demand on a service was met. -/
def Complied (o : Outside) (service : Service) : Prop :=
  ∀ c ∈ o.log, c.demand.service = service → c.met = true

theorem scenes_ask (o : Outside) (demand : Demand) :
    (o.ask demand).2.scenes = o.scenes ++ demand.scene?.toList := by
  show (o.log ++ [_]).filterMap _ = _
  rw [List.filterMap_append]
  cases h : demand.scene? <;> simp [scenes, h]

/-- A platform that complied was set to just the scenes that it was asked for. -/
theorem modes_eq_scenes {o : Outside} (h : o.Complied .setAudioMode) : o.modes = o.scenes := by
  unfold modes achieved scenes
  rw [List.filterMap_map, List.filterMap_filter]
  refine List.filterMap_congr fun c hc => ?_
  have hmet : c.demand.service = .setAudioMode → c.met = true := h c hc
  obtain ⟨demand, met⟩ := c
  cases demand with
  | audioMode mode => simp [Demand.scene?, show met = true from hmet rfl]
  | _ => cases met <;> rfl

end Outside

/-! ## The staging -/

/-- The posture machine, the moves of it that were announced, and the scenes that the platform was
asked for. -/
structure Staging where
  posture : Posture.Machine
  turns : List (Posture × Posture)
  scenes : List AudioMode

/-- The posture came from ringing calls straight to held ones. -/
def Staging.Abandoned (s : Staging) : Prop :=
  s.posture.current = .holding ∧ s.turns.getLast? = some (.incoming, .holding)

structure Staging.Coherent (s : Staging) : Prop where
  /-- Nothing that the posture machine asked for is left to be done. -/
  settled : s.posture.pending = []
  /-- The scene that was asked for last is the one of the machine. -/
  scene : s.scenes.getLastD .idle = s.posture.mode
  rings : s.posture.mode = .ringtone ↔ s.posture.current = .incoming ∨ s.Abandoned

namespace Desk

def staging (d : Desk) : Staging := ⟨d.posture, d.journal.turns, d.outside.scenes⟩

variable {allowed : Deed → Prop} {d d' : Desk} {n : Nat}

theorem staging_emit (d : Desk) (e : Event) :
    (d.emit e).staging = { d.staging with turns := d.staging.turns ++ e.turn?.toList } := by
  unfold staging emit Journal.emit Journal.turns
  dsimp only
  rw [List.filterMap_append]
  cases e <;> rfl

theorem staging_ask (d : Desk) (demand : Demand) :
    (d.ask demand).2.staging =
      { d.staging with scenes := d.staging.scenes ++ demand.scene?.toList } :=
  congrArg (fun scenes => { d.staging with scenes }) (d.outside.scenes_ask demand)

/-- Other news are not about the posture. -/
theorem staging_emit_of (d : Desk) {e : Event} (he : e.turn? = none) :
    (d.emit e).staging = d.staging := by
  rw [staging_emit, he, Option.toList_none, List.append_nil]

/-- Other demands are not about the scene. -/
theorem staging_ask_of (d : Desk) {demand : Demand} (hd : demand.scene? = none) :
    (d.ask demand).2.staging = d.staging := by
  rw [staging_ask, hd, Option.toList_none, List.append_nil]

/-- The players ask for no scene and say nothing of the posture. -/
theorem staging_playbackOnly (h : d.PlaybackOnly d') : d'.staging = d.staging := by
  obtain ⟨contacts, hlog, hv⟩ := h.outside.added
  have hscenes : d'.outside.scenes = d.outside.scenes := by
    have hnone : contacts.filterMap (·.demand.scene?) = [] :=
      List.filterMap_eq_nil_iff.mpr fun c hc => by
        have hc := hv c hc
        cases hd : c.demand <;> rw [hd] at hc <;> first | rfl | cases hc
    rw [Outside.scenes, hlog, List.filterMap_append, hnone, List.append_nil]
    rfl
  have hturns : d'.journal.turns = d.journal.turns :=
    h.journal.filterMap_eq fun e he => by cases e <;> first | rfl | cases he
  have hposture : d'.posture = d.posture := by rw [h.rest]
  rw [staging, hposture, hturns, hscenes]
  rfl

theorem staging_carryOut (calls : List Call) (d : Desk) (e : Effect) :
    (carryOut calls d e).staging =
      { d.staging with scenes := d.staging.scenes ++ e.mode?.toList } := by
  cases he : e.mode? with
  | none =>
    rw [staging_playbackOnly (playbackOnly_carryOut calls d he), Option.toList_none,
      List.append_nil]
  | some mode =>
    cases e with
    | modeChanged mode =>
      cases he
      exact (staging_emit_of (d.ask (.audioMode mode)).2 rfl).trans (staging_ask d _)
    | _ => cases he

theorem staging_turned (d : Desk) (calls : List Call) (posture : Posture.Machine) :
    (d.turned calls posture).staging =
      { posture := posture.drain.2
        turns := d.staging.turns ++
          if posture.current = d.posture.current then [] else [(d.posture.current, posture.current)]
        scenes := d.staging.scenes ++ posture.pending.filterMap Effect.mode? } := by
  have hfold (d : Desk) (effects : List Effect) : (effects.foldl (carryOut calls) d).staging =
      { d.staging with scenes := d.staging.scenes ++ effects.filterMap Effect.mode? } := by
    induction effects generalizing d with
    | nil => rw [List.filterMap_nil, List.append_nil]; rfl
    | cons e rest ih =>
      rw [List.foldl_cons, ih, staging_carryOut]
      cases he : e.mode? with
      | none => rw [List.filterMap_cons_none he, Option.toList_none, List.append_nil]
      | some mode => rw [List.filterMap_cons_some he, List.append_assoc]; rfl
  unfold turned
  dsimp only
  rw [hfold]
  split
  · rw [List.append_nil]
    rfl
  · rw [staging_emit]
    rfl

theorem staging_moveRoute (d : Desk) (next : Route.Machine) :
    (d.moveRoute next).staging = d.staging := by
  have hc : (if next.current = d.route.current then { d with route := next }
      else (({ d with route := next }.ask (.route next.current.device)).2).emit
        (.deviceChanged d.route.current.device next.current.device)).staging = d.staging := by
    split
    · rfl
    · exact (staging_emit_of _ rfl).trans (staging_ask_of _ rfl)
  unfold moveRoute
  dsimp only
  split
  · exact hc
  · exact (staging_ask_of _ rfl).trans hc

theorem staging_applyMute (d : Desk) (muted : Bool) : (d.applyMute muted).staging = d.staging :=
  view_applyMute staging (staging_ask_of d rfl) fun _ => staging_emit_of _ rfl

/-! ## The mutations -/

/-- Of the moves of the posture machine, those into `incoming` and from there to `holding` are the
ones after which it is in the scene for ringing. -/
theorem coherent_turned (hd : d.staging.Coherent) (calls : List Call) {posture : Posture.Machine}
    (h : d.posture.Moves posture) : (d.turned calls posture).staging.Coherent := by
  obtain ⟨effects, hp, hm⟩ := h.pending_eq
  have hpending : posture.pending = effects := by
    rw [hp, show d.posture.pending = [] from hd.settled, List.nil_append]
  rw [staging_turned]
  refine ⟨rfl, ?_, ?_⟩
  · show (d.staging.scenes ++ _).getLastD _ = posture.mode
    rw [getLastD_append, hd.scene, hpending]
    exact hm
  · show posture.mode = .ringtone ↔ posture.current = .incoming ∨ posture.current = .holding ∧
      (d.staging.turns ++ _).getLast? = some (.incoming, .holding)
    -- The posture stays with its scene, or it turns, and then its new value asks for one or keeps
    -- the old.
    rcases h.still_or_brought with ⟨hc, hs⟩ | ⟨hc, hs⟩
    · rw [if_pos hc, List.append_nil, hc, hs]
      exact hd.rings
    · rw [if_neg hc, List.getLast?_concat, hs]
      have hrings : d.posture.mode = .ringtone ↔ d.posture.current = .incoming ∨ _ := hd.rings
      cases hn : posture.current with
      | holding =>
        -- A posture that turns to `holding` was not `holding` before.
        have habandoned : ¬d.staging.Abandoned := fun ha => hc (hn.trans ha.1.symm)
        simpa [Posture.mode?, habandoned] using hrings
      | _ => simp [Posture.mode?]

theorem Mutation.coherent (h : Mutation allowed d d') (hd : d.staging.Coherent) :
    d'.staging.Coherent := by
  cases h with
  | sounded h =>
    rw [staging_playbackOnly h.playbackOnly]
    exact hd
  | turned calls h => exact coherent_turned hd calls h
  | routed next =>
    rw [staging_moveRoute]
    exact hd
  | muted =>
    rw [staging_applyMute]
    exact hd
  | asked command =>
    rw [staging_ask_of _ rfl]
    exact hd
  | @told e he =>
    rw [staging_emit_of _ (by cases e <;> first | rfl | cases he)]
    exact hd
  | ringer | setFailAfter | noted | amended | issued => exact hd
  | moved | added | dropped =>
    rw [staging_emit_of _ rfl]
    exact hd

theorem Mutations.coherent (h : Mutations allowed d d') (hd : d.staging.Coherent) :
    d'.staging.Coherent := by
  induction h with
  | refl => exact hd
  | tail _ h ih => exact h.coherent ih

/-- Whatever happens at a desk, its scene stays coherent. -/
theorem Reach.coherent {may : Desk → Happening → Prop} (h : Reach may n d) :
    d.staging.Coherent := by
  induction h with
  | @assembled _ _ outside _ hd hl =>
    obtain ⟨refuses, failures, log, delay⟩ := outside
    obtain rfl : log = [] := hl
    rw [assemble_eq hd]
    exact ⟨rfl, rfl, by simp [staging, idle, Posture.Machine.rest, Staging.Abandoned]⟩
  | @next _ d h _ _ ih =>
    rcases mutations_or_setFailing [] (by simp) d h (by simp) with hb | ⟨_, _, rfl⟩
    · exact hb.coherent ih
    · exact ih

/-! ## Every run -/

/-- While the posture is `incoming`, a call rings. -/
theorem Reach.rings (h : Reach (fun _ h => h.ByManager) n d) (hp : d.posture.current = .incoming) :
    hasRinging d.registry.calls = true := by
  have hd : d.InLine := invariant_inLine.reach (fun _ _ h => h) (fun _ _ _ _ _ => False.elim) h
  have ht := Posture.Follows.tenable hd
  rw [hp] at ht
  obtain ⟨c, hc, hr⟩ := List.countP_pos_iff.mp ht.1
  exact List.any_eq_true.mpr ⟨c, hc, hr⟩

/-- **When the ring scene is on.** In every run the platform was asked last for the scene for
ringing just if the posture is `incoming`, and then a call rings, or if the last move of the posture
was from `incoming` to `holding`. A platform that complied is in the scene that it was asked for
last. -/
theorem ring_scene (h : Reach (fun _ h => h.ByManager) n d) :
    (d.outside.scenes.getLastD .idle = .ringtone ↔ d.posture.current = .incoming ∨
      (d.posture.current = .holding ∧ d.journal.turns.getLast? = some (.incoming, .holding))) ∧
    (d.posture.current = .incoming → hasRinging d.registry.calls = true) ∧
    (d.outside.Complied .setAudioMode → d.outside.modes = d.outside.scenes) := by
  refine ⟨?_, h.rings, Outside.modes_eq_scenes⟩
  have hc := h.coherent
  rw [show d.outside.scenes.getLastD .idle = d.posture.mode from hc.scene]
  exact hc.rings

/-- A second call rings while the first is active, and then alone. -/
theorem ring_scene_waiting :
    let run : List Happening :=
      [.operation .start, .operation (.dial ⟨"1", 0, .cs, .voice, false⟩),
        .operation (.reportState 1 .active none), .operation (.arrive ⟨"2", 0, .cs, .voice⟩),
        .operation (.hangUp 1)]
    let d := standard.afterAll run
    Reach (fun _ h => h.ByManager) 2 d ∧ d.outside.modes = [.inCall, .ringtone] ∧
      hasRinging d.registry.calls = true := by
  intro run d
  have hp : Permits (fun _ h => h.ByManager) standard run :=
    ⟨trivial, trivial, trivial, trivial, trivial, trivial⟩
  have h : Reach (fun _ h => h.ByManager) 2 d := (reach_standard _).all hp
  exact ⟨h, by decide +kernel, (ring_scene h).2.1 (by decide +kernel)⟩

/-- A held call is all that is left once a call that rang beside it is declined: nothing rings, and
the platform is left in the scene for ringing. -/
theorem ring_scene_left :
    let run : List Happening :=
      [.operation .start, .operation (.dial ⟨"1", 0, .cs, .voice, false⟩),
        .operation (.reportState 1 .active none), .operation (.hold 1),
        .operation (.arrive ⟨"2", 0, .cs, .voice⟩), .operation (.hangUp 2)]
    let d := standard.afterAll run
    Reach (fun _ h => h.ByManager) 2 d ∧ d.outside.modes.getLastD .idle = .ringtone ∧
      hasRinging d.registry.calls = false ∧ d.registry.calls.map (·.state) = [.holding] := by
  intro run d
  have hp : Permits (fun _ h => h.ByManager) standard run :=
    ⟨trivial, trivial, trivial, trivial, trivial, trivial, trivial⟩
  exact ⟨(reach_standard _).all hp, by decide +kernel, by decide +kernel, by decide +kernel⟩

end Desk

end Switchboard
