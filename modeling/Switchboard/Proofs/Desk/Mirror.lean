import Switchboard.Proofs.Desk.Mutations

/-!
# The platform and the listeners mirror the desk

Whenever the posture machine, the route machine or the microphone changes, the listeners hear of it
and the platform is told. `Desk.reflection` is the part of the desk, of its journal and of the log
of the outside that this is about, and it is `Faithful` if both have followed: the moves that were
announced lead from rest to where the machines stand, and the platform was brought to the same.

While the platform complies, every mutation keeps the reflection faithful (`Mutation.faithful`), and
so does whatever happens at the desk and at its audio side alone (`platform_mirrors`).
-/

namespace Switchboard

/-! ## What was announced -/

namespace Journal

/-- The moves of the posture that were announced. -/
def turns (j : Journal) : List (Posture × Posture) :=
  j.entries.filterMap fun | .postureChanged previous current => some (previous, current) | _ => none

/-- The changes of the output device that were announced. -/
def moves (j : Journal) : List (Device × Device) :=
  j.entries.filterMap fun | .deviceChanged previous current => some (previous, current) | _ => none

/-- What was announced of the microphone: that it is muted, or that it is heard. -/
def mutes (j : Journal) : List Bool :=
  j.entries.filterMap fun | .muteChanged muted => some muted | _ => none

/-- The audio scenes that were announced. -/
def scenes (j : Journal) : List AudioMode :=
  j.entries.filterMap fun | .audioModeChanged mode => some mode | _ => none

end Journal

/-! ## What was achieved -/

namespace Outside

variable {o o' : Outside} {β : Type}

/-- The audio platform never fails. -/
structure Obliging (o : Outside) : Prop where
  mode : o.Grants .setAudioMode
  mute : o.Grants .setMicrophoneMute
  route : o.Grants .setOutputRoute
  link : o.Grants .setScoLink

theorem Obliging.of_refuses (h : o.Obliging) (hr : o'.refuses = o.refuses) : o'.Obliging :=
  ⟨h.mode.of_refuses hr, h.mute.of_refuses hr, h.route.of_refuses hr, h.link.of_refuses hr⟩

theorem VibratorOnly.filterMap_eq (h : o.VibratorOnly o') {f : Demand → Option β}
    (hf : ∀ demand, demand.isVibrator = true → f demand = none) :
    o'.achieved.filterMap f = o.achieved.filterMap f := by
  obtain ⟨contacts, hc, hv⟩ := h.added
  have hnone : ((contacts.filter (·.met)).map (·.demand)).filterMap f = [] := by
    refine List.filterMap_eq_nil_iff.mpr fun demand hm => hf demand ?_
    obtain ⟨c, hcm, rfl⟩ := List.mem_map.mp hm
    exact hv c (List.mem_filter.mp hcm).1
  unfold achieved
  rw [hc, List.filter_append, List.map_append, List.filterMap_append, hnone, List.append_nil]

end Outside

/-- Moves one after the other: each begins where the one before it ended, the first at `start`, and
each ends elsewhere, the last at `final`. -/
def Leads {α : Type} (start : α) : List (α × α) → α → Prop
  | [], final => final = start
  | (previous, current) :: rest, final =>
    previous = start ∧ previous ≠ current ∧ Leads current rest final

/-- One more move, from where the last one ended. -/
theorem Leads.concat {α : Type} {start x y : α} {moves : List (α × α)} (h : Leads start moves x)
    (hne : x ≠ y) : Leads start (moves ++ [(x, y)]) y := by
  induction moves generalizing start with
  | nil => exact ⟨h, hne, rfl⟩
  | cons m rest ih => exact ⟨h.1, h.2.1, ih h.2.2⟩

theorem getLastD_append {α : Type} (l l' : List α) (a : α) :
    (l ++ l').getLastD a = l'.getLastD (l.getLastD a) := by
  cases l' with
  | nil => rw [List.append_nil, List.getLastD_nil]
  | cons x rest => simp [List.getLastD_eq_getLast?, List.getLast?_append]

/-- The devices of two routes differ if the routes do. -/
theorem Route.device_injective {a b : Route} (h : a.device = b.device) : a = b := by
  cases a <;> cases b <;> first | rfl | cases h

/-! ## The reflection -/

/-- The machines and the microphone, what was announced of them, and what the platform was brought
to. -/
structure Reflection where
  posture : Posture.Machine
  route : Route.Machine
  muted : Bool
  turns : List (Posture × Posture)
  moves : List (Device × Device)
  mutes : List Bool
  scenes : List AudioMode
  modes : List AudioMode
  routes : List Device
  links : List ScoLink
  micMuted : Bool

/-- The listeners and the platform have followed. -/
structure Reflection.Faithful (r : Reflection) : Prop where
  /-- Nothing that the posture machine asked for is left to be done. -/
  settled : r.posture.pending = []
  turns : Leads .inactive r.turns r.posture.current
  moves : Leads .disabled r.moves r.route.current.device
  mutes : Leads false (r.mutes.map fun muted => (!muted, muted)) r.muted
  micMuted : r.micMuted = r.muted
  routes : r.routes = r.moves.map (·.2)
  modes : r.modes = r.scenes
  mode : r.modes.getLastD .idle = r.posture.mode
  link : r.links.getLastD .closed = r.route.link

namespace Reflection

/-- The reflection once the listeners were told. -/
def told (r : Reflection) : Event → Reflection
  | .postureChanged previous current => { r with turns := r.turns ++ [(previous, current)] }
  | .deviceChanged previous current => { r with moves := r.moves ++ [(previous, current)] }
  | .muteChanged muted => { r with mutes := r.mutes ++ [muted] }
  | .audioModeChanged mode => { r with scenes := r.scenes ++ [mode] }
  | _ => r

/-- The reflection once a demand was met. -/
def brought (r : Reflection) : Demand → Reflection
  | .audioMode mode => { r with modes := r.modes ++ [mode] }
  | .route device => { r with routes := r.routes ++ [device] }
  | .link link => { r with links := r.links ++ [link] }
  | .micMute muted => { r with micMuted := muted }
  | _ => r

end Reflection

namespace Desk

/-- The part of the desk that listeners and platform follow, and how far they have. -/
def reflection (d : Desk) : Reflection where
  posture := d.posture
  route := d.route
  muted := d.muted
  turns := d.journal.turns
  moves := d.journal.moves
  mutes := d.journal.mutes
  scenes := d.journal.scenes
  modes := d.outside.modes
  routes := d.outside.routes
  links := d.outside.links
  micMuted := d.outside.micMuted

variable {allowed : Deed → Prop} {d d' : Desk} {n : Nat}

theorem reflection_emit (d : Desk) (e : Event) :
    (d.emit e).reflection = d.reflection.told e := by
  unfold reflection emit Journal.emit Journal.turns Journal.moves Journal.mutes Journal.scenes
  dsimp only
  rw [List.filterMap_append, List.filterMap_append, List.filterMap_append, List.filterMap_append]
  cases e <;> simp only [List.filterMap_cons, List.filterMap_nil, List.append_nil] <;> rfl

theorem reflection_ask (d : Desk) (demand : Demand) :
    (d.ask demand).2.reflection =
      if (d.ask demand).1 then d.reflection.brought demand else d.reflection := by
  have ha : (d.ask demand).2.outside.achieved =
      d.outside.achieved ++ if (d.ask demand).1 then [demand] else [] :=
    d.outside.achieved_ask demand
  have hr : (d.ask demand).2.reflection =
      { d.reflection with
        modes := (d.ask demand).2.outside.modes
        routes := (d.ask demand).2.outside.routes
        links := (d.ask demand).2.outside.links
        micMuted := (d.ask demand).2.outside.micMuted } := rfl
  rw [hr]
  unfold Outside.modes Outside.routes Outside.links Outside.micMuted
  rw [ha]
  cases (d.ask demand).1 with
  | false =>
    rw [if_neg (by decide), if_neg (by decide), List.append_nil]
    rfl
  | true =>
    rw [if_pos rfl, if_pos rfl]
    cases demand <;> simp [Reflection.brought, reflection, Outside.modes, Outside.routes,
      Outside.links, Outside.micMuted]

/-- A demand on a willing service is met. -/
theorem reflection_ask_of_grants (demand : Demand) (h : d.outside.Grants demand.service) :
    (d.ask demand).2.reflection = d.reflection.brought demand :=
  (reflection_ask d demand).trans (if_pos h.met)

theorem reflection_playbackOnly (h : d.PlaybackOnly d') : d'.reflection = d.reflection := by
  have hj := h.journal
  have ho := h.outside
  rw [h.rest]
  unfold reflection Journal.turns Journal.moves Journal.mutes Journal.scenes Outside.modes
    Outside.routes Outside.links Outside.micMuted
  dsimp only
  rw [hj.filterMap_eq, hj.filterMap_eq, hj.filterMap_eq, hj.filterMap_eq, ho.filterMap_eq,
    ho.filterMap_eq, ho.filterMap_eq, ho.filterMap_eq]
  all_goals
    intro x hx
    cases x <;> first | rfl | cases hx

/-! ## The mutations -/

/-- What the posture machine asks for is said, and the platform brought to it, if it is a scene. -/
theorem reflection_carryOut (h : d.outside.Grants .setAudioMode) (calls : List Call) (e : Effect) :
    (carryOut calls d e).reflection =
      { d.reflection with
        scenes := d.reflection.scenes ++ e.mode?.toList
        modes := d.reflection.modes ++ e.mode?.toList } := by
  cases he : e.mode? with
  | none =>
    rw [reflection_playbackOnly (playbackOnly_carryOut calls d he), Option.toList_none,
      List.append_nil,
      List.append_nil]
  | some mode =>
    cases e with
    | modeChanged mode =>
      cases he
      show ((d.ask (.audioMode mode)).2.emit (.audioModeChanged mode)).reflection = _
      rw [reflection_emit, reflection_ask_of_grants _ h]
      rfl
    | _ => cases he

theorem reflection_foldl_carryOut (h : d.outside.Grants .setAudioMode) (calls : List Call)
    (effects : List Effect) :
    (effects.foldl (carryOut calls) d).reflection =
      { d.reflection with
        scenes := d.reflection.scenes ++ effects.filterMap Effect.mode?
        modes := d.reflection.modes ++ effects.filterMap Effect.mode? } := by
  induction effects generalizing d with
  | nil => rw [List.filterMap_nil, List.append_nil, List.append_nil]; rfl
  | cons e rest ih =>
    have hg : (carryOut calls d e).outside.Grants .setAudioMode :=
      h.of_refuses (ignoresMachines_refuses.carryOut calls d e)
    have he : (e :: rest).filterMap Effect.mode? =
        e.mode?.toList ++ rest.filterMap Effect.mode? := by
      cases hm : e.mode? with
      | none => rw [List.filterMap_cons_none hm]; rfl
      | some mode => rw [List.filterMap_cons_some hm]; rfl
    rw [List.foldl_cons, ih hg, reflection_carryOut h, he]
    simp only [List.append_assoc]

theorem reflection_turned (ho : d.outside.Obliging) (calls : List Call)
    (posture : Posture.Machine) :
    (d.turned calls posture).reflection =
      { d.reflection with
        posture := posture.drain.2
        turns := d.reflection.turns ++
          if posture.current = d.posture.current then [] else [(d.posture.current, posture.current)]
        scenes := d.reflection.scenes ++ posture.pending.filterMap Effect.mode?
        modes := d.reflection.modes ++ posture.pending.filterMap Effect.mode? } := by
  have hg : (if posture.current = d.posture.current then { d with posture := posture.drain.2 }
      else ({ d with posture := posture.drain.2 } : Desk).emit
        (.postureChanged d.posture.current posture.current)).outside.Grants .setAudioMode := by
    split
    · exact ho.mode
    · exact ho.mode
  unfold turned
  dsimp only
  rw [reflection_foldl_carryOut hg]
  split
  · rw [List.append_nil]
    rfl
  · rw [reflection_emit]
    rfl

theorem reflection_moveRoute (ho : d.outside.Obliging) (next : Route.Machine) :
    (d.moveRoute next).reflection =
      { d.reflection with
        route := next
        moves := d.reflection.moves ++
          if next.current = d.route.current then []
          else [(d.route.current.device, next.current.device)]
        routes := d.reflection.routes ++
          if next.current = d.route.current then [] else [next.current.device]
        links := d.reflection.links ++ if next.link = d.route.link then [] else [next.link] } := by
  have hl {moved : Desk} (hr : moved.outside.refuses = d.outside.refuses) :
      (if next.link = d.route.link then moved else (moved.ask (.link next.link)).2).reflection =
        { moved.reflection with
          links := moved.reflection.links ++
            if next.link = d.route.link then [] else [next.link] } := by
    split
    · rw [List.append_nil]
    · exact reflection_ask_of_grants _ (ho.of_refuses hr).link
  have ha : (({ d with route := next } : Desk).ask (.route next.current.device)).2.reflection =
      { d.reflection with
        route := next, routes := d.reflection.routes ++ [next.current.device] } :=
    reflection_ask_of_grants (d := { d with route := next }) _ ho.route
  unfold moveRoute
  dsimp only
  by_cases hc : next.current = d.route.current
  · rw [if_pos hc, if_pos hc, if_pos hc, hl, List.append_nil, List.append_nil] <;> rfl
  · rw [if_neg hc, if_neg hc, if_neg hc, hl, reflection_emit, ha] <;> rfl

/-- The posture machine moves: the move is announced, and its last scene is the one the machine is
in. -/
theorem faithful_turned (ho : d.outside.Obliging) (hd : d.reflection.Faithful) (calls : List Call)
    {posture : Posture.Machine} (h : d.posture.Moves posture) :
    (d.turned calls posture).reflection.Faithful := by
  obtain ⟨effects, hp, hm⟩ := h.pending_eq
  have hpending : posture.pending = effects := by
    rw [hp, show d.posture.pending = [] from hd.settled, List.nil_append]
  rw [reflection_turned ho]
  -- The route and the microphone are not touched by a turn of the posture.
  refine { hd with settled := rfl, turns := ?_, modes := ?_, mode := ?_ }
  · show Leads _ (d.reflection.turns ++ _) posture.current
    split
    · rename_i hc
      rw [List.append_nil, hc]
      exact hd.turns
    · rename_i hc
      exact hd.turns.concat (Ne.symm hc)
  · show d.reflection.modes ++ _ = d.reflection.scenes ++ _
    rw [hd.modes]
  · show (d.reflection.modes ++ _).getLastD _ = posture.mode
    rw [getLastD_append, hd.mode, hpending]
    exact hm

/-- The route machine moves: the platform is routed to the device that is announced, and brought to
the link of the machine. -/
theorem faithful_moveRoute (ho : d.outside.Obliging) (hd : d.reflection.Faithful)
    (next : Route.Machine) : (d.moveRoute next).reflection.Faithful := by
  rw [reflection_moveRoute ho]
  refine { hd with moves := ?_, routes := ?_, link := ?_ }
  · show Leads _ (d.reflection.moves ++ _) next.current.device
    split
    · rename_i hc
      rw [List.append_nil, hc]
      exact hd.moves
    · rename_i hc
      exact hd.moves.concat fun he => hc (Route.device_injective he).symm
  · show d.reflection.routes ++ _ = (d.reflection.moves ++ _).map (·.2)
    rw [List.map_append, hd.routes]
    split <;> rfl
  · show (d.reflection.links ++ _).getLastD _ = next.link
    rw [getLastD_append, hd.link]
    split
    · rename_i hl
      exact hl.symm
    · rfl

/-- The microphone is muted or heard: the platform is brought to the same, and this is announced. -/
theorem faithful_applyMute (ho : d.outside.Obliging) (hd : d.reflection.Faithful) (value : Bool) :
    (d.applyMute value).reflection.Faithful := by
  unfold applyMute
  split
  · exact hd
  rename_i hne
  have hmet : (d.ask (.micMute value)).1 = true := ho.mute.met
  have ha : ({ (d.ask (.micMute value)).2 with muted := value } : Desk).reflection =
      { d.reflection with micMuted := value, muted := value } :=
    congrArg (fun r : Reflection => { r with muted := value })
      (reflection_ask_of_grants (.micMute value) ho.mute)
  dsimp only
  rw [if_pos hmet, reflection_emit, ha]
  refine { hd with mutes := ?_, micMuted := rfl }
  show Leads false ((d.reflection.mutes ++ [value]).map _) value
  -- A change of two values leads from the one to the other.
  have hv : (!value) = d.muted := by cases value <;> cases hm : d.muted <;> simp_all
  rw [List.map_append, List.map_singleton, hv]
  exact hd.mutes.concat hne

/-- While the platform complies, every mutation keeps the reflection faithful. -/
theorem Mutation.faithful (h : Mutation allowed d d') (ho : d.outside.Obliging)
    (hd : d.reflection.Faithful) : d'.reflection.Faithful := by
  cases h with
  | sounded h =>
    rw [reflection_playbackOnly h.playbackOnly]
    exact hd
  | turned calls h => exact faithful_turned ho hd calls h
  | routed next => exact faithful_moveRoute ho hd next
  | muted => exact faithful_applyMute ho hd _
  | asked command =>
    rw [reflection_ask]
    split <;> exact hd
  | @told e he =>
    rw [reflection_emit]
    cases e <;> first | exact hd | cases he
  | ringer | setFailAfter | noted | amended | issued => exact hd
  | moved | added | dropped =>
    rw [reflection_emit]
    exact hd

theorem Mutations.faithful (h : Mutations allowed d d') (ho : d.outside.Obliging)
    (hd : d.reflection.Faithful) : d'.reflection.Faithful := by
  induction h with
  | refl => exact hd
  | tail h' h ih => exact h.faithful (ho.of_refuses (Mutations.refuses_eq h')) ih

/-! ## Every run -/

/-- Only what makes a service refuse is no mutation, and it is not reflected. -/
theorem faithful_after (h : Happening) (ho : d.outside.Obliging) (hd : d.reflection.Faithful) :
    (d.after h).reflection.Faithful := by
  rcases mutations_or_setFailing [] (by simp) d h (by simp) with hb | ⟨_, _, rfl⟩
  · exact hb.faithful ho hd
  · exact hd

/-- **The platform and the listeners mirror the desk.** In every run at the desk and at its audio
side in which the audio platform never fails, the moves of the posture that were announced lead from
rest to where the desk is, and so do those of the device; what was announced of the microphone is
that it is muted and heard by turns. The platform was routed to just the devices that were announced
and set to just the scenes that were, and it is left with the scene, the link and the microphone
that the desk has. -/
theorem platform_mirrors (h : Reach (fun d _ => d.outside.Obliging) n d) :
    Leads .inactive d.journal.turns d.posture.current ∧
      Leads .disabled d.journal.moves d.route.current.device ∧
      Leads false (d.journal.mutes.map fun muted => (!muted, muted)) d.muted ∧
      d.outside.micMuted = d.muted ∧
      d.outside.routes = d.journal.moves.map (·.2) ∧
      d.outside.modes = d.journal.scenes ∧
      d.outside.modes.getLastD .idle = d.posture.mode ∧
      d.outside.links.getLastD .closed = d.route.link := by
  suffices hf : d.reflection.Faithful from
    ⟨hf.turns, hf.moves, hf.mutes, hf.micMuted, hf.routes, hf.modes, hf.mode, hf.link⟩
  induction h with
  | @assembled _ _ outside _ hd hl =>
    obtain ⟨refuses, failures, log, delay⟩ := outside
    obtain rfl : log = [] := hl
    rw [assemble_eq hd]
    constructor <;> rfl
  | next _ ho ih => exact faithful_after _ ho ih

/-- A muted call with a headset, while the audio side is told of a Bluetooth device and of silence,
at once and by its queue. -/
theorem platform_mirrors_injected :
    let run : List Happening :=
      [.operation .start, .operation (.reportHeadset true),
        .operation (.dial ⟨"1", 0, .cs, .voice, false⟩), .operation (.setMute true),
        .audio (.dispatch .bluetoothConnected),
        .audio (.submit [.audioDeactivated, .bluetoothDisconnected, .audioActivated]), .rest]
    let d := standard.afterAll run
    Reach (fun d _ => d.outside.Obliging) 1 d ∧
      d.outside.routes = [.wiredHeadset, .bluetoothSco, .disabled, .wiredHeadset] ∧
      d.outside.links = [.voice, .closed] ∧ d.outside.micMuted = true ∧
      d.outside.routes = d.journal.moves.map (·.2) ∧ d.outside.micMuted = d.muted := by
  intro run d
  have ho {d : Desk} (hr : d.outside.refuses = fun _ _ => false) : d.outside.Obliging :=
    ⟨fun _ => congrFun (congrFun hr _) _, fun _ => congrFun (congrFun hr _) _,
      fun _ => congrFun (congrFun hr _) _, fun _ => congrFun (congrFun hr _) _⟩
  have hp : Permits (fun d _ => d.outside.Obliging) standard run :=
    ⟨ho rfl, ho rfl, ho rfl, ho rfl, ho rfl, ho rfl, ho rfl, trivial⟩
  have h : Reach (fun d _ => d.outside.Obliging) 1 d := (reach_standard _).all hp
  have hm := platform_mirrors h
  exact ⟨h, by decide, by decide, by decide, hm.2.2.2.2.1, hm.2.2.2.1⟩

end Desk

end Switchboard
