import Mathlib.Data.List.Chain
import Switchboard.Posture.Machine

/-!
# What the posture machine asks for

The posture machine queues what it asks for, and the queue is taken out now and then. Read from the
beginning, what was taken out and what is still queued make sense to one who carries it out: nothing
is begun that goes on, nothing is ended that was not begun, and a scene is set only if it is another
one than before. `Ambience.after?` refuses an effect that does not make sense, so effects that can
be replayed do (`Moves.replays`); what was asked for of ringing, of the ringback tone and of the
scene is read off a replay by one lemma (`chain_of_replay`).

Hence however the machine is driven, and whatever calls it is shown: ringing and the ringback tone
alternate between begun and ended, each is going on just in its posture, never both, and the scene
is the one of the last posture that brings one (`effects_paired`).
-/

namespace Switchboard

namespace Effect

/-- It is to begin to ring, or to end. -/
def ringing? : Effect → Option Bool
  | startRinging => some true
  | stopRinging => some false
  | _ => none

/-- The ringback tone is to begin, or to end. -/
def ringback? : Effect → Option Bool
  | playRingback => some true
  | stopRingback => some false
  | _ => none

/-- The scene that an effect sets. -/
def mode? : Effect → Option AudioMode
  | modeChanged mode => some mode
  | _ => none

end Effect

/-! ## Replaying effects -/

/-- What effects have brought about: whether it is to ring, whether the ringback tone is to play,
and the scene. -/
structure Ambience where
  ringing : Bool
  ringback : Bool
  mode : AudioMode

namespace Ambience

/-- Nothing was asked for. -/
def still : Ambience := ⟨false, false, .idle⟩

/-- The ambience after an effect, if the effect makes sense. -/
def after? (a : Ambience) : Effect → Option Ambience
  | .startRinging => if a.ringing || a.ringback then none else some { a with ringing := true }
  | .stopRinging => if a.ringing then some { a with ringing := false } else none
  | .playRingback => if a.ringing || a.ringback then none else some { a with ringback := true }
  | .stopRingback => if a.ringback then some { a with ringback := false } else none
  | .modeChanged mode => if mode = a.mode then none else some { a with mode }
  | .playWaitingTone | .muteNetworkRing => some a

/-- The ambience after effects one after the other, if each makes sense. -/
def replay (effects : List Effect) (a : Ambience) : Option Ambience := effects.foldlM after? a

variable {a a' : Ambience} {e : Effect} {effects : List Effect}

@[simp] theorem replay_append (effects effects' : List Effect) (a : Ambience) :
    replay (effects ++ effects') a = (replay effects a).bind (replay effects') :=
  List.foldlM_append

theorem replay_cons : replay (e :: effects) a = (a.after? e).bind (replay effects) :=
  List.foldlM_cons

/-- What an effect says of ringing, of the ringback tone and of the scene is what it changes, and it
does not have it ring while the ringback tone plays. -/
theorem reads_of_after? (h : a.after? e = some a') :
    (e.ringing? = if a'.ringing = a.ringing then none else some a'.ringing) ∧
      (e.ringback? = if a'.ringback = a.ringback then none else some a'.ringback) ∧
      (e.mode? = if a'.mode = a.mode then none else some a'.mode) ∧
      (¬(a.ringing = true ∧ a.ringback = true) → ¬(a'.ringing = true ∧ a'.ringback = true)) := by
  cases e with
  | playWaitingTone | muteNetworkRing =>
    obtain rfl := Option.some.inj h
    simp [Effect.ringing?, Effect.ringback?, Effect.mode?]
  | stopRinging | stopRingback =>
    obtain ⟨hi, he⟩ := Option.ite_none_right_eq_some.mp h
    obtain rfl := Option.some.inj he
    simp [Effect.ringing?, Effect.ringback?, Effect.mode?, hi]
  | startRinging | playRingback =>
    obtain ⟨hi, he⟩ := Option.ite_none_left_eq_some.mp h
    obtain rfl := Option.some.inj he
    obtain ⟨hr, hb⟩ : a.ringing = false ∧ a.ringback = false := by simpa using hi
    simp [Effect.ringing?, Effect.ringback?, Effect.mode?, hr, hb]
  | modeChanged mode =>
    obtain ⟨hi, he⟩ := Option.ite_none_left_eq_some.mp h
    obtain rfl := Option.some.inj he
    simp [Effect.ringing?, Effect.ringback?, Effect.mode?, hi]

/-- What was asked for of one thing in the ambience is another value every time, the last one the
value that it has in the end. -/
theorem chain_of_replay {β : Type} [DecidableEq β] (view : Ambience → β) {part : Effect → Option β}
    (hp : ∀ {a e a'}, after? a e = some a' →
      part e = if view a' = view a then none else some (view a'))
    (h : replay effects a = some a') :
    (view a :: effects.filterMap part).IsChain (· ≠ ·) ∧
      (effects.filterMap part).getLastD (view a) = view a' := by
  induction effects generalizing a with
  | nil =>
    cases h
    exact ⟨List.isChain_singleton _, rfl⟩
  | cons e rest ih =>
    rw [replay_cons] at h
    obtain ⟨b, hb, hrest⟩ := Option.bind_eq_some_iff.mp h
    obtain ⟨hchain, hlast⟩ := ih hrest
    have he := hp hb
    by_cases hv : view b = view a
    · rw [if_pos hv] at he
      rw [List.filterMap_cons_none he, ← hv]
      exact ⟨hchain, hlast⟩
    · rw [if_neg hv] at he
      rw [List.filterMap_cons_some he, List.getLastD_cons]
      exact ⟨List.isChain_cons_cons.mpr ⟨Ne.symm hv, hchain⟩, hlast⟩

variable (h : replay effects a = some a')
include h

/-- What was asked for of ringing. -/
theorem ringing_of_replay : (a.ringing :: effects.filterMap Effect.ringing?).IsChain (· ≠ ·) ∧
    (effects.filterMap Effect.ringing?).getLastD a.ringing = a'.ringing :=
  chain_of_replay (·.ringing) (fun h => (reads_of_after? h).1) h

/-- What was asked for of the ringback tone. -/
theorem ringback_of_replay : (a.ringback :: effects.filterMap Effect.ringback?).IsChain (· ≠ ·) ∧
    (effects.filterMap Effect.ringback?).getLastD a.ringback = a'.ringback :=
  chain_of_replay (·.ringback) (fun h => (reads_of_after? h).2.1) h

/-- What was asked for of the scene. -/
theorem mode_of_replay : (a.mode :: effects.filterMap Effect.mode?).IsChain (· ≠ ·) ∧
    (effects.filterMap Effect.mode?).getLastD a.mode = a'.mode :=
  chain_of_replay (·.mode) (fun h => (reads_of_after? h).2.2.1) h

/-- It does not ring while the ringback tone plays. -/
theorem apart_of_replay (ha : ¬(a.ringing = true ∧ a.ringback = true)) :
    ¬(a'.ringing = true ∧ a'.ringback = true) := by
  induction effects generalizing a with
  | nil =>
    cases h
    exact ha
  | cons e rest ih =>
    rw [replay_cons] at h
    obtain ⟨b, hb, hrest⟩ := Option.bind_eq_some_iff.mp h
    exact ih hrest ((reads_of_after? hb).2.2.2 ha)

end Ambience

namespace Posture

/-! ## One move -/

namespace Machine

/-- What the posture machine may do at once. -/
inductive Moves (m : Machine) : Machine → Prop
  | stayed : Moves m m
  /-- It asked for the call-waiting tone. -/
  | pushed : Moves m (m.push [.playWaitingTone])
  | went (next : Posture) (t : Tally) : Moves m (m.transition next t)

/-- The ambience that goes with where the machine stands. -/
def ambience (m : Machine) : Ambience := ⟨m.current = .incoming, m.current = .alerting, m.mode⟩

variable {m m' : Machine}

theorem moves_process (m : Machine) (s : Signal) (t : Tally) : m.Moves (m.process s t).2 := by
  unfold process
  split
  · exact .stayed
  · exact .stayed
  · exact .pushed
  · exact .went _ t
  · exact .went _ t

/-- What a move asks for brings about the ambience that goes with where the machine then stands. -/
theorem Moves.replays (h : m.Moves m') : ∃ effects, m'.pending = m.pending ++ effects ∧
    Ambience.replay effects m.ambience = some m'.ambience := by
  have stayed : ∃ effects, m.pending = m.pending ++ effects ∧
      Ambience.replay effects m.ambience = some m.ambience :=
    ⟨[], (List.append_nil _).symm, rfl⟩
  cases h with
  | stayed => exact stayed
  | pushed => exact ⟨_, rfl, rfl⟩
  | went next t =>
    unfold transition
    split
    · exact stayed
    refine ⟨_, rfl, ?_⟩
    -- Between leaving and entering nothing sounds.
    have hfarewell :
        Ambience.replay (farewell m.current) m.ambience = some ⟨false, false, m.mode⟩ := by
      unfold ambience
      cases m.current <;> rfl
    have hwelcome : Ambience.replay (welcome next) ⟨false, false, m.mode⟩ =
        some ⟨next = .incoming, next = .alerting, m.mode⟩ := by cases next <;> rfl
    have hscene (r b : Bool) : Ambience.replay (m.scene next).2 ⟨r, b, m.mode⟩ =
        some ⟨r, b, (m.scene next).1⟩ := by
      unfold scene
      split
      · split
        · rfl
        · rename_i hne
          simp [Ambience.replay, Ambience.after?, hne]
      · rfl
    have hquiet (a : Ambience) :
        Ambience.replay (if t.hasRingActivity then [] else [.muteNetworkRing]) a = some a := by
      split <;> rfl
    simp only [Ambience.replay_append, hfarewell, hwelcome, hscene, hquiet, Option.bind_some]
    rfl

/-- If the scene of the machine is another one, that is what it asked for last. -/
theorem Moves.pending_eq (h : m.Moves m') : ∃ effects, m'.pending = m.pending ++ effects ∧
    (effects.filterMap Effect.mode?).getLastD m.mode = m'.mode := by
  obtain ⟨effects, hp, hr⟩ := h.replays
  exact ⟨effects, hp, (Ambience.mode_of_replay hr).2⟩

/-- The machine stands where it stood, in the scene that it was in; or it has gone elsewhere, and is
in the scene that the posture there brings, if it brings one. -/
theorem Moves.still_or_brought (h : m.Moves m') :
    (m'.current = m.current ∧ m'.mode = m.mode) ∨
      (m'.current ≠ m.current ∧ m'.mode = m'.current.mode?.getD m.mode) := by
  cases h with
  | stayed | pushed => exact .inl ⟨rfl, rfl⟩
  | went next t =>
    unfold transition
    split
    · exact .inl ⟨rfl, rfl⟩
    · rename_i hne
      refine .inr ⟨Ne.symm hne, ?_⟩
      unfold scene
      dsimp only
      cases next.mode? with
      | none => rfl
      | some mode => by_cases hs : mode = m.mode <;> simp [hs]

/-- The scene is the one that the posture brings, and if it brings none the one at hand. -/
theorem Moves.mode_eq (h : m.Moves m') (hm : m.current.mode?.getD m.mode = m.mode) :
    m'.current.mode?.getD m.mode = m'.mode := by
  rcases h.still_or_brought with ⟨hc, hs⟩ | ⟨-, hs⟩
  · rw [hc, hs]
    exact hm
  · exact hs.symm

end Machine

/-! ## Whole courses -/

/-- What may be done with a posture machine. -/
inductive Act where
  | process (signal : Signal) (t : Tally)
  | switch (next : Posture) (t : Tally)
  | drain

/-- How a posture machine has fared. -/
structure Course where
  machine : Machine
  /-- Every effect that was taken out. -/
  drained : List Effect
  /-- The postures that the machine stood in, beginning with the last one. -/
  visited : List Posture

namespace Machine

/-- The effects that are taken out when something is done with the machine, and the machine then. -/
def act (m : Machine) : Act → List Effect × Machine
  | .process signal t => ([], (m.process signal t).2)
  | .switch next t => ([], (m.switch next t).2)
  | .drain => m.drain

/-- Whatever is done with the machine, it makes one move; of its queue nothing is lost. -/
theorem moves_act (m : Machine) (a : Act) : ∃ m', m.Moves m' ∧
    (m.act a).1 ++ (m.act a).2.pending = m'.pending ∧
    (m.act a).2.current = m'.current ∧ (m.act a).2.mode = m'.mode := by
  cases a with
  | process signal t => exact ⟨_, m.moves_process signal t, rfl, rfl, rfl⟩
  | switch next t => exact ⟨_, .went next t, rfl, rfl, rfl⟩
  | drain => exact ⟨m, .stayed, List.append_nil _, rfl, rfl⟩

end Machine

namespace Course

/-- A machine with which nothing was done. -/
def fresh : Course := ⟨.rest, [], [.inactive]⟩

/-- The course once something more was done with the machine. -/
def act (c : Course) (a : Act) : Course where
  machine := (c.machine.act a).2
  drained := c.drained ++ (c.machine.act a).1
  visited := (c.machine.act a).2.current :: c.visited

/-- The course of a fresh machine. -/
def ofActs (acts : List Act) : Course := acts.foldl act fresh

/-- Every effect that the machine has asked for, taken out or still queued. -/
def effects (c : Course) : List Effect := c.drained ++ c.machine.pending

/-- The last posture that is not `holding`. -/
def latest? (c : Course) : Option Posture := c.visited.find? (· != .holding)

/-- What the machine has asked for comes in pairs. -/
structure Paired (c : Course) : Prop where
  /-- Ringing is begun first, and then ended and begun in turn. -/
  ringing : (false :: c.effects.filterMap Effect.ringing?).IsChain (· ≠ ·)
  /-- It was begun and not ended just in the posture that goes with it. -/
  rings : (c.effects.filterMap Effect.ringing?).getLastD false = true ↔
    c.machine.current = .incoming
  /-- The ringback tone is begun first, and then ended and begun in turn. -/
  ringback : (false :: c.effects.filterMap Effect.ringback?).IsChain (· ≠ ·)
  plays : (c.effects.filterMap Effect.ringback?).getLastD false = true ↔
    c.machine.current = .alerting
  /-- At no time were both begun and not ended. -/
  apart : ∀ effects, effects <+: c.effects →
    ¬((effects.filterMap Effect.ringing?).getLastD false = true ∧
      (effects.filterMap Effect.ringback?).getLastD false = true)
  /-- A scene is another one than the scene before, which is `idle` to begin with. -/
  scenes : (.idle :: c.effects.filterMap Effect.mode?).IsChain (· ≠ ·)
  scene : (c.effects.filterMap Effect.mode?).getLastD .idle = c.machine.mode
  /-- The scene is the one of the last posture that is not `holding`. -/
  brought : c.latest?.bind mode? = some c.machine.mode

/-- What a course keeps: its effects make sense, and its scene is the one that was brought last. -/
structure Sensible (c : Course) : Prop where
  replays : Ambience.replay c.effects .still = some c.machine.ambience
  settled : c.machine.current.mode?.getD c.machine.mode = c.machine.mode
  brought : c.latest?.bind mode? = some c.machine.mode

variable {c : Course}

theorem sensible_fresh : fresh.Sensible := ⟨rfl, rfl, rfl⟩

theorem Sensible.act (h : c.Sensible) (a : Act) : (c.act a).Sensible := by
  obtain ⟨m, hm, hpending, hcurrent, hmode⟩ := c.machine.moves_act a
  obtain ⟨effects, hadded, hreplay⟩ := hm.replays
  have hbrings := hm.mode_eq h.settled
  have hambience : (c.act a).machine.ambience = m.ambience := by
    show Ambience.mk _ _ (Machine.act _ _).2.mode = _
    rw [hmode]
    unfold Machine.ambience
    simp [Course.act, hcurrent]
  refine ⟨?_, ?_, ?_⟩
  · have heffects : (c.act a).effects = c.effects ++ effects := by
      show (c.drained ++ (c.machine.act a).1) ++ (c.machine.act a).2.pending = _
      rw [List.append_assoc, hpending, hadded, ← List.append_assoc]
      rfl
    rw [heffects, Ambience.replay_append, h.replays, Option.bind_some, hreplay, hambience]
  · show (Machine.act _ _).2.current.mode?.getD (Machine.act _ _).2.mode = (Machine.act _ _).2.mode
    rw [hcurrent, hmode, ← hbrings]
    cases m.current.mode? <;> rfl
  · show (List.find? _ ((Machine.act _ _).2.current :: _)).bind _ = some (Machine.act _ _).2.mode
    rw [hcurrent, hmode, ← hbrings]
    -- On hold the scene is still the one of the posture before.
    cases m.current with
    | holding => exact h.brought
    | _ => rfl

theorem Sensible.acts (h : c.Sensible) (acts : List Act) : (acts.foldl Course.act c).Sensible := by
  induction acts generalizing c with
  | nil => exact h
  | cons a rest ih => exact ih (h.act a)

/-- **The effects of the posture machine are paired**: whatever is done with a fresh machine, its
effects from the beginning begin and end ringing in turn, and so the ringback tone, each going on
just in its posture and never both; and every scene is another one than before, the last one that of
the last posture that is not `holding`. -/
theorem effects_paired (acts : List Act) : (ofActs acts).Paired := by
  have h : (ofActs acts).Sensible := sensible_fresh.acts acts
  have hring := Ambience.ringing_of_replay h.replays
  have hback := Ambience.ringback_of_replay h.replays
  have hmode := Ambience.mode_of_replay h.replays
  refine ⟨hring.1, ?_, hback.1, ?_, ?_, hmode.1, hmode.2, h.brought⟩
  · rw [show List.getLastD _ false = _ from hring.2]
    exact decide_eq_true_iff
  · rw [show List.getLastD _ false = _ from hback.2]
    exact decide_eq_true_iff
  · rintro effects ⟨rest, he⟩
    -- The effects up to any time can be replayed by themselves.
    have hr := h.replays
    rw [← he, Ambience.replay_append] at hr
    obtain ⟨a, ha, -⟩ := Option.bind_eq_some_iff.mp hr
    rw [show List.getLastD _ false = _ from (Ambience.ringing_of_replay ha).2,
      show List.getLastD _ false = _ from (Ambience.ringback_of_replay ha).2]
    exact Ambience.apart_of_replay ha (by simp [Ambience.still])

end Course

end Posture

end Switchboard
