import Switchboard.Playback.Studio

/-!
# The workbench

A studio with handles on its playbacks and on streams that are driven by hand. Stopping a playback
or waiting for it uses its handle up.

* `Bench.spawn`, `Bench.stop`, `Bench.wait`: playbacks by their handles.
* `Bench.openStream`, `Bench.renderPeriod`, `Bench.closeStream`: streams by theirs. A stream gives
  the renderer back when it is closed.
-/

namespace Switchboard.Playback

/-- A studio with handles on what goes on in it. -/
structure Bench where
  studio : Studio
  /-- The playback of each handle that has not been used up. -/
  handles : List (Option Nat)
  /-- How many periods each stream has rendered that is open. -/
  streams : List (Option Nat)

namespace Bench

/-- A bench with nothing on it. -/
def empty (studio : Studio) : Bench := ⟨studio, [], []⟩

/-- Starts a playback. Also gives its handle. -/
def spawn (b : Bench) (source : Source) (period : Nat) (limit : Option Nat) : Nat × Bench :=
  let (id, studio) := b.studio.spawn source period limit
  (b.handles.length, { b with studio, handles := b.handles ++ [some id] })

/-- Uses a handle up in a way to end its playback. Also says how the playback ended. -/
def consume (b : Bench) (handle : Nat) (ending : Studio → Nat → Studio) :
    Option Outcome × Bench :=
  match b.handles[handle]?.join with
  | some id =>
    let studio := ending b.studio id
    (studio.outcome? id, { b with studio, handles := b.handles.set handle none })
  | none => (none, b)

/-- Stops a playback. Also says how it ended. -/
def stop (b : Bench) (handle : Nat) : Option Outcome × Bench := b.consume handle Studio.stop

/-- Waits until a playback ends by itself. Also says how it ended. -/
def wait (b : Bench) (handle : Nat) : Option Outcome × Bench := b.consume handle Studio.wait

/-- Opens a stream of the renderer. -/
def openStream (b : Bench) (source : Source) : Except CallError (Nat × Bench) :=
  if b.studio.outside.fails .openRenderer then .error Renderer.busy
  else
    .ok (b.streams.length, { b with
      studio := { b.studio with renderer := b.studio.renderer.noteOpen source }
      streams := b.streams ++ [some 0] })

/-- Renders one period of a stream, which takes its time; none if there is no such stream. -/
def renderPeriod (b : Bench) (stream period : Nat) : Option (Except CallError Unit) × Bench :=
  match b.streams[stream]?.join with
  | some rendered =>
    if b.studio.renderer.failsAt rendered then (some (.error Renderer.broken), b)
    else
      let studio := b.studio.elapse period
      (some (.ok ()), { b with
        studio := { studio with renderer := studio.renderer.notePeriod }
        streams := b.streams.set stream (some (rendered + 1)) })
  | none => (none, b)

/-- Closes a stream. Also says whether it was open. -/
def closeStream (b : Bench) (stream : Nat) : Bool × Bench :=
  match b.streams[stream]?.join with
  | some _ =>
    (true, { b with
      studio := { b.studio with renderer := b.studio.renderer.noteRelease }
      streams := b.streams.set stream none })
  | none => (false, b)

end Bench

end Switchboard.Playback
