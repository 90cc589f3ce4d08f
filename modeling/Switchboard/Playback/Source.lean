import Switchboard.Playback.Tone
import Switchboard.Text.Basic

/-!
# Playback sources

What a playback renders: a tone, or a ringtone for a call on some slot. `Source.label` is how a
report names a source.
-/

namespace Switchboard

/-- What a playback renders. -/
inductive Source where
  | tone (tone : RenderTone)
  | ringtone (path : String) (slot : SlotId)
  deriving DecidableEq, Repr

/-- How a report names a source. -/
def Source.label : Source → String
  | .tone t => s!"Tone({t.label})"
  | .ringtone path slot =>
    "Ringtone \x7b path: " ++ Text.quote path ++ s!", slot_id: SlotId({slot.toNat}) " ++ "\x7d"

end Switchboard
