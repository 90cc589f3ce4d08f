import Switchboard.Event

/-!
# The journal of events

Every event goes into the journal, and each listener reads it at its own pace. The journal holds
the last `slots` events for its listeners, a power of two; one that fell further behind learns how
many it missed and goes on with the oldest that is held.

* `Journal.emit`: appends an event.
* `Journal.subscribe`, `Journal.unsubscribe`: listeners are numbered in the order of subscription
  and hear what is emitted after it.
* `Journal.read`: all that a listener has not read.
-/

namespace Switchboard

/-- The events so far, and where each listener stands. -/
structure Journal where
  /-- How many events are held for listeners. -/
  slots : Nat
  entries : List Event
  /-- How many entries each listener has behind it; none for one that left. -/
  listeners : List (Option Nat)
  deriving DecidableEq, Repr

/-- What a listener gets to read. -/
structure Reading where
  /-- How many events the listener missed. -/
  missed : Nat
  events : List Event
  deriving DecidableEq, Repr

namespace Journal

/-- An empty journal that holds at least `capacity` events for its listeners. -/
def ofCapacity (capacity : Nat) : Journal := ⟨capacity.nextPowerOfTwo, [], []⟩

/-- Appends an event. -/
def emit (j : Journal) (e : Event) : Journal := { j with entries := j.entries ++ [e] }

/-- Adds a listener to the events to come. Also gives its number. -/
def subscribe (j : Journal) : Nat × Journal :=
  (j.listeners.length, { j with listeners := j.listeners ++ [some j.entries.length] })

/-- Removes a listener. -/
def unsubscribe (j : Journal) (listener : Nat) : Journal :=
  { j with listeners := j.listeners.set listener none }

/-- How many listeners there are. -/
def listenerCount (j : Journal) : Nat := j.listeners.countP (·.isSome)

/-- What is left to read from the entry number `position` on. -/
def readingFrom (j : Journal) (position : Nat) : Reading :=
  let oldest := max position (j.entries.length - j.slots)
  ⟨oldest - position, j.entries.drop oldest⟩

/-- Reads all that a listener has not read. A listener that left has nothing to read. -/
def read (j : Journal) (listener : Nat) : Reading × Journal :=
  match j.listeners[listener]?.join with
  | some position =>
    (j.readingFrom position, { j with listeners := j.listeners.set listener j.entries.length })
  | none => (⟨0, []⟩, j)

end Journal

end Switchboard
