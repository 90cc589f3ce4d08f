import Switchboard.Call.Foreground
import Switchboard.Error

/-!
# The registry of calls

The registry is the one owner of every call record. It keeps the records in increasing order of
their numbers, so no two have the same number, the next number to be given out, and the counts of
all calls ever registered and removed.

* `Registry.allocate`: a fresh number. The counter is a 32-bit word and wraps.
* `Registry.insert`, `Registry.update`, `Registry.remove`: the only ways to change the records.
  `insert` refuses a number that is present; `update` changes one record and never its number.
* `Registry.get?`, `Registry.require`: look one record up.
* `Registry.findByState`, `Registry.countByState`, `Registry.liveCount`: views of the records.
-/

namespace Switchboard

/-- The calls in increasing order of their numbers. -/
def Ascending (calls : List Call) : Prop := calls.Pairwise fun a b => a.id < b.id

/-- The calls that the switchboard knows, and its books. -/
structure Registry where
  calls : List Call
  /-- The number that the next call gets. -/
  nextId : CallId
  /-- How many calls were ever registered. -/
  created : Nat
  /-- How many calls were ever removed. -/
  removed : Nat
  ascending : Ascending calls

namespace Registry

/-- A registry without calls; the first number is one. -/
def empty : Registry := ⟨[], 1, 0, 0, List.Pairwise.nil⟩

/-! ## Reading -/

/-- The record with the number `id`. -/
def get? (r : Registry) (id : CallId) : Option Call := r.calls.find? (·.id == id)

/-- The number `id` is registered. -/
def contains (r : Registry) (id : CallId) : Bool := r.calls.any (·.id == id)

/-- The record with the number `id`, or the error that there is none. -/
def require (r : Registry) (id : CallId) : Except CallError Call :=
  match r.get? id with
  | some c => .ok c
  | none => .error (.callNotFound id)

/-- The calls in a state, in increasing order of their numbers. -/
def findByState (r : Registry) (state : CallState) : List Call :=
  r.calls.filter (·.state == state)

/-- How many calls are in a state. -/
def countByState (r : Registry) (state : CallState) : Nat := r.calls.countP (·.state == state)

/-- How many calls are neither idle nor on their way out. -/
def liveCount (r : Registry) : Nat := r.calls.countP fun c => !c.state.isTerminal

/-- How many calls are registered. -/
def size (r : Registry) : Nat := r.calls.length

/-- No call is registered. -/
def isEmpty (r : Registry) : Bool := r.calls.isEmpty

/-- The registered call in the foreground. -/
def foreground? (r : Registry) : Option Call := Switchboard.foreground? r.calls

/-! ## Writing -/

/-- A fresh number, and the registry that remembers having given it out. -/
def allocate (r : Registry) : CallId × Registry := (r.nextId, { r with nextId := r.nextId + 1 })

/-- Puts `c` before the first record with a greater number. -/
def place (c : Call) : List Call → List Call
  | [] => [c]
  | d :: rest => if c.id < d.id then c :: d :: rest else d :: place c rest

theorem mem_place {c x : Call} {calls : List Call} : x ∈ place c calls ↔ x = c ∨ x ∈ calls := by
  induction calls with
  | nil => simp [place]
  | cons d rest ih =>
    by_cases h : c.id < d.id
    · simp [place, h]
    · simp only [place, h, if_false, List.mem_cons, ih]
      constructor <;> rintro (h | h | h) <;> simp [h]

theorem ascending_place {c : Call} {calls : List Call} (h : Ascending calls)
    (new : ∀ d ∈ calls, d.id ≠ c.id) : Ascending (place c calls) := by
  induction calls with
  | nil => exact List.pairwise_singleton _ _
  | cons d rest ih =>
    obtain ⟨below, rest_asc⟩ := List.pairwise_cons.mp h
    by_cases lt : c.id < d.id
    · simp only [place, lt, if_true]
      refine List.pairwise_cons.mpr ⟨fun x hx => ?_, h⟩
      rcases List.mem_cons.mp hx with rfl | hx
      · exact lt
      · exact UInt32.lt_trans lt (below x hx)
    · simp only [place, lt, if_false]
      refine List.pairwise_cons.mpr ⟨fun x hx => ?_, ih rest_asc fun e he => new e (by simp [he])⟩
      rcases mem_place.mp hx with rfl | hx
      · exact UInt32.lt_of_le_of_ne (UInt32.not_lt.mp lt) (new d (by simp))
      · exact below x hx

theorem contains_eq_false {r : Registry} {id : CallId} (h : r.contains id = false) :
    ∀ c ∈ r.calls, c.id ≠ id := by
  simpa [contains] using h

/-- Registers a call, unless its number is taken. -/
def insert (r : Registry) (c : Call) : Except CallError Registry :=
  if h : r.contains c.id then
    .error (.internal s!"call {c.id.toNat} is already registered")
  else
    .ok { r with
      calls := place c r.calls
      created := r.created + 1
      ascending := ascending_place r.ascending (contains_eq_false (by simpa using h)) }

/-- Changes the record `id` by `f` and keeps its number. -/
def adjust (id : CallId) (f : Call → Call) (calls : List Call) : List Call :=
  calls.map fun c => if c.id == id then { f c with id := c.id } else c

theorem ascending_adjust {id : CallId} {f : Call → Call} {calls : List Call}
    (h : Ascending calls) : Ascending (adjust id f calls) := by
  refine List.Pairwise.map _ (fun a b hab => ?_) h
  dsimp only
  split <;> split <;> exact hab

/-- Changes the record `id` by `f`, if there is one. -/
def modify (r : Registry) (id : CallId) (f : Call → Call) : Registry :=
  { r with calls := adjust id f r.calls, ascending := ascending_adjust r.ascending }

/-- Changes the record `id` by `f`. Also gives the record as it was. -/
def update (r : Registry) (id : CallId) (f : Call → Call) : Except CallError (Call × Registry) :=
  match r.require id with
  | .ok c => .ok (c, r.modify id f)
  | .error e => .error e

/-- Puts the call `id` into a state. Also gives the state that it was in. -/
def setState (r : Registry) (id : CallId) (state : CallState) :
    Except CallError (CallState × Registry) :=
  match r.update id fun c => { c with state } with
  | .ok (c, r) => .ok (c.state, r)
  | .error e => .error e

/-- Takes the record `id` out, if it is there. -/
def remove (r : Registry) (id : CallId) : Option (Call × Registry) :=
  match r.get? id with
  | some c => some (c, { r with
      calls := r.calls.filter (·.id != id)
      removed := r.removed + 1
      ascending := r.ascending.filter _ })
  | none => none

end Registry

end Switchboard
