import Switchboard.Registry

/-!
# Operations on a registry

What can be asked of a registry, as data. `RegistryOperation.perform` gives the `RegistryReply` and
the registry after it; an operation that fails leaves the registry as it was.
-/

namespace Switchboard

/-- New values for some fields of a record. -/
structure Patch where
  bearer : Option Bearer
  video : Option VideoState
  slot : Option SlotId
  emergency : Option Bool
  canUnhold : Option Bool
  speakerphone : Option Bool
  conference : Option (Option CallId)
  ended : Option EndReason
  deriving DecidableEq, Repr

/-- The record with the new values in place. -/
def Patch.apply (p : Patch) (c : Call) : Call where
  id := c.id
  slot := p.slot.getD c.slot
  bearer := p.bearer.getD c.bearer
  state := c.state
  video := p.video.getD c.video
  direction := c.direction
  number := c.number
  emergency := p.emergency.getD c.emergency
  canUnhold := p.canUnhold.getD c.canUnhold
  speakerphone := p.speakerphone.getD c.speakerphone
  conference := p.conference.getD c.conference
  ended := p.ended.getD c.ended

/-- What can be asked of a registry. -/
inductive RegistryOperation where
  | allocate
  | insert (call : Call)
  | get (id : CallId)
  | require (id : CallId)
  | setState (id : CallId) (state : CallState)
  | patch (id : CallId) (patch : Patch)
  | remove (id : CallId)
  | snapshot
  | find (state : CallState)
  | count (state : CallState)
  | contains (id : CallId)
  deriving DecidableEq, Repr

/-- What a registry answers. -/
inductive RegistryReply where
  | id (id : CallId)
  | done (result : Except CallError Unit)
  | found (call : Option Call)
  | required (result : Except CallError Call)
  | wasIn (result : Except CallError CallState)
  | calls (calls : List Call)
  | number (n : Nat)
  | flag (value : Bool)

/-- Carries an operation out. -/
def RegistryOperation.perform (r : Registry) : RegistryOperation → RegistryReply × Registry
  | allocate => (.id r.allocate.1, r.allocate.2)
  | insert c =>
    match r.insert c with
    | .ok r => (.done (.ok ()), r)
    | .error e => (.done (.error e), r)
  | get id => (.found (r.get? id), r)
  | require id => (.required (r.require id), r)
  | setState id state =>
    match r.setState id state with
    | .ok (prior, r) => (.wasIn (.ok prior), r)
    | .error e => (.wasIn (.error e), r)
  | patch id p =>
    match r.update id p.apply with
    | .ok (_, r) => (.done (.ok ()), r)
    | .error e => (.done (.error e), r)
  | remove id =>
    match r.remove id with
    | some (c, r) => (.found (some c), r)
    | none => (.found none, r)
  | snapshot => (.calls r.calls, r)
  | find state => (.calls (r.findByState state), r)
  | count state => (.number (r.countByState state), r)
  | contains id => (.flag (r.contains id), r)

end Switchboard
