import Switchboard.Desk.Requests
import Switchboard.Proofs.Desk.Core
import Switchboard.Proofs.Desk.Ends
import Switchboard.Proofs.Registry.Effects

/-!
# Edits of the desk

Each primitive of the requests and reports, as a function on desks. A registered call can always be
edited, so on one that is there these operations do not fail, and what they make of the desk is a
function of the desk: `ends_setState`, `ends_unregister` and so on. Only telephony can say no
(`ends_telephone`).

The lemmas `core_*` say what an edit makes of the core.
-/

namespace Switchboard

/-- A call is not there, or it is not such as an operation needs it. -/
def CallError.isUnfit : CallError → Bool
  | callNotFound _ | invalidState .. | unsupported .. => true
  | _ => false

namespace Desk

open DeskM

variable {α : Type} {d : Desk} {c : Call} {id : CallId}

/-! ## Asking telephony -/

/-- The desk once telephony has taken its time. -/
def kept (d : Desk) : Desk :=
  if d.outside.delay = 0 then d else d.onSound (·.elapse d.outside.delay)

/-- The desk after telephony was asked for something. -/
def telephoned (d : Desk) (command : Command) : Desk := (d.kept.ask (.telephony command)).2

@[simp] theorem core_telephoned (d : Desk) (command : Command) :
    (d.telephoned command).core = d.core := by
  unfold telephoned kept
  rw [core_ask]
  split <;> rfl

@[simp] theorem registry_telephoned (d : Desk) (command : Command) :
    (d.telephoned command).registry = d.registry :=
  congrArg Core.registry (core_telephoned d command)

@[simp] theorem outside_kept (d : Desk) : d.kept.outside = d.outside := by
  unfold kept
  split <;> rfl

/-- Telephony complies if its service does not fail when it is asked. -/
theorem ends_telephone_iff {command : Command} {Q : Unit → Desk → Prop}
    {E : CallError → Desk → Prop} : (telephone command).Ends d Q E ↔
      if d.outside.fails command.service = true
      then E (d.outside.failure (.telephony command)) (d.telephoned command)
      else Q () (d.telephoned command) := by
  have hmet : (d.kept.ask (.telephony command)).1 = !d.outside.fails command.service := by
    show (!d.kept.outside.fails command.service) = _
    rw [outside_kept]
  unfold telephone
  simp only [ends_bind, ends_modify, ends_get, ends_modifyGet, ends_ite]
  show (((d.kept.ask (.telephony command)).1 = true → Q () (d.telephoned command)) ∧
    (¬(d.kept.ask (.telephony command)).1 = true →
      E (d.kept.outside.failure (.telephony command)) (d.telephoned command))) ↔ _
  rw [hmet, outside_kept]
  cases d.outside.fails command.service <;> simp

/-- Telephony complies, or it fails and the desk has only lost time. -/
theorem ends_telephone {command : Command} {Q : Unit → Desk → Prop} {E : CallError → Desk → Prop}
    (hQ : Q () (d.telephoned command))
    (hE : E (d.outside.failure (.telephony command)) (d.telephoned command)) :
    (telephone command).Ends d Q E := by
  rw [ends_telephone_iff]
  split
  · exact hE
  · exact hQ

/-- The desk after telephony was asked for something in vain: it has lost the time, and the request
is on record as one that was not met. -/
def unheard (d : Desk) (command : Command) : Desk :=
  { d.kept with
    outside := { d.kept.outside with
      log := d.kept.outside.log ++ [⟨.telephony command, false⟩] } }

/-- Telephony complies, or the desk was not heard. -/
theorem ends_telephone_unheard {command : Command} {Q : Unit → Desk → Prop}
    {E : CallError → Desk → Prop} (hQ : Q () (d.telephoned command))
    (hE : E (d.outside.failure (.telephony command)) (d.unheard command)) :
    (telephone command).Ends d Q E := by
  unfold telephone
  simp only [ends_bind, ends_modify, ends_get, ends_modifyGet, ends_ite]
  refine ⟨fun _ => hQ, fun hn => ?_⟩
  have hmet : (!d.kept.outside.fails (Demand.telephony command).service) = false :=
    eq_false_of_ne_true hn
  have hu : d.telephoned command = d.unheard command := by
    unfold telephoned unheard ask Outside.ask
    rw [hmet]
  show E (d.kept.outside.failure (.telephony command)) (d.telephoned command)
  rw [hu, outside_kept]
  exact hE

/-! ## Muting the microphone -/

/-- The platform complies, or it fails; the desk mutes the microphone as far as it complies. -/
theorem ends_setMute {muted : Bool} {Q : Unit → Desk → Prop} {E : CallError → Desk → Prop}
    (hQ : Q () (d.applyMute (muted && !hasEmergency d.registry.calls)))
    (hE : ∀ e, E e (d.applyMute (muted && !hasEmergency d.registry.calls))) :
    (setMute muted).Ends d Q E := by
  unfold setMute
  unfold applyMute at hQ hE
  simp only [ends_bind, ends_get, ends_modifyGet, ends_modify, ends_ite, ends_pure]
  generalize (muted && !hasEmergency d.registry.calls) = effective at hQ hE ⊢
  -- Where the microphone is as it is to be, the platform is not asked, and cannot refuse.
  by_cases hm : d.muted = effective
  · simpa [hm] using hQ
  · simp only [if_neg hm] at hQ hE
    refine ⟨fun _ => ⟨fun hmet => ?_, fun hmet => ?_⟩, fun h => absurd hm h⟩
    · rwa [if_pos hmet] at hQ
    · have hE := hE (d.outside.failure (.micMute effective))
      rwa [if_neg hmet] at hE

/-! ## Looking a call up -/

section

variable {Q : Call → Desk → Prop} {E : CallError → Desk → Prop}

/-- A call is looked up by its number, and is there or not. -/
theorem ends_call (hQ : ∀ c ∈ d.registry.calls, c.id = id → Q c d)
    (hE : (∀ c ∈ d.registry.calls, c.id ≠ id) → E (.callNotFound id) d) :
    (call id).Ends d Q E := by
  unfold call
  simp only [ends_bind, ends_get, ends_ofExcept]
  rcases d.registry.exists_or_absent id with ⟨c, hc, rfl⟩ | ha
  · rw [Registry.require_of_mem hc]
    exact hQ c hc rfl
  · rw [Registry.require_of_absent ha]
    exact hE ha

/-- A call that is looked up in some states is there in one of them, or it is unfit. -/
theorem ends_callIn {allowed : List CallState} {operation : String}
    (hQ : ∀ c ∈ d.registry.calls, c.id = id → c.state ∈ allowed → Q c d)
    (hE : ∀ e, e.isUnfit = true → E e d) : (callIn id allowed operation).Ends d Q E := by
  unfold callIn
  rw [ends_bind]
  refine ends_call (fun c hc hid => ?_) fun _ => hE _ rfl
  rw [ends_ite]
  refine ⟨fun ha => hQ c hc hid (by simpa using ha), fun _ => ?_⟩
  rw [ends_bind, ends_throw]
  exact hE _ rfl

/-- On a call that is there only its state decides. -/
theorem ends_callIn_of_mem (h : c ∈ d.registry.calls) {allowed : List CallState}
    {operation : String} : (callIn c.id allowed operation).Ends d Q E ↔
      if c.state ∈ allowed then Q c d else E (.invalidState c.id c.state operation) d := by
  unfold callIn call
  simp only [ends_bind, ends_get, ends_ofExcept, Registry.require_of_mem h, ends_ite]
  by_cases hs : c.state ∈ allowed <;> simp [hs]

/-- A call that is looked up for IP multimedia is there, or it is unfit. -/
theorem ends_imsCall {operation : String} (hQ : ∀ c ∈ d.registry.calls, c.id = id → Q c d)
    (hE : ∀ e, e.isUnfit = true → E e d) : (imsCall id operation).Ends d Q E := by
  unfold imsCall
  rw [ends_bind]
  refine ends_call (fun c hc hid => ?_) fun _ => hE _ rfl
  rw [ends_ite]
  refine ⟨fun _ => hQ c hc hid, fun _ => ?_⟩
  rw [ends_bind, ends_throw]
  exact hE _ rfl

/-- A call that is looked up as a member of a conference is there and in one, or it is unfit. -/
theorem ends_member {operation : String} {Q : Call × CallId → Desk → Prop}
    (hQ : ∀ c ∈ d.registry.calls, ∀ main, c.id = id → c.conference = some main → Q (c, main) d)
    (hE : ∀ e, e.isUnfit = true → E e d) : (member id operation).Ends d Q E := by
  unfold member
  rw [ends_bind]
  refine ends_call (fun c hc hid => ?_) fun _ => hE _ rfl
  split
  · exact hQ c hc _ hid ‹_›
  · exact hE _ rfl

end

/-! ## Changing a record -/

/-- The desk with the record `id` changed by `f`. -/
def amended (d : Desk) (id : CallId) (f : Call → Call) : Desk :=
  { d with registry := d.registry.modify id f }

/-- A registered call can always be amended. -/
theorem ends_amend_of_mem (h : c ∈ d.registry.calls) {f : Call → Call} {Q : Call → Desk → Prop}
    {E : CallError → Desk → Prop} : (amend c.id f).Ends d Q E ↔ Q c (d.amended c.id f) := by
  unfold amend
  simp only [ends_bind, ends_get, ends_ofExcept, Registry.update_of_mem h, ends_modify, ends_pure]
  rfl

/-- Amending a call fails only if it is not there. -/
theorem ends_amend {f : Call → Call} {Q : Call → Desk → Prop} {E : CallError → Desk → Prop}
    (hQ : ∀ c ∈ d.registry.calls, c.id = id → Q c (d.amended id f))
    (hE : (∀ c ∈ d.registry.calls, c.id ≠ id) → E (.callNotFound id) d) :
    (amend id f).Ends d Q E := by
  rcases d.registry.exists_or_absent id with ⟨c, hc, rfl⟩ | ha
  · exact (ends_amend_of_mem hc).mpr (hQ c hc rfl)
  · unfold amend
    simp only [ends_bind, ends_get, ends_ofExcept, Registry.update_of_absent ha]
    exact hE ha

/-- A record that was changed and keeps its number is registered in its new form. -/
theorem mem_amended {f : Call → Call} (h : c ∈ d.registry.calls) :
    { f c with id := c.id } ∈ (d.amended c.id f).registry.calls :=
  Registry.mem_adjust.mpr (.inr ⟨c, h, rfl, rfl⟩)

/-- An edit keeps every number registered. -/
theorem present_amended {f : Call → Call} {id' : CallId} (h : ∃ c ∈ d.registry.calls, c.id = id') :
    ∃ c ∈ (d.amended id f).registry.calls, c.id = id' := by
  obtain ⟨c, hc, rfl⟩ := h
  by_cases hid : c.id = id
  · subst hid
    exact ⟨_, mem_amended hc, rfl⟩
  · exact ⟨c, Registry.mem_adjust.mpr (.inl ⟨hc, hid⟩), rfl⟩

/-! ## Moving a call to another state -/

/-- The desk once the audio side has heard that `c` went from `prior` to `next`. -/
def updated (d : Desk) (c : Call) (prior next : CallState) : Desk :=
  let d := d.callMoved c.bearer (some prior) (some next)
  if next = .disconnected ∧ endsAudibly prior then d.soundTone (.ofEnd c.ended) else d

@[simp] theorem core_updated (d : Desk) (c : Call) (prior next : CallState) :
    (d.updated c prior next).core = (d.callMoved c.bearer (some prior) (some next)).core := by
  unfold updated
  dsimp only
  split
  · rw [core_soundTone]
  · rfl

/-- The audio side hears of a registered call without fail. -/
theorem ends_callUpdated (h : c ∈ d.registry.calls) {prior next : CallState}
    {Q : Unit → Desk → Prop} {E : CallError → Desk → Prop} :
    (callUpdated c.id prior next).Ends d Q E ↔ Q () (d.updated c prior next) := by
  unfold callUpdated updated
  simp only [ends_bind, ends_get, ends_ofExcept, Registry.require_of_mem h, ends_modify, ends_ite]
  split <;> simp [*]

/-- The desk after the registered call `c` has gone into the state `next`. -/
def moved (d : Desk) (c : Call) (next : CallState) : Desk :=
  let d := d.amended c.id ({ · with state := next })
  if c.state = next then d
  else (d.emit (.callStateChanged c.id c.state next)).updated c c.state next

/-- A call that goes into another state moves the posture, by the calls as they are then. -/
theorem core_moved (d : Desk) (c : Call) (next : CallState) :
    (d.moved c next).core =
      { d.core with
        registry := d.registry.modify c.id ({ · with state := next })
        posture :=
          if c.state = next then d.posture.current
          else d.posture.current.afterMove
            (Registry.adjust c.id ({ · with state := next }) d.registry.calls) c.bearer
            (some c.state) (some next) } := by
  unfold moved
  dsimp only
  split
  · rfl
  · rw [core_updated, core_callMoved]
    rfl

@[simp] theorem registry_moved (d : Desk) (c : Call) (next : CallState) :
    (d.moved c next).registry = d.registry.modify c.id ({ · with state := next }) :=
  congrArg Core.registry (core_moved d c next)

/-- A registered call can be put into every state. -/
theorem ends_setState_of_mem (h : c ∈ d.registry.calls) {next : CallState}
    {Q : Unit → Desk → Prop} {E : CallError → Desk → Prop} :
    (setState c.id next).Ends d Q E ↔ Q () (d.moved c next) := by
  unfold setState moved
  simp only [ends_bind, ends_get, ends_ofExcept, Registry.setState_of_mem h, ends_modify]
  -- A call that is in the state already is not said to have changed.
  by_cases hs : c.state = next
  · simp only [ne_eq, hs, not_true_eq_false, if_false, if_true, ends_pure]
    rfl
  · have hm := mem_amended (f := ({ · with state := next })) h
    rw [if_pos hs, if_neg hs, ends_bind, ends_modify]
    exact ends_callUpdated (d := (d.amended c.id _).emit _) hm

/-- Putting a call into a state fails only if it is not there. -/
theorem ends_setState {next : CallState} {Q : Unit → Desk → Prop} {E : CallError → Desk → Prop}
    (hQ : ∀ c ∈ d.registry.calls, c.id = id → Q () (d.moved c next))
    (hE : (∀ c ∈ d.registry.calls, c.id ≠ id) → E (.callNotFound id) d) :
    (setState id next).Ends d Q E := by
  rcases d.registry.exists_or_absent id with ⟨c, hc, rfl⟩ | ha
  · exact (ends_setState_of_mem hc).mpr (hQ c hc rfl)
  · unfold setState
    simp only [ends_bind, ends_get, ends_ofExcept, Registry.setState_of_absent ha]
    exact hE ha

/-! ## Adding and removing a call -/

/-- The desk after the registered call `c` was removed. -/
def dropped (d : Desk) (c : Call) : Desk :=
  let d := { d with registry := d.registry.erase c.id }.emit (.callRemoved c.id c.ended)
  if c.state.isRinging then d.ringingCallGone c else d.callDestroyed c

/-- A call that is removed moves the posture as it leaves; one that rang leaves as one that came in.
-/
theorem core_dropped (d : Desk) (c : Call) :
    (d.dropped c).core =
      { d.core with
        registry := d.registry.erase c.id
        posture := d.posture.current.afterMove (d.registry.erase c.id).calls c.bearer
          (some (if c.state.isRinging then .incoming else c.state)) none } := by
  unfold dropped callDestroyed
  dsimp only
  split
  · rw [core_ringingCallGone, core_callMoved]
    rfl
  · rw [core_callMoved]
    rfl

@[simp] theorem registry_dropped (d : Desk) (c : Call) :
    (d.dropped c).registry = d.registry.erase c.id := congrArg Core.registry (core_dropped d c)

theorem ends_unregister_of_mem (h : c ∈ d.registry.calls) {Q : Unit → Desk → Prop}
    {E : CallError → Desk → Prop} : (unregister c.id).Ends d Q E ↔ Q () (d.dropped c) := by
  unfold unregister dropped
  simp only [ends_bind, ends_get, Registry.remove_of_mem h, ends_modify]

/-- Removing a call that is not there is no failure. -/
theorem ends_unregister {Q : Unit → Desk → Prop} {E : CallError → Desk → Prop}
    (hQ : ∀ c ∈ d.registry.calls, c.id = id → Q () (d.dropped c))
    (hN : (∀ c ∈ d.registry.calls, c.id ≠ id) → Q () d) : (unregister id).Ends d Q E := by
  rcases d.registry.exists_or_absent id with ⟨c, hc, rfl⟩ | ha
  · exact (ends_unregister_of_mem hc).mpr (hQ c hc rfl)
  · unfold unregister
    simp only [ends_bind, ends_get, Registry.remove_of_absent ha, ends_pure]
    exact hN ha

/-- The desk after the registered call `c` was disconnected, and then removed. -/
def parted (d : Desk) (c : Call) : Desk :=
  (d.moved c .disconnected).dropped { c with state := .disconnected }

@[simp] theorem registry_parted (d : Desk) (c : Call) :
    (d.parted c).registry = d.registry.erase c.id := by
  unfold parted
  rw [registry_dropped, registry_moved, Registry.erase_modify]

/-- The desk after the call `c` was registered, which makes the registry `registry`. -/
def added (d : Desk) (c : Call) (registry : Registry) : Desk :=
  ({ d with registry }.emit (.callAdded c)).callCreated c

/-- A call that is registered moves the posture, by the calls with it among them. -/
theorem core_added (d : Desk) (c : Call) (registry : Registry) :
    (d.added c registry).core =
      { d.core with
        registry
        posture := d.posture.current.afterMove registry.calls c.bearer none (some c.state) } := by
  unfold added
  rw [core_callCreated, core_callMoved]
  rfl

@[simp] theorem registry_added (d : Desk) (c : Call) (registry : Registry) :
    (d.added c registry).registry = registry := congrArg Core.registry (core_added d c registry)

/-- A call whose number is taken is not registered. -/
theorem ends_register {Q : Unit → Desk → Prop} {E : CallError → Desk → Prop}
    (hQ : ∀ registry, d.registry.insert c = .ok registry → Q () (d.added c registry))
    (hE : ∀ message, E (.internal message) d) : (register c).Ends d Q E := by
  unfold register
  simp only [ends_bind, ends_get, ends_ofExcept, ends_modify]
  cases hr : d.registry.insert c with
  | ok registry => exact hQ registry hr
  | error e =>
    rw [Registry.insert_eq_error hr]
    exact hE _

/-- A call whose number is free is registered. -/
theorem ends_register_of_absent (h : ∀ x ∈ d.registry.calls, x.id ≠ c.id) {Q : Unit → Desk → Prop}
    {E : CallError → Desk → Prop}
    (hQ : ∀ registry, d.registry.insert c = .ok registry → Q () (d.added c registry)) :
    (register c).Ends d Q E := by
  obtain ⟨registry, hr, -, -⟩ := Registry.insert_of_absent h
  unfold register
  simp only [ends_bind, ends_get, ends_ofExcept, ends_modify, hr]
  exact hQ registry hr

/-- The desk after the registered call `c` was disconnected and removed. -/
def finished (d : Desk) (c : Call) (ended : EndReason) : Desk :=
  ((d.amended c.id ({ · with ended })).moved { c with ended } .disconnected).dropped
    { c with ended, state := .disconnected }

theorem mem_moved (h : c ∈ d.registry.calls) (next : CallState) :
    { c with state := next } ∈ (d.moved c next).registry.calls := by
  rw [registry_moved]
  exact Registry.mem_adjust.mpr (.inr ⟨c, h, rfl, rfl⟩)

/-- A registered call is disconnected and removed without fail. -/
theorem ends_part {Q : Unit → Desk → Prop} {E : CallError → Desk → Prop}
    (hQ : ∀ c ∈ d.registry.calls, c.id = id → Q () (d.parted c))
    (hE : (∀ c ∈ d.registry.calls, c.id ≠ id) → E (.callNotFound id) d) :
    (do
      setState id .disconnected
      unregister id : DeskM Unit).Ends d Q E := by
  refine (ends_bind _).mpr (ends_setState (fun c hc hid => ?_) hE)
  subst hid
  exact (ends_unregister_of_mem (mem_moved hc .disconnected)).mpr (hQ c hc rfl)

/-- A registered call is finished without fail. -/
theorem ends_finish_of_mem (h : c ∈ d.registry.calls) {ended : EndReason} {Q : Unit → Desk → Prop}
    {E : CallError → Desk → Prop} : (finish c.id ended).Ends d Q E ↔ Q () (d.finished c ended) := by
  have he : { c with ended } ∈ (d.amended c.id ({ · with ended })).registry.calls := mem_amended h
  have hs := mem_moved he .disconnected
  unfold finish
  simp only [ends_bind, ends_discard, ends_amend_of_mem h]
  exact (ends_setState_of_mem he).trans (ends_unregister_of_mem hs)

/-- Only the finished call is gone from the registry. -/
theorem calls_finished (d : Desk) (c : Call) (ended : EndReason) :
    (d.finished c ended).registry.calls = d.registry.calls.filter (·.id != c.id) := by
  unfold finished
  rw [registry_dropped, registry_moved]
  exact (Registry.filter_adjust c.id _ _).trans (Registry.filter_adjust c.id _ _)

theorem nextId_finished (d : Desk) (c : Call) (ended : EndReason) :
    (d.finished c ended).registry.nextId = d.registry.nextId := by
  unfold finished
  rw [registry_dropped, Registry.erase_nextId, registry_moved]
  rfl

/-! ## Other news of a call -/

/-- The desk after the ringing call `c` was answered. -/
def answered (d : Desk) (c : Call) (media : VideoState) : Desk :=
  ((d.amended c.id ({ · with video := media, state := .active })).emit
    (.callStateChanged c.id c.state .active)).callMoved c.bearer (some .incoming) (some .active)

/-- An answered call moves the posture as one that was `incoming`, whether it waited or not. -/
theorem core_answered (d : Desk) (c : Call) (media : VideoState) :
    (d.answered c media).core =
      { d.core with
        registry := d.registry.modify c.id ({ · with video := media, state := .active })
        posture := d.posture.current.afterMove
          (Registry.adjust c.id ({ · with video := media, state := .active }) d.registry.calls)
          c.bearer (some .incoming) (some .active) } := by
  unfold answered
  rw [core_callMoved]
  rfl

@[simp] theorem registry_answered (d : Desk) (c : Call) (media : VideoState) :
    (d.answered c media).registry =
      d.registry.modify c.id ({ · with video := media, state := .active }) :=
  congrArg Core.registry (core_answered d c media)

theorem ends_callAnswered (h : c ∈ d.registry.calls) {Q : Unit → Desk → Prop}
    {E : CallError → Desk → Prop} :
    (callAnswered c.id).Ends d Q E ↔
      Q () (d.callMoved c.bearer (some .incoming) (some c.state)) := by
  unfold callAnswered
  simp only [ends_bind, ends_get, ends_ofExcept, Registry.require_of_mem h, ends_modify]

/-- Once telephony has complied, a call is answered without fail. -/
theorem ends_pickUp (h : c ∈ d.registry.calls) {media : VideoState} {Q : Unit → Desk → Prop}
    {E : CallError → Desk → Prop}
    (hQ : Q () ((d.telephoned (.answer c media)).answered c media))
    (hE : E (d.outside.failure (.telephony (.answer c media))) (d.telephoned (.answer c media))) :
    (do
      telephone (.answer c media)
      let prior ← amend c.id ({ · with video := media, state := .active })
      modify (·.emit (.callStateChanged c.id prior.state .active))
      callAnswered c.id : DeskM Unit).Ends d Q E := by
  rw [ends_bind]
  refine ends_telephone ?_ hE
  have ht : c ∈ (d.telephoned (.answer c media)).registry.calls := by simpa using h
  have ha := mem_amended (f := ({ · with video := media, state := .active })) ht
  rw [ends_bind, ends_amend_of_mem ht, ends_bind, ends_modify]
  exact (ends_callAnswered (d := ((d.telephoned _).amended c.id _).emit _) ha).mpr hQ

/-- The call `id` is the active one with the lowest number. -/
def leads (d : Desk) (id : CallId) : Bool :=
  (d.registry.findByState .active).head?.any fun c => c.id == id

/-- The desk once the audio side has heard that the bearer of `c` was `old`. -/
def rebeared (d : Desk) (c : Call) (old : Bearer) : Desk :=
  match bearerSignal? old c.bearer with
  | some signal => (if d.leads c.id then (d.dispatch signal).2 else d).reconcile
  | none => d.reconcile

theorem bearerSignal?_eq {old new : Bearer} {s : Signal} (h : bearerSignal? old new = some s) :
    s = .csBecameIms ∨ s = .imsBecameCs := by
  unfold bearerSignal? at h
  split at h
  · exact .inl (Option.some.inj h).symm
  · exact .inr (Option.some.inj h).symm
  · cases h

/-- A change of bearer is a signal at most, and the correction after it. -/
theorem core_rebeared (d : Desk) (c : Call) (old : Bearer) :
    ∃ p, (d.rebeared c old).core = { d.core with posture := p.settle d.tally } ∧
      (p = d.posture.current ∨ ∃ s, (s = .csBecameIms ∨ s = .imsBecameCs) ∧
        p = d.posture.current.after d.tally s) := by
  unfold rebeared
  split
  · rename_i s hs
    have hbearer := bearerSignal?_eq hs
    have hcall : s.isCall = true := by rcases hbearer with rfl | rfl <;> rfl
    split
    · have hd := core_dispatch_call d hcall
      have hr : (d.dispatch s).2.registry = d.registry := congrArg Core.registry hd
      have hp := congrArg Core.posture hd
      have ht : (d.dispatch s).2.tally = d.tally := by rw [tally, hr, tally]
      refine ⟨(d.dispatch s).2.posture.current, ?_, .inr ⟨s, hbearer, hp⟩⟩
      rw [core_reconcile, hd, ht]
    · exact ⟨_, core_reconcile d, .inl rfl⟩
  · exact ⟨_, core_reconcile d, .inl rfl⟩

/-- The desk once the audio side has heard of a change of bearer. There is a signal only if the call
is the one that leads. -/
def handedOver (d : Desk) (leading : Bool) (old new : Bearer) : Desk :=
  match bearerSignal? old new with
  | some signal => (if leading then (d.dispatch signal).2 else d).reconcile
  | none => d.reconcile

/-- The audio side hears of a registered call's bearer without fail. -/
theorem ends_bearerChanged_of_mem (h : c ∈ d.registry.calls) {old new : Bearer}
    {Q : Unit → Desk → Prop} {E : CallError → Desk → Prop} :
    (bearerChanged c.id old new).Ends d Q E ↔ Q () (d.handedOver (d.leads c.id) old new) := by
  unfold bearerChanged handedOver
  simp only [ends_bind, ends_get, ends_ofExcept, Registry.require_of_mem h]
  cases bearerSignal? old new with
  | none => rfl
  | some signal =>
    simp only [ends_bind, ends_ite, ends_modify]
    by_cases hl : d.leads c.id = true
    · have hl' : (d.registry.findByState .active).head?.any (fun x => x.id == c.id) = true := hl
      simp [hl, hl']
    · have hl' : ¬(d.registry.findByState .active).head?.any (fun x => x.id == c.id) = true := hl
      simp [hl, hl']

theorem ends_bearerChanged (h : c ∈ d.registry.calls) {old : Bearer} {Q : Unit → Desk → Prop}
    {E : CallError → Desk → Prop} :
    (bearerChanged c.id old c.bearer).Ends d Q E ↔ Q () (d.rebeared c old) :=
  ends_bearerChanged_of_mem h

/-- The desk after the registered call `id` was to have another video state. -/
def shown (d : Desk) (id : CallId) (old new : VideoState) : Desk :=
  let d := d.amended id ({ · with video := new })
  let d := if old = new then d else d.emit (.videoStateChanged id old new)
  if old.isVideoCall = new.isVideoCall then d else d.routeVideo.2

/-- Of the core a change of the video state touches the record alone. -/
theorem core_shown (d : Desk) (id : CallId) (old new : VideoState) :
    (d.shown id old new).core =
      { d.core with registry := d.registry.modify id ({ · with video := new }) } := by
  unfold shown
  dsimp only
  split
  · split <;> rfl
  · rw [core_routeVideo]
    split <;> rfl

/-- The video state of a registered call can always be changed. -/
theorem ends_videoChanged (h : c ∈ d.registry.calls) {old new : VideoState}
    {Q : Unit → Desk → Prop} {E : CallError → Desk → Prop} :
    (videoChanged c.id old new).Ends d Q E ↔ Q () (d.shown c.id old new) := by
  unfold videoChanged shown
  simp only [ends_bind, ends_get, ends_ofExcept, Registry.update_of_mem h, ends_modify, ends_ite,
    ends_pure]
  split <;> split <;> simp_all [amended]

end Desk

end Switchboard
