import Switchboard.Desk.Operation
import Switchboard.Proofs.Desk.History
import Switchboard.Proofs.Desk.Sure

/-!
# Refusals leave no trace

An operation looks at everything that may speak against it before it changes anything. So one that
is refused has told at most what admission decided; and one that asks telephony first and is not
heard has lost the time that telephony took, and nothing else (`refusals_traceless`).

* `CallError.isRefusal`: the failures that are refusals.
* `Unspoilt`, `Untraced`: what a failure leaves behind, where telephony is asked first and
  elsewhere.
* `Desk.told`, `Desk.unheard`: the desk after a refusal, and after telephony was asked in vain.
-/

namespace Switchboard

open Admission (Action Decision Outcome Request)

/-- The operation is refused; it did not merely come to grief. -/
def CallError.isRefusal : CallError → Bool
  | notAllowed _ | dialInProgress | callNotFound _ | invalidState .. | unsupported ..
  | deviceUnavailable _ | notInitialized | alreadyInitialized => true
  | _ => false

/-- Telephony has failed. -/
def CallError.isBackend : CallError → Bool
  | backend .. => true
  | _ => false

theorem CallError.isBackend_of_isUnfit {e : CallError} (h : e.isUnfit = true) :
    e.isBackend = false := by
  cases e <;> first | rfl | cases h

/-- The operation asks telephony before it changes anything, and never a second time unless that may
fail without harm. -/
def Operation.AsksFirst : Operation → Prop
  | hold _ | hangUp _ | reject _ | switch _ | combine _ | separate _ | kickOut _ | join ..
  | startRtt .. | stopRtt _ | setImsMode .. | startDtmf .. | stopDtmf _ => True
  | _ => False

/-- The reply is nothing but failures, which are such as `P` says. -/
def Reply.Fails (P : CallError → Prop) : Reply → Prop
  | .result r => ∃ e, r = .error e ∧ P e
  | .dialed r => ∃ e, r = .error e ∧ P e
  | .arrived r => ∃ e, r = .error e ∧ P e
  | .results rs => ∀ r ∈ rs, ∃ e, r = .error e ∧ P e
  | .dialedTogether rs => ∀ r ∈ rs, ∃ e, r = .error e ∧ P e
  | .nothing | .flag _ => False

namespace Desk

open DeskM

variable {d d' : Desk} {c : Call} {id : CallId} {calls : List Call}

/-! ## Operations that ask telephony first -/

/-- A failure that has changed nothing: the operation was refused, or telephony was asked in vain.
-/
def Unspoilt (d : Desk) (e : CallError) (d' : Desk) : Prop :=
  (e.isRefusal = true → d' = d) ∧ (e.isBackend = true → ∃ command, d' = d.unheard command)

theorem unspoilt_refl {e : CallError} (h : e.isBackend = false) : Unspoilt d e d :=
  ⟨fun _ => rfl, by simp [h]⟩

theorem unspoilt_of_isUnfit {e : CallError} (h : e.isUnfit = true) : Unspoilt d e d :=
  unspoilt_refl (CallError.isBackend_of_isUnfit h)

/-- An operation that says no before it has asked telephony. -/
theorem unspoilt_throw {α : Type} {e : CallError} (h : e.isBackend = false) {f : α → DeskM Unit} :
    ((throw e : DeskM α) >>= f).Ends d (fun _ _ => True) (Unspoilt d) := by
  rw [ends_bind, ends_throw]
  exact unspoilt_refl h

/-- Services that fail do not refuse. -/
theorem isRefusal_failure (o : Outside) (demand : Demand) :
    (o.failure demand).isRefusal = false := by
  cases ht : demand.isTelephony with
  | true =>
    cases demand with
    | telephony command =>
      obtain ⟨operation, message, he⟩ := o.failure_telephony command
      rw [he]
      rfl
    | _ => cases ht
  | false =>
    obtain ⟨resource, reason, he⟩ := o.failures.devices o.log.length demand ht
    rw [Outside.failure, he]
    rfl

theorem unspoilt_unheard (command : Command) :
    Unspoilt d (d.outside.failure (.telephony command)) (d.unheard command) :=
  ⟨fun hr => by simp [isRefusal_failure] at hr, fun _ => ⟨command, rfl⟩⟩

/-- If nothing fails once telephony has complied, then no failure has changed anything. -/
theorem unspoilt_asked {command : Command} {x : DeskM Unit}
    (hx : x.Sure (d.telephoned command) fun _ => True) :
    (do telephone command; x).Ends d (fun _ _ => True) (Unspoilt d) := by
  rw [ends_bind]
  exact ends_telephone_unheard hx.ends (unspoilt_unheard command)

/-- A request that is nothing but a demand on telephony. -/
theorem unspoilt_telephone (command : Command) :
    (telephone command).Ends d (fun _ _ => True) (Unspoilt d) :=
  ends_telephone_unheard trivial (unspoilt_unheard command)

theorem hold_unspoilt (id : CallId) (d : Desk) :
    (hold id).Ends d (fun _ _ => True) (Unspoilt d) := by
  unfold hold
  rw [ends_bind]
  refine ends_callIn (fun c hc hid _ => ?_) fun _ => unspoilt_of_isUnfit
  subst hid
  refine unspoilt_asked ((sure_setState ?_ .holding).mono fun _ _ => trivial)
  simpa using id_mem_ids hc

theorem reject_unspoilt (id : CallId) (d : Desk) :
    (reject id).Ends d (fun _ _ => True) (Unspoilt d) := by
  unfold reject
  rw [ends_bind]
  refine ends_callIn (fun c hc hid _ => ?_) fun _ => unspoilt_of_isUnfit
  refine unspoilt_asked ((ends_bind _).mpr ?_)
  rw [ends_get]
  refine (sure_keepHeld fun x hx => ?_).bind fun _ d' _ => sure_unregister id d'
  exact id_mem_ids (List.mem_filter.mp hx).1

/-- Once telephony has ended the call, hanging up succeeds, whether or not another one can be
resumed. -/
theorem hangUp_unspoilt (id : CallId) (d : Desk) :
    (hangUp id).Ends d (fun _ _ => True) (Unspoilt d) := by
  unfold hangUp
  rw [ends_bind]
  refine ends_call (fun c hc hid => ?_) fun _ => unspoilt_of_isUnfit rfl
  subst hid
  split
  · exact unspoilt_throw rfl
  refine unspoilt_asked ((sure_finish ?_ .normal).bind fun _ d₁ _ => (ends_bind _).mpr ?_)
  · simpa using id_mem_ids hc
  · rw [ends_get]
    split
    · split
      · -- The call that is resumed may not be, and the request has succeeded all the same.
        exact (ends_tryCatch _).mpr (ends_any _ _)
      · trivial
    · trivial

/-- A switch asks telephony once, and then moves calls that are registered. -/
theorem switch_unspoilt (id : CallId) (d : Desk) :
    (switch id).Ends d (fun _ _ => True) (Unspoilt d) := by
  -- Both kinds of switch end alike: the one is asked of a held call, the other of the active one.
  have swap {c : Call} {toHold : List Call} {id : CallId} (hid : id ∈ d.ids)
      (hhold : ∀ x ∈ toHold, x.id ∈ d.ids) :
      (do
        telephone (.switch c)
        setStates .holding toHold
        setState id .active).Ends d (fun _ _ => True) (Unspoilt d) := by
    refine unspoilt_asked ((sure_setStates .holding (by simpa using hhold)).bind fun _ d₁ h₁ => ?_)
    refine (sure_setState ?_ .active).mono fun _ _ => trivial
    simpa [h₁] using hid
  unfold switch
  rw [ends_bind]
  refine ends_callIn (fun c hc hid _ => ?_) fun _ => unspoilt_of_isUnfit
  rw [ends_bind, ends_get]
  dsimp only
  split
  · rw [ends_bind, ends_pure]
    split
    · exact unspoilt_throw rfl
    · exact swap (id_mem_ids hc) fun x hx => id_mem_ids (List.mem_filter.mp hx).1
  · split
    · rename_i held hheld
      rw [ends_bind, ends_pure]
      have hmem : held ∈ d.registry.findByState .holding := List.mem_of_mem_head? hheld
      split
      · exact unspoilt_throw rfl
      · exact swap (id_mem_ids (List.mem_filter.mp hmem).1) fun x hx =>
          List.mem_singleton.mp hx ▸ id_mem_ids hc
    · exact unspoilt_throw rfl

/-- A combination asks telephony once, and then edits calls that are registered. -/
theorem combine_unspoilt (id : CallId) (d : Desk) :
    (combine id).Ends d (fun _ _ => True) (Unspoilt d) := by
  unfold combine
  rw [ends_bind]
  refine ends_callIn (fun c hc hid _ => ?_) fun _ => unspoilt_of_isUnfit
  subst hid
  rw [ends_bind, ends_get]
  dsimp only
  split
  · exact unspoilt_throw rfl
  refine unspoilt_asked ((sure_amend ?_ _).discard_bind fun d₁ h₁ => ?_)
  · simpa using id_mem_ids hc
  refine (sure_joinPeers c.id fun x hx => ?_).mono fun _ _ => trivial
  rw [h₁, ids_telephoned]
  exact id_mem_ids (List.mem_filter.mp hx).1

/-- A separation asks telephony once. What it does to the conference afterwards cannot fail. -/
theorem separate_unspoilt (id : CallId) (d : Desk) :
    (separate id).Ends d (fun _ _ => True) (Unspoilt d) := by
  unfold separate
  rw [ends_bind]
  refine ends_member (fun c hc main hid _ => ?_) fun _ => unspoilt_of_isUnfit
  subst hid
  have hid : c.id ∈ (d.telephoned (.separate c)).ids := by simpa using id_mem_ids hc
  refine unspoilt_asked ((sure_amend hid _).discard_bind fun d₁ h₁ => (ends_bind _).mpr ?_)
  rw [ends_get]
  refine (sure_setStates .holding fun x hx => ?_).bind fun _ d₂ h₂ => ?_
  · exact id_mem_ids (List.mem_filter.mp (List.mem_filter.mp hx).1).1
  refine (sure_dissolveIfSingle main d₂).bind fun _ d₃ h₃ => ?_
  split
  · refine (sure_setState ?_ .active).mono fun _ _ => trivial
    rw [h₃, h₂, h₁]
    exact hid
  · trivial

theorem kickOut_unspoilt (id : CallId) (d : Desk) :
    (kickOut id).Ends d (fun _ _ => True) (Unspoilt d) := by
  unfold kickOut
  rw [ends_bind]
  refine ends_member (fun c hc main hid _ => ?_) fun _ => unspoilt_of_isUnfit
  subst hid
  refine unspoilt_asked ((sure_finish ?_ .normal).bind fun _ d₁ _ =>
    (sure_dissolveIfSingle main d₁).mono fun _ _ => trivial)
  simpa using id_mem_ids hc

theorem join_unspoilt (id : CallId) (numbers : List String) (d : Desk) :
    (join id numbers).Ends d (fun _ _ => True) (Unspoilt d) := by
  unfold join
  rw [ends_bind]
  refine ends_callIn (fun c _ _ _ => ?_) fun _ => unspoilt_of_isUnfit
  split
  · exact unspoilt_throw rfl
  · exact unspoilt_telephone _

theorem startRtt_unspoilt (id : CallId) (text : String) (d : Desk) :
    (startRtt id text).Ends d (fun _ _ => True) (Unspoilt d) := by
  unfold startRtt
  rw [ends_bind]
  exact ends_imsCall (fun _ _ _ => unspoilt_telephone _) fun _ => unspoilt_of_isUnfit

theorem stopRtt_unspoilt (id : CallId) (d : Desk) :
    (stopRtt id).Ends d (fun _ _ => True) (Unspoilt d) := by
  unfold stopRtt
  rw [ends_bind]
  exact ends_imsCall (fun _ _ _ => unspoilt_telephone _) fun _ => unspoilt_of_isUnfit

theorem setImsMode_unspoilt (id : CallId) (mode : ImsMode) (d : Desk) :
    (setImsMode id mode).Ends d (fun _ _ => True) (Unspoilt d) := by
  unfold setImsMode
  rw [ends_bind]
  refine ends_imsCall (fun c hc hid => ?_) fun _ => unspoilt_of_isUnfit
  subst hid
  refine unspoilt_asked (sure_videoChanged ?_ c.video mode.video)
  simpa using id_mem_ids hc

theorem startDtmf_unspoilt (id : CallId) (digit : Char) (d : Desk) :
    (startDtmf id digit).Ends d (fun _ _ => True) (Unspoilt d) := by
  unfold startDtmf
  rw [ends_bind]
  exact ends_callIn (fun _ _ _ _ => unspoilt_asked trivial) fun _ => unspoilt_of_isUnfit

theorem stopDtmf_unspoilt (id : CallId) (d : Desk) :
    (stopDtmf id).Ends d (fun _ _ => True) (Unspoilt d) := by
  unfold stopDtmf
  rw [ends_bind]
  exact ends_callIn (fun _ _ _ _ => unspoilt_asked trivial) fun _ => unspoilt_of_isUnfit

/-! ## Operations that may come to grief halfway -/

/-- The desk once it was told what admission decided. -/
def told (d : Desk) (decisions : List (Option CallId × Decision)) : Desk :=
  decisions.foldl (fun d x => d.emit (.admissionDecided x.1 x.2)) d

/-- A failure that leaves no trace if it is a refusal. -/
def Untraced (d : Desk) (e : CallError) (d' : Desk) : Prop :=
  e.isRefusal = true → ∃ decisions, d' = d.told decisions

theorem untraced_refl (d : Desk) (e : CallError) : Untraced d e d := fun _ => ⟨[], rfl⟩

/-- A failure right after admission has decided leaves that decision in the journal. -/
theorem untraced_decided (d : Desk) (e : CallError) (id : Option CallId) (decision : Decision) :
    Untraced d e (d.emit (.admissionDecided id decision)) := fun _ => ⟨[(id, decision)], rfl⟩

/-- A failure that is no refusal. -/
theorem untraced_of_false {e : CallError} (h : e.isRefusal = false) : Untraced d e d' := by
  intro ht
  rw [h] at ht
  cases ht

/-- What looks a registered call up and asks telephony first is not refused. -/
theorem unrefused_commanded {command : Call → Command} {x : DeskM Unit} (h : id ∈ d.ids)
    (hx : ∀ c, x.Sure (d.telephoned (command c)) fun _ => True) :
    (do
      telephone (command (← call id))
      x : DeskM Unit).Ends d (fun _ _ => True) fun e _ => e.isRefusal = false := by
  rw [ends_bind]
  refine ends_call (fun c _ _ => ?_) fun ha => ?_
  · rw [ends_bind]
    exact ends_telephone (hx c).ends (isRefusal_failure _ _)
  · obtain ⟨c, hc, hid⟩ := List.mem_map.mp h
    exact absurd hid (ha c hc)

/-- An action on a registered call is not refused, though telephony may fail. -/
theorem act_unrefused {a : Action} (h : a.target ∈ d.ids) :
    (act a).Ends d (fun _ _ => True) fun e _ => e.isRefusal = false := by
  cases a with
  | hold id =>
    have hid (command : Command) : id ∈ (d.telephoned command).ids := (ids_telephoned d _).symm ▸ h
    exact unrefused_commanded h fun c => (sure_setState (hid _) .holding).mono fun _ _ => trivial
  | hangUp id =>
    have hid (command : Command) : id ∈ (d.telephoned command).ids := (ids_telephoned d _).symm ▸ h
    exact unrefused_commanded h fun c => sure_finish (hid _) .normal
  | reject id => exact unrefused_commanded h fun c => sure_unregister id _

/-- Actions that are done to different registered calls are not refused. -/
theorem actAll_unrefused {actions : List Action} (hn : (actions.map (·.target)).Nodup)
    (hm : ∀ a ∈ actions, a.target ∈ d.ids) :
    (actAll actions).Ends d (fun _ _ => True) fun e _ => e.isRefusal = false := by
  induction actions generalizing d with
  | nil => trivial
  | cons a rest ih =>
    obtain ⟨hne, hrest⟩ := List.nodup_cons.mp hn
    unfold actAll
    rw [ends_bind]
    refine ((act_unrefused (hm a (by simp))).and (act_applies a d)).mono (fun _ d₁ h₁ => ?_)
      fun _ _ h => h.1
    refine ih hrest fun b hb => ?_
    -- The call of a later action is not the one that this action was done to.
    obtain ⟨c, hc, hid⟩ := List.mem_map.mp (hm b (by simp [hb]))
    have hspared : ∀ a' ∈ [a], a'.target ≠ c.id := by
      intro a' ha' ht
      obtain rfl := List.mem_singleton.mp ha'
      exact hne (List.mem_map.mpr ⟨b, hb, hid.symm.trans ht.symm⟩)
    have hmem : c ∈ d₁.registry.calls := by
      rw [h₁.2.1]
      exact Admission.mem_applyAll_of_spared hc hspared
    rw [← hid]
    exact id_mem_ids hmem

/-- The actions that admission asks for are not refused. -/
theorem evaluated_unrefused (p : Admission.Policy) (request : Request)
    (hc : d.registry.calls = calls) :
    (actAll (p.evaluate request calls).actions).Ends d (fun _ _ => True)
      fun e _ => e.isRefusal = false := by
  subst hc
  have ht : (p.evaluate request d.registry.calls).Targets d.registry.calls :=
    (p.evaluate_targets request d.registry.calls).of_sublist List.filter_sublist
  refine actAll_unrefused (ht.nodup d.nodup_ids) fun a ha => ?_
  obtain ⟨c, hc, hid⟩ := ht.exists_mem ha
  rw [← hid]
  exact id_mem_ids hc

theorem calls_emit (d : Desk) (e : Event) : (d.emit e).registry.calls = d.registry.calls := rfl

/-- A dial request that is refused has told what admission decided and has given out no number. -/
theorem dialAdmitted_untraced (request : DialRequest) (d : Desk) :
    (dialAdmitted request).Ends d (fun _ _ => True) fun e d' => e.isRefusal = true →
      ∃ decision, d' = d.emit (.admissionDecided none decision) := by
  have hfalse {e : CallError} {d' : Desk} (h : e.isRefusal = false) : e.isRefusal = true →
      ∃ decision, d' = d.emit (.admissionDecided none decision) := fun ht => by
    rw [h] at ht
    cases ht
  unfold dialAdmitted
  rw [ends_bind, ends_evaluate, ends_ite]
  refine ⟨fun _ => ?_, fun _ => ?_⟩
  · rw [ends_bind, ends_throw]
    exact fun _ => ⟨_, rfl⟩
  rw [ends_bind]
  refine (evaluated_unrefused _ _ (calls_emit _ _)).mono (fun _ d₁ _ => ?_) fun _ _ => hfalse
  rw [ends_bind, ends_allocate, ends_bind]
  refine ends_register (fun registry hins => ?_) fun _ => hfalse rfl
  rw [ends_bind, ends_tryCatch]
  refine ends_telephone trivial ?_
  rw [ends_bind]
  exact Ends.mono (sure_unregister _ _) (fun _ _ _ => hfalse (isRefusal_failure _ _))
    fun _ _ => False.elim

theorem dial_untraced (request : DialRequest) (d : Desk) :
    (dial request).Ends d (fun _ _ => True) (Untraced d) := by
  unfold dial
  rw [ends_bind, ends_get]
  split
  · rw [ends_bind, ends_throw]
    exact untraced_refl d _
  · rename_i hd
    have hd : d.dialing = false := eq_false_of_ne_true hd
    refine ends_whileDialing.mpr ((dialAdmitted_untraced request _).mono (fun _ _ _ => trivial)
      fun e d' h hr => ?_)
    obtain ⟨decision, rfl⟩ := h hr
    refine ⟨[(none, decision)], ?_⟩
    show { d.emit (.admissionDecided none decision) with dialing := false } = _
    rw [← hd]
    rfl

theorem arrive_untraced (arrival : Arrival) (d : Desk) :
    (arrive arrival).Ends d (fun _ _ => True) (Untraced d) := by
  unfold arrive
  rw [ends_bind, ends_allocate, ends_bind, ends_evaluate, ends_ite]
  refine ⟨fun _ => ?_, fun _ => ?_⟩
  · rw [ends_bind]
    exact ends_telephone trivial (untraced_of_false (isRefusal_failure _ _))
  rw [ends_bind, ends_tryCatch]
  refine (evaluated_unrefused _ _ (calls_emit _ _)).mono (fun _ d₁ _ => ?_) fun e d₁ he => ?_
  · rw [ends_bind]
    exact ends_register (fun _ _ => trivial) fun _ => untraced_of_false rfl
  · rw [ends_bind, ends_tryCatch]
    exact ends_telephone (untraced_of_false he) (untraced_of_false he)

theorem answer_untraced (id : CallId) (media : VideoState) (d : Desk) :
    (answer id media).Ends d (fun _ _ => True) (Untraced d) := by
  unfold answer
  rw [ends_bind]
  refine ends_callIn (fun c hc hid _ => ?_) fun e _ => untraced_refl d e
  subst hid
  rw [ends_ite]
  refine ⟨fun _ => ?_, fun _ =>
    ends_pickUp hc trivial (untraced_of_false (isRefusal_failure _ _))⟩
  rw [ends_bind, ends_evaluate, ends_ite]
  refine ⟨fun _ => ?_, fun _ => ?_⟩
  · rw [ends_bind, ends_throw]
    exact untraced_decided d _ _ _
  rw [ends_bind]
  refine ((evaluated_unrefused _ _ (calls_emit _ _)).and (actAll_applies _ _)).mono
    (fun _ d₁ h₁ => ?_)
    fun _ _ h => untraced_of_false h.1
  have hc₁ : c ∈ d₁.registry.calls := by
    rw [h₁.2.1]
    exact Admission.mem_applyAll_of_spared hc
      (Admission.Policy.evaluate_answer_spares _ _ c media)
  exact ends_pickUp hc₁ trivial (untraced_of_false (isRefusal_failure _ _))

theorem holdAll_unrefused (h : ∀ c ∈ calls, c.id ∈ d.ids) :
    (holdAll calls).Ends d (fun _ d' => d'.ids = d.ids) fun e _ => e.isRefusal = false := by
  induction calls generalizing d with
  | nil => exact rfl
  | cons c rest ih =>
    unfold holdAll
    rw [ends_bind]
    refine ends_telephone ?_ (isRefusal_failure _ _)
    rw [ends_bind]
    refine Ends.mono (sure_setState (by simpa using h c (by simp)) .holding) (fun _ d₁ h₁ => ?_)
      fun _ _ => False.elim
    have hids : d₁.ids = d.ids := h₁.trans (ids_telephoned d _)
    exact (ih fun x hx => hids ▸ h x (by simp [hx])).mono (fun _ _ h => h.trans hids)
      fun _ _ h => h

theorem unhold_untraced (id : CallId) (d : Desk) :
    (unhold id).Ends d (fun _ _ => True) (Untraced d) := by
  unfold unhold
  rw [ends_bind]
  refine ends_callIn (fun c hc hid _ => ?_) fun e _ => untraced_refl d e
  subst hid
  rw [ends_bind, ends_get, ends_bind]
  refine (holdAll_unrefused fun x hx => id_mem_ids (List.mem_filter.mp hx).1).mono
    (fun _ d₁ h₁ => ?_) fun _ _ => untraced_of_false
  rw [ends_bind, ends_discard]
  refine Ends.mono (sure_amend (h₁ ▸ id_mem_ids hc) _) (fun _ d₂ h₂ => ?_) fun _ _ => False.elim
  unfold resume
  rw [ends_bind]
  refine ends_telephone ?_ (untraced_of_false (isRefusal_failure _ _))
  have hid : c.id ∈ (d₂.telephoned (.unhold c)).ids := by
    rw [ids_telephoned, h₂, h₁]
    exact id_mem_ids hc
  exact (sure_setState hid .active).ends

/-! ## Reports and choices -/

/-- A report on a registered call is never refused. -/
theorem reportState_untraced (id : CallId) (state : CallState) (ended : Option EndReason)
    (d : Desk) : (reportState id state ended).Ends d (fun _ _ => True) (Untraced d) := by
  have moved {d₁ : Desk} (h : id ∈ d₁.ids) :
      (if state = .disconnected ∨ state = .idle then do
        setState id .disconnected
        unregister id
      else setState id state).Sure d₁ fun _ => True := by
    split
    · exact (sure_setState h _).bind fun _ d₂ _ => sure_unregister id d₂
    · exact (sure_setState h _).mono fun _ _ => trivial
  unfold reportState
  rw [ends_bind, ends_discard]
  refine ends_call (fun c hc hid => ?_) fun _ => untraced_refl d _
  subst hid
  cases ended with
  | none => exact (moved (id_mem_ids hc)).ends
  | some reason =>
    dsimp only
    refine Sure.ends (Q := fun _ => True) (Sure.discard_bind (sure_amend (id_mem_ids hc) _) ?_)
    exact fun d₁ h₁ => moved (h₁ ▸ id_mem_ids hc)

theorem reportBearer_untraced (id : CallId) (bearer : Bearer) (d : Desk) :
    (reportBearer id bearer).Ends d (fun _ _ => True) (Untraced d) := by
  unfold reportBearer
  rw [ends_bind]
  rcases d.registry.exists_or_absent id with ⟨c, hc, rfl⟩ | ha
  · rw [ends_amend_of_mem hc]
    have hb : { c with bearer } ∈ (d.amended c.id ({ · with bearer })).registry.calls :=
      mem_amended hc
    split
    · exact (ends_bearerChanged hb).mpr trivial
    · trivial
  · exact ends_amend (fun c hc hid => absurd hid (ha c hc)) fun _ => untraced_refl d _

theorem reportVideo_untraced (id : CallId) (media : VideoState) (d : Desk) :
    (reportVideo id media).Ends d (fun _ _ => True) (Untraced d) := by
  unfold reportVideo
  rw [ends_bind]
  refine ends_call (fun c hc hid => ?_) fun _ => untraced_refl d _
  subst hid
  exact (sure_videoChanged (id_mem_ids hc) _ _).ends

/-- The platform may refuse to mute the microphone; that is no refusal of the request. -/
theorem setMute_untraced (muted : Bool) (d : Desk) :
    (setMute muted).Ends d (fun _ _ => True) (Untraced d) := by
  unfold setMute
  rw [ends_bind, ends_get]
  dsimp only
  split
  · rw [ends_bind, ends_modifyGet]
    split
    · trivial
    · rw [ends_bind, ends_throw]
      exact untraced_of_false (isRefusal_failure _ _)
  · trivial

/-- A device that is not at hand is refused, and the route stays. -/
theorem setDevice_untraced (device : Device) (d : Desk) :
    (setDevice device).Ends d (fun _ _ => True) (Untraced d) := by
  unfold setDevice
  rw [ends_bind, ends_get, ends_bind, ends_ofExcept]
  split
  · split <;> trivial
  · exact untraced_refl d _

/-- A desk that is in service already stays as it is. -/
theorem start_untraced (d : Desk) : start.Ends d (fun _ _ => True) (Untraced d) := by
  unfold start
  rw [ends_bind, ends_get]
  split
  · rw [ends_bind, ends_throw]
    exact untraced_refl d _
  · rename_i hs
    have hs : d.started = false := eq_false_of_ne_true hs
    have hback : ({ d with started := false } : Desk) = d := by rw [← hs]
    rw [ends_bind, ends_modify, ends_tryCatch]
    unfold openQueue
    rw [ends_bind, ends_get]
    split
    · rw [ends_bind, ends_throw, ends_bind, ends_modify, ends_throw]
      exact fun _ => ⟨[], hback⟩
    · trivial

/-- A desk whose queue was closed before goes out of service when it is told to, and says that it
was not in service. -/
theorem shutdown_untraced (d : Desk) :
    shutdown.Ends d (fun _ _ => True) fun _ d' =>
      d' = d ∨ (d.queue = none ∧ d' = { d with started := false }) := by
  unfold shutdown
  rw [ends_bind, ends_get]
  split
  · rw [ends_bind, ends_modify]
    unfold closeQueue
    rw [ends_bind, ends_get]
    split
    · rename_i hq
      rw [ends_bind, ends_throw]
      exact .inr ⟨Option.isNone_iff_eq_none.mp hq, rfl⟩
    · trivial
  · rw [ends_bind, ends_throw]
    exact .inl rfl

/-! ## Dialing at once -/

/-- Dials for requests one after the other. -/
def dialEach : List DialRequest → Desk → List (Except CallError CallId) × Desk
  | [], d => ([], d)
  | request :: rest, d =>
    let (result, d) := (inService (dial request)).perform d
    let (results, d) := dialEach rest d
    (result :: results, d)

/-- Of requests that are made at once a first part is carried out one after the other. The rest is
not carried out: it finds a call being dialed. -/
theorem dialTogether_eq (requests : List DialRequest) (d : Desk) :
    ∃ k ≤ requests.length, dialTogether requests d =
      ((dialEach (requests.take k) d).1 ++
          List.replicate (requests.length - k) (.error .dialInProgress),
        (dialEach (requests.take k) d).2) := by
  induction requests generalizing d with
  | nil => exact ⟨0, Nat.le_refl 0, rfl⟩
  | cons request rest ih =>
    unfold dialTogether
    dsimp only
    split
    · obtain ⟨k, hk, he⟩ := ih ((inService (dial request)).perform d).2
      refine ⟨k + 1, Nat.succ_le_succ hk, ?_⟩
      rw [he]
      simp [dialEach]
    · refine ⟨1, Nat.succ_le_succ (Nat.zero_le _), ?_⟩
      simp [dialEach, List.map_const']

/-! ## Whatever is asked of the desk -/

theorem untraced_inService {α : Type} {x : DeskM α}
    (hx : x.Ends d (fun _ _ => True) (Untraced d)) :
    (inService x).Ends d (fun _ _ => True) (Untraced d) :=
  ends_inService (fun _ => hx) fun _ => untraced_refl d _

theorem unspoilt_inService {x : DeskM Unit} (hx : x.Ends d (fun _ _ => True) (Unspoilt d)) :
    (inService x).Ends d (fun _ _ => True) (Unspoilt d) :=
  ends_inService (fun _ => hx) fun _ => ⟨fun _ => rfl, nofun⟩

/-- A reply that is a failure is the failure that the operation ended with. -/
theorem fails_conclude {x : DeskM Unit} {E : CallError → Desk → Prop} {P : CallError → Prop}
    (h : x.Ends d (fun _ _ => True) E) (hr : (Operation.conclude x d).1.Fails P) :
    ∃ e, P e ∧ E e (Operation.conclude x d).2 := by
  obtain ⟨e, he, hp⟩ := hr
  exact ⟨e, hp, h.failed he⟩

theorem told_append (d : Desk) (xs ys : List (Option CallId × Decision)) :
    (d.told xs).told ys = d.told (xs ++ ys) := List.foldl_append.symm

/-- Requests that are made at once and are all refused. -/
theorem dialTogether_told {requests : List DialRequest}
    (hr : ∀ r ∈ (dialTogether requests d).1, ∃ e, r = .error e ∧ e.isRefusal = true) :
    ∃ decisions, (dialTogether requests d).2 = d.told decisions := by
  induction requests generalizing d with
  | nil => exact ⟨[], rfl⟩
  | cons request rest ih =>
    unfold dialTogether at hr ⊢
    dsimp only at hr ⊢
    have hfirst (he : ∃ e, ((inService (dial request)).perform d).1 = .error e ∧
        e.isRefusal = true) :
        ∃ decisions, ((inService (dial request)).perform d).2 = d.told decisions := by
      obtain ⟨e, he, hrefused⟩ := he
      exact (untraced_inService (dial_untraced request d)).failed he hrefused
    split at hr
    -- The first request was carried out in turn and refused, and the rest goes on from its desk.
    · rename_i hturns
      rw [if_pos hturns]
      obtain ⟨decisions, hd⟩ := hfirst (hr _ (by simp))
      obtain ⟨more, hm⟩ := ih (d := ((inService (dial request)).perform d).2)
        fun r h => hr r (List.mem_cons_of_mem _ h)
      refine ⟨decisions ++ more, ?_⟩
      rw [← told_append, ← hd]
      exact hm
    · rename_i hturns
      rw [if_neg hturns]
      exact hfirst (hr _ (by simp))

/-- An operation that asks telephony first is spoilt by no failure. -/
theorem unspoilt_perform {o : Operation} (ho : o.AsksFirst) {P : CallError → Prop}
    (hr : (o.perform d).1.Fails P) : ∃ e, P e ∧ Unspoilt d e (o.perform d).2 := by
  have served {x : DeskM Unit} (h : x.Ends d (fun _ _ => True) (Unspoilt d))
      (hr : (Operation.conclude (inService x) d).1.Fails P) :
      ∃ e, P e ∧ Unspoilt d e (Operation.conclude (inService x) d).2 :=
    fails_conclude (unspoilt_inService h) hr
  cases o with
  | reject id => exact served (reject_unspoilt id d) hr
  | hangUp id => exact served (hangUp_unspoilt id d) hr
  | hold id => exact served (hold_unspoilt id d) hr
  | switch id => exact served (switch_unspoilt id d) hr
  | combine id => exact served (combine_unspoilt id d) hr
  | separate id => exact served (separate_unspoilt id d) hr
  | kickOut id => exact served (kickOut_unspoilt id d) hr
  | join id numbers => exact served (join_unspoilt id numbers d) hr
  | setImsMode id mode => exact served (setImsMode_unspoilt id mode d) hr
  | startRtt id text => exact served (startRtt_unspoilt id text d) hr
  | stopRtt id => exact served (stopRtt_unspoilt id d) hr
  | startDtmf id digit => exact served (startDtmf_unspoilt id digit d) hr
  | stopDtmf id => exact served (stopDtmf_unspoilt id d) hr
  | _ => exact ho.elim

/-- A refused operation has told at most what admission decided. -/
theorem told_perform {o : Operation} (hs : o ≠ .shutdown)
    (hr : (o.perform d).1.Fails (·.isRefusal = true)) :
    ∃ decisions, (o.perform d).2 = d.told decisions := by
  by_cases ho : o.AsksFirst
  · obtain ⟨e, he, hd⟩ := unspoilt_perform ho hr
    exact ⟨[], hd.1 he⟩
  have concluded {x : DeskM Unit} (h : x.Ends d (fun _ _ => True) (Untraced d))
      (hr : (Operation.conclude x d).1.Fails (·.isRefusal = true)) :
      ∃ decisions, (Operation.conclude x d).2 = d.told decisions := by
    obtain ⟨e, he, htraced⟩ := fails_conclude h hr
    exact htraced he
  have served {x : DeskM Unit} (h : x.Ends d (fun _ _ => True) (Untraced d))
      (hr : (Operation.conclude (inService x) d).1.Fails (·.isRefusal = true)) :
      ∃ decisions, (Operation.conclude (inService x) d).2 = d.told decisions :=
    concluded (untraced_inService h) hr
  cases o with
  | start => exact concluded (start_untraced d) hr
  | shutdown => exact absurd rfl hs
  | dial request =>
    obtain ⟨e, he, hrefused⟩ := hr
    exact (untraced_inService (dial_untraced request d)).failed he hrefused
  | dialTogether requests => exact dialTogether_told hr
  | arrive arrival =>
    obtain ⟨e, he, hrefused⟩ := hr
    exact (untraced_inService (arrive_untraced arrival d)).failed he hrefused
  | answer id media => exact served (answer_untraced id media d) hr
  | unhold id => exact served (unhold_untraced id d) hr
  | setMute muted => exact concluded (setMute_untraced muted d) hr
  | setDevice device => exact concluded (setDevice_untraced device d) hr
  | setRingerMode mode => exact hr.elim
  | reportState id state ended => exact served (reportState_untraced id state ended d) hr
  | reportBearer id bearer => exact served (reportBearer_untraced id bearer d) hr
  | reportVideo id media => exact served (reportVideo_untraced id media d) hr
  | reportHeadset connected | reportBluetooth connected => exact served trivial hr
  | _ => exact absurd trivial ho

/-- What was achieved outside is as before when telephony was asked in vain. -/
theorem achieved_unheard (d : Desk) (command : Command) :
    (d.unheard command).outside.achieved = d.outside.achieved := by
  have hk : d.kept.outside = d.outside := by
    unfold kept
    split <;> rfl
  unfold unheard Outside.achieved
  rw [hk]
  simp

/-- **Refusals leave no trace.** An operation that is refused has changed nothing and told nothing
but what admission decided; only a shutdown, of a desk whose queue was closed before, still takes
the desk out of service. An operation that asks telephony first, and fails because telephony does,
has changed nothing either, apart from what goes on by itself while telephony takes its time. Of
dial requests that are made at once, those that find another in progress are not carried out at all.
-/
theorem refusals_traceless (d : Desk) (o : Operation) :
    ((o.perform d).1.Fails (·.isRefusal = true) →
      (∃ decisions, (o.perform d).2 = d.told decisions) ∨
        (o = .shutdown ∧ d.queue = none ∧ (o.perform d).2 = { d with started := false })) ∧
    (o.AsksFirst → (o.perform d).1.Fails (·.isBackend = true) →
      ∃ command, (o.perform d).2 = d.unheard command ∧
        (d.unheard command).outside.achieved = d.outside.achieved) ∧
    ∀ requests, o = .dialTogether requests → ∃ k ≤ requests.length, o.perform d =
      (.dialedTogether ((dialEach (requests.take k) d).1 ++
          List.replicate (requests.length - k) (.error .dialInProgress)),
        (dialEach (requests.take k) d).2) := by
  refine ⟨fun hr => ?_, fun ho hr => ?_, fun requests ho => ?_⟩
  · by_cases hs : o = .shutdown
    · subst hs
      obtain ⟨e, -, hd | ⟨hq, hd⟩⟩ := fails_conclude (shutdown_untraced d) hr
      · exact .inl ⟨[], hd⟩
      · exact .inr ⟨rfl, hq, hd⟩
    · exact .inl (told_perform hs hr)
  · obtain ⟨e, he, hd⟩ := unspoilt_perform ho hr
    obtain ⟨command, hd⟩ := hd.2 he
    exact ⟨command, hd, achieved_unheard d command⟩
  · subst ho
    obtain ⟨k, hk, he⟩ := dialTogether_eq requests d
    refine ⟨k, hk, ?_⟩
    simp only [Operation.perform, he]

/-- A second call is not dialed while another one is; a call that telephony does not hold stays
active; and of two dial requests made at once each is carried out or finds the other in progress. -/
theorem refusals_traceless_hold :
    let run : List Happening := [.operation .start, .operation (.dial ⟨"1", 0, .cs, .voice, false⟩)]
    let d := standard.afterAll run
    let active := (d.after (.operation (.reportState 1 .active none))).after
      (.circumstance (.setFailing .hold true))
    let second : Operation := .dial ⟨"2", 0, .cs, .voice, false⟩
    let both : List DialRequest := [⟨"3", 0, .ims, .voice, false⟩, ⟨"4", 1, .cs, .voice, true⟩]
    ((second.perform d).1.Fails (·.isRefusal = true) ∧
      ((∃ decisions, (second.perform d).2 = d.told decisions) ∨
        (second = .shutdown ∧ d.queue = none ∧
          (second.perform d).2 = { d with started := false }))) ∧
    ((Operation.hold 1).AsksFirst ∧
      ((Operation.hold 1).perform active).1.Fails (·.isBackend = true) ∧
      ∃ command, ((Operation.hold 1).perform active).2 = active.unheard command ∧
        (active.unheard command).outside.achieved = active.outside.achieved) ∧
    ∃ k ≤ both.length, (Operation.dialTogether both).perform active =
      (.dialedTogether ((dialEach (both.take k) active).1 ++
          List.replicate (both.length - k) (.error .dialInProgress)),
        (dialEach (both.take k) active).2) := by
  intro run d active second both
  have hdial : ((inService (dial ⟨"2", 0, .cs, .voice, false⟩)).perform d).1 =
      .error (.notAllowed "a call is already connecting") := by decide +kernel
  have hhold : ((inService (hold 1)).perform active).1 =
      .error (.backend "hold" "injected failure") := by decide +kernel
  -- What led to the two desks does not matter any more.
  clear_value active d
  have hrefused : (second.perform d).1.Fails (·.isRefusal = true) := ⟨_, hdial, rfl⟩
  have hvain : ((Operation.hold 1).perform active).1.Fails (·.isBackend = true) := ⟨_, hhold, rfl⟩
  refine ⟨⟨hrefused, (refusals_traceless d second).1 hrefused⟩, ⟨trivial, hvain, ?_⟩, ?_⟩
  · exact (refusals_traceless active (.hold 1)).2.1 trivial hvain
  · exact (refusals_traceless active (.dialTogether both)).2.2 both rfl

end Desk

end Switchboard
