import Switchboard.Proofs.Desk.Numbering

/-!
# Requests are carried out as admission decides

A dial request, an arriving call and an answer are each put to admission, and what it decides is
carried out step by step, where any step may fail. However that ends, the calls are then those that
some first part of the actions makes of them; and if the request succeeds, it is all of the actions
and the one change that the request is for (`requests_executed`).
-/

namespace Switchboard.Desk

open Admission DeskM

variable {d d' : Desk} {n : Nat}

/-! ## What admission decides -/

/-- What admission decides about a dial request. -/
def dialOutcome (d : Desk) (request : DialRequest) : Outcome :=
  d.policy.evaluate (.dial request.slot request.bearer request.emergency) d.registry.calls

/-- What admission decides about a call that arrives. -/
def arrivalOutcome (d : Desk) (arrival : Arrival) : Outcome :=
  d.policy.evaluate (.incoming arrival.slot arrival.bearer) d.registry.calls

/-- What admission decides about the answer to `c`. -/
def answerOutcome (d : Desk) (c : Call) (media : VideoState) : Outcome :=
  d.policy.evaluate (.answer c media) d.registry.calls

/-- The record of a call that admission lets through, which rings or waits. -/
def arrived (arrival : Arrival) (id : CallId) (decision : Decision) : Call :=
  if decision = .queueAsWaiting then { arrival.toCall id with state := .waiting }
  else arrival.toCall id

/-! ## The requests -/

/-- A call that was registered and is taken out again leaves the calls as they were. -/
theorem ends_withdraw {c : Call} {registry : Registry} (h : d.registry.insert c = .ok registry)
    (command : Command) :
    (unregister c.id).Ends ((d.added c registry).telephoned command)
      (fun _ d' => d'.registry.calls = d.registry.calls) fun _ _ => False := by
  obtain ⟨hplaced, -, hnew⟩ := Registry.insert_eq_ok h
  have hc : c ∈ ((d.added c registry).telephoned command).registry.calls := by
    rw [registry_telephoned, registry_added, hplaced]
    exact Registry.mem_place.mpr (.inl rfl)
  rw [ends_unregister_of_mem hc, registry_dropped, registry_telephoned, registry_added]
  show registry.calls.filter _ = _
  rw [hplaced]
  exact Registry.filter_place hnew

/-- A dialed call is registered after all actions. If one fails, or the call itself, the call is not
there. -/
theorem dialAdmitted_executes (request : DialRequest) (d : Desk) :
    (dialAdmitted request).Ends d
      (fun id d' => id = d.registry.nextId ∧ (d.dialOutcome request).isRejected = false ∧
        d'.registry.calls = Registry.place (request.toCall id)
          (applyAll (d.dialOutcome request).actions d.registry.calls))
      (fun e d' => e ≠ .dialInProgress ∧
        Partly (d.dialOutcome request).actions d.registry.calls d'.registry.calls) := by
  unfold dialAdmitted
  rw [ends_bind, ends_evaluate, ends_ite]
  refine ⟨fun _ => ?_, fun hr => ?_⟩
  · rw [ends_bind, ends_throw]
    exact ⟨by simp [refusal], .none _ _⟩
  rw [ends_bind]
  refine (actAll_applies _ _).mono (fun _ d₁ h₁ => ?_) fun e d₁ h₁ => ⟨h₁.1, h₁.2.2⟩
  obtain ⟨hcalls, hn⟩ := h₁
  have hdone : Partly (d.dialOutcome request).actions d.registry.calls d₁.registry.calls := by
    rw [hcalls]
    exact .all _ _
  rw [ends_bind, ends_allocate, ends_bind]
  refine ends_register (fun registry hins => ?_) fun _ => ⟨by simp, hdone⟩
  rw [ends_bind, ends_tryCatch]
  refine ends_telephone ?_ ?_
  -- Telephony dials the call, and it stays.
  · rw [ends_pure, registry_telephoned, registry_added, (Registry.insert_eq_ok hins).1]
    exact ⟨hn, eq_false_of_ne_true hr, congrArg _ hcalls⟩
  · rw [ends_bind]
    -- Telephony does not, and the call is taken out again.
    refine (ends_withdraw hins _).mono (fun _ d₂ h₂ => ?_) fun _ _ => False.elim
    rw [ends_throw, h₂]
    exact ⟨Outside.failure_ne_dialInProgress _ _, hdone⟩

/-- A call that arrives is registered after all actions. If it is declined, or an action fails, it
is not there. -/
theorem arrive_executes (arrival : Arrival) (d : Desk) :
    (arrive arrival).Ends d
      (fun r d' => r = (d.registry.nextId, (d.arrivalOutcome arrival).decision) ∧
        d'.registry.calls =
          if (d.arrivalOutcome arrival).isRejected then d.registry.calls
          else Registry.place (arrived arrival r.1 r.2)
            (applyAll (d.arrivalOutcome arrival).actions d.registry.calls))
      (fun e d' => e ≠ .dialInProgress ∧
        Partly (d.arrivalOutcome arrival).actions d.registry.calls d'.registry.calls) := by
  unfold arrive
  rw [ends_bind, ends_allocate, ends_bind, ends_evaluate, ends_ite]
  refine ⟨fun (hr : (d.arrivalOutcome arrival).isRejected = true) => ?_,
    fun (hr : ¬(d.arrivalOutcome arrival).isRejected = true) => ?_⟩
  · rw [ends_bind]
    refine ends_telephone ?_ ?_
    · rw [ends_pure, registry_telephoned, if_pos hr]
      exact ⟨rfl, rfl⟩
    · rw [registry_telephoned]
      exact ⟨Outside.failure_ne_dialInProgress _ _, .none _ _⟩
  rw [ends_bind, ends_tryCatch]
  refine (actAll_applies _ _).mono (fun _ d₁ h₁ => ?_) fun e d₁ h₁ => ?_
  · obtain ⟨hcalls, -⟩ := h₁
    rw [ends_bind]
    refine ends_register (fun registry hins => ?_) fun _ => ⟨by simp, ?_⟩
    · rw [ends_pure, registry_added, (Registry.insert_eq_ok hins).1, if_neg hr]
      exact ⟨rfl, congrArg _ hcalls⟩
    · rw [hcalls]
      exact .all _ _
  · obtain ⟨he, -, hpartly⟩ := h₁
    rw [ends_bind, ends_tryCatch]
    refine ends_telephone ?_ ?_
    · rw [ends_throw, registry_telephoned]
      exact ⟨he, hpartly⟩
    · rw [ends_pure, ends_throw, registry_telephoned]
      exact ⟨he, hpartly⟩

/-- A call is answered after all actions. If one fails, or the answer itself, the call is as it
was. -/
theorem answer_executes {c : Call} (hc : c ∈ d.registry.calls) (hb : c.bearer ≠ .voip)
    (media : VideoState) :
    (answer c.id media).Ends d
      (fun _ d' => (d.answerOutcome c media).isRejected = false ∧
        { c with video := media, state := .active } ∈ d'.registry.calls ∧
        d'.registry.calls = Registry.adjust c.id ({ · with video := media, state := .active })
          (applyAll (d.answerOutcome c media).actions d.registry.calls))
      (fun e d' => e ≠ .dialInProgress ∧
        Partly (d.answerOutcome c media).actions d.registry.calls d'.registry.calls) := by
  unfold answer
  rw [ends_bind]
  have hfit (e : CallError) (he : e.isUnfit = true) : e ≠ .dialInProgress := by
    rintro rfl
    cases he
  refine ends_callIn (fun c' hc' hid _ => ?_) fun e he => ⟨hfit e he, .none _ _⟩
  obtain rfl : c' = c := Registry.eq_of_id_eq hc' hc hid
  rw [if_pos hb, ends_bind, ends_evaluate, ends_ite]
  refine ⟨fun _ => ?_, fun hr => ?_⟩
  · rw [ends_bind, ends_throw]
    exact ⟨by simp [refusal], .none _ _⟩
  rw [ends_bind]
  refine (actAll_applies _ _).mono (fun _ d₁ h₁ => ?_) fun e d₁ h₁ => ⟨h₁.1, h₁.2.2⟩
  obtain ⟨hcalls, -⟩ := h₁
  have hc₁ : c' ∈ d₁.registry.calls := by
    rw [hcalls]
    exact mem_applyAll_of_spared hc (Policy.evaluate_answer_spares _ _ c' media)
  refine ends_pickUp hc₁ ?_ ?_
  · rw [registry_answered, registry_telephoned, Registry.modify_calls]
    exact ⟨eq_false_of_ne_true hr, Registry.mem_adjust.mpr (.inr ⟨c', hc₁, rfl, rfl⟩),
      congrArg _ hcalls⟩
  · rw [registry_telephoned, hcalls]
    exact ⟨Outside.failure_ne_dialInProgress _ _, .all _ _⟩

/-! ## The dial flag -/

/-- A dial request that finds no other in progress. -/
theorem dial_executes (hf : d.dialing = false) (request : DialRequest) :
    (inService (dial request)).Ends d
      (fun id d' => (id = d.registry.nextId ∧ (d.dialOutcome request).isRejected = false ∧
        d'.registry.calls = Registry.place (request.toCall id)
          (applyAll (d.dialOutcome request).actions d.registry.calls)) ∧ d'.dialing = false)
      (fun e d' => e ≠ .dialInProgress ∧
        Partly (d.dialOutcome request).actions d.registry.calls d'.registry.calls ∧
        d'.dialing = false) := by
  refine ends_inService (fun _ => ?_) fun _ => ⟨by simp, .none _ _, hf⟩
  unfold dial
  rw [ends_bind, ends_get, hf, if_neg (by simp)]
  refine ends_whileDialing.mpr ((dialAdmitted_executes request _).mono (fun id d' h => ?_) ?_)
  · exact ⟨h, rfl⟩
  · exact fun e d' h => ⟨h.1, h.2, rfl⟩

/-- No dial request is in progress, and none is refused because another were. -/
def FreeToDial (d : Desk) : Prop :=
  d.dialing = false ∧
    ∀ request, ((inService (dial request)).perform d).1 ≠ .error .dialInProgress

/-- With the flag clear no dial request is in the way of another. -/
theorem freeToDial (hf : d.dialing = false) : d.FreeToDial := by
  refine ⟨hf, fun request => ?_⟩
  have h := dial_executes hf request
  unfold Ends at h
  unfold DeskM.perform
  cases hx : inService (dial request) d with
  | ok id d' => exact fun he => nomatch he
  | error e d' =>
    rw [hx] at h
    exact fun he => h.1 (Except.error.inj he)

/-- Arrivals are no dial requests. -/
theorem arrive_dialing (arrival : Arrival) (d : Desk) :
    (arrive arrival).Within d fun d' => d'.dialing = d.dialing :=
  (@steps_arrive (.order False) _ _ _ .refl trivial arrival).mono (fun _ _ h => h.flags_eq.2)
    fun _ _ h => h.flags_eq.2

theorem answer_dialing (id : CallId) (media : VideoState) (d : Desk) :
    (answer id media).Within d fun d' => d'.dialing = d.dialing :=
  (@steps_answer (.order False) _ _ _ .refl id media).mono
    (fun _ _ h => (h ⟨False.elim, fun _ _ _ => .inr trivial⟩).flags_eq.2) fun _ _ h => h.flags_eq.2

/-! ## The run -/

theorem arrived_id (arrival : Arrival) (id : CallId) (decision : Decision) :
    (arrived arrival id decision).id = id := by
  unfold arrived
  split <;> rfl

/-- No call has a number that was not given out yet. -/
theorem Numbered.lt_nextId (hd : Numbered n d) (hn : n < UInt32.size - 1) {calls : List Call}
    (hids : calls.map (·.id) ⊆ d.registry.calls.map (·.id)) :
    ∀ c ∈ calls, c.id < d.registry.nextId := by
  intro c hc
  obtain ⟨hnext, hle⟩ := hd hn
  obtain ⟨c', hc', hid⟩ := List.mem_map.mp (hids (List.mem_map_of_mem hc))
  rw [← hid, UInt32.lt_iff_toNat_lt, hnext]
  exact Nat.lt_succ_of_le (hle c' hc')

theorem Numbered.place_eq (hd : Numbered n d) (hn : n < UInt32.size - 1) {c : Call}
    (hid : c.id = d.registry.nextId) (actions : List Action) :
    Registry.place c (applyAll actions d.registry.calls) =
      applyAll actions d.registry.calls ++ [c] :=
  Registry.place_of_lt (hid ▸ hd.lt_nextId hn (ids_applyAll_subset _ _))

/-- **Requests are carried out as admission decides.** Whatever happened before and whatever fails
now: a dial request, an arriving call and an answer each leave the calls that some first part of the
actions makes of them. If the request succeeds, that is all actions, and the call that it is about
is added or answered; if it fails, no call is added or answered. Afterwards the desk is free to
dial. -/
theorem requests_executed (h : Reach (fun _ _ => True) n d) (hn : n < UInt32.size - 1) :
    (∀ request, (inService (dial request)).Ends d
      (fun id d' => (id.toNat = n + 1 ∧ (d.dialOutcome request).isRejected = false ∧
        d'.registry.calls = applyAll (d.dialOutcome request).actions d.registry.calls ++
          [request.toCall id]) ∧ d'.FreeToDial)
      (fun _ d' => (Partly (d.dialOutcome request).actions d.registry.calls d'.registry.calls ∧
        ∀ c ∈ d'.registry.calls, c.id.toNat ≤ n) ∧ d'.FreeToDial)) ∧
    (∀ arrival, (inService (arrive arrival)).Ends d
      (fun r d' => (r.1.toNat = n + 1 ∧ r.2 = (d.arrivalOutcome arrival).decision ∧
        d'.registry.calls =
          if r.2 = .reject then d.registry.calls
          else applyAll (d.arrivalOutcome arrival).actions d.registry.calls ++
            [arrived arrival r.1 r.2]) ∧ d'.FreeToDial)
      (fun _ d' => (Partly (d.arrivalOutcome arrival).actions d.registry.calls d'.registry.calls ∧
        ∀ c ∈ d'.registry.calls, c.id.toNat ≤ n) ∧ d'.FreeToDial)) ∧
    ∀ c ∈ d.registry.calls, c.bearer ≠ .voip → ∀ media, (inService (answer c.id media)).Ends d
      (fun _ d' => ((d.answerOutcome c media).isRejected = false ∧
        { c with video := media, state := .active } ∈ d'.registry.calls ∧
        d'.registry.calls = Registry.adjust c.id ({ · with video := media, state := .active })
          (applyAll (d.answerOutcome c media).actions d.registry.calls)) ∧ d'.FreeToDial)
      (fun _ d' => (Partly (d.answerOutcome c media).actions d.registry.calls d'.registry.calls ∧
        c ∈ d'.registry.calls) ∧ d'.FreeToDial) := by
  obtain ⟨hd, hf⟩ := h.numbered
  have hnext := (hd hn).1
  have hold {actions : List Action} {d' : Desk}
      (hp : Partly actions d.registry.calls d'.registry.calls) :
      ∀ c ∈ d'.registry.calls, c.id.toNat ≤ n := fun c hc => by
    have hlt := hd.lt_nextId hn hp.ids_subset c hc
    rw [UInt32.lt_iff_toNat_lt, hnext] at hlt
    exact Nat.le_of_lt_succ hlt
  refine ⟨fun request => ?_, fun arrival => ?_, fun c hc hb media => ?_⟩
  · refine (dial_executes hf request).mono (fun id d' h => ?_) fun e d' h => ?_
    · obtain ⟨⟨rfl, hr, hcalls⟩, hf'⟩ := h
      exact ⟨⟨hnext, hr, hcalls.trans (hd.place_eq hn rfl _)⟩, freeToDial hf'⟩
    · obtain ⟨-, hp, hf'⟩ := h
      exact ⟨⟨hp, hold hp⟩, freeToDial hf'⟩
  · refine ends_inService (fun _ => ?_) fun _ => ⟨⟨.none _ _, hold (.none [] _)⟩, freeToDial hf⟩
    refine ((arrive_executes arrival d).and (arrive_dialing arrival d)).mono (fun r d' h => ?_)
      fun e d' h => ?_
    · obtain ⟨⟨rfl, hcalls⟩, hf'⟩ := h
      refine ⟨⟨hnext, rfl, ?_⟩, freeToDial (hf'.trans hf)⟩
      rw [hcalls, hd.place_eq hn (arrived_id _ _ _)]
      simp [Outcome.isRejected]
    · obtain ⟨⟨-, hp⟩, hf'⟩ := h
      exact ⟨⟨hp, hold hp⟩, freeToDial (hf'.trans hf)⟩
  · refine ends_inService (fun _ => ?_) fun _ => ⟨⟨.none _ _, hc⟩, freeToDial hf⟩
    refine ((answer_executes hc hb media).and (answer_dialing c.id media d)).mono (fun _ d' h => ?_)
      fun e d' h => ?_
    · obtain ⟨hanswered, hf'⟩ := h
      exact ⟨hanswered, freeToDial (hf'.trans hf)⟩
    · obtain ⟨⟨-, hp⟩, hf'⟩ := h
      have hspared := Policy.evaluate_answer_spares d.policy d.registry.calls c media
      exact ⟨⟨hp, hp.mem_of_spared hc hspared⟩, freeToDial (hf'.trans hf)⟩

/-- Of two actions the second fails. An emergency call is dialed while one call is being dialed and
another one rings: the first is ended, but the second cannot be declined. -/
theorem requests_executed_reject_failing :
    let run : List Happening :=
      [.operation .start, .operation (.dial ⟨"1", 0, .cs, .voice, false⟩),
        .operation (.arrive ⟨"2", 0, .cs, .voice⟩), .circumstance (.setFailing .reject true)]
    let request : DialRequest := ⟨"112", 0, .cs, .voice, true⟩
    let d := standard.afterAll run
    let d' := ((inService (dial request)).perform d).2
    Reach (fun _ _ => True) 2 d ∧ 2 < UInt32.size - 1 ∧
      (d.dialOutcome request).actions = [.hangUp 1, .reject 2] ∧
      d'.registry.calls.map (fun c => (c.id, c.state)) = [(2, .incoming)] ∧ d'.FreeToDial := by
  intro run request d d'
  have hp : Permits (fun _ _ => True) standard run := ⟨trivial, trivial, trivial, trivial, trivial⟩
  have h : Reach (fun _ _ => True) 2 d := (reach_standard _).all hp
  have hfree (d : Desk) (h : Reach (fun _ _ => True) 2 d) :
      ((inService (dial request)).perform d).2.FreeToDial :=
    Within.perform (((requests_executed h (by decide)).1 request).mono (fun _ _ h => h.2)
      fun _ _ h => h.2)
  exact ⟨h, by decide, by decide, by decide, hfree d h⟩

end Switchboard.Desk
