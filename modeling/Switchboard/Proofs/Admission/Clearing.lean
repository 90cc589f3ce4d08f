import Mathlib.Data.List.Nodup
import Switchboard.Proofs.Admission.Actions

/-!
# An admitted request finds its way clear

Admission lets a request through, at once or after a hold, only with actions that clear the way for
it. What is left of the other calls once they are done depends on the kind of the request
(`Policy.evaluate_clears`): an arriving call meets no active one, an answered call none that is
engaged, a dialed call at most one that is held, and an emergency call nothing at all.

* `Outcome.Admits`: the request goes ahead.
* `Policy.others_hold`: a call that is held goes on to count.
-/

namespace Switchboard.Admission

/-- The request goes ahead, at once or after a hold. -/
def Outcome.Admits (o : Outcome) : Prop := o.decision = .answer ∨ o.decision = .autoHold

@[simp] theorem Outcome.admits_answer (actions : List Action) : (Outcome.answer actions).Admits :=
  .inl rfl

@[simp] theorem Outcome.admits_autoHold (actions : List Action) :
    (Outcome.autoHold actions).Admits := .inr rfl

@[simp] theorem Outcome.not_admits_queue : ¬Outcome.queue.Admits := by simp [Admits, queue]

@[simp] theorem Outcome.not_admits_refuse (reason : Refusal) : ¬(Outcome.refuse reason).Admits := by
  simp [Admits, refuse]

theorem Outcome.Admits.isRejected_eq {o : Outcome} (h : o.Admits) : o.isRejected = false := by
  rcases h with h | h <;> simp [isRejected, h]

namespace Policy

variable {p : Policy} {request : Request} {calls : List Call} {c : Call}

/-! ## What counts after the actions -/

theorem mem_others :
    c ∈ others request calls ↔
      c ∈ calls ∧ c.state.isTerminal = false ∧ some c.id ≠ request.call := by
  simp [others]

/-- What counts after the actions counted before, and nothing was done to it; or it was put on
hold. -/
theorem mem_others_applyAll {actions : List Action}
    (h : c ∈ others request (applyAll actions calls)) :
    (c ∈ others request calls ∧ ∀ a ∈ actions, a.target ≠ c.id) ∨
      (c.state = .holding ∧ .hold c.id ∈ actions) := by
  obtain ⟨hmem, hcounts⟩ := mem_others.mp h
  refine (mem_applyAll hmem).imp_left fun hleft => ?_
  exact ⟨mem_others.mpr ⟨hleft.1, hcounts⟩, hleft.2⟩

/-- If something is done to every call that counts, and nothing is put on hold, then nothing is
left. -/
theorem others_applyAll_eq_nil {actions : List Action}
    (htarget : ∀ c ∈ others request calls, ∃ a ∈ actions, a.target = c.id)
    (hhold : ∀ id, .hold id ∉ actions) : others request (applyAll actions calls) = [] := by
  refine List.eq_nil_iff_forall_not_mem.mpr fun c hc => ?_
  rcases mem_others_applyAll hc with ⟨hmem, hspared⟩ | ⟨-, hheld⟩
  · obtain ⟨a, ha, hid⟩ := htarget c hmem
    exact hspared a ha hid
  · exact hhold c.id hheld

/-- A call that counts goes on to count when it is put on hold, and the others as before. -/
theorem others_hold (hids : (calls.map (·.id)).Nodup) (hc : c ∈ others request calls) :
    others request ((Action.hold c.id).apply calls) =
      (Action.hold c.id).apply (others request calls) := by
  obtain ⟨hmem, hlive, hother⟩ := mem_others.mp hc
  unfold others Action.apply Registry.adjust
  rw [List.filter_map]
  refine congrArg _ (List.filter_congr fun x hx => ?_)
  by_cases hid : x.id = c.id
  · obtain rfl := List.inj_on_of_nodup_map hids hx hmem hid
    have hholding : CallState.holding.isTerminal = false := rfl
    simp [hlive, hholding]
  · simp [hid]

/-! ## An incoming call -/

/-- Before a call arrives, something is done to every active call. -/
theorem onIncoming_target (slot : SlotId) (hc : c ∈ calls) (ha : c.state = .active)
    (hd : (p.onIncoming slot calls).Admits) :
    ∃ a ∈ (p.onIncoming slot calls).actions, a.target = c.id := by
  unfold onIncoming at *
  split at hd
  · simp at hd
  · rename_i hopen
    rw [if_neg hopen]
    match calls, hc with
    | [x], hc =>
      obtain rfl := List.mem_singleton.mp hc
      exact ⟨.hold c.id, by simp [ha, Outcome.autoHold], rfl⟩
    -- Beside two calls only the pair of a held and an active one is admitted.
    | [first, second], hc =>
      have hc : c = first ∨ c = second := by simpa using hc
      have hs : c.state.isEngaged := CallState.isEngaged_iff.mpr (.inl ha)
      dsimp only at hd ⊢
      cases hpair : heldAndActive? first second with
      | some pair =>
        obtain ⟨held, active⟩ := pair
        obtain rfl := heldAndActive?_target hpair hc hs
        rw [hpair] at hd
        dsimp only at hd ⊢
        split at hd
        · rename_i hslot
          rw [if_pos hslot]
          exact ⟨.hold active.id, by simp [Outcome.autoHold], rfl⟩
        · simp at hd
      | none =>
        rw [hpair] at hd
        dsimp only at hd
        repeat' split at hd
        all_goals simp at hd
    | _ :: _ :: _ :: _, _ => simp at hd

/-! ## A dialed call -/

/-- Whatever a call is at, there is a way to end it, unless it has ended. -/
theorem clearAway?_eq_some (hlive : c.state.isTerminal = false) :
    ∃ a, clearAway? c = some a ∧ a.target = c.id := by
  unfold clearAway?
  cases hs : c.state <;>
    simp_all [CallState.isTerminal, CallState.isConnecting, CallState.isConnected,
      CallState.isRinging, Action.target]

/-- An emergency call holds nothing. -/
theorem clearAway?_ne_hold {id : CallId} : clearAway? c ≠ some (.hold id) := by
  unfold clearAway?
  split
  · simp
  · split <;> simp

/-- An emergency call does something to every call that counts, and holds none. -/
theorem onEmergencyDial_clears (hlive : ∀ c ∈ calls, c.state.isTerminal = false)
    (hd : (onEmergencyDial calls).Admits) :
    (∀ c ∈ calls, ∃ a ∈ (onEmergencyDial calls).actions, a.target = c.id) ∧
      ∀ id, .hold id ∉ (onEmergencyDial calls).actions := by
  unfold onEmergencyDial at *
  split at hd
  · simp at hd
  · rename_i hfree
    rw [if_neg hfree]
    refine ⟨fun c hc => ?_, fun id hid => ?_⟩
    · obtain ⟨a, ha, htarget⟩ := clearAway?_eq_some (hlive c hc)
      exact ⟨a, List.mem_filterMap.mpr ⟨c, hc, ha⟩, htarget⟩
    · obtain ⟨c, -, hc⟩ := List.mem_filterMap.mp hid
      exact clearAway?_ne_hold hc

/-- An ordinary call is dialed beside nothing, beside a held call, or beside an active call that is
put on hold. -/
theorem onDial_admits (hd : (p.onDial calls).Admits) :
    (calls = [] ∧ (p.onDial calls).actions = []) ∨
      ∃ c, calls = [c] ∧
        ((c.state = .holding ∧ (p.onDial calls).actions = []) ∨
          (p.onDial calls).actions = [.hold c.id]) := by
  unfold onDial at *
  split at hd
  · rename_i hnil
    rw [if_pos hnil]
    exact .inl ⟨List.isEmpty_iff.mp hnil, rfl⟩
  rename_i hnil
  rw [if_neg hnil]
  split at hd
  · simp at hd
  rename_i hconnecting
  rw [if_neg hconnecting]
  split at hd
  · simp at hd
  rename_i hringing
  rw [if_neg hringing]
  split at hd
  · simp at hd
  rename_i hlimit
  rw [if_neg hlimit]
  match calls with
  | [c] =>
    refine .inr ⟨c, rfl, ?_⟩
    dsimp only at hd ⊢
    split at hd
    · rename_i ha
      rw [if_pos ha]
      exact .inr rfl
    · rename_i ha
      rw [if_neg ha]
      split at hd
      · rename_i hh
        rw [if_pos hh]
        exact .inl ⟨beq_iff_eq.mp hh, rfl⟩
      · simp at hd
  | [] => exact absurd rfl hnil
  | _ :: _ :: _ => simp at hd

/-! ## The way is clear -/

/-- An arriving call meets no active one. -/
theorem evaluate_incoming_clears (hk : request.kind = .incoming)
    (hd : (p.evaluate request calls).Admits) :
    ∀ c ∈ others request (applyAll (p.evaluate request calls).actions calls),
      c.state ≠ .active := by
  have he : p.evaluate request calls = p.onIncoming request.slot (others request calls) := by
    unfold evaluate
    rw [hk]
  rw [he] at hd ⊢
  intro c hc ha
  rcases mem_others_applyAll hc with ⟨hmem, hspared⟩ | ⟨hh, -⟩
  · obtain ⟨a, hact, hid⟩ := onIncoming_target request.slot hmem ha hd
    exact hspared a hact hid
  · rw [ha] at hh
    cases hh

/-- An answered call meets none that is engaged. -/
theorem evaluate_answer_clears {video : VideoState} (hk : request.kind = .answer video)
    (hd : (p.evaluate request calls).Admits) :
    ∀ c ∈ others request (applyAll (p.evaluate request calls).actions calls),
      ¬c.state.isEngaged := by
  have he : p.evaluate request calls = onAnswer video (others request calls) := by
    unfold evaluate
    rw [hk]
  rw [he] at hd ⊢
  intro c hc hs
  rcases mem_others_applyAll hc with ⟨hmem, hspared⟩ | ⟨hh, -⟩
  · obtain ⟨a, hact, hid⟩ := onAnswer_target video hmem hs hd.isRejected_eq
    exact hspared a hact hid
  · rw [hh] at hs
    cases hs

/-- An emergency call meets nothing. -/
theorem evaluate_emergency_clears (hk : request.kind = .dial true)
    (hd : (p.evaluate request calls).Admits) :
    others request (applyAll (p.evaluate request calls).actions calls) = [] := by
  have he : p.evaluate request calls = onEmergencyDial (others request calls) := by
    unfold evaluate
    rw [hk]
  rw [he] at hd ⊢
  have hlive : ∀ c ∈ others request calls, c.state.isTerminal = false :=
    fun c hc => (mem_others.mp hc).2.1
  obtain ⟨htarget, hhold⟩ := onEmergencyDial_clears hlive hd
  exact others_applyAll_eq_nil htarget hhold

/-- A dialed call meets one held call at most. -/
theorem evaluate_dial_clears (hk : request.kind = .dial false) (hids : (calls.map (·.id)).Nodup)
    (hd : (p.evaluate request calls).Admits) :
    let rest := others request (applyAll (p.evaluate request calls).actions calls)
    rest = [] ∨ ∃ c, rest = [c] ∧ c.state = .holding := by
  have he : p.evaluate request calls = p.onDial (others request calls) := by
    unfold evaluate
    rw [hk]
  rw [he] at hd ⊢
  -- Beside nothing, beside a held call, and beside an active one that is put on hold.
  rcases onDial_admits hd with ⟨hnil, hact⟩ | ⟨c, hone, ⟨hh, hact⟩ | hact⟩
  · rw [hact]
    exact .inl hnil
  · rw [hact]
    exact .inr ⟨c, hone, hh⟩
  · have hc : c ∈ others request calls := by simp [hone]
    have hrest : others request (applyAll [.hold c.id] calls) =
        (Action.hold c.id).apply (others request calls) := others_hold hids hc
    rw [hact, hrest, hone]
    exact .inr ⟨{ c with state := .holding }, by simp [Action.apply, Registry.adjust], rfl⟩

/-- **An admitted request finds its way clear.** Of the other calls that count, an arriving call
leaves none active, an answered one none active, dialing or alerting, a dialed one at most a single
held call, and a dialed emergency call none. -/
theorem evaluate_clears (p : Policy) (request : Request) {calls : List Call}
    (hids : (calls.map (·.id)).Nodup) (hd : (p.evaluate request calls).Admits) :
    let rest := others request (applyAll (p.evaluate request calls).actions calls)
    match request.kind with
    | .incoming => ∀ c ∈ rest, c.state ≠ .active
    | .answer _ => ∀ c ∈ rest, c.state ≠ .active ∧ c.state ≠ .dialing ∧ c.state ≠ .alerting
    | .dial false => rest = [] ∨ ∃ c, rest = [c] ∧ c.state = .holding
    | .dial true => rest = [] := by
  intro rest
  split
  case h_1 hk => exact evaluate_incoming_clears hk hd
  case h_2 video hk =>
    intro c hc
    have hfree : ¬c.state.isEngaged := evaluate_answer_clears hk hd c hc
    refine ⟨fun h => ?_, fun h => ?_, fun h => ?_⟩ <;> exact hfree (by rw [h]; rfl)
  case h_3 hk => exact evaluate_dial_clears hk hids hd
  case h_4 hk => exact evaluate_emergency_clears hk hd

/-- A call is answered beside an active call and a held one, which stands behind it in the list, and
one that is gone already: the held call is ended and the active one is held. -/
theorem evaluate_clears_pair :
    let active := Call.fresh 4 0 .cs .active .outgoing "100"
    let held := Call.fresh 2 1 .ims .holding .incoming "101"
    let gone := Call.fresh 3 0 .cs .disconnected .outgoing "102"
    let ringing := Call.fresh 1 0 .cs .waiting .incoming "103"
    let calls := [active, gone, ringing, held]
    let request := Request.answer ringing .voice
    let p : Policy := ⟨true, 6⟩
    let rest := others request (applyAll (p.evaluate request calls).actions calls)
    (calls.map (·.id)).Nodup ∧ (p.evaluate request calls).Admits ∧
      rest = [{ active with state := .holding }] ∧
      ∀ c ∈ rest, c.state ≠ .active ∧ c.state ≠ .dialing ∧ c.state ≠ .alerting := by
  intro active held gone ringing calls request p rest
  have hids : (calls.map (·.id)).Nodup := by decide
  have hd : (p.evaluate request calls).Admits := .inr (by decide)
  exact ⟨hids, hd, by decide, evaluate_clears p request hids hd⟩

end Policy

end Switchboard.Admission
