import Mathlib.Data.List.Permutation
import Switchboard.Proofs.Admission.Targets

/-!
# Admission does not go by the order of the calls

The rules of admission are about calls and pairs of calls, in whatever order they are listed. So two
lists with the same calls that count have outcomes that agree (`Outcome.Agrees`): the decision is
the same, and so is what is done to other calls. Only where everything in the way is ended, the
calls are ended in the order in which they are listed. The wording of a refusal may name two calls
the other way round.

* `agrees_of_perm`: an outcome that lists of more than two calls agree on, and that both orders of a
  pair agree on, does not go by the order.
* `Policy.evaluate_unordered`: the result.
-/

namespace Switchboard

variable {calls calls' : List Call}

theorem hasActive_perm (h : calls.Perm calls') : hasActive calls = hasActive calls' := h.any_eq

theorem hasConnecting_perm (h : calls.Perm calls') : hasConnecting calls = hasConnecting calls' :=
  h.any_eq

theorem hasRinging_perm (h : calls.Perm calls') : hasRinging calls = hasRinging calls' := h.any_eq

namespace Admission

/-- The outcomes agree: they differ at most in the order in which calls are ended before a request
goes ahead at once, and in the wording of a refusal. -/
structure Outcome.Agrees (o o' : Outcome) : Prop where
  decision : o'.decision = o.decision
  actions : o'.actions.Perm o.actions
  same : o.decision ≠ .answer → o'.actions = o.actions

namespace Outcome

theorem Agrees.refl (o : Outcome) : o.Agrees o := ⟨rfl, .refl _, fun _ => rfl⟩

theorem Agrees.of_eq {o o' : Outcome} (h : o' = o) : o.Agrees o' := h ▸ .refl o

theorem agrees_refuse (reason reason' : Refusal) : (refuse reason).Agrees (refuse reason') :=
  ⟨rfl, .refl _, fun _ => rfl⟩

theorem agrees_answer {actions actions' : List Action} (h : actions'.Perm actions) :
    (answer actions).Agrees (answer actions') := ⟨rfl, h, fun hd => absurd rfl hd⟩

end Outcome

open Outcome

/-- A function of lists of calls that does not go by the order of two calls, nor by that of more
than two, does not go by the order of any. -/
theorem agrees_of_perm {f : List Call → Outcome} (hpair : ∀ c d, (f [c, d]).Agrees (f [d, c]))
    (hmany : ∀ calls calls', calls.Perm calls' → 2 < calls.length → (f calls).Agrees (f calls'))
    (h : calls.Perm calls') : (f calls).Agrees (f calls') := by
  match calls, h with
  | [], h =>
    rw [h.nil_eq]
    exact .refl _
  | [c], h =>
    rw [h.singleton_eq]
    exact .refl _
  | [c, d], h =>
    rcases List.pair_perm.mp h with rfl | rfl
    · exact .refl _
    · exact hpair c d
  | _ :: _ :: _ :: _, h => exact hmany _ _ h (by simp)

namespace Policy

variable {p : Policy} {request : Request}

/-! ## Pairs -/

/-- The pair of a held and an active call is found in either order. -/
theorem heldAndActive?_comm (c d : Call) : heldAndActive? d c = heldAndActive? c d := by
  unfold heldAndActive?
  cases c.state <;> cases d.state <;> rfl

/-- A call is answered beside a connected call only. -/
theorem answerBeside_of_not_connected {anchor : Call} (h : anchor.state.isConnected = false)
    (other : Call) : answerBeside anchor other = none := by
  unfold answerBeside
  split
  · rename_i hs
    rw [hs] at h
    cases h
  · rename_i hs
    rw [hs] at h
    cases h
  · rfl

/-- The call beside it is not connected. -/
theorem answerBeside_of_connected (anchor : Call) {other : Call}
    (h : other.state.isConnected = true) : answerBeside anchor other = none := by
  have hfree : other.state.isConnecting = false ∧ other.state.isRinging = false := by
    cases hs : other.state <;> simp_all [CallState.isConnected, CallState.isConnecting,
      CallState.isRinging]
  unfold answerBeside
  rw [hfree.1, hfree.2]
  split <;> rfl

/-- Of two calls it does not matter which one is looked at first. -/
theorem answerBeside_either (c d : Call) :
    (if d.state.isConnected then answerBeside d c else answerBeside c d) =
      if c.state.isConnected then answerBeside c d else answerBeside d c := by
  cases hc : c.state.isConnected with
  | true =>
    cases hd : d.state.isConnected with
    | true =>
      -- Beside two connected calls no call is answered.
      simp [answerBeside_of_connected _ hc, answerBeside_of_connected _ hd]
    | false => simp
  | false =>
    cases hd : d.state.isConnected with
    | true => simp
    | false => simp [answerBeside_of_not_connected hc, answerBeside_of_not_connected hd]

/-! ## Each kind of request -/

/-- Of two calls an arrival does not see which comes first, but for the wording of a refusal. -/
theorem onIncoming_pair (p : Policy) (slot : SlotId) (c d : Call) :
    (p.onIncoming slot [c, d]).Agrees (p.onIncoming slot [d, c]) := by
  unfold onIncoming
  rw [hasActive_perm (.swap c d [])]
  split
  · exact .refl _
  · dsimp only
    rw [heldAndActive?_comm c d]
    split
    · exact .refl _
    · rw [Bool.and_comm (d.state == .holding), Bool.or_comm (d.state.isConnected && _)]
      split
      · exact .refl _
      · split
        · exact .refl _
        · exact agrees_refuse _ _

/-- An arrival does not go by the order of the calls. -/
theorem onIncoming_perm (p : Policy) (slot : SlotId) (h : calls.Perm calls') :
    (p.onIncoming slot calls).Agrees (p.onIncoming slot calls') := by
  refine agrees_of_perm (onIncoming_pair p slot) (fun calls calls' h hl => ?_) h
  have hl' : 2 < calls'.length := h.length_eq ▸ hl
  match calls, calls', hl, hl' with
  | _ :: _ :: _ :: _, _ :: _ :: _ :: _, _, _ =>
    unfold onIncoming
    rw [hasActive_perm h]
    split <;> exact .refl _

theorem videoEndsOthers_perm (video : VideoState) (h : calls.Perm calls') :
    videoEndsOthers video calls = videoEndsOthers video calls' := by
  rw [videoEndsOthers, h.any_eq, videoEndsOthers]

/-- Whether a voice answer ends a conversation with video does not depend on the order. -/
theorem voiceEndsVideo_perm (video : VideoState) (h : calls.Perm calls') :
    voiceEndsVideo video calls = voiceEndsVideo video calls' := by
  rw [voiceEndsVideo, hasConnected, (h.filter _).any_eq, voiceEndsVideo, hasConnected]

theorem endConversations_perm (h : calls.Perm calls') :
    (endConversations calls).Agrees (endConversations calls') :=
  agrees_answer ((h.symm.filter _).map _)

/-- Of two calls an answer does not see which comes first. -/
theorem onAnswer_pair (video : VideoState) (c d : Call) :
    (onAnswer video [c, d]).Agrees (onAnswer video [d, c]) := by
  have hswap : [c, d].Perm [d, c] := .swap d c []
  unfold onAnswer
  rw [videoEndsOthers_perm video hswap, voiceEndsVideo_perm video hswap, hswap.length_eq]
  dsimp only
  rw [heldAndActive?_comm c d]
  split
  · exact endConversations_perm hswap
  · split
    · exact .refl _
    · rw [Bool.and_comm (d.state == .holding), answerBeside_either c d]
      split
      · exact .refl _
      · generalize (if c.state.isConnected then answerBeside c d else answerBeside d c) = o
        cases o with
        | none => exact agrees_refuse _ _
        | some o => exact .refl o

/-- An answer does not, but for the order in which conversations are ended. -/
theorem onAnswer_perm (video : VideoState) (h : calls.Perm calls') :
    (onAnswer video calls).Agrees (onAnswer video calls') := by
  refine agrees_of_perm (onAnswer_pair video) (fun calls calls' h hl => ?_) h
  have hl' : 2 < calls'.length := h.length_eq ▸ hl
  match calls, calls', hl, hl' with
  | _ :: _ :: _ :: _, _ :: _ :: _ :: _, _, _ =>
    exact .of_eq (by simp [onAnswer])

/-- Everything in the way of an emergency call gives way, in the order in which it is listed. -/
theorem onEmergencyDial_perm (h : calls.Perm calls') :
    (onEmergencyDial calls).Agrees (onEmergencyDial calls') := by
  unfold onEmergencyDial
  rw [h.any_eq]
  split
  · exact .refl _
  · exact agrees_answer (h.symm.filterMap clearAway?)

/-- Two calls or more are all the same to one that is dialed. -/
theorem onDial_perm (p : Policy) (h : calls.Perm calls') :
    (p.onDial calls).Agrees (p.onDial calls') := by
  have many (calls calls' : List Call) (h : calls.Perm calls') (hl : 1 < calls.length) :
      (p.onDial calls).Agrees (p.onDial calls') := by
    have hl' : 1 < calls'.length := h.length_eq ▸ hl
    match calls, calls', hl, hl' with
    | _ :: _ :: _, _ :: _ :: _, _, _ =>
      refine .of_eq ?_
      unfold onDial
      rw [hasConnecting_perm h, hasRinging_perm h, h.length_eq]
      rfl
  exact agrees_of_perm (fun c d => many _ _ (.swap d c []) (by simp))
    (fun calls calls' h hl => many calls calls' h (by omega)) h

/-- **Admission does not go by the order of the calls, nor by bystanders.** If two lists have the
same calls that count, in any order, then a request has the same decision beside both. The actions
are the same but for their order, and in the same order unless the request goes ahead at once. -/
theorem evaluate_unordered (p : Policy) (request : Request) {calls calls' : List Call}
    (h : (others request calls).Perm (others request calls')) :
    (p.evaluate request calls).decision = (p.evaluate request calls').decision ∧
      (p.evaluate request calls).actions.Perm (p.evaluate request calls').actions ∧
      ((p.evaluate request calls).decision ≠ .answer →
        (p.evaluate request calls).actions = (p.evaluate request calls').actions) := by
  have hagrees : (p.evaluate request calls).Agrees (p.evaluate request calls') := by
    unfold evaluate
    dsimp only
    split
    · exact onIncoming_perm p request.slot h
    · exact onAnswer_perm _ h
    · exact onEmergencyDial_perm h
    · exact onDial_perm p h
  exact ⟨hagrees.decision.symm, hagrees.actions.symm, fun hd => (hagrees.same hd).symm⟩

/-- An emergency call is dialed beside an active call and a ringing one, listed either way. Among
them stands a call that has ended. -/
theorem evaluate_unordered_emergency :
    let active := Call.fresh 1 0 .cs .active .outgoing "100"
    let ringing := Call.fresh 2 1 .ims .waiting .incoming "101"
    let gone := Call.fresh 3 0 .cs .disconnected .outgoing "102"
    let request := Request.dial 0 .cs true
    let p : Policy := ⟨true, 6⟩
    (others request [active, ringing]).Perm (others request [ringing, gone, active]) ∧
      (p.evaluate request [active, ringing]).actions = [.hangUp 1, .reject 2] ∧
      (p.evaluate request [ringing, gone, active]).actions = [.reject 2, .hangUp 1] ∧
      (p.evaluate request [active, ringing]).decision =
        (p.evaluate request [ringing, gone, active]).decision := by
  intro active ringing gone request p
  have h : (others request [active, ringing]).Perm (others request [ringing, gone, active]) :=
    .swap ringing active []
  exact ⟨h, by decide, by decide, (evaluate_unordered p request h).1⟩

end Policy

end Admission

end Switchboard
