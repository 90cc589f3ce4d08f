import Switchboard.Admission.Policy

/-!
# Admission is monotone

The more calls there are, the less a request is let through, and the looser the policy, the more.
One kind of call is an exception: answering with voice ends a connected call that carries video, and
whatever is connecting or connected beside it (`Request.ClearedBy`).

* `le_of_small`: a rank of lists that only counts up to two calls is monotone if it is between one
  call and two. `onIncoming`, `onAnswer` and `onDial` have such ranks.
* `evaluate_permissiveness_le`: the two laws, for lists of any length.
-/

namespace Switchboard.Admission

/-- How much an outcome lets through. -/
def Outcome.rank (o : Outcome) : Nat := o.decision.permissiveness

@[simp] theorem Outcome.rank_answer (actions : List Action) : (Outcome.answer actions).rank = 3 :=
  rfl

@[simp] theorem Outcome.rank_autoHold (actions : List Action) :
    (Outcome.autoHold actions).rank = 2 := rfl

@[simp] theorem Outcome.rank_queue : Outcome.queue.rank = 1 := rfl

@[simp] theorem Outcome.rank_refuse (reason : Refusal) : (Outcome.refuse reason).rank = 0 := rfl

theorem Outcome.rank_le_three (o : Outcome) : o.rank ≤ 3 := by
  unfold rank
  cases o.decision <;> decide

/-! ## Ranks of lists -/

/-- A rank that is greatest without calls, that a second call `c` does not raise, and that is zero
from three calls on: one more call `c` at any place does not raise it. -/
theorem le_of_small {f : List Call → Nat} {c : Call} (hnil : ∀ calls, f calls ≤ f [])
    (hone : ∀ d, f [c, d] ≤ f [d] ∧ f [d, c] ≤ f [d])
    (hmany : ∀ calls, 2 < calls.length → f calls = 0) (before after : List Call) :
    f (before ++ c :: after) ≤ f (before ++ after) := by
  by_cases h : 2 < (before ++ c :: after).length
  · rw [hmany _ h]
    exact Nat.zero_le _
  · match before, after, h with
    | [], [], _ => exact hnil _
    | [], [d], _ => exact (hone d).1
    | [d], [], _ => exact (hone d).2
    | [], _ :: _ :: _, h => simp at h
    | [_], _ :: _, h => simp at h
    | _ :: _ :: _, _, h => simp at h

namespace Policy

/-! ## An incoming call -/

theorem onIncoming_nil (p : Policy) (slot : SlotId) : (p.onIncoming slot []).rank = 3 := by
  simp [onIncoming, hasActive]

/-- Beside more than two calls an arrival is refused. -/
theorem onIncoming_many (p : Policy) (slot : SlotId) {calls : List Call} (h : 2 < calls.length) :
    (p.onIncoming slot calls).rank = 0 := by
  match calls, h with
  | _ :: _ :: _ :: _, _ =>
    unfold onIncoming
    split <;> rfl

/-- Without call waiting an active call keeps everything out. -/
theorem onIncoming_refused {p : Policy} {calls : List Call} (slot : SlotId)
    (hp : p.callWaiting = false) (h : hasActive calls = true) :
    (p.onIncoming slot calls).rank = 0 := by
  unfold onIncoming
  rw [if_pos (by simp [hp, h])]
  rfl

/-- Beside two calls the best that can happen is that one of them is held. -/
theorem onIncoming_pair_le (p : Policy) (slot : SlotId) (c d : Call) :
    (p.onIncoming slot [c, d]).rank ≤ 2 := by
  unfold onIncoming
  dsimp only
  split
  · simp
  · split
    · split <;> simp
    · split
      · simp
      · split <;> simp

theorem heldAndActive?_eq_none {c d : Call} (h : c.state.isRinging ∨ d.state.isRinging) :
    heldAndActive? c d = none := by
  unfold heldAndActive?
  split
  · rename_i hc hd
    rw [hc, hd] at h
    simp [CallState.isRinging] at h
  · rename_i hc hd
    rw [hc, hd] at h
    simp [CallState.isRinging] at h
  · rfl

/-- Beside two calls of which one rings, the best that can happen is to wait. -/
theorem onIncoming_pair_ringing (p : Policy) (slot : SlotId) {c d : Call}
    (h : c.state.isRinging ∨ d.state.isRinging) : (p.onIncoming slot [c, d]).rank ≤ 1 := by
  unfold onIncoming
  dsimp only
  rw [heldAndActive?_eq_none h]
  dsimp only
  split
  · simp
  · split
    · simp
    · split <;> simp

/-- A second call raises the rank of an arrival nowhere, on whichever side of the first it is
listed. -/
theorem onIncoming_pair_le_single (p : Policy) (slot : SlotId) (c d : Call) :
    (p.onIncoming slot [c, d]).rank ≤ (p.onIncoming slot [d]).rank ∧
      (p.onIncoming slot [d, c]).rank ≤ (p.onIncoming slot [d]).rank := by
  by_cases hr : d.state.isRinging
  · have hd : (p.onIncoming slot [d]).rank = 1 := by
      have ha : d.state ≠ .active := fun h => by rw [h] at hr; cases hr
      simp [onIncoming, hasActive, ha, hr]
    rw [hd]
    exact ⟨onIncoming_pair_ringing p slot (.inr hr), onIncoming_pair_ringing p slot (.inl hr)⟩
  by_cases ha : d.state = .active
  · cases hp : p.callWaiting with
    | false =>
      have hcd : (p.onIncoming slot [c, d]).rank = 0 :=
        onIncoming_refused slot hp (by simp [hasActive, ha])
      have hdc : (p.onIncoming slot [d, c]).rank = 0 :=
        onIncoming_refused slot hp (by simp [hasActive, ha])
      rw [hcd, hdc]
      exact ⟨Nat.zero_le _, Nat.zero_le _⟩
    | true =>
      have hd : (p.onIncoming slot [d]).rank = 2 := by
        simp [onIncoming, hp, ha]
      rw [hd]
      exact ⟨onIncoming_pair_le p slot c d, onIncoming_pair_le p slot d c⟩
  · have hd : (p.onIncoming slot [d]).rank = 3 := by
      simp [onIncoming, hasActive, ha, hr]
    rw [hd]
    exact ⟨Outcome.rank_le_three _, Outcome.rank_le_three _⟩

/-! ## An answer -/

theorem onAnswer_nil (video : VideoState) : (onAnswer video []).rank = 3 := by
  simp [onAnswer, videoEndsOthers, voiceEndsVideo, hasConnected]

theorem onAnswer_many (video : VideoState) {calls : List Call} (h : 2 < calls.length) :
    (onAnswer video calls).rank = 0 := by
  match calls, h with
  | _ :: _ :: _ :: _, _ => simp [onAnswer]

/-- Answering with voice does not end the conversation of a call that carries no video. -/
theorem voiceEndsVideo_pair {video : VideoState} {c d : Call}
    (hc : ¬(c.state.isConnected ∧ c.carriesVideo)) (hd : ¬(d.state.isConnected ∧ d.carriesVideo)) :
    voiceEndsVideo video [c, d] = false := by
  simp only [voiceEndsVideo, hasConnected, List.any_filter, Bool.and_eq_false_iff]
  refine .inr ?_
  simp only [List.any_cons, List.any_nil, Bool.or_false, Bool.or_eq_false_iff]
  exact ⟨by simpa [and_comm] using hc, by simpa [and_comm] using hd⟩

/-- Beside an active call an answer does not go ahead without a hold, unless it ends the call. -/
theorem answerBeside_active {anchor other : Call} (h : anchor.state = .active) (r : Refusal) :
    ((answerBeside anchor other).getD (.refuse r)).rank ≤ 2 := by
  unfold answerBeside
  rw [h]
  dsimp only
  split
  · simp
  · split <;> simp

/-- Beside an active call a voice answer needs a hold, unless it ends a call with video. -/
theorem onAnswer_pair_active {c d : Call} (h : c.state = .active ∨ d.state = .active)
    (hv : voiceEndsVideo .voice [c, d] = false) : (onAnswer .voice [c, d]).rank ≤ 2 := by
  unfold onAnswer
  rw [if_neg (by simp [hv, videoEndsOthers])]
  dsimp only
  split
  · simp
  · rename_i hpair
    have hh : ¬((c.state == .holding && d.state == .holding) = true) := by
      rcases h with h | h <;> simp [h]
    rw [if_neg hh]
    split
    · rename_i hc
      -- The first call is connected; if it is held, the second one is active and they are a pair.
      rcases h with h | h
      · exact answerBeside_active h _
      · cases hs : c.state <;> simp_all [CallState.isConnected, heldAndActive?]
        exact answerBeside_active hs _
    · rename_i hc
      rcases h with h | h
      · rw [h] at hc
        exact absurd rfl hc
      · exact answerBeside_active h _

/-- The same for an answer, provided the second call is not one that the answer ends. -/
theorem onAnswer_pair_le_single (video : VideoState) {c : Call} (d : Call)
    (hc : ¬(video = .voice ∧ c.state.isConnected ∧ c.carriesVideo)) :
    (onAnswer video [c, d]).rank ≤ (onAnswer video [d]).rank ∧
      (onAnswer video [d, c]).rank ≤ (onAnswer video [d]).rank := by
  by_cases h : d.state = .active ∧ video = .voice ∧ ¬d.carriesVideo
  · obtain ⟨ha, rfl, hv⟩ := h
    have hd : (onAnswer .voice [d]).rank = 2 := by
      simp [onAnswer, videoEndsOthers, voiceEndsVideo, hasConnected, ha, hv]
    have hc' : ¬(c.state.isConnected ∧ c.carriesVideo) := fun e => hc ⟨rfl, e⟩
    have hd' : ¬(d.state.isConnected ∧ d.carriesVideo) := fun e => hv e.2
    rw [hd]
    exact ⟨onAnswer_pair_active (.inr ha) (voiceEndsVideo_pair hc' hd'),
      onAnswer_pair_active (.inl ha) (voiceEndsVideo_pair hd' hc')⟩
  · have hd : (onAnswer video [d]).rank = 3 := by
      unfold onAnswer
      split
      · rfl
      · rename_i hend
        dsimp only
        split
        · rename_i ha
          simp_all [videoEndsOthers, voiceEndsVideo, hasConnected, CallState.isConnected]
        · split <;> rfl
    rw [hd]
    exact ⟨Outcome.rank_le_three _, Outcome.rank_le_three _⟩

/-! ## A dialed call -/

theorem onDial_nil (p : Policy) : (p.onDial []).rank = 3 := rfl

/-- A call is dialed beside one other at most. -/
theorem onDial_many (p : Policy) {calls : List Call} (h : 1 < calls.length) :
    (p.onDial calls).rank = 0 := by
  match calls, h with
  | _ :: _ :: _, _ =>
    unfold onDial
    rw [if_neg (by simp)]
    dsimp only
    repeat' split
    all_goals rfl

/-- An emergency call is refused beside one that is connecting already, and by nothing else. -/
theorem onEmergencyDial_rank (calls : List Call) :
    (onEmergencyDial calls).rank =
      if calls.any fun c => c.emergency && c.state.isConnecting then 0 else 3 := by
  unfold onEmergencyDial
  split <;> rfl

theorem onEmergencyDial_insert_le (before after : List Call) (c : Call) :
    (onEmergencyDial (before ++ c :: after)).rank ≤ (onEmergencyDial (before ++ after)).rank := by
  rw [onEmergencyDial_rank, onEmergencyDial_rank]
  split
  · exact Nat.zero_le _
  · rename_i h
    have hfewer : ¬(before ++ after).any (fun c => c.emergency && c.state.isConnecting) = true := by
      intro hany
      apply h
      simp only [List.any_append, List.any_cons, Bool.or_eq_true] at hany ⊢
      exact hany.imp_right .inr
    exact Nat.le_of_eq (by rw [if_neg hfewer])

end Policy

/-- The request answers a call with voice, and `c` is another call, connected and with video. The
answer ends such a call, and with it whatever else is connecting or connected. -/
def Request.ClearedBy (request : Request) (c : Call) : Prop :=
  request.kind = .answer .voice ∧ some c.id ≠ request.call ∧ c.state.isConnected ∧ c.carriesVideo

instance (request : Request) (c : Call) : Decidable (request.ClearedBy c) :=
  inferInstanceAs (Decidable (_ ∧ _ ∧ _ ∧ _))

namespace Policy

/-- The policy `q` lets through at least what `p` does: it has call waiting if `p` has, and its
limit is not lower. -/
def Looser (q p : Policy) : Prop :=
  (p.callWaiting = true → q.callWaiting = true) ∧ p.maxCalls ≤ q.maxCalls

instance (q p : Policy) : Decidable (q.Looser p) := inferInstanceAs (Decidable (_ ∧ _))

theorem others_append (request : Request) (before after : List Call) :
    others request (before ++ after) = others request before ++ others request after :=
  List.filter_append ..

/-- A call that is inserted does not count, or it is inserted between the calls that count. -/
theorem others_insert (request : Request) (before after : List Call) (c : Call) :
    others request (before ++ c :: after) = others request (before ++ after) ∨
      (some c.id ≠ request.call ∧ others request (before ++ c :: after) =
        others request before ++ c :: others request after) := by
  simp only [others_append]
  unfold others
  by_cases h : (!c.state.isTerminal && some c.id != request.call) = true
  · rw [List.filter_cons, if_pos h]
    simp only [Bool.and_eq_true, bne_iff_ne] at h
    exact .inr ⟨h.2, rfl⟩
  · rw [List.filter_cons, if_neg h]
    exact .inl rfl

/-- One more call does not raise the rank. -/
theorem evaluate_insert_le (p : Policy) {request : Request} {c : Call}
    (hc : ¬request.ClearedBy c) (before after : List Call) :
    (p.evaluate request (before ++ c :: after)).rank ≤
      (p.evaluate request (before ++ after)).rank := by
  unfold evaluate
  rcases others_insert request before after c with h | ⟨hne, h⟩
  · exact Nat.le_of_eq (by rw [h])
  · rw [h, others_append]
    generalize others request before = before
    generalize others request after = after
    dsimp only
    split
    case h_1 =>
      refine le_of_small (f := fun calls => (p.onIncoming request.slot calls).rank)
        (fun calls => ?_) (fun d => ?_) (fun calls h => ?_) before after
      · rw [onIncoming_nil]
        exact Outcome.rank_le_three _
      · exact onIncoming_pair_le_single p request.slot c d
      · exact onIncoming_many p request.slot h
    case h_2 video hk =>
      refine le_of_small (f := fun calls => (onAnswer video calls).rank)
        (fun calls => ?_) (fun d => ?_) (fun calls h => ?_) before after
      · rw [onAnswer_nil]
        exact Outcome.rank_le_three _
      · refine onAnswer_pair_le_single video d fun ⟨hv, hs⟩ => hc ⟨?_, hne, hs⟩
        rw [hk, hv]
      · exact onAnswer_many video h
    case h_3 => exact onEmergencyDial_insert_le before after c
    case h_4 =>
      refine le_of_small (f := fun calls => (p.onDial calls).rank)
        (fun calls => ?_) (fun d => ?_) (fun calls h => ?_) before after
      · rw [onDial_nil]
        exact Outcome.rank_le_three _
      · have hcd : (p.onDial [c, d]).rank = 0 := onDial_many p (by simp)
        have hdc : (p.onDial [d, c]).rank = 0 := onDial_many p (by simp)
        rw [hcd, hdc]
        exact ⟨Nat.zero_le _, Nat.zero_le _⟩
      · exact onDial_many p (by omega)

/-- For an arrival only call waiting matters. -/
theorem onIncoming_looser {p q : Policy} (h : q.Looser p) (slot : SlotId) (calls : List Call) :
    (p.onIncoming slot calls).rank ≤ (q.onIncoming slot calls).rank := by
  by_cases hp : (!p.callWaiting && hasActive calls) = true
  · simp only [Bool.and_eq_true, Bool.not_eq_true'] at hp
    rw [onIncoming_refused slot hp.1 hp.2]
    exact Nat.zero_le _
  · have hq : ¬(!q.callWaiting && hasActive calls) = true := by
      intro hq
      simp only [Bool.and_eq_true, Bool.not_eq_true'] at hp hq
      cases hw : p.callWaiting with
      | false => exact hp ⟨hw, hq.2⟩
      | true => rw [h.1 hw] at hq; exact absurd hq.1 (by decide)
    unfold onIncoming
    exact Nat.le_of_eq (by rw [if_neg hp, if_neg hq])

/-- For a dialed call only the limit of calls matters. -/
theorem onDial_looser {p q : Policy} (h : q.Looser p) (calls : List Call) :
    (p.onDial calls).rank ≤ (q.onDial calls).rank := by
  have hmax := h.2
  unfold onDial
  split
  · exact Nat.le_refl _
  split
  · exact Nat.le_refl _
  split
  · exact Nat.le_refl _
  by_cases hp : p.maxCalls ≤ calls.length
  · rw [if_pos hp]
    exact Nat.zero_le _
  · exact Nat.le_of_eq (by rw [if_neg hp, if_neg (show ¬q.maxCalls ≤ calls.length by omega)])

/-- A looser policy does not lower the rank. -/
theorem evaluate_looser {p q : Policy} (h : q.Looser p) (request : Request) (calls : List Call) :
    (p.evaluate request calls).rank ≤ (q.evaluate request calls).rank := by
  unfold evaluate
  dsimp only
  split
  · exact onIncoming_looser h _ _
  · exact Nat.le_refl _
  · exact Nat.le_refl _
  · exact onDial_looser h _

/-- **Admission is monotone.** One more call at any place among the calls does not raise the
permissiveness of the decision, unless the request is cleared by that call; and a looser policy
does not lower it. -/
theorem evaluate_permissiveness_le (p : Policy) (request : Request) :
    (∀ before after c, ¬request.ClearedBy c →
      (p.evaluate request (before ++ c :: after)).decision.permissiveness ≤
        (p.evaluate request (before ++ after)).decision.permissiveness) ∧
    ∀ (q : Policy) calls, q.Looser p → (p.evaluate request calls).decision.permissiveness ≤
      (q.evaluate request calls).decision.permissiveness :=
  ⟨fun before after _ hc => evaluate_insert_le p hc before after,
    fun _ calls h => evaluate_looser h request calls⟩

/-- A voice answer beside an active call and a dialing one with video, which is no exception: the
dialing call is inserted before the active one. Call waiting is turned on for an arrival. -/
theorem evaluate_permissiveness_le_dialing :
    let active := Call.fresh 1 0 .cs .active .outgoing "100"
    let dialing := { Call.fresh 2 0 .ims .dialing .outgoing "101" with video := .twoWay }
    let ringing := Call.fresh 3 0 .cs .incoming .incoming "102"
    let request := Request.answer ringing .voice
    ¬request.ClearedBy dialing ∧
      ((Policy.mk false 1).evaluate request [dialing, active, ringing]).decision.permissiveness ≤
        ((Policy.mk false 1).evaluate request [active, ringing]).decision.permissiveness ∧
      (Policy.mk true 6).Looser (Policy.mk false 1) ∧
      ((Policy.mk false 1).evaluate request [active, ringing]).decision.permissiveness ≤
        ((Policy.mk true 6).evaluate request [active, ringing]).decision.permissiveness :=
  ⟨by decide, (evaluate_permissiveness_le ⟨false, 1⟩ _).1 [] _ _ (by decide), by decide,
    (evaluate_permissiveness_le ⟨false, 1⟩ _).2 ⟨true, 6⟩ _ (by decide)⟩

-- The exception: a second conversation, with video, is ended together with the first.
example :
    let first := Call.fresh 1 0 .cs .active .outgoing "100"
    let second := { Call.fresh 2 0 .ims .active .outgoing "101" with video := .twoWay }
    let ringing := Call.fresh 3 0 .cs .incoming .incoming "102"
    let p : Policy := ⟨true, 6⟩
    (p.evaluate (.answer ringing .voice) [first, ringing]).decision = .autoHold ∧
      (p.evaluate (.answer ringing .voice) [first, second, ringing]).decision = .answer := by
  decide

end Policy
end Switchboard.Admission
