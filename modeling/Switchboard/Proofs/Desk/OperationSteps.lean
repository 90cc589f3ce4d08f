import Switchboard.Proofs.Desk.Steps

/-!
# The operations, step by step

The requests and the reports of the desk, one by one: each is made of steps, however it ends
(`steps_*`). The proofs follow the text of the operations. Where an operation makes a call active,
its proof shows that every other active call was put on hold or ended before, so that the operation
keeps to the rule by itself; where it does not do so, the rule is a hypothesis. In the same way only
a separation and a report move calls that are not `Live`.
-/

namespace Switchboard.Desk

open DeskM

variable {rule : Rule} {d₀ d : Desk} {n : Nat}

/-! ## Live calls -/

/-- The call with the number `id`, if there is one, is neither idle nor on its way out. -/
def Live (d : Desk) (id : CallId) : Prop :=
  ∀ c ∈ d.registry.calls, c.id = id → c.state.isTerminal = false

/-- A registered call is live if its state is one of a live call. -/
theorem live_of_mem {c : Call} (hc : c ∈ d.registry.calls) (hs : c.state.isTerminal = false) :
    d.Live c.id := by
  intro x hx hid
  rw [Registry.eq_of_id_eq hx hc hid]
  exact hs

/-- A move into a state in which calls are live lets no call go. -/
theorem Live.moved {id : CallId} (hl : d.Live id) (c : Call) {next : CallState}
    (hn : next.isTerminal = false) : (d.moved c next).Live id := by
  intro x hx hid
  rw [registry_moved] at hx
  rcases Registry.mem_adjust.mp hx with ⟨hx, -⟩ | ⟨_, -, -, rfl⟩
  · exact hl x hx hid
  · exact hn

/-- An edit that does not concern the state keeps a call live. -/
theorem Live.amended {id : CallId} (hl : d.Live id) (id' : CallId) (e : Edit) :
    (d.amended id' e.apply).Live id := by
  intro x hx hid
  rcases Registry.mem_adjust.mp hx with ⟨hx, -⟩ | ⟨y, hy, rfl, rfl⟩
  · exact hl x hx hid
  · exact (congrArg CallState.isTerminal (e.apply_state y)).trans (hl y hy hid)

theorem Live.telephoned {id : CallId} (hl : d.Live id) (command : Command) :
    (d.telephoned command).Live id := by
  unfold Live
  rwa [registry_telephoned]

/-- A call in one of some states in which calls are live. -/
theorem live_of_state_mem {c : Call} {allowed : List CallState} (hc : c ∈ d.registry.calls)
    (hs : c.state ∈ allowed) (ha : ∀ s ∈ allowed, s.isTerminal = false) : d.Live c.id :=
  live_of_mem hc (ha c.state hs)

/-- The calls of a live state are live. -/
theorem live_of_findByState {state : CallState} (hs : state.isTerminal = false) {c : Call}
    (hc : c ∈ d.registry.findByState state) : d.Live c.id := by
  obtain ⟨hc, hstate⟩ := List.mem_filter.mp hc
  exact live_of_mem hc (beq_iff_eq.mp hstate ▸ hs)

/-- What admission does, it does to live calls. -/
theorem live_of_evaluate (p : Admission.Policy) (request : Admission.Request)
    {a : Admission.Action} (ha : a ∈ (p.evaluate request d.registry.calls).actions) :
    d.Live a.target := by
  obtain ⟨c, hc, hid⟩ := (p.evaluate_targets request d.registry.calls).exists_mem ha
  obtain ⟨hc, hcounts⟩ := List.mem_filter.mp hc
  rw [← hid]
  exact live_of_mem hc (by simpa using (Bool.and_eq_true_iff.mp hcounts).1)

/-- A live call is live after an action, if it is still there. -/
theorem Live.of_apply {d' : Desk} {id : CallId} (hl : d.Live id) {a : Admission.Action}
    (h : d'.registry.calls = a.apply d.registry.calls) : d'.Live id := by
  intro x hx hid
  rw [h] at hx
  rcases Admission.mem_apply hx with ⟨hx, -⟩ | ⟨hs, -⟩
  · exact hl x hx hid
  · rw [hs]
    rfl

/-! ## Edits -/

section

variable (h : Steps rule d₀ n d)
include h

theorem steps_telephone (command : Command) :
    (telephone command).Within d (Steps rule d₀ n) :=
  ends_telephone (h.step (.telephoned command)) (h.step (.telephoned command))

/-- A call may go into another state if the rule lets it: out of order, off hold while it is held
back, or back from its end. -/
theorem steps_setState (id : CallId) (next : CallState) (hn : next ≠ .disconnected)
    (hs : rule.orderly → next = .active → d.Lone id)
    (hb : ∀ c ∈ d.registry.calls, c.id = id → c.Pinned → rule.allowed .release)
    (hv : d.Live id ∨ rule.allowed .revive) :
    (setState id next).Within d (Steps rule d₀ n) := by
  refine ends_setState (fun c hc hid => h.step (.moved hc next hn (hid ▸ hs)
    (fun hh => .inr (hb c hc hid hh)) fun ht => ?_)) fun _ => h
  exact hv.resolve_left fun hl => by simp [hl c hc hid] at ht

theorem steps_moved_holding {c : Call} (hc : c ∈ d.registry.calls) (hl : d.Live c.id) :
    Steps rule d₀ n (d.moved c .holding) :=
  h.step (.moved hc .holding (by simp) (by simp) (fun _ => .inl rfl) fun ht => by
    simp [hl c hc rfl] at ht)

theorem steps_setState_holding {id : CallId} (hl : d.Live id) :
    (setState id .holding).Within d (Steps rule d₀ n) :=
  ends_setState (fun _ hc hid => steps_moved_holding h hc (hid ▸ hl)) fun _ => h

/-- A call that is there is dropped, and otherwise nothing happens. -/
theorem steps_unregister (id : CallId) : (unregister id).Within d (Steps rule d₀ n) :=
  ends_unregister (fun _ hc _ => h.step (.dropped hc)) fun _ => h

theorem steps_amend (id : CallId) {f : Call → Call} (e : Edit) (hf : f = e.apply)
    (he : e.Admitted rule) : (amend id f).Within d (Steps rule d₀ n) :=
  ends_amend (fun _ _ _ => hf ▸ h.step (.amended id e he)) fun _ => h

theorem steps_part (id : CallId) :
    (do
      setState id .disconnected
      unregister id : DeskM Unit).Within d (Steps rule d₀ n) :=
  ends_part (fun _ hc _ => h.step (.parted hc)) fun _ => h

/-- A call that is finished keeps the reason, is disconnected and then removed. -/
theorem steps_finish (id : CallId) (ended : EndReason) :
    (finish id ended).Within d (Steps rule d₀ n) :=
  (steps_amend h id (.ended ended) rfl (by simp)).discard_bind fun _ h => steps_part h id

theorem steps_videoChanged {c : Call} (hc : c ∈ d.registry.calls) (new : VideoState) :
    (videoChanged c.id c.video new).Within d (Steps rule d₀ n) :=
  (ends_videoChanged hc).mpr (h.step (.shown hc new))

/-! ## Admission -/

/-- An action of admission asks telephony first, and is carried out on a live call. -/
theorem steps_act {a : Admission.Action} (hl : d.Live a.target) :
    (act a).Within d (Steps rule d₀ n) := by
  cases a with
  | hold id =>
    refine within_bind.mpr (ends_call (fun c _ _ => ?_) fun _ => h)
    have ht := h.step (.telephoned (.hold c))
    exact within_bind.mpr (ends_telephone (steps_setState_holding ht (hl.telephoned _)) ht)
  | hangUp id =>
    refine within_bind.mpr (ends_call (fun _ _ _ => ?_) fun _ => h)
    exact (steps_telephone h _).bind fun _ _ h => steps_finish h id .normal
  | reject id =>
    refine within_bind.mpr (ends_call (fun _ _ _ => ?_) fun _ => h)
    exact (steps_telephone h _).bind fun _ _ h => steps_unregister h id

end

/-- Each action leaves the targets of the others live, if they are still there. -/
theorem steps_actAll (h : Steps rule d₀ n d) {actions : List Admission.Action}
    (hl : ∀ a ∈ actions, d.Live a.target) : (actAll actions).Within d (Steps rule d₀ n) := by
  induction actions generalizing d with
  | nil => exact h
  | cons a rest ih =>
    refine within_bind.mpr (((steps_act h (hl a (by simp))).and (act_applies a d)).mono
      (fun _ d₁ h₁ => ?_) fun _ _ h => h.1)
    exact ih h₁.1 fun b hb => (hl b (by simp [hb])).of_apply h₁.2.1

/-! ## Ending and holding -/

theorem steps_keepHeld (h : Steps rule d₀ n d) (hb : rule.allowed .holdBack) (calls : List Call) :
    (keepHeld calls).Within d (Steps rule d₀ n) := by
  induction calls generalizing d with
  | nil => exact h
  | cons c rest ih =>
    exact (steps_amend h c.id (.canUnhold false) rfl hb).discard_bind fun _ h => ih h

/-- The calls of a list were put on hold. -/
structure Spared (d d' : Desk) (calls : List Call) : Prop where
  /-- Every call that is active was active before and is not in the list. -/
  active : ∀ x ∈ d'.registry.calls, x.state = .active →
    (∃ y ∈ d.registry.calls, y.id = x.id ∧ y.state = .active) ∧ ∀ c ∈ calls, c.id ≠ x.id
  live : ∀ id, d.Live id → d'.Live id

theorem spared_nil (d : Desk) : Spared d d [] :=
  ⟨fun x hx ha => ⟨⟨x, hx, rfl, ha⟩, by simp⟩, fun _ => id⟩

theorem Spared.of_telephoned {d d' : Desk} {command : Command} {calls : List Call}
    (h : Spared (d.telephoned command) d' calls) : Spared d d' calls := by
  refine ⟨?_, fun id hl => h.live id (hl.telephoned _)⟩
  have ha := h.active
  rwa [registry_telephoned] at ha

/-- If one more call was put on hold first, it is spared as well. -/
theorem Spared.cons {d d' : Desk} {c c' : Call} {calls : List Call} (hid : c'.id = c.id)
    (h : Spared (d.moved c' .holding) d' calls) : Spared d d' (c :: calls) := by
  refine ⟨fun x hx ha => ?_, fun id hl => h.live id (hl.moved c' rfl)⟩
  obtain ⟨⟨y, hy, hyx, hya⟩, hcalls⟩ := h.active x hx ha
  rw [registry_moved] at hy
  rcases Registry.mem_adjust.mp hy with ⟨hyd, hne⟩ | ⟨z, -, -, rfl⟩
  · refine ⟨⟨y, hyd, hyx, hya⟩, ?_⟩
    intro c₁ hc₁
    rcases List.mem_cons.mp hc₁ with rfl | hc₁
    · rw [← hid, ← hyx]
      exact hne.symm
    · exact hcalls c₁ hc₁
  · cases hya

/-- Nothing is active once every active call was put on hold. -/
theorem Spared.lone {d d' : Desk} (hd : Spared d d' (d.registry.findByState .active))
    (id : CallId) : d'.Lone id := by
  intro x hx ha
  obtain ⟨⟨y, hy, hyx, hya⟩, hcalls⟩ := hd.active x hx ha
  exact absurd hyx (hcalls y (by simp [Registry.findByState, hy, hya]))

/-- An edit that does not concern the state makes no other call active. -/
theorem Lone.amended {id id' : CallId} (hd : d.Lone id) (e : Edit) :
    (d.amended id' e.apply).Lone id := by
  intro x hx ha
  rcases Registry.mem_adjust.mp hx with ⟨hx, -⟩ | ⟨y, hy, -, rfl⟩
  · exact hd x hx ha
  · refine hd y hy ?_
    simpa using ha

/-- Calls that are put on hold one after the other are all on hold in the end. -/
theorem steps_setStates_holding (h : Steps rule d₀ n d) {calls : List Call}
    (hl : ∀ c ∈ calls, d.Live c.id) :
    (setStates .holding calls).Ends d (fun _ d' => Steps rule d₀ n d' ∧ Spared d d' calls)
      fun _ => Steps rule d₀ n := by
  induction calls generalizing d with
  | nil => exact ⟨h, spared_nil d⟩
  | cons c rest ih =>
    unfold setStates
    rw [ends_bind]
    refine ends_setState (fun c' hc' hid => ?_) fun _ => h
    exact (ih (steps_moved_holding h hc' (hid ▸ hl c (by simp)))
      fun x hx => (hl x (by simp [hx])).moved c' rfl).mono
        (fun _ _ hd => ⟨hd.1, hd.2.cons hid⟩) fun _ _ hd => hd

/-- The same, where telephony is asked for each call; it may refuse on the way. -/
theorem steps_holdAll (h : Steps rule d₀ n d) {calls : List Call}
    (hl : ∀ c ∈ calls, d.Live c.id) :
    (holdAll calls).Ends d (fun _ d' => Steps rule d₀ n d' ∧ Spared d d' calls)
      fun _ => Steps rule d₀ n := by
  induction calls generalizing d with
  | nil => exact ⟨h, spared_nil d⟩
  | cons c rest ih =>
    unfold holdAll
    rw [ends_bind]
    have ht := h.step (.telephoned (.hold c))
    have hlt : ∀ x ∈ c :: rest, (d.telephoned (.hold c)).Live x.id :=
      fun x hx => (hl x hx).telephoned _
    refine ends_telephone ?_ ht
    rw [ends_bind]
    refine ends_setState (fun c' hc' hid => ?_) fun _ => ht
    refine (ih (steps_moved_holding ht hc' (hid ▸ hlt c (by simp)))
      fun x hx => (hlt x (by simp [hx])).moved c' rfl).mono
        (fun _ _ hd => ⟨hd.1, (hd.2.cons hid).of_telephoned⟩) fun _ _ hd => hd

/-- Making registered calls members of a conference cannot fail. -/
theorem steps_joinPeers (h : Steps rule.lax d₀ n d) (hj : rule.allowed .join)
    (hr : rule.allowed .release) (main : CallId) (peers : List Call)
    (hp : ∀ p ∈ peers, (∃ c ∈ d.registry.calls, c.id = p.id) ∧ d.Live p.id) :
    (joinPeers main peers).Ends d (fun _ => Steps rule.lax d₀ n) fun _ _ => False := by
  induction peers generalizing d with
  | nil => exact h
  | cons p rest ih =>
    obtain ⟨hpresent, hlive⟩ := hp p (by simp)
    unfold joinPeers
    rw [ends_bind, ends_discard]
    refine ends_amend (fun _ _ _ => ?_) fun ha => ?_
    · have hla := hlive.amended p.id (.conference (some main))
      rw [ends_bind]
      refine ends_setState (fun c hc hid => ?_) fun ha => ?_
      · have hjoined := h.step (.amended p.id (.conference (some main)) ⟨rule.not_orderly_lax, hj⟩)
        refine ih (hjoined.step
          (.moved hc .active (by simp) (by simp) (fun _ => .inr hr) fun ht => ?_)) fun q hq => ?_
        · simp [hla c hc hid] at ht
        · obtain ⟨hpresent, hlive⟩ := hp q (by simp [hq])
          refine ⟨?_, (hlive.amended p.id (.conference (some main))).moved c rfl⟩
          rw [registry_moved]
          exact present_amended (present_amended hpresent)
      · obtain ⟨c, hc, hid⟩ := present_amended hpresent
        exact ha c hc hid
    · obtain ⟨c, hc, hid⟩ := hpresent
      exact ha c hc hid

theorem isRinging_of_mem {state : CallState} (h : state ∈ [CallState.incoming, .waiting]) :
    state.isRinging = true := by
  rcases List.mem_cons.mp h with hs | hs
  · rw [hs]
    rfl
  · rw [List.mem_singleton.mp hs]
    rfl

/-- A call is resumed while no other is active, unless it is held back. -/
theorem steps_resume (h : Steps rule d₀ n d) (c : Call) (hs : rule.orderly → d.Lone c.id)
    (hb : ∀ x ∈ d.registry.calls, x.id = c.id → ¬x.Pinned) (hl : d.Live c.id) :
    (resume c).Within d (Steps rule d₀ n) := by
  have ht := h.step (.telephoned (.unhold c))
  refine within_bind.mpr (ends_telephone ?_ ht)
  refine steps_setState ht c.id .active (by simp) (fun hstrict _ => ?_) (fun x hx hid hh => ?_)
    (.inl (hl.telephoned _))
  · simpa only [Lone, registry_telephoned] using hs hstrict
  · rw [registry_telephoned] at hx
    exact absurd hh (hb x hx hid)

section

variable (h : Steps rule d₀ n d) (id : CallId)
include h

/-- Before a rejected call is removed, every held call is held back. -/
theorem steps_reject (hb : rule.allowed .holdBack) :
    (reject id).Within d (Steps rule d₀ n) := by
  refine within_bind.mpr (ends_callIn (fun c _ _ _ => ?_) fun _ _ => h)
  refine (steps_telephone h _).bind fun _ _ h => within_bind.mpr ?_
  exact (steps_keepHeld h hb _).bind fun _ _ h => steps_unregister h id

theorem steps_hold : (hold id).Within d (Steps rule d₀ n) := by
  refine within_bind.mpr (ends_callIn (fun c hc hid hs => ?_) fun _ _ => h)
  subst hid
  have hl : d.Live c.id := live_of_state_mem hc hs (by decide)
  have ht := h.step (.telephoned (.hold c))
  exact within_bind.mpr (ends_telephone (steps_setState_holding ht (hl.telephoned _)) ht)

/-- Hanging up ends the call. If no other call is active then, it resumes a held call that is not
held back. -/
theorem steps_hangUp : (hangUp id).Within d (Steps rule d₀ n) := by
  refine within_bind.mpr (ends_call (fun c _ _ => ?_) fun _ => h)
  split
  · exact within_throw_bind h
  refine (steps_telephone h _).bind fun _ d₁ h => ?_
  refine (steps_finish h id .normal).bind fun _ d₂ h => within_bind.mpr ?_
  rw [ends_get]
  split
  · rename_i hidle
    have hnone : ∀ x ∈ d₂.registry.calls, x.state ≠ .active := by
      simpa [hasActive] using hidle.2
    split
    · rename_i held hfound
      have hheld : held ∈ d₂.registry.calls :=
        (List.mem_filter.mp (List.mem_of_find?_eq_some hfound)).1
      have hfree : held.canUnhold = true := List.find?_some hfound
      refine (ends_tryCatch _).mpr ?_
      -- No call is active, so the rule is kept; and the held call was chosen for not being held
      -- back.
      refine steps_resume h held (fun _ x hx ha => absurd ha (hnone x hx)) (fun x hx hid hh => ?_)
        (live_of_findByState rfl (List.mem_of_find?_eq_some hfound))
      rw [Registry.eq_of_id_eq hx hheld hid, Call.Pinned, hfree] at hh
      cases hh.2
    · exact h
  · exact h

/-- Taking a call off hold first holds every active call, and lifts what held it back. -/
theorem steps_unhold : (unhold id).Within d (Steps rule d₀ n) := by
  refine within_bind.mpr (ends_callIn (fun c hc hid hs => ?_) fun _ _ => h)
  subst hid
  have hlive : d.Live c.id := live_of_state_mem hc hs (by decide)
  refine within_bind.mpr ?_
  rw [ends_get]
  refine within_bind.mpr ((steps_holdAll h fun _ => live_of_findByState rfl).mono
    (fun _ d₁ h₁ => ?_) fun _ _ h => h)
  have hl : d₁.Lone c.id := h₁.2.lone c.id
  refine within_bind.mpr (ends_discard.mpr (ends_amend (fun _ _ _ => ?_) fun _ => h₁.1))
  refine steps_resume (h₁.1.step (.amended c.id (.canUnhold true) (by simp))) c
    (fun _ => hl.amended _) (fun x hx hid hh => ?_)
    ((h₁.2.live _ hlive).amended c.id (.canUnhold true))
  rcases Registry.mem_adjust.mp hx with ⟨-, hne⟩ | ⟨y, -, -, rfl⟩
  · exact hne hid
  · cases hh.2

/-- The calls of a list are put on hold, and another one becomes active. -/
theorem steps_swap (hr : rule.allowed .release) (c : Call) {toHold : List Call}
    (hlive : d.Live id) (hhold : ∀ c ∈ toHold, d.Live c.id)
    (hl : rule.orderly → ∀ d', Spared d d' toHold → d'.Lone id) :
    (do
      telephone (.switch c)
      setStates .holding toHold
      setState id .active).Within d (Steps rule d₀ n) := by
  have ht := h.step (.telephoned (.switch c))
  refine within_bind.mpr (ends_telephone ?_ ht)
  refine within_bind.mpr ((steps_setStates_holding ht fun x hx =>
    (hhold x hx).telephoned _).mono (fun _ d₁ h₁ => ?_) fun _ _ h => h)
  have hspared : Spared d d₁ toHold := h₁.2.of_telephoned
  exact steps_setState h₁.1 id .active (by simp) (fun hstrict _ => hl hstrict d₁ hspared)
    (fun _ _ _ _ => hr) (.inl (hspared.live id hlive))

/-- A switch keeps to the rule as long as at most one call was active. -/
theorem steps_switch (hr : rule.allowed .release) (hs : rule.orderly → d.Single) :
    (switch id).Within d (Steps rule d₀ n) := by
  refine within_bind.mpr (ends_callIn (fun c hc hid hstate => ?_) fun _ _ => h)
  refine within_bind.mpr ?_
  rw [ends_get]
  dsimp only
  have hlive : d.Live c.id := live_of_state_mem hc hstate (by decide)
  split
  · refine within_bind.mpr ((ends_pure _).mpr ?_)
    split
    · exact within_throw_bind h
    · exact steps_swap h c.id hr c hlive (fun _ => live_of_findByState rfl)
        fun _ _ hd => hd.lone c.id
  · rename_i hholding
    have hactive : c.state = .active := by
      -- A call that is not on hold can be switched only if it is active.
      rcases List.mem_cons.mp hstate with ha | ha
      · exact ha
      · exact absurd (List.mem_singleton.mp ha) hholding
    split
    · rename_i held hhead
      refine within_bind.mpr ((ends_pure _).mpr ?_)
      split
      · exact within_throw_bind h
      · refine steps_swap h held.id hr c (live_of_findByState rfl (List.mem_of_head? hhead))
          (fun x hx => List.mem_singleton.mp hx ▸ hlive) fun hstrict d' hd x hx ha => ?_
        -- Only `c` was active, and it was put on hold.
        obtain ⟨⟨y, hy, hyx, hya⟩, hcalls⟩ := hd.active x hx ha
        exact absurd ((hs hstrict c hc y hy hactive hya).trans hyx) (hcalls c (by simp))
    · exact within_throw_bind h

/-! ## Conferences -/

/-- A conference with one member is no conference any more. -/
theorem steps_dissolveIfSingle (main : CallId) :
    (dissolveIfSingle main).Within d (Steps rule d₀ n) := by
  refine within_bind.mpr ?_
  rw [ends_get]
  split
  · rename_i last _
    exact ends_discard.mpr (steps_amend h last.id (.conference none) rfl (by simp))
  · exact h

/-- Without conferences nothing can be taken out of one. -/
theorem steps_separate (hr : rule.allowed .release) (hv : rule.allowed .revive)
    (hs : rule.orderly → ∀ c ∈ d.registry.calls, c.conference = none) :
    (separate id).Within d (Steps rule d₀ n) := by
  refine within_bind.mpr (ends_member (fun c hc main hid hmain => ?_) fun _ _ => h)
  have hfree : ¬rule.orderly := fun hstrict => by simp [hs hstrict c hc] at hmain
  refine (steps_telephone h _).bind fun _ _ h => ?_
  refine (steps_amend h id (.conference none) rfl (by simp)).discard_bind fun d₁ h => ?_
  refine within_bind.mpr ?_
  rw [ends_get]
  -- Only the members that are active are put on hold, and those are live.
  have hlive : ∀ x ∈ (members d₁.registry main).filter (·.state == .active), d₁.Live x.id := by
    intro x hx
    obtain ⟨hx, hactive⟩ := List.mem_filter.mp hx
    exact live_of_mem (List.mem_filter.mp hx).1 (beq_iff_eq.mp hactive ▸ rfl)
  refine within_bind.mpr ((steps_setStates_holding h hlive).mono (fun _ _ h => ?_)
    fun _ _ h => h)
  refine (steps_dissolveIfSingle h.1 main).bind fun _ _ h => ?_
  split
  · exact steps_setState h id .active (by simp) (fun hstrict => absurd hstrict hfree)
      (fun _ _ _ _ => hr) (.inr hv)
  · exact h

/-- A call is kicked out of its conference by being finished. -/
theorem steps_kickOut : (kickOut id).Within d (Steps rule d₀ n) := by
  refine within_bind.mpr (ends_member (fun c hc main hid hmain => ?_) fun _ _ => h)
  refine (steps_telephone h _).bind fun _ _ h => ?_
  exact (steps_finish h id .normal).bind fun _ _ h => steps_dissolveIfSingle h main

/-- To invite others to a conference is between telephony and them: no record changes. -/
theorem steps_join (numbers : List String) :
    (join id numbers).Within d (Steps rule d₀ n) := by
  refine within_bind.mpr (ends_callIn (fun c _ _ _ => ?_) fun _ _ => h)
  split
  · exact within_throw_bind h
  · exact steps_telephone h _

/-- A combination that fails has formed no conference. -/
theorem steps_combine (hj : rule.allowed .join) (hr : rule.allowed .release) :
    (combine id).Ends d (fun _ => Steps rule.lax d₀ n) fun _ => Steps rule d₀ n := by
  unfold combine
  rw [ends_bind]
  refine ends_callIn (fun c hc hid _ => ?_) fun _ _ => h
  subst hid
  rw [ends_bind, ends_get]
  dsimp only
  split
  · exact h
  rw [ends_bind]
  refine ends_telephone ?_ (h.step (.telephoned _))
  rw [ends_bind, ends_discard]
  rw [ends_amend_of_mem (by simpa using hc)]
  refine (steps_joinPeers ((h.step (.telephoned _)).weaken.step
    (.amended c.id (.conference (some c.id)) ⟨rule.not_orderly_lax, hj⟩)) hj hr c.id _
    fun p hp => ?_).mono (fun _ _ h => h) fun _ _ h => h.elim
  refine ⟨present_amended ⟨p, ?_, rfl⟩, ?_⟩
  · rw [registry_telephoned]
    exact (List.mem_filter.mp hp).1
  · exact ((live_of_findByState rfl hp).telephoned _).amended c.id (.conference (some c.id))

/-! ## Text, media and keys -/

theorem steps_startRtt (text : String) : (startRtt id text).Within d (Steps rule d₀ n) :=
  within_bind.mpr (ends_imsCall (fun _ _ _ => steps_telephone h _) fun _ _ => h)

theorem steps_stopRtt : (stopRtt id).Within d (Steps rule d₀ n) :=
  within_bind.mpr (ends_imsCall (fun _ _ _ => steps_telephone h _) fun _ _ => h)

/-- Another mode of an IP call changes what it shows, once telephony has complied. -/
theorem steps_setImsMode (mode : ImsMode) :
    (setImsMode id mode).Within d (Steps rule d₀ n) := by
  refine within_bind.mpr (ends_imsCall (fun c hc hid => ?_) fun _ _ => h)
  subst hid
  have ht := h.step (.telephoned (.updateMode c mode))
  refine within_bind.mpr (ends_telephone (steps_videoChanged ht ?_ _) ht)
  rwa [registry_telephoned]

/-- A key sounds only after telephony was told of it. -/
theorem steps_startDtmf (hk : rule.allowed .key) (digit : Char) :
    (startDtmf id digit).Within d (Steps rule d₀ n) :=
  within_bind.mpr (ends_callIn (fun _ _ _ _ => (steps_telephone h _).bind fun _ _ h =>
    within_modify (h.step (.keyed hk digit))) fun _ _ => h)

theorem steps_stopDtmf : (stopDtmf id).Within d (Steps rule d₀ n) :=
  within_bind.mpr (ends_callIn (fun _ _ _ _ => (steps_telephone h _).bind fun _ _ h =>
    within_modify (h.step .released)) fun _ _ => h)

/-! ## Reports of the radio -/

/-- A report that goes ahead makes a call active where it says so; the rule is up to the radio. -/
theorem steps_reportState (hr : rule.allowed .release) (hv : rule.allowed .revive)
    (state : CallState) (ended : Option EndReason) :
    (reportState id state ended).Ends d
      (fun _ d' => (rule.orderly → state = .active → d.Lone id) → Steps rule d₀ n d')
      fun _ => Steps rule d₀ n := by
  have go {d₁ : Desk} (h₁ : Steps rule d₀ n d₁) (hl : d.Lone id → d₁.Lone id) :
      (if state = .disconnected ∨ state = .idle then do
        setState id .disconnected
        unregister id
      else setState id state).Ends d₁
        (fun _ d' => (rule.orderly → state = .active → d.Lone id) → Steps rule d₀ n d')
        fun _ => Steps rule d₀ n := by
    split
    · exact (steps_part h₁ id).mono (fun _ _ h _ => h) fun _ _ h => h
    · rename_i hn
      refine ends_setState (fun c hc hid hs => ?_) fun _ => h₁
      exact h₁.step (.moved hc state (fun hd => hn (.inl hd))
        (fun hstrict ha => hid ▸ hl (hs hstrict ha)) (fun _ => .inr hr) fun _ => hv)
  unfold reportState
  rw [ends_bind, ends_discard]
  refine ends_call (fun c hc _ => ?_) fun _ => h
  cases ended with
  | none => exact go h fun hl => hl
  | some reason =>
    dsimp only
    rw [ends_bind, ends_discard]
    refine ends_amend (fun _ _ _ => ?_) fun _ => h
    exact go (h.step (.amended id (.ended reason) (by simp))) fun hl => hl.amended (.ended reason)

/-- A report of the bearer that a call has already changes nothing but the record, to what it was.
-/
theorem steps_reportBearer (bearer : Bearer) :
    (reportBearer id bearer).Within d (Steps rule d₀ n) := by
  refine within_bind.mpr ?_
  rcases d.registry.exists_or_absent id with ⟨c, hc, rfl⟩ | ha
  · rw [ends_amend_of_mem hc]
    have hb : { c with bearer } ∈ (d.amended c.id ({ · with bearer })).registry.calls :=
      mem_amended hc
    split
    · exact (ends_bearerChanged hb).mpr (h.step (.rebeared hc bearer))
    · rename_i he
      have he : c.bearer = bearer := by simpa using he
      subst he
      exact h.step (.kept hc)
  · exact ends_amend (fun c hc hid => absurd hid (ha c hc)) fun _ => h

/-- A report of video is taken as it is. -/
theorem steps_reportVideo (media : VideoState) :
    (reportVideo id media).Within d (Steps rule d₀ n) :=
  within_bind.mpr (ends_call (fun _ hc hid => hid ▸ steps_videoChanged h hc _) fun _ => h)

/-! ## Answering -/

/-- A ringing call becomes active once telephony has complied. -/
theorem steps_pickUp {c : Call} (hc : c ∈ d.registry.calls)
    (hr : c.state.isRinging = true) (media : VideoState) {P : Prop}
    (hl : P → rule.orderly → d.Lone c.id)
    (hv : P → c.video = media ∨ rule.allowed (.redub c.id)) :
    (do
      telephone (.answer c media)
      let prior ← amend c.id ({ · with video := media, state := .active })
      modify (·.emit (.callStateChanged c.id prior.state .active))
      callAnswered c.id : DeskM Unit).Ends d (fun _ d' => P → Steps rule d₀ n d')
      fun _ => Steps rule d₀ n := by
  have ht := h.step (.telephoned (.answer c media))
  refine ends_pickUp hc (fun hp => ?_) ht
  refine ht.step (.answered (by simpa using hc) hr media (fun hstrict => ?_) (hv hp))
  simpa only [Lone, registry_telephoned] using hl hp hstrict

/-- An answer that goes ahead leaves no other call active, unless the call is one that admission has
no say over. The call takes the media that it is answered with. -/
theorem steps_answer (media : VideoState) :
    (answer id media).Ends d
      (fun _ d' =>
        (rule.orderly → ∀ c ∈ d.registry.calls, c.id = id → c.bearer = .voip → d.Lone id) ∧
          (∀ c ∈ d.registry.calls, c.id = id → c.video = media ∨ rule.allowed (.redub id)) →
        Steps rule d₀ n d')
      fun _ => Steps rule d₀ n := by
  unfold answer
  rw [ends_bind]
  refine ends_callIn (fun c hc hid hstate => ?_) fun _ _ => h
  subst hid
  have hring := isRinging_of_mem hstate
  rw [ends_ite]
  refine ⟨fun _ => ?_, fun hvoip => ?_⟩
  · rw [ends_bind, ends_evaluate, ends_ite]
    have he := h.step (.decided (some c.id)
      (d.policy.evaluate (.answer c media) d.registry.calls).decision)
    refine ⟨fun _ => he, fun hr => ?_⟩
    rw [ends_bind]
    have hlive : ∀ a ∈ (d.policy.evaluate (.answer c media) d.registry.calls).actions,
        d.Live a.target := fun _ => live_of_evaluate _ _
    refine ((steps_actAll he hlive).and (actAll_applies _ _)).mono (fun _ d₁ h₁ => ?_)
      fun _ _ h => h.1
    obtain ⟨h₁, hcalls, -⟩ := h₁
    -- Admission's actions spare the call that is answered and leave no other one active.
    have hc₁ : c ∈ d₁.registry.calls := by
      rw [hcalls]
      exact Admission.mem_applyAll_of_spared hc
        (Admission.Policy.evaluate_answer_spares _ _ c media)
    have hl : d₁.Lone c.id := by
      unfold Lone
      rw [hcalls]
      exact Admission.Policy.evaluate_answer_lone _ (by simpa using hr)
    exact steps_pickUp h₁ hc₁ hring media (fun _ _ => hl) fun hp => hp.2 c hc rfl
  · exact steps_pickUp h hc hring media
      (fun hp hstrict => hp.1 hstrict c hc rfl (by simpa using hvoip)) fun hp => hp.2 c hc rfl

/-! ## The user's choices -/

/-- Whether the platform complies or not, muting the microphone is one step. -/
theorem steps_setMute (hm : rule.allowed .mute) (muted : Bool) :
    (setMute muted).Within d (Steps rule d₀ n) :=
  ends_setMute (h.step (.muted hm _)) fun _ => h.step (.muted hm _)

/-- The user's choice is only made where it does not fail. -/
theorem steps_setDevice (device : Device) :
    (setDevice device).Ends d (fun _ d' => rule.chosen device → Steps rule d₀ n d')
      fun _ => Steps rule d₀ n := by
  unfold setDevice
  rw [ends_bind, ends_get, ends_bind, ends_ofExcept]
  split
  · rename_i next hnext
    split
    · rename_i c _
      rw [ends_bind, ends_modify]
      exact fun hd => (h.step (.amended c.id (.speakerphone (device == .speaker)) (by simp))).step
        (.routed hd hnext)
    · exact fun hd => h.step (.routed hd hnext)
  · exact h

/-! ## New calls -/

/-- A call with the number that was last given out is registered. -/
theorem steps_register (hr : rule.allowed .register) {c : Call}
    (hid : c.id + 1 = d.registry.nextId) (ha : c.state ≠ .active) (hc : c.conference = none)
    (hu : c.canUnhold = true) : (register c).Within d (Steps rule d₀ n) :=
  ends_register (fun _ hinsert => h.step (.added hr hinsert hid ha hc hu)) fun _ => h

/-- Dialing gives out at most one number. -/
theorem steps_dialAdmitted (hr : rule.allowed .register) (request : DialRequest) :
    (dialAdmitted request).Within d fun d' => ∃ k ≤ 1, Steps rule d₀ (n + k) d' := by
  -- Up to `allocate` no number is given out, and after it exactly one, whichever way the request
  -- ends.
  have zero {d' : Desk} (h : Steps rule d₀ n d') : ∃ k ≤ 1, Steps rule d₀ (n + k) d' :=
    ⟨0, by decide, h⟩
  have one {d' : Desk} (h : Steps rule d₀ (n + 1) d') :
      ∃ k ≤ 1, Steps rule d₀ (n + k) d' := ⟨1, by decide, h⟩
  refine within_bind.mpr (ends_evaluate.mpr ?_)
  have he := h.step (.decided none (d.policy.evaluate
    (.dial request.slot request.bearer request.emergency) d.registry.calls).decision)
  split
  · exact within_throw_bind (zero he)
  refine within_bind.mpr ((steps_actAll he fun _ => live_of_evaluate _ _).mono
    (fun _ d₁ h₁ => ?_) fun _ _ h => zero h)
  refine within_bind.mpr (ends_allocate.mpr ?_)
  refine within_bind.mpr ((steps_register (c := request.toCall d₁.registry.nextId) h₁.issued hr
    rfl (by simp [DialRequest.toCall, Call.fresh]) rfl rfl).mono (fun _ d₂ h₂ => ?_)
    fun _ _ h => one h)
  have ht := h₂.step (.telephoned (.dial (request.toCall d₁.registry.nextId)))
  refine within_bind.mpr ((ends_tryCatch _).mpr (ends_telephone (one ht) ?_))
  exact within_bind.mpr ((steps_unregister ht _).mono (fun _ _ h => one h) fun _ _ h => one h)

/-- An arrival gives out one number. -/
theorem steps_arrive (hr : rule.allowed .register) (arrival : Arrival) :
    (arrive arrival).Within d (Steps rule d₀ (n + 1)) := by
  refine within_bind.mpr (ends_allocate.mpr ?_)
  refine within_bind.mpr (ends_evaluate.mpr ?_)
  have he := h.issued.step (.decided (some d.registry.nextId) (d.issued.policy.evaluate
    (.incoming arrival.slot arrival.bearer) d.registry.calls).decision)
  split
  · exact (steps_telephone he _).bind fun _ _ h => within_pure h
  refine within_bind.mpr ((ends_tryCatch _).mpr ?_)
  refine ((steps_actAll he fun _ => live_of_evaluate _ _).and (actAll_applies _ _)).mono
    (fun _ d₁ h₁ => ?_) fun e d₁ h₁ => ?_
  · obtain ⟨h₁, -, hn⟩ := h₁
    have hid : (arrival.toCall d.registry.nextId).id + 1 = d₁.registry.nextId := hn.symm
    refine Within.bind ?_ fun _ _ h => within_pure h
    split
    · exact steps_register (c := { arrival.toCall d.registry.nextId with state := .waiting }) h₁
        hr hid (by simp) rfl rfl
    · exact steps_register (c := arrival.toCall d.registry.nextId) h₁ hr hid
        (by simp [Arrival.toCall, Call.fresh]) rfl rfl
  · refine (ends_bind _).mpr ((ends_tryCatch _).mpr ?_)
    exact ends_telephone (h₁.1.step (.telephoned _)) (h₁.1.step (.telephoned _))

end

end Switchboard.Desk
