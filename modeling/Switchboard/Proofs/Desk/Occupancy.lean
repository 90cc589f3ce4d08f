import Switchboard.Proofs.Admission.Places
import Switchboard.Proofs.Desk.Execution
import Switchboard.Proofs.Desk.Sure

/-!
# How many calls there are at once

A call is live until it is on its way out. Few things bring a live call into being: a call is
dialed, one arrives, or the radio or a separation brings one back that was on its way out.

* `Desk.Dwindles`: every live call was live before. Everything else that happens at a desk does no
  more than that (`dwindles_after`).
* `Desk.Room k`: there is room for `k` live calls. A dialed call keeps to it, since admission looks
  at how many the configuration has room for, and an arriving one keeps to it among three
  (`Room.after`).
* `occupancy_bounded`: there are never more than three live calls, nor more than are configured as
  long as no call that arrives is let in without room (`Happening.Overfills`).
-/

namespace Switchboard

open Admission

namespace Desk

open DeskM

variable {rule : Rule} {revived : Prop} {d d' d'' : Desk} {n k : Nat}

/-! ## Live calls dwindle -/

/-- Every call was there before, and if it is live, it was live before or was revived. -/
def Dwindles (revived : Prop) (d d' : Desk) : Prop :=
  ∀ x ∈ d'.registry.calls, ∃ c ∈ d.registry.calls, c.id = x.id ∧
    (x.state.isTerminal = false → c.state.isTerminal = false ∨ revived)

theorem Dwindles.of_registry (h : d'.registry = d.registry) : Dwindles revived d d' := by
  intro x hx
  rw [h] at hx
  exact ⟨x, hx, rfl, .inl⟩

theorem Dwindles.trans (h : Dwindles revived d d') (h' : Dwindles revived d' d'') :
    Dwindles revived d d'' := by
  intro x hx
  obtain ⟨y, hy, hyx, hlive'⟩ := h' x hx
  obtain ⟨z, hz, hzy, hlive⟩ := h y hy
  exact ⟨z, hz, hzy.trans hyx, fun hx => (hlive' hx).elim hlive .inr⟩

theorem Dwindles.mono {revived' : Prop} (h : Dwindles revived d d') (hr : revived → revived') :
    Dwindles revived' d d' := by
  intro x hx
  obtain ⟨c, hc, hid, hlive⟩ := h x hx
  exact ⟨c, hc, hid, fun hx => (hlive hx).imp_right hr⟩

theorem Dwindles.liveCount_le (h : Dwindles False d d') :
    d'.registry.liveCount ≤ d.registry.liveCount := by
  refine liveAmong_le d'.nodup_ids fun x hx hlive => ?_
  obtain ⟨c, hc, hid, hclive⟩ := h x hx
  exact ⟨c, hc, hid, (hclive hlive).resolve_right id⟩

theorem Step.dwindles (h : Step rule d d') (hr : ¬rule.allowed .register) :
    Dwindles (rule.allowed .revive) d d' := by
  intro x hx
  rcases h.registry_eq with he | ⟨_, -, -, -, -, ha, -⟩ | ⟨id, he⟩ | ⟨id, f, he, -, -, -, hf⟩
  · exact Dwindles.of_registry he x hx
  · exact absurd ha hr
  · rw [he] at hx
    exact ⟨x, (Registry.mem_erase.mp hx).1, rfl, .inl⟩
  · rw [he] at hx
    rcases Registry.mem_adjust.mp hx with ⟨hx, -⟩ | ⟨c, hc, hid, rfl⟩
    · exact ⟨x, hx, rfl, .inl⟩
    · refine ⟨c, hc, rfl, fun hlive => ?_⟩
      rcases hf c hc hid with hs | hs
      · exact .inl (hs ▸ hlive)
      · exact hs

theorem Steps.dwindles (h : Steps rule d n d') (hr : ¬rule.allowed .register) :
    Dwindles (rule.allowed .revive) d d' := by
  induction h with
  | refl => exact .of_registry rfl
  | step _ h ih => exact ih.trans (h.dwindles hr)
  | issued _ ih => exact ih

theorem Transition.dwindles (h : Transition rule d n d') (hr : ¬rule.allowed .register) :
    Dwindles (rule.allowed .revive) d d' := by
  obtain ⟨d₁, d₂, hs, hr₁, -, hr₂, -⟩ := h.exists_steps
  have hd : Dwindles (rule.allowed .revive) d d₁ := .of_registry hr₁
  exact (hd.trans (hs.dwindles hr)).trans (.of_registry hr₂)

theorem Transitions.dwindles (h : Transitions rule d n d') (hr : ¬rule.allowed .register) :
    Dwindles (rule.allowed .revive) d d' := by
  induction h with
  | refl => exact .of_registry rfl
  | next _ h ih => exact ih.trans (h.dwindles hr)

/-- A happening that registers no call leaves no call live that was not live before, but for those
that it may revive. -/
theorem dwindles_after {h : Happening} (hm : h.ByManager) (hr : .register ∉ h.deeds) :
    Dwindles (.revive ∈ h.deeds) d (d.after h) := by
  by_cases hv : .revive ∈ h.deeds
  · have hh : h.Heeds (.without [.register]) d := h.heeds_without d (by simp [hr])
    have hp := (transitions_after hm hh False.elim).dwindles (by simp [Rule.without])
    exact hp.mono fun _ => hv
  · have hh : h.Heeds (.without [.register, .revive]) d := h.heeds_without d (by simp [hr, hv])
    have hp := (transitions_after hm hh False.elim).dwindles (by simp [Rule.without])
    exact hp.mono fun hn => absurd hn (by simp [Rule.without])

/-- A call that was on its way out is live again. -/
def Recovers (d d' : Desk) : Prop :=
  ∃ c ∈ d.registry.calls, c.state.isTerminal = true ∧
    ∃ x ∈ d'.registry.calls, x.id = c.id ∧ x.state.isTerminal = false

instance (d d' : Desk) : Decidable (Recovers d d') :=
  inferInstanceAs (Decidable (∃ c ∈ _, _ ∧ _))

/-- Where no call recovers, the live calls were live before. -/
theorem Dwindles.of_not_recovers (h : Dwindles revived d d') (hn : ¬Recovers d d') :
    Dwindles False d d' := by
  intro x hx
  obtain ⟨c, hc, hid, -⟩ := h x hx
  refine ⟨c, hc, hid, fun hlive => .inl ?_⟩
  exact eq_false_of_ne_true fun ht => hn ⟨c, hc, ht, x, hx, hid.symm, hlive⟩

end Desk

/-- A separation or a report of the radio brings a call back that was on its way out. -/
def Happening.Reclaims (d : Desk) : Happening → Prop
  | operation (.separate id) => d.Recovers (d.after (operation (.separate id)))
  | operation (.reportState id state ended) =>
    d.Recovers (d.after (operation (.reportState id state ended)))
  | _ => False

/-- A call that arrives is let in although the calls that are left take up all places. -/
def Happening.Overfills (d : Desk) : Happening → Prop
  | operation (.arrive arrival) =>
    d.started = true ∧ (d.arrivalOutcome arrival).isRejected = false ∧
      d.config.maxCalls.toNat ≤
        liveAmong (applyAll (d.arrivalOutcome arrival).actions d.registry.calls)
  | _ => False

namespace Desk

open DeskM

variable {d d' : Desk} {k : Nat}

/-- Only a separation and a report of the radio may bring a call back. -/
theorem dwindles_of_not_reclaims {h : Happening} (hm : h.ByManager) (hr : .register ∉ h.deeds)
    (hn : ¬h.Reclaims d) : Dwindles False d (d.after h) := by
  by_cases hv : .revive ∈ h.deeds
  · refine (dwindles_after hm hr).of_not_recovers fun hrecovers => hn ?_
    cases h with
    | operation o =>
      cases o with
      | separate | reportState => exact hrecovers
      | _ => simp [Happening.deeds, Operation.deeds] at hv
    | audio | circumstance | rest => simp [Happening.deeds] at hv
  · exact (dwindles_after hm hr).mono hv

/-! ## The configuration -/

theorem Steps.config_eq {rule : Rule} {n : Nat} (h : Steps rule d n d') :
    d'.config = d.config := by
  induction h with
  | refl => rfl
  | step _ h ih =>
    obtain ⟨_, _, hc⟩ := h.core_eq
    exact (congrArg Core.config hc :).trans ih
  | issued _ ih => exact ih

theorem Transitions.config_eq {rule : Rule} {n : Nat} (h : Transitions rule d n d') :
    d'.config = d.config := by
  induction h with
  | refl => rfl
  | next _ h ih =>
    obtain ⟨_, _, hs, -, hc₁, -, hc₂⟩ := h.exists_steps
    rw [hc₂, hs.config_eq, hc₁, ih]

/-- The configuration is never changed. -/
theorem config_after (d : Desk) (h : Happening) : (d.after h).config = d.config := by
  by_cases hm : h.ByManager
  · have hp : Transitions (.order False) d (d.given h) (d.after h) :=
      transitions_after hm (h.heeds_order False d) False.elim
    exact hp.config_eq
  · cases h with
    | audio o => exact (audio_alike o d).config
    | operation | circumstance | rest => exact absurd trivial hm

/-! ## Room for `k` calls -/

/-- There is room for `k` live calls, which is enough for all that are live and for those that are
dialed. -/
structure Room (k : Nat) (d : Desk) : Prop where
  live : d.registry.liveCount ≤ k
  first : 1 ≤ k
  second : min 2 d.config.maxCalls.toNat ≤ k

theorem Room.of_le (hd : d.Room k) (hl : d'.registry.liveCount ≤ k) (hc : d'.config = d.config) :
    d'.Room k := ⟨hl, hd.first, hc ▸ hd.second⟩

/-- What actions leave of the live calls has room, even if some were not carried out. -/
theorem Room.partly (hd : d.Room k) (request : Request)
    (h : Partly (d.policy.evaluate request d.registry.calls).actions d.registry.calls
      d'.registry.calls) : d'.registry.liveCount ≤ k := by
  obtain ⟨done, hdone, hcalls⟩ := h
  rw [Registry.liveCount_eq, hcalls]
  exact Nat.le_trans (d.policy.liveAmong_applyAll_le request d.nodup_ids hdone.subset) hd.live

/-- A call is dialed after all actions, or it is not there. -/
theorem dial_applies (request : DialRequest) (d : Desk) :
    (inService (dial request)).Ends d
      (fun id d' => (d.dialOutcome request).isRejected = false ∧
        d'.registry.calls = Registry.place (request.toCall id)
          (applyAll (d.dialOutcome request).actions d.registry.calls))
      (fun _ d' => Partly (d.dialOutcome request).actions d.registry.calls d'.registry.calls) := by
  cases hf : d.dialing with
  | false => exact (dial_executes hf request).mono (fun _ _ h => h.1.2) fun _ _ h => h.2.1
  | true =>
    refine ends_inService (fun _ => ?_) fun _ => .none _ _
    unfold dial
    rw [ends_bind, ends_get, hf, if_pos rfl, ends_bind, ends_throw]
    exact .none _ _

theorem Room.dial (hd : d.Room k) (request : DialRequest) :
    ((inService (dial request)).perform d).2.Room k := by
  have hl : (inService (Desk.dial request)).Within d fun d' => d'.registry.liveCount ≤ k := by
    refine (dial_applies request d).mono (fun id d' h => ?_) fun _ d' h => hd.partly _ h
    obtain ⟨hr, hcalls⟩ := h
    have hplace := liveAmong_place_le (request.toCall id)
      (applyAll (d.dialOutcome request).actions d.registry.calls)
    rw [← hcalls] at hplace
    refine Nat.le_trans hplace ?_
    rcases Policy.evaluate_dial_leaves rfl rfl d.nodup_ids hr with hzero | ⟨hone, htwo⟩
    · rw [dialOutcome, hzero]
      exact hd.first
    · rw [dialOutcome, hone]
      exact Nat.le_trans (Nat.le_min.mpr ⟨Nat.le_refl 2, htwo⟩) hd.second
  exact hd.of_le hl.perform (config_after d (.operation (.dial request)))

/-- Each request finds the room that the one before it has left. -/
theorem Room.dialTogether (hd : d.Room k) (requests : List DialRequest) :
    (dialTogether requests d).2.Room k := by
  induction requests generalizing d with
  | nil => exact hd
  | cons request rest ih =>
    unfold Desk.dialTogether
    dsimp only
    split
    · exact ih (hd.dial request)
    · exact hd.dial request

/-- A call that arrives has room among three, and where the configuration has room for it. -/
theorem Room.arrive (hd : d.Room k) (arrival : Arrival)
    (ho : 3 ≤ k ∨ d.config.maxCalls.toNat ≤ k ∧
      ¬(Happening.operation (.arrive arrival)).Overfills d) :
    ((inService (arrive arrival)).perform d).2.Room k := by
  have hl : (inService (Desk.arrive arrival)).Within d fun d' => d'.registry.liveCount ≤ k := by
    refine ends_inService (fun hs => ?_) fun _ => hd.live
    refine (arrive_executes arrival d).mono (fun r d' h => ?_) fun _ d' h => hd.partly _ h.2
    obtain ⟨-, hcalls⟩ := h
    cases hr : (d.arrivalOutcome arrival).isRejected with
    | true =>
      rw [hr, if_pos rfl] at hcalls
      rw [Registry.liveCount_eq, hcalls]
      exact hd.live
    | false =>
      rw [hr, if_neg (by simp)] at hcalls
      have hplace := liveAmong_place_le (arrived arrival r.1 r.2)
        (applyAll (d.arrivalOutcome arrival).actions d.registry.calls)
      rw [← hcalls] at hplace
      refine Nat.le_trans hplace ?_
      rcases ho with hthree | ⟨hmax, hfits⟩
      · have hleft := Policy.evaluate_incoming_leaves rfl rfl d.nodup_ids hr
        exact Nat.le_trans (Nat.succ_le_succ hleft) hthree
      · refine Nat.le_trans (Nat.succ_le_of_lt (Nat.lt_of_not_le fun hfull => ?_)) hmax
        exact hfits ⟨hs, hr, hfull⟩
  exact hd.of_le hl.perform (config_after d (.operation (.arrive arrival)))

/-- Whatever happens keeps the room, unless it brings a call back or overfills the desk. -/
theorem Room.after (hd : d.Room k) {h : Happening} (hn : ¬h.Reclaims d)
    (ho : 3 ≤ k ∨ d.config.maxCalls.toNat ≤ k ∧ ¬h.Overfills d) : (d.after h).Room k := by
  have other (hm : h.ByManager) (hr : .register ∉ h.deeds) : (d.after h).Room k :=
    hd.of_le (Nat.le_trans (dwindles_of_not_reclaims hm hr hn).liveCount_le hd.live)
      (config_after d h)
  cases h with
  | operation o =>
    cases o with
    | dial request => exact hd.dial request
    | dialTogether requests => exact hd.dialTogether requests
    | arrive arrival => exact hd.arrive arrival ho
    | _ => exact other trivial (by simp [Happening.deeds, Operation.deeds])
  | audio o =>
    have ha := audio_alike o d
    exact hd.of_le (Nat.le_trans (Nat.le_of_eq (liveAmong_of_states ha.states)) hd.live) ha.config
  | circumstance | rest => exact other trivial (by simp [Happening.deeds])

/-- The room is kept along a run. -/
theorem Room.afterAll (hd : d.Room k) {run : List Happening}
    (hn : Permits (fun d h => ¬h.Reclaims d) d run)
    (ho : 3 ≤ k ∨ d.config.maxCalls.toNat ≤ k ∧ Permits (fun d h => ¬h.Overfills d) d run) :
    (d.afterAll run).Room k := by
  induction run generalizing d with
  | nil => exact hd
  | cons h rest ih =>
    refine ih (hd.after hn.1 (ho.imp_right fun ho => ⟨ho.1, ho.2.1⟩)) hn.2 ?_
    rw [config_after]
    exact ho.imp_right fun ho => ⟨ho.1, ho.2.2⟩

/-! ## The run -/

/-- A configuration that a desk is assembled with has room for a call. -/
theorem one_le_maxCalls {config : Config} {missing : List Collaborator} {outside : Outside}
    (hd : assemble config missing outside = .ok d) : 1 ≤ config.maxCalls.toNat := by
  have hfault : config.fault? = none := by
    unfold assemble at hd
    split at hd
    · cases hd
    · assumption
  refine Nat.pos_of_ne_zero fun hzero => ?_
  have hmax : config.maxCalls = 0 := UInt64.toNat_inj.mp hzero
  simp [Config.fault?, hmax] at hfault

/-- **No more calls than there is room for.** Whatever happens, as long as neither the radio nor a
separation brings a call back that was on its way out: there are at most three live calls, and no
more than the configuration has room for if no call that arrives is let in without room. -/
theorem occupancy_bounded {config : Config} {missing : List Collaborator} {outside : Outside}
    (hd : assemble config missing outside = .ok d) {run : List Happening}
    (hn : Permits (fun d h => ¬h.Reclaims d) d run) :
    (d.afterAll run).registry.liveCount ≤ 3 ∧
      (Permits (fun d h => ¬h.Overfills d) d run →
        (d.afterAll run).registry.liveCount ≤ config.maxCalls.toNat) := by
  have hone := one_le_maxCalls hd
  obtain rfl := assemble_eq hd
  have hroom {k : Nat} (hk : 1 ≤ k) (hmin : min 2 config.maxCalls.toNat ≤ k) :
      (idle config outside).Room k := ⟨Nat.zero_le k, hk, hmin⟩
  refine ⟨?_, fun ho => ?_⟩
  · have hthree : (idle config outside).Room 3 :=
      hroom (by decide) (Nat.le_trans (Nat.min_le_left _ _) (by decide))
    exact (hthree.afterAll hn (.inl (Nat.le_refl 3))).live
  · have hmax : (idle config outside).Room config.maxCalls.toNat :=
      hroom hone (Nat.min_le_right _ _)
    exact (hmax.afterAll hn (.inr ⟨Nat.le_refl _, ho⟩)).live

/-- Of two places one is taken by a call that arrived and was answered. The next one that arrives
takes the other, so that no more can be dialed until the first call is on its way out. -/
theorem occupancy_bounded_two :
    let config := { Config.standard with maxCalls := 2 }
    let d := idle config (.willing 0)
    let run : List Happening :=
      [.operation .start, .operation (.arrive ⟨"1", 0, .cs, .voice⟩), .operation (.answer 1 .voice),
        .operation (.arrive ⟨"2", 0, .cs, .voice⟩), .operation (.answer 2 .voice),
        .operation (.dial ⟨"3", 0, .cs, .voice, false⟩),
        .operation (.reportState 1 .disconnecting none),
        .operation (.dial ⟨"4", 0, .cs, .voice, false⟩)]
    assemble config [] (.willing 0) = .ok d ∧ Permits (fun d h => ¬h.Reclaims d) d run ∧
      Permits (fun d h => ¬h.Overfills d) d run ∧
      (d.afterAll run).registry.calls.map (fun c => (c.id, c.state)) =
        [(1, .disconnecting), (2, .holding), (3, .dialing)] ∧
      (d.afterAll run).registry.liveCount ≤ config.maxCalls.toNat := by
  intro config d run
  have hd : assemble config [] (.willing 0) = .ok d := rfl
  have hreport : ¬(d.afterAll (run.take 6)).Recovers (d.afterAll (run.take 7)) := by
    decide +kernel
  have hn : Permits (fun d h => ¬h.Reclaims d) d run :=
    ⟨id, id, id, id, id, id, hreport, id, trivial⟩
  have ho : Permits (fun d h => ¬h.Overfills d) d run :=
    ⟨id, fun h => absurd h.2.2 (by decide +kernel), id, fun h => absurd h.2.2 (by decide +kernel),
      id, id, id, id, trivial⟩
  exact ⟨hd, hn, ho, by decide +kernel, (occupancy_bounded hd hn).2 ho⟩

/-- There is one place, and a call has taken it. Another one that arrives is let in all the same. -/
theorem occupancy_exceeded :
    let config := { Config.standard with maxCalls := 1 }
    let d := idle config (.willing 0)
    let run : List Happening :=
      [.operation .start, .operation (.dial ⟨"1", 0, .cs, .voice, false⟩),
        .operation (.reportState 1 .active none), .operation (.arrive ⟨"2", 0, .cs, .voice⟩)]
    assemble config [] (.willing 0) = .ok d ∧ Permits (fun d h => ¬h.Reclaims d) d run ∧
      config.maxCalls.toNat = 1 ∧ (d.afterAll run).registry.liveCount = 2 := by
  intro config d run
  have hreport : ¬(d.afterAll (run.take 2)).Recovers (d.afterAll (run.take 3)) := by
    decide +kernel
  exact ⟨rfl, ⟨id, id, hreport, id, trivial⟩, rfl, by decide +kernel⟩

end Desk

end Switchboard
