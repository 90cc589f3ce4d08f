import Switchboard.Desk.Operation
import Switchboard.Proofs.Desk.OperationSteps

/-!
# Histories of the desk

A desk is assembled, and then things happen at it in any order: operations, operations on the audio
side alone, changes around it, and rests, in which it does what goes on by itself.

* `Happening`, `Desk.after`: what may happen, and the desk after it.
* `Desk.Reach may n d`: `d` is reached from a new desk when only what `may` allows happens, and `n`
  call numbers were given out on the way.
* `Happening.Orderly`: the rule under which calls do not meet. No conference is formed, and neither
  a report nor the answer to a third-party voice call makes a call active while another one is.
* `transitions_after`: everything that happens but for the audio side alone is made of steps.
-/

namespace Switchboard

/-! ## Histories -/

/-- What may happen at a desk. -/
inductive Happening where
  | operation (o : Operation)
  | audio (o : AudioOperation)
  | circumstance (c : Circumstance)
  /-- What goes on by itself is done. -/
  | rest

/-- Not an operation on the audio side alone. -/
def Happening.ByManager : Happening → Prop
  | audio _ => False
  | _ => True

/-- The answer of an operation that has nothing else to say, and has succeeded. -/
def Reply.isSuccess : Reply → Bool
  | .result (.ok ()) => true
  | _ => false

theorem Reply.isSuccess_iff {reply : Reply} :
    reply.isSuccess = true ↔ reply = .result (.ok ()) := by
  unfold isSuccess
  split
  · exact iff_of_true rfl rfl
  · rename_i hn
    exact iff_of_false (by simp) hn

/-- The operation answers with success. -/
def Operation.Succeeds (o : Operation) (d : Desk) : Prop := (o.perform d).1 = .result (.ok ())

instance (o : Operation) (d : Desk) : Decidable (o.Succeeds d) :=
  decidable_of_iff ((o.perform d).1.isSuccess = true) Reply.isSuccess_iff

namespace Desk

/-- The desk after a happening. -/
def after (d : Desk) : Happening → Desk
  | .operation o => (o.perform d).2
  | .audio o => (o.perform d).2
  | .circumstance c => c.perform d
  | .rest => d.rest

/-- How many call numbers were given out between two desks, if it was at most one. -/
def fresh (d d' : Desk) : Nat := if d'.registry.nextId = d.registry.nextId then 0 else 1

/-- How many call numbers dial requests give out that are made at once. -/
def freshTogether : List DialRequest → Desk → Nat
  | [], _ => 0
  | request :: rest, d =>
    let after := ((inService (dial request)).perform d).2
    d.fresh after + if after.turns = d.turns then freshTogether rest after else 0

/-- How many call numbers a happening gives out. -/
def given (d : Desk) : Happening → Nat
  | .operation (.dialTogether requests) => freshTogether requests d
  | h => d.fresh (d.after h)

/-- The desks that are reached when only what `may` allows happens, and how many call numbers were
given out until then. Whether the outside is willing is settled at the beginning. -/
inductive Reach (may : Desk → Happening → Prop) : Nat → Desk → Prop
  | assembled {config : Config} {missing : List Collaborator} {outside : Outside} {d : Desk}
    (hd : assemble config missing outside = .ok d) (hl : outside.log = []) : Reach may 0 d
  | next {n : Nat} {d : Desk} {h : Happening} : Reach may n d → may d h →
    Reach may (n + d.given h) (d.after h)

/-- A desk that could be assembled is a new one. -/
theorem assemble_eq {config : Config} {missing : List Collaborator} {outside : Outside} {d : Desk}
    (hd : assemble config missing outside = .ok d) : d = idle config outside := by
  unfold assemble at hd
  split at hd
  · cases hd
  · split at hd
    · cases hd
    · cases hd
      rfl

/-- A desk with the settings that hold unless others are given, all of whose collaborators are
there and willing. -/
def standard : Desk := idle .standard (.willing 0)

theorem reach_standard (may : Desk → Happening → Prop) : Reach may 0 standard :=
  @Reach.assembled may .standard [] (.willing 0) _ rfl rfl

/-- The desk after happenings, one after the other. -/
def afterAll : Desk → List Happening → Desk
  | d, [] => d
  | d, h :: rest => (d.after h).afterAll rest

/-- How many call numbers happenings give out, one after the other. -/
def givenAll : Desk → List Happening → Nat
  | _, [] => 0
  | d, h :: rest => d.given h + (d.after h).givenAll rest

/-- Each of some happenings is allowed when its turn comes. -/
def Permits (may : Desk → Happening → Prop) : Desk → List Happening → Prop
  | _, [] => True
  | d, h :: rest => may d h ∧ Permits may (d.after h) rest

/-- A run is prolonged by happenings that are allowed. -/
theorem Reach.all {may : Desk → Happening → Prop} {n : Nat} {d : Desk} (hd : Reach may n d)
    {hs : List Happening} (hp : Permits may d hs) :
    Reach may (n + d.givenAll hs) (d.afterAll hs) := by
  induction hs generalizing n d with
  | nil => exact hd
  | cons h rest ih =>
    have := ih (hd.next hp.1) hp.2
    rwa [Nat.add_assoc] at this

end Desk

/-- No conference is formed, a third-party voice call is only answered while no other call is
active, and so is the report that a call is. -/
def Happening.Orderly (d : Desk) : Happening → Prop
  | audio _ => False
  | operation (.combine id) => ¬(Operation.combine id).Succeeds d
  | operation (.answer id media) => (Operation.answer id media).Succeeds d →
    ∀ c ∈ d.registry.calls, c.id = id → c.bearer = .voip → d.Lone id
  | operation (.reportState id .active ended) =>
    (Operation.reportState id .active ended).Succeeds d → d.Lone id
  | _ => True

/-- A device that it chooses, an accessory that it reports and what it does besides are such as a
rule has them. -/
def Happening.Heeds (rule : Rule) (d : Desk) : Happening → Prop
  | operation (.setDevice device) => (Operation.setDevice device).Succeeds d → rule.chosen device
  | operation (.answer id media) => (Operation.answer id media).Succeeds d →
    ∀ c ∈ d.registry.calls, c.id = id → c.video = media ∨ rule.allowed (.redub id)
  | operation (.reportHeadset connected) =>
    rule.reported (if connected then .headsetConnected else .headsetDisconnected)
  | operation (.reportBluetooth connected) =>
    rule.reported (if connected then .bluetoothConnected else .bluetoothDisconnected)
  | operation (.dial _) | operation (.dialTogether _) | operation (.arrive _) =>
    rule.allowed .register
  | operation (.setMute _) => rule.allowed .mute
  | operation (.startDtmf ..) => rule.allowed .key
  | operation (.combine _) => rule.allowed .join ∧ rule.allowed .release
  | operation (.switch _) => rule.allowed .release
  | operation (.separate _) | operation (.reportState ..) =>
    rule.allowed .release ∧ rule.allowed .revive
  | operation (.reject _) => rule.allowed .holdBack
  | operation (.setRingerMode _) => rule.allowed .ringer
  | operation .shutdown => rule.allowed .close
  | audio _ => rule.allowed .play
  | circumstance _ => rule.allowed .befall
  | _ => True

/-- A rule on calls alone leaves devices and accessories free. -/
theorem Happening.heeds_order (orderly : Prop) (d : Desk) (h : Happening) :
    h.Heeds (.order orderly) d := by
  unfold Heeds
  split
  · exact fun _ => trivial
  · exact fun _ _ _ _ => .inr trivial
  all_goals trivial

/-- What an operation may do that a rule may forbid. That calls go into other states is left to all
of them. -/
def Operation.deeds : Operation → List Deed
  | .dial _ | .dialTogether _ | .arrive _ => [.register]
  | .setMute _ => [.mute]
  | .startDtmf .. => [.key]
  | .combine _ => [.join, .release]
  | .switch _ => [.release]
  | .separate _ | .reportState .. => [.release, .revive]
  | .reject _ => [.holdBack]
  | .answer id _ => [.redub id]
  | .setRingerMode _ => [.ringer]
  | .shutdown => [.close]
  | .start | .hangUp _ | .hold _ | .unhold _ | .kickOut _ | .join .. | .setImsMode ..
  | .startRtt .. | .stopRtt _ | .stopDtmf _ | .setDevice _ | .reportBearer ..
  | .reportVideo .. | .reportHeadset _ | .reportBluetooth _ => []

/-- What a happening may do that a rule may forbid. -/
def Happening.deeds : Happening → List Deed
  | operation o => o.deeds
  | audio _ => [.play]
  | circumstance _ => [.befall]
  | rest => []

/-- What does none of some deeds heeds the rule without them. -/
theorem Happening.heeds_without {deeds : List Deed} (d : Desk) {h : Happening}
    (hd : ∀ deed ∈ deeds, deed ∉ h.deeds) : h.Heeds (.without deeds) d := by
  have hn {deed : Deed} (he : deed ∈ h.deeds) : (Rule.without deeds).allowed deed :=
    fun hm => hd deed hm he
  unfold Heeds
  split
  · exact fun _ => trivial
  · exact fun _ _ _ _ => .inr (hn (.head _))
  any_goals exact hn (.head _)
  all_goals first | trivial | exact ⟨hn (.head _), hn (.tail _ (.head _))⟩

namespace Desk

open DeskM

variable {rule : Rule} {d : Desk} {n : Nat}

/-! ## Transitions -/

/-- The desk after its queue was closed. -/
def closed (d : Desk) : Desk :=
  { ({ d with started := false } : Desk).drain with queue := none }.silenceTone.2.onSound
    (·.stopRing.2)

/-- What happens at a desk is made of: steps, a dial request with its flag, and what concerns no
call. -/
inductive Transition (rule : Rule) (d : Desk) : Nat → Desk → Prop
  | steps {n : Nat} {d' : Desk} (h : Steps rule d n d') : Transition rule d n d'
  | dialed {n : Nat} {d' : Desk} (hd : d.dialing = false)
    (h : Steps rule { d with dialing := true } n d') :
    Transition rule d n { d' with dialing := false }
  | opened : Transition rule d 0 { d with started := true, queue := some [] }
  | stopped : Transition rule d 0 { d with started := false }
  | closed (hc : rule.allowed .close) : Transition rule d 0 d.closed
  | rested : Transition rule d 0 d.rest
  | befallen (hb : rule.allowed .befall) (c : Circumstance) : Transition rule d 0 (c.perform d)

/-- Transitions one after the other. -/
inductive Transitions (rule : Rule) (d : Desk) : Nat → Desk → Prop
  | refl : Transitions rule d 0 d
  | next {n k : Nat} {d₁ d₂ : Desk} :
    Transitions rule d n d₁ → Transition rule d₁ k d₂ → Transitions rule d (n + k) d₂

theorem Transition.transitions {d' : Desk} (h : Transition rule d n d') :
    Transitions rule d n d' := by
  have := Transitions.refl.next h
  rwa [Nat.zero_add] at this

theorem Transitions.trans {m : Nat} {d₁ d₂ : Desk} (h₁ : Transitions rule d n d₁)
    (h₂ : Transitions rule d₁ m d₂) : Transitions rule d (n + m) d₂ := by
  induction h₂ with
  | refl => exact h₁
  | next _ h ih =>
    rw [← Nat.add_assoc]
    exact ih.next h

/-! ## The counter -/

theorem Step.nextId_eq {d' : Desk} (h : Step rule d d') :
    d'.registry.nextId = d.registry.nextId := by
  rcases h.registry_eq with he | ⟨c, hc, -⟩ | ⟨id, he⟩ | ⟨id, f, he, -⟩
  · rw [he]
  · exact (Registry.insert_eq_ok hc).2.1
  · rw [he, Registry.erase_nextId]
  · rw [he, Registry.modify_nextId]

/-- The counter shows how many numbers were given out, as far as it has not wrapped. -/
theorem Steps.nextId_eq {d' : Desk} (h : Steps rule d n d') :
    d'.registry.nextId = d.registry.nextId + UInt32.ofNat n := by
  induction h with
  | refl => simp
  | step _ h ih => rw [h.nextId_eq, ih]
  | @issued n d₁ _ ih =>
    show d₁.registry.nextId + 1 = _
    rw [ih, UInt32.add_assoc, UInt32.ofNat_add]
    rfl

/-- What a transition does to the registry and to the settings, steps do. -/
theorem Transition.exists_steps {d' : Desk} (h : Transition rule d n d') :
    ∃ d₁ d₂, Steps rule d₁ n d₂ ∧ d₁.registry = d.registry ∧ d₁.config = d.config ∧
      d'.registry = d₂.registry ∧ d'.config = d₂.config := by
  cases h with
  | @steps _ d' h => exact ⟨d, d', h, rfl, rfl, rfl, rfl⟩
  | @dialed _ d' _ h => exact ⟨_, d', h, rfl, rfl, rfl, rfl⟩
  | opened | stopped => exact ⟨d, d, .refl, rfl, rfl, rfl, rfl⟩
  | closed =>
    exact ⟨d, d, .refl, rfl, rfl, registry_drain { d with started := false },
      config_drain { d with started := false }⟩
  | rested => exact ⟨d, d, .refl, rfl, rfl, registry_drain d, config_drain d⟩
  | befallen _ c => cases c <;> exact ⟨d, d, .refl, rfl, rfl, rfl, rfl⟩

theorem Transition.nextId_eq {d' : Desk} (h : Transition rule d n d') :
    d'.registry.nextId = d.registry.nextId + UInt32.ofNat n := by
  obtain ⟨d₁, d₂, hs, hr, -, hr', -⟩ := h.exists_steps
  rw [hr', ← hr]
  exact hs.nextId_eq

/-- Of at most one number, the counter tells whether it was given out. -/
theorem fresh_eq {d' : Desk} {k : Nat} (hk : k ≤ 1)
    (h : d'.registry.nextId = d.registry.nextId + UInt32.ofNat k) : d.fresh d' = k := by
  unfold fresh
  match k, hk with
  | 0, _ => rw [if_pos (by simpa using h)]
  | 1, _ => rw [if_neg (by simp [h])]

theorem Transitions.nextId_eq {d' : Desk} (h : Transitions rule d n d') :
    d'.registry.nextId = d.registry.nextId + UInt32.ofNat n := by
  induction h with
  | refl => simp
  | next _ h ih => rw [h.nextId_eq, ih, UInt32.add_assoc, UInt32.ofNat_add]

/-- A transition that gives out at most one number gives out as many as the counter shows. -/
theorem Transition.transitions_fresh {d' : Desk} {k : Nat} (hk : k ≤ 1)
    (h : Transition rule d k d') : Transitions rule d (d.fresh d') d' := by
  rw [fresh_eq hk h.nextId_eq]
  exact h.transitions

/-! ## What happens is made of transitions -/

/-- In service an operation is carried out, and out of service it is refused. -/
theorem ends_inService {α : Type} {x : DeskM α} {Q : α → Desk → Prop}
    {E : CallError → Desk → Prop} (hx : d.started = true → x.Ends d Q E)
    (hE : d.started = false → E .notInitialized d) : (inService x).Ends d Q E := by
  unfold inService ensureStarted
  simp only [ends_bind, ends_get]
  cases hs : d.started with
  | true => exact hx hs
  | false => exact hE hs

/-- Whatever comes of the request, the dial flag is clear after it. -/
theorem ends_whileDialing {α : Type} {x : DeskM α} {Q : α → Desk → Prop}
    {E : CallError → Desk → Prop} :
    (whileDialing x).Ends d Q E ↔ x.Ends { d with dialing := true }
      (fun a d' => Q a { d' with dialing := false })
      (fun e d' => E e { d' with dialing := false }) := by
  unfold Ends
  cases hx : x { d with dialing := true } <;> simp only [whileDialing, hx]

/-- An operation that gives out at most one number. -/
theorem transitions_of_within {α : Type} {x : DeskM α}
    (hx : x.Within d fun d' => ∃ k ≤ 1, Transition rule d k d') :
    Transitions rule d (d.fresh (x.perform d).2) (x.perform d).2 := by
  obtain ⟨k, hk, h⟩ := hx.perform
  exact h.transitions_fresh hk

/-- An operation of steps alone. -/
theorem transitions_of_steps {α : Type} {x : DeskM α} (hx : x.Within d (Steps rule d 0)) :
    Transitions rule d 0 (x.perform d).2 := (Transition.steps hx.perform).transitions

theorem transitions_inService {α : Type} {x : DeskM α} (hx : x.Within d (Steps rule d 0)) :
    Transitions rule d 0 ((inService x).perform d).2 :=
  transitions_of_steps (ends_inService (fun _ => hx) fun _ => .refl)

/-- A dial request gives out one number or none. -/
theorem transitions_dial (hr : rule.allowed .register) (request : DialRequest) (d : Desk) :
    Transitions rule d (d.fresh ((inService (dial request)).perform d).2)
      ((inService (dial request)).perform d).2 := by
  have hrefl : ∃ k ≤ 1, Transition rule d k d := ⟨0, by decide, .steps .refl⟩
  refine transitions_of_within (ends_inService (fun _ => within_bind.mpr ?_) fun _ => hrefl)
  rw [ends_get]
  split
  · exact within_throw_bind hrefl
  · rename_i hd
    have hd : d.dialing = false := by simpa using hd
    have hs : Steps rule { d with dialing := true } 0 { d with dialing := true } := .refl
    refine ends_whileDialing.mpr ((steps_dialAdmitted hs hr request).mono ?_ ?_)
    · rintro _ d' ⟨k, hk, h⟩
      exact ⟨k, hk, .dialed hd (by simpa using h)⟩
    · rintro _ d' ⟨k, hk, h⟩
      exact ⟨k, hk, .dialed hd (by simpa using h)⟩

/-- An arrival is a transition or none, and counts the number that it gives out. -/
theorem transitions_arrive (hr : rule.allowed .register) (arrival : Arrival) (d : Desk) :
    Transitions rule d (d.fresh ((inService (arrive arrival)).perform d).2)
      ((inService (arrive arrival)).perform d).2 := by
  refine transitions_of_within (ends_inService (fun _ => ?_) fun _ => ⟨0, by decide, .steps .refl⟩)
  exact (steps_arrive .refl hr arrival).mono (fun _ _ h => ⟨1, by decide, .steps h⟩)
    fun _ _ h => ⟨1, by decide, .steps h⟩

/-- Requests that are put at once are handled one after the other. -/
theorem transitions_dialTogether (hr : rule.allowed .register) (requests : List DialRequest)
    (d : Desk) :
    Transitions rule d (freshTogether requests d) (dialTogether requests d).2 := by
  induction requests generalizing d with
  | nil => exact .refl
  | cons request rest ih =>
    have h : Transitions rule d _ _ := transitions_dial hr request d
    unfold freshTogether dialTogether
    dsimp only
    split
    · exact h.trans (ih _)
    · exact h

/-- What is said of the ends of an operation, by its reply. -/
theorem ends_conclude {x : DeskM Unit} {Q : Unit → Desk → Prop} {E : CallError → Desk → Prop}
    (h : x.Ends d Q E) :
    ((Operation.conclude x d).1 = .result (.ok ()) → Q () (Operation.conclude x d).2) ∧
      ((Operation.conclude x d).1 ≠ .result (.ok ()) → ∃ e, E e (Operation.conclude x d).2) := by
  unfold Ends at h
  unfold Operation.conclude DeskM.perform
  cases hx : x d with
  | ok a d' =>
    rw [hx] at h
    exact ⟨fun _ => h, fun hn => absurd rfl hn⟩
  | error e d' =>
    rw [hx] at h
    exact ⟨fun hn => by simp at hn, fun _ => ⟨e, h⟩⟩

/-- An operation that keeps to the rule if it fails, and under a condition if it succeeds. -/
theorem transitions_unless {x : DeskM Unit} {P : Prop}
    (hx : x.Ends d (fun _ d' => P → Steps rule d 0 d') fun _ => Steps rule d 0)
    (hp : (Operation.conclude x d).1 = .result (.ok ()) → P) :
    Transitions rule d 0 (x.perform d).2 := by
  have h := ends_conclude hx
  refine Transition.transitions (.steps ?_)
  by_cases hr : (Operation.conclude x d).1 = .result (.ok ())
  · exact h.1 hr (hp hr)
  · obtain ⟨_, he⟩ := h.2 hr
    exact he

theorem transitions_inService_unless {x : DeskM Unit} {P : Prop}
    (hx : x.Ends d (fun _ d' => P → Steps rule d 0 d') fun _ => Steps rule d 0)
    (hp : (Operation.conclude (inService x) d).1 = .result (.ok ()) → P) :
    Transitions rule d 0 ((inService x).perform d).2 :=
  transitions_unless (ends_inService (fun _ => hx) fun _ => .refl) hp

/-- A combination keeps to the rule if there is none, or if it fails. -/
theorem steps_combine_unless (hj : rule.allowed .join) (hr : rule.allowed .release)
    (id : CallId) :
    (combine id).Ends d (fun _ d' => ¬rule.orderly → Steps rule d 0 d')
      fun _ => Steps rule d 0 := by
  refine (steps_combine .refl id hj hr).mono (fun _ d' h hn => ?_) fun _ _ h => h
  rwa [Rule.lax_eq hn] at h

theorem transitions_start (d : Desk) : Transitions rule d 0 (start.perform d).2 := by
  have h : start.Within d (Transition rule d 0) := by
    refine within_bind.mpr ?_
    rw [ends_get]
    split
    · exact within_throw_bind (.steps .refl)
    · refine within_bind.mpr ((ends_modify _).mpr ?_)
      refine (ends_tryCatch _).mpr ((ends_bind _).mpr ?_)
      rw [ends_get]
      split
      · exact Transition.stopped
      · exact Transition.opened
  exact h.perform.transitions

theorem transitions_shutdown (hc : rule.allowed .close) (d : Desk) :
    Transitions rule d 0 (shutdown.perform d).2 := by
  have h : shutdown.Within d (Transition rule d 0) := by
    refine within_bind.mpr ?_
    rw [ends_get]
    split
    · refine within_bind.mpr ((ends_modify _).mpr ?_)
      refine within_bind.mpr ?_
      rw [ends_get]
      split
      · exact Transition.stopped
      · exact Transition.closed hc
    · exact within_throw_bind (.steps .refl)
  exact h.perform.transitions

/-- No registered call belongs to a conference. -/
def Separate (d : Desk) : Prop := ∀ c ∈ d.registry.calls, c.conference = none

/-- An operation that registers no call gives out no numbers. -/
theorem transitions_of_not_register {o : Operation} (ho : .register ∉ o.deeds)
    (hh : (Happening.operation o).Heeds rule d)
    (hs : rule.orderly → (Happening.operation o).Orderly d ∧ d.Single ∧ d.Separate) :
    Transitions rule d 0 (o.perform d).2 := by
  cases o with
  | start => exact transitions_start d
  | shutdown => exact transitions_shutdown hh d
  | dial | dialTogether | arrive => simp [Operation.deeds] at ho
  | answer id media =>
    exact transitions_inService_unless (steps_answer .refl id media)
      fun hr => ⟨fun h => (hs h).1 hr, hh hr⟩
  | reject id => exact transitions_inService (steps_reject .refl id hh)
  | hangUp id => exact transitions_inService (steps_hangUp .refl id)
  | hold id => exact transitions_inService (steps_hold .refl id)
  | unhold id => exact transitions_inService (steps_unhold .refl id)
  | switch id => exact transitions_inService (steps_switch .refl id hh fun h => (hs h).2.1)
  | combine id =>
    exact transitions_inService_unless (steps_combine_unless hh.1 hh.2 id) fun hr h => (hs h).1 hr
  | separate id =>
    exact transitions_inService (steps_separate .refl id hh.1 hh.2 fun h => (hs h).2.2)
  | kickOut id => exact transitions_inService (steps_kickOut .refl id)
  | join id numbers => exact transitions_inService (steps_join .refl id numbers)
  | setImsMode id mode => exact transitions_inService (steps_setImsMode .refl id mode)
  | startRtt id text => exact transitions_inService (steps_startRtt .refl id text)
  | stopRtt id => exact transitions_inService (steps_stopRtt .refl id)
  | startDtmf id digit => exact transitions_inService (steps_startDtmf .refl id hh digit)
  | stopDtmf id => exact transitions_inService (steps_stopDtmf .refl id)
  | setMute muted => exact transitions_of_steps (steps_setMute .refl hh muted)
  | setDevice device => exact transitions_unless (steps_setDevice .refl device) hh
  | setRingerMode mode =>
    exact (Transition.steps (Steps.refl.step (.ringer hh mode))).transitions
  | reportState id state ended =>
    refine transitions_inService_unless (steps_reportState .refl id hh.1 hh.2 state ended)
      fun hr h ha => ?_
    subst ha
    exact (hs h).1 hr
  | reportBearer id bearer => exact transitions_inService (steps_reportBearer .refl id bearer)
  | reportVideo id media => exact transitions_inService (steps_reportVideo .refl id media)
  | reportHeadset connected =>
    refine transitions_inService (within_modify (Steps.refl.step (.accessory hh ?_)))
    cases connected <;> rfl
  | reportBluetooth connected =>
    refine transitions_inService (within_modify (Steps.refl.step (.accessory hh ?_)))
    cases connected <;> rfl

theorem transitions_operation {o : Operation}
    (hh : (Happening.operation o).Heeds rule d)
    (hs : rule.orderly → (Happening.operation o).Orderly d ∧ d.Single ∧ d.Separate) :
    Transitions rule d (d.given (.operation o)) (o.perform d).2 := by
  -- What registers no call counts no number.
  have other (ho : .register ∉ o.deeds) :
      Transitions rule d (d.fresh (o.perform d).2) (o.perform d).2 := by
    have h := transitions_of_not_register ho hh hs
    rwa [fresh_eq (Nat.zero_le 1) h.nextId_eq]
  cases o with
  | dial request => exact transitions_dial hh request d
  | dialTogether requests => exact transitions_dialTogether hh requests d
  | arrive arrival => exact transitions_arrive hh arrival d
  | _ => exact other (by simp [Operation.deeds])

/-- Everything that happens but for the audio side alone is made of transitions. -/
theorem transitions_after {h : Happening} (hm : h.ByManager) (hh : h.Heeds rule d)
    (hs : rule.orderly → h.Orderly d ∧ d.Single ∧ d.Separate) :
    Transitions rule d (d.given h) (d.after h) := by
  cases h with
  | operation o => exact transitions_operation hh hs
  | audio => exact hm.elim
  | circumstance c => exact Transition.transitions_fresh (Nat.zero_le 1) (.befallen hh c)
  | rest => exact Transition.transitions_fresh (Nat.zero_le 1) .rested

/-! ## Invariants -/

/-- No signals wait. Only the audio side alone queues signals. -/
def Quiet (d : Desk) : Prop := d.queue = none ∨ d.queue = some []

theorem Quiet.core_drain (hq : d.Quiet) : d.drain.core = d.core := by
  unfold drain
  rcases hq with hq | hq
  · rw [hq]
  · rw [hq]
    show { d.core with queue := some [] } = d.core
    rw [← hq]
    rfl

/-- Steps touch neither the queue nor the dial flag. -/
theorem Steps.flags_eq {d' : Desk} (h : Steps rule d n d') :
    d'.queue = d.queue ∧ d'.dialing = d.dialing := by
  induction h with
  | refl => exact ⟨rfl, rfl⟩
  | @step _ d₁ d₂ _ h ih =>
    obtain ⟨_, _, hc⟩ := h.core_eq
    have hqueue : d₂.queue = d₁.queue := congrArg Core.queue hc
    have hdialing : d₂.dialing = d₁.dialing := congrArg Core.dialing hc
    rw [hqueue, hdialing]
    exact ih
  | issued _ ih => exact ih

theorem Transition.quiet {d' : Desk} (h : Transition rule d n d') (hq : d.Quiet) : d'.Quiet := by
  cases h with
  | steps h | dialed _ h =>
    unfold Quiet
    rw [h.flags_eq.1]
    exact hq
  | opened => exact .inr rfl
  | stopped => exact hq
  | closed => exact .inl rfl
  | rested =>
    have hqueue : d.rest.queue = d.queue := congrArg Core.queue hq.core_drain
    unfold Quiet
    rw [hqueue]
    exact hq
  | befallen _ c => cases c <;> exact hq

theorem Transitions.quiet {d' : Desk} (h : Transitions rule d n d') (hq : d.Quiet) : d'.Quiet := by
  induction h with
  | refl => exact hq
  | next _ h ih => exact h.quiet ih

/-- No signals wait at a desk whose audio side is left alone. -/
theorem Reach.quiet {may : Desk → Happening → Prop} (hmay : ∀ d h, may d h → h.ByManager)
    (h : Reach may n d) : d.Quiet := by
  induction h with
  | assembled hd _ =>
    rw [assemble_eq hd]
    exact .inl rfl
  | @next n d h _ hm ih =>
    have hp : Transitions (.order False) d (d.given h) (d.after h) :=
      transitions_after (hmay d h hm) (h.heeds_order False d) False.elim
    exact hp.quiet ih

/-- A property of the calls, the posture and how many numbers were given out that holds of a new
desk and is kept by every step. -/
structure Invariant (rule : Rule) (I : Nat → Desk → Prop) : Prop where
  idle (config : Config) (outside : Outside) : I 0 (idle config outside)
  step {n : Nat} {d d' : Desk} : I n d → Step rule d d' → I n d'
  issued {n : Nat} {d : Desk} : I n d → I (n + 1) d.issued
  /-- Nothing but the calls and the posture matters. -/
  congr {n : Nat} {d d' : Desk} : I n d → d'.registry = d.registry →
    d'.posture.current = d.posture.current → I n d'

variable {I : Nat → Desk → Prop} {m : Nat}

/-- An invariant is carried along steps, with the count of numbers. -/
theorem Invariant.steps {d' : Desk} (hI : Invariant rule I) (h : Steps rule d n d')
    (hd : I m d) : I (m + n) d' := by
  induction h with
  | refl => exact hd
  | step _ h ih => exact hI.step ih h
  | issued _ ih => exact hI.issued ih

/-- An invariant is carried over a transition, before which no signals may be waiting. -/
theorem Invariant.transition {d' : Desk} (hI : Invariant rule I) (h : Transition rule d n d')
    (hq : d.Quiet) (hd : I m d) : I (m + n) d' := by
  cases h with
  | steps h => exact hI.steps h hd
  | dialed _ h => exact hI.congr (hI.steps h (hI.congr hd rfl rfl)) rfl rfl
  | opened | stopped => exact hI.congr hd rfl rfl
  -- With nothing in the queue, closing it dispatches nothing.
  | closed =>
    have hc : ({ d with started := false } : Desk).drain.core = { d.core with started := false } :=
      Quiet.core_drain hq
    exact hI.congr hd (congrArg Core.registry hc :) (congrArg Core.posture hc :)
  | rested =>
    have hc : d.drain.core = d.core := hq.core_drain
    exact hI.congr hd (congrArg Core.registry hc :) (congrArg Core.posture hc :)
  | befallen _ c => cases c <;> exact hI.congr hd rfl rfl

theorem Invariant.transitions {d' : Desk} (hI : Invariant rule I) (h : Transitions rule d n d')
    (hq : d.Quiet) (hd : I m d) : I (m + n) d' := by
  induction h with
  | refl => exact hd
  | next hs h ih =>
    rw [← Nat.add_assoc]
    exact hI.transition h (hs.quiet hq) ih

/-- An invariant holds of every desk that is reached, if what may happen keeps to the rule. -/
theorem Invariant.reach {may : Desk → Happening → Prop} {orderly : Prop}
    (hI : Invariant (.order orderly) I) (hmay : ∀ d h, may d h → h.ByManager)
    (hrule : ∀ n d h, I n d → may d h → orderly → h.Orderly d ∧ d.Single ∧ d.Separate)
    (h : Reach may n d) : I n d := by
  induction h with
  | @assembled config missing outside d hd hl =>
    rw [assemble_eq hd]
    exact hI.idle config outside
  | @next n d h hr hm ih =>
    have hp : Transitions (.order orderly) d (d.given h) (d.after h) :=
      transitions_after (hmay d h hm) (h.heeds_order orderly d) (hrule n d h ih hm)
    exact hI.transitions hp (hr.quiet hmay) ih

end Desk
end Switchboard
