import Switchboard.Proofs.Desk.History
import Switchboard.Proofs.Desk.AudioMutations
import Switchboard.Proofs.Desk.Sure

/-!
# Hanging up and what is resumed

Hanging up the active call leaves the user with the held calls. If no other call is active, one of
them is resumed: of those that may be, the one with the lowest number (`Desk.Heir`). Telephony may
refuse to resume it; then it stays on hold, and the call is hung up all the same (`hangUp_resumes`).

* `Desk.orders`: what was asked of telephony. The audio side asks nothing of it
  (`ignoresAudio_orders`).
* `Desk.HungUp`: what there is to say of the desk after it, record by record and order by order.
-/

namespace Switchboard.Desk

open DeskM

variable {d d' : Desk} {c held x : Call} {id : CallId} {resumed : Option (Call × Bool)}

/-! ## Orders -/

/-- Everything that was asked of telephony, in order, and whether it was met. -/
def orders (d : Desk) : List Contact := d.outside.log.filter (·.demand.isTelephony)

theorem orders_ask (d : Desk) (demand : Demand) : (d.ask demand).2.orders = d.orders ++
    if demand.isTelephony then [⟨demand, !d.outside.fails demand.service⟩] else [] := by
  show (d.outside.log ++ [(⟨demand, !d.outside.fails demand.service⟩ : Contact)]).filter
    (fun contact => contact.demand.isTelephony) = _
  rw [List.filter_append]
  cases demand <;> rfl

/-- What else is asked of the outside is no order. -/
theorem orders_ask_of_not (d : Desk) {demand : Demand} (h : demand.isTelephony = false) :
    (d.ask demand).2.orders = d.orders := by
  rw [orders_ask, h]
  exact List.append_nil _

/-- Nothing that the audio side does is an order to telephony. -/
theorem ignoresAudio_orders : IgnoresAudio orders where
  playbackOnly {d d'} h := by
    obtain ⟨contacts, hlog, hv⟩ := h.outside.added
    have hnone : contacts.filter (·.demand.isTelephony) = [] := by
      refine List.filter_eq_nil_iff.mpr fun contact hc => ?_
      have hv := hv contact hc
      cases hd : contact.demand <;> rw [hd] at hv <;> first | exact Bool.false_ne_true | cases hv
    unfold orders
    rw [hlog, List.filter_append, hnone, List.append_nil]
  machines _ _ _ := rfl
  told _ _ _ := rfl
  asked d demand hd := orders_ask_of_not d (by cases demand <;> first | rfl | cases hd)
  unmuted d := view_applyMute orders (orders_ask_of_not d rfl) fun _ => rfl
  noted _ _ _ _ _ _ _ _ := rfl

/-- An order is recorded with whether telephony complied. -/
theorem orders_telephoned (d : Desk) (command : Command) : (d.telephoned command).orders =
    d.orders ++ [⟨.telephony command, !d.outside.fails command.service⟩] := by
  have hk : d.kept.orders = d.orders := (audioMutations_kept d).view_eq ignoresAudio_orders
  unfold telephoned
  rw [orders_ask, hk, outside_kept]
  rfl

@[simp] theorem orders_moved (d : Desk) (c : Call) (next : CallState) :
    (d.moved c next).orders = d.orders := by
  unfold moved
  dsimp only
  split
  · rfl
  · rw [(audioMutations_updated _ c c.state next).view_eq ignoresAudio_orders]
    rfl

@[simp] theorem orders_dropped (d : Desk) (c : Call) : (d.dropped c).orders = d.orders := by
  unfold dropped callDestroyed
  dsimp only
  split
  · rw [(audioMutations_ringingCallGone _ c).view_eq ignoresAudio_orders]
    rfl
  · rw [(audioMutations_callMoved _ c.bearer (some c.state) none).view_eq ignoresAudio_orders]
    rfl

@[simp] theorem orders_finished (d : Desk) (c : Call) (ended : EndReason) :
    (d.finished c ended).orders = d.orders := by
  unfold finished
  rw [orders_dropped, orders_moved]
  rfl

/-! ## What is resumed -/

/-- The call `held` is to be resumed once the call `c` is hung up. -/
structure Heir (d : Desk) (c held : Call) : Prop where
  active : c.state = .active
  lone : d.Lone c.id
  mem : held ∈ d.registry.calls
  holding : held.state = .holding
  resumable : held.canUnhold = true
  lowest : ∀ x ∈ d.registry.calls, x.state = .holding → x.canUnhold = true → held.id ≤ x.id

/-- A record after the attempt to resume a call, which was met or not. -/
def revived (resumed : Option (Call × Bool)) (x : Call) : Call :=
  if resumed = some (x, true) then { x with state := .active } else x

@[simp] theorem revived_id (resumed : Option (Call × Bool)) (x : Call) :
    (revived resumed x).id = x.id := by
  unfold revived
  split <;> rfl

theorem revived_none : revived none = fun x => x := funext fun _ => if_neg nofun

theorem revived_refused (held : Call) : revived (some (held, false)) = fun x => x :=
  funext fun _ => if_neg (by simp)

/-- At `d'` the call `c` was hung up, and `resumed` is the call that was to be resumed, with whether
telephony complied. -/
structure HungUp (c : Call) (resumed : Option (Call × Bool)) (d d' : Desk) : Prop where
  gone : d'.registry.get? c.id = none
  others : ∀ x ∈ d.registry.calls, x.id ≠ c.id → d'.registry.get? x.id = some (revived resumed x)
  ids : d'.ids = d.ids.filter (· != c.id)
  orders : d'.orders = d.orders ++ ⟨.telephony (.hangUp c), true⟩ ::
    (resumed.map fun attempt => ⟨.telephony (.unhold attempt.1), attempt.2⟩).toList

/-- What has to be said of the records is read off the list of calls. -/
theorem hungUp_of_calls
    (hcalls : d'.registry.calls = (d.registry.calls.filter (·.id != c.id)).map (revived resumed))
    (horders : d'.orders = d.orders ++ ⟨.telephony (.hangUp c), true⟩ ::
      (resumed.map fun attempt => ⟨.telephony (.unhold attempt.1), attempt.2⟩).toList) :
    d.HungUp c resumed d' := by
  refine ⟨Registry.get?_of_absent fun y hy => ?_, fun x hx hid => ?_, ?_, horders⟩
  · rw [hcalls] at hy
    obtain ⟨x, hx, rfl⟩ := List.mem_map.mp hy
    rw [revived_id]
    simpa using (List.mem_filter.mp hx).2
  · have hf : x ∈ d.registry.calls.filter (·.id != c.id) := by simp [hx, hid]
    exact Registry.get?_eq_some_iff.mpr ⟨hcalls ▸ List.mem_map_of_mem hf, revived_id resumed x⟩
  · unfold ids
    rw [hcalls, List.map_map, List.filter_map]
    exact List.map_congr_left fun x _ => revived_id resumed x

/-! ## Hanging up -/

/-- The desk once the call `c` is hung up and before another one is resumed. -/
def vacated (d : Desk) (c : Call) : Desk := (d.telephoned (.hangUp c)).finished c .normal

/-- Hanging up takes one record out. -/
theorem calls_vacated (d : Desk) (c : Call) :
    (d.vacated c).registry.calls = d.registry.calls.filter (·.id != c.id) := by
  unfold vacated
  rw [calls_finished, registry_telephoned]

theorem mem_vacated : x ∈ (d.vacated c).registry.calls ↔ x ∈ d.registry.calls ∧ x.id ≠ c.id := by
  rw [calls_vacated]
  simp

/-- The call is the only active one just when none is active after it is gone. -/
theorem lone_iff : d.Lone c.id ↔ hasActive (d.vacated c).registry.calls = false := by
  unfold Lone hasActive
  simp only [List.any_eq_false, mem_vacated, beq_iff_eq]
  exact ⟨fun h x hx ha => hx.2 (h x hx.1 ha), fun h x hx ha =>
    Decidable.by_contra fun hid => h x ⟨hx, hid⟩ ha⟩

/-- The call that is resumed is found among those that are left. -/
theorem heir_iff (hc : c ∈ d.registry.calls) : d.Heir c held ↔
    (c.state = .active ∧ hasActive (d.vacated c).registry.calls = false) ∧
      ((d.vacated c).registry.findByState .holding).find? (·.canUnhold) = some held := by
  unfold Registry.findByState
  rw [← lone_iff, List.find?_filter, Registry.find?_eq_some_iff]
  simp only [mem_vacated, beq_iff_eq, decide_eq_true_eq]
  constructor
  · intro h
    have hid : held.id ≠ c.id := fun hid => by
      have := h.holding
      rw [Registry.eq_of_id_eq h.mem hc hid, h.active] at this
      cases this
    exact ⟨⟨h.active, h.lone⟩, ⟨h.mem, hid⟩, ⟨h.holding, h.resumable⟩,
      fun x hx hp => h.lowest x hx.1 hp.1 hp.2⟩
  · rintro ⟨⟨hactive, hlone⟩, ⟨hmem, -⟩, ⟨hholding, hresumable⟩, hlowest⟩
    refine ⟨hactive, hlone, hmem, hholding, hresumable, fun x hx hxh hxr => ?_⟩
    have hid : x.id ≠ c.id := fun hid => by
      rw [Registry.eq_of_id_eq hx hc hid, hactive] at hxh
      cases hxh
    exact hlowest x ⟨hx, hid⟩ ⟨hxh, hxr⟩

/-- An attempt to resume a call does no harm if it fails. -/
theorem ends_tryResume (h : held ∈ d.registry.calls) {Q : Unit → Desk → Prop}
    {E : CallError → Desk → Prop} :
    (try resume held catch _ => pure () : DeskM Unit).Ends d Q E ↔
      if d.outside.fails .unhold = true then Q () (d.telephoned (.unhold held))
      else Q () ((d.telephoned (.unhold held)).moved held .active) := by
  have ht : held ∈ (d.telephoned (.unhold held)).registry.calls := by rwa [registry_telephoned]
  unfold resume
  rw [ends_tryCatch, ends_bind, ends_telephone_iff, ends_setState_of_mem ht]
  rfl

/-- The call `c` was hung up, and its heir, if there is one, was to be resumed. -/
def Succession (d : Desk) (c : Call) (d' : Desk) : Prop :=
  (∀ held, d.Heir c held → ∃ met, d.HungUp c (some (held, met)) d') ∧
    ((∀ held, ¬d.Heir c held) → d.HungUp c none d')

/-- Until a held call is resumed, only the order to hang up was given. -/
theorem orders_vacated (hmet : d.outside.fails .hangUp = false) :
    (d.vacated c).orders = d.orders ++ [⟨.telephony (.hangUp c), true⟩] := by
  unfold vacated
  rw [orders_finished, orders_telephoned]
  simp [Command.service, hmet]

/-- Without an heir nothing more happens. -/
theorem hungUp_vacated (hmet : d.outside.fails .hangUp = false) :
    d.HungUp c none (d.vacated c) := by
  refine hungUp_of_calls ?_ (orders_vacated hmet)
  rw [calls_vacated, revived_none, List.map_id']

/-- The heir is resumed, or telephony refuses to do so. -/
theorem succession_heir (hc : c ∈ d.registry.calls) (hmet : d.outside.fails .hangUp = false)
    (hh : d.Heir c held) :
    (try resume held catch _ => pure () : DeskM Unit).Ends (d.vacated c)
      (fun _ d' => ∃ met, d.HungUp c (some (held, met)) d') fun _ _ => False := by
  have hmem : held ∈ (d.vacated c).registry.calls :=
    (List.mem_filter.mp (List.mem_of_find?_eq_some ((heir_iff hc).mp hh).2)).1
  have horders : ((d.vacated c).telephoned (.unhold held)).orders =
      d.orders ++ [⟨.telephony (.hangUp c), true⟩,
        ⟨.telephony (.unhold held), !(d.vacated c).outside.fails .unhold⟩] := by
    rw [orders_telephoned, orders_vacated hmet, List.append_assoc]
    rfl
  refine (ends_tryResume hmem).mpr ?_
  split
  · rename_i hfails
    refine ⟨false, hungUp_of_calls ?_ ?_⟩
    · rw [registry_telephoned, calls_vacated, revived_refused, List.map_id']
    · rw [horders, hfails]
      rfl
  · rename_i hfails
    refine ⟨true, hungUp_of_calls ?_ ?_⟩
    · rw [registry_moved, registry_telephoned, Registry.modify_calls, calls_vacated]
      refine List.map_congr_left fun x hx => ?_
      by_cases hid : x.id = held.id
      · obtain rfl := Registry.eq_of_id_eq (List.mem_filter.mp hx).1 hh.mem hid
        simp [revived]
      · have hne : held ≠ x := fun he => hid (he ▸ rfl)
        simp [revived, hid, hne]
    · rw [orders_moved, horders, eq_false_of_ne_true hfails]
      rfl

/-- Hanging up a call that is there and not terminal. -/
theorem ends_hangUp (hc : c ∈ d.registry.calls) (ht : c.state.isTerminal = false) :
    (hangUp c.id).Ends d (fun _ d' => d.outside.fails .hangUp = false ∧ d.Succession c d')
      fun _ _ => d.outside.fails .hangUp = true := by
  unfold hangUp
  refine (ends_bind _).mpr
    (ends_call (fun c' hc' hid => ?_) fun habsent => absurd rfl (habsent c hc))
  obtain rfl := Registry.eq_of_id_eq hc' hc hid
  rw [if_neg (by simp [ht])]
  refine (ends_bind _).mpr (ends_telephone_iff.mpr ?_)
  split
  · assumption
  rename_i hfails
  have hmet := eq_false_of_ne_true hfails
  have hct : c' ∈ (d.telephoned (.hangUp c')).registry.calls := by rwa [registry_telephoned]
  refine (ends_bind _).mpr ((ends_finish_of_mem hct).mpr ((ends_bind _).mpr (ends_get.mpr ?_)))
  rw [show (d.telephoned (.hangUp c')).finished c' .normal = d.vacated c' from rfl]
  by_cases hh : ∃ held, d.Heir c' held
  · obtain ⟨held, hh⟩ := hh
    obtain ⟨hcond, hfind⟩ := (heir_iff hc).mp hh
    rw [if_pos hcond, hfind]
    refine (succession_heir hc hmet hh).mono
      (fun _ d' h' => ⟨hmet, fun held' hh' => ?_, fun hn => ?_⟩)
      fun _ _ => False.elim
    · obtain rfl := Option.some.inj (hfind.symm.trans ((heir_iff hc).mp hh').2)
      exact h'
    · exact absurd hh (hn held)
  · have hnone : ∀ held, ¬d.Heir c' held := not_exists.mp hh
    have hvacated : d.Succession c' (d.vacated c') :=
      ⟨fun held hheld => absurd hheld (hnone held), fun _ => hungUp_vacated hmet⟩
    split
    · rename_i hcond
      split
      · rename_i held hfind
        exact absurd ((heir_iff hc).mpr ⟨hcond, hfind⟩) (hnone held)
      · exact ⟨hmet, hvacated⟩
    · exact ⟨hmet, hvacated⟩

/-- A call can be hung up. -/
def Terminable (d : Desk) (id : CallId) : Prop :=
  d.started = true ∧ d.outside.fails .hangUp = false ∧
    ∃ c ∈ d.registry.calls, c.id = id ∧ c.state.isTerminal = false

/-- Hanging up any number in service: it succeeds just if the call can be hung up. -/
theorem ends_hangUp_inService (d : Desk) (id : CallId) :
    (inService (hangUp id)).Ends d
      (fun _ d' => d.Terminable id ∧ ∃ c ∈ d.registry.calls, c.id = id ∧ d.Succession c d')
      fun _ _ => ¬d.Terminable id := by
  refine ends_inService (fun hs => ?_) fun hs ht => Bool.false_ne_true (hs.symm.trans ht.1)
  by_cases hp : ∃ c ∈ d.registry.calls, c.id = id ∧ c.state.isTerminal = false
  · obtain ⟨c, hc, rfl, ht⟩ := hp
    refine (ends_hangUp hc ht).mono (fun _ d' h' => ?_) fun _ _ hfails ht => ?_
    · exact ⟨⟨hs, h'.1, c, hc, rfl, ht⟩, c, hc, rfl, h'.2⟩
    · exact Bool.false_ne_true (ht.2.1.symm.trans hfails)
  · have hn : ¬d.Terminable id := fun ht => hp ht.2.2
    unfold hangUp
    refine (ends_bind _).mpr (ends_call (fun c hc hid => ?_) fun _ => hn)
    have ht : c.state.isTerminal = true := by
      by_contra hlive
      exact hp ⟨c, hc, hid, eq_false_of_ne_true hlive⟩
    rw [if_pos ht]
    exact (ends_bind _).mpr ((ends_throw _).mpr hn)

/-- **Hanging up and resuming.** However many calls there are, and whatever telephony refuses:
hanging up succeeds if and only if the desk is in service, telephony complies, and the call is there
and not terminal. Then that call is gone. If it was the only active call, and there are held calls
that may be resumed, telephony is asked just once to resume one: the one with the lowest number
becomes active if telephony complies and stays on hold if not. Otherwise nothing is resumed. No
other record changes. -/
theorem hangUp_resumes (d : Desk) (id : CallId) :
    let d' := d.after (.operation (.hangUp id))
    ((Operation.hangUp id).Succeeds d ↔ d.started = true ∧ d.outside.fails .hangUp = false ∧
      ∃ c ∈ d.registry.calls, c.id = id ∧ c.state.isTerminal = false) ∧
    ((Operation.hangUp id).Succeeds d → ∃ c ∈ d.registry.calls, c.id = id ∧
      (∀ held, d.Heir c held → ∃ met, d.HungUp c (some (held, met)) d') ∧
      ((∀ held, ¬d.Heir c held) → d.HungUp c none d')) := by
  obtain ⟨hsucceeds, hfails⟩ := ends_conclude (ends_hangUp_inService d id)
  refine ⟨⟨fun hs => (hsucceeds hs).1, fun ht => ?_⟩, fun hs => (hsucceeds hs).2⟩
  by_contra hn
  obtain ⟨e, he⟩ := hfails hn
  exact he ht

/-- Of two held calls only the later one may be resumed, and telephony does not comply: the call is
hung up all the same. -/
theorem hangUp_resumes_in_vain :
    let run : List Happening :=
      [.operation .start, .operation (.arrive ⟨"1", 0, .cs, .voice⟩),
        .operation (.reportState 1 .holding none), .operation (.arrive ⟨"2", 0, .cs, .voice⟩),
        .operation (.reject 2), .operation (.arrive ⟨"3", 0, .cs, .voice⟩),
        .operation (.reportState 3 .holding none), .operation (.arrive ⟨"4", 0, .cs, .voice⟩),
        .operation (.reportState 4 .active none), .circumstance (.setFailing .unhold true)]
    let d := standard.afterAll run
    (Operation.hangUp 4).Succeeds d ∧ ∃ c held, c.id = 4 ∧ held.id = 3 ∧ d.Heir c held ∧
      d.HungUp c (some (held, false)) (d.after (.operation (.hangUp 4))) := by
  intro run d
  have hs : (Operation.hangUp 4).Succeeds d := by decide +kernel
  obtain ⟨c, hc, hid, hheir, -⟩ := (hangUp_resumes d 4).2 hs
  obtain ⟨c', hc', hid', hactive, hlone⟩ : ∃ c ∈ d.registry.calls,
      c.id = 4 ∧ c.state = .active ∧ d.Lone c.id := by decide +kernel
  obtain ⟨held, hmem, hheld, hholding, hresumable, hlowest⟩ : ∃ held ∈ d.registry.calls,
      held.id = 3 ∧ held.state = .holding ∧ held.canUnhold = true ∧
        ∀ x ∈ d.registry.calls, x.state = .holding → x.canUnhold = true → held.id ≤ x.id := by
    decide +kernel
  obtain rfl := Registry.eq_of_id_eq hc hc' (hid.trans hid'.symm)
  have h : d.Heir c held := ⟨hactive, hlone, hmem, hholding, hresumable, hlowest⟩
  obtain ⟨met, hhungUp⟩ := hheir held h
  have hlast : (d.after (.operation (.hangUp 4))).orders.getLast?.map (·.met) = some false := by
    decide +kernel
  rw [hhungUp.orders] at hlast
  obtain rfl : met = false := by simpa using hlast
  exact ⟨hs, c, held, hid, hheld, h, hhungUp⟩

end Switchboard.Desk
