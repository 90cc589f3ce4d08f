import Switchboard.Proofs.Desk.LoneActive
import Switchboard.Proofs.Desk.Sure

/-!
# Switching between calls

A switch trades the active call for a held one: the active call goes on hold, and the held one
becomes active (`switch_iff`). Asked of a held call, it takes that one; asked of the active call, it
takes the held call with the lowest number (`Desk.Partners`).

So a second switch of the same call need not undo the first. It does if the call was the active one,
or if the active call had a lower number than the other held ones (`Desk.Reversible`); otherwise
another held call becomes active (`switch_twice`, `switch_elsewhere`).
-/

namespace Switchboard

/-! ## Trading places -/

/-- On hold instead of active, or active instead of on hold. -/
def Call.traded (c : Call) : Call :=
  { c with state := match c.state with | .active => .holding | .holding => .active | s => s }

@[simp] theorem Call.traded_id (c : Call) : c.traded.id = c.id := rfl

theorem Call.traded_active {c : Call} (h : c.state = .active) : c.traded.state = .holding := by
  simp [traded, h]

theorem Call.traded_holding {c : Call} (h : c.state = .holding) : c.traded.state = .active := by
  simp [traded, h]

@[simp] theorem Call.traded_traded (c : Call) : c.traded.traded = c := by
  obtain ⟨_, _, _, state⟩ := c
  cases state <;> rfl

/-- A record, after the calls `x` and `y` traded places. -/
def trade (x y : CallId) (c : Call) : Call := if c.id = x ∨ c.id = y then c.traded else c

section

variable {x y z : CallId} {c : Call}

@[simp] theorem trade_id (x y : CallId) (c : Call) : (trade x y c).id = c.id := by
  unfold trade
  split <;> rfl

theorem trade_left (h : c.id = x) (y : CallId) : trade x y c = c.traded := if_pos (.inl h)

theorem trade_right (x : CallId) (h : c.id = y) : trade x y c = c.traded := if_pos (.inr h)

theorem trade_of_ne (hx : c.id ≠ x) (hy : c.id ≠ y) : trade x y c = c := if_neg (by simp [hx, hy])

theorem trade_comm (x y : CallId) : trade x y = trade y x :=
  funext fun _ => if_congr or_comm rfl rfl

/-- Trading places again undoes it. -/
@[simp] theorem trade_trade (x y : CallId) (c : Call) : trade x y (trade x y c) = c := by
  by_cases h : c.id = x ∨ c.id = y
  · simp [trade, h]
  · simp [trade, h]

/-- Trading places with one call and then with another leaves these two traded. -/
theorem trade_trade_of_ne (hxy : x ≠ y) (hxz : x ≠ z) (hyz : y ≠ z) (c : Call) :
    trade x z (trade x y c) = trade y z c := by
  by_cases hx : c.id = x
  · rw [trade_left hx, trade_left (by simpa using hx), Call.traded_traded,
      trade_of_ne (hx ▸ hxy) (hx ▸ hxz)]
  by_cases hy : c.id = y
  · rw [trade_right x hy, trade_left hy, trade_of_ne (by simpa using hx) (by simpa [hy] using hyz)]
  · rw [trade_of_ne hx hy]
    by_cases hz : c.id = z
    · rw [trade_right x hz, trade_right y hz]
    · rw [trade_of_ne hx hz, trade_of_ne hy hz]

end

/-- Nobody does anything: time passes, services become willing or unwilling, or the desk rests. -/
def Happening.Uneventful : Happening → Prop
  | circumstance _ | rest => True
  | _ => False

namespace Desk

open DeskM

variable {d d' : Desk} {a c p x : Call} {id : CallId}

/-! ## The active call -/

/-- The call `a` is the only one that is active. -/
structure SoleActive (d : Desk) (a : Call) : Prop where
  mem : a ∈ d.registry.calls
  active : a.state = .active
  lone : d.Lone a.id

/-- Just one call is active. -/
theorem countByState_eq_one_iff : d.registry.countByState .active = 1 ↔ ∃ a, d.SoleActive a := by
  constructor
  · intro h
    rw [Registry.countByState, List.countP_eq_length_filter] at h
    obtain ⟨a, ha⟩ := List.length_eq_one_iff.mp h
    have hiff (x : Call) : x ∈ d.registry.calls ∧ x.state = .active ↔ x = a := by
      have := congrArg (x ∈ ·) ha
      simpa using this
    obtain ⟨hmem, hactive⟩ := (hiff a).mpr rfl
    exact ⟨a, hmem, hactive, fun x hx hxa => by rw [(hiff x).mp ⟨hx, hxa⟩]⟩
  · rintro ⟨a, ha⟩
    refine Nat.le_antisymm ha.lone.single.countByState_le ?_
    exact List.countP_pos_iff.mpr ⟨a, ha.mem, by simp [ha.active]⟩

theorem SoleActive.findByState (h : d.SoleActive a) : d.registry.findByState .active = [a] := by
  have hone := countByState_eq_one_iff.mpr ⟨a, h⟩
  rw [Registry.countByState, List.countP_eq_length_filter] at hone
  obtain ⟨b, hb⟩ := List.length_eq_one_iff.mp hone
  have hmem : a ∈ d.registry.calls.filter (·.state == .active) := by simp [h.mem, h.active]
  rw [hb] at hmem
  rw [Registry.findByState, hb, List.mem_singleton.mp hmem]

theorem SoleActive.eq_of_active (h : d.SoleActive a) (hx : x ∈ d.registry.calls)
    (hxa : x.state = .active) : x = a := Registry.eq_of_id_eq hx h.mem (h.lone x hx hxa)

/-- A held call is not the active one. -/
theorem SoleActive.id_ne (h : d.SoleActive a) (hx : x ∈ d.registry.calls)
    (hxh : x.state = .holding) : x.id ≠ a.id := fun hid => by
  rw [Registry.eq_of_id_eq hx h.mem hid, h.active] at hxh
  cases hxh

/-! ## Partners -/

/-- The held call with the lowest number. -/
structure FirstHeld (d : Desk) (p : Call) : Prop where
  mem : p ∈ d.registry.calls
  holding : p.state = .holding
  lowest : ∀ x ∈ d.registry.calls, x.state = .holding → p.id ≤ x.id

/-- The registry lists held calls with the lowest number first. -/
theorem head?_holding : (d.registry.findByState .holding).head? = some p ↔ d.FirstHeld p := by
  rw [Registry.findByState, List.head?_filter, Registry.find?_eq_some_iff]
  simp only [beq_iff_eq]
  exact ⟨fun h => ⟨h.1, h.2.1, h.2.2⟩, fun h => ⟨h.mem, h.holding, h.lowest⟩⟩

/-- If a call is held, there is one with the lowest number. -/
theorem exists_firstHeld (hx : x ∈ d.registry.calls) (hxh : x.state = .holding) :
    ∃ p, d.FirstHeld p := by
  cases hh : (d.registry.findByState .holding).head? with
  | some p => exact ⟨p, head?_holding.mp hh⟩
  | none =>
    have hm : x ∈ d.registry.findByState .holding := by simp [Registry.findByState, hx, hxh]
    rw [List.head?_eq_none_iff.mp hh] at hm
    cases hm

/-- Asked to switch the call `c`, the desk trades it for the call `p`. -/
inductive Partners (d : Desk) (c p : Call) : Prop
  | ofHeld (hc : c ∈ d.registry.calls) (hh : c.state = .holding) (hp : d.SoleActive p)
  | ofActive (hc : d.SoleActive c) (hp : d.FirstHeld p)

/-! ## A switch -/

/-- The active call is put on hold and the held one made active. -/
theorem ends_trade {out into : Call} (ho : out ∈ d.registry.calls) (hoa : out.state = .active)
    (hi : into ∈ d.registry.calls) (hih : into.state = .holding) :
    (do
      telephone (.switch c)
      setStates .holding [out]
      setState into.id .active : DeskM Unit).Ends d
      (fun _ d' => d.outside.fails .switch = false ∧ d'.started = d.started ∧
        d'.registry.calls = d.registry.calls.map (trade out.id into.id))
      fun _ _ => d.outside.fails .switch = true := by
  have hne : into.id ≠ out.id := fun hid => by
    rw [Registry.eq_of_id_eq hi ho hid, hoa] at hih
    cases hih
  refine (ends_bind _).mpr (ends_telephone_iff.mpr ?_)
  split
  · assumption
  rename_i hfails
  have hot : out ∈ (d.telephoned (.switch c)).registry.calls := by rwa [registry_telephoned]
  have him : into ∈ ((d.telephoned (.switch c)).moved out .holding).registry.calls := by
    rw [registry_moved, registry_telephoned]
    exact Registry.mem_adjust.mpr (.inl ⟨hi, hne⟩)
  unfold setStates setStates
  simp only [ends_bind, ends_setState_of_mem hot, ends_pure, ends_setState_of_mem him]
  refine ⟨eq_false_of_ne_true hfails, ?_, ?_⟩
  · have hstarted (d : Desk) (c : Call) (next : CallState) : (d.moved c next).started = d.started :=
      congrArg Core.started (core_moved d c next)
    rw [hstarted, hstarted]
    exact congrArg Core.started (core_telephoned d (.switch c))
  · rw [registry_moved, registry_moved, registry_telephoned, Registry.modify_calls,
      Registry.modify_calls]
    unfold Registry.adjust
    rw [List.map_map]
    refine List.map_congr_left fun x hx => ?_
    by_cases hxo : x.id = out.id
    · obtain rfl := Registry.eq_of_id_eq hx ho hxo
      simp [trade, Call.traded, hoa, hne.symm]
    · by_cases hxi : x.id = into.id
      · obtain rfl := Registry.eq_of_id_eq hx hi hxi
        simp [trade, Call.traded, hih, hne]
      · simp [trade, hxo, hxi]

/-- A switch goes through if there is a partner and telephony complies. -/
theorem ends_switch (ha : d.SoleActive a) (hc : c ∈ d.registry.calls) :
    (switch c.id).Ends d
      (fun _ d' => d.outside.fails .switch = false ∧ d'.started = d.started ∧
        ∃ p, d.Partners c p ∧ d'.registry.calls = d.registry.calls.map (trade c.id p.id))
      fun _ _ => d.outside.fails .switch = false → ∀ p, ¬d.Partners c p := by
  have hfails (h : d.outside.fails .switch = true) :
      d.outside.fails .switch = false → ∀ p, ¬d.Partners c p := fun hn => by simp [h] at hn
  unfold switch
  refine (ends_bind _).mpr ((ends_callIn_of_mem hc).mpr ?_)
  split
  · rename_i hallowed
    rw [ends_bind, ends_get]
    dsimp only
    split
    · rename_i hheld
      rw [ends_bind, ends_pure, ha.findByState]
      refine (ends_trade ha.mem ha.active hc hheld).mono (fun _ d' h => ?_) fun _ _ => hfails
      exact ⟨h.1, h.2.1, a, .ofHeld hc hheld ha, h.2.2.trans (by rw [trade_comm])⟩
    · rename_i hheld
      have hactive : c.state = .active := by simpa [hheld] using hallowed
      obtain rfl := ha.eq_of_active hc hactive
      split
      · rename_i p hp
        have hp := head?_holding.mp hp
        rw [ends_bind, ends_pure]
        refine (ends_trade hc hactive hp.mem hp.holding).mono (fun _ d' h => ?_) fun _ _ => hfails
        exact ⟨h.1, h.2.1, p, .ofActive ha hp, h.2.2⟩
      · rename_i hnone
        rw [ends_bind, ends_throw]
        rintro - p (⟨-, hh, -⟩ | ⟨-, hp⟩)
        · exact hheld hh
        · rw [head?_holding.mpr hp] at hnone
          cases hnone
  · rename_i hallowed
    rintro - p (⟨-, hh, -⟩ | ⟨hc, -⟩)
    · exact hallowed (by simp [hh])
    · exact hallowed (by simp [hc.active])

/-- At `d'` the calls `c` and `p` have traded places. -/
structure Traded (c p : Call) (d d' : Desk) : Prop where
  started : d'.started = true
  calls : d'.registry.calls = d.registry.calls.map (trade c.id p.id)

/-- Just one call is active. A switch of a call succeeds if and only if the desk is in service,
telephony complies and there is a partner; and then the two trade places. -/
theorem switch_iff (ha : d.SoleActive a) (hc : c ∈ d.registry.calls) :
    ((Operation.switch c.id).Succeeds d ↔
      d.started = true ∧ d.outside.fails .switch = false ∧ ∃ p, d.Partners c p) ∧
    ((Operation.switch c.id).Succeeds d →
      ∃ p, d.Partners c p ∧ d.Traded c p (d.after (.operation (.switch c.id)))) := by
  have hends : (inService (switch c.id)).Ends d
      (fun _ d' => d.started = true ∧ d.outside.fails .switch = false ∧
        ∃ p, d.Partners c p ∧ d.Traded c p d')
      fun _ _ => d.started = true → d.outside.fails .switch = false → ∀ p, ¬d.Partners c p := by
    refine ends_inService (fun hs => ?_) fun hs hs' => by simp [hs] at hs'
    refine (ends_switch ha hc).mono (fun _ d' h => ?_) fun _ _ h _ => h
    obtain ⟨hf, hs', p, hp, hcalls⟩ := h
    exact ⟨hs, hf, p, hp, hs'.trans hs, hcalls⟩
  obtain ⟨hsucceeds, hfails⟩ := ends_conclude hends
  refine ⟨⟨fun h => ?_, fun ⟨hs, hf, p, hp⟩ => ?_⟩, fun h => (hsucceeds h).2.2⟩
  · obtain ⟨hs, hf, p, hp, -⟩ := hsucceeds h
    exact ⟨hs, hf, p, hp⟩
  · by_contra hn
    obtain ⟨e, he⟩ := hfails hn
    exact he hs hf p hp

/-- A call that is switched is there. -/
theorem exists_of_switch (h : (Operation.switch id).Succeeds d) :
    ∃ c ∈ d.registry.calls, c.id = id := by
  have hends : (switch id).Ends d (fun _ _ => ∃ c ∈ d.registry.calls, c.id = id)
      fun _ _ => True := by
    refine (ends_bind _).mpr (ends_callIn (fun c hc hid _ => ?_) fun _ _ => trivial)
    exact (ends_any _ _).mono (fun _ _ _ => ⟨c, hc, hid⟩) fun _ _ _ => trivial
  exact (ends_conclude (ends_inService (fun _ => hends) fun _ => trivial)).1 h

/-! ## Twice -/

/-- A record is found where the calls have traded places. -/
theorem Traded.mem (h : d.Traded c p d') (hx : x ∈ d.registry.calls) :
    trade c.id p.id x ∈ d'.registry.calls := h.calls ▸ List.mem_map_of_mem hx

theorem Traded.exists_of_mem (h : d.Traded c p d') (hx : x ∈ d'.registry.calls) :
    ∃ y ∈ d.registry.calls, trade c.id p.id y = x := by
  rw [h.calls] at hx
  exact List.mem_map.mp hx

/-- Which of the two was switched does not matter. -/
theorem Traded.symm (h : d.Traded c p d') : d.Traded p c d' :=
  ⟨h.started, by rw [h.calls, trade_comm]⟩

/-- The held call that has traded places with the active one is the only active call. -/
theorem Traded.soleActive (h : d.Traded a p d') (ha : d.SoleActive a) (hp : p ∈ d.registry.calls)
    (hph : p.state = .holding) : d'.SoleActive p.traded := by
  refine ⟨?_, Call.traded_holding hph, fun x hx hxa => ?_⟩
  · have := h.mem hp
    rwa [trade_right a.id rfl] at this
  · obtain ⟨y, hy, rfl⟩ := h.exists_of_mem hx
    rw [trade_id, Call.traded_id]
    by_contra hyp
    by_cases hya : y.id = a.id
    · rw [trade_left hya,
        Call.traded_active (Registry.eq_of_id_eq hy ha.mem hya ▸ ha.active)] at hxa
      cases hxa
    · rw [trade_of_ne hya hyp] at hxa
      exact hya (ha.lone y hy hxa)

/-- However the two were found, one call is active once they have traded places. -/
theorem Traded.exists_soleActive (h : d.Traded c p d') (hp : d.Partners c p) :
    ∃ a, d'.SoleActive a := by
  rcases hp with ⟨hc, hh, hp⟩ | ⟨hc, hp⟩
  · exact ⟨_, h.symm.soleActive hp hc hh⟩
  · exact ⟨_, h.soleActive hc hp.mem hp.holding⟩

theorem Partners.mem (h : d.Partners c p) : c ∈ d.registry.calls := by
  rcases h with ⟨hc, -, -⟩ | ⟨hc, -⟩
  · exact hc
  · exact hc.mem

theorem Traded.mem_traded (h : d.Traded c p d') (hc : c ∈ d.registry.calls) :
    c.traded ∈ d'.registry.calls := trade_left (x := c.id) rfl p.id ▸ h.mem hc

/-- The call can be switched again. -/
theorem Traded.exists_partner (h : d.Traded c p d') (hp : d.Partners c p) :
    ∃ p', d'.Partners c.traded p' := by
  rcases hp with ⟨hc, hh, hp⟩ | ⟨hc, hp⟩
  · obtain ⟨p', hp'⟩ := exists_firstHeld (h.symm.mem_traded hp.mem) (Call.traded_active hp.active)
    exact ⟨p', .ofActive (h.symm.soleActive hp hc hh) hp'⟩
  · exact ⟨_, .ofHeld (h.mem_traded hc.mem) (Call.traded_active hc.active)
      (h.soleActive hc hp.mem hp.holding)⟩

/-- Of the held calls other than `id`, the one with the lowest number. -/
structure FirstOther (d : Desk) (id : CallId) (p : Call) : Prop where
  mem : p ∈ d.registry.calls
  holding : p.state = .holding
  other : p.id ≠ id
  lowest : ∀ x ∈ d.registry.calls, x.state = .holding → x.id ≠ id → p.id ≤ x.id

/-- The call `id` is the active one, or the active one has a lower number than every other held
call. -/
def Reversible (d : Desk) (id : CallId) : Prop :=
  ∀ a, d.SoleActive a → a.id = id ∨
    ∀ x ∈ d.registry.calls, x.state = .holding → x.id ≠ id → a.id < x.id

/-- Once the calls `c` and `p` have traded places, `c` has the same partner again, or it has another
one in its place. -/
theorem Traded.partner_again {p' : Call} (h : d.Traded c p d') (hp : d.Partners c p)
    (hp' : d'.Partners c.traded p') :
    d.Reversible c.id ∧ p'.id = p.id ∨
      ¬d.Reversible c.id ∧ d.SoleActive p ∧ c.id ≠ p.id ∧ d.FirstOther c.id p' := by
  rcases hp with ⟨hc, hh, hp⟩ | ⟨hc, hp⟩
  · -- A held call became active, so its partner is now looked for among the held ones.
    have hne := hp.id_ne hc hh
    rcases hp' with ⟨-, hh', -⟩ | ⟨-, hp'⟩
    · rw [Call.traded_holding hh] at hh'
      cases hh'
    have hkept {x : Call} (hx : x ∈ d.registry.calls) (hxh : x.state = .holding)
        (hxc : x.id ≠ c.id) : x ∈ d'.registry.calls :=
      trade_of_ne hxc (hp.id_ne hx hxh) ▸ h.mem hx
    obtain ⟨y, hy, rfl⟩ := h.exists_of_mem hp'.mem
    have hyc : y.id ≠ c.id := fun hyc => by
      have := hp'.holding
      rw [trade_left hyc, Registry.eq_of_id_eq hy hc hyc, Call.traded_holding hh] at this
      cases this
    -- Either the call that was active before is the lowest held one, or another one is.
    by_cases hyp : y.id = p.id
    · refine .inl ⟨fun a ha => .inr fun x hx hxh hxc => ?_, (trade_id ..).trans hyp⟩
      have hle := hp'.lowest x (hkept hx hxh hxc) hxh
      rw [trade_id, hyp] at hle
      rw [hp.lone a ha.mem ha.active]
      exact UInt32.lt_of_le_of_ne hle (hp.id_ne hx hxh).symm
    · rw [trade_of_ne hyc hyp] at hp' ⊢
      have hle := hp'.lowest p.traded (h.symm.mem_traded hp.mem) (Call.traded_active hp.active)
      refine .inr ⟨fun hr => ?_, hp, hne, hy, hp'.holding, hyc, fun x hx hxh hxc =>
        hp'.lowest x (hkept hx hxh hxc) hxh⟩
      rcases hr p hp with hpc | hlt
      · exact hne hpc.symm
      · exact UInt32.not_lt.mpr hle (hlt y hy hp'.holding hyc)
  · -- The active call was put on hold, and its partner is the active call now.
    rcases hp' with ⟨-, -, hp'⟩ | ⟨hc', -⟩
    · have hs := h.soleActive hc hp.mem hp.holding
      refine .inl ⟨fun a ha => .inl (hc.lone a ha.mem ha.active), ?_⟩
      exact hs.lone p' hp'.mem hp'.active
    · have := hc'.active
      rw [Call.traded_active hc.active] at this
      cases this

/-! ## A lull -/

/-- In a lull the registry stays as it is, and the desk in service. -/
theorem uneventful_after {h : Happening} (hu : h.Uneventful) (d : Desk) :
    (d.after h).registry = d.registry ∧ (d.after h).started = d.started := by
  cases h with
  | circumstance c => cases c <;> exact ⟨rfl, rfl⟩
  | rest =>
    obtain ⟨_, _, hcore⟩ := core_drain d
    exact ⟨congrArg Core.registry hcore, congrArg Core.started hcore⟩
  | operation | audio => cases hu

/-- The two have still traded places after a lull. -/
theorem Traded.afterAll {lull : List Happening} (hl : ∀ h ∈ lull, h.Uneventful)
    (h : d.Traded c p d') : d.Traded c p (d'.afterAll lull) := by
  induction lull generalizing d' with
  | nil => exact h
  | cons e rest ih =>
    obtain ⟨hr, hs⟩ := uneventful_after (hl e (by simp)) d'
    exact ih (fun h hh => hl h (by simp [hh])) ⟨hs.trans h.started, hr ▸ h.calls⟩

/-- **Switching there and back.** While just one call is active, however many are held: after a
switch that succeeds just one call is active, and whatever time and the services do meanwhile, a
second switch of the same call succeeds if telephony complies. It makes every record what it was if
the call was the active one, or if the active call had a lower number than the other held ones. If
not, the call goes back on hold, and of the other held calls the one with the lowest number is
active. -/
theorem switch_twice (hone : d.registry.countByState .active = 1)
    (hs : (Operation.switch id).Succeeds d) (lull : List Happening)
    (hl : ∀ h ∈ lull, h.Uneventful) :
    let d₂ := (d.after (.operation (.switch id))).afterAll lull
    let d₃ := d₂.after (.operation (.switch id))
    d₂.registry.countByState .active = 1 ∧
    (d₂.outside.fails .switch = false → (Operation.switch id).Succeeds d₂ ∧
      (d.Reversible id → d₃.registry.calls = d.registry.calls) ∧
      (¬d.Reversible id → ∃ a p, d.SoleActive a ∧ d.FirstOther id p ∧
        d₃.registry.calls = d.registry.calls.map (trade a.id p.id))) := by
  intro d₂ d₃
  obtain ⟨a, ha⟩ := countByState_eq_one_iff.mp hone
  obtain ⟨c, hc, rfl⟩ := exists_of_switch hs
  obtain ⟨p, hp, h⟩ := (switch_iff ha hc).2 hs
  have h : d.Traded c p d₂ := h.afterAll hl
  obtain ⟨a', ha'⟩ := h.exists_soleActive hp
  refine ⟨countByState_eq_one_iff.mpr ⟨a', ha'⟩, fun hwilling => ?_⟩
  have hback := switch_iff ha' (h.mem_traded hp.mem)
  have hs' : (Operation.switch c.id).Succeeds d₂ :=
    hback.1.mpr ⟨h.started, hwilling, h.exists_partner hp⟩
  obtain ⟨p', hp', h'⟩ := hback.2 hs'
  have hcalls : d₃.registry.calls =
      d.registry.calls.map fun x => trade c.id p'.id (trade c.id p.id x) := by
    refine h'.calls.trans ?_
    rw [h.calls, List.map_map]
    rfl
  refine ⟨hs', fun hr => ?_, fun hr => ?_⟩
  · rcases h.partner_again hp hp' with ⟨-, hid⟩ | ⟨hn, -⟩
    · rw [hcalls, hid]
      simp
    · exact absurd hr hn
  · rcases h.partner_again hp hp' with ⟨hr', -⟩ | ⟨-, hsole, hne, hother⟩
    · exact absurd hr' hr
    · refine ⟨p, p', hsole, hother, hcalls.trans (List.map_congr_left fun x _ => ?_)⟩
      exact trade_trade_of_ne hne hother.other.symm (hsole.id_ne hother.mem hother.holding).symm x

/-- The active call is switched twice while time passes, and all is as it was. -/
theorem switch_twice_back :
    let run : List Happening :=
      [.operation .start, .operation (.dial ⟨"1", 0, .cs, .voice, false⟩),
        .operation (.reportState 1 .active none), .operation (.hold 1),
        .operation (.dial ⟨"2", 0, .cs, .voice, false⟩), .operation (.reportState 2 .active none)]
    let d := standard.afterAll run
    d.registry.countByState .active = 1 ∧ (Operation.switch 2).Succeeds d ∧ d.Reversible 2 ∧
      let d₂ := (d.after (.operation (.switch 2))).afterAll [.circumstance (.elapse 1000), .rest]
      d₂.registry.countByState .active = 1 ∧ (Operation.switch 2).Succeeds d₂ ∧
        (d₂.after (.operation (.switch 2))).registry.calls = d.registry.calls := by
  intro run d
  have hone : d.registry.countByState .active = 1 := by decide +kernel
  have hs : (Operation.switch 2).Succeeds d := by decide +kernel
  have hactive : ∃ c ∈ d.registry.calls, c.id = 2 ∧ c.state = .active := by decide +kernel
  have hr : d.Reversible 2 := fun a ha => by
    obtain ⟨c, hc, hid, hca⟩ := hactive
    exact .inl ((ha.lone c hc hca).symm.trans hid)
  obtain ⟨hstill, hback⟩ := switch_twice hone hs [.circumstance (.elapse 1000), .rest]
    (by simp [Happening.Uneventful])
  obtain ⟨hs', hcalls, -⟩ := hback (by decide +kernel)
  exact ⟨hone, hs, hr, hstill, hs', hcalls hr⟩

/-- Switched to and back from, the second of two held calls leaves the first one active, and not the
third call, which was. -/
theorem switch_elsewhere :
    let run : List Happening :=
      [.operation .start, .operation (.dial ⟨"1", 0, .cs, .voice, false⟩),
        .operation (.reportState 1 .active none), .operation (.hold 1),
        .operation (.dial ⟨"2", 0, .cs, .voice, false⟩), .operation (.reportState 2 .active none),
        .operation (.hold 2), .operation (.arrive ⟨"3", 0, .cs, .voice⟩),
        .operation (.answer 3 .voice)]
    let d := standard.afterAll run
    let d₁ := d.after (.operation (.switch 2))
    Reach (fun _ _ => True) 3 d ∧ d.registry.countByState .active = 1 ∧
      (Operation.switch 2).Succeeds d ∧ (Operation.switch 2).Succeeds d₁ ∧
      d.registry.calls.map (·.state) = [.holding, .holding, .active] ∧
      (d₁.after (.operation (.switch 2))).registry.calls.map (·.state) =
        [.active, .holding, .holding] := by
  intro run d d₁
  have hp : Permits (fun _ _ => True) standard run :=
    ⟨trivial, trivial, trivial, trivial, trivial, trivial, trivial, trivial, trivial, trivial⟩
  have hg : standard.givenAll run = 3 := by decide +kernel
  have hreach := (reach_standard _).all hp
  rw [hg] at hreach
  exact ⟨hreach, by decide +kernel, by decide +kernel, by decide +kernel, by decide +kernel,
    by decide +kernel⟩

end Desk

end Switchboard
