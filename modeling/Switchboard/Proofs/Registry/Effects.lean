import Switchboard.Posture.Basic
import Switchboard.Registry

/-!
# What edits do to the registry

A registered call stands at one place among the calls. An edit changes what stands there and leaves
the calls before and after it alone (`exists_split`, `place_split`).

* `Registry.erase`: the registry after a removal that found its record.
* `Registry.get?_eq_some_iff`: looking a record up finds the one call with the number.
* `Tally.leadingActive?_eq`: the active call with the lowest number is the first active one.
* `Tally.ofCalls_adjust`: the tally depends on nothing but the states and the bearers.
* `videoInUse_adjust`: what is on show depends on nothing but the states and which calls are video
  calls.
-/

namespace Switchboard

namespace Registry

variable {r r' : Registry} {c c' x : Call} {id : CallId} {f : Call → Call}

/-! ## Reading -/

/-- Numbers are not shared. -/
theorem eq_of_id_eq (hc : c ∈ r.calls) (hc' : c' ∈ r.calls) (h : c.id = c'.id) : c = c' := by
  obtain ⟨i, hi, rfl⟩ := List.mem_iff_getElem.mp hc
  obtain ⟨j, hj, rfl⟩ := List.mem_iff_getElem.mp hc'
  have hasc := List.pairwise_iff_getElem.mp r.ascending
  rcases Nat.lt_trichotomy i j with hij | rfl | hij
  · exact absurd h (UInt32.ne_of_lt (hasc i j hi hj hij))
  · rfl
  · exact absurd h.symm (UInt32.ne_of_lt (hasc j i hj hi hij))

/-- A look-up finds the one record with that number. -/
theorem get?_eq_some_iff : r.get? id = some c ↔ c ∈ r.calls ∧ c.id = id := by
  constructor
  · intro h
    exact ⟨List.mem_of_find?_eq_some h, by simpa using List.find?_some h⟩
  · rintro ⟨hc, rfl⟩
    cases hg : r.get? c.id with
    | none =>
      have := List.find?_eq_none.mp hg c hc
      simp at this
    | some c' =>
      have hid : c'.id = c.id := by simpa using List.find?_some hg
      rw [eq_of_id_eq (List.mem_of_find?_eq_some hg) hc hid]

theorem get?_of_mem (h : c ∈ r.calls) : r.get? c.id = some c := get?_eq_some_iff.mpr ⟨h, rfl⟩

theorem require_of_mem (h : c ∈ r.calls) : r.require c.id = .ok c := by
  rw [require, get?_of_mem h]

/-- A number is registered, or no record has it. -/
theorem exists_or_absent (r : Registry) (id : CallId) :
    (∃ c ∈ r.calls, c.id = id) ∨ ∀ c ∈ r.calls, c.id ≠ id := by
  by_cases h : ∃ c ∈ r.calls, c.id = id
  · exact .inl h
  · exact .inr fun c hc hid => h ⟨c, hc, hid⟩

theorem get?_of_absent (h : ∀ c ∈ r.calls, c.id ≠ id) : r.get? id = none :=
  List.find?_eq_none.mpr (by simpa using h)

theorem require_of_absent (h : ∀ c ∈ r.calls, c.id ≠ id) :
    r.require id = .error (.callNotFound id) := by
  rw [require, get?_of_absent h]

/-- The first record that passes a test is the one with the lowest number that does. -/
theorem find?_eq_some_iff {p : Call → Bool} : r.calls.find? p = some c ↔
    c ∈ r.calls ∧ p c = true ∧ ∀ x ∈ r.calls, p x = true → c.id ≤ x.id := by
  have hasc := r.ascending
  unfold Ascending at hasc
  generalize r.calls = calls at hasc
  induction calls with
  | nil => simp
  | cons d rest ih =>
    obtain ⟨hlow, hrest⟩ := List.pairwise_cons.mp hasc
    by_cases hd : p d = true
    · rw [List.find?_cons_of_pos hd]
      constructor
      · rintro ⟨⟩
        refine ⟨List.mem_cons_self, hd, fun x hx _ => ?_⟩
        rcases List.mem_cons.mp hx with rfl | hx
        · exact UInt32.le_refl _
        · exact UInt32.le_of_lt (hlow x hx)
      · rintro ⟨hc, -, hle⟩
        rcases List.mem_cons.mp hc with rfl | hc
        · rfl
        · exact absurd (hlow c hc) (UInt32.not_lt.mpr (hle d List.mem_cons_self hd))
    · rw [List.find?_cons_of_neg hd]
      refine (ih hrest).trans ?_
      simp only [List.mem_cons, forall_eq_or_imp, hd]
      constructor
      · rintro ⟨hc, hp, hle⟩
        exact ⟨.inr hc, hp, nofun, hle⟩
      · rintro ⟨rfl | hc, hp, -, hle⟩
        · exact absurd hp hd
        · exact ⟨hc, hp, hle⟩

/-! ## Changing a record -/

@[simp] theorem modify_calls (r : Registry) (id : CallId) (f : Call → Call) :
    (r.modify id f).calls = adjust id f r.calls := rfl

@[simp] theorem modify_nextId (r : Registry) (id : CallId) (f : Call → Call) :
    (r.modify id f).nextId = r.nextId := rfl

theorem update_of_mem (h : c ∈ r.calls) (f : Call → Call) :
    r.update c.id f = .ok (c, r.modify c.id f) := by
  rw [update, require_of_mem h]

theorem setState_of_mem (h : c ∈ r.calls) (state : CallState) :
    r.setState c.id state = .ok (c.state, r.modify c.id ({ · with state })) := by
  rw [setState, update_of_mem h]

theorem update_of_absent (h : ∀ c ∈ r.calls, c.id ≠ id) (f : Call → Call) :
    r.update id f = .error (.callNotFound id) := by
  rw [update, require_of_absent h]

theorem setState_of_absent (h : ∀ c ∈ r.calls, c.id ≠ id) (state : CallState) :
    r.setState id state = .error (.callNotFound id) := by
  rw [setState, update_of_absent h]

/-- After a change, the record is the changed one, and the others are as they were. -/
theorem mem_adjust {calls : List Call} :
    x ∈ adjust id f calls ↔
      (x ∈ calls ∧ x.id ≠ id) ∨ ∃ c ∈ calls, c.id = id ∧ x = { f c with id := c.id } := by
  unfold adjust
  rw [List.mem_map]
  constructor
  · rintro ⟨c, hc, rfl⟩
    by_cases h : c.id = id
    · rw [if_pos (beq_iff_eq.mpr h)]
      exact .inr ⟨c, hc, h, rfl⟩
    · rw [if_neg (by simpa using h)]
      exact .inl ⟨hc, h⟩
  · rintro (⟨hx, h⟩ | ⟨c, hc, h, rfl⟩)
    · exact ⟨x, hx, if_neg (by simpa using h)⟩
    · exact ⟨c, hc, if_pos (beq_iff_eq.mpr h)⟩

/-- A view of a record that a change keeps is kept of all of them. -/
theorem map_adjust {α : Type} (view : Call → α) {calls : List Call}
    (h : ∀ c, view { f c with id := c.id } = view c) :
    (adjust id f calls).map view = calls.map view := by
  unfold adjust
  rw [List.map_map]
  refine List.map_congr_left fun c _ => ?_
  dsimp only [Function.comp]
  split
  · exact h c
  · rfl

/-- A change of a record keeps every number. -/
theorem ids_adjust {calls : List Call} : (adjust id f calls).map (·.id) = calls.map (·.id) :=
  map_adjust (·.id) fun _ => rfl

/-- A change of a record that is not there changes nothing. -/
theorem adjust_of_ne {calls : List Call} (h : ∀ c ∈ calls, c.id ≠ id) :
    adjust id f calls = calls := by
  unfold adjust
  rw [List.map_congr_left (g := fun c => c) fun c hc => if_neg (by simpa using h c hc)]
  exact List.map_id _

/-- The changed record is looked up as it was changed. -/
theorem get?_modify_self (h : c ∈ r.calls) (f : Call → Call) :
    (r.modify c.id f).get? c.id = some { f c with id := c.id } :=
  get?_of_mem (r := r.modify c.id f) (c := { f c with id := c.id })
    (mem_adjust.mpr (.inr ⟨c, h, rfl, rfl⟩))

/-- Another record is looked up as before. -/
theorem get?_modify_of_ne {id' : CallId} (h : id' ≠ id) (f : Call → Call) :
    (r.modify id f).get? id' = r.get? id' := by
  refine Option.ext fun c => ?_
  rw [get?_eq_some_iff, get?_eq_some_iff, modify_calls, mem_adjust]
  constructor
  · rintro ⟨⟨hc, -⟩ | ⟨c, -, hid, rfl⟩, rfl⟩
    · exact ⟨hc, rfl⟩
    · exact absurd hid h
  · rintro ⟨hc, rfl⟩
    exact ⟨.inl ⟨hc, h⟩, rfl⟩

/-! ## Removing a record -/

theorem ascending_filter (r : Registry) (id : CallId) :
    Ascending (r.calls.filter (·.id != id)) := r.ascending.filter _

/-- The registry without the record `id`, which counts as removed. -/
def erase (r : Registry) (id : CallId) : Registry :=
  { r with
    calls := r.calls.filter (·.id != id)
    removed := r.removed + 1
    ascending := ascending_filter r id }

theorem remove_of_mem (h : c ∈ r.calls) : r.remove c.id = some (c, r.erase c.id) := by
  rw [remove, get?_of_mem h]
  rfl

theorem remove_of_absent (h : ∀ c ∈ r.calls, c.id ≠ id) : r.remove id = none := by
  rw [remove, get?_of_absent h]

@[simp] theorem erase_nextId (r : Registry) (id : CallId) : (r.erase id).nextId = r.nextId := rfl

theorem mem_erase : x ∈ (r.erase id).calls ↔ x ∈ r.calls ∧ x.id ≠ id := by
  simp [erase]

/-- A removed record is not found. -/
theorem get?_erase_self (r : Registry) (id : CallId) : (r.erase id).get? id = none :=
  get?_of_absent fun _ hc => (mem_erase.mp hc).2

theorem get?_erase_of_ne {id' : CallId} (h : id' ≠ id) : (r.erase id).get? id' = r.get? id' := by
  refine Option.ext fun c => ?_
  rw [get?_eq_some_iff, get?_eq_some_iff, mem_erase]
  constructor
  · rintro ⟨⟨hc, -⟩, hid⟩
    exact ⟨hc, hid⟩
  · rintro ⟨hc, rfl⟩
    exact ⟨⟨hc, h⟩, rfl⟩

/-- What was changed about a record does not matter once it is removed. -/
theorem filter_adjust (id : CallId) (f : Call → Call) (calls : List Call) :
    (adjust id f calls).filter (·.id != id) = calls.filter (·.id != id) := by
  induction calls with
  | nil => rfl
  | cons c rest ih =>
    have hcons : adjust id f (c :: rest) =
      (if c.id == id then { f c with id := c.id } else c) :: adjust id f rest := rfl
    by_cases h : c.id = id
    · rw [hcons, if_pos (beq_iff_eq.mpr h), List.filter_cons_of_neg (by simp [h]),
        List.filter_cons_of_neg (by simp [h]), ih]
    · rw [hcons, if_neg (by simpa using h), List.filter_cons_of_pos (by simpa using h),
        List.filter_cons_of_pos (by simpa using h), ih]

theorem erase_modify (r : Registry) (id : CallId) (f : Call → Call) :
    (r.modify id f).erase id = r.erase id := by
  unfold erase
  congr 1
  exact filter_adjust id f r.calls

/-! ## Adding a record -/

/-- A new record is placed, and the counter is left alone. -/
theorem insert_eq_ok (h : r.insert c = .ok r') :
    r'.calls = place c r.calls ∧ r'.nextId = r.nextId ∧ ∀ x ∈ r.calls, x.id ≠ c.id := by
  unfold insert at h
  split at h
  · cases h
  · rename_i hc
    cases h
    exact ⟨rfl, rfl, contains_eq_false (by simpa using hc)⟩

theorem get?_insert_self (h : r.insert c = .ok r') : r'.get? c.id = some c :=
  get?_of_mem (by rw [(insert_eq_ok h).1]; exact mem_place.mpr (.inl rfl))

theorem get?_insert_of_ne (h : r.insert c = .ok r') (hid : id ≠ c.id) :
    r'.get? id = r.get? id := by
  refine Option.ext fun x => ?_
  rw [get?_eq_some_iff, get?_eq_some_iff, (insert_eq_ok h).1, mem_place]
  constructor
  · rintro ⟨rfl | hx, rfl⟩
    · exact absurd rfl hid
    · exact ⟨hx, rfl⟩
  · rintro ⟨hx, rfl⟩
    exact ⟨.inr hx, rfl⟩

/-- A record is registered if its number is not taken. -/
theorem insert_of_absent (h : ∀ x ∈ r.calls, x.id ≠ c.id) :
    ∃ r', r.insert c = .ok r' ∧ r'.created = r.created + 1 ∧ r'.removed = r.removed := by
  have hc : ¬r.contains c.id = true := by simpa [contains] using h
  exact ⟨_, dif_neg hc, rfl, rfl⟩

/-- A record is turned away only because its number is taken. -/
theorem insert_eq_error {e : CallError} (h : r.insert c = .error e) :
    e = .internal s!"call {c.id.toNat} is already registered" := by
  unfold insert at h
  split at h
  · cases h
    rfl
  · cases h

/-! ## The place of a record -/

/-- A registered call stands between the calls that its edits leave alone. -/
theorem exists_split (h : c ∈ r.calls) :
    ∃ before after, r.calls = before ++ [c] ++ after ∧
      (∀ f, adjust c.id f r.calls = before ++ [{ f c with id := c.id }] ++ after) ∧
      (r.erase c.id).calls = before ++ after := by
  -- The record is somewhere in the list; in ascending order no other has its number.
  obtain ⟨before, after, he⟩ := List.append_of_mem h
  have hasc := r.ascending
  unfold Ascending at hasc
  rw [he, List.pairwise_append] at hasc
  obtain ⟨-, hafter, hbefore⟩ := hasc
  have hb : ∀ d ∈ before, d.id ≠ c.id := fun d hd =>
    UInt32.ne_of_lt (hbefore d hd c (by simp))
  have ha : ∀ d ∈ after, d.id ≠ c.id := fun d hd =>
    (UInt32.ne_of_lt (List.rel_of_pairwise_cons hafter hd)).symm
  refine ⟨before, after, by simp [he], fun f => ?_, ?_⟩
  · have hcons : adjust c.id f (c :: after) = { f c with id := c.id } :: adjust c.id f after := by
      simp [adjust]
    rw [he, show adjust c.id f (before ++ c :: after) =
      adjust c.id f before ++ adjust c.id f (c :: after) from List.map_append, hcons,
      adjust_of_ne hb, adjust_of_ne ha, List.append_assoc, List.singleton_append]
  · show r.calls.filter (·.id != c.id) = before ++ after
    rw [he, List.filter_append, List.filter_eq_self.mpr (by simpa using hb)]
    rw [List.filter_cons_of_neg (by simp), List.filter_eq_self.mpr (by simpa using ha)]

/-- A new record stands between calls that stay as they are. -/
theorem place_split (c : Call) (calls : List Call) :
    ∃ before after, calls = before ++ after ∧ place c calls = before ++ [c] ++ after := by
  induction calls with
  | nil => exact ⟨[], [], rfl, rfl⟩
  | cons d rest ih =>
    unfold place
    split
    · exact ⟨[], d :: rest, rfl, rfl⟩
    · obtain ⟨before, after, hr, hp⟩ := ih
      exact ⟨d :: before, after, by rw [hr]; rfl, by rw [hp]; rfl⟩

/-- A new record that is removed again leaves the others as they were. -/
theorem filter_place {calls : List Call} (h : ∀ x ∈ calls, x.id ≠ c.id) :
    (place c calls).filter (·.id != c.id) = calls := by
  obtain ⟨before, after, rfl, hp⟩ := place_split c calls
  have hb : ∀ x ∈ before, x.id ≠ c.id := fun x hx => h x (by simp [hx])
  have ha : ∀ x ∈ after, x.id ≠ c.id := fun x hx => h x (by simp [hx])
  rw [hp, List.append_assoc, List.filter_append, List.filter_eq_self.mpr (by simpa using hb),
    List.singleton_append, List.filter_cons_of_neg (by simp),
    List.filter_eq_self.mpr (by simpa using ha)]

/-- A record whose number is greater than all others comes last. -/
theorem place_of_lt {calls : List Call} (h : ∀ d ∈ calls, d.id < c.id) :
    place c calls = calls ++ [c] := by
  induction calls with
  | nil => rfl
  | cons d rest ih =>
    have hd : ¬c.id < d.id := UInt32.not_lt.mpr (UInt32.le_of_lt (h d (by simp)))
    rw [place, if_neg hd, ih fun x hx => h x (by simp [hx])]
    rfl

end Registry

/-! ## The leading active call -/

namespace Tally

/-- Whether `c` takes the lead from the active call `lead`. -/
def overtakes (lead : Option Call) (c : Call) : Option Call :=
  if c.state == .active && lead.all (c.id < ·.id) then some c else lead

/-- Nobody with a greater number takes the lead. -/
theorem foldl_overtakes {lead : Call} {calls : List Call}
    (h : ∀ c ∈ calls, lead.id < c.id) : calls.foldl overtakes (some lead) = some lead := by
  induction calls with
  | nil => rfl
  | cons c rest ih =>
    have hc : ¬c.id < lead.id := UInt32.not_lt.mpr (UInt32.le_of_lt (h c (by simp)))
    rw [List.foldl_cons, show overtakes (some lead) c = some lead by simp [overtakes, hc]]
    exact ih fun x hx => h x (by simp [hx])

/-- In increasing order of the numbers, the first active call is the one with the lowest. -/
theorem leadingActive?_eq {calls : List Call} (h : Ascending calls) :
    leadingActive? calls = (calls.filter (·.state == .active)).head? := by
  show calls.foldl overtakes none = _
  induction calls with
  | nil => rfl
  | cons c rest ih =>
    obtain ⟨hlow, hrest⟩ := List.pairwise_cons.mp h
    by_cases hc : c.state = .active
    · rw [List.foldl_cons, show overtakes none c = some c by simp [overtakes, hc],
        foldl_overtakes hlow]
      simp [hc]
    · rw [List.foldl_cons, show overtakes none c = none by simp [overtakes, hc], ih hrest]
      simp [hc]

/-- The lead among the active calls is the one that no other has a lower number than. -/
theorem leadingActive?_eq_some {calls : List Call} (h : Ascending calls) {c : Call}
    (hc : c ∈ calls) (ha : c.state = .active)
    (hlow : ∀ x ∈ calls, x.state = .active → c.id ≤ x.id) : leadingActive? calls = some c := by
  rw [leadingActive?_eq h]
  have hm : c ∈ calls.filter (·.state == .active) := by simp [hc, ha]
  have hs : (calls.filter (·.state == .active)).Pairwise fun a b => a.id < b.id := h.filter _
  cases hf : calls.filter (·.state == .active) with
  | nil =>
    rw [hf] at hm
    cases hm
  | cons x rest =>
    rw [hf] at hm hs
    rcases List.mem_cons.mp hm with rfl | hm
    · rfl
    · have hx : x ∈ calls.filter (·.state == .active) := by simp [hf]
      have hxa : x ∈ calls ∧ x.state = .active := by simpa using hx
      have hlt := List.rel_of_pairwise_cons hs hm
      exact absurd hlt (UInt32.not_lt.mpr (hlow x hxa.1 hxa.2))

theorem overtakes_map {g : Call → Call} (hid : ∀ c, (g c).id = c.id)
    (hstate : ∀ c, (g c).state = c.state) (lead : Option Call) (c : Call) :
    overtakes (lead.map g) (g c) = (overtakes lead c).map g := by
  unfold overtakes
  cases lead with
  | none =>
    simp only [Option.map_none, Option.all_none, hstate]
    split <;> rfl
  | some l =>
    simp only [Option.map_some, Option.all_some, hstate, hid]
    split <;> rfl

/-- A change of records that keeps their numbers and their states keeps the lead. -/
theorem leadingActive?_map {g : Call → Call} (hid : ∀ c, (g c).id = c.id)
    (hstate : ∀ c, (g c).state = c.state) (calls : List Call) :
    leadingActive? (calls.map g) = (leadingActive? calls).map g := by
  suffices h : ∀ lead : Option Call,
      (calls.map g).foldl overtakes (lead.map g) = (calls.foldl overtakes lead).map g from h none
  induction calls with
  | nil => exact fun _ => rfl
  | cons c rest ih =>
    intro lead
    rw [List.map_cons, List.foldl_cons, List.foldl_cons, ← ih, overtakes_map hid hstate]

/-- The tally does not notice an edit that keeps the states and the bearers. -/
theorem ofCalls_adjust {f : Call → Call} (hstate : ∀ c, (f c).state = c.state)
    (hbearer : ∀ c, (f c).bearer = c.bearer) (id : CallId) (calls : List Call) :
    ofCalls (Registry.adjust id f calls) = ofCalls calls := by
  have hs (c : Call) : (if c.id == id then { f c with id := c.id } else c).state = c.state := by
    split
    · exact hstate c
    · rfl
  have hb (c : Call) : (if c.id == id then { f c with id := c.id } else c).bearer = c.bearer := by
    split
    · exact hbearer c
    · rfl
  have hi (c : Call) : (if c.id == id then { f c with id := c.id } else c).id = c.id := by
    split <;> rfl
  unfold ofCalls Registry.adjust
  simp only [List.countP_map, leadingActive?_map hi hs, Option.map_map, Function.comp_def, hs, hb]

end Tally

/-! ## The foreground -/

section

variable {calls : List Call} {g : Call → Call}

/-- The call that comes to the foreground once `c` is looked at. -/
def outranks (best : Option Call) (c : Call) : Option Call :=
  match best with
  | some b => if c.precedes b then some c else some b
  | none => if c.state.isTerminal then none else some c

theorem foreground?_eq (calls : List Call) : foreground? calls = calls.foldl outranks none := rfl

theorem outranks_eq_or (best : Option Call) (c : Call) :
    outranks best c = best ∨ outranks best c = some c := by
  unfold outranks
  split <;> split <;> simp

/-- The foreground call is one of the calls. -/
theorem mem_of_foreground? {c : Call} (h : foreground? calls = some c) : c ∈ calls := by
  -- The fold starts from an arbitrary call, so that the induction goes through.
  suffices hfold : ∀ best : Option Call, calls.foldl outranks best = some c →
      best = some c ∨ c ∈ calls by
    rw [foreground?_eq] at h
    rcases hfold none h with hn | hc
    · cases hn
    · exact hc
  clear h
  induction calls with
  | nil => exact fun _ => .inl
  | cons x rest ih =>
    intro best hbest
    rcases ih _ hbest with hx | hc
    · rcases outranks_eq_or best x with he | he <;> rw [he] at hx
      · exact .inl hx
      · exact .inr (Option.some.inj hx ▸ List.mem_cons_self)
    · exact .inr (List.mem_cons_of_mem _ hc)

/-- A change of records that keeps their numbers and their states keeps the foreground. -/
theorem foreground?_map (h : ∀ c ∈ calls, (g c).id = c.id ∧ (g c).state = c.state) :
    foreground? (calls.map g) = (foreground? calls).map g := by
  suffices hfold : ∀ best : Option Call, (∀ b, best = some b → (g b).id = b.id ∧
      (g b).state = b.state) → (calls.map g).foldl outranks (best.map g) =
        (calls.foldl outranks best).map g by
    rw [foreground?_eq, foreground?_eq]
    exact hfold none fun _ hb => nomatch hb
  induction calls with
  | nil => exact fun _ _ => rfl
  | cons c rest ih =>
    intro best hbest
    obtain ⟨hid, hstate⟩ := h c List.mem_cons_self
    have hstep : outranks (best.map g) (g c) = (outranks best c).map g := by
      cases best with
      | none =>
        unfold outranks
        simp only [Option.map_none, hstate]
        split <;> rfl
      | some b =>
        obtain ⟨hbid, hbstate⟩ := hbest b rfl
        have hprecedes : (g c).precedes (g b) = c.precedes b := by
          unfold Call.precedes
          rw [hid, hstate, hbid, hbstate]
        unfold outranks
        simp only [Option.map_some, hprecedes]
        split <;> rfl
    rw [List.map_cons, List.foldl_cons, List.foldl_cons, hstep]
    refine ih (fun x hx => h x (List.mem_cons_of_mem _ hx)) _ fun b hb => ?_
    rcases outranks_eq_or best c with he | he <;> rw [he] at hb
    · exact hbest b hb
    · exact Option.some.inj hb ▸ ⟨hid, hstate⟩

/-- Video is on show if an active call or the foreground call is a video call. -/
theorem videoInUse_iff : videoInUse calls = true ↔
    ∃ c ∈ calls, c.video = .twoWay ∧ (c.state = .active ∨ foreground? calls = some c) := by
  unfold videoInUse VideoState.isVideoCall
  simp only [Bool.or_eq_true, List.any_eq_true, Bool.and_eq_true, beq_iff_eq, Option.any_eq_true]
  constructor
  · rintro (⟨c, hc, ha, hv⟩ | ⟨c, hc, hv⟩)
    · exact ⟨c, hc, hv, .inl ha⟩
    · exact ⟨c, mem_of_foreground? hc, hv, .inr hc⟩
  · rintro ⟨c, hc, hv, ha | hf⟩
    · exact .inl ⟨c, hc, ha, hv⟩
    · exact .inr ⟨c, hf, hv⟩

/-- An edit that keeps the state of a call, and whether it is a video call, changes nothing that is
on show. -/
theorem videoInUse_adjust {id : CallId} {f : Call → Call} (h : ∀ c ∈ calls, c.id = id →
    (f c).state = c.state ∧ (f c).video.isVideoCall = c.video.isVideoCall) :
    videoInUse (Registry.adjust id f calls) = videoInUse calls := by
  unfold Registry.adjust
  generalize hg : (fun c : Call => if c.id == id then { f c with id := c.id } else c) = g
  have hkeeps : ∀ c ∈ calls, (g c).id = c.id ∧ (g c).state = c.state ∧
      (g c).video.isVideoCall = c.video.isVideoCall := by
    intro c hc
    rw [← hg]
    dsimp only
    split
    · rename_i hid
      exact ⟨rfl, h c hc (by simpa using hid)⟩
    · exact ⟨rfl, rfl, rfl⟩
  unfold videoInUse
  rw [foreground?_map fun c hc => ⟨(hkeeps c hc).1, (hkeeps c hc).2.1⟩, List.any_map]
  congr 1
  · rw [Bool.eq_iff_iff, List.any_eq_true, List.any_eq_true]
    refine exists_congr fun c => and_congr_right fun hc => ?_
    simp only [Function.comp_apply, (hkeeps c hc).2.1, (hkeeps c hc).2.2]
  · cases hf : foreground? calls with
    | none => rfl
    | some c => simp [(hkeeps c (mem_of_foreground? hf)).2.2]

end

end Switchboard
