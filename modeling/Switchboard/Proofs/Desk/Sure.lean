import Switchboard.Proofs.Desk.Edits

/-!
# What cannot fail

A registered call can always be edited. `x.Sure d Q` says that `x` does not fail at the desk `d`;
the lemmas `sure_*` say so of each edit, and keep track of the numbers that are registered
(`Desk.ids`). So once telephony has complied, a request goes through.

Edits of several calls in a row come to one edit of all records: `setStates_puts` for calls that are
put into a state, `dissolveIfSingle_leaves` for what is left of a conference.
-/

namespace Switchboard

namespace DeskM

variable {α β : Type} {x : DeskM α} {d : Desk} {Q Q' : Desk → Prop}

/-- `x` does not fail at `d`, and `Q` holds of the desk afterwards. -/
def Sure (x : DeskM α) (d : Desk) (Q : Desk → Prop) : Prop :=
  x.Ends d (fun _ => Q) fun _ _ => False

theorem Sure.mono (h : x.Sure d Q) (hQ : ∀ d', Q d' → Q' d') : x.Sure d Q' :=
  Ends.mono h (fun _ => hQ) fun _ _ => id

/-- What cannot fail can be followed by what cannot fail after it. -/
theorem Sure.bind {f : α → DeskM β} (hx : x.Sure d Q) (hf : ∀ a d', Q d' → (f a).Sure d' Q') :
    (x >>= f).Sure d Q' :=
  (ends_bind f).mpr (Ends.mono hx hf fun _ _ => id)

theorem Sure.discard_bind {y : DeskM β} (hx : x.Sure d Q) (hy : ∀ d', Q d' → y.Sure d' Q') :
    (do discard x; y).Sure d Q' :=
  (ends_bind _).mpr (ends_discard.mpr (Ends.mono hx (fun _ => hy) fun _ _ => id))

/-- Whatever follows what cannot fail ends as it does there. -/
theorem Sure.ends_bind (hx : x.Sure d Q) {f : α → DeskM β} {R : β → Desk → Prop}
    {E : CallError → Desk → Prop} (hf : ∀ a d', Q d' → (f a).Ends d' R E) :
    (x >>= f).Ends d R E :=
  (DeskM.ends_bind f).mpr (Ends.mono hx hf fun _ _ => False.elim)

/-- What cannot fail needs no account of its failures. -/
theorem Sure.ends (h : x.Sure d Q) {E : CallError → Desk → Prop} :
    x.Ends d (fun _ _ => True) E := Ends.mono h (fun _ _ _ => trivial) fun _ _ => False.elim

/-- Nothing can be said against how `x` ends. -/
theorem ends_any (x : DeskM α) (d : Desk) : x.Ends d (fun _ _ => True) fun _ _ => True := by
  unfold Ends
  split <;> trivial

end DeskM

namespace Desk

open DeskM

variable {d d' : Desk} {c x : Call} {id main : CallId} {calls : List Call}

/-! ## Edits that cannot fail -/

/-- The registered numbers. -/
def ids (d : Desk) : List CallId := d.registry.calls.map (·.id)

theorem id_mem_ids (h : c ∈ d.registry.calls) : c.id ∈ d.ids := List.mem_map_of_mem h

/-- No number is registered twice. -/
theorem nodup_ids (d : Desk) : d.ids.Nodup := by
  refine List.pairwise_map.mpr (d.registry.ascending.imp fun h => ?_)
  exact UInt32.ne_of_lt h

@[simp] theorem ids_telephoned (d : Desk) (command : Command) :
    (d.telephoned command).ids = d.ids := by
  rw [ids, registry_telephoned, ids]

@[simp] theorem ids_amended (d : Desk) (id : CallId) (f : Call → Call) :
    (d.amended id f).ids = d.ids := Registry.ids_adjust

/-- A record that is there can be amended, and keeps its number. -/
theorem sure_amend (h : id ∈ d.ids) (f : Call → Call) :
    (amend id f).Sure d fun d' => d'.ids = d.ids := by
  obtain ⟨c, hc, rfl⟩ := List.mem_map.mp h
  exact (ends_amend_of_mem hc).mpr (ids_amended d c.id f)

/-- To unregister a call cannot fail, whether it is there or not. -/
theorem sure_unregister (id : CallId) (d : Desk) : (unregister id).Sure d fun _ => True :=
  ends_unregister (fun _ _ _ => trivial) fun _ => trivial

theorem sure_finish (h : id ∈ d.ids) (ended : EndReason) :
    (finish id ended).Sure d fun _ => True := by
  obtain ⟨c, hc, rfl⟩ := List.mem_map.mp h
  exact (ends_finish_of_mem hc).mpr trivial

theorem sure_videoChanged (h : id ∈ d.ids) (old new : VideoState) :
    (videoChanged id old new).Sure d fun _ => True := by
  obtain ⟨c, hc, rfl⟩ := List.mem_map.mp h
  exact (ends_videoChanged hc).mpr trivial

/-! ## Edits of many records -/

/-- A record, put into another state if its number is among `ids`. -/
def putAmong (ids : List CallId) (next : CallState) (x : Call) : Call :=
  if x.id ∈ ids then { x with state := next } else x

/-- A record of the conference `main`, whose members are left in `left`. -/
def leftIn (main : CallId) (left : Option CallId) (x : Call) : Call :=
  if x.conference = some main then { x with conference := left } else x

theorem putAmong_of_mem {ids : List CallId} (h : x.id ∈ ids) (next : CallState) :
    putAmong ids next x = { x with state := next } := if_pos h

theorem putAmong_of_not_mem {ids : List CallId} (h : x.id ∉ ids) (next : CallState) :
    putAmong ids next x = x := if_neg h

@[simp] theorem putAmong_id (ids : List CallId) (next : CallState) (x : Call) :
    (putAmong ids next x).id = x.id := by
  unfold putAmong
  split <;> rfl

@[simp] theorem putAmong_conference (ids : List CallId) (next : CallState) (x : Call) :
    (putAmong ids next x).conference = x.conference := by
  unfold putAmong
  split <;> rfl

theorem leftIn_of_eq (h : x.conference = some main) (left : Option CallId) :
    leftIn main left x = { x with conference := left } := if_pos h

theorem leftIn_of_ne (h : x.conference ≠ some main) (left : Option CallId) :
    leftIn main left x = x := if_neg h

@[simp] theorem leftIn_id (main : CallId) (left : Option CallId) (x : Call) :
    (leftIn main left x).id = x.id := by
  unfold leftIn
  split <;> rfl

/-- A record of the conference names what is left of it; any other record names what it did before.
-/
theorem leftIn_conference (main : CallId) (left : Option CallId) (x : Call) :
    (leftIn main left x).conference = if x.conference = some main then left else x.conference := by
  unfold leftIn
  split <;> rfl

/-- An edit of all records that keeps each number keeps the numbers. -/
theorem ids_of_map {g : Call → Call} (h : d'.registry.calls = d.registry.calls.map g)
    (hg : ∀ x, (g x).id = x.id) : d'.ids = d.ids := by
  unfold ids
  rw [h, List.map_map]
  exact List.map_congr_left fun x _ => hg x

/-- A registered call can be put into every state, and no other record changes. -/
theorem setState_puts (next : CallState) (h : id ∈ d.ids) :
    (setState id next).Sure d fun d' =>
      d'.registry.calls = d.registry.calls.map (putAmong [id] next) := by
  obtain ⟨c, hc, rfl⟩ := List.mem_map.mp h
  refine (ends_setState_of_mem hc).mpr ?_
  rw [registry_moved]
  refine List.map_congr_left fun x _ => ?_
  by_cases hx : x.id = c.id <;> simp [putAmong, hx]

/-- Calls that are put into a state one after the other are all in it in the end. -/
theorem setStates_puts (next : CallState) {calls : List Call} (h : ∀ p ∈ calls, p.id ∈ d.ids) :
    (setStates next calls).Sure d fun d' =>
      d'.registry.calls = d.registry.calls.map (putAmong (calls.map (·.id)) next) := by
  induction calls generalizing d with
  | nil => exact (List.map_id' d.registry.calls).symm
  | cons p rest ih =>
    refine (setState_puts next (h p (by simp))).bind fun _ d₁ h₁ => ?_
    refine (ih fun q hq => ?_).mono fun d₂ h₂ => ?_
    -- The rest of the calls is still registered, since a change of state keeps the numbers.
    · rw [ids_of_map h₁ (putAmong_id [p.id] next)]
      exact h q (by simp [hq])
    rw [h₂, h₁, List.map_map]
    refine List.map_congr_left fun x _ => ?_
    by_cases hx : x.id = p.id <;> simp [putAmong, hx]

/-- The members of a conference are the records that name it. -/
theorem mem_members : x ∈ members d.registry main ↔
    x ∈ d.registry.calls ∧ x.conference = some main := by
  simp [members]

/-- All that is left of a conference stays in it, unless it is one call. -/
theorem dissolveIfSingle_leaves (main : CallId) (d : Desk) :
    (dissolveIfSingle main).Sure d fun d' => d'.registry.calls = d.registry.calls.map
      (leftIn main (if (members d.registry main).length = 1 then none else some main)) := by
  refine (ends_bind _).mpr (ends_get.mpr ?_)
  split
  · rename_i last hs
    obtain ⟨hc, hm⟩ := mem_members.mp (show last ∈ members d.registry main by simp [hs])
    have hlast (x : Call) (hx : x ∈ d.registry.calls) :
        x.conference = some main ↔ x.id = last.id := by
      constructor
      · intro hxm
        have hx : x ∈ members d.registry main := mem_members.mpr ⟨hx, hxm⟩
        rw [hs, List.mem_singleton] at hx
        rw [hx]
      · intro hid
        rwa [Registry.eq_of_id_eq hx hc hid]
    -- The last member is amended by its number; it is the only record that `leftIn` changes, since
    -- no other one is in the conference.
    refine ends_discard.mpr ((ends_amend_of_mem hc).mpr (List.map_congr_left fun x hx => ?_))
    simp [leftIn, hlast x hx, hs]
  · rename_i hs
    rw [if_neg fun hl => (List.length_eq_one_iff.mp hl).elim hs]
    refine (List.map_id' d.registry.calls).symm.trans (List.map_congr_left fun x _ => ?_)
    unfold leftIn
    split
    · rename_i hm
      rw [← hm]
    · rfl

/-! ## Many edits that cannot fail -/

theorem sure_setState (h : id ∈ d.ids) (next : CallState) :
    (setState id next).Sure d fun d' => d'.ids = d.ids :=
  (setState_puts next h).mono fun _ h' => ids_of_map h' (putAmong_id [id] next)

/-- The numbers survive a change of the states of many calls. -/
theorem sure_setStates (next : CallState) (h : ∀ c ∈ calls, c.id ∈ d.ids) :
    (setStates next calls).Sure d fun d' => d'.ids = d.ids :=
  (setStates_puts next h).mono fun _ h' => ids_of_map h' (putAmong_id _ next)

theorem sure_dissolveIfSingle (main : CallId) (d : Desk) :
    (dissolveIfSingle main).Sure d fun d' => d'.ids = d.ids :=
  (dissolveIfSingle_leaves main d).mono fun _ h' => ids_of_map h' (leftIn_id main _)

/-- Calls can be held back, one after the other. -/
theorem sure_keepHeld (h : ∀ c ∈ calls, c.id ∈ d.ids) :
    (keepHeld calls).Sure d fun d' => d'.ids = d.ids := by
  induction calls generalizing d with
  | nil => exact rfl
  | cons c rest ih =>
    refine (sure_amend (h c (by simp)) _).discard_bind fun d₁ h₁ => ?_
    have hrest : ∀ x ∈ rest, x.id ∈ d₁.ids := fun x hx => h₁ ▸ h x (by simp [hx])
    exact (ih hrest).mono fun d₂ h₂ => h₂.trans h₁

/-- Calls can be brought into a conference, one after the other: each one's record names it, and
then the call becomes active. -/
theorem sure_joinPeers (main : CallId) (h : ∀ c ∈ calls, c.id ∈ d.ids) :
    (joinPeers main calls).Sure d fun d' => d'.ids = d.ids := by
  induction calls generalizing d with
  | nil => exact rfl
  | cons c rest ih =>
    refine (sure_amend (h c (by simp)) _).discard_bind fun d₁ h₁ => ?_
    refine (sure_setState (h₁ ▸ h c (by simp)) .active).bind fun _ d₂ h₂ => ?_
    have hids : d₂.ids = d.ids := h₂.trans h₁
    have hrest : ∀ x ∈ rest, x.id ∈ d₂.ids := fun x hx => hids ▸ h x (by simp [hx])
    exact (ih hrest).mono fun d₃ h₃ => h₃.trans hids

end Desk

end Switchboard
