import Mathlib.Data.Finmap
import Mathlib.Data.List.Sort
import Switchboard.Proofs.Call.Foreground
import Switchboard.Registry.Operation

/-!
# The registry as a table

A registry keeps its records in a list, in the order of their numbers. What it stands for is a
table: a finite map from numbers to records, whose entries are in no order, with the same books.

* `CallTable`: the table. `CallTable.values` are its records, as a multiset.
* `Registry.Change`: what can be done to a registry. `Registry.apply` and `CallTable.apply` give the
  answer and what is there afterwards.
* `Registry.table`: the table of a registry. A change of the registry is the change of its table,
  and has the same answer (`apply_table`), and so is a run (`run_table`).
* `Registry.Reads r records`: all that can be read off `r` is what `records` say, in whatever order
  they come.
* `Registry.Refuses`: what fails, and that nothing changes then.
-/

namespace Switchboard

/-- What can be done to a registry. A record may be changed in every way but its number. -/
inductive Registry.Change where
  | allocate
  | insert (c : Call)
  | update (id : CallId) (f : Call → Call) (keeps : ∀ c, (f c).id = c.id)
  | setState (id : CallId) (state : CallState)
  | remove (id : CallId)

/-! ## Tables -/

/-- A finite map from numbers to records, and its books. -/
structure CallTable where
  records : Finmap fun _ : CallId => Call
  /-- The number that the next call gets. -/
  nextId : CallId
  /-- How many records were ever put in. -/
  created : Nat
  /-- How many records were ever taken out. -/
  removed : Nat

namespace CallTable

/-- A table without records; the first number is one. -/
def empty : CallTable := ⟨∅, 1, 0, 0⟩

/-- The records, in no order. -/
def values (t : CallTable) : Multiset Call := t.records.entries.map (·.2)

/-- Carries a change out. -/
def apply (t : CallTable) : Registry.Change → RegistryReply × CallTable
  | .allocate => (.id t.nextId, { t with nextId := t.nextId + 1 })
  | .insert c =>
    if c.id ∈ t.records then
      (.done (.error (.internal s!"call {c.id.toNat} is already registered")), t)
    else
      (.done (.ok ()),
        { t with records := t.records.insert c.id c, created := t.created + 1 })
  | .update id f _ =>
    match t.records.lookup id with
    | some c => (.required (.ok c), { t with records := t.records.insert id (f c) })
    | none => (.required (.error (.callNotFound id)), t)
  | .setState id state =>
    match t.records.lookup id with
    | some c => (.wasIn (.ok c.state), { t with records := t.records.insert id { c with state } })
    | none => (.wasIn (.error (.callNotFound id)), t)
  | .remove id =>
    match t.records.lookup id with
    | some c =>
      (.found (some c), { t with records := t.records.erase id, removed := t.removed + 1 })
    | none => (.found none, t)

/-- Carries changes out one after the other, and gives the answer to each. -/
def run (t : CallTable) : List Registry.Change → List RegistryReply × CallTable
  | [] => ([], t)
  | change :: rest =>
    ((t.apply change).1 :: ((t.apply change).2.run rest).1, ((t.apply change).2.run rest).2)

end CallTable

namespace Registry

variable {r r' : Registry} {c : Call} {id : CallId} {records : List Call}

/-- Carries a change out. -/
def apply (r : Registry) : Change → RegistryReply × Registry
  | .allocate => RegistryOperation.allocate.perform r
  | .insert c => (RegistryOperation.insert c).perform r
  | .update id f _ =>
    match r.update id f with
    | .ok (c, r) => (.required (.ok c), r)
    | .error e => (.required (.error e), r)
  | .setState id state => (RegistryOperation.setState id state).perform r
  | .remove id => (RegistryOperation.remove id).perform r

/-- Carries changes out one after the other, and gives the answer to each. -/
def run (r : Registry) : List Change → List RegistryReply × Registry
  | [] => ([], r)
  | change :: rest =>
    ((r.apply change).1 :: ((r.apply change).2.run rest).1, ((r.apply change).2.run rest).2)

/-! ## The table of a registry -/

/-- The list has no number twice, since the numbers ascend. -/
theorem nodup_ids (r : Registry) : (r.calls.map (·.id)).Nodup :=
  List.Pairwise.map _ (fun _ _ => UInt32.ne_of_lt) r.ascending

/-- A record under its number. -/
def entry (c : Call) : Sigma fun _ : CallId => Call := ⟨c.id, c⟩

theorem nodupKeys_entries (r : Registry) : (r.calls.map entry).NodupKeys := by
  rw [List.NodupKeys, List.keys, List.map_map]
  exact r.nodup_ids

/-- The table that a registry stands for. -/
def table (r : Registry) : CallTable :=
  ⟨⟨.ofList (r.calls.map entry), r.nodupKeys_entries⟩, r.nextId, r.created, r.removed⟩

theorem values_table (r : Registry) : r.table.values = r.calls := by
  show (Multiset.ofList (r.calls.map entry)).map Sigma.snd = _
  rw [Multiset.map_coe, List.map_map]
  exact congrArg _ (List.map_id r.calls)

theorem lookup_table (r : Registry) (id : CallId) : r.table.records.lookup id = r.get? id := by
  refine Option.ext fun c => ?_
  rw [Finmap.lookup_eq_some_iff, get?_eq_some_iff]
  show _ ∈ Multiset.ofList (r.calls.map entry) ↔ _
  rw [Multiset.mem_coe, List.mem_map]
  constructor
  · rintro ⟨c', hc, he⟩
    cases he
    exact ⟨hc, rfl⟩
  · rintro ⟨hc, rfl⟩
    exact ⟨c, hc, rfl⟩

theorem mem_table_iff : id ∈ r.table.records ↔ r.contains id = true := by
  rw [← Finmap.lookup_isSome, lookup_table]
  unfold get? contains
  simp

/-- A registry has the table whose records it finds under their numbers, and whose books are its
own. -/
theorem table_eq {t : CallTable} (hr : ∀ id, r.get? id = t.records.lookup id)
    (hn : r.nextId = t.nextId) (hc : r.created = t.created) (hd : r.removed = t.removed) :
    r.table = t := by
  have he : r.table.records = t.records := Finmap.ext_lookup fun id => by rw [lookup_table, hr]
  show (⟨r.table.records, r.nextId, r.created, r.removed⟩ : CallTable) = t
  rw [he, hn, hc, hd]

theorem table_empty : empty.table = .empty := table_eq (fun _ => rfl) rfl rfl rfl

/-! ## A change of the registry is the change of its table -/

theorem insert_of_contains (h : r.contains c.id = true) :
    r.insert c = .error (.internal s!"call {c.id.toNat} is already registered") := dif_pos h

theorem apply_insert_of_contains (h : r.contains c.id = true) : r.apply (.insert c) =
    (.done (.error (.internal s!"call {c.id.toNat} is already registered")), r) := by
  unfold apply RegistryOperation.perform
  simp only [insert_of_contains h]

theorem apply_insert (h : r.insert c = .ok r') : r.apply (.insert c) = (.done (.ok ()), r') := by
  unfold apply RegistryOperation.perform
  simp only [h]

section

variable {f : Call → Call} {keeps : ∀ c, (f c).id = c.id} {state : CallState}

theorem apply_update_of_mem (h : c ∈ r.calls) :
    r.apply (.update c.id f keeps) = (.required (.ok c), r.modify c.id f) := by
  unfold apply
  simp only [update_of_mem h]

theorem apply_update_of_absent (h : ∀ c ∈ r.calls, c.id ≠ id) :
    r.apply (.update id f keeps) = (.required (.error (.callNotFound id)), r) := by
  unfold apply
  simp only [update_of_absent h]

theorem apply_setState_of_mem (h : c ∈ r.calls) : r.apply (.setState c.id state) =
    (.wasIn (.ok c.state), r.modify c.id ({ · with state })) := by
  unfold apply RegistryOperation.perform
  simp only [setState_of_mem h]

theorem apply_setState_of_absent (h : ∀ c ∈ r.calls, c.id ≠ id) :
    r.apply (.setState id state) = (.wasIn (.error (.callNotFound id)), r) := by
  unfold apply RegistryOperation.perform
  simp only [setState_of_absent h]

theorem apply_remove_of_mem (h : c ∈ r.calls) :
    r.apply (.remove c.id) = (.found (some c), r.erase c.id) := by
  unfold apply RegistryOperation.perform
  simp only [remove_of_mem h]

theorem apply_remove_of_absent (h : ∀ c ∈ r.calls, c.id ≠ id) :
    r.apply (.remove id) = (.found none, r) := by
  unfold apply RegistryOperation.perform
  simp only [remove_of_absent h]

end

/-- To insert a record is to insert it into the table. -/
theorem table_insert (h : r.insert c = .ok r') (hc : r'.created = r.created + 1)
    (hd : r'.removed = r.removed) :
    r'.table = { r.table with
      records := r.table.records.insert c.id c, created := r.table.created + 1 } := by
  refine table_eq (fun id => ?_) (insert_eq_ok h).2.1 hc hd
  by_cases hid : id = c.id
  · subst hid
    rw [get?_insert_self h, Finmap.lookup_insert]
  · rw [get?_insert_of_ne h hid, Finmap.lookup_insert_of_ne _ hid, lookup_table]

/-- To modify a record is to overwrite it in the table, if its number is kept. -/
theorem table_modify (h : c ∈ r.calls) {f : Call → Call} (hf : (f c).id = c.id) :
    (r.modify c.id f).table = { r.table with records := r.table.records.insert c.id (f c) } := by
  refine table_eq (fun id => ?_) rfl rfl rfl
  by_cases hid : id = c.id
  · subst hid
    rw [get?_modify_self h, Finmap.lookup_insert, ← hf]
  · rw [get?_modify_of_ne hid, Finmap.lookup_insert_of_ne _ hid, lookup_table]

/-- To erase a record is to erase it from the table. -/
theorem table_erase (r : Registry) (id : CallId) :
    (r.erase id).table = { r.table with
      records := r.table.records.erase id, removed := r.table.removed + 1 } := by
  refine table_eq (fun x => ?_) rfl rfl rfl
  by_cases hid : x = id
  · subst hid
    rw [get?_erase_self, Finmap.lookup_erase]
  · rw [get?_erase_of_ne hid, Finmap.lookup_erase_ne hid, lookup_table]

/-- A change has the same answer from a registry and from its table, and leaves the registry of the
table that it leaves. -/
theorem apply_table (r : Registry) (change : Change) :
    r.table.apply change = ((r.apply change).1, (r.apply change).2.table) := by
  cases change with
  | allocate => rfl
  | insert c =>
    unfold CallTable.apply
    dsimp only
    cases hc : r.contains c.id with
    | true => rw [if_pos (mem_table_iff.mpr hc), apply_insert_of_contains hc]
    | false =>
      obtain ⟨r', hr, hcreated, hremoved⟩ := insert_of_absent (contains_eq_false hc)
      rw [if_neg (by simp [mem_table_iff, hc]), apply_insert hr, table_insert hr hcreated hremoved]
  | update id f keeps =>
    unfold CallTable.apply
    rcases r.exists_or_absent id with ⟨c, hc, rfl⟩ | ha
    · simp only [lookup_table, get?_of_mem hc, apply_update_of_mem hc, table_modify hc (keeps c)]
    · simp only [lookup_table, get?_of_absent ha, apply_update_of_absent ha]
  | setState id state =>
    unfold CallTable.apply
    rcases r.exists_or_absent id with ⟨c, hc, rfl⟩ | ha
    · have hm := table_modify (f := ({ · with state })) hc rfl
      simp only [lookup_table, get?_of_mem hc, apply_setState_of_mem hc, hm]
    · simp only [lookup_table, get?_of_absent ha, apply_setState_of_absent ha]
  | remove id =>
    unfold CallTable.apply
    rcases r.exists_or_absent id with ⟨c, hc, rfl⟩ | ha
    · simp only [lookup_table, get?_of_mem hc, apply_remove_of_mem hc, table_erase]
    · simp only [lookup_table, get?_of_absent ha, apply_remove_of_absent ha]

/-- A run of changes has the same answers from a registry and from its table, and keeps them in
step. -/
theorem run_table (r : Registry) (changes : List Change) :
    r.table.run changes = ((r.run changes).1, (r.run changes).2.table) := by
  induction changes generalizing r with
  | nil => rfl
  | cons change rest ih =>
    unfold CallTable.run run
    -- One change at a time: the rest of the run starts from the table of the registry that is left.
    rw [apply_table, ih]

/-! ## Books -/

/-- As many records are there as were registered and not removed. -/
def Balanced (r : Registry) : Prop := r.created = r.removed + r.size

theorem Balanced.modify (h : r.Balanced) (id : CallId) (f : Call → Call) :
    (r.modify id f).Balanced :=
  h.trans (congrArg _ (List.length_map _).symm)

/-- A record that is put in is counted once among the records and once among those ever put in. -/
theorem Balanced.insert (h : r.Balanced) (hr : r.insert c = .ok r')
    (hc : r'.created = r.created + 1) (hd : r'.removed = r.removed) : r'.Balanced := by
  obtain ⟨before, after, hsplit, hplace⟩ := place_split c r.calls
  unfold Balanced size at *
  rw [hc, hd, (insert_eq_ok hr).1, h, hplace, hsplit]
  simp only [List.length_append, List.length_singleton]
  omega

/-- A record that is taken out is counted among those ever taken out. -/
theorem Balanced.erase (h : r.Balanced) (hc : c ∈ r.calls) : (r.erase c.id).Balanced := by
  -- Exactly one record has the number, so the list gets shorter by one.
  obtain ⟨before, after, hsplit, -, herase⟩ := exists_split hc
  unfold Balanced size at *
  rw [herase]
  rw [hsplit] at h
  simp only [List.length_append, List.length_singleton] at h ⊢
  show r.created = r.removed + 1 + _
  omega

/-- Every change keeps the books balanced, whether it succeeds or fails. -/
theorem Balanced.apply (h : r.Balanced) (change : Change) : (r.apply change).2.Balanced := by
  cases change with
  | allocate => exact h
  | insert c =>
    cases hc : r.contains c.id with
    | true => rwa [apply_insert_of_contains hc]
    | false =>
      obtain ⟨r', hr, hcreated, hremoved⟩ := insert_of_absent (contains_eq_false hc)
      rw [apply_insert hr]
      exact h.insert hr hcreated hremoved
  | update id f keeps =>
    rcases r.exists_or_absent id with ⟨c, hc, rfl⟩ | ha
    · rw [apply_update_of_mem hc]
      exact h.modify c.id f
    · rwa [apply_update_of_absent ha]
  | setState id state =>
    rcases r.exists_or_absent id with ⟨c, hc, rfl⟩ | ha
    · rw [apply_setState_of_mem hc]
      exact h.modify c.id _
    · rwa [apply_setState_of_absent ha]
  | remove id =>
    rcases r.exists_or_absent id with ⟨c, hc, rfl⟩ | ha
    · rw [apply_remove_of_mem hc]
      exact h.erase hc
    · rwa [apply_remove_of_absent ha]

/-- Every run of changes keeps the books balanced. -/
theorem Balanced.run (h : r.Balanced) (changes : List Change) : (r.run changes).2.Balanced := by
  induction changes generalizing r with
  | nil => exact h
  | cons change rest ih => exact ih (h.apply change)

/-! ## Views -/

/-- Records in the order of their numbers. -/
def inOrder (records : List Call) : List Call := records.mergeSort fun a b => a.id ≤ b.id

/-- What can be read off a registry is what some records say, in whatever order these come. -/
structure Reads (r : Registry) (records : List Call) : Prop where
  calls : r.calls = inOrder records
  size : r.size = records.length
  isEmpty : r.isEmpty = records.isEmpty
  get? (id : CallId) : r.get? id = records.find? (·.id == id)
  contains (id : CallId) : r.contains id = records.any (·.id == id)
  findByState (state : CallState) :
    r.findByState state = inOrder (records.filter (·.state == state)) ∧
      r.findByState state = r.calls.filter (·.state == state)
  countByState (state : CallState) : r.countByState state = records.countP (·.state == state)
  liveCount : r.liveCount = records.countP fun c => !c.state.isTerminal
  foreground? : r.foreground? = Switchboard.foreground? records
  hasActive : Switchboard.hasActive r.calls = Switchboard.hasActive records
  hasDialing : Switchboard.hasDialing r.calls = Switchboard.hasDialing records
  hasConnecting : Switchboard.hasConnecting r.calls = Switchboard.hasConnecting records
  hasConnected : Switchboard.hasConnected r.calls = Switchboard.hasConnected records
  hasRinging : Switchboard.hasRinging r.calls = Switchboard.hasRinging records
  hasEmergency : Switchboard.hasEmergency r.calls = Switchboard.hasEmergency records

/-- There is but one way to put records of distinct numbers in order. -/
theorem eq_inOrder {calls : List Call} (h : Ascending calls) (hp : calls.Perm records) :
    calls = inOrder records := by
  have hle : calls.Pairwise fun a b => decide (a.id ≤ b.id) = true :=
    h.imp fun hab => decide_eq_true (UInt32.le_of_lt hab)
  have hsorted : (inOrder records).Pairwise fun a b => decide (a.id ≤ b.id) = true :=
    List.pairwise_mergeSort (fun a b c => by simpa using UInt32.le_trans)
      (fun a b => by simpa using UInt32.le_total a.id b.id) records
  have hperm : calls.Perm (inOrder records) := hp.trans (List.mergeSort_perm _ _).symm
  -- Both lists are sorted by number. Equal numbers belong to equal records, so the order is strict.
  refine List.Perm.eq_of_pairwise (fun a b ha hb hab hba => ?_) hle hsorted hperm
  have hid : a.id = b.id := UInt32.le_antisymm (by simpa using hab) (by simpa using hba)
  have hd : (calls.map (·.id)).Nodup := List.Pairwise.map _ (fun _ _ => UInt32.ne_of_lt) h
  exact List.inj_on_of_nodup_map hd ha (hperm.mem_iff.mpr hb) hid

/-- Of records in any order only one has the number that is looked for. -/
theorem get?_eq_find? (hp : records.Perm r.calls) (id : CallId) :
    r.get? id = records.find? (·.id == id) := by
  rcases r.exists_or_absent id with ⟨c, hc, rfl⟩ | ha
  · rw [get?_of_mem hc]
    cases hf : records.find? (·.id == c.id) with
    | none => simpa using List.find?_eq_none.mp hf c (hp.mem_iff.mpr hc)
    | some x =>
      have hid : x.id = c.id := by simpa using List.find?_some hf
      rw [eq_of_id_eq (hp.mem_iff.mp (List.mem_of_find?_eq_some hf)) hc hid]
  · rw [get?_of_absent ha, eq_comm, List.find?_eq_none]
    exact fun x hx => by simpa using ha x (hp.mem_iff.mp hx)

/-- All that can be read off a registry goes by its records and not by their order. -/
theorem reads_of_perm (hp : records.Perm r.calls) : r.Reads records where
  calls := eq_inOrder r.ascending hp.symm
  size := hp.length_eq.symm
  isEmpty := hp.symm.isEmpty_eq
  get? := get?_eq_find? hp
  contains _ := hp.symm.any_eq
  findByState _ :=
    ⟨eq_inOrder (r.ascending.filter _) (hp.symm.filter _), rfl⟩
  countByState _ := hp.symm.countP_eq _
  liveCount := hp.symm.countP_eq _
  foreground? := (foreground?_perm r.nodup_ids hp).symm
  hasActive := hp.symm.any_eq
  hasDialing := hp.symm.any_eq
  hasConnecting := hp.symm.any_eq
  hasConnected := hp.symm.any_eq
  hasRinging := hp.symm.any_eq
  hasEmergency := hp.symm.any_eq

/-! ## Every run -/

/-- What fails at a registry, and that nothing changes then. -/
structure Refuses (r : Registry) : Prop where
  insert (c : Call) : r.contains c.id = true → r.apply (.insert c) =
    (.done (.error (.internal s!"call {c.id.toNat} is already registered")), r)
  require (id : CallId) : r.contains id = false → r.require id = .error (.callNotFound id)
  update (id : CallId) (f : Call → Call) (keeps : ∀ c, (f c).id = c.id) : r.contains id = false →
    r.apply (.update id f keeps) = (.required (.error (.callNotFound id)), r)
  setState (id : CallId) (state : CallState) : r.contains id = false →
    r.apply (.setState id state) = (.wasIn (.error (.callNotFound id)), r)

/-- Every refusal leaves the registry as it was. -/
theorem refuses (r : Registry) : r.Refuses where
  insert _ := apply_insert_of_contains
  require _ h := require_of_absent (contains_eq_false h)
  update _ _ _ h := apply_update_of_absent (contains_eq_false h)
  setState _ _ h := apply_setState_of_absent (contains_eq_false h)

/-- **A registry is a finite map with exact books.** Whatever is done to an empty registry has the
answers that it has from an empty table, and in the end the registry stands for the table: every
record is under its own number, the snapshot is in the order of the numbers, and all that can be
read off is what the records of the table say, in whatever order they come. The records that were
registered and not removed are all there, also if the counts are kept in words that wrap. What
cannot be done fails and changes nothing. -/
theorem run_as_table (changes : List Change) :
    let r := (empty.run changes).2
    let t := (CallTable.empty.run changes).2
    (empty.run changes).1 = (CallTable.empty.run changes).1 ∧
    (∀ id c, t.records.lookup id = some c → c.id = id) ∧
    (∀ id, r.get? id = t.records.lookup id) ∧ r.nextId = t.nextId ∧
    Ascending r.calls ∧ r.calls.length = r.size ∧
    (∀ records : List Call, (records : Multiset Call) = t.values → r.Reads records) ∧
    (r.created = t.created ∧ r.removed = t.removed ∧ r.created = r.removed + r.size ∧
      UInt64.ofNat r.created - UInt64.ofNat r.removed = UInt64.ofNat r.size) ∧
    r.Refuses := by
  intro r t
  have hrun : CallTable.empty.run changes = ((empty.run changes).1, r.table) := by
    rw [← table_empty, run_table]
  have ht : t = r.table := congrArg Prod.snd hrun
  have hbooks : r.created = r.removed + r.size :=
    Balanced.run (r := empty) rfl changes
  refine ⟨(congrArg Prod.fst hrun).symm, fun id c hc => ?_, fun id => ?_, ?_, r.ascending, rfl,
    fun records hrecords => ?_, ⟨?_, ?_, hbooks, ?_⟩, r.refuses⟩
  · rw [ht, lookup_table] at hc
    exact (get?_eq_some_iff.mp hc).2
  · rw [ht, lookup_table]
  · rw [ht]
    rfl
  · rw [ht, values_table] at hrecords
    exact reads_of_perm (Multiset.coe_eq_coe.mp hrecords)
  · rw [ht]
    rfl
  · rw [ht]
    rfl
  · rw [hbooks, UInt64.ofNat_add, UInt64.add_comm, UInt64.add_sub_cancel]

/-- Of three calls, registered in no order, one is removed again. -/
theorem run_as_table_removed :
    let held := Call.fresh 1 0 .cs .holding .outgoing "1"
    let talking := Call.fresh 2 0 .ims .active .outgoing "2"
    let ringing := Call.fresh 3 0 .cs .waiting .incoming "3"
    let changes : List Change :=
      [.allocate, .allocate, .allocate, .insert ringing, .insert held, .insert talking,
        .insert held, .remove 2, .setState 2 .holding]
    let r := (empty.run changes).2
    r.calls = [held, ringing] ∧ (r.created, r.removed, r.size) = (3, 1, 2) ∧
      r.contains 2 = false ∧
      r.apply (.setState 2 .active) = (.wasIn (.error (.callNotFound 2)), r) ∧
      (([ringing, held] : List Call) : Multiset Call) =
        (CallTable.empty.run changes).2.values ∧ r.Reads [ringing, held] := by
  intro held talking ringing changes r
  have hcalls : r.calls = [held, ringing] := by decide
  have hvalues : (([ringing, held] : List Call) : Multiset Call) =
      (CallTable.empty.run changes).2.values := by
    have hv : (CallTable.empty.run changes).2.values = r.calls := by
      rw [← table_empty, run_table, values_table]
    rw [hv, hcalls]
    exact Multiset.coe_eq_coe.mpr (.swap _ _ _)
  obtain ⟨-, -, -, -, -, -, hreads, -, hrefuses⟩ := run_as_table changes
  have habsent : r.contains 2 = false := by decide
  exact ⟨hcalls, by decide, habsent, hrefuses.setState 2 .active habsent, hvalues,
    hreads _ hvalues⟩

end Registry

end Switchboard
