import Switchboard.Proofs.Desk.Mutations
import Switchboard.Proofs.Desk.Numbering

/-!
# Replaying the journal of calls

A listener that hears every event can keep a replica of the calls: it enters a call that is added,
notes the state that a call goes into, and strikes a call that is removed. `CallReplica.apply`
refuses an event that does not follow on the replica, so a replica that is had by
`CallReplica.replay` shows that every event followed on those before it.

In every run the events replay to a replica of exactly the registered calls, each in its state
(`journal_replays`). Most of what happens says nothing of calls, or edits one record and says so in
the same mutation (`Mutation.replaysWithin`). That no number is added twice hangs on the counter, so
the requests that register a call are gone through by themselves (`replaysWithin_dial`,
`replaysWithin_arrive`).
-/

namespace Switchboard

/-- The event is news of a call that was added, went into another state or was removed. -/
def Event.isOfCall : Event → Bool
  | callAdded _ | callStateChanged .. | callRemoved .. => true
  | _ => false

/-- What a listener keeps of the events on calls. -/
structure CallReplica where
  /-- Every number that was ever added. -/
  known : List CallId
  /-- The state of each call that is there. -/
  state? : CallId → Option CallState

namespace CallReplica

/-- The replica of a listener that has heard nothing. -/
def empty : CallReplica := ⟨[], fun _ => none⟩

/-- The replica with another state of one call, or without the call. -/
def put (r : CallReplica) (id : CallId) (state : Option CallState) : CallReplica :=
  { r with state? := fun x => if x = id then state else r.state? x }

/-- The replica after an event, if the event follows on it: a number is added that was never added
before, a call that is there goes from the state that it is in into another one, or a call that is
there is removed. -/
def apply (r : CallReplica) : Event → Option CallReplica
  | .callAdded c =>
    if c.id ∈ r.known then none
    else some { r.put c.id (some c.state) with known := c.id :: r.known }
  | .callStateChanged id previous current =>
    if r.state? id = some previous ∧ previous ≠ current then some (r.put id (some current))
    else none
  | .callRemoved id _ => if (r.state? id).isSome then some (r.put id none) else none
  | _ => some r

/-- The replica after events from the beginning, if each follows on those before it. -/
def replay (events : List Event) : Option CallReplica := events.foldlM apply empty

variable {r : CallReplica} {events : List Event}

theorem apply_of_not_isOfCall {e : Event} (he : e.isOfCall = false) : r.apply e = some r := by
  cases e <;> first | rfl | cases he

/-- Only news of calls counts. -/
theorem replay_filter (events : List Event) :
    replay (events.filter (·.isOfCall)) = replay events := by
  -- Of the replica only that it is some replica matters, so it is generalized before the induction.
  unfold replay
  generalize empty = r
  induction events generalizing r with
  | nil => rfl
  | cons e rest ih =>
    cases he : e.isOfCall with
    | true =>
      rw [List.filter_cons_of_pos he, List.foldlM_cons, List.foldlM_cons]
      cases r.apply e with
      | none => rfl
      | some r' => exact ih r'
    | false =>
      rw [List.filter_cons_of_neg (by simp [he]), List.foldlM_cons, apply_of_not_isOfCall he]
      exact ih r

/-- Replaying one more event applies it to the replica so far. -/
theorem replay_concat (h : replay events = some r) (e : Event) :
    replay (events ++ [e]) = r.apply e := by
  unfold replay at *
  rw [List.foldlM_append, h]
  show (r.apply e).bind (fun r => some r) = _
  cases r.apply e <;> rfl

end CallReplica

namespace Desk

open DeskM

variable {allowed : Deed → Prop} {d d' : Desk} {k n : Nat}

/-! ## The books -/

/-- The registry, and what was said of its calls. -/
def books (d : Desk) : Registry × List Event :=
  (d.registry, d.journal.entries.filter (·.isOfCall))

/-- News that are not of calls do not count in the books. -/
theorem books_emit (d : Desk) {e : Event} (he : e.isOfCall = false) :
    (d.emit e).books = d.books := by
  unfold books emit Journal.emit
  dsimp only
  rw [List.filter_append, List.filter_cons_of_neg (by simp [he]), List.filter_nil, List.append_nil]

/-- News of a call are the last entry of the books. -/
theorem news_emit (d : Desk) {e : Event} (he : e.isOfCall = true) :
    (d.emit e).books.2 = d.books.2 ++ [e] := by
  unfold books emit Journal.emit
  dsimp only
  rw [List.filter_append, List.filter_cons_of_pos he, List.filter_nil]

/-- What the players do is not in the books. -/
theorem books_playbackOnly (h : d.PlaybackOnly d') : d'.books = d.books := by
  have hnews : d'.journal.entries.filter (·.isOfCall) = d.journal.entries.filter (·.isOfCall) :=
    h.journal.reading_eq (·.filter (·.isOfCall)) fun events e he => by
      have hc : e.isOfCall = false := by cases e <;> first | rfl | cases he
      simp [hc]
  unfold books
  rw [hnews, h.rest]

theorem ignoresMachines_books : IgnoresMachines books where
  playbackOnly := books_playbackOnly
  machines _ _ _ := rfl
  told d e he := books_emit d (by cases e <;> first | rfl | cases he)
  asked _ _ _ := rfl

theorem books_applyMute (d : Desk) (value : Bool) : (d.applyMute value).books = d.books :=
  view_applyMute books rfl fun _ => books_emit _ rfl

/-! ## What a listener has heard -/

/-- The events replay to a replica of the registered calls, and no number greater than `limit` was
ever added. -/
def ReplaysWithin (limit : Nat) (d : Desk) : Prop :=
  ∃ r, CallReplica.replay d.books.2 = some r ∧
    (∀ id, r.state? id = (d.registry.get? id).map (·.state)) ∧ ∀ id ∈ r.known, id.toNat ≤ limit

theorem ReplaysWithin.mono (hd : ReplaysWithin k d) (h : k ≤ n) : ReplaysWithin n d := by
  obtain ⟨r, hr, hs, hk⟩ := hd
  exact ⟨r, hr, hs, fun id hid => Nat.le_trans (hk id hid) h⟩

/-- Whether the events replay goes by the books alone. -/
theorem ReplaysWithin.of_books (hd : ReplaysWithin k d) (h : d'.books = d.books) :
    ReplaysWithin k d' := by
  have hr : d'.registry = d.registry := congrArg Prod.fst h
  unfold ReplaysWithin at *
  rwa [h, hr]

/-- A replica agrees with the registry once it has heard of an edit of one record. -/
theorem ReplaysWithin.edited {r : CallReplica} {id : CallId} {state : Option CallState}
    (hs : ∀ x, r.state? x = (d.registry.get? x).map (·.state))
    (hid : (d'.registry.get? id).map (·.state) = state)
    (hne : ∀ x, x ≠ id → d'.registry.get? x = d.registry.get? x) (x : CallId) :
    (r.put id state).state? x = (d'.registry.get? x).map (·.state) := by
  by_cases hx : x = id
  · subst hx
    simp [CallReplica.put, hid]
  · rw [hne x hx, ← hs x]
    simp [CallReplica.put, hx]

/-- An edit that leaves the state alone need not be said. -/
theorem replaysWithin_amended {id : CallId} {f : Call → Call}
    (hf : ∀ c ∈ d.registry.calls, c.id = id → (f c).state = c.state) (hd : ReplaysWithin k d) :
    ReplaysWithin k (d.amended id f) := by
  obtain ⟨r, hr, hs, hk⟩ := hd
  refine ⟨r, hr, fun x => ?_, hk⟩
  show _ = ((d.registry.modify id f).get? x).map (·.state)
  rw [hs x]
  -- The edited record has the state that it had, if there is one; the others are as they were.
  by_cases hx : x = id
  · subst hx
    rcases d.registry.exists_or_absent x with ⟨c, hc, rfl⟩ | ha
    · rw [Registry.get?_modify_self hc, Registry.get?_of_mem hc, Option.map_some, Option.map_some,
        hf c hc rfl]
    · have ha' : ∀ c ∈ (d.registry.modify x f).calls, c.id ≠ x := by
        rw [Registry.modify_calls, Registry.adjust_of_ne ha]
        exact ha
      rw [Registry.get?_of_absent ha, Registry.get?_of_absent ha']
  · rw [Registry.get?_modify_of_ne hx]

/-- A change of state is said from the state that the call was in, so it follows on the replica. -/
theorem replaysWithin_moved {c : Call} {f : Call → Call} {next : CallState}
    (h : c ∈ d.registry.calls) (hf : (f c).state = next) (hne : c.state ≠ next)
    (hd : ReplaysWithin k d) :
    ReplaysWithin k ((d.amended c.id f).emit (.callStateChanged c.id c.state next)) := by
  obtain ⟨r, hr, hs, hk⟩ := hd
  have hc : r.state? c.id = some c.state := by rw [hs, Registry.get?_of_mem h, Option.map_some]
  refine ⟨r.put c.id (some next), ?_, ReplaysWithin.edited hs ?_ fun x hx => ?_, hk⟩
  · rw [news_emit _ rfl]
    exact (CallReplica.replay_concat hr _).trans (if_pos ⟨hc, hne⟩)
  · show ((d.registry.modify c.id f).get? c.id).map (·.state) = _
    rw [Registry.get?_modify_self h, Option.map_some, hf]
  · exact Registry.get?_modify_of_ne hx f

/-- A registered call is in the replica, so it can be struck. -/
theorem replaysWithin_dropped {c : Call} (h : c ∈ d.registry.calls) (hd : ReplaysWithin k d) :
    ReplaysWithin k
      ({ d with registry := d.registry.erase c.id }.emit (.callRemoved c.id c.ended)) := by
  obtain ⟨r, hr, hs, hk⟩ := hd
  have hc : (r.state? c.id).isSome = true := by
    rw [hs, Registry.get?_of_mem h]
    rfl
  refine ⟨r.put c.id none, ?_, ReplaysWithin.edited hs ?_ fun x hx => ?_, hk⟩
  · rw [news_emit _ rfl]
    exact (CallReplica.replay_concat hr _).trans (if_pos hc)
  · show ((d.registry.erase c.id).get? c.id).map (·.state) = none
    rw [Registry.get?_erase_self]
    rfl
  · exact Registry.get?_erase_of_ne hx

/-- A listener knows of no number beyond the limit, so a greater one can be added. -/
theorem replaysWithin_inserted {c : Call} {registry : Registry}
    (h : d.registry.insert c = .ok registry) (hlt : k < c.id.toNat) (hd : ReplaysWithin k d) :
    ReplaysWithin c.id.toNat ({ d with registry }.emit (.callAdded c)) := by
  obtain ⟨r, hr, hs, hk⟩ := hd
  have hc : c.id ∉ r.known := fun hm => Nat.not_lt.mpr (hk c.id hm) hlt
  refine ⟨{ r.put c.id (some c.state) with known := c.id :: r.known }, ?_,
    ReplaysWithin.edited hs ?_ fun x hx => ?_, fun id hid => ?_⟩
  · rw [news_emit _ rfl]
    exact (CallReplica.replay_concat hr _).trans (if_neg hc)
  · show (registry.get? c.id).map (·.state) = _
    rw [Registry.get?_insert_self h]
    rfl
  · exact Registry.get?_insert_of_ne h hx
  · rcases List.mem_cons.mp hid with rfl | hid
    · exact Nat.le_refl _
    · exact Nat.le_trans (hk id hid) (Nat.le_of_lt hlt)

/-- Every mutation but the registration of a call keeps what a listener has heard in step with the
registry. -/
theorem Mutation.replaysWithin (h : Mutation allowed d d') (ha : ¬allowed .register)
    (hd : ReplaysWithin k d) : ReplaysWithin k d' := by
  cases h with
  | sounded h => exact hd.of_books (books_playbackOnly h.playbackOnly)
  | turned calls => exact hd.of_books (ignoresMachines_books.turned d calls _)
  | routed next => exact hd.of_books (ignoresMachines_books.moveRoute d next)
  | muted => exact hd.of_books (books_applyMute d _)
  | ringer | setFailAfter | noted | asked | issued => exact hd
  | told he =>
    refine hd.of_books (books_emit d ?_)
    rename_i e
    cases e <;> simp_all [Event.isAside, Event.isOfCall]
  | amended hf _ => exact replaysWithin_amended hf hd
  | moved _ h hf hs => exact replaysWithin_moved h hf hs hd
  | added hr => exact absurd hr ha
  | dropped h => exact replaysWithin_dropped h hd

/-- Any number of mutations but registrations keeps the events in step with the registry. -/
theorem Mutations.replaysWithin (h : Mutations allowed d d') (ha : ¬allowed .register)
    (hd : ReplaysWithin k d) : ReplaysWithin k d' := by
  induction h with
  | refl => exact hd
  | tail _ h ih => exact h.replaysWithin ha ih

/-! ## Requests that register a call -/

/-- A listener has heard everything, and the next number is known. -/
structure UpToDate (limit : Nat) (next : CallId) (d : Desk) : Prop where
  replaysWithin : ReplaysWithin limit d
  nextId : d.registry.nextId = next

variable {next : CallId} {c : Call}

theorem UpToDate.mono (hd : UpToDate k next d) (h : k ≤ n) : UpToDate n next d :=
  ⟨hd.replaysWithin.mono h, hd.nextId⟩

/-- Steps that register no call keep a listener up to date, and give no number out. -/
theorem UpToDate.steps (hd : UpToDate n next d) (h : Steps (.without [.register]) d 0 d') :
    UpToDate n next d' := by
  -- No number was given out between the steps, so the counter is where it was.
  refine ⟨h.mutations.replaysWithin (by simp [Rule.permits, Rule.without]) hd.replaysWithin, ?_⟩
  rw [h.nextId_eq, hd.nextId]
  simp

theorem UpToDate.within {α : Type} {x : DeskM α} (hd : UpToDate n next d)
    (hx : x.Within d (Steps (.without [.register]) d 0)) : x.Within d (UpToDate n next) :=
  hx.mono (fun _ _ => hd.steps) fun _ _ => hd.steps

theorem UpToDate.told (hd : UpToDate n next d) {e : Event} (he : e.isOfCall = false) :
    UpToDate n next (d.emit e) := ⟨hd.replaysWithin.of_books (books_emit d he), hd.nextId⟩

/-- A number that is given out is not said. -/
theorem UpToDate.issued (hd : UpToDate n next d) : UpToDate n (next + 1) d.issued :=
  ⟨hd.replaysWithin, congrArg (· + 1) hd.nextId⟩

/-- The call with the first number that no listener knows of is registered. -/
theorem upToDate_register (hd : UpToDate n next d) (hc : c.id.toNat = n + 1) :
    (register c).Within d (UpToDate (n + 1) next) := by
  refine ends_register (fun registry hr => ⟨?_, ?_⟩) fun _ => hd.mono (Nat.le_succ n)
  · have hi : ReplaysWithin (n + 1) ({ d with registry }.emit (.callAdded c)) :=
      hc ▸ replaysWithin_inserted hr (hc ▸ Nat.lt_succ_self n) hd.replaysWithin
    have hb : Mutations (fun _ => False) _ (d.added c registry) :=
      (audioMutations_callCreated _ c).mutations
    exact hb.replaysWithin id hi
  · rw [registry_added, (Registry.insert_eq_ok hr).2.1, hd.nextId]

/-- Dialing registers a call with a new number, or gives none out. -/
theorem upToDate_dialAdmitted (request : DialRequest) (hd : UpToDate n next d)
    (hn : next.toNat = n + 1) :
    (dialAdmitted request).Within d fun d' =>
      UpToDate n next d' ∨ UpToDate (n + 1) (next + 1) d' := by
  refine within_bind.mpr (ends_evaluate.mpr ?_)
  have he := hd.told (e := .admissionDecided none (d.policy.evaluate
    (.dial request.slot request.bearer request.emergency) d.registry.calls).decision) rfl
  split
  · exact within_throw_bind (.inl he)
  refine within_bind.mpr ((he.within (steps_actAll .refl fun _ => live_of_evaluate _ _)).mono
    (fun _ d₁ h₁ => ?_) fun _ _ h => .inl h)
  refine within_bind.mpr (ends_allocate.mpr ?_)
  have hid : (request.toCall d₁.registry.nextId).id.toNat = n + 1 := by
    rw [← hn, ← h₁.nextId]
    rfl
  refine within_bind.mpr ((upToDate_register h₁.issued hid).mono (fun _ d₂ h₂ => ?_)
    fun _ _ h => .inr h)
  have ht := h₂.steps (Steps.refl.step
    (.telephoned (.dial (request.toCall d₁.registry.nextId))))
  refine within_bind.mpr ((ends_tryCatch _).mpr (ends_telephone (.inr ht) ?_))
  exact within_bind.mpr ((ht.within (steps_unregister .refl _)).mono (fun _ _ h => .inr h)
    fun _ _ h => .inr h)

/-- An arrival gives a new number out, whether or not its call is registered. -/
theorem upToDate_arrive (arrival : Arrival) (hd : UpToDate n next d) (hn : next.toNat = n + 1) :
    (arrive arrival).Within d (UpToDate (n + 1) (next + 1)) := by
  have hid (state : CallState) :
      ({ arrival.toCall d.registry.nextId with state } : Call).id.toNat = n + 1 := by
    rw [← hn, ← hd.nextId]
    rfl
  refine within_bind.mpr (ends_allocate.mpr ?_)
  refine within_bind.mpr (ends_evaluate.mpr ?_)
  have he := hd.issued.told (e := .admissionDecided (some d.registry.nextId)
    (d.issued.policy.evaluate (.incoming arrival.slot arrival.bearer)
      d.registry.calls).decision) rfl
  split
  · refine within_bind.mpr ((he.within (steps_telephone .refl _)).mono (fun _ _ h => ?_)
      fun _ _ h => h.mono (Nat.le_succ n))
    exact within_pure (h.mono (Nat.le_succ n))
  refine within_bind.mpr ((ends_tryCatch _).mpr ?_)
  refine (he.within (steps_actAll .refl fun _ => live_of_evaluate _ _)).mono
    (fun _ d₁ h₁ => ?_) fun e d₁ h₁ => ?_
  · refine Within.bind ?_ fun _ _ h => within_pure h
    split
    · exact upToDate_register h₁ (hid .waiting)
    · exact upToDate_register h₁ (hid .incoming)
  · have ht := (h₁.steps (Steps.refl.step
      (.telephoned (.reject (arrival.toCall d.registry.nextId))))).mono (Nat.le_succ n)
    exact (ends_bind _).mpr ((ends_tryCatch _).mpr (ends_telephone ht ht))

/-- A listener has heard of as many numbers as were given out. -/
theorem replaysWithin_fresh
    (h : UpToDate n d.registry.nextId d' ∨ UpToDate (n + 1) (d.registry.nextId + 1) d') :
    ReplaysWithin (n + d.fresh d') d' := by
  rcases h with h | h
  · rw [fresh_eq (Nat.zero_le 1) (by simpa using h.nextId)]
    exact h.replaysWithin
  · rw [fresh_eq (Nat.le_refl 1) h.nextId]
    exact h.replaysWithin

/-- A dial request keeps the events in step with the registry, and counts the number that it gives
out. -/
theorem replaysWithin_dial (request : DialRequest) (hd : ReplaysWithin n d)
    (hn : d.registry.nextId.toNat = n + 1) :
    ReplaysWithin (n + d.fresh ((inService (dial request)).perform d).2)
      ((inService (dial request)).perform d).2 := by
  have ha : UpToDate n d.registry.nextId d := ⟨hd, rfl⟩
  suffices h : (inService (dial request)).Within d fun d' =>
      UpToDate n d.registry.nextId d' ∨ UpToDate (n + 1) (d.registry.nextId + 1) d' from
    replaysWithin_fresh h.perform
  refine ends_inService (fun _ => within_bind.mpr ?_) fun _ => .inl ha
  rw [ends_get]
  split
  · exact within_throw_bind (.inl ha)
  · have hdialing : UpToDate n d.registry.nextId { d with dialing := true } := ⟨hd, rfl⟩
    have hflag {n : Nat} {next : CallId} {d' : Desk} (h : UpToDate n next d') :
        UpToDate n next { d' with dialing := false } := ⟨h.replaysWithin, h.nextId⟩
    exact ends_whileDialing.mpr ((upToDate_dialAdmitted request hdialing hn).mono
      (fun _ _ h => h.imp hflag hflag) fun _ _ h => h.imp hflag hflag)

/-- An arrival keeps the events in step with the registry, and counts the number that it gives out.
-/
theorem replaysWithin_arrive (arrival : Arrival) (hd : ReplaysWithin n d)
    (hn : d.registry.nextId.toNat = n + 1) :
    ReplaysWithin (n + d.fresh ((inService (arrive arrival)).perform d).2)
      ((inService (arrive arrival)).perform d).2 := by
  have ha : UpToDate n d.registry.nextId d := ⟨hd, rfl⟩
  suffices h : (inService (arrive arrival)).Within d fun d' =>
      UpToDate n d.registry.nextId d' ∨ UpToDate (n + 1) (d.registry.nextId + 1) d' from
    replaysWithin_fresh h.perform
  exact ends_inService (fun _ => (upToDate_arrive arrival ha hn).mono (fun _ _ => .inr)
    fun _ _ => .inr) fun _ => .inl ha

/-- Dial requests at the same time, one after the other, keep the events in step with the registry.
-/
theorem replaysWithin_dialTogether (requests : List DialRequest) (hd : ReplaysWithin n d)
    (hn : Numbered n d) (hf : d.dialing = false)
    (hlt : n + freshTogether requests d < UInt32.size - 1) :
    ReplaysWithin (n + freshTogether requests d) (dialTogether requests d).2 := by
  induction requests generalizing n d with
  | nil => exact hd
  | cons request rest ih =>
    have hlt' : n < UInt32.size - 1 := Nat.lt_of_le_of_lt (Nat.le_add_right _ _) hlt
    have h := replaysWithin_dial request hd (hn hlt').1
    have hp : Transitions (.order False) d _ _ := transitions_dial trivial request d
    obtain ⟨hn', hf'⟩ := hp.numbered hn hf
    unfold freshTogether at hlt ⊢
    unfold dialTogether
    dsimp only at hlt ⊢
    split
    -- The first request may have given a number out; the others go on from there.
    · rename_i hturns
      rw [if_pos hturns] at hlt
      rw [← Nat.add_assoc] at hlt ⊢
      exact ih h hn' hf' hlt
    · exact h

/-! ## Every run -/

/-- Whatever happens but for the audio side alone, a listener hears of it. -/
theorem replaysWithin_after {h : Happening} (hm : h.ByManager) (hd : ReplaysWithin n d)
    (hn : Numbered n d) (hf : d.dialing = false) (hlt : n + d.given h < UInt32.size - 1) :
    ReplaysWithin (n + d.given h) (d.after h) := by
  have hnext : d.registry.nextId.toNat = n + 1 :=
    (hn (Nat.lt_of_le_of_lt (Nat.le_add_right _ _) hlt)).1
  have other (hr : .register ∉ h.deeds) : ReplaysWithin (n + d.given h) (d.after h) := by
    refine ReplaysWithin.mono ?_ (Nat.le_add_right n _)
    rcases mutations_or_setFailing [.register] (by simp) d h (by simpa using hr) with
      hb | ⟨_, _, rfl⟩
    · exact hb.replaysWithin (by simp) hd
    · exact hd
  cases h with
  | operation o =>
    cases o with
    | dial request => exact replaysWithin_dial request hd hnext
    | dialTogether requests => exact replaysWithin_dialTogether requests hd hn hf hlt
    | arrive arrival => exact replaysWithin_arrive arrival hd hnext
    | _ => exact other (by simp [Happening.deeds, Operation.deeds])
  | audio => exact hm.elim
  | circumstance | rest => exact other (by simp [Happening.deeds])

/-- **The calls can be replayed from the journal.** In every run in which the call numbers do not
run out, whatever fails, the events replay from an empty replica: no number is added twice, and a
call goes only from the state that it is in into another one, and is only removed while it is there.
After every operation the replica has exactly the registered calls, in exactly their states. -/
theorem journal_replays (h : Reach (fun _ h => h.ByManager) n d) (hn : n < UInt32.size - 1) :
    ∃ r, CallReplica.replay d.journal.entries = some r ∧
      ∀ id, r.state? id = (d.registry.get? id).map (·.state) := by
  suffices ReplaysWithin n d by
    obtain ⟨r, hr, hs, -⟩ := this
    exact ⟨r, (CallReplica.replay_filter _).symm.trans hr, hs⟩
  induction h with
  | assembled hd _ =>
    rw [assemble_eq hd]
    exact ⟨CallReplica.empty, rfl, fun _ => rfl, fun _ hid => nomatch hid⟩
  | @next n d h hr hm ih =>
    obtain ⟨hnum, hf⟩ := hr.numbered
    have hlt : n < UInt32.size - 1 := Nat.lt_of_le_of_lt (Nat.le_add_right _ _) hn
    exact replaysWithin_after hm (ih hlt) hnum hf hn

/-- A run with a call that telephony refuses to dial, and one that is held, and resumed as another
call ends. -/
theorem journal_replays_resumed :
    let run : List Happening :=
      [.operation .start, .circumstance (.setFailing .dial true),
        .operation (.dial ⟨"1", 0, .cs, .voice, false⟩), .circumstance (.setFailing .dial false),
        .operation (.dial ⟨"2", 0, .cs, .voice, false⟩),
        .operation (.reportState 2 .active none), .operation (.hold 2),
        .operation (.dial ⟨"3", 0, .cs, .voice, false⟩),
        .operation (.reportState 3 .active none), .operation (.hangUp 3)]
    let d := standard.afterAll run
    Reach (fun _ h => h.ByManager) 3 d ∧ 3 < UInt32.size - 1 ∧
      ((CallReplica.replay d.journal.entries).map fun r => (r.known, r.state? 1, r.state? 2)) =
        some ([3, 2, 1], none, some .active) ∧
      ∃ r, CallReplica.replay d.journal.entries = some r ∧
        ∀ id, r.state? id = (d.registry.get? id).map (·.state) := by
  intro run d
  have hp : Permits (fun _ h => h.ByManager) standard run :=
    ⟨trivial, trivial, trivial, trivial, trivial, trivial, trivial, trivial, trivial, trivial,
      trivial⟩
  have h : Reach (fun _ h => h.ByManager) 3 d := (reach_standard _).all hp
  have hn : 3 < UInt32.size - 1 := by decide
  exact ⟨h, hn, by decide, journal_replays h hn⟩

end Desk

end Switchboard
