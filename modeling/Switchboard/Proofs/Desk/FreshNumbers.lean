import Switchboard.Proofs.Desk.Mutations
import Switchboard.Proofs.Desk.Numbering

/-!
# Numbers are never given out again

A call that is dialed gets its number once admission has let it pass, and one that arrives gets its
number before admission is asked. So numbers are also spent on calls that are turned away, and on
calls that telephony does not dial. The journal names them all: where calls are dialed, as the
numbers of the calls that are added, and where a call arrives, as the number that admission decides
on.

* `Desk.issues`: the numbers that something that happens gives out, read off its events.
* `Desk.Gives`: what a request makes of the journal and of the counter, if it gives out a number,
  and if it gives out none.
* `Desk.Unnumbered`: what admission asks for names nothing, and leaves the counter alone.
* `Issuing`: numbers that are given out in order, and answers that go with them.

Until the counter wraps every number is greater than those before it, and none is taken when its
call is registered (`numbers_ascend`).
-/

namespace Switchboard

/-- A call was added, or admission decided. -/
def Event.isNaming : Event → Bool
  | callAdded _ | admissionDecided .. => true
  | _ => false

/-- The number of the call that was added. -/
def Event.added? : Event → Option CallId
  | callAdded c => some c.id
  | _ => none

/-- The number that admission decided on. -/
def Event.judged? : Event → Option CallId
  | admissionDecided id _ => id
  | _ => none

/-- How many calls are dialed, or arrive. -/
def Happening.calls : Happening → Nat
  | operation (.dial _) | operation (.arrive _) => 1
  | operation (.dialTogether requests) => requests.length
  | _ => 0

/-- How many calls are dialed, or arrive, in a run. -/
def Happening.callsIn : List Happening → Nat
  | [] => 0
  | h :: hs => h.calls + callsIn hs

/-- How events name the numbers that a happening gives out. -/
def Happening.names : Happening → Event → Option CallId
  | operation (.dial _) | operation (.dialTogether _) => Event.added?
  | operation (.arrive _) => Event.judged?
  | _ => fun _ => none

/-- What a reply says of calls that were dialed, or that arrived. -/
def Reply.answers : Reply → List (Except CallError CallId)
  | dialed answer => [answer]
  | dialedTogether answers => answers
  | arrived answer => [answer.map (·.1)]
  | _ => []

/-! ## Numbers in order -/

/-- After `n` numbers, the numbers `ids` are given out in order. Answers speak of no others, and
none of them is that a number was taken. -/
structure Issuing (n : Nat) (ids : List CallId) (answers : List (Except CallError CallId)) :
    Prop where
  consecutive : ids.map (·.toNat) = List.range' (n + 1) ids.length
  known (id : CallId) : .ok id ∈ answers → id ∈ ids
  sound (message : String) : .error (.internal message) ∉ answers

namespace Issuing

variable {n : Nat} {ids ids' : List CallId} {answers answers' : List (Except CallError CallId)}

theorem nil (n : Nat) : Issuing n [] [] := ⟨rfl, by simp, by simp⟩

/-- What is issued on top of what was issued before. -/
theorem append (h : Issuing n ids answers) (h' : Issuing (n + ids.length) ids' answers') :
    Issuing n (ids ++ ids') (answers ++ answers') := by
  refine ⟨?_, fun id hid => ?_, fun message hm => ?_⟩
  · rw [List.map_append, h.consecutive, h'.consecutive, Nat.add_right_comm, List.range'_append_1,
      List.length_append]
  · exact List.mem_append.mpr ((List.mem_append.mp hid).imp (h.known id) (h'.known id))
  · exact (List.mem_append.mp hm).elim (h.sound message) (h'.sound message)

/-- Consecutive numbers ascend, also as numbers of 32 bits. -/
theorem ascending (h : Issuing n ids answers) : ids.Pairwise (· < ·) := by
  have hp : (ids.map (·.toNat)).Pairwise (· < ·) := by
    rw [h.consecutive]
    exact List.pairwise_lt_range'
  exact (List.pairwise_map.mp hp).imp UInt32.lt_iff_toNat_lt.mpr

/-- The last number that was issued is the greatest. -/
theorem toNat_le (h : Issuing n ids answers) {id : CallId} (hid : id ∈ ids) :
    id.toNat ≤ n + ids.length := by
  have hm : id.toNat ∈ ids.map (·.toNat) := List.mem_map_of_mem hid
  rw [h.consecutive, List.mem_range'_1] at hm
  omega

end Issuing

namespace Desk

open DeskM

/-- The numbers that the journal names. -/
def named (d : Desk) (names : Event → Option CallId) : List CallId :=
  d.journal.entries.filterMap names

/-- The numbers that a happening gives out, as its events name them. -/
def issues (d : Desk) (h : Happening) : List CallId :=
  ((d.after h).journal.entries.drop d.journal.entries.length).filterMap h.names

/-- What a happening answers of calls that were dialed, or that arrived. -/
def answers (d : Desk) : Happening → List (Except CallError CallId)
  | .operation o => (o.perform d).1.answers
  | _ => []

/-- What is read off happenings, one after the other. -/
def along {α : Type} (read : Desk → Happening → List α) : Desk → List Happening → List α
  | _, [] => []
  | d, h :: rest => read d h ++ (d.after h).along read rest

variable {names : Event → Option CallId} {d d' d'' : Desk} {n : Nat} {ids : List CallId}

/-! ## What the journal names -/

theorem named_emit (d : Desk) {e : Event} (he : names e = none) :
    (d.emit e).named names = d.named names := by
  unfold named emit Journal.emit
  rw [List.filterMap_append, List.filterMap_cons_none he, List.filterMap_nil, List.append_nil]

theorem named_tell (d : Desk) {e : Event} {id : CallId} (he : names e = some id) :
    (d.emit e).named names = d.named names ++ [id] := by
  unfold named emit Journal.emit
  rw [List.filterMap_append, List.filterMap_cons_some he, List.filterMap_nil]

section

variable (hn : ∀ e, e.isNaming = false → names e = none)
include hn

/-- Nothing that goes on by itself names a number. -/
theorem ignoresAudio_named : IgnoresAudio (named · names) where
  playbackOnly h := h.journal.filterMap_eq fun e he => hn e (by cases e <;> first | rfl | cases he)
  machines _ _ _ := rfl
  told d e he := named_emit d (hn e (by cases e <;> first | rfl | cases he))
  asked _ _ _ := rfl
  unmuted _ := view_applyMute (named · names) rfl fun d => named_emit d (hn _ rfl)
  noted _ _ _ _ _ _ _ _ := rfl

theorem named_telephoned (d : Desk) (command : Command) :
    (d.telephoned command).named names = d.named names :=
  (audioMutations_kept d).view_eq (ignoresAudio_named hn)

theorem named_moved (d : Desk) (c : Call) (next : CallState) :
    (d.moved c next).named names = d.named names := by
  unfold moved
  dsimp only
  split
  · rfl
  · exact ((audioMutations_updated _ c c.state next).view_eq (ignoresAudio_named hn)).trans
      (named_emit _ (hn _ rfl))

theorem named_dropped (d : Desk) (c : Call) : (d.dropped c).named names = d.named names := by
  have he := named_emit { d with registry := d.registry.erase c.id }
    (hn (.callRemoved c.id c.ended) rfl)
  unfold dropped
  dsimp only
  split
  · exact ((audioMutations_ringingCallGone _ c).view_eq (ignoresAudio_named hn)).trans he
  · exact ((audioMutations_callMoved _ _ _ _).view_eq (ignoresAudio_named hn)).trans he

theorem named_finished (d : Desk) (c : Call) (ended : EndReason) :
    (d.finished c ended).named names = d.named names :=
  (named_dropped hn _ _).trans (named_moved hn (d.amended c.id ({ · with ended })) _ _)

theorem named_added (d : Desk) (c : Call) (registry : Registry) :
    (d.added c registry).named names = ({ d with registry }.emit (.callAdded c)).named names :=
  (audioMutations_callCreated _ c).view_eq (ignoresAudio_named hn)

end

/-! ## What admission asks for -/

/-- Nothing was named, the counter is as it was, and no call was registered. -/
structure Unnumbered (names : Event → Option CallId) (d d' : Desk) : Prop where
  named : d'.named names = d.named names
  nextId : d'.registry.nextId = d.registry.nextId
  ids : d'.registry.calls.map (·.id) ⊆ d.registry.calls.map (·.id)

theorem Unnumbered.trans (h : Unnumbered names d d') (h' : Unnumbered names d' d'') :
    Unnumbered names d d'' :=
  ⟨h'.named.trans h.named, h'.nextId.trans h.nextId, List.Subset.trans h'.ids h.ids⟩

/-- A number that was free still is. -/
theorem Unnumbered.free (h : Unnumbered names d d') {id : CallId}
    (hf : ∀ c ∈ d.registry.calls, c.id ≠ id) : ∀ c ∈ d'.registry.calls, c.id ≠ id := by
  intro c' hc'
  obtain ⟨c, hc, hid⟩ := List.mem_map.mp (h.ids (List.mem_map_of_mem hc'))
  rw [← hid]
  exact hf c hc

/-- One action names nothing, and does not fail for a number that is taken. -/
theorem named_act (hn : ∀ e, e.isNaming = false → names e = none) (a : Admission.Action)
    (d : Desk) :
    (act a).Ends d (fun _ d' => d'.named names = d.named names)
      (fun e d' => (∀ message, e ≠ .internal message) ∧ d'.named names = d.named names) := by
  have ha (id : CallId) : (∀ message, CallError.callNotFound id ≠ .internal message) ∧
      d.named names = d.named names := ⟨by simp, rfl⟩
  have ht (command : Command) :
      (∀ message, d.outside.failure (.telephony command) ≠ .internal message) ∧
        (d.telephoned command).named names = d.named names :=
    ⟨d.outside.failure_ne_internal command, named_telephoned hn d command⟩
  cases a with
  | hold id =>
    refine ends_commanded (fun c hc hid => ?_) (ha id) fun _ => ht _
    subst hid
    exact (ends_setState_of_mem (by simpa using hc)).mpr
      ((named_moved hn _ _ _).trans (named_telephoned hn d _))
  | hangUp id =>
    refine ends_commanded (fun c hc hid => ?_) (ha id) fun _ => ht _
    subst hid
    exact (ends_finish_of_mem (by simpa using hc)).mpr
      ((named_finished hn _ _ _).trans (named_telephoned hn d _))
  | reject id =>
    refine ends_commanded (fun c hc hid => ?_) (ha id) fun _ => ht _
    subst hid
    exact (ends_unregister_of_mem (by simpa using hc)).mpr
      ((named_dropped hn _ _).trans (named_telephoned hn d _))

theorem named_actAll (hn : ∀ e, e.isNaming = false → names e = none)
    (actions : List Admission.Action) (d : Desk) :
    (actAll actions).Ends d (fun _ d' => d'.named names = d.named names)
      (fun e d' => (∀ message, e ≠ .internal message) ∧ d'.named names = d.named names) := by
  induction actions generalizing d with
  | nil => exact rfl
  | cons a rest ih =>
    unfold actAll
    rw [ends_bind]
    refine (named_act hn a d).mono (fun _ d₁ h₁ => ?_) fun _ _ h => h
    rw [← h₁]
    exact ih d₁

/-- What admission asks for gives out no number, and does not fail for one that is taken. -/
theorem unnumbered_actAll (hn : ∀ e, e.isNaming = false → names e = none)
    (actions : List Admission.Action) (d : Desk) :
    (actAll actions).Ends d (fun _ => Unnumbered names d)
      (fun e d' => (∀ message, e ≠ .internal message) ∧ Unnumbered names d d') := by
  refine ((named_actAll hn actions d).and (actAll_applies actions d)).mono
    (fun _ d' h => ?_) fun e d' h => ?_
  · obtain ⟨hnamed, hcalls, hnext⟩ := h
    refine ⟨hnamed, hnext, ?_⟩
    rw [hcalls]
    exact Admission.ids_applyAll_subset actions _
  · obtain ⟨⟨he, hnamed⟩, -, hnext, hpartly⟩ := h
    exact ⟨he, hnamed, hnext, hpartly.ids_subset⟩

/-! ## Requests that give out a number -/

/-- The next number was given out and named, or nothing was. -/
inductive Gives (names : Event → Option CallId) (d d' : Desk) : List CallId → Prop
  | none (hn : d'.named names = d.named names) (hi : d'.registry.nextId = d.registry.nextId) :
    Gives names d d' []
  | next (hn : d'.named names = d.named names ++ [d.registry.nextId])
    (hi : d'.registry.nextId = d.registry.nextId + 1) : Gives names d d' [d.registry.nextId]

theorem Unnumbered.gives (h : Unnumbered names d d') : Gives names d d' [] := .none h.named h.nextId

theorem Gives.unchanged (h : Gives names d d' ids) (hn : d''.named names = d'.named names)
    (hi : d''.registry.nextId = d'.registry.nextId) : Gives names d d'' ids := by
  cases h with
  | none hn' hi' => exact .none (hn.trans hn') (hi.trans hi')
  | next hn' hi' => exact .next (hn.trans hn') (hi.trans hi')

theorem Gives.named (h : Gives names d d' ids) : d'.named names = d.named names ++ ids := by
  cases h with
  | none hn => rw [hn, List.append_nil]
  | next hn => exact hn

/-- What is named is what the counter has counted. -/
theorem Gives.length_eq (h : Gives names d d' ids) : ids.length = d.fresh d' := by
  cases h with
  | none _ hi => exact (fresh_eq (k := 0) (by decide) (by simpa using hi)).symm
  | next _ hi => exact (fresh_eq (k := 1) (by decide) hi).symm

theorem Gives.consecutive (h : Gives names d d' ids) (hn : d.registry.nextId.toNat = n + 1) :
    ids.map (·.toNat) = List.range' (n + 1) ids.length := by
  cases h with
  | none => rfl
  | next => exact congrArg (fun k => [k]) hn

/-- The failure is not that a number was taken, and at most the next one was given out. -/
def Excused (names : Event → Option CallId) (d : Desk) (e : CallError) (d' : Desk) : Prop :=
  (∀ message, e ≠ .internal message) ∧ ∃ ids, Gives names d d' ids

/-- The next number is free. -/
def Free (d : Desk) : Prop := ∀ c ∈ d.registry.calls, c.id ≠ d.registry.nextId

/-- Below the bound the next number is greater than every registered one, so it is free. -/
theorem Numbered.free (hd : Numbered n d) (hlt : n < UInt32.size - 1) : d.Free := by
  obtain ⟨hnext, hle⟩ := hd hlt
  intro c hc he
  have := hle c hc
  rw [he, hnext] at this
  exact Nat.not_succ_le_self n this

theorem isNaming_of_added? (e : Event) (he : e.isNaming = false) : e.added? = none := by
  cases e <;> first | rfl | cases he

theorem isNaming_of_judged? (e : Event) (he : e.isNaming = false) : e.judged? = none := by
  cases e <;> first | rfl | cases he

/-- The call is registered with the number that was just given out, and so the number is named. -/
theorem gives_register {c : Call} (h : Unnumbered Event.added? d d') (hc : c.id = d.registry.nextId)
    (hfree : d.Free) {E : CallError → Desk → Prop} :
    (register c).Ends d'.issued (fun _ d'' => Gives Event.added? d d'' [c.id]) E := by
  have habsent : ∀ x ∈ d'.issued.registry.calls, x.id ≠ c.id := by
    rw [hc]
    exact h.free hfree
  refine ends_register_of_absent habsent fun registry hr => ?_
  rw [hc]
  refine .next ?_ ?_
  · rw [named_added isNaming_of_added?, named_tell _ rfl, hc]
    exact congrArg (· ++ _) h.named
  · rw [registry_added, (Registry.insert_eq_ok hr).2.1]
    exact congrArg (· + 1) h.nextId

/-- A dial request gives a number out once admission lets it pass, also if telephony then fails it.
-/
theorem gives_dialAdmitted (request : DialRequest) (hfree : d.Free) :
    (dialAdmitted request).Ends d (fun id d' => Gives Event.added? d d' [id])
      (Excused Event.added? d) := by
  refine (ends_bind _).mpr (ends_evaluate.mpr ?_)
  -- What admission decides matters only where it is carried out.
  generalize d.policy.evaluate _ _ = outcome
  have he : Unnumbered Event.added? d (d.emit (.admissionDecided none outcome.decision)) :=
    ⟨named_emit d rfl, rfl, List.Subset.refl _⟩
  split
  · exact (ends_bind _).mpr ((ends_throw _).mpr ⟨by simp [refusal], _, he.gives⟩)
  refine (ends_bind _).mpr ((unnumbered_actAll isNaming_of_added? outcome.actions _).mono
    (fun _ d₁ h₁ => ?_) fun _ _ h₁ => ⟨h₁.1, _, (he.trans h₁.2).gives⟩)
  refine (ends_bind _).mpr (ends_allocate.mpr ?_)
  have hr := gives_register (c := request.toCall d₁.registry.nextId) (he.trans h₁) h₁.nextId hfree
    (E := Excused Event.added? d)
  refine (ends_bind _).mpr (hr.mono (fun _ d₂ h₂ => ?_) fun _ _ h => h)
  have ht := h₂.unchanged
    (named_telephoned isNaming_of_added? d₂ (.dial (request.toCall d₁.registry.nextId)))
    (by rw [registry_telephoned])
  refine (ends_bind _).mpr ((ends_tryCatch _).mpr (ends_telephone ht ?_))
  exact (ends_bind _).mpr (ends_unregister
    (fun x _ _ => ⟨d₂.outside.failure_ne_internal _, _,
      ht.unchanged (named_dropped isNaming_of_added? _ x) (by rw [registry_dropped]; rfl)⟩)
    fun _ => ⟨d₂.outside.failure_ne_internal _, _, ht⟩)

/-- The dial flag is none of it. -/
theorem Gives.flagged {dialing dialing' : Bool} (h : Gives names { d with dialing } d' ids) :
    Gives names d { d' with dialing := dialing' } ids := by
  cases h with
  | none hn hi => exact .none hn hi
  | next hn hi => exact .next hn hi

theorem gives_dial (request : DialRequest) (hfree : d.Free) :
    (inService (dial request)).Ends d (fun id d' => Gives Event.added? d d' [id])
      (Excused Event.added? d) := by
  refine ends_inService (fun _ => (ends_bind _).mpr ?_) fun _ => ⟨by simp, _, .none rfl rfl⟩
  rw [ends_get]
  split
  · exact (ends_bind _).mpr ((ends_throw _).mpr ⟨by simp, _, .none rfl rfl⟩)
  · exact ends_whileDialing.mpr ((gives_dialAdmitted (d := { d with dialing := true }) request
      hfree).mono (fun _ _ h => h.flagged) fun _ _ ⟨he, _, h⟩ => ⟨he, _, h.flagged⟩)

/-- An arrival gives a number out before anything can go wrong. -/
theorem gives_arrive (arrival : Arrival) (hfree : d.Free) :
    (inService (arrive arrival)).Ends d (fun answer d' => Gives Event.judged? d d' [answer.1])
      (Excused Event.judged? d) := by
  refine ends_inService (fun _ => ?_) fun _ => ⟨by simp, _, .none rfl rfl⟩
  refine (ends_bind _).mpr (ends_allocate.mpr ?_)
  refine (ends_bind _).mpr (ends_evaluate.mpr ?_)
  generalize d.issued.policy.evaluate _ _ = outcome
  have he : Gives Event.judged? d
      (d.issued.emit (.admissionDecided (some d.registry.nextId) outcome.decision))
      [d.registry.nextId] := .next (named_tell _ rfl) rfl
  have told {d' : Desk} (h : Gives Event.judged? d d' [d.registry.nextId]) (command : Command) :
      Gives Event.judged? d (d'.telephoned command) [d.registry.nextId] :=
    h.unchanged (named_telephoned isNaming_of_judged? d' command) (by rw [registry_telephoned])
  split
  · exact (ends_bind _).mpr (ends_telephone (told he _)
      ⟨Outside.failure_ne_internal _ _, _, told he _⟩)
  -- The number is spent by now, whether admission's actions succeed or not.
  refine (ends_bind _).mpr ((ends_tryCatch _).mpr ?_)
  refine (unnumbered_actAll isNaming_of_judged? outcome.actions _).mono (fun _ d₁ h₁ => ?_)
    fun e d₁ h₁ => ?_
  · have h₂ := he.unchanged h₁.named h₁.nextId
    have hr (c : Call) (hc : c.id = d.registry.nextId) :
        (register c).Ends d₁ (fun _ d' => Gives Event.judged? d d' [d.registry.nextId])
          (Excused Event.judged? d) := by
      refine ends_register_of_absent (hc ▸ h₁.free hfree) fun registry hr => h₂.unchanged ?_ ?_
      · rw [named_added isNaming_of_judged?]
        exact named_emit _ rfl
      · rw [registry_added, (Registry.insert_eq_ok hr).2.1]
    refine (ends_bind _).mpr ((hr _ ?_).mono (fun _ _ h => h) fun _ _ h => h)
    split <;> rfl
  · have h₂ := he.unchanged h₁.2.named h₁.2.nextId
    exact (ends_bind _).mpr ((ends_tryCatch _).mpr
      (ends_telephone ⟨h₁.1, _, told h₂ _⟩ ⟨h₁.1, _, told h₂ _⟩))

/-! ## What happens at the desk -/

/-- What a request does that gives out a number, and what it answers. -/
theorem issuing_of_ends {α : Type} {x : DeskM α} (number : α → CallId)
    (hx : x.Ends d (fun a d' => Gives names d d' [number a]) (Excused names d))
    (hn : d.registry.nextId.toNat = n + 1) :
    ∃ ids, Gives names d (x.perform d).2 ids ∧ Issuing n ids [(x.perform d).1.map number] := by
  cases hr : (x.perform d).1 with
  | ok a =>
    have hg := hx.succeeded hr
    exact ⟨_, hg, hg.consecutive hn, by simp [Except.map], by simp [Except.map]⟩
  | error e =>
    obtain ⟨he, ids, hg⟩ := hx.failed hr
    exact ⟨ids, hg, hg.consecutive hn, by simp [Except.map],
      by simpa [Except.map] using fun message => (he message).symm⟩

theorem issuing_dial (request : DialRequest) (hd : Numbered n d) (hlt : n < UInt32.size - 1) :
    ∃ ids, Gives Event.added? d ((inService (dial request)).perform d).2 ids ∧
      Issuing n ids [((inService (dial request)).perform d).1] := by
  obtain ⟨ids, hg, hi⟩ := issuing_of_ends id (gives_dial request (hd.free hlt)) (hd hlt).1
  refine ⟨ids, hg, ?_⟩
  cases hr : ((inService (dial request)).perform d).1 <;> simpa [hr, Except.map] using hi

/-- Requests that find another one in progress get no number. -/
theorem Issuing.waiting (h : Issuing n ids []) (requests : List DialRequest) :
    Issuing n ids (requests.map fun _ => .error .dialInProgress) :=
  ⟨h.consecutive, by simp, by simp⟩

/-- Requests put at once wait for the one that is in progress; those after it get its answer. -/
theorem issuing_dialTogether (requests : List DialRequest) (hd : Numbered n d)
    (hf : d.dialing = false) (hlt : n + requests.length < UInt32.size - 1) :
    ∃ ids, (dialTogether requests d).2.named Event.added? = d.named Event.added? ++ ids ∧
      ids.length = freshTogether requests d ∧ Issuing n ids (dialTogether requests d).1 := by
  induction requests generalizing n d with
  | nil => exact ⟨[], (List.append_nil _).symm, rfl, .nil n⟩
  | cons request rest ih =>
    rw [List.length_cons] at hlt
    obtain ⟨ids, hg, hi⟩ := issuing_dial request hd (by omega)
    have hp : Transitions (.order False) d _ _ := transitions_dial trivial request d
    obtain ⟨hd', hf'⟩ := hp.numbered hd hf
    rw [← hg.length_eq] at hd'
    have hle : ids.length ≤ 1 := by cases hg <;> simp
    unfold freshTogether dialTogether
    dsimp only
    split
    · obtain ⟨ids', hn', hl', hi'⟩ := ih hd' hf' (by omega)
      refine ⟨ids ++ ids', ?_, ?_, hi.append hi'⟩
      · rw [hn', hg.named, List.append_assoc]
      · rw [List.length_append, hl', hg.length_eq]
    · refine ⟨ids, hg.named, hg.length_eq, ?_⟩
      have hw := hi.append (Issuing.waiting (.nil _) rest)
      rwa [List.append_nil] at hw

/-- What is named on top of what was named before are the numbers that an operation gives out. -/
theorem issues_eq {o : Operation} (h : (o.perform d).2.named (Happening.operation o).names =
    d.named (Happening.operation o).names ++ ids) : d.issues (.operation o) = ids := by
  have hb : Mutations (· ∉ []) d (o.perform d).2 := mutations_operation (by simp) (by simp)
  obtain ⟨events, he⟩ := hb.entries_prefix
  unfold named at h
  rw [← he, List.filterMap_append] at h
  show ((o.perform d).2.journal.entries.drop _).filterMap _ = ids
  rw [← he, List.drop_left]
  exact List.append_cancel_left h

/-- What happens otherwise gives out no numbers. -/
theorem given_eq_zero {h : Happening} (hr : .register ∉ h.deeds) : d.given h = 0 := by
  have fresh {d' : Desk} (hi : d'.registry.nextId = d.registry.nextId) : d.fresh d' = 0 := if_pos hi
  cases h with
  | operation o =>
    have hp : Transitions (.order False) d 0 (o.perform d).2 :=
      transitions_of_not_register hr ((Happening.operation o).heeds_order False d) False.elim
    have hi : (o.perform d).2.registry.nextId = d.registry.nextId := by simpa using hp.nextId_eq
    cases o with
    | dialTogether => simp [Happening.deeds, Operation.deeds] at hr
    | _ => exact fresh hi
  | audio o => exact fresh (audio_alike o d).nextId
  | circumstance c => cases c <;> exact fresh rfl
  | rest => exact fresh (congrArg Registry.nextId (registry_drain d))

/-- One thing that happens, with its answers. -/
theorem issuing_after (h : Happening) (hd : Numbered n d) (hf : d.dialing = false)
    (hlt : n + h.calls < UInt32.size - 1) :
    (d.issues h).length = d.given h ∧ Issuing n (d.issues h) (d.answers h) := by
  have other (hn : h.names = fun _ => none) (ha : d.answers h = []) (hr : .register ∉ h.deeds) :
      (d.issues h).length = d.given h ∧ Issuing n (d.issues h) (d.answers h) := by
    have hi : d.issues h = [] := by
      unfold issues
      rw [hn]
      exact List.filterMap_eq_nil_iff.mpr fun _ _ => rfl
    rw [hi, ha, given_eq_zero hr]
    exact ⟨rfl, .nil n⟩
  have hn : n < UInt32.size - 1 := by omega
  cases h with
  | operation o =>
    cases o with
    | dial request =>
      obtain ⟨ids, hg, hi⟩ := issuing_dial request hd hn
      rw [issues_eq (o := .dial request) hg.named]
      exact ⟨hg.length_eq, hi⟩
    | arrive arrival =>
      obtain ⟨ids, hg, hi⟩ := issuing_of_ends Prod.fst (gives_arrive arrival (hd.free hn)) (hd hn).1
      rw [issues_eq (o := .arrive arrival) hg.named]
      exact ⟨hg.length_eq, hi⟩
    | dialTogether requests =>
      obtain ⟨ids, hnamed, hl, hi⟩ := issuing_dialTogether requests hd hf hlt
      rw [issues_eq (o := .dialTogether requests) hnamed]
      exact ⟨hl, hi⟩
    | _ => exact other rfl rfl (by simp [Happening.deeds, Operation.deeds])
  | audio | circumstance | rest => exact other rfl rfl (by simp [Happening.deeds])

theorem fresh_le_one (d d' : Desk) : d.fresh d' ≤ 1 := by
  unfold fresh
  split <;> omega

theorem freshTogether_le (requests : List DialRequest) (d : Desk) :
    freshTogether requests d ≤ requests.length := by
  induction requests generalizing d with
  | nil => exact Nat.le_refl 0
  | cons request rest ih =>
    have hle := d.fresh_le_one ((inService (dial request)).perform d).2
    unfold freshTogether
    dsimp only
    rw [List.length_cons]
    split
    · have := ih ((inService (dial request)).perform d).2
      omega
    · omega

/-- No more numbers are given out than calls are dialed or arrive. -/
theorem given_le_calls (d : Desk) (h : Happening) : d.given h ≤ h.calls := by
  have other (hr : .register ∉ h.deeds) : d.given h ≤ h.calls := by
    rw [given_eq_zero hr]
    exact Nat.zero_le _
  cases h with
  | operation o =>
    cases o with
    | dial | arrive => exact d.fresh_le_one _
    | dialTogether requests => exact freshTogether_le requests d
    | _ => exact other (by simp [Happening.deeds, Operation.deeds])
  | audio | circumstance | rest => exact other (by simp [Happening.deeds])

/-! ## Every run -/

/-- A run, as its happenings one after the other. -/
theorem issuing_along (hs : List Happening) (hd : Numbered n d) (hf : d.dialing = false)
    (hlt : n + Happening.callsIn hs < UInt32.size - 1) :
    Issuing n (d.along issues hs) (d.along answers hs) ∧
      Numbered (n + (d.along issues hs).length) (d.afterAll hs) ∧
      (d.along issues hs).length ≤ Happening.callsIn hs := by
  induction hs generalizing n d with
  | nil => exact ⟨.nil n, hd, Nat.le_refl 0⟩
  | cons h rest ih =>
    rw [Happening.callsIn] at hlt ⊢
    have hle := d.given_le_calls h
    obtain ⟨hl, hi⟩ := issuing_after h hd hf (by omega)
    obtain ⟨hd', hf'⟩ := numbered_after hd hf h
    rw [← hl] at hd' hle
    obtain ⟨hi', hn', hle'⟩ := ih hd' hf' (by omega)
    unfold along afterAll
    rw [List.length_append, ← Nat.add_assoc]
    exact ⟨hi.append hi', hn', by omega⟩

/-- **Numbers are never given out again.** In every run in which fewer calls are dialed or arrive
than there are numbers, whatever fails, the numbers that are given out ascend, and there are as many
as the counter has counted. Every number that was given out and that of every registered call is
smaller than the next one. A number that is answered was given out, and neither a dial request nor
an arrival fails because its number was taken. -/
theorem numbers_ascend {config : Config} {missing : List Collaborator} {outside : Outside}
    (hd : assemble config missing outside = .ok d) {hs : List Happening}
    (hlt : Happening.callsIn hs < UInt32.size - 1) :
    (d.along issues hs).Pairwise (· < ·) ∧
      (d.afterAll hs).registry.nextId.toNat = (d.along issues hs).length + 1 ∧
      (∀ id ∈ d.along issues hs, id < (d.afterAll hs).registry.nextId) ∧
      (∀ c ∈ (d.afterAll hs).registry.calls, c.id < (d.afterAll hs).registry.nextId) ∧
      (∀ id, .ok id ∈ d.along answers hs → id ∈ d.along issues hs) ∧
      ∀ message, .error (.internal message) ∉ d.along answers hs := by
  have hidle : Numbered 0 d ∧ d.dialing = false := by
    rw [assemble_eq hd]
    exact ⟨numbered_idle config outside, rfl⟩
  obtain ⟨hi, hn, hle⟩ := issuing_along hs hidle.1 hidle.2 (by omega)
  rw [Nat.zero_add] at hn
  obtain ⟨hnext, hcalls⟩ := hn (by omega)
  refine ⟨hi.ascending, hnext, fun id hid => ?_, fun c hc => ?_, hi.known, hi.sound⟩
  · rw [UInt32.lt_iff_toNat_lt, hnext]
    have := hi.toNat_le hid
    omega
  · rw [UInt32.lt_iff_toNat_lt, hnext]
    exact Nat.lt_succ_of_le (hcalls c hc)

/-- A number is spent on a call that telephony does not dial, and one on an arrival that is refused
while two calls ring. Then these give way to an emergency call. -/
theorem numbers_ascend_spent :
    let run : List Happening :=
      [.operation .start, .circumstance (.setFailing .dial true),
        .operation (.dial ⟨"1", 0, .cs, .voice, false⟩), .circumstance (.setFailing .dial false),
        .operation (.arrive ⟨"2", 0, .cs, .voice⟩), .operation (.arrive ⟨"3", 0, .cs, .voice⟩),
        .operation (.arrive ⟨"4", 0, .cs, .voice⟩),
        .operation (.dialTogether [⟨"112", 0, .cs, .voice, true⟩, ⟨"5", 0, .cs, .voice, false⟩])]
    assemble .standard [] (.willing 0) = .ok standard ∧ Happening.callsIn run < UInt32.size - 1 ∧
      standard.along issues run = [1, 2, 3, 4, 5] ∧
      (standard.afterAll run).registry.calls.map (·.id) = [5] ∧
      (∀ id ∈ standard.along issues run, id < (standard.afterAll run).registry.nextId) ∧
      ∀ message, .error (.internal message) ∉ standard.along answers run := by
  intro run
  have hd : assemble .standard [] (.willing 0) = .ok standard := rfl
  have hlt : Happening.callsIn run < UInt32.size - 1 := by decide
  obtain ⟨-, -, hbelow, -, -, hsound⟩ := numbers_ascend hd hlt
  exact ⟨hd, hlt, by decide +kernel, by decide +kernel, hbelow, hsound⟩

end Desk

end Switchboard
