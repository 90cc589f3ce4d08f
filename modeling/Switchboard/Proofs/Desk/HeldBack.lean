import Switchboard.Proofs.Desk.Mutations

/-!
# Calls that are held back

When a ringing call is rejected, the calls that are on hold are held back: they are not resumed
without being asked for. That is lifted when the user resumes such a call (`unhold`), but not when
it leaves hold by a switch, in a conference or by a report of the radio. As long as this does not
happen (`Desk.Forgets`), a call that is held back is on hold, and it was there when a ringing call
was rejected (`held_back_since`).

* `Journal.changes`: how often a call went into another state, as far as the listeners know.
* `Desk.Retains`: what every step keeps of the calls that are held back.
* `Desk.Upheld`: only calls on hold are held back.

A switch that forgets: `switch_forgets`.
-/

namespace Switchboard

/-! ## Changes of a state, as they are said -/

/-- The event is news of a call in another state. -/
def Event.isChangeOf (id : CallId) : Event → Bool
  | .callStateChanged id' _ _ => id' == id
  | _ => false

namespace Journal

/-- How often a call was said to have gone into another state. -/
def changes (j : Journal) (id : CallId) : Nat := j.entries.countP (·.isChangeOf id)

theorem changes_emit (j : Journal) (e : Event) (id : CallId) :
    (j.emit e).changes id = j.changes id + if e.isChangeOf id then 1 else 0 := by
  unfold changes emit
  rw [List.countP_append, List.countP_singleton]

theorem changes_emit_of_no {j : Journal} {e : Event} (he : ∀ id, e.isChangeOf id = false) :
    (j.emit e).changes = j.changes := funext fun id => by
  rw [changes_emit, he id]
  rfl

theorem AddsOnly.changes_eq {j j' : Journal} (h : j.AddsOnly Event.isPlayback j') :
    j'.changes = j.changes := funext fun id =>
  h.reading_eq (·.countP (Event.isChangeOf id)) fun events e he => by
    have hc : e.isChangeOf id = false := by cases e <;> first | rfl | cases he
    simp [hc]

end Journal

/-- The operation may take a call off hold that is held back, and leave it so. -/
def Happening.releases : Happening → Bool
  | operation (.switch _) | operation (.combine _) | operation (.separate _)
  | operation (.reportState ..) => true
  | _ => false

namespace Desk

open DeskM

variable {allowed : Deed → Prop} {rule : Rule} {free : Prop} {d d' d'' : Desk} {n : Nat}

/-! ## Mutations that take no call into another state -/

/-- The calls, and how often each one was said to have gone into another state. -/
def states (d : Desk) : List Call × (CallId → Nat) := (d.registry.calls, d.journal.changes)

theorem states_emit (d : Desk) {e : Event} (he : ∀ id, e.isChangeOf id = false) :
    (d.emit e).states = d.states := congrArg (Prod.mk _) (Journal.changes_emit_of_no he)

/-- The machines and the players neither move a call nor say that one has moved. -/
theorem ignoresMachines_states : IgnoresMachines states where
  playbackOnly h := by
    unfold states
    rw [h.journal.changes_eq, h.rest]
  machines _ _ _ := rfl
  told d e he := states_emit d fun id => by cases e <;> first | rfl | cases he
  asked _ _ _ := rfl

/-- Every call that is held back was so before, and in the state that it is in. -/
structure Still (d d' : Desk) : Prop where
  changes : d'.journal.changes = d.journal.changes
  traced : ∀ c' ∈ d'.registry.calls, c'.canUnhold = false →
    ∃ c ∈ d.registry.calls, c.id = c'.id ∧ c.state = c'.state ∧ c.canUnhold = false

/-- Where the calls and what is said of them are the same, nothing has moved. -/
theorem Still.of_states (h : d'.states = d.states) : Still d d' := by
  obtain ⟨hr, hc⟩ := Prod.mk.inj h
  exact ⟨hc, fun c hm hu => ⟨c, hr ▸ hm, rfl, rfl, hu⟩⟩

theorem Still.trans (h : Still d d') (h' : Still d' d'') : Still d d'' := by
  refine ⟨h'.changes.trans h.changes, fun c'' hc'' hu'' => ?_⟩
  obtain ⟨c', hc', hid', hs', hu'⟩ := h'.traced c'' hc'' hu''
  obtain ⟨c, hc, hid, hs, hu⟩ := h.traced c' hc' hu'
  exact ⟨c, hc, hid.trans hid', hs.trans hs', hu⟩

/-- A mutation that may neither move a call nor hold one back does neither. -/
theorem Mutation.still (h : Mutation allowed d d') (hm : ¬allowed .move) (hb : ¬allowed .holdBack) :
    Still d d' := by
  cases h with
  | sounded h => exact .of_states (ignoresMachines_states.playbackOnly h.playbackOnly)
  | turned calls => exact .of_states (ignoresMachines_states.turned d calls _)
  | routed next => exact .of_states (ignoresMachines_states.moveRoute d next)
  | muted => exact .of_states (view_applyMute states rfl fun _ => states_emit _ fun _ => rfl)
  | ringer | setFailAfter | noted | asked | issued => exact .of_states rfl
  | @told e he => exact .of_states (states_emit d fun _ => by cases e <;> first | rfl | cases he)
  | amended hf hu =>
    refine ⟨rfl, fun c' hc' hu' => ?_⟩
    rcases Registry.mem_adjust.mp hc' with ⟨hc, -⟩ | ⟨c, hc, hid, rfl⟩
    · exact ⟨c', hc, rfl, rfl, hu'⟩
    · exact ⟨c, hc, rfl, (hf c hc hid).symm, (hu c hu').resolve_right hb⟩
  | moved hm' => exact absurd hm' hm
  | added _ hi hu =>
    refine ⟨Journal.changes_emit_of_no fun _ => rfl, fun c' hc' hu' => ?_⟩
    rcases Registry.mem_place.mp ((Registry.insert_eq_ok hi).1 ▸ hc') with rfl | hc
    · rw [hu] at hu'
      cases hu'
    · exact ⟨c', hc, rfl, rfl, hu'⟩
  | dropped =>
    refine ⟨Journal.changes_emit_of_no fun _ => rfl, fun c' hc' hu' => ?_⟩
    exact ⟨c', (Registry.mem_erase.mp hc').1, rfl, rfl, hu'⟩

/-- Any number of mutations that may do neither move no call and hold none back. -/
theorem Mutations.still (h : Mutations allowed d d') (hm : ¬allowed .move)
    (hb : ¬allowed .holdBack) : Still d d' := by
  induction h with
  | refl => exact .of_states rfl
  | tail _ h ih => exact ih.trans (h.still hm hb)

/-! ## Steps -/

/-- Every call that is held back was so before. If it has gone into another state, then not from
hold, unless that is `free` to do. -/
structure Retains (free : Prop) (d d' : Desk) : Prop where
  grows : ∀ id, d.journal.changes id ≤ d'.journal.changes id
  traced : ∀ c' ∈ d'.registry.calls, c'.canUnhold = false →
    ∃ c ∈ d.registry.calls, c.id = c'.id ∧ c.canUnhold = false ∧
      (c.state = c'.state ∧ d'.journal.changes c.id = d.journal.changes c.id ∨
        (c.Pinned → free) ∧ d.journal.changes c.id < d'.journal.changes c.id)

/-- What does not move a call retains all of them. -/
theorem Still.retains (h : Still d d') : Retains free d d' := by
  refine ⟨fun id => Nat.le_of_eq (congrFun h.changes id).symm, fun c' hc' hu' => ?_⟩
  obtain ⟨c, hc, hid, hs, hu⟩ := h.traced c' hc' hu'
  exact ⟨c, hc, hid, hu, .inl ⟨hs, congrFun h.changes c.id⟩⟩

theorem Retains.of_states (h : d'.states = d.states) : Retains free d d' :=
  (Still.of_states h).retains

theorem Retains.mono {free' : Prop} (h : Retains free d d') (hf : free → free') :
    Retains free' d d' := by
  refine ⟨h.grows, fun c' hc' hu' => ?_⟩
  obtain ⟨c, hc, hid, hu, hs⟩ := h.traced c' hc' hu'
  exact ⟨c, hc, hid, hu, hs.imp_right (And.imp_left fun hb hh => hf (hb hh))⟩

/-- A call that leaves hold in one part, or in the other, leaves it in the whole. -/
theorem Retains.trans (h : Retains free d d') (h' : Retains free d' d'') : Retains free d d'' := by
  refine ⟨fun id => Nat.le_trans (h.grows id) (h'.grows id), fun c'' hc'' hu'' => ?_⟩
  obtain ⟨c', hc', hid', hu', hs'⟩ := h'.traced c'' hc'' hu''
  obtain ⟨c, hc, hid, hu, hs⟩ := h.traced c' hc' hu'
  refine ⟨c, hc, hid.trans hid', hu, ?_⟩
  rw [← hid] at hs'
  rcases hs with ⟨hs, hsame⟩ | ⟨hfree, hlt⟩
  · rcases hs' with ⟨hs', hsame'⟩ | ⟨hfree', hlt'⟩
    · exact .inl ⟨hs.trans hs', hsame'.trans hsame⟩
    · exact .inr ⟨fun hh => hfree' ⟨hs ▸ hh.1, hu'⟩, hsame ▸ hlt'⟩
  · exact .inr ⟨hfree, Nat.lt_of_lt_of_le hlt (h'.grows c.id)⟩

/-- When a change of a state has been said, mutations that take no call into another state say no
more. -/
theorem changes_said {id : CallId} {prior next : CallState}
    (h : Mutations (fun _ => False) (d.emit (.callStateChanged id prior next)) d') (id' : CallId) :
    d'.journal.changes id' = d.journal.changes id' + if id = id' then 1 else 0 := by
  rw [(h.still not_false not_false).changes]
  refine (Journal.changes_emit _ _ _).trans ?_
  simp [Event.isChangeOf]

/-- One call goes into another state, and this is said. -/
theorem retains_of_change {c : Call} {f : Call → Call} (hc : c ∈ d.registry.calls)
    (hr : d'.registry = d.registry.modify c.id f) (hu : (f c).canUnhold = c.canUnhold)
    (hj : ∀ id, d'.journal.changes id = d.journal.changes id + if c.id = id then 1 else 0)
    (hb : c.Pinned → free) : Retains free d d' := by
  refine ⟨fun id => by rw [hj]; exact Nat.le_add_right _ _, fun c' hc' hu' => ?_⟩
  rw [hr] at hc'
  rcases Registry.mem_adjust.mp hc' with ⟨hc', hne⟩ | ⟨x, hx, hid, rfl⟩
  · exact ⟨c', hc', rfl, hu', .inl ⟨rfl, by rw [hj, if_neg hne.symm]; rfl⟩⟩
  · obtain rfl := Registry.eq_of_id_eq hx hc hid
    refine ⟨x, hx, rfl, hu.symm.trans hu', .inr ⟨hb, ?_⟩⟩
    rw [hj, if_pos rfl]
    exact Nat.lt_succ_self _

/-- A call that goes into another state is said to do so just once, and no other one is. -/
theorem changes_moved (d : Desk) {c : Call} {next : CallState} (hs : c.state ≠ next) (id : CallId) :
    (d.moved c next).journal.changes id = d.journal.changes id + if c.id = id then 1 else 0 := by
  have he : d.moved c next = ((d.amended c.id ({ · with state := next })).emit
      (.callStateChanged c.id c.state next)).updated c c.state next := if_neg hs
  rw [he]
  exact changes_said (d := d.amended c.id ({ · with state := next }))
    (audioMutations_updated _ _ _ _).mutations id

/-- A call that is said to be in the state that it is in does not move. -/
theorem still_moved {c : Call} (hc : c ∈ d.registry.calls) {next : CallState}
    (hs : c.state = next) : Still d (d.moved c next) := by
  have hb : Mutations (fun _ => False) d (d.amended c.id ({ · with state := next })) := by
    refine (Mutation.amended (f := ({ · with state := next })) (fun x hx hid => ?_)
      fun _ => .inl).mutations
    rw [Registry.eq_of_id_eq hx hc hid]
    exact hs.symm
  unfold moved
  rw [if_pos hs]
  exact hb.still not_false not_false

/-- A call that is held back and goes into another state leaves hold if it was on hold. -/
theorem retains_moved {c : Call} (hc : c ∈ d.registry.calls) (next : CallState)
    (hb : c.Pinned → next = .holding ∨ free) : Retains free d (d.moved c next) := by
  by_cases hs : c.state = next
  · exact (still_moved hc hs).retains
  · refine retains_of_change hc (registry_moved d c next) rfl (changes_moved d hs) fun hh => ?_
    exact (hb hh).resolve_left fun hn => hs (hh.1.trans hn.symm)

/-- An answer takes no call off hold, since the one that it answers rings. -/
theorem retains_answered {c : Call} (hc : c ∈ d.registry.calls) (hr : c.state.isRinging)
    (media : VideoState) : Retains free d (d.answered c media) := by
  have hj (id : CallId) : (d.answered c media).journal.changes id =
      d.journal.changes id + if c.id = id then 1 else 0 :=
    changes_said (d := d.amended c.id ({ · with video := media, state := .active }))
      (audioMutations_callMoved _ _ _ _).mutations id
  refine retains_of_change hc (registry_answered d c media) rfl hj fun hh => ?_
  rw [hh.1] at hr
  cases hr

/-- Of a call that is gone nothing is kept, and the others stay. -/
theorem retains_parted {c : Call} (hc : c ∈ d.registry.calls) : Retains free d (d.parted c) := by
  have hm : Retains True d (d.moved c .disconnected) := retains_moved hc _ fun _ => .inr trivial
  have hb : Mutations (fun _ => False) (d.moved c .disconnected) (d.parted c) :=
    mutations_dropped (mem_moved hc .disconnected)
  have hs := hb.still not_false not_false
  refine ⟨fun id => (congrFun hs.changes id) ▸ hm.grows id, fun c' hc' hu' => ?_⟩
  rw [registry_parted] at hc'
  obtain ⟨hc', hne⟩ := Registry.mem_erase.mp hc'
  refine ⟨c', hc', rfl, hu', .inl ⟨rfl, ?_⟩⟩
  rw [hs.changes]
  -- The call that goes has another number than the one that stays, so what is said of it does not
  -- count.
  by_cases hd : c.state = .disconnected
  · rw [(still_moved hc hd).changes]
  · rw [changes_moved d hd, if_neg hne.symm]
    rfl

theorem Relocated.retains (h : Relocated free d d') : Retains free d d' := by
  cases h with
  | moved hc next hb => exact retains_moved hc next hb
  | answered hc hr media => exact retains_answered hc hr media
  | parted hc => exact retains_parted hc

/-- A step that neither moves a call nor holds one back retains the calls that are held back. -/
theorem Step.retains (h : Step rule d d') (hm : ¬rule.allowed .move)
    (hb : ¬rule.allowed .holdBack) : Retains (rule.allowed .release) d d' := by
  rcases h.mutations_or_relocated with h | h
  · exact (h.still hm hb).retains
  · exact h.retains

/-- Steps one after the other retain the calls that are held back. -/
theorem Steps.retains (h : Steps rule d n d') (hm : ¬rule.allowed .move)
    (hb : ¬rule.allowed .holdBack) : Retains (rule.allowed .release) d d' := by
  induction h with
  | refl => exact .of_states rfl
  | step _ h ih => exact ih.trans (h.retains hm hb)
  | issued _ ih => exact ih.trans (.of_states rfl)

/-- A transition retains the calls that are held back, as its steps do. -/
theorem Transition.retains (h : Transition rule d n d') (hm : ¬rule.allowed .move)
    (hb : ¬rule.allowed .holdBack) : Retains (rule.allowed .release) d d' := by
  cases h with
  | steps h => exact h.retains hm hb
  | @dialed _ d₁ _ h =>
    have hd : Retains (rule.allowed .release) { d with dialing := true } d₁ := h.retains hm hb
    exact ⟨hd.grows, hd.traced⟩
  | opened | stopped => exact .of_states rfl
  | closed hc => exact ((mutations_closed hc d).still hm hb).retains
  | rested => exact ((audioMutations_rest d).mutations.still hm hb).retains
  | befallen _ c =>
    refine .of_states ?_
    cases c with
    | elapse ms =>
      have hs : d.Sounded rule.allowed (d.onSound (·.elapse ms)) := .elapsed ms
      exact ignoresMachines_states.playbackOnly hs.playbackOnly
    | setFailing | failRenderAfter => rfl

theorem Transitions.retains (h : Transitions rule d n d') (hm : ¬rule.allowed .move)
    (hb : ¬rule.allowed .holdBack) : Retains (rule.allowed .release) d d' := by
  induction h with
  | refl => exact .of_states rfl
  | next _ h ih => exact ih.trans (h.retains hm hb)

/-- Whatever happens but a rejection retains the calls that are held back, unless it is of a kind
that may take them off hold. -/
theorem retains_after {h : Happening} (hm : h.ByManager)
    (hr : ∀ id, h ≠ .operation (.reject id)) : Retains (h.releases = true) d (d.after h) := by
  have hmove : .move ∉ h.deeds := by
    cases h with
    | operation o => cases o <;> simp [Happening.deeds, Operation.deeds]
    | audio | circumstance | rest => simp [Happening.deeds]
  have hback : .holdBack ∉ h.deeds := by
    cases h with
    | operation o =>
      cases o with
      | reject id => exact absurd rfl (hr id)
      | _ => simp [Happening.deeds, Operation.deeds]
    | audio | circumstance | rest => simp [Happening.deeds]
  by_cases hf : h.releases = true
  · have hh : h.Heeds (.without [.move, .holdBack]) d := h.heeds_without d (by simp [hmove, hback])
    have hp := (transitions_after hm hh False.elim).retains (by simp [Rule.without])
      (by simp [Rule.without])
    exact hp.mono fun _ => hf
  · have hrelease : .release ∉ h.deeds := by
      cases h with
      | operation o =>
        cases o <;> simp_all [Happening.deeds, Operation.deeds, Happening.releases]
      | audio | circumstance | rest => simp [Happening.deeds]
    have hh : h.Heeds (.without [.move, .holdBack, .release]) d :=
      h.heeds_without d (by simp [hmove, hback, hrelease])
    have hp := (transitions_after hm hh False.elim).retains (by simp [Rule.without])
      (by simp [Rule.without])
    exact hp.mono fun hn => absurd hn (by simp [Rule.without])

/-! ## Rejections -/

/-- No call has moved, and only calls on hold are held back that were not before. -/
structure Stays (d d' : Desk) : Prop where
  changes : d'.journal.changes = d.journal.changes
  traced : ∀ c' ∈ d'.registry.calls, ∃ c ∈ d.registry.calls, c.id = c'.id ∧ c.state = c'.state ∧
    (c'.canUnhold = false → c.canUnhold = false ∨ c.state = .holding)

theorem Stays.of_states (h : d'.states = d.states) : Stays d d' := by
  obtain ⟨hr, hc⟩ := Prod.mk.inj h
  exact ⟨hc, fun c hm => ⟨c, hr ▸ hm, rfl, rfl, .inl⟩⟩

/-- A call that was held back in either part was on hold before both, since no call has moved. -/
theorem Stays.trans (h : Stays d d') (h' : Stays d' d'') : Stays d d'' := by
  refine ⟨h'.changes.trans h.changes, fun c'' hc'' => ?_⟩
  obtain ⟨c', hc', hid', hs', hu'⟩ := h'.traced c'' hc''
  obtain ⟨c, hc, hid, hs, hu⟩ := h.traced c' hc'
  refine ⟨c, hc, hid.trans hid', hs.trans hs', fun hn => ?_⟩
  exact (hu' hn).elim hu fun hh => .inr (hs.trans hh)

/-- To ask telephony for something moves no call. -/
theorem states_telephoned (d : Desk) (command : Command) :
    (d.telephoned command).states = d.states := by
  have hb : Mutations (fun _ => False) d (d.telephoned command) := mutations_telephoned d command
  unfold states
  rw [registry_telephoned, (hb.still not_false not_false).changes]

/-- The calls that are left behind by a removed one stay as they are. -/
theorem stays_dropped {c : Call} (hc : c ∈ d.registry.calls) : Stays d (d.dropped c) := by
  have hb : Mutations (fun _ => False) d (d.dropped c) := mutations_dropped hc
  refine ⟨(hb.still not_false not_false).changes, fun c' hc' => ?_⟩
  rw [registry_dropped] at hc'
  exact ⟨c', (Registry.mem_erase.mp hc').1, rfl, rfl, .inl⟩

/-- Holding calls back moves none of them, and is done to calls on hold only. -/
theorem keepHeld_stays {calls : List Call}
    (hp : ∀ p ∈ calls, ∃ c ∈ d.registry.calls, c.id = p.id ∧ c.state = .holding) :
    (keepHeld calls).Ends d (fun _ d' => Stays d d') fun _ _ => False := by
  induction calls generalizing d with
  | nil => exact Stays.of_states rfl
  | cons p rest ih =>
    obtain ⟨c, hc, hid, hs⟩ := hp p (by simp)
    unfold keepHeld
    rw [ends_bind, ends_discard, ← hid, ends_amend_of_mem hc]
    have ha : Stays d (d.amended c.id ({ · with canUnhold := false })) := by
      refine ⟨rfl, fun x hx => ?_⟩
      rcases Registry.mem_adjust.mp hx with ⟨hx, -⟩ | ⟨y, hy, hyid, rfl⟩
      · exact ⟨x, hx, rfl, rfl, .inl⟩
      · obtain rfl := Registry.eq_of_id_eq hy hc hyid
        exact ⟨y, hy, rfl, rfl, fun _ => .inr hs⟩
    refine (ih fun q hq => ?_).mono (fun _ _ h => ha.trans h) fun _ _ => id
    obtain ⟨x, hx, hxid, hxs⟩ := hp q (by simp [hq])
    by_cases he : x.id = c.id
    · exact ⟨_, Registry.mem_adjust.mpr (.inr ⟨x, hx, he, rfl⟩), hxid, hxs⟩
    · exact ⟨x, Registry.mem_adjust.mpr (.inl ⟨hx, he⟩), hxid, hxs⟩

/-- A ringing call is rejected. -/
def Rejects (d : Desk) (h : Happening) : Prop :=
  ∃ id, h = .operation (.reject id) ∧ (Operation.reject id).Succeeds d ∧
    ∃ x ∈ d.registry.calls, x.id = id ∧ x.state.isRinging = true

/-- A rejection that is refused, or that telephony does not hear, changes nothing here. -/
theorem reject_stays (id : CallId) (d : Desk) :
    (reject id).Ends d
      (fun _ d' => (∃ x ∈ d.registry.calls, x.id = id ∧ x.state.isRinging = true) ∧ Stays d d')
      fun _ => Still d := by
  unfold reject
  rw [ends_bind]
  refine ends_callIn (fun x hx hid hstate => ?_) fun _ _ => .of_states rfl
  have hr : ∃ x ∈ d.registry.calls, x.id = id ∧ x.state.isRinging = true :=
    ⟨x, hx, hid, isRinging_of_mem hstate⟩
  have ht := states_telephoned d (.reject x)
  rw [ends_bind]
  refine ends_telephone ?_ (.of_states ht)
  rw [ends_bind, ends_get, ends_bind]
  refine (keepHeld_stays fun p hp => ⟨p, (List.mem_filter.mp hp).1, rfl, ?_⟩).mono
    (fun _ d' hk => ?_) fun _ _ => False.elim
  · simpa using (List.mem_filter.mp hp).2
  · have hs : Stays d d' := (Stays.of_states ht).trans hk
    exact ends_unregister (fun c hc _ => ⟨hr, hs.trans (stays_dropped hc)⟩) fun _ => ⟨hr, hs⟩

/-- A rejection moves no call. If it fails, it holds none back. -/
theorem stays_reject (id : CallId) (d : Desk) :
    Rejects d (.operation (.reject id)) ∧ Stays d (d.after (.operation (.reject id))) ∨
      Still d (d.after (.operation (.reject id))) := by
  have hw := ends_conclude (ends_inService (d := d) (fun _ => reject_stays id d) fun _ =>
    Still.of_states rfl)
  by_cases hs : (Operation.reject id).Succeeds d
  · obtain ⟨hr, hst⟩ := hw.1 hs
    exact .inl ⟨⟨id, rfl, hs, hr⟩, hst⟩
  · obtain ⟨_, hst⟩ := hw.2 hs
    exact .inr hst

/-! ## Runs -/

/-- Only calls on hold are held back. -/
def Upheld (d : Desk) : Prop := ∀ c ∈ d.registry.calls, c.canUnhold = false → c.state = .holding

/-- A call that is held back goes into another state by a switch, in a conference or by a report,
and nobody lifts that it is held back. -/
def Forgets (d : Desk) (h : Happening) : Prop :=
  h.releases = true ∧ ∃ c ∈ d.registry.calls, c.canUnhold = false ∧
    d.journal.changes c.id < (d.after h).journal.changes c.id ∧
    ∃ c' ∈ (d.after h).registry.calls, c'.id = c.id ∧ c'.canUnhold = false

instance (d : Desk) (h : Happening) : Decidable (d.Forgets h) :=
  inferInstanceAs (Decidable (_ ∧ _))

/-- A call that is held back after a happening is on hold, and was before, and it has been in no
other state meanwhile. It was held back already, or a ringing call was rejected. -/
theorem held_after {h : Happening} (hm : h.ByManager) (hf : ¬d.Forgets h) (hd : d.Upheld)
    {c' : Call} (hc' : c' ∈ (d.after h).registry.calls) (hu' : c'.canUnhold = false) :
    c'.state = .holding ∧ ∃ c ∈ d.registry.calls, c.id = c'.id ∧ c.state = .holding ∧
      (d.after h).journal.changes c.id = d.journal.changes c.id ∧
      (c.canUnhold = false ∨ d.Rejects h) := by
  have still (hs : Still d (d.after h)) :
      c'.state = .holding ∧ ∃ c ∈ d.registry.calls, c.id = c'.id ∧ c.state = .holding ∧
        (d.after h).journal.changes c.id = d.journal.changes c.id ∧
        (c.canUnhold = false ∨ d.Rejects h) := by
    obtain ⟨c, hc, hid, hsame, hu⟩ := hs.traced c' hc' hu'
    exact ⟨hsame ▸ hd c hc hu, c, hc, hid, hd c hc hu, congrFun hs.changes c.id, .inl hu⟩
  by_cases hr : ∃ id, h = .operation (.reject id)
  · obtain ⟨id, rfl⟩ := hr
    rcases stays_reject id d with ⟨hr, hs⟩ | hs
    · obtain ⟨c, hc, hid, hsame, hu⟩ := hs.traced c' hc'
      have hh : c.state = .holding := (hu hu').elim (hd c hc) fun hh => hh
      exact ⟨hsame ▸ hh, c, hc, hid, hh, congrFun hs.changes c.id, .inr hr⟩
    · exact still hs
  · have hs := retains_after (d := d) hm fun id he => hr ⟨id, he⟩
    obtain ⟨c, hc, hid, hu, ⟨hsame, hj⟩ | ⟨hb, hlt⟩⟩ := hs.traced c' hc' hu'
    · exact ⟨hsame ▸ hd c hc hu, c, hc, hid, hd c hc hu, hj, .inl hu⟩
    · exact absurd ⟨hb ⟨hd c hc hu, hu⟩, c, hc, hu, hlt, c', hc', hid.symm, hu'⟩ hf

/-- The call was on hold when a ringing call was rejected in the run, and has been in no other state
since. -/
def HeldSince (d : Desk) (run : List Happening) (id : CallId) : Prop :=
  ∃ before h after, run = before ++ h :: after ∧ (d.afterAll before).Rejects h ∧
    (∃ c ∈ (d.afterAll before).registry.calls, c.id = id ∧ c.state = .holding) ∧
    (d.afterAll run).journal.changes id = (d.afterAll before).journal.changes id

theorem held_afterAll {run : List Happening}
    (hp : Permits (fun d h => h.ByManager ∧ ¬d.Forgets h) d run) (hd : d.Upheld) {c' : Call}
    (hc' : c' ∈ (d.afterAll run).registry.calls) (hu' : c'.canUnhold = false) :
    c'.state = .holding ∧ (d.HeldSince run c'.id ∨ ∃ c ∈ d.registry.calls, c.id = c'.id ∧
      c.canUnhold = false ∧ (d.afterAll run).journal.changes c.id = d.journal.changes c.id) := by
  induction run generalizing d with
  | nil => exact ⟨hd c' hc' hu', .inr ⟨c', hc', rfl, hu', rfl⟩⟩
  | cons h rest ih =>
    obtain ⟨⟨hm, hf⟩, hrest⟩ := hp
    have hnext : (d.after h).Upheld := fun c hc hu => (held_after hm hf hd hc hu).1
    obtain ⟨hh, ⟨before, h', after, rfl, hr, hheld, hj⟩ | ⟨c, hc, hid, hu, hj⟩⟩ :=
      ih hrest hnext hc'
    · exact ⟨hh, .inl ⟨h :: before, h', after, rfl, hr, hheld, hj⟩⟩
    · obtain ⟨-, x, hx, hxid, hxh, hxj, hback⟩ := held_after hm hf hd hc hu
      have hj' : (d.afterAll (h :: rest)).journal.changes x.id = d.journal.changes x.id := by
        rw [hxid] at hxj ⊢
        exact hj.trans hxj
      refine ⟨hh, hback.elim (fun hxu => .inr ⟨x, hx, hxid.trans hid, hxu, hj'⟩) fun hr => .inl ?_⟩
      rw [← hid, ← hxid]
      exact ⟨[], h, rest, rfl, hr, ⟨x, hx, rfl, hxh⟩, hj'⟩

/-- **A call is held back while it is on hold, since a ringing call was rejected.** In every run in
which no call that is held back leaves hold by a switch, in a conference or by a report without that
being lifted: a call that is held back is on hold, it was on hold when a ringing call was rejected
at the user's request, and it has been in no other state since. -/
theorem held_back_since {config : Config} {missing : List Collaborator} {outside : Outside}
    {d₀ : Desk} (hd : assemble config missing outside = .ok d₀) {run : List Happening}
    (hp : Permits (fun d h => h.ByManager ∧ ¬d.Forgets h) d₀ run) :
    ∀ c ∈ (d₀.afterAll run).registry.calls, c.canUnhold = false →
      c.state = .holding ∧ d₀.HeldSince run c.id := by
  have hnone : d₀.registry.calls = [] := by
    rw [assemble_eq hd]
    rfl
  have hu : d₀.Upheld := fun c hc => by simp [hnone] at hc
  intro c hc hback
  obtain ⟨hh, hs | ⟨x, hx, -⟩⟩ := held_afterAll hp hu hc hback
  · exact ⟨hh, hs⟩
  · simp [hnone] at hx

/-- One of two calls is on hold when a third one is rejected. Then the active one ends, and the call
on hold is not resumed. -/
theorem held_back_since_rejected :
    let run : List Happening :=
      [.operation .start, .operation (.dial ⟨"1", 0, .cs, .voice, false⟩),
        .operation (.reportState 1 .active none), .operation (.hold 1),
        .operation (.dial ⟨"2", 0, .cs, .voice, false⟩), .operation (.reportState 2 .active none),
        .operation (.arrive ⟨"3", 0, .cs, .voice⟩), .operation (.reject 3), .operation (.hangUp 2)]
    let d := standard.afterAll run
    Permits (fun d h => h.ByManager ∧ ¬d.Forgets h) standard run ∧
      ∃ c ∈ d.registry.calls, c.id = 1 ∧ c.canUnhold = false ∧ c.state = .holding ∧
        standard.HeldSince run 1 := by
  intro run d
  have hp : Permits (fun d h => h.ByManager ∧ ¬d.Forgets h) standard run := by
    refine ⟨⟨trivial, ?_⟩, ⟨trivial, ?_⟩, ⟨trivial, ?_⟩, ⟨trivial, ?_⟩, ⟨trivial, ?_⟩,
      ⟨trivial, ?_⟩, ⟨trivial, ?_⟩, ⟨trivial, ?_⟩, ⟨trivial, ?_⟩, trivial⟩
    all_goals decide +kernel
  have hback : ∃ c ∈ d.registry.calls, c.id = 1 ∧ c.canUnhold = false := by decide +kernel
  obtain ⟨c, hc, hid, hu⟩ := hback
  have hd : assemble .standard [] (.willing 0) = .ok standard := rfl
  have h := held_back_since hd hp c hc hu
  exact ⟨hp, c, hc, hid, hu, h.1, hid ▸ h.2⟩

/-- A switch makes a call active that is held back, and it remains held back. -/
theorem switch_forgets :
    let run : List Happening :=
      [.operation .start, .operation (.dial ⟨"1", 0, .cs, .voice, false⟩),
        .operation (.reportState 1 .active none), .operation (.hold 1),
        .operation (.dial ⟨"2", 0, .cs, .voice, false⟩), .operation (.reportState 2 .active none),
        .operation (.arrive ⟨"3", 0, .cs, .voice⟩), .operation (.reject 3), .operation (.switch 1)]
    let d := standard.afterAll run
    Reach (fun _ h => h.ByManager) 3 d ∧
      ∃ c ∈ d.registry.calls, c.state = .active ∧ c.canUnhold = false := by
  intro run d
  have hp : Permits (fun _ h => h.ByManager) standard run :=
    ⟨trivial, trivial, trivial, trivial, trivial, trivial, trivial, trivial, trivial, trivial⟩
  have hn : 0 + standard.givenAll run = 3 := by decide +kernel
  exact ⟨hn ▸ (reach_standard _).all hp, by decide +kernel⟩

end Desk

end Switchboard
