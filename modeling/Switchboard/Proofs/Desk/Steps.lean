import Switchboard.Proofs.Desk.Acting

/-!
# Steps

Every request and every report is a sequence of steps: edits of the desk of which each is carried
out as a whole. What every step keeps holds after every operation, whichever way it ends.

* `Step`: what a step can be, with what is known when it is made.
* `Steps`: steps one after the other. It counts the call numbers that are given out on the way.
* `Step.core_eq`, `Step.registry_eq`: what a step may make of the core and of the registry.

A run may keep to a `Rule`: calls become active in order, the user chooses certain devices only,
certain accessories only are reported, and some deeds are not done at all. Steps obey it.
-/

namespace Switchboard

/-- What a rule may forbid. -/
inductive Deed where
  /-- A call is registered. -/
  | register
  /-- A call goes into another state. No rule forbids that (`Rule.permits`). -/
  | move
  /-- The user mutes the microphone or lets it be heard. -/
  | mute
  /-- A conference is formed. -/
  | join
  /-- A call on hold is kept from being resumed. -/
  | holdBack
  /-- A call that is kept from being resumed leaves hold all the same. -/
  | release
  /-- A call that is idle or on its way out goes into another state. -/
  | revive
  /-- A ringing call is answered with other media than it has. -/
  | redub (id : CallId)
  /-- The user chooses how ringing calls are announced. -/
  | ringer
  /-- The user presses a key. -/
  | key
  /-- The audio side is told something that no call is behind. -/
  | play
  /-- The desk goes out of service. -/
  | close
  /-- Something happens around the desk. -/
  | befall

/-- What a run keeps to. -/
structure Rule where
  /-- A call becomes active only while no other call is, and no conference is formed. -/
  orderly : Prop
  /-- The devices that the user may choose. -/
  chosen : Device → Prop
  /-- The signals of accessories that may be reported. -/
  reported : Signal → Prop
  /-- The deeds that may be done. -/
  allowed : Deed → Prop

namespace Rule

/-- A rule on calls alone, if it is true. -/
def order (orderly : Prop) : Rule := ⟨orderly, fun _ => True, fun _ => True, fun _ => True⟩

/-- A rule that forbids some deeds and nothing else. -/
def without (deeds : List Deed) : Rule := ⟨False, fun _ => True, fun _ => True, (· ∉ deeds)⟩

/-- A conference may be formed. -/
def Joins (rule : Rule) : Prop := ¬rule.orderly ∧ rule.allowed .join

theorem not_joins_of_orderly {rule : Rule} (h : rule.orderly) : ¬rule.Joins := fun hj => hj.1 h

theorem not_joins_without : ¬(without [.join]).Joins := fun hj => hj.2 (by simp)

/-- What a rule lets be done. -/
def permits (rule : Rule) (deed : Deed) : Prop := deed = .move ∨ rule.allowed deed

/-- The rule without what it says of calls. -/
def lax (rule : Rule) : Rule := { rule with orderly := False }

@[simp] theorem not_orderly_lax (rule : Rule) : ¬rule.lax.orderly := id

/-- A rule that says nothing of the order of calls is its own lax rule. -/
theorem lax_eq {rule : Rule} (h : ¬rule.orderly) : rule.lax = rule := by
  unfold lax
  rw [← eq_false h]

end Rule

/-- The signal reports an accessory. -/
def Signal.isAccessory : Signal → Bool
  | .headsetConnected | .headsetDisconnected | .bluetoothConnected | .bluetoothDisconnected => true
  | _ => false

/-- A report of an accessory is no call signal. -/
theorem Signal.isCall_of_isAccessory {s : Signal} (h : s.isAccessory = true) :
    s.isCall = false := by
  cases s <;> first | rfl | cases h

/-- A call that rings has not ended. -/
theorem CallState.isTerminal_of_isRinging {s : CallState} (h : s.isRinging = true) :
    s.isTerminal = false := by
  cases s <;> first | rfl | cases h

/-- A change of a record that concerns neither its state nor its bearer. -/
inductive Edit where
  | ended (reason : EndReason)
  | canUnhold (value : Bool)
  | speakerphone (value : Bool)
  | conference (main : Option CallId)

/-- The changed record. -/
def Edit.apply : Edit → Call → Call
  | ended reason, c => { c with ended := reason }
  | canUnhold value, c => { c with canUnhold := value }
  | speakerphone value, c => { c with speakerphone := value }
  | conference main, c => { c with conference := main }

@[simp] theorem Edit.apply_state (e : Edit) (c : Call) : (e.apply c).state = c.state := by
  cases e <;> rfl

@[simp] theorem Edit.apply_bearer (e : Edit) (c : Call) : (e.apply c).bearer = c.bearer := by
  cases e <;> rfl

/-- The change is one that a rule admits. -/
@[simp]
def Edit.Admitted (rule : Rule) : Edit → Prop
  | conference (some _) => rule.Joins
  | canUnhold false => rule.allowed .holdBack
  | _ => True

/-- The call is on hold, and held back. -/
def Call.Pinned (c : Call) : Prop := c.state = .holding ∧ c.canUnhold = false

namespace Desk

/-- No registered call but `id` is active. -/
def Lone (d : Desk) (id : CallId) : Prop := ∀ c ∈ d.registry.calls, c.state = .active → c.id = id

instance (d : Desk) (id : CallId) : Decidable (d.Lone id) :=
  inferInstanceAs (Decidable (∀ c ∈ d.registry.calls, c.state = .active → c.id = id))

/-- At most one call is active. -/
def Single (d : Desk) : Prop :=
  ∀ x ∈ d.registry.calls, ∀ y ∈ d.registry.calls, x.state = .active → y.state = .active →
    x.id = y.id

/-- A part of an operation. -/
inductive Step (rule : Rule) (d : Desk) : Desk → Prop
  /-- Telephony was asked for something. -/
  | telephoned (command : Command) : Step rule d (d.telephoned command)
  /-- Admission has decided. -/
  | decided (id : Option CallId) (decision : Admission.Decision) :
    Step rule d (d.emit (.admissionDecided id decision))
  /-- A call with the number that was last given out was registered. -/
  | added {c : Call} {registry : Registry} (hr : rule.allowed .register)
    (h : d.registry.insert c = .ok registry) (hid : c.id + 1 = d.registry.nextId)
    (ha : c.state ≠ .active) (hc : c.conference = none) (hu : c.canUnhold = true) :
    Step rule d (d.added c registry)
  /-- A record was changed in a matter that does not concern the audio side. -/
  | amended (id : CallId) (e : Edit) (he : e.Admitted rule) : Step rule d (d.amended id e.apply)
  /-- A call went into another state. -/
  | moved {c : Call} (h : c ∈ d.registry.calls) (next : CallState) (hn : next ≠ .disconnected)
    (hs : rule.orderly → next = .active → d.Lone c.id)
    (hb : c.Pinned → next = .holding ∨ rule.allowed .release)
    (hv : c.state.isTerminal = true → rule.allowed .revive) : Step rule d (d.moved c next)
  /-- A ringing call was answered. -/
  | answered {c : Call} (h : c ∈ d.registry.calls) (hr : c.state.isRinging) (media : VideoState)
    (hs : rule.orderly → d.Lone c.id) (hv : c.video = media ∨ rule.allowed (.redub c.id)) :
    Step rule d (d.answered c media)
  /-- A call was removed. -/
  | dropped {c : Call} (h : c ∈ d.registry.calls) : Step rule d (d.dropped c)
  /-- A call was disconnected and removed. -/
  | parted {c : Call} (h : c ∈ d.registry.calls) : Step rule d (d.parted c)
  /-- A call changed its bearer. -/
  | rebeared {c : Call} (h : c ∈ d.registry.calls) (bearer : Bearer) :
    Step rule d ((d.amended c.id ({ · with bearer })).rebeared { c with bearer } c.bearer)
  /-- A call was said to have the bearer that it has. -/
  | kept {c : Call} (h : c ∈ d.registry.calls) :
    Step rule d (d.amended c.id ({ · with bearer := c.bearer }))
  /-- A call changed its video state. -/
  | shown {c : Call} (h : c ∈ d.registry.calls) (new : VideoState) :
    Step rule d (d.shown c.id c.video new)
  /-- A key sounded. -/
  | keyed (hk : rule.allowed .key) (digit : Char) : Step rule d (d.soundKey digit)
  /-- A key fell silent. -/
  | released : Step rule d d.silenceDtmf.2
  /-- The microphone was to be muted, or to be heard. -/
  | muted (hm : rule.allowed .mute) (value : Bool) : Step rule d (d.applyMute value)
  /-- The user chose a device that is at hand. -/
  | routed {device : Device} {calls : List Call} {next : Route.Machine} (hd : rule.chosen device)
    (h : Route.Machine.choose device (d.context calls) = .ok next) :
    Step rule d (d.moveRoute next)
  /-- The user chose a ringer mode. -/
  | ringer (hr : rule.allowed .ringer) (mode : RingerMode) : Step rule d (d.setRingerMode mode)
  /-- An accessory came or went. -/
  | accessory {signal : Signal} (hr : rule.reported signal) (h : signal.isAccessory = true) :
    Step rule d (d.dispatch signal).2

/-- Steps one after the other, and how many call numbers were given out between them. -/
inductive Steps (rule : Rule) (d : Desk) : Nat → Desk → Prop
  | refl : Steps rule d 0 d
  | step {n : Nat} {d₁ d₂ : Desk} :
    Steps rule d n d₁ → Step rule d₁ d₂ → Steps rule d n d₂
  | issued {n : Nat} {d₁ : Desk} : Steps rule d n d₁ → Steps rule d (n + 1) d₁.issued

variable {rule : Rule} {d₀ d : Desk} {n : Nat}

/-- Steps that obey the rule are steps. -/
theorem Step.weaken {d' : Desk} (h : Step rule d d') : Step rule.lax d d' := by
  cases h with
  | telephoned => exact .telephoned _
  | decided => exact .decided _ _
  | added hr h hid ha hc hu => exact .added hr h hid ha hc hu
  | amended id e he =>
    refine .amended id e ?_
    cases e with
    -- To form a conference is the only edit that the rule on calls forbids and the lax one allows.
    | conference main =>
      cases main with
      | none => trivial
      | some main => exact ⟨rule.not_orderly_lax, he.2⟩
    | canUnhold value => cases value <;> exact he
    | ended | speakerphone => trivial
  | moved h next hn _ hb hv => exact .moved h next hn False.elim hb hv
  | answered h hr media _ hv => exact .answered h hr media False.elim hv
  | dropped h => exact .dropped h
  | parted h => exact .parted h
  | rebeared h bearer => exact .rebeared h bearer
  | kept h => exact .kept h
  | shown h new => exact .shown h new
  | keyed hk digit => exact @Step.keyed rule.lax d hk digit
  | released => exact .released
  | muted hm value => exact @Step.muted rule.lax d hm value
  | routed hd h => exact .routed hd h
  | ringer hr mode => exact @Step.ringer rule.lax d hr mode
  | accessory hr h => exact .accessory hr h

/-- Steps one after the other that obey the rule are steps one after the other, with as many numbers
given out between them. -/
theorem Steps.weaken {d' : Desk} (h : Steps rule d n d') : Steps rule.lax d n d' := by
  induction h with
  | refl => exact .refl
  | step _ h ih => exact ih.step h.weaken
  | issued _ ih => exact ih.issued

/-! ## What a step does to the core -/

/-- A step may edit the registry and move the posture, and leaves the rest of the core alone. -/
theorem Step.core_eq {d' : Desk} (h : Step rule d d') :
    ∃ registry posture, d'.core = { d.core with registry, posture } := by
  cases h with
  | telephoned => exact ⟨_, _, core_telephoned d _⟩
  | decided => exact ⟨_, _, rfl⟩
  | added => exact ⟨_, _, core_added d _ _⟩
  | amended => exact ⟨_, _, rfl⟩
  | moved h next => exact ⟨_, _, core_moved d _ next⟩
  | answered h hr media => exact ⟨_, _, core_answered d _ media⟩
  | dropped h => exact ⟨_, _, core_dropped d _⟩
  | parted h => exact ⟨_, _, (core_dropped _ _).trans (by rw [core_moved])⟩
  | @rebeared c h bearer =>
    obtain ⟨p, hp, -⟩ :=
      core_rebeared (d.amended c.id ({ · with bearer })) { c with bearer } c.bearer
    exact ⟨_, _, hp⟩
  | kept h => exact ⟨_, _, rfl⟩
  | shown h new => exact ⟨_, _, core_shown d _ _ new⟩
  | keyed => exact ⟨_, _, rfl⟩
  | released => exact ⟨_, _, core_silenceDtmf d⟩
  | muted hm value => exact ⟨_, _, core_applyMute d value⟩
  | @routed _ _ next _ _ => exact ⟨_, _, core_moveRoute d next⟩
  | ringer => exact ⟨_, _, rfl⟩
  | accessory _ h => exact ⟨_, _, core_dispatch_device d (Signal.isCall_of_isAccessory h)⟩

/-- What a step may make of the registry: nothing, one record more, one record less, or one record
changed. -/
theorem Step.registry_eq {d' : Desk} (h : Step rule d d') :
    d'.registry = d.registry ∨
    (∃ c, d.registry.insert c = .ok d'.registry ∧ c.id + 1 = d.registry.nextId ∧
      c.state ≠ .active ∧ c.conference = none ∧ rule.allowed .register ∧
      d' = d.added c d'.registry) ∨
    (∃ id, d'.registry = d.registry.erase id) ∨
    ∃ id f, d'.registry = d.registry.modify id f ∧ (∀ c, (f c).emergency = c.emergency) ∧
      (¬rule.Joins → ∀ c, (f c).conference = c.conference ∨ (f c).conference = none) ∧
      (rule.orderly → ∀ c, (f c).state = .active → c.state = .active ∨ d.Lone id) ∧
      ∀ c ∈ d.registry.calls, c.id = id → (f c).state = c.state ∨
        c.state.isTerminal = false ∨ rule.allowed .revive := by
  cases h with
  | telephoned => exact .inl (registry_telephoned d _)
  | decided => exact .inl rfl
  | @added c registry hr h hid ha hc =>
    exact .inr (.inl ⟨c, by rwa [registry_added], hid, ha, hc, hr, by rw [registry_added]⟩)
  | amended id e he =>
    refine .inr (.inr (.inr ⟨id, e.apply, rfl, fun c => ?_, fun hj c => ?_, fun _ c => ?_,
      fun c _ _ => .inl (e.apply_state c)⟩))
    · cases e <;> rfl
    · cases e with
      | conference main =>
        cases main with
        | none => exact .inr rfl
        | some main => exact absurd he hj
      | ended | canUnhold | speakerphone => exact .inl rfl
    · rw [e.apply_state]
      exact .inl
  | @moved c h next _ hs _ hv =>
    refine .inr (.inr (.inr ⟨c.id, _, registry_moved d c next, fun _ => rfl, fun _ _ => .inl rfl,
      fun hstrict _ ha => .inr (hs hstrict ha), fun x hx hid => .inr ?_⟩))
    rw [Registry.eq_of_id_eq hx h hid]
    cases ht : c.state.isTerminal with
    | false => exact .inl rfl
    | true => exact .inr (hv ht)
  | @answered c h hr media hs =>
    refine .inr (.inr (.inr ⟨c.id, _, registry_answered d c media, fun _ => rfl,
      fun _ _ => .inl rfl, fun hstrict _ _ => .inr (hs hstrict), fun x hx hid => .inr (.inl ?_)⟩))
    rw [Registry.eq_of_id_eq hx h hid]
    exact CallState.isTerminal_of_isRinging hr
  | @dropped c h => exact .inr (.inr (.inl ⟨c.id, registry_dropped d c⟩))
  | @parted c h => exact .inr (.inr (.inl ⟨c.id, registry_parted d c⟩))
  | @rebeared c h bearer =>
    obtain ⟨p, hp, -⟩ :=
      core_rebeared (d.amended c.id ({ · with bearer })) { c with bearer } c.bearer
    exact .inr (.inr (.inr ⟨c.id, _, congrArg Core.registry hp, fun _ => rfl, fun _ _ => .inl rfl,
      fun _ _ => .inl, fun _ _ _ => .inl rfl⟩))
  | @kept c h =>
    exact .inr (.inr (.inr ⟨c.id, _, rfl, fun _ => rfl, fun _ _ => .inl rfl, fun _ _ => .inl,
      fun _ _ _ => .inl rfl⟩))
  | @shown c h new =>
    exact .inr (.inr (.inr ⟨c.id, _, congrArg Core.registry (core_shown d c.id c.video new),
      fun _ => rfl, fun _ _ => .inl rfl, fun _ _ => .inl, fun _ _ _ => .inl rfl⟩))
  | keyed => exact .inl rfl
  | released => exact .inl (congrArg Core.registry (core_silenceDtmf d))
  | muted hm value => exact .inl (congrArg Core.registry (core_applyMute d value))
  | @routed _ _ next _ _ => exact .inl (congrArg Core.registry (core_moveRoute d next))
  | ringer => exact .inl rfl
  | accessory _ h =>
    exact .inl (congrArg Core.registry (core_dispatch_device d (Signal.isCall_of_isAccessory h)))

end Desk
end Switchboard
