import Switchboard.Proofs.Desk.History

/-!
# The posture follows the calls of the desk

The audio side hears of each edit of the registry, and moves the posture or corrects it. In every
run the posture is in line with the calls after every operation (`posture_follows_calls`).

Each step replaces one call of the registry at most: it comes, goes or changes. What the signals
of such a move make of a posture that followed the calls before it is the matter of
`Posture.Follows.afterMove`; a change of bearer is corrected in any case.
-/

namespace Switchboard.Desk

variable {rule : Rule} {d d' : Desk}

/-! ## Edits that the tally does not notice -/

/-- The posture is in line with the calls. -/
def InLine (d : Desk) : Prop := d.posture.current.Follows (.ofCalls d.registry.calls)

theorem InLine.congr (h : d.InLine) (hr : d'.registry.calls = d.registry.calls)
    (hp : d'.posture.current = d.posture.current) : d'.InLine := by
  unfold InLine
  rw [hr, hp]
  exact h

theorem InLine.of_core (h : d.InLine) (hc : d'.core = d.core) : d'.InLine :=
  h.congr (congrArg (·.registry.calls) hc) (congrArg Core.posture hc)

/-- The posture stays in line with an edit that keeps the states and the bearers. -/
theorem InLine.of_adjust (h : d.InLine) {f : Call → Call} {id : CallId}
    (hstate : ∀ c, (f c).state = c.state) (hbearer : ∀ c, (f c).bearer = c.bearer)
    (hc : d'.core = { d.core with registry := d.registry.modify id f }) : d'.InLine := by
  have hr : d'.registry = d.registry.modify id f := congrArg Core.registry hc
  have hp : d'.posture.current = d.posture.current := congrArg Core.posture hc
  unfold InLine
  rw [hr, hp, Registry.modify_calls, Tally.ofCalls_adjust hstate hbearer]
  exact h

/-- The posture stays in line with an edit that leaves its record as it was. -/
theorem InLine.of_same (h : d.InLine) {c : Call} (hc : c ∈ d.registry.calls) {f : Call → Call}
    (hf : { f c with id := c.id } = c)
    (hcore : d'.core = { d.core with registry := d.registry.modify c.id f }) : d'.InLine := by
  obtain ⟨before, after, hcalls, hadjust, -⟩ := Registry.exists_split hc
  refine h.congr ?_ (congrArg Core.posture hcore)
  have hr : d'.registry = d.registry.modify c.id f := congrArg Core.registry hcore
  rw [hr, Registry.modify_calls, hadjust, hf, hcalls]

/-! ## The move of one call -/

/-- The audio side hears of the move of one call. -/
theorem InLine.of_move (h : d.InLine) (old new : Option Call) {registry : Registry}
    {before after : List Call} {b : Bearer} {prior next : Option CallState}
    (hold : d.registry.calls = before ++ old.toList ++ after)
    (hnew : registry.calls = before ++ new.toList ++ after)
    (hprior : prior.bind CallClass.of? = (old.map (·.state)).bind CallClass.of?)
    (hnext : next = new.map (·.state))
    (hcore : d'.core = { d.core with
      registry, posture := d.posture.current.afterMove registry.calls b prior next }) :
    d'.InLine := by
  have hm := Tally.moves_of_replaced before after old new
  rw [← hold, ← hnew, ← hprior, ← hnext] at hm
  have hr : d'.registry = registry := congrArg Core.registry hcore
  have hp : d'.posture.current = d.posture.current.afterMove registry.calls b prior next :=
    congrArg Core.posture hcore
  unfold InLine
  rw [hr, hp]
  exact Posture.Follows.afterMove h hm b

theorem inLine_added {c : Call} {registry : Registry} (h : d.InLine)
    (hr : d.registry.insert c = .ok registry) : (d.added c registry).InLine := by
  obtain ⟨before, after, hcalls, hplace⟩ := Registry.place_split c d.registry.calls
  refine h.of_move none (some c) (by simpa using hcalls) ?_ rfl rfl (core_added d c registry)
  rw [(Registry.insert_eq_ok hr).1, hplace]
  rfl

theorem inLine_moved {c : Call} (h : d.InLine) (hc : c ∈ d.registry.calls) (next : CallState) :
    (d.moved c next).InLine := by
  obtain ⟨before, after, hcalls, hadjust, -⟩ := Registry.exists_split hc
  have hcore := core_moved d c next
  by_cases hs : c.state = next
  · subst hs
    rw [if_pos rfl] at hcore
    exact h.of_same hc rfl hcore
  · rw [if_neg hs] at hcore
    exact h.of_move (some c) (some { c with state := next }) hcalls
      (hadjust ({ · with state := next })) rfl rfl hcore

theorem inLine_answered {c : Call} (h : d.InLine) (hc : c ∈ d.registry.calls)
    (hr : c.state.isRinging = true) (media : VideoState) : (d.answered c media).InLine := by
  obtain ⟨before, after, hcalls, hadjust, -⟩ := Registry.exists_split hc
  refine h.of_move (some c) (some { c with video := media, state := .active }) hcalls
    (hadjust ({ · with video := media, state := .active })) ?_ rfl (core_answered d c media)
  cases hs : c.state <;> simp_all [CallState.isRinging, CallClass.of?]

theorem inLine_dropped {c : Call} (h : d.InLine) (hc : c ∈ d.registry.calls) :
    (d.dropped c).InLine := by
  obtain ⟨before, after, hcalls, -, herase⟩ := Registry.exists_split hc
  refine h.of_move (some c) none hcalls (by simpa using herase) ?_ rfl (core_dropped d c)
  cases hs : c.state <;> simp [hs, CallState.isRinging, CallClass.of?]

/-- Where a bearer has changed, the correction puts the posture in line again. -/
theorem inLine_of_tenable {c : Call} {old : Bearer}
    (h : Posture.Tenable d.tally d.posture.current) : (d.rebeared c old).InLine := by
  obtain ⟨p, hcore, hp⟩ := core_rebeared d c old
  have hr : (d.rebeared c old).registry = d.registry := congrArg Core.registry hcore
  have hposture : (d.rebeared c old).posture.current = p.settle d.tally :=
    congrArg Core.posture hcore
  have ht : Posture.Tenable d.tally p := by
    rcases hp with rfl | ⟨s, hs, rfl⟩
    · exact h
    · exact h.after_bearerSignal hs
  unfold InLine
  rw [hr, hposture]
  exact ht.follows_settle

theorem inLine_rebeared {c : Call} (h : d.InLine) (hc : c ∈ d.registry.calls) (bearer : Bearer) :
    ((d.amended c.id ({ · with bearer })).rebeared { c with bearer } c.bearer).InLine := by
  obtain ⟨before, after, hcalls, hadjust, -⟩ := Registry.exists_split hc
  have hm := Tally.moves_of_replaced before after (some c) (some { c with bearer })
  have hnew : (d.amended c.id ({ · with bearer })).registry.calls =
    before ++ [{ c with bearer }] ++ after := hadjust ({ · with bearer })
  rw [Option.toList_some, Option.toList_some, ← hcalls, ← hnew] at hm
  exact inLine_of_tenable ((Posture.Follows.tenable h).congr hm.count_eq)

theorem Step.inLine (h : Step rule d d') (hd : d.InLine) : d'.InLine := by
  cases h with
  | telephoned => exact hd.of_core (core_telephoned d _)
  | decided => exact hd.of_core rfl
  | added _ h => exact inLine_added hd h
  | amended id e => exact hd.of_adjust e.apply_state e.apply_bearer rfl
  | moved h next => exact inLine_moved hd h next
  | answered h hr media => exact inLine_answered hd h hr media
  | dropped h => exact inLine_dropped hd h
  | parted h => exact inLine_dropped (inLine_moved hd h .disconnected) (mem_moved h .disconnected)
  | rebeared h bearer => exact inLine_rebeared hd h bearer
  | kept h => exact hd.of_same h rfl rfl
  | @shown c h new =>
    have hc := core_shown d c.id c.video new
    exact hd.of_adjust (f := ({ · with video := new })) (fun _ => rfl) (fun _ => rfl) hc
  | keyed => exact hd.of_core rfl
  | released => exact hd.of_core (core_silenceDtmf d)
  | muted _ value => exact hd.of_core (core_applyMute d value)
  | @routed _ _ next _ _ => exact hd.of_core (core_moveRoute d next)
  | ringer => exact hd.of_core rfl
  | accessory _ h => exact hd.of_core (core_dispatch_device d (Signal.isCall_of_isAccessory h))

/-- In line with the calls is an invariant of the desk, and asks for no rule. -/
theorem invariant_inLine : Invariant (.order False) fun _ => InLine where
  idle _ _ := .inl rfl
  step hd h := h.inLine hd
  issued hd := hd
  congr hd hr hp := hd.congr (by rw [hr]) hp

/-- **In every run the posture follows the calls.** After every operation it is the one that the
calls call for, or it is still `incoming` while a call rings, none is active and one dials or
alerts. While a call is active, it is that of the bearer of the active call with the lowest
number. -/
theorem posture_follows_calls {n : Nat} (h : Reach (fun _ h => h.ByManager) n d) :
    d.posture.current.Follows (.ofCalls d.registry.calls) ∧
      ∀ c ∈ d.registry.calls, c.state = .active →
        (∀ x ∈ d.registry.calls, x.state = .active → c.id ≤ x.id) →
        d.posture.current.Bears c.bearer := by
  have hd : d.InLine := invariant_inLine.reach (fun _ _ h => h) (fun _ _ _ _ _ => False.elim) h
  refine ⟨hd, fun c hc ha hlow => ?_⟩
  have hlead := Tally.leadingActive?_eq_some d.registry.ascending hc ha hlow
  have hpos : 0 < (Tally.ofCalls d.registry.calls).active :=
    List.countP_pos_iff.mpr ⟨c, hc, by simp [ha]⟩
  rcases hd with hp | ⟨-, -, hzero, -⟩
  · have hbearer : (Tally.ofCalls d.registry.calls).activeBearer = some c.bearer := by
      show (Tally.leadingActive? d.registry.calls).map (·.bearer) = _
      rw [hlead]
      rfl
    rw [Posture.bears_iff, hp, Posture.ofTally, if_pos hpos, hbearer]
  · omega

/-- A run to the exception. Two calls ring, and the radio reports that the second one dials: the
posture stays `incoming`, although the calls call for `dialing`. -/
theorem posture_follows_calls_dialing :
    let run : List Happening :=
      [.operation .start, .operation (.arrive ⟨"1", 0, .cs, .voice⟩),
        .operation (.arrive ⟨"2", 0, .cs, .voice⟩), .operation (.reportState 2 .dialing none)]
    let d := standard.afterAll run
    Reach (fun _ h => h.ByManager) 2 d ∧
      (d.posture.current = .incoming ∧ Posture.ofTally (.ofCalls d.registry.calls) = .dialing) ∧
      d.posture.current.Follows (.ofCalls d.registry.calls) := by
  intro run d
  have hp : Permits (fun _ h => h.ByManager) standard run :=
    ⟨trivial, trivial, trivial, trivial, trivial⟩
  have h : Reach (fun _ h => h.ByManager) 2 d := (reach_standard _).all hp
  exact ⟨h, by decide, (posture_follows_calls h).1⟩

end Switchboard.Desk
