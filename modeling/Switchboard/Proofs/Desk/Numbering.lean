import Switchboard.Proofs.Desk.AudioSteps
import Switchboard.Proofs.Desk.History

/-!
# Call numbers

Numbers are given out in order and never taken back, so until the counter wraps, the next number is
greater than that of every registered call (`Reach.numbered`). This holds whatever happens at the
desk. Operations on the audio side alone give out no numbers and register no calls; all they may
change of a record is its video state (`audio_alike`).
-/

namespace Switchboard.Desk

open DeskM

variable {rule : Rule} {d d' d'' : Desk} {n : Nat}

/-! ## The audio side alone -/

/-- Two desks with the same counter, the same registered numbers, whose calls are in the same
states, the same settings and the same dial flag. -/
structure Alike (d d' : Desk) : Prop where
  nextId : d'.registry.nextId = d.registry.nextId
  ids : d'.registry.calls.map (·.id) = d.registry.calls.map (·.id)
  states : d'.registry.calls.map (·.state) = d.registry.calls.map (·.state)
  config : d'.config = d.config
  dialing : d'.dialing = d.dialing

theorem Alike.refl (d : Desk) : Alike d d := ⟨rfl, rfl, rfl, rfl, rfl⟩

theorem Alike.trans (h : Alike d d') (h' : Alike d' d'') : Alike d d'' :=
  ⟨h'.nextId.trans h.nextId, h'.ids.trans h.ids, h'.states.trans h.states,
    h'.config.trans h.config, h'.dialing.trans h.dialing⟩

/-- Desks whose core differs in the posture and in what waits in the queue. -/
theorem Alike.of_core {posture : Posture} {queue : Option (List Signal)}
    (h : d'.core = { d.core with posture, queue }) : Alike d d' := by
  have hr : d'.registry = d.registry := congrArg Core.registry h
  refine ⟨?_, ?_, ?_, (congrArg Core.config h :), (congrArg Core.dialing h :)⟩ <;> rw [hr]

theorem alike_drain (d : Desk) : Alike d d.drain := by
  obtain ⟨p, q, hc⟩ := core_drain d
  exact .of_core hc

/-- To show a video state writes one field of one record. -/
theorem alike_shown (d : Desk) (id : CallId) (old new : VideoState) :
    Alike d (d.shown id old new) := by
  have hc := core_shown d id old new
  have hr : (d.shown id old new).registry = _ := congrArg Core.registry hc
  refine ⟨?_, ?_, ?_, (congrArg Core.config hc :), (congrArg Core.dialing hc :)⟩
  · rw [hr, Registry.modify_nextId]
  · rw [hr]
    exact Registry.ids_adjust
  · rw [hr]
    exact Registry.map_adjust (·.state) fun _ => rfl

/-- No step of the audio side touches numbers, states or settings. -/
theorem AudioStep.alike (h : AudioStep d d') : Alike d d' := by
  cases h with
  | told b prior next => exact .of_core (core_callMoved d b prior next)
  | dispatched s =>
    obtain ⟨p, hc⟩ := core_dispatch d s
    exact .of_core hc
  | reconciled => exact .of_core (core_reconcile d)
  | shown h old new => exact alike_shown d _ old new
  | screened => exact .of_core (core_routeVideo d)
  | unmuted => exact .of_core (core_applyMute d false)
  | toned tone => exact .of_core (core_soundTone d tone)
  | silenced => exact .of_core (core_silenceTone d)
  | silencedIf tone => exact .of_core (core_silenceToneIf d tone)
  | rang h => exact .of_core (core_startRinging h)
  | stilled => exact .of_core (core_stopRinging d)
  | hushed | opened | submitted => exact ⟨rfl, rfl, rfl, rfl, rfl⟩
  | drained =>
    have ha := alike_drain d
    exact ⟨ha.nextId, ha.ids, ha.states, ha.config, ha.dialing⟩

/-- What is done to the audio side alone gives out no numbers and registers no calls. -/
theorem audio_alike (o : AudioOperation) (d : Desk) : Alike d (o.perform d).2 := by
  have h := audioSteps_perform o d
  generalize (o.perform d).2 = d' at h ⊢
  induction h with
  | refl => exact .refl d
  | tail _ h ih => exact ih.trans h.alike

/-! ## The counter -/

/-- As long as the counter has not wrapped: it is one ahead of the numbers given out, and no
registered call has a greater number than those. -/
def Numbered (n : Nat) (d : Desk) : Prop :=
  n < UInt32.size - 1 → d.registry.nextId.toNat = n + 1 ∧ ∀ c ∈ d.registry.calls, c.id.toNat ≤ n

/-- The invariant looks at the counter and at the registered numbers. -/
theorem Numbered.of_ids (hd : Numbered n d) (hn : d'.registry.nextId = d.registry.nextId)
    (hids : d'.registry.calls.map (·.id) ⊆ d.registry.calls.map (·.id)) : Numbered n d' := by
  intro hlt
  obtain ⟨hnext, hcalls⟩ := hd hlt
  refine ⟨by rw [hn, hnext], fun c' hc' => ?_⟩
  obtain ⟨c, hc, hid⟩ := List.mem_map.mp (hids (List.mem_map_of_mem hc'))
  rw [← hid]
  exact hcalls c hc

theorem Alike.numbered (h : Alike d d') (hd : Numbered n d) : Numbered n d' :=
  hd.of_ids h.nextId (by rw [h.ids]; exact List.Subset.refl _)

/-- A number that the counter stands right behind was the last to be given out. -/
theorem toNat_eq_of_succ {id next : CallId} (h : id + 1 = next) (hn : next.toNat = n + 1) :
    id.toNat = n := by
  subst h
  rw [UInt32.toNat_add] at hn
  have := id.toNat_lt
  simp at hn
  omega

/-- A step registers the number that was given out last, or none. -/
theorem Step.numbered (h : Step rule d d') (hd : Numbered n d) : Numbered n d' := by
  rcases h.registry_eq with he | ⟨c, hc, hid, -, -⟩ | ⟨id, he⟩ | ⟨id, f, he, -⟩
  · exact hd.of_ids (by rw [he]) (by rw [he]; exact List.Subset.refl _)
  · obtain ⟨hcalls, hnext, -⟩ := Registry.insert_eq_ok hc
    intro hlt
    obtain ⟨hn, hle⟩ := hd hlt
    refine ⟨by rw [hnext, hn], fun x hx => ?_⟩
    rw [hcalls] at hx
    rcases Registry.mem_place.mp hx with rfl | hx
    · exact Nat.le_of_eq (toNat_eq_of_succ hid hn)
    · exact hle x hx
  · refine hd.of_ids (by rw [he, Registry.erase_nextId]) ?_
    rw [he]
    exact (List.filter_sublist.map _).subset
  · refine hd.of_ids (by rw [he, Registry.modify_nextId]) ?_
    rw [he, Registry.modify_calls, Registry.ids_adjust]
    exact List.Subset.refl _

theorem numbered_issued (hd : Numbered n d) : Numbered (n + 1) d.issued := by
  intro hlt
  obtain ⟨hn, hle⟩ := hd (Nat.lt_of_succ_lt hlt)
  refine ⟨?_, fun c hc => Nat.le_succ_of_le (hle c hc)⟩
  show (d.registry.nextId + 1).toNat = n + 1 + 1
  rw [UInt32.toNat_add, hn]
  exact Nat.mod_eq_of_lt (Nat.add_lt_of_lt_sub hlt)

theorem Steps.numbered {k : Nat} (h : Steps rule d k d') (hd : Numbered n d) :
    Numbered (n + k) d' := by
  induction h with
  | refl => exact hd
  | step _ h ih => exact h.numbered ih
  | issued _ ih => exact numbered_issued ih

/-- A transition keeps the numbers in order, and its dial flag is clear in the end. -/
theorem Transition.numbered {k : Nat} (h : Transition rule d k d') (hd : Numbered n d)
    (hf : d.dialing = false) : Numbered (n + k) d' ∧ d'.dialing = false := by
  cases h with
  | steps h => exact ⟨h.numbered hd, h.flags_eq.2.trans hf⟩
  | dialed _ h => exact ⟨h.numbered hd, rfl⟩
  | opened | stopped => exact ⟨hd, hf⟩
  | closed =>
    have ha := alike_drain { d with started := false }
    exact ⟨ha.numbered hd, ha.dialing.trans hf⟩
  | rested => exact ⟨(alike_drain d).numbered hd, (alike_drain d).dialing.trans hf⟩
  | befallen _ c => cases c <;> exact ⟨hd, hf⟩

theorem Transitions.numbered {k : Nat} (h : Transitions rule d k d') (hd : Numbered n d)
    (hf : d.dialing = false) : Numbered (n + k) d' ∧ d'.dialing = false := by
  induction h with
  | refl => exact ⟨hd, hf⟩
  | next _ h ih =>
    rw [← Nat.add_assoc]
    exact h.numbered ih.1 ih.2

/-- Whatever happens keeps the numbers in order, and leaves no dial request in progress. -/
theorem numbered_after (hd : Numbered n d) (hf : d.dialing = false) (h : Happening) :
    Numbered (n + d.given h) (d.after h) ∧ (d.after h).dialing = false := by
  by_cases hm : h.ByManager
  · have hp : Transitions (.order False) d (d.given h) (d.after h) :=
      transitions_after hm (h.heeds_order False d) False.elim
    exact hp.numbered hd hf
  · cases h with
    | audio o =>
      have ha := audio_alike o d
      have hg : d.given (.audio o) = 0 := if_pos ha.nextId
      rw [hg]
      exact ⟨ha.numbered hd, ha.dialing.trans hf⟩
    | operation | circumstance | rest => exact absurd trivial hm

theorem numbered_idle (config : Config) (outside : Outside) : Numbered 0 (idle config outside) :=
  fun _ => ⟨rfl, fun _ hc => nomatch hc⟩

/-- Whatever happens at a desk, numbers are given out in order, and no dial request is in progress
between operations. -/
theorem Reach.numbered {may : Desk → Happening → Prop} (h : Reach may n d) :
    Numbered n d ∧ d.dialing = false := by
  induction h with
  | assembled hd =>
    rw [assemble_eq hd]
    exact ⟨numbered_idle _ _, rfl⟩
  | next _ _ ih => exact numbered_after ih.1 ih.2 _

end Switchboard.Desk
