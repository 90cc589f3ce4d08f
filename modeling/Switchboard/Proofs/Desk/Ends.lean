import Switchboard.Desk.Basic

/-!
# How operations on the desk end

`x.Ends d Q E` says of an operation `x` that is carried out at the desk `d`: if it succeeds, `Q`
holds of its result and the desk after it; if it fails, `E` holds of its failure and the desk after
it. The lemmas `ends_*` reduce this to the parts of an operation, so that a proof about an operation
follows its text.
-/

namespace Switchboard.DeskM

variable {α β : Type} {x : DeskM α} {d : Desk} {Q Q' : α → Desk → Prop}
  {E E' : CallError → Desk → Prop}

/-- Every end of `x` at `d` is as said: `Q` of a success, `E` of a failure. -/
def Ends (x : DeskM α) (d : Desk) (Q : α → Desk → Prop) (E : CallError → Desk → Prop) : Prop :=
  match x d with
  | .ok a d => Q a d
  | .error e d => E e d

/-! ## Rules -/

/-- What is said of the ends may be weakened. -/
theorem Ends.mono (h : x.Ends d Q E) (hQ : ∀ a d', Q a d' → Q' a d')
    (hE : ∀ e d', E e d' → E' e d') : x.Ends d Q' E' := by
  unfold Ends at *
  cases hx : x d with
  | ok a d' =>
    rw [hx] at h
    exact hQ a d' h
  | error e d' =>
    rw [hx] at h
    exact hE e d' h

/-- Two things that are said of the ends hold together. -/
theorem Ends.and (h : x.Ends d Q E) (h' : x.Ends d Q' E') :
    x.Ends d (fun a d' => Q a d' ∧ Q' a d') (fun e d' => E e d' ∧ E' e d') := by
  unfold Ends at *
  cases hx : x d with
  | ok a d' =>
    rw [hx] at h h'
    exact ⟨h, h'⟩
  | error e d' =>
    rw [hx] at h h'
    exact ⟨h, h'⟩

/-- `P` holds of the desk afterwards, whichever way `x` ends. -/
def Within (x : DeskM α) (d : Desk) (P : Desk → Prop) : Prop := x.Ends d (fun _ => P) fun _ => P

/-- What holds within an operation holds of the desk that carrying it out leaves. -/
theorem Within.perform {P : Desk → Prop} (h : x.Within d P) : P (x.perform d).2 := by
  unfold Within Ends at h
  unfold DeskM.perform
  cases hx : x d with
  | ok a d' =>
    rw [hx] at h
    exact h
  | error e d' =>
    rw [hx] at h
    exact h

/-- What is said of the failures of an operation holds of the one that it ends with. -/
theorem Ends.failed (h : x.Ends d Q E) {e : CallError} (he : (x.perform d).1 = .error e) :
    E e (x.perform d).2 := by
  unfold Ends at h
  unfold DeskM.perform at he ⊢
  cases hx : x d with
  | ok a d' =>
    rw [hx] at he
    cases he
  | error e' d' =>
    rw [hx] at he h
    cases he
    exact h

/-- What is said of the successes of an operation holds of the one that it ends with. -/
theorem Ends.succeeded (h : x.Ends d Q E) {a : α} (ha : (x.perform d).1 = .ok a) :
    Q a (x.perform d).2 := by
  unfold Ends at h
  unfold DeskM.perform at ha ⊢
  cases hx : x d with
  | ok a' d' =>
    rw [hx] at ha h
    cases ha
    exact h
  | error e d' =>
    rw [hx] at ha
    cases ha

/-- How an operation ends is what carrying it out gives. -/
theorem Ends.perform_eq {outcome : Except CallError α × Desk}
    (h : x.Ends d (fun a d' => outcome = (.ok a, d')) fun e d' => outcome = (.error e, d')) :
    x.perform d = outcome := by
  unfold Ends at h
  unfold DeskM.perform
  cases hx : x d with
  | ok a d' =>
    rw [hx] at h
    exact h.symm
  | error e d' =>
    rw [hx] at h
    exact h.symm

@[simp] theorem ends_pure (a : α) : (pure a : DeskM α).Ends d Q E ↔ Q a d := Iff.rfl

/-- A failure leaves the desk as it is. -/
@[simp] theorem ends_throw (e : CallError) : (throw e : DeskM α).Ends d Q E ↔ E e d := Iff.rfl

/-- The second part starts where the first one succeeded; a failure of the first is one of both. -/
@[simp] theorem ends_bind (f : α → DeskM β) {Q : β → Desk → Prop} :
    (x >>= f).Ends d Q E ↔ x.Ends d (fun a d' => (f a).Ends d' Q E) E := by
  unfold Ends
  show (match EStateM.bind x f d with | .ok a d => Q a d | .error e d => E e d) ↔ _
  unfold EStateM.bind
  cases x d <;> rfl

@[simp] theorem ends_map (f : α → β) {Q : β → Desk → Prop} :
    (f <$> x).Ends d Q E ↔ x.Ends d (fun a => Q (f a)) E := by
  unfold Ends
  show (match EStateM.map f x d with | .ok a d => Q a d | .error e d => E e d) ↔ _
  unfold EStateM.map
  cases x d <;> rfl

@[simp] theorem ends_discard {Q : Unit → Desk → Prop} :
    (discard x).Ends d Q E ↔ x.Ends d (fun _ => Q ()) E := ends_map _

@[simp] theorem ends_get {Q : Desk → Desk → Prop} : (get : DeskM Desk).Ends d Q E ↔ Q d d :=
  Iff.rfl

@[simp] theorem ends_set (d' : Desk) {Q : PUnit → Desk → Prop} :
    (set d' : DeskM PUnit).Ends d Q E ↔ Q .unit d' := Iff.rfl

@[simp] theorem ends_modify (f : Desk → Desk) {Q : PUnit → Desk → Prop} :
    (modify f : DeskM PUnit).Ends d Q E ↔ Q .unit (f d) := Iff.rfl

@[simp] theorem ends_modifyGet (f : Desk → α × Desk) :
    (modifyGet f : DeskM α).Ends d Q E ↔ Q (f d).1 (f d).2 := Iff.rfl

/-- What was done before a failure is there when the failure is dealt with. -/
@[simp] theorem ends_tryCatch (f : CallError → DeskM α) :
    (tryCatch x f).Ends d Q E ↔ x.Ends d Q (fun e d' => (f e).Ends d' Q E) := by
  unfold Ends
  show (match EStateM.tryCatch x f d with | .ok a d => Q a d | .error e d => E e d) ↔ _
  unfold EStateM.tryCatch
  cases x d <;> rfl

/-- A result that is there already ends as it says, and the desk is not touched. -/
@[simp] theorem ends_ofExcept (result : Except CallError α) :
    (ofExcept result).Ends d Q E ↔ (match result with | .ok a => Q a d | .error e => E e d) := by
  cases result <;> rfl

/-- A choice ends well if each branch does where it is taken. -/
theorem ends_ite (p : Prop) [Decidable p] (y : DeskM α) :
    (if p then x else y).Ends d Q E ↔ (p → x.Ends d Q E) ∧ (¬p → y.Ends d Q E) := by
  split <;> simp [*]

/-! ## One property of both ends -/

section

variable {P : Desk → Prop}

/-- Whichever way both parts end: the second one starts where the first one succeeded. -/
theorem within_bind {f : α → DeskM β} :
    (x >>= f).Within d P ↔ x.Ends d (fun a d' => (f a).Within d' P) fun _ => P := ends_bind f

/-- What holds after `x` and is kept by all that follows holds in the end. -/
theorem Within.bind (hx : x.Within d P) {f : α → DeskM β}
    (hf : ∀ a d', P d' → (f a).Within d' P) : (x >>= f).Within d P :=
  within_bind.mpr (hx.mono hf fun _ _ h => h)

/-- The same where the first part's result does not matter. -/
theorem Within.discard_bind (hx : x.Within d P) {y : DeskM β}
    (hy : ∀ d', P d' → y.Within d' P) : (do discard x; y).Within d P :=
  within_bind.mpr (ends_discard.mpr (hx.mono (fun _ => hy) fun _ _ h => h))

theorem within_pure {a : α} (h : P d) : (pure a : DeskM α).Within d P := h

theorem within_throw {e : CallError} (h : P d) : (throw e : DeskM α).Within d P := h

theorem within_modify {f : Desk → Desk} (h : P (f d)) : (modify f : DeskM PUnit).Within d P := h

/-- A failure before anything is done does no harm. -/
theorem within_throw_bind {e : CallError} {f : β → DeskM α} (h : P d) :
    ((throw e : DeskM β) >>= f).Within d P := within_bind.mpr (ends_throw e |>.mpr h)

end

end Switchboard.DeskM
