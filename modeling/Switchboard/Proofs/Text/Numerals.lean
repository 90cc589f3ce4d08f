import Mathlib.Data.List.Basic
import Mathlib.Data.List.TakeDrop
import Mathlib.Tactic.IntervalCases
import Switchboard.Text.Basic

/-!
# Numerals read back

What is written as a decimal numeral is read as the same number, whatever stands behind it.

* `ofDigits_padded`: the digits of a number, with leading zeros or without, write that number.
* `takeDigits_append`: digits in front of a text are taken off it, if they are as many as are wanted
  or no further digit stands behind them.
* `dropBlank_of_head`: nothing is dropped in front of a character that is not white space, as a
  digit is.
-/

namespace Switchboard.Text

variable {ds rest : List Char} {c : Char} {width n : Nat}

/-! ## Values of digits -/

theorem digitValue_digitChar (h : n < 10) : digitValue n.digitChar = n := by
  unfold digitValue
  rw [Nat.isDigit_digitChar, decide_eq_true h, if_pos rfl]
  exact Nat.toNat_digitChar_sub_48_of_lt_ten h

theorem ofDigits_concat (ds : List Char) (c : Char) :
    ofDigits (ds ++ [c]) = ofDigits ds * 10 + digitValue c := by
  simp [ofDigits]

theorem length_digits (width n : Nat) : (digits width n).length = width := by
  induction width generalizing n with
  | zero => rfl
  | succ width ih => simp [digits, ih]

theorem isDigit_of_mem_digits (h : c ∈ digits width n) : c.isDigit = true := by
  induction width generalizing n with
  | zero => cases h
  | succ width ih =>
    rcases List.mem_append.mp h with h | h
    · exact ih h
    · rw [List.mem_singleton.mp h, Nat.isDigit_digitChar]
      exact decide_eq_true (Nat.mod_lt n (by decide))

/-- The last digits of a number write it, if there are no others. -/
theorem ofDigits_digits (h : n < 10 ^ width) : ofDigits (digits width n) = n := by
  induction width generalizing n with
  | zero =>
    have hn : n = 0 := by simpa using h
    rw [hn]
    rfl
  | succ width ih =>
    have hq : n / 10 < 10 ^ width := by
      rw [Nat.pow_succ] at h
      exact Nat.div_lt_of_lt_mul (by omega)
    rw [digits, ofDigits_concat, ih hq, digitValue_digitChar (Nat.mod_lt n (by decide))]
    omega

/-- Digits have their values with or without a look at whether they are digits. -/
theorem ofDigits_eq_ofDigitChars (h : ∀ c ∈ ds, c.isDigit = true) :
    ofDigits ds = Nat.ofDigitChars 10 ds 0 := by
  rw [Nat.ofDigitChars_eq_foldl]
  refine List.foldl_ext _ _ _ fun n c hc => ?_
  rw [digitValue, if_pos (h c hc), Nat.mul_comm]

/-! ## Numbers with leading zeros -/

theorem padded_of_lt (h : n < 10 ^ width) : padded width n = digits width n := if_pos h

theorem padded_of_le (h : 10 ^ width ≤ n) : padded width n = Nat.toDigits 10 n := by
  have hn : ¬n < Nat.pow 10 width := Nat.not_lt.mpr h
  rw [padded, if_neg hn, Nat.toString_eq_ofList_toDigits, String.toList_ofList]

theorem isDigit_of_mem_padded (h : c ∈ padded width n) : c.isDigit = true := by
  rcases Nat.lt_or_ge n (10 ^ width) with hn | hn
  · rw [padded_of_lt hn] at h
    exact isDigit_of_mem_digits h
  · rw [padded_of_le hn] at h
    exact Nat.isDigit_of_mem_toDigits (by decide) (by decide) h

theorem ofDigits_padded (width n : Nat) : ofDigits (padded width n) = n := by
  rcases Nat.lt_or_ge n (10 ^ width) with hn | hn
  · rw [padded_of_lt hn, ofDigits_digits hn]
  · rw [ofDigits_eq_ofDigitChars fun _ => isDigit_of_mem_padded, padded_of_le hn]
    exact Nat.ofDigitChars_ten_toDigits

/-- A width that is not zero makes for at least one digit. -/
theorem padded_ne_nil (width n : Nat) : padded (width + 1) n ≠ [] := by
  rcases Nat.lt_or_ge n (10 ^ (width + 1)) with hn | hn
  · rw [padded_of_lt hn]
    exact List.ne_nil_of_length_pos (by rw [length_digits]; omega)
  · rw [padded_of_le hn]
    exact Nat.toDigits_ne_nil

/-- A digit stands in front of a numeral. -/
theorem exists_padded_eq_cons (width n : Nat) :
    ∃ d ds, padded (width + 1) n = d :: ds ∧ d.isDigit = true := by
  obtain ⟨d, ds, hd⟩ := List.exists_cons_of_ne_nil (padded_ne_nil width n)
  exact ⟨d, ds, hd, isDigit_of_mem_padded (hd ▸ List.mem_cons_self)⟩

/-! ## Taking digits off a text -/

/-- No digit stands in front. -/
def Undigited (cs : List Char) : Prop := ∀ c ∈ cs.head?, c.isDigit = false

theorem Undigited.cons (h : c.isDigit = false) : Undigited (c :: rest) := by
  rintro d ⟨⟩
  exact h

theorem Undigited.takeWhile (h : Undigited rest) : rest.takeWhile Char.isDigit = [] := by
  cases rest with
  | nil => rfl
  | cons c rest => exact List.takeWhile_cons_of_neg (by simp [h c rfl])

theorem Undigited.dropWhile (h : Undigited rest) : rest.dropWhile Char.isDigit = rest := by
  cases rest with
  | nil => rfl
  | cons c rest => exact List.dropWhile_cons_of_neg (by simp [h c rfl])

/-- Digits in front of a text are taken off it. -/
theorem takeDigits_append {limit : Nat} (h : ∀ c ∈ ds, c.isDigit = true) (hl : ds.length ≤ limit)
    (hr : ds.length = limit ∨ Undigited rest) : takeDigits limit (ds ++ rest) = (ds, rest) := by
  induction ds generalizing limit with
  | nil =>
    cases limit with
    | zero => rfl
    | succ limit =>
      have hr : Undigited rest := hr.resolve_left (by simp)
      cases rest with
      | nil => rfl
      | cons c rest => simp [takeDigits, hr c rfl]
  | cons c ds ih =>
    cases limit with
    | zero => simp at hl
    | succ limit =>
      have hds := ih (fun d hd => h d (by simp [hd])) (by simpa using hl) (by simpa using hr)
      simp [takeDigits, h c (by simp), hds]

/-- Digits in front of a text are all that stands before the first other character. -/
theorem span_digits_append (h : ∀ c ∈ ds, c.isDigit = true) (hr : Undigited rest) :
    (ds ++ rest).span Char.isDigit = (ds, rest) := by
  rw [List.span_eq_takeWhile_dropWhile, List.takeWhile_append_of_pos h,
    List.dropWhile_append_of_pos h, hr.takeWhile, hr.dropWhile, List.append_nil]

/-! ## White space -/

theorem isBlank_of_isDigit (h : c.isDigit = true) : isBlank c = false := by
  obtain ⟨hlow, hhigh⟩ := Char.isDigit_iff_toNat.mp h
  rw [← Char.ofNat_toNat c]
  change 48 ≤ c.toNat at hlow
  change c.toNat ≤ 57 at hhigh
  interval_cases c.toNat <;> decide

/-- Nothing is dropped in front of a character that is not white space. -/
theorem dropBlank_cons (h : isBlank c = false) (rest : List Char) :
    dropBlank (c :: rest) = c :: rest := List.dropWhile_cons_of_neg (by simp [h])

/-- Nothing is dropped in front of a numeral. -/
theorem dropBlank_padded (width n : Nat) (rest : List Char) :
    dropBlank (padded (width + 1) n ++ rest) = padded (width + 1) n ++ rest := by
  obtain ⟨d, ds, hd, hdigit⟩ := exists_padded_eq_cons width n
  rw [hd]
  exact dropBlank_cons (isBlank_of_isDigit hdigit) _

end Switchboard.Text
