/-!
# The calendar

Dates of the Gregorian calendar, carried back and forth without end.

* `Date`: a year, month and day that exist.
* `Date.tomorrow`, `Date.yesterday`: the neighbouring dates.
-/

namespace Switchboard.Time

/-- A year with a leap day. -/
def isLeap (year : Int) : Bool := year % 4 == 0 && (year % 100 != 0 || year % 400 == 0)

/-- How many days a month has. -/
def daysIn (year : Int) (month : Nat) : Nat :=
  match month with
  | 2 => if isLeap year then 29 else 28
  | 4 | 6 | 9 | 11 => 30
  | _ => 31

/-- The year has such a month, and the month such a day. -/
def Exists (year : Int) (month day : Nat) : Prop :=
  1 ≤ month ∧ month ≤ 12 ∧ 1 ≤ day ∧ day ≤ daysIn year month

instance (year : Int) (month day : Nat) : Decidable (Exists year month day) := by
  unfold Exists; infer_instance

/-- A date that exists. -/
structure Date where
  year : Int
  month : Nat
  day : Nat
  valid : Exists year month day
  deriving DecidableEq, Repr

namespace Date

/-- The date of a year, month and day, if there is one. -/
def of? (year : Int) (month day : Nat) : Option Date :=
  if h : Exists year month day then some ⟨year, month, day, h⟩ else none

theorem daysIn_pos (year : Int) (month : Nat) : 1 ≤ daysIn year month := by
  unfold daysIn; split <;> (try split) <;> omega

/-- The next date. -/
def tomorrow (d : Date) : Date :=
  if h : d.day < daysIn d.year d.month then
    ⟨d.year, d.month, d.day + 1, d.valid.1, d.valid.2.1, by omega, h⟩
  else if h : d.month < 12 then
    ⟨d.year, d.month + 1, 1, by omega, h, Nat.le_refl 1, daysIn_pos _ _⟩
  else ⟨d.year + 1, 1, 1, by omega, by omega, Nat.le_refl 1, daysIn_pos _ _⟩

/-- The date before. -/
def yesterday (d : Date) : Date :=
  if h : 1 < d.day then
    ⟨d.year, d.month, d.day - 1, d.valid.1, d.valid.2.1, by omega,
      by have := d.valid.2.2.2; omega⟩
  else if h : 1 < d.month then
    ⟨d.year, d.month - 1, daysIn d.year (d.month - 1), by omega,
      by have := d.valid.2.1; omega, daysIn_pos _ _, Nat.le_refl _⟩
  else ⟨d.year - 1, 12, 31, by omega, by omega, by omega, by simp [daysIn]⟩

end Date

end Switchboard.Time
