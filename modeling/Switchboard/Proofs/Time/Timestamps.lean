import Switchboard.Proofs.Text.Numerals
import Switchboard.Time.Timestamp

/-!
# Timestamps read back

The RFC 3339 form of a moment is read as that moment (`Timestamp.read?_render`), and so is its form
on a clock that is ahead of universal time or behind it (`Timestamp.read?_renderAt`), where the date
may be that of the day before or after.

* `Date.tomorrow_yesterday`, `Date.yesterday_tomorrow`: the neighbouring dates undo each other,
  across the ends of months and years.
* `Timestamp.onClock`: the date and the minute of the day on a clock.
* `readChars?_face`: a date and a time of day are read part by part, in front of whatever zone.
-/

namespace Switchboard.Time

open Text

/-! ## Neighbouring dates -/

namespace Date

attribute [ext] Date

theorem daysIn_le (year : Int) (month : Nat) : daysIn year month ≤ 31 := by
  unfold daysIn
  split
  · split <;> omega
  all_goals omega

theorem daysIn_december (year : Int) : daysIn year 12 = 31 := by simp [daysIn]

/-- Yesterday of tomorrow is today. -/
theorem yesterday_tomorrow (d : Date) : d.tomorrow.yesterday = d := by
  obtain ⟨hlow, hmonth, hpos, hday⟩ := d.valid
  unfold tomorrow
  split
  · unfold yesterday
    rw [dif_pos (by dsimp only; omega)]
    ext <;> simp
  have hlast : d.day = daysIn d.year d.month := by omega
  split
  · unfold yesterday
    rw [dif_neg (by dsimp only; omega), dif_pos (by dsimp only; omega)]
    ext <;> simp [hlast]
  · have hdecember : d.month = 12 := by omega
    unfold yesterday
    rw [dif_neg (by dsimp only; omega), dif_neg (by dsimp only; omega)]
    ext <;> simp [hlast, hdecember, daysIn_december]

/-- The day after yesterday is today. -/
theorem tomorrow_yesterday (d : Date) : d.yesterday.tomorrow = d := by
  obtain ⟨hlow, hmonth, hpos, hday⟩ := d.valid
  unfold yesterday
  split
  · unfold tomorrow
    rw [dif_pos (by dsimp only; omega)]
    ext <;> dsimp only
    omega
  have hfirst : d.day = 1 := by omega
  split
  · unfold tomorrow
    rw [dif_neg (by dsimp only; omega), dif_pos (by dsimp only; omega)]
    ext <;> dsimp only <;> omega
  · have hjanuary : d.month = 1 := by omega
    unfold tomorrow
    rw [dif_neg (by simp [daysIn_december]), dif_neg (by dsimp only; omega)]
    ext <;> dsimp only <;> omega

theorem year_tomorrow (d : Date) : d.year ≤ d.tomorrow.year ∧ d.tomorrow.year ≤ d.year + 1 := by
  unfold tomorrow
  repeat' split
  all_goals dsimp only; omega

theorem year_yesterday (d : Date) : d.year - 1 ≤ d.yesterday.year ∧ d.yesterday.year ≤ d.year := by
  unfold yesterday
  repeat' split
  all_goals dsimp only; omega

end Date

namespace Timestamp

attribute [ext] Timestamp

variable {t : Timestamp} {offset : Int}

/-! ## Clocks -/

section

variable {date : Date} {m : Int}

theorem atMinute_before (h : m < 0) :
    atMinute date m = (date.yesterday, (m + 1440).toNat) := if_pos h

theorem atMinute_after (h : 1440 ≤ m) :
    atMinute date m = (date.tomorrow, (m - 1440).toNat) := (if_neg (by omega)).trans (if_pos h)

theorem atMinute_within (hlow : 0 ≤ m) (hhigh : m < 1440) :
    atMinute date m = (date, m.toNat) := (if_neg (by omega)).trans (if_neg (by omega))

/-- A clock less than a day off shows a minute of a day. -/
theorem atMinute_lt (hlow : -1440 ≤ m) (hhigh : m < 2880) : (atMinute date m).2 < 1440 := by
  unfold atMinute
  repeat' split
  all_goals dsimp only; omega

/-- A clock shows a year before or after at most. -/
theorem year_atMinute (date : Date) (m : Int) :
    date.year - 1 ≤ (atMinute date m).1.year ∧ (atMinute date m).1.year ≤ date.year + 1 := by
  have hy := date.year_yesterday
  have ht := date.year_tomorrow
  unfold atMinute
  repeat' split
  all_goals dsimp only; omega

/-- A clock that is set back by its offset shows universal time. -/
theorem atMinute_atMinute (date : Date) {m : Nat} (hm : m < 1440) (hlow : -1440 < offset)
    (hhigh : offset < 1440) :
    atMinute (atMinute date (m + offset)).1 ((atMinute date (m + offset)).2 - offset) =
        (date, m) := by
  by_cases hbefore : (m : Int) + offset < 0
  · rw [atMinute_before hbefore, atMinute_after (by dsimp only; omega), Date.tomorrow_yesterday]
    congr 1
    dsimp only
    omega
  by_cases hafter : 1440 ≤ (m : Int) + offset
  · rw [atMinute_after hafter, atMinute_before (by dsimp only; omega), Date.yesterday_tomorrow]
    congr 1
    dsimp only
    omega
  · rw [atMinute_within (m := m + offset) (by omega) (by omega),
      atMinute_within (by dsimp only; omega) (by dsimp only; omega)]
    congr 1
    dsimp only
    omega

end

/-- The date and the minute of the day on a clock that is `offset` minutes ahead. -/
def onClock (t : Timestamp) (offset : Int) : Date × Nat :=
  atMinute t.date ((t.hour * 60 + t.minute : Nat) + offset)

/-- A clock of universal time shows the date and the time of the moment. -/
theorem onClock_zero (t : Timestamp) : t.onClock 0 = (t.date, t.hour * 60 + t.minute) := by
  have hh := t.hour_lt
  have hm := t.minute_lt
  exact atMinute_within (by omega) (by omega)

theorem onClock_lt (t : Timestamp) (hlow : -1440 < offset) (hhigh : offset < 1440) :
    (t.onClock offset).2 < 1440 := by
  have hh := t.hour_lt
  have hm := t.minute_lt
  exact atMinute_lt (by omega) (by omega)

/-- The year is written in four digits. -/
def HasFourDigitYear (t : Timestamp) : Prop := 0 ≤ t.date.year ∧ t.date.year ≤ 9999

theorem isKeptYear_iff {year : Int} : isKeptYear year = true ↔ -262143 ≤ year ∧ year ≤ 262142 := by
  simp [isKeptYear]

theorem HasFourDigitYear.isKeptYear (h : t.HasFourDigitYear) : isKeptYear t.date.year = true := by
  obtain ⟨hlow, hhigh⟩ := h
  exact isKeptYear_iff.mpr ⟨by omega, by omega⟩

theorem HasFourDigitYear.isKeptYear_onClock (h : t.HasFourDigitYear) (offset : Int) :
    Timestamp.isKeptYear (t.onClock offset).1.year = true := by
  obtain ⟨hlow, hhigh⟩ := h
  have hyear : t.date.year - 1 ≤ (t.onClock offset).1.year ∧
      (t.onClock offset).1.year ≤ t.date.year + 1 := year_atMinute t.date _
  exact isKeptYear_iff.mpr ⟨by omega, by omega⟩

/-- The parts of a moment on a clock make up that moment. -/
theorem ofParts?_onClock (hlow : -1440 < offset) (hhigh : offset < 1440)
    (hk : isKeptYear t.date.year = true) (hc : isKeptYear (t.onClock offset).1.year = true) :
    ofParts? (t.onClock offset).1 ((t.onClock offset).2 / 60) ((t.onClock offset).2 % 60) t.second
      t.nano offset = some t := by
  have hh := t.hour_lt
  have hm := t.minute_lt
  have hlt := t.onClock_lt hlow hhigh
  have hback : atMinute (t.onClock offset).1 ((t.onClock offset).2 - offset) =
      (t.date, t.hour * 60 + t.minute) :=
    atMinute_atMinute t.date (by omega) hlow hhigh
  have hsplit : (t.onClock offset).2 / 60 * 60 + (t.onClock offset).2 % 60 =
      (t.onClock offset).2 := by
    omega
  unfold ofParts?
  rw [if_pos ⟨by omega, by omega⟩, hsplit, hback]
  dsimp only
  rw [dif_pos ⟨by omega, t.second_le, t.nano_lt⟩, hk, hc]
  simp only [Bool.and_self, if_true, Option.some.injEq]
  ext <;> dsimp only <;> omega

/-! ## The parts of a text -/

variable {rest zone : List Char} {width n : Nat}

/-- A number is read from as many digits as it is written in. -/
theorem number?_padded (h : n < 10 ^ (width + 1)) :
    number? (width + 1) (padded (width + 1) n ++ rest) = some (n, rest) := by
  have htake : takeDigits (width + 1) (padded (width + 1) n ++ rest) =
      (padded (width + 1) n, rest) := by
    have hl : (padded (width + 1) n).length = width + 1 := by
      rw [padded_of_lt h, length_digits]
    exact takeDigits_append (fun _ => isDigit_of_mem_padded) hl.le (.inl hl)
  unfold number?
  rw [dropBlank_padded, htake]
  split
  · rename_i he
    exact absurd (congrArg Prod.fst he) (padded_ne_nil width n)
  · rename_i he
    cases he
    rw [ofDigits_padded]

/-- A mark stands right in front of the next number. -/
theorem behind?_padded {mark : Char} (h : isBlank mark = false) :
    behind? mark (mark :: (padded (width + 1) n ++ rest)) =
      some (padded (width + 1) n ++ rest) := by
  unfold behind?
  rw [dropBlank_cons h]
  dsimp only
  rw [if_pos rfl, dropBlank_padded]

/-- All the digits behind a sign are those of a year. -/
theorem year?_signed {sign : Char} (hs : sign = '-' ∨ sign = '+') (n : Nat) (hr : Undigited rest) :
    year? (sign :: (padded 4 n ++ rest)) =
      some ((if sign = '-' then -1 else 1) * (n : Int), rest) := by
  obtain ⟨d, ds, hd, -⟩ := exists_padded_eq_cons 3 n
  have hspan : (padded 4 n ++ rest).span Char.isDigit = (padded 4 n, rest) :=
    span_digits_append (fun _ => isDigit_of_mem_padded) hr
  have hvalue := ofDigits_padded 4 n
  rw [hd] at hvalue
  rw [hd, List.cons_append] at hspan ⊢
  unfold year?
  rcases hs with rfl | rfl
  all_goals
    rw [dropBlank_cons (by decide)]
    simp [-List.span_eq_takeWhile_dropWhile, hspan, hvalue]

/-- A year without a sign has at most four digits. -/
theorem year?_padded (h : n < 10000) : year? (padded 4 n ++ rest) = some ((n : Int), rest) := by
  have hdigit (c : Char) (cs : List Char) (hc : padded 4 n ++ rest = c :: cs) :
      c.isDigit = true := by
    obtain ⟨d, ds, hd, hdigit⟩ := exists_padded_eq_cons 3 n
    rw [hd] at hc
    cases hc
    exact hdigit
  unfold year?
  rw [dropBlank_padded]
  split
  · rename_i hc
    exact absurd (hdigit _ _ hc) (by decide)
  · rename_i hc
    exact absurd (hdigit _ _ hc) (by decide)
  · rw [number?_padded h, Option.map_some]

theorem sign_cases (x : Int) :
    (if x < 0 then '-' else '+') = '-' ∨ (if x < 0 then '-' else '+') = '+' := by
  split
  · exact .inl rfl
  · exact .inr rfl

theorem sign_mul_natAbs (x : Int) :
    (if (if x < 0 then '-' else '+') = '-' then -1 else 1) * (x.natAbs : Int) = x := by
  by_cases h : x < 0
  · rw [if_pos h, if_pos rfl]
    omega
  · rw [if_neg h, if_neg (by decide)]
    omega

/-- A year is read from its form, with a sign or without. -/
theorem year?_renderYear (year : Int) (hr : Undigited rest) :
    year? (renderYear year ++ rest) = some (year, rest) := by
  unfold renderYear
  split
  · rw [year?_padded (by omega), Int.toNat_of_nonneg (by omega)]
  · rw [List.cons_append, year?_signed (sign_cases year) _ hr, sign_mul_natAbs]

/-! ## Fractions of a second -/

/-- A fraction of a second, in whatever number of digits. -/
theorem fraction?_padded (hw : width < 9) (h : n < 10 ^ (width + 1)) (hz : Undigited zone) :
    fraction? ('.' :: padded (width + 1) n ++ zone) = some (n * 10 ^ (8 - width), zone) := by
  have hl : (padded (width + 1) n).length = width + 1 := by rw [padded_of_lt h, length_digits]
  have htake : takeDigits 9 (padded (width + 1) n ++ zone) = (padded (width + 1) n, zone) :=
    takeDigits_append (fun _ => isDigit_of_mem_padded) (by omega) (.inr hz)
  obtain ⟨d, ds, hd, -⟩ := exists_padded_eq_cons width n
  have hvalue := ofDigits_padded (width + 1) n
  have hdigits : 9 - (ds.length + 1) = 8 - width := by
    rw [hd, List.length_cons] at hl
    omega
  rw [hd] at htake hvalue ⊢
  rw [List.cons_append] at htake
  simp [fraction?, htake, hvalue, hz.dropWhile, hdigits]

/-- Without a point there is no fraction. -/
theorem fraction?_of_ne {c : Char} (hc : c ≠ '.') :
    fraction? (c :: rest) = some (0, c :: rest) := by
  unfold fraction?
  split
  · rename_i he
    cases he
    exact absurd rfl hc
  · rfl

/-- A fraction is read from the digits that it is written in, down to nanoseconds. -/
theorem fraction?_renderFraction {nano : Nat} {c : Char} (h : nano < 1000000000)
    (hdigit : c.isDigit = false) (hdot : c ≠ '.') :
    fraction? (renderFraction nano ++ c :: rest) = some (nano, c :: rest) := by
  have hz : Undigited (c :: rest) := .cons hdigit
  unfold renderFraction
  split
  · rename_i hzero
    rw [hzero]
    exact fraction?_of_ne hdot
  split
  · rw [fraction?_padded (by decide) (by omega) hz]
    congr 2
    omega
  split
  · rw [fraction?_padded (by decide) (by omega) hz]
    congr 2
    omega
  · rw [fraction?_padded (by decide) (by omega) hz]
    congr 2
    exact Nat.mul_one nano

/-! ## Zones -/

theorem padded_two (h : n < 100) : padded 2 n = [(n / 10).digitChar, (n % 10).digitChar] := by
  have hmod : n / 10 % 10 = n / 10 := by omega
  rw [padded_of_lt h]
  simp [digits, hmod]

/-- Two digits of which the first is not above some digit. -/
theorem pair?_padded {k : Nat} (hk : k < 10) (hn : n < (k + 1) * 10) (rest : List Char) :
    pair? k.digitChar (padded 2 n ++ rest) = some (n, rest) := by
  have hle : ∀ k < 10, ∀ m ≤ k, m.digitChar ≤ k.digitChar := by decide
  have hfirst : (n / 10).digitChar ≤ k.digitChar := hle k hk (n / 10) (by omega)
  have hdigit (m : Nat) (hm : m < 10) : m.digitChar.isDigit = true := by
    rw [Nat.isDigit_digitChar, decide_eq_true hm]
  have hvalue := ofDigits_padded 2 n
  rw [padded_two (by omega)] at hvalue ⊢
  simp [pair?, hvalue, hfirst, hdigit (n / 10) (by omega), hdigit (n % 10) (by omega)]

/-- Hours and minutes behind a sign. -/
theorem offset?_of_pairs {sign b c : Char} {hours minutes : Nat} (hs : sign = '-' ∨ sign = '+')
    (hhours : pair? '9' (b :: c :: rest) = some (hours, rest)) (hlt : hours < 24)
    (hminutes : pair? '5' (rest.dropWhile isOffsetMark) = some (minutes, zone)) :
    offset? (sign :: b :: c :: rest) =
      some ((if sign = '-' then -1 else 1) * ((hours * 60 + minutes : Nat) : Int), zone) := by
  unfold offset?
  rcases hs with rfl | rfl <;> simp [hhours, hminutes, hlt]

theorem dropWhile_isOffsetMark (n : Nat) :
    (':' :: padded 2 n).dropWhile isOffsetMark = padded 2 n := by
  obtain ⟨d, ds, hd, hdigit⟩ := exists_padded_eq_cons 1 n
  have hcolon : d ≠ ':' := by
    rintro rfl
    exact absurd hdigit (by decide)
  have hmark : isOffsetMark d = false := by simp [isOffsetMark, hcolon, isBlank_of_isDigit hdigit]
  rw [hd, List.dropWhile_cons_of_pos (by decide), List.dropWhile_cons_of_neg (by simp [hmark])]

/-- The zone of a clock that is `offset` minutes ahead of universal time. -/
def renderOffset (offset : Int) : List Char :=
  (if offset < 0 then '-' else '+') ::
    (padded 2 (offset.natAbs / 60) ++ ':' :: padded 2 (offset.natAbs % 60))

/-- An offset is read from its sign, its hours and its minutes. -/
theorem offset?_renderOffset (hlow : -1440 < offset) (hhigh : offset < 1440) :
    offset? (renderOffset offset) = some (offset, []) := by
  have hhours := pair?_padded (k := 9) (n := offset.natAbs / 60) (by decide) (by omega)
    (':' :: padded 2 (offset.natAbs % 60))
  have hminutes := pair?_padded (k := 5) (n := offset.natAbs % 60) (by decide) (by omega) []
  rw [List.append_nil, ← dropWhile_isOffsetMark] at hminutes
  have hsplit : offset.natAbs / 60 * 60 + offset.natAbs % 60 = offset.natAbs := by omega
  unfold renderOffset
  rw [padded_two (n := offset.natAbs / 60) (by omega)] at hhours ⊢
  refine (offset?_of_pairs (sign_cases offset) hhours (by omega) hminutes).trans ?_
  rw [hsplit, sign_mul_natAbs]

/-! ## Whole texts -/

/-- A date and a time of day, with whatever fraction of a second. -/
def face (date : Date) (hour minute second : Nat) (fraction : List Char) : List Char :=
  renderYear date.year ++ '-' :: padded 2 date.month ++ '-' :: padded 2 date.day
    ++ 'T' :: padded 2 hour ++ ':' :: padded 2 minute ++ ':' :: padded 2 second ++ fraction

/-- The characters of a moment's form on a clock that is `offset` minutes ahead. -/
def charsAt (t : Timestamp) (offset : Int) : List Char :=
  face (t.onClock offset).1 ((t.onClock offset).2 / 60) ((t.onClock offset).2 % 60) t.second
    (renderFraction t.nano) ++ renderOffset offset

/-- The RFC 3339 form of a moment on a clock that is `offset` minutes ahead. -/
def renderAt (t : Timestamp) (offset : Int) : String := String.ofList (t.charsAt offset)

/-- A date and a time of day are read part by part, in front of whatever zone. -/
theorem readChars?_face {date : Date} {hour minute second nano : Nat} {fraction : List Char}
    {z : Char} (hh : hour < 10 ^ 2) (hm : minute < 10 ^ 2) (hs : second < 10 ^ 2)
    (hf : fraction? (fraction ++ z :: zone) = some (nano, z :: zone)) (hb : isBlank z = false)
    (hz : offset? (z :: zone) = some (offset, []))
    (hp : ofParts? date hour minute second nano offset = some t) :
    readChars? (face date hour minute second fraction ++ z :: zone) = some t := by
  obtain ⟨-, hmonth, -, hday⟩ := date.valid
  have hmonth : date.month < 10 ^ 2 := by omega
  have hday : date.day < 10 ^ 2 := by
    have := Date.daysIn_le date.year date.month
    omega
  have hdash : isBlank '-' = false := by decide
  have hcolon : isBlank ':' = false := by decide
  have hzone : offset? (dropBlank (z :: zone)) = some (offset, []) := by rwa [dropBlank_cons hb]
  simp only [face, List.append_assoc, List.cons_append]
  unfold readChars?
  refine Option.bind_eq_some_iff.mpr ⟨_, year?_renderYear date.year (.cons (by decide)), ?_⟩
  refine Option.bind_eq_some_iff.mpr ⟨_, behind?_padded hdash, ?_⟩
  refine Option.bind_eq_some_iff.mpr ⟨_, number?_padded hmonth, ?_⟩
  refine Option.bind_eq_some_iff.mpr ⟨_, behind?_padded hdash, ?_⟩
  refine Option.bind_eq_some_iff.mpr ⟨_, number?_padded hday, ?_⟩
  refine Option.bind_eq_some_iff.mpr ⟨_, dif_pos date.valid, ?_⟩
  -- The date and the time are parted by a mark, behind which reading goes on.
  refine Option.bind_eq_some_iff.mpr ⟨_, rfl, ?_⟩
  refine Option.bind_eq_some_iff.mpr ⟨_, number?_padded hh, ?_⟩
  refine Option.bind_eq_some_iff.mpr ⟨_, behind?_padded hcolon, ?_⟩
  refine Option.bind_eq_some_iff.mpr ⟨_, number?_padded hm, ?_⟩
  refine Option.bind_eq_some_iff.mpr ⟨_, behind?_padded hcolon, ?_⟩
  refine Option.bind_eq_some_iff.mpr ⟨_, number?_padded hs, ?_⟩
  refine Option.bind_eq_some_iff.mpr ⟨_, hf, ?_⟩
  exact Option.bind_eq_some_iff.mpr ⟨_, hzone, hp⟩

/-- The form of a moment on a clock, with the zone of that clock, is read as the moment. -/
theorem readChars?_onClock {z : Char} (hlow : -1440 < offset) (hhigh : offset < 1440)
    (hk : isKeptYear t.date.year = true) (hc : isKeptYear (t.onClock offset).1.year = true)
    (hdigit : z.isDigit = false) (hdot : z ≠ '.') (hb : isBlank z = false)
    (hz : offset? (z :: zone) = some (offset, [])) :
    readChars? (face (t.onClock offset).1 ((t.onClock offset).2 / 60) ((t.onClock offset).2 % 60)
      t.second (renderFraction t.nano) ++ z :: zone) = some t := by
  have hlt := t.onClock_lt hlow hhigh
  have hs := t.second_le
  exact readChars?_face (by omega) (by omega) (by omega)
    (fraction?_renderFraction t.nano_lt hdigit hdot) hb hz (ofParts?_onClock hlow hhigh hk hc)

/-- A moment is read from its RFC 3339 form. -/
theorem read?_render (hk : isKeptYear t.date.year = true) : read? t.render = some t := by
  have hclock := t.onClock_zero
  have hh := t.hour_lt
  have hm := t.minute_lt
  have hchars : face (t.onClock 0).1 ((t.onClock 0).2 / 60) ((t.onClock 0).2 % 60) t.second
      (renderFraction t.nano) ++ ['Z'] = t.renderChars := by
    have hhour : (t.hour * 60 + t.minute) / 60 = t.hour := by omega
    have hminute : (t.hour * 60 + t.minute) % 60 = t.minute := by omega
    rw [hclock]
    dsimp only
    rw [hhour, hminute]
    rfl
  unfold read? render
  rw [String.toList_ofList, ← hchars]
  exact readChars?_onClock (by decide) (by decide) hk (by rwa [hclock]) (by decide) (by decide)
    (by decide) rfl

/-- A moment is read from its form on any clock less than a day ahead or behind. -/
theorem read?_renderAt (hlow : -1440 < offset) (hhigh : offset < 1440)
    (hk : isKeptYear t.date.year = true) (hc : isKeptYear (t.onClock offset).1.year = true) :
    read? (t.renderAt offset) = some t := by
  unfold read? renderAt charsAt
  rw [String.toList_ofList]
  have hz := offset?_renderOffset hlow hhigh
  unfold renderOffset at hz ⊢
  refine readChars?_onClock hlow hhigh hk hc ?_ ?_ ?_ hz
  all_goals split <;> decide

end Timestamp

end Switchboard.Time
