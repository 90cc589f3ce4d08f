import Switchboard.Text.Basic
import Switchboard.Time.Calendar

/-!
# Timestamps

Moments of universal time, to the nanosecond, and their RFC 3339 form. Second 60 is a leap second
and may stand in any minute.

* `Timestamp.render`: always with `Z`, and with 0, 3, 6 or 9 digits of a second's fraction, the
  fewest that lose nothing. Years outside of 0 to 9999 carry a sign.
* `Timestamp.read?`: any offset, and some liberty beyond the standard: numbers may lack their
  leading zeros, white space may surround them, the date and the time may be parted by a space, and
  the offset may lack its colon or read `UTC`.
-/

namespace Switchboard.Time

open Text (dropBlank ofDigits padded takeDigits)

/-- A moment of universal time. -/
structure Timestamp where
  date : Date
  hour : Nat
  minute : Nat
  /-- Up to 60, which is a leap second. -/
  second : Nat
  nano : Nat
  hour_lt : hour < 24
  minute_lt : minute < 60
  second_le : second ≤ 60
  nano_lt : nano < 1000000000
  deriving DecidableEq, Repr

namespace Timestamp

/-! ## Writing -/

/-- A year in four digits, or with a sign in front of at least four. -/
def renderYear (year : Int) : List Char :=
  if 0 ≤ year ∧ year ≤ 9999 then padded 4 year.toNat
  else (if year < 0 then '-' else '+') :: padded 4 year.natAbs

/-- The fraction of a second, in the fewest thousands that lose nothing. -/
def renderFraction (nano : Nat) : List Char :=
  if nano = 0 then []
  else if nano % 1000000 = 0 then '.' :: padded 3 (nano / 1000000)
  else if nano % 1000 = 0 then '.' :: padded 6 (nano / 1000)
  else '.' :: padded 9 nano

/-- The characters of a moment's RFC 3339 form. -/
def renderChars (t : Timestamp) : List Char :=
  renderYear t.date.year ++ '-' :: padded 2 t.date.month ++ '-' :: padded 2 t.date.day
    ++ 'T' :: padded 2 t.hour ++ ':' :: padded 2 t.minute ++ ':' :: padded 2 t.second
    ++ renderFraction t.nano ++ ['Z']

/-- The RFC 3339 form of a moment. -/
def render (t : Timestamp) : String := String.ofList t.renderChars

/-! ## Reading -/

/-- A number of one to `width` digits behind white space. -/
def number? (width : Nat) (cs : List Char) : Option (Nat × List Char) :=
  match takeDigits width (dropBlank cs) with
  | ([], _) => none
  | (ds, rest) => some (ofDigits ds, rest)

/-- A year: up to four digits, or a sign and any number of digits. -/
def year? (cs : List Char) : Option (Int × List Char) :=
  match dropBlank cs with
  | '-' :: rest =>
    match rest.span Char.isDigit with
    | ([], _) => none
    | (ds, rest) => some (-(ofDigits ds : Int), rest)
  | '+' :: rest =>
    match rest.span Char.isDigit with
    | ([], _) => none
    | (ds, rest) => some (ofDigits ds, rest)
  | cs => (number? 4 cs).map fun (n, rest) => (n, rest)

/-- The rest behind a mark that may have white space around it. -/
def behind? (mark : Char) (cs : List Char) : Option (List Char) :=
  match dropBlank cs with
  | c :: rest => if c = mark then some (dropBlank rest) else none
  | [] => none

/-- The fraction of a second in nanoseconds; digits beyond the ninth are dropped. -/
def fraction? (cs : List Char) : Option (Nat × List Char) :=
  match cs with
  | '.' :: cs =>
    match takeDigits 9 cs with
    | ([], _) => none
    | (ds, rest) => some (ofDigits ds * Nat.pow 10 (9 - ds.length), rest.dropWhile Char.isDigit)
  | _ => some (0, cs)

/-- Two decimal digits, the first at most `limit`. -/
def pair? (limit : Char) (cs : List Char) : Option (Nat × List Char) :=
  match cs with
  | a :: b :: rest =>
    if a.isDigit && a ≤ limit && b.isDigit then some (ofDigits [a, b], rest) else none
  | _ => none

/-- What may stand between the hours and the minutes of an offset. -/
def isOffsetMark (c : Char) : Bool := c == ':' || Text.isBlank c

/-- An offset from universal time in minutes, below a day. -/
def offset? (cs : List Char) : Option (Int × List Char) :=
  match cs with
  | 'Z' :: rest | 'z' :: rest => some (0, rest)
  | a :: b :: c :: rest =>
    if a.toUpper = 'U' ∧ b.toUpper = 'T' ∧ c.toUpper = 'C' then some (0, rest)
    else do
      let sign : Int ←
        if a = '+' then some 1 else if a = '-' ∨ a = '\u2212' then some (-1) else none
      let (hours, rest) ← pair? '9' (b :: c :: rest)
      let (minutes, rest) ← pair? '5' (rest.dropWhile isOffsetMark)
      if hours < 24 then some (sign * (hours * 60 + minutes : Nat), rest) else none
  | _ => none

/-- The years that are kept. -/
def isKeptYear (year : Int) : Bool := -262143 ≤ year && year ≤ 262142

/-- The moment at a minute of a day that may lie in the day before or after. -/
def atMinute (date : Date) (minute : Int) : Date × Nat :=
  if minute < 0 then (date.yesterday, (minute + 1440).toNat)
  else if 1440 ≤ minute then (date.tomorrow, (minute - 1440).toNat)
  else (date, minute.toNat)

/-- A moment from its parts as they stand on a clock that is `offset` minutes ahead. -/
def ofParts? (date : Date) (hour minute second nano : Nat) (offset : Int) : Option Timestamp :=
  if hour < 24 ∧ minute < 60 then
    let (day, m) := atMinute date ((hour * 60 + minute : Nat) - offset)
    if h : m < 1440 ∧ second ≤ 60 ∧ nano < 1000000000 then
      if isKeptYear date.year && isKeptYear day.year then
        some ⟨day, m / 60, m % 60, second, nano, by omega, by omega, h.2.1, h.2.2⟩
      else none
    else none
  else none

/-- Reads the characters of a moment. -/
def readChars? (cs : List Char) : Option Timestamp := do
  let (year, cs) ← year? cs
  let (month, cs) ← number? 2 (← behind? '-' cs)
  let (day, cs) ← number? 2 (← behind? '-' cs)
  let date ← Date.of? year month day
  let cs ←
    match cs with
    | 'T' :: cs | 't' :: cs | ' ' :: cs => some cs
    | _ => none
  let (hour, cs) ← number? 2 cs
  let (minute, cs) ← number? 2 (← behind? ':' cs)
  let (second, cs) ← number? 2 (← behind? ':' cs)
  let (nano, cs) ← fraction? cs
  let (offset, cs) ← offset? (dropBlank cs)
  if (dropBlank cs).isEmpty then ofParts? date hour minute second nano offset else none

/-- Reads a moment. -/
def read? (text : String) : Option Timestamp := readChars? text.toList

end Timestamp

end Switchboard.Time
