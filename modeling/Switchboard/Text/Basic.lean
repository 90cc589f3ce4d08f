import Switchboard.Text.Combining
import Switchboard.Text.Unprintable

/-!
# Text

What text is made of, apart from the tables of characters: white space, decimal numerals and quotes.

* `isBlank`, `dropBlank`: the characters with the White_Space property, and how to skip them.
* `digitValue`, `ofDigits`, `takeDigits`: natural numbers are read from runs of decimal digits.
* `padded`: a number with leading zeros up to a width.
* `quote`: text between double quotes, with everything escaped that would not be seen for what it
  is. It puts a backslash before quotes and backslashes, writes the common controls by their
  letters, and writes characters that do not print, or that would join the character before them, by
  their code points.
-/

namespace Switchboard.Text

/-! ## White space -/

/-- The character is white space. -/
def isBlank (c : Char) : Bool :=
  ('\t' ≤ c && c ≤ '\r') || c == ' ' || c == '\x85' || c == '\xa0' || c == '\u1680'
    || ('\u2000' ≤ c && c ≤ '\u200a') || c == '\u2028' || c == '\u2029' || c == '\u202f'
    || c == '\u205f' || c == '\u3000'

/-- The text from the first character on that is not white space. -/
def dropBlank (cs : List Char) : List Char := cs.dropWhile isBlank

/-! ## Decimal numerals -/

/-- The value of a decimal digit; zero for any other character. -/
def digitValue (c : Char) : Nat := if c.isDigit then c.toNat - '0'.toNat else 0

/-- The number that decimal digits write. -/
def ofDigits (ds : List Char) : Nat := ds.foldl (fun n d => n * 10 + digitValue d) 0

/-- The decimal digits at the head of a text, at most `limit` of them, and the rest. -/
def takeDigits : Nat → List Char → List Char × List Char
  | 0, cs => ([], cs)
  | _, [] => ([], [])
  | limit + 1, c :: cs =>
    if c.isDigit then
      let (ds, rest) := takeDigits limit cs
      (c :: ds, rest)
    else ([], c :: cs)

/-- The last `width` decimal digits of a number, leading zeros included. -/
def digits : Nat → Nat → List Char
  | 0, _ => []
  | width + 1, n => digits width (n / 10) ++ [Nat.digitChar (n % 10)]

/-- A number in decimal digits, with leading zeros up to a width. -/
def padded (width n : Nat) : List Char :=
  if n < Nat.pow 10 width then digits width n else (toString n).toList

/-! ## Quotes -/

/-- A code point in escaped form: lower-case hexadecimal digits in braces. -/
def escapedCodePoint (c : Char) : String :=
  "\\u\x7b" ++ String.ofList (Nat.toDigits 16 c.toNat) ++ "\x7d"

/-- A character as it stands between quotes. -/
def escaped (c : Char) : String :=
  if c == '\x00' then "\\0"
  else if c == '\t' then "\\t"
  else if c == '\r' then "\\r"
  else if c == '\n' then "\\n"
  else if c == '\x5c' then "\\\\"
  else if c == '\x22' then "\\\""
  else if isCombining c || isUnprintable c then escapedCodePoint c
  else c.toString

/-- Text between quotes. -/
def quote (s : String) : String :=
  "\"" ++ String.join (s.toList.map escaped) ++ "\""

end Switchboard.Text
