import Switchboard.Time.Calendar

/-!
# Scanning TOML

The words of TOML 1.0: blanks and comments, keys, strings, numbers and datetimes. A scanner takes
characters off the front of a text and fails without a reason; `a <|> b` goes back to where `a`
began.
-/

namespace Switchboard.Toml

/-- Takes something off the front of a text. -/
abbrev Scan := StateT (List Char) Option

namespace Scan

/-- The next character, which stays. -/
def peek? : Scan (Option Char) := fun cs => some (cs.head?, cs)

/-- The text begins with `word`, which stays. -/
def sees (word : String) : Scan Bool := fun cs => some (word.toList.isPrefixOf cs, cs)

/-- Takes one character. -/
def next : Scan Char
  | c :: cs => some (c, cs)
  | [] => none

/-- Takes one character of a class. -/
def one (p : Char → Bool) : Scan Char
  | c :: cs => if p c then some (c, cs) else none
  | [] => none

/-- Takes the character `c`. -/
def mark (c : Char) : Scan Unit := discard (one (· == c))

/-- Takes `word`. -/
def word (word : String) : Scan Unit := fun cs =>
  if word.toList.isPrefixOf cs then some ((), cs.drop word.length) else none

/-- Takes the characters of a class at the front. -/
def many (p : Char → Bool) : Scan (List Char) := fun cs => some (cs.span p)

/-- Takes the characters of a class at the front, of which there must be one. -/
def many1 (p : Char → Bool) : Scan (List Char) := fun cs =>
  match cs.span p with
  | ([], _) => none
  | (taken, rest) => some (taken, rest)

/-- Takes exactly so many characters of a class. -/
def exactly (n : Nat) (p : Char → Bool) : Scan (List Char) := fun cs =>
  let taken := cs.take n
  if taken.length = n ∧ taken.all p then some (taken, cs.drop n) else none

/-- Takes something if it is there. -/
def maybe {α : Type} (x : Scan α) : Scan (Option α) := (some <$> x) <|> pure none

/-- The end of the text has come. -/
def atEnd : Scan Bool := fun cs => some (cs.isEmpty, cs)

/-- How many steps a loop over the text may take: each takes a character or is the last. -/
def fuel : Scan Nat := fun cs => some (cs.length + 1, cs)

end Scan

open Scan

/-! ## Blanks, comments and line ends -/

/-- A space or a tab. -/
def isBlank (c : Char) : Bool := c == ' ' || c == '\t'

/-- Takes spaces and tabs. -/
def blanks : Scan Unit := discard (many isBlank)

/-- Takes a line end. -/
def newline : Scan Unit := word "\n" <|> word "\r\n"

/-- A character that may stand in a comment, and in a literal string. -/
def isPrintable (c : Char) : Bool := c == '\t' || (' ' ≤ c && c != '\x7f')

/-- Takes a comment up to the line end. -/
def comment : Scan Unit := do
  mark '#'
  discard (many isPrintable)

/-- Takes the rest of a line: blanks, perhaps a comment, and the line end or the end of the text. -/
def lineEnd : Scan Unit := do
  blanks
  discard (maybe comment)
  unless ← atEnd do newline

/-- Takes blanks, comments and line ends. -/
def trivia : Scan Unit := do loop (← fuel)
where
  loop : Nat → Scan Unit
    | 0 => failure
    | n + 1 => do
      blanks
      match ← peek? with
      | some '#' => do comment; newline; loop n
      | some '\n' | some '\r' => do newline; loop n
      | _ => pure ()

/-! ## Strings -/

/-- The value of a hexadecimal digit. -/
def hexValue (c : Char) : Nat :=
  if c.isDigit then c.toNat - '0'.toNat
  else if 'a' ≤ c && c ≤ 'f' then c.toNat - 'a'.toNat + 10
  else c.toNat - 'A'.toNat + 10

/-- A hexadecimal digit. -/
def isHex (c : Char) : Bool := c.isDigit || ('a' ≤ c && c ≤ 'f') || ('A' ≤ c && c ≤ 'F')

/-- The number of digits to a base. -/
def ofDigits (base : Nat) (ds : List Char) : Nat :=
  ds.foldl (fun n d => n * base + hexValue d) 0

/-- Takes so many hexadecimal digits that give a character. -/
def codePoint (width : Nat) : Scan Char := do
  let n := ofDigits 16 (← exactly width isHex)
  if n.isValidChar then pure (Char.ofNat n) else failure

/-- Takes what follows a backslash. -/
def escape : Scan Char := do
  match ← next with
  | 'b' => pure '\x08'
  | 't' => pure '\t'
  | 'n' => pure '\n'
  | 'f' => pure '\x0c'
  | 'r' => pure '\r'
  | '\x22' => pure '\x22'
  | '\x5c' => pure '\x5c'
  | 'u' => codePoint 4
  | 'U' => codePoint 8
  | _ => failure

/-- A character that stands for itself in a basic string. -/
def isBasic (c : Char) : Bool := isPrintable c && c != '\x22' && c != '\x5c'

/-- A character that stands for itself in a literal string. -/
def isLiteral (c : Char) : Bool := isPrintable c && c != '\x27'

/-- Takes a basic string on one line. -/
def basicString : Scan String := do
  mark '\x22'
  loop (← fuel) []
where
  loop : Nat → List Char → Scan String
    | 0, _ => failure
    | n + 1, taken => do
      match ← next with
      | '\x22' => pure (String.ofList taken.reverse)
      | '\x5c' => do loop n ((← escape) :: taken)
      | c => if isBasic c then loop n (c :: taken) else failure

/-- Takes a literal string on one line. -/
def literalString : Scan String := do
  mark '\x27'
  let taken ← many isLiteral
  mark '\x27'
  pure (String.ofList taken)

/-- Takes blanks and line ends. -/
def blankLines : Scan Unit := do loop (← fuel)
where
  loop : Nat → Scan Unit
    | 0 => failure
    | n + 1 => do
      blanks
      if (← maybe newline).isSome then loop n

/-- Takes what follows a backslash at the end of a line: that line end and all blank lines. -/
def lineJoin : Scan Unit := do
  blanks
  newline
  blankLines

/-- Takes a string of several lines, in which line ends are written alike. -/
def multiline (quote : Char) (plain : Char → Bool) (escapes : Bool) : Scan String := do
  mark quote
  mark quote
  mark quote
  discard (maybe newline)
  loop (← fuel) []
where
  loop : Nat → List Char → Scan String
    | 0, _ => failure
    | n + 1, taken => do
      match ← peek? with
      | none => failure
      | some c =>
        if c == quote then
          let quotes ← many (· == quote)
          if quotes.length < 3 then loop n (quotes ++ taken)
          else if quotes.length ≤ 5 then
            pure (String.ofList (quotes.drop 3 ++ taken).reverse)
          else failure
        else if c == '\n' || c == '\r' then do
          newline
          loop n ('\n' :: taken)
        else if escapes && c == '\x5c' then do
          mark '\x5c'
          if (← maybe lineJoin).isSome then loop n taken
          else loop n ((← escape) :: taken)
        else if plain c then do
          discard next
          loop n (c :: taken)
        else failure

/-- Takes a string of any form. -/
def string : Scan String := do
  if ← sees "\"\"\"" then multiline '\x22' isBasic true
  else if ← sees "\x27\x27\x27" then multiline '\x27' isLiteral false
  else basicString <|> literalString

/-! ## Keys -/

/-- A character of a bare key. -/
def isBare (c : Char) : Bool := c.isAlphanum || c == '_' || c == '-'

/-- Takes one part of a key. -/
def simpleKey : Scan String :=
  basicString <|> literalString <|> (String.ofList <$> many1 isBare)

/-- How many parts a key has at most, and how deep values nest at most. -/
def depthLimit : Nat := 79

/-- Takes a key, whose parts are parted by dots. -/
def key : Scan (List String) := do
  let path ← loop (← fuel)
  if path.length ≤ depthLimit then pure path else failure
where
  loop : Nat → Scan (List String)
    | 0 => failure
    | n + 1 => do
      blanks
      let part ← simpleKey
      blanks
      if (← peek?) = some '.' then
        mark '.'
        return part :: (← loop n)
      else pure [part]

/-! ## Numbers -/

/-- Takes digits of a class that single underscores may part. -/
def digits (p : Char → Bool) : Scan (List Char) := do
  let first ← many1 p
  let rest ← loop (← fuel)
  pure (first ++ rest)
where
  loop : Nat → Scan (List Char)
    | 0 => failure
    | n + 1 => do
      match ← maybe (do mark '_'; many1 p) with
      | some more => return more ++ (← loop n)
      | none => pure []

/-- Takes a sign, if there is one; true for a minus. -/
def sign : Scan Bool := do
  match ← maybe (one fun c => c == '+' || c == '-') with
  | some '-' => pure true
  | _ => pure false

/-- Takes a decimal number without leading zeros. -/
def decimal : Scan (List Char) := do
  if (← peek?) = some '0' then
    mark '0'
    pure ['0']
  else digits Char.isDigit

/-- An integer fits a signed word of 64 bits. -/
def fitsWord (n : Int) : Bool := Int64.minValue.toInt ≤ n && n ≤ Int64.maxValue.toInt

/-- Takes an integer. -/
def integer : Scan Int := do
  let n ←
    if ← sees "0x" then do word "0x"; Int.ofNat <$> ofDigits 16 <$> digits isHex
    else if ← sees "0o" then do
      word "0o"
      Int.ofNat <$> ofDigits 8 <$> digits fun c => '0' ≤ c && c ≤ '7'
    else if ← sees "0b" then do
      word "0b"
      Int.ofNat <$> ofDigits 2 <$> digits fun c => c == '0' || c == '1'
    else do
      let negative ← sign
      let n := ofDigits 10 (← decimal)
      pure (if negative then -(n : Int) else n)
  if fitsWord n then pure n else failure

/-- The power of ten `10 ^ exponent` times a whole number is more than a double can be told from
infinity: it is not below the middle between the greatest double and the next power of two. -/
def overflows (mantissa : List Char) (exponent : Int) : Bool :=
  let ds := mantissa.dropWhile (· == '0')
  let magnitude := (ds.length : Int) + exponent
  if ds.isEmpty || magnitude < 300 then false
  else if 320 < magnitude then true
  else
    let limit := 1 <<< 1024 - 1 <<< 970
    let n := ofDigits 10 ds
    if 0 ≤ exponent then limit ≤ n * Nat.pow 10 exponent.toNat
    else limit * Nat.pow 10 (-exponent).toNat ≤ n

/-- Takes an exponent. -/
def exponent : Scan Int := do
  discard (one fun c => c == 'e' || c == 'E')
  let negative ← sign
  let n := ofDigits 10 (← digits Char.isDigit)
  pure (if negative then -(n : Int) else n)

/-- Takes the digits of a fraction. -/
def fraction : Scan (List Char) := do
  mark '.'
  digits Char.isDigit

/-- Takes a float. One too great for a double is refused, unless it is negative. -/
def float : Scan Unit :=
  (do
    let negative ← sign
    let whole ← decimal
    let places ← maybe fraction
    let power ← maybe exponent
    if places.isNone && power.isNone then failure
    let places := places.getD []
    if !negative && overflows (whole ++ places) (power.getD 0 - places.length) then failure)
  <|> (do
    discard sign
    word "inf" <|> word "nan")

/-! ## Datetimes -/

/-- Takes a number of two digits within bounds. -/
def twoDigits (low high : Nat) : Scan Nat := do
  let n := ofDigits 10 (← exactly 2 Char.isDigit)
  if low ≤ n ∧ n ≤ high then pure n else failure

/-- Takes a date that exists. -/
def date : Scan Unit := do
  let year := ofDigits 10 (← exactly 4 Char.isDigit)
  mark '-'
  let month ← twoDigits 1 12
  mark '-'
  discard (twoDigits 1 (Time.daysIn year month))

/-- Takes a time of the day. -/
def time : Scan Unit := do
  discard (twoDigits 0 23)
  mark ':'
  discard (twoDigits 0 59)
  mark ':'
  discard (twoDigits 0 60)
  discard (maybe (do mark '.'; discard (many1 Char.isDigit)))

/-- Takes an offset from universal time. -/
def offset : Scan Unit :=
  discard (one fun c => c == 'Z' || c == 'z')
  <|> (do
    discard (one fun c => c == '+' || c == '-')
    discard (twoDigits 0 23)
    mark ':'
    discard (twoDigits 0 59))

/-- Takes a date, a time, or both. -/
def datetime : Scan Unit :=
  (do
    date
    discard (maybe (do
      discard (one fun c => c == 'T' || c == 't' || c == ' ')
      time
      discard (maybe offset))))
  <|> time

end Switchboard.Toml
