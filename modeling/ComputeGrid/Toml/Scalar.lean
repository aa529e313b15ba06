import ComputeGrid.Text.Digits
import ComputeGrid.Toml.Basic

/-!
# Strings, numbers and dates of TOML

Every reader takes the characters and gives back a value and the characters that follow it. Strings are basic (with
escapes) or literal, and either may run over lines; numbers may have underscores between digits; dates must exist in the
calendar.
-/

namespace ComputeGrid.Toml

/-- The rest of a text that starts with another. -/
def dropStart? : (start cs : List Char) → Option (List Char)
  | [], cs => some cs
  | _ :: _, [] => none
  | s :: start, c :: cs => if s = c then dropStart? start cs else none

/-- A space or a tab. -/
def isSpace (c : Char) : Bool := c == ' ' || c == '\t'

def skipSpace (cs : List Char) : List Char := cs.dropWhile isSpace

/-- The rest after a line end, which is a line feed with or without a carriage return before it. -/
def newline? : List Char → Option (List Char)
  | '\n' :: cs => some cs
  | '\r' :: '\n' :: cs => some cs
  | _ => none

/-- Whether a character may stand in a comment or, quotes apart, in a literal string. -/
def isPlain (c : Char) : Bool :=
  c == '\t' || (0x20 ≤ c.toNat && c.toNat != 0x7F)

/-! ### Strings -/

/-- The character of exactly `count` hexadecimal digits. -/
def codePoint? (count : Nat) (cs : List Char) : Option (Char × List Char) := do
  if cs.length < count then none
  let n ← Text.readDigits 16 (cs.take count)
  if n < 0xD800 ∨ (0xDFFF < n ∧ n < 0x110000) then some (Char.ofNat n, cs.drop count) else none

/-- The character of an escape, after its backslash. -/
def escape? : List Char → Option (Char × List Char)
  | 'b' :: cs => some ('\x08', cs)
  | 't' :: cs => some ('\t', cs)
  | 'n' :: cs => some ('\n', cs)
  | 'f' :: cs => some ('\x0c', cs)
  | 'r' :: cs => some ('\r', cs)
  | '"' :: cs => some ('"', cs)
  | '\\' :: cs => some ('\\', cs)
  | 'u' :: cs => codePoint? 4 cs
  | 'U' :: cs => codePoint? 8 cs
  | _ => none

/-- The characters of a basic string up to its quote, most recent first in `acc`. -/
def basic? (fuel : Nat) (acc cs : List Char) : Option (String × List Char) :=
  match fuel, cs with
  | 0, _ | _, [] => none
  | _ + 1, '"' :: rest => some (String.ofList acc.reverse, rest)
  | fuel + 1, '\\' :: rest =>
    match escape? rest with
    | some (c, rest) => basic? fuel (c :: acc) rest
    | none => none
  | fuel + 1, c :: rest => if isPlain c then basic? fuel (c :: acc) rest else none

/-- The rest after a backslash at the end of a line: blanks and line ends up to the next character. -/
def joinLines? (cs : List Char) : Option (List Char) := do
  let rest ← newline? (skipSpace cs)
  let rec skip (fuel : Nat) (cs : List Char) : List Char :=
    match fuel with
    | 0 => cs
    | fuel + 1 =>
      match newline? (skipSpace cs) with
      | some rest => skip fuel rest
      | none => skipSpace cs
  return skip rest.length rest

/-- The characters of a string over several lines up to its three quotes. One or two quotes may stand anywhere in it and
before the last three. -/
def multiline? (quote : Char) (escapes : Bool) (fuel : Nat) (acc cs : List Char) : Option (String × List Char) :=
  match fuel, cs with
  | 0, _ | _, [] => none
  | fuel + 1, c :: rest =>
    if c = quote then
      let run := (cs.takeWhile (· == quote)).length
      if run < 3 then multiline? quote escapes fuel (c :: acc) rest
      else if run < 6 then
        some (String.ofList (List.replicate (run - 3) quote ++ acc).reverse, cs.drop run)
      else none
    else if escapes ∧ c = '\\' then
      match joinLines? rest with
      | some rest => multiline? quote escapes fuel acc rest
      | none =>
        match escape? rest with
        | some (c, rest) => multiline? quote escapes fuel (c :: acc) rest
        | none => none
    else
      match newline? cs with
      | some rest => multiline? quote escapes fuel ('\n' :: acc) rest
      | none => if isPlain c then multiline? quote escapes fuel (c :: acc) rest else none

/-- A line end at once after the opening quotes is no part of the string. -/
def afterOpening (cs : List Char) : List Char := (newline? cs).getD cs

/-- A literal string on one line, after its quote. -/
def literal? (cs : List Char) : Option (String × List Char) :=
  let body := cs.takeWhile fun c => isPlain c && c != '\''
  match cs.drop body.length with
  | '\'' :: rest => some (String.ofList body, rest)
  | _ => none

/-- A string on one line. -/
def lineString? : List Char → Option (String × List Char)
  | '"' :: cs => basic? (cs.length + 1) [] cs
  | '\'' :: cs => literal? cs
  | _ => none

/-- A string. -/
def string? (cs : List Char) : Option (String × List Char) :=
  match cs with
  | '"' :: '"' :: '"' :: rest => multiline? '"' true (rest.length + 1) [] (afterOpening rest)
  | '\'' :: '\'' :: '\'' :: rest => multiline? '\'' false (rest.length + 1) [] (afterOpening rest)
  | _ => lineString? cs

/-! ### Numbers -/

/-- Digits of a base with single underscores between them; the digits alone, and what follows. -/
def digits? (base : Nat) (fuel : Nat) (cs : List Char) : Option (List Char × List Char) :=
  match fuel, cs with
  | 0, _ | _, [] => none
  | fuel + 1, c :: rest =>
    if (Text.digitValueIn base c).isNone then none
    else
      match rest with
      | '_' :: more => (digits? base fuel more).map fun (ds, rest) => (c :: ds, rest)
      | d :: _ =>
        if (Text.digitValueIn base d).isSome then (digits? base fuel rest).map fun (ds, rest) => (c :: ds, rest)
        else some ([c], rest)
      | [] => some ([c], [])

/-- Digits with underscores, of any number. -/
def run? (base : Nat) (cs : List Char) : Option (List Char × List Char) := digits? base (cs.length + 1) cs

/-- An optional sign, and whether it is a minus. -/
def sign : List Char → Bool × List Char
  | '-' :: cs => (true, cs)
  | '+' :: cs => (false, cs)
  | cs => (false, cs)

/-- The whole part of a decimal number: a single zero, or digits that do not start with one. -/
def whole? : List Char → Option (List Char × List Char)
  | '0' :: cs => some (['0'], cs)
  | cs => run? 10 cs

/-- An integer of a base after its mark, within 63 bits. -/
def based? (base : Nat) (cs : List Char) : Option (Toml × List Char) := do
  let (ds, rest) ← run? base cs
  let n ← Text.readDigits base ds
  if n < integerLimit then some (.integer n, rest) else none

/-- An integer, in the range of 64 bits with a sign. -/
def integer? (cs : List Char) : Option (Toml × List Char) :=
  match cs with
  | '0' :: 'x' :: rest => based? 16 rest
  | '0' :: 'o' :: rest => based? 8 rest
  | '0' :: 'b' :: rest => based? 2 rest
  | _ => do
    let (negative, rest) := sign cs
    let (ds, rest) ← whole? rest
    let n ← Text.readDigits 10 ds
    if negative then
      if n ≤ integerLimit then some (.integer (-n), rest) else none
    else if n < integerLimit then some (.integer n, rest) else none

/-- A fraction, if there is a point. -/
def fraction? : List Char → Option (Option (List Char) × List Char)
  | '.' :: cs => (run? 10 cs).map fun (ds, rest) => (some ds, rest)
  | cs => some (none, cs)

/-- An exponent, if there is one, with whether it is negative. -/
def exponent? : List Char → Option ((Option (Bool × List Char)) × List Char)
  | c :: cs =>
    if c = 'e' ∨ c = 'E' then
      let (negative, rest) := sign cs
      (run? 10 rest).map fun (ds, rest) => (some (negative, ds), rest)
    else some (none, c :: cs)
  | [] => some (none, [])

/-- The float nearest to a decimal. An exponent beyond any float is cut off first, which changes no result. -/
def nearest (digits : List Char) (places : Nat) (negativeExponent : Bool) (exponent : Nat) : Option Float := do
  let m ← Text.readDigits 10 digits
  let bound := 400 + digits.length + places
  let e : Int := (if negativeExponent then -(min exponent (2 * bound) : Int) else (min exponent (2 * bound) : Int)) - places
  if m = 0 then some 0
  else if 0 ≤ e then
    if 400 < e then some (1.0 / 0.0) else some (Float.ofScientific m false e.toNat)
  else some (Float.ofScientific m true e.natAbs)

/-- A float: a decimal number with a fraction or an exponent that is not beyond the greatest float, or one of the words
`inf` and `nan`. -/
def float? (cs : List Char) : Option (Toml × List Char) := do
  let (negative, rest) := sign cs
  let signed (x : Float) : Toml := .float (if negative then -x else x)
  match rest with
  | 'i' :: 'n' :: 'f' :: rest => some (signed (1.0 / 0.0), rest)
  | 'n' :: 'a' :: 'n' :: rest => some (signed (0.0 / 0.0), rest)
  | _ =>
    let (whole, rest) ← whole? rest
    let (fraction, rest) ← fraction? rest
    let (exponent, rest) ← exponent? rest
    if fraction.isNone ∧ exponent.isNone then none
    let (negativeExponent, e) ← match exponent with
      | none => some (false, 0)
      | some (negativeExponent, ds) => (Text.readDigits 10 ds).map (negativeExponent, ·)
    let places := fraction.getD []
    let x ← nearest (whole ++ places) places.length negativeExponent e
    if x.isInf ∧ !negative then none else some (signed x, rest)

/-! ### Dates and times -/

/-- A number of exactly `count` digits between two bounds. -/
def fixed? (count low high : Nat) (cs : List Char) : Option (Nat × List Char) := do
  if cs.length < count then none
  let n ← Text.readDigits 10 (cs.take count)
  if low ≤ n ∧ n ≤ high then some (n, cs.drop count) else none

/-- The number of days of a month. -/
def daysIn (year month : Nat) : Nat :=
  if month = 2 then
    if year % 4 = 0 ∧ (year % 100 ≠ 0 ∨ year % 400 = 0) then 29 else 28
  else if month = 4 ∨ month = 6 ∨ month = 9 ∨ month = 11 then 30
  else 31

/-- The rest after a day of the calendar. -/
def day? (cs : List Char) : Option (List Char) := do
  let (year, cs) ← fixed? 4 0 9999 cs
  let (month, cs) ← fixed? 2 1 12 (← dropStart? ['-'] cs)
  let (_, cs) ← fixed? 2 1 (daysIn year month) (← dropStart? ['-'] cs)
  return cs

/-- The rest after a time of the day, whose last minute may have 61 seconds, and which may have a fraction. -/
def time? (cs : List Char) : Option (List Char) := do
  let (_, cs) ← fixed? 2 0 23 cs
  let (_, cs) ← fixed? 2 0 59 (← dropStart? [':'] cs)
  let (_, cs) ← fixed? 2 0 60 (← dropStart? [':'] cs)
  match cs with
  | '.' :: rest => if (rest.head?.bind Text.digitValue).isSome then some (rest.dropWhile Char.isDigit) else none
  | _ => some cs

/-- The rest after an offset from universal time, if there is one. -/
def offset? (cs : List Char) : Option (List Char) :=
  match cs with
  | 'Z' :: rest | 'z' :: rest => some rest
  | '+' :: rest | '-' :: rest => do
    let (_, rest) ← fixed? 2 0 23 rest
    let (_, rest) ← fixed? 2 0 59 (← dropStart? [':'] rest)
    return rest
  | _ => some cs

/-- The rest after the time of a date, which is set off by a `T` or a space, if there is one. -/
def timeOfDate? (cs : List Char) : Option (List Char) :=
  match cs with
  | c :: rest =>
    if c = 'T' ∨ c = 't' ∨ c = ' ' then
      match time? rest with
      | some rest => offset? rest
      | none => some cs
    else some cs
  | [] => some []

/-- A day with or without a time, or a time. -/
def date? (cs : List Char) : Option (Toml × List Char) := do
  let rest ← match day? cs with
    | some rest => timeOfDate? rest
    | none => time? cs
  return (.date (String.ofList (cs.take (cs.length - rest.length))), rest)

end ComputeGrid.Toml
