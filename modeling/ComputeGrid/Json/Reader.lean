import ComputeGrid.Json.Basic
import ComputeGrid.Text.Digits

/-!
# Reading JSON text

`Json.parse?` reads a text that holds one value. Arrays and objects may be nested 127 deep. Of several members of one
name the last one counts. A numeral with a fraction, an exponent or too many digits for 64 bits is a float; so is `-0`,
which no integer is.

The digits of a float are gathered into a 64-bit significand; digits that do not fit only move the exponent. Its value
is the significand, rounded, and scaled by powers of ten of at most 308 with one rounding each.

Every reader takes the characters and gives back a value and the characters that follow it.
-/

namespace ComputeGrid.Json

/-- How deep arrays and objects may be nested. -/
def depthLimit : Nat := 127

/-- The characters that may stand between tokens. -/
def isSpace (c : Char) : Bool :=
  c == ' ' || c == '\t' || c == '\n' || c == '\r'

/-- The text from the next token on. -/
def skipSpace (cs : List Char) : List Char :=
  cs.dropWhile isSpace

/-! ### Numbers -/

/-- A significand with the power of ten it is scaled by. -/
structure Significand where
  value : Nat
  exponent : Int

namespace Significand

/-- Takes the digits of a whole part; from the first one that does not fit in 64 bits on, each only scales by ten. -/
def takeWhole (s : Significand) : List Char → Significand
  | [] => s
  | c :: cs =>
    let next := s.value * 10 + (c.toNat - '0'.toNat)
    if next < UInt64.size then takeWhole { s with value := next } cs
    else { s with exponent := s.exponent + (cs.length + 1) }

/-- Takes the digits of a fraction; from the first one that does not fit in 64 bits on, they are ignored. -/
def takeFraction (s : Significand) : List Char → Significand
  | [] => s
  | c :: cs =>
    let next := s.value * 10 + (c.toNat - '0'.toNat)
    if next < UInt64.size then takeFraction { value := next, exponent := s.exponent - 1 } cs else s

/-- The float next to `10 ^ n`. -/
def powerOfTen (n : Nat) : Float := Float.ofScientific 1 false n

/-- Scales a float by `10 ^ e`, by 308 places at a time; refuses a result that is too great. -/
def scale (x : Float) (e : Int) : Option Float :=
  if h : e.natAbs ≤ 308 then
    if 0 ≤ e then
      let y := x * powerOfTen e.natAbs
      if y.isInf then none else some y
    else some (x / powerOfTen e.natAbs)
  else if x == 0 then some x
  else if 0 ≤ e then none
  else scale (x / powerOfTen 308) (e + 308)
termination_by e.natAbs
decreasing_by omega

/-- The float that the significand stands for, unless it is too great. -/
def toFloat? (s : Significand) : Option Float :=
  scale s.value.toUInt64.toFloat s.exponent

end Significand

/-- The whole part of a numeral: a single zero or digits that do not start with one. -/
def readWhole : List Char → Option (List Char × List Char)
  | [] => none
  | c :: cs =>
    if c == '0' then
      if (cs.head?.bind Text.digitValue).isSome then none else some ([c], cs)
    else if (Text.digitValue c).isSome then
      some (c :: cs.takeWhile Char.isDigit, cs.dropWhile Char.isDigit)
    else none

/-- A fraction, if there is a point; a point needs a digit after it. -/
def readFraction : List Char → Option (Option (List Char) × List Char)
  | '.' :: cs =>
    let digits := cs.takeWhile Char.isDigit
    if digits.isEmpty then none else some (some digits, cs.dropWhile Char.isDigit)
  | cs => some (none, cs)

/-- The sign and the digits of an exponent, if there is one. -/
def readExponent : List Char → Option (Option (Bool × List Char) × List Char)
  | c :: cs =>
    if c == 'e' || c == 'E' then
      let (negative, rest) := match cs with
        | '+' :: rest => (false, rest)
        | '-' :: rest => (true, rest)
        | _ => (false, cs)
      let digits := rest.takeWhile Char.isDigit
      if digits.isEmpty then none else some (some (negative, digits), rest.dropWhile Char.isDigit)
    else some (none, c :: cs)
  | [] => some (none, [])

/-- The number written by a whole part, a fraction and an exponent. An exponent beyond 32 bits makes zero or is out of
range, by its sign and the significand. -/
def toNumber? (negative : Bool) (whole : List Char) (fraction : Option (List Char))
    (exponent : Option (Bool × List Char)) : Option Number := do
  let start := Significand.takeWhole ⟨0, 0⟩ whole
  let signed (x : Float) : Number := .double (if negative then -x else x)
  match fraction, exponent with
  | none, none =>
    if start.exponent != 0 then signed <$> start.toFloat?
    else if !negative then some (.integer start.value)
    else if start.value == 0 || 0x8000000000000000 < start.value then some (signed start.value.toUInt64.toFloat)
    else some (.integer (-start.value))
  | _, _ =>
    let s := start.takeFraction (fraction.getD [])
    match exponent with
    | none => signed <$> s.toFloat?
    | some (below, digits) =>
      let e ← Text.readDigits 10 digits
      if 0x80000000 ≤ e then
        if s.value != 0 && !below then none else some (signed 0)
      else
        signed <$> Significand.toFloat? { s with exponent := if below then s.exponent - e else s.exponent + e }

/-- A number. -/
def readNumber (cs : List Char) : Option (Json × List Char) := do
  let (negative, cs) := match cs with
    | '-' :: rest => (true, rest)
    | _ => (false, cs)
  let (whole, cs) ← readWhole cs
  let (fraction, cs) ← readFraction cs
  let (exponent, cs) ← readExponent cs
  let n ← toNumber? negative whole fraction exponent
  return (.number n, cs)

/-! ### Strings -/

/-- Four hexadecimal digits. -/
def readUnit (cs : List Char) : Option (Nat × List Char) :=
  if cs.length < 4 then none else (Text.readDigits 16 (cs.take 4)).map fun n => (n, cs.drop 4)

/-- The character of an escape; two units of a surrogate pair make one character, and a unit of a pair alone makes
none. -/
def readEscape : List Char → Option (Char × List Char)
  | '"' :: cs => some ('"', cs)
  | '\\' :: cs => some ('\\', cs)
  | '/' :: cs => some ('/', cs)
  | 'b' :: cs => some ('\x08', cs)
  | 'f' :: cs => some ('\x0c', cs)
  | 'n' :: cs => some ('\n', cs)
  | 'r' :: cs => some ('\r', cs)
  | 't' :: cs => some ('\t', cs)
  | 'u' :: cs => do
    let (high, cs) ← readUnit cs
    if 0xDC00 ≤ high ∧ high ≤ 0xDFFF then none
    else if 0xD800 ≤ high ∧ high ≤ 0xDBFF then
      match cs with
      | '\\' :: 'u' :: cs =>
        let (low, cs) ← readUnit cs
        if 0xDC00 ≤ low ∧ low ≤ 0xDFFF then
          some (Char.ofNat (0x10000 + (high - 0xD800) * 0x400 + (low - 0xDC00)), cs)
        else none
      | _ => none
    else some (Char.ofNat high, cs)
  | _ => none

/-- The characters of a string up to its closing quote, most recent first in `acc`. -/
def readCharacters (fuel : Nat) (acc : List Char) (cs : List Char) : Option (String × List Char) :=
  match fuel with
  | 0 => none
  | fuel + 1 =>
    match cs with
    | [] => none
    | '"' :: rest => some (String.ofList acc.reverse, rest)
    | '\\' :: rest =>
      match readEscape rest with
      | some (c, rest) => readCharacters fuel (c :: acc) rest
      | none => none
    | c :: rest => if c.toNat < 0x20 then none else readCharacters fuel (c :: acc) rest

/-- A string, from its opening quote on. -/
def readString : List Char → Option (String × List Char)
  | '"' :: cs => readCharacters (cs.length + 1) [] cs
  | _ => none

/-! ### Values -/

/-- Puts a member into an object; a later member takes the place of an earlier one of its name. -/
def setMember (members : List (String × Json)) (name : String) (value : Json) : List (String × Json) :=
  if (members.lookup name).isSome then members.map fun m => if m.1 == name then (name, value) else m
  else members ++ [(name, value)]

mutual

/-- A value; `depth` is how many more levels of nesting are allowed, and `fuel` bounds the tokens. -/
def readValue (fuel depth : Nat) (cs : List Char) : Option (Json × List Char) :=
  match fuel with
  | 0 => none
  | fuel + 1 =>
    match skipSpace cs with
    | 'n' :: 'u' :: 'l' :: 'l' :: rest => some (.null, rest)
    | 't' :: 'r' :: 'u' :: 'e' :: rest => some (.bool true, rest)
    | 'f' :: 'a' :: 'l' :: 's' :: 'e' :: rest => some (.bool false, rest)
    | '"' :: rest => (readString ('"' :: rest)).map fun (s, rest) => (.string s, rest)
    | '[' :: rest =>
      match depth with
      | 0 => none
      | depth + 1 =>
        match skipSpace rest with
        | ']' :: rest => some (.array [], rest)
        | rest => readItems fuel depth [] rest
    | '{' :: rest =>
      match depth with
      | 0 => none
      | depth + 1 =>
        match skipSpace rest with
        | '}' :: rest => some (.object [], rest)
        | rest => readMembers fuel depth [] rest
    | rest => readNumber rest

/-- The items of an array up to its closing bracket, most recent first in `acc`. -/
def readItems (fuel depth : Nat) (acc : List Json) (cs : List Char) : Option (Json × List Char) :=
  match fuel with
  | 0 => none
  | fuel + 1 =>
    match readValue fuel depth cs with
    | none => none
    | some (x, rest) =>
      match skipSpace rest with
      | ']' :: rest => some (.array (x :: acc).reverse, rest)
      | ',' :: rest => readItems fuel depth (x :: acc) rest
      | _ => none

/-- The members of an object up to its closing brace. -/
def readMembers (fuel depth : Nat) (acc : List (String × Json)) (cs : List Char) : Option (Json × List Char) :=
  match fuel with
  | 0 => none
  | fuel + 1 =>
    match readString (skipSpace cs) with
    | none => none
    | some (name, rest) =>
      match skipSpace rest with
      | ':' :: rest =>
        match readValue fuel depth rest with
        | none => none
        | some (x, rest) =>
          match skipSpace rest with
          | '}' :: rest => some (.object (setMember acc name x), rest)
          | ',' :: rest => readMembers fuel depth (setMember acc name x) rest
          | _ => none
      | _ => none

end

/-- The value that a text holds, with nothing but blanks around it. Each token takes a character, so twice the length
of the text is enough fuel. -/
def parse? (text : String) : Option Json :=
  let cs := text.toList
  match readValue (2 * cs.length + 1) depthLimit cs with
  | some (x, rest) => if (skipSpace rest).isEmpty then some x else none
  | none => none

end ComputeGrid.Json
