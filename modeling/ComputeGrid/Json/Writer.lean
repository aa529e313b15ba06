import ComputeGrid.Json.Basic
import ComputeGrid.Decimal.Shortest

/-!
# The compact text of a JSON value

`Json.render` writes a value without blanks, members in the order in which the object lists them. Only quotes,
backslashes and the controls below U+0020 are escaped. A float has the fewest digits that read back and always a
point or an exponent, so that it cannot be taken for an integer.
-/

namespace ComputeGrid.Json

/-- The lower-case hexadecimal digit of a number below sixteen. -/
def hexDigit (n : Nat) : Char := Nat.digitChar n

/-- How one character stands in a string. -/
def escape (c : Char) : List Char :=
  match c with
  | '"' => ['\\', '"']
  | '\\' => ['\\', '\\']
  | '\x08' => ['\\', 'b']
  | '\x0c' => ['\\', 'f']
  | '\n' => ['\\', 'n']
  | '\r' => ['\\', 'r']
  | '\t' => ['\\', 't']
  | _ =>
    if c.toNat < 0x20 then ['\\', 'u', '0', '0', hexDigit (c.toNat / 16), hexDigit (c.toNat % 16)]
    else [c]

/-- A string between quotes. -/
def quote (s : String) : List Char :=
  '"' :: s.toList.flatMap escape ++ ['"']

/-- A float: positional from `10 ^ -5` up to below `10 ^ 16`, with an exponent elsewhere. There is no text for a NaN or
an infinity, so these are written as null. -/
def doubleText (x : Float) : List Char :=
  let sign := if Decimal.isNegative x then ['-'] else []
  if !x.isFinite then ['n', 'u', 'l', 'l']
  else match Decimal.shortest? x with
    | none => sign ++ ['0', '.', '0']
    | some d =>
      let point := d.exponent + (Text.numeral d.digits).length
      let body :=
        if -5 < point ∧ point ≤ 16 then
          if 0 ≤ d.exponent then d.positional ++ ['.', '0'] else d.positional
        else d.scientific
      sign ++ body

/-- The text of a number. -/
def Number.text : Number → List Char
  | .integer n => Text.integer n
  | .double x => doubleText x

mutual

/-- The text of a value. -/
def chars : Json → List Char
  | .null => ['n', 'u', 'l', 'l']
  | .bool true => ['t', 'r', 'u', 'e']
  | .bool false => ['f', 'a', 'l', 's', 'e']
  | .number n => n.text
  | .string s => quote s
  | .array items => '[' :: itemsChars items ++ [']']
  | .object members => '{' :: membersChars members ++ ['}']

/-- The items of an array, with commas between them. -/
def itemsChars : List Json → List Char
  | [] => []
  | [x] => chars x
  | x :: y :: rest => chars x ++ ',' :: itemsChars (y :: rest)

/-- The members of an object, with commas between them. -/
def membersChars : List (String × Json) → List Char
  | [] => []
  | [(name, x)] => quote name ++ ':' :: chars x
  | (name, x) :: y :: rest => quote name ++ ':' :: chars x ++ ',' :: membersChars (y :: rest)

end

/-- The compact text of a value. -/
def render (j : Json) : String :=
  String.ofList j.chars

/-- The bytes of the compact text. -/
def renderBytes (j : Json) : List UInt8 :=
  j.render.toUTF8.toList

end ComputeGrid.Json
