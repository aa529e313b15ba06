import ComputeGrid.Decimal.Shortest
import ComputeGrid.Text.Digits
import ComputeGrid.Toml.Basic

/-!
# Writing TOML documents

A document is written as a list of sections, each with a header and lines of keys and values. A string is written in the
plainest form that needs no escape, and floats are written without an exponent.
-/

namespace ComputeGrid.Toml

/-! ### Strings -/

/-- The greatest number of the character that stand in a row. -/
def longestRow (c : Char) : List Char → Nat
  | [] => 0
  | x :: cs => max ((x :: cs).takeWhile (· == c)).length (longestRow c cs)

/-- Whether a character can only be written as an escape. -/
def isControl (c : Char) : Bool := c != '\t' && c != '\n' && (c.toNat < 0x20 || c.toNat == 0x7F)

/-- How a character other than a quote stands in a string with escapes. -/
def escapeChar (c : Char) : List Char :=
  match c with
  | '\x08' => ['\\', 'b']
  | '\t' => ['\\', 't']
  | '\n' => ['\\', 'n']
  | '\x0c' => ['\\', 'f']
  | '\r' => ['\\', 'r']
  | '\\' => ['\\', '\\']
  | _ =>
    if isControl c then
      '\\' :: 'u' :: '0' :: '0' :: [Nat.digitChar (c.toNat / 16), (Nat.digitChar (c.toNat % 16)).toUpper]
    else [c]

/-- The characters of a string with escapes, of which `row` quotes stand at once before the next. One or two quotes in a
row need no escape where the string may run over lines. -/
def basicBody (lines : Bool) (row : Nat) : List Char → List Char
  | [] => []
  | '"' :: cs =>
    if lines ∧ row < 2 then '"' :: basicBody lines (row + 1) cs else '\\' :: '"' :: basicBody lines 0 cs
  | '\n' :: cs => (if lines then ['\n'] else ['\\', 'n']) ++ basicBody lines 0 cs
  | c :: cs => escapeChar c ++ basicBody lines 0 cs

/-- A string. Between single quotes stands what needs no escape between them; three quotes stand around several lines or
quotes of both kinds. -/
def stringChars (s : String) : List Char :=
  let cs := s.toList
  let controls := cs.any isControl
  let newline := cs.contains '\n'
  let singles := longestRow '\'' cs
  let doubles := longestRow '"' cs
  let opening := if newline then ['\n'] else []
  let three (c : Char) := [c, c, c]
  let basicFits := !controls && !cs.contains '\\'
  if basicFits && doubles == 0 && !newline then '"' :: basicBody false 0 cs ++ ['"']
  else if !controls && singles == 0 && !newline then '\'' :: cs ++ ['\'']
  else if (basicFits && doubles ≤ 2) || (newline && (controls || 2 < singles)) then
    three '"' ++ opening ++ basicBody true 0 cs ++ three '"'
  else if !controls && singles ≤ 2 then three '\'' ++ opening ++ cs ++ three '\''
  else '"' :: basicBody false 0 cs ++ ['"']

/-! ### Other values -/

/-- A float without an exponent. -/
def floatChars (x : Float) : List Char :=
  let sign := if Decimal.isNegative x then ['-'] else []
  if x.isNaN then sign ++ ['n', 'a', 'n']
  else if x.isInf then sign ++ ['i', 'n', 'f']
  else match Decimal.shortest? x with
    | none => sign ++ ['0', '.', '0']
    | some d => sign ++ d.positional ++ (if 0 ≤ d.exponent then ['.', '0'] else [])

/-- A value on one line, if it has a text: an integer must fit in 64 bits with a sign. -/
def scalarChars? : Toml → Option (List Char)
  | .string s => some (stringChars s)
  | .integer n => if -(integerLimit : Int) ≤ n ∧ n < integerLimit then some (Text.integer n) else none
  | .float x => some (floatChars x)
  | .boolean b => some (if b then ['t', 'r', 'u', 'e'] else ['f', 'a', 'l', 's', 'e'])
  | .date text => some text.toList
  | .array _ | .table _ => none

/-! ### Documents -/

/-- A header and what stands below it. -/
structure Section where
  header : String
  entries : List (String × Toml)

/-- A line with a key and a value. -/
def entryChars? (entry : String × Toml) : Option (List Char) := do
  return entry.1.toList ++ [' ', '=', ' '] ++ (← scalarChars? entry.2) ++ ['\n']

/-- A header with the lines below it. -/
def Section.chars? (s : Section) : Option (List Char) := do
  return '[' :: s.header.toList ++ [']', '\n'] ++ (← s.entries.mapM entryChars?).flatten

/-- The sections with an empty line between them. -/
def render? (sections : List Section) : Option String := do
  return String.ofList (['\n'].intercalate (← sections.mapM Section.chars?))

end ComputeGrid.Toml
