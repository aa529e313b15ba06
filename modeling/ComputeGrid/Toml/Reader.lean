import ComputeGrid.Toml.Document
import ComputeGrid.Toml.Scalar

/-!
# Reading TOML documents

`Toml.parse?` reads a document line by line: comments, headers and keys with values. Arrays may run over lines, inline
tables may not. Arrays and inline tables nest to fewer than `depthBound` levels, and a key has fewer parts than that.
-/

namespace ComputeGrid.Toml

/-- The first depth of nesting, and the first number of parts of a key, that is refused. -/
def depthBound : Nat := 80

/-! ### Keys -/

/-- Whether a character may stand in a key without quotes. -/
def isBareKey (c : Char) : Bool := c.isAlphanum || c == '_' || c == '-'

/-- One part of a key. -/
def keyPart? (cs : List Char) : Option (String × List Char) :=
  match cs with
  | '"' :: _ | '\'' :: _ => lineString? cs
  | _ =>
    let bare := cs.takeWhile isBareKey
    if bare.isEmpty then none else some (String.ofList bare, cs.drop bare.length)

/-- Parts of a key with points between them, and blanks around each. -/
def keyParts? (fuel : Nat) (cs : List Char) : Option (List String × List Char) :=
  match fuel with
  | 0 => none
  | fuel + 1 => do
    let (part, rest) ← keyPart? (skipSpace cs)
    match skipSpace rest with
    | '.' :: more =>
      let (parts, rest) ← keyParts? fuel more
      return (part :: parts, rest)
    | rest => return ([part], rest)

/-- A key: the parts on the way, and the last. -/
def key? (cs : List Char) : Option ((List String × String) × List Char) := do
  let (parts, rest) ← keyParts? (depthBound - 1) cs
  return ((parts.dropLast, ← parts.getLast?), rest)

/-! ### Values -/

/-- The rest after a comment, which ends before a line end. -/
def skipComment : List Char → List Char
  | '#' :: cs => cs.dropWhile isPlain
  | cs => cs

/-- The rest after blanks, comments and line ends. -/
def skipLines (fuel : Nat) (cs : List Char) : List Char :=
  let rest := skipComment (skipSpace cs)
  match fuel, newline? rest with
  | fuel + 1, some rest => skipLines fuel rest
  | _, _ => rest

/-- A value that is neither an array nor an inline table. -/
def scalar? (cs : List Char) : Option (Toml × List Char) :=
  match cs with
  | '"' :: _ | '\'' :: _ => (string? cs).map fun (s, rest) => (.string s, rest)
  | 't' :: 'r' :: 'u' :: 'e' :: rest => some (.boolean true, rest)
  | 'f' :: 'a' :: 'l' :: 's' :: 'e' :: rest => some (.boolean false, rest)
  | c :: _ =>
    if c.isDigit ∨ c = '+' ∨ c = '-' then date? cs <|> float? cs <|> integer? cs
    else if c = 'i' ∨ c = 'n' then float? cs
    else none
  | [] => none

/-- The items of an array after its bracket, each read by `item?`. -/
def items? (item? : List Char → Option (Toml × List Char)) (fuel : Nat) (cs : List Char) : Option (List Toml × List Char) :=
  match fuel, skipLines cs.length cs with
  | 0, _ => none
  | _ + 1, ']' :: rest => some ([], rest)
  | fuel + 1, cs => do
    let (x, rest) ← item? cs
    match skipLines rest.length rest with
    | ']' :: rest => return ([x], rest)
    | ',' :: rest =>
      let (xs, rest) ← items? item? fuel rest
      return (x :: xs, rest)
    | _ => none

/-- The entries of an inline table after its brace, put into a table. -/
def entries? (item? : List Char → Option (Toml × List Char)) (fuel : Nat) (t : Table) (cs : List Char) : Option (Table × List Char) :=
  match fuel with
  | 0 => none
  | fuel + 1 => do
    let ((path, key), rest) ← key? cs
    let (v, rest) ← item? (skipSpace (← dropStart? ['='] rest))
    let t ← t.put path key v
    match skipSpace rest with
    | '\x7d' :: rest => return (t, rest)
    | ',' :: rest => entries? item? fuel t rest
    | _ => none

/-- A value in which arrays and inline tables nest to at most `room` levels. -/
def value? (room : Nat) (cs : List Char) : Option (Toml × List Char) :=
  match room, cs with
  | room + 1, '[' :: rest => (items? (value? room) (rest.length + 1) rest).map fun (xs, rest) => (.array xs, rest)
  | room + 1, '\x7b' :: rest =>
    match skipSpace rest with
    | '\x7d' :: rest => some (.table [], rest)
    | rest => (entries? (value? room) (rest.length + 1) .opened rest).map fun (t, rest) => (.table t.finish, rest)
  | _, cs => scalar? cs

/-! ### Documents -/

/-- The rest after the end of a line: a comment, and a line end or the end of the document. -/
def endLine? (cs : List Char) : Option (List Char) :=
  match skipComment (skipSpace cs) with
  | [] => some []
  | rest => newline? rest

/-- What a line says: a header, a value under a key, or nothing. -/
def line? (d : Document) (cs : List Char) : Option (Document × List Char) :=
  match cs with
  | '[' :: '[' :: rest => do
    let ((path, key), rest) ← key? rest
    return (← d.openTables (path ++ [key]), ← dropStart? [']', ']'] rest)
  | '[' :: rest => do
    let ((path, key), rest) ← key? rest
    return (← d.openTable (path ++ [key]), ← dropStart? [']'] rest)
  | [] | '#' :: _ | '\n' :: _ | '\r' :: _ => some (d, cs)
  | _ => do
    let ((path, key), rest) ← key? cs
    let (v, rest) ← value? (depthBound - 1) (skipSpace (← dropStart? ['='] rest))
    return (← d.put path key v, rest)

/-- The lines of a document. -/
def lines? (fuel : Nat) (d : Document) (cs : List Char) : Option Document :=
  match fuel, cs with
  | _, [] => some d
  | 0, _ => none
  | fuel + 1, cs => do
    let (d, rest) ← line? d (skipSpace cs)
    lines? fuel d (← endLine? rest)

/-- The document that a text is; a byte order mark may stand before it. -/
def parse? (text : String) : Option Toml := do
  let cs := match text.toList with
    | '\ufeff' :: rest => rest
    | cs => cs
  (← lines? (cs.length + 1) .start cs).finish

end ComputeGrid.Toml
