import ComputeGrid.Text.GraphemeExtend
import ComputeGrid.Text.Unprintable

/-!
# Quoted text in messages

`quoted` puts a text between double quotes so that it can be told from the message around it: quotes, backslashes and
the usual controls have short escapes, and every other character that would not be seen on its own is written by its code
point.
-/

namespace ComputeGrid.Text

/-- Whether a code point lies in one of the ranges. -/
def inRanges (ranges : Array (Nat × Nat)) (c : Char) : Bool :=
  ranges.any fun r => r.1 ≤ c.toNat && c.toNat ≤ r.2

/-- Whether a character is seen on its own. Within ASCII these are the characters from the space to the tilde. -/
def isVisible (c : Char) : Bool :=
  if c.toNat < 0x7F then 0x20 ≤ c.toNat
  else !inRanges graphemeExtendRanges c && !inRanges unprintableRanges c

/-- A character by its code point. -/
def codePoint (c : Char) : List Char :=
  ['\\', 'u', '\x7b'] ++ Nat.toDigits 16 c.toNat ++ ['\x7d']

/-- How one character stands between quotes. -/
def quotedChar (c : Char) : List Char :=
  match c with
  | '\x00' => ['\\', '0']
  | '\t' => ['\\', 't']
  | '\r' => ['\\', 'r']
  | '\n' => ['\\', 'n']
  | '\\' => ['\\', '\\']
  | '"' => ['\\', '"']
  | _ => if isVisible c then [c] else codePoint c

/-- The text between double quotes. -/
def quoted (s : String) : String :=
  String.ofList ('"' :: s.toList.flatMap quotedChar ++ ['"'])

end ComputeGrid.Text
