/-!
# Base64

The standard alphabet with padding. Each group of three bytes is four characters; a last group of one or two bytes is
padded with `=`. A text is read only if it is what some bytes are written as: the padding is there, and the bits that a
last group does not use are zero.
-/

namespace ComputeGrid.Text

/-- The alphabet: the character of each six-bit value. -/
def base64Alphabet : Array Char :=
  "ABCDEFGHIJKLMNOPQRSTUVWXYZabcdefghijklmnopqrstuvwxyz0123456789+/".toList.toArray

/-- The character of a six-bit value. -/
def base64Char (n : Nat) : Char :=
  base64Alphabet[n]?.getD 'A'

/-- The six-bit value of a character of the alphabet. -/
def base64Value? (c : Char) : Option Nat :=
  if 'A' ≤ c ∧ c ≤ 'Z' then some (c.toNat - 'A'.toNat)
  else if 'a' ≤ c ∧ c ≤ 'z' then some (c.toNat - 'a'.toNat + 26)
  else if '0' ≤ c ∧ c ≤ '9' then some (c.toNat - '0'.toNat + 52)
  else if c = '+' then some 62
  else if c = '/' then some 63
  else none

/-- Four characters for each three bytes, the last group padded. -/
def base64Encode : List UInt8 → List Char
  | [] => []
  | [a] =>
    let n := a.toNat * 0x10000
    [base64Char (n / 0x40000), base64Char (n / 0x1000 % 64), '=', '=']
  | [a, b] =>
    let n := a.toNat * 0x10000 + b.toNat * 0x100
    [base64Char (n / 0x40000), base64Char (n / 0x1000 % 64), base64Char (n / 64 % 64), '=']
  | a :: b :: c :: rest =>
    let n := a.toNat * 0x10000 + b.toNat * 0x100 + c.toNat
    base64Char (n / 0x40000) :: base64Char (n / 0x1000 % 64) :: base64Char (n / 64 % 64) ::
      base64Char (n % 64) :: base64Encode rest

/-- The bytes that groups of four characters stand for; padding ends the text. -/
def base64Decode? : List Char → Option (List UInt8)
  | [] => some []
  | [a, b, '=', '='] => do
    let n := (← base64Value? a) * 64 + (← base64Value? b)
    if n % 16 = 0 then some [(n / 16).toUInt8] else none
  | [a, b, c, '='] => do
    let n := ((← base64Value? a) * 64 + (← base64Value? b)) * 64 + (← base64Value? c)
    if n % 4 = 0 then some [(n / 0x400).toUInt8, (n / 4 % 256).toUInt8] else none
  | a :: b :: c :: d :: rest => do
    let n := (((← base64Value? a) * 64 + (← base64Value? b)) * 64 + (← base64Value? c)) * 64 + (← base64Value? d)
    let bytes ← base64Decode? rest
    return (n / 0x10000).toUInt8 :: (n / 0x100 % 256).toUInt8 :: (n % 256).toUInt8 :: bytes
  | _ => none

/-- The base64 text of bytes. -/
def base64 (bytes : List UInt8) : String :=
  String.ofList (base64Encode bytes)

example : base64 [0x66, 0x6F] = "Zm8=" := by decide +kernel
example : base64Decode? "Zm9=".toList = none := by decide +kernel

end ComputeGrid.Text
