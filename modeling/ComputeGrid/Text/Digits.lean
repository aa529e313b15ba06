/-!
# Decimal numerals

Numerals are read as natural numbers first and checked against a width afterwards, so that a width is a bound
and never a wrap-around. `readCount` is the numeral of a non-negative 64-bit quantity.
-/

namespace ComputeGrid.Text

/-- The value of an ASCII digit. -/
def digitValue (c : Char) : Option Nat :=
  if '0' ≤ c ∧ c ≤ '9' then some (c.toNat - '0'.toNat) else none

/-- The value of a digit of a base up to sixteen, in either case. -/
def digitValueIn (base : Nat) (c : Char) : Option Nat :=
  let value :=
    if '0' ≤ c ∧ c ≤ '9' then some (c.toNat - '0'.toNat)
    else if 'a' ≤ c ∧ c ≤ 'f' then some (c.toNat - 'a'.toNat + 10)
    else if 'A' ≤ c ∧ c ≤ 'F' then some (c.toNat - 'A'.toNat + 10)
    else none
  value.filter (· < base)

/-- The number that a run of digits adds to, most significant first, on top of `acc`. -/
def readDigitsFrom (base : Nat) (acc : Nat) : List Char → Option Nat
  | [] => some acc
  | c :: cs => do
    let d ← digitValueIn base c
    readDigitsFrom base (acc * base + d) cs

/-- The number written by a non-empty run of digits, with nothing else in it. -/
def readDigits (base : Nat) : List Char → Option Nat
  | [] => none
  | cs => readDigitsFrom base 0 cs

/-- A numeral with an optional plus sign whose number fits in 64 bits. -/
def readCount (cs : List Char) : Option Nat :=
  let digits := match cs with
    | '+' :: rest => rest
    | _ => cs
  (readDigits 10 digits).filter (· < UInt64.size)

/-- The decimal numeral of a natural number. -/
def numeral (n : Nat) : List Char :=
  Nat.toDigits 10 n

/-- The decimal numeral of an integer: a minus sign before the magnitude. -/
def integer (n : Int) : List Char :=
  if n < 0 then '-' :: numeral n.natAbs else numeral n.natAbs

/-- The decimal numeral of `n`, with zeros before it up to `width` digits. -/
def padded (width n : Nat) : List Char :=
  let digits := numeral n
  List.replicate (width - digits.length) '0' ++ digits

end ComputeGrid.Text
