/-!
# Arithmetic modulo `2 ^ 255 - 19`

Elements are natural numbers, reduced after every operation. Powers and multiples are folds over the bits of the exponent
from the highest on. Bytes stand for numbers with the lowest first.
-/

namespace ComputeGrid.Curve25519

/-- The prime of the field. -/
def prime : Nat := Nat.pow 2 255 - 19

/-- The lowest `width` bits of a number, the highest of them first. -/
def bits (width n : Nat) : List Bool :=
  (List.range width).reverse.map n.testBit

/-- The number made of bytes, the first one lowest. -/
def ofBytes (bytes : List UInt8) : Nat :=
  bytes.foldr (fun b n => n * 256 + b.toNat) 0

/-- The lowest `count` bytes of a number, the lowest first. -/
def toBytes (count n : Nat) : List UInt8 :=
  (List.range count).map fun i => (n / Nat.pow 256 i).toUInt8

namespace Field

def add (x y : Nat) : Nat := (x + y) % prime

def sub (x y : Nat) : Nat := (x + (prime - y % prime)) % prime

def mul (x y : Nat) : Nat := x * y % prime

/-- A power of `x`, squaring once for each bit of the exponent. -/
def pow (x e : Nat) : Nat :=
  (bits 255 e).foldl (fun r bit => if bit then mul (mul r r) x else mul r r) 1

/-- The inverse of an element that is not zero, by Fermat; zero goes to zero. -/
def inv (x : Nat) : Nat := pow x (prime - 2)

end Field

/-- A 32-byte secret as a multiple of eight between `2 ^ 254` and `2 ^ 255`. -/
def clamp (secret : List UInt8) : Nat :=
  let n := ofBytes secret % Nat.pow 2 254
  n - n % 8 + Nat.pow 2 254

end ComputeGrid.Curve25519
