import ComputeGrid.Curve25519.Field

/-!
# The twisted Edwards curve

Points of `-x ^ 2 + y ^ 2 = 1 + d x ^ 2 y ^ 2` in extended coordinates. The addition law is complete, so one formula adds
and doubles. A point is written as its second coordinate with the parity of the first in the highest bit.
-/

namespace ComputeGrid.Curve25519

open ComputeGrid.Curve25519.Field

/-- The constant `-121665 / 121666` of the curve. -/
def edwardsD : Nat := mul (sub 0 121665) (inv 121666)

/-- The number of multiples of the base point. -/
def order : Nat := Nat.pow 2 252 + 27742317777372353535851937790883648493

/-- A point `(x / z, y / z)` with `t = x y / z`. -/
structure Point where
  x : Nat
  y : Nat
  z : Nat
  t : Nat

namespace Point

/-- The neutral point. -/
def neutral : Point := ⟨0, 1, 1, 0⟩

/-- Twice the constant of the curve, as the addition law uses it. -/
def doubleD : Nat := add edwardsD edwardsD

/-- The sum of two points. -/
def add (p q : Point) : Point :=
  let a := mul (sub p.y p.x) (sub q.y q.x)
  let b := mul (Field.add p.y p.x) (Field.add q.y q.x)
  let c := mul (mul p.t doubleD) q.t
  let d := mul (Field.add p.z p.z) q.z
  let e := sub b a
  let f := sub d c
  let g := Field.add d c
  let h := Field.add b a
  ⟨mul e f, mul g h, mul f g, mul e h⟩

/-- The opposite point. -/
def neg (p : Point) : Point := ⟨sub 0 p.x, p.y, p.z, sub 0 p.t⟩

/-- A multiple of a point, doubling once for each of the 256 bits of the factor. -/
def multiple (k : Nat) (p : Point) : Point :=
  (bits 256 k).foldl (fun r bit => if bit then (r.add r).add p else r.add r) neutral

/-- The base point: its second coordinate is four fifths and its first coordinate is even. -/
def base : Point :=
  let x := 15112221349535400772501151409588531511454012693041857206046113283949847762202
  let y := 46316835694926478169428394003475163141307993866256225615783033603165251855960
  ⟨x, y, 1, mul x y⟩

/-- The 32 bytes of a point. -/
def toBytes (p : Point) : List UInt8 :=
  let z := inv p.z
  Curve25519.toBytes 32 (mul p.y z + mul p.x z % 2 * Nat.pow 2 255)

end Point

end ComputeGrid.Curve25519
