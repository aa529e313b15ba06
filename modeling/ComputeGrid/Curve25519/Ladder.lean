import ComputeGrid.Curve25519.Field

/-!
# The Montgomery ladder

`ladder k u` is the first coordinate of `k` times a point with first coordinate `u`, on the curve
`v ^ 2 = u ^ 3 + 486662 u ^ 2 + u`. `publicBytes` is the public half of a secret: its multiple of the base point `u = 9`.
-/

namespace ComputeGrid.Curve25519

open ComputeGrid.Curve25519.Field

/-- Two points whose difference is fixed, in projective coordinates. -/
structure Rungs where
  x₂ : Nat
  z₂ : Nat
  x₃ : Nat
  z₃ : Nat

/-- Doubles the first point and adds both, given the first coordinate of their difference. -/
def Rungs.step (u : Nat) (r : Rungs) : Rungs :=
  let a := add r.x₂ r.z₂
  let b := sub r.x₂ r.z₂
  let aa := mul a a
  let bb := mul b b
  let e := sub aa bb
  let da := mul (sub r.x₃ r.z₃) a
  let cb := mul (add r.x₃ r.z₃) b
  let s := add da cb
  let t := sub da cb
  ⟨mul aa bb, mul e (add aa (mul 121665 e)), mul s s, mul u (mul t t)⟩

/-- The points in the other order. -/
def Rungs.swap (r : Rungs) : Rungs := ⟨r.x₃, r.z₃, r.x₂, r.z₂⟩

/-- The first coordinate of `k` times the point over `u`; the point at infinity has zero. -/
def ladder (k u : Nat) : Nat :=
  let start : Rungs := ⟨1, 0, u, 1⟩
  let r := (bits 255 k).foldl (fun r bit => if bit then (r.swap.step u).swap else r.step u) start
  mul r.x₂ (inv r.z₂)

/-- The public half of a 32-byte secret. -/
def publicBytes (secret : List UInt8) : List UInt8 :=
  toBytes 32 (ladder (clamp secret) 9)

end ComputeGrid.Curve25519
