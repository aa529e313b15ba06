/-!
# Rounding a quotient

`roundToEven n d` is the whole number nearest to `n / d`; of two equally near it is the even one. It is never further
than half a unit from the quotient (`roundToEven_near`).
-/

namespace ComputeGrid.Decimal

/-- The whole number nearest to a quotient, a half going to the even neighbour. -/
def roundToEven (n d : Nat) : Nat :=
  let q := n / d
  let r := n % d
  if d < 2 * r ∨ (2 * r = d ∧ q % 2 = 1) then q + 1 else q

theorem roundToEven_near (n : Nat) {d : Nat} (h : 0 < d) :
    2 * n ≤ 2 * (d * roundToEven n d) + d ∧ 2 * (d * roundToEven n d) ≤ 2 * n + d := by
  have hn := Nat.div_add_mod n d
  have hr := Nat.mod_lt n h
  unfold roundToEven
  simp only
  generalize n / d = q at *
  generalize n % d = r at *
  split
  · rw [Nat.mul_add, Nat.mul_one]; omega
  · omega

end ComputeGrid.Decimal
