import ComputeGrid.Decimal.Rounding
import ComputeGrid.Decimal.Shortest
import ComputeGrid.Duration
import ComputeGrid.Fault

/-!
# Multiples of durations

A duration is multiplied by a float as a float of seconds, and the product is rounded to the nearest nanosecond, a half
going to the even one.
-/

namespace ComputeGrid.Duration

/-- The length in seconds. -/
def toFloat (d : Duration) : Float :=
  d.seconds.toUInt64.toFloat + d.subsecond.toUInt32.toFloat / 1000000000.0

/-- The duration nearest to a number of seconds, which must not be negative and less than `2 ^ 64`. -/
def ofFloat (x : Float) : Checked Duration :=
  if x < 0.0 then .error .negativeDuration
  else if x < 18446744073709551616.0 then
    let (m, q) := Decimal.magnitude x
    .ok ⟨Decimal.roundToEven (m * perSecond * Nat.pow 2 q.toNat) (Nat.pow 2 (-q).toNat)⟩
  else .error .durationRange

/-- The multiple of a duration. -/
def scale (d : Duration) (factor : Float) : Checked Duration := ofFloat (factor * d.toFloat)

/-- The sum of two durations, a fault if it does not fit. -/
def add (a b : Duration) : Checked Duration :=
  match a.add? b with
  | some d => .ok d
  | none => .error .durationSum

end ComputeGrid.Duration
