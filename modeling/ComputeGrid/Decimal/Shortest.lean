import ComputeGrid.Text.Digits

/-!
# The shortest decimal of a binary64 float

`shortest? x` is the decimal with the fewest digits that reads back as the finite, non-zero magnitude of `x`, and of
those the nearest to it. A float decodes to `m · 2 ^ q`; the reals that round to it form an interval around it, with
its ends included exactly when `m` is even. The grids of multiples of `10 ^ e` are tried from coarse to fine, and on
each only the two multiples next to the value: if any multiple lies in the interval, so does one of these.

`positional` writes a decimal without an exponent.
-/

namespace ComputeGrid

/-- The number `digits · 10 ^ exponent`. -/
structure Decimal where
  digits : Nat
  exponent : Int
  deriving DecidableEq, Repr

namespace Decimal

/-- The eleven bits of the exponent. -/
def exponentBits (x : Float) : Nat := x.toBits.toNat / 0x10000000000000 % 0x800

/-- The fifty-two bits of the fraction. -/
def fractionBits (x : Float) : Nat := x.toBits.toNat % 0x10000000000000

/-- Whether the sign bit is set; it is for `-0.0` and may be for a NaN. -/
def isNegative (x : Float) : Bool := 0x8000000000000000 ≤ x.toBits.toNat

/-- The magnitude `m · 2 ^ q` of a float, as `m` and `q`; subnormal floats have the least exponent. -/
def magnitude (x : Float) : Nat × Int :=
  if exponentBits x = 0 then (fractionBits x, -1074)
  else (fractionBits x + 0x10000000000000, (exponentBits x : Int) - 1075)

/-- Four times the magnitude over a denominator, and a quarter of the spacing below: the interval of the reals that
round to `m · 2 ^ q` runs from `4 m - below` to `4 m + 2` in units of `unit / denominator`. -/
structure Interval where
  middle : Nat
  below : Nat
  above : Nat
  unit : Nat
  denominator : Nat
  closed : Bool

/-- The interval of the reals that round to the magnitude of `x`. The gap below a power of two is half as wide. -/
def interval (x : Float) : Interval :=
  let (m, q) := magnitude x
  let narrow := fractionBits x = 0 ∧ 1 < exponentBits x
  { middle := 4 * m
    below := if narrow then 1 else 2
    above := 2
    unit := Nat.pow 2 (q - 2).toNat
    denominator := Nat.pow 2 (2 - q).toNat
    closed := m % 2 == 0 }

/-- Whether `k · 10 ^ e` lies in the interval. -/
def Interval.contains (i : Interval) (k : Nat) (e : Int) : Bool :=
  let point := k * Nat.pow 10 e.toNat * i.denominator
  let scale := i.unit * Nat.pow 10 (-e).toNat
  let low := (i.middle - i.below) * scale
  let high := (i.middle + i.above) * scale
  if i.closed then low ≤ point && point ≤ high else low < point && point < high

/-- The multiple of `10 ^ e` next to the middle that lies in the interval; of two the nearer, of two equally near the
greater. -/
def Interval.on? (i : Interval) (e : Int) : Option Nat :=
  let scaled := i.middle * i.unit * Nat.pow 10 (-e).toNat
  let grid := i.denominator * Nat.pow 10 e.toNat
  let k := scaled / grid
  match i.contains k e, i.contains (k + 1) e with
  | true, true => if 2 * (scaled % grid) < grid then some k else some (k + 1)
  | true, false => some k
  | false, true => some (k + 1)
  | false, false => none

/-- The shortest decimal of the magnitude of a finite float that is not zero. -/
def shortest? (x : Float) : Option Decimal :=
  (List.range 634).findSome? fun (step : Nat) =>
    let e : Int := 309 - (step : Int)
    ((interval x).on? e).map fun k => ⟨k, e⟩

/-- The decimal without an exponent; a whole number has no point. -/
def positional (d : Decimal) : List Char :=
  let digits := Text.numeral d.digits
  if 0 ≤ d.exponent then digits ++ List.replicate d.exponent.toNat '0'
  else
    let places := (-d.exponent).toNat
    let whole := digits.take (digits.length - places)
    let fraction := List.replicate (places - digits.length) '0' ++ digits.drop (digits.length - places)
    (if whole.isEmpty then ['0'] else whole) ++ '.' :: fraction

/-- One digit, a point before the others if there are others, and a power of ten. -/
def scientific (d : Decimal) : List Char :=
  match Text.numeral d.digits with
  | [] => []
  | first :: rest =>
    let exponent := d.exponent + rest.length
    first :: (if rest.isEmpty then [] else '.' :: rest) ++ 'e' :: Text.integer exponent

end Decimal

end ComputeGrid
