import ComputeGrid.Decimal.Rounding
import ComputeGrid.Decimal.Shortest
import ComputeGrid.Fault
import ComputeGrid.Json.Record

/-!
# Capacity

Compute units, memory, SSD and HDD storage. Sums are checked, differences stop at zero. `Capacity.text` shows bytes in
units of 2^30 with two places: the nearest float to the quotient, rounded with a half going to the even neighbour.
-/

namespace ComputeGrid

/-- Compute units, and memory, SSD storage and HDD storage in bytes. -/
structure Capacity where
  cru : UInt64
  mru : UInt64
  sru : UInt64
  hru : UInt64
  deriving DecidableEq, Repr, Inhabited

namespace Capacity

/-- Bytes in a mebibyte. -/
def mebibyte : Nat := 0x100000

/-- Bytes in a gibibyte. -/
def gibibyte : Nat := 0x40000000

def zero : Capacity := ⟨0, 0, 0, 0⟩

/-- The sum of each component. -/
def add (a b : Capacity) : Checked Capacity := do
  return ⟨← Checked.add64 a.cru b.cru, ← Checked.add64 a.mru b.mru, ← Checked.add64 a.sru b.sru,
    ← Checked.add64 a.hru b.hru⟩

/-- The difference of two counts, and zero where there is none. -/
def monus (a b : UInt64) : UInt64 := if b ≤ a then a - b else 0

/-- The difference of each component, stopping at zero. -/
def sub (a b : Capacity) : Capacity :=
  ⟨monus a.cru b.cru, monus a.mru b.mru, monus a.sru b.sru, monus a.hru b.hru⟩

def isZero (a : Capacity) : Bool := a == zero

/-- Whether no component exceeds that of `free`. -/
def fits (needed free : Capacity) : Bool :=
  needed.cru ≤ free.cru && needed.mru ≤ free.mru && needed.sru ≤ free.sru && needed.hru ≤ free.hru

/-- Hundredths of a gibibyte in the float next to a number of bytes. -/
def hundredths (bytes : UInt64) : Nat :=
  let (m, q) := Decimal.magnitude bytes.toFloat
  Decimal.roundToEven (m * 100 * Nat.pow 2 q.toNat) (gibibyte * Nat.pow 2 (-q).toNat)

/-- A number of bytes in gibibytes with two places. -/
def gibibytesText (bytes : UInt64) : List Char :=
  let h := hundredths bytes
  Text.numeral (h / 100) ++ '.' :: Text.padded 2 (h % 100)

def text (a : Capacity) : String :=
  String.ofList <|
    "cru: ".toList ++ Text.numeral a.cru.toNat ++ ", mru: ".toList ++ gibibytesText a.mru ++
      " GB, sru: ".toList ++ gibibytesText a.sru ++ " GB, hru: ".toList ++ gibibytesText a.hru ++ " GB".toList

def toJson (a : Capacity) : Json :=
  .object [("cru", .ofNat a.cru.toNat), ("mru", .ofNat a.mru.toNat), ("sru", .ofNat a.sru.toNat),
    ("hru", .ofNat a.hru.toNat)]

def ofJson? (j : Json) : Option Capacity := do
  let f ← j.toFields? 4
  return {
    cru := ← f.required 0 "cru" Json.toUInt64?
    mru := ← f.required 1 "mru" Json.toUInt64?
    sru := ← f.required 2 "sru" Json.toUInt64?
    hru := ← f.required 3 "hru" Json.toUInt64? }

theorem toNat_monus (a b : UInt64) : (monus a b).toNat = a.toNat - b.toNat := by
  unfold monus
  split
  next h => exact UInt64.toNat_sub_of_le a b h
  next h => rw [UInt64.le_iff_toNat_le] at h; simp only [UInt64.toNat_zero]; omega

end Capacity

end ComputeGrid
