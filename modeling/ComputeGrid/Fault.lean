/-!
# Arithmetic faults

Quantities have fixed widths and never wrap around. An operation whose result does not fit ends the computation that
needed it with a `Fault`; this is no error of the domain, and nothing that follows sees a state.
-/

namespace ComputeGrid

/-- What did not fit. -/
inductive Fault where
  /-- A sum of counts. -/
  | sum
  /-- A product of counts. -/
  | product
  /-- A sum of durations. -/
  | durationSum
  /-- A duration below zero. -/
  | negativeDuration
  /-- A duration that is no number or too long. -/
  | durationRange
  deriving DecidableEq, Repr

namespace Fault

def message : Fault → String
  | .sum => "attempt to add with overflow"
  | .product => "attempt to multiply with overflow"
  | .durationSum => "overflow when adding durations"
  | .negativeDuration => "cannot convert float seconds to Duration: value is negative"
  | .durationRange => "cannot convert float seconds to Duration: value is either too big or NaN"

end Fault

/-- A computation that may end in a fault. -/
abbrev Checked (α : Type) := Except Fault α

namespace Checked

/-- The sum of two 64-bit counts. -/
def add64 (a b : UInt64) : Checked UInt64 :=
  if a.toNat + b.toNat < UInt64.size then .ok (a + b) else .error .sum

/-- The sum of two 32-bit counts. -/
def add32 (a b : UInt32) : Checked UInt32 :=
  if a.toNat + b.toNat < UInt32.size then .ok (a + b) else .error .sum

/-- Twice a 64-bit count. -/
def double64 (a : UInt64) : Checked UInt64 :=
  if 2 * a.toNat < UInt64.size then .ok (2 * a) else .error .product

/-- A count that has to fit in 32 bits. -/
def count32 (n : Nat) : Checked UInt32 :=
  if n < UInt32.size then .ok n.toUInt32 else .error .sum

theorem toNat_of_add64 {a b c : UInt64} (h : add64 a b = .ok c) : c.toNat = a.toNat + b.toNat := by
  unfold add64 at h
  split at h
  next hlt => cases h; rw [UInt64.toNat_add, Nat.mod_eq_of_lt hlt]
  next => cases h

theorem toNat_of_add32 {a b c : UInt32} (h : add32 a b = .ok c) : c.toNat = a.toNat + b.toNat := by
  unfold add32 at h
  split at h
  next hlt => cases h; rw [UInt32.toNat_add, Nat.mod_eq_of_lt hlt]
  next => cases h

theorem toNat_of_count32 {n : Nat} {c : UInt32} (h : count32 n = .ok c) : c.toNat = n := by
  unfold count32 at h
  split at h
  next hlt => cases h; exact UInt32.toNat_ofNat_of_lt' hlt
  next => cases h

end Checked

end ComputeGrid
