import ComputeGrid.Deployment.Basic
import ComputeGrid.Inventory.Basic
import ComputeGrid.Proofs.Timeline

/-!
# Amounts of resources

A capacity is four amounts, one of each `Resource`, and what holds of capacities is said of amounts: they fit one by one
(`Capacity.fits_iff`), and a sum is that of each, or a fault where one does not fit in 64 bits (`Capacity.counted_add`).  The
sum over a deployment is the total of its workloads or a fault (`Deployment.counted_capacity`), whatever the order of the
additions, and what is left of a node stops at zero (`NodeInfo.free_cases`).
-/

namespace ComputeGrid

/-- The components of a capacity. -/
inductive Resource where
  | cru
  | mru
  | sru
  | hru
  deriving DecidableEq, Repr

namespace Capacity

variable {a b c : Capacity}

/-- How much there is of a resource. -/
def amount (a : Capacity) : Resource → Nat
  | .cru => a.cru.toNat
  | .mru => a.mru.toNat
  | .sru => a.sru.toNat
  | .hru => a.hru.toNat

theorem amount_lt (a : Capacity) (r : Resource) : a.amount r < UInt64.size := by
  cases r <;> exact UInt64.toNat_lt_size _

@[simp] theorem amount_zero (r : Resource) : zero.amount r = 0 := by
  cases r <;> rfl

@[simp] theorem amount_sub (a b : Capacity) (r : Resource) : (a.sub b).amount r = a.amount r - b.amount r := by
  cases r <;> exact toNat_monus _ _

/-- A need fits if no resource is short. -/
theorem fits_iff : a.fits b = true ↔ ∀ r, a.amount r ≤ b.amount r := by
  simp only [fits, Bool.and_eq_true, decide_eq_true_eq, UInt64.le_iff_toNat_le]
  constructor
  · rintro ⟨⟨⟨hcru, hmru⟩, hsru⟩, hhru⟩ r
    cases r
    · exact hcru
    · exact hmru
    · exact hsru
    · exact hhru
  · exact fun h => ⟨⟨⟨h .cru, h .mru⟩, h .sru⟩, h .hru⟩

/-- The outcome of counting amounts up: a capacity with these amounts, or a fault where one of them is too large. -/
inductive Counted (amounts : Resource → Nat) : Checked Capacity → Prop where
  | fits {c : Capacity} (eq : ∀ r, c.amount r = amounts r) : Counted amounts (.ok c)
  | exceeds {r : Resource} (le : UInt64.size ≤ amounts r) : Counted amounts (.error .sum)

theorem add64_cases (x y : UInt64) :
    (∃ z, Checked.add64 x y = .ok z ∧ z.toNat = x.toNat + y.toNat) ∨
      UInt64.size ≤ x.toNat + y.toNat ∧ Checked.add64 x y = .error .sum := by
  by_cases h : x.toNat + y.toNat < UInt64.size
  · have hok : Checked.add64 x y = .ok (x + y) := if_pos h
    exact .inl ⟨x + y, hok, Checked.toNat_of_add64 hok⟩
  · exact .inr ⟨Nat.le_of_not_lt h, if_neg h⟩

/-- The sum is formed resource by resource, and ends with the first that does not fit. -/
theorem counted_add (a b : Capacity) : Counted (fun r => a.amount r + b.amount r) (a.add b) := by
  unfold add
  obtain ⟨cru, hcru, hcruSum⟩ | ⟨hlarge, hcru⟩ := add64_cases a.cru b.cru
  case inr => rw [hcru]; exact .exceeds (r := .cru) hlarge
  obtain ⟨mru, hmru, hmruSum⟩ | ⟨hlarge, hmru⟩ := add64_cases a.mru b.mru
  case inr => rw [hcru, hmru]; exact .exceeds (r := .mru) hlarge
  obtain ⟨sru, hsru, hsruSum⟩ | ⟨hlarge, hsru⟩ := add64_cases a.sru b.sru
  case inr => rw [hcru, hmru, hsru]; exact .exceeds (r := .sru) hlarge
  obtain ⟨hru, hhru, hhruSum⟩ | ⟨hlarge, hhru⟩ := add64_cases a.hru b.hru
  case inr => rw [hcru, hmru, hsru, hhru]; exact .exceeds (r := .hru) hlarge
  rw [hcru, hmru, hsru, hhru]
  refine .fits (c := ⟨cru, mru, sru, hru⟩) fun r => ?_
  cases r
  · exact hcruSum
  · exact hmruSum
  · exact hsruSum
  · exact hhruSum

end Capacity

namespace Deployment

variable {d : Deployment}

/-- How much of a resource the workloads need together. -/
def need (r : Resource) : List Workload → Nat
  | [] => 0
  | w :: ws => w.capacity.amount r + need r ws

/-- How much of a resource a deployment needs. -/
def demand (d : Deployment) (r : Resource) : Nat := need r d.workloads

theorem counted_foldlM (ws : List Workload) (total : Capacity) :
    Capacity.Counted (fun r => total.amount r + need r ws) (ws.foldlM (fun total w => total.add w.capacity) total) := by
  induction ws generalizing total with
  | nil => exact .fits fun _ => rfl
  | cons w ws ih =>
    rw [List.foldlM_cons]
    rcases hsum : total.add w.capacity with fault | c
    · -- what is too large already only grows
      have hcounted := Capacity.counted_add total w.capacity
      rw [hsum] at hcounted
      cases hcounted with
      | @exceeds r hlarge =>
        refine .exceeds (r := r) (Nat.le_trans hlarge ?_)
        show _ ≤ total.amount r + (w.capacity.amount r + need r ws)
        omega
    · have hcounted := Capacity.counted_add total w.capacity
      rw [hsum] at hcounted
      cases hcounted with
      | fits hamounts =>
        have hamounts' : (fun r => total.amount r + need r (w :: ws)) = fun r => c.amount r + need r ws := by
          funext r
          rw [hamounts r, need, Nat.add_assoc]
        rw [hamounts']
        exact ih c

/-- The capacity of a deployment is the total of its workloads. -/
theorem counted_capacity (d : Deployment) : Capacity.Counted d.demand d.capacity := by
  have hcounted := counted_foldlM d.workloads .zero
  simp only [Capacity.amount_zero, Nat.zero_add] at hcounted
  exact hcounted

end Deployment

namespace NodeInfo

/-- How much of a resource is left of a node, where twice the SSD storage may be promised. -/
def headroom (info : NodeInfo) (r : Resource) : Nat :=
  (if r = .sru then 2 * info.total.amount r else info.total.amount r) - info.used.amount r

/-- Twice the SSD storage of a node has to be counted; what is left of it then needs no more than that. -/
theorem free_cases (info : NodeInfo) :
    (2 * info.total.sru.toNat < UInt64.size ∧ ∃ c, info.free = .ok c ∧ ∀ r, c.amount r = info.headroom r) ∨
      UInt64.size ≤ 2 * info.total.sru.toNat ∧ info.free = .error .product := by
  by_cases h : 2 * info.total.sru.toNat < UInt64.size
  · have hdouble : Checked.double64 info.total.sru = .ok (2 * info.total.sru) := if_pos h
    refine .inl ⟨h, Capacity.sub { info.total with sru := 2 * info.total.sru } info.used, ?_, fun r => ?_⟩
    · rw [free, hdouble]
      rfl
    · have hsru : (2 * info.total.sru).toNat = 2 * info.total.sru.toNat := by
        rw [UInt64.toNat_mul]
        exact Nat.mod_eq_of_lt h
      rw [Capacity.amount_sub, headroom]
      cases r
      case sru => rw [if_pos rfl, Capacity.amount, hsru, ← Capacity.amount]
      all_goals rfl
  · have hdouble : Checked.double64 info.total.sru = .error .product := if_neg h
    refine .inr ⟨Nat.le_of_not_lt h, ?_⟩
    rw [free, hdouble]
    rfl

end NodeInfo

end ComputeGrid
