import ComputeGrid.Mesh.Planner
import ComputeGrid.Proofs.Address.Ranges

/-!
# Subnets that are handed out

The subnet of an octet is a `/24` of its own third octet inside a `/16` (`contains_subnet`, `thirdOctet_subnet`).  What
`Subnets.allocate` may hand out sooner or later is `Free`; it is a `Slot` of the range (`Free.slot`), nothing that has
been reserved is free (`free_of_reserve`), and what is handed out is free and no longer so after it (`free_of_allocate`).
A carrier address is inside a carrier range of at most 16 bits (`contains_carrierAddress`).  In a mesh that is `Addressed`
everyone has a slot of the range of their own.
-/

namespace ComputeGrid

open Ipv4Network

/-- A network that may be handed out as a subnet of a range. -/
structure Slot (range n : Ipv4Network) : Prop where
  length : n.length.val = 24
  within : range.contains n = true
  low : 2 ≤ n.thirdOctet.toNat
  high : n.thirdOctet.toNat ≤ 254

namespace Subnets

section Subnet

variable (s : Subnets) (octet : Nat)

/-- The address of a subnet as a number. -/
theorem toNat_subnet : (s.subnet octet).address.toNat =
    ((s.range.networkAddress.a.toNat * 256 + s.range.networkAddress.b.toNat) * 256 + octet.toUInt8.toNat) * 256 := by
  rw [subnet, Ipv4.toNat_mk, UInt8.toNat_zero, Nat.add_zero]

theorem first_subnet : (s.subnet octet).first = (s.subnet octet).address.toNat := by
  have hsize : (s.subnet octet).size = 256 := rfl
  rw [first, hsize, toNat_subnet, Nat.mul_div_cancel _ (by decide)]

theorem thirdOctet_subnet : (s.subnet octet).thirdOctet = octet.toUInt8 := by
  rw [thirdOctet, networkAddress, first_subnet, Ipv4.ofNat_toNat]
  rfl

theorem contains_subnet (h : s.range.length.val = 16) (hoctet : octet < 256) :
    s.range.contains (s.subnet octet) = true := by
  have hfirst := s.range.first_eq_of_length_le (Nat.le_of_eq h)
  have hsubnet : (s.subnet octet).first = s.range.first + octet * 256 := by
    rw [first_subnet, toNat_subnet, hfirst, Nat.toUInt8_eq, UInt8.toNat_ofNat']
    omega
  have hlast : (s.subnet octet).last = (s.subnet octet).first + 255 := rfl
  have hsize : s.range.size = 65536 := by rw [size, h]
  rw [contains_iff, hlast, hsubnet, last, hsize]
  omega

end Subnet

variable {range n k : Ipv4Network} {s s' : Subnets}

/-- The subnets are those of a `/16` range, from the first octet that is handed out on. -/
structure Over (range : Ipv4Network) (s : Subnets) : Prop where
  range_eq : s.range = range.truncate
  length : range.length.val = 16
  low : firstOctet ≤ s.next

/-- A network that may still be handed out. -/
def Free (s : Subnets) (n : Ipv4Network) : Prop :=
  ∃ octet, s.next ≤ octet ∧ octet < lastOctet ∧ octet.toUInt8 ∉ s.taken ∧ n = s.subnet octet

theorem Over.contains (h : Over range s) : s.range.contains n = range.contains n := by
  rw [h.range_eq, contains_truncate]

theorem over_of_of? (h : of? range = some s) : Over range s := by
  unfold of? at h
  split at h
  next hlength =>
    cases h
    exact ⟨rfl, hlength, Nat.le_refl _⟩
  · cases h

theorem Free.slot (hs : Over range s) (h : Free s n) : Slot range n := by
  obtain ⟨octet, hnext, hlast, -, rfl⟩ := h
  have hlow : 2 ≤ s.next := hs.low
  have hhigh : octet < 255 := hlast
  have hlength : s.range.length.val = 16 := by
    rw [hs.range_eq]
    exact hs.length
  have hoctet : octet.toUInt8.toNat = octet := by
    rw [Nat.toUInt8_eq, UInt8.toNat_ofNat']
    omega
  refine ⟨rfl, ?_, ?_, ?_⟩
  · rw [← hs.contains]
    exact s.contains_subnet octet hlength (by omega)
  · rw [thirdOctet_subnet, hoctet]
    omega
  · rw [thirdOctet_subnet, hoctet]
    omega

/-! ### Reserving -/

theorem Over.reserve (h : Over range s) (k : Ipv4Network) : Over range (s.reserve k) := by
  unfold Subnets.reserve
  split
  · exact ⟨h.range_eq, h.length, h.low⟩
  · exact h

/-- What is free when a network has been reserved was free before, and has another third octet if the network is in the
range. -/
theorem free_of_reserve (hs : Over range s) (h : Free (s.reserve k) n) :
    Free s n ∧ (range.contains k = true → n.thirdOctet ≠ k.thirdOctet) := by
  unfold Subnets.reserve at h
  split at h
  next hk =>
    obtain ⟨octet, hnext, hlast, htaken, rfl⟩ := h
    rw [Std.ExtTreeSet.mem_insert, not_or, Std.compare_eq_iff_eq] at htaken
    refine ⟨⟨octet, hnext, hlast, htaken.2, rfl⟩, fun _ heq => htaken.1 ?_⟩
    exact heq.symm.trans (s.thirdOctet_subnet octet)
  next hk =>
    refine ⟨h, fun hcontains => ?_⟩
    rw [hs.contains] at hk
    exact absurd hcontains hk

theorem Over.foldl_reserve {held : List Ipv4Network} (h : Over range s) : Over range (held.foldl Subnets.reserve s) := by
  induction held generalizing s with
  | nil => exact h
  | cons k held ih => exact ih (h.reserve k)

/-- What is free when networks have been reserved was free before, and has another third octet than those in the
range. -/
theorem free_of_foldl_reserve {held : List Ipv4Network} (hs : Over range s) (h : Free (held.foldl Subnets.reserve s) n) :
    Free s n ∧ ∀ k ∈ held, range.contains k = true → n.thirdOctet ≠ k.thirdOctet := by
  induction held generalizing s with
  | nil => exact ⟨h, nofun⟩
  | cons k held ih =>
    obtain ⟨hfree, hheld⟩ := ih (hs.reserve k) h
    obtain ⟨hbefore, hk⟩ := free_of_reserve hs hfree
    exact ⟨hbefore, List.forall_mem_cons.2 ⟨hk, hheld⟩⟩

/-! ### Handing out -/

theorem search_eq_some {taken : Std.ExtTreeSet UInt8} {left octet found : Nat}
    (h : search taken left octet = some found) :
    octet ≤ found ∧ found < octet + left ∧ found.toUInt8 ∉ taken := by
  induction left generalizing octet with
  | zero => cases h
  | succ left ih =>
    rw [search] at h
    split at h
    · obtain ⟨hlow, hhigh, hfree⟩ := ih h
      exact ⟨by omega, by omega, hfree⟩
    next hfree =>
      cases h
      exact ⟨Nat.le_refl _, by omega, hfree⟩

/-- What is handed out was free, and what is free after it was free before and has another third octet. -/
theorem free_of_allocate (hs : Over range s) (h : s.allocate = (some n, s')) :
    Over range s' ∧ Free s n ∧ ∀ k, Free s' k → Free s k ∧ k.thirdOctet ≠ n.thirdOctet := by
  unfold allocate at h
  split at h
  next octet hsearch =>
    obtain ⟨hlow, hhigh, hfree⟩ := search_eq_some hsearch
    have hlast : octet < lastOctet := by omega
    cases h
    refine ⟨⟨hs.range_eq, hs.length, ?_⟩, ⟨octet, hlow, hlast, hfree, rfl⟩, ?_⟩
    · exact Nat.le_trans hs.low (Nat.le_succ_of_le hlow)
    · rintro k ⟨other, hnext, hother, htaken, rfl⟩
      have hahead : octet + 1 ≤ other := hnext
      rw [Std.ExtTreeSet.mem_insert, not_or, Std.compare_eq_iff_eq] at htaken
      refine ⟨⟨other, by omega, hother, htaken.2, rfl⟩, fun heq => htaken.1 ?_⟩
      rw [← s.thirdOctet_subnet octet, ← heq]
      exact thirdOctet_subnet _ other
  · cases h

end Subnets

/-- A carrier address is one of the carrier range. -/
theorem contains_carrierAddress {carrier : Ipv4Network} (h : carrier.length.val ≤ 16) (subnet : Ipv4Network) :
    carrier.contains (carrierAddress carrier subnet) = true := by
  have hfirst := carrier.first_eq_of_length_le h
  have hb := subnet.networkAddress.b.toNat_lt
  have hc := subnet.networkAddress.c.toNat_lt
  apply carrier.contains_single h (subnet.networkAddress.b.toNat * 256 + subnet.networkAddress.c.toNat)
  · omega
  · rw [hfirst, Ipv4.toNat_mk]
    omega

/-! ### Meshes with addresses -/

namespace Mesh

/-- The subnet of a node, or of the external member. -/
def subnetOf (m : Mesh) : Option NodeId → Option Ipv4Network
  | some node => m.nodes[node]?.map (·.subnet)
  | none => m.external.map (·.subnet)

/-- Everyone in a mesh has a subnet of their own. -/
structure Addressed (m : Mesh) : Prop where
  slot : ∀ who n, m.subnetOf who = some n → Slot m.range n
  distinct : ∀ who other n, m.subnetOf who = some n → m.subnetOf other = some n → who = other

/-- Everyone's subnet is inside the range. -/
def Inside (m : Mesh) : Prop := ∀ who n, m.subnetOf who = some n → m.range.contains n = true

/-- The subnet of the external member, outside the range. -/
def Stray (m : Mesh) (who : Option NodeId) (n : Ipv4Network) : Prop :=
  who = none ∧ m.subnetOf none = some n ∧ m.range.contains n = false

/-- No two have the same subnet. -/
def Apart (m : Mesh) : Prop := ∀ who other n, m.subnetOf who = some n → m.subnetOf other = some n → who = other

theorem Addressed.inside {m : Mesh} (h : m.Addressed) : m.Inside := fun who n hn => (h.slot who n hn).within

end Mesh

end ComputeGrid
