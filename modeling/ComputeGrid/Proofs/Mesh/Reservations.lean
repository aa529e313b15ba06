import ComputeGrid.Proofs.Mesh.Octets

/-!
# Networks that are reserved

A reservation marks a single third octet, that of the least address, while the addresses of a network of fewer than 24 bits
have more of them (`Ipv4Network.octets`).  So a subnet that is handed out (`Subnets.Run.disjoint_iff_of_allocate`) shares
no address with those that were handed out before, nor with networks of at least 24 bits that were reserved before, but
does share some with a larger network if its octet is a later one of that network.

Addresses are compared as numbers: two networks share none if one ends before the other begins
(`Ipv4Network.disjoint_iff`), and inside a `/16` that is a matter of third octets (`Slot.disjoint_iff`).
-/

namespace ComputeGrid

open Ipv4Network

/-! ### Third octets -/

/-- How many third octets the addresses of a network of at least 16 bits have. -/
def Ipv4Network.octets (n : Ipv4Network) : Nat := Nat.pow 2 (24 - n.length.val)

variable {range n k : Ipv4Network}

namespace Ipv4Network

theorem octets_of_le (h : 24 ≤ n.length.val) : n.octets = 1 := by
  rw [octets, Nat.sub_eq_zero_of_le h]

/-- Inside a `/16` the third octet says which block of 256 addresses the least address is in. -/
theorem first_eq (h : range.length.val = 16) (hn : range.contains n = true) :
    n.first = range.first + n.thirdOctet.toNat * 256 + n.networkAddress.d.toNat := by
  obtain ⟨ha, hb⟩ := octets_networkAddress h hn
  rw [← n.toNat_networkAddress, Ipv4.toNat, ha, hb, range.first_eq_of_length_le (Nat.le_of_eq h), thirdOctet]
  omega

/-- A network of at most 24 bits is made up of whole blocks of 256 addresses. -/
theorem size_eq (h : n.length.val ≤ 24) : n.size = n.octets * 256 := by
  have hpow : 2 ^ (32 - n.length.val) = 2 ^ (24 - n.length.val) * 2 ^ 8 := by
    rw [← Nat.pow_add]
    congr 1
    omega
  exact hpow

/-- A network of at least 24 bits is inside one block of 256 addresses. -/
theorem add_size_le (h : 24 ≤ n.length.val) : n.first % 256 + n.size ≤ 256 := by
  have hdvd : n.size ∣ 256 := Nat.pow_dvd_pow 2 (show 32 - n.length.val ≤ 8 by omega)
  have hlow : n.size ∣ n.first % 256 := (Nat.dvd_mod_iff hdvd).2 n.size_dvd_first
  -- both are multiples of the size, so that the next multiple is not beyond the block
  obtain ⟨blocks, hblocks⟩ := hdvd
  obtain ⟨i, hi⟩ := hlow
  have hlt : n.size * i < n.size * blocks := by
    rw [← hi, ← hblocks]
    exact Nat.mod_lt _ (by decide)
  have hi' : i + 1 ≤ blocks := Nat.lt_of_mul_lt_mul_left hlt
  calc n.first % 256 + n.size = n.size * (i + 1) := by rw [hi, Nat.mul_succ]
    _ ≤ n.size * blocks := Nat.mul_le_mul_left _ hi'
    _ = 256 := hblocks.symm

end Ipv4Network

/-- A subnet of a range shares no address with a network inside it if its octet is none of that network's. -/
theorem Slot.disjoint_iff (h : range.length.val = 16) (hn : Slot range n) (hk : range.contains k = true) :
    n.Disjoint k ↔ n.thirdOctet.toNat < k.thirdOctet.toNat ∨ k.thirdOctet.toNat + k.octets ≤ n.thirdOctet.toNat := by
  have hsize : n.size = 256 := by rw [Ipv4Network.size, hn.length]
  have hlow := n.networkAddress.d.toNat_lt
  have hlow' := k.networkAddress.d.toNat_lt
  have hfirst := first_eq h hn.within
  have hfirst' := first_eq h hk
  have hblock := range.first_eq_of_length_le (Nat.le_of_eq h)
  have hzero : n.networkAddress.d.toNat = 0 := by
    have hdvd := n.size_dvd_first
    rw [hsize] at hdvd
    omega
  have hpos := k.size_pos
  rw [Ipv4Network.disjoint_iff, last, last, hsize]
  rcases Nat.le_total k.length.val 24 with hwide | hnarrow
  · have hwhole := size_eq hwide
    have hzero' : k.networkAddress.d.toNat = 0 := by
      have hdvd : 256 ∣ k.first := Nat.dvd_trans ⟨k.octets, by rw [hwhole, Nat.mul_comm]⟩ k.size_dvd_first
      omega
    omega
  · have hinside := add_size_le hnarrow
    have hone := octets_of_le hnarrow
    omega

/-! ### Reserving and handing out -/

namespace Subnets

variable {s s' : Subnets} {reserved given : List Ipv4Network}

/-- What reserving networks and handing out subnets, in any order, leads to from the subnets of a range, with what has been
reserved and what has been handed out, the latest first. -/
inductive Run (range : Ipv4Network) : (reserved given : List Ipv4Network) → Subnets → Prop where
  | start {s : Subnets} (start : of? range = some s) : Run range [] [] s
  | reserve {reserved given : List Ipv4Network} {s : Subnets} (before : Run range reserved given s) (n : Ipv4Network) :
    Run range (n :: reserved) given (s.reserve n)
  | allocate {reserved given : List Ipv4Network} {s s' : Subnets} {n : Ipv4Network} (before : Run range reserved given s)
    (step : s.allocate = (some n, s')) : Run range reserved (n :: given) s'
  | exhausted {reserved given : List Ipv4Network} {s s' : Subnets} (before : Run range reserved given s)
    (step : s.allocate = (none, s')) : Run range reserved given s'

/-- Where there is nothing left to hand out there is nothing left after that. -/
theorem not_free_of_allocate_none (hs : Over range s) (h : s.allocate = (none, s')) : Over range s' ∧ ∀ n, ¬ Free s' n := by
  unfold allocate at h
  split at h
  · cases h
  · cases h
    refine ⟨⟨hs.range_eq, hs.length, Nat.le_trans hs.low (Nat.le_max_left _ _)⟩, ?_⟩
    rintro n ⟨octet, hnext, hlast, -⟩
    have hmax : max s.next lastOctet ≤ octet := hnext
    omega

/-- What holds at every point of a run: what was handed out are subnets of the range, and what may still be has a third octet
other than theirs and other than those of the networks in the range that were reserved. -/
structure Apart (range : Ipv4Network) (reserved given : List Ipv4Network) (s : Subnets) : Prop where
  ranged : Over range s
  slots : ∀ k ∈ given, Slot range k
  given : ∀ n, Free s n → ∀ k ∈ given, n.thirdOctet ≠ k.thirdOctet
  reserved : ∀ n, Free s n → ∀ k ∈ reserved, range.contains k = true → n.thirdOctet ≠ k.thirdOctet

theorem Run.apart (h : Run range reserved given s) : Apart range reserved given s := by
  induction h with
  | start hstart => exact ⟨over_of_of? hstart, nofun, fun _ _ => nofun, fun _ _ => nofun⟩
  | reserve _ k ih =>
    refine ⟨ih.ranged.reserve k, ih.slots, fun n hn => ?_, fun n hn => ?_⟩
    · exact ih.given n (free_of_reserve ih.ranged hn).1
    · obtain ⟨hfree, hk⟩ := free_of_reserve ih.ranged hn
      exact List.forall_mem_cons.2 ⟨hk, ih.reserved n hfree⟩
  | allocate _ hstep ih =>
    obtain ⟨hover, hfree, hrest⟩ := free_of_allocate ih.ranged hstep
    refine ⟨hover, List.forall_mem_cons.2 ⟨hfree.slot ih.ranged, ih.slots⟩, fun n hn => ?_, fun n hn => ?_⟩
    · obtain ⟨hbefore, hne⟩ := hrest n hn
      exact List.forall_mem_cons.2 ⟨hne, ih.given n hbefore⟩
    · exact ih.reserved n (hrest n hn).1
  | exhausted _ hstep ih =>
    obtain ⟨hover, hnone⟩ := not_free_of_allocate_none ih.ranged hstep
    exact ⟨hover, ih.slots, fun n hn => absurd hn (hnone n), fun n hn => absurd hn (hnone n)⟩

/-- Whatever has been reserved and handed out before, what is handed out next is a `/24` inside the range with a third octet
from 2 to 254.  It shares no address with what was handed out before.  With a network inside the range that was reserved
before it shares none if that one has at least 24 bits, and in general if its octet is not one of those after the first that
the addresses of that network have. -/
theorem Run.disjoint_iff_of_allocate (h : Run range reserved given s) (step : s.allocate = (some n, s')) :
    Slot range n ∧ (∀ k ∈ given, n.Disjoint k) ∧
      ∀ k ∈ reserved, range.contains k = true → (24 ≤ k.length.val → n.Disjoint k) ∧
        (n.Disjoint k ↔
          ¬ (k.thirdOctet < n.thirdOctet ∧ n.thirdOctet.toNat < k.thirdOctet.toNat + k.octets)) := by
  have hapart := h.apart
  have hlength := hapart.ranged.length
  obtain ⟨-, hfree, -⟩ := free_of_allocate hapart.ranged step
  have hslot := hfree.slot hapart.ranged
  -- what was handed out has one octet, like what is handed out now
  have hgiven : ∀ k ∈ given, n.Disjoint k := by
    intro k hk
    have hne : n.thirdOctet.toNat ≠ k.thirdOctet.toNat := fun heq => hapart.given n hfree k hk (UInt8.toNat_inj.1 heq)
    have hslot' := hapart.slots k hk
    have hone := octets_of_le (Nat.le_of_eq hslot'.length.symm)
    rw [hslot.disjoint_iff hlength hslot'.within]
    omega
  refine ⟨hslot, hgiven, fun k hk hwithin => ?_⟩
  have hne : n.thirdOctet.toNat ≠ k.thirdOctet.toNat := fun heq =>
    hapart.reserved n hfree k hk hwithin (UInt8.toNat_inj.1 heq)
  rw [hslot.disjoint_iff hlength hwithin, UInt8.lt_iff_toNat_lt]
  refine ⟨fun hnarrow => ?_, ?_⟩
  · have hone := octets_of_le hnarrow
    omega
  · omega

/-- The range of the sample. -/
def sampleRange : Ipv4Network := ⟨⟨10, 20, 0, 0⟩, ⟨16, by decide⟩⟩

/-- A network with two third octets. -/
def wideNetwork : Ipv4Network := ⟨⟨10, 20, 2, 0⟩, ⟨23, by decide⟩⟩

/-- The network is reserved, and then its second half is handed out. -/
theorem not_disjoint_of_wideNetwork : ∃ s s', Run sampleRange [wideNetwork] [] s ∧
    s.allocate = (some ⟨⟨10, 20, 3, 0⟩, 24⟩, s') ∧ sampleRange.contains wideNetwork = true ∧
    Slot sampleRange ⟨⟨10, 20, 3, 0⟩, 24⟩ ∧ ¬ Ipv4Network.Disjoint ⟨⟨10, 20, 3, 0⟩, 24⟩ wideNetwork := by
  have hstart : Run sampleRange [] [] ⟨sampleRange.truncate, ∅, firstOctet⟩ := .start rfl
  have hrun := hstart.reserve wideNetwork
  have hwithin : sampleRange.contains wideNetwork = true := by decide +kernel
  have hfirst : (Subnets.reserve ⟨sampleRange.truncate, ∅, firstOctet⟩ wideNetwork).allocate.1 =
      some ⟨⟨10, 20, 3, 0⟩, 24⟩ := by decide +kernel
  rcases hstep : (Subnets.reserve ⟨sampleRange.truncate, ∅, firstOctet⟩ wideNetwork).allocate with ⟨handed, s'⟩
  rw [hstep] at hfirst
  obtain rfl : handed = _ := hfirst
  obtain ⟨hslot, -, hreserved⟩ := hrun.disjoint_iff_of_allocate hstep
  obtain ⟨-, hiff⟩ := hreserved wideNetwork List.mem_cons_self hwithin
  -- the octet that is handed out is the second of the network's
  have hlater : wideNetwork.thirdOctet < Ipv4Network.thirdOctet ⟨⟨10, 20, 3, 0⟩, 24⟩ ∧
      (Ipv4Network.thirdOctet ⟨⟨10, 20, 3, 0⟩, 24⟩).toNat < wideNetwork.thirdOctet.toNat + wideNetwork.octets := by
    decide +kernel
  exact ⟨_, _, hrun, hstep, hwithin, hslot, fun hdisjoint => hiff.1 hdisjoint hlater⟩

end Subnets

end ComputeGrid
