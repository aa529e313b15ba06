import ComputeGrid.Proofs.Mesh.Stability

/-!
# The octets of subnets

An address in a `/16` has its first two octets, and one in a `/24` its first three (`octets_of_contains_16`,
`octets_of_contains_24`).  A carrier address takes the second and the third octet of a subnet as its last two.  So it is in
a carrier range that leaves these open (`contains_carrierAddress_iff`), and outside a `/16` that differs from the carrier range
in the first two (`disjoint_carrierAddress_iff`).  Subnets in a `/16` have different carrier addresses if they have
different third octets (`carrierAddress_eq_iff`), and in a mesh whose third octets are `Spread` everyone has a carrier
address of their own.  A pass preserves that (`Pass.Valid.spread`), so it holds over any run of passes from a new mesh
(`Mesh.Reached.spread`).
-/

namespace ComputeGrid

open Ipv4Network

/-! ### Octets of addresses in networks -/

namespace Ipv4Network

variable {n k : Ipv4Network} {x : Ipv4}

theorem octets_of_contains_16 (h : n.length.val = 16) (hx : n.contains (single x) = true) :
    x.a = n.networkAddress.a ∧ x.b = n.networkAddress.b := by
  have hfirst := n.first_eq_of_length_le (Nat.le_of_eq h)
  have hsize : n.size = 65536 := by rw [size, h]
  have ha := x.b.toNat_lt
  have hb := x.c.toNat_lt
  have hc := x.d.toNat_lt
  have hnb := n.networkAddress.b.toNat_lt
  rw [contains_single_iff, last, hsize, hfirst, Ipv4.toNat] at hx
  rw [← UInt8.toNat_inj, ← UInt8.toNat_inj]
  omega

theorem octets_of_contains_24 (h : n.length.val = 24) (hx : n.contains (single x) = true) :
    x.a = n.networkAddress.a ∧ x.b = n.networkAddress.b ∧ x.c = n.networkAddress.c := by
  have hsize : n.size = 256 := by rw [size, h]
  have hdvd : 256 ∣ n.first := hsize ▸ n.size_dvd_first
  have hnat := n.toNat_networkAddress
  have hb := x.b.toNat_lt
  have hc := x.c.toNat_lt
  have hd := x.d.toNat_lt
  have hnb := n.networkAddress.b.toNat_lt
  have hnc := n.networkAddress.c.toNat_lt
  have hnd := n.networkAddress.d.toNat_lt
  rw [contains_single_iff, last, hsize, Ipv4.toNat] at hx
  rw [Ipv4.toNat] at hnat
  rw [← UInt8.toNat_inj, ← UInt8.toNat_inj, ← UInt8.toNat_inj]
  omega

theorem contains_trans {outer : Ipv4Network} (h : outer.contains n = true) (hk : n.contains k = true) :
    outer.contains k = true := by
  rw [contains_iff] at h hk ⊢
  omega

/-- The second octet of a network in a `/16` is that of the `/16`. -/
theorem octets_networkAddress {range : Ipv4Network} (h : range.length.val = 16) (hn : range.contains n = true) :
    n.networkAddress.a = range.networkAddress.a ∧ n.networkAddress.b = range.networkAddress.b :=
  octets_of_contains_16 h (contains_trans hn n.contains_networkAddress)

end Ipv4Network

/-! ### Carrier addresses -/

/-- The second and the third octet, as one number. -/
def Ipv4.middle (x : Ipv4) : Nat := x.b.toNat * 256 + x.c.toNat

/-- The third and the fourth octet, as one number. -/
def Ipv4.low (x : Ipv4) : Nat := x.c.toNat * 256 + x.d.toNat

section Carrier

variable {carrier range n k : Ipv4Network} {x : Ipv4}

theorem eq_of_contains_carrierAddress (h : (carrierAddress carrier n).contains (.single x) = true) :
    x = ⟨carrier.networkAddress.a, carrier.networkAddress.b, n.networkAddress.b, n.networkAddress.c⟩ :=
  eq_of_contains_single h

/-- Carrier addresses are the same if and only if the subnets have the same second and third octet. -/
theorem carrierAddress_eq_iff_middle :
    carrierAddress carrier n = carrierAddress carrier k ↔ n.networkAddress.middle = k.networkAddress.middle := by
  have hc := n.networkAddress.c.toNat_lt
  have hc' := k.networkAddress.c.toNat_lt
  constructor
  · intro heq
    have hb : n.networkAddress.b = k.networkAddress.b := congrArg (fun m : Ipv4Network => m.address.c) heq
    have hthird : n.networkAddress.c = k.networkAddress.c := congrArg (fun m : Ipv4Network => m.address.d) heq
    rw [Ipv4.middle, Ipv4.middle, hb, hthird]
  · intro heq
    rw [Ipv4.middle, Ipv4.middle] at heq
    have hb : n.networkAddress.b = k.networkAddress.b := UInt8.toNat_inj.1 (by omega)
    have hthird : n.networkAddress.c = k.networkAddress.c := UInt8.toNat_inj.1 (by omega)
    rw [carrierAddress, carrierAddress, hb, hthird]

theorem carrierAddress_eq_iff (h : range.length.val = 16) (hn : range.contains n = true) (hk : range.contains k = true) :
    carrierAddress carrier n = carrierAddress carrier k ↔ n.thirdOctet = k.thirdOctet := by
  have hb : n.networkAddress.b = k.networkAddress.b :=
    (octets_networkAddress h hn).2.trans (octets_networkAddress h hk).2.symm
  rw [carrierAddress_eq_iff_middle, Ipv4.middle, Ipv4.middle, hb, thirdOctet, thirdOctet, ← UInt8.toNat_inj]
  omega

/-- A carrier range has room for the octets that a carrier address takes from a subnet: it leaves the last two octets open,
or those of the subnet are among the ones that it has there. -/
def Ipv4Network.HasRoom (carrier n : Ipv4Network) : Prop :=
  carrier.length.val ≤ 16 ∨
    carrier.networkAddress.low ≤ n.networkAddress.middle ∧
      n.networkAddress.middle < carrier.networkAddress.low + carrier.size

instance : Decidable (carrier.HasRoom n) := inferInstanceAs (Decidable (_ ∨ _))

theorem contains_carrierAddress_iff :
    carrier.contains (carrierAddress carrier n) = true ↔ carrier.HasRoom n := by
  have hpos := carrier.size_pos
  have hfirst : carrier.first = (carrier.networkAddress.a.toNat * 256 + carrier.networkAddress.b.toNat) * 65536 +
      carrier.networkAddress.low := by
    rw [← carrier.toNat_networkAddress, Ipv4.toNat, Ipv4.low]
    omega
  have hnat : Ipv4.toNat ⟨carrier.networkAddress.a, carrier.networkAddress.b, n.networkAddress.b, n.networkAddress.c⟩ =
      (carrier.networkAddress.a.toNat * 256 + carrier.networkAddress.b.toNat) * 65536 + n.networkAddress.middle := by
    rw [Ipv4.toNat_mk, Ipv4.middle]
    omega
  -- both have the first two octets of the range, so that the other two decide
  have hlow : carrier.contains (carrierAddress carrier n) = true ↔
      carrier.networkAddress.low ≤ n.networkAddress.middle ∧
        n.networkAddress.middle < carrier.networkAddress.low + carrier.size := by
    show carrier.contains (Ipv4Network.single _) = true ↔ _
    rw [contains_single_iff, last, hnat, hfirst]
    omega
  constructor
  · exact fun h => .inr (hlow.1 h)
  · exact fun h => h.elim (fun hlength => contains_carrierAddress hlength n) hlow.2

/-- The carrier range and a `/16` differ in the first two octets of their least addresses. -/
def DifferInOctets (carrier range : Ipv4Network) : Prop :=
  carrier.networkAddress.a ≠ range.networkAddress.a ∨ carrier.networkAddress.b ≠ range.networkAddress.b

/-- Then no carrier address is in the `/16`. -/
theorem DifferInOctets.disjoint (h : DifferInOctets carrier range) (hlength : range.length.val = 16) (n : Ipv4Network) :
    range.Disjoint (carrierAddress carrier n) := by
  intro x hx hcarrier
  obtain rfl := eq_of_contains_carrierAddress hcarrier
  obtain ⟨ha, hb⟩ := octets_of_contains_16 hlength hx
  exact h.elim (fun hne => hne ha) fun hne => hne hb

/-- Otherwise all of them are. -/
theorem disjoint_carrierAddress_iff (hlength : range.length.val = 16) (n : Ipv4Network) :
    range.Disjoint (carrierAddress carrier n) ↔ DifferInOctets carrier range := by
  refine ⟨fun hdisjoint => ?_, fun h => h.disjoint hlength n⟩
  refine Classical.byContradiction fun hsame => ?_
  obtain ⟨ha, hb⟩ := not_or.1 hsame
  have hwithin : range.contains (carrierAddress carrier n) = true := by
    rw [carrierAddress, Decidable.not_not.1 ha, Decidable.not_not.1 hb]
    exact contains_carrierAddress (Nat.le_of_eq hlength) n
  exact hdisjoint (carrierAddress carrier n).address hwithin (carrierAddress carrier n).contains_refl

end Carrier

/-! ### Meshes with different third octets -/

namespace Mesh

/-- Everyone's subnet has a third octet of its own. -/
def Spread (m : Mesh) : Prop :=
  ∀ who other n k, who ≠ other → m.subnetOf who = some n → m.subnetOf other = some k → n.thirdOctet ≠ k.thirdOctet

end Mesh

namespace Planner

variable {p : Planner} {chance : Chance} {previous : Mesh} {targets : Std.ExtTreeSet NodeId} {external : Bool}
  {t t' : Timeline Grid} {x : Pass}

namespace Pass.Valid

variable (hx : x.Valid p chance previous targets external t)
include hx

/-- Two whose third octets are the same both held their subnets before. -/
theorem spread (hinside : previous.Inside) (hspread : previous.Spread) (keepalive : UInt32) :
    (x.plan previous keepalive).mesh.Spread := by
  intro who other n k hne h h' heq
  have hwithin := hx.inside hinside keepalive who n h
  have hwithin' := hx.inside hinside keepalive other k h'
  obtain ⟨hold, hold'⟩ := hx.held_of_thirdOctet_eq hne h h' hwithin hwithin' heq
  exact hspread who other n k hne hold hold' heq

/-- The carrier range of a pass is the one of the settings. -/
theorem carrierRange_eq : p.settings.carrierRange = .ok x.carrier := by
  have hranges := hx.ranges
  unfold Planner.ranges at hranges
  split at hranges
  · cases hranges
  next hcarrier =>
    split at hranges
    · cases hranges
      exact hcarrier
    · cases hranges

end Pass.Valid

end Planner

namespace Mesh

variable {name : String} {range : Ipv4Network} {m : Mesh}

/-- Whatever passes lead to from a new mesh, everyone's third octet is their own. -/
theorem Reached.spread (h : Reached (new name range) m) : m.Spread := by
  induction h with
  | start =>
    intro who other n k _ hn
    rw [subnetOf_new] at hn
    cases hn
  | pass before run ih =>
    obtain ⟨-, haddressed, -⟩ := before.sound
    obtain ⟨x, hx, rfl⟩ := Planner.pass_of_run run
    exact hx.spread haddressed.inside ih _

end Mesh

end ComputeGrid
