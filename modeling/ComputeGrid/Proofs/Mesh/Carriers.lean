import ComputeGrid.Proofs.Mesh.Octets

/-!
# Carrier addresses in plans

A carrier address has the first two octets of the carrier range, whatever the length of that is, and the second and third
octet of a subnet.  So it is inside a carrier range that has room for these two, and outside the range of the mesh if the two
ranges differ in the first two.  In a plan two carrier addresses are the same only where both subnets, or one that is outside
the range, come from the mesh before (`Planner.carriers_iff_of_plan`).
-/

namespace ComputeGrid

/-! ### Plans -/

namespace Planner

variable {p : Planner} {chance : Chance} {previous : Mesh} {targets : Std.ExtTreeSet NodeId} {external : Bool}
  {t t' : Timeline Grid} {x : Pass} {carrier : Ipv4Network}

/-- Two have the same carrier address only if both held their subnets before, or one holds a subnet outside the range. -/
theorem Pass.Valid.held_of_carrierAddress_eq (hx : x.Valid p chance previous targets external t) {keepalive : UInt32}
    {who other : Option NodeId} {n k : Ipv4Network} (hne : who ≠ other)
    (hn : (x.plan previous keepalive).mesh.subnetOf who = some n)
    (hk : (x.plan previous keepalive).mesh.subnetOf other = some k)
    (heq : carrierAddress carrier n = carrierAddress carrier k) :
    (previous.subnetOf who = some n ∧ previous.subnetOf other = some k) ∨ previous.Stray who n ∨ previous.Stray other k := by
  rcases hx.contains_or_stray hn with hwithin | hstray
  · rcases hx.contains_or_stray hk with hwithin' | hstray'
    · have hthird := (carrierAddress_eq_iff hx.start_over.length hwithin hwithin').1 heq
      exact .inl (hx.held_of_thirdOctet_eq hne hn hk hwithin hwithin' hthird)
    · exact .inr (.inr hstray')
  · exact .inr (.inl hstray)

/-- The standard settings with another carrier range. -/
def carriedBy (text : String) : Settings := { Settings.standard with network.carrierRangeText := text }

/-- Plans with another carrier range than the standard one. -/
def planWithCarrier (text : String) (m : Mesh) (targets : List NodeId) (external : Bool) :
    Checked (Except MeshError MeshPlan × Timeline Grid) :=
  (⟨(carriedBy text).network, ⟨10000000000⟩, false⟩ : Planner).plan plainChance m (.ofList targets) external ⟨0, hillyGrid⟩

/-- The first subnet of a range of 16 bits. -/
def firstSubnet (a b : UInt8) : Ipv4Network :=
  Subnets.subnet ⟨{ hillyMesh.range with address := ⟨a, b, 0, 0⟩ }, ∅, Subnets.firstOctet⟩ Subnets.firstOctet

/-- A mesh in which two nodes hold the same subnet. -/
def crampedMesh : Mesh :=
  { hillyMesh with
    nodes := .ofList [((1 : NodeId), (⟨firstSubnet 10 20, "k1", "p1", 2000⟩ : Member)),
      (2, ⟨firstSubnet 10 20, "k2", "p2", 2001⟩)] }

/-- In a plan that a pass ends in, from whatever mesh, a carrier address is in the carrier range if and only if that has room
for the octets of the subnet, as any of at most 16 bits has, and outside the range of the mesh if and only if the two ranges
differ in their first two octets.  Different members have the same carrier address if and only if their subnets have the same
second and third octet, and then both held their subnets before, or one is the external member and held a subnet outside the
range. -/
theorem carriers_iff_of_plan {plan : MeshPlan} (run : p.plan chance previous targets external t = .ok (.ok plan, t')) :
    ∃ carrier, p.settings.carrierRange = .ok carrier ∧
      (∀ who n, plan.mesh.subnetOf who = some n →
        (carrier.contains (carrierAddress carrier n) = true ↔ carrier.HasRoom n) ∧
        (plan.mesh.range.Disjoint (carrierAddress carrier n) ↔ DifferInOctets carrier plan.mesh.range)) ∧
      ∀ who other n k, who ≠ other → plan.mesh.subnetOf who = some n → plan.mesh.subnetOf other = some k →
        (carrierAddress carrier n = carrierAddress carrier k ↔ n.networkAddress.middle = k.networkAddress.middle ∧
          ((previous.subnetOf who = some n ∧ previous.subnetOf other = some k) ∨
            previous.Stray who n ∨ previous.Stray other k)) := by
  obtain ⟨x, hx, rfl⟩ := pass_of_run run
  refine ⟨x.carrier, hx.carrierRange_eq, fun who n _ => ⟨contains_carrierAddress_iff, ?_⟩, fun who other n k hne hn hk => ?_⟩
  · exact disjoint_carrierAddress_iff hx.start_over.length n
  · constructor
    · exact fun heq => ⟨carrierAddress_eq_iff_middle.1 heq, hx.held_of_carrierAddress_eq hne hn hk heq⟩
    · exact fun h => carrierAddress_eq_iff_middle.2 h.1

/-- A carrier range of 24 bits is accepted, and the carrier address of the first node is outside it. -/
theorem not_contains_of_narrowCarrier : (carriedBy "100.64.0.0/24").validate = .ok () ∧ ∃ plan t n,
    planWithCarrier "100.64.0.0/24" hillyMesh [1] false = .ok (.ok plan, t) ∧ plan.mesh.subnetOf (some 1) = some n ∧
    Ipv4Network.contains ⟨⟨100, 64, 0, 0⟩, 24⟩ (carrierAddress ⟨⟨100, 64, 0, 0⟩, 24⟩ n) = false := by
  have hvalid : Checked.passes (carriedBy "100.64.0.0/24").validate (fun _ => true) = true := by decide +kernel
  obtain ⟨⟨⟩, hvalid, -⟩ := Checked.exists_of_passes hvalid
  have hrun : succeeds (planWithCarrier "100.64.0.0/24" hillyMesh [1] false) (fun plan =>
      (plan.mesh.subnetOf (some 1)).any fun n => ¬ Ipv4Network.HasRoom ⟨⟨100, 64, 0, 0⟩, 24⟩ n) = true := by decide +kernel
  obtain ⟨plan, t, hplan, htest⟩ := exists_of_succeeds hrun
  obtain ⟨n, hn, htest⟩ := (Option.any_eq_true _ _).1 htest
  obtain ⟨carrier, hcarrier, heach, -⟩ := carriers_iff_of_plan hplan
  have hrange : Checked.passes (carriedBy "100.64.0.0/24").network.carrierRange (· = ⟨⟨100, 64, 0, 0⟩, 24⟩) = true := by
    decide +kernel
  obtain ⟨_, hnarrow, heq⟩ := Checked.exists_of_passes hrange
  obtain rfl := Except.ok.inj (hcarrier.symm.trans hnarrow)
  obtain rfl := of_decide_eq_true heq
  exact ⟨hvalid, plan, t, n, hplan, hn, Bool.eq_false_iff.2 fun h => of_decide_eq_true htest ((heach _ n hn).1.1 h)⟩

/-- A carrier address is in the range of a mesh that overlaps the carrier range. -/
example : succeeds (planWithCarrier "10.20.0.0/15" hillyMesh [1] false) (fun plan =>
    (plan.mesh.subnetOf (some 1)).any fun n => hillyMesh.range.contains (carrierAddress ⟨⟨10, 20, 0, 0⟩, 15⟩ n)) = true := by
  decide +kernel

/-- Nodes that held the same subnet have the same carrier address. -/
example : succeeds (planWithCarrier "100.64.0.0/16" crampedMesh [1, 2] true) (fun plan =>
    (plan.mesh.subnetOf (some 1)).any fun n => (plan.mesh.subnetOf (some 2)).any fun k =>
      carrierAddress ⟨⟨100, 64, 0, 0⟩, 16⟩ n = carrierAddress ⟨⟨100, 64, 0, 0⟩, 16⟩ k) = true := by
  decide +kernel

end Planner

end ComputeGrid
