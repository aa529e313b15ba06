import ComputeGrid.Proofs.Feasibility.Checks

/-!
# What is feasible

New deployments are feasible (`Feasibility.Feasible`) if each fits its node and they fit their farms together, and this is
what the check decides although it goes through them one by one: what fits together fits after any part of it, as the
addresses that are asked for only grow (`Feasible.of_append`), and deployments that pass one after another fit together
(`Feasible.snoc`).

The check counts capacities in 64 bits.  It comes to an end where these are in range (`Feasibility.InRange`), and else it may
end in a fault: it does at the first deployment, if there is one, that passes all that is asked of it before its capacity is
counted and whose capacity cannot be counted (`Feasibility.Halts`, `Inventory.checkFeasible_halts_iff`).
-/

namespace ComputeGrid

open Std (ExtTreeMap)

variable {i : Inventory} {info : NodeInfo} {old new : NodeMap Deployment} {n : NodeId} {d : Deployment}
  {ds ds' done : List (NodeId × Deployment)} {fault : Fault} {r : Checked (Except FeasibilityError Unit)}

namespace Feasibility

/-- Something holds of each deployment on a node that is known, of this node and of what the deployment replaces. -/
def OnKnown (i : Inventory) (old : NodeMap Deployment) (P : NodeInfo → Option Deployment → Deployment → Prop)
    (ds : List (NodeId × Deployment)) : Prop :=
  ∀ n d info, (n, d) ∈ ds → i.node n = .ok info → P info old[n]? d

/-- New deployments fit once the old ones are gone, as far as their nodes and the farms are known. -/
structure Feasible (i : Inventory) (old : NodeMap Deployment) (ds : List (NodeId × Deployment)) : Prop where
  suits : OnKnown i old Suits ds
  addresses : ∀ id farm, i.farm? id = some farm →
    i.addressesOn id ds ≤ farm.freePublicIps + i.addressesOn id old.toList
  room : OnKnown i old Room ds

/-- All capacities that there are to be counted fit in 64 bits. -/
abbrev InRange (i : Inventory) (old : NodeMap Deployment) (ds : List (NodeId × Deployment)) : Prop :=
  OnKnown i old Countable ds

/-! ### From one deployment to all of them -/

section OnKnown

variable {P : NodeInfo → Option Deployment → Deployment → Prop}

theorem onKnown_nil : OnKnown i old P [] := fun _ _ _ h => absurd h List.not_mem_nil

theorem onKnown_cons : OnKnown i old P ((n, d) :: ds) ↔
    (∀ info, i.node n = .ok info → P info old[n]? d) ∧ OnKnown i old P ds := by
  constructor
  · exact fun h => ⟨fun info => h n d info List.mem_cons_self,
      fun n d info hmem => h n d info (List.mem_cons_of_mem _ hmem)⟩
  · rintro ⟨hfirst, hrest⟩ n' d' info (_ | ⟨_, hmem⟩)
    · exact hfirst info
    · exact hrest n' d' info hmem

theorem OnKnown.of_append (h : OnKnown i old P (ds ++ ds')) : OnKnown i old P ds :=
  fun n d info hmem => h n d info (List.mem_append_left _ hmem)

theorem OnKnown.of_middle (h : OnKnown i old P (done ++ (n, d) :: ds)) (hnode : i.node n = .ok info) : P info old[n]? d :=
  h n d info (List.mem_append_right _ List.mem_cons_self) hnode

theorem OnKnown.snoc (h : OnKnown i old P done) (hlast : ∀ info, i.node n = .ok info → P info old[n]? d) :
    OnKnown i old P (done ++ [(n, d)]) := by
  intro n' d' info hmem hnode
  rcases List.mem_append.mp hmem with hmem | hmem
  · exact h n' d' info hmem hnode
  · cases List.mem_singleton.mp hmem
    exact hlast info hnode

end OnKnown

theorem feasible_nil : Feasible i old [] := ⟨onKnown_nil, fun _ _ _ => Nat.zero_le _, onKnown_nil⟩

/-- The first of deployments that fit together fit by themselves. -/
theorem Feasible.of_append (h : Feasible i old (ds ++ ds')) : Feasible i old ds := by
  refine ⟨h.suits.of_append, fun id farm hfarm => ?_, h.room.of_append⟩
  have hle := h.addresses id farm hfarm
  rw [i.addressesOn_append] at hle
  omega

/-- Each of them is cleared after those that come before it. -/
theorem Feasible.cleared (h : Feasible i old (done ++ (n, d) :: ds)) (hnode : i.node n = .ok info) :
    Cleared i old done n d info := by
  refine ⟨h.suits.of_middle hnode, ?_⟩
  rw [List.append_cons] at h
  exact h.of_append.addresses info.farmId

/-- A deployment that passes fits in with those that came before it. -/
theorem Feasible.snoc (h : Feasible i old done) (hpasses : Passes i old done n d) : Feasible i old (done ++ [(n, d)]) := by
  refine ⟨h.suits.snoc fun info hnode => (hpasses info hnode).1.suits, fun id farm hfarm => ?_,
    h.room.snoc fun info hnode => (hpasses info hnode).2.2⟩
  have hbefore := h.addresses id farm hfarm
  rw [i.addressesOn_append]
  by_cases hknown : i.Knows n
  · obtain ⟨info, hnode⟩ := hknown
    rw [Inventory.addressesOn_of_known hnode]
    -- only the farm of its node has fewer addresses left
    split
    next hid =>
      subst hid
      have hle := (hpasses info hnode).1.addresses farm hfarm
      rw [i.addressesOn_append, Inventory.addressesOn_of_known hnode, if_pos rfl] at hle
      exact hle
    next => exact hbefore
  · rw [Inventory.addressesOn_of_unknown hknown]
    exact hbefore

/-! ### How the check ends -/

/-- A check that does not end in a fault tells whether the deployments are feasible. -/
theorem Ends.eq_ok_iff (h : Ends i old done ds r) (hdone : Feasible i old done) {v : Except FeasibilityError Unit}
    (hr : r = .ok v) : v = .ok () ↔ Feasible i old (done ++ ds) := by
  induction h with
  | accepted =>
    cases hr
    rw [List.append_nil]
    exact iff_of_true rfl hdone
  | passed hpasses _ ih =>
    rw [List.append_cons]
    exact ih (hdone.snoc hpasses) hr
  | refused hnode hfails =>
    cases hr
    refine iff_of_false (fun h => by cases h) fun hfeasible => ?_
    rcases hfails with hcleared | ⟨-, hroom⟩
    · exact hcleared (hfeasible.cleared hnode)
    · exact hroom (hfeasible.room.of_middle hnode)
  | halted => cases hr

theorem Ends.exists_of_inRange (h : Ends i old done ds r) (hrange : InRange i old ds) : ∃ v, r = .ok v := by
  induction h with
  | accepted => exact ⟨_, rfl⟩
  | passed _ _ ih => exact ih (onKnown_cons.mp hrange).2
  | refused => exact ⟨_, rfl⟩
  | halted hnode _ hoverflows => exact absurd hoverflows ((onKnown_cons.mp hrange).1 _ hnode _)

/-- A fault ends the check at the first deployment whose capacity cannot be counted, if all that is checked before passes. -/
inductive Halts (i : Inventory) (old : NodeMap Deployment) (ds : List (NodeId × Deployment)) (fault : Fault) : Prop where
  | found {before after : List (NodeId × Deployment)} {n : NodeId} {d : Deployment} {info : NodeInfo}
    (split : ds = before ++ (n, d) :: after) (feasible : Feasible i old before) (inRange : InRange i old before)
    (node : i.node n = .ok info) (cleared : Cleared i old before n d info) (overflows : Overflows info old[n]? d fault)

theorem Ends.halts (h : Ends i old done ds r) (hdone : Feasible i old done) (hrange : InRange i old done)
    (hr : r = .error fault) : Halts i old (done ++ ds) fault := by
  induction h with
  | accepted => cases hr
  | passed hpasses _ ih =>
    rw [List.append_cons]
    exact ih (hdone.snoc hpasses) (hrange.snoc fun info hnode => (hpasses info hnode).2.1) hr
  | refused => cases hr
  | halted hnode hcleared hoverflows =>
    cases hr
    exact .found rfl hdone hrange hnode hcleared hoverflows

/-- The check goes on as far as the deployments pass, and no fault but the one that is found there can end it. -/
theorem Ends.eq_error {before after : List (NodeId × Deployment)} (h : Ends i old done (before ++ (n, d) :: after) r)
    (hfeasible : Feasible i old (done ++ before)) (hrange : InRange i old before) (hnode : i.node n = .ok info)
    (hcleared : Cleared i old (done ++ before) n d info) (hoverflows : Overflows info old[n]? d fault) :
    r = .error fault := by
  induction before generalizing done with
  | nil =>
    rw [List.append_nil] at hcleared
    cases h with
    | passed hpasses => exact absurd hoverflows ((hpasses info hnode).2.1 fault)
    | refused hnode' hfails =>
      cases hnode'.symm.trans hnode
      rcases hfails with hnot | ⟨hcountable, -⟩
      · exact absurd hcleared hnot
      · exact absurd hoverflows (hcountable fault)
    | halted hnode' _ hoverflows' =>
      cases hnode'.symm.trans hnode
      rw [hoverflows.eq hoverflows']
  | cons x before ih =>
    obtain ⟨hfirst, hrest⟩ := onKnown_cons.mp hrange
    cases h with
    | passed _ hends =>
      rw [List.append_cons] at hfeasible hcleared
      exact ih hends hfeasible hrest hcleared
    | refused hnode' hfails =>
      rcases hfails with hnot | ⟨-, hnot⟩
      · exact absurd (hfeasible.cleared hnode') hnot
      · exact absurd (hfeasible.room.of_middle hnode') hnot
    | halted hnode' _ hoverflows' => exact absurd hoverflows' (hfirst _ hnode' _)

end Feasibility

namespace Inventory

open Feasibility

theorem feasible_of_checkFeasible (h : i.checkFeasible old new = .ok (.ok ())) : Feasible i old new.toList :=
  ((ends_of_checkFeasible i old new).eq_ok_iff feasible_nil h).mp rfl

/-- What is found feasible asks for no more public addresses, on a node that the inventory knows, than what it replaces. -/
theorem count_le_of_checkFeasible {before : Deployment} (h : i.checkFeasible old new = .ok (.ok ())) (hknows : i.Knows n)
    (hold : old[n]? = some before) (hnew : new[n]? = some d) : d.publicIpv4Count ≤ before.publicIpv4Count := by
  obtain ⟨info, hnode⟩ := hknows
  have hmem : (n, d) ∈ new.toList := ExtTreeMap.mem_toList_iff_getElem?_eq_some.mpr hnew
  exact ((feasible_of_checkFeasible h).suits n d info hmem hnode).increase before hold

/-- What is feasible is accepted and nothing else, where the check does not end in a fault; it ends in none as long as all
capacities are in range.  An inventory that is offline lets everything pass. -/
theorem checkFeasible_accepts_iff (i : Inventory) (old new : NodeMap Deployment) :
    (InRange i old new.toList → ∃ v, i.checkFeasible old new = .ok v) ∧
      (∀ v, i.checkFeasible old new = .ok v → (v = .ok () ↔ Feasible i old new.toList)) ∧
      (i.online = false → i.checkFeasible old new = .ok (.ok ())) := by
  have hends := ends_of_checkFeasible i old new
  refine ⟨hends.exists_of_inRange, fun v hv => hends.eq_ok_iff feasible_nil hv, fun hoffline => ?_⟩
  exact checkFeasible_of_unknown fun n _ => not_knows_of_offline hoffline n

/-- Nodes 1 and 2 of the sample inventory, with a domain and half of their SSD storage in use. -/
def sampleNode (n : NodeId) : NodeInfo where
  nodeId := n
  farmId := 1
  twinId := n.toNat.toUInt32
  total := ⟨4, 0x200000000, 0x10000000000, 0⟩
  used := ⟨1, 0x40000000, 0x8000000000, 0⟩
  publicConfig := some { PublicConfig.empty with domain := some "gateway.example" }
  online := true

/-- An inventory that knows of two nodes and their farm, which has an address that is free. -/
def sample : Inventory where
  nodes := (single 1 (sampleNode 1)).insert 2 (sampleNode 2)
  farms := single 1 ⟨1, "farm", [⟨default, default, 0⟩]⟩
  online := true

/-- A deployment of a public address, a gateway and two disks of some size. -/
def addressedDisks (size : UInt64) : Deployment :=
  .new 1 [.new "ip" (.publicIp ⟨true, false⟩), .new "gateway" (.nameGateway ⟨"name", false, []⟩),
    .new "a" (.disk ⟨size⟩), .new "b" (.disk ⟨size⟩)]

/-- What runs on node 1. -/
def sampleOld : NodeMap Deployment := single 1 (addressedDisks 0x1000000000)

/-- What is wanted: the address that is left is for node 2, and node 7, of which nothing is known, is asked for more than can
be counted. -/
def sampleNew : NodeMap Deployment :=
  ((single 1 (addressedDisks 0xd000000000)).insert 2 (addressedDisks 0xc000000000)).insert 7
    (addressedDisks 0xffffffffffffffff)

theorem onKnown_sample {P : NodeInfo → Option Deployment → Deployment → Prop}
    (hfirst : P (sampleNode 1) (some (addressedDisks 0x1000000000)) (addressedDisks 0xd000000000))
    (hsecond : P (sampleNode 2) none (addressedDisks 0xc000000000)) : OnKnown sample sampleOld P sampleNew.toList := by
  refine onKnown_cons.mpr ⟨fun info hnode => ?_, onKnown_cons.mpr ⟨fun info hnode => ?_, onKnown_cons.mpr
    ⟨fun info hnode => ?_, onKnown_nil⟩⟩⟩
  · cases hnode
    exact hfirst
  · cases hnode
    exact hsecond
  · cases hnode

theorem inRange_sample : InRange sample sampleOld sampleNew.toList := by
  refine onKnown_sample (countable_iff.mpr ⟨by decide, fun r => ?_⟩) (countable_iff.mpr ⟨by decide, fun r => ?_⟩)
  · cases r <;> decide
  · cases r <;> decide

theorem feasible_sample : Feasible sample sampleOld sampleNew.toList := by
  refine ⟨onKnown_sample ⟨?_, by decide, by decide⟩ ⟨?_, by decide, by decide⟩, fun id farm hfarm => ?_,
    onKnown_sample (fun r => ?_) fun r => ?_⟩
  · rintro before ⟨⟩
    decide
  · rintro before ⟨⟩
  · obtain ⟨rfl, k, hk⟩ := mem_farms_of_farm? hfarm
    obtain ⟨-, rfl⟩ := getElem?_single_eq_some hk
    decide
  · cases r <;> decide
  · cases r <;> decide

theorem checkFeasible_accepts_sample :
    (∃ v, sample.checkFeasible sampleOld sampleNew = .ok v ∧ v = .ok ()) ∧
      { sample with online := false }.checkFeasible sampleOld sampleNew = .ok (.ok ()) := by
  obtain ⟨hends, hdecides, -⟩ := checkFeasible_accepts_iff sample sampleOld sampleNew
  obtain ⟨-, -, hoffline⟩ := checkFeasible_accepts_iff { sample with online := false } sampleOld sampleNew
  obtain ⟨v, hv⟩ := hends inRange_sample
  exact ⟨⟨v, hv, (hdecides v hv).mpr feasible_sample⟩, hoffline rfl⟩

/-- The check is not total: it ends in a fault just where it comes to a deployment whose capacity cannot be counted. -/
theorem checkFeasible_halts_iff (i : Inventory) (old new : NodeMap Deployment) :
    (∀ fault, i.checkFeasible old new = .error fault ↔ Halts i old new.toList fault) ∧
      ((∃ v, i.checkFeasible old new = .ok v) ↔ ∀ fault, ¬ Halts i old new.toList fault) := by
  have hends := ends_of_checkFeasible i old new
  have hfault : ∀ fault, i.checkFeasible old new = .error fault ↔ Halts i old new.toList fault := by
    intro fault
    constructor
    · exact hends.halts feasible_nil onKnown_nil
    · rintro ⟨hsplit, hfeasible, hrange, hnode, hcleared, hoverflows⟩
      rw [hsplit] at hends
      exact hends.eq_error hfeasible hrange hnode hcleared hoverflows
  refine ⟨hfault, ?_⟩
  simp only [← hfault]
  rcases i.checkFeasible old new with fault | v
  · exact iff_of_false (by rintro ⟨_, ⟨⟩⟩) fun h => h fault rfl
  · exact iff_of_true ⟨v, rfl⟩ fun _ h => by cases h

/-- A node of 2^63 bytes of SSD storage, and any deployment. -/
example : (empty.insertNode { sampleNode 1 with total := ⟨4, 0, 0x8000000000000000, 0⟩ }).checkFeasible ∅
    (single 1 (addressedDisks 1)) = .error .product := rfl

end Inventory

end ComputeGrid
