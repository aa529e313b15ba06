import ComputeGrid.Feasibility
import ComputeGrid.Proofs.Maps

/-!
# What an inventory knows

Deployments are checked as far as the inventory knows their nodes (`Inventory.Knows`, `Inventory.getElem?_resolve`).  Of other
nodes nothing is made sure at all (`Inventory.checkFeasible_of_unknown`), and an inventory that is offline knows none.
-/

namespace ComputeGrid

open Std (ExtTreeMap)

variable {i : Inventory} {infos : NodeMap NodeInfo} {old new : NodeMap Deployment}

namespace Inventory

/-- The inventory knows the node, and is online to tell. -/
def Knows (i : Inventory) (n : NodeId) : Prop := ∃ info, i.node n = .ok info

theorem getElem?_resolve (i : Inventory) (nodes : List NodeId) (n : NodeId) :
    (i.resolve nodes)[n]? = if n ∈ nodes then (i.node n).toOption else none := by
  rw [resolve, getElem?_foldl_enter id fun n => (i.node n).toOption, ExtTreeMap.getElem?_empty,
    Option.or_none, List.map_id]
  intro m node
  rcases hnode : i.node node with e | info <;> simp [hnode, Except.toOption]

theorem not_knows_of_offline (h : i.online = false) (n : NodeId) : ¬ i.Knows n := by
  rintro ⟨info, hnode⟩
  rw [node, h] at hnode
  cases hnode

end Inventory

namespace Feasibility

/-- On nodes that are not known there is nothing to check. -/
theorem checkEach_of_unknown {free : FreeAddresses} {ds : List (NodeId × Deployment)}
    (hunknown : ∀ x ∈ ds, infos[x.1]? = none) : checkEach infos old free ds = .ok (.ok ()) := by
  induction ds with
  | nil => rfl
  | cons x rest ih =>
    rw [checkEach, hunknown x List.mem_cons_self]
    exact ih fun y hy => hunknown y (List.mem_cons_of_mem x hy)

end Feasibility

/-- Whatever is wanted on nodes that the inventory does not know is feasible. -/
theorem Inventory.checkFeasible_of_unknown (hunknown : ∀ n ∈ new, ¬ i.Knows n) :
    i.checkFeasible old new = .ok (.ok ()) := by
  refine Feasibility.checkEach_of_unknown fun x hx => ?_
  have hmem : x.1 ∈ new := mem_iff_exists_getElem?.mpr ⟨x.2, ExtTreeMap.mem_toList_iff_getElem?_eq_some.mp hx⟩
  rw [getElem?_resolve]
  split
  · rcases hnode : i.node x.1 with e | info
    · rfl
    · exact absurd ⟨info, hnode⟩ (hunknown x.1 hmem)
  · rfl

end ComputeGrid
