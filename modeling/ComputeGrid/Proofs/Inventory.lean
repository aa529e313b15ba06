import ComputeGrid.Inventory.Store
import ComputeGrid.Proofs.Maps
import Mathlib.Data.List.Find

/-!
# Nodes that an inventory gives

Nodes are entered under their own numbers, so an inventory is `Inventory.Indexed`.  Then the node that it gives is the
first of its `Inventory.candidates` (`Inventory.Indexed.pickPublicNode_eq`), and the nodes that it gives one after another
(`Inventory.picks`) are the first of them (`Inventory.Indexed.picks_eq`).
-/

namespace ComputeGrid.Inventory

variable {i : Inventory} {node : NodeId} {rest exclude : List NodeId}

/-- The nodes that an inventory gives one after another, each of them excluded from then on. -/
def picks (i : Inventory) : (tries : Nat) → (exclude : List NodeId) → List NodeId
  | 0, _ => []
  | tries + 1, exclude =>
    match i.pickPublicNode exclude with
    | .ok node => node :: i.picks tries (exclude ++ [node])
    | .error _ => []

/-- No node that is excluded is given. -/
theorem not_mem_of_pickPublicNode (h : i.pickPublicNode exclude = .ok node) : node ∉ exclude := by
  unfold pickPublicNode at h
  split at h
  · cases h
  · split at h
    next info hfind =>
      cases h
      have hinfo := List.find?_some hfind
      simp only [Bool.and_eq_true, Bool.not_eq_true', List.contains_eq_mem, decide_eq_false_iff_not] at hinfo
      exact hinfo.1.2
    · cases h

/-! ### Numbers of nodes -/

/-- Every node stands under its own number. -/
def Indexed (i : Inventory) : Prop := ∀ (node : NodeId) info, i.nodes[node]? = some info → info.nodeId = node

theorem indexed_empty : empty.Indexed := by
  intro node info h
  rw [empty, Std.ExtTreeMap.getElem?_empty] at h
  cases h

theorem Indexed.insertNode (h : i.Indexed) (info : NodeInfo) : (i.insertNode info).Indexed := by
  intro node info' hinfo
  rcases getElem?_insert_eq_some hinfo with ⟨rfl, rfl⟩ | ⟨-, hinfo⟩
  · rfl
  · exact h node info' hinfo

theorem Indexed.eraseNode (h : i.Indexed) (node : NodeId) : (i.eraseNode node).Indexed := fun other info hinfo =>
  h other info (getElem?_erase_eq_some hinfo).2

theorem Indexed.insertFarm (h : i.Indexed) (farm : Farm) : (i.insertFarm farm).Indexed := h

/-! ### Candidates -/

/-- Whether a node is online and has a public IPv4 network. -/
def isPublic (i : Inventory) (node : NodeId) : Bool := i.nodes[node]?.any fun info => info.online && info.hasIpv4

/-- The online nodes with a public IPv4 network that are not excluded, in order. -/
def candidates (i : Inventory) (exclude : List NodeId) : List NodeId :=
  i.nodes.keys.filter fun node => i.isPublic node && !exclude.contains node

theorem mem_candidates : node ∈ i.candidates exclude ↔ i.isPublic node = true ∧ node ∉ exclude := by
  rw [candidates, List.mem_filter, Std.ExtTreeMap.mem_keys, Bool.and_eq_true, Bool.not_eq_true', List.contains_eq_mem,
    decide_eq_false_iff_not, and_iff_right_iff_imp]
  rintro ⟨hpublic, -⟩
  obtain ⟨info, hinfo, -⟩ := (Option.any_eq_true _ _).1 hpublic
  exact mem_iff_exists_getElem?.2 ⟨info, hinfo⟩

/-- Candidates are listed by their numbers. -/
theorem pairwise_candidates : (i.candidates exclude).Pairwise (· < ·) := (pairwise_keys i.nodes).filter _

/-- A first candidate that is excluded makes way for the others. -/
theorem candidates_snoc (h : i.candidates exclude = node :: rest) : i.candidates (exclude ++ [node]) = rest := by
  have hsplit : i.candidates (exclude ++ [node]) = (i.candidates exclude).filter fun other => other ≠ node := by
    rw [candidates, candidates, List.filter_filter]
    refine List.filter_congr fun other _ => ?_
    simp [List.contains_eq_mem, Bool.and_comm, Bool.and_assoc]
  -- the candidates are in order, so the first one comes no second time
  have hlater : ∀ other ∈ rest, other ≠ node := by
    have hordered : (i.candidates exclude).Pairwise (· < ·) := pairwise_candidates
    rw [h, List.pairwise_cons] at hordered
    exact fun other hother => (UInt32.ne_of_lt (hordered.1 other hother)).symm
  rw [hsplit, h, List.filter_cons, if_neg (by simp)]
  exact List.filter_eq_self.2 fun other hother => decide_eq_true (hlater other hother)

/-- The node that is given is the first candidate. -/
theorem Indexed.pickPublicNode_eq (h : i.Indexed) (honline : i.online = true) (exclude : List NodeId) :
    i.pickPublicNode exclude =
      match (i.candidates exclude).head? with
      | some node => .ok node
      | none => .error .noPublicNode := by
  have hentries : ∀ entry ∈ i.nodes.toList,
      (i.isPublic entry.1 && !exclude.contains entry.1) =
        (entry.2.online && !exclude.contains entry.2.nodeId && entry.2.hasIpv4) := by
    rintro ⟨node, info⟩ hentry
    have hinfo : i.nodes[node]? = some info := Std.ExtTreeMap.mem_toList_iff_getElem?_eq_some.1 hentry
    rw [isPublic, hinfo, Option.any_some, h node info hinfo]
    exact Bool.and_right_comm _ _ _
  have hfirst : (i.candidates exclude).head? = (i.nodes.toList.find? fun entry =>
      entry.2.online && !exclude.contains entry.2.nodeId && entry.2.hasIpv4).map Prod.fst := by
    rw [candidates, List.head?_filter, ← Std.ExtTreeMap.map_fst_toList_eq_keys, List.find?_map]
    exact congrArg (Option.map Prod.fst) (List.find?_congr hentries)
  rw [pickPublicNode, honline, hfirst, if_neg (by decide)]
  cases hfind : i.nodes.toList.find? fun entry =>
      entry.2.online && !exclude.contains entry.2.nodeId && entry.2.hasIpv4 with
  | none => rfl
  | some entry =>
    -- the entry stands under the number of its node
    have hnumber : entry.2.nodeId = entry.1 := by
      refine h entry.1 entry.2 (Std.ExtTreeMap.mem_toList_iff_getElem?_eq_some.1 ?_)
      exact List.mem_of_find?_eq_some hfind
    exact congrArg Except.ok hnumber

theorem Indexed.picks_eq (h : i.Indexed) (honline : i.online = true) (tries : Nat) (exclude : List NodeId) :
    i.picks tries exclude = (i.candidates exclude).take tries := by
  induction tries generalizing exclude with
  | zero => rw [picks, List.take_zero]
  | succ tries ih =>
    rw [picks, h.pickPublicNode_eq honline]
    cases hcandidates : i.candidates exclude with
    | nil => rfl
    | cons node rest =>
      rw [List.head?_cons, List.take_succ_cons, ← candidates_snoc hcandidates]
      exact congrArg (node :: ·) (ih (exclude ++ [node]))

theorem picks_of_offline (hoffline : i.online = false) (tries : Nat) (exclude : List NodeId) :
    i.picks tries exclude = [] := by
  cases tries with
  | zero => rfl
  | succ tries =>
    rw [picks, pickPublicNode, hoffline]
    rfl

end ComputeGrid.Inventory
