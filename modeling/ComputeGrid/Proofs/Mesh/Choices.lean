import ComputeGrid.Proofs.Maps
import ComputeGrid.Proofs.Mesh.Passes
import ComputeGrid.Proofs.Mesh.Subnets

/-!
# What members are given

Of the participants of a pass each one that keeps something has it in the end (`Chooses.of_kept`), and every other one is
given a subnet that was free (`Chooses.of_new`), two of them never the same (`Chooses.apart`).
-/

namespace ComputeGrid.Planner

variable {p : Planner} {chance : Chance} {previous : Mesh} {range : Ipv4Network} {s : Subnets}
  {chosen : Std.ExtTreeSet UInt16} {members result : NodeMap Member} {nodes : List NodeId} {node other : NodeId}
  {m m' : Member}

/-- Of two nodes only one of which keeps something neither is the other. -/
theorem ne_of_kept (hm : kept previous node = some m) (hnew : kept previous other = none) : node ≠ other := by
  rintro rfl
  rw [hm] at hnew
  cases hnew

namespace Chooses

theorem elsewhere (h : Chooses p chance previous s chosen members nodes result) (hnode : node ∉ nodes) :
    result[node]? = members[node]? := by
  induction h with
  | done => rfl
  | keep _ _ ih =>
    rw [List.mem_cons, not_or] at hnode
    rw [ih hnode.2, getElem?_insert_of_ne hnode.1]
  | join _ _ _ _ ih =>
    rw [List.mem_cons, not_or] at hnode
    rw [ih hnode.2, getElem?_insert_of_ne hnode.1]

/-- What holds of every member that keeps something or joins holds of all. -/
theorem forall_members {P : Member → Prop} (h : Chooses p chance previous s chosen members nodes result)
    (hkept : ∀ node m, kept previous node = some m → P m)
    (hnew : ∀ node subnet chosen m t t', p.newMember chance node subnet chosen t = .ok (.ok m, t') → P m)
    (hmembers : ∀ (node : NodeId) m, members[node]? = some m → P m) :
    ∀ (node : NodeId) m, result[node]? = some m → P m := by
  induction h with
  | done => exact hmembers
  | keep hk _ ih =>
    refine ih fun node m hm => ?_
    rcases getElem?_insert_eq_some hm with ⟨-, rfl⟩ | ⟨-, hm⟩
    · exact hkept _ _ hk
    · exact hmembers node m hm
  | join _ _ hrun _ ih =>
    refine ih fun node m hm => ?_
    rcases getElem?_insert_eq_some hm with ⟨-, rfl⟩ | ⟨-, hm⟩
    · exact hnew _ _ _ _ _ _ hrun
    · exact hmembers node m hm

/-- A node that is chosen keeps what it keeps. -/
theorem of_kept (h : Chooses p chance previous s chosen members nodes result) (hnode : node ∈ nodes)
    (hm : kept previous node = some m) : result[node]? = some m := by
  induction h with
  | done => cases hnode
  | @keep s chosen members first k rest result hk hrest ih =>
    by_cases hin : node ∈ rest
    · exact ih hin
    · have heq : node = first := (List.mem_cons.1 hnode).resolve_right hin
      subst heq
      rw [hrest.elsewhere hin, Std.ExtTreeMap.getElem?_insert_self, ← hk, hm]
  | @join s s' chosen members first subnet k rest result t t' hk _ _ _ ih =>
    exact ih ((List.mem_cons.1 hnode).resolve_left (ne_of_kept hm hk))

/-- A node that joins is given a subnet that was free. -/
theorem of_new (h : Chooses p chance previous s chosen members nodes result) (hs : s.Over range) (hnode : node ∈ nodes)
    (hm : kept previous node = none) : ∃ m, result[node]? = some m ∧ s.Free m.subnet := by
  induction h with
  | done => cases hnode
  | @keep s chosen members first k rest result hk _ ih =>
    exact ih hs ((List.mem_cons.1 hnode).resolve_left (ne_of_kept hk hm).symm)
  | @join s s' chosen members first subnet k rest result t t' _ hsubnet hrun hrest ih =>
    obtain ⟨hover, hfree, hlater⟩ := Subnets.free_of_allocate hs hsubnet
    by_cases hin : node ∈ rest
    · obtain ⟨m, hresult, hm⟩ := ih hover hin
      exact ⟨m, hresult, (hlater _ hm).1⟩
    · have heq : node = first := (List.mem_cons.1 hnode).resolve_right hin
      subst heq
      obtain ⟨port, rfl⟩ := newMember_eq_ok hrun
      exact ⟨_, by rw [hrest.elsewhere hin, Std.ExtTreeMap.getElem?_insert_self], hfree⟩

/-- Whoever takes part is a member in the end. -/
theorem mem_iff (h : Chooses p chance previous s chosen ∅ nodes result) (hs : s.Over range) :
    node ∈ result ↔ node ∈ nodes := by
  rw [mem_iff_exists_getElem?]
  by_cases hnode : node ∈ nodes
  · refine iff_of_true ?_ hnode
    cases hkept : kept previous node with
    | some m => exact ⟨m, h.of_kept hnode hkept⟩
    | none =>
      obtain ⟨m, hm, -⟩ := h.of_new hs hnode hkept
      exact ⟨m, hm⟩
  · refine iff_of_false ?_ hnode
    rw [h.elsewhere hnode, Std.ExtTreeMap.getElem?_empty]
    exact nofun

/-- Everyone's subnet is in the range, whether it was kept or is new. -/
theorem contains (h : Chooses p chance previous s chosen ∅ nodes result) (hs : s.Over previous.range)
    (hm : result[node]? = some m) : previous.range.contains m.subnet = true := by
  have hnode : node ∈ nodes := (h.mem_iff hs).1 (mem_iff_exists_getElem?.2 ⟨m, hm⟩)
  cases hkept : kept previous node with
  | some k =>
    rw [h.of_kept hnode hkept] at hm
    cases hm
    exact (Option.filter_eq_some_iff.1 hkept).2
  | none =>
    obtain ⟨k, hk, hfree⟩ := h.of_new hs hnode hkept
    rw [hk] at hm
    cases hm
    exact (hfree.slot hs).within

/-- Two nodes that join are given different subnets. -/
theorem apart (h : Chooses p chance previous s chosen members nodes result) (hs : s.Over range) (hne : node ≠ other)
    (hnode : node ∈ nodes) (hother : other ∈ nodes) (hk : kept previous node = none) (hk' : kept previous other = none)
    (hm : result[node]? = some m) (hm' : result[other]? = some m') : m.subnet.thirdOctet ≠ m'.subnet.thirdOctet := by
  induction h with
  | done => cases hnode
  | @keep s chosen members first k rest result hkeep _ ih =>
    have hnode' : node ∈ rest := (List.mem_cons.1 hnode).resolve_left (ne_of_kept hkeep hk).symm
    have hother' : other ∈ rest := (List.mem_cons.1 hother).resolve_left (ne_of_kept hkeep hk').symm
    exact ih hs hnode' hother' hm hm'
  | @join s s' chosen members first subnet k rest result t t' _ hsubnet hrun hrest ih =>
    obtain ⟨hover, -, hlater⟩ := Subnets.free_of_allocate hs hsubnet
    obtain ⟨port, rfl⟩ := newMember_eq_ok hrun
    -- a node that does not come again has the subnet that was handed out, one that does has a later one
    have hfirst {a : NodeId} {k : Member} (ha : a ∈ first :: rest) (hin : a ∉ rest) (hk : result[a]? = some k) :
        a = first ∧ k.subnet = subnet := by
      have heq : a = first := (List.mem_cons.1 ha).resolve_right hin
      subst heq
      rw [hrest.elsewhere hin, Std.ExtTreeMap.getElem?_insert_self] at hk
      exact ⟨rfl, by rw [← Option.some.inj hk]⟩
    have hrest {a : NodeId} {k : Member} (hin : a ∈ rest) (hnew : kept previous a = none) (hk : result[a]? = some k) :
        k.subnet.thirdOctet ≠ subnet.thirdOctet := by
      obtain ⟨k', hk', hfree⟩ := hrest.of_new hover hin hnew
      rw [hk] at hk'
      cases hk'
      exact (hlater _ hfree).2
    by_cases hin : node ∈ rest
    · by_cases hin' : other ∈ rest
      · exact ih hover hin hin' hm hm'
      · rw [(hfirst hother hin' hm').2]
        exact hrest hin hk hm
    · obtain ⟨heq, hsub⟩ := hfirst hnode hin hm
      by_cases hin' : other ∈ rest
      · rw [hsub]
        exact (hrest hin' hk' hm').symm
      · exact absurd (heq.trans (hfirst hother hin' hm').1.symm) hne

end Chooses

end ComputeGrid.Planner
