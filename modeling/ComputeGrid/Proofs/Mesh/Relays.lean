import ComputeGrid.Proofs.Inventory
import ComputeGrid.Proofs.Mesh.Passes
import ComputeGrid.Proofs.Maps
import ComputeGrid.Proofs.Mesh.Probing

/-!
# The relay that is chosen

A survey asks the targets and no other nodes (`mem_survey`).  The relay of a pass has a public IPv4 address, and the search
for it changes nothing of what the survey has found about the targets (`Relays`): neither the previous relay, nor a target,
nor a node of the inventory, which is no target (`findRelay_eq_ok`).
-/

namespace ComputeGrid.Planner

variable {p : Planner} {t t' : Timeline Grid} {found reach : NodeMap Reachability}

/-- A survey asks every node and no other. -/
theorem mem_survey {nodes : List NodeId} (h : p.survey nodes t = .ok (found, t')) (node : NodeId) :
    node ∈ found ↔ node ∈ nodes := by
  induction nodes generalizing found t t' with
  | nil =>
    rw [survey, Timed.pure_eq_ok] at h
    cases h
    simp
  | cons first rest ih =>
    rw [survey, Timed.bind_eq_ok] at h
    obtain ⟨r, t₁, -, h⟩ := h
    rw [Timed.bind_eq_ok] at h
    obtain ⟨others, t₂, hrest, h⟩ := h
    rw [Timed.pure_eq_ok] at h
    cases h
    rw [Std.ExtTreeMap.mem_insert, Std.compare_eq_iff_eq, ih hrest, List.mem_cons, eq_comm]

/-- Some node is hidden if it is known to be. -/
theorem any_isHidden_iff : found.values.any (·.isHidden) = true ↔ ∃ node : NodeId, found[node]? = some .hidden := by
  rw [← map_snd_toList, List.any_map, List.any_eq_true]
  constructor
  · rintro ⟨⟨node, r⟩, hentry, hhidden⟩
    cases r with
    | ipv4 address => cases hhidden
    | ipv6 address => cases hhidden
    | hidden => exact ⟨node, Std.ExtTreeMap.mem_toList_iff_getElem?_eq_some.1 hentry⟩
  · rintro ⟨node, hnode⟩
    exact ⟨(node, .hidden), Std.ExtTreeMap.mem_toList_iff_getElem?_eq_some.2 hnode, rfl⟩

/-- A relay of the inventory is none of the nodes that are excluded, and is entered with what its probe has found. -/
theorem findRelay_eq_ok {inventory : Inventory} {tries : Nat} {exclude : List NodeId} {relay : NodeId}
    (h : p.findRelay inventory found tries exclude t = .ok (.ok (relay, reach), t')) :
    relay ∉ exclude ∧ (t.state.reachability relay p.probeTimeout).isIpv4 = true ∧
      reach = found.insert relay (t.state.reachability relay p.probeTimeout) := by
  induction tries generalizing exclude t with
  | zero => exact absurd h throw_ne_ok
  | succ tries ih =>
    rw [findRelay] at h
    cases hpick : inventory.pickPublicNode exclude with
    | error cause =>
      rw [hpick] at h
      cases cause with
      | noPublicNode => exact absurd h throw_ne_ok
      | nodeNotFound node => exact absurd h throw_ne_ok
      | offline => exact absurd h throw_ne_ok
    | ok candidate =>
      rw [hpick, bind_eq_ok] at h
      obtain ⟨r, t₁, hr, h⟩ := h
      obtain ⟨rfl, hprobed⟩ := Reachability.eq_of_probe (liftTimed_eq_ok.1 hr)
      split at h
      next hipv4 =>
        obtain ⟨heq, rfl⟩ := pure_eq_ok.1 h
        cases heq
        exact ⟨Inventory.not_mem_of_pickPublicNode hpick, hipv4, rfl⟩
      next =>
        obtain ⟨hexclude, hrest⟩ := ih h
        rw [hprobed.reachability] at hrest
        exact ⟨fun hmem => hexclude (List.mem_append_left _ hmem), hrest⟩

/-- A relay has a public IPv4 address, and looking for it has changed nothing of what is known about the targets. -/
structure Relays (targets : List NodeId) (found reach : NodeMap Reachability) (relay : NodeId) : Prop where
  ipv4 : ∃ r : Reachability, reach[relay]? = some r ∧ r.isIpv4 = true
  targets : ∀ node ∈ targets, reach[node]? = found[node]?

/-- A relay that is entered anew was no target, or is entered as it was known. -/
theorem relays_insert {targets : List NodeId} {relay : NodeId} {r : Reachability} (hr : r.isIpv4 = true)
    (h : relay ∈ targets → found[relay]? = some r) : Relays targets found (found.insert relay r) relay := by
  refine ⟨⟨r, Std.ExtTreeMap.getElem?_insert_self, hr⟩, fun node hnode => ?_⟩
  by_cases heq : node = relay
  · subst heq
    rw [Std.ExtTreeMap.getElem?_insert_self, h hnode]
  · exact getElem?_insert_of_ne heq

theorem keepRelay_eq_ok {previous : Option NodeId} {targets : List NodeId} {relay : NodeId}
    (hfound : ∀ node ∈ targets, node ∈ found)
    (h : p.keepRelay previous found t = .ok (some (relay, reach), t')) : Relays targets found reach relay := by
  unfold keepRelay at h
  cases previous with
  | none => cases h
  | some before =>
    have hkept {r : Reachability} (hr : before ∈ targets → found[before]? = some r)
        (h : (if r.isIpv4 then some (before, found.insert before r) else none) = some (relay, reach)) :
        Relays targets found reach relay := by
      split at h
      next hipv4 =>
        cases h
        exact relays_insert hipv4 hr
      · cases h
    dsimp only at h
    cases hbefore : found[before]? with
    | some r =>
      rw [hbefore] at h
      dsimp only at h
      rw [Timed.bind_eq_ok] at h
      obtain ⟨_, t₁, hpure, h⟩ := h
      rw [Timed.pure_eq_ok] at hpure h
      cases hpure
      exact hkept (fun _ => hbefore) (Prod.mk.inj h).1.symm
    | none =>
      rw [hbefore] at h
      dsimp only at h
      rw [Timed.bind_eq_ok] at h
      obtain ⟨r, t₁, -, h⟩ := h
      rw [Timed.pure_eq_ok] at h
      refine hkept (fun hmem => ?_) (Prod.mk.inj h).1.symm
      exact absurd (hfound before hmem) (getElem?_eq_none_iff.1 hbefore)

theorem newRelay_eq_ok {previous : Option NodeId} {targets : List NodeId} {relay : NodeId}
    (h : p.newRelay previous targets found t = .ok (.ok (relay, reach), t')) : Relays targets found reach relay := by
  rw [newRelay] at h
  cases htarget : targets.find? fun node => found[node]?.any (·.isIpv4) with
  | some node =>
    rw [htarget] at h
    obtain ⟨heq, rfl⟩ := pure_eq_ok.1 h
    cases heq
    have hipv4 := List.find?_some htarget
    rw [Option.any_eq_true] at hipv4
    exact ⟨hipv4, fun _ _ => rfl⟩
  | none =>
    rw [htarget, bind_eq_ok] at h
    obtain ⟨inventory, t₁, -, h⟩ := h
    cases hinventory : inventory.filter fun _ => p.usesInventory with
    | none =>
      rw [hinventory] at h
      exact absurd h throw_ne_ok
    | some inventory =>
      rw [hinventory] at h
      obtain ⟨hexclude, hr, rfl⟩ := findRelay_eq_ok h
      exact relays_insert hr fun hmem => absurd (List.mem_append_left _ hmem) hexclude

theorem chooseRelay_eq_ok {previous : Option NodeId} {targets : List NodeId} {relay : NodeId}
    (hfound : ∀ node ∈ targets, node ∈ found)
    (h : p.chooseRelay previous targets found t = .ok (.ok (relay, reach), t')) : Relays targets found reach relay := by
  rw [chooseRelay, bind_eq_ok] at h
  obtain ⟨kept | none, t₁, hkept, h⟩ := h
  · exact newRelay_eq_ok h
  · obtain ⟨rfl, rfl⟩ := pure_eq_ok.1 h
    exact keepRelay_eq_ok hfound (liftTimed_eq_ok.1 hkept)

/-- There is a relay if one is needed, and otherwise nothing is known beside the survey. -/
theorem relayFor_eq_ok {previous : Option NodeId} {targets : Std.ExtTreeSet NodeId} {external : Bool}
    {relay : Option NodeId} (h : p.relayFor previous targets external found t = .ok (.ok (relay, reach), t')) :
    (needsRelay targets external found = false ∧ relay = none ∧ reach = found) ∨
      needsRelay targets external found = true ∧ ∃ r, relay = some r ∧
        p.chooseRelay previous targets.toList found t = .ok (.ok (r, reach), t') := by
  rw [relayFor] at h
  cases hneeds : needsRelay targets external found with
  | false =>
    rw [hneeds, if_neg Bool.false_ne_true] at h
    cases (pure_eq_ok.1 h).1
    exact .inl ⟨rfl, rfl, rfl⟩
  | true =>
    rw [hneeds, if_pos rfl, bind_eq_ok] at h
    obtain ⟨⟨r, reach'⟩, t₁, hchoose, h⟩ := h
    obtain ⟨heq, rfl⟩ := pure_eq_ok.1 h
    cases heq
    exact .inr ⟨rfl, r, rfl, hchoose⟩

end ComputeGrid.Planner
