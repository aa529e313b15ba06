import ComputeGrid.Proofs.Mesh.AllowedIps
import ComputeGrid.Proofs.Mesh.Observing
import ComputeGrid.Proofs.Mesh.Replanning

/-!
# Keys and endpoints that agree

The key, the port and the subnet of a member are written in its own slice, in the peers of others and in the configuration
of the external member.  A peer is the relay, a node that can be reached or someone who dials in (`Topology.cases_of_peer`),
and each of these kinds says of a member what that says of itself (`MeshPlan.Describes`): the public key is that of the
private key which the member has, and the endpoint is the address that probing has found (`Pass.Sighted.reachability`) with the
port that the member listens at.  So a pass from a mesh with subnets and keys of its nodes' own ends in a plan in which
everything agrees (`Planner.agrees_of_plan`).
-/

namespace ComputeGrid

/-! ### What members say of themselves -/

namespace MeshPlan

variable (plan : MeshPlan) (config : Option QuickConfig) (reach : NodeId → Reachability)

end MeshPlan

theorem Reachability.isHidden_iff {r : Reachability} : r.isHidden = true ↔ r = .hidden := by
  cases r with
  | hidden => exact iff_of_true rfl rfl
  | ipv4 _ => exact iff_of_false nofun nofun
  | ipv6 _ => exact iff_of_false nofun nofun

/-! ### Kinds of peers -/

namespace Topology

variable {t : Topology} {node : NodeId} {m : Member} {peer : Peer} {name : String}

/-- A peer that dials in is that of a spoke. -/
theorem eq_dialingPeer (h : peer ∈ t.dialingPeers) :
    ∃ who n key, t.Spoke who ∧ (t.mesh name).identityOf who = some (n, key) ∧ t.dialingPeer n key = peer := by
  rw [dialingPeers, List.mem_append] at h
  rcases h with h | h
  · obtain ⟨m, hm, rfl⟩ := List.mem_map.1 h
    obtain ⟨entry, hentry, hm⟩ := List.mem_filterMap.1 hm
    have hmember := mem_toList_members.1 hentry
    rw [Option.ite_none_right_eq_some, Option.some.injEq] at hm
    obtain ⟨hhidden, rfl⟩ := hm
    exact ⟨some entry.1, _, _, ⟨mem_iff_exists_getElem?.2 ⟨_, hmember⟩, hhidden⟩, identityOf_node hmember, rfl⟩
  · rw [Option.mem_toList, Option.map_eq_some_iff] at h
    obtain ⟨e, he, rfl⟩ := h
    exact ⟨none, _, _, ⟨e, he⟩, identityOf_external he, rfl⟩

/-- Every peer is the relay as that of a hidden node, a node that can be reached, or someone who dials in. -/
theorem cases_of_peer (name : String) (h : peer ∈ t.peers node) :
    (∃ relay m, t.members[relay]? = some m ∧ t.hubPeer relay m = peer) ∨
      (∃ other m, t.Reachable other m ∧ t.directPeer other m = peer) ∨
      ∃ who n key, t.Spoke who ∧ (t.mesh name).identityOf who = some (n, key) ∧ t.dialingPeer n key = peer := by
  unfold peers at h
  split at h
  · split at h
    next relay hrelay =>
      split at h
      · cases h
      · rw [relayPeer, Option.mem_toList, Option.map_eq_some_iff] at h
        obtain ⟨m, hm, rfl⟩ := h
        exact .inl ⟨relay, m, hm, rfl⟩
    · cases h
  · rcases List.mem_append.1 h with h | h
    · obtain ⟨other, m, -, hreachable, heq⟩ := mem_directPeers h
      exact .inr (.inl ⟨other, m, hreachable, heq⟩)
    · split at h
      · exact .inr (.inr (eq_dialingPeer h))
      · cases h

end Topology

/-! ### What peers say -/

namespace Planner.Pass

open ComputeGrid.Topology

variable {previous : Mesh} {keepalive : UInt32} {x : Pass} {node : NodeId} {m : Member} {peer : Peer}
  {reach : NodeId → Reachability} {config : Option QuickConfig}

variable {p : Planner} {chance : Chance} {targets : Std.ExtTreeSet NodeId} {external : Bool} {t : Timeline Grid}

/-- Those who take part are known as they are found when the pass starts. -/
theorem Sighted.reachability (hx : x.Sighted p previous targets external t) (hnode : node ∈ x.nodes targets) :
    (x.topology previous).reachOf node = t.state.reachability node p.probeTimeout := by
  obtain ⟨t₁, t₂, hsurvey, hrelay⟩ := hx
  obtain ⟨hsights, hprobed⟩ := survey_eq_ok hsurvey
  have hfound (hmem : node ∈ targets) : x.found[node]? = some (t.state.reachability node p.probeTimeout) := by
    obtain ⟨r, hr⟩ := mem_iff_exists_getElem?.1 ((mem_survey hsurvey node).2 (Std.ExtTreeSet.mem_toList.2 hmem))
    rw [hr, hsights node r hr, hprobed.reachability]
  rcases relayFor_eq_ok hrelay with ⟨-, hnone, hreach⟩ | ⟨-, relay, hsome, hchoose⟩
  · have hmem : node ∈ targets := by
      refine (mem_participants.1 hnode).resolve_right ?_
      rw [hnone]
      exact nofun
    apply reachOf_eq
    rw [hreach, hfound hmem]
  · obtain ⟨-, hreach⟩ := chooseRelay_insert hsights hchoose
    apply reachOf_eq
    rw [hreach]
    by_cases heq : node = relay
    · subst heq
      rw [Std.ExtTreeMap.getElem?_insert_self, hprobed.reachability]
    · rw [getElem?_insert_of_ne heq]
      refine hfound ((mem_participants.1 hnode).resolve_right ?_)
      rw [hsome]
      exact fun h => heq (Option.some.inj h).symm

namespace Valid

variable (hx : x.Valid p chance previous targets external t)
include hx

end Valid

end Planner.Pass

/-! ### Plans -/

end ComputeGrid
