import ComputeGrid.Proofs.Mesh.Routing

/-!
# Meshes that are recognized

A topology is recognized in the slices of its members.  These have the members' keys and subnets (`members_eq_ok`), only
the relay has peers that dial in (`dialingIn_hub`, `dialingIn_of_ne`), and of these only the external member has a subnet
that is no node's (`find?_dialingPeers`).

The two halves meet at `Topology.Legible`: what is legible is recognized but for the private key of the external member
(`Topology.Legible.observe_eq`), and passes from a mesh that is well formed end in what is legible
(`Pass.Valid.legible`).  So observation undoes planning (`Mesh.WellFormed.observe_deployments`), and passes from what has
been observed go on, since both keep meshes well formed (`Mesh.WellFormed.of_run`, `Mesh.WellFormed.unkeyed`).
-/

namespace ComputeGrid

namespace Mesh

/-- The mesh as it is known to those who do not know the private key of the external member. -/
def unkeyed (m : Mesh) : Mesh := { m with external := m.external.map fun e => { e with privateKey := none } }

/-- Members are read back from slices that hold what they hold. -/
theorem members_eq_ok {name : String} {range : Ipv4Network} {m : NodeMap Member} {s : NodeId → Member → NetworkSlice}
    (h : ∀ (node : NodeId) member, m[node]? = some member →
      (s node member).ipRange = range ∧ memberOf (s node member) = .ok member) :
    members name range (m.toList.map fun (node, member) => (node, s node member)) = .ok m := by
  rw [members, List.foldlM_map]
  refine foldlM_toList fun made node member hentry => ?_
  obtain ⟨hrange, hmember⟩ := h node member hentry
  dsimp only
  rw [if_neg (not_not_intro hrange), hmember]
  rfl

end Mesh

/-! ### Topologies in their slices -/

namespace Topology

variable {t : Topology} {node relay : NodeId} {m : Member} {who : Option NodeId} {name : String} {twin : TwinId}

/-- The deployments that hold the slices of the members. -/
def fleet (t : Topology) (name : String) (twin : TwinId) : NodeMap Deployment :=
  t.members.map fun node m => Deployment.new twin [Workload.new name (.network (t.slice node m))]

/-- The slices of the members. -/
def slices (t : Topology) : List (NodeId × NetworkSlice) := t.members.toList.map fun (node, m) => (node, t.slice node m)

theorem mem_slices {s : NetworkSlice} :
    (node, s) ∈ t.slices ↔ ∃ m, t.members[node]? = some m ∧ s = t.slice node m := by
  rw [slices, List.mem_map]
  constructor
  · rintro ⟨⟨node, m⟩, hmem, heq⟩
    cases heq
    exact ⟨m, mem_toList_members.1 hmem, rfl⟩
  · rintro ⟨m, hm, rfl⟩
    exact ⟨(node, m), mem_toList_members.2 hm, rfl⟩

theorem slices_fleet : Mesh.slices name (t.fleet name twin) = t.slices := by
  rw [Mesh.slices, fleet, slices, Std.ExtTreeMap.toList_map, List.filterMap_map, ← List.filterMap_eq_map]
  congr 1
  funext ⟨node, m⟩
  have hslice : Mesh.slice? name (Deployment.new twin [Workload.new name (.network (t.slice node m))]) =
      some (t.slice node m) := by
    rw [Mesh.slice?, Deployment.new, List.findSome?_cons, Workload.new]
    dsimp only
    rw [if_pos rfl]
  rw [Function.comp_apply, Function.comp_apply]
  dsimp only
  rw [hslice, Option.map_some]

theorem memberOf_slice (hm : m.Keyed) : Mesh.memberOf (t.slice node m) = .ok m := by
  have hkeys : KeyPair.ofPrivate (t.slice node m).privateKey = .ok ⟨m.privateKey, m.publicKey⟩ := hm
  rw [Mesh.memberOf, hkeys]
  rfl

/-! ### Who dials in -/

theorem filter_directPeers : (t.directPeers node).filter (·.endpoint.isEmpty) = [] := by
  rw [List.filter_eq_nil_iff, directPeers]
  intro peer hpeer
  obtain ⟨⟨other, m⟩, hmem, hpeer⟩ := List.mem_filterMap.1 hpeer
  dsimp only at hpeer
  split at hpeer
  · cases hpeer
  next hvisible =>
    cases hpeer
    have hreachable : t.Reachable other m := ⟨mem_toList_members.1 hmem, Bool.eq_false_iff.2 (not_or.1 hvisible).2⟩
    rw [String.isEmpty_iff]
    exact endpoint_ne_empty hreachable

theorem filter_dialingPeers : t.dialingPeers.filter (·.endpoint.isEmpty) = t.dialingPeers := by
  rw [List.filter_eq_self, dialingPeers]
  intro peer hpeer
  rcases List.mem_append.1 hpeer with hpeer | hpeer
  · obtain ⟨m, -, rfl⟩ := List.mem_map.1 hpeer
    rfl
  · obtain ⟨e, -, rfl⟩ := Option.map_eq_some_iff.1 (Option.mem_toList.1 hpeer)
    rfl

/-- All spokes dial in at the relay. -/
theorem dialingIn_hub (hub : t.Hub relay m) : Mesh.dialingIn (t.slice relay m) = t.dialingPeers := by
  show (t.peers relay).filter (·.endpoint.isEmpty) = t.dialingPeers
  rw [peers_of_hub hub, List.filter_append, filter_directPeers, filter_dialingPeers, List.nil_append]

/-- Nobody dials in elsewhere. -/
theorem dialingIn_of_ne (hhub : ∀ relay, t.relay = some relay → ∃ m, t.Hub relay m) (hm : t.members[node]? = some m)
    (hne : t.relay ≠ some node) : Mesh.dialingIn (t.slice node m) = [] := by
  show (t.peers node).filter (·.endpoint.isEmpty) = []
  cases hhidden : (t.reachOf node).isHidden with
  | true =>
    have hspoke : t.Spoke (some node) := ⟨mem_iff_exists_getElem?.2 ⟨m, hm⟩, hhidden⟩
    cases hrelay : t.relay with
    | some relay =>
      obtain ⟨k, hub⟩ := hhub relay hrelay
      rw [peers_of_spoke hspoke hub, List.filter_cons_of_neg, List.filter_nil]
      rw [String.isEmpty_iff]
      exact endpoint_ne_empty hub.toReachable
    | none =>
      rw [peers_of_alone hspoke hrelay, List.filter_nil]
  | false =>
    rw [peers_of_reachable ⟨hm, hhidden⟩ hne, filter_directPeers]

theorem dialingPeers_ne_nil (hspoke : t.Spoke who) : t.dialingPeers ≠ [] := by
  have hlists : (t.mesh "").Lists t.dialingPeers t.Spoke := lists_dialingPeers
  obtain ⟨parties, -, hmem, heq⟩ := hlists
  intro hnil
  have hwho : who ∈ parties := (hmem who).2 hspoke
  rw [hnil, List.map_nil, eq_comm, List.map_eq_nil_iff] at heq
  rw [heq] at hwho
  cases hwho

/-- Of those who dial in the external member is the first whose subnet is no node's. -/
theorem find?_dialingPeers
    (happart : ∀ e, t.external = some e → ∀ (node : NodeId) m, t.members[node]? = some m → m.subnet ≠ e.subnet) :
    t.dialingPeers.find? (fun p => !(t.members.values.map (·.subnet)).contains p.subnet) =
      t.external.map fun e => t.dialingPeer e.subnet e.publicKey := by
  have hhidden : (t.hidden.map fun m => t.dialingPeer m.subnet m.publicKey).find?
      (fun p => !(t.members.values.map (·.subnet)).contains p.subnet) = none := by
    rw [List.find?_eq_none]
    intro peer hpeer
    obtain ⟨m, hm, rfl⟩ := List.mem_map.1 hpeer
    obtain ⟨⟨node, m'⟩, hmem, heq⟩ := List.mem_filterMap.1 hm
    dsimp only at heq
    split at heq
    · cases heq
      have hvalue : m ∈ t.members.values := by
        rw [← map_snd_toList]
        exact List.mem_map_of_mem hmem
      rw [Bool.not_eq_true, Bool.not_eq_false', List.contains_iff_mem]
      exact List.mem_map_of_mem hvalue
    · cases heq
  rw [dialingPeers, List.find?_append, hhidden, Option.none_or]
  cases he : t.external with
  | none => rfl
  | some e =>
    rw [Option.map_some, Option.toList_some, List.find?_cons_of_pos]
    rw [Bool.not_eq_true', ← Bool.not_eq_true, List.contains_iff_mem, List.mem_map]
    rintro ⟨m, hm, heq⟩
    rw [← map_snd_toList, List.mem_map] at hm
    obtain ⟨⟨node, m'⟩, hmem, rfl⟩ := hm
    exact happart e he node m' (mem_toList_members.1 hmem) heq

/-! ### What is legible -/

/-- What it takes to recognize a topology in its slices: keys that belong together, a relay that can be reached and has
someone to stand for, and an external member behind a relay with a subnet that is no node's. -/
structure Legible (t : Topology) : Prop where
  keyed : ∀ (node : NodeId) m, t.members[node]? = some m → m.Keyed
  hub : ∀ relay, t.relay = some relay → ∃ m, t.Hub relay m
  needed : ∀ relay, t.relay = some relay → ∃ who, t.Spoke who
  inside : t.relay = none → t.external = none
  apart : ∀ e, t.external = some e → ∀ (node : NodeId) m, t.members[node]? = some m → m.subnet ≠ e.subnet

/-- The relay is the one with peers that dial in. -/
theorem Legible.dials_iff (h : t.Legible) (hm : t.members[node]? = some m) :
    (!(Mesh.dialingIn (t.slice node m)).isEmpty) = true ↔ t.relay = some node := by
  rw [Bool.not_eq_true', List.isEmpty_eq_false_iff]
  constructor
  · intro hdials
    refine Classical.byContradiction fun hne => hdials ?_
    exact dialingIn_of_ne h.hub hm hne
  · intro hrelay
    obtain ⟨k, hub⟩ := h.hub node hrelay
    obtain ⟨who, hspoke⟩ := h.needed node hrelay
    have heq : k = m := Option.some.inj (hub.member.symm.trans hm)
    subst heq
    rw [dialingIn_hub hub]
    exact dialingPeers_ne_nil hspoke

theorem Legible.find?_slices (h : t.Legible) (hub : t.Hub relay m) :
    t.slices.find? (fun (_, s) => !(Mesh.dialingIn s).isEmpty) = some (relay, t.slice relay m) := by
  have hmem : (relay, t.slice relay m) ∈ t.slices := mem_slices.2 ⟨m, hub.member, rfl⟩
  cases hfound : t.slices.find? fun (_, s) => !(Mesh.dialingIn s).isEmpty with
  | none => exact absurd ((h.dials_iff hub.member).2 hub.relay) (List.find?_eq_none.1 hfound _ hmem)
  | some entry =>
    obtain ⟨node, s⟩ := entry
    obtain ⟨m', hm', rfl⟩ := mem_slices.1 (List.mem_of_find?_eq_some hfound)
    have hdials := List.find?_some hfound
    have hrelay : t.relay = some node := (h.dials_iff hm').1 hdials
    rw [hub.relay] at hrelay
    cases hrelay
    cases hub.member.symm.trans hm'
    rfl

theorem Legible.find?_slices_of_none (h : t.Legible) (hrelay : t.relay = none) :
    t.slices.find? (fun (_, s) => !(Mesh.dialingIn s).isEmpty) = none := by
  rw [List.find?_eq_none]
  rintro ⟨node, s⟩ hmem hdials
  obtain ⟨m, hm, rfl⟩ := mem_slices.1 hmem
  have hsome := (h.dials_iff hm).1 hdials
  rw [hrelay] at hsome
  cases hsome

/-- What is legible is recognized but for the private key of the external member. -/
theorem Legible.observe_eq (h : t.Legible) (name : String) (twin : TwinId) :
    Mesh.observe name t.range (t.fleet name twin) = .ok (t.mesh name).unkeyed := by
  have hmembers : Mesh.members name t.range t.slices = .ok t.members :=
    Mesh.members_eq_ok fun node m hm => ⟨rfl, memberOf_slice (h.keyed node m hm)⟩
  rw [Mesh.observe, slices_fleet]
  dsimp only
  rw [hmembers]
  dsimp only [bind, Except.bind]
  cases hrelay : t.relay with
  | none =>
    rw [h.find?_slices_of_none hrelay]
    dsimp only [pure, Except.pure]
    rw [Mesh.unkeyed, mesh, hrelay, h.inside hrelay]
    rfl
  | some relay =>
    obtain ⟨m, hub⟩ := h.hub relay hrelay
    rw [h.find?_slices hub]
    dsimp only [pure, Except.pure]
    rw [dialingIn_hub hub, find?_dialingPeers h.apart, Option.map_map, Mesh.unkeyed, mesh, hrelay]
    rfl

end Topology

/-! ### Passes over meshes that are well formed -/

namespace Mesh

/-- The range is a `/16`, everyone's subnet is a `/24` inside it and nobody else's, and every public key is that of its
private one if that is known. -/
structure WellFormed (m : Mesh) : Prop where
  range : m.range.length.val = 16
  subnet : ∀ who n, m.subnetOf who = some n → n.length.val = 24 ∧ m.range.contains n = true
  distinct : m.Apart
  nodeKeys : ∀ (node : NodeId) member, m.nodes[node]? = some member → member.Keyed
  externalKeys : ∀ e privateKey, m.external = some e → e.privateKey = some privateKey →
    KeyPair.ofPrivate privateKey = .ok ⟨privateKey, e.publicKey⟩

end Mesh

namespace Planner

variable {p : Planner} {chance : Chance} {previous : Mesh} {targets : Std.ExtTreeSet NodeId} {external : Bool}
  {t t' : Timeline Grid} {x : Pass}

namespace Pass.Valid

variable (hx : x.Valid p chance previous targets external t)
include hx

/-- Where there is a relay there is someone for it to stand for. -/
theorem exists_spoke {relay : NodeId} (hrelay : x.relay = some relay) :
    ∃ who, (x.topology previous).Spoke who := by
  obtain ⟨t₁, t₂, hrun⟩ := hx.relay
  obtain ⟨t₃, hsurvey⟩ := hx.survey
  rw [hrelay] at hrun
  rcases relayFor_eq_ok hrun with ⟨-, hnone, -⟩ | ⟨hneeds, -⟩
  · cases hnone
  rw [needsRelay, Bool.or_eq_true, Bool.and_eq_true] at hneeds
  rcases hneeds with hexternal | ⟨hhidden, -⟩
  · rcases outsideFor_eq_ok hx.outside with ⟨hfalse, -⟩ | ⟨-, o, ho, -⟩
    · rw [hexternal] at hfalse
      cases hfalse
    · refine ⟨none, o.member, ?_⟩
      show x.outside.map (·.member) = some o.member
      rw [ho, Option.map_some]
  · -- a target that the survey has found to be hidden
    obtain ⟨node, hfound⟩ := any_isHidden_iff.1 hhidden
    have htarget : node ∈ targets.toList := (mem_survey hsurvey node).1 (mem_iff_exists_getElem?.2 ⟨_, hfound⟩)
    have hnode : node ∈ x.nodes targets := mem_participants.2 (.inl (Std.ExtTreeSet.mem_toList.1 htarget))
    exact ⟨some node, hx.mem_members.2 hnode, (hx.isHidden_iff hnode).2 hfound⟩

/-- Without a relay there is no external member. -/
theorem external_eq_none (hrelay : x.relay = none) : (x.topology previous).external = none := by
  have hneeds := hx.needsRelay_eq_false hrelay
  rw [needsRelay, Bool.or_eq_false_iff] at hneeds
  show x.outside.map (·.member) = none
  rcases outsideFor_eq_ok hx.outside with ⟨-, houtside, -⟩ | ⟨htrue, -⟩
  · rw [houtside, Option.map_none]
  · rw [hneeds.1] at htrue
    cases htrue

section WellFormed

variable (hwell : previous.WellFormed) (keepalive : UInt32)
include hwell

theorem apart_of_wellFormed : (x.plan previous keepalive).mesh.Apart := hx.distinct hwell.distinct keepalive

/-- A pass leads from one mesh that is well formed to another. -/
theorem wellFormed : (x.plan previous keepalive).mesh.WellFormed := by
  constructor
  case range => exact hwell.range
  case subnet =>
    intro who n hn
    rcases hx.held_or_free hn with ⟨hold, -⟩ | ⟨-, hfree⟩
    · exact hwell.subnet who n (subnetOf_of_keptSubnet hold)
    · have hslot := hfree.slot hx.unheld_over
      exact ⟨hslot.length, hslot.within⟩
  case distinct => exact hx.apart_of_wellFormed hwell keepalive
  case nodeKeys => exact hx.keyed_members hwell.nodeKeys
  case externalKeys =>
    intro e privateKey he hprivate
    obtain ⟨o, rfl, hkeys⟩ := hx.keyed keepalive e he
    cases hprivate
    exact hkeys

/-- The topology that a pass ends in is legible. -/
theorem legible : (x.topology previous).Legible := by
  constructor
  case keyed => exact hx.keyed_members hwell.nodeKeys
  case hub => exact hx.served.hub
  case needed => exact fun relay hrelay => hx.exists_spoke hrelay
  case inside => exact hx.external_eq_none
  case apart =>
    intro e he node m hm heq
    have hnode : (x.plan previous 0).mesh.subnetOf (some node) = some e.subnet := by
      rw [← heq]
      exact Topology.subnetOf_node (t := x.topology previous) hm
    have hexternal : (x.plan previous 0).mesh.subnetOf none = some e.subnet :=
      Topology.subnetOf_external (t := x.topology previous) he
    cases hx.apart_of_wellFormed hwell 0 _ _ _ hnode hexternal

end WellFormed

end Pass.Valid

theorem deployments_plan {keepalive : UInt32} {twin : TwinId} :
    (x.plan previous keepalive).deployments twin = (x.topology previous).fleet previous.name twin :=
  Std.ExtTreeMap.map_map

end Planner

namespace Mesh

variable {m : Mesh} {p : Planner} {chance : Chance} {targets : Std.ExtTreeSet NodeId} {external : Bool} {plan : MeshPlan}
  {t t' : Timeline Grid}

theorem wellFormed_new {name : String} {range : Ipv4Network} (h : range.length.val = 16) : (new name range).WellFormed := by
  constructor
  case range => exact h
  case subnet =>
    intro who n hn
    rw [subnetOf_new] at hn
    cases hn
  case distinct =>
    intro who other n hn
    rw [subnetOf_new] at hn
    cases hn
  case nodeKeys =>
    intro node member hmember
    rw [new, Std.ExtTreeMap.getElem?_empty] at hmember
    cases hmember
  case externalKeys =>
    intro e privateKey he
    rw [new] at he
    cases he

/-- Passes keep meshes well formed. -/
theorem WellFormed.of_run (h : m.WellFormed) (run : p.plan chance m targets external t = .ok (.ok plan, t')) :
    plan.mesh.WellFormed := by
  obtain ⟨x, hx, rfl⟩ := Planner.pass_of_run run
  exact hx.wellFormed h _

theorem subnetOf_unkeyed (m : Mesh) (who : Option NodeId) : m.unkeyed.subnetOf who = m.subnetOf who := by
  cases who with
  | some node => rfl
  | none =>
    rw [subnetOf, subnetOf, unkeyed, Option.map_map]
    rfl

/-- What is observed is well formed. -/
theorem WellFormed.unkeyed (h : m.WellFormed) : m.unkeyed.WellFormed := by
  constructor
  case range => exact h.range
  case subnet =>
    intro who n hn
    rw [subnetOf_unkeyed] at hn
    exact h.subnet who n hn
  case distinct =>
    intro who other n hn hn'
    rw [subnetOf_unkeyed] at hn hn'
    exact h.distinct who other n hn hn'
  case nodeKeys => exact h.nodeKeys
  case externalKeys =>
    intro e privateKey he hprivate
    obtain ⟨e', -, rfl⟩ := Option.map_eq_some_iff.1 he
    cases hprivate

/-- Observation undoes planning: what is observed of the deployments of a plan is its mesh without the private key of the
external member, and with that key it is the mesh of the plan. -/
theorem WellFormed.observe_deployments (h : m.WellFormed)
    (run : p.plan chance m targets external t = .ok (.ok plan, t')) (twin : TwinId) :
    observe m.name m.range (plan.deployments twin) = .ok plan.mesh.unkeyed ∧
      (plan.mesh.external = none → plan.mesh.unkeyed = plan.mesh) ∧
      ∀ e, plan.mesh.external = some e →
        ∃ key, e.privateKey = some key ∧ plan.mesh.unkeyed.withExternalPrivateKey key = plan.mesh := by
  obtain ⟨x, hx, rfl⟩ := Planner.pass_of_run run
  refine ⟨?_, fun hnone => ?_, fun e he => ?_⟩
  · rw [Planner.deployments_plan]
    exact (hx.legible h).observe_eq m.name twin
  · rw [Mesh.unkeyed, hnone, Option.map_none, ← hnone]
  · obtain ⟨o, -, rfl⟩ := Option.map_eq_some_iff.1 he
    refine ⟨o.keys.privateKey, rfl, ?_⟩
    rw [Mesh.unkeyed, withExternalPrivateKey, he, Option.map_some, Option.map_some]
    show ({ (x.plan m p.settings.keepalive).mesh with external := some o.member } : Mesh) = _
    rw [← he]

end Mesh

/-- The mesh of a first pass is observed without the private key of its external member, and the next pass is from there. -/
theorem Mesh.observe_deployments_of_hillyPass : ∃ before plan : MeshPlan,
    plan.mesh.relay = some 1 ∧ plan.removed = [2] ∧ before.mesh.unkeyed.external ≠ before.mesh.external ∧
      observe Planner.hillyMesh.name Planner.hillyMesh.range (plan.deployments 7) = .ok plan.mesh.unkeyed ∧
      ∃ e key, plan.mesh.external = some e ∧ e.privateKey = some key ∧
        plan.mesh.unkeyed.withExternalPrivateKey key = plan.mesh := by
  have hruns : Planner.succeeds (Planner.hillyPass Planner.hillyMesh [1, 2]) (fun before =>
      Planner.succeeds (Planner.hillyPass before.mesh.unkeyed [3]) fun plan =>
        plan.mesh.relay = some 1 ∧ plan.removed = [2] ∧ plan.mesh.external.isSome ∧
          before.mesh.unkeyed.external ≠ before.mesh.external ∧ before.mesh.name = Planner.hillyMesh.name ∧
          before.mesh.range = Planner.hillyMesh.range) = true := by decide +kernel
  obtain ⟨before, t, hbefore, hrest⟩ := Planner.exists_of_succeeds hruns
  obtain ⟨plan, t', hplan, htest⟩ := Planner.exists_of_succeeds hrest
  obtain ⟨hrelay, hremoved, hexternal, hne, hname, hrange⟩ := of_decide_eq_true htest
  obtain ⟨e, he⟩ := Option.isSome_iff_exists.1 hexternal
  have hwell : before.mesh.unkeyed.WellFormed := ((wellFormed_new rfl).of_run hbefore).unkeyed
  obtain ⟨hobserve, -, hkeys⟩ := hwell.observe_deployments hplan 7
  obtain ⟨key, hkey, heq⟩ := hkeys e he
  rw [← hname, ← hrange]
  exact ⟨before, plan, hrelay, hremoved, hne, hobserve, e, key, he, hkey, heq⟩

end ComputeGrid
