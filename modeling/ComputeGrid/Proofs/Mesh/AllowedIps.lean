import ComputeGrid.Proofs.Mesh.Octets
import ComputeGrid.Proofs.Mesh.Routing

/-!
# Networks that peers are allowed

What a node sends to an address goes to the one peer that is allowed it, so no address may be allowed to two.  What a peer
of a node that can be reached is allowed is for certain members, for one or for the relay and those behind it
(`Topology.Serves`), and no member is served by two peers, nor by a peer of its own (`Topology.apart_peers`,
`Topology.serves_peers`).  In the topology that a pass ends in the networks of different members share no address
(`Planner.Pass.separate`), so over any run of passes from a new mesh each address is allowed to one peer
(`Mesh.Reached.unambiguous`).
-/

namespace ComputeGrid

/-! ### What slices may say -/

/-- No address is allowed to both peers. -/
def Peer.Apart (a b : Peer) : Prop := ∀ n ∈ a.allowedIps, ∀ k ∈ b.allowedIps, n.Disjoint k

/-- Each address is allowed to one peer, and each network is written once. -/
structure NetworkSlice.Unambiguous (s : NetworkSlice) : Prop where
  apart : s.peers.Pairwise Peer.Apart
  once : ∀ peer ∈ s.peers, peer.allowedIps.Pairwise fun n k => n.truncate ≠ k.truncate

/-- No peer is allowed an address of the node's own subnet, or its own carrier address. -/
def NetworkSlice.KeepsOwn (carrier : Ipv4Network) (s : NetworkSlice) : Prop :=
  ∀ peer ∈ s.peers, ∀ n ∈ peer.allowedIps, n.Disjoint s.subnet ∧ n.Disjoint (carrierAddress carrier s.subnet)

namespace Topology

variable {t : Topology} {name : String} {node relay : NodeId} {m m' : Member} {who : Option NodeId} {n k : Ipv4Network}
  {a b : Peer} {P Q : Option NodeId → Prop}

/-! ### Whom peers serve -/

/-- The networks of everyone share no address. -/
structure Separate (t : Topology) (name : String) : Prop where
  own : ∀ who n, (t.mesh name).subnetOf who = some n → n.Disjoint (carrierAddress t.carrier n)
  others : ∀ who other n k, who ≠ other → (t.mesh name).subnetOf who = some n → (t.mesh name).subnetOf other = some k →
    ∀ a ∈ t.routes n, ∀ b ∈ t.routes k, a.Disjoint b

/-- Each network that is allowed to a peer is that of one of certain members. -/
def Serves (t : Topology) (name : String) (peer : Peer) (others : Option NodeId → Prop) : Prop :=
  ∀ n ∈ peer.allowedIps, ∃ who k, others who ∧ (t.mesh name).subnetOf who = some k ∧ n ∈ t.routes k

theorem mem_routes : k ∈ t.routes n ↔ k = n ∨ k = carrierAddress t.carrier n := by
  rw [routes, List.mem_cons, List.mem_singleton]

theorem Serves.mono (h : t.Serves name a P) (hPQ : ∀ who, P who → Q who) : t.Serves name a Q := by
  intro n hn
  obtain ⟨who, k, hP, hk, hroute⟩ := h n hn
  exact ⟨who, k, hPQ who hP, hk, hroute⟩

theorem Separate.apart (h : t.Separate name) (ha : t.Serves name a P) (hb : t.Serves name b Q)
    (hdisjoint : ∀ who, P who → ¬ Q who) : a.Apart b := by
  intro n hn k hk
  obtain ⟨who, n', hP, hn', hroute⟩ := ha n hn
  obtain ⟨other, k', hQ, hk', hroute'⟩ := hb k hk
  have hne : who ≠ other := by
    rintro rfl
    exact hdisjoint who hP hQ
  exact h.others who other n' k' hne hn' hk' n hroute k hroute'

/-- Subnets of two different members. -/
def Parted (t : Topology) (name : String) (n k : Ipv4Network) : Prop :=
  ∃ who other, who ≠ other ∧ (t.mesh name).subnetOf who = some n ∧ (t.mesh name).subnetOf other = some k

theorem Separate.of_parted (h : t.Separate name) (hparted : t.Parted name n k) :
    ∀ a ∈ t.routes n, ∀ b ∈ t.routes k, a.Disjoint b := by
  obtain ⟨who, other, hne, hn, hk⟩ := hparted
  exact h.others who other n k hne hn hk

theorem pairwise_members : t.members.toList.Pairwise fun e e' =>
    e.1 ≠ e'.1 ∧ t.members[e.1]? = some e.2 ∧ t.members[e'.1]? = some e'.2 := by
  refine Std.ExtTreeMap.distinct_keys_toList.imp_of_mem fun he he' hne => ?_
  refine ⟨fun heq => hne ?_, mem_toList_members.1 he, mem_toList_members.1 he'⟩
  rw [Std.compare_eq_iff_eq]
  exact heq

/-- A member that is found to be hidden is a spoke. -/
theorem spoke_of_entry {entry : NodeId × Member} (hentry : t.members[entry.1]? = some entry.2)
    (h : (if (t.reachOf entry.1).isHidden then some entry.2 else none) = some m) :
    t.Spoke (some entry.1) ∧ (t.mesh name).subnetOf (some entry.1) = some m.subnet := by
  rw [Option.ite_none_right_eq_some, Option.some.injEq] at h
  obtain ⟨hhidden, rfl⟩ := h
  exact ⟨⟨mem_iff_exists_getElem?.2 ⟨_, hentry⟩, hhidden⟩, subnetOf_node hentry⟩

theorem exists_spoke (h : n ∈ t.behindRelay) : ∃ who, t.Spoke who ∧ (t.mesh name).subnetOf who = some n := by
  rw [behindRelay, List.mem_append] at h
  rcases h with h | h
  · obtain ⟨m, hm, rfl⟩ := List.mem_map.1 h
    obtain ⟨entry, hentry, hm⟩ := List.mem_filterMap.1 hm
    exact ⟨some entry.1, spoke_of_entry (mem_toList_members.1 hentry) hm⟩
  · rw [Option.mem_toList, Option.map_eq_some_iff] at h
    obtain ⟨e, he, rfl⟩ := h
    exact ⟨none, ⟨e, he⟩, subnetOf_external he⟩

theorem pairwise_behindRelay : t.behindRelay.Pairwise (t.Parted name) := by
  rw [behindRelay, List.pairwise_append]
  refine ⟨?_, ?_, ?_⟩
  · rw [List.pairwise_map, hidden, List.pairwise_filterMap]
    refine pairwise_members.imp fun h m hm m' hm' => ?_
    obtain ⟨hne, hentry, hentry'⟩ := h
    obtain ⟨-, hsubnet⟩ := spoke_of_entry hentry hm
    obtain ⟨-, hsubnet'⟩ := spoke_of_entry hentry' hm'
    exact ⟨_, _, fun heq => hne (Option.some.inj heq), hsubnet, hsubnet'⟩
  · cases t.external with
    | none => exact .nil
    | some e => exact List.pairwise_singleton _ _
  · intro n hn k hk
    obtain ⟨m, hm, rfl⟩ := List.mem_map.1 hn
    obtain ⟨entry, hentry, hm⟩ := List.mem_filterMap.1 hm
    obtain ⟨-, hsubnet⟩ := spoke_of_entry (mem_toList_members.1 hentry) hm
    rw [Option.mem_toList, Option.map_eq_some_iff] at hk
    obtain ⟨e, he, rfl⟩ := hk
    exact ⟨some entry.1, none, Option.some_ne_none _, hsubnet, subnetOf_external he⟩

/-- What a node that can be reached is sent is for it, and through the relay for those behind it. -/
theorem serves_directPeer (hm : t.members[node]? = some m) :
    t.Serves name (t.directPeer node m) fun who => who = some node ∨ t.relay = some node ∧ t.Spoke who := by
  intro n hn
  rcases List.mem_append.1 hn with hn | hn
  · exact ⟨some node, m.subnet, .inl rfl, subnetOf_node hm, hn⟩
  · by_cases hrelay : t.relay = some node
    · rw [if_pos hrelay] at hn
      obtain ⟨k, hk, hn⟩ := List.mem_flatMap.1 hn
      obtain ⟨who, hspoke, hsubnet⟩ := exists_spoke hk
      exact ⟨who, k, .inr ⟨hrelay, hspoke⟩, hsubnet, hn⟩
    · rw [if_neg hrelay] at hn
      cases hn

/-! ### Peers of a node that can be reached -/

theorem apart_directPeer (h : t.Separate name) {other : NodeId} (hm : t.Reachable node m) (hm' : t.Reachable other m')
    (hne : node ≠ other) : (t.directPeer node m).Apart (t.directPeer other m') := by
  refine h.apart (serves_directPeer hm.member) (serves_directPeer hm'.member) ?_
  rintro who (rfl | ⟨hrelay, hspoke⟩) (heq | ⟨hrelay', hspoke'⟩)
  · exact hne (Option.some.inj heq)
  · exact hm.not_spoke hspoke'
  · exact hm'.not_spoke (heq ▸ hspoke)
  · exact hne (Option.some.inj (hrelay.symm.trans hrelay'))

/-- A peer that an entry is made into. -/
theorem eq_directPeer {entry : NodeId × Member} {peer : Peer} (hentry : t.members[entry.1]? = some entry.2)
    (h : (if entry.1 = node ∨ (t.reachOf entry.1).isHidden then none else some (t.directPeer entry.1 entry.2)) = some peer) :
    entry.1 ≠ node ∧ t.Reachable entry.1 entry.2 ∧ t.directPeer entry.1 entry.2 = peer := by
  rw [Option.ite_none_left_eq_some, not_or, Bool.not_eq_true, Option.some.injEq] at h
  exact ⟨h.1.1, ⟨hentry, h.1.2⟩, h.2⟩

theorem mem_directPeers {peer : Peer} (h : peer ∈ t.directPeers node) :
    ∃ other m, other ≠ node ∧ t.Reachable other m ∧ t.directPeer other m = peer := by
  obtain ⟨entry, hentry, hpeer⟩ := List.mem_filterMap.1 h
  exact ⟨entry.1, entry.2, eq_directPeer (mem_toList_members.1 hentry) hpeer⟩

theorem pairwise_directPeers (h : t.Separate name) : (t.directPeers node).Pairwise Peer.Apart := by
  rw [directPeers, List.pairwise_filterMap]
  refine pairwise_members.imp fun hentries a ha b hb => ?_
  obtain ⟨hne, hentry, hentry'⟩ := hentries
  obtain ⟨-, hreachable, rfl⟩ := eq_directPeer hentry ha
  obtain ⟨-, hreachable', rfl⟩ := eq_directPeer hentry' hb
  exact apart_directPeer h hreachable hreachable' hne

/-- Those who dial in are allowed what the relay stands for. -/
theorem map_allowedIps_dialingPeers : t.dialingPeers.map (·.allowedIps) = t.behindRelay.map t.routes := by
  rw [dialingPeers, behindRelay, List.map_append, List.map_append, List.map_map, List.map_map]
  cases t.external with
  | none => rfl
  | some e => rfl

theorem pairwise_dialingPeers (h : t.Separate name) : t.dialingPeers.Pairwise Peer.Apart := by
  have hroutes : (t.behindRelay.map t.routes).Pairwise fun l l' => ∀ n ∈ l, ∀ k ∈ l', n.Disjoint k := by
    have hparted : t.behindRelay.Pairwise (t.Parted name) := pairwise_behindRelay
    rw [List.pairwise_map]
    exact hparted.imp h.of_parted
  rw [← map_allowedIps_dialingPeers, List.pairwise_map] at hroutes
  exact hroutes

theorem mem_dialingPeers {peer : Peer} (h : peer ∈ t.dialingPeers) :
    ∃ who n, t.Spoke who ∧ (t.mesh name).subnetOf who = some n ∧ peer.allowedIps = t.routes n := by
  have hallowed : peer.allowedIps ∈ t.dialingPeers.map (·.allowedIps) := List.mem_map_of_mem h
  rw [map_allowedIps_dialingPeers] at hallowed
  obtain ⟨n, hn, heq⟩ := List.mem_map.1 hallowed
  obtain ⟨who, hspoke, hsubnet⟩ := exists_spoke hn
  exact ⟨who, n, hspoke, hsubnet, heq.symm⟩

theorem serves_dialingPeers {peer : Peer} (h : peer ∈ t.dialingPeers) :
    ∃ who, t.Spoke who ∧ t.Serves name peer (· = who) := by
  obtain ⟨who, n, hspoke, hsubnet, hallowed⟩ := mem_dialingPeers h
  refine ⟨who, hspoke, fun k hk => ?_⟩
  rw [hallowed] at hk
  exact ⟨who, n, rfl, hsubnet, hk⟩

/-- A peer of a node that can be reached serves others alone. -/
theorem serves_peers {peer : Peer} (hm : t.Reachable node m) (h : peer ∈ t.peers node) :
    t.Serves name peer (· ≠ some node) := by
  rw [peers, hm.visible, if_neg Bool.false_ne_true, List.mem_append] at h
  rcases h with h | h
  · obtain ⟨other, m', hne, hreachable, rfl⟩ := mem_directPeers h
    refine (serves_directPeer hreachable.member).mono ?_
    rintro who (rfl | ⟨-, hspoke⟩) heq
    · exact hne (Option.some.inj heq)
    · exact hm.not_spoke (heq ▸ hspoke)
  · split at h
    next =>
      obtain ⟨who, hspoke, hserves⟩ := serves_dialingPeers h
      refine hserves.mono ?_
      rintro who' rfl rfl
      exact hm.not_spoke hspoke
    next => cases h

/-- Two peers of a node that can be reached serve different members. -/
theorem apart_peers (h : t.Separate name) (hm : t.Reachable node m) : (t.peers node).Pairwise Peer.Apart := by
  rw [peers, hm.visible, if_neg Bool.false_ne_true, List.pairwise_append]
  refine ⟨pairwise_directPeers h, ?_, ?_⟩
  · split
    · exact pairwise_dialingPeers h
    · exact .nil
  · intro a ha b hb
    obtain ⟨other, m', hne, hreachable, rfl⟩ := mem_directPeers ha
    split at hb
    next hrelay =>
      obtain ⟨who, hspoke, hserves⟩ := serves_dialingPeers hb
      refine h.apart (serves_directPeer hreachable.member) hserves ?_
      rintro who' (rfl | ⟨hrelay', -⟩) rfl
      · exact hreachable.not_spoke hspoke
      · exact hne (Option.some.inj (hrelay'.symm.trans hrelay))
    next => cases hb

/-! ### Networks of one peer -/

theorem Separate.pairwise_routes (h : t.Separate name) (hn : (t.mesh name).subnetOf who = some n) :
    (t.routes n).Pairwise Ipv4Network.Disjoint := by
  rw [routes, List.pairwise_pair]
  exact h.own who n hn

/-- The networks of different members are all different. -/
theorem pairwise_flatMap_routes {subnets : List Ipv4Network} (h : t.Separate name)
    (hsubnets : ∀ n ∈ subnets, ∃ who, (t.mesh name).subnetOf who = some n) (hparted : subnets.Pairwise (t.Parted name)) :
    (subnets.flatMap t.routes).Pairwise Ipv4Network.Disjoint := by
  rw [List.pairwise_flatMap]
  refine ⟨fun n hn => ?_, hparted.imp h.of_parted⟩
  obtain ⟨who, hwho⟩ := hsubnets n hn
  exact h.pairwise_routes hwho

theorem pairwise_directPeer (h : t.Separate name) (hm : t.Reachable node m) :
    (t.directPeer node m).allowedIps.Pairwise Ipv4Network.Disjoint := by
  have hsubnet : (t.mesh name).subnetOf (some node) = some m.subnet := subnetOf_node hm.member
  have hallowed : (t.directPeer node m).allowedIps =
      (m.subnet :: if t.relay = some node then t.behindRelay else []).flatMap t.routes := by
    rw [directPeer, List.flatMap_cons]
    split
    · rfl
    · rfl
  have hbehind : ∀ n ∈ (if t.relay = some node then t.behindRelay else []), ∃ who, t.Spoke who ∧
      (t.mesh name).subnetOf who = some n := by
    intro n hn
    split at hn
    · exact exists_spoke hn
    · cases hn
  rw [hallowed]
  refine pairwise_flatMap_routes h ?_ ?_
  · rw [List.forall_mem_cons]
    exact ⟨⟨_, hsubnet⟩, fun n hn => (hbehind n hn).imp fun _ hwho => hwho.2⟩
  · rw [List.pairwise_cons]
    refine ⟨fun n hn => ?_, ?_⟩
    · obtain ⟨who, hspoke, hwho⟩ := hbehind n hn
      refine ⟨some node, who, ?_, hsubnet, hwho⟩
      rintro rfl
      exact hm.not_spoke hspoke
    · split
      · exact pairwise_behindRelay
      · exact .nil

/-- No network is allowed twice to a peer of a node that can be reached. -/
theorem pairwise_peers {peer : Peer} (h : t.Separate name) (hm : t.Reachable node m) (hpeer : peer ∈ t.peers node) :
    peer.allowedIps.Pairwise Ipv4Network.Disjoint := by
  rw [peers, hm.visible, if_neg Bool.false_ne_true, List.mem_append] at hpeer
  rcases hpeer with hpeer | hpeer
  · obtain ⟨other, m', -, hreachable, rfl⟩ := mem_directPeers hpeer
    exact pairwise_directPeer h hreachable
  · split at hpeer
    next =>
      obtain ⟨who, n, -, hsubnet, hallowed⟩ := mem_dialingPeers hpeer
      rw [hallowed]
      exact h.pairwise_routes hsubnet
    next => cases hpeer

/-! ### Slices -/

/-- A hidden node has no peer, or the relay as its one peer. -/
theorem peers_of_hidden (h : (t.reachOf node).isHidden = true) :
    t.peers node = [] ∨ ∃ relay m, t.peers node = [t.hubPeer relay m] := by
  rw [peers, if_pos h]
  split
  next relay hrelay =>
    split
    · exact .inl rfl
    · rw [relayPeer]
      cases t.members[relay]? with
      | none => exact .inl rfl
      | some m => exact .inr ⟨relay, m, rfl⟩
  next => exact .inl rfl

theorem unambiguous_slice (h : t.Separate name) (hwhole : t.range.truncate ≠ t.carrier.truncate)
    (hm : t.members[node]? = some m) : (t.slice node m).Unambiguous := by
  cases hhidden : (t.reachOf node).isHidden with
  | true =>
    have hpeers : (t.slice node m).peers = [] ∨ ∃ relay m', (t.slice node m).peers = [t.hubPeer relay m'] :=
      peers_of_hidden hhidden
    rcases hpeers with hpeers | ⟨relay, m', hpeers⟩
    · constructor
      case apart =>
        rw [hpeers]
        exact .nil
      case once =>
        rw [hpeers]
        exact nofun
    · constructor
      case apart =>
        rw [hpeers]
        exact List.pairwise_singleton _ _
      case once =>
        rw [hpeers, List.forall_mem_singleton]
        exact List.pairwise_pair.2 hwhole
  | false =>
    have hreachable : t.Reachable node m := ⟨hm, hhidden⟩
    exact ⟨apart_peers h hreachable, fun peer hpeer => (pairwise_peers h hreachable hpeer).imp fun hdisjoint =>
      hdisjoint.truncate_ne⟩

theorem keepsOwn_slice (h : t.Separate name) (hm : t.Reachable node m) : (t.slice node m).KeepsOwn t.carrier := by
  intro peer hpeer n hn
  obtain ⟨who, k, hne, hk, hroute⟩ := serves_peers hm hpeer n hn
  have hown := h.others who (some node) k m.subnet hne hk (subnetOf_node hm.member) n hroute
  exact ⟨hown _ List.mem_cons_self, hown _ (List.mem_cons_of_mem _ List.mem_cons_self)⟩

end Topology

/-! ### Plans -/

namespace Planner.Pass

variable {previous : Mesh} {keepalive : UInt32} {x : Pass} {node : NodeId} {s : NetworkSlice}

/-- The networks of members share no address if everyone has a `/24` of the range with a third octet of its own. -/
theorem separate (hlength : previous.range.length.val = 16) (hcarrier : DifferInOctets x.carrier previous.range)
    (hslot : ∀ who n, (x.plan previous keepalive).mesh.subnetOf who = some n → Slot previous.range n)
    (hspread : (x.plan previous keepalive).mesh.Spread) : (x.topology previous).Separate previous.name := by
  have hdisjoint {n : Ipv4Network} (k : Ipv4Network) (hn : Slot previous.range n) :
      n.Disjoint (carrierAddress x.carrier k) := fun address hin =>
    hcarrier.disjoint hlength k address (Ipv4Network.contains_trans hn.within hin)
  constructor
  case own =>
    intro who n hn
    exact hdisjoint n (hslot who n hn)
  case others =>
    intro who other n k hne hn hk a ha b hb
    have hoctets : n.thirdOctet ≠ k.thirdOctet := hspread who other n k hne hn hk
    have hnslot := hslot who n hn
    have hkslot := hslot other k hk
    rcases Topology.mem_routes.1 ha with rfl | rfl
    · rcases Topology.mem_routes.1 hb with rfl | rfl
      · intro address hin hin'
        have hc := (Ipv4Network.octets_of_contains_24 hnslot.length hin).2.2
        have hc' := (Ipv4Network.octets_of_contains_24 hkslot.length hin').2.2
        exact hoctets (hc.symm.trans hc')
      · exact hdisjoint k hnslot
    · rcases Topology.mem_routes.1 hb with rfl | rfl
      · exact (hdisjoint n hkslot).symm
      · intro address hin hin'
        have heq := (eq_of_contains_carrierAddress hin).symm.trans (eq_of_contains_carrierAddress hin')
        exact hoctets (congrArg Ipv4.d heq)

/-- The slice of a node in a plan is that of a member. -/
theorem exists_member (h : (x.plan previous keepalive).sliceOf node = some s) :
    ∃ m, x.members[node]? = some m ∧ (x.topology previous).slice node m = s := by
  cases hm : x.members[node]? with
  | some m =>
    rw [sliceOf_plan hm] at h
    exact ⟨m, rfl, Option.some.inj h⟩
  | none =>
    have hworkload : (x.plan previous keepalive).workloads[node]? = none := by
      show (x.members.map fun node m =>
        Workload.new previous.name (.network ((x.topology previous).slice node m)))[node]? = none
      rw [Std.ExtTreeMap.getElem?_map, hm, Option.map_none]
    rw [MeshPlan.sliceOf, hworkload] at h
    cases h

end Planner.Pass

/-- However passes have led from a new mesh to this one, in the plan of the next that succeeds every node may send each
address to one peer at most, and a node that its survey has not found to be hidden keeps its own, if the carrier range and
the range of the mesh differ in their first two octets. -/
theorem Mesh.Reached.unambiguous {name : String} {range carrier : Ipv4Network} {m : Mesh} {p : Planner} {chance : Chance}
    {targets : Std.ExtTreeSet NodeId} {external : Bool} {plan : MeshPlan} {t t' : Timeline Grid}
    (hm : Reached (new name range) m) (run : p.plan chance m targets external t = .ok (.ok plan, t'))
    (hcarrier : p.settings.carrierRange = .ok carrier) (hoctets : DifferInOctets carrier range) :
    ∃ found t₁, p.survey targets.toList t = .ok (found, t₁) ∧ ∀ node s, plan.sliceOf node = some s →
      s.Unambiguous ∧ (found[node]? ≠ some .hidden → s.KeepsOwn carrier) := by
  obtain ⟨rfl, haddressed, -⟩ := hm.sound
  obtain ⟨x, hx, rfl⟩ := Planner.pass_of_run run
  obtain ⟨t₁, hsurvey⟩ := hx.survey
  obtain rfl := Except.ok.inj (hx.carrierRange_eq.symm.trans hcarrier)
  have hlength : m.range.length.val = 16 := hx.start_over.length
  have hslots := (hx.addressed haddressed p.settings.keepalive).slot
  have hspread := hx.spread haddressed.inside hm.spread p.settings.keepalive
  have hseparate := Planner.Pass.separate hlength hoctets hslots hspread
  have hwhole : m.range.truncate ≠ x.carrier.truncate := by
    intro heq
    have haddress : m.range.networkAddress = x.carrier.networkAddress := congrArg Ipv4Network.address heq
    rcases hoctets with hne | hne
    · exact hne (congrArg Ipv4.a haddress).symm
    · exact hne (congrArg Ipv4.b haddress).symm
  refine ⟨x.found, t₁, hsurvey, fun node s hs => ?_⟩
  obtain ⟨member, hmember, rfl⟩ := Planner.Pass.exists_member hs
  refine ⟨Topology.unambiguous_slice hseparate hwhole hmember, fun hfound => ?_⟩
  have hnode : node ∈ x.nodes targets := hx.mem_members.1 (mem_iff_exists_getElem?.2 ⟨member, hmember⟩)
  have hvisible : ((x.topology m).reachOf node).isHidden = false :=
    Bool.eq_false_iff.2 fun hhidden => hfound ((hx.isHidden_iff hnode).1 hhidden)
  exact Topology.keepsOwn_slice hseparate ⟨hmember, hvisible⟩

/-- A relay with a hidden node and an external member behind it. -/
theorem Mesh.unambiguous_of_hillyPass : ∃ (plan : MeshPlan) (s : NetworkSlice), plan.mesh.relay = some 1 ∧
    plan.sliceOf 1 = some s ∧ s.peers.length = 3 ∧ s.Unambiguous := by
  have hrun : Planner.succeeds (Planner.hillyPass Planner.hillyMesh [1, 2, 3]) (fun plan =>
      plan.mesh.relay = some 1 && (plan.sliceOf 1).any (·.peers.length = 3)) = true := by decide +kernel
  obtain ⟨plan, t, hplan, htest⟩ := Planner.exists_of_succeeds hrun
  rw [Bool.and_eq_true, decide_eq_true_eq, Option.any_eq_true] at htest
  obtain ⟨hrelay, s, hs, hlength⟩ := htest
  obtain ⟨found, t₁, -, hslices⟩ := Reached.unambiguous .start hplan rfl (.inl (by decide))
  exact ⟨plan, s, hrelay, hs, of_decide_eq_true hlength, (hslices 1 s hs).1⟩

end ComputeGrid
