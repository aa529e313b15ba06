import ComputeGrid.Mesh.Plan
import ComputeGrid.Proofs.Maps
import ComputeGrid.Proofs.Mesh.Subnets

/-!
# Links between the members of a mesh

A plan is `Connected` if everyone reaches everyone else, at once or through the relay (`MeshPlan.Reaches`), and the nodes
have the peers that this takes and no others.  A way is made up of hops, and on each of them both sides have a link of
the other: the one lets through what goes to the target, the other what comes from the source, and one of them has an
endpoint (`MeshPlan.Hop`).

In a topology everyone can be reached or is a spoke, for which the relay stands (`Topology.spoke_or_reachable`).  The peers of
a node are the other nodes that can be reached, for the relay also the spokes, and for a hidden node the relay alone
(`Topology.lists_directPeers`, `Topology.lists_of_hub`, `Topology.lists_of_spoke`).
-/

namespace ComputeGrid

/-! ### What peers let through -/

/-- What one side of a tunnel has of the other: the key it is known by, what is sent to it and accepted from it, and where
it is found. -/
structure Link where
  publicKey : String
  allowedIps : List Ipv4Network
  endpoint : String
  deriving DecidableEq, Repr

/-- The link that a peer of a node is. -/
def Peer.link (p : Peer) : Link := ⟨p.publicKey, p.allowedIps, p.endpoint⟩

/-- The subnet and the key of a peer. -/
def Peer.identity (p : Peer) : Ipv4Network × String := (p.subnet, p.publicKey)

/-- The one link of an external member. -/
def QuickConfig.link (c : QuickConfig) : Link := ⟨c.relayPublicKey, c.allowedIps, c.relayEndpoint⟩

/-- A link lets a subnet and its carrier address through. -/
def Link.Carries (carrier n : Ipv4Network) (l : Link) : Prop :=
  (∃ k ∈ l.allowedIps, k.contains n = true) ∧ ∃ k ∈ l.allowedIps, k.contains (carrierAddress carrier n) = true

/-- The subnet and the key of a node, or of the external member. -/
def Mesh.identityOf (m : Mesh) : Option NodeId → Option (Ipv4Network × String)
  | some node => m.nodes[node]?.map fun member => (member.subnet, member.publicKey)
  | none => m.external.map fun e => (e.subnet, e.publicKey)

/-- Peers are those of certain members, one for each. -/
def Mesh.Lists (m : Mesh) (peers : List Peer) (others : Option NodeId → Prop) : Prop :=
  ∃ parties : List (Option NodeId), parties.Nodup ∧ (∀ who, who ∈ parties ↔ others who) ∧
    peers.map (some ·.identity) = parties.map m.identityOf

theorem Mesh.Lists.congr {m : Mesh} {peers : List Peer} {others others' : Option NodeId → Prop} (h : m.Lists peers others)
    (hiff : ∀ who, others who ↔ others' who) : m.Lists peers others' := by
  obtain ⟨parties, hnodup, hmem, heq⟩ := h
  exact ⟨parties, hnodup, fun who => (hmem who).trans (hiff who), heq⟩

theorem Mesh.Lists.append {m : Mesh} {peers peers' : List Peer} {others others' : Option NodeId → Prop}
    (h : m.Lists peers others) (h' : m.Lists peers' others') (hdisjoint : ∀ who, others who → ¬ others' who) :
    m.Lists (peers ++ peers') fun who => others who ∨ others' who := by
  obtain ⟨parties, hnodup, hmem, heq⟩ := h
  obtain ⟨parties', hnodup', hmem', heq'⟩ := h'
  refine ⟨parties ++ parties', ?_, fun who => ?_, ?_⟩
  · rw [List.nodup_append]
    refine ⟨hnodup, hnodup', fun a ha b hb hab => ?_⟩
    subst hab
    exact hdisjoint a ((hmem a).1 ha) ((hmem' a).1 hb)
  · rw [List.mem_append, hmem, hmem']
  · rw [List.map_append, List.map_append, heq, heq']

namespace MeshPlan

/-- The slice that a node is to run. -/
def sliceOf (plan : MeshPlan) (node : NodeId) : Option NetworkSlice :=
  plan.workloads[node]?.bind fun w =>
    match w.payload with
    | .network s => some s
    | _ => none

variable (plan : MeshPlan) (config : Option QuickConfig) (carrier : Ipv4Network)

/-- The link that a member has of another one: a node by its slice, the external member by its configuration. -/
def Holds : Option NodeId → Option NodeId → Link → Prop
  | some node, other, l => ∃ s peer, plan.sliceOf node = some s ∧ peer ∈ s.peers ∧
      plan.mesh.identityOf other = some peer.identity ∧ l = peer.link
  | none, other, l => ∃ c, config = some c ∧ (plan.mesh.identityOf other).map Prod.snd = some c.relayPublicKey ∧ l = c.link

/-- What comes from one subnet goes from one member to another on its way to a second subnet: the first sends it, the other
accepts it, and one of them can find the other. -/
def Hop (source target : Ipv4Network) (a b : Option NodeId) : Prop :=
  ∃ l l', plan.Holds config a b l ∧ plan.Holds config b a l' ∧ l.Carries carrier target ∧ l'.Carries carrier source ∧
    (l.endpoint ≠ "" ∨ l'.endpoint ≠ "")

/-- One member reaches another at once or through the relay. -/
def Reaches (source target : Ipv4Network) (a b : Option NodeId) : Prop :=
  plan.Hop config carrier source target a b ∨
    ∃ relay, plan.mesh.relay = some relay ∧ plan.Hop config carrier source target a (some relay) ∧
      plan.Hop config carrier source target (some relay) b

/-- Everyone reaches everyone else, and nodes have the peers that this takes and no others. -/
structure Connected (hidden : NodeId → Prop) : Prop where
  reaches : ∀ a b n k, a ≠ b → plan.mesh.subnetOf a = some n → plan.mesh.subnetOf b = some k →
    plan.Reaches config carrier n k a b
  ofHidden : ∀ node ∈ plan.mesh.nodes, hidden node → ∃ s, plan.sliceOf node = some s ∧
    ((∃ relay, plan.mesh.relay = some relay ∧ plan.mesh.Lists s.peers (· = some relay)) ∨
      s.peers = [] ∧ ∀ who n, plan.mesh.subnetOf who = some n → who = some node)
  ofAccessible : ∀ node ∈ plan.mesh.nodes, ¬ hidden node → plan.mesh.relay ≠ some node → ∃ s, plan.sliceOf node = some s ∧
    plan.mesh.Lists s.peers fun who => ∃ other ∈ plan.mesh.nodes, who = some other ∧ other ≠ node ∧ ¬ hidden other
  ofRelay : ∀ relay, plan.mesh.relay = some relay → relay ∈ plan.mesh.nodes ∧ ¬ hidden relay ∧
    ∃ s, plan.sliceOf relay = some s ∧
      plan.mesh.Lists s.peers fun who => (∃ n, plan.mesh.subnetOf who = some n) ∧ who ≠ some relay

variable {plan config carrier}

theorem Hop.symm {n k : Ipv4Network} {a b : Option NodeId} (h : plan.Hop config carrier n k a b) :
    plan.Hop config carrier k n b a := by
  obtain ⟨l, l', hl, hl', hk, hn, hendpoint⟩ := h
  exact ⟨l', l, hl', hl, hn, hk, hendpoint.symm⟩

theorem Reaches.symm {n k : Ipv4Network} {a b : Option NodeId} (h : plan.Reaches config carrier n k a b) :
    plan.Reaches config carrier k n b a := by
  rcases h with hdirect | ⟨relay, hrelay, hfirst, hsecond⟩
  · exact .inl hdirect.symm
  · exact .inr ⟨relay, hrelay, hsecond.symm, hfirst.symm⟩

/-- Whether a node is hidden matters for members alone. -/
theorem Connected.congr {hidden hidden' : NodeId → Prop} (h : plan.Connected config carrier hidden)
    (hiff : ∀ node ∈ plan.mesh.nodes, hidden node ↔ hidden' node) : plan.Connected config carrier hidden' := by
  constructor
  case reaches => exact h.reaches
  case ofHidden =>
    intro node hnode hhidden
    exact h.ofHidden node hnode ((hiff node hnode).2 hhidden)
  case ofAccessible =>
    intro node hnode hhidden hrelay
    obtain ⟨s, hs, hlists⟩ := h.ofAccessible node hnode (fun h => hhidden ((hiff node hnode).1 h)) hrelay
    refine ⟨s, hs, hlists.congr fun who => ?_⟩
    constructor
    · rintro ⟨other, hother, heq, hne, hreach⟩
      exact ⟨other, hother, heq, hne, fun h => hreach ((hiff other hother).2 h)⟩
    · rintro ⟨other, hother, heq, hne, hreach⟩
      exact ⟨other, hother, heq, hne, fun h => hreach ((hiff other hother).1 h)⟩
  case ofRelay =>
    intro relay hrelay
    obtain ⟨hmem, hreach, hlists⟩ := h.ofRelay relay hrelay
    exact ⟨hmem, fun h => hreach ((hiff relay hmem).2 h), hlists⟩

end MeshPlan

/-! ### Topologies -/

namespace Topology

variable {t : Topology} {node other relay : NodeId} {m m' : Member} {who : Option NodeId} {name key : String}
  {n k : Ipv4Network} {l : Link}

/-- The mesh of a topology. -/
def mesh (t : Topology) (name : String) : Mesh := ⟨name, t.range, t.members, t.relay, t.external⟩

/-- A member that the relay stands for: a hidden node or the external member. -/
def Spoke (t : Topology) : Option NodeId → Prop
  | some node => node ∈ t.members ∧ (t.reachOf node).isHidden = true
  | none => ∃ e, t.external = some e

/-- A node that can be reached, and what it holds. -/
structure Reachable (t : Topology) (node : NodeId) (m : Member) : Prop where
  member : t.members[node]? = some m
  visible : (t.reachOf node).isHidden = false

/-- The relay, which can be reached, and what it holds. -/
structure Hub (t : Topology) (relay : NodeId) (m : Member) : Prop extends t.Reachable relay m where
  relay : t.relay = some relay

/-- The relay can be reached, and without one there is nobody whom it would stand for beside anyone else. -/
structure Served (t : Topology) (name : String) : Prop where
  hub : ∀ relay, t.relay = some relay → ∃ m, t.Hub relay m
  alone : t.relay = none → ∀ who, t.Spoke who → ∀ other n, (t.mesh name).subnetOf other = some n → other = who

/-! ### Members -/

theorem subnetOf_node (hm : t.members[node]? = some m) : (t.mesh name).subnetOf (some node) = some m.subnet := by
  show t.members[node]?.map (·.subnet) = some m.subnet
  rw [hm, Option.map_some]

theorem identityOf_node (hm : t.members[node]? = some m) :
    (t.mesh name).identityOf (some node) = some (m.subnet, m.publicKey) := by
  show (t.members[node]?.map fun m => (m.subnet, m.publicKey)) = some (m.subnet, m.publicKey)
  rw [hm, Option.map_some]

theorem subnetOf_external {e : ExternalMember} (he : t.external = some e) :
    (t.mesh name).subnetOf none = some e.subnet := by
  show t.external.map (·.subnet) = some e.subnet
  rw [he, Option.map_some]

theorem identityOf_external {e : ExternalMember} (he : t.external = some e) :
    (t.mesh name).identityOf none = some (e.subnet, e.publicKey) := by
  show (t.external.map fun e => (e.subnet, e.publicKey)) = some (e.subnet, e.publicKey)
  rw [he, Option.map_some]

/-- Whoever has a subnet has a key. -/
theorem exists_identity (hn : (t.mesh name).subnetOf who = some n) :
    ∃ key, (t.mesh name).identityOf who = some (n, key) := by
  cases who with
  | some node =>
    obtain ⟨m, hm, rfl⟩ := Option.map_eq_some_iff.1 hn
    exact ⟨m.publicKey, identityOf_node hm⟩
  | none =>
    obtain ⟨e, he, rfl⟩ := Option.map_eq_some_iff.1 hn
    exact ⟨e.publicKey, identityOf_external he⟩

theorem Spoke.exists_subnet (h : t.Spoke who) : ∃ n, (t.mesh name).subnetOf who = some n := by
  cases who with
  | some node =>
    obtain ⟨m, hm⟩ := mem_iff_exists_getElem?.1 h.1
    exact ⟨m.subnet, subnetOf_node hm⟩
  | none =>
    obtain ⟨e, he⟩ := h
    exact ⟨e.subnet, subnetOf_external he⟩

theorem Reachable.not_spoke (h : t.Reachable node m) : ¬ t.Spoke (some node) := by
  rintro ⟨-, hhidden⟩
  rw [h.visible] at hhidden
  cases hhidden

/-- Everyone in the mesh either can be reached or is a spoke. -/
theorem spoke_or_reachable (hn : (t.mesh name).subnetOf who = some n) :
    t.Spoke who ∨ ∃ node m, who = some node ∧ n = m.subnet ∧ t.Reachable node m := by
  cases who with
  | some node =>
    obtain ⟨m, hm, rfl⟩ := Option.map_eq_some_iff.1 hn
    cases hhidden : (t.reachOf node).isHidden with
    | true => exact .inl ⟨mem_iff_exists_getElem?.2 ⟨m, hm⟩, hhidden⟩
    | false => exact .inr ⟨node, m, rfl, rfl, hm, hhidden⟩
  | none =>
    obtain ⟨e, he, -⟩ := Option.map_eq_some_iff.1 hn
    exact .inl ⟨e, he⟩

/-! ### Lists of peers -/

theorem mem_toList_members {entry : NodeId × Member} :
    entry ∈ t.members.toList ↔ t.members[entry.1]? = some entry.2 := by
  rw [← Std.ExtTreeMap.mem_toList_iff_getElem?_eq_some]

/-- The nodes that pass a test, in order. -/
def select (t : Topology) (test : NodeId → Bool) : List (Option NodeId) := (t.members.keys.filter test).map some

theorem nodup_select (test : NodeId → Bool) : (t.select test).Nodup := by
  have hkeys : t.members.keys.Nodup := nodup_keys t.members
  rw [select, List.Nodup, List.pairwise_map]
  exact (hkeys.filter test).imp fun hne heq => hne (Option.some.inj heq)

theorem mem_select {test : NodeId → Bool} : who ∈ t.select test ↔ ∃ node ∈ t.members, who = some node ∧ test node = true := by
  simp only [select, List.mem_map, List.mem_filter, Std.ExtTreeMap.mem_keys, and_assoc, eq_comm]
  constructor
  · rintro ⟨node, hnode, htest, rfl⟩
    exact ⟨node, hnode, rfl, htest⟩
  · rintro ⟨node, hnode, rfl, htest⟩
    exact ⟨node, hnode, htest, rfl⟩

/-- Peers that are made of the nodes that pass a test are those of these nodes, if each has the subnet and key of its node. -/
theorem map_identity_filterMap {test : NodeId → Bool} {f : NodeId × Member → Option Peer}
    (h : ∀ node m, (f (node, m)).map Peer.identity = if test node then some (m.subnet, m.publicKey) else none) :
    (t.members.toList.filterMap f).map (some ·.identity) = (t.select test).map (t.mesh name).identityOf := by
  -- the entries of the list are those of the map, whichever of them are still to come
  have hentries : ∀ l : List (NodeId × Member), (∀ entry ∈ l, entry ∈ t.members.toList) →
      (l.filterMap f).map (some ·.identity) = (((l.map Prod.fst).filter test).map some).map (t.mesh name).identityOf := by
    intro l
    induction l with
    | nil => exact fun _ => rfl
    | cons entry l ih =>
      intro hl
      obtain ⟨node, m⟩ := entry
      obtain ⟨hentry, hrest⟩ := List.forall_mem_cons.1 hl
      have hm : t.members[node]? = some m := mem_toList_members.1 hentry
      have hidentity : (t.mesh name).identityOf (some node) = some (m.subnet, m.publicKey) := identityOf_node hm
      have hf := h node m
      cases htest : test node with
      | false =>
        rw [htest, if_neg Bool.false_ne_true, Option.map_eq_none_iff] at hf
        rw [List.filterMap_cons_none hf, List.map_cons, List.filter_cons_of_neg (by rw [htest]; exact Bool.false_ne_true)]
        exact ih hrest
      | true =>
        rw [htest, if_pos rfl, Option.map_eq_some_iff] at hf
        obtain ⟨peer, hf, hpeer⟩ := hf
        rw [List.filterMap_cons_some hf, List.map_cons, List.map_cons, List.filter_cons_of_pos htest, List.map_cons,
          List.map_cons, hpeer, hidentity, ih hrest]
  rw [hentries _ fun _ hentry => hentry, select, Std.ExtTreeMap.map_fst_toList_eq_keys]

theorem lists_directPeers : (t.mesh name).Lists (t.directPeers node) fun who =>
    ∃ other ∈ t.members, who = some other ∧ other ≠ node ∧ (t.reachOf other).isHidden = false := by
  refine ⟨t.select fun other => other ≠ node && !(t.reachOf other).isHidden, nodup_select _, fun who => ?_, ?_⟩
  · simp only [mem_select, Bool.and_eq_true, decide_eq_true_eq, Bool.not_eq_true']
  · apply map_identity_filterMap
    intro other m
    dsimp only
    by_cases h : other = node ∨ (t.reachOf other).isHidden = true
    · rw [if_pos h, if_neg, Option.map_none]
      simp only [Bool.and_eq_true, decide_eq_true_eq, Bool.not_eq_true']
      rintro ⟨hne, haccessible⟩
      rcases h with heq | hhidden
      · exact hne heq
      · rw [haccessible] at hhidden
        cases hhidden
    · rw [if_neg h, if_pos, Option.map_some]
      · rfl
      · rw [not_or, Bool.not_eq_true] at h
        simp only [Bool.and_eq_true, decide_eq_true_eq, Bool.not_eq_true']
        exact h

theorem lists_hidden : (t.mesh name).Lists (t.hidden.map fun m => t.dialingPeer m.subnet m.publicKey) fun who =>
    ∃ other ∈ t.members, who = some other ∧ (t.reachOf other).isHidden = true := by
  refine ⟨t.select fun other => (t.reachOf other).isHidden, nodup_select _, fun who => mem_select, ?_⟩
  rw [hidden, List.map_filterMap]
  apply map_identity_filterMap
  intro other m
  dsimp only
  by_cases h : (t.reachOf other).isHidden = true
  · rw [if_pos h, if_pos h]
    rfl
  · rw [if_neg h, if_neg h]
    rfl

theorem lists_external : (t.mesh name).Lists (t.external.map fun e => t.dialingPeer e.subnet e.publicKey).toList
    fun who => who = none ∧ ∃ e, t.external = some e := by
  cases he : t.external with
  | none => exact ⟨[], List.nodup_nil, by simp, rfl⟩
  | some e =>
    refine ⟨[none], List.pairwise_singleton _ _, by simp, ?_⟩
    rw [List.map_singleton, identityOf_external he]
    rfl

/-- The peers of the relay that dial in are the spokes. -/
theorem lists_dialingPeers : (t.mesh name).Lists t.dialingPeers t.Spoke := by
  refine (lists_hidden.append lists_external ?_).congr fun who => ?_
  · rintro who ⟨other, -, rfl, -⟩ ⟨h, -⟩
    cases h
  · cases who with
    | some node =>
      constructor
      · rintro (⟨other, hmem, heq, hhidden⟩ | ⟨h, -⟩)
        · cases heq
          exact ⟨hmem, hhidden⟩
        · cases h
      · rintro ⟨hmem, hhidden⟩
        exact .inl ⟨node, hmem, rfl, hhidden⟩
    | none =>
      constructor
      · rintro (⟨other, -, heq, -⟩ | ⟨-, h⟩)
        · cases heq
        · exact h
      · exact fun h => .inr ⟨rfl, h⟩

/-! ### The peers of a node -/

/-- The relay as the peer of a spoke. -/
def hubPeer (t : Topology) (relay : NodeId) (m : Member) : Peer :=
  ⟨m.subnet, m.publicKey, t.wholeRange, t.endpoint relay m⟩

theorem peers_of_spoke (hspoke : t.Spoke (some node)) (hub : t.Hub relay m) : t.peers node = [t.hubPeer relay m] := by
  have hne : relay ≠ node := by
    rintro rfl
    exact hub.not_spoke hspoke
  rw [peers, if_pos hspoke.2, hub.relay]
  dsimp only
  rw [if_neg hne, relayPeer, hub.member]
  rfl

theorem peers_of_alone (hspoke : t.Spoke (some node)) (hrelay : t.relay = none) : t.peers node = [] := by
  rw [peers, if_pos hspoke.2, hrelay]

theorem peers_of_reachable (h : t.Reachable node m) (hrelay : t.relay ≠ some node) : t.peers node = t.directPeers node := by
  rw [peers, h.visible, if_neg Bool.false_ne_true, if_neg hrelay, List.append_nil]

theorem peers_of_hub (hub : t.Hub relay m) : t.peers relay = t.directPeers relay ++ t.dialingPeers := by
  rw [peers, hub.visible, if_neg Bool.false_ne_true, if_pos hub.relay]

theorem directPeer_mem_peers (h : t.Reachable node m) (h' : t.Reachable other m') (hne : node ≠ other) :
    t.directPeer other m' ∈ t.peers node := by
  rw [peers, h.visible, if_neg Bool.false_ne_true, directPeers]
  refine List.mem_append_left _ (List.mem_filterMap.2 ⟨(other, m'), mem_toList_members.2 h'.member, if_neg ?_⟩)
  rintro (heq | hhidden)
  · exact hne heq.symm
  · rw [h'.visible] at hhidden
    cases hhidden

theorem dialingPeer_mem_peers (hub : t.Hub relay m) (hspoke : t.Spoke who)
    (hwho : (t.mesh name).identityOf who = some (n, key)) : t.dialingPeer n key ∈ t.peers relay := by
  rw [peers_of_hub hub, dialingPeers]
  refine List.mem_append_right _ (List.mem_append.2 ?_)
  cases who with
  | some node =>
    obtain ⟨k, hk, heq⟩ := Option.map_eq_some_iff.1 hwho
    cases heq
    refine .inl (List.mem_map.2 ⟨k, ?_, rfl⟩)
    rw [hidden, List.mem_filterMap]
    exact ⟨(node, k), mem_toList_members.2 hk, if_pos hspoke.2⟩
  | none =>
    obtain ⟨e, he, heq⟩ := Option.map_eq_some_iff.1 hwho
    cases heq
    refine .inr ?_
    rw [show t.external = some e from he]
    exact List.mem_cons_self

/-- A hidden node has the relay as its one peer. -/
theorem lists_of_spoke (hspoke : t.Spoke (some node)) (hub : t.Hub relay m) :
    (t.mesh name).Lists (t.peers node) (· = some relay) := by
  refine ⟨[some relay], List.pairwise_singleton _ _, fun who => List.mem_singleton, ?_⟩
  rw [peers_of_spoke hspoke hub, List.map_singleton, List.map_singleton, identityOf_node hub.member]
  rfl

/-- The relay has everyone else as its peers. -/
theorem lists_of_hub (hub : t.Hub relay m) :
    (t.mesh name).Lists (t.peers relay) fun who => (∃ n, (t.mesh name).subnetOf who = some n) ∧ who ≠ some relay := by
  rw [peers_of_hub hub]
  refine (lists_directPeers.append lists_dialingPeers ?_).congr fun who => ⟨?_, ?_⟩
  · rintro _ ⟨other, -, rfl, -, hvisible⟩ ⟨-, hhidden⟩
    rw [hvisible] at hhidden
    cases hhidden
  · rintro (⟨other, hother, rfl, hne, hvisible⟩ | hspoke)
    · obtain ⟨m', hm'⟩ := mem_iff_exists_getElem?.1 hother
      have hreachable : t.Reachable other m' := ⟨hm', hvisible⟩
      exact ⟨⟨_, subnetOf_node hreachable.member⟩, fun heq => hne (Option.some.inj heq)⟩
    · refine ⟨hspoke.exists_subnet, ?_⟩
      rintro rfl
      exact hub.not_spoke hspoke
  · rintro ⟨⟨n, hn⟩, hne⟩
    rcases spoke_or_reachable hn with hspoke | ⟨other, m', rfl, -, hreachable⟩
    · exact .inr hspoke
    · refine .inl ⟨other, mem_iff_exists_getElem?.2 ⟨m', hreachable.member⟩, rfl, ?_, hreachable.visible⟩
      exact fun heq => hne (congrArg some heq)

/-! ### What links carry -/

theorem endpoint_ne_empty (h : t.Reachable node m) : t.endpoint node m ≠ "" := by
  unfold endpoint
  intro hempty
  have hlist := congrArg String.toList hempty
  cases hreach : t.reachOf node with
  | hidden =>
    have hvisible := h.visible
    rw [hreach] at hvisible
    cases hvisible
  | ipv4 address =>
    rw [hreach, Reachability.endpoint?, Option.getD_some, String.toList_ofList] at hlist
    simp at hlist
  | ipv6 address =>
    rw [hreach, Reachability.endpoint?, Option.getD_some, String.toList_ofList] at hlist
    cases hlist

theorem carries_routes (h : ∀ k ∈ t.routes n, k ∈ l.allowedIps) : l.Carries t.carrier n := by
  have hn : n ∈ l.allowedIps := h n List.mem_cons_self
  have hcarrier : carrierAddress t.carrier n ∈ l.allowedIps := h _ (List.mem_cons_of_mem _ List.mem_cons_self)
  exact ⟨⟨n, hn, n.contains_refl⟩, _, hcarrier, Ipv4Network.contains_refl _⟩

theorem carries_wholeRange (hlength : t.carrier.length.val ≤ 16) (hn : t.range.contains n = true)
    (h : l.allowedIps = t.wholeRange) : l.Carries t.carrier n := by
  have hrange : t.range ∈ l.allowedIps := h ▸ List.mem_cons_self
  have hcarrier : t.carrier ∈ l.allowedIps := h ▸ List.mem_cons_of_mem _ List.mem_cons_self
  exact ⟨⟨_, hrange, hn⟩, _, hcarrier, contains_carrierAddress hlength n⟩

theorem mem_behindRelay (hspoke : t.Spoke who) (hn : (t.mesh name).subnetOf who = some n) : n ∈ t.behindRelay := by
  rw [behindRelay, List.mem_append]
  cases who with
  | some node =>
    obtain ⟨m, hm, rfl⟩ := Option.map_eq_some_iff.1 hn
    refine .inl (List.mem_map.2 ⟨m, ?_, rfl⟩)
    rw [hidden, List.mem_filterMap]
    exact ⟨(node, m), mem_toList_members.2 hm, if_pos hspoke.2⟩
  | none =>
    refine .inr ?_
    rw [show t.external.map (·.subnet) = some n from hn]
    exact List.mem_cons_self

theorem carries_directPeer : (t.directPeer node m).link.Carries t.carrier m.subnet :=
  carries_routes fun _ hk => List.mem_append_left _ hk

/-- The link of the relay as a node that can be reached carries what goes to the spokes. -/
theorem carries_directPeer_hub (hub : t.Hub relay m) (hspoke : t.Spoke who)
    (hn : (t.mesh name).subnetOf who = some n) : (t.directPeer relay m).link.Carries t.carrier n := by
  apply carries_routes
  intro k hk
  refine List.mem_append_right _ ?_
  rw [if_pos hub.relay, List.mem_flatMap]
  exact ⟨n, mem_behindRelay hspoke hn, hk⟩

end Topology

end ComputeGrid
