import ComputeGrid.Proofs.Mesh.Peers
import ComputeGrid.Proofs.Mesh.QuickConfig
import ComputeGrid.Proofs.Mesh.Relays
import ComputeGrid.Proofs.Mesh.Stability

/-!
# Plans in which everyone reaches everyone else

In the topology that a pass ends in a relay can be reached, and there is one unless everyone can be reached or a node is
alone (`Pass.Valid.served`).  So nodes that can be reached have links of one another, spokes and the relay have links of
one another (`holds_direct`, `holds_hub`, `holds_spoke`), and what everyone sends to anyone else gets there
(`reaches_of_ne`).  The link of the external member is read in the text of its configuration, for keys that belong together
and the endpoint of a relay are without the characters that would end them there (`Pass.Valid.legible_configFor`,
`Pass.Valid.ofText?_config`).  Over any run of passes from a new mesh the plans are connected (`Mesh.Reached.connected`).
-/

namespace ComputeGrid

/-! ### The links of a plan -/

namespace Planner.Pass

variable {previous : Mesh} {keepalive : UInt32} {x : Pass} {node other relay : NodeId} {m : Member} {who : Option NodeId}
  {n k : Ipv4Network}

/-- The topology that a pass ends in. -/
def topology (x : Pass) (previous : Mesh) : Topology :=
  ⟨previous.range, x.carrier, x.members, x.reach, x.relay, x.outside.map (·.member)⟩

/-- What the configuration of an external member says. -/
def configFor (x : Pass) (previous : Mesh) (keepalive : UInt32) (outside : MeshPlan.External) (relay : NodeId)
    (m : Member) : QuickConfig where
  address := carrierAddress x.carrier outside.subnet
  privateKey := outside.keys.privateKey
  relayPublicKey := m.publicKey
  relayEndpoint := (x.topology previous).endpoint relay m
  allowedIps := (x.topology previous).wholeRange
  keepalive := keepalive

/-- What the configuration of the external member says, if there is one. -/
def config (x : Pass) (previous : Mesh) (keepalive : UInt32) : Option QuickConfig :=
  x.outside.bind fun outside => x.relay.bind fun relay => x.members[relay]?.map (x.configFor previous keepalive outside relay)

theorem externalConfig_plan :
    (x.plan previous keepalive).externalConfig = (x.config previous keepalive).map QuickConfig.render := by
  have hplan : (x.plan previous keepalive).externalConfig = x.outside.bind fun outside => x.relay.bind fun relay =>
      MeshPlan.configOf (x.topology previous) keepalive outside relay := rfl
  rw [hplan, config, Option.map_bind]
  congr 1
  funext outside
  rw [Function.comp_apply, Option.map_bind]
  congr 1
  funext relay
  rw [Function.comp_apply, Option.map_map, MeshPlan.configOf]
  simp only [Function.comp_def, topology, configFor]

theorem sliceOf_plan (hm : x.members[node]? = some m) :
    (x.plan previous keepalive).sliceOf node = some ((x.topology previous).slice node m) := by
  have hworkload : (x.plan previous keepalive).workloads[node]? =
      some (Workload.new previous.name (.network ((x.topology previous).slice node m))) := by
    show (x.members.map fun node m =>
      Workload.new previous.name (.network ((x.topology previous).slice node m)))[node]? = _
    rw [Std.ExtTreeMap.getElem?_map, hm, Option.map_some]
  rw [MeshPlan.sliceOf, hworkload]
  rfl

/-! ### Links between members -/

section Links

variable {a b : NodeId} {m m' : Member} {key : String}

/-- Nodes that can be reached have links of one another. -/
theorem holds_direct (hne : a ≠ b) (ha : (x.topology previous).Reachable a m) (hb : (x.topology previous).Reachable b m') :
    (x.plan previous keepalive).Holds (x.config previous keepalive) (some a) (some b)
      ((x.topology previous).directPeer b m').link :=
  ⟨_, _, sliceOf_plan ha.member, Topology.directPeer_mem_peers ha hb hne, Topology.identityOf_node hb.member, rfl⟩

/-- A spoke has a link of the relay. -/
theorem holds_hub (hspoke : (x.topology previous).Spoke who) (hub : (x.topology previous).Hub relay m) :
    (x.plan previous keepalive).Holds (x.config previous keepalive) who (some relay)
      ((x.topology previous).hubPeer relay m).link := by
  cases who with
  | some node =>
    obtain ⟨k, hk⟩ := mem_iff_exists_getElem?.1 hspoke.1
    refine ⟨_, (x.topology previous).hubPeer relay m, sliceOf_plan hk, ?_, Topology.identityOf_node hub.member, rfl⟩
    show _ ∈ (x.topology previous).peers node
    rw [Topology.peers_of_spoke hspoke hub]
    exact List.mem_cons_self
  | none =>
    obtain ⟨e, he⟩ := hspoke
    obtain ⟨outside, houtside, -⟩ := Option.map_eq_some_iff.1 he
    have hconfig : x.config previous keepalive = some (x.configFor previous keepalive outside relay m) := by
      rw [config, houtside, Option.bind_some, show x.relay = some relay from hub.relay, Option.bind_some,
        show x.members[relay]? = some m from hub.member, Option.map_some]
    exact ⟨_, hconfig, congrArg (Option.map Prod.snd) (Topology.identityOf_node hub.member), rfl⟩

/-- The relay has a link of each spoke. -/
theorem holds_spoke (hspoke : (x.topology previous).Spoke who) (hub : (x.topology previous).Hub relay m)
    (hwho : (x.plan previous keepalive).mesh.identityOf who = some (n, key)) :
    (x.plan previous keepalive).Holds (x.config previous keepalive) (some relay) who
      ((x.topology previous).dialingPeer n key).link :=
  ⟨_, _, sliceOf_plan hub.member, Topology.dialingPeer_mem_peers hub hspoke hwho, hwho, rfl⟩

/-! ### Hops -/

theorem hop_direct (hne : a ≠ b) (ha : (x.topology previous).Reachable a m) (hb : (x.topology previous).Reachable b m') :
    (x.plan previous keepalive).Hop (x.config previous keepalive) x.carrier m.subnet m'.subnet (some a) (some b) :=
  ⟨_, _, holds_direct hne ha hb, holds_direct hne.symm hb ha, Topology.carries_directPeer, Topology.carries_directPeer,
    .inl (Topology.endpoint_ne_empty hb)⟩

/-- What comes from a spoke goes to the relay, wherever in the range it is to go. -/
theorem hop_spoke (hlength : x.carrier.length.val ≤ 16) (hspoke : (x.topology previous).Spoke who)
    (hub : (x.topology previous).Hub relay m) (hn : (x.plan previous keepalive).mesh.subnetOf who = some n)
    (hk : previous.range.contains k = true) :
    (x.plan previous keepalive).Hop (x.config previous keepalive) x.carrier n k who (some relay) := by
  obtain ⟨key, hwho⟩ := Topology.exists_identity (t := x.topology previous) hn
  refine ⟨_, _, holds_hub hspoke hub, holds_spoke hspoke hub hwho, ?_, ?_, ?_⟩
  · exact Topology.carries_wholeRange (t := x.topology previous) hlength hk rfl
  · exact Topology.carries_routes (t := x.topology previous) fun _ h => h
  · exact .inl (Topology.endpoint_ne_empty hub.toReachable)

/-- What a node that can be reached sends to a spoke goes to the relay. -/
theorem hop_toSpoke (hne : a ≠ relay) (ha : (x.topology previous).Reachable a m') (hspoke : (x.topology previous).Spoke who)
    (hub : (x.topology previous).Hub relay m) (hk : (x.plan previous keepalive).mesh.subnetOf who = some k) :
    (x.plan previous keepalive).Hop (x.config previous keepalive) x.carrier m'.subnet k (some a) (some relay) := by
  refine ⟨_, _, holds_direct hne ha hub.toReachable, holds_direct hne.symm hub.toReachable ha, ?_, ?_, ?_⟩
  · exact Topology.carries_directPeer_hub hub hspoke hk
  · exact Topology.carries_directPeer
  · exact .inl (Topology.endpoint_ne_empty hub.toReachable)

end Links

/-! ### Everyone reaches everyone else -/

section Served

variable (hserved : (x.topology previous).Served previous.name) (hlength : x.carrier.length.val ≤ 16)
  (hwithin : ∀ who n, (x.plan previous keepalive).mesh.subnetOf who = some n → previous.range.contains n = true)
include hserved hlength hwithin

/-- A spoke reaches everyone else. -/
theorem reaches_of_spoke {a b : Option NodeId} (hne : a ≠ b) (hspoke : (x.topology previous).Spoke a)
    (hn : (x.plan previous keepalive).mesh.subnetOf a = some n)
    (hk : (x.plan previous keepalive).mesh.subnetOf b = some k) :
    (x.plan previous keepalive).Reaches (x.config previous keepalive) x.carrier n k a b := by
  cases hrelay : x.relay with
  | none => exact absurd (hserved.alone hrelay a hspoke b k hk).symm hne
  | some relay =>
    obtain ⟨m, hub⟩ := hserved.hub relay hrelay
    -- the first hop is to the relay whoever is meant, and only what kind of member that is decides on the second
    have hfirst : (x.plan previous keepalive).Hop (x.config previous keepalive) x.carrier n k a (some relay) :=
      hop_spoke hlength hspoke hub hn (hwithin b k hk)
    rcases Topology.spoke_or_reachable (t := x.topology previous) hk with hspoke' | ⟨node, m', rfl, rfl, hreachable⟩
    · exact .inr ⟨relay, hrelay, hfirst, (hop_spoke hlength hspoke' hub hk (hwithin a n hn)).symm⟩
    · by_cases heq : node = relay
      · subst heq
        exact .inl hfirst
      · exact .inr ⟨relay, hrelay, hfirst, (hop_toSpoke heq hreachable hspoke hub hn).symm⟩

theorem reaches_of_ne {a b : Option NodeId} (hne : a ≠ b) (hn : (x.plan previous keepalive).mesh.subnetOf a = some n)
    (hk : (x.plan previous keepalive).mesh.subnetOf b = some k) :
    (x.plan previous keepalive).Reaches (x.config previous keepalive) x.carrier n k a b := by
  rcases Topology.spoke_or_reachable (t := x.topology previous) hn with hspoke | ⟨node, m, rfl, rfl, hreachable⟩
  · exact reaches_of_spoke hserved hlength hwithin hne hspoke hn hk
  · rcases Topology.spoke_or_reachable (t := x.topology previous) hk with hspoke' | ⟨node', m', rfl, rfl, hreachable'⟩
    · exact (reaches_of_spoke hserved hlength hwithin hne.symm hspoke' hk hn).symm
    · have hnodes : node ≠ node' := fun heq => hne (congrArg some heq)
      exact .inl (hop_direct hnodes hreachable hreachable')

theorem connected_of_served : (x.plan previous keepalive).Connected (x.config previous keepalive) x.carrier
    fun node => ((x.topology previous).reachOf node).isHidden = true := by
  constructor
  case reaches =>
    intro a b n k hne hn hk
    exact reaches_of_ne hserved hlength hwithin hne hn hk
  case ofHidden =>
    intro node hnode hhidden
    obtain ⟨m, hm⟩ := mem_iff_exists_getElem?.1 hnode
    have hspoke : (x.topology previous).Spoke (some node) := ⟨hnode, hhidden⟩
    refine ⟨_, sliceOf_plan hm, ?_⟩
    cases hrelay : x.relay with
    | some relay =>
      obtain ⟨k, hub⟩ := hserved.hub relay hrelay
      exact .inl ⟨relay, hrelay, Topology.lists_of_spoke hspoke hub⟩
    | none => exact .inr ⟨Topology.peers_of_alone hspoke hrelay, hserved.alone hrelay (some node) hspoke⟩
  case ofAccessible =>
    intro node hnode hvisible hrelay
    obtain ⟨m, hm⟩ := mem_iff_exists_getElem?.1 hnode
    have hreachable : (x.topology previous).Reachable node m := ⟨hm, Bool.eq_false_iff.2 hvisible⟩
    refine ⟨_, sliceOf_plan hm, ?_⟩
    show Mesh.Lists _ ((x.topology previous).peers node) _
    rw [Topology.peers_of_reachable hreachable hrelay]
    refine Topology.lists_directPeers.congr fun who => ?_
    simp only [Bool.not_eq_true]
    rfl
  case ofRelay =>
    intro relay hrelay
    obtain ⟨m, hub⟩ := hserved.hub relay hrelay
    refine ⟨mem_iff_exists_getElem?.2 ⟨m, hub.member⟩, ?_, _, sliceOf_plan hub.member, Topology.lists_of_hub hub⟩
    exact Bool.eq_false_iff.1 hub.visible

end Served

/-! ### Passes that succeed -/

section Valid

variable {p : Planner} {chance : Chance} {targets : Std.ExtTreeSet NodeId} {external : Bool} {t : Timeline Grid}

theorem eq_of_size_le {a b : NodeId} (h : ¬ 1 < targets.size) (ha : a ∈ targets) (hb : b ∈ targets) : a = b := by
  rw [← Std.ExtTreeSet.length_toList] at h
  rw [← Std.ExtTreeSet.mem_toList] at ha hb
  cases hlist : targets.toList with
  | nil =>
    rw [hlist] at ha
    cases ha
  | cons first rest =>
    rw [hlist, List.length_cons] at h
    have hrest : rest = [] := List.eq_nil_of_length_eq_zero (by omega)
    subst hrest
    rw [hlist, List.mem_singleton] at ha hb
    rw [ha, hb]

/-- The targets are reached as the survey has found. -/
theorem Valid.reach_target (hx : x.Valid p chance previous targets external t) (hnode : node ∈ targets) :
    x.reach[node]? = x.found[node]? := by
  obtain ⟨t₁, t₂, hrelay⟩ := hx.relay
  obtain ⟨t₃, hsurvey⟩ := hx.survey
  rcases relayFor_eq_ok hrelay with ⟨-, -, hreach⟩ | ⟨-, relay, -, hchoose⟩
  · rw [hreach]
  · have hrelays := chooseRelay_eq_ok (fun node hnode => (mem_survey hsurvey node).2 hnode) hchoose
    exact hrelays.targets node (Std.ExtTreeSet.mem_toList.2 hnode)

/-- The relay is reached at an IPv4 address. -/
theorem Valid.reach_relay (hx : x.Valid p chance previous targets external t) (hsome : x.relay = some relay) :
    ∃ r : Reachability, x.reach[relay]? = some r ∧ r.isIpv4 = true := by
  obtain ⟨t₁, t₂, hrelay⟩ := hx.relay
  obtain ⟨t₃, hsurvey⟩ := hx.survey
  rw [hsome] at hrelay
  rcases relayFor_eq_ok hrelay with ⟨-, hnone, -⟩ | ⟨-, relay', heq, hchoose⟩
  · cases hnone
  · cases heq
    exact (chooseRelay_eq_ok (fun node hnode => (mem_survey hsurvey node).2 hnode) hchoose).ipv4

/-- Without a relay nobody needs one. -/
theorem Valid.needsRelay_eq_false (hx : x.Valid p chance previous targets external t) (hnone : x.relay = none) :
    needsRelay targets external x.found = false := by
  obtain ⟨t₁, t₂, hrelay⟩ := hx.relay
  rw [hnone] at hrelay
  rcases relayFor_eq_ok hrelay with ⟨hneeds, -, -⟩ | ⟨-, relay, hsome, -⟩
  · exact hneeds
  · cases hsome

theorem reachOf_eq {r : Reachability} (h : x.reach[node]? = some r) : (x.topology previous).reachOf node = r := by
  rw [Topology.reachOf, Std.ExtTreeMap.getD_eq_getD_getElem?, show (x.topology previous).reach[node]? = some r from h,
    Option.getD_some]

theorem isHidden_of_isIpv4 {r : Reachability} (h : r.isIpv4 = true) : r.isHidden = false := by
  cases r with
  | ipv4 _ => rfl
  | ipv6 _ => rfl
  | hidden => cases h

/-- The relay is not hidden. -/
theorem Valid.isHidden_relay (hx : x.Valid p chance previous targets external t) (hsome : x.relay = some relay) :
    ((x.topology previous).reachOf relay).isHidden = false := by
  obtain ⟨r, hr, hipv4⟩ := hx.reach_relay hsome
  rw [reachOf_eq hr, isHidden_of_isIpv4 hipv4]

/-- A target is hidden if the survey has found so, and a relay that is no target is not. -/
theorem Valid.isHidden_iff (hx : x.Valid p chance previous targets external t) (hnode : node ∈ x.nodes targets) :
    ((x.topology previous).reachOf node).isHidden = true ↔ x.found[node]? = some .hidden := by
  obtain ⟨t₁, hsurvey⟩ := hx.survey
  have hfound : node ∈ x.found ↔ node ∈ targets := (mem_survey hsurvey node).trans Std.ExtTreeSet.mem_toList
  by_cases htarget : node ∈ targets
  · obtain ⟨r, hr⟩ := mem_iff_exists_getElem?.1 (hfound.2 htarget)
    rw [reachOf_eq ((hx.reach_target htarget).trans hr), hr, Option.some.injEq]
    cases r with
    | hidden => exact ⟨fun _ => rfl, fun _ => rfl⟩
    | ipv4 _ => exact ⟨nofun, nofun⟩
    | ipv6 _ => exact ⟨nofun, nofun⟩
  · -- the survey has not asked a relay that is no target
    have hrelay : x.relay = some node := (mem_participants.1 hnode).resolve_left htarget
    rw [hx.isHidden_relay hrelay, getElem?_eq_none_iff.2 fun hmem => htarget (hfound.1 hmem)]
    exact ⟨nofun, nofun⟩

theorem Valid.served (hx : x.Valid p chance previous targets external t) :
    (x.topology previous).Served previous.name := by
  constructor
  case hub =>
    intro relay hsome
    have hmem : relay ∈ x.members := hx.mem_members.2 (mem_participants.2 (.inr hsome))
    obtain ⟨m, hm⟩ := mem_iff_exists_getElem?.1 hmem
    exact ⟨m, ⟨hm, hx.isHidden_relay hsome⟩, hsome⟩
  case alone =>
    intro hnone who hspoke other n hn
    have hneeds := hx.needsRelay_eq_false hnone
    rw [needsRelay, Bool.or_eq_false_iff, Bool.and_eq_false_iff] at hneeds
    -- nobody asked for access from outside, so there is no external member
    have houtside : (x.topology previous).external = none := by
      show x.outside.map (·.member) = none
      rcases outsideFor_eq_ok hx.outside with ⟨-, houtside, -⟩ | ⟨htrue, -⟩
      · rw [houtside, Option.map_none]
      · rw [hneeds.1] at htrue
        cases htrue
    have htarget {node : NodeId} (hnode : node ∈ x.members) : node ∈ targets := by
      refine (mem_participants.1 (hx.mem_members.1 hnode)).resolve_right fun hsome => ?_
      rw [show x.relay = none from hnone] at hsome
      cases hsome
    cases who with
    | none =>
      obtain ⟨e, he⟩ := hspoke
      rw [houtside] at he
      cases he
    | some node =>
      obtain ⟨hnode, hhidden⟩ := hspoke
      rw [hx.isHidden_iff (hx.mem_members.1 hnode)] at hhidden
      -- a hidden node that needs no relay is the only target
      have hsize : ¬ 1 < targets.size := by
        rcases hneeds.2 with hany | hsize
        · rw [any_isHidden_iff.2 ⟨_, hhidden⟩] at hany
          cases hany
        · exact of_decide_eq_false hsize
      cases other with
      | none =>
        obtain ⟨e, he, -⟩ := Option.map_eq_some_iff.1 hn
        rw [show ((x.topology previous).mesh previous.name).external = none from houtside] at he
        cases he
      | some other =>
        obtain ⟨m, hm, -⟩ := Option.map_eq_some_iff.1 hn
        have hother : other ∈ x.members := mem_iff_exists_getElem?.2 ⟨m, hm⟩
        exact congrArg some (eq_of_size_le hsize (htarget hother) (htarget hnode))

/-- The relay is found at an IPv4 address and its port. -/
theorem Valid.endpoint_relay (hx : x.Valid p chance previous targets external t) (hsome : x.relay = some relay) :
    ∃ address : Ipv4, (x.topology previous).endpoint relay m =
      String.ofList (address.chars ++ ':' :: Text.numeral m.port.toNat) := by
  obtain ⟨r, hr, hipv4⟩ := hx.reach_relay hsome
  rw [Topology.endpoint, reachOf_eq hr]
  cases r with
  | ipv4 address => exact ⟨address, rfl⟩
  | ipv6 _ => cases hipv4
  | hidden => cases hipv4

/-- The keys and the endpoint in the configuration of the external member are without the characters that end them in its
text. -/
theorem Valid.legible_configFor (hx : x.Valid p chance previous targets external t)
    (hkeys : ∀ (node : NodeId) m, previous.nodes[node]? = some m → m.Keyed) {outside : MeshPlan.External}
    (houtside : x.outside = some outside) (hrelay : x.relay = some relay) (hm : x.members[relay]? = some m) :
    (x.configFor previous keepalive outside relay m).Legible := by
  constructor
  case privateKey =>
    intro hmem
    rcases KeyPair.cases_of_mem_privateKey (hx.keys_outside houtside) hmem with h | h | h
    all_goals
      revert h
      decide
  case publicKey =>
    intro hmem
    have hblank := KeyPair.isBlank_of_mem_publicKey (hx.keyed_members hkeys relay m hm) hmem
    revert hblank
    decide
  case endpoint =>
    obtain ⟨address, hendpoint⟩ := hx.endpoint_relay (m := m) hrelay
    intro hmem
    rw [configFor, hendpoint, String.toList_ofList, List.mem_append, List.mem_cons] at hmem
    rcases hmem with h | h | h
    · rcases Ipv4.isDigit_of_mem_chars h with h | h
      all_goals
        revert h
        decide
    · revert h
      decide
    · cases Text.isDigit_of_mem_numeral h

/-- The text of the external member's configuration is read as the configuration. -/
theorem Valid.ofText?_config (hx : x.Valid p chance previous targets external t)
    (hkeys : ∀ (node : NodeId) m, previous.nodes[node]? = some m → m.Keyed) (keepalive : UInt32) :
    (x.plan previous keepalive).externalConfig.map QuickConfig.ofText? = (x.config previous keepalive).map some := by
  rw [externalConfig_plan, Option.map_map]
  refine Option.map_congr fun c hc => QuickConfig.ofText?_render ?_
  obtain ⟨outside, houtside, hc⟩ := Option.bind_eq_some_iff.1 hc
  obtain ⟨relay, hrelay, hc⟩ := Option.bind_eq_some_iff.1 hc
  obtain ⟨m, hm, rfl⟩ := Option.map_eq_some_iff.1 hc
  exact hx.legible_configFor hkeys houtside hrelay hm

end Valid

end Planner.Pass

namespace Mesh

/-- However passes have led from a new mesh to this one, everyone whom the next that succeeds brings together reaches
everyone else, the external member by what is read in the text of its configuration, and those nodes are hidden that the
survey has found to be. -/
theorem Reached.connected {name : String} {range carrier : Ipv4Network} {m : Mesh} {p : Planner} {chance : Chance}
    {targets : Std.ExtTreeSet NodeId} {external : Bool} {plan : MeshPlan} {t t' : Timeline Grid}
    (hm : Reached (new name range) m) (run : p.plan chance m targets external t = .ok (.ok plan, t'))
    (hcarrier : p.settings.carrierRange = .ok carrier) (hlength : carrier.length.val ≤ 16) :
    ∃ found t₁ config, p.survey targets.toList t = .ok (found, t₁) ∧
      plan.externalConfig = config.map QuickConfig.render ∧
      plan.externalConfig.map QuickConfig.ofText? = config.map some ∧
      plan.Connected config carrier fun node => found[node]? = some .hidden := by
  obtain ⟨-, haddressed, -⟩ := hm.sound
  obtain ⟨x, hx, rfl⟩ := Planner.pass_of_run run
  obtain ⟨t₁, hsurvey⟩ := hx.survey
  have heq : x.carrier = carrier := by
    have hranges := hx.ranges
    rw [Planner.ranges, hcarrier] at hranges
    dsimp only at hranges
    split at hranges
    · cases hranges
      rfl
    · cases hranges
  subst heq
  have hwithin : ∀ who n, (x.plan m p.settings.keepalive).mesh.subnetOf who = some n → m.range.contains n = true :=
    fun who n hn => ((hx.addressed haddressed p.settings.keepalive).slot who n hn).within
  refine ⟨x.found, t₁, x.config m p.settings.keepalive, hsurvey, Planner.Pass.externalConfig_plan,
    hx.ofText?_config hm.keyed_nodes _, ?_⟩
  refine (Planner.Pass.connected_of_served hx.served hlength hwithin).congr fun node hnode => ?_
  exact hx.isHidden_iff (hx.mem_members.1 hnode)

end Mesh

/-- A hidden node and an external member behind a relay. -/
theorem Mesh.connected_of_hillyPass : ∃ (plan : MeshPlan) (found : NodeMap Reachability) (config : Option QuickConfig),
    plan.mesh.relay = some 1 ∧ plan.externalConfig = config.map QuickConfig.render ∧
      plan.externalConfig.map QuickConfig.ofText? = config.map some ∧
      plan.Connected config ⟨⟨100, 64, 0, 0⟩, 16⟩ fun node => found[node]? = some .hidden := by
  have hrun : Planner.succeeds (Planner.hillyPass Planner.hillyMesh [1, 2])
      (fun plan => plan.mesh.relay = some 1) = true := by decide +kernel
  obtain ⟨plan, t, hplan, hrelay⟩ := Planner.exists_of_succeeds hrun
  obtain ⟨found, t₁, config, -, hconfig, htext, hconnected⟩ := Reached.connected .start hplan rfl (by decide)
  exact ⟨plan, found, config, of_decide_eq_true hrelay, hconfig, htext, hconnected⟩

end ComputeGrid
