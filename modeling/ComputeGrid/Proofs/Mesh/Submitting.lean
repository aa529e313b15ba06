import ComputeGrid.Deployment.Validity
import ComputeGrid.Proofs.Mesh.Agreement
import ComputeGrid.Proofs.Mesh.Listening

/-!
# Plans that are submitted

A node takes no deployment that is not valid.  The slice of a member is in a `/16` and is a `/24` of it, its private key is
one that is read, and so are those of its peers, each of which is allowed some network; so there is nothing wrong with a
slice but a listen port of zero (`Topology.flaw?_slice`).  New members get a port that the settings offer
(`Planner.Picks.offers`), so in a mesh that passes under the same settings lead to everyone has such a port
(`Mesh.ReachedUnder.equipped`).  Hence the deployments of plans are valid, but for those with the port zero, which settings
may offer (`Mesh.ReachedUnder.validate_deployments`).
-/

namespace ComputeGrid

/-! ### Meshes under settings -/

namespace Mesh

/-- The meshes that passes under the same settings lead to, one after another. -/
inductive ReachedUnder (s : NetworkSettings) (first : Mesh) : Mesh → Prop
  | start : ReachedUnder s first first
  | pass {m : Mesh} {p : Planner} {chance : Chance} {targets : Std.ExtTreeSet NodeId} {external : Bool} {plan : MeshPlan}
      {t t' : Timeline Grid} (before : ReachedUnder s first m) (settings : p.settings = s)
      (run : p.plan chance m targets external t = .ok (.ok plan, t')) : ReachedUnder s first plan.mesh

/-- Every node has keys that belong together and a port that the settings offer. -/
structure Equipped (s : NetworkSettings) (m : Mesh) : Prop where
  keys : ∀ (node : NodeId) member, m.nodes[node]? = some member → member.Keyed
  ports : ∀ (node : NodeId) member, m.nodes[node]? = some member → s.Offers member.port

theorem ReachedUnder.reached {s : NetworkSettings} {first m : Mesh} (h : ReachedUnder s first m) : Reached first m := by
  induction h with
  | start => exact .start
  | pass _ _ run ih => exact .pass ih run

theorem equipped_new {s : NetworkSettings} {name : String} {range : Ipv4Network} : (new name range).Equipped s := by
  constructor
  case keys =>
    intro node member hmember
    rw [new, Std.ExtTreeMap.getElem?_empty] at hmember
    cases hmember
  case ports =>
    intro node member hmember
    rw [new, Std.ExtTreeMap.getElem?_empty] at hmember
    cases hmember

end Mesh

namespace Planner.Pass.Valid

variable {p : Planner} {chance : Chance} {previous : Mesh} {targets : Std.ExtTreeSet NodeId} {external : Bool}
  {t : Timeline Grid} {x : Pass}

/-- Whoever stays keeps a port that was offered, and whoever joins gets one. -/
theorem equipped (hx : x.Valid p chance previous targets external t) (h : previous.Equipped p.settings)
    (keepalive : UInt32) : (x.plan previous keepalive).mesh.Equipped p.settings := by
  constructor
  case keys => exact hx.keyed_members h.keys
  case ports =>
    apply hx.members.forall_members (P := fun m => p.settings.Offers m.port)
    · intro node m hm
      rw [kept, Option.filter_eq_some_iff] at hm
      exact h.ports node m hm.1
    · intro node subnet chosen m t t' hrun
      exact (picks_of_newMember hrun).1.offers
    · intro node m hm
      rw [Std.ExtTreeMap.getElem?_empty] at hm
      cases hm

end Planner.Pass.Valid

namespace Mesh

/-- Passes keep the name, and everyone is equipped under the settings. -/
theorem ReachedUnder.equipped {s : NetworkSettings} {name : String} {range : Ipv4Network} {m : Mesh}
    (h : ReachedUnder s (new name range) m) : m.name = name ∧ m.Equipped s := by
  induction h with
  | start => exact ⟨rfl, equipped_new⟩
  | pass _ settings run ih =>
    obtain ⟨x, hx, rfl⟩ := Planner.pass_of_run run
    subst settings
    exact ⟨ih.1, hx.equipped ih.2 _⟩

end Mesh

/-! ### Keys -/

namespace KeyPair

variable {privateKey : String} {pair : KeyPair}

/-- A private key that is read is not empty. -/
theorem ne_empty_of_ofPrivate (h : ofPrivate privateKey = .ok pair) : privateKey ≠ "" := by
  rintro rfl
  cases h

theorem length_publicBytes (secret : List UInt8) : (Curve25519.publicBytes secret).length = 32 := by
  rw [Curve25519.publicBytes, Curve25519.toBytes, List.length_map, List.length_range]

/-- A public key is not empty: it is read back as 32 bytes. -/
theorem publicKey_ne_empty (h : ofPrivate privateKey = .ok pair) : pair.publicKey ≠ "" := by
  obtain ⟨bytes, -, hpublic⟩ := derivePublic_eq_ok (derivePublic_of_ofPrivate h)
  intro hempty
  have hread := secret_base64 (length_publicBytes bytes)
  rw [← hpublic, hempty] at hread
  cases hread

end KeyPair

/-! ### Deployments -/

/-- A deployment of one slice is valid if the slice is. -/
theorem Deployment.validate_network (twin : TwinId) (name : String) (s : NetworkSlice) (hname : isValidName name = true) :
    (Deployment.new twin [Workload.new name (.network s)]).validate =
      match s.flaw? with
      | some flaw => .error (.invalidWorkload name flaw)
      | none => .ok () := by
  have hworkload : (Workload.new name (.network s)).validate =
      match s.flaw? with
      | some flaw => .error (.invalidWorkload name flaw)
      | none => .ok () := if_pos hname
  rw [validate, Deployment.new, validateEach, hworkload]
  cases s.flaw? with
  | some flaw => rfl
  | none => rfl

namespace Topology

variable {t : Topology} {node : NodeId} {m : Member} {peer : Peer}

/-- There is nothing wrong with a peer if everyone has keys that belong together. -/
theorem flaw?_peer (hkeyed : ∀ (node : NodeId) m, t.members[node]? = some m → m.Keyed)
    (hexternal : ∀ e, t.external = some e → e.publicKey ≠ "") (h : peer ∈ t.peers node) : peer.flaw? = none := by
  suffices hpeer : peer.publicKey ≠ "" ∧ peer.allowedIps ≠ [] by
    rw [Peer.flaw?, if_neg, if_neg]
    · rw [List.isEmpty_iff]
      exact hpeer.2
    · rw [String.isEmpty_iff]
      exact hpeer.1
  rcases cases_of_peer "" h with ⟨relay, m, hm, rfl⟩ | ⟨other, m, hm, rfl⟩ | ⟨who, n, key, -, hwho, rfl⟩
  · exact ⟨KeyPair.publicKey_ne_empty (hkeyed relay m hm), List.cons_ne_nil _ _⟩
  · exact ⟨KeyPair.publicKey_ne_empty (hkeyed other m hm.member), List.cons_ne_nil _ _⟩
  · refine ⟨?_, List.cons_ne_nil _ _⟩
    cases who with
    | some other =>
      obtain ⟨m, hm, heq⟩ := Option.map_eq_some_iff.1 hwho
      cases heq
      exact KeyPair.publicKey_ne_empty (hkeyed other m hm)
    | none =>
      obtain ⟨e, he, heq⟩ := Option.map_eq_some_iff.1 hwho
      cases heq
      exact hexternal e he

/-- The only thing that can be wrong with the slice of a member is the port. -/
theorem flaw?_slice (hlength : t.range.length.val = 16) (hslot : Slot t.range m.subnet) (hm : m.Keyed)
    (hpeers : ∀ peer ∈ t.peers node, peer.flaw? = none) :
    (t.slice node m).flaw? = if m.port = 0 then some .noListenPort else none := by
  have hlength' : ¬ (t.slice node m).ipRange.length.val ≠ 16 := not_not_intro hlength
  have hsubnet : ¬ ((t.slice node m).subnet.length.val ≠ 24 ∨
      (t.slice node m).ipRange.contains (t.slice node m).subnet = false) := by
    rintro (hne | houtside)
    · exact hne hslot.length
    · exact Bool.eq_false_iff.1 houtside hslot.within
  have hkey : ¬ (t.slice node m).privateKey.isEmpty = true := by
    rw [String.isEmpty_iff]
    exact KeyPair.ne_empty_of_ofPrivate hm
  have hall : (t.slice node m).peers.findSome? Peer.flaw? = none := List.findSome?_eq_none_iff.2 hpeers
  rw [NetworkSlice.flaw?, if_neg hlength', if_neg hsubnet, if_neg hkey, hall]
  rfl

end Topology

/-! ### Runs of passes -/

namespace Mesh

/-- However passes under the same settings have led from a new mesh with a valid name to this one, every deployment of the
plan of the next that succeeds is that of a node with a port that the settings offer, and it is valid unless that port is
zero. -/
theorem ReachedUnder.validate_deployments {name : String} {range : Ipv4Network} {m : Mesh} {p : Planner} {chance : Chance}
    {targets : Std.ExtTreeSet NodeId} {external : Bool} {plan : MeshPlan} {t t' : Timeline Grid} {twin : TwinId}
    {node : NodeId} {d : Deployment} (hname : isValidName name = true) (hm : ReachedUnder p.settings (new name range) m)
    (run : p.plan chance m targets external t = .ok (.ok plan, t')) (hd : (plan.deployments twin)[node]? = some d) :
    ∃ member, plan.mesh.nodes[node]? = some member ∧ p.settings.Offers member.port ∧
      d.validate = if member.port = 0 then .error (.invalidWorkload name .noListenPort) else .ok () := by
  obtain ⟨rfl, hequipped⟩ := hm.equipped
  obtain ⟨-, haddressed, -⟩ := hm.reached.sound
  obtain ⟨x, hx, rfl⟩ := Planner.pass_of_run run
  have hequipped' := hx.equipped hequipped p.settings.keepalive
  have haddressed' := hx.addressed haddressed p.settings.keepalive
  rw [Planner.deployments_plan, Topology.fleet, Std.ExtTreeMap.getElem?_map, Option.map_eq_some_iff] at hd
  obtain ⟨member, hmember, rfl⟩ := hd
  refine ⟨member, hmember, hequipped'.ports node member hmember, ?_⟩
  have hexternal : ∀ e, (x.topology m).external = some e → e.publicKey ≠ "" := by
    intro e he
    obtain ⟨o, ho, rfl⟩ := Option.map_eq_some_iff.1 he
    exact KeyPair.publicKey_ne_empty (hx.keys_outside ho)
  have hslot : Slot m.range member.subnet :=
    haddressed'.slot (some node) member.subnet (Topology.subnetOf_node (t := x.topology m) hmember)
  rw [Deployment.validate_network twin m.name _ hname,
    Topology.flaw?_slice hx.start_over.length hslot (hequipped'.keys node member hmember) fun peer hpeer =>
      Topology.flaw?_peer hequipped'.keys hexternal hpeer]
  by_cases hport : member.port = 0
  · rw [if_pos hport, if_pos hport]
  · rw [if_neg hport, if_neg hport]

end Mesh

/-- Settings that offer the port zero alone. -/
def Settings.low : Settings :=
  { Settings.standard with network := { NetworkSettings.standard with wgPortMin := 0, wgPortMax := 1 } }

/-- Plans with these settings. -/
def Planner.lowPlanner : Planner := { plainPlanner with settings := Settings.low.network }

/-- Settings that are accepted, and a plan with them whose deployment is refused. -/
theorem Mesh.noListenPort_of_lowPlanner : Settings.low.validate = .ok () ∧
    ∃ (plan : MeshPlan) (t : Timeline Grid) (d : Deployment),
    Planner.lowPlanner.plan Planner.plainChance Planner.hillyMesh (.ofList [(1 : NodeId)]) false ⟨0, Planner.hillyGrid⟩ =
      .ok (.ok plan, t) ∧
    (plan.deployments 7)[(1 : NodeId)]? = some d ∧ d.validate = .error (.invalidWorkload "net" .noListenPort) := by
  have haccepted : Checked.passes Settings.low.validate (fun _ => true) = true := by decide +kernel
  have hrun : Planner.succeeds (Planner.lowPlanner.plan Planner.plainChance Planner.hillyMesh (.ofList [(1 : NodeId)]) false
      ⟨0, Planner.hillyGrid⟩) (fun plan => (plan.deployments 7)[(1 : NodeId)]?.isSome) = true := by decide +kernel
  obtain ⟨⟨⟩, hvalid, -⟩ := Checked.exists_of_passes haccepted
  obtain ⟨plan, t, hplan, hsome⟩ := Planner.exists_of_succeeds hrun
  obtain ⟨d, hd⟩ := Option.isSome_iff_exists.1 hsome
  have hname : isValidName Planner.hillyMesh.name = true := by decide
  obtain ⟨member, -, hoffers, hvalidate⟩ := ReachedUnder.validate_deployments hname .start hplan hd
  -- below one there is no other port
  have hport : member.port = 0 := by
    have hbelow : member.port.toNat < 1 := UInt16.lt_iff_toNat_lt.1 hoffers.2
    exact UInt16.toNat_inj.1 (Nat.lt_one_iff.1 hbelow)
  rw [if_pos hport] at hvalidate
  exact ⟨hvalid, plan, t, d, hplan, hd, hvalidate⟩

end ComputeGrid
