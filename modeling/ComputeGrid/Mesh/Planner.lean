import ComputeGrid.Mesh.Plan
import ComputeGrid.Mesh.Ports

/-!
# Planning a mesh

`Planner.plan` leads from a mesh to one over target nodes. It probes the targets, finds a relay if one is needed, keeps
what members of the previous mesh hold, and gives new members a subnet, keys and a port. What is left to chance is a
parameter.
-/

namespace ComputeGrid

/-- What is left to chance: a secret for each new member, the external one being `none`, and the ports that are drawn for
a node. -/
structure Chance where
  secret : Option NodeId → List UInt8
  length_secret : ∀ who, (secret who).length = 32
  port : NodeId → Nat → Nat

/-- New keys for a member. -/
def Chance.keys (c : Chance) (who : Option NodeId) : KeyPair := .ofSecret (c.secret who)

/-- How meshes are planned. -/
structure Planner where
  settings : NetworkSettings
  probeTimeout : Duration
  /-- Whether a relay may be looked for in the inventory of the grid. -/
  usesInventory : Bool

namespace Planner

/-- A computation over the grid that may end in an error of meshes. -/
abbrev Planning (α : Type) := ExceptT MeshError (Timed Grid) α

/-- How many nodes of the inventory are tried as relays. -/
def relayCandidates : Nat := 5

/-- Probes nodes in order. -/
def survey (p : Planner) : List NodeId → Timed Grid (NodeMap Reachability)
  | [] => return ∅
  | node :: rest => do
    let found ← Reachability.probe node p.probeTimeout
    return (← p.survey rest).insert node found

/-- Looks for a relay in the inventory, among up to `tries` nodes that are not excluded. -/
def findRelay (p : Planner) (inventory : Inventory) (reach : NodeMap Reachability) :
    (tries : Nat) → (exclude : List NodeId) → Planning (NodeId × NodeMap Reachability)
  | 0, _ => throw (.noRelay (.noCandidate relayCandidates))
  | tries + 1, exclude => do
    match inventory.pickPublicNode exclude with
    | .error .noPublicNode => throw (.noRelay .noPublicNode)
    | .error cause => throw (.inventory cause)
    | .ok candidate =>
      let found ← Reachability.probe candidate p.probeTimeout
      if found.isIpv4 then return (candidate, reach.insert candidate found)
      p.findRelay inventory reach tries (exclude ++ [candidate])

/-- The previous relay, if it has a public IPv4 address. -/
def keepRelay (p : Planner) (previous : Option NodeId) (reach : NodeMap Reachability) :
    Timed Grid (Option (NodeId × NodeMap Reachability)) := do
  match previous with
  | none => return none
  | some relay =>
    let found ← match reach[relay]? with
      | some found => pure found
      | none => Reachability.probe relay p.probeTimeout
    return if found.isIpv4 then some (relay, reach.insert relay found) else none

/-- A relay in place of the previous one: the first target that has a public IPv4 address, or else a node of the
inventory. -/
def newRelay (p : Planner) (previous : Option NodeId) (targets : List NodeId) (reach : NodeMap Reachability) :
    Planning (NodeId × NodeMap Reachability) := do
  match targets.find? fun node => reach[node]?.any (·.isIpv4) with
  | some node => return (node, reach)
  | none =>
    let inventory ← (Timed.query (·.inventory) : Timed Grid (Option Inventory))
    match inventory.filter fun _ => p.usesInventory with
    | none => throw (.noRelay .noInventory)
    | some inventory => p.findRelay inventory reach relayCandidates (targets ++ previous.toList)

/-- The relay, and how nodes can be reached. -/
def chooseRelay (p : Planner) (previous : Option NodeId) (targets : List NodeId) (reach : NodeMap Reachability) :
    Planning (NodeId × NodeMap Reachability) := do
  match ← p.keepRelay previous reach with
  | some found => return found
  | none => p.newRelay previous targets reach

/-- Whether a relay is needed: for access from outside, or between a hidden node and another. -/
def needsRelay (targets : Std.ExtTreeSet NodeId) (external : Bool) (found : NodeMap Reachability) : Bool :=
  external || (found.values.any (·.isHidden) && 1 < targets.size)

/-- The relay if one is needed, and how nodes can be reached. -/
def relayFor (p : Planner) (previous : Option NodeId) (targets : Std.ExtTreeSet NodeId) (external : Bool)
    (found : NodeMap Reachability) : Planning (Option NodeId × NodeMap Reachability) := do
  if needsRelay targets external found then
    let (relay, reach) ← p.chooseRelay previous targets.toList found
    return (some relay, reach)
  else return (none, found)

/-- The nodes that take part in a mesh: the targets and the relay. -/
def participants (targets : Std.ExtTreeSet NodeId) (relay : Option NodeId) : List NodeId :=
  (relay.toList.foldl (·.insert ·) targets).toList

/-- The next subnet. -/
def allocate (s : Subnets) : Except MeshError (Ipv4Network × Subnets) :=
  match s.allocate with
  | (some subnet, s) => .ok (subnet, s)
  | (none, _) => .error (.subnetsExhausted s.range)

/-- The external member: with the subnet of the previous one and its keys if they are known. -/
def chooseExternal (chance : Chance) (previous : Option ExternalMember) (s : Subnets) :
    Except MeshError (MeshPlan.External × Subnets) := do
  match previous with
  | some e =>
    match e.privateKey.map KeyPair.ofPrivate with
    | none => return (⟨e.subnet, chance.keys none⟩, s)
    | some (.ok keys) => return (⟨e.subnet, keys⟩, s)
    | some (.error flaw) => throw (.invalidKey flaw)
  | none =>
    let (subnet, s) ← allocate s
    return (⟨subnet, chance.keys none⟩, s)

/-- The external member if access from outside is wanted. -/
def outsideFor (chance : Chance) (previous : Option ExternalMember) (external : Bool) (s : Subnets) :
    Except MeshError (Option MeshPlan.External × Subnets) := do
  if external then
    let (e, s) ← chooseExternal chance previous s
    return (some e, s)
  else return (none, s)

/-- A new member with a subnet. -/
def newMember (p : Planner) (chance : Chance) (node : NodeId) (subnet : Ipv4Network)
    (chosen : Std.ExtTreeSet UInt16) : Planning Member := do
  match ← (Grid.getPorts node).complete with
  | .error cause => throw (.rpc node cause)
  | .ok ports =>
    match Ports.pick? (chance.port node) (.ofList ports) chosen p.settings.wgPortMin p.settings.wgPortMax with
    | none => throw (.noFreePort node)
    | some port =>
      let keys := chance.keys (some node)
      return ⟨subnet, keys.privateKey, keys.publicKey, port⟩

/-- What a node keeps: what it holds of the previous mesh, if its subnet is in the range. -/
def kept (previous : Mesh) (node : NodeId) : Option Member :=
  previous.nodes[node]?.filter fun m => previous.range.contains m.subnet

/-- What the participants hold. -/
def chooseMembers (p : Planner) (chance : Chance) (previous : Mesh) (s : Subnets) (chosen : Std.ExtTreeSet UInt16)
    (members : NodeMap Member) : List NodeId → Planning (NodeMap Member)
  | [] => return members
  | node :: rest => do
    match kept previous node with
    | some m => p.chooseMembers chance previous s (chosen.insert m.port) (members.insert node m) rest
    | none =>
      let (subnet, s) ← (allocate s : Except MeshError (Ipv4Network × Subnets))
      let m ← p.newMember chance node subnet chosen
      p.chooseMembers chance previous s (chosen.insert m.port) (members.insert node m) rest

/-- The subnets that are left beside what participants and the external member of the previous mesh hold. -/
def reserveHeld (previous : Mesh) (participants : List NodeId) (s : Subnets) : Subnets :=
  let held := participants.filterMap fun node => previous.nodes[node]?.map (·.subnet)
  (held ++ (previous.external.map (·.subnet)).toList).foldl Subnets.reserve s

/-- The carrier range and the subnets of the mesh's range. -/
def ranges (p : Planner) (previous : Mesh) : Except MeshError (Ipv4Network × Subnets) :=
  match p.settings.carrierRange with
  | .error cause => .error (.settings cause)
  | .ok carrier =>
    match Subnets.of? previous.range with
    | some s => .ok (carrier, s)
    | none => .error (.invalidRange previous.range)

/-- Plans a mesh over targets in place of a previous one, with an external member if access from outside is wanted. -/
def plan (p : Planner) (chance : Chance) (previous : Mesh) (targets : Std.ExtTreeSet NodeId) (external : Bool) :
    Planning MeshPlan := do
  let (carrier, s) ← (p.ranges previous : Except MeshError (Ipv4Network × Subnets))
  let found ← p.survey targets.toList
  let (relay, reach) ← p.relayFor previous.relay targets external found
  let nodes := participants targets relay
  let (outside, s) ← (outsideFor chance previous.external external (reserveHeld previous nodes s) :
    Except MeshError (Option MeshPlan.External × Subnets))
  let members ← p.chooseMembers chance previous s ∅ ∅ nodes
  return .assemble previous carrier p.settings.keepalive reach relay outside members

end Planner

end ComputeGrid
