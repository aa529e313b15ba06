import ComputeGrid.Mesh.Basic
import ComputeGrid.Mesh.Reachability
import ComputeGrid.Mesh.Subnets

/-!
# Who peers with whom

Nodes that can be reached peer with one another. A hidden node has the relay as its only peer, and sends everything there.
The relay also has the hidden nodes and the external member as peers, which dial in; to the others it stands for them.
-/

namespace ComputeGrid

/-- The members of a mesh with all that their peers depend on. -/
structure Topology where
  range : Ipv4Network
  carrier : Ipv4Network
  members : NodeMap Member
  reach : NodeMap Reachability
  relay : Option NodeId
  external : Option ExternalMember

namespace Topology

/-- How a node can be reached. -/
def reachOf (t : Topology) (node : NodeId) : Reachability := t.reach.getD node .hidden

/-- The endpoint of a member, which is empty for a hidden one. -/
def endpoint (t : Topology) (node : NodeId) (m : Member) : String := ((t.reachOf node).endpoint? m.port).getD ""

/-- The members that are hidden. -/
def hidden (t : Topology) : List Member :=
  t.members.toList.filterMap fun (node, m) => if (t.reachOf node).isHidden then some m else none

/-- A subnet and its carrier address. -/
def routes (t : Topology) (subnet : Ipv4Network) : List Ipv4Network := [subnet, carrierAddress t.carrier subnet]

/-- All that is sent to the relay. -/
def wholeRange (t : Topology) : List Ipv4Network := [t.range, t.carrier]

/-- The subnets of those that are reached through the relay. -/
def behindRelay (t : Topology) : List Ipv4Network :=
  t.hidden.map (·.subnet) ++ (t.external.map (·.subnet)).toList

/-- The relay as the peer of a hidden node. -/
def relayPeer (t : Topology) (relay : NodeId) : Option Peer :=
  t.members[relay]?.map fun m => ⟨m.subnet, m.publicKey, t.wholeRange, t.endpoint relay m⟩

/-- A node that can be reached as the peer of another. -/
def directPeer (t : Topology) (node : NodeId) (m : Member) : Peer where
  subnet := m.subnet
  publicKey := m.publicKey
  allowedIps := t.routes m.subnet ++ (if t.relay = some node then t.behindRelay.flatMap t.routes else [])
  endpoint := t.endpoint node m

/-- Someone who dials in as a peer of the relay. -/
def dialingPeer (t : Topology) (subnet : Ipv4Network) (publicKey : String) : Peer :=
  ⟨subnet, publicKey, t.routes subnet, ""⟩

/-- The peers of the relay that dial in. -/
def dialingPeers (t : Topology) : List Peer :=
  t.hidden.map (fun m => t.dialingPeer m.subnet m.publicKey) ++
    (t.external.map fun e => t.dialingPeer e.subnet e.publicKey).toList

/-- The other nodes that can be reached, as peers. -/
def directPeers (t : Topology) (node : NodeId) : List Peer :=
  t.members.toList.filterMap fun (other, m) =>
    if other = node ∨ (t.reachOf other).isHidden then none else some (t.directPeer other m)

/-- The peers of a node. -/
def peers (t : Topology) (node : NodeId) : List Peer :=
  if (t.reachOf node).isHidden then
    match t.relay with
    | some relay => if relay = node then [] else (t.relayPeer relay).toList
    | none => []
  else t.directPeers node ++ (if t.relay = some node then t.dialingPeers else [])

/-- The slice of a member. -/
def slice (t : Topology) (node : NodeId) (m : Member) : NetworkSlice :=
  ⟨t.range, m.subnet, m.privateKey, m.port, t.peers node⟩

end Topology

end ComputeGrid
