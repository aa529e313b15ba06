import ComputeGrid.Deployment.Basic
import ComputeGrid.Mesh.Error

/-!
# Meshes

A mesh says which node holds which subnet, keys and port of a range, which of them is the relay, and which subnet a machine
outside the grid has. `Mesh.observe` recognizes a mesh in deployments.
-/

namespace ComputeGrid

/-- What a node holds of a mesh. -/
structure Member where
  subnet : Ipv4Network
  privateKey : String
  publicKey : String
  port : UInt16
  deriving DecidableEq, Repr

/-- What a machine outside the grid holds of a mesh. Only the machine itself has its private key. -/
structure ExternalMember where
  subnet : Ipv4Network
  publicKey : String
  privateKey : Option String
  deriving DecidableEq, Repr

/-- The members of a mesh and its relay. -/
structure Mesh where
  name : String
  range : Ipv4Network
  nodes : NodeMap Member
  relay : Option NodeId
  external : Option ExternalMember
  deriving DecidableEq

namespace Mesh

/-- A mesh without members. -/
def new (name : String) (range : Ipv4Network) : Mesh := ⟨name, range, ∅, none, none⟩

/-- The mesh whose external member has a private key. -/
def withExternalPrivateKey (m : Mesh) (privateKey : String) : Mesh :=
  { m with external := m.external.map fun e => { e with privateKey := some privateKey } }

/-- The slice of a mesh with a name that a deployment holds. -/
def slice? (name : String) (d : Deployment) : Option NetworkSlice :=
  d.workloads.findSome? fun w =>
    match w.payload with
    | .network n => if w.name = name then some n else none
    | _ => none

/-- The member that holds a slice. -/
def memberOf (s : NetworkSlice) : Except KeyFlaw Member :=
  (KeyPair.ofPrivate s.privateKey).map fun keys => ⟨s.subnet, keys.privateKey, keys.publicKey, s.listenPort⟩

/-- The slices of a mesh in a fleet, by node. -/
def slices (name : String) (fleet : NodeMap Deployment) : List (NodeId × NetworkSlice) :=
  fleet.toList.filterMap fun (node, d) => (slice? name d).map (node, ·)

/-- The members that hold slices of a range. -/
def members (name : String) (range : Ipv4Network) (slices : List (NodeId × NetworkSlice)) :
    Except MeshError (NodeMap Member) :=
  slices.foldlM (fun members (node, s) =>
    if s.ipRange ≠ range then .error (.otherRange node name s.ipRange range)
    else match memberOf s with
      | .ok member => .ok (members.insert node member)
      | .error flaw => .error (.invalidKey flaw)) ∅

/-- The peers of a slice that dial in. -/
def dialingIn (s : NetworkSlice) : List Peer := s.peers.filter (·.endpoint.isEmpty)

/-- The mesh that the slices in a fleet make up. The relay is the first node with peers that dial in, and the first of
those whose subnet is no node's is the external member. -/
def observe (name : String) (range : Ipv4Network) (fleet : NodeMap Deployment) : Except MeshError Mesh := do
  let slices := slices name fleet
  let nodes ← members name range slices
  let subnets := nodes.values.map (·.subnet)
  match slices.find? fun (_, s) => !(dialingIn s).isEmpty with
  | none => return { new name range with nodes := nodes }
  | some (relay, s) =>
    let external := (dialingIn s).find? fun p => !subnets.contains p.subnet
    return {
      name := name
      range := range
      nodes := nodes
      relay := some relay
      external := external.map fun p => ⟨p.subnet, p.publicKey, none⟩ }

end Mesh

end ComputeGrid
