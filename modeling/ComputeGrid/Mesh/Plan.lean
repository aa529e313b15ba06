import ComputeGrid.Mesh.QuickConfig
import ComputeGrid.Mesh.Topology

/-!
# Plans

A plan is a mesh with the workload that each of its nodes is to run. `MeshPlan.deployments` deploys it on its own, and
`MeshPlan.mergeInto` adds it to other deployments.
-/

namespace ComputeGrid

/-- A mesh, the workloads of its nodes, the nodes that are no longer part of it, and the configuration of the external
member if there is one. -/
structure MeshPlan where
  mesh : Mesh
  workloads : NodeMap Workload
  removed : List NodeId
  externalConfig : Option String

namespace MeshPlan

/-- An external member with its keys. -/
structure External where
  subnet : Ipv4Network
  keys : KeyPair
  deriving DecidableEq, Repr

/-- The member with its private key. -/
def External.member (e : External) : ExternalMember := ⟨e.subnet, e.keys.publicKey, some e.keys.privateKey⟩

/-- The configuration of an external member behind a relay. -/
def configOf (t : Topology) (keepalive : UInt32) (e : External) (relay : NodeId) : Option String :=
  t.members[relay]?.map fun m => QuickConfig.render {
    address := carrierAddress t.carrier e.subnet
    privateKey := e.keys.privateKey
    relayPublicKey := m.publicKey
    relayEndpoint := t.endpoint relay m
    allowedIps := t.wholeRange
    keepalive := keepalive }

/-- The plan for members that have been chosen, in place of a previous mesh. -/
def assemble (previous : Mesh) (carrier : Ipv4Network) (keepalive : UInt32) (reach : NodeMap Reachability)
    (relay : Option NodeId) (external : Option External) (members : NodeMap Member) : MeshPlan :=
  let t : Topology := ⟨previous.range, carrier, members, reach, relay, external.map (·.member)⟩
  { mesh := ⟨previous.name, previous.range, members, relay, t.external⟩
    workloads := members.map fun node m => Workload.new previous.name (.network (t.slice node m))
    removed := previous.nodes.keys.filter fun node => !members.contains node
    externalConfig := do configOf t keepalive (← external) (← relay) }

/-- The plan as deployments of their own. -/
def deployments (p : MeshPlan) (twinId : TwinId) : NodeMap Deployment :=
  p.workloads.map fun _ w => Deployment.new twinId [w]

/-- Workloads with another one in place of the first of its name, or after all if there is none. -/
def place (w : Workload) : List Workload → List Workload
  | [] => [w]
  | x :: rest => if x.name = w.name then w :: rest else x :: place w rest

/-- Deployments with the workloads of a plan; nodes without a deployment get one. -/
def mergeInto (p : MeshPlan) (desired : NodeMap Deployment) (twinId : TwinId) : NodeMap Deployment :=
  p.workloads.toList.foldl (fun desired (node, w) =>
    let d := desired.getD node (Deployment.new twinId [])
    desired.insert node { d with workloads := place w d.workloads }) desired

end MeshPlan

end ComputeGrid
