import ComputeGrid.Deployment.Challenge
import ComputeGrid.Exchange
import ComputeGrid.Grid.Basic
import ComputeGrid.Node.Call

/-!
# Exchanges with nodes

Every call is recorded when it is sent. A node that is down or unknown cannot be reached; another answers after its
latency. What the answer is depends on the grid at that time.
-/

namespace ComputeGrid

/-- A call of a node. -/
abbrev NodeExchange (α : Type) := Exchange Grid (Except RpcError α)

namespace Grid

/-- A call of a method by its name. -/
def exchange {α : Type} (node : NodeId) (name : String) (answer : Grid → Except RpcError α × Grid) :
    NodeExchange α where
  send g :=
    let g := { g with calls := (node, name) :: g.calls }
    match g.nodes[node]? with
    | some n => if n.down then (.answered (.error (.unreachable node)), g) else (.pending n.latency, g)
    | none => (.answered (.error (.unreachable node)), g)
  answer := answer

/-! ### Submissions -/

/-- Whether a submission is the first or a change. -/
inductive Submission where
  | first
  | change
  deriving DecidableEq, Repr

/-- The method of a submission. -/
def Submission.method : Submission → NodeMethod
  | first => .deploy
  | change => .update

/-- Why the contract of a deployment does not cover it on a node. -/
def contractRefusal? (g : Grid) (node : NodeId) (d : Deployment) : Option Refusal :=
  if !g.attached then none
  else match g.ledger.active? d.contractId with
    | none => some (.contractInactive d.contractId)
    | some c =>
      if c.nodeId ≠ node then some (.otherNode c.contractId c.nodeId)
      else if c.deploymentHash ≠ d.challengeHash then some .otherHash
      else none

/-- Why a deployment is refused before the node looks at what it runs. -/
def refusal? (g : Grid) (node : NodeId) (d : Deployment) : Option Refusal :=
  match d.validate with
  | .error cause => some (.invalid cause)
  | .ok () =>
    if d.signatureRequirement.signatures.isEmpty then some .unsigned else g.contractRefusal? node d

/-- Why a node does not take a submission given what it runs. -/
def Submission.rejection? (s : Submission) (node : NodeId) (n : Node) (d : Deployment) : Option RpcError :=
  match n.refusal with
  | some message => some (.refused node s.method (.configured message))
  | none =>
    match s, n.deployments[d.contractId]? with
    | .first, some _ => some (.refused node s.method (.alreadyExists d.contractId))
    | .change, none => some (.notFound node (.deployment d.contractId))
    | .change, some stored =>
      if d.version ≤ stored.version then some (.refused node s.method (.versionNotGreater d.version stored.version))
      else none
    | .first, none => none

/-- What a node answers to a submission. -/
def submit (s : Submission) (node : NodeId) (d : Deployment) (g : Grid) : Except RpcError Unit × Grid :=
  match g.refusal? node d with
  | some cause => (.error (.refused node s.method cause), g)
  | none =>
    match g.nodes[node]? with
    | none => (.error (.unreachable node), g)
    | some n =>
      match s.rejection? node n d with
      | some e => (.error e, g)
      | none => (.ok (), { g with nodes := g.nodes.insert node (n.store d) })

/-! ### Questions -/

/-- What a node answers to a question for a deployment. One whose contract is over is forgotten. -/
def lookUp (node : NodeId) (contract : ContractId) (g : Grid) : Except RpcError Deployment × Grid :=
  let missing : Except RpcError Deployment := .error (.notFound node (.deployment contract))
  if g.isOver contract then
    (missing, { g with nodes := g.nodes.modify node fun n =>
      { n with deployments := n.deployments.erase contract } })
  else match g.deployment? node contract with
    | some d => (.ok d, g)
    | none => (missing, g)

/-- What a node answers to a question for changes. -/
def observe (node : NodeId) (contract : ContractId) (g : Grid) : Except RpcError (List Workload) × Grid :=
  match g.lookUp node contract with
  | (.error e, g) => (.error e, g)
  | (.ok _, g) =>
    let g := { g with nodes := g.nodes.modify node fun n => n.progress contract }
    (.ok (((g.deployment? node contract).map (·.workloads)).getD []), g)

/-! ### Calls -/

/-- Submits a deployment. -/
def submission (s : Submission) (node : NodeId) (d : Deployment) : NodeExchange Unit :=
  exchange node s.method.text (submit s node d)

/-- Asks for a deployment. -/
def getDeployment (node : NodeId) (contract : ContractId) : NodeExchange Deployment :=
  exchange node NodeMethod.get.text (lookUp node contract)

/-- Asks for the workloads of a deployment with their reports. -/
def getChanges (node : NodeId) (contract : ContractId) : NodeExchange (List Workload) :=
  exchange node NodeMethod.changes.text (observe node contract)

/-- Asks for the listen ports in use. -/
def getPorts (node : NodeId) : NodeExchange (List UInt16) :=
  exchange node NodeMethod.wgPorts.text fun g => (.ok ((g.nodes[node]?.map (·.usedPorts)).getD []), g)

/-- Asks for the public network. -/
def getPublicConfig (node : NodeId) : NodeExchange PublicConfig :=
  exchange node NodeMethod.publicConfig.text fun g =>
    match g.nodes[node]?.bind (·.publicConfig) with
    | some config => (.ok config, g)
    | none => (.error (.notFound node .publicConfig), g)

/-- Asks for the addresses of every interface. -/
def getInterfaces (node : NodeId) : NodeExchange (NameMap (List IpAddress)) :=
  exchange node NodeMethod.interfaces.text fun g => (.ok ((g.nodes[node]?.map (·.interfaces)).getD ∅), g)

end Grid

end ComputeGrid
