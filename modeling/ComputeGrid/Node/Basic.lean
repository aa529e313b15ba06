import ComputeGrid.Deployment.Basic
import ComputeGrid.Inventory.Basic

/-!
# Nodes

A node keeps the deployments that it runs, by contract, and a record of all that it has taken. `Node.provisioned` gives
every workload that is new or at a new version the report that the node's way of provisioning starts with; workloads at
the version they had keep their reports. `Node.progress` is what happens each time the node is asked for changes.
-/

namespace ComputeGrid

/-- How a node provisions workloads. -/
inductive Provisioning where
  /-- All are ok at once. -/
  | instant
  /-- None ever is. -/
  | stuck
  /-- All are ok after a number of questions for changes. -/
  | afterPolls (polls : UInt32)
  /-- One more is ok after each question. -/
  | onePerPoll
  /-- One ends in an error, the others are ok. -/
  | fail (workload message : String)
  deriving DecidableEq, Repr

namespace Provisioning

/-- The state and the message that a workload starts with. -/
def begin : Provisioning → (workload : String) → ReportState × String
  | instant, _ => (.ok, "")
  | stuck, _ | afterPolls _, _ | onePerPoll, _ => (.init, "")
  | fail name message, workload => if name = workload then (.error, message) else (.ok, "")

end Provisioning

/-- A node: its deployments, how many questions for changes each still needs, its network, how it behaves, and what it has
taken. -/
structure Node where
  deployments : ContractMap Deployment
  pendingPolls : ContractMap UInt32
  wgPorts : List UInt16
  publicConfig : Option PublicConfig
  interfaces : NameMap (List IpAddress)
  provisioning : Provisioning
  /-- The message with which every submission is refused. -/
  refusal : Option String
  down : Bool
  /-- Milliseconds before an answer. -/
  latency : Nat
  /-- The deployments that were taken, first to last, as they were submitted. -/
  taken : List Deployment := []

namespace Node

/-- A node that runs nothing and answers at once. -/
def new : Node where
  deployments := ∅
  pendingPolls := ∅
  wgPorts := []
  publicConfig := none
  interfaces := ∅
  provisioning := .instant
  refusal := none
  down := false
  latency := 0

/-- The listen port of a network workload. -/
def listenPort? (w : Workload) : Option UInt16 :=
  match w.payload with
  | .network n => some n.listenPort
  | _ => none

/-- The listen ports in use, ascending. -/
def usedPorts (n : Node) : List UInt16 :=
  let planned := n.deployments.values.flatMap fun d => d.workloads.filterMap listenPort?
  (Std.ExtTreeSet.ofList (n.wgPorts ++ planned)).toList

/-- A workload with its report, given the deployment that ran before. -/
def provisionWorkload (p : Provisioning) (previous : Option Deployment) (w : Workload) : Workload :=
  match (previous.bind (·.workload? w.name)).filter (·.version == w.version) with
  | some prior => { w with report := prior.report }
  | none =>
    let (state, error) := p.begin w.name
    { w with report := { w.report with state := state, error := error } }

/-- A deployment with its reports. -/
def provisioned (p : Provisioning) (previous : Option Deployment) (d : Deployment) : Deployment :=
  { d with workloads := d.workloads.map (provisionWorkload p previous) }

/-- The node after it has taken a deployment. -/
def store (n : Node) (d : Deployment) : Node :=
  { n with
    deployments := n.deployments.insert d.contractId (provisioned n.provisioning n.deployments[d.contractId]? d)
    pendingPolls := match n.provisioning with
      | .afterPolls polls => n.pendingPolls.insert d.contractId polls
      | _ => n.pendingPolls
    taken := n.taken ++ [d] }

/-- A workload that is ok if it was waiting. -/
def ready (w : Workload) : Workload :=
  if w.report.state = .init then { w with report := { w.report with state := .ok } } else w

/-- Workloads of which the first that was waiting is ok. -/
def readyFirst : List Workload → List Workload
  | [] => []
  | w :: rest => if w.report.state = .init then ready w :: rest else w :: readyFirst rest

/-- The node after a question for the changes of a deployment. -/
def progress (n : Node) (contract : ContractId) : Node :=
  match n.deployments[contract]? with
  | none => n
  | some d =>
    let keep (workloads : List Workload) : ContractMap Deployment :=
      n.deployments.insert contract { d with workloads := workloads }
    match n.provisioning with
    | .afterPolls _ =>
      let left := n.pendingPolls.getD contract 0
      let left := if left = 0 then 0 else left - 1
      { n with
        pendingPolls := n.pendingPolls.insert contract left
        deployments := if left = 0 then keep (d.workloads.map ready) else n.deployments }
    | .onePerPoll => { n with deployments := keep (readyFirst d.workloads) }
    | _ => n

end Node

end ComputeGrid
