import ComputeGrid.Workload.Basic

/-!
# Deployments

A deployment is the list of workloads that one node runs under one contract, with its owner's twin and the signatures that
it needs. Versions count up: a workload's version is that of the deployment in which it last changed.
-/

namespace ComputeGrid

/-- A twin whose signature counts, and for how much. -/
structure SignatureRequest where
  twinId : TwinId
  required : Bool
  weight : UInt32
  deriving DecidableEq, Repr

/-- A twin's signature of a challenge, in hexadecimal. -/
structure Signature where
  twinId : TwinId
  signature : String
  scheme : String
  deriving DecidableEq, Repr

/-- Who may sign, the weight that is needed, and the signatures there are. -/
structure SignatureRequirement where
  requests : List SignatureRequest
  weightRequired : UInt32
  signatures : List Signature
  deriving DecidableEq, Repr

/-- The workloads of one node under one contract, which is zero as long as there is none. -/
structure Deployment where
  version : UInt32
  twinId : TwinId
  contractId : ContractId
  metadata : String
  description : String
  signatureRequirement : SignatureRequirement
  workloads : List Workload
  deriving DecidableEq

namespace Deployment

/-- An unsigned deployment at version zero, for its owner alone to sign. -/
def new (twinId : TwinId) (workloads : List Workload) : Deployment where
  version := 0
  twinId := twinId
  contractId := 0
  metadata := ""
  description := ""
  signatureRequirement := ⟨[⟨twinId, false, 1⟩], 1, []⟩
  workloads := workloads

/-- The first workload with a given name. -/
def workload? (d : Deployment) (name : String) : Option Workload :=
  d.workloads.find? (·.name == name)

/-- The version of each name; of several workloads of one name the last counts. -/
def workloadVersions (d : Deployment) : NameMap UInt32 :=
  d.workloads.foldl (fun m w => m.insert w.name w.version) ∅

/-- Whether every name of `a` is one of `b`. -/
def namesWithin (a b : Deployment) : Bool :=
  a.workloads.all fun w => b.workloads.any (·.name == w.name)

/-- Whether two deployments have the same set of names. -/
def sameNames (a b : Deployment) : Bool :=
  a.namesWithin b && b.namesWithin a

/-- How many public IPv4 addresses the deployment reserves; contracts hold the number in 32 bits. -/
def publicIpv4Count (d : Deployment) : Nat :=
  d.workloads.countP Workload.reservesIpv4

/-- The resources that the deployment consumes on its node. -/
def capacity (d : Deployment) : Checked Capacity :=
  d.workloads.foldlM (fun total w => total.add w.capacity) .zero

def hasKind (d : Deployment) (kind : WorkloadKind) : Bool :=
  d.workloads.any (·.kind == kind)

/-- The deployment and its workloads at version zero. -/
def resetVersions (d : Deployment) : Deployment :=
  { d with version := 0, workloads := d.workloads.map fun w => { w with version := 0 } }

end Deployment

end ComputeGrid
