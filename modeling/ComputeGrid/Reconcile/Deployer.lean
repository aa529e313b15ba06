import ComputeGrid.Deployment.Revision
import ComputeGrid.Grid.Exchanges
import ComputeGrid.Polling.Wait
import ComputeGrid.Reconcile.Error

/-!
# Deployers

A deployer signs for a twin and goes by settings. Its elementary steps are to seal a deployment, to submit it, to wait until
it has converged and to make or change the contract that covers it.
-/

namespace ComputeGrid

/-- Who deploys, and how. -/
structure Deployer where
  identity : Identity
  twinId : TwinId
  settings : DeployerSettings
  /-- Whether feasibility is checked against the inventory of the grid. -/
  validates : Bool

namespace Deployer

/-- A deployment signed for submission to a node, if it is valid. -/
def sign (p : Deployer) (node : NodeId) (d : Deployment) : Except DeployError Deployment :=
  let d := d.sign p.twinId p.identity
  match d.validate with
  | .ok () => .ok d
  | .error cause => .error (.invalid node cause)

/-- Submits a deployment to a node. -/
def submit (p : Deployer) (s : Grid.Submission) (node : NodeId) (d : Deployment) :
    Timed Grid (Except DeployError Unit) := do
  let timeout := p.settings.submitTimeout
  match ← (Grid.submission s node d).within timeout with
  | some (.ok ()) => return .ok ()
  | some (.error cause) => return .error (.rpc node d.contractId s.method cause)
  | none => return .error (.timeout node d.contractId s.method timeout)

/-- Asks a node for its deployment under a contract. -/
def get (p : Deployer) (node : NodeId) (contract : ContractId) : Timed Grid (Except DeployError Deployment) := do
  let timeout := p.settings.fetchTimeout
  match ← (Grid.getDeployment node contract).within timeout with
  | some (.ok d) => return .ok d
  | some (.error cause) => return .error (.rpc node contract .get cause)
  | none => return .error (.timeout node contract .get timeout)

/-- Waits until a feed of reports shows every expected workload ok at its version. -/
def awaitFeed {σ ε : Type} (p : Deployer) (changes : Exchange σ (Except ε (List Workload))) (node : NodeId)
    (contract : ContractId) (expected : NameMap UInt32) : Timed σ (Except DeployError Unit) := do
  let poll := p.settings.poll
  let backoff := Backoff.ofSettings poll
  match ← Convergence.await backoff poll.stallTimeout p.settings.fetchTimeout changes expected with
  | .ok () => return .ok ()
  | .error (.permanent (.workload name state message)) =>
    return .error (.workloadFailed node contract name state message)
  | .error (.permanent (.stalled ok total)) =>
    return .error (.stalled node contract poll.stallTimeout ok total)
  | .error (.exhausted _ _) => return .error (.deadlineExceeded node contract backoff.maxElapsed)

/-- Waits until the node reports every expected workload ok at its version. -/
def await (p : Deployer) (node : NodeId) (contract : ContractId) (expected : NameMap UInt32) :
    Timed Grid (Except DeployError Unit) :=
  p.awaitFeed (Grid.getChanges node contract) node contract expected

/-- Cancels the contract of a submission that failed. -/
def withdraw (node : NodeId) (contract : ContractId) (failure : DeployError) : Timed Grid DeployError := do
  match ← Grid.cancelContract contract with
  | .ok () => return .rejected node contract failure
  | .error cause =>
    return if cause.isNotFound then .rejected node contract failure
      else .danglingContract node contract failure cause

/-- Makes a contract for a deployment that is new on its node and submits it. The result is the contract, once the node has
taken the deployment. -/
def open? (p : Deployer) (node : NodeId) (desired : Deployment) (solutionProvider : Option UInt64) :
    Timed Grid (Except DeployError Deployment) := do
  match p.sign node { desired.resetVersions with contractId := 0 } with
  | .error e => return .error e
  | .ok d =>
    let publicIps ← (Checked.count32 d.publicIpv4Count : Checked UInt32)
    match ← Grid.createContract ⟨node, d.challengeHash, d.metadata, publicIps, solutionProvider⟩ with
    | .error cause => return .error (.ledger node .create cause)
    | .ok contract =>
      let d := { d with contractId := contract }
      match ← p.submit .first node d with
      | .error failure => return .error (← withdraw node contract failure)
      | .ok () => return .ok d

/-- Replaces the deployment that runs on a node by the desired one, at the next version. The contract is changed before the
node is asked. -/
def replace (p : Deployer) (node : NodeId) (contract : ContractId) (desired live : Deployment) :
    Timed Grid (Except DeployError Unit) := do
  let version ← (Checked.add32 live.version 1 : Checked UInt32)
  match p.sign node (desired.revise live contract version) with
  | .error e => return .error e
  | .ok d =>
    match ← Grid.updateContract contract d.challengeHash d.metadata with
    | .error cause => return .error (.ledger node .update cause)
    | .ok _ =>
      match ← p.submit .change node d with
      | .error e => return .error e
      | .ok () => p.await node contract d.workloadVersions

/-- Changes a deployment that runs on a node to the desired one, and does nothing where it has the same content. -/
def update (p : Deployer) (node : NodeId) (contract : ContractId) (desired : Deployment) :
    Timed Grid (Except DeployError Unit) := do
  match ← p.get node contract with
  | .error e => return .error e
  | .ok live => if live.isUnchanged desired then return .ok () else p.replace node contract desired live

/-- Cancels a contract; one that is already gone is an error here. -/
def cancel (contract : ContractId) : Timed Grid (Except DeployError Unit) := do
  match ← Grid.cancelContract contract with
  | .ok () => return .ok ()
  | .error cause => return .error (.cancel contract cause)

end Deployer

end ComputeGrid
