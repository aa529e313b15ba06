import ComputeGrid.Grid.Fetch
import ComputeGrid.Reconcile.Pass

/-!
# Reconciliation

`Deployer.reconcile` fetches what runs, checks feasibility against it and the balance of the account, and then makes one
pass. If the fetch fails the feasibility check is left out, so that dead nodes can still be removed. A pass that fails may
be followed by another one back to what ran before.
-/

namespace ComputeGrid.Deployer

/-- Whether new deployments are feasible in place of those that run. Without an inventory they are. -/
def checkFeasible (p : Deployer) (old new : NodeMap Deployment) : Timed Grid (Except FeasibilityError Unit) := do
  match (← Timed.query (·.inventory)).filter fun _ => p.validates with
  | some inventory => (inventory.checkFeasible old new : Checked (Except FeasibilityError Unit))
  | none => return .ok ()

/-- Whether the balance suffices for deployments; for none it always does. -/
def checkBalance (p : Deployer) (desired : NodeMap Deployment) : Timed Grid (Except DeployError Unit) := do
  if desired.isEmpty then return .ok ()
  match ← Timed.query (·.ledger.getBalance) with
  | .error cause => return .error (.balance cause)
  | .ok balance =>
    let required := p.settings.minBalance
    return if balance < required then .error (.insufficientBalance balance required) else .ok ()

/-- What must hold before a pass, given the deployments that run if they are known. -/
def precheck (p : Deployer) (previous : Option (NodeMap Deployment)) (desired : NodeMap Deployment) :
    Timed Grid (Except DeployError Unit) := do
  let feasible ← match previous with
    | some old => p.checkFeasible old desired
    | none => pure (.ok ())
  match feasible with
  | .error cause => return .error (.feasibility cause)
  | .ok () => p.checkBalance desired

/-- Makes the pass back from one that failed. -/
def revert (p : Deployer) (failed : NodeMap ContractId) (cause : DeployError)
    (previous : Option (NodeMap Deployment)) (solutionProvider : Option UInt64) : Timed Grid Outcome := do
  match previous with
  | none => return ⟨failed, some (.revertUnavailable cause)⟩
  | some previous =>
    let outcome ← p.pass failed previous solutionProvider
    match outcome.error with
    | none => return ⟨outcome.applied, some cause⟩
    | some e => return ⟨outcome.applied, some (.revertFailed cause e)⟩

/-- Leads from contracts of nodes to desired deployments. -/
def reconcile (p : Deployer) (current : NodeMap ContractId) (desired : NodeMap Deployment)
    (solutionProvider : Option UInt64) : Timed Grid Outcome := do
  let previous := (← Grid.fetchFleet current p.settings.fetchTimeout).toOption
  match ← p.precheck previous desired with
  | .error e => return ⟨current, some e⟩
  | .ok () =>
    let outcome ← p.pass current desired solutionProvider
    match outcome.error with
    | none => return outcome
    | some cause =>
      if p.settings.revertOnFailure then p.revert outcome.applied cause previous solutionProvider
      else return outcome

end ComputeGrid.Deployer
