import ComputeGrid.Reconcile.Deployer

/-!
# Passes

A pass leads from contracts of nodes to the deployments that are wanted, in steps: contracts of nodes that are no longer
wanted are canceled, then new nodes get theirs, then the others are updated, each in the order of the nodes. The first step
that fails ends the pass. `Outcome.applied` holds the contracts that are in place whatever happened.
-/

namespace ComputeGrid

/-- A step of a pass. -/
inductive Step where
  | remove (node : NodeId) (contract : ContractId)
  | create (node : NodeId) (desired : Deployment)
  | update (node : NodeId) (contract : ContractId) (desired : Deployment)

/-- The contracts that are in place, and what stopped the pass, if anything. -/
structure Outcome where
  applied : NodeMap ContractId
  error : Option DeployError

/-- The outcome of a step that leaves contracts in place. -/
def Outcome.of (applied : NodeMap ContractId) : Except DeployError Unit → Outcome
  | .ok () => ⟨applied, none⟩
  | .error e => ⟨applied, some e⟩

namespace Step

/-- The node of a step. -/
def node : Step → NodeId
  | remove node _ | create node _ | update node _ _ => node

/-- The steps from contracts to desired deployments. -/
def plan (current : NodeMap ContractId) (desired : NodeMap Deployment) : List Step :=
  (current.toList.filterMap fun (node, contract) =>
    if node ∈ desired then none else some (remove node contract)) ++
  (desired.toList.filterMap fun (node, d) => if node ∈ current then none else some (create node d)) ++
  (desired.toList.filterMap fun (node, d) => current[node]?.map fun contract => update node contract d)

/-- Takes a step, given the contracts in place before it. -/
def run (p : Deployer) (solutionProvider : Option UInt64) (applied : NodeMap ContractId) :
    Step → Timed Grid Outcome
  | remove node contract => do
    match ← Grid.cancelContract contract with
    | .ok () => return ⟨applied.erase node, none⟩
    | .error cause =>
      return if cause.isNotFound then ⟨applied.erase node, none⟩ else ⟨applied, some (.cancel contract cause)⟩
  | create node desired => do
    match ← p.open? node desired solutionProvider with
    | .error e => return ⟨applied, some e⟩
    | .ok d => return .of (applied.insert node d.contractId) (← p.await node d.contractId d.workloadVersions)
  | update node contract desired => return .of applied (← p.update node contract desired)

/-- Takes steps up to the first that fails. -/
def runAll (p : Deployer) (solutionProvider : Option UInt64) (applied : NodeMap ContractId) :
    List Step → Timed Grid Outcome
  | [] => return ⟨applied, none⟩
  | s :: rest => do
    let outcome ← s.run p solutionProvider applied
    match outcome.error with
    | some _ => return outcome
    | none => runAll p solutionProvider outcome.applied rest

end Step

/-- One pass from contracts of nodes to desired deployments. -/
def Deployer.pass (p : Deployer) (current : NodeMap ContractId) (desired : NodeMap Deployment)
    (solutionProvider : Option UInt64) : Timed Grid Outcome :=
  Step.runAll p solutionProvider current (Step.plan current desired)

end ComputeGrid
