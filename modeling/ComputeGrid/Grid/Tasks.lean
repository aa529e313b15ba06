import ComputeGrid.Grid.Fetch

/-!
# Fetching in tasks

The nodes of a fleet are asked by tasks, one for each. The tasks share the grid and the record of what they have brought in.
Each holds what is shared for one turn at a time, and any task that can take a turn may be the next to do so. Time passes
only when none can: it moves to the first moment at which one can again.
-/

namespace ComputeGrid

namespace Grid

/-- What a node answers to a question for a deployment, once the ledger has said whether the contract is over. -/
def lookUpGiven (ended : Bool) (node : NodeId) (contract : ContractId) (g : Grid) : Except RpcError Deployment × Grid :=
  let missing : Except RpcError Deployment := .error (.notFound node (.deployment contract))
  if ended then
    (missing, { g with nodes := g.nodes.modify node fun n =>
      { n with deployments := n.deployments.erase contract } })
  else match g.deployment? node contract with
    | some d => (.ok d, g)
    | none => (missing, g)

end Grid

/-- What tasks have brought in. -/
structure Collected where
  fetched : NodeMap Deployment
  failures : NodeMap RpcError

namespace Collected

/-- Adds what came of a node. -/
def add (c : Collected) (node : NodeId) : Except RpcError Deployment → Collected
  | .ok d => { c with fetched := c.fetched.insert node d }
  | .error e => { c with failures := c.failures.insert node e }

/-- The deployments, if there was no failure. -/
def result (c : Collected) : Except FetchError (NodeMap Deployment) :=
  if c.failures.isEmpty then .ok c.fetched else .error ⟨c.fetched, c.failures⟩

end Collected

/-- How far a task has come. -/
inductive Stage where
  | ready
  /-- The request is on its way, the answer is due at a time, and the task waits until another. -/
  | waiting (due deadline : Nat)
  /-- The node has the request and asks the ledger about the contract. -/
  | asking
  /-- The node knows whether the contract is over and looks for the deployment. -/
  | looking (ended : Bool)
  | answered (x : Except RpcError Deployment)
  | done

namespace Stage

/-- The first time at which a task can take a turn. -/
def wake? : Stage → Option Nat
  | waiting due deadline => some (min due deadline)
  | done => none
  | _ => some 0

end Stage

/-- The task that asks a node for its deployment under a contract. -/
structure Task where
  node : NodeId
  contract : ContractId
  stage : Stage

/-- What a task does in a turn, if it can take one. An answer that is due is taken in even where the time is up. -/
def Task.turn? (timeout : Duration) (now : Nat) (task : Task) (g : Grid) (c : Collected) :
    Option (Task × Grid × Collected) :=
  match task.stage with
  | .ready =>
    match (Grid.getDeployment task.node task.contract).send g with
    | (.answered x, g) => some ({ task with stage := .answered x }, g, c)
    | (.pending delay, g) =>
      some ({ task with stage := .waiting (now + delay) (now + timeout.ceilMillis) }, g, c)
  | .waiting due deadline =>
    if due ≤ now then some ({ task with stage := .asking }, g, c)
    else if deadline ≤ now then
      some ({ task with stage := .answered (.error (.timeout task.node .get)) }, g, c)
    else none
  | .asking => some ({ task with stage := .looking (g.isOver task.contract) }, g, c)
  | .looking ended =>
    let (x, g) := g.lookUpGiven ended task.node task.contract
    some ({ task with stage := .answered x }, g, c)
  | .answered x => some ({ task with stage := .done }, g, c.add task.node x)
  | .done => none

/-- Tasks with what they share, at a time. -/
structure Fetching where
  now : Nat
  grid : Grid
  collected : Collected
  tasks : List Task

namespace Fetching

/-- One task for each node, none of which has begun. -/
def start (current : NodeMap ContractId) (t : Timeline Grid) : Fetching where
  now := t.now
  grid := t.state
  collected := ⟨∅, ∅⟩
  tasks := current.toList.map fun (node, contract) => ⟨node, contract, .ready⟩

/-- All tasks have come to their end. -/
def Finished (s : Fetching) : Prop := ∀ task ∈ s.tasks, task.stage = .done

/-- One task takes a turn, or time passes until one can. -/
inductive Step (timeout : Duration) (s : Fetching) : Fetching → Prop where
  | turn {before after : List Task} {task task' : Task} {g : Grid} {c : Collected}
    (tasks : s.tasks = before ++ task :: after) (turn : task.turn? timeout s.now s.grid s.collected = some (task', g, c)) :
    Step timeout s { s with grid := g, collected := c, tasks := before ++ task' :: after }
  | tick {now : Nat} (later : s.now < now) (wakes : ∃ task ∈ s.tasks, task.stage.wake? = some now)
    (first : ∀ task ∈ s.tasks, ∀ w, task.stage.wake? = some w → now ≤ w) :
    Step timeout s { s with now := now }

/-- A number of steps, one after another. -/
inductive Steps (timeout : Duration) (s : Fetching) : Nat → Fetching → Prop where
  | none : Steps timeout s 0 s
  | next {k : Nat} {s₁ s₂ : Fetching} (steps : Steps timeout s k s₁) (step : Step timeout s₁ s₂) :
    Steps timeout s (k + 1) s₂

end Fetching

end ComputeGrid
