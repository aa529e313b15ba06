import ComputeGrid.Inventory.Store
import ComputeGrid.Ledger.Basic
import ComputeGrid.Node.Basic
import ComputeGrid.Timeline

/-!
# The grid

A ledger, nodes with a record of the calls to them, and perhaps an inventory. Nodes that are attached to the ledger take
only deployments that an active contract covers, and forget those whose contract is no longer active.
-/

namespace ComputeGrid

/-- The state that deployers and planners work on. -/
structure Grid where
  ledger : Ledger
  nodes : NodeMap Node
  /-- The calls that were made, with their methods' names, most recent first. -/
  calls : List (NodeId × String)
  /-- Whether nodes check deployments against the ledger. -/
  attached : Bool
  inventory : Option Inventory

namespace Grid

/-- Changes a node, which is a new one if there was none. -/
def withNode (g : Grid) (node : NodeId) (change : Node → Node) : Grid :=
  { g with nodes := g.nodes.insert node (change (g.nodes.getD node .new)) }

/-- The deployment that a node runs under a contract. -/
def deployment? (g : Grid) (node : NodeId) (contract : ContractId) : Option Deployment :=
  g.nodes[node]?.bind (·.deployments[contract]?)

/-- How many calls of a method there were. -/
def callCount (g : Grid) (name : String) : Nat := g.calls.countP (·.2 == name)

/-- How many calls of a method there were to one node. -/
def callsTo (g : Grid) (node : NodeId) (name : String) : Nat := g.calls.countP fun c => c.1 == node && c.2 == name

/-- Whether attached nodes hold that a contract is over. -/
def isOver (g : Grid) (contract : ContractId) : Bool := g.attached && (g.ledger.active? contract).isNone

/-- Asks the ledger to make a contract. -/
def createContract (r : ContractRequest) : Timed Grid (Except LedgerError ContractId) :=
  Timed.updateChecked fun g => do
    let (result, ledger) ← g.ledger.create r
    return (result, { g with ledger := ledger })

/-- Asks the ledger to change a contract. -/
def updateContract (contract : ContractId) (hash metadata : String) :
    Timed Grid (Except LedgerError ContractId) :=
  Timed.update fun g =>
    let (result, ledger) := g.ledger.update contract hash metadata
    (result, { g with ledger := ledger })

/-- Asks the ledger to cancel a contract. -/
def cancelContract (contract : ContractId) : Timed Grid (Except LedgerError Unit) :=
  Timed.update fun g =>
    let (result, ledger) := g.ledger.cancel contract
    (result, { g with ledger := ledger })

end Grid

end ComputeGrid
