import ComputeGrid.Contract
import ComputeGrid.Fault

/-!
# The ledger

The ledger is the authority on which contracts exist. It makes, changes and cancels them for one twin, refuses what it is
set to refuse, and counts what it has done. A contract that was canceled stays in its records and is never active again.

* `Ledger.create` gives a new contract the number set aside for its node, or else the least free one from the running
  number on.
* `Ledger.cancel` of a contract that is set to vanish finds it gone.
-/

namespace ComputeGrid

/-- Why the ledger refuses. -/
inductive LedgerError where
  | notFound (contract : ContractId)
  | nodeRefused (node : NodeId)
  | cancelRefused (contract : ContractId)
  | offline
  deriving DecidableEq, Repr

namespace LedgerError

def message : LedgerError → String
  | notFound contract => "contract " ++ toString contract.toNat ++ " not found"
  | nodeRefused node => "ledger rejected the call: node " ++ toString node.toNat ++ " does not accept contracts"
  | cancelRefused contract => "ledger rejected the call: cancel of contract " ++ toString contract.toNat ++ " failed"
  | offline => "ledger unavailable: ledger offline"

/-- Whether the contract is already gone, which is as good as a cancel. -/
def isNotFound : LedgerError → Bool
  | notFound _ => true
  | _ => false

end LedgerError

/-- Contracts by number, with the running number, the numbers set aside for nodes, what is to be refused, and counts. -/
structure Ledger where
  twinId : TwinId
  nextId : ContractId
  contracts : ContractMap Contract
  setAside : NodeMap (List ContractId)
  refusedNodes : Std.ExtTreeSet NodeId
  refusedCancels : Std.ExtTreeSet ContractId
  vanishing : Std.ExtTreeSet ContractId
  online : Bool
  balance : UInt64
  creates : Nat
  updates : Nat
  /-- The contracts that were canceled, first to last. -/
  canceled : List ContractId

/-- What a new contract is to say. -/
structure ContractRequest where
  nodeId : NodeId
  hash : String
  metadata : String
  publicIps : UInt32
  solutionProvider : Option UInt64
  deriving DecidableEq, Repr

namespace Ledger

/-- The ledger of a twin before any contract. -/
def new (twinId : TwinId) : Ledger where
  twinId := twinId
  nextId := 1
  contracts := ∅
  setAside := ∅
  refusedNodes := ∅
  refusedCancels := ∅
  vanishing := ∅
  online := true
  balance := 1000000
  creates := 0
  updates := 0
  canceled := []

/-- Sets a number aside for a contract with a node, after those set aside before. -/
def setContractId (l : Ledger) (node : NodeId) (contract : ContractId) : Ledger :=
  { l with setAside := l.setAside.insert node (l.setAside.getD node [] ++ [contract]) }

/-- Contracts with the node will be refused. -/
def refuseNode (l : Ledger) (node : NodeId) : Ledger := { l with refusedNodes := l.refusedNodes.insert node }

/-- Canceling the contract will be refused. -/
def refuseCancel (l : Ledger) (contract : ContractId) : Ledger :=
  { l with refusedCancels := l.refusedCancels.insert contract }

/-- The contract will be found gone when it is canceled. -/
def vanish (l : Ledger) (contract : ContractId) : Ledger := { l with vanishing := l.vanishing.insert contract }

/-- A running number above a contract's. -/
def advance (l : Ledger) (contract : ContractId) : Checked Ledger := do
  return { l with nextId := max l.nextId (← Checked.add64 contract 1) }

/-- Records a contract that was made before. -/
def insert (l : Ledger) (c : Contract) : Checked Ledger := do
  let l ← l.advance c.contractId
  return { l with contracts := l.contracts.insert c.contractId c }

/-- The contracts that have not been canceled. -/
def activeContracts (l : Ledger) : List Contract := l.contracts.toList.filterMap fun (_, c) =>
  if c.isActive then some c else none

/-- A contract that has not been canceled. -/
def active? (l : Ledger) (contract : ContractId) : Option Contract := l.contracts[contract]?.filter (·.isActive)

/-- The least number without a contract among `left` numbers from one on. -/
def leastFree (contracts : ContractMap Contract) : (left : Nat) → ContractId → Checked ContractId
  | 0, _ => .error .sum
  | left + 1, contract => if contract ∈ contracts then leastFree contracts left (contract + 1) else .ok contract

/-- The number of the next contract with a node, and the ledger without it among the numbers set aside. -/
def takeNumber (l : Ledger) (node : NodeId) : Checked (ContractId × Ledger) :=
  match l.setAside[node]? with
  | some (contract :: rest) => .ok (contract, { l with setAside := l.setAside.insert node rest })
  | _ => do return (← leastFree l.contracts (UInt64.size - l.nextId.toNat) l.nextId, l)

/-- Makes a contract. -/
def create (l : Ledger) (r : ContractRequest) : Checked (Except LedgerError ContractId × Ledger) := do
  if !l.online then return (.error .offline, l)
  if r.nodeId ∈ l.refusedNodes then return (.error (.nodeRefused r.nodeId), l)
  let (contract, l) ← l.takeNumber r.nodeId
  let l ← l.advance contract
  let c : Contract := {
    contractId := contract
    nodeId := r.nodeId
    twinId := l.twinId
    deploymentHash := r.hash
    deploymentData := r.metadata
    publicIps := r.publicIps
    state := .created
    solutionProvider := r.solutionProvider }
  return (.ok contract, { l with contracts := l.contracts.insert contract c, creates := l.creates + 1 })

/-- Changes the hash and the metadata of a contract. -/
def update (l : Ledger) (contract : ContractId) (hash metadata : String) : Except LedgerError ContractId × Ledger :=
  if !l.online then (.error .offline, l)
  else match l.active? contract with
    | none => (.error (.notFound contract), l)
    | some c =>
      let c := { c with deploymentHash := hash, deploymentData := metadata }
      (.ok contract, { l with contracts := l.contracts.insert contract c, updates := l.updates + 1 })

/-- The ledger with a contract marked as canceled, if there is one. -/
def delete (l : Ledger) (contract : ContractId) : Ledger :=
  { l with contracts := l.contracts.modify contract fun c => { c with state := .deleted } }

/-- The ledger after a contract that is set to vanish has done so. -/
def settleVanishing (l : Ledger) (contract : ContractId) : Ledger :=
  if contract ∈ l.vanishing then { l.delete contract with vanishing := l.vanishing.erase contract } else l

/-- Cancels a contract. -/
def cancel (l : Ledger) (contract : ContractId) : Except LedgerError Unit × Ledger :=
  if !l.online then (.error .offline, l)
  else if contract ∈ l.refusedCancels then (.error (.cancelRefused contract), l)
  else
    let l := l.settleVanishing contract
    match l.active? contract with
    | none => (.error (.notFound contract), l)
    | some _ =>
      let l := l.delete contract
      (.ok (), { l with canceled := l.canceled ++ [contract] })

/-- A contract, canceled or not. -/
def contract (l : Ledger) (contract : ContractId) : Except LedgerError Contract :=
  if !l.online then .error .offline
  else match l.contracts[contract]? with
    | some c => .ok c
    | none => .error (.notFound contract)

/-- The balance of the account. -/
def getBalance (l : Ledger) : Except LedgerError UInt64 :=
  if l.online then .ok l.balance else .error .offline

end Ledger

end ComputeGrid
