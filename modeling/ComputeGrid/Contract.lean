import ComputeGrid.Identifier
import ComputeGrid.Json.Record

/-!
# Contracts

A contract is the ledger's record of a deployment: which node runs it, for whom, the hash of its challenge and how many
public addresses are reserved for it.
-/

namespace ComputeGrid

/-- How far the life of a contract has come. -/
inductive ContractState where
  | created
  | gracePeriod
  | deleted
  deriving DecidableEq, Repr, Inhabited

namespace ContractState

/-- Every state, in order. -/
def all : List ContractState := [created, gracePeriod, deleted]

def text : ContractState → String
  | created => "created"
  | gracePeriod => "grace_period"
  | deleted => "deleted"

def ofText? (s : String) : Option ContractState := all.find? (·.text == s)

end ContractState

/-- A contract between a twin and a node. The addresses are reserved when it is made, and no update raises them. -/
structure Contract where
  contractId : ContractId
  nodeId : NodeId
  twinId : TwinId
  deploymentHash : String
  deploymentData : String
  publicIps : UInt32
  state : ContractState
  solutionProvider : Option UInt64
  deriving DecidableEq, Repr

namespace Contract

/-- Whether the contract has not been canceled. -/
def isActive (c : Contract) : Bool := c.state != .deleted

def toJson (c : Contract) : Json :=
  .object [("contract_id", .ofNat c.contractId.toNat), ("node_id", .ofNat c.nodeId.toNat),
    ("twin_id", .ofNat c.twinId.toNat), ("deployment_hash", .string c.deploymentHash),
    ("deployment_data", .string c.deploymentData), ("public_ips", .ofNat c.publicIps.toNat),
    ("state", .string c.state.text),
    ("solution_provider", Json.ofOption (fun n => .ofNat n.toNat) c.solutionProvider)]

def ofJson? (j : Json) : Option Contract := do
  let f ← j.toFields? 8
  return {
    contractId := ← f.required 0 "contract_id" Json.toUInt64?
    nodeId := ← f.required 1 "node_id" Json.toUInt32?
    twinId := ← f.required 2 "twin_id" Json.toUInt32?
    deploymentHash := ← f.required 3 "deployment_hash" Json.toString?
    deploymentData := ← f.withDefault 4 "deployment_data" Json.toString? ""
    publicIps := ← f.required 5 "public_ips" Json.toUInt32?
    state := ← f.withDefault 6 "state" (fun j => j.toName?.bind ContractState.ofText?) .created
    solutionProvider := ← f.withDefault 7 "solution_provider" (Json.toOption? Json.toUInt64?) none }

end Contract

end ComputeGrid
