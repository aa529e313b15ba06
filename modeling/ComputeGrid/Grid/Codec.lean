import ComputeGrid.Deployment.Codec
import ComputeGrid.Grid.Basic
import ComputeGrid.Inventory.Codec

/-!
# Grids as JSON

Descriptions of a ledger, of nodes and of an inventory, from which a grid is made. Whatever a description leaves out is as
in a new one.
-/

namespace ComputeGrid

def Provisioning.ofJson? : Json → Option Provisioning
  | .string "instant" => some .instant
  | .string "stuck" => some .stuck
  | .string "one_per_poll" => some .onePerPoll
  | .object [("after_polls", polls)] => polls.toUInt32?.map .afterPolls
  | .object [("fail", j)] => do
    let f ← j.toOpenFields?
    return .fail (← f.required 0 "workload" Json.toString?) (← f.required 1 "message" Json.toString?)
  | _ => none

def Node.ofJson? (j : Json) : Option Node := do
  let f ← j.toOpenFields?
  let deployments ← f.withDefault 7 "deployments" (Json.toList? Deployment.ofJson?) []
  return {
    deployments := deployments.foldl (fun m d => m.insert d.contractId d) ∅
    pendingPolls := ∅
    wgPorts := ← f.withDefault 2 "wg_ports" (Json.toList? Json.toUInt16?) []
    publicConfig := ← f.withDefault 0 "public_config" (Json.toOption? PublicConfig.ofJson?) none
    interfaces := ← f.withDefault 1 "interfaces" (Json.toNameMap? (Json.toList? IpAddress.ofJson?)) ∅
    provisioning := ← f.withDefault 6 "provisioning" Provisioning.ofJson? .instant
    refusal := ← f.withDefault 5 "reject" (Json.toOption? Json.toString?) none
    down := ← f.withDefault 4 "down" Json.toBool? false
    latency := ← f.withDefault 3 "latency_ms" (Json.toNatBelow? UInt64.size) 0 }

/-- A node with a number that is set aside for it. -/
def Ledger.setAsideOfJson? : Json → Option (NodeId × ContractId)
  | .array [node, contract] => do return (← node.toUInt32?, ← contract.toUInt64?)
  | _ => none

/-- The ledger of a twin, whose contracts are recorded one after another. -/
def Ledger.ofJson? (twinId : TwinId) (j : Json) : Option (Checked Ledger) := do
  let f ← j.toOpenFields?
  let new := Ledger.new twinId
  let balance ← f.withDefault 0 "balance" Json.toUInt64? new.balance
  let numbers ← f.withDefault 1 "contract_ids" (Json.toList? setAsideOfJson?) []
  let refused ← f.withDefault 2 "rejected_creates" (Json.toList? Json.toUInt32?) []
  let contracts ← f.withDefault 3 "contracts" (Json.toList? Contract.ofJson?) []
  let l := numbers.foldl (fun l (node, contract) => l.setContractId node contract) { new with balance := balance }
  return contracts.foldlM Ledger.insert (refused.foldl Ledger.refuseNode l)

def Inventory.ofJson? (j : Json) : Option Inventory := do
  let f ← j.toOpenFields?
  let nodes ← f.withDefault 0 "nodes" (Json.toList? NodeInfo.ofJson?) []
  let farms ← f.withDefault 1 "farms" (Json.toList? Farm.ofJson?) []
  let offline ← f.withDefault 2 "unavailable" Json.toBool? false
  return { farms.foldl insertFarm (nodes.foldl insertNode empty) with online := !offline }

namespace Grid

/-- A deployment by what a node reports about it. -/
def deploymentSummary (d : Deployment) : Json :=
  .object [("version", .ofNat d.version.toNat), ("contract_id", .ofNat d.contractId.toNat),
    ("workloads", Json.ofList (fun w => .array [.string w.name, .ofNat w.version.toNat, .string w.report.state.text,
      .string w.report.error]) d.workloads)]

/-- A contract with short names. -/
def contractSummary (c : Contract) : Json :=
  .object [("id", .ofNat c.contractId.toNat), ("node", .ofNat c.nodeId.toNat), ("twin", .ofNat c.twinId.toNat),
    ("hash", .string c.deploymentHash), ("data", .string c.deploymentData), ("ips", .ofNat c.publicIps.toNat),
    ("state", .string c.state.text), ("sp", Json.ofOption (fun n => .ofNat n.toNat) c.solutionProvider)]

/-- The deployments of some nodes under some contracts. -/
def deploymentsAmong (g : Grid) (nodes : List NodeId) (contracts : List ContractId) :
    NodeMap (ContractMap Deployment) :=
  let found (node : NodeId) : ContractMap Deployment :=
    .ofList (contracts.filterMap fun c => (g.deployment? node c).map (c, ·))
  (Std.ExtTreeMap.ofList (nodes.map fun node => (node, found node))).filter fun _ m => !m.isEmpty

/-- What can be seen of a grid at once: active contracts, what the ledger has done, and deployments of some nodes under
some contracts. -/
def summary (g : Grid) (nodes : List NodeId) (contracts : List ContractId) : Json :=
  .object [("contracts", Json.ofList contractSummary g.ledger.activeContracts),
    ("canceled", Json.ofList (fun c => .ofNat c.toNat) g.ledger.canceled), ("creates", .ofNat g.ledger.creates),
    ("updates", .ofNat g.ledger.updates),
    ("deployments", Json.nodeMap (Json.contractMap deploymentSummary) (g.deploymentsAmong nodes contracts))]

end Grid

end ComputeGrid
