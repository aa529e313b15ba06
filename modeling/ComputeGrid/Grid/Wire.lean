import ComputeGrid.Grid.Exchanges
import ComputeGrid.Inventory.Codec

/-!
# Calls as they are sent

A call names its method and carries JSON. It does what the exchange of that method does, once its payload has been read,
and its answer is written as JSON.
-/

namespace ComputeGrid.Grid

/-- The contract that a payload names. -/
def contractRef? (j : Json) : Option ContractId := do
  let f ← j.toFields? 1
  f.required 0 "contract_id" Json.toUInt64?

/-- An answer that is written as JSON. -/
def written {α : Type} (toJson : α → Json) (answer : Grid → Except RpcError α × Grid) (g : Grid) :
    Except RpcError Json × Grid :=
  let (result, g) := answer g
  (result.map toJson, g)

/-- An answer to a payload that has to be read. -/
def reading {α : Type} (payload : Option α) (answer : α → Grid → Except RpcError Json × Grid) (g : Grid) :
    Except RpcError Json × Grid :=
  match payload with
  | some x => answer x g
  | none => (.error .malformed, g)

/-- What a node answers to a method with a payload. -/
def respond (node : NodeId) (payload : Json) : NodeMethod → Grid → Except RpcError Json × Grid
  | .deploy => reading (Deployment.ofJson? payload) fun d => written (fun _ => .null) ((submission .first node d).answer)
  | .update => reading (Deployment.ofJson? payload) fun d => written (fun _ => .null) ((submission .change node d).answer)
  | .get => reading (contractRef? payload) fun c => written Deployment.toJson ((getDeployment node c).answer)
  | .changes =>
    reading (contractRef? payload) fun c => written (Json.ofList Workload.toJson) ((getChanges node c).answer)
  | .wgPorts => written (Json.ofList fun p => .ofNat p.toNat) (getPorts node).answer
  | .publicConfig => written PublicConfig.toJson (getPublicConfig node).answer
  | .interfaces => written (Json.nameMap (Json.ofList IpAddress.toJson)) (getInterfaces node).answer

/-- A call by the name of a method, with a payload. -/
def call (node : NodeId) (name : String) (payload : Json) : NodeExchange Json :=
  exchange node name fun g =>
    match NodeMethod.ofText? name with
    | some method => respond node payload method g
    | none => (.error (.unknownMethod node name), g)

end ComputeGrid.Grid
