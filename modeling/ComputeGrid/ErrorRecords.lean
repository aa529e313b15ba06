import ComputeGrid.Deployment.Codec
import ComputeGrid.Grid.Fetch
import ComputeGrid.Mesh.Error
import ComputeGrid.Reconcile.Error

/-!
# Errors as JSON

An error is written as an object with its kind as the member `error` and its message. Errors of the ledger and of calls also
say whether something was not found, and errors of passes hold the errors that led to them.
-/

namespace ComputeGrid

/-- An error by its kind, without a message. -/
def Json.bareError (kind : String) : Json := .object [("error", .string kind)]

/-- An error by its kind and message, with further members. -/
def Json.errorRecord (kind message : String) (more : List (String × Json)) : Json :=
  .object ([("error", .string kind), ("message", .string message)] ++ more)

def Fault.toJson (e : Fault) : Json := Json.errorRecord "panic" e.message []

def ValidationError.toJson (e : ValidationError) : Json :=
  let kind := match e with
    | empty => "Empty"
    | invalidName _ => "InvalidName"
    | duplicateName _ => "DuplicateName"
    | versionRegression _ _ _ => "VersionRegression"
    | invalidWorkload _ _ => "InvalidWorkload"
    | danglingReference _ _ _ => "DanglingReference"
  Json.errorRecord kind e.message []

def SettingsError.toJson (e : SettingsError) : Json :=
  match e with
  | unreadable => Json.bareError "Io"
  | malformed => Json.bareError "Parse"
  | unwritable => Json.bareError "Render"
  | noDuration _ _ | multiplier | noNetwork _ | portBounds =>
    Json.errorRecord "Invalid" (e.message?.getD "") []

def LedgerError.toJson (e : LedgerError) : Json :=
  let kind := match e with
    | notFound _ => "ContractNotFound"
    | nodeRefused _ | cancelRefused _ => "Rejected"
    | offline => "Unavailable"
  Json.errorRecord kind e.message [("not_found", .bool e.isNotFound)]

def RpcError.toJson (e : RpcError) : Json :=
  let record (kind : String) : Json := Json.errorRecord kind e.message [("not_found", .bool e.isNotFound)]
  match e with
  | unreachable _ => record "Unreachable"
  | timeout _ _ => record "Timeout"
  | notFound _ _ => record "NotFound"
  | refused _ _ _ => record "Remote"
  | unknownMethod _ _ => record "UnknownMethod"
  | malformed => .object [("error", .string "Codec"), ("not_found", .bool e.isNotFound)]

def InventoryError.toJson (e : InventoryError) : Json :=
  let kind := match e with
    | nodeNotFound _ => "NodeNotFound"
    | noPublicNode => "NoPublicNode"
    | offline => "Unavailable"
  Json.errorRecord kind e.message []

def FeasibilityError.toJson (e : FeasibilityError) : Json :=
  let kind := match e with
    | notEnoughPublicIps _ _ => "NotEnoughPublicIps"
    | publicIpIncrease _ _ _ _ => "PublicIpIncrease"
    | noPublicIpv4 _ => "NoPublicIpv4"
    | noDomain _ => "NoDomain"
    | insufficientCapacity _ _ _ => "InsufficientCapacity"
  Json.errorRecord kind e.message []

def MeshError.toJson (e : MeshError) : Json :=
  let kind := match e with
    | invalidRange _ => "InvalidRange"
    | subnetsExhausted _ => "SubnetsExhausted"
    | noFreePort _ => "NoFreePort"
    | noRelay _ => "NoRelay"
    | rpc _ _ => "Rpc"
    | inventory _ => "Inventory"
    | settings _ => "Config"
    | invalidKey _ => "InvalidKey"
    | otherRange _ _ _ _ => "Inconsistent"
  Json.errorRecord kind e.message []

/-- The error with the node that it is about and the errors that led to it. -/
def DeployError.toJson (e : DeployError) : Json :=
  let record (kind : String) (causes : List (String × Json)) : Json :=
    Json.errorRecord kind e.message (("node", Json.ofOption (fun n => .ofNat n.toNat) e.node?) :: causes)
  match e with
  | invalid _ cause => record "Invalid" [("source", cause.toJson)]
  | ledger _ _ cause => record "Ledger" [("source", cause.toJson)]
  | cancel _ cause => record "Cancel" [("source", cause.toJson)]
  | rpc _ _ _ cause => record "Rpc" [("source", cause.toJson)]
  | timeout _ _ _ _ => record "Timeout" []
  | rejected _ _ cause => record "Rejected" [("source", cause.toJson)]
  | danglingContract _ _ cause obstacle =>
    record "DanglingContract" [("source", cause.toJson), ("cancel", obstacle.toJson)]
  | workloadFailed _ _ _ _ _ => record "WorkloadFailed" []
  | stalled _ _ _ _ _ => record "Stalled" []
  | deadlineExceeded _ _ _ => record "DeadlineExceeded" []
  | feasibility cause => record "Feasibility" [("source", cause.toJson)]
  | balance cause => record "Balance" [("source", cause.toJson)]
  | insufficientBalance _ _ => record "InsufficientBalance" []
  | revertUnavailable cause => record "RevertUnavailable" [("original", cause.toJson)]
  | revertFailed cause revert =>
    record "RevertFailed" [("original", cause.toJson), ("revert", revert.toJson)]

def FetchError.toJson (e : FetchError) : Json :=
  Json.errorRecord "Fetch" e.message [("fetched", Json.nodeMap Deployment.toJson e.fetched),
    ("failures", Json.nodeMap RpcError.toJson e.failures)]

end ComputeGrid
