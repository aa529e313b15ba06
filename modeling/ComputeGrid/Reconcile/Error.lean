import ComputeGrid.Feasibility
import ComputeGrid.Ledger.Basic
import ComputeGrid.Node.Call
import ComputeGrid.Polling.Convergence

/-!
# Errors of reconciliation

`DeployError` is every way in which a pass can stop. An error may contain the one that led to it: the submission that
failed before a contract was canceled, or the error of the pass that was then reverted.
-/

namespace ComputeGrid

/-- What is done to a contract. -/
inductive ContractAction where
  | create
  | update
  deriving DecidableEq, Repr

def ContractAction.text : ContractAction → String
  | create => "create"
  | update => "update"

/-- Why a pass stopped. -/
inductive DeployError where
  | invalid (node : NodeId) (cause : ValidationError)
  | ledger (node : NodeId) (action : ContractAction) (cause : LedgerError)
  | cancel (contract : ContractId) (cause : LedgerError)
  | rpc (node : NodeId) (contract : ContractId) (method : NodeMethod) (cause : RpcError)
  | timeout (node : NodeId) (contract : ContractId) (method : NodeMethod) (after : Duration)
  /-- A submission failed and its contract was canceled. -/
  | rejected (node : NodeId) (contract : ContractId) (cause : DeployError)
  /-- A submission failed and its contract could not be canceled. -/
  | danglingContract (node : NodeId) (contract : ContractId) (cause : DeployError) (obstacle : LedgerError)
  | workloadFailed (node : NodeId) (contract : ContractId) (workload : String) (state : ReportState)
      (report : String)
  | stalled (node : NodeId) (contract : ContractId) (window : Duration) (ok total : Nat)
  | deadlineExceeded (node : NodeId) (contract : ContractId) (budget : Duration)
  | feasibility (cause : FeasibilityError)
  | balance (cause : LedgerError)
  | insufficientBalance (available required : UInt64)
  /-- A pass failed, and what there was before it is not known. -/
  | revertUnavailable (cause : DeployError)
  /-- A pass failed, and so did the one that was to revert it. -/
  | revertFailed (cause revert : DeployError)
  deriving DecidableEq, Repr

namespace DeployError

/-- The start of a message about a node. -/
def about (node : NodeId) (text : String) : String := "node " ++ toString node.toNat ++ ": " ++ text

def message : DeployError → String
  | invalid node cause => about node ("invalid deployment: " ++ cause.message)
  | ledger node action cause => about node ("failed to " ++ action.text ++ " node contract: " ++ cause.message)
  | cancel contract cause => "failed to cancel contract " ++ toString contract.toNat ++ ": " ++ cause.message
  | rpc node contract method cause =>
    about node (method.text ++ " for contract " ++ toString contract.toNat ++ " failed: " ++ cause.message)
  | timeout node contract method after =>
    about node (method.text ++ " for contract " ++ toString contract.toNat ++ " timed out after " ++ after.text)
  | rejected node contract cause =>
    about node ("deployment rejected, contract " ++ toString contract.toNat ++ " was canceled: " ++ cause.message)
  | danglingContract node contract cause obstacle =>
    about node ("deployment rejected (" ++ cause.message ++ ") and canceling its contract failed (" ++ obstacle.message ++
      "), you must cancel it manually (contract id " ++ toString contract.toNat ++ ")")
  | workloadFailed node contract workload state report =>
    about node ("workload " ++ Text.quoted workload ++ " of deployment " ++ toString contract.toNat ++ " is in state " ++
      state.text ++ ": " ++ report)
  | stalled node contract window ok total =>
    about node ("deployment " ++ toString contract.toNat ++ " made no progress for " ++ window.text ++ " (" ++
      toString ok ++ "/" ++ toString total ++ " workloads ok)")
  | deadlineExceeded node contract budget =>
    about node ("deployment " ++ toString contract.toNat ++ " did not converge within " ++ budget.text)
  | feasibility cause => cause.message
  | balance cause => "failed to read account balance: " ++ cause.message
  | insufficientBalance available required =>
    "balance " ++ toString available.toNat ++ " is below the required minimum of " ++ toString required.toNat
  | revertUnavailable cause =>
    cause.message ++ "; could not revert: the previous deployments could not be fetched"
  | revertFailed cause revert =>
    "failed to revert deployments: " ++ revert.message ++ "; original error: " ++ cause.message

/-- The node that an error is about, if it is about one. -/
def node? : DeployError → Option NodeId
  | invalid node _ | ledger node _ _ | rpc node _ _ _ | timeout node _ _ _ | rejected node _ _
  | danglingContract node _ _ _ | workloadFailed node _ _ _ _ | stalled node _ _ _ _ | deadlineExceeded node _ _ =>
    some node
  | cancel _ _ | feasibility _ | balance _ | insufficientBalance _ _ | revertUnavailable _ | revertFailed _ _ => none

end DeployError

end ComputeGrid
