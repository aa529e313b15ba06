import ComputeGrid.Deployment.Validity

/-!
# Calls of nodes

The methods that a node answers, and the ways in which a call can fail. `Refusal` is why a node does not take a deployment.
-/

namespace ComputeGrid

/-- What a node can be asked. -/
inductive NodeMethod where
  | deploy
  | update
  | get
  | changes
  | wgPorts
  | publicConfig
  | interfaces
  deriving DecidableEq, Repr

namespace NodeMethod

/-- Every method. -/
def all : List NodeMethod := [deploy, update, get, changes, wgPorts, publicConfig, interfaces]

/-- The name of a method in calls. -/
def text : NodeMethod → String
  | deploy => "deployment.deploy"
  | update => "deployment.update"
  | get => "deployment.get"
  | changes => "deployment.changes"
  | wgPorts => "network.list_wg_ports"
  | publicConfig => "network.public_config"
  | interfaces => "network.interfaces"

/-- The method with a given name. -/
def ofText? (s : String) : Option NodeMethod := all.find? (·.text == s)

theorem ofText?_text (m : NodeMethod) : ofText? m.text = some m := by
  cases m <;> decide +kernel

end NodeMethod

/-- Why a node does not take a deployment. -/
inductive Refusal where
  | invalid (cause : ValidationError)
  | unsigned
  | contractInactive (contract : ContractId)
  | otherNode (contract : ContractId) (node : NodeId)
  | otherHash
  | configured (message : String)
  | alreadyExists (contract : ContractId)
  | versionNotGreater (version stored : UInt32)
  deriving DecidableEq, Repr

namespace Refusal

def message : Refusal → String
  | invalid cause => cause.message
  | unsigned => "deployment is not signed"
  | contractInactive contract => "contract " ++ toString contract.toNat ++ " is not active"
  | otherNode contract node =>
    "contract " ++ toString contract.toNat ++ " belongs to node " ++ toString node.toNat
  | otherHash => "deployment hash does not match contract"
  | configured message => message
  | alreadyExists contract => "deployment " ++ toString contract.toNat ++ " already exists"
  | versionNotGreater version stored =>
    "version " ++ toString version.toNat ++ " must be greater than " ++ toString stored.toNat

end Refusal

/-- What a node may not have. -/
inductive Missing where
  | deployment (contract : ContractId)
  | publicConfig
  deriving DecidableEq, Repr

def Missing.text : Missing → String
  | deployment contract => "deployment " ++ toString contract.toNat
  | publicConfig => "public config"

/-- Why a call gives no answer. -/
inductive RpcError where
  | unreachable (node : NodeId)
  | timeout (node : NodeId) (method : NodeMethod)
  | notFound (node : NodeId) (missing : Missing)
  | refused (node : NodeId) (method : NodeMethod) (cause : Refusal)
  | unknownMethod (node : NodeId) (name : String)
  /-- What is sent or answered is not of the form that the method needs. -/
  | malformed
  deriving DecidableEq, Repr

namespace RpcError

def message : RpcError → String
  | unreachable node => "node " ++ toString node.toNat ++ " is unreachable"
  | timeout node method => "node " ++ toString node.toNat ++ ": " ++ method.text ++ " timed out"
  | notFound node missing => "node " ++ toString node.toNat ++ ": " ++ missing.text ++ " not found"
  | refused node method cause =>
    "node " ++ toString node.toNat ++ ": " ++ method.text ++ " failed: " ++ cause.message
  | unknownMethod node name => "node " ++ toString node.toNat ++ ": unknown method " ++ name
  | malformed => "malformed rpc payload"

def isNotFound : RpcError → Bool
  | notFound _ _ => true
  | _ => false

end RpcError

end ComputeGrid
