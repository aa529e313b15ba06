import ComputeGrid.Inventory.Store
import ComputeGrid.Mesh.Keys
import ComputeGrid.Node.Call
import ComputeGrid.Settings.Basic

/-!
# Errors of meshes
-/

namespace ComputeGrid

/-- Why there is no relay. -/
inductive RelayGap where
  /-- No node that is wanted can be one, and there is nowhere to look for others. -/
  | noInventory
  | noPublicNode
  /-- As many nodes of the inventory as are tried have no public IPv4 address. -/
  | noCandidate (tried : Nat)
  deriving DecidableEq, Repr

def RelayGap.text : RelayGap → String
  | noInventory => "no target has a public ipv4 and no inventory is configured"
  | noPublicNode => "inventory has no public node left"
  | noCandidate tried => "none of " ++ toString tried ++ " inventory candidates is reachable over ipv4"

/-- Why a mesh cannot be planned or recognized. -/
inductive MeshError where
  | invalidRange (range : Ipv4Network)
  | subnetsExhausted (range : Ipv4Network)
  | noFreePort (node : NodeId)
  | noRelay (gap : RelayGap)
  | rpc (node : NodeId) (cause : RpcError)
  | inventory (cause : InventoryError)
  | settings (cause : SettingsError)
  | invalidKey (flaw : KeyFlaw)
  /-- A node's slice is of another range. -/
  | otherRange (node : NodeId) (name : String) (found range : Ipv4Network)
  deriving DecidableEq, Repr

def MeshError.message : MeshError → String
  | invalidRange range => "network ip range " ++ range.text ++ " must be a /16"
  | subnetsExhausted range => "no free /24 left in " ++ range.text
  | noFreePort node => "no wireguard port available on node " ++ toString node.toNat
  | noRelay gap => "a relay is required but none is available: " ++ gap.text
  | rpc node cause => "node " ++ toString node.toNat ++ ": " ++ cause.message
  | inventory cause => "relay discovery failed: " ++ cause.message
  | settings cause => cause.message?.getD ""
  | invalidKey flaw => "invalid wireguard key: " ++ flaw.text
  | otherRange node name found range =>
    "node " ++ toString node.toNat ++ ": network workload " ++ Text.quoted name ++ " is inconsistent: ip range " ++
      found.text ++ " differs from " ++ range.text

end ComputeGrid
