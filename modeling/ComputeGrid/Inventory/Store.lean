import ComputeGrid.Inventory.Basic

/-!
# The inventory

An inventory answers questions about nodes and farms while it is online. `Inventory.pickPublicNode` gives the online node
of the least number that has a public IPv4 network and is not excluded.
-/

namespace ComputeGrid

/-- Why an inventory gives no answer. -/
inductive InventoryError where
  | nodeNotFound (node : NodeId)
  | noPublicNode
  | offline
  deriving DecidableEq, Repr

def InventoryError.message : InventoryError → String
  | nodeNotFound node => "node " ++ toString node.toNat ++ " not found in inventory"
  | noPublicNode => "no public node available"
  | offline => "inventory unavailable: inventory offline"

/-- Nodes and farms by their numbers. -/
structure Inventory where
  nodes : NodeMap NodeInfo
  farms : Std.ExtTreeMap FarmId Farm
  online : Bool

namespace Inventory

/-- An inventory that knows of nothing. -/
def empty : Inventory := ⟨∅, ∅, true⟩

def insertNode (i : Inventory) (n : NodeInfo) : Inventory := { i with nodes := i.nodes.insert n.nodeId n }

def insertFarm (i : Inventory) (f : Farm) : Inventory := { i with farms := i.farms.insert f.farmId f }

def eraseNode (i : Inventory) (node : NodeId) : Inventory := { i with nodes := i.nodes.erase node }

/-- What is known about a node. -/
def node (i : Inventory) (node : NodeId) : Except InventoryError NodeInfo :=
  if !i.online then .error .offline
  else match i.nodes[node]? with
    | some info => .ok info
    | none => .error (.nodeNotFound node)

/-- The farms that meet conditions. -/
def farmsWith (i : Inventory) (filter : FarmFilter) : Except InventoryError (List Farm) :=
  if i.online then .ok (i.farms.toList.filterMap fun (_, f) => if filter.admits f then some f else none)
  else .error .offline

/-- The first online node with a public IPv4 network that is not excluded. -/
def pickPublicNode (i : Inventory) (exclude : List NodeId) : Except InventoryError NodeId :=
  if !i.online then .error .offline
  else match i.nodes.toList.find? fun (_, n) => n.online && !exclude.contains n.nodeId && n.hasIpv4 with
    | some (_, n) => .ok n.nodeId
    | none => .error .noPublicNode

end Inventory

end ComputeGrid
