import ComputeGrid.Deployment.Basic
import ComputeGrid.Inventory.Store

/-!
# Feasibility

Before deployments are replaced, an inventory can tell whether the new ones will fit: public addresses of farms, public
networks for gateways and capacity of nodes. What the old deployments hold is credited first. Nodes and farms that the
inventory does not know are passed over.
-/

namespace ComputeGrid

/-- Why new deployments do not fit. -/
inductive FeasibilityError where
  | notEnoughPublicIps (farm : FarmId) (missing : Nat)
  | publicIpIncrease (node : NodeId) (contract : ContractId) (reserved requested : Nat)
  | noPublicIpv4 (node : NodeId)
  | noDomain (node : NodeId)
  | insufficientCapacity (node : NodeId) (needed free : Capacity)
  deriving DecidableEq, Repr

namespace FeasibilityError

def message : FeasibilityError → String
  | notEnoughPublicIps farm missing =>
    "farm " ++ toString farm.toNat ++ " doesn't have enough public ips: " ++ toString missing ++ " more needed"
  | publicIpIncrease node contract reserved requested =>
    "node " ++ toString node.toNat ++ ": not possible to increase public ips of contract " ++
      toString contract.toNat ++ " from " ++ toString reserved ++ " to " ++ toString requested
  | noPublicIpv4 node => "node " ++ toString node.toNat ++ " can't host a fqdn gateway: it has no public ipv4"
  | noDomain node => "node " ++ toString node.toNat ++ " can't host a name gateway: it has no domain"
  | insufficientCapacity node needed free =>
    "node " ++ toString node.toNat ++ " doesn't have enough resources. needed: " ++ needed.text ++ ", free: " ++
      free.text

end FeasibilityError

/-- Free public addresses of farms, below zero where more are asked for than there are. -/
abbrev FreeAddresses := Std.ExtTreeMap FarmId Int

namespace Inventory

/-- The nodes among some that the inventory knows. -/
def resolve (i : Inventory) (nodes : List NodeId) : NodeMap NodeInfo :=
  nodes.foldl (fun m node =>
    match i.node node with
    | .ok info => m.insert node info
    | .error _ => m) ∅

/-- The free public addresses of the farms of some nodes, as far as the inventory knows the farms. -/
def freeAddresses (i : Inventory) (infos : List NodeInfo) : FreeAddresses :=
  infos.foldl (fun m info =>
    match i.farmsWith (.byId info.farmId) with
    | .ok (farm :: _) => m.insert info.farmId farm.freePublicIps
    | _ => m) ∅

end Inventory

namespace Feasibility

/-- Credits or debits addresses to a farm whose addresses are known. -/
def adjust (free : FreeAddresses) (farm : FarmId) (change : Int) : FreeAddresses := free.modify farm (· + change)

/-- The addresses that are free once the old deployments are gone. -/
def credited (infos : NodeMap NodeInfo) (old : NodeMap Deployment) (free : FreeAddresses) : FreeAddresses :=
  old.toList.foldl (fun free (node, d) =>
    match infos[node]? with
    | some info => adjust free info.farmId d.publicIpv4Count
    | none => free) free

/-- A deployment does not ask for more public addresses than the one that it replaces. -/
def checkIncrease (node : NodeId) (previous : Option Deployment) (d : Deployment) : Except FeasibilityError Unit :=
  match previous with
  | some old =>
    if old.publicIpv4Count < d.publicIpv4Count then
      .error (.publicIpIncrease node old.contractId old.publicIpv4Count d.publicIpv4Count)
    else .ok ()
  | none => .ok ()

/-- A farm has not given more public addresses than it has. -/
def checkFarm (farm : FarmId) (free : FreeAddresses) : Except FeasibilityError Unit :=
  match free[farm]? with
  | some n => if n < 0 then .error (.notEnoughPublicIps farm n.natAbs) else .ok ()
  | none => .ok ()

/-- A node has the public network that gateways need. -/
def checkGateways (info : NodeInfo) (d : Deployment) : Except FeasibilityError Unit :=
  if d.hasKind .fqdnGateway && !info.hasIpv4 then .error (.noPublicIpv4 info.nodeId)
  else if d.hasKind .nameGateway && !info.hasDomain then .error (.noDomain info.nodeId)
  else .ok ()

/-- A node has the capacity that a deployment needs. -/
def checkCapacity (info : NodeInfo) (previous : Option Deployment) (d : Deployment) :
    Checked (Except FeasibilityError Unit) := do
  let free ← info.free
  let free ← match previous with
    | some old => free.add (← old.capacity)
    | none => pure free
  let needed ← d.capacity
  return if needed.fits free then .ok () else .error (.insufficientCapacity info.nodeId needed free)

/-- Checks new deployments in order, with the addresses that are still free. -/
def checkEach (infos : NodeMap NodeInfo) (old : NodeMap Deployment) (free : FreeAddresses) :
    List (NodeId × Deployment) → Checked (Except FeasibilityError Unit)
  | [] => .ok (.ok ())
  | (node, d) :: rest =>
    match infos[node]? with
    | none => checkEach infos old free rest
    | some info =>
      let previous := old[node]?
      let free := adjust free info.farmId (-d.publicIpv4Count)
      let early := do
        checkIncrease node previous d
        checkFarm info.farmId free
        checkGateways info d
      match early with
      | .error e => .ok (.error e)
      | .ok () => do
        match ← checkCapacity info previous d with
        | .error e => return .error e
        | .ok () => checkEach infos old free rest

end Feasibility

/-- Whether new deployments fit once the old ones are replaced, as far as the inventory can tell. -/
def Inventory.checkFeasible (i : Inventory) (old new : NodeMap Deployment) :
    Checked (Except FeasibilityError Unit) :=
  let infos := i.resolve (old.keys ++ new.keys)
  let free := i.freeAddresses infos.values
  Feasibility.checkEach infos old (Feasibility.credited infos old free) new.toList

end ComputeGrid
