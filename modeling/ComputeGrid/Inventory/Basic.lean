import ComputeGrid.Address.Network
import ComputeGrid.Capacity
import ComputeGrid.Identifier

/-!
# Nodes and farms of an inventory

What an inventory knows about nodes, their public networks and the farms that they belong to. SSD storage of a node may be
promised twice over (`NodeInfo.free`).
-/

namespace ComputeGrid

/-- The public network of a node: networks that hold its addresses, gateways and a domain. -/
structure PublicConfig where
  ipv4 : Option Ipv4Network
  gateway4 : Option Ipv4
  ipv6 : Option Ipv6Network
  gateway6 : Option Ipv6
  domain : Option String
  deriving DecidableEq, Repr

namespace PublicConfig

/-- A public network of which nothing is set. -/
def empty : PublicConfig := ⟨none, none, none, none, none⟩

def hasIpv4 (c : PublicConfig) : Bool := c.ipv4.isSome

/-- Whether there is a domain that is not empty. -/
def hasDomain (c : PublicConfig) : Bool := c.domain.any fun d => !d.isEmpty

end PublicConfig

/-- A node with what it has and what is in use. -/
structure NodeInfo where
  nodeId : NodeId
  farmId : FarmId
  twinId : TwinId
  total : Capacity
  used : Capacity
  publicConfig : Option PublicConfig
  online : Bool
  deriving DecidableEq, Repr

namespace NodeInfo

/-- What is left of a node, where twice the SSD storage may be promised. -/
def free (n : NodeInfo) : Checked Capacity := do
  let sru ← Checked.double64 n.total.sru
  return Capacity.sub { n.total with sru := sru } n.used

def hasIpv4 (n : NodeInfo) : Bool := n.publicConfig.any (·.hasIpv4)

def hasDomain (n : NodeInfo) : Bool := n.publicConfig.any (·.hasDomain)

end NodeInfo

/-- A public address of a farm and the contract that holds it, which is zero for a free address. -/
structure FarmAddress where
  ip : Ipv4Network
  gateway : Ipv4
  contractId : ContractId
  deriving DecidableEq, Repr

/-- A farm with its public addresses. -/
structure Farm where
  farmId : FarmId
  name : String
  publicIps : List FarmAddress
  deriving DecidableEq, Repr

/-- How many public addresses of a farm no contract holds. -/
def Farm.freePublicIps (f : Farm) : Nat := f.publicIps.countP (·.contractId == 0)

/-- Conditions on farms; one that is not set holds of every farm. -/
structure FarmFilter where
  farmId : Option FarmId
  name : Option String
  freeIps : Option UInt32
  deriving DecidableEq, Repr

namespace FarmFilter

/-- The filter for one farm. -/
def byId (farmId : FarmId) : FarmFilter := ⟨some farmId, none, none⟩

/-- Whether a farm meets every condition that is set. -/
def admits (q : FarmFilter) (f : Farm) : Bool :=
  q.farmId.all (· == f.farmId) && q.name.all (· == f.name) && q.freeIps.all (·.toNat ≤ f.freePublicIps)

end FarmFilter

end ComputeGrid
