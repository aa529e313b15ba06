import ComputeGrid.Grid.Exchanges

/-!
# Reachability

A node can be reached from outside the mesh if it has a public address: in its public network, or else on its uplink. Other
nodes are hidden. `Reachability.probe` asks a node; a question that fails or takes too long finds no address.
-/

namespace ComputeGrid

/-- Whether an address is one of the public internet. -/
def Ipv4.isPublic (x : Ipv4) : Bool :=
  let isPrivate := x.a == 10 || (x.a == 172 && 16 ≤ x.b && x.b < 32) || (x.a == 192 && x.b == 168)
  let isLoopback := x.a == 127
  let isLinkLocal := x.a == 169 && x.b == 254
  let isUnspecified := x == ⟨0, 0, 0, 0⟩
  let isBroadcast := x == ⟨255, 255, 255, 255⟩
  let isMulticast := 224 ≤ x.a && x.a < 240
  let isShared := x.a == 100 && 64 ≤ x.b && x.b < 128
  !(isPrivate || isLoopback || isLinkLocal || isUnspecified || isBroadcast || isMulticast || isShared)

/-- Whether an address is one of the public internet. -/
def Ipv6.isPublic (x : Ipv6) : Bool :=
  let first := x.groups[0].toNat
  let isLoopback := x.groups.toList == [0, 0, 0, 0, 0, 0, 0, 1]
  let isUnspecified := x.groups.toList == [0, 0, 0, 0, 0, 0, 0, 0]
  let isMulticast := first / 256 == 0xFF
  let isUniqueLocal := first / 512 == 0xFC00 / 512
  let isLinkLocal := first / 64 == 0xFE80 / 64
  !(isLoopback || isUnspecified || isMulticast || isUniqueLocal || isLinkLocal)

def IpAddress.isPublic : IpAddress → Bool
  | .v4 x => x.isPublic
  | .v6 x => x.isPublic

/-- How a node can be reached. -/
inductive Reachability where
  | ipv4 (address : Ipv4)
  | ipv6 (address : Ipv6)
  | hidden
  deriving DecidableEq, Repr

namespace Reachability

/-- Reachability at an address. -/
def ofAddress : IpAddress → Reachability
  | .v4 x => .ipv4 x
  | .v6 x => .ipv6 x

def isHidden : Reachability → Bool
  | hidden => true
  | _ => false

def isIpv4 : Reachability → Bool
  | ipv4 _ => true
  | _ => false

/-- The endpoint at a port, in which an IPv6 address stands in brackets. -/
def endpoint? (port : UInt16) : Reachability → Option String
  | ipv4 x => some (String.ofList (x.chars ++ ':' :: Text.numeral port.toNat))
  | ipv6 x => some (String.ofList ('[' :: x.chars ++ ']' :: ':' :: Text.numeral port.toNat))
  | hidden => none

/-- Reachability at the first public address. -/
def ofAddresses? (addresses : List IpAddress) : Option Reachability := (addresses.find? (·.isPublic)).map ofAddress

/-- Reachability by a public network, by IPv4 if possible. -/
def ofPublicConfig? (c : PublicConfig) : Option Reachability :=
  ofAddresses? ((c.ipv4.map fun n => IpAddress.v4 n.address).toList ++
    (c.ipv6.map fun n => IpAddress.v6 n.address).toList)

/-- The interface with a node's own addresses. -/
def uplink : String := "zos"

/-- Reachability by the uplink, by IPv4 if possible. -/
def ofInterfaces? (interfaces : NameMap (List IpAddress)) : Option Reachability :=
  let addresses := interfaces.getD uplink []
  let isV4 (x : IpAddress) : Bool := match x with
    | .v4 _ => true
    | .v6 _ => false
  ofAddresses? (addresses.filter isV4 ++ addresses.filter fun x => !isV4 x)

/-- Asks a node how it can be reached, with a timeout for each question. -/
def probe (node : NodeId) (timeout : Duration) : Timed Grid Reachability := do
  let config ← (Grid.getPublicConfig node).within timeout
  match config.bind fun answer => answer.toOption.bind ofPublicConfig? with
  | some found => return found
  | none =>
    let interfaces ← (Grid.getInterfaces node).within timeout
    return (interfaces.bind fun answer => answer.toOption.bind ofInterfaces?).getD hidden

end Reachability

end ComputeGrid
