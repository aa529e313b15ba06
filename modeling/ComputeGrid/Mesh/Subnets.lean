import ComputeGrid.Address.Network
import Std.Data.ExtTreeSet

/-!
# Subnets of a mesh

The `/24` subnets of a `/16` range are handed out by their third octets, from two up to 254. `Subnets.reserve` marks the
octet of a network in the range as taken, and `Subnets.allocate` hands out the next one that is not taken; it never goes
back.
-/

namespace ComputeGrid

/-- A range, the octets that are taken, and the octet from which the search goes on. -/
structure Subnets where
  range : Ipv4Network
  taken : Std.ExtTreeSet UInt8
  next : Nat

/-- The third octet of a network's least address. -/
def Ipv4Network.thirdOctet (n : Ipv4Network) : UInt8 := n.networkAddress.c

namespace Subnets

/-- The least octet that is handed out. -/
def firstOctet : Nat := 2

/-- The octet at which the search ends. -/
def lastOctet : Nat := 255

/-- The subnets of a range, none of them taken; the range must be a `/16`. -/
def of? (range : Ipv4Network) : Option Subnets :=
  if range.length.val = 16 then some ⟨range.truncate, ∅, firstOctet⟩ else none

/-- Marks the octet of a network as taken, if the network is in the range. -/
def reserve (s : Subnets) (n : Ipv4Network) : Subnets :=
  if s.range.contains n then { s with taken := s.taken.insert n.thirdOctet } else s

/-- The subnet of an octet. -/
def subnet (s : Subnets) (octet : Nat) : Ipv4Network :=
  let base := s.range.networkAddress
  ⟨⟨base.a, base.b, octet.toUInt8, 0⟩, ⟨24, by decide⟩⟩

/-- The first octet that is not taken among `left` octets from one on. -/
def search (taken : Std.ExtTreeSet UInt8) : (left octet : Nat) → Option Nat
  | 0, _ => none
  | left + 1, octet => if octet.toUInt8 ∈ taken then search taken left (octet + 1) else some octet

/-- The next subnet, if there is one left. -/
def allocate (s : Subnets) : Option Ipv4Network × Subnets :=
  match search s.taken (lastOctet - s.next) s.next with
  | some octet => (some (s.subnet octet), { s with taken := s.taken.insert octet.toUInt8, next := octet + 1 })
  | none => (none, { s with next := max s.next lastOctet })

end Subnets

/-- The carrier address of a subnet: its second and third octets after the first two of the carrier range. -/
def carrierAddress (carrier subnet : Ipv4Network) : Ipv4Network :=
  let high := carrier.networkAddress
  let low := subnet.networkAddress
  .single ⟨high.a, high.b, low.b, low.c⟩

end ComputeGrid
