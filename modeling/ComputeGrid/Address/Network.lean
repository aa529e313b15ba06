import ComputeGrid.Address.Ipv6

/-!
# Networks

A network is an address with the length of its common part. The address may have bits beyond that part: they are kept
and written, and two networks that differ only there are different values. As a set of addresses a network is the range
from `first` to `last`, and `contains` is inclusion of ranges.
-/

namespace ComputeGrid

/-- An IPv4 network: an address and how many of its bits are common. -/
structure Ipv4Network where
  address : Ipv4
  length : Fin 33
  deriving DecidableEq, Repr, Inhabited

namespace Ipv4Network

/-- How many addresses the network has. -/
def size (n : Ipv4Network) : Nat := Nat.pow 2 (32 - n.length.val)

/-- The least address, as a number. -/
def first (n : Ipv4Network) : Nat := n.address.toNat / n.size * n.size

/-- The greatest address, as a number. -/
def last (n : Ipv4Network) : Nat := n.first + (n.size - 1)

/-- The least address. -/
def networkAddress (n : Ipv4Network) : Ipv4 := Ipv4.ofNat n.first

/-- The network written with its least address. -/
def truncate (n : Ipv4Network) : Ipv4Network := { n with address := n.networkAddress }

/-- Whether every address of `inner` is one of `outer`. -/
def contains (outer inner : Ipv4Network) : Bool :=
  outer.first ≤ inner.first && inner.last ≤ outer.last

/-- The network of one address. -/
def single (x : Ipv4) : Ipv4Network := ⟨x, Fin.last 32⟩

/-- A length of one or two digits up to 32 after a slash, to the end of the text. -/
def readLength? (digits bound : Nat) (cs : List Char) : Option Nat :=
  if cs.length ≤ digits then (Text.readDigits 10 cs).filter (· < bound) else none

/-- The network that a text is; octets may be padded with zeros. -/
def ofText? (s : String) : Option Ipv4Network := do
  let (x, cs) ← Ipv4.read .padded s.toList
  let length ← readLength? 2 33 (← Ipv4.skip '/' cs)
  if h : length < 33 then return ⟨x, ⟨length, h⟩⟩ else none

def text (n : Ipv4Network) : String :=
  String.ofList (n.address.chars ++ '/' :: Text.numeral n.length.val)

end Ipv4Network

/-- An IPv6 network: an address and how many of its bits are common. -/
structure Ipv6Network where
  address : Ipv6
  length : Fin 129
  deriving DecidableEq, Repr, Inhabited

namespace Ipv6Network

/-- The network that a text is; the octets of a dotted part may be padded with zeros. -/
def ofText? (s : String) : Option Ipv6Network := do
  let (x, cs) ← Ipv6.read .padded 0 s.toList
  let length ← Ipv4Network.readLength? 3 129 (← Ipv4.skip '/' cs)
  if h : length < 129 then return ⟨x, ⟨length, h⟩⟩ else none

def text (n : Ipv6Network) : String :=
  String.ofList (n.address.chars ++ '/' :: Text.numeral n.length.val)

end Ipv6Network

end ComputeGrid
