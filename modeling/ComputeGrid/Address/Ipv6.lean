import ComputeGrid.Address.Ipv4

/-!
# IPv6 addresses

An address is eight groups of sixteen bits. `Ipv6.ofText?` reads groups of one to four hexadecimal digits, one `::` for a
run of zeros and a dotted address in place of the last two groups. `Ipv6.text` writes the form of RFC 5952: the first of
the longest runs of two or more zeros is `::`, and an address that maps an IPv4 address shows it dotted.
-/

namespace ComputeGrid

/-- An IPv6 address by its groups. -/
structure Ipv6 where
  groups : Vector UInt16 8
  deriving DecidableEq, Repr, Inhabited

namespace Ipv6

/-- A group of one to four hexadecimal digits, and what follows it. -/
def readGroup (cs : List Char) : Option (UInt16 × List Char) := do
  let digits := cs.takeWhile fun c => (Text.digitValueIn 16 c).isSome
  let n ← Text.readDigits 16 digits
  if 4 < digits.length then none else some (n.toUInt16, cs.drop digits.length)

/-- The two groups of a dotted address. -/
def groupsOfIpv4 (x : Ipv4) : List UInt16 :=
  [(x.a.toNat * 256 + x.b.toNat).toUInt16, (x.c.toNat * 256 + x.d.toNat).toUInt16]

/-- Up to `room` groups with colons between them, whether the last two of them were written dotted, and what follows.
Only where two groups are left can a dotted address stand. -/
def readGroups (form : Octets) (room : Nat) (first : Bool) (cs : List Char) : List UInt16 × Bool × List Char :=
  match room with
  | 0 => ([], false, cs)
  | room + 1 =>
    let start := if first then some cs else Ipv4.skip ':' cs
    match (if 0 < room then start.bind (Ipv4.read form) else none) with
    | some (x, rest) => (groupsOfIpv4 x, true, rest)
    | none =>
      match start.bind readGroup with
      | some (g, rest) =>
        let (groups, dotted, rest) := readGroups form room false rest
        (g :: groups, dotted, rest)
      | none => ([], false, cs)

/-- The address with the given first groups and last groups, and zeros between them. -/
def ofEnds? (front back : List UInt16) : Option Ipv6 :=
  let groups := front ++ List.replicate (8 - front.length - back.length) 0 ++ back
  if h : groups.toArray.size = 8 then some ⟨⟨groups.toArray, h⟩⟩ else none

/-- An address, and what follows it. `least` is how many groups `::` stands for at least. -/
def read (form : Octets) (least : Nat) (cs : List Char) : Option (Ipv6 × List Char) := do
  let (front, dotted, cs) := readGroups form 8 true cs
  if front.length = 8 then
    return (← ofEnds? front [], cs)
  if dotted then none
  let cs ← Ipv4.skip ':' (← Ipv4.skip ':' cs)
  let (back, _, cs) := readGroups form (8 - front.length - least) true cs
  return (← ofEnds? front back, cs)

/-- The address that a text is. -/
def ofText? (s : String) : Option Ipv6 :=
  match read .canonical 1 s.toList with
  | some (x, []) => some x
  | _ => none

/-- The groups with colons between them. -/
def groupsText : List UInt16 → List Char
  | [] => []
  | [g] => Nat.toDigits 16 g.toNat
  | g :: rest => Nat.toDigits 16 g.toNat ++ ':' :: groupsText rest

/-- How many zeros a list starts with. -/
def zerosAtStart (gs : List UInt16) : Nat :=
  (gs.takeWhile (· == 0)).length

/-- Place and length of the first of the longest runs of zeros, among the places from `place` on. -/
def longestRun (place : Nat) : List UInt16 → Nat × Nat
  | [] => (place, 0)
  | g :: rest =>
    let here := zerosAtStart (g :: rest)
    let later := longestRun (place + 1) rest
    if later.2 ≤ here then (place, here) else later

/-- The text of RFC 5952. -/
def chars (x : Ipv6) : List Char :=
  let gs := x.groups.toList
  match gs with
  | [0, 0, 0, 0, 0, 0xFFFF, high, low] =>
    "::ffff:".toList ++
      Ipv4.chars ⟨(high.toNat / 256).toUInt8, high.toUInt8, (low.toNat / 256).toUInt8, low.toUInt8⟩
  | _ =>
    let (place, length) := longestRun 0 gs
    if 1 < length then groupsText (gs.take place) ++ [':', ':'] ++ groupsText (gs.drop (place + length))
    else groupsText gs

def text (x : Ipv6) : String := String.ofList x.chars

end Ipv6

/-- An address of either version. -/
inductive IpAddress where
  | v4 (address : Ipv4)
  | v6 (address : Ipv6)
  deriving DecidableEq, Repr, Inhabited

namespace IpAddress

/-- The address that a text is. -/
def ofText? (s : String) : Option IpAddress :=
  match Ipv4.ofText? s with
  | some x => some (.v4 x)
  | none => (Ipv6.ofText? s).map .v6

def text : IpAddress → String
  | .v4 x => x.text
  | .v6 x => x.text

end IpAddress

end ComputeGrid
