import ComputeGrid.Text.Digits

/-!
# IPv4 addresses

An address is its four octets. `Ipv4.ofText?` reads the dotted form, in which a number has no zeros before it;
`Ipv4.text` writes it. `toNat` is the address as a number, by which networks are ranges.
-/

namespace ComputeGrid

/-- An IPv4 address by its octets. -/
structure Ipv4 where
  a : UInt8
  b : UInt8
  c : UInt8
  d : UInt8
  deriving DecidableEq, Repr, Inhabited

/-- Whether the numbers of a dotted address may have zeros before them. -/
inductive Octets where
  | canonical
  | padded
  deriving DecidableEq

/-- A number of one to three digits below 256, and what follows it. -/
def Octets.read (form : Octets) (cs : List Char) : Option (UInt8 × List Char) := do
  let digits := cs.takeWhile Char.isDigit
  let n ← Text.readDigits 10 digits
  if 3 < digits.length ∨ 256 ≤ n then none
  else if form = .canonical ∧ 1 < digits.length ∧ digits.head? = some '0' then none
  else some (n.toUInt8, cs.drop digits.length)

namespace Ipv4

/-- The address as a number, first octet highest. -/
def toNat (x : Ipv4) : Nat :=
  ((x.a.toNat * 256 + x.b.toNat) * 256 + x.c.toNat) * 256 + x.d.toNat

/-- The address that a number below `2 ^ 32` stands for. -/
def ofNat (n : Nat) : Ipv4 :=
  ⟨(n / 0x1000000).toUInt8, (n / 0x10000).toUInt8, (n / 0x100).toUInt8, n.toUInt8⟩

theorem toNat_lt (x : Ipv4) : x.toNat < UInt32.size := by
  have ha := x.a.toNat_lt
  have hb := x.b.toNat_lt
  have hc := x.c.toNat_lt
  have hd := x.d.toNat_lt
  simp only [toNat, UInt32.size]
  omega

theorem toNat_ofNat {n : Nat} (h : n < UInt32.size) : (ofNat n).toNat = n := by
  simp only [UInt32.size] at h
  simp only [toNat, ofNat, Nat.toUInt8_eq, UInt8.toNat_ofNat']
  omega

/-- The character, if the text starts with it, and what follows. -/
def skip (c : Char) : List Char → Option (List Char)
  | x :: cs => if x = c then some cs else none
  | [] => none

/-- Four numbers with points between them, and what follows. -/
def read (form : Octets) (cs : List Char) : Option (Ipv4 × List Char) := do
  let (a, cs) ← form.read cs
  let (b, cs) ← form.read (← skip '.' cs)
  let (c, cs) ← form.read (← skip '.' cs)
  let (d, cs) ← form.read (← skip '.' cs)
  return (⟨a, b, c, d⟩, cs)

/-- The address that a dotted text is. -/
def ofText? (s : String) : Option Ipv4 :=
  match read .canonical s.toList with
  | some (x, []) => some x
  | _ => none

/-- The dotted text. -/
def chars (x : Ipv4) : List Char :=
  Text.numeral x.a.toNat ++ '.' :: Text.numeral x.b.toNat ++ '.' :: Text.numeral x.c.toNat ++
    '.' :: Text.numeral x.d.toNat

def text (x : Ipv4) : String := String.ofList x.chars

end Ipv4

end ComputeGrid
