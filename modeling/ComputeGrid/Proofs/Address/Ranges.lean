import ComputeGrid.Address.Network

/-!
# Networks as ranges

The least address of a network is a multiple of its size (`size_dvd_first`), and a network without its other bits is the
same range (`first_truncate`, `last_truncate`).  A network of at most 16 bits is made up of blocks of 65536 addresses
(`dvd_size`), so the last two octets of its least address are zero (`first_eq_of_length_le`) and any two octets may stand
in their place (`contains_single`).  Networks are `Disjoint` if no address is in both.
-/

namespace ComputeGrid

namespace Ipv4

theorem toNat_mk (a b c d : UInt8) :
    toNat ⟨a, b, c, d⟩ = ((a.toNat * 256 + b.toNat) * 256 + c.toNat) * 256 + d.toNat := rfl

theorem ofNat_toNat (x : Ipv4) : ofNat x.toNat = x := by
  obtain ⟨a, b, c, d⟩ := x
  have ha := a.toNat_lt
  have hb := b.toNat_lt
  have hc := c.toNat_lt
  have hd := d.toNat_lt
  simp only [toNat, ofNat, mk.injEq, ← UInt8.toNat_inj, Nat.toUInt8_eq, UInt8.toNat_ofNat']
  omega

end Ipv4

namespace Ipv4Network

variable (n : Ipv4Network) {outer inner : Ipv4Network}

theorem size_pos : 0 < n.size := Nat.two_pow_pos _

theorem size_dvd_first : n.size ∣ n.first := ⟨_, Nat.mul_comm _ _⟩

theorem first_le : n.first ≤ n.address.toNat := Nat.div_mul_le_self _ _

theorem first_lt : n.first < UInt32.size := Nat.lt_of_le_of_lt n.first_le n.address.toNat_lt

theorem toNat_networkAddress : n.networkAddress.toNat = n.first := Ipv4.toNat_ofNat n.first_lt

theorem first_truncate : n.truncate.first = n.first := by
  show n.networkAddress.toNat / n.size * n.size = n.first
  rw [toNat_networkAddress, Nat.div_mul_cancel n.size_dvd_first]

theorem last_truncate : n.truncate.last = n.last := by
  show n.truncate.first + (n.size - 1) = n.last
  rw [first_truncate, last]

theorem contains_iff : outer.contains inner = true ↔ outer.first ≤ inner.first ∧ inner.last ≤ outer.last := by
  rw [contains, Bool.and_eq_true, decide_eq_true_eq, decide_eq_true_eq]

theorem contains_refl : n.contains n = true := contains_iff.2 ⟨Nat.le_refl _, Nat.le_refl _⟩

theorem contains_truncate : n.truncate.contains inner = n.contains inner := by
  rw [contains, contains, first_truncate, last_truncate]

/-- A network of at most 16 bits is made up of blocks of 65536 addresses. -/
theorem dvd_size (h : n.length.val ≤ 16) : 65536 ∣ n.size := by
  have hpow : 2 ^ 16 ∣ 2 ^ (32 - n.length.val) := Nat.pow_dvd_pow 2 (by omega)
  exact hpow

theorem first_single (x : Ipv4) : (single x).first = x.toNat := by
  show x.toNat / 1 * 1 = x.toNat
  rw [Nat.div_one, Nat.mul_one]

theorem last_single (x : Ipv4) : (single x).last = x.toNat := first_single x

/-- An address is in a network if its number is in the range. -/
theorem contains_single_iff {x : Ipv4} : n.contains (single x) = true ↔ n.first ≤ x.toNat ∧ x.toNat ≤ n.last := by
  rw [contains_iff, first_single, last_single]

/-- An address whose number is that of a network's least one but for the last 16 bits is inside a network of at most 16
bits. -/
theorem contains_single (h : n.length.val ≤ 16) (low : Nat) (hlow : low < 65536) {x : Ipv4}
    (hx : x.toNat = n.first + low) : n.contains (single x) = true := by
  have hsize : 65536 ≤ n.size := Nat.le_of_dvd n.size_pos (n.dvd_size h)
  rw [contains_single_iff, hx, last]
  omega

/-- The last two octets of the least address of a network of at most 16 bits are zero. -/
theorem first_eq_of_length_le (h : n.length.val ≤ 16) :
    n.first = (n.networkAddress.a.toNat * 256 + n.networkAddress.b.toNat) * 65536 := by
  have hdvd : 65536 ∣ n.first := Nat.dvd_trans (n.dvd_size h) n.size_dvd_first
  have hnat := n.toNat_networkAddress
  have hc := n.networkAddress.c.toNat_lt
  have hd := n.networkAddress.d.toNat_lt
  rw [Ipv4.toNat] at hnat
  omega

/-! ### Networks that share no address -/

/-- No address is in both networks. -/
def Disjoint (n k : Ipv4Network) : Prop := ∀ x : Ipv4, n.contains (single x) = true → ¬ k.contains (single x) = true

variable {n} {k : Ipv4Network}

theorem Disjoint.symm (h : n.Disjoint k) : k.Disjoint n := fun x hk hn => h x hn hk

/-- Networks share no address if one ends before the other begins. -/
theorem disjoint_iff : n.Disjoint k ↔ n.last < k.first ∨ k.last < n.first := by
  constructor
  · intro h
    -- else the greater of the two least addresses would be in both
    refine Classical.byContradiction fun hmeet => ?_
    have hnat : (Ipv4.ofNat (max n.first k.first)).toNat = max n.first k.first :=
      Ipv4.toNat_ofNat (Nat.max_lt.2 ⟨n.first_lt, k.first_lt⟩)
    refine h (.ofNat (max n.first k.first)) ?_ ?_
    all_goals
      rw [contains_single_iff, hnat]
      rw [last, last] at *
      omega
  · intro h x hn hk
    rw [contains_single_iff] at hn hk
    omega

/-- The network of one address holds that address alone. -/
theorem eq_of_contains_single {x y : Ipv4} (h : (single y).contains (single x) = true) : x = y := by
  rw [contains_single_iff, first_single, last_single] at h
  rw [← Ipv4.ofNat_toNat x, Nat.le_antisymm h.2 h.1, Ipv4.ofNat_toNat]

theorem contains_networkAddress (n : Ipv4Network) : n.contains (single n.networkAddress) = true := by
  rw [contains_single_iff, toNat_networkAddress, last]
  omega

/-- Networks that share no address are different ones, however they are written. -/
theorem Disjoint.truncate_ne (h : n.Disjoint k) : n.truncate ≠ k.truncate := by
  intro heq
  have haddress : n.networkAddress = k.networkAddress := congrArg address heq
  refine h n.networkAddress n.contains_networkAddress ?_
  rw [haddress]
  exact k.contains_networkAddress

end Ipv4Network

end ComputeGrid
