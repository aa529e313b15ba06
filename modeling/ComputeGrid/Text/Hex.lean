import ComputeGrid.Text.Digits

/-!
# Bytes as hexadecimal text

`hexEncode` writes two lower-case digits for each byte, `hexDecode?` reads digits of either case, and each undoes the
other on what it writes (`hexDecode?_hexEncode`).
-/

namespace ComputeGrid.Text

/-- The two digits of a byte. -/
def hexByte (b : UInt8) : List Char :=
  [Nat.digitChar (b.toNat / 16), Nat.digitChar (b.toNat % 16)]

/-- Two lower-case digits for each byte. -/
def hexEncode (bytes : List UInt8) : List Char :=
  bytes.flatMap hexByte

/-- The bytes that pairs of digits stand for. -/
def hexDecode? : List Char → Option (List UInt8)
  | [] => some []
  | [_] => none
  | a :: b :: rest => do
    let high ← digitValueIn 16 a
    let low ← digitValueIn 16 b
    let bytes ← hexDecode? rest
    return (high * 16 + low).toUInt8 :: bytes

/-- Lower-case hexadecimal text. -/
def hex (bytes : List UInt8) : String :=
  String.ofList (hexEncode bytes)

/-- The bytes of a hexadecimal text. -/
def unhex? (s : String) : Option (List UInt8) :=
  hexDecode? s.toList

theorem digitValueIn_digitChar {n : Nat} (h : n < 16) : digitValueIn 16 (Nat.digitChar n) = some n := by
  have : ∀ k : Fin 16, digitValueIn 16 (Nat.digitChar k.val) = some k.val := by decide
  exact this ⟨n, h⟩

/-- Reading gives back the bytes that were written. -/
theorem hexDecode?_hexEncode (bytes : List UInt8) : hexDecode? (hexEncode bytes) = some bytes := by
  induction bytes with
  | nil => rfl
  | cons b bytes ih =>
    have low := digitValueIn_digitChar (n := b.toNat % 16) (Nat.mod_lt _ (by decide))
    have high := digitValueIn_digitChar (n := b.toNat / 16) (by have := b.toNat_lt; omega)
    simp only [hexEncode] at ih
    simp only [hexEncode, List.flatMap_cons, hexByte, List.cons_append, List.nil_append, hexDecode?, high, low, ih]
    change some ((b.toNat / 16 * 16 + b.toNat % 16).toUInt8 :: bytes) = some (b :: bytes)
    rw [Nat.div_add_mod']
    simp

end ComputeGrid.Text
