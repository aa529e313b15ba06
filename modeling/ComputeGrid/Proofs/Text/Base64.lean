import ComputeGrid.Text.Base64
import ComputeGrid.Proofs.Text.Trimming

/-!
# Base64 texts of bytes

The text of bytes is read as the bytes (`base64Decode?_base64Encode`), and has no blanks, so trimming it changes nothing
(`trim_base64Encode`).  A text that is read has no characters but those of the alphabet and the padding
(`isSome_base64Value?_of_mem`).
-/

namespace ComputeGrid.Text

theorem base64Value?_base64Char : ∀ n < 64, base64Value? (base64Char n) = some n := by decide +kernel

theorem base64Char_ne_pad : ∀ n < 64, base64Char n ≠ '=' := by decide +kernel

theorem isBlank_base64Char : ∀ n < 64, isBlank (base64Char n) = false := by decide +kernel

section Groups

variable {a b c d : Char} {w x y z : Nat} {rest : List Char} {bytes : List UInt8}

theorem base64Decode?_two (ha : base64Value? a = some w) (hb : base64Value? b = some x) (h : (w * 64 + x) % 16 = 0) :
    base64Decode? [a, b, '=', '='] = some [((w * 64 + x) / 16).toUInt8] := by
  simp only [base64Decode?, ha, hb, Option.bind_eq_bind, Option.bind_some]
  rw [if_pos h]

theorem base64Decode?_three (ha : base64Value? a = some w) (hb : base64Value? b = some x) (hc : base64Value? c = some y)
    (hpad : c ≠ '=') (h : ((w * 64 + x) * 64 + y) % 4 = 0) :
    base64Decode? [a, b, c, '='] =
      some [(((w * 64 + x) * 64 + y) / 0x400).toUInt8, (((w * 64 + x) * 64 + y) / 4 % 256).toUInt8] := by
  rw [base64Decode?.eq_3 _ _ _ hpad]
  simp only [ha, hb, hc, Option.bind_eq_bind, Option.bind_some]
  rw [if_pos h]

theorem base64Decode?_four {n : Nat} (ha : base64Value? a = some w) (hb : base64Value? b = some x)
    (hc : base64Value? c = some y) (hd : base64Value? d = some z) (hpad : d ≠ '=')
    (h : ((w * 64 + x) * 64 + y) * 64 + z = n) (hrest : base64Decode? rest = some bytes) :
    base64Decode? (a :: b :: c :: d :: rest) =
      some ((n / 0x10000).toUInt8 :: (n / 0x100 % 256).toUInt8 :: (n % 256).toUInt8 :: bytes) := by
  rw [base64Decode?.eq_4 _ _ _ _ _ (fun _ h => absurd h hpad) (fun h => absurd h hpad), hrest]
  simp only [ha, hb, hc, hd, Option.bind_eq_bind, Option.bind_some, Option.pure_def, h]

end Groups

/-- What is read from the text of bytes is the bytes. -/
theorem base64Decode?_base64Encode (bytes : List UInt8) : base64Decode? (base64Encode bytes) = some bytes := by
  induction bytes using base64Encode.induct with
  | case1 => rfl
  | case2 a =>
    have ha := a.toNat_lt
    rw [base64Encode]
    generalize hn : a.toNat * 0x10000 = n
    rw [base64Decode?_two (base64Value?_base64Char (n / 0x40000) (by omega))
      (base64Value?_base64Char (n / 0x1000 % 64) (by omega)) (by omega)]
    have hbyte : (n / 0x40000 * 64 + n / 0x1000 % 64) / 16 = a.toNat := by omega
    rw [hbyte, Nat.toUInt8_eq, UInt8.ofNat_toNat]
  | case3 a b =>
    have ha := a.toNat_lt
    have hb := b.toNat_lt
    rw [base64Encode]
    generalize hn : a.toNat * 0x10000 + b.toNat * 0x100 = n
    rw [base64Decode?_three (base64Value?_base64Char (n / 0x40000) (by omega))
      (base64Value?_base64Char (n / 0x1000 % 64) (by omega)) (base64Value?_base64Char (n / 64 % 64) (by omega))
      (base64Char_ne_pad _ (by omega)) (by omega)]
    have hfirst : ((n / 0x40000 * 64 + n / 0x1000 % 64) * 64 + n / 64 % 64) / 0x400 = a.toNat := by omega
    have hsecond : ((n / 0x40000 * 64 + n / 0x1000 % 64) * 64 + n / 64 % 64) / 4 % 256 = b.toNat := by omega
    rw [hfirst, hsecond, Nat.toUInt8_eq, Nat.toUInt8_eq, UInt8.ofNat_toNat, UInt8.ofNat_toNat]
  | case4 a b c rest ih =>
    have ha := a.toNat_lt
    have hb := b.toNat_lt
    have hc := c.toNat_lt
    rw [base64Encode]
    generalize hn : a.toNat * 0x10000 + b.toNat * 0x100 + c.toNat = n
    have hsum : ((n / 0x40000 * 64 + n / 0x1000 % 64) * 64 + n / 64 % 64) * 64 + n % 64 = n := by omega
    rw [base64Decode?_four (base64Value?_base64Char (n / 0x40000) (by omega))
      (base64Value?_base64Char (n / 0x1000 % 64) (by omega)) (base64Value?_base64Char (n / 64 % 64) (by omega))
      (base64Value?_base64Char (n % 64) (by omega)) (base64Char_ne_pad _ (by omega)) hsum ih]
    have hfirst : n / 0x10000 = a.toNat := by omega
    have hsecond : n / 0x100 % 256 = b.toNat := by omega
    have hthird : n % 256 = c.toNat := by omega
    rw [hfirst, hsecond, hthird]
    simp only [Nat.toUInt8_eq, UInt8.ofNat_toNat]

/-- No character of the text of bytes is blank. -/
theorem isBlank_of_mem_base64Encode {bytes : List UInt8} :
    ∀ c ∈ base64Encode bytes, isBlank c = false := by
  induction bytes using base64Encode.induct with
  | case1 => exact nofun
  | case2 a =>
    have ha := a.toNat_lt
    simp only [base64Encode, List.forall_mem_cons]
    exact ⟨isBlank_base64Char _ (by omega), isBlank_base64Char _ (by omega), rfl, rfl, nofun⟩
  | case3 a b =>
    have ha := a.toNat_lt
    have hb := b.toNat_lt
    simp only [base64Encode, List.forall_mem_cons]
    exact ⟨isBlank_base64Char _ (by omega), isBlank_base64Char _ (by omega), isBlank_base64Char _ (by omega), rfl,
      nofun⟩
  | case4 a b c rest ih =>
    have ha := a.toNat_lt
    have hb := b.toNat_lt
    have hc := c.toNat_lt
    simp only [base64Encode, List.forall_mem_cons]
    exact ⟨isBlank_base64Char _ (by omega), isBlank_base64Char _ (by omega), isBlank_base64Char _ (by omega),
      isBlank_base64Char _ (by omega), ih⟩

/-- What is read as bytes has characters of the alphabet only, apart from the padding. -/
theorem isSome_base64Value?_of_mem {cs : List Char} {bytes : List UInt8} (h : base64Decode? cs = some bytes) :
    ∀ c ∈ cs, c = '=' ∨ (base64Value? c).isSome = true := by
  induction cs using base64Decode?.induct generalizing bytes with
  | case1 => exact nofun
  | case2 a b =>
    rw [base64Decode?] at h
    obtain ⟨w, ha, h⟩ := Option.bind_eq_some_iff.1 h
    obtain ⟨x, hb, -⟩ := Option.bind_eq_some_iff.1 h
    simp only [List.forall_mem_cons, ha, hb]
    exact ⟨.inr rfl, .inr rfl, .inl trivial, .inl trivial, nofun⟩
  | case3 a b c hpad =>
    rw [base64Decode?.eq_3 _ _ _ hpad] at h
    obtain ⟨w, ha, h⟩ := Option.bind_eq_some_iff.1 h
    obtain ⟨x, hb, h⟩ := Option.bind_eq_some_iff.1 h
    obtain ⟨y, hc, -⟩ := Option.bind_eq_some_iff.1 h
    simp only [List.forall_mem_cons, ha, hb, hc]
    exact ⟨.inr rfl, .inr rfl, .inr rfl, .inl trivial, nofun⟩
  | case4 a b c d rest htwo hthree ih =>
    rw [base64Decode?.eq_4 _ _ _ _ _ htwo hthree] at h
    obtain ⟨w, ha, h⟩ := Option.bind_eq_some_iff.1 h
    obtain ⟨x, hb, h⟩ := Option.bind_eq_some_iff.1 h
    obtain ⟨y, hc, h⟩ := Option.bind_eq_some_iff.1 h
    obtain ⟨z, hd, h⟩ := Option.bind_eq_some_iff.1 h
    obtain ⟨bytes, hrest, -⟩ := Option.bind_eq_some_iff.1 h
    simp only [List.forall_mem_cons, ha, hb, hc, hd]
    exact ⟨.inr rfl, .inr rfl, .inr rfl, .inr rfl, ih hrest⟩
  | case5 cs hnil htwo hthree hfour =>
    rw [base64Decode?.eq_5 cs hnil htwo hthree hfour] at h
    cases h

theorem trim_base64Encode (bytes : List UInt8) : trim (base64Encode bytes) = base64Encode bytes :=
  trim_eq_self isBlank_of_mem_base64Encode

end ComputeGrid.Text
