import ComputeGrid.Duration.Scale

/-!
# When a multiple of a duration is too long

A factor that is a finite number of at least one makes a multiple that is neither negative nor a NaN, so that the only thing
that can be wrong with it is its length: `Duration.scale` fails exactly when the product of the floats reaches `2 ^ 64`
seconds (`Duration.scale_eq_error_iff`).

The argument is about signs.  `Unsigned` floats are those that are no NaN and have the sign of a positive number.  Sums of
these are `Unsigned`, and so are their multiples by a positive number and their quotients by one (`unsigned_add`,
`unsigned_mul`, `unsigned_div`); rounding keeps the sign, and packing does too (`unsigned_pack`).
-/

namespace ComputeGrid

open Float.Model (UnpackedFloat Format)

/-! ### Floats without a sign -/

/-- The float is no NaN and does not have the sign of a negative number. -/
def Unsigned : UnpackedFloat → Prop
  | .notANumber => False
  | .infinity s | .zero s | .finite s _ _ _ => s = .positive

variable {a b : UnpackedFloat} {x : Float}

theorem unpackSign_packComponents (f : Format) (s : UnpackedFloat.Sign) (e : BitVec f.exponentBits)
    (m : BitVec f.mantissaBitsWithoutImplicit) :
    UnpackedFloat.unpackSign (UnpackedFloat.packComponents f s e m) = s.toBitVec := by
  ext i hi
  obtain rfl : i = 0 := by omega
  unfold UnpackedFloat.unpackSign
  simp [UnpackedFloat.packComponents, BitVec.getLsbD_append, BitVec.getElem_append]

theorem unsigned_ite {c : Prop} [Decidable c] (hthen : c → Unsigned a) (helse : ¬ c → Unsigned b) :
    Unsigned (if c then a else b) := by
  by_cases h : c
  · rw [if_pos h]
    exact hthen h
  · rw [if_neg h]
    exact helse h

theorem unsigned_dite {c : Prop} [Decidable c] {a : c → UnpackedFloat} {b : ¬ c → UnpackedFloat}
    (hthen : ∀ h, Unsigned (a h)) (helse : ∀ h, Unsigned (b h)) : Unsigned (if h : c then a h else b h) := by
  by_cases h : c
  · rw [dif_pos h]
    exact hthen h
  · rw [dif_neg h]
    exact helse h

/-- The bits of a positive number are read as that, unless they are those of a NaN. -/
theorem unsigned_unpack_packComponents {e : BitVec 11} {m : BitVec 52} (h : e = -1#11 → m = 0#52) :
    Unsigned (UnpackedFloat.unpack Format.binary64 (UnpackedFloat.packComponents Format.binary64 .positive e m)) := by
  have hsign : UnpackedFloat.Sign.ofBitVec
      (UnpackedFloat.unpackSign (UnpackedFloat.packComponents Format.binary64 .positive e m)) = .positive := by
    rw [unpackSign_packComponents]
    rfl
  refine unsigned_ite (fun he => ?_) fun _ => unsigned_ite (fun _ => unsigned_dite (fun _ => hsign) fun _ => hsign)
    fun _ => hsign
  rw [UnpackedFloat.unpackExponent_packComponents] at he
  rw [UnpackedFloat.unpackMantissa_packComponents, if_pos (h he)]
  exact hsign

theorem unsigned_pack (h : Unsigned a) : Unsigned (Float.Model.pack a).unpack := by
  show Unsigned (UnpackedFloat.unpack Format.binary64 (UnpackedFloat.pack Format.binary64 a))
  cases a with
  | notANumber => exact h.elim
  | infinity s | zero s =>
    obtain rfl : s = .positive := h
    exact unsigned_unpack_packComponents fun _ => rfl
  | finite s m e _ =>
    obtain rfl : s = .positive := h
    unfold UnpackedFloat.pack
    dsimp only
    -- too large a number becomes infinity, and others have an exponent that is not that of a NaN
    split
    · exact unsigned_unpack_packComponents fun _ => rfl
    next hsmall =>
      split
      · refine unsigned_unpack_packComponents fun he => absurd (congrArg BitVec.toNat he) ?_
        rw [BitVec.toNat_ofNat, Nat.mod_eq_of_lt (by omega), BitVec.neg_one_eq_allOnes, BitVec.toNat_allOnes]
        omega
      · exact unsigned_unpack_packComponents fun he => absurd he (by decide)

/-! ### Operations -/

theorem unsigned_roundWithAccuracy (f : Format) (m : Nat) (e : Int) (accuracy : UnpackedFloat.Accuracy) :
    Unsigned (UnpackedFloat.roundWithAccuracy f .positive m e accuracy) := by
  unfold UnpackedFloat.roundWithAccuracy
  exact unsigned_dite (fun _ => rfl) fun _ => rfl

theorem unsigned_normalize (f : Format) {m : Int} (hm : 0 ≤ m) (e : Int) :
    Unsigned (UnpackedFloat.normalize f m e .positive) := by
  unfold UnpackedFloat.normalize
  split
  next h => exact absurd (Int.compare_eq_lt.mp h) (by omega)
  next => rfl
  next => exact unsigned_roundWithAccuracy f _ _ _

theorem unsigned_add (f : Format) (ha : Unsigned a) (hb : Unsigned b) : Unsigned (UnpackedFloat.add f a b) := by
  cases a <;> cases b
  all_goals first | exact ha.elim | exact hb.elim | skip
  case finite.finite s _ _ _ s' _ _ _ =>
    obtain rfl : s = .positive := ha
    obtain rfl : s' = .positive := hb
    exact unsigned_normalize f (Int.add_nonneg (Int.natCast_nonneg _) (Int.natCast_nonneg _)) _
  all_goals
    cases ha
    cases hb
    rfl

theorem unsigned_mul (f : Format) {m : Nat} {e : Int} {hm : 0 < m} (hb : Unsigned b) :
    Unsigned (UnpackedFloat.mul f (.finite .positive m e hm) b) := by
  cases b with
  | notANumber => exact hb.elim
  | infinity s | zero s =>
    obtain rfl : s = .positive := hb
    rfl
  | finite s _ _ _ =>
    obtain rfl : s = .positive := hb
    exact unsigned_roundWithAccuracy f _ _ _

theorem unsigned_div (f : Format) {m : Nat} {e : Int} {hm : 0 < m} (ha : Unsigned a) :
    Unsigned (UnpackedFloat.div f a (.finite .positive m e hm)) := by
  cases a with
  | notANumber => exact ha.elim
  | infinity s | zero s =>
    obtain rfl : s = .positive := ha
    rfl
  | finite s _ _ _ =>
    obtain rfl : s = .positive := ha
    exact unsigned_roundWithAccuracy f _ _ _

/-! ### Comparisons -/

theorem lt_iff_unpack {y : Float} : x < y ↔ x.toModel.unpack.lt y.toModel.unpack = true := decide_eq_true_iff

theorem le_iff_unpack {y : Float} : x ≤ y ↔ x.toModel.unpack.le y.toModel.unpack = true := decide_eq_true_iff

theorem not_lt_zero_of_unsigned (h : Unsigned x.toModel.unpack) : ¬ x < 0.0 := by
  have hzero : (0.0 : Float).toModel.unpack = .zero .positive := rfl
  rw [lt_iff_unpack, hzero]
  cases hx : x.toModel.unpack with
  | notANumber => exact (hx ▸ h : Unsigned .notANumber).elim
  | infinity s | zero s | finite s =>
    rw [hx] at h
    obtain rfl : s = .positive := h
    exact Bool.false_ne_true

/-- What is no NaN is less than the bound or reaches it. -/
theorem not_lt_iff_le_of_unsigned (h : Unsigned x.toModel.unpack) :
    ¬ x < 18446744073709551616.0 ↔ 18446744073709551616.0 ≤ x := by
  have hbound : (18446744073709551616.0 : Float).toModel.unpack =
      .finite .positive 4503599627370496 12 (by decide) := rfl
  rw [lt_iff_unpack, le_iff_unpack, hbound]
  cases hx : x.toModel.unpack with
  | notANumber => exact (hx ▸ h : Unsigned .notANumber).elim
  | infinity s | zero s =>
    rw [hx] at h
    obtain rfl : s = .positive := h
    decide
  | finite s m e _ =>
    rw [hx] at h
    obtain rfl : s = .positive := h
    unfold UnpackedFloat.lt UnpackedFloat.le UnpackedFloat.compare
    dsimp only [Option.any_some]
    rw [← Int.compare_swap e 12, ← Nat.compare_swap m 4503599627370496]
    cases compare e 12 <;> cases compare m 4503599627370496 <;> decide

/-- A finite number of at least one is a positive number. -/
theorem exists_unpack_of_one_le (hfinite : x.isFinite = true) (hone : ¬ x < 1.0) :
    ∃ m e, ∃ hm : 0 < m, x.toModel.unpack = .finite .positive m e hm := by
  have hunit : (1.0 : Float).toModel.unpack = .finite .positive 4503599627370496 (-52) (by decide) := rfl
  change x.toModel.unpack.isFinite = true at hfinite
  rw [lt_iff_unpack, hunit] at hone
  rcases hx : x.toModel.unpack with s | _ | s | ⟨s, m, e, hm⟩
  all_goals
    rw [hx] at hfinite hone
  · cases hfinite
  · cases hfinite
  · exact absurd rfl hone
  · rcases s with _ | _
    · exact absurd rfl hone
    · exact ⟨m, e, hm, rfl⟩

/-! ### Multiples -/

namespace Duration

variable {factor : Float} {fault : Fault}

theorem unsigned_toFloat (d : Duration) : Unsigned d.toFloat.toModel.unpack := by
  have hcount (n : Nat) : Unsigned (UnpackedFloat.ofNat Format.binary64 n) :=
    unsigned_normalize _ (Int.natCast_nonneg n) 0
  refine unsigned_pack (unsigned_add _ (unsigned_pack (hcount _)) (unsigned_pack ?_))
  exact unsigned_div _ (unsigned_pack (hcount _))

theorem unsigned_scaled (hfinite : factor.isFinite = true) (hone : ¬ factor < 1.0) (d : Duration) :
    Unsigned (factor * d.toFloat).toModel.unpack := by
  obtain ⟨m, e, hm, hfactor⟩ := exists_unpack_of_one_le hfinite hone
  have hproduct : Unsigned (UnpackedFloat.mul Format.binary64 factor.toModel.unpack d.toFloat.toModel.unpack) := by
    rw [hfactor]
    exact unsigned_mul _ d.unsigned_toFloat
  exact unsigned_pack hproduct

/-- A multiple fails where the product of the floats reaches `2 ^ 64` seconds, and nowhere else. -/
theorem scale_eq_error_iff (hfinite : factor.isFinite = true) (hone : ¬ factor < 1.0) {d : Duration} :
    d.scale factor = .error fault ↔ fault = .durationRange ∧ 18446744073709551616.0 ≤ factor * d.toFloat := by
  have hunsigned := unsigned_scaled hfinite hone d
  rw [← not_lt_iff_le_of_unsigned hunsigned, scale, ofFloat, if_neg (not_lt_zero_of_unsigned hunsigned)]
  split
  next hfits => simp [hfits]
  next hlarge => simp [hlarge, eq_comm]

end Duration

end ComputeGrid
