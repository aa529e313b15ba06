import ComputeGrid.Text.Digits
import Std.Data.String.ToNat

/-!
# Numerals in a text

A numeral and what follows it can be told apart where what follows does not start with a digit
(`numeral_append_inj`), and so can an integer (`integer_append_inj`).  A number is read back from its digits in any base
up to sixteen (`readDigits_toDigits`), and its numeral has no zeros before it (`head?_numeral`).  What is read as a number
is what consists of decimal digits (`readDigits_eq_some_iff`).
-/

namespace ComputeGrid.Text

variable {m n : Nat} {r s : List Char}

/-- The text does not start with a digit. -/
def Delimited (cs : List Char) : Prop := ∀ c ∈ cs.head?, c.isDigit = false

theorem delimited_nil : Delimited [] := nofun

theorem delimited_cons {c : Char} (h : c.isDigit = false) : Delimited (c :: r) := by
  intro c' hc'
  rw [List.head?_cons, Option.mem_some_iff] at hc'
  rw [← hc', h]

theorem isDigit_of_mem_numeral {c : Char} (h : c ∈ numeral n) : c.isDigit = true :=
  Nat.isDigit_of_mem_toDigits (by decide) (by decide) h

theorem numeral_ne_nil (n : Nat) : numeral n ≠ [] := Nat.toDigits_ne_nil

theorem length_numeral_le {n k : Nat} (hk : 0 < k) (h : n < Nat.pow 10 k) : (numeral n).length ≤ k :=
  (Nat.length_toDigits_le_iff (by decide) hk).2 h

theorem numeral_injective (h : numeral m = numeral n) : m = n :=
  Nat.repr_injective (congrArg String.ofList h)

/-- The digits at the start of a text are those of the numeral that it starts with. -/
theorem takeWhile_numeral_append (hr : Delimited r) : (numeral n ++ r).takeWhile Char.isDigit = numeral n := by
  rw [List.takeWhile_append_of_pos fun _ => isDigit_of_mem_numeral]
  rcases r with _ | ⟨c, cs⟩
  · rw [List.takeWhile_nil, List.append_nil]
  · rw [List.takeWhile_cons_of_neg, List.append_nil]
    rw [hr c rfl]
    exact Bool.false_ne_true

theorem numeral_append_inj (hr : Delimited r) (hs : Delimited s) (h : numeral m ++ r = numeral n ++ s) :
    m = n ∧ r = s := by
  -- both numerals are the digits that the text starts with
  have hnumeral : numeral m = numeral n := by
    rw [← takeWhile_numeral_append hr, h, takeWhile_numeral_append hs]
  rw [hnumeral] at h
  exact ⟨numeral_injective hnumeral, List.append_cancel_left h⟩

/-- No numeral starts with a minus sign. -/
theorem numeral_append_ne_minus (n : Nat) (r s : List Char) : numeral n ++ r ≠ '-' :: s := by
  intro h
  rcases hn : numeral n with _ | ⟨c, cs⟩
  · exact numeral_ne_nil n hn
  · rw [hn, List.cons_append] at h
    have hc : c.isDigit = true := isDigit_of_mem_numeral (n := n) (hn ▸ List.mem_cons_self)
    rw [(List.cons.inj h).1] at hc
    revert hc
    decide

theorem integer_append_inj {a b : Int} (hr : Delimited r) (hs : Delimited s) (h : integer a ++ r = integer b ++ s) :
    a = b ∧ r = s := by
  unfold integer at h
  by_cases ha : a < 0
  · by_cases hb : b < 0
    · rw [if_pos ha, if_pos hb, List.cons_append, List.cons_append, List.cons.injEq] at h
      obtain ⟨hab, hrs⟩ := numeral_append_inj hr hs h.2
      exact ⟨by omega, hrs⟩
    · rw [if_pos ha, if_neg hb] at h
      exact absurd h.symm (numeral_append_ne_minus _ _ _)
  · by_cases hb : b < 0
    · rw [if_neg ha, if_pos hb] at h
      exact absurd h (numeral_append_ne_minus _ _ _)
    · rw [if_neg ha, if_neg hb] at h
      obtain ⟨hab, hrs⟩ := numeral_append_inj hr hs h
      exact ⟨by omega, hrs⟩

/-! ### Reading -/

section Reading

variable {b : Nat}

theorem digitValueIn_digitChar_of_lt : ∀ b ≤ 16, ∀ n < b, digitValueIn b (Nat.digitChar n) = some n := by decide

theorem readDigitsFrom_append (b acc : Nat) (cs ds : List Char) :
    readDigitsFrom b acc (cs ++ ds) = (readDigitsFrom b acc cs).bind fun n => readDigitsFrom b n ds := by
  induction cs generalizing acc with
  | nil => rfl
  | cons c cs ih =>
    rw [List.cons_append, readDigitsFrom, readDigitsFrom]
    cases digitValueIn b c with
    | none => rfl
    | some d => exact ih (acc * b + d)

theorem readDigits_of_ne_nil {cs : List Char} (h : cs ≠ []) : readDigits b cs = readDigitsFrom b 0 cs := by
  cases cs with
  | nil => exact absurd rfl h
  | cons c cs => rfl

/-- A number is read back from its digits. -/
theorem readDigits_toDigits (hb : 1 < b) (hb' : b ≤ 16) (n : Nat) : readDigits b (Nat.toDigits b n) = some n := by
  rw [readDigits_of_ne_nil Nat.toDigits_ne_nil]
  induction n using Nat.strongRecOn with
  | ind n ih =>
    by_cases hn : n < b
    · rw [Nat.toDigits_of_lt_base hn, readDigitsFrom, digitValueIn_digitChar_of_lt b hb' n hn]
      show some (0 * b + n) = some n
      rw [Nat.zero_mul, Nat.zero_add]
    · -- the last digit is added to what the others stand for
      have hdigit := digitValueIn_digitChar_of_lt b hb' (n % b) (Nat.mod_lt n (by omega))
      rw [Nat.toDigits_of_base_le hb (Nat.le_of_not_lt hn), readDigitsFrom_append,
        ih (n / b) (Nat.div_lt_self (by omega) hb), Option.bind_some, readDigitsFrom, hdigit]
      show some (n / b * b + n % b) = some n
      rw [Nat.div_add_mod']

theorem readDigits_numeral (n : Nat) : readDigits 10 (numeral n) = some n :=
  readDigits_toDigits (by decide) (by decide) n

theorem digitChar_ne_zero : ∀ n < 16, 0 < n → Nat.digitChar n ≠ '0' := by decide

/-- The digits of a number that is not zero do not start with a zero. -/
theorem head?_toDigits (hb : 1 < b) (hb' : b ≤ 16) (hn : 0 < n) : (Nat.toDigits b n).head? ≠ some '0' := by
  induction n using Nat.strongRecOn with
  | ind n ih =>
    by_cases hlt : n < b
    · rw [Nat.toDigits_of_lt_base hlt, List.head?_singleton]
      exact fun h => digitChar_ne_zero n (by omega) hn (Option.some.inj h)
    · have hpos : 0 < n / b := Nat.div_pos (Nat.le_of_not_lt hlt) (by omega)
      have hhead := ih (n / b) (Nat.div_lt_self hn hb) hpos
      rw [Nat.toDigits_of_base_le hb (Nat.le_of_not_lt hlt)]
      cases hdigits : Nat.toDigits b (n / b) with
      | nil => exact absurd hdigits Nat.toDigits_ne_nil
      | cons c cs =>
        rw [hdigits] at hhead
        exact hhead

/-- A numeral has a zero before it only if that is all of it. -/
theorem head?_numeral (h : 1 < (numeral n).length) : (numeral n).head? ≠ some '0' := by
  refine head?_toDigits (by decide) (by decide) (Nat.pos_of_ne_zero ?_)
  rintro rfl
  revert h
  decide

theorem isSome_digitValueIn_of_mem_toDigits (hb : 1 < b) (hb' : b ≤ 16) {c : Char} (h : c ∈ Nat.toDigits b n) :
    (digitValueIn b c).isSome = true := by
  induction n using Nat.strongRecOn with
  | ind n ih =>
    by_cases hn : n < b
    · rw [Nat.toDigits_of_lt_base hn, List.mem_singleton] at h
      rw [h, digitValueIn_digitChar_of_lt b hb' n hn]
      rfl
    · rw [Nat.toDigits_of_base_le hb (Nat.le_of_not_lt hn), List.mem_append, List.mem_singleton] at h
      rcases h with h | rfl
      · exact ih (n / b) (Nat.div_lt_self (by omega) hb) h
      · rw [digitValueIn_digitChar_of_lt b hb' (n % b) (Nat.mod_lt n (by omega))]
        rfl

end Reading

/-! ### Decimal digits -/

section Decimal

variable {cs : List Char}

theorem digitValueIn_ten (c : Char) : digitValueIn 10 c = if c.isDigit then some (c.toNat - '0'.toNat) else none := by
  have hdigit : c.isDigit = true ↔ '0' ≤ c ∧ c ≤ '9' := by
    rw [Char.isDigit_iff_toNat, Char.le_def, Char.le_def, UInt32.le_iff_toNat_le, UInt32.le_iff_toNat_le]
    rfl
  unfold digitValueIn
  by_cases hc : '0' ≤ c ∧ c ≤ '9'
  · have hlt : c.toNat - '0'.toNat < 10 := by
      have hle : c.toNat ≤ 57 := (Char.isDigit_iff_toNat.1 (hdigit.2 hc)).2
      show c.toNat - 48 < 10
      omega
    rw [if_pos hc, if_pos (hdigit.2 hc), Option.filter_some, if_pos (decide_eq_true hlt)]
  · rw [if_neg hc, if_neg (mt hdigit.1 hc)]
    -- what is a digit of a larger base only is worth ten or more
    have hlarge (n : Nat) : (some (n + 10)).filter (· < 10) = none := by simp
    dsimp only
    split
    · exact hlarge _
    · split
      · exact hlarge _
      · rfl

theorem readDigitsFrom_ten_eq_some_iff {acc : Nat} :
    readDigitsFrom 10 acc cs = some n ↔ (∀ c ∈ cs, c.isDigit = true) ∧ Nat.ofDigitChars 10 cs acc = n := by
  induction cs generalizing acc with
  | nil => simp [readDigitsFrom, Nat.ofDigitChars]
  | cons c cs ih =>
    rw [readDigitsFrom, digitValueIn_ten, List.forall_mem_cons]
    by_cases hc : c.isDigit = true
    · rw [if_pos hc, Option.bind_eq_bind, Option.bind_some, ih, Nat.mul_comm acc]
      simp only [hc, true_and]
      rfl
    · simp [hc]

/-- The digits write the number. -/
def IsNumeral (digits : List Char) (n : Nat) : Prop :=
  digits ≠ [] ∧ (∀ c ∈ digits, c.isDigit = true) ∧ Nat.ofDigitChars 10 digits 0 = n

theorem readDigits_eq_some_iff : readDigits 10 cs = some n ↔ IsNumeral cs n := by
  cases cs with
  | nil => exact ⟨nofun, fun h => absurd rfl h.1⟩
  | cons c cs =>
    rw [IsNumeral, and_iff_right (List.cons_ne_nil c cs)]
    exact readDigitsFrom_ten_eq_some_iff

/-- A count is read from digits, with a plus sign before them or none, if it fits in 64 bits. -/
theorem readCount_eq_some_iff : readCount cs = some n ↔
    n < UInt64.size ∧ ∃ sign digits, cs = sign ++ digits ∧ (sign = [] ∨ sign = ['+']) ∧ IsNumeral digits n := by
  unfold readCount
  rw [Option.filter_eq_some_iff, decide_eq_true_eq, and_comm, and_congr_right_iff]
  intro _
  split
  next rest =>
    rw [readDigits_eq_some_iff]
    refine ⟨fun h => ⟨['+'], rest, rfl, .inr rfl, h⟩, ?_⟩
    rintro ⟨sign, digits, hcs, rfl | rfl, hdigits⟩
    · -- a plus sign is no digit
      obtain rfl : '+' :: rest = digits := hcs
      exact absurd (hdigits.2.1 '+' List.mem_cons_self) (by decide)
    · exact (List.cons.inj hcs).2 ▸ hdigits
  next hsign =>
    rw [readDigits_eq_some_iff]
    refine ⟨fun h => ⟨[], cs, rfl, .inl rfl, h⟩, ?_⟩
    rintro ⟨sign, digits, hcs, rfl | rfl, hdigits⟩
    · exact hcs ▸ hdigits
    · exact absurd hcs (hsign digits)

end Decimal

end ComputeGrid.Text
