import ComputeGrid.Json.Reader
import ComputeGrid.Json.Record
import ComputeGrid.Json.Writer
import ComputeGrid.Proofs.Text.Numerals
import ComputeGrid.Text.Hex

/-!
# The text of a value determines it

A value without floats can be told from its compact text, and even where more text follows
(`Json.chars_append_inj`): a string ends at the first quote that is not escaped (`readString_quote`), a
numeral at the first character that is no digit, and arrays and objects at their brackets.  So different
values are written as different bytes (`Json.renderBytes_injective`).
-/

namespace ComputeGrid.Json

variable {r s : List Char}

/-! ### Strings -/

/-- The escape of a control character stands for it. -/
theorem readUnit_control {c : Char} (h : c.toNat < 0x20) (r : List Char) :
    readUnit ('0' :: '0' :: hexDigit (c.toNat / 16) :: hexDigit (c.toNat % 16) :: r) = some (c.toNat, r) := by
  have hhigh : Text.digitValueIn 16 (hexDigit (c.toNat / 16)) = some (c.toNat / 16) :=
    Text.digitValueIn_digitChar (by omega)
  have hlow : Text.digitValueIn 16 (hexDigit (c.toNat % 16)) = some (c.toNat % 16) :=
    Text.digitValueIn_digitChar (Nat.mod_lt _ (by decide))
  have hzero : Text.digitValueIn 16 '0' = some 0 := by decide
  have hdigits : Text.readDigits 16 ['0', '0', hexDigit (c.toNat / 16), hexDigit (c.toNat % 16)] = some c.toNat := by
    simp only [Text.readDigits, Text.readDigitsFrom, hzero, hhigh, hlow, Option.bind_eq_bind, Option.bind_some,
      Option.some.injEq]
    omega
  rw [readUnit, if_neg (by simp only [List.length_cons]; omega)]
  simp only [List.take_succ_cons, List.take_zero, List.drop_succ_cons, List.drop_zero, hdigits, Option.map_some]

theorem readCharacters_backslash {fuel : Nat} {acc cs : List Char} {c : Char} (h : readEscape cs = some (c, r)) :
    readCharacters (fuel + 1) acc ('\\' :: cs) = readCharacters fuel (c :: acc) r := by
  rw [readCharacters, h]

/-- A character is read back from how it stands in a string. -/
theorem readCharacters_escape (fuel : Nat) (acc : List Char) (c : Char) (r : List Char) :
    readCharacters (fuel + 1) acc (escape c ++ r) = readCharacters fuel (c :: acc) r := by
  unfold escape
  split
  iterate 7 rfl
  next hquote hbackslash _ _ _ _ _ =>
    split
    next hcontrol =>
      -- the other control characters are written by their number
      have hescape : readEscape ('u' :: '0' :: '0' :: hexDigit (c.toNat / 16) :: hexDigit (c.toNat % 16) :: r) =
          some (c, r) := by
        rw [readEscape, readUnit_control hcontrol, Option.bind_eq_bind, Option.bind_some]
        simp only
        rw [if_neg (by omega), if_neg (by omega), Char.ofNat_toNat]
      exact readCharacters_backslash hescape
    next hcontrol =>
      rw [List.singleton_append, readCharacters]
      · rw [if_neg hcontrol]
      · exact hquote
      · exact hbackslash

theorem readCharacters_flatMap_escape (cs acc r : List Char) {fuel : Nat} (hfuel : cs.length < fuel) :
    readCharacters fuel acc (cs.flatMap escape ++ '"' :: r) = some (String.ofList (acc.reverse ++ cs), r) := by
  induction cs generalizing fuel acc with
  | nil =>
    obtain ⟨fuel, rfl⟩ := Nat.exists_eq_add_one.mpr hfuel
    rw [List.flatMap_nil, List.nil_append, List.append_nil]
    rfl
  | cons c cs ih =>
    obtain ⟨fuel, rfl⟩ := Nat.exists_eq_add_one.mpr (Nat.zero_lt_of_lt hfuel)
    rw [List.flatMap_cons, List.append_assoc, readCharacters_escape, ih _ (by simpa using hfuel), List.reverse_cons,
      List.append_assoc, List.singleton_append]

theorem length_le_flatMap_escape (cs : List Char) : cs.length ≤ (cs.flatMap escape).length := by
  induction cs with
  | nil => exact Nat.le_refl _
  | cons c cs ih =>
    have hc : 1 ≤ (escape c).length := by
      unfold escape
      split
      iterate 7 exact Nat.le_add_left 1 1
      split
      · exact Nat.le_add_left 1 5
      · exact Nat.le_refl 1
    rw [List.flatMap_cons, List.length_append, List.length_cons]
    omega

/-- A string is read back from its text, whatever follows. -/
theorem readString_quote (x : String) (r : List Char) : readString (quote x ++ r) = some (x, r) := by
  have hlength : x.toList.length < (x.toList.flatMap escape ++ '"' :: r).length + 1 := by
    have hle := length_le_flatMap_escape x.toList
    rw [List.length_append, List.length_cons]
    omega
  rw [quote, List.cons_append, List.cons_append, List.append_assoc, List.singleton_append, readString,
    readCharacters_flatMap_escape _ _ _ hlength, List.reverse_nil, List.nil_append, String.ofList_toList]

theorem quote_append_inj {x y : String} (h : quote x ++ r = quote y ++ s) : x = y ∧ r = s := by
  have hread := readString_quote x r
  rw [h, readString_quote, Option.some.injEq, Prod.mk.injEq] at hread
  exact ⟨hread.1.symm, hread.2.symm⟩

/-! ### Values -/

mutual

/-- No number in the value is a float. -/
def Plain : Json → Prop
  | .number (.double _) => False
  | .array items => PlainItems items
  | .object members => PlainMembers members
  | .null | .bool _ | .number (.integer _) | .string _ => True

/-- No number in the items is a float. -/
def PlainItems : List Json → Prop
  | [] => True
  | x :: rest => Plain x ∧ PlainItems rest

/-- No number in the members is a float. -/
def PlainMembers : List (String × Json) → Prop
  | [] => True
  | (_, x) :: rest => Plain x ∧ PlainMembers rest

end

theorem plainItems_iff {xs : List Json} : PlainItems xs ↔ ∀ x ∈ xs, Plain x := by
  induction xs with
  | nil => simp only [PlainItems, List.not_mem_nil, false_implies, implies_true]
  | cons x rest ih => rw [PlainItems, ih, List.forall_mem_cons]

theorem plainMembers_iff {xs : List (String × Json)} : PlainMembers xs ↔ ∀ x ∈ xs, Plain x.2 := by
  induction xs with
  | nil => simp only [PlainMembers, List.not_mem_nil, false_implies, implies_true]
  | cons x rest ih => rw [PlainMembers, ih, List.forall_mem_cons]

/-- What the first character of a text says about the value: which of the words it is, or that it is a
string, an array, an object, or a number. -/
def mark (c : Char) : Nat :=
  match c with
  | 'n' => 0
  | 't' => 1
  | 'f' => 2
  | '"' => 3
  | '[' => 4
  | '{' => 5
  | ']' => 6
  | _ => 7

/-- What the first character of its text says about a value. -/
def kind : Json → Nat
  | .null => 0
  | .bool true => 1
  | .bool false => 2
  | .string _ => 3
  | .array _ => 4
  | .object _ => 5
  | .number _ => 7

theorem mark_of_isDigit {c : Char} (h : c.isDigit = true) : mark c = 7 := by
  unfold mark
  split
  iterate 7 exact absurd h (by decide)
  rfl

theorem exists_integer (n : Int) : ∃ c cs, Text.integer n = c :: cs ∧ mark c = 7 := by
  unfold Text.integer
  by_cases hn : n < 0
  · rw [if_pos hn]
    exact ⟨'-', _, rfl, rfl⟩
  · rw [if_neg hn]
    rcases h : Text.numeral n.natAbs with _ | ⟨c, cs⟩
    · exact absurd h (Text.numeral_ne_nil _)
    · refine ⟨c, cs, rfl, mark_of_isDigit (Text.isDigit_of_mem_numeral (n := n.natAbs) ?_)⟩
      rw [h]
      exact List.mem_cons_self

theorem exists_chars {a : Json} (ha : a.Plain) : ∃ c cs, a.chars = c :: cs ∧ mark c = a.kind := by
  rcases a with _ | (_ | _) | (n | x) | x | xs | xs
  · exact ⟨_, _, rfl, rfl⟩
  · exact ⟨_, _, rfl, rfl⟩
  · exact ⟨_, _, rfl, rfl⟩
  · exact exists_integer n
  · cases ha
  · exact ⟨_, _, rfl, rfl⟩
  · exact ⟨_, _, rfl, rfl⟩
  · exact ⟨_, _, rfl, rfl⟩

theorem kind_eq_of_chars {a b : Json} (ha : a.Plain) (hb : b.Plain) (h : a.chars ++ r = b.chars ++ s) :
    a.kind = b.kind := by
  obtain ⟨c, cs, hac, hc⟩ := exists_chars ha
  obtain ⟨d, ds, hbd, hd⟩ := exists_chars hb
  rw [hac, hbd, List.cons_append, List.cons_append, List.cons.injEq] at h
  rw [← hc, ← hd, h.1]

theorem chars_append_ne_bracket {a : Json} (ha : a.Plain) : a.chars ++ r ≠ ']' :: s := by
  intro h
  obtain ⟨c, cs, hac, hc⟩ := exists_chars ha
  rw [hac, List.cons_append, List.cons.injEq] at h
  rw [h.1] at hc
  rcases a with _ | (_ | _) | (n | x) | x | xs | xs
  all_goals cases hc

/-- What follows an item: the end of the array, or a comma and the other items. -/
def afterItem (xs : List Json) (r : List Char) : List Char :=
  match xs with
  | [] => ']' :: r
  | x :: rest => ',' :: (itemsChars (x :: rest) ++ ']' :: r)

theorem itemsChars_cons (x : Json) (xs : List Json) (r : List Char) :
    itemsChars (x :: xs) ++ ']' :: r = x.chars ++ afterItem xs r := by
  rcases xs with _ | ⟨y, rest⟩
  · rfl
  · rw [itemsChars, List.append_assoc, List.cons_append, afterItem]

theorem delimited_afterItem (xs : List Json) (r : List Char) : Text.Delimited (afterItem xs r) := by
  rcases xs with _ | ⟨y, rest⟩
  · exact Text.delimited_cons rfl
  · exact Text.delimited_cons rfl

/-- What follows a member: the end of the object, or a comma and the other members. -/
def afterMember (xs : List (String × Json)) (r : List Char) : List Char :=
  match xs with
  | [] => '}' :: r
  | x :: rest => ',' :: (membersChars (x :: rest) ++ '}' :: r)

theorem membersChars_cons (name : String) (x : Json) (xs : List (String × Json)) (r : List Char) :
    membersChars ((name, x) :: xs) ++ '}' :: r = quote name ++ ':' :: (x.chars ++ afterMember xs r) := by
  rcases xs with _ | ⟨y, rest⟩
  · rw [membersChars, List.append_assoc, List.cons_append, afterMember]
  · rw [membersChars, List.append_assoc, List.append_assoc, List.cons_append, List.cons_append, afterMember]

theorem delimited_afterMember (xs : List (String × Json)) (r : List Char) : Text.Delimited (afterMember xs r) := by
  rcases xs with _ | ⟨y, rest⟩
  · exact Text.delimited_cons rfl
  · exact Text.delimited_cons rfl

mutual

/-- A value is determined by its text, and so is what follows. -/
theorem chars_append_inj {r s : List Char} (hr : Text.Delimited r) (hs : Text.Delimited s) :
    (a b : Json) → a.Plain → b.Plain → a.chars ++ r = b.chars ++ s → a = b ∧ r = s := by
  intro a b ha hb h
  -- values of different kinds differ in their first character, which leaves the pairs of one kind
  have hkind := kind_eq_of_chars ha hb h
  match a, b with
  | .null, .null => exact ⟨rfl, List.append_cancel_left h⟩
  | .bool true, .bool true => exact ⟨rfl, List.append_cancel_left h⟩
  | .bool false, .bool false => exact ⟨rfl, List.append_cancel_left h⟩
  | .number (.integer m), .number (.integer n) =>
    obtain ⟨rfl, hrs⟩ := Text.integer_append_inj hr hs h
    exact ⟨rfl, hrs⟩
  | .string x, .string y =>
    obtain ⟨rfl, hrs⟩ := quote_append_inj h
    exact ⟨rfl, hrs⟩
  | .array xs, .array ys =>
    rw [chars, chars, List.cons_append, List.cons_append, List.cons_append, List.cons_append, List.append_assoc,
      List.append_assoc, List.cons.injEq] at h
    obtain ⟨rfl, hrs⟩ := itemsChars_append_inj xs ys ha hb h.2
    exact ⟨rfl, hrs⟩
  | .object xs, .object ys =>
    rw [chars, chars, List.cons_append, List.cons_append, List.cons_append, List.cons_append, List.append_assoc,
      List.append_assoc, List.cons.injEq] at h
    obtain ⟨rfl, hrs⟩ := membersChars_append_inj xs ys ha hb h.2
    exact ⟨rfl, hrs⟩

/-- Items are determined by their text up to the closing bracket. -/
theorem itemsChars_append_inj {r s : List Char} : (xs ys : List Json) → PlainItems xs → PlainItems ys →
    itemsChars xs ++ ']' :: r = itemsChars ys ++ ']' :: s → xs = ys ∧ r = s := by
  intro xs ys hx hy h
  match xs, ys with
  | [], [] => exact ⟨rfl, (List.cons.inj h).2⟩
  | [], y :: ys =>
    rw [itemsChars_cons] at h
    exact absurd h.symm (chars_append_ne_bracket hy.1)
  | x :: xs, [] =>
    rw [itemsChars_cons] at h
    exact absurd h (chars_append_ne_bracket hx.1)
  | x :: xs, y :: ys =>
    rw [itemsChars_cons, itemsChars_cons] at h
    obtain ⟨rfl, hafter⟩ := chars_append_inj (delimited_afterItem xs r) (delimited_afterItem ys s) x y hx.1 hy.1 h
    -- a bracket is no comma, so that both lists go on or neither does
    match xs, ys with
    | [], [] => exact ⟨rfl, (List.cons.inj hafter).2⟩
    | x' :: xs, y' :: ys =>
      obtain ⟨hrest, hrs⟩ := itemsChars_append_inj (x' :: xs) (y' :: ys) hx.2 hy.2 (List.cons.inj hafter).2
      rw [hrest]
      exact ⟨rfl, hrs⟩

/-- Members are determined by their text up to the closing brace. -/
theorem membersChars_append_inj {r s : List Char} : (xs ys : List (String × Json)) → PlainMembers xs →
    PlainMembers ys → membersChars xs ++ '}' :: r = membersChars ys ++ '}' :: s → xs = ys ∧ r = s := by
  intro xs ys hx hy h
  match xs, ys with
  | [], [] => exact ⟨rfl, (List.cons.inj h).2⟩
  | [], (name, y) :: ys =>
    rw [membersChars_cons] at h
    cases h
  | (name, x) :: xs, [] =>
    rw [membersChars_cons] at h
    cases h
  | (m, x) :: xs, (n, y) :: ys =>
    rw [membersChars_cons, membersChars_cons] at h
    obtain ⟨rfl, hvalue⟩ := quote_append_inj h
    obtain ⟨rfl, hafter⟩ := chars_append_inj (delimited_afterMember xs r) (delimited_afterMember ys s) x y hx.1 hy.1
      (List.cons.inj hvalue).2
    -- a brace is no comma
    match xs, ys with
    | [], [] => exact ⟨rfl, (List.cons.inj hafter).2⟩
    | x' :: xs, y' :: ys =>
      obtain ⟨hrest, hrs⟩ := membersChars_append_inj (x' :: xs) (y' :: ys) hx.2 hy.2 (List.cons.inj hafter).2
      rw [hrest]
      exact ⟨rfl, hrs⟩

end

theorem chars_injective {a b : Json} (ha : a.Plain) (hb : b.Plain) (h : a.chars = b.chars) : a = b :=
  (chars_append_inj Text.delimited_nil Text.delimited_nil a b ha hb (congrArg (· ++ []) h)).1

/-! ### Bytes -/

theorem toList_loop (bytes : ByteArray) (i : Nat) (acc : List UInt8) :
    ByteArray.toList.loop bytes i acc = acc.reverse ++ bytes.data.toList.drop i := by
  fun_induction ByteArray.toList.loop bytes i acc with
  | case1 i acc hi ih =>
    have hi' : i < bytes.data.toList.length := hi
    rw [ih, List.drop_eq_getElem_cons hi', List.reverse_cons, List.append_assoc, List.singleton_append]
    congr 2
    show bytes.get! i = _
    simp [ByteArray.get!, getElem!_pos, hi]
  | case2 i acc hi =>
    have hi' : bytes.data.toList.length ≤ i := Nat.le_of_not_lt hi
    rw [List.drop_eq_nil_of_le hi', List.append_nil]

theorem toUTF8_toList_injective {x y : String} (h : x.toUTF8.toList = y.toUTF8.toList) : x = y := by
  rw [ByteArray.toList, ByteArray.toList, toList_loop, toList_loop] at h
  rw [← String.toByteArray_inj, ByteArray.ext_iff, ← Array.toList_inj]
  exact h

/-- The bytes of a value are those of its characters, one after another. -/
theorem renderBytes_eq (j : Json) : j.renderBytes = j.chars.flatMap String.utf8EncodeChar := by
  have hbytes : (String.ofList j.chars).toUTF8 = (j.chars.flatMap String.utf8EncodeChar).toByteArray := rfl
  rw [renderBytes, render, hbytes, ByteArray.toList, toList_loop, List.data_toByteArray]
  rfl

/-- Different values are written as different bytes. -/
theorem renderBytes_injective {a b : Json} (ha : a.Plain) (hb : b.Plain) (h : a.renderBytes = b.renderBytes) :
    a = b :=
  chars_injective ha hb (String.ofList_inj.mp (toUTF8_toList_injective h))

end ComputeGrid.Json
