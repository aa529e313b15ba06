import ComputeGrid.Json.Maps
import ComputeGrid.Proofs.Maps
import ComputeGrid.Proofs.Text.Numerals

/-!
# Values that are read back

A reader undoes a writer on numbers, texts, lists and options, if it does so on what these hold (`toList?_ofList`,
`toOption?_ofOption`), and a map is read back from its members, whose names are its keys or their numerals
(`toNameMap?_nameMap`, `toNodeMap?_nodeMap`).  A field of a record is the member with its name (`Fields.required_named`,
`Fields.withDefault_named`).
-/

namespace ComputeGrid.Json

open Std (ExtTreeMap)

variable {α : Type} {toJson : α → Json} {value? : Json → Option α}

/-! ### Numbers and texts -/

theorem toNatBelow?_ofNat {bound n : Nat} (h : n < bound) : toNatBelow? bound (ofNat n) = some n := by
  have hbounds : 0 ≤ (n : Int) ∧ (n : Int) < bound := by omega
  rw [ofNat, toNatBelow?, if_pos hbounds, Int.toNat_natCast]

@[simp] theorem toUInt8?_ofNat (x : UInt8) : toUInt8? (ofNat x.toNat) = some x := by
  rw [toUInt8?, toNatBelow?_ofNat x.toNat_lt, Option.map_some, Nat.toUInt8_eq, UInt8.ofNat_toNat]

@[simp] theorem toUInt16?_ofNat (x : UInt16) : toUInt16? (ofNat x.toNat) = some x := by
  rw [toUInt16?, toNatBelow?_ofNat x.toNat_lt, Option.map_some, Nat.toUInt16_eq, UInt16.ofNat_toNat]

@[simp] theorem toUInt32?_ofNat (x : UInt32) : toUInt32? (ofNat x.toNat) = some x := by
  rw [toUInt32?, toNatBelow?_ofNat x.toNat_lt, Option.map_some, Nat.toUInt32_eq, UInt32.ofNat_toNat]

@[simp] theorem toUInt64?_ofNat (x : UInt64) : toUInt64? (ofNat x.toNat) = some x := by
  rw [toUInt64?, toNatBelow?_ofNat x.toNat_lt, Option.map_some, Nat.toUInt64_eq, UInt64.ofNat_toNat]

@[simp] theorem toBool?_bool (b : Bool) : toBool? (.bool b) = some b := rfl

@[simp] theorem toString?_string (s : String) : toString? (.string s) = some s := rfl

@[simp] theorem toName?_string (s : String) : toName? (.string s) = some s := rfl

/-! ### Lists and options -/

/-- A list is read back if its items are. -/
@[simp] theorem toList?_ofList (h : ∀ x, value? (toJson x) = some x) (xs : List α) :
    toList? value? (ofList toJson xs) = some xs := by
  show (xs.map toJson).mapM value? = some xs
  induction xs with
  | nil => rfl
  | cons x xs ih => rw [List.map_cons, List.mapM_cons, h x, ih]; rfl

/-- What there may be is read back by a reader that reads nothing from null. -/
theorem toOption?_ofOption (h : ∀ x, value? (toJson x) = some x) (hnull : value? .null = none) (x : Option α) :
    toOption? value? (ofOption toJson x) = some x := by
  cases x with
  | none => rfl
  | some x =>
    rw [ofOption, toOption?, h x, Option.map_some]
    intro hx
    rw [← hx, h x] at hnull
    exact nomatch hnull

/-! ### Records -/

/-- A member with another name is passed over. -/
@[simp] theorem lookup_cons_of_ne {name other : String} (h : name ≠ other) (j : Json) (members : List (String × Json)) :
    List.lookup name ((other, j) :: members) = members.lookup name := by
  rw [List.lookup_cons, beq_false_of_ne h]

@[simp] theorem toFields?_object (arity : Nat) (members : List (String × Json)) :
    toFields? arity (.object members) = some (.named members) := rfl

theorem Fields.get?_named (members : List (String × Json)) (place : Nat) (name : String) :
    get? (.named members) place name = members.lookup name := rfl

@[simp] theorem Fields.required_named (members : List (String × Json)) (place : Nat) (name : String) :
    required (.named members) place name value? = (members.lookup name).bind value? := by
  rw [required, get?_named]

@[simp] theorem Fields.withDefault_named (members : List (String × Json)) (place : Nat) (name : String) (default : α) :
    withDefault (.named members) place name value? default = (members.lookup name).elim (some default) value? := by
  rw [withDefault, get?_named]
  cases members.lookup name with
  | none => rfl
  | some j => rfl

/-! ### Maps -/

/-- A key is read back from its numeral. -/
theorem keyBelow?_numeral {bound n : Nat} (h : n < bound) : keyBelow? bound (String.ofList (Text.numeral n)) = some n := by
  have hkey : ¬ (1 < (Text.numeral n).length ∧ (Text.numeral n).head? = some '0' ∨ bound ≤ n) := by
    rintro (⟨hlength, hzero⟩ | hbound)
    · exact Text.head?_numeral hlength hzero
    · omega
  rw [keyBelow?, String.toList_ofList, Text.readDigits_numeral]
  exact if_neg hkey

@[simp] theorem toNameMap?_nameMap (h : ∀ x, value? (toJson x) = some x) (m : NameMap α) :
    toNameMap? value? (nameMap toJson m) = some m := by
  rw [nameMap, toNameMap?, List.foldlM_map]
  refine foldlM_toList fun made name x _ => ?_
  dsimp only
  rw [h x]
  rfl

@[simp] theorem toNodeMap?_nodeMap (h : ∀ x, value? (toJson x) = some x) (m : NodeMap α) :
    toNodeMap? value? (nodeMap toJson m) = some m := by
  rw [nodeMap, toNodeMap?, List.foldlM_map]
  refine foldlM_toList fun made node x _ => ?_
  dsimp only
  rw [keyBelow?_numeral node.toNat_lt, h x]
  show some (made.insert node.toNat.toUInt32 x) = some (made.insert node x)
  rw [Nat.toUInt32_eq, UInt32.ofNat_toNat]

end ComputeGrid.Json
