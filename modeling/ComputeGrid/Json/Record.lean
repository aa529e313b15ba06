import ComputeGrid.Json.Basic

/-!
# Records and scalars as JSON

A record is written as an object that names its fields. It is read from such an object, in which members that are no
fields are passed over, or from an array that lists the fields in the order of their declaration. `Fields` is what
arrived, and `required`, `withDefault` and `nullable` say what a missing field means.

Readers are functions `Json → Option α`: a value that is not of the form a record needs is `none`.
-/

namespace ComputeGrid.Json

/-! ### Scalars -/

def toBool? : Json → Option Bool
  | .bool b => some b
  | _ => none

def toString? : Json → Option String
  | .string s => some s
  | _ => none

/-- An integer between zero and a bound that it does not reach. -/
def toNatBelow? (bound : Nat) : Json → Option Nat
  | .number (.integer n) => if 0 ≤ n ∧ n < bound then some n.toNat else none
  | _ => none

def toUInt8? (j : Json) : Option UInt8 := (toNatBelow? UInt8.size j).map Nat.toUInt8

def toUInt16? (j : Json) : Option UInt16 := (toNatBelow? UInt16.size j).map Nat.toUInt16

def toUInt32? (j : Json) : Option UInt32 := (toNatBelow? UInt32.size j).map Nat.toUInt32

def toUInt64? (j : Json) : Option UInt64 := (toNatBelow? UInt64.size j).map Nat.toUInt64

/-- A float may be written as an integer, and is then the nearest float to it. -/
def toFloat? : Json → Option Float
  | .number (.integer n) => some (if n < 0 then -n.natAbs.toUInt64.toFloat else n.natAbs.toUInt64.toFloat)
  | .number (.double x) => some x
  | _ => none

def toList? {α : Type} (item? : Json → Option α) : Json → Option (List α)
  | .array items => items.mapM item?
  | _ => none

/-- A value or null. -/
def toOption? {α : Type} (value? : Json → Option α) : Json → Option (Option α)
  | .null => some none
  | j => (value? j).map some

/-- The name of a choice among names: a string, or an object whose only member has that name and no content. -/
def toName? : Json → Option String
  | .string s => some s
  | .object [(name, .null)] => some name
  | _ => none

def ofOption {α : Type} (toJson : α → Json) : Option α → Json
  | none => .null
  | some x => toJson x

def ofList {α : Type} (toJson : α → Json) (xs : List α) : Json :=
  .array (xs.map toJson)

/-! ### Records -/

/-- The fields of a record as they arrived. -/
inductive Fields where
  | named (members : List (String × Json))
  | listed (items : List Json)

/-- The fields of a record, of which an array may list any number. -/
def toOpenFields? : Json → Option Fields
  | .object members => some (.named members)
  | .array items => some (.listed items)
  | _ => none

/-- The fields of a record that has `arity` of them; an array must not list more. -/
def toFields? (arity : Nat) (j : Json) : Option Fields :=
  match j with
  | .array items => if items.length ≤ arity then some (.listed items) else none
  | _ => j.toOpenFields?

namespace Fields

/-- The field with a given place and name. -/
def get? (f : Fields) (place : Nat) (name : String) : Option Json :=
  match f with
  | .named members => members.lookup name
  | .listed items => items[place]?

/-- A field that must be there. -/
def required {α : Type} (f : Fields) (place : Nat) (name : String) (value? : Json → Option α) : Option α :=
  (f.get? place name).bind value?

/-- A field with a value for when it is absent. -/
def withDefault {α : Type} (f : Fields) (place : Nat) (name : String) (value? : Json → Option α) (default : α) :
    Option α :=
  match f.get? place name with
  | none => some default
  | some j => value? j

/-- A field that may be null, or absent from an object. -/
def nullable {α : Type} (f : Fields) (place : Nat) (name : String) (value? : Json → Option α) :
    Option (Option α) :=
  match f, f.get? place name with
  | .named _, none => some none
  | .listed _, none => none
  | _, some j => toOption? value? j

end Fields

end ComputeGrid.Json
