import ComputeGrid.Json.Basic

/-!
# TOML values

`Toml` is what a document says, without the way in which it says it: a table may have been written under a header, by
dotted keys or inline. `Toml.toJson` forgets the difference between a table and an object, so that records are read from
either in one way; a date becomes an object of its text, which has no field of any record.
-/

namespace ComputeGrid

/-- A TOML value. -/
inductive Toml where
  | string (s : String)
  | integer (n : Int)
  | float (x : Float)
  | boolean (b : Bool)
  | date (text : String)
  | array (items : List Toml)
  | table (entries : List (String × Toml))
  deriving Inhabited

namespace Toml

/-- Integers run from minus this number to just below it. -/
def integerLimit : Nat := 0x8000000000000000

mutual

/-- The value as JSON. -/
def toJson : Toml → Json
  | .string s => .string s
  | .integer n => .number (.integer n)
  | .float x => .number (.double x)
  | .boolean b => .bool b
  | .date text => .object [("date", .string text)]
  | .array items => .array (itemsToJson items)
  | .table entries => .object (entriesToJson entries)

/-- The items of an array as JSON. -/
def itemsToJson : List Toml → List Json
  | [] => []
  | x :: rest => x.toJson :: itemsToJson rest

/-- The entries of a table as JSON. -/
def entriesToJson : List (String × Toml) → List (String × Json)
  | [] => []
  | (key, x) :: rest => (key, x.toJson) :: entriesToJson rest

end

end Toml

end ComputeGrid
