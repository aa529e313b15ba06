import ComputeGrid.Identifier
import ComputeGrid.Json.Record
import ComputeGrid.Text.Digits

/-!
# Maps as JSON

A map over names is an object with a member for each entry, in the order of the names. A map over numbers has their
decimal numerals as names, without zeros before them.
-/

namespace ComputeGrid.Json

/-- The number of a member whose name is a numeral below a bound. -/
def keyBelow? (bound : Nat) (name : String) : Option Nat :=
  let cs := name.toList
  match Text.readDigits 10 cs with
  | some n => if (1 < cs.length ∧ cs.head? = some '0') ∨ bound ≤ n then none else some n
  | none => none

def nameMap {α : Type} (toJson : α → Json) (m : NameMap α) : Json :=
  .object (m.toList.map fun (name, x) => (name, toJson x))

def nodeMap {α : Type} (toJson : α → Json) (m : NodeMap α) : Json :=
  .object (m.toList.map fun (node, x) => (String.ofList (Text.numeral node.toNat), toJson x))

def contractMap {α : Type} (toJson : α → Json) (m : ContractMap α) : Json :=
  .object (m.toList.map fun (contract, x) => (String.ofList (Text.numeral contract.toNat), toJson x))

def toNameMap? {α : Type} (value? : Json → Option α) : Json → Option (NameMap α)
  | .object members =>
    members.foldlM (fun m (name, j) => do return m.insert name (← value? j)) ∅
  | _ => none

def toNodeMap? {α : Type} (value? : Json → Option α) : Json → Option (NodeMap α)
  | .object members =>
    members.foldlM (fun m (name, j) => do
      let node ← keyBelow? UInt32.size name
      return m.insert node.toUInt32 (← value? j)) ∅
  | _ => none

end ComputeGrid.Json
