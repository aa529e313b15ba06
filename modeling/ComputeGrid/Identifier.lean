import Std.Data.ExtTreeMap
import Std.Data.ExtTreeSet

/-!
# Identifiers

Nodes, farms and twins have 32-bit numbers, contracts 64-bit ones. Maps and sets over them are extensional: two with the
same entries are equal, and their entries are listed in numeric order.
-/

namespace ComputeGrid

/-- A compute node of the grid. -/
abbrev NodeId := UInt32

/-- A farm: nodes that share a pool of public addresses. -/
abbrev FarmId := UInt32

/-- A twin: the account that owns deployments and contracts. -/
abbrev TwinId := UInt32

/-- A contract on the ledger; zero stands for none yet. -/
abbrev ContractId := UInt64

/-- A value for some of the nodes. -/
abbrev NodeMap (α : Type) := Std.ExtTreeMap NodeId α

/-- A value for some of the contracts. -/
abbrev ContractMap (α : Type) := Std.ExtTreeMap ContractId α

/-- A value for some names, listed by the order of their code points. -/
abbrev NameMap (α : Type) := Std.ExtTreeMap String α

end ComputeGrid
