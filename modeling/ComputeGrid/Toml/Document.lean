import ComputeGrid.Toml.Basic

/-!
# Building the tables of a document

Headers and dotted keys may name a table several times, but define it once. A table therefore remembers its `Origin`
while the document is read. `Table.within` walks along keys and changes the table at their end; it is where a key leads
through a value, or a dotted key into a table that a header defined, that a document is refused.
-/

namespace ComputeGrid.Toml

/-- How a table came about. -/
inductive Origin where
  /-- It is the document, or a header named it. -/
  | header
  /-- A header named a table below it. -/
  | path
  /-- A dotted key leads through it. -/
  | dotted
  deriving DecidableEq

mutual

/-- What a key of a table under construction stands for. -/
inductive Node where
  | value (v : Toml)
  | table (t : Table)
  | tables (ts : List Table)

/-- A table under construction. -/
inductive Table where
  | mk (origin : Origin) (entries : List (String × Node))

end

namespace Table

def origin : Table → Origin
  | .mk origin _ => origin

def entries : Table → List (String × Node)
  | .mk _ entries => entries

/-- The entries with one of them replaced. -/
def replace (key : String) (node : Node) (entries : List (String × Node)) : List (String × Node) :=
  entries.map fun e => if e.1 == key then (key, node) else e

/-- Changes the table that keys lead to, making the tables on the way that are not there, and gives a result of the
change. Through several tables of one name the way leads into the last. -/
def within {α : Type} (dotted : Bool) (change : Table → Option (Table × α)) :
    List String → Table → Option (Table × α)
  | [], t => change t
  | key :: path, .mk origin entries =>
    match entries.lookup key with
    | none => do
      let (child, result) ← within dotted change path (.mk (if dotted then .dotted else .path) [])
      return (.mk origin (entries ++ [(key, .table child)]), result)
    | some (.value _) => none
    | some (.tables ts) => do
      let (last, result) ← within dotted change path (← ts.getLast?)
      return (.mk origin (replace key (.tables (ts.dropLast ++ [last])) entries), result)
    | some (.table child) =>
      if dotted ∧ child.origin = .header then none
      else do
        let (child, result) ← within dotted change path child
        return (.mk origin (replace key (.table child) entries), result)

/-- Adds an entry under a key that is new. -/
def add (key : String) (node : Node) (t : Table) : Option Table :=
  if (t.entries.lookup key).isSome then none else some (.mk t.origin (t.entries ++ [(key, node)]))

/-- Puts a value under dotted keys. A table that such keys lead to must have come from dotted keys itself. -/
def put (path : List String) (key : String) (v : Toml) (t : Table) : Option Table := do
  let insert (inner : Table) : Option (Table × Unit) := do
    if !path.isEmpty ∧ inner.origin ≠ .dotted then none
    return (← inner.add key (.value v), ())
  return (← t.within true insert path).1

/-- Takes out the entries of a table that only stood on the way to others, so that a header may define it. -/
def takeEntries (key : String) (t : Table) : Option (Table × List (String × Node)) :=
  match t.entries.lookup key with
  | none => some (t, [])
  | some (.table inner) =>
    if inner.origin = .path then some (.mk t.origin (t.entries.filter (·.1 != key)), inner.entries) else none
  | some _ => none

/-- Makes room for several tables of one name. -/
def addTables (key : String) (t : Table) : Option (Table × Unit) :=
  match t.entries.lookup key with
  | none => some (.mk t.origin (t.entries ++ [(key, .tables [])]), ())
  | some (.tables _) => some (t, ())
  | some _ => none

/-- Puts a finished table in its place, after the others of its name if there may be several. -/
def settle (key : String) (finished : Table) (t : Table) : Option (Table × Unit) :=
  match t.entries.lookup key with
  | some (.tables ts) => some (.mk t.origin (replace key (.tables (ts ++ [finished])) t.entries), ())
  | some _ => none
  | none => some (.mk t.origin (t.entries ++ [(key, .table finished)]), ())

/-- An empty table that a header defines. -/
def opened : Table := .mk .header []

mutual

/-- The finished value. -/
def finishNode : Node → Toml
  | .value v => v
  | .table t => .table (finish t)
  | .tables ts => .array (finishTables ts)

/-- The finished entries of a table. -/
def finish : Table → List (String × Toml)
  | .mk _ entries => finishEntries entries

/-- The finished entries. -/
def finishEntries : List (String × Node) → List (String × Toml)
  | [] => []
  | (key, node) :: rest => (key, finishNode node) :: finishEntries rest

/-- The finished tables of one name. -/
def finishTables : List Table → List Toml
  | [] => []
  | t :: rest => .table (finish t) :: finishTables rest

end

end Table

/-- A document under construction: what is finished, and the table that the last header opened with its path. -/
structure Document where
  root : Table
  current : Table
  path : List String

namespace Document

/-- A document of which nothing has been read. -/
def start : Document := ⟨.opened, .opened, []⟩

/-- Puts a value into the current table. -/
def put (d : Document) (path : List String) (key : String) (v : Toml) : Option Document := do
  return { d with current := ← d.current.put path key v }

/-- The tables with the current one in its place. -/
def close (d : Document) : Option Table :=
  match d.path.getLast? with
  | none => some d.current
  | some key => (d.root.within false (Table.settle key d.current) d.path.dropLast).map (·.1)

/-- Opens the table of a header. -/
def openTable (d : Document) (path : List String) : Option Document := do
  let key ← path.getLast?
  let (root, entries) ← (← d.close).within false (Table.takeEntries key) path.dropLast
  return ⟨root, .mk .header entries, path⟩

/-- Opens one more table of a name that may have several. -/
def openTables (d : Document) (path : List String) : Option Document := do
  let key ← path.getLast?
  let (root, _) ← (← d.close).within false (Table.addTables key) path.dropLast
  return ⟨root, .opened, path⟩

/-- The finished document. -/
def finish (d : Document) : Option Toml := do
  return .table (← d.close).finish

end Document

end ComputeGrid.Toml
