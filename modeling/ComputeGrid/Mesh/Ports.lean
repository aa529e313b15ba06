import Std.Data.ExtTreeSet

/-!
# Listen ports

A port is drawn at random, a few times if need be, and looked for in order after that. So there is an answer whenever
there is a free port, whatever is drawn.
-/

namespace ComputeGrid.Ports

/-- How often a port is drawn. -/
def draws : Nat := 64

/-- Whether a port is neither in use on its node nor chosen by another. -/
def isFree (used chosen : Std.ExtTreeSet UInt16) (port : UInt16) : Bool :=
  !used.contains port && !chosen.contains port

/-- A free port from `low` up to below `high`, given what is drawn. -/
def pick? (drawn : Nat → Nat) (used chosen : Std.ExtTreeSet UInt16) (low high : UInt16) : Option UInt16 :=
  let width := high.toNat - low.toNat
  let port (offset : Nat) : UInt16 := (low.toNat + offset).toUInt16
  if width = 0 then none
  else
    ((List.range draws).map fun i => port (drawn i % width)).find? (isFree used chosen) <|>
      ((List.range width).map port).find? (isFree used chosen)

end ComputeGrid.Ports
