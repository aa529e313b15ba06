import ComputeGrid.Duration
import ComputeGrid.Fault

/-!
# Time

A `Timeline` is a state at a time. The time is a whole number of milliseconds and moves only by waiting: a wait that ends
between two of them lasts until the later one. `Timed` computations change both, and may end in a fault, after which there
is no state.
-/

namespace ComputeGrid

/-- A state, and the milliseconds that have passed. -/
structure Timeline (σ : Type) where
  now : Nat
  state : σ

/-- A computation that takes time and changes a state. -/
abbrev Timed (σ α : Type) := StateT (Timeline σ) Checked α

namespace Timed

variable {σ α : Type}

/-- The present time. -/
def now : Timed σ Nat := return (← get).now

/-- A function of the present state. -/
def query (f : σ → α) : Timed σ α := return f (← get).state

/-- Changes the state at once. -/
def update (f : σ → α × σ) : Timed σ α :=
  modifyGet fun t => ((f t.state).1, { t with state := (f t.state).2 })

/-- Changes the state at once, by a change that may end in a fault. -/
def updateChecked (f : σ → Checked (α × σ)) : Timed σ α := do
  let t ← get
  let (x, s) ← (f t.state : Checked (α × σ))
  set { t with state := s }
  return x

/-- Lets milliseconds pass. -/
def pass (ms : Nat) : Timed σ Unit := modify fun t => { t with now := t.now + ms }

/-- Waits for at least a duration. -/
def wait (d : Duration) : Timed σ Unit := pass d.ceilMillis

end Timed

end ComputeGrid
