import ComputeGrid.Timeline

/-!
# Exchanges

An exchange sends a request and gets an answer after a delay. The request changes the state when it is sent, and the answer
when it is due. `Exchange.within` waits no longer than a timeout: an answer that is due when the timeout ends still counts,
and one that is later leaves no trace. `Exchange.complete` waits for as long as it takes.
-/

namespace ComputeGrid

/-- What a request leads to at once: an answer, or the wait for one. -/
inductive Sent (α : Type) where
  | answered (x : α)
  | pending (delay : Nat)

/-- A request over a state: what it does when it is sent, and what it does when its answer is due. -/
structure Exchange (σ α : Type) where
  send : σ → Sent α × σ
  answer : σ → α × σ

namespace Exchange

variable {σ α : Type}

/-- The answer if it comes within a timeout. -/
def within (e : Exchange σ α) (timeout : Duration) : Timed σ (Option α) := do
  match ← Timed.update e.send with
  | .answered x => return some x
  | .pending delay =>
    if delay ≤ timeout.ceilMillis then
      Timed.pass delay
      return some (← Timed.update e.answer)
    else
      Timed.pass timeout.ceilMillis
      return none

/-- The answer, however late. -/
def complete (e : Exchange σ α) : Timed σ α := do
  match ← Timed.update e.send with
  | .answered x => return x
  | .pending delay =>
    Timed.pass delay
    Timed.update e.answer

end Exchange

end ComputeGrid
