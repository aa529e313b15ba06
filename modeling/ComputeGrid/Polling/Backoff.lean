import ComputeGrid.Duration.Scale
import ComputeGrid.Settings.Basic
import ComputeGrid.Timeline

/-!
# Retrying with growing intervals

`Backoff.retry` makes attempts until one is decided or the time is up. The first attempt is made at once. After an attempt
that is undecided it waits for an interval, which grows by a factor up to a greatest one, unless that wait would end after
the budget.
-/

namespace ComputeGrid

/-- What one attempt says, with what the next one is to remember. -/
inductive Attempt (β ε α : Type) where
  | undecided (memory : β)
  | failed (e : ε)
  | done (x : α)

/-- Why there is no result: an attempt failed for good, or none was decided in time. -/
inductive RetryError (ε : Type) where
  | permanent (e : ε)
  | exhausted (attempts : Nat) (elapsed : Duration)

/-- The first interval, the factor by which intervals grow, the greatest interval and the budget. -/
structure Backoff where
  initialInterval : Duration
  multiplier : Float
  maxInterval : Duration
  maxElapsed : Duration
  deriving DecidableEq

namespace Backoff

/-- How settings say to poll. -/
def ofSettings (s : PollSettings) : Backoff :=
  ⟨s.initialInterval, s.multiplier, s.maxInterval, s.maxElapsed⟩

/-- The interval after another. Only what it grows to is bounded by the greatest interval, not the first one. -/
def next (b : Backoff) (interval : Duration) : Checked Duration := do
  return min (← interval.scale b.multiplier) b.maxInterval

variable {σ β ε α : Type}

/-- Makes the attempt after `attempts` others, and more while there are any of the `left` ones: attempts are a 32-bit
count. -/
def retryFrom (b : Backoff) (attempt : β → Timed σ (Attempt β ε α)) (start : Nat) :
    (left attempts : Nat) → (interval : Duration) → (memory : β) → Timed σ (Except (RetryError ε) α)
  | 0, _, _, _ => throw Fault.sum
  | left + 1, attempts, interval, memory => do
    match ← attempt memory with
    | .done x => return .ok x
    | .failed e => return .error (.permanent e)
    | .undecided memory =>
      let elapsed := Duration.ofMillis ((← Timed.now) - start)
      let due ← elapsed.add interval
      if b.maxElapsed < due then return .error (.exhausted (attempts + 1) elapsed)
      Timed.wait interval
      retryFrom b attempt start left (attempts + 1) (← b.next interval) memory

/-- Makes attempts until one is decided or the budget is used up. -/
def retry (b : Backoff) (attempt : β → Timed σ (Attempt β ε α)) (memory : β) :
    Timed σ (Except (RetryError ε) α) := do
  retryFrom b attempt (← Timed.now) (UInt32.size - 1) 0 b.initialInterval memory

end Backoff

end ComputeGrid
