import ComputeGrid.Exchange
import ComputeGrid.Polling.Convergence

/-!
# Waiting for convergence

A feed of reports is asked again and again until its snapshots decide. A question that fails or takes too long leaves
everything open.
-/

namespace ComputeGrid.Convergence

variable {σ ε : Type}

/-- One question to a feed, judged. -/
def poll (changes : Exchange σ (Except ε (List Workload))) (timeout : Duration) (c : Convergence) :
    Timed σ (Attempt Convergence ConvergenceFailure Unit) := do
  match ← changes.within timeout with
  | some (.ok workloads) => return c.observe (← Timed.now) workloads
  | _ => return .undecided c

/-- Waits until every expected workload is ok, one has failed, there was no progress for too long, or the time is up. -/
def await (b : Backoff) (stallTimeout timeout : Duration) (changes : Exchange σ (Except ε (List Workload)))
    (expected : NameMap UInt32) : Timed σ (Except (RetryError ConvergenceFailure) Unit) := do
  b.retry (poll changes timeout) (start expected stallTimeout (← Timed.now))

end ComputeGrid.Convergence
