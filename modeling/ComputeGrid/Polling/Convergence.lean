import ComputeGrid.Polling.Backoff
import ComputeGrid.Workload.Basic

/-!
# Convergence

A deployment has converged when every expected workload is reported ok at its expected version. `Convergence.observe`
judges one snapshot of the reports: a failed workload decides at once, and a snapshot without progress fails when the last
progress was too long ago.
-/

namespace ComputeGrid

/-- Why a deployment will not converge. -/
inductive ConvergenceFailure where
  | workload (name : String) (state : ReportState) (message : String)
  | stalled (ok total : Nat)
  deriving DecidableEq, Repr

/-- The expected versions, the longest time without progress, the most workloads that were ok in a snapshot and when that
number last grew. -/
structure Convergence where
  expected : NameMap UInt32
  stallTimeout : Duration
  bestOk : Nat
  lastProgress : Nat

namespace Convergence

/-- Nothing has been observed. -/
def start (expected : NameMap UInt32) (stallTimeout : Duration) (now : Nat) : Convergence :=
  ⟨expected, stallTimeout, 0, now⟩

/-- How many workloads are expected. -/
def total (c : Convergence) : Nat := c.expected.size

/-- Whether a workload is at its expected version. -/
def isExpected (c : Convergence) (w : Workload) : Bool := c.expected[w.name]? == some w.version

/-- The first workload at its expected version that failed. -/
def failure? (c : Convergence) (workloads : List Workload) : Option Workload :=
  workloads.find? fun w => c.isExpected w && w.report.state.isFailure

/-- The names of the workloads that are ok at their expected versions. -/
def okNames (c : Convergence) (workloads : List Workload) : Std.ExtTreeSet String :=
  .ofList ((workloads.filter fun w => c.isExpected w && w.report.state == .ok).map (·.name))

/-- Judges a snapshot at a time. -/
def observe (c : Convergence) (now : Nat) (workloads : List Workload) :
    Attempt Convergence ConvergenceFailure Unit :=
  match c.failure? workloads with
  | some w => .failed (.workload w.name w.report.state w.report.error)
  | none =>
    let ok := (c.okNames workloads).size
    if ok = c.total then .done ()
    else if c.bestOk < ok then .undecided { c with bestOk := ok, lastProgress := now }
    else if c.stallTimeout < Duration.ofMillis (now - c.lastProgress) then .failed (.stalled ok c.total)
    else .undecided c

end Convergence

end ComputeGrid
