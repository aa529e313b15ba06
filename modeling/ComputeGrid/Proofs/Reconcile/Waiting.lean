import ComputeGrid.Proofs.Polling.Verdicts
import ComputeGrid.Proofs.Reconcile.Runs

/-!
# Waiting for what was submitted

Settings give their durations in whole milliseconds (`DurationSetting.exists_read`), on which the clock stands, so that
nothing is lost to rounding: a deployer waits no longer than its budget and one timeout, and its result is what the first
poll that decides says, unless the retry of its polls overruns (`Deployer.awaitFeed_ends_or_overruns`).
-/

namespace ComputeGrid.Deployer

open Convergence (Polls FirstDecides Undecided start)

variable {σ ε : Type} {p : Deployer}

/-- What a deployer makes of the outcome of polling. -/
def report (p : Deployer) (node : NodeId) (contract : ContractId) :
    Except (RetryError ConvergenceFailure) Unit → Except DeployError Unit
  | .ok () => .ok ()
  | .error (.permanent (.workload name state message)) => .error (.workloadFailed node contract name state message)
  | .error (.permanent (.stalled ok total)) => .error (.stalled node contract p.settings.poll.stallTimeout ok total)
  | .error (.exhausted _ _) => .error (.deadlineExceeded node contract p.settings.poll.maxElapsed)

section Runs

variable {changes : Exchange σ (Except ε (List Workload))} {node : NodeId} {contract : ContractId}
  {expected : NameMap UInt32} {t t' : Timeline σ}

theorem awaitFeed_run {outcome : Except (RetryError ConvergenceFailure) Unit}
    (h : Convergence.await (.ofSettings p.settings.poll) p.settings.poll.stallTimeout p.settings.fetchTimeout changes expected t =
      .ok (outcome, t')) :
    p.awaitFeed changes node contract expected t = .ok (p.report node contract outcome, t') := by
  rw [awaitFeed, Timed.bind_run h]
  rcases outcome with ((_ | _) | _) | _
  all_goals rfl

theorem awaitFeed_eq_error_iff {fault : Fault} : p.awaitFeed changes node contract expected t = .error fault ↔
    Convergence.await (.ofSettings p.settings.poll) p.settings.poll.stallTimeout p.settings.fetchTimeout changes expected t =
      .error fault := by
  cases hawait : Convergence.await (.ofSettings p.settings.poll) p.settings.poll.stallTimeout p.settings.fetchTimeout
    changes expected t with
  | error fault' => rw [awaitFeed, Timed.bind_run_fault hawait, Except.error.injEq, Except.error.injEq]
  | ok r =>
    rw [awaitFeed_run hawait]
    exact iff_of_false (fun h => by cases h) fun h => by cases h

end Runs

/-- Where the intervals of a deployer last, waiting ends in a fault if and only if the retry of its polls overruns, and then a
poll has taken too long for the next interval or the budget is of 2 ^ 32 - 1 milliseconds or more.  Otherwise the deployer
waits no longer than its budget and one timeout.  It succeeds if all has converged in the snapshot of some poll and no poll
before decided, fails as the first poll that decides says, and gives up where none does. -/
theorem awaitFeed_ends_or_overruns (hregular : (Backoff.ofSettings p.settings.poll).Regular)
    (changes : Exchange σ (Except ε (List Workload))) (node : NodeId) (contract : ContractId) (expected : NameMap UInt32)
    (t : Timeline σ) :
    (∀ fault, p.awaitFeed changes node contract expected t = .error fault ↔
      (Backoff.ofSettings p.settings.poll).Overruns (Convergence.poll changes p.settings.fetchTimeout)
        (start expected p.settings.poll.stallTimeout t.now) t fault) ∧
    (∀ fault, p.awaitFeed changes node contract expected t = .error fault →
      fault = .durationSum ∨ fault = .sum ∧ UInt32.size - 1 ≤ p.settings.poll.maxElapsed.ceilMillis) ∧
    ∀ r t', p.awaitFeed changes node contract expected t = .ok (r, t') → ∃ polls,
      Polls (.ofSettings p.settings.poll) changes p.settings.fetchTimeout t polls t' ∧
      polls.length ≤ p.settings.poll.maxElapsed.ceilMillis + 1 ∧
      (Duration.ofMillis (t'.now - t.now)).nanos ≤ p.settings.poll.maxElapsed.nanos + p.settings.fetchTimeout.nanos ∧
      (r = .ok () ↔ FirstDecides (start expected p.settings.poll.stallTimeout t.now) polls (.ok ())) ∧
      (∀ name state message, r = .error (.workloadFailed node contract name state message) ↔
        FirstDecides (start expected p.settings.poll.stallTimeout t.now) polls (.error (.workload name state message))) ∧
      (∀ ok total, r = .error (.stalled node contract p.settings.poll.stallTimeout ok total) ↔
        FirstDecides (start expected p.settings.poll.stallTimeout t.now) polls (.error (.stalled ok total))) ∧
      (r = .error (.deadlineExceeded node contract p.settings.poll.maxElapsed) ↔
        Undecided (start expected p.settings.poll.stallTimeout t.now) polls) := by
  have hbudget : (Backoff.ofSettings p.settings.poll).maxElapsed.nanos < Duration.limit :=
    DurationSetting.read_lt_limit .maxElapsed _
  have hfault (fault : Fault) : p.awaitFeed changes node contract expected t = .error fault ↔
      (Backoff.ofSettings p.settings.poll).Overruns (Convergence.poll changes p.settings.fetchTimeout)
        (start expected p.settings.poll.stallTimeout t.now) t fault :=
    awaitFeed_eq_error_iff.trans (Convergence.await_eq_error_iff hregular hbudget)
  refine ⟨hfault, fun fault h => ?_, fun r t' hrun => ?_⟩
  · have hsound := (Convergence.takes_poll changes p.settings.fetchTimeout).sound
    exact ((hfault fault).1 h).cases_of_sustains hsound (hregular.sustains hsound _ t)
  cases hawait : Convergence.await (.ofSettings p.settings.poll) p.settings.poll.stallTimeout p.settings.fetchTimeout
    changes expected t with
  | error fault => cases hrun.symm.trans (awaitFeed_eq_error_iff.2 hawait)
  | ok run =>
    obtain ⟨outcome, t'⟩ := run
    cases hrun.symm.trans (awaitFeed_run hawait)
    obtain ⟨polls, hpolls, hlength, hnow, hsettled⟩ := Convergence.settled_of_await hregular hbudget hawait
    have htime : (Duration.ofMillis (t'.now - t.now)).nanos ≤
        p.settings.poll.maxElapsed.nanos + p.settings.fetchTimeout.nanos := by
      refine Nat.le_trans (Duration.nanos_ofMillis_mono (Nat.sub_le_of_le_add (Nat.add_comm _ _ ▸ hnow))) ?_
      rw [Duration.nanos_ofMillis, Nat.add_mul]
      exact Nat.le_of_eq (congrArg₂ _ (congrArg Duration.nanos (DurationSetting.ofMillis_read .maxElapsed _))
        (congrArg Duration.nanos (DurationSetting.ofMillis_read .fetchTimeout _)))
    refine ⟨polls, hpolls, hlength, htime, ?_⟩
    cases hsettled with
    | @decided v first =>
      have hiff (v' : Except ConvergenceFailure Unit) :
          FirstDecides (start expected p.settings.poll.stallTimeout t.now) polls v' ↔ v = v' :=
        ⟨first.unique, fun h => h ▸ first⟩
      rcases v with (⟨name, state, message⟩ | ⟨ok, total⟩) | ⟨⟩
      all_goals simp [hiff, first.not_undecided, report, Except.mapError]
    | exhausted undecided =>
      have hnone (v : Except ConvergenceFailure Unit) :
          ¬ FirstDecides (start expected p.settings.poll.stallTimeout t.now) polls v := fun h => h.not_undecided undecided
      simp [hnone, undecided, report]

/-- The sample deployer, that asks every millisecond for longer than questions can be counted. -/
def insistent : Deployer := { sample with settings.poll := Backoff.ceaseless }

/-- The sample deployer, that is to wait for the longest time after an answer that may take most of an hour. -/
def aloof : Deployer := { sample with settings.poll := Backoff.outsized, settings.fetchTimeoutText := "50m" }

/-- A feed that is never there. -/
def lostFeed : Exchange Unit (Except RpcError (List Workload)) :=
  ⟨fun s => (.answered (.error (.unreachable 1)), s), fun s => (.error (.unreachable 1), s)⟩

/-- A feed that takes 2048 seconds to say that it is not there. -/
def lateFeed : Exchange Unit (Except RpcError (List Workload)) :=
  ⟨fun s => (.pending 2048000, s), fun s => (.error (.unreachable 1), s)⟩

/-- The one deployer never gives up, since it cannot count its questions, and the other one not after its first question, since
it cannot tell when the next would be due. -/
theorem awaitFeed_overruns_of_regular :
    (Backoff.ofSettings insistent.settings.poll).Regular ∧
    insistent.awaitFeed lostFeed 1 1 (single "a" 0) ⟨0, ()⟩ = .error .sum ∧
    (Backoff.ofSettings aloof.settings.poll).Regular ∧
    aloof.awaitFeed lateFeed 1 1 (single "a" 0) ⟨0, ()⟩ = .error .durationSum := by
  have hcount : (Backoff.ofSettings insistent.settings.poll).Overruns
      (Convergence.poll lostFeed insistent.settings.fetchTimeout)
      (start (single "a" 0) insistent.settings.poll.stallTimeout 0) ⟨0, ()⟩ .sum :=
    Backoff.overruns_of_ceaseless (fun _ => rfl) ⟨0, ()⟩
  have hlate : Convergence.poll lateFeed aloof.settings.fetchTimeout
      (start (single "a" 0) aloof.settings.poll.stallTimeout 0) ⟨0, ()⟩ =
        .ok (.undecided (start (single "a" 0) aloof.settings.poll.stallTimeout 0), ⟨2048000, ()⟩) := by
    have hintime : 2048000 ≤ aloof.settings.fetchTimeout.ceilMillis := by decide +kernel
    have hwithin : lateFeed.within aloof.settings.fetchTimeout ⟨0, ()⟩ =
        .ok (some (.error (.unreachable 1)), ⟨2048000, ()⟩) := by
      rw [Exchange.within_run]
      exact if_pos hintime
    rw [Convergence.poll, Timed.bind_run hwithin]
    rfl
  refine ⟨Backoff.regular_ceaseless, ?_, Backoff.regular_outsized, ?_⟩
  · exact ((awaitFeed_ends_or_overruns Backoff.regular_ceaseless lostFeed 1 1 (single "a" 0) ⟨0, ()⟩).1 .sum).2 hcount
  · exact ((awaitFeed_ends_or_overruns Backoff.regular_outsized lateFeed 1 1 (single "a" 0) ⟨0, ()⟩).1 .durationSum).2
      (Backoff.overruns_of_outsized hlate)

end ComputeGrid.Deployer
