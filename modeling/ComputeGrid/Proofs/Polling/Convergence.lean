import ComputeGrid.Polling.Wait
import ComputeGrid.Proofs.Polling.Retry

/-!
# What convergence means

A snapshot with as many workloads as are expected decides for convergence only when every one of them is
ok (`all_ok_of_observe_done`).  Waiting for convergence asks questions and nothing else, and when it
succeeds the last answer was such a snapshot (`await_spec`).
-/

namespace ComputeGrid.Convergence

variable {c c' : Convergence} {now : Nat} {ws : List Workload}

theorem observe_eq_done (h : c.observe now ws = .done ()) :
    c.failure? ws = none ∧ (c.okNames ws).size = c.total := by
  unfold observe at h
  split at h
  · cases h
  next hfailure =>
    dsimp only at h
    split at h
    next hsize => exact ⟨hfailure, hsize⟩
    next =>
      split at h
      · cases h
      · split at h
        · cases h
        · cases h

/-- What is expected does not change from one snapshot to the next. -/
theorem expected_of_observe_undecided (h : c.observe now ws = .undecided c') : c'.expected = c.expected := by
  unfold observe at h
  split at h
  · cases h
  · dsimp only at h
    split at h
    · cases h
    · split at h
      · cases h
        rfl
      · split at h
        · cases h
        · cases h
          rfl

/-- A snapshot of as many workloads as are expected shows convergence only if all are ok. -/
theorem all_ok_of_observe_done (h : c.observe now ws = .done ()) (hlength : ws.length = c.total) :
    ∀ w ∈ ws, w.report.state = .ok := by
  obtain ⟨_, hsize⟩ := observe_eq_done h
  have hle : (c.okNames ws).size ≤ (ws.filter fun w => c.isExpected w && w.report.state == .ok).length := by
    have hle : (c.okNames ws).size ≤
        ((ws.filter fun w => c.isExpected w && w.report.state == .ok).map (·.name)).length :=
      Std.ExtTreeSet.size_ofList_le
    rw [List.length_map] at hle
    exact hle
  -- so the filter leaves nothing out
  have hge : ws.length ≤ (ws.filter fun w => c.isExpected w && w.report.state == .ok).length := by omega
  have hall := List.length_filter_eq_length_iff.mp (Nat.le_antisymm (List.length_filter_le _ ws) hge)
  intro w hw
  have hok := hall w hw
  rw [Bool.and_eq_true, beq_iff_eq] at hok
  exact hok.2

variable {σ ε : Type} {R : σ → σ → Prop} {changes : Exchange σ (Except ε (List Workload))}
  {b : Backoff} {stallTimeout timeout : Duration} {expected : NameMap UInt32} {t t' : Timeline σ}

/-- One question leads to the state that the exchange leads to, and to the judgment of its answer. -/
theorem poll_eq_ok {r : Attempt Convergence ConvergenceFailure Unit}
    (h : poll changes timeout c t = .ok (r, t')) :
    ∃ answer, changes.within timeout t = .ok (answer, t') ∧
      ((∃ ws, answer = some (.ok ws) ∧ r = c.observe t'.now ws) ∨
        (∀ ws, answer ≠ some (.ok ws)) ∧ r = .undecided c) := by
  rw [poll, Timed.bind_eq_ok] at h
  obtain ⟨answer, t₁, hwithin, h⟩ := h
  split at h
  next ws =>
    rw [Timed.bind_run (Timed.now_run t₁), Timed.pure_eq_ok] at h
    cases h
    exact ⟨_, hwithin, .inl ⟨ws, rfl, rfl⟩⟩
  next hopen =>
    rw [Timed.pure_eq_ok] at h
    cases h
    exact ⟨_, hwithin, .inr ⟨hopen, rfl⟩⟩

/-- Waiting relates states as its questions do, and ends well only with an answer that shows it. -/
theorem await_spec (hrefl : ∀ s, R s s) (htrans : ∀ {s s₁ s₂}, R s s₁ → R s₁ s₂ → R s s₂)
    (hchanges : ∀ {t t' answer}, changes.within timeout t = .ok (answer, t') → R t.state t'.state)
    {r : Except (RetryError ConvergenceFailure) Unit}
    (h : await b stallTimeout timeout changes expected t = .ok (r, t')) :
    R t.state t'.state ∧
    (r = .ok () → ∃ (c : Convergence) (ws : List Workload) (t₁ : Timeline σ), c.expected = expected ∧ R t.state t₁.state ∧
      changes.within timeout t₁ = .ok (some (.ok ws), t') ∧ c.observe t'.now ws = .done ()) := by
  have hattempt : Backoff.Respects (poll changes timeout) R (fun c => c.expected = expected) := by
    refine ⟨fun _ hpoll => ?_, fun hc hpoll => ?_⟩
    · obtain ⟨answer, hwithin, _⟩ := poll_eq_ok hpoll
      exact hchanges hwithin
    · obtain ⟨answer, _, ⟨ws, _, hobserve⟩ | ⟨_, hsame⟩⟩ := poll_eq_ok hpoll
      · exact (expected_of_observe_undecided hobserve.symm).trans hc
      · cases hsame
        exact hc
  rw [await, Timed.bind_run (Timed.now_run t)] at h
  obtain ⟨hR, hdone⟩ := Backoff.retry_spec hrefl htrans hattempt rfl h
  refine ⟨hR, fun hr => ?_⟩
  obtain ⟨c, t₁, hc, hR₁, hpoll⟩ := hdone () hr
  obtain ⟨answer, hwithin, ⟨ws, hws, hobserve⟩ | ⟨_, hsame⟩⟩ := poll_eq_ok hpoll
  · exact ⟨c, ws, t₁, hc, hR₁, hws ▸ hwithin, hobserve.symm⟩
  · cases hsame

end ComputeGrid.Convergence
