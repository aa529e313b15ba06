import ComputeGrid.Proofs.Deployment.Validity
import ComputeGrid.Proofs.Grid.Calls
import ComputeGrid.Proofs.Polling.Convergence
import ComputeGrid.Reconcile.Deployer

/-!
# What a deployer's exchanges come to

The results of a submission, a question, a wait and a withdrawal, each with the state that it leaves and
what the grid must have been like (`Submitted`, `Got`, `Awaited`, `Withdrawn`).  Submissions and questions
always come to an end, and the grid decides to which.

An error tells of failed calls (`DeployError.call?`) and of contracts that are left without a deployment
(`DeployError.dangling`), at whatever depth.
-/

namespace ComputeGrid

/-! ### Errors -/

namespace DeployError

/-- The call that failed, if the error is that. -/
def call? : DeployError → Option (NodeId × ContractId × NodeMethod)
  | rpc node contract method _ | timeout node contract method _ => some (node, contract, method)
  | _ => none

/-- The contracts that could not be canceled although nothing runs under them, at any depth. -/
def dangling : DeployError → List ContractId
  | danglingContract _ contract cause _ => contract :: cause.dangling
  | rejected _ _ cause | revertUnavailable cause => cause.dangling
  | revertFailed cause revert => cause.dangling ++ revert.dangling
  | _ => []

/-- The deployment has not converged. -/
inductive NotConverged (node : NodeId) (contract : ContractId) : DeployError → Prop where
  | workload (name : String) (state : ReportState) (message : String) :
    NotConverged node contract (.workloadFailed node contract name state message)
  | stalled (window : Duration) (ok total : Nat) : NotConverged node contract (.stalled node contract window ok total)
  | deadline (budget : Duration) : NotConverged node contract (.deadlineExceeded node contract budget)

variable {e : DeployError} {node : NodeId} {contract : ContractId}

theorem dangling_of_call? {x : NodeId × ContractId × NodeMethod} (h : e.call? = some x) : e.dangling = [] := by
  cases e
  all_goals first | rfl | cases h

theorem NotConverged.dangling (h : NotConverged node contract e) : e.dangling = [] := by
  cases h <;> rfl

end DeployError

namespace Deployer

open Grid (Asked At Takes Exchanged)

variable {p : Deployer} {node : NodeId} {contract : ContractId} {d : Deployment} {t t' : Timeline Grid}

/-! ### Submissions and questions -/

/-- What comes of a submission. -/
inductive Submitted (p : Deployer) (s : Grid.Submission) (node : NodeId) (d : Deployment) (g : Grid) :
    Except DeployError Unit → Grid → Prop where
  | taken {n : Node} (answers : g.Answers node p.settings.submitTimeout)
    (takes : Takes s node d (g.record node s.method.text) n) :
    Submitted p s node d g (.ok ()) ((g.record node s.method.text).stored node n d)
  | failed {e : DeployError} (call : e.call? = some (node, d.contractId, s.method))
    (not : ¬ (g.Answers node p.settings.submitTimeout ∧ ∃ n, Takes s node d (g.record node s.method.text) n)) :
    Submitted p s node d g (.error e) (g.record node s.method.text)

theorem submit_run (p : Deployer) (s : Grid.Submission) (node : NodeId) (d : Deployment) (t : Timeline Grid) :
    ∃ r t', p.submit s node d t = .ok (r, t') ∧ Submitted p s node d t.state r t'.state := by
  obtain ⟨answer, t₁, hwithin, hex⟩ := Grid.exchange_within node s.method.text p.settings.submitTimeout
    (Grid.submit s node d) t
  change (Grid.submission s node d).within p.settings.submitTimeout t = .ok (answer, t₁) at hwithin
  rw [submit, Timed.bind_run hwithin]
  rcases t₁ with ⟨now₁, g₁⟩
  cases hex with
  | unreachable h => exact ⟨_, _, rfl, .failed rfl fun hn => h hn.1⟩
  | late h => exact ⟨_, _, rfl, .failed rfl fun hn => h hn.1⟩
  | answered h hx =>
    rcases Grid.submit_cases s node d (t.state.record node s.method.text) with ⟨e, he, hnot⟩ | ⟨n, htakes, hok⟩
    · rw [he] at hx
      cases hx
      exact ⟨_, _, rfl, .failed rfl fun hn => hnot hn.2.choose hn.2.choose_spec⟩
    · rw [hok] at hx
      cases hx
      exact ⟨_, _, rfl, .taken h htakes⟩

/-- A node that is up in time takes what it can take. -/
theorem submit_run_of_takes {s : Grid.Submission} {n : Node} (hup : n.down = false)
    (hlatency : n.latency ≤ p.settings.submitTimeout.ceilMillis)
    (htakes : Takes s node d (t.state.record node s.method.text) n) :
    p.submit s node d t =
      .ok (.ok (), ⟨t.now + n.latency, (t.state.record node s.method.text).stored node n d⟩) := by
  have hwithin : (Grid.submission s node d).within p.settings.submitTimeout t = .ok (_, _) :=
    Grid.exchange_run htakes.known hup hlatency
  rw [submit, Timed.bind_run hwithin, Grid.submit_of_takes htakes]
  rfl

theorem submitted_of_submit {s : Grid.Submission} {r : Except DeployError Unit}
    (h : p.submit s node d t = .ok (r, t')) : Submitted p s node d t.state r t'.state := by
  obtain ⟨r', t'', hrun, hsubmitted⟩ := submit_run p s node d t
  rw [h] at hrun
  cases hrun
  exact hsubmitted

/-- What comes of a question for a deployment. -/
inductive Got (p : Deployer) (node : NodeId) (contract : ContractId) (g : Grid) :
    Except DeployError Deployment → Grid → Prop where
  | live {d : Deployment} (answers : g.Answers node p.settings.fetchTimeout) (notOver : g.isOver contract = false)
    (deployment : g.deployment? node contract = some d) :
    Got p node contract g (.ok d) (g.record node NodeMethod.get.text)
  | failed {e : DeployError} {g' : Grid} (call : e.call? = some (node, contract, .get))
    (asked : Asked [.get] (At node contract) g g')
    (not : ¬ (g.Answers node p.settings.fetchTimeout ∧ g.isOver contract = false ∧
      ∃ d, g.deployment? node contract = some d)) :
    Got p node contract g (.error e) g'

theorem get_run (p : Deployer) (node : NodeId) (contract : ContractId) (t : Timeline Grid) :
    ∃ r t', p.get node contract t = .ok (r, t') ∧ Got p node contract t.state r t'.state := by
  obtain ⟨answer, t₁, hwithin, hex⟩ := Grid.exchange_within node NodeMethod.get.text p.settings.fetchTimeout
    (Grid.lookUp node contract) t
  change (Grid.getDeployment node contract).within p.settings.fetchTimeout t = .ok (answer, t₁) at hwithin
  rw [get, Timed.bind_run hwithin]
  have hsent : Asked [.get] (At node contract) t.state (t.state.record node NodeMethod.get.text) :=
    Grid.asked_record (List.mem_singleton.mpr rfl) t.state node contract
  rcases t₁ with ⟨now₁, g₁⟩
  cases hex with
  | unreachable h => exact ⟨_, _, rfl, .failed rfl hsent fun hn => h hn.1⟩
  | late h => exact ⟨_, _, rfl, .failed rfl hsent fun hn => h hn.1⟩
  | @answered _ x _ hx =>
    have hasked := Grid.asked_lookUp [.get] node contract (t.state.record node NodeMethod.get.text)
    rw [hx] at hasked
    rcases x with e | d
    · refine ⟨_, _, rfl, .failed rfl (hsent.trans hasked) ?_⟩
      rintro ⟨_, hover, d, hd⟩
      have hfound := Grid.lookUp_of_deployment (g := t.state.record node NodeMethod.get.text) hover hd
      rw [hfound] at hx
      cases hx
    · obtain ⟨rfl, hover, hd⟩ := Grid.lookUp_eq_ok hx
      exact ⟨_, _, rfl, .live ‹_› hover hd⟩

theorem got_of_get {r : Except DeployError Deployment} (h : p.get node contract t = .ok (r, t')) :
    Got p node contract t.state r t'.state := by
  obtain ⟨r', t'', hrun, hgot⟩ := get_run p node contract t
  rw [h] at hrun
  cases hrun
  exact hgot

theorem Got.asked {r : Except DeployError Deployment} {g g' : Grid} (h : Got p node contract g r g') :
    Asked [.get] (At node contract) g g' := by
  cases h with
  | live => exact Grid.asked_record (List.mem_singleton.mpr rfl) g node contract
  | failed _ hasked _ => exact hasked

/-! ### Waiting -/

/-- What comes of waiting for convergence. -/
inductive Awaited (p : Deployer) (node : NodeId) (contract : ContractId) (expected : NameMap UInt32) (g : Grid) :
    Except DeployError Unit → Grid → Prop where
  | converged {d : Deployment} {g' : Grid} (asked : Asked [.changes] (At node contract) g g')
    (answers : g.Answers node p.settings.fetchTimeout) (notOver : g.isOver contract = false)
    (deployment : g'.deployment? node contract = some d)
    (ok : d.workloads.length = expected.size → ∀ w ∈ d.workloads, w.report.state = .ok) :
    Awaited p node contract expected g (.ok ()) g'
  | failed {e : DeployError} {g' : Grid} (asked : Asked [.changes] (At node contract) g g')
    (error : e.NotConverged node contract) : Awaited p node contract expected g (.error e) g'

theorem Awaited.asked {expected : NameMap UInt32} {r : Except DeployError Unit} {g g' : Grid}
    (h : Awaited p node contract expected g r g') : Asked [.changes] (At node contract) g g' := by
  cases h with
  | converged hasked => exact hasked
  | failed hasked => exact hasked

/-- An exchange for changes is a question. -/
theorem asked_getChanges {timeout : Duration} {answer : Option (Except RpcError (List Workload))}
    (h : (Grid.getChanges node contract).within timeout t = .ok (answer, t')) :
    Asked [.changes] (At node contract) t.state t'.state := by
  have hsent : Asked [.changes] (At node contract) t.state (t.state.record node NodeMethod.changes.text) :=
    Grid.asked_record (List.mem_singleton.mpr rfl) t.state node contract
  rcases t' with ⟨now', g'⟩
  cases Grid.exchanged_of_within h with
  | unreachable => exact hsent
  | late => exact hsent
  | answered _ hx =>
    have hasked := Grid.asked_observe [.changes] node contract (t.state.record node NodeMethod.changes.text)
    rw [hx] at hasked
    exact hsent.trans hasked

theorem awaited_of_await {expected : NameMap UInt32} {r : Except DeployError Unit}
    (h : p.await node contract expected t = .ok (r, t')) :
    Awaited p node contract expected t.state r t'.state := by
  rw [await, awaitFeed, Timed.bind_eq_ok] at h
  obtain ⟨verdict, t₁, hawait, h⟩ := h
  obtain ⟨hasked, hdone⟩ := Convergence.await_spec (Asked.refl [.changes] (At node contract))
    (fun h₁ h₂ => h₁.trans h₂) asked_getChanges hawait
  split at h
  · rw [Timed.pure_eq_ok] at h
    cases h
    -- the last answer showed all workloads ok, and nothing has been asked since
    obtain ⟨c, ws, t₂, rfl, hasked₂, hwithin, hobserve⟩ := hdone rfl
    rcases t' with ⟨now', g'⟩
    cases Grid.exchanged_of_within hwithin with
    | answered hanswers hx =>
      obtain ⟨hover, d, hd, rfl⟩ := Grid.observe_eq_ok hx
      refine .converged hasked (hasked₂.toSteady.symm.answers hanswers) ?_ hd fun hlength => ?_
      · exact (hasked₂.isOver contract).symm.trans hover
      · exact Convergence.all_ok_of_observe_done hobserve hlength
  all_goals
    rw [Timed.pure_eq_ok] at h
    cases h
  · exact .failed hasked (.workload _ _ _)
  · exact .failed hasked (.stalled _ _ _)
  · exact .failed hasked (.deadline _)

/-- A node that has taken a deployment runs it. -/
theorem Submitted.exists_stored {s : Grid.Submission} {g g' : Grid} (h : Submitted p s node d g (.ok ()) g') :
    ∃ stored, g'.deployment? node d.contractId = some stored ∧ stored.unreported = d.unreported := by
  cases h with
  | @taken n _ _ => exact ⟨_, Grid.deployment?_stored_self _ node n d, Node.unreported_provisioned _ _ d⟩

/-- Once a deployment that a node has taken has converged, it is still there, and all of it is ok. -/
theorem Submitted.converged {s : Grid.Submission} {g g₁ g' : Grid} (h : Submitted p s node d g (.ok ()) g₁)
    (hawait : Awaited p node d.contractId d.workloadVersions g₁ (.ok ()) g') :
    ∃ stored, g'.deployment? node d.contractId = some stored ∧ stored.unreported = d.unreported ∧
      ∀ w ∈ stored.workloads, w.report.state = .ok := by
  obtain ⟨before, hbefore, hcontent⟩ := h.exists_stored
  cases hawait with
  | @converged stored _ hasked _ hover hd hok =>
    obtain ⟨stored', hd', hsame⟩ := hasked.exists_deployment hover hbefore
    obtain rfl : stored = stored' := Option.some.inj (hd.symm.trans hd')
    refine ⟨stored, hd, hsame.trans hcontent, hok ?_⟩
    have hvalid : d.validate = .ok () := by
      cases h with
      | taken _ htakes => exact (Grid.refusal?_eq_none_iff.mp htakes.refusal).1
    -- convergence is about names, which are different where the deployment is valid
    have hlength : stored.workloads.length = d.workloads.length := by
      have := congrArg (·.workloads.length) (hsame.trans hcontent)
      simpa only [Deployment.unreported, List.length_map] using this
    rw [hlength, Deployment.size_workloadVersions (Deployment.nodup_names_of_validate hvalid)]

/-! ### Withdrawing -/

/-- What comes of canceling the contract of a submission that failed. -/
inductive Withdrawn (node : NodeId) (contract : ContractId) (failure : DeployError) (g : Grid) :
    DeployError → Grid → Prop where
  | canceled {r : Except LedgerError Unit} {l : Ledger} (cancel : g.ledger.cancel contract = (r, l))
    (gone : ∀ e, r = .error e → e.isNotFound = true) :
    Withdrawn node contract failure g (.rejected node contract failure) { g with ledger := l }
  | dangling {cause : LedgerError} (cancel : g.ledger.cancel contract = (.error cause, g.ledger))
    (kept : cause.isNotFound = false) :
    Withdrawn node contract failure g (.danglingContract node contract failure cause) g

theorem withdrawn_of_withdraw {failure e : DeployError} (h : withdraw node contract failure t = .ok (e, t')) :
    Withdrawn node contract failure t.state e t'.state := by
  rw [withdraw, Timed.bind_run (Grid.cancelContract_run contract t)] at h
  rcases hcancel : t.state.ledger.cancel contract with ⟨_ | ⟨⟩, l⟩
  · rw [hcancel] at h
    dsimp only at h
    rw [Timed.pure_eq_ok] at h
    split at h
    next hgone =>
      cases h
      exact .canceled hcancel fun e he => by cases he; exact hgone
    next hkept =>
      cases h
      rw [Bool.not_eq_true] at hkept
      obtain rfl := Ledger.eq_of_cancel_error hcancel hkept
      exact .dangling hcancel hkept
  · rw [hcancel] at h
    cases h
    exact .canceled hcancel nofun

end Deployer

end ComputeGrid
