import ComputeGrid.Proofs.Deployment.Versions
import ComputeGrid.Proofs.Reconcile.Idempotence

/-!
# What a version stands for

A history of a grid is a run of reconciliations by any deployers, with anything happening in between that makes
no node take a deployment (`Grid.Campaign`).  What a node has taken under a contract is then a succession
whose last deployment the node runs, if any (`Grid.Recorded`).  Nothing but a submission that is taken adds to
it (`Grid.Took`): the first under a contract that was not on the ledger, and then one revision after another.

So a version of a deployment comes once, and that of a workload stands for one content
(`Grid.Campaign.versioned`).
-/

namespace ComputeGrid

open Std (ExtTreeMap)
open Deployment (Successive Follows)

namespace Grid

variable {g g₁ g' : Grid} {node : NodeId} {d : Deployment}

/-- A node has taken a deployment, and nothing else has come of that. -/
structure Took (node : NodeId) (d : Deployment) (g g' : Grid) : Prop where
  records : ∀ c ∈ g.ledger.contracts, c ∈ g'.ledger.contracts
  taken : g'.taken node d.contractId = g.taken node d.contractId ++ [d]
  stored : ∀ d', g'.deployment? node d.contractId = some d' → d'.unreported = d.unreported
  elsewhere : ∀ n c, ¬ At node d.contractId n c → g'.taken n c = g.taken n c ∧ g'.deployment? n c = g.deployment? n c

theorem taken_stored (g : Grid) {n : Node} (hn : g.nodes[node]? = some n) (c : ContractId) :
    (g.stored node n d).taken node c = g.taken node c ++ [d].filter (·.contractId = c) := by
  rw [taken, taken, stored, ExtTreeMap.getElem?_insert_self, hn]
  exact List.filter_append n.taken [d]

theorem took_stored {n : Node} (hn : g.nodes[node]? = some n) : Took node d g (g.stored node n d) where
  records := fun _ hc => hc
  taken := by
    rw [taken_stored g hn]
    simp
  stored := by
    intro d' hd'
    rw [deployment?_stored_self, Option.some.injEq] at hd'
    rw [← hd', Node.unreported_provisioned]
  elsewhere := by
    intro m c hat
    refine ⟨?_, (touches_stored hn rfl).elsewhere m c hat⟩
    by_cases hm : m = node
    · subst hm
      have hc : d.contractId ≠ c := fun h => hat ⟨rfl, h.symm⟩
      rw [taken_stored g hn]
      simp [hc]
    · rw [taken, taken, stored, getElem?_insert_of_ne hm]

/-- What nodes have taken is in order: whatever has been taken was under a contract on the ledger, a node runs the
last that it has taken, and under each contract deployments follow one another. -/
structure Recorded (g : Grid) : Prop where
  known : ∀ n c, g.taken n c ≠ [] → c ∈ g.ledger.contracts
  latest : ∀ n c d, g.deployment? n c = some d → ∃ last, (g.taken n c).getLast? = some last ∧
    last.unreported = d.unreported
  successive : ∀ n c, Successive (g.taken n c)

theorem Recorded.of_quiet (h : Recorded g) (hquiet : Quiet g g') : Recorded g' where
  known := by
    intro n c hc
    rw [hquiet.taken n c] at hc
    exact hquiet.records c (h.known n c hc)
  latest := by
    intro n c d' hd'
    obtain ⟨d, hd, hsame⟩ := hquiet.found n c d' hd'
    obtain ⟨last, hlast, hlive⟩ := h.latest n c d hd
    exact ⟨last, (hquiet.taken n c).symm ▸ hlast, hlive.trans hsame.symm⟩
  successive := fun n c => (hquiet.taken n c).symm ▸ h.successive n c

/-- What is taken in order leaves the record in order. -/
theorem Recorded.of_took (h : Recorded g) (htook : Took node d g g') (hmem : d.contractId ∈ g.ledger.contracts)
    (hnext : Successive (g.taken node d.contractId ++ [d])) : Recorded g' where
  known := by
    intro n c hc
    by_cases hat : At node d.contractId n c
    · rw [hat.2]
      exact htook.records _ hmem
    · rw [(htook.elsewhere n c hat).1] at hc
      exact htook.records c (h.known n c hc)
  latest := by
    intro n c d' hd'
    by_cases hat : At node d.contractId n c
    · obtain ⟨rfl, rfl⟩ := hat
      refine ⟨d, ?_, (htook.stored d' hd').symm⟩
      rw [htook.taken, List.getLast?_append, List.getLast?_singleton, Option.some_or]
    · obtain ⟨htaken, hdeployment⟩ := htook.elsewhere n c hat
      rw [hdeployment] at hd'
      rw [htaken]
      exact h.latest n c d' hd'
  successive := by
    intro n c
    by_cases hat : At node d.contractId n c
    · obtain ⟨rfl, rfl⟩ := hat
      rw [htook.taken]
      exact hnext
    · rw [(htook.elsewhere n c hat).1]
      exact h.successive n c

end Grid

/-! ### What a deployer adds -/

namespace Deployer

open Grid (Quiet Recorded Took)

variable {p : Deployer} {node : NodeId} {contract : ContractId} {desired d : Deployment} {sp : Option UInt64}
  {g g₁ g' : Grid}

/-- A submission that is not taken adds nothing. -/
theorem Submitted.quiet {s : Grid.Submission} {e : DeployError} (h : Submitted p s node d g (.error e) g') :
    Quiet g g' := by
  cases h with
  | failed => exact Grid.quiet_record g node s.method.text

/-- A submission that is taken is of a valid deployment. -/
theorem Submitted.took {s : Grid.Submission} (h : Submitted p s node d g (.ok ()) g') :
    d.validate = .ok () ∧ ∃ g₁, Quiet g g₁ ∧ g₁.ledger = g.ledger ∧ Took node d g₁ g' := by
  cases h with
  | taken _ htakes =>
    exact ⟨(Grid.refusal?_eq_none_iff.mp htakes.refusal).1, _, Grid.quiet_record g node s.method.text, rfl,
      Grid.took_stored htakes.known⟩

theorem Withdrawn.quiet {failure e : DeployError} (h : Withdrawn node contract failure g e g') : Quiet g g' := by
  cases h with
  | canceled hcancel _ => exact .of_ledger (Ledger.touches_cancel hcancel).toGrows
  | dangling => exact .refl g

/-- What is submitted under a new contract is at version zero. -/
theorem version_of_sign_first (h : p.sign node { desired.resetVersions with contractId := 0 } = .ok d) :
    d.version = 0 := by
  obtain ⟨rfl, _⟩ := sign_eq_ok h
  rfl

/-- What is submitted in place of a valid deployment follows it. -/
theorem follows_of_sign_revision {live : Deployment} {version : UInt32}
    (h : p.sign node (desired.revise live contract version) = .ok d) (hvalid : live.validate = .ok ())
    (hnext : Checked.add32 live.version 1 = .ok version) : Follows live d := by
  obtain ⟨rfl, _⟩ := sign_eq_ok h
  have hfollows := Deployment.follows_revise desired contract hvalid (Checked.toNat_of_add32 hnext)
  exact ⟨hfollows.version, hfollows.workloads⟩

theorem Opened.recorded {r : Except DeployError Deployment} (h : Opened p node desired sp g r g')
    (hfresh : Ledger.Fresh g.ledger g'.ledger) (hrecorded : Recorded g) : Recorded g' := by
  cases h with
  | invalid => exact hrecorded
  | refused => exact hrecorded
  | withdrawn _ _ hcreate hsubmit hwithdraw =>
    have hmade : Quiet g _ := .of_ledger (Ledger.touches_create hcreate).toGrows
    exact hrecorded.of_quiet ((hmade.trans hsubmit.quiet).trans hwithdraw.quiet)
  | @opened d _ c l _ hsign _ hcreate hsubmit =>
    have hmade : Quiet g { g with ledger := l } := .of_ledger (Ledger.touches_create hcreate).toGrows
    obtain ⟨hvalid, g₁, hquiet, hledger, htook⟩ := hsubmit.took
    have hnew : c ∉ g.ledger.contracts := by
      rw [hsubmit.ledger] at hfresh
      exact (Ledger.fresh_create_iff hcreate).mp hfresh
    -- nothing has been taken under a contract that was not there
    have hempty : g₁.taken node c = [] := by
      rw [hquiet.taken, hmade.taken]
      exact Classical.byContradiction fun h => hnew (hrecorded.known node c h)
    have hmem : c ∈ g₁.ledger.contracts := by
      rw [hledger]
      exact Ledger.IsActive.mem ⟨_, Ledger.active?_create hcreate⟩
    have hversion : d.version = 0 := version_of_sign_first hsign
    refine (hrecorded.of_quiet (hmade.trans hquiet)).of_took htook hmem ?_
    show Successive (g₁.taken node c ++ _)
    rw [hempty]
    exact Deployment.successive_singleton hvalid hversion

theorem Updated.recorded {r : Except DeployError Unit} (h : Updated p node contract desired g r g')
    (hrecorded : Recorded g) : Recorded g' := by
  cases h with
  | unread hget => exact hrecorded.of_quiet hget.asked.toQuiet
  | unchanged hget => exact hrecorded.of_quiet hget.asked.toQuiet
  | invalid hget => exact hrecorded.of_quiet hget.asked.toQuiet
  | refused hget => exact hrecorded.of_quiet hget.asked.toQuiet
  | failed hget _ _ _ hupdate hsubmit =>
    have hchanged := Quiet.of_ledger (Ledger.touches_update hupdate).toGrows
    exact hrecorded.of_quiet ((hget.asked.toQuiet.trans hchanged).trans hsubmit.quiet)
  | @revised live d _ l _ g₁ g₂ _ hget _ hnext hsign hupdate hsubmit hawait =>
    have hchanged := Quiet.of_ledger (Ledger.touches_update hupdate).toGrows
    obtain ⟨hvalid, g₃, hquiet, _, htook⟩ := hsubmit.took
    have hquiet₃ : Quiet g g₃ := (hget.asked.toQuiet.trans hchanged).trans hquiet
    obtain rfl := contractId_of_sign_revision hsign
    -- what is revised is the last deployment that the node has taken
    have hlive : g.deployment? node d.contractId = some live := by
      cases hget with
      | live _ _ hlive => exact hlive
    obtain ⟨last, hlast, hsame⟩ := hrecorded.latest node d.contractId live hlive
    have hnonempty : g.taken node d.contractId ≠ [] := fun h => by rw [h] at hlast; cases hlast
    have hrecorded₃ := hrecorded.of_quiet hquiet₃
    have hnext : Successive (g₃.taken node d.contractId ++ [d]) := by
      rw [hquiet₃.taken]
      have hbefore := hrecorded.successive node d.contractId
      have hlastValid := hbefore.valid last (Deployment.Successive.mem_last hlast)
      rw [← Deployment.revise_congr hsame] at hsign
      rw [← Deployment.version_congr hsame] at hnext
      exact hbefore.snoc hlast (follows_of_sign_revision hsign hlastValid hnext) hvalid
    have hmem := hquiet₃.records _ (hrecorded.known node d.contractId hnonempty)
    exact (hrecorded₃.of_took htook hmem hnext).of_quiet hawait.asked.toQuiet

end Deployer

namespace Step

open Grid (Quiet Recorded)

variable {p : Deployer} {sp : Option UInt64} {steps : List Step} {applied : NodeMap ContractId} {s : Step} {o : Outcome}
  {g g' : Grid}

theorem Effect.recorded (h : Effect p sp applied g s o g') (hfresh : Ledger.Fresh g.ledger g'.ledger)
    (hrecorded : Recorded g) : Recorded g' := by
  cases h with
  | removed hcancel => exact hrecorded.of_quiet (.of_ledger (Ledger.touches_cancel hcancel).toGrows)
  | kept => exact hrecorded
  | notOpened hopen => exact hopen.recorded hfresh hrecorded
  | opened hopen hawait =>
    rw [hawait.asked.ledger] at hfresh
    exact (hopen.recorded hfresh hrecorded).of_quiet hawait.asked.toQuiet
  | updated hupdate => exact hupdate.recorded hrecorded

theorem Trace.recorded (h : Trace p sp steps applied g o g') (hfresh : Ledger.Fresh g.ledger g'.ledger)
    (hrecorded : Recorded g) : Recorded g' := by
  induction h with
  | done => exact hrecorded
  | stopped heffect => exact heffect.recorded hfresh hrecorded
  | next heffect htrace ih =>
    have hfirst := heffect.recorded (hfresh.left heffect.grows htrace.grows) hrecorded
    exact ih (hfresh.right heffect.grows htrace.grows) hfirst

end Step

namespace Deployer

open Grid (Recorded)

variable {p : Deployer} {current : NodeMap ContractId} {desired : NodeMap Deployment} {sp : Option UInt64}
  {o : Outcome} {g g' : Grid}

theorem Attempted.recorded (h : Attempted p current desired sp g o g') (hfresh : Ledger.Fresh g.ledger g'.ledger)
    (hrecorded : Recorded g) : Recorded g' := by
  obtain ⟨g₁, hasked, htrace⟩ := h.exists_trace
  rw [← hasked.ledger] at hfresh
  exact htrace.recorded hfresh (hrecorded.of_quiet hasked.toQuiet)

/-- Whatever comes of a reconciliation, the record of what nodes have taken stays in order. -/
theorem Reconciled.recorded (h : Reconciled p current desired sp g o g') (hfresh : Ledger.Fresh g.ledger g'.ledger)
    (hrecorded : Recorded g) : Recorded g' := by
  cases h with
  | refused hasked => exact hrecorded.of_quiet hasked.toQuiet
  | passed hattempt => exact hattempt.recorded hfresh hrecorded
  | unrevertable hattempt => exact hattempt.recorded hfresh hrecorded
  | reverted _ hattempt hback =>
    have hthere := hattempt.recorded (hfresh.left hattempt.grows hback.grows) hrecorded
    exact hback.recorded (hfresh.right hattempt.grows hback.grows) hthere
  | revertFailed _ hattempt hback =>
    have hthere := hattempt.recorded (hfresh.left hattempt.grows hback.grows) hrecorded
    exact hback.recorded (hfresh.right hattempt.grows hback.grows) hthere

end Deployer

/-! ### Histories -/

namespace Grid

variable {g₀ : Grid} {t : Timeline Grid}

/-- Nodes run nothing, and none has taken anything. -/
structure Bare (g : Grid) : Prop where
  deployments : ∀ n c, g.deployment? n c = none
  taken : ∀ n c, g.taken n c = []

theorem Bare.recorded (h : Bare g₀) : Recorded g₀ where
  known := fun n c hc => absurd (h.taken n c) hc
  latest := by
    intro n c d hd
    rw [h.deployments n c] at hd
    cases hd
  successive := by
    intro n c
    rw [h.taken n c]
    exact Deployment.successive_nil

/-- Reconciliations one after another by any deployers, whose contracts take new numbers.  In between nodes and
the ledger may change in any way, but no node takes anything. -/
inductive Campaign (g₀ : Grid) : Timeline Grid → Prop where
  | start (now : Nat) : Campaign g₀ ⟨now, g₀⟩
  | reconciled {p : Deployer} {current : NodeMap ContractId} {desired : NodeMap Deployment} {sp : Option UInt64}
    {o : Outcome} {t t' : Timeline Grid} (before : Campaign g₀ t)
    (run : p.reconcile current desired sp t = .ok (o, t')) (fresh : Ledger.Fresh t.state.ledger t'.state.ledger) :
    Campaign g₀ t'
  | disturbed {t t' : Timeline Grid} (before : Campaign g₀ t) (quiet : Quiet t.state t'.state) : Campaign g₀ t'

theorem Campaign.recorded (h : Campaign g₀ t) (hbare : Bare g₀) : Recorded t.state := by
  induction h with
  | start now => exact hbare.recorded
  | reconciled _ hrun hfresh ih => exact (Deployer.reconciled_of_reconcile hrun).recorded hfresh ih
  | disturbed _ hquiet ih => exact ih.of_quiet hquiet

/-- Deployments, first to last, of which each version is that of one, and each version of a workload that of one
content. -/
structure Versioned (ds : List Deployment) : Prop where
  /-- Versions count up from zero. -/
  versions : ds.map (·.version.toNat) = List.range ds.length
  bounded : ∀ d ∈ ds, ∀ w ∈ d.workloads, w.version ≤ d.version
  /-- The version of a name never goes down. -/
  monotone : ds.Pairwise fun d d' => ∀ w ∈ d.workloads, ∀ w' ∈ d'.workloads, w.name = w'.name → w.version ≤ w'.version
  /-- A name at a version stands for one content. -/
  content : ∀ d ∈ ds, ∀ d' ∈ ds, ∀ w ∈ d.workloads, ∀ w' ∈ d'.workloads, w.name = w'.name → w.version = w'.version →
    w.payload = w'.payload ∧ w.metadata = w'.metadata ∧ w.description = w'.description

/-- What a node has taken under a contract, in whatever history from a bare grid, is versioned, if no contents of
one name collide. -/
theorem Campaign.versioned (h : Campaign g₀ t) (hbare : Bare g₀) (n : NodeId) (c : ContractId)
    (hcollide : ∀ d ∈ t.state.taken n c, ∀ d' ∈ t.state.taken n c, ∀ w ∈ d.workloads, ∀ w' ∈ d'.workloads,
      w.name = w'.name → ¬ Sha2.Collide w.contentBytes w'.contentBytes) : Versioned (t.state.taken n c) := by
  have hsuccessive := (h.recorded hbare).successive n c
  exact {
    versions := hsuccessive.versions
    bounded := fun d hd => Deployment.version_le_of_validate (hsuccessive.valid d hd)
    monotone := hsuccessive.monotone
    content := by
      intro d hd d' hd' w hw w' hw' hname hversion
      have hhash := hsuccessive.hashes d hd d' hd' w hw w' hw' hname hversion
      have hchosen := Workload.chosen_eq_of_contentHash hhash (hcollide d hd d' hd' w hw w' hw' hname)
      have hpayload : w.payload = w'.payload := (congrArg Workload.payload hchosen :)
      have hmetadata : w.metadata = w'.metadata := (congrArg Workload.metadata hchosen :)
      exact ⟨hpayload, hmetadata, (congrArg Workload.description hchosen :)⟩ }

/-! ### A small history -/

open Deployer (sample idleGrid)

/-- The sample deployer takes a disk away and adds another one, in a pass from where the first is run. -/
theorem pass_run_of_replace {live : Deployment} {t t₁ t₂ : Timeline Grid}
    (hget : sample.get 1 1 t = .ok (.ok live, t₁)) (hdiffers : live.sameNames (.sample "b") = false)
    (hreplace : sample.replace 1 1 (.sample "b") live t₁ = .ok (.ok (), t₂)) :
    sample.pass (single 1 1) (single 1 (.sample "b")) none t = .ok (⟨single 1 1, none⟩, t₂) := by
  have hunequal : live.isUnchanged (.sample "b") = false := by
    rw [Deployment.isUnchanged, hdiffers, Bool.and_false]
  have hupdate := (Deployer.update_run_of_differs hget hunequal).trans hreplace
  have hstep : (Step.update 1 1 (.sample "b")).run sample none (single 1 1) t = .ok (⟨single 1 1, none⟩, t₂) :=
    Timed.bind_run hupdate
  show Step.runAll sample none (single 1 1) [.update 1 1 (.sample "b")] t = _
  rw [Step.runAll, Timed.bind_run hstep]
  rfl

/-- The same in a reconciliation, with a ledger that is online and an account that can afford it. -/
theorem reconcile_run_of_replace {fetched : Except FetchError (NodeMap Deployment)} {live : Deployment}
    {t t₁ t₂ t₃ : Timeline Grid} (hfetch : fetchFleet (single 1 1) sample.settings.fetchTimeout t = .ok (fetched, t₁))
    (haffords : sample.Affords (single 1 (.sample "b")) t₁.state.ledger)
    (hget : sample.get 1 1 t₁ = .ok (.ok live, t₂)) (hdiffers : live.sameNames (.sample "b") = false)
    (hreplace : sample.replace 1 1 (.sample "b") live t₂ = .ok (.ok (), t₃)) :
    sample.reconcile (single 1 1) (single 1 (.sample "b")) none t = .ok (⟨single 1 1, none⟩, t₃) := by
  have hcheck : sample.precheck fetched.toOption (single 1 (.sample "b")) t₁ = .ok (.ok (), t₁) := by
    rcases Deployer.precheck_run sample fetched.toOption (single 1 (.sample "b")) t₁ with
      ⟨_, _, _, hvalidates, _⟩ | ⟨_, hvalidates, _⟩ | hrun
    · cases hvalidates
    · cases hvalidates
    · rcases Deployer.checkBalance_run sample (single 1 (.sample "b")) t₁ with ⟨_, hbalance⟩ | ⟨hnot, _⟩
      · exact hrun.trans hbalance
      · exact absurd haffords hnot
  exact Deployer.reconcile_run_of_pass hfetch hcheck (pass_run_of_replace hget hdiffers hreplace)

/-- The ledger is online, and the balance suffices for the sample deployer. -/
def affordsSample (l : Ledger) : Bool := Checked.passes l.getBalance fun b => decide (sample.settings.minBalance ≤ b)

/-- The sample deployer replaces what node 1 runs, to a result that passes a test. -/
def replacesSample (t : Timeline Grid) (test : Timeline Grid → Bool) : Bool :=
  Checked.passes (sample.get 1 1 t) fun r =>
    match r.1 with
    | .ok live =>
      !live.sameNames (.sample "b") && Checked.passes (sample.replace 1 1 (.sample "b") live r.2) fun r' =>
        r'.1.toOption.isSome && test r'.2
    | .error _ => false

theorem exists_of_replacesSample {t : Timeline Grid} {test : Timeline Grid → Bool} (h : replacesSample t test = true) :
    ∃ live t₁ t₂, sample.get 1 1 t = .ok (.ok live, t₁) ∧ live.sameNames (.sample "b") = false ∧
      sample.replace 1 1 (.sample "b") live t₁ = .ok (.ok (), t₂) ∧ test t₂ = true := by
  obtain ⟨⟨_ | live, t₁⟩, hget, h⟩ := Checked.exists_of_passes h
  · cases h
  simp only [Bool.and_eq_true, Bool.not_eq_true'] at h
  obtain ⟨hdiffers, h⟩ := h
  obtain ⟨⟨_ | ⟨⟩, t₂⟩, hreplace, htest⟩ := Checked.exists_of_passes h
  · cases htest
  · exact ⟨live, t₁, t₂, hget, hdiffers, hreplace, htest⟩

/-- What has been chosen for the workloads that node 1 has taken under contract 1, with the versions. -/
def sampleHistory (g : Grid) : List (UInt32 × List (UInt32 × Workload)) :=
  (g.taken 1 1).map fun d => (d.version, d.workloads.map fun w => (w.version, w.chosen))

/-- A disk in place of another on node 1. -/
def replacedDisk : List (UInt32 × List (UInt32 × Workload)) :=
  [(0, [(0, .new "a" (.disk ⟨1024⟩))]), (1, [(1, .new "b" (.disk ⟨1024⟩))])]

theorem campaign_idleGrid : ∃ t, Campaign idleGrid t ∧ sampleHistory t.state = replacedDisk := by
  have hpasses : Checked.passes (sample.reconcile ∅ (single 1 (.sample "a")) none ⟨0, idleGrid⟩) (fun r =>
      decide (Ledger.Fresh idleGrid.ledger r.2.state.ledger) &&
      Checked.passes (fetchFleet (single 1 1) sample.settings.fetchTimeout r.2) fun r₁ =>
        affordsSample r₁.2.state.ledger && replacesSample r₁.2 fun t =>
          decide (Ledger.Fresh r.2.state.ledger t.state.ledger) && sampleHistory t.state == replacedDisk) = true := by
    decide +kernel
  obtain ⟨⟨o, t₁⟩, hfirst, htest⟩ := Checked.exists_of_passes hpasses
  simp only [Bool.and_eq_true, decide_eq_true_eq] at htest
  obtain ⟨hfresh, htest⟩ := htest
  obtain ⟨⟨fetched, t₂⟩, hfetch, htest⟩ := Checked.exists_of_passes htest
  rw [Bool.and_eq_true] at htest
  obtain ⟨haffords, htest⟩ := htest
  obtain ⟨b, hbalance, hsuffices⟩ := Checked.exists_of_passes haffords
  obtain ⟨live, t₃, t, hget, hdiffers, hreplace, htest⟩ := exists_of_replacesSample htest
  simp only [Bool.and_eq_true, decide_eq_true_eq, beq_iff_eq] at htest
  obtain ⟨hfresh₂, hhistory⟩ := htest
  have hsecond := reconcile_run_of_replace hfetch (.inr ⟨b, hbalance, of_decide_eq_true hsuffices⟩) hget hdiffers hreplace
  exact ⟨t, ((Campaign.start 0).reconciled hfirst hfresh).reconciled hsecond hfresh₂, hhistory⟩

theorem bare_idleGrid : Bare idleGrid := by
  have hnodes (n : NodeId) (node : Node) (hn : idleGrid.nodes[n]? = some node) : node = .new :=
    (getElem?_single_eq_some hn).2
  constructor
  · intro n c
    rw [deployment?]
    rcases hn : idleGrid.nodes[n]? with _ | node
    · rfl
    · rw [hnodes n node hn]
      exact ExtTreeMap.getElem?_empty
  · intro n c
    rw [taken]
    rcases hn : idleGrid.nodes[n]? with _ | node
    · rfl
    · rw [hnodes n node hn]
      rfl

theorem versioned_of_replacedDisk : ∃ t, Campaign idleGrid t ∧ sampleHistory t.state = replacedDisk ∧
    Versioned (t.state.taken 1 1) := by
  obtain ⟨t, hcampaign, hhistory⟩ := campaign_idleGrid
  refine ⟨t, hcampaign, hhistory, hcampaign.versioned bare_idleGrid 1 1 ?_⟩
  -- the two disks have different names, so that no contents of one name differ
  have hchosen : ∀ d ∈ t.state.taken 1 1, ∀ w ∈ d.workloads,
      w.chosen = .new "a" (.disk ⟨1024⟩) ∨ w.chosen = .new "b" (.disk ⟨1024⟩) := by
    intro d hd w hw
    have hmem : (d.version, d.workloads.map fun w => (w.version, w.chosen)) ∈ replacedDisk := by
      rw [← hhistory]
      exact List.mem_map_of_mem hd
    have hmem' : (w.version, w.chosen) ∈ d.workloads.map fun w => (w.version, w.chosen) := List.mem_map_of_mem hw
    simp only [replacedDisk, List.mem_cons, Prod.mk.injEq, List.not_mem_nil, or_false] at hmem
    rcases hmem with ⟨_, hws⟩ | ⟨_, hws⟩
    · rw [hws, List.mem_singleton, Prod.mk.injEq] at hmem'
      exact .inl hmem'.2
    · rw [hws, List.mem_singleton, Prod.mk.injEq] at hmem'
      exact .inr hmem'.2
  rintro d hd d' hd' w hw w' hw' hname ⟨hdiffers, _⟩
  have hsame : w.chosen = w'.chosen := by
    have hname' : w.chosen.name = w'.chosen.name := hname
    rcases hchosen d hd w hw with h | h
    · rcases hchosen d' hd' w' hw' with h' | h'
      · rw [h, h']
      · rw [h, h'] at hname'
        exact absurd hname' (by decide)
    · rcases hchosen d' hd' w' hw' with h' | h'
      · rw [h, h'] at hname'
        exact absurd hname' (by decide)
      · rw [h, h']
  exact hdiffers (Workload.contentBytes_congr hsame)

end Grid

end ComputeGrid
