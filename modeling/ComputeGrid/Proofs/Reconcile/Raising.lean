import ComputeGrid.Proofs.Feasibility.Acceptance
import ComputeGrid.Proofs.Reconcile.Reserving

/-!
# Addresses that are raised unchecked

Whether a change asks for more public addresses than its contract reserves is checked once, before the pass, and only where
the deployments that run have been fetched and the inventory knows the node (`Grid.Call.allowedFor`).  Otherwise a call can
raise a contract unchecked (`Grid.Call.Raises`), and that is the only way: in whatever history of calls and faults, a node
runs no more than its contract reserves unless one of the calls has raised it (`Grid.History.count_le_or_raises`).
-/

namespace ComputeGrid

namespace Deployer

open Grid (Asked)

variable {p : Deployer} {current : NodeMap ContractId} {desired previous : NodeMap Deployment} {sp : Option UInt64}
  {o : Outcome} {t t' : Timeline Grid}

/-! ### What is checked before a pass -/

theorem checkFeasible_of_precheck (h : p.precheck (some previous) desired t = .ok (.ok (), t')) :
    p.checkFeasible previous desired t = .ok (.ok (), t) := by
  rw [precheck, Timed.bind_eq_ok] at h
  obtain ⟨r, t₁, hcheck, h⟩ := h
  rcases checkFeasible_run p previous desired t with ⟨fault, _, _, _, _, hrun⟩ | ⟨cause, _, hrun⟩ | hrun
  · rw [hrun] at hcheck
    cases hcheck
  · rw [hrun] at hcheck
    cases hcheck
    cases h
  · exact hrun

theorem checkFeasible_of_inventory {i : Inventory} (hvalidates : p.validates = true) (hi : t.state.inventory = some i)
    (h : p.checkFeasible previous desired t = .ok (.ok (), t')) : i.checkFeasible previous desired = .ok (.ok ()) := by
  have hfilter : t.state.inventory.filter (fun _ => p.validates) = some i := by
    rw [hi, Option.filter_some, if_pos hvalidates]
  rw [checkFeasible, Timed.bind_run (Timed.query_run _ t), hfilter] at h
  exact (Timed.lift_eq_ok.mp h).1

/-- What the inventory finds feasible passes, whether it is asked or not. -/
theorem checkFeasible_run_of_inventory {i : Inventory} (hi : t.state.inventory = some i)
    (h : i.checkFeasible previous desired = .ok (.ok ())) : p.checkFeasible previous desired t = .ok (.ok (), t) := by
  rw [checkFeasible, Timed.bind_run (Timed.query_run _ t), hi, Option.filter_some]
  split
  · exact Timed.lift_eq_ok.mpr ⟨h, rfl⟩
  · rfl

/-- A reconciliation does no more than ask for deployments, or what it has fetched has been checked against what is wanted. -/
theorem asked_or_feasible (h : p.reconcile current desired sp t = .ok (o, t')) :
    Asked [.get] (fun n c => current[n]? = some c) t.state t'.state ∨
    ∃ fetched t₁, Grid.fetchFleet current p.settings.fetchTimeout t = .ok (fetched, t₁) ∧
      ∀ old, fetched = .ok old → p.checkFeasible old desired t₁ = .ok (.ok (), t₁) := by
  rw [reconcile, Timed.bind_eq_ok] at h
  obtain ⟨fetched, t₁, hfetch, h⟩ := h
  rw [Timed.bind_eq_ok] at h
  obtain ⟨checked, t₂, hcheck, h⟩ := h
  obtain ⟨rfl, -, -⟩ := precheck_eq_ok hcheck
  rcases checked with e | ⟨⟩
  · rw [Timed.pure_eq_ok] at h
    cases h
    exact .inl (Grid.asked_fetchFleet hfetch)
  · refine .inr ⟨fetched, t₂, hfetch, fun old hold => ?_⟩
    subst hold
    exact checkFeasible_of_precheck hcheck

end Deployer

/-! ### Histories -/

namespace Grid

variable {E : ContractId → Prop} {g₀ : Grid} {t t' : Timeline Grid} {o : Outcome} {n : NodeId} {c : ContractId}

/-- A call of a deployer, and how it finds the grid. -/
structure Call where
  deployer : Deployer
  current : NodeMap ContractId
  desired : NodeMap Deployment
  solutionProvider : Option UInt64
  before : Timeline Grid

namespace Call

variable {call : Call}

/-- What comes of a call. -/
def Runs (call : Call) (o : Outcome) (t' : Timeline Grid) : Prop :=
  call.deployer.reconcile call.current call.desired call.solutionProvider call.before = .ok (o, t')

/-- Nothing is checked on a node: the deployments that run cannot be fetched, or the inventory does not know the node. -/
def Unchecked (call : Call) (n : NodeId) : Prop :=
  (∃ e t, fetchFleet call.current call.deployer.settings.fetchTimeout call.before = .ok (.error e, t)) ∨
  ¬ ∃ i, call.before.state.inventory = some i ∧ i.Knows n

/-- The call wants more public addresses under a contract than it reserves, on a node where nothing is checked. -/
def Raises (call : Call) (c : ContractId) : Prop :=
  ∃ n d k live, call.current[n]? = some c ∧ call.desired[n]? = some d ∧ Held call.before.state n c k live ∧
    k.publicIps.toNat < d.publicIpv4Count ∧ call.Unchecked n

/-- What has been fetched and found feasible is allowed, but for what is raised unchecked. -/
theorem allowedFor {fetched : Except FetchError (NodeMap Deployment)} {t₁ : Timeline Grid}
    (hvalidates : call.deployer.validates = true)
    (hfetch : fetchFleet call.current call.deployer.settings.fetchTimeout call.before = .ok (fetched, t₁))
    (hfeasible : ∀ old, fetched = .ok old → call.deployer.checkFeasible old call.desired t₁ = .ok (.ok (), t₁))
    (hreserved : Reserved E call.before.state) :
    Deployer.AllowedFor (fun c => E c ∨ call.Raises c) call.current call.desired call.before.state := by
  intro n c d hc hd k live hheld
  by_cases hraise : k.publicIps.toNat < d.publicIpv4Count ∧ call.Unchecked n
  · exact .inr (.inr ⟨n, d, k, live, hc, hd, hheld, hraise⟩)
  rw [not_and_or, Nat.not_lt] at hraise
  rcases hraise with hle | hchecked
  · exact .inl hle
  -- the node is known and all has been fetched, so that what is wanted is within what runs
  rw [Unchecked, not_or, not_not] at hchecked
  obtain ⟨hfetched, i, hi, hknows⟩ := hchecked
  rcases fetched with e | old
  · exact absurd ⟨e, t₁, hfetch⟩ hfetched
  obtain ⟨before, hold⟩ := mem_iff_exists_getElem?.mp (fetchFleet_complete hfetch hc)
  obtain ⟨c', live', hc', -, hlive', hsame⟩ := fetchFleet_sound hfetch hold
  obtain rfl : c = c' := Option.some.inj (hc.symm.trans hc')
  obtain rfl : live = live' := Option.some.inj (hheld.deployment.symm.trans hlive')
  have hinventory : t₁.state.inventory = some i := (asked_fetchFleet hfetch).inventory.trans hi
  have hcheck := Deployer.checkFeasible_of_inventory hvalidates hinventory (hfeasible old rfl)
  have hle := Inventory.count_le_of_checkFeasible hcheck hknows hold hd
  rw [← count_congr hsame] at hle
  exact (hreserved.bounded n c k live hheld).imp (Nat.le_trans hle) .inl

/-- A call keeps the bound, but for what it raises unchecked. -/
theorem reserved (hrun : call.Runs o t') (hvalidates : call.deployer.validates = true)
    (hfresh : Ledger.Fresh call.before.state.ledger t'.state.ledger) (hreserved : Reserved E call.before.state) :
    Reserved (fun c => E c ∨ call.Raises c) t'.state := by
  have hweaker : Reserved (fun c => E c ∨ call.Raises c) call.before.state := hreserved.mono fun c => .inl
  rcases Deployer.asked_or_feasible hrun with hasked | ⟨fetched, t₁, hfetch, hfeasible⟩
  · exact hweaker.of_asked hasked
  · exact (Deployer.reconciled_of_reconcile hrun).reserved hfresh (allowedFor hvalidates hfetch hfeasible hreserved) hweaker

end Call

/-- Calls of deployers that check against an inventory, latest first, whose contracts take new numbers.  In between nodes,
inventory and ledger may change in any way, but no node takes anything, and contracts keep to what they reserve. -/
inductive History (g₀ : Grid) : List Call → Timeline Grid → Prop where
  | start (now : Nat) : History g₀ [] ⟨now, g₀⟩
  | called {call : Call} {calls : List Call} {o : Outcome} {t' : Timeline Grid} (before : History g₀ calls call.before)
    (validates : call.deployer.validates = true) (run : call.Runs o t')
    (fresh : Ledger.Fresh call.before.state.ledger t'.state.ledger) : History g₀ (call :: calls) t'
  | disturbed {calls : List Call} {t t' : Timeline Grid} (before : History g₀ calls t) (quiet : Quiet t.state t'.state)
    (keeps : Ledger.Keeps t.state.ledger t'.state.ledger) : History g₀ calls t'

theorem History.reserved {calls : List Call} (h : History g₀ calls t) (hidle : ∀ n c, g₀.deployment? n c = none) :
    Reserved (fun c => ∃ call ∈ calls, call.Raises c) t.state := by
  induction h with
  | start now =>
    constructor
    · intro n c d hd
      rw [hidle n c] at hd
      cases hd
    · intro n c k d hheld
      have hd := hheld.deployment
      rw [hidle n c] at hd
      cases hd
  | called _ hvalidates hrun hfresh ih =>
    refine (Call.reserved hrun hvalidates hfresh ih).mono fun c hc => ?_
    rcases hc with ⟨call, hcall, hraises⟩ | hraises
    · exact ⟨call, List.mem_cons_of_mem _ hcall, hraises⟩
    · exact ⟨_, List.mem_cons_self, hraises⟩
  | disturbed _ hquiet hkeeps ih => exact ih.of_quiet hquiet hkeeps

/-- What a node runs has no more public addresses than its contract reserves, unless a call has raised it unchecked. -/
theorem History.count_le_or_raises {calls : List Call} (h : History g₀ calls t) (hidle : ∀ n c, g₀.deployment? n c = none)
    {k : Contract} {d : Deployment} (hheld : Held t.state n c k d) :
    d.publicIpv4Count ≤ k.publicIps.toNat ∨ ∃ call ∈ calls, call.Raises c :=
  (h.reserved hidle).bounded n c k d hheld

end Grid

/-! ### An outage -/

/-- The sample deployer, which checks against the inventory. -/
def Deployer.validating : Deployer := { sample with validates := true }

/-- A deployment of one public address. -/
def Deployment.addressed : Deployment :=
  { Deployment.new 1 [.new "ip" (.publicIp ⟨true, false⟩)] with
    signatureRequirement.signatures := [⟨1, "", Identity.scheme⟩] }

namespace Deployer

open Grid (Asked At Call Held History Takes observe fetchFleet refusal?_eq_none_iff)

/-- Node 1 runs nothing, there is no contract, and the inventory is offline. -/
def outageGrid : Grid where
  ledger := .new 1
  nodes := single 1 .new
  calls := []
  attached := true
  inventory := some { Inventory.empty with online := false }

/-- What is submitted to node 1 at first, but for the contract. -/
def sealedFirst : Deployment := ({ (Deployment.sample "a").resetVersions with contractId := 0 }).sign 1 validating.identity

/-- What the ledger is asked for at first. -/
def firstRequest : ContractRequest := ⟨1, sealedFirst.challengeHash, sealedFirst.metadata, 0, none⟩

/-- The grid after contract 1 has been made, for no public address. -/
def outageGrid.made : Grid :=
  { outageGrid with
    ledger := { Ledger.new 1 with nextId := 2, contracts := single 1 (firstRequest.contract 1 1), creates := 1 } }

/-- The grid after node 1 has taken its deployment. -/
def outageGrid.taken : Grid :=
  (outageGrid.made.record 1 NodeMethod.deploy.text).stored 1 .new { sealedFirst with contractId := 1 }

/-- The grid after the deployment has converged. -/
def outageGrid.converged : Grid := (observe 1 1 (outageGrid.taken.record 1 NodeMethod.changes.text)).2

/-- What node 1 runs then. -/
def runningFirst : Deployment := Node.provisioned .instant none { sealedFirst with contractId := 1 }

/-- The grid after the deployment has been asked for, before the pass and in it. -/
def outageGrid.asked : Grid :=
  (outageGrid.converged.record 1 NodeMethod.get.text).record 1 NodeMethod.get.text

/-- What is submitted to node 1 in place of the disk. -/
def sealedSecond : Deployment := (Deployment.addressed.revise runningFirst 1 1).sign 1 validating.identity

/-- Contract 1 as it is changed for that: it still reserves no public address. -/
def secondContract : Contract :=
  { firstRequest.contract 1 1 with deploymentHash := sealedSecond.challengeHash, deploymentData := sealedSecond.metadata }

/-- The grid after the contract has been changed. -/
def outageGrid.changed : Grid :=
  { outageGrid.asked with
    ledger := { outageGrid.asked.ledger with
      updates := 1, contracts := outageGrid.asked.ledger.contracts.insert 1 secondContract } }

/-- Node 1 as it is then. -/
def outageGrid.node : Node := outageGrid.changed.nodes.getD (1 : NodeId) .new

/-- The grid after node 1 has taken the change. -/
def outageGrid.retaken : Grid := (outageGrid.changed.record 1 NodeMethod.update.text).stored 1 outageGrid.node sealedSecond

/-- With the inventory offline the deployer makes contract 1, and a disk runs under it. -/
theorem reconcile_outageGrid : validating.reconcile ∅ (single 1 (.sample "a")) none ⟨0, outageGrid⟩ =
    .ok (⟨single 1 1, none⟩, ⟨0, outageGrid.converged⟩) := by
  have hcovers : (outageGrid.made.record 1 NodeMethod.deploy.text).Covers 1 { sealedFirst with contractId := 1 } :=
    fun _ => ⟨firstRequest.contract 1 1, rfl, rfl, rfl⟩
  have htakes : Takes .first 1 { sealedFirst with contractId := 1 } (outageGrid.made.record 1 NodeMethod.deploy.text) .new :=
    ⟨rfl, refusal?_eq_none_iff.mpr ⟨rfl, List.cons_ne_nil _ _, hcovers⟩, rfl⟩
  have hsubmit : validating.submit .first 1 { sealedFirst with contractId := 1 } ⟨0, outageGrid.made⟩ =
      .ok (.ok (), ⟨0, outageGrid.taken⟩) :=
    submit_run_of_takes (t := ⟨0, outageGrid.made⟩) (n := .new) rfl (Nat.zero_le _) htakes
  have hopen : validating.open? 1 (.sample "a") none ⟨0, outageGrid⟩ =
      .ok (.ok { sealedFirst with contractId := 1 }, ⟨0, outageGrid.taken⟩) :=
    open_run (sign_run rfl) rfl rfl hsubmit
  have hawait : validating.await 1 1 sealedFirst.workloadVersions ⟨0, outageGrid.taken⟩ =
      .ok (.ok (), ⟨0, outageGrid.converged⟩) := rfl
  have hstep : (Step.create 1 (.sample "a")).run validating none ∅ ⟨0, outageGrid⟩ =
      .ok (⟨single 1 1, none⟩, ⟨0, outageGrid.converged⟩) := by
    rw [Step.run, Timed.bind_run hopen]
    exact Timed.bind_run hawait
  have hfetch : fetchFleet ∅ validating.settings.fetchTimeout ⟨0, outageGrid⟩ = .ok (.ok ∅, ⟨0, outageGrid⟩) := rfl
  exact reconcile_run_of_pass hfetch rfl (Timed.bind_run hstep)

/-- Then it replaces the disk by a public address. -/
theorem reconcile_converged : ∃ t',
    validating.reconcile (single 1 1) (single 1 .addressed) none ⟨0, outageGrid.converged⟩ =
      .ok (⟨single 1 1, none⟩, t') ∧
    Asked [.changes] (At 1 1) outageGrid.retaken t'.state := by
  have hcovers : (outageGrid.changed.record 1 NodeMethod.update.text).Covers 1 sealedSecond :=
    fun _ => ⟨secondContract, rfl, rfl, rfl⟩
  have htakes : Takes .change 1 sealedSecond (outageGrid.changed.record 1 NodeMethod.update.text) outageGrid.node :=
    ⟨rfl, refusal?_eq_none_iff.mpr ⟨rfl, List.cons_ne_nil _ _, hcovers⟩, rfl⟩
  have hsubmit : validating.submit .change 1 sealedSecond ⟨0, outageGrid.changed⟩ =
      .ok (.ok (), ⟨0, outageGrid.retaken⟩) :=
    submit_run_of_takes (t := ⟨0, outageGrid.changed⟩) (n := outageGrid.node) rfl (Nat.zero_le _) htakes
  obtain ⟨t', hawait⟩ : ∃ t', validating.await 1 1 sealedSecond.workloadVersions ⟨0, outageGrid.retaken⟩ =
      .ok (.ok (), t') := ⟨_, rfl⟩
  have hget : validating.get 1 1 ⟨0, outageGrid.converged.record 1 NodeMethod.get.text⟩ =
      .ok (.ok runningFirst, ⟨0, outageGrid.asked⟩) := rfl
  have hdiffers : runningFirst.isUnchanged .addressed = false := by
    have hnames : runningFirst.sameNames .addressed = false := by decide +kernel
    rw [Deployment.isUnchanged, hnames, Bool.and_false]
  have hnext : Checked.add32 runningFirst.version 1 = .ok 1 := rfl
  have hreplace : validating.replace 1 1 .addressed runningFirst ⟨0, outageGrid.asked⟩ = .ok (.ok (), t') :=
    replace_run hnext (sign_run rfl) rfl hsubmit hawait
  have hupdate := (update_run_of_differs hget hdiffers).trans hreplace
  have hstep : (Step.update 1 1 .addressed).run validating none (single 1 1)
      ⟨0, outageGrid.converged.record 1 NodeMethod.get.text⟩ = .ok (⟨single 1 1, none⟩, t') := Timed.bind_run hupdate
  have hfetch : fetchFleet (single 1 1) validating.settings.fetchTimeout ⟨0, outageGrid.converged⟩ =
      .ok (_, ⟨0, outageGrid.converged.record 1 NodeMethod.get.text⟩) := rfl
  have hcheck : ∀ previous : Option (NodeMap Deployment), validating.precheck previous (single 1 .addressed)
      ⟨0, outageGrid.converged.record 1 NodeMethod.get.text⟩ =
        .ok (.ok (), ⟨0, outageGrid.converged.record 1 NodeMethod.get.text⟩) := by
    rintro (_ | old)
    · rfl
    -- an inventory that is offline knows no node
    have hfeasible : validating.checkFeasible old (single 1 .addressed)
        ⟨0, outageGrid.converged.record 1 NodeMethod.get.text⟩ = .ok (.ok (), _) :=
      checkFeasible_run_of_inventory rfl (Inventory.checkFeasible_of_unknown fun n _ => Inventory.not_knows_of_offline rfl n)
    exact Timed.bind_run hfeasible
  exact ⟨t', reconcile_run_of_pass hfetch (hcheck _) (Timed.bind_run hstep), (awaited_of_await hawait).asked⟩

/-- The first call, for a disk. -/
def firstCall : Call := ⟨validating, ∅, single 1 (.sample "a"), none, ⟨0, outageGrid⟩⟩

/-- The second call, for a public address in its place. -/
def secondCall : Call := ⟨validating, single 1 1, single 1 .addressed, none, ⟨0, outageGrid.converged⟩⟩

/-- In the end node 1 runs a public address under a contract that reserves none. -/
theorem history_outageGrid : ∃ t k d, History outageGrid [secondCall, firstCall] t ∧ Held t.state 1 1 k d ∧
    k.publicIps.toNat < d.publicIpv4Count := by
  obtain ⟨t', hrun, hasked⟩ := reconcile_converged
  have hfirst : History outageGrid [firstCall] ⟨0, outageGrid.converged⟩ :=
    (History.start 0).called rfl reconcile_outageGrid rfl
  have hfresh : Ledger.Fresh outageGrid.converged.ledger t'.state.ledger := by
    rw [hasked.ledger]
    rfl
  have hheld : Held outageGrid.retaken 1 1 secondContract (Node.provisioned .instant (some runningFirst) sealedSecond) :=
    ⟨rfl, rfl, rfl⟩
  obtain ⟨d, hheld', hsame⟩ := hheld.of_asked hasked
  have hsecond : History outageGrid [secondCall, firstCall] t' := hfirst.called rfl hrun hfresh
  refine ⟨t', secondContract, d, hsecond, hheld', ?_⟩
  have hcount : (Node.provisioned .instant (some runningFirst) sealedSecond).publicIpv4Count = 1 := by decide +kernel
  rw [Grid.count_congr hsame, hcount]
  exact Nat.zero_lt_one

theorem idle_outageGrid (n : NodeId) (c : ContractId) : outageGrid.deployment? n c = none := by
  rw [Grid.deployment?]
  rcases hn : outageGrid.nodes[n]? with _ | node
  · rfl
  · obtain ⟨-, rfl⟩ := getElem?_single_eq_some (k := 1) (v := Node.new) hn
    exact Std.ExtTreeMap.getElem?_empty

/-- Without a contract at first, a change can raise a deployment above what its contract reserves. -/
theorem exceeds_of_outage : ∃ t k d, outageGrid.ledger.contracts = ∅ ∧ (∀ n c, outageGrid.deployment? n c = none) ∧
    History outageGrid [secondCall, firstCall] t ∧ Held t.state 1 1 k d ∧ k.publicIps.toNat < d.publicIpv4Count := by
  obtain ⟨t, k, d, hhistory, hheld, hless⟩ := history_outageGrid
  exact ⟨t, k, d, rfl, idle_outageGrid, hhistory, hheld, hless⟩

/-- One of the calls has raised the contract unchecked. -/
theorem raises_of_outage : ∃ t k d, (∀ n c, outageGrid.deployment? n c = none) ∧
    History outageGrid [secondCall, firstCall] t ∧ Held t.state 1 1 k d ∧
    ∃ call ∈ [secondCall, firstCall], call.Raises 1 := by
  obtain ⟨t, k, d, hhistory, hheld, hless⟩ := history_outageGrid
  have hraises := (hhistory.count_le_or_raises idle_outageGrid hheld).resolve_left (Nat.not_le.mpr hless)
  exact ⟨t, k, d, idle_outageGrid, hhistory, hheld, hraises⟩

end Deployer

end ComputeGrid
