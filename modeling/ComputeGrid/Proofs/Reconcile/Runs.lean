import ComputeGrid.Proofs.Grid.Fetch
import ComputeGrid.Proofs.Reconcile.Traces
import ComputeGrid.Reconcile.Basic

/-!
# What a reconciliation comes to

`Deployer.Reconciled` lists the ends of a reconciliation: it is refused before the pass, it makes one pass,
or it makes a second one back (`Deployer.reconciled_of_reconcile`).  In each the deployments were asked for
first, and each pass leaves a trace.
-/

namespace ComputeGrid

/-- What must hold before a pass does not. -/
inductive DeployError.Unmet : DeployError → Prop where
  | feasibility (cause : FeasibilityError) : Unmet (.feasibility cause)
  | balance (cause : LedgerError) : Unmet (.balance cause)
  | insufficient (available required : UInt64) : Unmet (.insufficientBalance available required)

namespace Deployer

open Grid (Asked)

variable {p : Deployer} {current : NodeMap ContractId} {desired : NodeMap Deployment} {sp : Option UInt64}
  {o : Outcome} {t t' : Timeline Grid} {g g' : Grid}

/-! ### Checks -/

/-- The balance suffices for deployments. -/
def Affords (p : Deployer) (desired : NodeMap Deployment) (l : Ledger) : Prop :=
  desired.isEmpty = true ∨ ∃ b, l.getBalance = .ok b ∧ p.settings.minBalance ≤ b

theorem checkBalance_run (p : Deployer) (desired : NodeMap Deployment) (t : Timeline Grid) :
    (p.Affords desired t.state.ledger ∧ p.checkBalance desired t = .ok (.ok (), t)) ∨
    ¬ p.Affords desired t.state.ledger ∧ ∃ e, e.Unmet ∧ p.checkBalance desired t = .ok (.error e, t) := by
  unfold checkBalance Affords
  by_cases hempty : desired.isEmpty = true
  · rw [if_pos hempty]
    exact .inl ⟨.inl hempty, rfl⟩
  rw [if_neg hempty, Timed.bind_run (Timed.query_run _ t)]
  rcases hbalance : t.state.ledger.getBalance with cause | b
  · refine .inr ⟨?_, _, .balance cause, rfl⟩
    rintro (h | ⟨b, hb, _⟩)
    · exact hempty h
    · cases hb
  dsimp only
  by_cases hless : b < p.settings.minBalance
  · rw [if_pos hless]
    refine .inr ⟨?_, _, .insufficient b p.settings.minBalance, rfl⟩
    rintro (h | ⟨b', hb, hle⟩)
    · exact hempty h
    · cases hb
      exact UInt64.not_le.mpr hless hle
  · rw [if_neg hless]
    exact .inl ⟨.inr ⟨b, rfl, UInt64.not_lt.mp hless⟩, rfl⟩

/-- The feasibility check ends in a fault, finds an error or finds none; without validation it finds none. -/
theorem checkFeasible_run (p : Deployer) (old new : NodeMap Deployment) (t : Timeline Grid) :
    (∃ fault inventory, p.validates = true ∧ t.state.inventory = some inventory ∧
      inventory.checkFeasible old new = .error fault ∧ p.checkFeasible old new t = .error fault) ∨
    (∃ cause, p.validates = true ∧ p.checkFeasible old new t = .ok (.error cause, t)) ∨
    p.checkFeasible old new t = .ok (.ok (), t) := by
  rw [checkFeasible, Timed.bind_run (Timed.query_run _ t)]
  rcases hinventory : t.state.inventory.filter fun _ => p.validates with _ | inventory
  · exact .inr (.inr rfl)
  obtain ⟨hinventory, hvalidates⟩ := Option.filter_eq_some_iff.mp hinventory
  rcases hcheck : inventory.checkFeasible old new with fault | cause | ⟨⟩
  · refine .inl ⟨fault, inventory, hvalidates, hinventory, hcheck, ?_⟩
    -- a fault is no result to go on with, so that `Timed.bind_run` does not apply
    show ((inventory.checkFeasible old new : Checked _) >>= fun x => .ok (x, t)) = _
    rw [hcheck]
    rfl
  · exact .inr (.inl ⟨cause, hvalidates, Timed.lift_eq_ok.mpr ⟨hcheck, rfl⟩⟩)
  · exact .inr (.inr (Timed.lift_eq_ok.mpr ⟨hcheck, rfl⟩))

/-- The checks before a pass end with that of feasibility, or go on to that of the balance. -/
theorem precheck_run (p : Deployer) (previous : Option (NodeMap Deployment)) (desired : NodeMap Deployment)
    (t : Timeline Grid) :
    (∃ fault inventory old, p.validates = true ∧ t.state.inventory = some inventory ∧
      inventory.checkFeasible old desired = .error fault ∧ p.precheck previous desired t = .error fault) ∨
    (∃ cause, p.validates = true ∧ p.precheck previous desired t = .ok (.error (.feasibility cause), t)) ∨
    p.precheck previous desired t = p.checkBalance desired t := by
  rcases previous with _ | old
  · exact .inr (.inr rfl)
  unfold precheck
  rcases checkFeasible_run p old desired t with ⟨fault, inventory, hvalidates, hinventory, hcheck, hrun⟩ |
    ⟨cause, hvalidates, hrun⟩ | hrun
  · refine .inl ⟨fault, inventory, old, hvalidates, hinventory, hcheck, ?_⟩
    show Except.bind (p.checkFeasible old desired t) _ = _
    rw [hrun]
    rfl
  · refine .inr (.inl ⟨cause, hvalidates, ?_⟩)
    exact Timed.bind_run hrun
  · exact .inr (.inr (Timed.bind_run hrun))

theorem precheck_eq_ok {previous : Option (NodeMap Deployment)} {r : Except DeployError Unit}
    (h : p.precheck previous desired t = .ok (r, t')) :
    t' = t ∧ (r = .ok () → p.Affords desired t.state.ledger) ∧ ∀ e, r = .error e → e.Unmet := by
  rcases precheck_run p previous desired t with ⟨fault, _, _, _, _, _, hrun⟩ | ⟨cause, _, hrun⟩ | hrun
  · rw [hrun] at h
    cases h
  · rw [hrun] at h
    cases h
    refine ⟨rfl, nofun, fun e he => ?_⟩
    cases he
    exact .feasibility cause
  · rw [hrun] at h
    rcases checkBalance_run p desired t with ⟨haffords, hrun⟩ | ⟨_, e, hunmet, hrun⟩
    · rw [hrun] at h
      cases h
      exact ⟨rfl, fun _ => haffords, nofun⟩
    · rw [hrun] at h
      cases h
      refine ⟨rfl, nofun, fun e' he => ?_⟩
      cases he
      exact hunmet

/-! ### Runs -/

/-- The deployments are those that run, up to their reports. -/
def Fleet (current : NodeMap ContractId) (g : Grid) (previous : NodeMap Deployment) : Prop :=
  ∀ (n : NodeId) (d : Deployment), previous[n]? = some d → ∃ c live, current[n]? = some c ∧
    g.isOver c = false ∧ g.deployment? n c = some live ∧ live.unreported = d.unreported

/-- One pass, after the deployments that run have been asked for and the balance has been checked. -/
structure Attempted (p : Deployer) (current : NodeMap ContractId) (desired : NodeMap Deployment)
    (sp : Option UInt64) (g : Grid) (o : Outcome) (g' : Grid) : Prop where
  exists_trace : ∃ g₁, Asked [.get] (fun n c => current[n]? = some c) g g₁ ∧
    Step.Trace p sp (Step.plan current desired) current g₁ o g'
  affords : p.Affords desired g.ledger

theorem Attempted.grows (h : Attempted p current desired sp g o g') : Ledger.Grows g.ledger g'.ledger := by
  obtain ⟨g₁, hasked, htrace⟩ := h.exists_trace
  exact hasked.ledger ▸ htrace.grows

/-- What comes of a reconciliation. -/
inductive Reconciled (p : Deployer) (current : NodeMap ContractId) (desired : NodeMap Deployment)
    (sp : Option UInt64) (g : Grid) : Outcome → Grid → Prop where
  | refused {e : DeployError} {g' : Grid} (asked : Asked [.get] (fun n c => current[n]? = some c) g g')
    (unmet : e.Unmet) : Reconciled p current desired sp g ⟨current, some e⟩ g'
  | passed {o : Outcome} {g' : Grid} (attempt : Attempted p current desired sp g o g') :
    Reconciled p current desired sp g o g'
  | unrevertable {failed : NodeMap ContractId} {cause : DeployError} {g' : Grid}
    (attempt : Attempted p current desired sp g ⟨failed, some cause⟩ g') :
    Reconciled p current desired sp g ⟨failed, some (.revertUnavailable cause)⟩ g'
  | reverted {failed applied : NodeMap ContractId} {cause : DeployError} {previous : NodeMap Deployment}
    {g₁ g' : Grid} (fleet : Fleet current g previous)
    (attempt : Attempted p current desired sp g ⟨failed, some cause⟩ g₁)
    (back : Step.Trace p sp (Step.plan failed previous) failed g₁ ⟨applied, none⟩ g') :
    Reconciled p current desired sp g ⟨applied, some cause⟩ g'
  | revertFailed {failed applied : NodeMap ContractId} {cause e : DeployError} {previous : NodeMap Deployment}
    {g₁ g' : Grid} (fleet : Fleet current g previous)
    (attempt : Attempted p current desired sp g ⟨failed, some cause⟩ g₁)
    (back : Step.Trace p sp (Step.plan failed previous) failed g₁ ⟨applied, some e⟩ g') :
    Reconciled p current desired sp g ⟨applied, some (.revertFailed cause e)⟩ g'

/-- A success is that of one pass. -/
theorem Reconciled.attempted {applied : NodeMap ContractId} (h : Reconciled p current desired sp g ⟨applied, none⟩ g') :
    Attempted p current desired sp g ⟨applied, none⟩ g' := by
  cases h with
  | passed hattempt => exact hattempt

theorem reconciled_of_reconcile (h : p.reconcile current desired sp t = .ok (o, t')) :
    Reconciled p current desired sp t.state o t'.state := by
  rw [reconcile, Timed.bind_eq_ok] at h
  obtain ⟨fetched, t₁, hfetch, h⟩ := h
  have hasked := Grid.asked_fetchFleet hfetch
  -- the deployments to go back to ran at the start, before any was asked for
  have hfleet : ∀ previous, fetched.toOption = some previous → Fleet current t.state previous := by
    intro previous hprevious n d hn
    rcases fetched with e | m
    · cases hprevious
    · cases hprevious
      exact Grid.fetchFleet_sound hfetch hn
  rw [Timed.bind_eq_ok] at h
  obtain ⟨checked, t₂, hcheck, h⟩ := h
  obtain ⟨rfl, haffords, hunmet⟩ := precheck_eq_ok hcheck
  rcases checked with e | ⟨⟩
  · rw [Timed.pure_eq_ok] at h
    cases h
    exact .refused hasked (hunmet e rfl)
  dsimp only at h
  rw [Timed.bind_eq_ok] at h
  obtain ⟨⟨failed, error⟩, t₃, hpass, h⟩ := h
  have hattempt : Attempted p current desired sp t.state ⟨failed, error⟩ t₃.state :=
    ⟨⟨t₂.state, hasked, trace_of_pass hpass⟩, hasked.ledger ▸ haffords rfl⟩
  rcases error with _ | cause
  · rw [Timed.pure_eq_ok] at h
    cases h
    exact .passed hattempt
  dsimp only at h
  -- the pass has failed with `cause`
  by_cases hrevert : p.settings.revertOnFailure = true
  · rw [if_pos hrevert, revert.eq_def] at h
    rcases hprevious : fetched.toOption with _ | previous
    · rw [hprevious, Timed.pure_eq_ok] at h
      cases h
      exact .unrevertable hattempt
    rw [hprevious] at h
    dsimp only at h
    rw [Timed.bind_eq_ok] at h
    obtain ⟨⟨applied, error⟩, t₄, hback, h⟩ := h
    rcases error with _ | e
    · rw [Timed.pure_eq_ok] at h
      cases h
      exact .reverted (hfleet previous hprevious) hattempt (trace_of_pass hback)
    · rw [Timed.pure_eq_ok] at h
      cases h
      exact .revertFailed (hfleet previous hprevious) hattempt (trace_of_pass hback)
  · rw [if_neg hrevert, Timed.pure_eq_ok] at h
    cases h
    exact .passed hattempt

/-- A reconciliation without error is one pass. -/
theorem reconcile_run_of_pass {applied : NodeMap ContractId} {fetched : Except FetchError (NodeMap Deployment)}
    {t₁ t₂ : Timeline Grid} (hfetch : Grid.fetchFleet current p.settings.fetchTimeout t = .ok (fetched, t₁))
    (hcheck : p.precheck fetched.toOption desired t₁ = .ok (.ok (), t₁))
    (hpass : p.pass current desired sp t₁ = .ok (⟨applied, none⟩, t₂)) :
    p.reconcile current desired sp t = .ok (⟨applied, none⟩, t₂) := by
  rw [reconcile, Timed.bind_run hfetch, Timed.bind_run hcheck]
  dsimp only
  rw [Timed.bind_run hpass]
  rfl

/-- A pass that fails is followed by one back, if that is wanted and what ran before is known. -/
theorem reconcile_run_of_revert {failed applied : NodeMap ContractId} {previous : NodeMap Deployment}
    {cause : DeployError} {t₁ t₂ t₃ : Timeline Grid}
    (hfetch : Grid.fetchFleet current p.settings.fetchTimeout t = .ok (.ok previous, t₁))
    (hcheck : p.precheck (some previous) desired t₁ = .ok (.ok (), t₁))
    (hpass : p.pass current desired sp t₁ = .ok (⟨failed, some cause⟩, t₂))
    (hrevert : p.settings.revertOnFailure = true)
    (hback : p.pass failed previous sp t₂ = .ok (⟨applied, none⟩, t₃)) :
    p.reconcile current desired sp t = .ok (⟨applied, some cause⟩, t₃) := by
  have hrun : p.revert failed cause (some previous) sp t₂ = .ok (⟨applied, some cause⟩, t₃) := by
    rw [revert.eq_def]
    dsimp only
    rw [Timed.bind_run hback]
    rfl
  rw [reconcile, Timed.bind_run hfetch]
  dsimp only [Except.toOption]
  rw [Timed.bind_run hcheck]
  dsimp only
  rw [Timed.bind_run hpass]
  dsimp only
  rw [if_pos hrevert]
  exact hrun

/-! ### A small world -/

/-- A deployer by the standard settings, which reverts what fails. -/
def sample : Deployer where
  identity := ⟨List.replicate 32 7, rfl⟩
  twinId := 1
  settings := { DeployerSettings.standard with revertOnFailure := true }
  validates := false

end Deployer

/-- A deployment of one disk. -/
def Deployment.sample (name : String) : Deployment :=
  { Deployment.new 1 [.new name (.disk ⟨1024⟩)] with
    signatureRequirement.signatures := [⟨1, "", Identity.scheme⟩] }

/-- A contract of the sample deployer, under whatever hash. -/
def Contract.sample (contract : ContractId) (node : NodeId) (hash : String) : Contract where
  contractId := contract
  nodeId := node
  twinId := 1
  deploymentHash := hash
  deploymentData := ""
  publicIps := 0
  state := .created
  solutionProvider := none

end ComputeGrid
