import ComputeGrid.Proofs.Reconcile.Placement

/-!
# Reconciling again

A reconciliation right after one without error changes nothing (`Deployer.reconcile_again`): its steps are
updates only, each asks for the deployment and finds the content that is wanted.  The one thing that can
keep it from this is the feasibility check.
-/

namespace ComputeGrid.Deployer

open Std (ExtTreeMap)
open Grid (Asked)

variable {p : Deployer} {current applied : NodeMap ContractId} {desired : NodeMap Deployment}
  {sp : Option UInt64} {t t' : Timeline Grid} {g g' : Grid}

/-- Nothing that a deployer does changes what it can afford. -/
theorem Affords.of_grows {l l' : Ledger} (h : Affords p desired l) (hgrows : Ledger.Grows l l') :
    Affords p desired l' := by
  have honline : l'.online = l.online := Ledger.terms_online hgrows.terms
  have hbalance : l'.balance = l.balance := Ledger.terms_balance hgrows.terms
  rw [Affords, Ledger.getBalance, honline, hbalance]
  exact h

/-- After a success a plan from what is in place to what was wanted has nothing but updates to what is
placed already. -/
theorem Attempted.plan_again (h : Attempted p current desired sp g ⟨applied, none⟩ g') :
    ∀ s ∈ Step.plan applied desired, ∃ n c d, s = .update n c d ∧ applied[n]? = some c ∧ Placed p g' n c d := by
  intro s hs
  rcases Step.mem_plan_iff.mp hs with ⟨n, c, rfl, hc, hn⟩ | ⟨n, d, rfl, hd, hn⟩ | ⟨n, c, d, rfl, hc, hd⟩
  · exact absurd ((h.mem_applied_iff rfl).mp (mem_iff_exists_getElem?.mpr ⟨c, hc⟩)) hn
  · exact absurd ((h.mem_applied_iff rfl).mpr (mem_iff_exists_getElem?.mpr ⟨d, hd⟩)) hn
  · obtain ⟨d', hd', hplaced, _⟩ := h.placed_of_applied rfl hc
    obtain rfl : d' = d := Option.some.inj (hd'.symm.trans hd)
    exact ⟨n, c, d', rfl, hc, hplaced⟩

/-- Reconciling again after a success plans nothing but updates, leaves the ledger as it is, sends no call
but questions for deployments, and leaves in place what is.  It ends without error, unless the feasibility
check of a validating deployer ends in an error or a fault. -/
theorem reconcile_again (h : p.reconcile current desired sp t = .ok (⟨applied, none⟩, t')) (sp' : Option UInt64) :
    (∀ s ∈ Step.plan applied desired, ∃ n c d, s = .update n c d) ∧
    ((∃ fault inventory old, p.validates = true ∧ t'.state.inventory = some inventory ∧
        inventory.checkFeasible old desired = .error fault ∧
        p.reconcile applied desired sp' t' = .error fault) ∨
      ∃ o t'', p.reconcile applied desired sp' t' = .ok (o, t'') ∧ o.applied = applied ∧
        t''.state.ledger = t'.state.ledger ∧
        (∃ new, t''.state.calls = new ++ t'.state.calls ∧ ∀ x ∈ new, x.2 = NodeMethod.get.text) ∧
        (o.error = none ∨ p.validates = true ∧ ∃ cause, o.error = some (.feasibility cause))) := by
  have hattempt := (reconciled_of_reconcile h).attempted
  have hplan := hattempt.plan_again
  refine ⟨fun s hs => ?_, ?_⟩
  · obtain ⟨n, c, d, hs, _⟩ := hplan s hs
    exact ⟨n, c, d, hs⟩
  rw [reconcile, Timed.bind_run (Grid.fetchFleet_run applied p.settings.fetchTimeout t')]
  -- whatever the questions find, what is placed stays placed
  have hfetched := (Grid.faithful_fetchFleet applied p.settings.fetchTimeout t').asked
  generalize ht₁ : (⟨_, Grid.Fetched.grid _⟩ : Timeline Grid) = t₁
  have hasked : Asked [.get] (fun n c => applied[n]? = some c) t'.state t₁.state := ht₁ ▸ hfetched
  generalize (Except.toOption _ : Option (NodeMap Deployment)) = previous
  rcases precheck_run p previous desired t₁ with
    ⟨fault, inventory, old, hvalidates, hinventory, hcheck, hrun⟩ | ⟨cause, hvalidates, hrun⟩ | hrun
  · refine .inl ⟨fault, inventory, old, hvalidates, hasked.inventory ▸ hinventory, hcheck, ?_⟩
    show Except.bind (p.precheck previous desired t₁) _ = _
    rw [hrun]
    rfl
  · refine .inr ⟨⟨applied, some (.feasibility cause)⟩, t₁, Timed.bind_run hrun, rfl, hasked.ledger,
      hasked.only_get, .inr ⟨hvalidates, cause, rfl⟩⟩
  -- the first reconciliation could afford it, and nothing has changed that since
  have haffords : Affords p desired t₁.state.ledger :=
    hasked.ledger ▸ hattempt.affords.of_grows hattempt.grows
  obtain ⟨_, hbalance⟩ | ⟨hnot, _⟩ := checkBalance_run p desired t₁
  · rw [hbalance] at hrun
    obtain ⟨t₂, hpass, hasked₂⟩ := runAll_run_of_placed sp' (t := t₁) fun s hs => by
      obtain ⟨n, c, d, rfl, hc, hplaced⟩ := hplan s hs
      exact ⟨n, c, d, rfl, hc, hplaced.of_asked hasked⟩
    have hall := hasked.trans hasked₂
    refine .inr ⟨⟨applied, none⟩, t₂, ?_, rfl, hall.ledger, hall.only_get, .inl rfl⟩
    rw [Timed.bind_run hrun]
    exact Timed.bind_run hpass
  · exact absurd haffords hnot

/-- A ledger without contracts, and node 1, which runs nothing. -/
def idleGrid : Grid where
  ledger := .new 1
  nodes := single 1 .new
  calls := []
  attached := false
  inventory := none

/-- The sample deployer makes contract 1 for a new deployment, and then has nothing left to do. -/
theorem reconcile_again_of_idle : ∃ applied t₁,
    sample.reconcile ∅ (single 1 (.sample "a")) none ⟨0, idleGrid⟩ = .ok (⟨applied, none⟩, t₁) ∧
    applied.toList = [(1, 1)] ∧ ∃ t₂,
      sample.reconcile applied (single 1 (.sample "a")) none t₁ = .ok (⟨applied, none⟩, t₂) ∧
      t₂.state.ledger = t₁.state.ledger := by
  have hpasses : Checked.passes (sample.reconcile ∅ (single 1 (.sample "a")) none ⟨0, idleGrid⟩)
      (fun r => r.1.error.isNone && r.1.applied.toList == [(1, 1)]) = true := by decide +kernel
  obtain ⟨⟨⟨applied, error⟩, t₁⟩, hrun, htest⟩ := Checked.exists_of_passes hpasses
  simp only [Bool.and_eq_true, beq_iff_eq, Option.isNone_iff_eq_none] at htest
  obtain ⟨rfl, happlied⟩ := htest
  refine ⟨applied, t₁, hrun, happlied, ?_⟩
  obtain ⟨_, ⟨_, _, _, hvalidates, _⟩ | ⟨⟨applied', error⟩, t₂, hagain, rfl, hledger, _, rfl | ⟨hvalidates, _⟩⟩⟩ :=
    reconcile_again hrun none
  · cases hvalidates
  · exact ⟨t₂, hagain, hledger⟩
  · cases hvalidates

end ComputeGrid.Deployer
