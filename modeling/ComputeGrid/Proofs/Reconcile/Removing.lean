import ComputeGrid.Proofs.Feasibility
import ComputeGrid.Proofs.Ledger.Runs
import ComputeGrid.Proofs.Reconcile.Accounting
import ComputeGrid.Proofs.Reconcile.Idempotence
import ComputeGrid.Proofs.Reconcile.Stopping

/-!
# What is to go goes

A ledger that is online and does not refuse to cancel a contract has got rid of it afterwards, whatever it was before
(`Ledger.Releases.isNotFound_of_cancel`).  So the steps of a pass that cancel contracts all succeed
(`Step.runAll_run_of_removes`), and the steps after them bring none of these contracts back
(`Step.Trace.returned`): one that is active again has had its number handed out anew, and is in place on a node that had
none.

Nothing that comes before the pass can stand in the way where nothing is wanted: a fleet that cannot be fetched skips
the feasibility check, which finds nothing to check in any case, and the balance does not matter
(`Deployer.removed_of_reconcile`).
-/

namespace ComputeGrid

open Std (ExtTreeMap ExtTreeSet)

namespace Ledger

variable {l l' : Ledger} {c : ContractId}

/-- The ledger is there and does not refuse to cancel the contract. -/
structure Releases (l : Ledger) (c : ContractId) : Prop where
  online : l.online = true
  notRefused : c ∉ l.refusedCancels

theorem Releases.of_grows (h : l.Releases c) (hgrows : Grows l l') : l'.Releases c := by
  have honline : l'.online = l.online := terms_online hgrows.terms
  have hrefused : l'.refusedCancels = l.refusedCancels := (congrArg refusedCancels hgrows.terms :)
  exact ⟨honline ▸ h.online, hrefused ▸ h.notRefused⟩

/-- A cancel that is not refused succeeds or finds the contract gone. -/
theorem Releases.isNotFound_of_cancel {res : Except LedgerError Unit} (h : l.Releases c)
    (hcancel : l.cancel c = (res, l')) : ∀ e, res = .error e → e.isNotFound = true := by
  rintro e rfl
  rcases cancel_cases hcancel with ⟨hoffline, _⟩ | ⟨hrefused, _⟩ | ⟨_, _, _, hres, _⟩ | ⟨_, _, _, hres, _⟩
  · rw [h.online] at hoffline
    cases hoffline
  · exact absurd hrefused h.notRefused
  · cases hres
    rfl
  · cases hres

end Ledger

namespace Step

open Deployer (Opened)

variable {p : Deployer} {sp : Option UInt64} {applied : NodeMap ContractId} {steps removes rest : List Step} {s : Step}
  {o : Outcome} {t : Timeline Grid} {g g' : Grid} {node n : NodeId} {contract c : ContractId}

/-! ### Steps that cancel -/

theorem remove_run {r : Except LedgerError Unit} {l : Ledger} (hcancel : t.state.ledger.cancel contract = (r, l))
    (hgone : ∀ e, r = .error e → e.isNotFound = true) : (remove node contract).run p sp applied t =
      .ok (⟨applied.erase node, none⟩, { t with state := { t.state with ledger := l } }) := by
  rw [run, Timed.bind_run (Grid.cancelContract_run contract t), hcancel]
  rcases r with cause | ⟨⟩
  · dsimp only
    rw [if_pos (hgone cause rfl)]
    rfl
  · rfl

/-- Contracts have been taken out of place and are not active, and none has come in place or become active. -/
structure Cleared (removes : List Step) (applied applied₁ : NodeMap ContractId) (l l₁ : Ledger) : Prop where
  grows : Ledger.Grows l l₁
  gone : ∀ n c, remove n c ∈ removes → applied₁[n]? = none ∧ ¬ l₁.IsActive c
  absent : ∀ n : NodeId, applied[n]? = none → applied₁[n]? = none
  inactive : ∀ c, ¬ l.IsActive c → ¬ l₁.IsActive c

/-- Steps that cancel contracts which the ledger releases are taken one after another, and then the rest. -/
theorem runAll_run_of_removes (p : Deployer) (sp : Option UInt64)
    (h : ∀ s ∈ removes, ∃ n c, s = remove n c ∧ t.state.ledger.Releases c) (applied : NodeMap ContractId)
    (rest : List Step) :
    ∃ applied₁ t₁, runAll p sp applied (removes ++ rest) t = runAll p sp applied₁ rest t₁ ∧
      Cleared removes applied applied₁ t.state.ledger t₁.state.ledger := by
  induction removes generalizing applied t with
  | nil => exact ⟨applied, t, rfl, .refl _, nofun, fun _ hn => hn, fun _ hc => hc⟩
  | cons s removes ih =>
    obtain ⟨node, contract, rfl, hreleases⟩ := h s List.mem_cons_self
    rcases hcancel : t.state.ledger.cancel contract with ⟨r, l⟩
    have hgone := hreleases.isNotFound_of_cancel hcancel
    have hgrows := (Ledger.touches_cancel hcancel).toGrows
    obtain ⟨applied₁, t₁, hrun, hcleared⟩ := ih (t := { t with state := { t.state with ledger := l } })
      (fun s hs => by
        obtain ⟨n, c, rfl, hc⟩ := h s (List.mem_cons_of_mem _ hs)
        exact ⟨n, c, rfl, hc.of_grows hgrows⟩)
      (applied.erase node)
    refine ⟨applied₁, t₁, ?_, hgrows.trans hcleared.grows, fun n c hs => ?_, fun n hn => ?_, fun c hc => ?_⟩
    · rw [List.cons_append, runAll, Timed.bind_run (remove_run hcancel hgone)]
      exact hrun
    · rcases List.mem_cons.mp hs with heq | hs
      · cases heq
        exact ⟨hcleared.absent node ExtTreeMap.getElem?_erase_self,
          hcleared.inactive contract (Ledger.not_isActive_of_cancel hcancel hgone)⟩
      · exact hcleared.gone n c hs
    · refine hcleared.absent n ?_
      by_cases hnode : n = node
      · rw [hnode]
        exact ExtTreeMap.getElem?_erase_self
      · exact (getElem?_erase_of_ne hnode).trans hn
    · exact hcleared.inactive c fun hactive => hc ((Ledger.rewrites_cancel hcancel).isActive hactive)

/-! ### Steps that make and change -/

/-- A deployment that is not taken does not make a contract active that the ledger releases. -/
theorem isActive_of_notOpened {desired : Deployment} {e : DeployError} (h : Opened p node desired sp g (.error e) g')
    (hreleases : g.ledger.Releases c) (hactive : g'.ledger.IsActive c) : g.ledger.IsActive c := by
  cases h with
  | invalid => exact hactive
  | refused => exact hactive
  | @withdrawn d ips made l failure _ g₁ _ _ _ hcreate hsubmit hwithdraw =>
    have hmade := Ledger.touches_create hcreate
    have hsent : g₁.ledger = l := hsubmit.ledger
    by_cases hc : c = made
    · subst hc
      cases hwithdraw with
      | canceled hcancel hgone => exact absurd hactive (Ledger.not_isActive_of_cancel hcancel hgone)
      | dangling hcancel hkept =>
        have hreleases' : Ledger.Releases g'.ledger c := hsent ▸ hreleases.of_grows hmade.toGrows
        rw [hreleases'.isNotFound_of_cancel hcancel _ rfl] at hkept
        cases hkept
    · have hcanceled : Ledger.Touches made l g'.ledger := hsent ▸ hwithdraw.touches.ledger
      exact (Ledger.isActive_congr ((hmade.trans hcanceled).others c hc)).mp hactive

/-- What is active after a step other than a cancel was so before, or the step has made it and it is in place on the step's
node. -/
theorem Effect.isActive_cases (h : Effect p sp applied g s o g') (hphase : s.phase ≠ 0)
    (hreleases : g.ledger.Releases c) (hactive : g'.ledger.IsActive c) :
    g.ledger.IsActive c ∨ ∃ n d, s = create n d ∧ o.applied[n]? = some c := by
  cases h with
  | removed => exact absurd rfl hphase
  | kept => exact absurd rfl hphase
  | notOpened hopen => exact .inl (isActive_of_notOpened hopen hreleases hactive)
  | @opened node desired d r g₁ _ hopen hawait =>
    rw [hawait.asked.ledger] at hactive
    rw [Outcome.applied_of]
    obtain ⟨c', htouches, hc'⟩ := hopen.touches
    obtain rfl := hc' d rfl
    by_cases hc : c = d.contractId
    · subst hc
      exact .inr ⟨node, desired, rfl, ExtTreeMap.getElem?_insert_self⟩
    · exact .inl ((Ledger.isActive_congr (htouches.ledger.others c hc)).mp hactive)
  | updated hupdate => exact .inl ((hupdate.sameActive.active c).mp hactive)

/-- A contract that steps have made active again is in place on the node of one that made a contract. -/
theorem Trace.returned (h : Trace p sp steps applied g o g') (horder : steps.Pairwise Before)
    (hphase : ∀ s ∈ steps, s.phase ≠ 0) (hreleases : g.ledger.Releases c) (hc : ¬ g.ledger.IsActive c)
    (hactive : g'.ledger.IsActive c) : ∃ n d, create n d ∈ steps ∧ o.applied[n]? = some c := by
  induction h with
  | done => exact absurd hactive hc
  | stopped heffect =>
    obtain ⟨n, d, rfl, hn⟩ := (heffect.isActive_cases (hphase _ List.mem_cons_self) hreleases hactive).resolve_left hc
    exact ⟨n, d, List.mem_cons_self, hn⟩
  | @next s rest _ applied₁ _ g₁ _ _ heffect htrace ih =>
    obtain ⟨hfirst, horder⟩ := List.pairwise_cons.mp horder
    by_cases hc₁ : g₁.ledger.IsActive c
    · obtain ⟨n, d, rfl, hn⟩ := (heffect.isActive_cases (hphase _ List.mem_cons_self) hreleases hc₁).resolve_left hc
      -- the steps after it are about other nodes
      refine ⟨n, d, List.mem_cons_self, ?_⟩
      exact (htrace.applied_of_ne fun s hs => .inl (hfirst s hs).1).trans hn
    · obtain ⟨n, d, hs, hn⟩ := ih horder (fun s hs => hphase s (List.mem_cons_of_mem _ hs))
        (hreleases.of_grows heffect.grows) hc₁ hactive
      exact ⟨n, d, List.mem_cons_of_mem _ hs, hn⟩

end Step

namespace Deployer

variable {p : Deployer} {current : NodeMap ContractId} {desired : NodeMap Deployment} {sp : Option UInt64} {o : Outcome}
  {t t' : Timeline Grid} {n : NodeId} {c : ContractId}

/-! ### Passes -/

/-- The number of a contract has been handed out in a reconciliation: the contract is in place on a node that had none. -/
def HandedOut (current : NodeMap ContractId) (desired : NodeMap Deployment) (o : Outcome) (c : ContractId) : Prop :=
  ∃ n : NodeId, n ∉ current ∧ n ∈ desired ∧ o.applied[n]? = some c

/-- The steps of a plan that cancel contracts. -/
theorem releases_of_mem_removes {s : Step}
    (hreleases : ∀ (n : NodeId) (c : ContractId), current[n]? = some c → t.state.ledger.Releases c)
    (hs : s ∈ current.toList.filterMap fun (node, contract) =>
      if node ∈ desired then none else some (Step.remove node contract)) :
    ∃ n c, s = .remove n c ∧ t.state.ledger.Releases c := by
  obtain ⟨n, c, rfl, hc, _⟩ := Step.mem_removes_iff.mp hs
  exact ⟨n, c, rfl, hreleases n c hc⟩

/-- After a pass no node that is not wanted has anything in place, and its contract is not active, unless its number has
been handed out. -/
theorem released_of_pass (h : p.pass current desired sp t = .ok (o, t'))
    (hreleases : ∀ (n : NodeId) (c : ContractId), current[n]? = some c → t.state.ledger.Releases c)
    (hc : current[n]? = some c) (hn : n ∉ desired) :
    o.applied[n]? = none ∧ (t'.state.ledger.IsActive c → HandedOut current desired o c) := by
  rw [pass, Step.plan, List.append_assoc] at h
  obtain ⟨applied₁, t₁, hrun, hcleared⟩ := Step.runAll_run_of_removes p sp
    (fun s hs => releases_of_mem_removes hreleases hs) current _
  rw [hrun] at h
  have htrace := Step.trace_of_runAll h
  obtain ⟨happlied, hinactive⟩ := hcleared.gone n c (Step.mem_removes_iff.mpr ⟨n, c, rfl, hc, hn⟩)
  have horder := Step.pairwise_plan current desired
  rw [Step.plan, List.append_assoc, List.pairwise_append] at horder
  refine ⟨?_, fun hactive => ?_⟩
  · refine (htrace.applied_of_ne fun s hs => .inl ?_).trans happlied
    exact (horder.2.2 (.remove n c) (Step.mem_removes_iff.mpr ⟨n, c, rfl, hc, hn⟩) s hs).1
  · obtain ⟨m, d, hs, hm⟩ := htrace.returned horder.2.1 (fun s hs => by
        rcases List.mem_append.mp hs with hs | hs
        · obtain ⟨_, _, rfl, _⟩ := Step.mem_creates_iff.mp hs
          exact Nat.succ_ne_zero _
        · obtain ⟨_, _, _, rfl, _⟩ := Step.mem_updates_iff.mp hs
          exact Nat.succ_ne_zero _)
      ((hreleases n c hc).of_grows hcleared.grows) hinactive hactive
    rcases List.mem_append.mp hs with hs | hs
    · obtain ⟨_, _, heq, hd, hnew⟩ := Step.mem_creates_iff.mp hs
      cases heq
      exact ⟨m, hnew, mem_iff_exists_getElem?.mpr ⟨d, hd⟩, hm⟩
    · obtain ⟨_, _, _, heq, _⟩ := Step.mem_updates_iff.mp hs
      cases heq

/-- A pass to nothing cancels all that there is. -/
theorem pass_run_of_empty (p : Deployer) (sp : Option UInt64)
    (hreleases : ∀ (n : NodeId) (c : ContractId), current[n]? = some c → t.state.ledger.Releases c) :
    ∃ t', p.pass current ∅ sp t = .ok (⟨∅, none⟩, t') := by
  have hremoves (s : Step) (hs : s ∈ current.toList.filterMap fun (node, contract) =>
      if node ∈ (∅ : NodeMap Deployment) then none else some (Step.remove node contract)) :
      ∃ n c, s = .remove n c ∧ t.state.ledger.Releases c :=
    releases_of_mem_removes hreleases hs
  obtain ⟨applied₁, t₁, hrun, hcleared⟩ := Step.runAll_run_of_removes p sp hremoves current []
  have hempty : applied₁ = ∅ := by
    refine ExtTreeMap.ext_getElem? fun n => ?_
    rw [ExtTreeMap.getElem?_empty]
    rcases hc : current[n]? with _ | c
    · exact hcleared.absent n hc
    · exact (hcleared.gone n c (Step.mem_removes_iff.mpr ⟨n, c, rfl, hc, ExtTreeMap.not_mem_empty⟩)).1
  refine ⟨t₁, ?_⟩
  have hplan : Step.plan current ∅ = (current.toList.filterMap fun (node, contract) =>
      if node ∈ (∅ : NodeMap Deployment) then none else some (Step.remove node contract)) ++ [] := by
    rw [Step.plan, ExtTreeMap.toList_eq_nil_iff.mpr rfl, List.filterMap_nil, List.filterMap_nil, List.append_nil]
  rw [pass, hplan, hrun, hempty]
  rfl

/-! ### Reconciliations -/

/-- Where nothing is wanted there is nothing that must hold before a pass. -/
theorem precheck_run_of_empty (p : Deployer) (previous : Option (NodeMap Deployment)) (t : Timeline Grid) :
    p.precheck previous ∅ t = .ok (.ok (), t) := by
  rcases previous with _ | old
  · rfl
  have hfeasible : p.checkFeasible old ∅ t = .ok (.ok (), t) := by
    rw [checkFeasible, Timed.bind_run (Timed.query_run _ t)]
    rcases t.state.inventory.filter fun _ => p.validates with _ | inventory
    · rfl
    · refine Timed.lift_eq_ok.mpr ⟨Inventory.checkFeasible_of_unknown fun n hn => ?_, rfl⟩
      exact absurd hn ExtTreeMap.not_mem_empty
  unfold precheck
  exact Timed.bind_run hfeasible

/-- Where nothing is wanted a reconciliation succeeds and nothing stays, whatever the nodes do and the balance is.  Where
something is wanted, a reconciliation without a revert that comes to its pass leaves nothing in place on a node that is not
wanted, and its contract is not active, unless its number has been handed out. -/
theorem removed_of_reconcile
    (hreleases : ∀ (n : NodeId) (c : ContractId), current[n]? = some c → t.state.ledger.Releases c) :
    (∃ t', p.reconcile current ∅ sp t = .ok (⟨∅, none⟩, t') ∧
      ∀ (n : NodeId) (c : ContractId), current[n]? = some c → ¬ t'.state.ledger.IsActive c) ∧
    ∀ desired o t', p.settings.revertOnFailure = false → p.reconcile current desired sp t = .ok (o, t') →
      (∀ e, o.error = some e → ¬ e.Unmet) →
      ∀ (n : NodeId) (c : ContractId), current[n]? = some c → n ∉ desired →
        o.applied[n]? = none ∧ (t'.state.ledger.IsActive c → HandedOut current desired o c) := by
  -- the questions at the start change nothing on the ledger
  have hfetched {r : Except FetchError (NodeMap Deployment)} {t₁ : Timeline Grid}
      (hfetch : Grid.fetchFleet current p.settings.fetchTimeout t = .ok (r, t₁)) (n : NodeId) (c : ContractId)
      (hc : current[n]? = some c) : t₁.state.ledger.Releases c :=
    (Grid.asked_fetchFleet hfetch).ledger ▸ hreleases n c hc
  constructor
  · have hfetch := Grid.fetchFleet_run current p.settings.fetchTimeout t
    obtain ⟨t', hpass⟩ := pass_run_of_empty p sp (hfetched hfetch)
    refine ⟨t', reconcile_run_of_pass hfetch (precheck_run_of_empty p _ _) hpass, fun n c hc hactive => ?_⟩
    obtain ⟨_, _, hm, _⟩ := (released_of_pass hpass (hfetched hfetch) hc ExtTreeMap.not_mem_empty).2 hactive
    exact ExtTreeMap.not_mem_empty hm
  · intro desired o t' hrevert h hmet n c hc hn
    obtain ⟨_, t₁, hfetch, ⟨e, hunmet, he, _⟩ | hpass⟩ := reconcile_cases h hrevert
    · exact absurd hunmet (hmet e he)
    · exact released_of_pass hpass (hfetched hfetch) hc hn

/-- Contract 1 goes with node 1, whether nothing is wanted or the contract with node 2 is refused. -/
theorem removed_of_barring :
    (∃ t', lenient.reconcile heldContracts ∅ none ⟨0, barringGrid⟩ = .ok (⟨∅, none⟩, t') ∧
      ∀ (n : NodeId) (c : ContractId), heldContracts[n]? = some c → ¬ t'.state.ledger.IsActive c) ∧
    ∃ o t', lenient.reconcile heldContracts wantedDisks none ⟨0, barringGrid⟩ = .ok (o, t') ∧
      o.error = some (.ledger 2 .create (.nodeRefused 2)) ∧ o.applied[(1 : NodeId)]? = none ∧
      (t'.state.ledger.IsActive 1 → HandedOut heldContracts wantedDisks o 1) := by
  have hreleases : ∀ (n : NodeId) (c : ContractId), heldContracts[n]? = some c → barringGrid.ledger.Releases c :=
    fun _ _ _ => ⟨rfl, ExtTreeSet.not_mem_empty⟩
  refine ⟨(removed_of_reconcile hreleases).1, ?_⟩
  have hpasses : Checked.passes (lenient.reconcile heldContracts wantedDisks none ⟨0, barringGrid⟩)
      (fun r => r.1.error = some (.ledger 2 .create (.nodeRefused 2))) = true := by decide +kernel
  obtain ⟨⟨o, t'⟩, hrun, htest⟩ := Checked.exists_of_passes hpasses
  have herror := of_decide_eq_true htest
  refine ⟨o, t', hrun, herror, (removed_of_reconcile hreleases).2 _ o t' rfl hrun (fun e he hunmet => ?_) 1 1 ?_ ?_⟩
  · rw [herror] at he
    cases he
    cases hunmet
  · decide +kernel
  · decide +kernel

/-- A number that no contract has is as good as canceled, and then handed out: contract 1 is active, and node 2 is not
wanted. -/
theorem isActive_of_unused : ∃ o t',
    lenient.reconcile (single 2 1) (single 1 (.sample "a")) none ⟨0, idleGrid⟩ = .ok (o, t') ∧
    lenient.settings.revertOnFailure = false ∧ o.error = none ∧ OneToOne (single 2 1 : NodeMap ContractId) ∧
    (∀ (n : NodeId) (c : ContractId), (single 2 1 : NodeMap ContractId)[n]? = some c → idleGrid.ledger.Releases c) ∧
    ∃ (n : NodeId) (c : ContractId), (single 2 1 : NodeMap ContractId)[n]? = some c ∧
      n ∉ (single 1 (.sample "a") : NodeMap Deployment) ∧ t'.state.ledger.IsActive c := by
  have hpasses : Checked.passes (lenient.reconcile (single 2 1) (single 1 (.sample "a")) none ⟨0, idleGrid⟩)
      (fun r => r.1.error.isNone && (r.2.state.ledger.active? 1).isSome) = true := by decide +kernel
  obtain ⟨⟨o, t'⟩, hrun, htest⟩ := Checked.exists_of_passes hpasses
  rw [Bool.and_eq_true, Option.isNone_iff_eq_none, Option.isSome_iff_exists] at htest
  have hreleases : idleGrid.ledger.Releases 1 := ⟨rfl, ExtTreeSet.not_mem_empty⟩
  refine ⟨o, t', hrun, rfl, htest.1, oneToOne_single 2 1, fun n c hc => ?_, 2, 1, ?_, ?_, htest.2⟩
  · exact (getElem?_single_eq_some hc).2 ▸ hreleases
  · decide +kernel
  · decide +kernel

end Deployer

end ComputeGrid
