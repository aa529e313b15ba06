import ComputeGrid.Proofs.Reconcile.Runs

/-!
# No contract is lost

After a reconciliation, however it ends, the active contracts among those that it was given and those that
it made are exactly the ones that it reports: those in place, and those that its error names as left
without a deployment (`Deployer.isActive_iff_reported`).

`Accounts` is the invariant of both passes.  Every step keeps it (`Accounts.step`), since a step either
leaves all contracts active that were, or retires or makes one contract and says so.
-/

namespace ComputeGrid

open Std (ExtTreeMap)

/-- The contracts that the error of an outcome names as left without a deployment. -/
def Outcome.dangling (o : Outcome) : List ContractId :=
  match o.error with
  | some e => e.dangling
  | none => []

variable {current applied applied' : NodeMap ContractId} {before l l' : Ledger} {D D' : List ContractId}
  {c : ContractId} {node : NodeId}

/-- A contract that was given or has been made since is active. -/
def Live (current : NodeMap ContractId) (before l : Ledger) (c : ContractId) : Prop :=
  ((∃ n : NodeId, current[n]? = some c) ∨ Ledger.Made before l c) ∧ l.IsActive c

/-- A contract is in place or named as dangling. -/
def Reported (applied : NodeMap ContractId) (D : List ContractId) (c : ContractId) : Prop :=
  (∃ n : NodeId, applied[n]? = some c) ∨ c ∈ D

/-- The live contracts are the reported ones, each reported once. -/
structure Accounts (current : NodeMap ContractId) (before : Ledger) (applied : NodeMap ContractId)
    (D : List ContractId) (l : Ledger) : Prop where
  grows : Ledger.Grows before l
  oneToOne : OneToOne applied
  apart : ∀ (n : NodeId) (c : ContractId), applied[n]? = some c → c ∉ D
  listed : ∀ c, Live current before l c ↔ Reported applied D c

/-! ### Changes of the accounts -/

theorem live_congr (hmem : c ∈ l'.contracts ↔ c ∈ l.contracts) (hactive : l'.IsActive c ↔ l.IsActive c) :
    Live current before l' c ↔ Live current before l c := by
  rw [Live, Live, Ledger.Made, Ledger.Made, hmem, hactive]

/-- A contract that was not on the ledger is live as soon as it is active. -/
theorem live_iff_of_not_mem (hgrows : Ledger.Grows before l) (hc : c ∉ l.contracts) :
    Live current before l' c ↔ l'.IsActive c :=
  ⟨fun h => h.2, fun h => ⟨.inr ⟨fun hmem => hc (hgrows.kept c hmem), h.mem⟩, h⟩⟩

namespace Accounts

theorem isActive_of_reported (h : Accounts current before applied D l) (hc : Reported applied D c) :
    l.IsActive c :=
  ((h.listed c).mpr hc).2

theorem not_reported_of_not_mem (h : Accounts current before applied D l) (hc : c ∉ l.contracts) :
    ¬ Reported applied D c :=
  fun hreported => hc (h.isActive_of_reported hreported).mem

theorem of_sameActive (h : Accounts current before applied D l) (hgrows : Ledger.Grows l l')
    (hsame : Ledger.SameActive l l') : Accounts current before applied D l' where
  grows := h.grows.trans hgrows
  oneToOne := h.oneToOne
  apart := h.apart
  listed := fun c => (live_congr (hsame.mem c) (hsame.active c)).trans (h.listed c)

/-- Where one contract has been touched, only its entry has to be checked. -/
theorem of_touches (h : Accounts current before applied D l) (htouches : Ledger.Touches c l l')
    (honeToOne : OneToOne applied') (hapart : ∀ (n : NodeId) (c : ContractId), applied'[n]? = some c → c ∉ D')
    (hothers : ∀ c', c' ≠ c → (Reported applied' D' c' ↔ Reported applied D c'))
    (hself : Live current before l' c ↔ Reported applied' D' c) : Accounts current before applied' D' l' := by
  refine ⟨h.grows.trans htouches.toGrows, honeToOne, hapart, fun c' => ?_⟩
  by_cases hc' : c' = c
  · subst hc'
    exact hself
  · have hsame := htouches.others c' hc'
    have hmem : c' ∈ l'.contracts ↔ c' ∈ l.contracts := by
      rw [mem_iff_exists_getElem?, hsame, ← mem_iff_exists_getElem?]
    rw [hothers c' hc', live_congr hmem (Ledger.isActive_congr hsame), h.listed c']

/-- A contract in place is no longer active, and no longer in place. -/
theorem retire (h : Accounts current before applied D l) (hc : applied[node]? = some c)
    (htouches : Ledger.Touches c l l') (hinactive : ¬ l'.IsActive c) :
    Accounts current before (applied.erase node) D l' := by
  refine h.of_touches htouches (h.oneToOne.erase node) ?_ (fun c' hc' => ?_) ?_
  · exact fun n c' hn => h.apart n c' (getElem?_erase_eq_some hn).2
  · rw [Reported, Reported, exists_getElem?_erase_iff h.oneToOne hc, and_iff_right hc']
  · refine iff_of_false (fun hlive => hinactive hlive.2) ?_
    rintro (hplace | hdangling)
    · exact ((exists_getElem?_erase_iff h.oneToOne hc).mp hplace).1 rfl
    · exact h.apart node c hc hdangling

/-- A new contract is active, and in place on a node that had none. -/
theorem establish (h : Accounts current before applied D l) (hnode : applied[node]? = none)
    (hc : c ∉ l.contracts) (htouches : Ledger.Touches c l l') (hactive : l'.IsActive c) :
    Accounts current before (applied.insert node c) D l' := by
  have hnew := h.not_reported_of_not_mem hc
  refine h.of_touches htouches (h.oneToOne.insert fun n hn => hnew (.inl ⟨n, hn⟩)) ?_ (fun c' hc' => ?_) ?_
  · intro n c' hn hdangling
    rcases getElem?_insert_eq_some hn with ⟨_, rfl⟩ | ⟨_, hn⟩
    · exact hnew (.inr hdangling)
    · exact h.apart n c' hn hdangling
  · rw [Reported, Reported, exists_getElem?_insert_iff hnode, or_iff_right hc']
  · rw [live_iff_of_not_mem h.grows hc]
    exact iff_of_true hactive (.inl ⟨node, ExtTreeMap.getElem?_insert_self⟩)

/-- A new contract is active, and named as dangling. -/
theorem strand (h : Accounts current before applied D l) (hc : c ∉ l.contracts)
    (htouches : Ledger.Touches c l l') (hactive : l'.IsActive c) :
    Accounts current before applied (D ++ [c]) l' := by
  have hnew := h.not_reported_of_not_mem hc
  refine h.of_touches htouches h.oneToOne (fun n c' hn => ?_) (fun c' hc' => ?_) ?_
  · rw [List.mem_append, List.mem_singleton]
    rintro (hdangling | rfl)
    · exact h.apart n c' hn hdangling
    · exact hnew (.inl ⟨n, hn⟩)
  · rw [Reported, Reported, List.mem_append, List.mem_singleton, or_iff_left hc']
  · rw [live_iff_of_not_mem h.grows hc]
    exact iff_of_true hactive (.inr (List.mem_append_right D (List.mem_singleton.mpr rfl)))

/-- A new contract has been canceled again. -/
theorem withdraw (h : Accounts current before applied D l) (hc : c ∉ l.contracts)
    (htouches : Ledger.Touches c l l') (hinactive : ¬ l'.IsActive c) : Accounts current before applied D l' :=
  h.of_touches htouches h.oneToOne h.apart (fun _ _ => Iff.rfl)
    (iff_of_false (fun hlive => hinactive hlive.2) (h.not_reported_of_not_mem hc))

end Accounts

/-! ### Steps and passes -/

open Deployer Step in
/-- A step that makes a contract for a deployment and fails leaves the accounts in order. -/
theorem Accounts.notOpened {p : Deployer} {sp : Option UInt64} {desired : Deployment} {e : DeployError}
    {g g' : Grid} (h : Accounts current before applied D g.ledger)
    (hopen : Opened p node desired sp g (.error e) g') (hfresh : Ledger.Fresh g.ledger g'.ledger) :
    Accounts current before applied (D ++ e.dangling) g'.ledger := by
  cases hopen with
  | invalid => exact (List.append_nil D).symm ▸ h
  | refused => exact (List.append_nil D).symm ▸ h
  | @withdrawn d ips c l failure _ g₁ _ _ _ hcreate hsubmit hwithdraw =>
    have hmade := Ledger.touches_create hcreate
    have hsent : g₁.ledger = l := hsubmit.ledger
    have hcanceled : Ledger.Touches c l g'.ledger := hsent ▸ hwithdraw.touches.ledger
    have hnew : c ∉ g.ledger.contracts :=
      (Ledger.fresh_create_iff hcreate).mp (hfresh.left hmade.toGrows hcanceled.toGrows)
    -- the failed submission names no contract itself
    have hfailure : failure.dangling = [] := by
      cases hsubmit with
      | failed hcall => exact DeployError.dangling_of_call? hcall
    cases hwithdraw with
    | canceled hcancel hgone =>
      rw [DeployError.dangling, hfailure, List.append_nil]
      exact h.withdraw hnew (hmade.trans hcanceled) (Ledger.not_isActive_of_cancel hcancel hgone)
    | dangling hcancel hkept =>
      rw [DeployError.dangling, hfailure, hsent]
      exact h.strand hnew hmade ⟨_, Ledger.active?_create hcreate⟩

open Step in
/-- A step leaves the accounts in order, with the contracts that its error names. -/
theorem Accounts.step {p : Deployer} {sp : Option UInt64} {s : Step} {o : Outcome} {g g' : Grid}
    (h : Accounts current before applied D g.ledger) (hfits : FitsOne applied s)
    (heffect : Effect p sp applied g s o g') (hfresh : Ledger.Fresh g.ledger g'.ledger) :
    Accounts current before o.applied (D ++ o.dangling) g'.ledger := by
  cases heffect with
  | removed hcancel hgone =>
    rw [Outcome.dangling, List.append_nil]
    exact h.retire hfits (Ledger.touches_cancel hcancel) (Ledger.not_isActive_of_cancel hcancel hgone)
  | kept => exact (List.append_nil D).symm ▸ h
  | notOpened hopen => exact h.notOpened hopen hfresh
  | @opened node _ d r g₁ _ hopen hawait =>
    cases hopen with
    | @opened _ _ c l _ _ _ hcreate hsubmit =>
      -- neither the submission nor the wait is a matter of the ledger
      have hledger : g'.ledger = l := hawait.asked.ledger.trans hsubmit.ledger
      rw [hledger] at hfresh ⊢
      have hplaced := h.establish hfits ((Ledger.fresh_create_iff hcreate).mp hfresh)
        (Ledger.touches_create hcreate) ⟨_, Ledger.active?_create hcreate⟩
      cases hawait with
      | converged => exact (List.append_nil D).symm ▸ hplaced
      | @failed e _ _ herror =>
        change Accounts current before (applied.insert node c) (D ++ e.dangling) l
        rw [herror.dangling, List.append_nil]
        exact hplaced
  | @updated node c desired r _ hupdate =>
    have hkept := h.of_sameActive hupdate.touches.ledger.toGrows hupdate.sameActive
    rcases r with e | ⟨⟩
    · change Accounts current before applied (D ++ e.dangling) g'.ledger
      rw [hupdate.dangling, List.append_nil]
      exact hkept
    · exact (List.append_nil D).symm ▸ hkept

/-- A pass leaves the accounts in order. -/
theorem Accounts.trace {p : Deployer} {sp : Option UInt64} {steps : List Step} {o : Outcome} {g g' : Grid}
    (h : Accounts current before applied D g.ledger) (hfits : Step.Fits applied steps)
    (htrace : Step.Trace p sp steps applied g o g') (hfresh : Ledger.Fresh g.ledger g'.ledger) :
    Accounts current before o.applied (D ++ o.dangling) g'.ledger := by
  induction htrace with
  | done => exact (List.append_nil D).symm ▸ h
  | stopped heffect => exact h.step hfits.head heffect hfresh
  | next heffect htrace ih =>
    have hstep := h.step hfits.head heffect (hfresh.left heffect.grows htrace.grows)
    rw [Outcome.dangling, List.append_nil] at hstep
    exact ih hstep (hfits.tail heffect) (hfresh.right heffect.grows htrace.grows)

/-! ### Reconciliations -/

namespace Deployer

variable {p : Deployer} {desired : NodeMap Deployment} {sp : Option UInt64} {o : Outcome}
  {t t' : Timeline Grid} {g g' : Grid}

/-- At first the contracts in place are those that are given. -/
theorem accounts_start {l : Ledger} (hactive : ∀ (n : NodeId) (c : ContractId), current[n]? = some c → l.IsActive c)
    (honeToOne : OneToOne current) : Accounts current l current [] l := by
  refine ⟨.refl l, honeToOne, nofun, fun c => ⟨?_, ?_⟩⟩
  · rintro ⟨hplace | hmade, _⟩
    · exact .inl hplace
    · exact absurd hmade.2 hmade.1
  · rintro (⟨n, hn⟩ | hdangling)
    · exact ⟨.inl ⟨n, hn⟩, hactive n c hn⟩
    · cases hdangling

theorem Attempted.accounts (h : Attempted p current desired sp g o g')
    (haccounts : Accounts current g.ledger current [] g.ledger) (hfresh : Ledger.Fresh g.ledger g'.ledger) :
    Accounts current g.ledger o.applied o.dangling g'.ledger := by
  obtain ⟨g₁, hasked, htrace⟩ := h.exists_trace
  rw [← hasked.ledger] at haccounts hfresh ⊢
  exact haccounts.trace (Step.fits_plan current desired) htrace hfresh

theorem Reconciled.accounts (h : Reconciled p current desired sp g o g')
    (haccounts : Accounts current g.ledger current [] g.ledger) (hfresh : Ledger.Fresh g.ledger g'.ledger) :
    Accounts current g.ledger o.applied o.dangling g'.ledger := by
  cases h with
  | refused hasked hunmet =>
    rw [hasked.ledger]
    cases hunmet <;> exact haccounts
  | passed hattempt => exact hattempt.accounts haccounts hfresh
  | unrevertable hattempt => exact hattempt.accounts haccounts hfresh
  | reverted _ hattempt hback =>
    have hfailed := hattempt.accounts haccounts (hfresh.left hattempt.grows hback.grows)
    have hreverted := hfailed.trace (Step.fits_plan _ _) hback (hfresh.right hattempt.grows hback.grows)
    rw [Outcome.dangling, Outcome.dangling, List.append_nil] at hreverted
    exact hreverted
  | revertFailed _ hattempt hback =>
    have hfailed := hattempt.accounts haccounts (hfresh.left hattempt.grows hback.grows)
    exact hfailed.trace (Step.fits_plan _ _) hback (hfresh.right hattempt.grows hback.grows)

/-- After a reconciliation the active contracts among those that were given and those that have been made
are exactly those in place and those that the error names as dangling, at any depth. -/
theorem isActive_iff_reported (h : p.reconcile current desired sp t = .ok (o, t'))
    (hactive : ∀ (n : NodeId) (c : ContractId), current[n]? = some c → t.state.ledger.IsActive c)
    (honeToOne : OneToOne current) (hfresh : Ledger.Fresh t.state.ledger t'.state.ledger) (c : ContractId) :
    ((∃ n : NodeId, current[n]? = some c) ∨ Ledger.Made t.state.ledger t'.state.ledger c) ∧
      t'.state.ledger.IsActive c ↔
    (∃ n : NodeId, o.applied[n]? = some c) ∨ ∃ e, o.error = some e ∧ c ∈ e.dangling := by
  have haccounts := (reconciled_of_reconcile h).accounts (accounts_start hactive honeToOne) hfresh
  have hdangling : c ∈ o.dangling ↔ ∃ e, o.error = some e ∧ c ∈ e.dangling := by
    obtain ⟨applied, _ | e⟩ := o
    · exact iff_of_false (List.not_mem_nil) (by rintro ⟨e, he, _⟩; cases he)
    · refine ⟨fun hc => ⟨e, rfl, hc⟩, ?_⟩
      rintro ⟨_, he, hc⟩
      cases he
      exact hc
  rw [← hdangling]
  exact haccounts.listed c

/-- Node 1 runs a deployment under contract 1, and node 2 is down.  Contract 2 is not to be canceled. -/
def strandingGrid : Grid where
  ledger := { Ledger.new 1 with
    nextId := 2
    contracts := single 1 (.sample 1 1 "")
    refusedCancels := (∅ : Std.ExtTreeSet ContractId).insert 2 }
  nodes := (single 1 { Node.new with
    deployments := single 1 { Deployment.sample "a" with contractId := 1 } }).insert 2 { Node.new with down := true }
  calls := []
  attached := false
  inventory := none

/-- The pass makes contract 2 for the node that is down, cannot cancel it and goes back: contract 3 replaces
contract 1, and contract 2 is reported. -/
theorem isActive_iff_reported_of_stranding : ∃ o t',
    sample.reconcile (single 1 1) (single 2 (.sample "b")) none ⟨0, strandingGrid⟩ = .ok (o, t') ∧
    o.applied.toList = [(1, 3)] ∧ o.dangling = [2] ∧ ∀ c : ContractId,
      ((∃ n : NodeId, (single 1 1 : NodeMap ContractId)[n]? = some c) ∨
          Ledger.Made strandingGrid.ledger t'.state.ledger c) ∧ t'.state.ledger.IsActive c ↔
        (∃ n : NodeId, o.applied[n]? = some c) ∨ ∃ e, o.error = some e ∧ c ∈ e.dangling := by
  have hpasses : Checked.passes (sample.reconcile (single 1 1) (single 2 (.sample "b")) none ⟨0, strandingGrid⟩)
      (fun r => (r.1.applied.toList == [(1, 3)] && r.1.dangling == [2]) &&
        r.2.state.ledger.contracts.size + strandingGrid.ledger.creates ==
          strandingGrid.ledger.contracts.size + r.2.state.ledger.creates) = true := by decide +kernel
  obtain ⟨⟨o, t'⟩, hrun, htest⟩ := Checked.exists_of_passes hpasses
  simp only [Bool.and_eq_true, beq_iff_eq] at htest
  refine ⟨o, t', hrun, htest.1.1, htest.1.2, fun c => isActive_iff_reported hrun ?_ (oneToOne_single 1 1) htest.2 c⟩
  intro n c hn
  obtain ⟨_, rfl⟩ := getElem?_single_eq_some hn
  exact ⟨.sample 1 1 "", by decide +kernel⟩

end Deployer

end ComputeGrid
