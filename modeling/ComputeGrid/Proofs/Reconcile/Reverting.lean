import ComputeGrid.Proofs.Deployment.Encoding
import ComputeGrid.Proofs.Reconcile.Accounting
import ComputeGrid.Proofs.Reconcile.Holdings
import ComputeGrid.Proofs.Reconcile.Placement

/-!
# What a revert restores

When the pass back from a failure has no error, every node is where it was (`Deployer.Restored`,
`Deployer.restored_of_reverts`): it runs the content that it ran, and what was made for other nodes is gone or
named as dangling.  The pass back starts from whatever the first one has left.  A contract that was in place
either still is or was canceled (`Step.Trace.secure`), and an active contract that was made is in place on its
node unless it dangles (`Step.Trace.located`).

A node may get another contract although its own was not canceled: where that was not on the ledger there was
nothing to cancel, and the node was dropped all the same (`Deployer.replaced_of_missing`).
-/

namespace ComputeGrid

open Std (ExtTreeMap)

/-- A contract is in place on one node alone, active, and not set to vanish. -/
structure Secure (applied : NodeMap ContractId) (l : Ledger) (n : NodeId) (c : ContractId) : Prop where
  place : ∀ m : NodeId, applied[m]? = some c ↔ m = n
  active : l.IsActive c
  lasting : c ∉ l.vanishing

/-- Every active contract that has been made since is in place on its node or named as dangling. -/
def Located (before l : Ledger) (applied : NodeMap ContractId) (D : List ContractId) : Prop :=
  ∀ c k, c ∉ before.contracts → l.active? c = some k → applied[k.nodeId]? = some c ∨ c ∈ D

variable {applied : NodeMap ContractId} {before l : Ledger} {D D' : List ContractId}

theorem located_start : Located l l applied [] :=
  fun _ k hc hk => absurd (Ledger.IsActive.mem ⟨k, hk⟩) hc

theorem Located.mono (h : Located before l applied D) (hD : ∀ c ∈ D, c ∈ D') : Located before l applied D' := by
  intro c k hc hk
  rcases h c k hc hk with hplace | hdangling
  · exact .inl hplace
  · exact .inr (hD c hdangling)

namespace Step

open Deployer (Opened)

variable {p : Deployer} {sp : Option UInt64} {steps : List Step} {applied : NodeMap ContractId} {s : Step} {o : Outcome}
  {g g' : Grid} {n : NodeId} {c : ContractId} {before : Ledger} {D : List ContractId}

/-! ### Contracts that were in place -/

/-- A contract stays in place where it is, unless a step about it cancels it. -/
theorem Effect.place (h : Effect p sp applied g s o g') (hfits : FitsOne applied s) (hs : s.contract? ≠ some c)
    (hfresh : Ledger.Fresh g.ledger g'.ledger) (hmem : c ∈ g.ledger.contracts) (m : NodeId) :
    o.applied[m]? = some c ↔ applied[m]? = some c := by
  cases h with
  | @removed node contract =>
    refine ⟨fun hm => (getElem?_erase_eq_some hm).2, fun hm => ?_⟩
    have hne : m ≠ node := by
      rintro rfl
      exact hs (hfits.symm.trans hm)
    exact (getElem?_erase_of_ne hne).trans hm
  | kept => exact Iff.rfl
  | notOpened => exact Iff.rfl
  | @opened node _ d _ _ _ hopen hawait =>
    rw [hawait.asked.ledger] at hfresh
    rw [Outcome.applied_of]
    constructor
    · intro hm
      rcases getElem?_insert_eq_some hm with ⟨_, rfl⟩ | ⟨_, hm⟩
      · exact absurd hmem (not_mem_of_opened hopen hfresh)
      · exact hm
    · intro hm
      have hne : m ≠ node := by
        rintro rfl
        rw [hfits] at hm
        cases hm
      exact (getElem?_insert_of_ne hne).trans hm
  | updated => rw [Outcome.applied_of]

/-- A step leaves a contract secure, or cancels it. -/
theorem Effect.secure (h : Effect p sp applied g s o g') (hfits : FitsOne applied s)
    (hfresh : Ledger.Fresh g.ledger g'.ledger) (hsecure : Secure applied g.ledger n c) :
    Secure o.applied g'.ledger n c ∨ Ledger.Canceled g.ledger g'.ledger c := by
  have hlasting : c ∉ g'.ledger.vanishing := fun hc => hsecure.lasting (h.grows.vanishing c hc)
  by_cases hs : s.contract? = some c
  · cases h with
    | removed hcancel hgone =>
      obtain rfl := Option.some.inj hs
      exact .inr (Ledger.canceled_of_cancel hcancel hgone hsecure.active hsecure.lasting)
    | kept => exact .inl hsecure
    | notOpened => cases hs
    | opened => cases hs
    | updated hupdate =>
      rw [Outcome.applied_of]
      exact .inl ⟨hsecure.place, (hupdate.sameActive.active c).mpr hsecure.active, hlasting⟩
  · obtain ⟨k, hk⟩ := hsecure.active
    have hplace := h.place hfits hs hfresh hsecure.active.mem
    exact .inl ⟨fun m => (hplace m).trans (hsecure.place m), ⟨k, h.active?_of_ne hs hfresh hk⟩, hlasting⟩

/-- A contract that was secure before a pass is so after it, or was canceled. -/
theorem Trace.secure (h : Trace p sp steps applied g o g') (hfits : Fits applied steps)
    (hfresh : Ledger.Fresh g.ledger g'.ledger) (hsecure : Secure applied g.ledger n c) :
    Secure o.applied g'.ledger n c ∨ Ledger.Canceled g.ledger g'.ledger c := by
  induction h with
  | done => exact .inl hsecure
  | stopped heffect => exact heffect.secure hfits.head hfresh hsecure
  | next heffect htrace ih =>
    rcases heffect.secure hfits.head (hfresh.left heffect.grows htrace.grows) hsecure with hkept | hcanceled
    · rcases ih (hfits.tail heffect) (hfresh.right heffect.grows htrace.grows) hkept with hkept | hcanceled
      · exact .inl hkept
      · exact .inr (heffect.grows.canceled_trans hcanceled)
    · exact .inr (hcanceled.of_grows htrace.grows)

/-! ### Contracts that were made -/

/-- A contract that is made and not taken is canceled, or named as dangling. -/
theorem Effect.located_of_notOpened {node : NodeId} {desired : Deployment} {e : DeployError}
    (h : Opened p node desired sp g (.error e) g') (hlocated : Located before g.ledger applied D) :
    Located before g'.ledger applied (D ++ e.dangling) := by
  cases h with
  | invalid => exact hlocated.mono fun _ => List.mem_append_left _
  | refused => exact hlocated.mono fun _ => List.mem_append_left _
  | @withdrawn d ips c₀ l failure _ g₁ _ _ _ hcreate hsubmit hwithdraw =>
    have hmade := Ledger.touches_create hcreate
    have hsent : g₁.ledger = l := hsubmit.ledger
    intro c k hc hk
    by_cases hnew : c = c₀
    · subst hnew
      cases hwithdraw with
      | canceled hcancel hgone => exact absurd ⟨k, hk⟩ (Ledger.not_isActive_of_cancel hcancel hgone)
      | dangling => exact .inr (List.mem_append_right D List.mem_cons_self)
    · have hothers := (hmade.trans (hsent ▸ hwithdraw.touches.ledger)).others c hnew
      rw [Ledger.active?_congr hothers] at hk
      rcases hlocated c k hc hk with hplace | hdangling
      · exact .inl hplace
      · exact .inr (List.mem_append_left _ hdangling)

/-- A change of a deployment leaves each contract with its node. -/
theorem Effect.located_of_updated {node : NodeId} {contract : ContractId} {desired : Deployment}
    {r : Except DeployError Unit} (h : Deployer.Updated p node contract desired g r g')
    (hlocated : Located before g.ledger applied D) : Located before g'.ledger applied D := by
  rcases h.ledger with hsame | ⟨hash, metadata, hupdate⟩
  · exact hsame ▸ hlocated
  intro c k hc hk
  by_cases hcontract : c = contract
  · subst hcontract
    obtain ⟨k₀, hk₀, hchanged⟩ := Ledger.active?_update hupdate
    obtain rfl := Option.some.inj (hchanged.symm.trans hk)
    exact hlocated c k₀ hc hk₀
  · rw [Ledger.active?_congr ((Ledger.touches_update hupdate).others c hcontract)] at hk
    exact hlocated c k hc hk

/-- A step leaves the contracts that have been made in place on their nodes, or its error names them. -/
theorem Effect.located (h : Effect p sp applied g s o g') (hfits : FitsOne applied s)
    (hlocated : Located before g.ledger applied D) : Located before g'.ledger o.applied (D ++ o.dangling) := by
  cases h with
  | @removed node contract _ _ hcancel hgone =>
    intro c k hc hk
    have hother : c ≠ contract := by
      rintro rfl
      exact Ledger.not_isActive_of_cancel hcancel hgone ⟨k, hk⟩
    rw [Ledger.active?_congr ((Ledger.touches_cancel hcancel).others c hother)] at hk
    rcases hlocated c k hc hk with hplace | hdangling
    · have hnode : k.nodeId ≠ node := by
        intro hnode
        rw [hnode] at hplace
        exact hother (Option.some.inj (hplace.symm.trans hfits))
      exact .inl ((getElem?_erase_of_ne hnode).trans hplace)
    · exact .inr (List.mem_append_left _ hdangling)
  | kept => exact hlocated.mono fun _ => List.mem_append_left _
  | notOpened hopen => exact Effect.located_of_notOpened hopen hlocated
  | @opened node _ d r g₁ _ hopen hawait =>
    cases hopen with
    | @opened _ _ c₀ l _ _ _ hcreate hsubmit =>
      rw [Outcome.applied_of]
      intro c k hc hk
      rw [hawait.asked.ledger, hsubmit.ledger] at hk
      by_cases hnew : c = c₀
      · subst hnew
        obtain rfl := Option.some.inj ((Ledger.active?_create hcreate).symm.trans hk)
        exact .inl ExtTreeMap.getElem?_insert_self
      · rw [Ledger.active?_congr ((Ledger.touches_create hcreate).others c hnew)] at hk
        rcases hlocated c k hc hk with hplace | hdangling
        · have hnode : k.nodeId ≠ node := by
            intro hnode
            rw [hnode, hfits] at hplace
            cases hplace
          exact .inl ((getElem?_insert_of_ne hnode).trans hplace)
        · exact .inr (List.mem_append_left _ hdangling)
  | updated hupdate =>
    rw [Outcome.applied_of]
    exact (Effect.located_of_updated hupdate hlocated).mono fun _ => List.mem_append_left _

theorem Trace.located (h : Trace p sp steps applied g o g') (hfits : Fits applied steps)
    (hlocated : Located before g.ledger applied D) : Located before g'.ledger o.applied (D ++ o.dangling) := by
  induction h with
  | done => exact hlocated.mono fun _ => List.mem_append_left _
  | stopped heffect => exact heffect.located hfits.head hlocated
  | next heffect _ ih =>
    have hstep := heffect.located hfits.head hlocated
    rw [Outcome.dangling, List.append_nil] at hstep
    exact ih (hfits.tail heffect) hstep

end Step

/-! ### Reverting -/

namespace Deployer

open Step (Trace)

variable {p : Deployer} {current failed applied : NodeMap ContractId} {desired previous : NodeMap Deployment}
  {sp : Option UInt64} {cause : DeployError} {o : Outcome} {t t₁ t₂ t₃ : Timeline Grid} {g g' : Grid} {n : NodeId}
  {c : ContractId}

/-- A reconciliation that knows what runs, fails in its pass with `cause`, which leaves `failed` in place, and makes
the pass back to `previous` without error. -/
structure Reverts (p : Deployer) (current : NodeMap ContractId) (desired previous : NodeMap Deployment)
    (sp : Option UInt64) (failed applied : NodeMap ContractId) (cause : DeployError) (t t₁ t₂ t₃ : Timeline Grid) :
    Prop where
  wanted : p.settings.revertOnFailure = true
  fetch : Grid.fetchFleet current p.settings.fetchTimeout t = .ok (.ok previous, t₁)
  check : p.precheck (some previous) desired t₁ = .ok (.ok (), t₁)
  there : p.pass current desired sp t₁ = .ok (⟨failed, some cause⟩, t₂)
  back : p.pass failed previous sp t₂ = .ok (⟨applied, none⟩, t₃)

/-- What nodes run afterwards does not collide with what they ran before. -/
def Unmistaken (current applied : NodeMap ContractId) (before after : Grid) : Prop :=
  ∀ (n : NodeId) (c c' : ContractId) (old new : Deployment), current[n]? = some c → applied[n]? = some c' →
    before.deployment? n c = some old → after.deployment? n c' = some new →
    ¬ Sha2.Collide new.contentBytes old.contentBytes

/-- Every node is where it was before a pass to `desired`, which has failed with `cause` and left `failed` in
place. -/
structure Restored (current : NodeMap ContractId) (desired : NodeMap Deployment) (failed applied : NodeMap ContractId)
    (cause : DeployError) (before after : Grid) : Prop where
  nodes : ∀ n : NodeId, n ∈ applied ↔ n ∈ current
  /-- Nodes run the content that they ran. -/
  content : ∀ (n : NodeId) (c : ContractId), current[n]? = some c → ∃ c' old new, applied[n]? = some c' ∧
    before.deployment? n c = some old ∧ after.deployment? n c' = some new ∧ new.chosen = old.chosen
  /-- A node keeps its contract, unless the failed pass has dropped it: the contract was canceled, or there was none
  to cancel. -/
  kept : ∀ (n : NodeId) (c : ContractId), current[n]? = some c → applied[n]? = some c ∨
    n ∉ desired ∧ n ∉ failed ∧ (Ledger.Canceled before.ledger after.ledger c ∨ ¬ before.ledger.IsActive c ∨
      c ∈ before.ledger.vanishing)
  /-- What was made for other nodes is not active, unless it dangles. -/
  withdrawn : ∀ (c : ContractId) (k : Contract), Ledger.Made before.ledger after.ledger c →
    after.ledger.active? c = some k → k.nodeId ∉ current → c ∈ cause.dangling

/-- A pass leaves in place what it does not cancel, and cancels what is there and not wanted. -/
theorem kept_or_canceled (h : Trace p sp (Step.plan current desired) current g o g')
    (hfresh : Ledger.Fresh g.ledger g'.ledger) (honeToOne : OneToOne current) (hc : current[n]? = some c) :
    o.applied[n]? = some c ∨ n ∉ desired ∧ n ∉ o.applied ∧
      (Ledger.Canceled g.ledger g'.ledger c ∨ ¬ g.ledger.IsActive c ∨ c ∈ g.ledger.vanishing) := by
  by_cases hn : n ∈ desired
  · -- the only step about the node is a change
    refine .inl ((h.applied_of_ne fun s hs => ?_).trans hc)
    rcases Step.mem_plan_iff.mp hs with ⟨n', c', rfl, _, hunwanted⟩ | ⟨n', d, rfl, _, hnew⟩ | ⟨n', c', d, rfl, _, _⟩
    · refine .inl ?_
      rintro (rfl : n = n')
      exact hunwanted hn
    · refine .inl ?_
      rintro (rfl : n = n')
      exact hnew (mem_iff_exists_getElem?.mpr ⟨c, hc⟩)
    · exact .inr rfl
  rcases happlied : o.applied[n]? with _ | c'
  · refine .inr ⟨hn, getElem?_eq_none_iff.mp happlied, ?_⟩
    by_cases hactive : g.ledger.IsActive c
    · by_cases hlasting : c ∈ g.ledger.vanishing
      · exact .inr (.inr hlasting)
      have hplace : ∀ m : NodeId, current[m]? = some c ↔ m = n := by
        refine fun m => ⟨fun hm => honeToOne m n c hm hc, ?_⟩
        rintro rfl
        exact hc
      rcases h.secure (Step.fits_plan current desired) hfresh ⟨hplace, hactive, hlasting⟩ with hsecure | hcanceled
      · rw [(hsecure.place n).mpr rfl] at happlied
        cases happlied
      · exact .inl hcanceled
    · exact .inr (.inl hactive)
  · -- no contract is made for the node, so that what is in place is what was
    have hsame : current[n]? = some c' := by
      refine h.applied_of_not_create (fun s hs d => ?_) happlied
      rintro rfl
      rcases Step.mem_plan_iff.mp hs with ⟨_, _, hs, _⟩ | ⟨_, _, hs, _, hnew⟩ | ⟨_, _, _, hs, _⟩
      · cases hs
      · cases hs
        exact hnew (mem_iff_exists_getElem?.mpr ⟨c, hc⟩)
      · cases hs
    exact .inl (hsame.symm.trans hc)

/-- When the deployments before were all known and the pass back had no error, a reconciliation ends with the
error of the pass that failed, and every node is where it was, if contracts take new numbers and no content
that runs afterwards collides with that which ran before. -/
theorem restored_of_reverts (h : Reverts p current desired previous sp failed applied cause t t₁ t₂ t₃)
    (honeToOne : OneToOne current) (hfresh : Ledger.Fresh t.state.ledger t₃.state.ledger)
    (hcollide : Unmistaken current applied t.state t₃.state) :
    p.reconcile current desired sp t = .ok (⟨applied, some cause⟩, t₃) ∧
      Restored current desired failed applied cause t.state t₃.state := by
  refine ⟨reconcile_run_of_revert h.fetch h.check h.there h.wanted h.back, ?_⟩
  have hfetch := h.fetch
  have hledger := (Grid.asked_fetchFleet hfetch).ledger
  have hthere := trace_of_pass h.there
  have hreturn := trace_of_pass h.back
  rw [← hledger] at hfresh
  have hfreshThere := hfresh.left hthere.grows hreturn.grows
  have hknown (n : NodeId) : n ∈ previous ↔ n ∈ current := by
    constructor
    · intro hn
      obtain ⟨d, hd⟩ := mem_iff_exists_getElem?.mp hn
      obtain ⟨c, _, hc, _⟩ := Grid.fetchFleet_sound hfetch hd
      exact mem_iff_exists_getElem?.mpr ⟨c, hc⟩
    · intro hn
      obtain ⟨c, hc⟩ := mem_iff_exists_getElem?.mp hn
      exact Grid.fetchFleet_complete hfetch hc
  exact {
    nodes := fun n => (hreturn.mem_applied_iff rfl).trans (hknown n)
    content := by
      intro n c hc
      obtain ⟨d, hd⟩ := mem_iff_exists_getElem?.mp ((hknown n).mpr (mem_iff_exists_getElem?.mpr ⟨c, hc⟩))
      obtain ⟨c₀, old, hc₀, _, hold, hfetched⟩ := Grid.fetchFleet_sound hfetch hd
      obtain rfl : c₀ = c := Option.some.inj (hc₀.symm.trans hc)
      obtain ⟨c', hc', hplaced, _⟩ := hreturn.placed rfl hd
      obtain ⟨new, hnew, hsame⟩ := hplaced.content
      -- what was fetched is what ran, up to its reports
      rw [Deployment.isUnchanged_congr rfl (Deployment.chosen_congr hfetched.symm)] at hsame
      exact ⟨c', old, new, hc', hold, hnew, Deployment.chosen_eq_of_isUnchanged hsame
        (hcollide n c₀ c' old new hc hc' hold hnew)⟩
    kept := by
      intro n c hc
      rcases kept_or_canceled hthere hfreshThere honeToOne hc with hkept | ⟨hn, hdropped, hgone⟩
      · obtain ⟨d, hd⟩ := mem_iff_exists_getElem?.mp ((hknown n).mpr (mem_iff_exists_getElem?.mpr ⟨c, hc⟩))
        obtain ⟨c', hc', _, hsame⟩ := hreturn.placed rfl hd
        exact .inl (hsame c hkept ▸ hc')
      · rw [hledger] at hgone
        refine .inr ⟨hn, hdropped, ?_⟩
        exact hgone.imp_left fun hcanceled => hcanceled.of_grows hreturn.grows
    withdrawn := by
      intro c k hmade hk hn
      have hlocated := hthere.located (Step.fits_plan current desired) (located_start (l := t₁.state.ledger))
      have hlocated := hreturn.located (Step.fits_plan failed previous) hlocated
      rw [hledger] at hlocated
      rcases hlocated c k hmade.1 hk with hplace | hdangling
      · -- a contract in place is one of a node that had one before
        have hmem := (hreturn.mem_applied_iff rfl).mp (mem_iff_exists_getElem?.mpr ⟨c, hplace⟩)
        exact absurd ((hknown k.nodeId).mp hmem) hn
      · rw [Outcome.dangling, Outcome.dangling, List.append_nil] at hdangling
        exact hdangling }

/-! ### Small reverts -/

/-- The sample deployer reverts a pass that has failed, to a result that passes a test. -/
def revertsSample (current : NodeMap ContractId) (desired : NodeMap Deployment) (t : Timeline Grid)
    (test : DeployError → NodeMap ContractId → Timeline Grid → Bool) : Bool :=
  Checked.passes (Grid.fetchFleet current sample.settings.fetchTimeout t) fun fetched =>
    match fetched.1 with
    | .error _ => false
    | .ok previous =>
      Checked.passes (sample.precheck (some previous) desired fetched.2) (·.1.toOption.isSome) &&
      Checked.passes (sample.pass current desired none fetched.2) fun there =>
        match there.1.error with
        | none => false
        | some cause => Checked.passes (sample.pass there.1.applied previous none there.2) fun back =>
          back.1.error.isNone && test cause back.1.applied back.2

theorem exists_of_revertsSample {test : DeployError → NodeMap ContractId → Timeline Grid → Bool}
    (h : revertsSample current desired t test = true) : ∃ previous failed applied cause t₁ t₂ t₃,
      Reverts sample current desired previous none failed applied cause t t₁ t₂ t₃ ∧ test cause applied t₃ = true := by
  obtain ⟨⟨_ | previous, t₁⟩, hfetch, h⟩ := Checked.exists_of_passes h
  · cases h
  simp only [Bool.and_eq_true] at h
  obtain ⟨hchecked, h⟩ := h
  obtain ⟨⟨_ | ⟨⟩, t₁'⟩, hcheck, hok⟩ := Checked.exists_of_passes hchecked
  · cases hok
  obtain ⟨rfl, _⟩ := precheck_eq_ok hcheck
  obtain ⟨⟨⟨failed, _ | cause⟩, t₂⟩, hthere, h⟩ := Checked.exists_of_passes h
  · cases h
  obtain ⟨⟨⟨applied, e⟩, t₃⟩, hback, h⟩ := Checked.exists_of_passes h
  simp only [Bool.and_eq_true, Option.isNone_iff_eq_none] at h
  obtain ⟨rfl, htest⟩ := h
  exact ⟨previous, failed, applied, cause, _, t₂, t₃, ⟨rfl, hfetch, hcheck, hthere, hback⟩, htest⟩

/-- Contents that have been chosen alike do not collide. -/
theorem unmistaken_single {applied : NodeMap ContractId} {n : NodeId} {c c' : ContractId}
    (happlied : applied.toList = [(n, c')])
    (hsame : (g'.deployment? n c').map Deployment.chosen = (g.deployment? n c).map Deployment.chosen) :
    Unmistaken (single n c) applied g g' := by
  intro m a a' old new ha ha' hold hnew hcollide
  obtain ⟨rfl, rfl⟩ := getElem?_single_eq_some ha
  have hmem : (m, a') ∈ applied.toList := ExtTreeMap.mem_toList_iff_getElem?_eq_some.mpr ha'
  rw [happlied, List.mem_singleton, Prod.mk.injEq] at hmem
  obtain ⟨_, rfl⟩ := hmem
  rw [hold, hnew, Option.map_some, Option.map_some, Option.some.injEq] at hsame
  exact hcollide.1 (Deployment.contentBytes_congr hsame)

theorem restored_of_stranding : ∃ previous failed applied cause t₁ t₂ t₃,
    Reverts sample (single 1 1) (single 2 (.sample "b")) previous none failed applied cause ⟨0, strandingGrid⟩ t₁ t₂ t₃ ∧
    applied.toList = [(1, 3)] ∧ cause.dangling = [2] ∧
    Restored (single 1 1) (single 2 (.sample "b")) failed applied cause strandingGrid t₃.state := by
  have hreverts : revertsSample (single 1 1) (single 2 (.sample "b")) ⟨0, strandingGrid⟩ (fun cause applied t =>
      applied.toList == [(1, 3)] && cause.dangling == [2] && decide (Ledger.Fresh strandingGrid.ledger t.state.ledger) &&
      (t.state.deployment? 1 3).map Deployment.chosen == (strandingGrid.deployment? 1 1).map Deployment.chosen) = true := by
    decide +kernel
  obtain ⟨previous, failed, applied, cause, t₁, t₂, t₃, h, htest⟩ := exists_of_revertsSample hreverts
  simp only [Bool.and_eq_true, beq_iff_eq, decide_eq_true_eq] at htest
  obtain ⟨⟨⟨happlied, hdangling⟩, hfresh⟩, hsame⟩ := htest
  obtain ⟨_, hrestored⟩ := restored_of_reverts h (oneToOne_single 1 1) hfresh (unmistaken_single happlied hsame)
  exact ⟨previous, failed, applied, cause, t₁, t₂, t₃, h, happlied, hdangling, hrestored⟩

/-- Node 1 runs a deployment under contract 5, which is not on the ledger, and node 2 is down. -/
def missingGrid : Grid where
  ledger := .new 1
  nodes := (single 1 { Node.new with
    deployments := single 5 { Deployment.sample "a" with contractId := 5 } }).insert 2 { Node.new with down := true }
  calls := []
  attached := false
  inventory := none

/-- A node does not keep its contract although that was not canceled: the failed pass found no contract and dropped
the node, and the pass back made contract 2 for it. -/
theorem replaced_of_missing : ∃ previous failed applied cause t₁ t₂ t₃,
    Reverts sample (single 1 5) (single 2 (.sample "b")) previous none failed applied cause ⟨0, missingGrid⟩ t₁ t₂ t₃ ∧
    OneToOne (single 1 5 : NodeMap ContractId) ∧ Ledger.Fresh missingGrid.ledger t₃.state.ledger ∧
    Unmistaken (single 1 5) applied missingGrid t₃.state ∧
    ¬ Ledger.Canceled missingGrid.ledger t₃.state.ledger 5 ∧ applied[(1 : NodeId)]? = some 2 := by
  have hreverts : revertsSample (single 1 5) (single 2 (.sample "b")) ⟨0, missingGrid⟩ (fun _ applied t =>
      applied.toList == [(1, 2)] && t.state.ledger.canceled == [1] &&
      decide (Ledger.Fresh missingGrid.ledger t.state.ledger) &&
      (t.state.deployment? 1 2).map Deployment.chosen == (missingGrid.deployment? 1 5).map Deployment.chosen) = true := by
    decide +kernel
  obtain ⟨previous, failed, applied, cause, t₁, t₂, t₃, h, htest⟩ := exists_of_revertsSample hreverts
  simp only [Bool.and_eq_true, beq_iff_eq, decide_eq_true_eq] at htest
  obtain ⟨⟨⟨happlied, hcanceled⟩, hfresh⟩, hsame⟩ := htest
  refine ⟨previous, failed, applied, cause, t₁, t₂, t₃, h, oneToOne_single 1 5, hfresh,
    unmistaken_single happlied hsame, ?_, ?_⟩
  · rintro ⟨new, hnew, hmem⟩
    rw [hcanceled] at hnew
    rw [← show [1] = new from hnew, List.mem_singleton] at hmem
    exact absurd hmem (by decide)
  · refine ExtTreeMap.mem_toList_iff_getElem?_eq_some.mp ?_
    rw [happlied]
    exact List.mem_singleton.mpr rfl

end Deployer

end ComputeGrid
