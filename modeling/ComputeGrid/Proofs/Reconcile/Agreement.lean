import ComputeGrid.Proofs.Digest.Evaluation
import ComputeGrid.Proofs.Reconcile.Changes
import ComputeGrid.Proofs.Reconcile.Placement

/-!
# Whether the ledger agrees with the nodes

A node that does not take a change is left with a contract that has the hash of what it does not run.  A
pass back does not mend this: to it the deployment of the node is unchanged.

That is the only way.  After a reconciliation every contract in place is active, with its node, which runs
a deployment under it, and the contract has the hash of that deployment unless the first pass ended with a
change that this node did not take (`Deployer.hash_eq_iff_not_refused`).

`Deployer.Agree` is the invariant of both passes.  For the second it matters that a node runs what it ran
at the start or takes changes, so that no change of a pass back is refused.
-/

namespace ComputeGrid

open Std (ExtTreeMap)
open Grid (Held)

namespace Deployer

/-- How a contract in place stands in a pass from `g₀`, where `x` is what a change was not taken for: its
node holds a deployment that it covers but for that, and the deployment is the one of the start, or the
node takes changes. -/
structure Stands (p : Deployer) (g₀ : Grid) (x : Option (NodeId × ContractId)) (g : Grid) (n : NodeId)
    (c : ContractId) : Prop where
  held : ∃ k d, Held g n c k d ∧ (k.deploymentHash = d.challengeHash ↔ x ≠ some (n, c))
  origin : ∀ start, g₀.deployment? n c = some start →
    (∃ live, g.deployment? n c = some live ∧ live.unreported = start.unreported) ∨
    Receptive p g n ∧ x ≠ some (n, c)

/-- How all contracts in place stand. -/
structure Agree (p : Deployer) (g₀ : Grid) (x : Option (NodeId × ContractId)) (applied : NodeMap ContractId)
    (g : Grid) : Prop where
  attached : g.attached = true
  oneToOne : OneToOne applied
  known : ∀ (n : NodeId) (c : ContractId), x = some (n, c) → c ∈ g.ledger.contracts
  stands : ∀ (n : NodeId) (c : ContractId), applied[n]? = some c → Stands p g₀ x g n c

/-- A change can be dealt with: there is nothing to change, or it is about another contract than `x`, and
the node takes it or else it is the first that is not taken, which may happen in a first pass. -/
def Manageable (p : Deployer) (first : Prop) (x : Option (NodeId × ContractId)) (g : Grid) (s : Step) : Prop :=
  ∀ n c desired live, s = .update n c desired → g.deployment? n c = some live → live.isUnchanged desired = true ∨
    x ≠ some (n, c) ∧ (Receptive p g n ∨ first ∧ x = none ∧ live.Apart desired c)

end Deployer

namespace Step

open Deployer (Agree Stands Manageable Receptive Handled)

variable {p : Deployer} {current applied : NodeMap ContractId} {sp : Option UInt64} {s a : Step} {steps : List Step}
  {o : Outcome} {g₀ g g' : Grid} {x : Option (NodeId × ContractId)} {n : NodeId} {c : ContractId} {first : Prop}

/-- Only a change ends with a change that is not taken. -/
theorem Effect.refusedUpdate? (h : Effect p sp applied g s o g') (ho : o.refusedUpdate? = some (n, c)) :
    ∃ desired, s = .update n c desired := by
  cases h with
  | removed => cases ho
  | kept => cases ho
  | notOpened hopen =>
    cases hopen with
    | invalid => cases ho
    | refused => cases ho
    | withdrawn _ _ _ _ hwithdraw => cases hwithdraw <;> cases ho
  | @opened _ _ _ r _ _ _ hawait =>
    cases hawait with
    | converged => cases ho
    | failed _ herror => exact absurd (herror.refusedUpdate?.symm.trans ho) nofun
  | @updated node contract _ r _ hupdate =>
    cases hupdate with
    | unread hget =>
      cases hget with
      | failed hcall => exact absurd ((DeployError.refusedUpdate?_of_other_call hcall nofun).symm.trans ho) nofun
    | unchanged => cases ho
    | invalid => cases ho
    | refused => cases ho
    | failed _ _ _ hsign _ hsubmit =>
      cases hsubmit with
      | failed hcall =>
        rw [Deployer.contractId_of_sign_revision hsign] at hcall
        have hsame := (DeployError.refusedUpdate?_of_call hcall).symm.trans ho
        cases hsame
        exact ⟨_, rfl⟩
    | revised _ _ _ _ _ _ hawait =>
      cases hawait with
      | converged => cases ho
      | failed _ herror => exact absurd (herror.refusedUpdate?.symm.trans ho) nofun

/-- A contract of another node stands as before. -/
theorem Effect.stands_of_ne (h : Effect p sp applied g s o g') (hn : n ≠ s.node) (hs : s.contract? ≠ some c)
    (hfresh : Ledger.Fresh g.ledger g'.ledger) (hstands : Stands p g₀ x g n c) :
    Stands p g₀ (x.or o.refusedUpdate?) g' n c := by
  obtain ⟨_, htouches⟩ := h.touches
  have hdeployment := htouches.elsewhere n c fun hat => hn hat.1
  -- a change that is not taken is one for the node of the step
  have hiff : x.or o.refusedUpdate? ≠ some (n, c) ↔ x ≠ some (n, c) := by
    rcases x with _ | y
    · rw [Option.none_or]
      refine iff_of_true (fun ho => hn ?_) nofun
      obtain ⟨_, rfl⟩ := h.refusedUpdate? ho
      rfl
    · rw [Option.some_or]
  obtain ⟨k, d, hheld, hhash⟩ := hstands.held
  refine ⟨⟨k, d, h.held_of_ne hn hs hfresh hheld, hhash.trans hiff.symm⟩, fun start hstart => ?_⟩
  rcases hstands.origin start hstart with ⟨live, hlive, hsame⟩ | ⟨hreceptive, hx⟩
  · exact .inl ⟨live, hdeployment.trans hlive, hsame⟩
  · exact .inr ⟨hreceptive.of_steady h.steady, hiff.mpr hx⟩

/-- A contract that is made stands, and is another than `x`. -/
theorem Effect.stands_of_create {node : NodeId} {desired : Deployment} (h : Effect p sp applied g (.create node desired) o g')
    (hagree : Agree p g₀ x applied g) (hnode : applied[node]? = none) (hfresh : Ledger.Fresh g.ledger g'.ledger)
    (hc : o.applied[node]? = some c) : Stands p g₀ (x.or o.refusedUpdate?) g' node c ∧ c ∉ g.ledger.contracts := by
  have hnone : o.refusedUpdate? = none := by
    rcases ho : o.refusedUpdate? with _ | ⟨n, c⟩
    · rfl
    · obtain ⟨_, hs⟩ := h.refusedUpdate? ho
      cases hs
  have hreceptive := h.steady
  cases h with
  | notOpened => exact absurd (hnode.symm.trans hc) nofun
  | @opened _ _ d r g₁ _ hopen hawait =>
    rw [Outcome.applied_of, ExtTreeMap.getElem?_insert_self] at hc
    obtain rfl := Option.some.inj hc
    rw [hnone, Option.or_none]
    cases hopen with
    | @opened sealed _ c l _ _ _ hcreate hsubmit =>
      have hnew : c ∉ g.ledger.contracts := by
        rw [hawait.asked.ledger, hsubmit.ledger] at hfresh
        exact (Ledger.fresh_create_iff hcreate).mp hfresh
      -- `x` is about a contract on the ledger, and this one is new
      have hx : x ≠ some (node, c) := fun hx => hnew (hagree.known node c hx)
      have hready : Receptive p g node := hsubmit.receptive
      obtain ⟨k, stored, hheld, hsame, hhash⟩ := hsubmit.held_awaited hagree.attached hawait
      refine ⟨⟨⟨k, stored, hheld, iff_of_true ?_ hx⟩, fun _ _ => .inr ⟨hready.of_steady hreceptive, hx⟩⟩, hnew⟩
      exact hhash.trans (Deployment.challengeHash_congr hsame).symm

/-- A contract that is to be changed stands whatever comes of that. -/
theorem Effect.stands_of_update {node : NodeId} {contract : ContractId} {desired : Deployment}
    (h : Effect p sp applied g (.update node contract desired) o g') (hagree : Agree p g₀ x applied g)
    (hmanage : Manageable p first x g (.update node contract desired)) (hnode : applied[node]? = some contract) :
    Stands p g₀ (x.or o.refusedUpdate?) g' node contract := by
  have hsteady := h.steady
  have hstands := hagree.stands node contract hnode
  obtain ⟨k, d, hheld, hhash⟩ := hstands.held
  have hmanage := hmanage node contract desired d rfl hheld.deployment
  have horigin (hsame : ∃ d', g'.deployment? node contract = some d' ∧ d'.unreported = d.unreported) {start : Deployment}
      (hstart : ∃ live, g.deployment? node contract = some live ∧ live.unreported = start.unreported) :
      ∃ live, g'.deployment? node contract = some live ∧ live.unreported = start.unreported := by
    obtain ⟨d', hd', hsame⟩ := hsame
    obtain ⟨live, hlive, hstart⟩ := hstart
    obtain rfl : live = d := Option.some.inj (hlive.symm.trans hheld.deployment)
    exact ⟨d', hd', hsame.trans hstart⟩
  cases h with
  | @updated _ _ _ r _ hupdate =>
    have hhandled := hupdate.handled hagree.attached hheld applied
    generalize (Outcome.of applied r).refusedUpdate? = y at hhandled
    cases hhandled with
    | @kept d' _ hheld' hsame =>
      rw [Option.or_none]
      refine ⟨⟨k, d', hheld', ?_⟩, fun start hstart => ?_⟩
      · rw [Deployment.challengeHash_congr hsame]
        exact hhash
      · exact (hstands.origin start hstart).imp (horigin ⟨d', hheld'.deployment, hsame⟩)
          fun ⟨hreceptive, hx⟩ => ⟨hreceptive.of_steady hsteady, hx⟩
    | @changed k' d' _ hheld' hhash' hdiffers hreceptive =>
      rw [Option.or_none]
      obtain ⟨hx, _⟩ := hmanage.resolve_left (Bool.eq_false_iff.mp hdiffers)
      exact ⟨⟨k', d', hheld', iff_of_true hhash' hx⟩, fun _ _ => .inr ⟨hreceptive.of_steady hsteady, hx⟩⟩
    | @refused k' d' version _ hheld' hsame hnext hhash' hdiffers hnot =>
      -- Only the first change that is not taken comes to this: after it every change is taken.
      obtain ⟨_, hready⟩ := hmanage.resolve_left (Bool.eq_false_iff.mp hdiffers)
      obtain ⟨_, rfl, hapart⟩ := hready.resolve_left hnot
      rw [Option.none_or]
      refine ⟨⟨k', d', hheld', iff_of_false ?_ fun hne => hne rfl⟩, fun start hstart => ?_⟩
      · rw [hhash', Deployment.challengeHash_congr hsame]
        exact hapart.hash_ne hnext
      · refine (hstands.origin start hstart).imp (horigin ⟨d', hheld'.deployment, hsame⟩) ?_
        exact fun ⟨hreceptive, _⟩ => absurd hreceptive hnot

/-- A contract that is not canceled stands as before. -/
theorem Effect.stands_of_remove {node : NodeId} {contract : ContractId}
    (h : Effect p sp applied g (.remove node contract) o g') (hagree : Agree p g₀ x applied g)
    (hc : o.applied[node]? = some c) : Stands p g₀ (x.or o.refusedUpdate?) g' node c := by
  cases h with
  | removed =>
    have hnone : (applied.erase node)[node]? = none := ExtTreeMap.getElem?_erase_self
    exact absurd (hnone.symm.trans hc) nofun
  | kept =>
    show Stands p g₀ (x.or none) g node c
    rw [Option.or_none]
    exact hagree.stands node c hc

/-- Contracts in place stay different. -/
theorem Effect.oneToOne (h : Effect p sp applied g s o g') (honeToOne : OneToOne applied)
    (hnew : ∀ node desired c, s = .create node desired → o.applied[node]? = some c → ∀ n : NodeId, applied[n]? ≠ some c) :
    OneToOne o.applied := by
  cases h with
  | @removed node => exact honeToOne.erase node
  | kept => exact honeToOne
  | notOpened => exact honeToOne
  | @opened node desired d =>
    rw [Outcome.applied_of] at hnew ⊢
    exact honeToOne.insert (hnew node desired d.contractId rfl ExtTreeMap.getElem?_insert_self)
  | updated =>
    rw [Outcome.applied_of]
    exact honeToOne

end Step

namespace Deployer

open Step (Effect Trace FitsOne Fits)

variable {p : Deployer} {current applied : NodeMap ContractId} {sp : Option UInt64} {s a : Step} {steps : List Step}
  {o : Outcome} {g₀ g g' : Grid} {x : Option (NodeId × ContractId)} {n : NodeId} {c : ContractId} {first : Prop}

theorem Agree.mem (h : Agree p g₀ x applied g) (hc : applied[n]? = some c) : c ∈ g.ledger.contracts := by
  obtain ⟨k, d, hheld, _⟩ := (h.stands n c hc).held
  exact Ledger.IsActive.mem ⟨k, hheld.active⟩

/-- A step keeps the invariant, up to a change that is not taken. -/
theorem Agree.step (h : Agree p g₀ x applied g) (hfits : FitsOne applied s) (hmanage : Manageable p first x g s)
    (heffect : Effect p sp applied g s o g') (hfresh : Ledger.Fresh g.ledger g'.ledger) :
    Agree p g₀ (x.or o.refusedUpdate?) o.applied g' where
  attached := heffect.steady.attached.trans h.attached
  oneToOne := by
    refine heffect.oneToOne h.oneToOne ?_
    rintro node desired c rfl hc n hn
    exact (heffect.stands_of_create h hfits hfresh hc).2 (h.mem hn)
  known := by
    intro n c hx
    refine heffect.grows.kept c ?_
    rcases x with _ | y
    · rw [Option.none_or] at hx
      obtain ⟨desired, rfl⟩ := heffect.refusedUpdate? hx
      exact h.mem hfits
    · exact h.known n c hx
  stands := by
    intro n c hc
    by_cases hn : n = s.node
    · subst hn
      cases s with
      | remove node contract => exact heffect.stands_of_remove h hc
      | create node desired => exact (heffect.stands_of_create h hfits hfresh hc).1
      | update node contract desired =>
        have hsame : contract = c := by
          cases heffect with
          | updated =>
            rw [Outcome.applied_of] at hc
            exact Option.some.inj (hfits.symm.trans hc)
        exact hsame ▸ heffect.stands_of_update h hmanage hfits
    · rw [heffect.applied_of_ne hn] at hc
      refine heffect.stands_of_ne hn (fun hcontract => hn ?_) hfresh (h.stands n c hc)
      exact h.oneToOne n s.node c hc (hfits.applied_of_contract? hcontract)

/-- Where all changes are taken but in a first pass, one that is not is of the first pass. -/
theorem Agree.first_of_refused (h : Agree p g₀ x applied g) (hfits : FitsOne applied s) (hmanage : Manageable p first x g s)
    (heffect : Effect p sp applied g s o g') (ho : o.refusedUpdate? = some (n, c)) : first := by
  obtain ⟨desired, rfl⟩ := heffect.refusedUpdate? ho
  obtain ⟨k, d, hheld, _⟩ := (h.stands n c hfits).held
  cases heffect with
  | updated hupdate =>
    have hhandled := hupdate.handled h.attached hheld applied
    rw [ho] at hhandled
    cases hhandled with
    | refused _ _ _ _ hdiffers hnot =>
      obtain ⟨_, hready⟩ := (hmanage n c desired d rfl hheld.deployment).resolve_left (Bool.eq_false_iff.mp hdiffers)
      exact (hready.resolve_left hnot).1

theorem Manageable.of_before (h : Manageable p first x g s) (hbefore : Step.Before a s)
    (heffect : Effect p sp applied g a o g') : Manageable p first x g' s := by
  rintro n c desired live rfl hlive
  obtain ⟨_, htouches⟩ := heffect.touches
  rw [htouches.elsewhere n c fun hat => hbefore.1 hat.1.symm] at hlive
  refine (h n c desired live rfl hlive).imp_right (And.imp_right (Or.imp_left ?_))
  exact fun hreceptive => hreceptive.of_steady heffect.steady

/-- A pass keeps the invariant, up to a change that is not taken. -/
theorem Agree.trace (h : Agree p g₀ x applied g) (hfits : Fits applied steps)
    (hmanage : ∀ s ∈ steps, Manageable p first x g s) (htrace : Trace p sp steps applied g o g')
    (hfresh : Ledger.Fresh g.ledger g'.ledger) :
    Agree p g₀ (x.or o.refusedUpdate?) o.applied g' ∧ ∀ y, o.refusedUpdate? = some y → first := by
  induction htrace with
  | done =>
    refine ⟨?_, nofun⟩
    show Agree p g₀ (x.or none) _ _
    rw [Option.or_none]
    exact h
  | stopped heffect =>
    have hfirst := hmanage _ List.mem_cons_self
    exact ⟨h.step hfits.head hfirst heffect hfresh, fun _ ho => h.first_of_refused hfits.head hfirst heffect ho⟩
  | @next s rest applied applied₁ g g₁ o g' heffect htrace ih =>
    have hstep := h.step hfits.head (hmanage s List.mem_cons_self) heffect (hfresh.left heffect.grows htrace.grows)
    change Agree p g₀ (x.or none) applied₁ g₁ at hstep
    rw [Option.or_none] at hstep
    refine ih hstep (hfits.tail heffect) (fun b hb => ?_) (hfresh.right heffect.grows htrace.grows)
    exact (hmanage b (List.mem_cons_of_mem s hb)).of_before ((List.pairwise_cons.mp hfits.order).1 b hb) heffect

/-! ### Reconciliations -/

variable {desired previous : NodeMap Deployment} {t t' : Timeline Grid} {g₁ : Grid}

/-- Each contract covers what its node holds under it. -/
def Covered (current : NodeMap ContractId) (g : Grid) : Prop :=
  ∀ (n : NodeId) (c : ContractId), current[n]? = some c → ∃ k d, Held g n c k d ∧ k.deploymentHash = d.challengeHash

/-- Nothing that runs can be taken for its revision to what is wanted. -/
def ApartFrom (current : NodeMap ContractId) (desired : NodeMap Deployment) (g : Grid) : Prop :=
  ∀ (n : NodeId) (c : ContractId) (live d : Deployment), current[n]? = some c → g.deployment? n c = some live →
    desired[n]? = some d → live.Apart d c

theorem agree_of_asked {ms : List NodeMethod} {S : NodeId → ContractId → Prop} (hattached : g.attached = true)
    (honeToOne : OneToOne current) (hcovered : Covered current g) (hasked : Grid.Asked ms S g g') :
    Agree p g none current g' := by
  refine ⟨hasked.attached.trans hattached, honeToOne, nofun, fun n c hc => ?_⟩
  obtain ⟨k, d, hheld, hhash⟩ := hcovered n c hc
  obtain ⟨d', hheld', hsame⟩ := hheld.of_asked hasked
  refine ⟨⟨k, d', hheld', iff_of_true ?_ nofun⟩, fun start hstart => .inl ⟨d', hheld'.deployment, ?_⟩⟩
  · exact hhash.trans (Deployment.challengeHash_congr hsame).symm
  · obtain rfl : d = start := Option.some.inj (hheld.deployment.symm.trans hstart)
    exact hsame

theorem Attempted.agree (h : Attempted p current desired sp g o g') (hattached : g.attached = true)
    (honeToOne : OneToOne current) (hcovered : Covered current g) (hapart : ApartFrom current desired g)
    (hfresh : Ledger.Fresh g.ledger g'.ledger) : Agree p g o.refusedUpdate? o.applied g' := by
  obtain ⟨g₁, hasked, htrace⟩ := h.exists_trace
  rw [← hasked.ledger] at hfresh
  have hstart : Agree p g none current g₁ := agree_of_asked hattached honeToOne hcovered hasked
  -- in a first pass any change may be the one that is not taken
  have hmanage : ∀ s ∈ Step.plan current desired, Manageable p True none g₁ s := by
    rintro s hs n c d live rfl hlive
    rcases Step.mem_plan_iff.mp hs with ⟨_, _, hs, _⟩ | ⟨_, _, hs, _⟩ | ⟨_, _, _, hs, hc, hd⟩
    · cases hs
    · cases hs
    cases hs
    obtain ⟨k, start, hheld, _⟩ := hcovered n c hc
    obtain ⟨live', hlive', hsame⟩ := hasked.exists_deployment hheld.notOver hheld.deployment
    obtain rfl : live = live' := Option.some.inj (hlive.symm.trans hlive')
    exact .inr ⟨nofun, .inr ⟨trivial, rfl, (hapart n c start d hc hheld.deployment hd).congr hsame⟩⟩
  exact (hstart.trace (Step.fits_plan current desired) hmanage htrace hfresh).1

/-- A node that had a contract has no other after a pass. -/
theorem Attempted.eq_of_applied {c₀ : ContractId} (h : Attempted p current desired sp g o g')
    (hc₀ : current[n]? = some c₀) (hc : o.applied[n]? = some c) : c = c₀ := by
  obtain ⟨g₁, _, htrace⟩ := h.exists_trace
  have hold := htrace.applied_of_not_create (n := n) ?_ hc
  · exact Option.some.inj (hold.symm.trans hc₀)
  rintro s hs d rfl
  rcases Step.mem_plan_iff.mp hs with ⟨_, _, hs, _⟩ | ⟨_, _, hs, _, hnew⟩ | ⟨_, _, _, hs, _⟩
  · cases hs
  · cases hs
    exact hnew (mem_iff_exists_getElem?.mpr ⟨c₀, hc₀⟩)
  · cases hs

/-- A pass back keeps the invariant, and none of its changes is one that is not taken. -/
theorem Agree.back (h : Agree p g x applied g₁) (hfleet : Fleet current g previous)
    (hsame : ∀ (n : NodeId) (c₀ c : ContractId), current[n]? = some c₀ → applied[n]? = some c → c = c₀)
    (hback : Trace p sp (Step.plan applied previous) applied g₁ o g') (hfresh : Ledger.Fresh g₁.ledger g'.ledger) :
    Agree p g x o.applied g' := by
  have hmanage : ∀ s ∈ Step.plan applied previous, Manageable p False x g₁ s := by
    rintro s hs n c d live rfl hlive
    rcases Step.mem_plan_iff.mp hs with ⟨_, _, hs, _⟩ | ⟨_, _, hs, _⟩ | ⟨_, _, _, hs, hc, hd⟩
    · cases hs
    · cases hs
    cases hs
    obtain ⟨c₀, start, hc₀, _, hstart, hcontent⟩ := hfleet n d hd
    obtain rfl := hsame n c₀ c hc₀ hc
    -- the node runs what it ran at the start, which is what it is to go back to, or it takes changes
    rcases (h.stands n c hc).origin start hstart with ⟨live', hlive', hkept⟩ | ⟨hreceptive, hx⟩
    · obtain rfl : live = live' := Option.some.inj (hlive.symm.trans hlive')
      exact .inl (Deployment.isUnchanged_of_chosen_eq (Deployment.chosen_congr (hkept.trans hcontent)))
    · exact .inr ⟨hx, .inl hreceptive⟩
  obtain ⟨hagree, hfirst⟩ := h.trace (Step.fits_plan applied previous) hmanage hback hfresh
  have hnone : o.refusedUpdate? = none := by
    rcases ho : o.refusedUpdate? with _ | y
    · rfl
    · exact (hfirst y ho).elim
  rw [hnone, Option.or_none] at hagree
  exact hagree

/-- A reconciliation keeps the invariant, up to the change that its error names as not taken. -/
theorem Reconciled.agree (h : Reconciled p current desired sp g o g') (hattached : g.attached = true)
    (honeToOne : OneToOne current) (hcovered : Covered current g) (hapart : ApartFrom current desired g)
    (hfresh : Ledger.Fresh g.ledger g'.ledger) : Agree p g o.refusedUpdate? o.applied g' := by
  cases h with
  | refused hasked hunmet =>
    show Agree p g (DeployError.refusedUpdate? _) current _
    rw [hunmet.refusedUpdate?]
    exact agree_of_asked hattached honeToOne hcovered hasked
  | passed hattempt => exact hattempt.agree hattached honeToOne hcovered hapart hfresh
  | unrevertable hattempt => exact hattempt.agree hattached honeToOne hcovered hapart hfresh
  | reverted hfleet hattempt hback =>
    have hfailed := hattempt.agree hattached honeToOne hcovered hapart (hfresh.left hattempt.grows hback.grows)
    have hright := hfresh.right hattempt.grows hback.grows
    have hreverted := hfailed.back hfleet (fun _ _ _ => hattempt.eq_of_applied) hback hright
    exact hreverted
  | revertFailed hfleet hattempt hback =>
    have hfailed := hattempt.agree hattached honeToOne hcovered hapart (hfresh.left hattempt.grows hback.grows)
    have hright := hfresh.right hattempt.grows hback.grows
    have hreverted := hfailed.back hfleet (fun _ _ _ => hattempt.eq_of_applied) hback hright
    exact hreverted

/-- After a reconciliation every contract in place is active and with its node, which runs a deployment
under it.  The contract has the hash of that deployment exactly when the first pass did not end with a
change of it that the node did not take. -/
theorem hash_eq_iff_not_refused (h : p.reconcile current desired sp t = .ok (o, t')) (hattached : t.state.attached = true)
    (honeToOne : OneToOne current)
    (hcovered : ∀ (n : NodeId) (c : ContractId), current[n]? = some c →
      ∃ k d, Held t.state n c k d ∧ k.deploymentHash = d.challengeHash)
    (hfresh : Ledger.Fresh t.state.ledger t'.state.ledger)
    (hapart : ∀ (n : NodeId) (c : ContractId) (live d : Deployment), current[n]? = some c →
      t.state.deployment? n c = some live → desired[n]? = some d → live.Apart d c)
    (n : NodeId) (c : ContractId) (hc : o.applied[n]? = some c) :
    ∃ k d, Held t'.state n c k d ∧ (k.deploymentHash = d.challengeHash ↔ o.refusedUpdate? ≠ some (n, c)) := by
  have hagree := (reconciled_of_reconcile h).agree hattached honeToOne hcovered hapart hfresh
  exact (hagree.stands n c hc).held

/-! ### A node that refuses -/

/-- A deployment that runs under contract 1. -/
def runningSample : Deployment := { Deployment.sample "a" with contractId := 1 }

/-- Node 1 runs a deployment under a contract with its hash, and refuses whatever is submitted. -/
def refusingGrid : Grid where
  ledger := { Ledger.new 1 with nextId := 2, contracts := single 1 (.sample 1 1 runningSample.challengeHash) }
  nodes := single 1 { Node.new with deployments := single 1 runningSample, refusal := some "full" }
  calls := []
  attached := true
  inventory := none

/-- The grid after the deployment has been asked for. -/
def refusingGrid.asked : Grid := refusingGrid.record 1 NodeMethod.get.text

theorem fetchFleet_refusingGrid :
    Grid.fetchFleet (single 1 1) sample.settings.fetchTimeout ⟨0, refusingGrid⟩ =
      .ok (.ok (single 1 runningSample), ⟨0, refusingGrid.asked⟩) := by
  rw [Grid.fetchFleet_run]
  generalize hf : refusingGrid.fetchInOrder _ _ _ = f
  have hdeployments : f.deployments = single 1 runningSample := by
    subst hf
    exact ExtTreeMap.toList_inj.mp (by decide +kernel)
  have hfailures : f.failures.isEmpty = true := by
    subst hf
    decide +kernel
  rw [Grid.Fetched.result, if_pos hfailures, hdeployments]
  subst hf
  rfl

theorem held_refusingGrid :
    Held refusingGrid.asked 1 1 (.sample 1 1 runningSample.challengeHash) runningSample :=
  ⟨rfl, rfl, rfl⟩

theorem answers_refusingGrid : refusingGrid.asked.Answers 1 sample.settings.fetchTimeout :=
  ⟨_, rfl, rfl, Nat.zero_le _⟩

/-- The change of the deployment is not taken. -/
theorem update_refusingGrid : ∃ e t',
    sample.update 1 1 (.sample "b") ⟨0, refusingGrid.asked⟩ = .ok (.error e, t') ∧
    e.refusedUpdate? = some (1, 1) := by
  have hdiffers : runningSample.isUnchanged (.sample "b") = false := by
    have hnames : runningSample.sameNames (.sample "b") = false := by decide +kernel
    rw [Deployment.isUnchanged, hnames, Bool.and_false]
  have hnot : ¬ Receptive sample refusingGrid.asked 1 := by
    rintro ⟨_, node, hnode, hrefusal⟩
    cases hnode
    cases hrefusal
  have honline : refusingGrid.asked.ledger.online = true := rfl
  have hnext : Checked.add32 runningSample.version 1 = .ok 1 := rfl
  exact update_run_of_not_receptive held_refusingGrid answers_refusingGrid honline hdiffers hnext (sign_run rfl) hnot

/-- A pass and one back leave the contract in place, with the error that the change was not taken. -/
theorem reconcile_refusingGrid : ∃ e t',
    sample.reconcile (single 1 1) (single 1 (.sample "b")) none ⟨0, refusingGrid⟩ =
      .ok (⟨single 1 1, some e⟩, t') ∧
    e.refusedUpdate? = some (1, 1) ∧ Ledger.Fresh refusingGrid.ledger t'.state.ledger := by
  obtain ⟨e, t₁, hupdate, hrefused⟩ := update_refusingGrid
  have hupdated := updated_of_update hupdate
  have hpass : sample.pass (single 1 1) (single 1 (.sample "b")) none ⟨0, refusingGrid.asked⟩ =
      .ok (⟨single 1 1, some e⟩, t₁) := by
    have hstep : (Step.update 1 1 (.sample "b")).run sample none (single 1 1) ⟨0, refusingGrid.asked⟩ =
        .ok (⟨single 1 1, some e⟩, t₁) := Timed.bind_run hupdate
    exact Timed.bind_run hstep
  have hplaced : Placed sample t₁.state 1 1 runningSample := by
    have hhandled := hupdated.handled rfl held_refusingGrid (single 1 1)
    change Handled sample 1 1 _ _ _ _ e.refusedUpdate? _ at hhandled
    rw [hrefused] at hhandled
    cases hhandled with
    | refused hheld hsame =>
      refine ⟨hupdated.touches.toSteady.answers answers_refusingGrid, hheld.notOver, _, hheld.deployment, ?_⟩
      exact Deployment.isUnchanged_of_chosen_eq (Deployment.chosen_congr hsame)
  have hsteps : ∀ s ∈ Step.plan (single 1 1) (single 1 runningSample), ∃ n c d, s = .update n c d ∧
      (single 1 1 : NodeMap ContractId)[n]? = some c ∧ Placed sample t₁.state n c d := by
    intro s hs
    obtain rfl := List.mem_singleton.mp hs
    exact ⟨1, 1, runningSample, rfl, rfl, hplaced⟩
  obtain ⟨t₂, hback, hasked⟩ := runAll_run_of_placed none hsteps
  refine ⟨e, t₂, reconcile_run_of_revert fetchFleet_refusingGrid rfl hpass rfl hback, hrefused, ?_⟩
  rw [hasked.ledger]
  exact hupdated.fresh

theorem apart_runningSample : runningSample.Apart (.sample "b") 1 := by
  have hdigest : Sha2.sha256 runningSample.challengeBytes ≠
      Sha2.sha256 ((Deployment.sample "b").revise runningSample 1 1).challengeBytes := by
    rw [Deployment.challengeBytes, Deployment.challengeBytes, Json.renderBytes_eq, Json.renderBytes_eq, Sha2.sha256_eq,
      Sha2.sha256_eq]
    decide +kernel
  intro version hversion hcollide
  obtain rfl : version = 1 := by
    cases hversion
    rfl
  exact hdigest hcollide.2

/-- After a pass that the node refused and one back, which succeeded, the contract does not have the hash of
what the node runs. -/
theorem hash_ne_of_refusal : ∃ e t',
    sample.reconcile (single 1 1) (single 1 (.sample "b")) none ⟨0, refusingGrid⟩ =
      .ok (⟨single 1 1, some e⟩, t') ∧
    ∃ k d, Held t'.state 1 1 k d ∧ k.deploymentHash ≠ d.challengeHash := by
  obtain ⟨e, t', hrun, hrefused, hfresh⟩ := reconcile_refusingGrid
  refine ⟨e, t', hrun, ?_⟩
  have hcovered : ∀ (n : NodeId) (c : ContractId), (single 1 1 : NodeMap ContractId)[n]? = some c →
      ∃ k d, Held refusingGrid n c k d ∧ k.deploymentHash = d.challengeHash := by
    intro n c hc
    obtain ⟨rfl, rfl⟩ := getElem?_single_eq_some hc
    exact ⟨_, runningSample, ⟨rfl, rfl, rfl⟩, rfl⟩
  have hapart : ∀ (n : NodeId) (c : ContractId) (live d : Deployment), (single 1 1 : NodeMap ContractId)[n]? = some c →
      refusingGrid.deployment? n c = some live → (single 1 (.sample "b") : NodeMap Deployment)[n]? = some d →
      live.Apart d c := by
    intro n c live d hc hlive hd
    obtain ⟨rfl, rfl⟩ := getElem?_single_eq_some hc
    obtain ⟨_, rfl⟩ := getElem?_single_eq_some hd
    obtain rfl : runningSample = live := Option.some.inj hlive
    exact apart_runningSample
  obtain ⟨k, d, hheld, hiff⟩ :=
    hash_eq_iff_not_refused hrun rfl (oneToOne_single 1 1) hcovered hfresh hapart 1 1 rfl
  exact ⟨k, d, hheld, fun hhash => hiff.mp hhash hrefused⟩

end Deployer

end ComputeGrid
