import ComputeGrid.Proofs.Reconcile.Traces

/-!
# What nodes hold

A node holds a deployment that it runs under an active contract with it (`Grid.Held`).  On attached nodes
whatever is taken is held, under a contract with its hash (`Deployer.Submitted.held`).  Steps about other
nodes leave what a node holds as it is, unless they are about its contract (`Step.Effect.held_of_ne`).
-/

namespace ComputeGrid

namespace Grid

variable {g g' : Grid} {n : NodeId} {c : ContractId} {k : Contract} {d : Deployment} {ms : List NodeMethod}
  {S : NodeId → ContractId → Prop}

/-- A node runs a deployment under an active contract with it. -/
structure Held (g : Grid) (n : NodeId) (c : ContractId) (k : Contract) (d : Deployment) : Prop where
  active : g.ledger.active? c = some k
  node : k.nodeId = n
  deployment : g.deployment? n c = some d

theorem Held.notOver (h : Held g n c k d) : g.isOver c = false := isOver_eq_false_of_isActive ⟨k, h.active⟩

/-- What is held is still held after questions, up to its reports. -/
theorem Held.of_asked (h : Held g n c k d) (hasked : Asked ms S g g') :
    ∃ d', Held g' n c k d' ∧ d'.unreported = d.unreported := by
  obtain ⟨d', hd', hsame⟩ := hasked.exists_deployment h.notOver h.deployment
  exact ⟨d', ⟨hasked.ledger ▸ h.active, h.node, hd'⟩, hsame⟩

end Grid

namespace Deployer

open Grid (Held)

variable {p : Deployer} {node : NodeId} {contract : ContractId} {desired d : Deployment} {sp : Option UInt64}
  {g g₁ g' : Grid}

/-- Attached nodes hold what they have taken, under a contract with its hash. -/
theorem Submitted.held {s : Grid.Submission} (h : Submitted p s node d g (.ok ()) g') (hattached : g.attached = true) :
    ∃ k stored, Held g' node d.contractId k stored ∧ stored.unreported = d.unreported ∧
      k.deploymentHash = d.challengeHash := by
  obtain ⟨stored, hstored, hsame⟩ := h.exists_stored
  have hledger := h.ledger
  cases h with
  | taken _ htakes =>
    obtain ⟨k, hk, hnode, hhash⟩ := (Grid.refusal?_eq_none_iff.mp htakes.refusal).2.2 hattached
    exact ⟨k, stored, ⟨hk, hnode, hstored⟩, hsame, hhash⟩

/-- A question for changes leaves the contract of what has been taken as it is. -/
theorem Submitted.held_awaited {s : Grid.Submission} {expected : NameMap UInt32} {r : Except DeployError Unit}
    (h : Submitted p s node d g (.ok ()) g₁) (hattached : g.attached = true)
    (hawait : Awaited p node d.contractId expected g₁ r g') :
    ∃ k stored, Held g' node d.contractId k stored ∧ stored.unreported = d.unreported ∧
      k.deploymentHash = d.challengeHash := by
  obtain ⟨k, taken, hheld, htaken, hhash⟩ := h.held hattached
  obtain ⟨stored, hheld, hsame⟩ := hheld.of_asked hawait.asked
  exact ⟨k, stored, hheld, hsame.trans htaken, hhash⟩

end Deployer

namespace Step

open Deployer (Opened)
open Grid (Held)

variable {p : Deployer} {sp : Option UInt64} {applied : NodeMap ContractId} {s : Step} {o : Outcome} {g g' : Grid}
  {n : NodeId} {c : ContractId} {k : Contract} {d : Deployment}

/-- The contract that a step is about, if it is there before the step. -/
def contract? : Step → Option ContractId
  | remove _ contract | update _ contract _ => some contract
  | create _ _ => none

/-- The contract that a step is about is in place on its node. -/
theorem FitsOne.applied_of_contract? (h : FitsOne applied s) (hs : s.contract? = some c) :
    applied[s.node]? = some c := by
  cases s with
  | remove => exact h.trans hs
  | create => cases hs
  | update => exact h.trans hs

/-- A contract that is opened takes a new number. -/
theorem not_mem_of_opened {node : NodeId} {desired d : Deployment} (h : Opened p node desired sp g (.ok d) g')
    (hfresh : Ledger.Fresh g.ledger g'.ledger) : d.contractId ∉ g.ledger.contracts := by
  cases h with
  | opened _ _ hcreate hsubmit =>
    rw [hsubmit.ledger] at hfresh
    exact (Ledger.fresh_create_iff hcreate).mp hfresh

/-- Making a contract leaves the records of all others as they are. -/
theorem record_of_opened {node : NodeId} {desired : Deployment} {r : Except DeployError Deployment}
    (h : Opened p node desired sp g r g') (hfresh : Ledger.Fresh g.ledger g'.ledger) (hmem : c ∈ g.ledger.contracts) :
    g'.ledger.contracts[c]? = g.ledger.contracts[c]? := by
  cases h with
  | invalid => rfl
  | refused => rfl
  | @withdrawn _ _ c' l _ _ _ _ _ _ hcreate hsubmit hwithdraw =>
    have hmade := Ledger.touches_create hcreate
    -- the contract that is canceled is the new one, which is not `c`
    have hcanceled : Ledger.Touches c' l g'.ledger := by
      have htouches := hwithdraw.touches.ledger
      rw [hsubmit.ledger] at htouches
      exact htouches
    have hnew := (Ledger.fresh_create_iff hcreate).mp (hfresh.left hmade.toGrows hcanceled.toGrows)
    exact (hmade.trans hcanceled).others c fun heq => hnew (heq ▸ hmem)
  | opened _ _ hcreate hsubmit =>
    rw [hsubmit.ledger] at hfresh ⊢
    have hnew := (Ledger.fresh_create_iff hcreate).mp hfresh
    exact (Ledger.touches_create hcreate).others c fun heq => hnew (heq ▸ hmem)

/-- A step leaves the records of all contracts as they are but that of the one that it is about. -/
theorem Effect.record_of_ne (h : Effect p sp applied g s o g') (hs : s.contract? ≠ some c)
    (hfresh : Ledger.Fresh g.ledger g'.ledger) (hmem : c ∈ g.ledger.contracts) :
    g'.ledger.contracts[c]? = g.ledger.contracts[c]? := by
  have hne {c' : ContractId} (hc' : (some c' : Option ContractId) ≠ some c) : c ≠ c' := fun heq => hc' (heq ▸ rfl)
  cases h with
  | removed hcancel => exact (Ledger.touches_cancel hcancel).others c (hne hs)
  | kept => rfl
  | notOpened hopen => exact record_of_opened hopen hfresh hmem
  | opened hopen hawait =>
    rw [hawait.asked.ledger] at hfresh ⊢
    exact record_of_opened hopen hfresh hmem
  | updated hupdate => exact hupdate.touches.ledger.others c (hne hs)

theorem Effect.active?_of_ne (h : Effect p sp applied g s o g') (hs : s.contract? ≠ some c)
    (hfresh : Ledger.Fresh g.ledger g'.ledger) (hc : g.ledger.active? c = some k) :
    g'.ledger.active? c = some k :=
  (Ledger.active?_congr (h.record_of_ne hs hfresh (Ledger.IsActive.mem ⟨k, hc⟩))).trans hc

/-- Steps leave the records of all contracts as they are but those of the ones that they are about. -/
theorem Trace.record_of_ne {steps : List Step} (h : Trace p sp steps applied g o g')
    (hs : ∀ s ∈ steps, s.contract? ≠ some c) (hfresh : Ledger.Fresh g.ledger g'.ledger)
    (hmem : c ∈ g.ledger.contracts) : g'.ledger.contracts[c]? = g.ledger.contracts[c]? := by
  induction h with
  | done => rfl
  | stopped heffect => exact heffect.record_of_ne (hs _ List.mem_cons_self) hfresh hmem
  | next heffect htrace ih =>
    have hleft := hfresh.left heffect.grows htrace.grows
    have hright := hfresh.right heffect.grows htrace.grows
    rw [ih (fun s h => hs s (List.mem_cons_of_mem _ h)) hright (heffect.grows.kept c hmem)]
    exact heffect.record_of_ne (hs _ List.mem_cons_self) hleft hmem

/-- What a node holds stays as it is while a step is about another node and another contract. -/
theorem Effect.held_of_ne (h : Effect p sp applied g s o g') (hn : n ≠ s.node) (hs : s.contract? ≠ some c)
    (hfresh : Ledger.Fresh g.ledger g'.ledger) (hheld : Held g n c k d) : Held g' n c k d := by
  obtain ⟨_, htouches⟩ := h.touches
  exact ⟨h.active?_of_ne hs hfresh hheld.active, hheld.node,
    (htouches.elsewhere n c fun hat => hn hat.1).trans hheld.deployment⟩

end Step

end ComputeGrid
