import ComputeGrid.Proofs.Deployment.Encoding
import ComputeGrid.Proofs.Reconcile.Holdings
import ComputeGrid.Proofs.Reconcile.Runs

/-!
# What comes of a change of what is held

A change of a deployment is written to the ledger before it is submitted to the node.  A contract and the
deployment that is held under it stay as they were, or both are changed, or only the contract is
(`Deployer.Handled`).  The last comes about on a node that is not receptive, with an error that says so
(`DeployError.refusedUpdate?`).  The contract then has a hash that is not the one of what the node runs
(`Deployment.Apart.hash_ne`).
-/

namespace ComputeGrid

open Grid (Held)

/-- The node and the contract of a change that was not taken, if a first pass ended with that. -/
def DeployError.refusedUpdate? : DeployError → Option (NodeId × ContractId)
  | rpc node contract .update _ | timeout node contract .update _ => some (node, contract)
  | revertUnavailable cause | revertFailed cause _ => cause.refusedUpdate?
  | _ => none

/-- The node and the contract of a change that was not taken, if the outcome is due to that. -/
def Outcome.refusedUpdate? (o : Outcome) : Option (NodeId × ContractId) := o.error.bind (·.refusedUpdate?)

namespace DeployError

variable {e : DeployError} {node : NodeId} {contract : ContractId}

theorem refusedUpdate?_of_call (h : e.call? = some (node, contract, .update)) :
    e.refusedUpdate? = some (node, contract) := by
  cases e
  all_goals cases h
  · rfl
  · rfl

theorem refusedUpdate?_of_other_call {m : NodeMethod} (h : e.call? = some (node, contract, m)) (hm : m ≠ .update) :
    e.refusedUpdate? = none := by
  cases e
  all_goals cases h
  all_goals
    cases m
    all_goals first | rfl | exact absurd rfl hm

theorem NotConverged.refusedUpdate? (h : NotConverged node contract e) : e.refusedUpdate? = none := by
  cases h <;> rfl

theorem Unmet.refusedUpdate? (h : e.Unmet) : e.refusedUpdate? = none := by
  cases h <;> rfl

end DeployError

/-- The revision of a live deployment is not taken for it, since their challenges do not collide. -/
def Deployment.Apart (live desired : Deployment) (contract : ContractId) : Prop :=
  ∀ version, Checked.add32 live.version 1 = .ok version →
    ¬ Sha2.Collide live.challengeBytes (desired.revise live contract version).challengeBytes

namespace Deployment

variable {a b desired : Deployment} {contract : ContractId} {version : UInt32}

theorem Apart.congr (h : Apart a desired contract) (hsame : b.unreported = a.unreported) :
    Apart b desired contract := by
  intro version hversion
  rw [version_congr hsame] at hversion
  rw [challengeBytes_congr hsame, revise_congr hsame]
  exact h version hversion

/-- A revision has another hash, since it has a higher version. -/
theorem Apart.hash_ne (h : Apart a desired contract) (hversion : Checked.add32 a.version 1 = .ok version) :
    (desired.revise a contract version).challengeHash ≠ a.challengeHash := by
  intro heq
  have hsame : a.version = version := version_eq_of_challengeHash heq.symm (h version hversion)
  have hnext := Checked.toNat_of_add32 hversion
  rw [hsame] at hnext
  exact Nat.succ_ne_self _ hnext.symm

end Deployment

namespace Deployer

open Grid (Steady)

variable {p : Deployer} {n : NodeId} {c : ContractId} {desired d : Deployment} {k : Contract} {g g₁ g' : Grid}

/-- The node takes whatever is valid and covered. -/
def Receptive (p : Deployer) (g : Grid) (n : NodeId) : Prop :=
  g.Answers n p.settings.submitTimeout ∧ ∃ node, g.nodes[n]? = some node ∧ node.refusal = none

theorem Receptive.of_steady (h : Receptive p g n) (hsteady : Steady g g') : Receptive p g' n := by
  obtain ⟨hanswers, node, hnode, hrefusal⟩ := h
  obtain ⟨node', hnode', htraits⟩ := hsteady.exists_node hnode
  have hsame : node'.refusal = node.refusal := (congrArg Node.refusal htraits :)
  exact ⟨hsteady.answers hanswers, node', hnode', hsame.trans hrefusal⟩

/-- A node that has taken a deployment is receptive. -/
theorem Submitted.receptive {s : Grid.Submission} (h : Submitted p s n d g (.ok ()) g') : Receptive p g n := by
  cases h with
  | taken hanswers htakes =>
    refine ⟨hanswers, _, htakes.known, ?_⟩
    cases s with
    | first => exact (Grid.rejection?_first_eq_none_iff.mp htakes.rejection).1
    | change => exact (Grid.rejection?_change_eq_none_iff.mp htakes.rejection).1

/-- A receptive node takes the revision of what it holds. -/
theorem Submitted.not_receptive {live : Deployment} {version : UInt32} {l : Ledger} {e : DeployError}
    (h : Submitted p .change n d { g with ledger := l } (.error e) g')
    (hlive : g.deployment? n c = some live) (hnext : Checked.add32 live.version 1 = .ok version)
    (hsign : p.sign n (desired.revise live c version) = .ok d) (hactive : l.active? c = some k) (hk : k.nodeId = n)
    (hhash : k.deploymentHash = d.challengeHash) : ¬ Receptive p g n := by
  rintro ⟨hanswers, node, hnode, hrefusal⟩
  have hcontract := contractId_of_sign_revision hsign
  obtain ⟨hd, hvalid⟩ := sign_eq_ok hsign
  cases h with
  | failed _ hnot =>
    refine hnot ⟨hanswers, node, hnode, ?_, ?_⟩
    · refine Grid.refusal?_eq_none_iff.mpr ⟨hvalid, ?_, fun _ => ⟨k, ?_, hk, hhash⟩⟩
      · rw [hd]
        exact List.cons_ne_nil _ _
      · rw [hcontract]
        exact hactive
    · refine Grid.rejection?_change_eq_none_iff.mpr ⟨hrefusal, live, ?_, ?_⟩
      · rw [Grid.deployment?, hnode] at hlive
        rw [hcontract]
        exact hlive
      · rw [hd, UInt32.lt_iff_toNat_lt]
        exact Nat.lt_of_lt_of_eq (Nat.lt_succ_self _) (Checked.toNat_of_add32 hnext).symm

/-- A revision that is not taken leaves the deployment to the node and its own hash to the contract. -/
theorem Submitted.refused {sealed : Deployment} {version : UInt32} {l : Ledger} {e : DeployError}
    (h : Submitted p .change n sealed { g with ledger := l } (.error e) g') (hheld : Held g n c k d)
    (hnext : Checked.add32 d.version 1 = .ok version) (hsign : p.sign n (desired.revise d c version) = .ok sealed)
    (hupdate : g.ledger.update c sealed.challengeHash sealed.metadata = (.ok c, l)) :
    (∃ k', Held g' n c k' d ∧ k'.deploymentHash = (desired.revise d c version).challengeHash) ∧ ¬ Receptive p g n ∧
      e.refusedUpdate? = some (n, c) := by
  obtain ⟨k₁, hk₁, hchanged⟩ := Ledger.active?_update hupdate
  obtain rfl : k₁ = k := Option.some.inj (hk₁.symm.trans hheld.active)
  have hnot : ¬ Receptive p g n := h.not_receptive hheld.deployment hnext hsign hchanged hheld.node rfl
  have hhash : sealed.challengeHash = (desired.revise d c version).challengeHash := by
    obtain ⟨rfl, _⟩ := sign_eq_ok hsign
    exact Deployment.challengeHash_sign _ _ _
  cases h with
  | failed hcall =>
    rw [contractId_of_sign_revision hsign] at hcall
    exact ⟨⟨_, ⟨hchanged, hheld.node, hheld.deployment⟩, hhash⟩, hnot, DeployError.refusedUpdate?_of_call hcall⟩

/-- What comes of a contract and the deployment that is held under it when that is to change. -/
inductive Handled (p : Deployer) (n : NodeId) (c : ContractId) (desired : Deployment) (k : Contract) (d : Deployment)
    (g : Grid) : Option (NodeId × ContractId) → Grid → Prop where
  | kept {d' : Deployment} {g' : Grid} (held : Held g' n c k d') (same : d'.unreported = d.unreported) :
    Handled p n c desired k d g none g'
  | changed {k' : Contract} {d' : Deployment} {g' : Grid} (held : Held g' n c k' d')
    (hash : k'.deploymentHash = d'.challengeHash) (differs : d.isUnchanged desired = false)
    (receptive : Receptive p g n) : Handled p n c desired k d g none g'
  | refused {k' : Contract} {d' : Deployment} {version : UInt32} {g' : Grid} (held : Held g' n c k' d')
    (same : d'.unreported = d.unreported) (next : Checked.add32 d.version 1 = .ok version)
    (hash : k'.deploymentHash = (desired.revise d c version).challengeHash) (differs : d.isUnchanged desired = false)
    (not : ¬ Receptive p g n) : Handled p n c desired k d g (some (n, c)) g'

/-- A question for what is held gives that, if there is an answer. -/
theorem Got.eq_of_held {live : Deployment} (h : Got p n c g (.ok live) g') (hheld : Held g n c k d) : live = d := by
  cases h with
  | live _ _ hlive => exact Option.some.inj (hlive.symm.trans hheld.deployment)

theorem Updated.handled {r : Except DeployError Unit} (h : Updated p n c desired g r g') (hattached : g.attached = true)
    (hheld : Held g n c k d) (applied : NodeMap ContractId) :
    Handled p n c desired k d g (Outcome.of applied r).refusedUpdate? g' := by
  cases h with
  | @unread e _ hget =>
    obtain ⟨d', hheld', hsame⟩ := hheld.of_asked hget.asked
    cases hget with
    | failed hcall =>
      have hnone : (Outcome.of applied (.error e)).refusedUpdate? = none :=
        DeployError.refusedUpdate?_of_other_call hcall nofun
      exact hnone ▸ .kept hheld' hsame
  | unchanged hget =>
    obtain ⟨d', hheld', hsame⟩ := hheld.of_asked hget.asked
    exact .kept hheld' hsame
  | invalid hget =>
    obtain ⟨d', hheld', hsame⟩ := hheld.of_asked hget.asked
    exact .kept hheld' hsame
  | refused hget =>
    obtain ⟨d', hheld', hsame⟩ := hheld.of_asked hget.asked
    exact .kept hheld' hsame
  | @failed live sealed version l e g₁ _ hget hdiffers hnext hsign hupdate hsubmit =>
    obtain rfl := hget.eq_of_held hheld
    obtain ⟨d', hheld', hsame⟩ := hheld.of_asked hget.asked
    -- reports are all that the question can have changed
    have hnext' : Checked.add32 d'.version 1 = .ok version := by
      rw [Deployment.version_congr hsame]
      exact hnext
    rw [← Deployment.revise_congr hsame] at hsign
    obtain ⟨⟨k', hrefused, hhash⟩, hnot, he⟩ := hsubmit.refused hheld' hnext' hsign hupdate
    rw [Deployment.revise_congr hsame] at hhash
    change Handled p n c desired k live g e.refusedUpdate? g'
    rw [he]
    exact .refused hrefused hsame hnext hhash hdiffers fun hreceptive => hnot (hreceptive.of_steady hget.asked.toSteady)
  | @revised live sealed version l r g₁ g₂ _ hget hdiffers hnext hsign hupdate hsubmit hawait =>
    obtain rfl := hget.eq_of_held hheld
    have hreceptive : Receptive p g₁ n := hsubmit.receptive
    obtain rfl := contractId_of_sign_revision hsign
    obtain ⟨k', stored, hheld', hsame, hhash⟩ := hsubmit.held_awaited (hget.asked.attached.trans hattached) hawait
    -- a change that is taken may still fail to converge, which is no refusal
    have hnone : (Outcome.of applied r).refusedUpdate? = none := by
      cases hawait with
      | converged => rfl
      | failed _ herror => exact herror.refusedUpdate?
    rw [hnone]
    exact .changed hheld' (hhash.trans (Deployment.challengeHash_congr hsame).symm) hdiffers (hreceptive.of_steady hget.asked.toSteady.symm)

/-- A change of what a node holds that it does not take ends with an error that says so. -/
theorem update_run_of_not_receptive {version : UInt32} {sealed : Deployment} {t : Timeline Grid}
    (hheld : Held t.state n c k d) (hanswers : t.state.Answers n p.settings.fetchTimeout)
    (honline : t.state.ledger.online = true) (hdiffers : d.isUnchanged desired = false)
    (hnext : Checked.add32 d.version 1 = .ok version) (hsign : p.sign n (desired.revise d c version) = .ok sealed)
    (hnot : ¬ Receptive p t.state n) :
    ∃ e t', p.update n c desired t = .ok (.error e, t') ∧ e.refusedUpdate? = some (n, c) := by
  obtain ⟨r, t₁, hrun, hgot⟩ := get_run p n c t
  have hasked := hgot.asked
  rcases r with e | live
  · cases hgot with
    | failed _ _ hfound => exact absurd ⟨hanswers, hheld.notOver, d, hheld.deployment⟩ hfound
  obtain rfl := hgot.eq_of_held hheld
  have hlift : (Checked.add32 live.version 1 : Timed Grid UInt32) t₁ = .ok (version, t₁) :=
    Timed.lift_eq_ok.mpr ⟨hnext, rfl⟩
  have honline' : t₁.state.ledger.online = true := hasked.ledger ▸ honline
  have hactive : t₁.state.ledger.active? c = some k := hasked.ledger ▸ hheld.active
  rw [update_run_of_differs hrun hdiffers, replace, Timed.bind_run hlift, hsign]
  dsimp only
  rw [Timed.bind_run (Grid.updateContract_run c sealed.challengeHash sealed.metadata t₁),
    Ledger.update_run honline' hactive]
  dsimp only
  generalize ({ t₁.state.ledger with updates := _, contracts := _ } : Ledger) = l
  -- how the ledger has been changed does not matter to whether the node is receptive
  obtain ⟨r, t₂, hsubmit, hsubmitted⟩ := submit_run p .change n sealed ⟨t₁.now, { t₁.state with ledger := l }⟩
  rw [Timed.bind_run hsubmit]
  rcases t₂ with ⟨now, g₂⟩
  rcases r with e | ⟨⟩
  · cases hsubmitted with
    | failed hcall =>
      rw [contractId_of_sign_revision hsign] at hcall
      exact ⟨e, _, rfl, DeployError.refusedUpdate?_of_call hcall⟩
  · have hreceptive : Receptive p t₁.state n := hsubmitted.receptive
    exact absurd (hreceptive.of_steady hasked.toSteady.symm) hnot

end Deployer

end ComputeGrid
