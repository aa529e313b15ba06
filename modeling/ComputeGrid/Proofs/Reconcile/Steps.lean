import ComputeGrid.Proofs.Reconcile.Exchanges
import ComputeGrid.Reconcile.Pass

/-!
# What a step does

`Opened` and `Updated` list the ways in which the making of a new deployment and the change of an old one
can end, with everything that has happened until then, and `Step.Effect` lists those of a step.  Whatever
is to be proved of steps is proved by cases on these (`Step.effect_of_run`).  A step works on its node and
one contract (`Step.Effect.touches`).
-/

namespace ComputeGrid

namespace Deployer

open Grid (Asked At Touches)

variable {p : Deployer} {node : NodeId} {contract : ContractId} {desired d : Deployment}
  {sp : Option UInt64} {t t' : Timeline Grid} {g g' : Grid}

/-! ### Sealing -/

/-- A sealed deployment is the signed one, and valid. -/
theorem sign_eq_ok (h : p.sign node desired = .ok d) :
    d = desired.sign p.twinId p.identity ∧ d.validate = .ok () := by
  unfold sign at h
  dsimp only at h
  split at h
  next hvalid =>
    cases h
    exact ⟨rfl, hvalid⟩
  next => cases h

/-- A deployment that is valid when it is signed gets sealed. -/
theorem sign_run (h : (desired.sign p.twinId p.identity).validate = .ok ()) :
    p.sign node desired = .ok (desired.sign p.twinId p.identity) := by
  unfold sign
  dsimp only
  rw [h]

theorem sign_eq_error {e : DeployError} (h : p.sign node desired = .error e) :
    ∃ cause, e = .invalid node cause := by
  unfold sign at h
  dsimp only at h
  split at h
  next => cases h
  next cause _ =>
    cases h
    exact ⟨cause, rfl⟩

theorem chosen_of_sign_first (h : p.sign node { desired.resetVersions with contractId := 0 } = .ok d)
    (c : ContractId) : { d with contractId := c }.chosen = desired.chosen := by
  obtain ⟨rfl, _⟩ := sign_eq_ok h
  exact desired.chosen_resetVersions c

theorem chosen_of_sign_revision {live : Deployment} {version : UInt32}
    (h : p.sign node (desired.revise live contract version) = .ok d) : d.chosen = desired.chosen := by
  obtain ⟨rfl, _⟩ := sign_eq_ok h
  exact desired.chosen_revise live contract version

/-! ### New deployments -/

/-- What comes of making a contract for a new deployment and submitting it. -/
inductive Opened (p : Deployer) (node : NodeId) (desired : Deployment) (sp : Option UInt64) (g : Grid) :
    Except DeployError Deployment → Grid → Prop where
  | invalid {cause : ValidationError} : Opened p node desired sp g (.error (.invalid node cause)) g
  | refused {cause : LedgerError} : Opened p node desired sp g (.error (.ledger node .create cause)) g
  | withdrawn {d : Deployment} {publicIps : UInt32} {c : ContractId} {l : Ledger} {failure e : DeployError}
    {g₁ g' : Grid} (sign : p.sign node { desired.resetVersions with contractId := 0 } = .ok d)
    (ips : Checked.count32 d.publicIpv4Count = .ok publicIps)
    (create : g.ledger.create ⟨node, d.challengeHash, d.metadata, publicIps, sp⟩ = .ok (.ok c, l))
    (submit : Submitted p .first node { d with contractId := c } { g with ledger := l } (.error failure) g₁)
    (withdraw : Withdrawn node c failure g₁ e g') : Opened p node desired sp g (.error e) g'
  | opened {d : Deployment} {publicIps : UInt32} {c : ContractId} {l : Ledger} {g' : Grid}
    (sign : p.sign node { desired.resetVersions with contractId := 0 } = .ok d)
    (ips : Checked.count32 d.publicIpv4Count = .ok publicIps)
    (create : g.ledger.create ⟨node, d.challengeHash, d.metadata, publicIps, sp⟩ = .ok (.ok c, l))
    (submit : Submitted p .first node { d with contractId := c } { g with ledger := l } (.ok ()) g') :
    Opened p node desired sp g (.ok { d with contractId := c }) g'

theorem opened_of_open {r : Except DeployError Deployment} (h : p.open? node desired sp t = .ok (r, t')) :
    Opened p node desired sp t.state r t'.state := by
  unfold open? at h
  rcases hsign : p.sign node { desired.resetVersions with contractId := 0 } with e | d
  · rw [hsign, Timed.pure_eq_ok] at h
    cases h
    obtain ⟨cause, rfl⟩ := sign_eq_error hsign
    exact .invalid
  rw [hsign] at h
  dsimp only at h
  rw [Timed.bind_eq_ok] at h
  -- the deployment is sealed; the ledger is asked for a contract
  obtain ⟨publicIps, t₁, hlift, h⟩ := h
  obtain ⟨hips, rfl⟩ := Timed.lift_eq_ok.mp hlift
  rw [Timed.bind_eq_ok] at h
  obtain ⟨made, t₂, hmade, h⟩ := h
  obtain ⟨l, hcreate, rfl⟩ := Grid.createContract_eq_ok.mp hmade
  rcases made with cause | c
  · rw [Timed.pure_eq_ok] at h
    cases h
    -- a ledger that makes no contract is as it was
    obtain rfl := Ledger.eq_of_create_error hcreate
    exact .refused
  dsimp only at h
  rw [Timed.bind_eq_ok] at h
  obtain ⟨taken, t₃, hsubmit, h⟩ := h
  replace hsubmit := submitted_of_submit hsubmit
  rcases taken with failure | ⟨⟩
  · dsimp only at h
    rw [Timed.bind_eq_ok] at h
    -- what the node does not take leaves its contract to be canceled
    obtain ⟨e, t₄, hwithdraw, h⟩ := h
    rw [Timed.pure_eq_ok] at h
    cases h
    exact .withdrawn hsign hips hcreate hsubmit (withdrawn_of_withdraw hwithdraw)
  · rw [Timed.pure_eq_ok] at h
    cases h
    exact .opened hsign hips hcreate hsubmit

/-- A deployment is opened when it can be sealed, the ledger makes a contract, and the node takes it. -/
theorem open_run {publicIps : UInt32} {c : ContractId} {l : Ledger}
    (hsign : p.sign node { desired.resetVersions with contractId := 0 } = .ok d)
    (hips : Checked.count32 d.publicIpv4Count = .ok publicIps)
    (hcreate : t.state.ledger.create ⟨node, d.challengeHash, d.metadata, publicIps, sp⟩ = .ok (.ok c, l))
    (hsubmit : p.submit .first node { d with contractId := c } ⟨t.now, { t.state with ledger := l }⟩ = .ok (.ok (), t')) :
    p.open? node desired sp t = .ok (.ok { d with contractId := c }, t') := by
  have hlift : (Checked.count32 d.publicIpv4Count : Timed Grid UInt32) t = .ok (publicIps, t) :=
    Timed.lift_eq_ok.mpr ⟨hips, rfl⟩
  have hmade : Grid.createContract ⟨node, d.challengeHash, d.metadata, publicIps, sp⟩ t =
      .ok (.ok c, ⟨t.now, { t.state with ledger := l }⟩) := Grid.createContract_eq_ok.mpr ⟨l, hcreate, rfl⟩
  unfold open?
  rw [hsign]
  dsimp only
  rw [Timed.bind_run hlift, Timed.bind_run hmade]
  dsimp only
  rw [Timed.bind_run hsubmit]
  rfl

/-! ### Changes -/

/-- What comes of changing a deployment that runs to the desired one. -/
inductive Updated (p : Deployer) (node : NodeId) (contract : ContractId) (desired : Deployment) (g : Grid) :
    Except DeployError Unit → Grid → Prop where
  | unread {e : DeployError} {g' : Grid} (get : Got p node contract g (.error e) g') :
    Updated p node contract desired g (.error e) g'
  | unchanged {live : Deployment} {g' : Grid} (get : Got p node contract g (.ok live) g')
    (same : live.isUnchanged desired = true) : Updated p node contract desired g (.ok ()) g'
  | invalid {live : Deployment} {cause : ValidationError} {g' : Grid} (get : Got p node contract g (.ok live) g')
    (differs : live.isUnchanged desired = false) :
    Updated p node contract desired g (.error (.invalid node cause)) g'
  | refused {live : Deployment} {cause : LedgerError} {g' : Grid} (get : Got p node contract g (.ok live) g')
    (differs : live.isUnchanged desired = false) :
    Updated p node contract desired g (.error (.ledger node .update cause)) g'
  | failed {live d : Deployment} {version : UInt32} {l : Ledger} {e : DeployError} {g₁ g' : Grid}
    (get : Got p node contract g (.ok live) g₁) (differs : live.isUnchanged desired = false)
    (next : Checked.add32 live.version 1 = .ok version)
    (sign : p.sign node (desired.revise live contract version) = .ok d)
    (update : g₁.ledger.update contract d.challengeHash d.metadata = (.ok contract, l))
    (submit : Submitted p .change node d { g₁ with ledger := l } (.error e) g') :
    Updated p node contract desired g (.error e) g'
  | revised {live d : Deployment} {version : UInt32} {l : Ledger} {r : Except DeployError Unit} {g₁ g₂ g' : Grid}
    (get : Got p node contract g (.ok live) g₁) (differs : live.isUnchanged desired = false)
    (next : Checked.add32 live.version 1 = .ok version)
    (sign : p.sign node (desired.revise live contract version) = .ok d)
    (update : g₁.ledger.update contract d.challengeHash d.metadata = (.ok contract, l))
    (submit : Submitted p .change node d { g₁ with ledger := l } (.ok ()) g₂)
    (await : Awaited p node contract d.workloadVersions g₂ r g') : Updated p node contract desired g r g'

/-- An update of what has another content replaces it. -/
theorem update_run_of_differs {live : Deployment} {t₁ : Timeline Grid}
    (hget : p.get node contract t = .ok (.ok live, t₁)) (hdiffers : live.isUnchanged desired = false) :
    p.update node contract desired t = p.replace node contract desired live t₁ := by
  rw [update, Timed.bind_run hget]
  dsimp only
  rw [hdiffers, if_neg Bool.false_ne_true]

/-- A deployment is replaced when the next one can be sealed, the ledger changes the contract, and the node takes it. -/
theorem replace_run {live : Deployment} {version : UInt32} {l : Ledger} {r : Except DeployError Unit} {t₁ : Timeline Grid}
    (hnext : Checked.add32 live.version 1 = .ok version)
    (hsign : p.sign node (desired.revise live contract version) = .ok d)
    (hupdate : t.state.ledger.update contract d.challengeHash d.metadata = (.ok contract, l))
    (hsubmit : p.submit .change node d ⟨t.now, { t.state with ledger := l }⟩ = .ok (.ok (), t₁))
    (hawait : p.await node contract d.workloadVersions t₁ = .ok (r, t')) :
    p.replace node contract desired live t = .ok (r, t') := by
  have hlift : (Checked.add32 live.version 1 : Timed Grid UInt32) t = .ok (version, t) :=
    Timed.lift_eq_ok.mpr ⟨hnext, rfl⟩
  have hchanged : Grid.updateContract contract d.challengeHash d.metadata t =
      .ok (.ok contract, ⟨t.now, { t.state with ledger := l }⟩) := by
    rw [Grid.updateContract_run, hupdate]
  unfold replace
  rw [Timed.bind_run hlift, hsign]
  dsimp only
  rw [Timed.bind_run hchanged]
  dsimp only
  rw [Timed.bind_run hsubmit]
  exact hawait

theorem updated_of_update {r : Except DeployError Unit} (h : p.update node contract desired t = .ok (r, t')) :
    Updated p node contract desired t.state r t'.state := by
  rw [update, Timed.bind_eq_ok] at h
  obtain ⟨answer, t₁, hget, h⟩ := h
  replace hget := got_of_get hget
  rcases answer with e | live
  · rw [Timed.pure_eq_ok] at h
    cases h
    exact .unread hget
  dsimp only at h
  split at h
  next hsame =>
    rw [Timed.pure_eq_ok] at h
    cases h
    exact .unchanged hget hsame
  next hdiffers =>
  rw [Bool.not_eq_true] at hdiffers
  rw [replace, Timed.bind_eq_ok] at h
  obtain ⟨version, t₂, hlift, h⟩ := h
  obtain ⟨hversion, rfl⟩ := Timed.lift_eq_ok.mp hlift
  rcases hsign : p.sign node (desired.revise live contract version) with e | d
  · rw [hsign, Timed.pure_eq_ok] at h
    cases h
    obtain ⟨cause, rfl⟩ := sign_eq_error hsign
    exact .invalid hget hdiffers
  rw [hsign] at h
  dsimp only at h
  -- the ledger is written before the node is asked
  rw [Timed.bind_run (Grid.updateContract_run contract d.challengeHash d.metadata _)] at h
  rcases hupdate : t₂.state.ledger.update contract d.challengeHash d.metadata with ⟨cause | c, l⟩
  · rw [hupdate] at h
    dsimp only at h
    rw [Timed.pure_eq_ok] at h
    cases h
    obtain rfl := Ledger.eq_of_update_error hupdate
    exact .refused hget hdiffers
  -- from here on the contract has the new hash, whatever the node does
  obtain rfl := Ledger.eq_of_update_ok hupdate
  rw [hupdate] at h
  dsimp only at h
  rw [Timed.bind_eq_ok] at h
  obtain ⟨taken, t₃, hsubmit, h⟩ := h
  replace hsubmit := submitted_of_submit hsubmit
  rcases taken with e | ⟨⟩
  · rw [Timed.pure_eq_ok] at h
    cases h
    exact .failed hget hdiffers hversion hsign hupdate hsubmit
  · exact .revised hget hdiffers hversion hsign hupdate hsubmit (awaited_of_await h)

/-! ### Footprints -/

/-- A submission is no matter of the ledger. -/
theorem Submitted.ledger {s : Grid.Submission} {r : Except DeployError Unit} (h : Submitted p s node d g r g') :
    g'.ledger = g.ledger := by
  cases h with
  | taken => rfl
  | failed => rfl

theorem Submitted.touches {s : Grid.Submission} {r : Except DeployError Unit} (h : Submitted p s node d g r g')
    (hd : d.contractId = contract) : Touches node contract g g' := by
  have hsent := Grid.touches_record g node contract s.method.text
  cases h with
  | taken _ htakes => exact hsent.trans (Grid.touches_stored htakes.known hd)
  | failed => exact hsent

theorem Withdrawn.touches {failure e : DeployError} (h : Withdrawn node contract failure g e g') :
    Touches node contract g g' := by
  cases h with
  | canceled hcancel _ => exact .of_ledger node (Ledger.touches_cancel hcancel)
  | dangling => exact .refl node contract g

theorem Opened.touches {r : Except DeployError Deployment} (h : Opened p node desired sp g r g') :
    ∃ c, Touches node c g g' ∧ ∀ d, r = .ok d → d.contractId = c := by
  cases h with
  | invalid => exact ⟨0, .refl node 0 g, nofun⟩
  | refused => exact ⟨0, .refl node 0 g, nofun⟩
  | @withdrawn _ _ c _ _ _ _ _ _ _ hcreate hsubmit hwithdraw =>
    have hmade := Touches.of_ledger (g := g) node (Ledger.touches_create hcreate)
    exact ⟨c, (hmade.trans (hsubmit.touches rfl)).trans hwithdraw.touches, nofun⟩
  | @opened _ _ c _ _ _ _ hcreate hsubmit =>
    have hmade := Touches.of_ledger (g := g) node (Ledger.touches_create hcreate)
    refine ⟨c, hmade.trans (hsubmit.touches rfl), fun d hd => ?_⟩
    cases hd
    rfl

theorem contractId_of_sign_revision {live : Deployment} {version : UInt32}
    (h : p.sign node (desired.revise live contract version) = .ok d) : d.contractId = contract := by
  obtain ⟨rfl, _⟩ := sign_eq_ok h
  rfl

theorem Updated.touches {r : Except DeployError Unit} (h : Updated p node contract desired g r g') :
    Touches node contract g g' := by
  cases h with
  | unread hget => exact hget.asked.touches
  | unchanged hget => exact hget.asked.touches
  | invalid hget => exact hget.asked.touches
  | refused hget => exact hget.asked.touches
  | failed hget _ _ hsign hupdate hsubmit =>
    have hchanged := hget.asked.touches.trans (.of_ledger node (Ledger.touches_update hupdate))
    exact hchanged.trans (hsubmit.touches (contractId_of_sign_revision hsign))
  | revised hget _ _ hsign hupdate hsubmit hawait =>
    have hchanged := hget.asked.touches.trans (.of_ledger node (Ledger.touches_update hupdate))
    exact (hchanged.trans (hsubmit.touches (contractId_of_sign_revision hsign))).trans hawait.asked.touches

/-- A change of a deployment leaves the ledger as it is, or changes the contract there. -/
theorem Updated.ledger {r : Except DeployError Unit} (h : Updated p node contract desired g r g') :
    g'.ledger = g.ledger ∨ ∃ hash metadata, g.ledger.update contract hash metadata = (.ok contract, g'.ledger) := by
  cases h with
  | unread hget => exact .inl hget.asked.ledger
  | unchanged hget => exact .inl hget.asked.ledger
  | invalid hget => exact .inl hget.asked.ledger
  | refused hget => exact .inl hget.asked.ledger
  | failed hget _ _ _ hupdate hsubmit =>
    rw [hget.asked.ledger] at hupdate
    rw [hsubmit.ledger]
    exact .inr ⟨_, _, hupdate⟩
  | revised hget _ _ _ hupdate hsubmit hawait =>
    rw [hget.asked.ledger] at hupdate
    rw [hawait.asked.ledger, hsubmit.ledger]
    exact .inr ⟨_, _, hupdate⟩

/-- A change of a deployment makes no contract active, and none inactive. -/
theorem Updated.sameActive {r : Except DeployError Unit} (h : Updated p node contract desired g r g') :
    Ledger.SameActive g.ledger g'.ledger := by
  rcases h.ledger with hsame | ⟨_, _, hupdate⟩
  · exact hsame ▸ .refl g.ledger
  · exact Ledger.sameActive_update hupdate

/-- A change of a deployment makes no contract. -/
theorem Updated.fresh {r : Except DeployError Unit} (h : Updated p node contract desired g r g') :
    Ledger.Fresh g.ledger g'.ledger := by
  rcases h.ledger with hsame | ⟨_, _, hupdate⟩
  · exact hsame ▸ rfl
  · exact Ledger.fresh_update hupdate

/-- The error of a change names no contract that is left without a deployment. -/
theorem Updated.dangling {e : DeployError} (h : Updated p node contract desired g (.error e) g') :
    e.dangling = [] := by
  cases h with
  | unread hget =>
    cases hget with
    | failed hcall => exact DeployError.dangling_of_call? hcall
  | invalid => rfl
  | refused => rfl
  | failed _ _ _ _ _ hsubmit =>
    cases hsubmit with
    | failed hcall => exact DeployError.dangling_of_call? hcall
  | revised _ _ _ _ _ _ hawait =>
    cases hawait with
    | failed _ herror => exact herror.dangling

end Deployer

@[simp] theorem Outcome.applied_of (applied : NodeMap ContractId) (r : Except DeployError Unit) :
    (Outcome.of applied r).applied = applied := by
  rcases r with e | ⟨⟩
  · rfl
  · rfl

namespace Step

open Grid (Touches)
open Deployer (Opened Updated Awaited)

variable {p : Deployer} {sp : Option UInt64} {applied : NodeMap ContractId} {s : Step} {o : Outcome}
  {t t' : Timeline Grid} {g g' : Grid}

/-- What comes of a step. -/
inductive Effect (p : Deployer) (sp : Option UInt64) (applied : NodeMap ContractId) (g : Grid) :
    Step → Outcome → Grid → Prop where
  | removed {node : NodeId} {contract : ContractId} {r : Except LedgerError Unit} {l : Ledger}
    (cancel : g.ledger.cancel contract = (r, l)) (gone : ∀ e, r = .error e → e.isNotFound = true) :
    Effect p sp applied g (.remove node contract) ⟨applied.erase node, none⟩ { g with ledger := l }
  | kept {node : NodeId} {contract : ContractId} {cause : LedgerError}
    (cancel : g.ledger.cancel contract = (.error cause, g.ledger)) (kept : cause.isNotFound = false) :
    Effect p sp applied g (.remove node contract) ⟨applied, some (.cancel contract cause)⟩ g
  | notOpened {node : NodeId} {desired : Deployment} {e : DeployError} {g' : Grid}
    (opening : Opened p node desired sp g (.error e) g') :
    Effect p sp applied g (.create node desired) ⟨applied, some e⟩ g'
  | opened {node : NodeId} {desired d : Deployment} {r : Except DeployError Unit} {g₁ g' : Grid}
    (opening : Opened p node desired sp g (.ok d) g₁)
    (await : Awaited p node d.contractId d.workloadVersions g₁ r g') :
    Effect p sp applied g (.create node desired) (.of (applied.insert node d.contractId) r) g'
  | updated {node : NodeId} {contract : ContractId} {desired : Deployment} {r : Except DeployError Unit} {g' : Grid}
    (update : Updated p node contract desired g r g') :
    Effect p sp applied g (.update node contract desired) (.of applied r) g'

theorem effect_of_run (h : s.run p sp applied t = .ok (o, t')) : Effect p sp applied t.state s o t'.state := by
  cases s with
  | remove node contract =>
    rw [run, Timed.bind_run (Grid.cancelContract_run contract t)] at h
    rcases hcancel : t.state.ledger.cancel contract with ⟨cause | ⟨⟩, l⟩
    · rw [hcancel] at h
      dsimp only at h
      rw [Timed.pure_eq_ok] at h
      split at h
      next hgone =>
        cases h
        exact .removed hcancel fun e he => by cases he; exact hgone
      next hkept =>
        cases h
        rw [Bool.not_eq_true] at hkept
        obtain rfl := Ledger.eq_of_cancel_error hcancel hkept
        exact .kept hcancel hkept
    · rw [hcancel] at h
      cases h
      exact .removed hcancel nofun
  | create node desired =>
    rw [run, Timed.bind_eq_ok] at h
    obtain ⟨r, t₁, hopen, h⟩ := h
    replace hopen := Deployer.opened_of_open hopen
    rcases r with e | d
    · rw [Timed.pure_eq_ok] at h
      cases h
      exact .notOpened hopen
    · dsimp only at h
      rw [Timed.bind_eq_ok] at h
      obtain ⟨r, t₂, hawait, h⟩ := h
      rw [Timed.pure_eq_ok] at h
      cases h
      exact .opened hopen (Deployer.awaited_of_await hawait)
  | update node contract desired =>
    rw [run, Timed.bind_eq_ok] at h
    obtain ⟨r, t₁, hupdate, h⟩ := h
    rw [Timed.pure_eq_ok] at h
    cases h
    exact .updated (Deployer.updated_of_update hupdate)

/-- A step works on one contract of its node. -/
theorem Effect.touches (h : Effect p sp applied g s o g') : ∃ c, Touches s.node c g g' := by
  cases h with
  | @removed node contract _ _ hcancel _ => exact ⟨contract, .of_ledger node (Ledger.touches_cancel hcancel)⟩
  | @kept node contract => exact ⟨contract, .refl node contract g⟩
  | notOpened hopen =>
    obtain ⟨c, htouches, _⟩ := hopen.touches
    exact ⟨c, htouches⟩
  | @opened node _ d _ _ _ hopen hawait =>
    obtain ⟨c, htouches, hc⟩ := hopen.touches
    obtain rfl := hc d rfl
    exact ⟨d.contractId, htouches.trans hawait.asked.touches⟩
  | updated hupdate => exact ⟨_, hupdate.touches⟩

end Step

end ComputeGrid
