import ComputeGrid.Proofs.Deployment.Encoding
import ComputeGrid.Proofs.Reconcile.Holdings
import ComputeGrid.Proofs.Reconcile.Placement

/-!
# What a success means

After a reconciliation without error the desired state is in place (`Deployer.InPlace`,
`Deployer.inPlace_of_reconcile`).  Each step establishes its part of that (`Step.Settles`), and the steps
after it keep it, since they are about other nodes: a contract that is made has a new number, and one that
is changed is with the node of the step.

A contract that was to go may be active for one reason only: it was not there, and its number has been
handed out anew.
-/

namespace ComputeGrid

open Std (ExtTreeMap)
open Grid (Held)

/-- What a node holds is what its contract covers, and all of it is ok. -/
structure Grid.Settled (g : Grid) (n : NodeId) (c : ContractId) (k : Contract) (d : Deployment) : Prop extends
    Held g n c k d where
  hash : k.deploymentHash = d.challengeHash
  ok : ∀ w ∈ d.workloads, w.report.state = .ok

/-- Work on other nodes does not matter for what is settled, as long as its contract is as it was. -/
theorem Grid.Settled.of_touches {g g' : Grid} {n m : NodeId} {c c' : ContractId} {k : Contract} {d : Deployment}
    (h : Settled g n c k d) (htouches : Touches m c' g g') (hn : n ≠ m) (hactive : g'.ledger.active? c = some k) :
    Settled g' n c k d :=
  ⟨⟨hactive, h.node, (htouches.elsewhere n c fun hat => hn hat.1).trans h.deployment⟩, h.hash, h.ok⟩

namespace Deployer

open Grid (Settled)

variable {p : Deployer} {node : NodeId} {contract c : ContractId} {desired d : Deployment} {sp : Option UInt64}
  {k : Contract} {g g₁ g' : Grid}

/-- What attached nodes have taken is settled when it has converged. -/
theorem Submitted.settled {s : Grid.Submission} (h : Submitted p s node d g (.ok ()) g₁) (hattached : g.attached = true)
    (hawait : Awaited p node d.contractId d.workloadVersions g₁ (.ok ()) g') :
    ∃ k stored, Settled g' node d.contractId k stored := by
  obtain ⟨k, stored, hheld, hsame, hhash⟩ := h.held_awaited hattached hawait
  obtain ⟨stored', hstored', _, hok⟩ := h.converged hawait
  obtain rfl : stored = stored' := Option.some.inj (hheld.deployment.symm.trans hstored')
  exact ⟨k, stored, hheld, hhash.trans (Deployment.challengeHash_congr hsame).symm, hok⟩

/-- A contract that is made reserves the addresses that are wanted. -/
theorem Opened.publicIps (h : Opened p node desired sp g (.ok d) g') :
    ∃ k, g'.ledger.active? d.contractId = some k ∧ k.publicIps.toNat = desired.publicIpv4Count := by
  cases h with
  | opened hsign hips hcreate hsubmit =>
    rw [hsubmit.ledger]
    refine ⟨_, Ledger.active?_create hcreate, ?_⟩
    exact (Checked.toNat_of_count32 hips).trans (Deployment.publicIpv4Count_congr (chosen_of_sign_first hsign 0))

/-- A change that a node has taken is one of a contract with that node. -/
theorem Updated.active?_of_ne (h : Updated p node contract desired g (.ok ()) g') (hattached : g.attached = true)
    (hc : g.ledger.active? c = some k) (hk : k.nodeId ≠ node) : g'.ledger.active? c = some k := by
  by_cases hsame : c = contract
  · subst hsame
    cases h with
    | unchanged hget => exact hget.asked.ledger ▸ hc
    | revised hget _ _ hsign hupdate hsubmit _ =>
      obtain ⟨k₁, hk₁, hchanged⟩ := Ledger.active?_update hupdate
      -- the node took the change, so that the contract is with it
      obtain ⟨k₂, _, hheld, _⟩ := hsubmit.held (hget.asked.attached.trans hattached)
      have hk₂ := hheld.active
      rw [hsubmit.ledger, contractId_of_sign_revision hsign] at hk₂
      obtain rfl := Option.some.inj (hchanged.symm.trans hk₂)
      obtain rfl : k₁ = k := Option.some.inj (hk₁.symm.trans (hget.asked.ledger ▸ hc))
      exact absurd hheld.node hk
  · rw [Ledger.active?_congr (h.touches.ledger.others c hsame)]
    exact hc

end Deployer

namespace Step

open Deployer (Opened Updated)
open Grid (Settled)

variable {p : Deployer} {sp : Option UInt64} {applied : NodeMap ContractId} {a s : Step} {o : Outcome}
  {g₀ g g' : Grid} {n : NodeId} {c : ContractId} {k : Contract} {d : Deployment}

/-! ### What later steps keep -/

/-- What is settled stays so while other nodes get or change their deployments. -/
theorem Effect.settled_of_ne (h : Effect p sp applied g s o g') (ho : o.error = none) (hphase : s.phase ≠ 0)
    (hattached : g.attached = true) (hfresh : Ledger.Fresh g.ledger g'.ledger) (hn : n ≠ s.node)
    (hsettled : Settled g n c k d) : Settled g' n c k d := by
  obtain ⟨_, htouches⟩ := h.touches
  have hactive : g'.ledger.active? c = some k := by
    cases s with
    | remove => exact absurd rfl hphase
    | create => exact h.active?_of_ne nofun hfresh hsettled.active
    | update node contract desired =>
      cases h with
      | @updated _ _ _ r _ hupdate =>
        rcases r with e | ⟨⟩
        · cases ho
        exact hupdate.active?_of_ne hattached hsettled.active (hsettled.node.symm ▸ hn)
  exact hsettled.of_touches htouches hn hactive

/-- A step makes no contract active but a new one. -/
theorem Effect.isActive_or_made (h : Effect p sp applied g s o g') (hfresh : Ledger.Fresh g.ledger g'.ledger)
    (hc : g'.ledger.IsActive c) : g.ledger.IsActive c ∨ Ledger.Made g.ledger g'.ledger c := by
  by_cases hmem : c ∉ g.ledger.contracts
  · exact .inr ⟨hmem, hc.mem⟩
  rw [Classical.not_not] at hmem
  by_cases hs : s.contract? = some c
  · cases h with
    | removed hcancel hgone =>
      obtain rfl := Option.some.inj hs
      exact absurd hc (Ledger.not_isActive_of_cancel hcancel hgone)
    | kept => exact .inl hc
    | notOpened => cases hs
    | opened => cases hs
    | updated hupdate => exact .inl ((hupdate.sameActive.active c).mp hc)
  · exact .inl ((Ledger.isActive_congr (h.record_of_ne hs hfresh hmem)).mp hc)

/-- A contract that is active only if it was made since some time before a step is so after it. -/
theorem Effect.made_of_isActive (h : Effect p sp applied g s o g') (hgrows : Ledger.Grows g₀.ledger g.ledger)
    (hfresh : Ledger.Fresh g.ledger g'.ledger) (ha : g.ledger.IsActive c → Ledger.Made g₀.ledger g.ledger c)
    (hc : g'.ledger.IsActive c) : Ledger.Made g₀.ledger g'.ledger c := by
  rcases h.isActive_or_made hfresh hc with hold | hnew
  · obtain ⟨habsent, hmem⟩ := ha hold
    exact ⟨habsent, h.grows.kept c hmem⟩
  -- records are never taken off the ledger: what is new now was not there at first
  · exact ⟨fun hmem => hnew.1 (hgrows.kept c hmem), hnew.2⟩

/-! ### What a step achieves -/

/-- How a step finds the grid when its turn comes, in a pass from `g₀`. -/
structure Awaits (g₀ : Grid) (applied : NodeMap ContractId) (g : Grid) (s : Step) : Prop where
  fits : FitsOne applied s
  attached : g.attached = true
  grows : Ledger.Grows g₀.ledger g.ledger
  calls : g.callsTo s.node NodeMethod.update.text = g₀.callsTo s.node NodeMethod.update.text

/-- What a step without error achieves, in a pass from `g₀`. -/
def Settles (g₀ : Grid) (applied : NodeMap ContractId) (g : Grid) : Step → Prop
  | remove _ contract => g.ledger.IsActive contract → Ledger.Made g₀.ledger g.ledger contract
  | create node desired => ∃ c k stored, applied[node]? = some c ∧ Settled g node c k stored ∧
    k.publicIps.toNat = desired.publicIpv4Count
  | update node contract _ =>
    g₀.callsTo node NodeMethod.update.text < g.callsTo node NodeMethod.update.text →
      ∃ k stored, Settled g node contract k stored

theorem Awaits.of_before (h : Awaits g₀ applied g s) (hbefore : Before a s) (heffect : Effect p sp applied g a o g') :
    Awaits g₀ o.applied g' s := by
  obtain ⟨_, htouches⟩ := heffect.touches
  exact ⟨h.fits.of_before hbefore heffect, htouches.attached.trans h.attached, h.grows.trans heffect.grows,
    (htouches.callsTo_of_ne hbefore.1.symm _).trans h.calls⟩

theorem Effect.settles (h : Effect p sp applied g s o g') (ho : o.error = none) (hawaits : Awaits g₀ applied g s) :
    Settles g₀ o.applied g' s := by
  cases h with
  | removed hcancel hgone => exact fun hc => absurd hc (Ledger.not_isActive_of_cancel hcancel hgone)
  | kept => cases ho
  | notOpened => cases ho
  | @opened node desired d r g₁ _ hopen hawait =>
    rcases r with e | ⟨⟩
    · cases ho
    obtain ⟨k, hk, hips⟩ := hopen.publicIps
    cases hopen with
    | @opened d _ c _ _ _ _ _ hsubmit =>
      obtain ⟨k', stored, hsettled⟩ := hsubmit.settled hawaits.attached hawait
      rw [← hawait.asked.ledger] at hk
      obtain rfl : k = k' := Option.some.inj (hk.symm.trans hsettled.active)
      exact ⟨c, k, stored, ExtTreeMap.getElem?_insert_self, hsettled, hips⟩
  | @updated node contract _ r _ hupdate =>
    rcases r with e | ⟨⟩
    · cases ho
    intro hcalls
    cases hupdate with
    | unchanged hget =>
      -- a node that was only asked for its deployment has got no change
      have hsame := hget.asked.callsTo_of_get (m := .update) nofun node
      exact absurd (hsame.trans hawaits.calls) (Nat.ne_of_gt hcalls)
    | revised hget _ _ hsign _ hsubmit hawait =>
      obtain rfl := Deployer.contractId_of_sign_revision hsign
      exact hsubmit.settled (hget.asked.attached.trans hawaits.attached) hawait

/-- What a step has achieved outlasts the steps after it. -/
theorem Settles.of_before (ha : Settles g₀ applied g a) (hbefore : Before a s) (h : Effect p sp applied g s o g')
    (ho : o.error = none) (hawaits : Awaits g₀ applied g s) (hfresh : Ledger.Fresh g.ledger g'.ledger) :
    Settles g₀ o.applied g' a := by
  have hphase (hmade : a.phase ≠ 0) : s.phase ≠ 0 := fun hzero => hmade (Nat.le_zero.mp (hzero ▸ hbefore.2))
  cases a with
  | remove _ contract => exact h.made_of_isActive hawaits.grows hfresh ha
  | create n d =>
    obtain ⟨c, k, stored, hc, hsettled, hips⟩ := ha
    exact ⟨c, k, stored, (h.applied_of_ne hbefore.1).trans hc,
      h.settled_of_ne ho (hphase nofun) hawaits.attached hfresh hbefore.1 hsettled, hips⟩
  | update n c d =>
    intro hcalls
    obtain ⟨_, htouches⟩ := h.touches
    have hsame : g'.callsTo n NodeMethod.update.text = g.callsTo n NodeMethod.update.text :=
      htouches.callsTo_of_ne hbefore.1 _
    obtain ⟨k, stored, hsettled⟩ := ha (hsame ▸ hcalls)
    exact ⟨k, stored, h.settled_of_ne ho (hphase nofun) hawaits.attached hfresh hbefore.1 hsettled⟩

/-- The questions before a pass do not matter for what a step achieves in it. -/
theorem Settles.of_asked {S : NodeId → ContractId → Prop} {g₁ : Grid} (hasked : Grid.Asked [.get] S g₀ g₁)
    (h : Settles g₁ applied g s) : Settles g₀ applied g s := by
  cases s with
  | remove _ contract =>
    intro hc
    exact hasked.ledger ▸ h hc
  | create => exact h
  | update n contract d =>
    intro hcalls
    refine h ?_
    rw [hasked.callsTo_of_get (m := .update) nofun n]
    exact hcalls

theorem stepwise_settles (p : Deployer) (sp : Option UInt64) (g₀ : Grid) :
    Stepwise p sp Ledger.Fresh (fun s applied g => Awaits g₀ applied g s) (fun s applied g => Settles g₀ applied g s) where
  divisible := divisible_fresh
  awaited := fun hbefore heffect _ hawaits => hawaits.of_before hbefore heffect
  established := fun heffect _ hawaits => heffect.settles rfl hawaits
  kept := fun hbefore heffect hfresh hawaits hsettles => hsettles.of_before hbefore heffect rfl hawaits hfresh

/-- After a pass without error every step of it has achieved what it is to achieve. -/
theorem Trace.forall_settles {steps : List Step} (h : Trace p sp steps applied g o g') (ho : o.error = none)
    (hattached : g.attached = true) (hfresh : Ledger.Fresh g.ledger g'.ledger) (hfits : Fits applied steps) :
    ∀ s ∈ steps, Settles g o.applied g' s := by
  have hinit : ∀ s ∈ steps, Awaits g applied g s := fun s hs => ⟨hfits.each s hs, hattached, .refl g.ledger, rfl⟩
  exact (stepwise_settles p sp g).forall_steps h ho hfresh hfits.order hinit

end Step

/-! ### Reconciliations -/

namespace Deployer

open Grid (Asked Settled)

variable {p : Deployer} {current applied : NodeMap ContractId} {desired : NodeMap Deployment} {sp : Option UInt64}
  {o : Outcome} {t t' : Timeline Grid} {g g' : Grid} {n : NodeId} {c : ContractId} {d : Deployment}

/-- The desired state is in place. -/
structure InPlace (current : NodeMap ContractId) (desired : NodeMap Deployment) (applied : NodeMap ContractId)
    (before after : Grid) : Prop where
  /-- There is a contract for each node that is wanted, and for no other. -/
  nodes : ∀ n : NodeId, n ∈ applied ↔ n ∈ desired
  /-- A node that had a contract has it still. -/
  kept : ∀ (n : NodeId) (c : ContractId), n ∈ desired → current[n]? = some c → applied[n]? = some c
  active : ∀ (n : NodeId) (c : ContractId), applied[n]? = some c → after.ledger.IsActive c
  /-- Nodes run all that was chosen for them. -/
  content : ∀ (n : NodeId) (c : ContractId) (d : Deployment), applied[n]? = some c → desired[n]? = some d →
    ∃ stored, after.deployment? n c = some stored ∧ stored.chosen = d.chosen
  /-- Nodes that have got a deployment or a change of one are settled. -/
  settled : ∀ (n : NodeId) (c : ContractId), applied[n]? = some c →
    n ∉ current ∨ before.callsTo n NodeMethod.update.text < after.callsTo n NodeMethod.update.text →
    ∃ k stored, Settled after n c k stored
  /-- A contract that was made reserves the addresses that are wanted. -/
  reserved : ∀ (n : NodeId) (c : ContractId) (d : Deployment), applied[n]? = some c → desired[n]? = some d →
    n ∉ current → ∃ k, after.ledger.active? c = some k ∧ k.publicIps.toNat = d.publicIpv4Count
  /-- No contract of a node that is not wanted is active, unless it has been made since. -/
  removed : ∀ (n : NodeId) (c : ContractId), current[n]? = some c → n ∉ desired → after.ledger.IsActive c →
    Ledger.Made before.ledger after.ledger c

theorem Attempted.steady (h : Attempted p current desired sp g o g') : g.Steady g' := by
  obtain ⟨g₁, hasked, htrace⟩ := h.exists_trace
  exact hasked.toSteady.trans htrace.steady

/-- After a pass without error every step of its plan has achieved what it is to achieve. -/
theorem Attempted.forall_settles (h : Attempted p current desired sp g o g') (ho : o.error = none)
    (hattached : g.attached = true) (hfresh : Ledger.Fresh g.ledger g'.ledger) :
    ∀ s ∈ Step.plan current desired, Step.Settles g o.applied g' s := by
  obtain ⟨g₁, hasked, htrace⟩ := h.exists_trace
  rw [← hasked.ledger] at hfresh
  intro s hs
  refine Step.Settles.of_asked hasked ?_
  exact htrace.forall_settles ho (hasked.attached.trans hattached) hfresh (Step.fits_plan current desired) s hs

/-- A node that had no contract is settled under one that reserves the addresses that are wanted. -/
theorem Attempted.settled_of_new (h : Attempted p current desired sp g o g') (ho : o.error = none)
    (hattached : g.attached = true) (hfresh : Ledger.Fresh g.ledger g'.ledger) (hc : o.applied[n]? = some c)
    (hd : desired[n]? = some d) (hn : n ∉ current) :
    ∃ k stored, Settled g' n c k stored ∧ k.publicIps.toNat = d.publicIpv4Count := by
  obtain ⟨c', k, stored, hc', hsettled, hips⟩ := h.forall_settles ho hattached hfresh (.create n d)
    (Step.mem_plan_iff.mpr (.inr (.inl ⟨n, d, rfl, hd, hn⟩)))
  obtain rfl : c' = c := Option.some.inj (hc'.symm.trans hc)
  exact ⟨k, stored, hsettled, hips⟩

/-- A node that has been asked for a change is settled. -/
theorem Attempted.settled_of_changed (h : Attempted p current desired sp g o g') (ho : o.error = none)
    (hattached : g.attached = true) (hfresh : Ledger.Fresh g.ledger g'.ledger) (hc : current[n]? = some c)
    (hd : desired[n]? = some d) (hcalls : g.callsTo n NodeMethod.update.text < g'.callsTo n NodeMethod.update.text) :
    ∃ k stored, Settled g' n c k stored :=
  h.forall_settles ho hattached hfresh (.update n c d)
    (Step.mem_plan_iff.mpr (.inr (.inr ⟨n, c, d, rfl, hc, hd⟩))) hcalls

/-- A contract of a node that is not wanted is active only if it has been made since. -/
theorem Attempted.made_of_isActive (h : Attempted p current desired sp g o g') (ho : o.error = none)
    (hattached : g.attached = true) (hfresh : Ledger.Fresh g.ledger g'.ledger) (hc : current[n]? = some c)
    (hn : n ∉ desired) (hactive : g'.ledger.IsActive c) : Ledger.Made g.ledger g'.ledger c :=
  h.forall_settles ho hattached hfresh (.remove n c) (Step.mem_plan_iff.mpr (.inl ⟨n, c, rfl, hc, hn⟩)) hactive

/-- After a reconciliation without error the desired state is in place, on nodes that are attached to the
ledger, if contracts take new numbers and no content that runs collides with another one that is wanted. -/
theorem inPlace_of_reconcile (h : p.reconcile current desired sp t = .ok (⟨applied, none⟩, t'))
    (hattached : t.state.attached = true) (hfresh : Ledger.Fresh t.state.ledger t'.state.ledger)
    (hcollide : ∀ (n : NodeId) (c : ContractId) (d stored : Deployment), applied[n]? = some c → desired[n]? = some d →
      t'.state.deployment? n c = some stored → ¬ Sha2.Collide stored.contentBytes d.contentBytes) :
    InPlace current desired applied t.state t'.state := by
  have hattempt := (reconciled_of_reconcile h).attempted
  have hattached' : t'.state.attached = true := hattempt.steady.attached.trans hattached
  exact {
    nodes := fun n => hattempt.mem_applied_iff rfl
    kept := by
      intro n c hn hc
      obtain ⟨c', hc'⟩ := mem_iff_exists_getElem?.mp ((hattempt.mem_applied_iff rfl).mpr hn)
      obtain ⟨_, _, _, hsame⟩ := hattempt.placed_of_applied rfl hc'
      obtain rfl := hsame c hc
      exact hc'
    active := by
      intro n c hc
      obtain ⟨d, _, hplaced, _⟩ := hattempt.placed_of_applied rfl hc
      exact Grid.isActive_of_isOver_eq_false hattached' hplaced.notOver
    content := by
      intro n c d hc hd
      obtain ⟨d', hd', hplaced, _⟩ := hattempt.placed_of_applied rfl hc
      obtain rfl : d' = d := Option.some.inj (hd'.symm.trans hd)
      obtain ⟨stored, hstored, hsame⟩ := hplaced.content
      exact ⟨stored, hstored, Deployment.chosen_eq_of_isUnchanged hsame (hcollide n c d' stored hc hd hstored)⟩
    settled := by
      intro n c hc hchanged
      obtain ⟨d, hd, _, hsame⟩ := hattempt.placed_of_applied rfl hc
      rcases hcurrent : current[n]? with _ | c₀
      · obtain ⟨k, stored, hsettled, _⟩ := hattempt.settled_of_new rfl hattached hfresh hc hd
          (getElem?_eq_none_iff.mp hcurrent)
        exact ⟨k, stored, hsettled⟩
      · obtain rfl : c = c₀ := hsame c₀ hcurrent
        have hcalls := hchanged.resolve_left fun hn => hn (mem_iff_exists_getElem?.mpr ⟨c, hcurrent⟩)
        exact hattempt.settled_of_changed rfl hattached hfresh hcurrent hd hcalls
    reserved := by
      intro n c d hc hd hn
      obtain ⟨k, _, hsettled, hips⟩ := hattempt.settled_of_new rfl hattached hfresh hc hd hn
      exact ⟨k, hsettled.active, hips⟩
    removed := fun n c hc hn hactive => hattempt.made_of_isActive rfl hattached hfresh hc hn hactive }

/-! ### A number that is handed out anew -/

/-- Contract 1, which node 1 is to give up, is not on the ledger.  Node 2 runs nothing. -/
def reusingGrid : Grid where
  ledger := .new 1
  nodes := single 2 .new
  calls := []
  attached := true
  inventory := none

/-- The grid after the deployment of node 1 has been asked for. -/
def reusingGrid.asked : Grid := reusingGrid.record 1 NodeMethod.get.text

/-- What is submitted to node 2, but for the contract. -/
def sealedSample : Deployment := ({ (Deployment.sample "b").resetVersions with contractId := 0 }).sign 1 sample.identity

theorem sign_sealedSample :
    sample.sign 2 { (Deployment.sample "b").resetVersions with contractId := 0 } = .ok sealedSample := sign_run rfl

/-- What the ledger is asked for. -/
def sampleRequest : ContractRequest := ⟨2, sealedSample.challengeHash, sealedSample.metadata, 0, none⟩

/-- The grid after contract 1 has been made. -/
def reusingGrid.made : Grid :=
  { reusingGrid.asked with
    ledger := { Ledger.new 1 with nextId := 2, contracts := single 1 (sampleRequest.contract 1 1), creates := 1 } }

/-- The grid after node 2 has taken the deployment. -/
def reusingGrid.taken : Grid :=
  (reusingGrid.made.record 2 NodeMethod.deploy.text).stored 2 .new { sealedSample with contractId := 1 }

theorem open_reusingGrid : sample.open? 2 (.sample "b") none ⟨0, reusingGrid.asked⟩ =
    .ok (.ok { sealedSample with contractId := 1 }, ⟨0, reusingGrid.taken⟩) := by
  have hcovers : (reusingGrid.made.record 2 NodeMethod.deploy.text).Covers 2 { sealedSample with contractId := 1 } :=
    fun _ => ⟨sampleRequest.contract 1 1, rfl, rfl, rfl⟩
  have hsigned : ({ sealedSample with contractId := 1 } : Deployment).signatureRequirement.signatures ≠ [] :=
    List.cons_ne_nil _ _
  have htakes : Grid.Takes .first 2 { sealedSample with contractId := 1 }
      (reusingGrid.made.record 2 NodeMethod.deploy.text) .new :=
    ⟨rfl, Grid.refusal?_eq_none_iff.mpr ⟨rfl, hsigned, hcovers⟩, rfl⟩
  have hsubmit : sample.submit .first 2 { sealedSample with contractId := 1 } ⟨0, reusingGrid.made⟩ =
      .ok (.ok (), ⟨0, reusingGrid.taken⟩) :=
    submit_run_of_takes (t := ⟨0, reusingGrid.made⟩) (n := .new) rfl (Nat.zero_le _) htakes
  exact open_run sign_sealedSample rfl rfl hsubmit

/-- Contract 1 is made for node 2, and what was wanted converges there. -/
theorem create_reusingGrid : ∃ t',
    (Step.create 2 (.sample "b")).run sample none ∅ ⟨0, reusingGrid.asked⟩ = .ok (⟨single 2 1, none⟩, t') ∧
    Asked [.changes] (Grid.At 2 1) reusingGrid.taken t'.state := by
  have hpasses : Checked.passes (sample.await 2 1 sealedSample.workloadVersions ⟨0, reusingGrid.taken⟩)
      (fun r => r.1.toOption.isSome) = true := by decide +kernel
  obtain ⟨⟨r, t'⟩, hrun, htest⟩ := Checked.exists_of_passes hpasses
  refine ⟨t', ?_, (awaited_of_await hrun).asked⟩
  rcases r with e | ⟨⟩
  · cases htest
  rw [Step.run, Timed.bind_run open_reusingGrid]
  exact Timed.bind_run hrun

/-- The sample deployer has contract 1 canceled, which is not there, and made for node 2. -/
theorem reconcile_reusingGrid : ∃ t',
    sample.reconcile (single 1 1) (single 2 (.sample "b")) none ⟨0, reusingGrid⟩ = .ok (⟨single 2 1, none⟩, t') ∧
    Asked [.changes] (Grid.At 2 1) reusingGrid.taken t'.state := by
  obtain ⟨t', hcreate, hasked⟩ := create_reusingGrid
  refine ⟨t', ?_, hasked⟩
  have hfetch : Grid.fetchFleet (single 1 1) sample.settings.fetchTimeout ⟨0, reusingGrid⟩ =
      .ok (_, ⟨0, reusingGrid.asked⟩) := rfl
  have hremove : (Step.remove 1 1).run sample none (single 1 1) ⟨0, reusingGrid.asked⟩ =
      .ok (⟨∅, none⟩, ⟨0, reusingGrid.asked⟩) := rfl
  have hpass : sample.pass (single 1 1) (single 2 (.sample "b")) none ⟨0, reusingGrid.asked⟩ =
      .ok (⟨single 2 1, none⟩, t') := by
    show Step.runAll sample none (single 1 1) [.remove 1 1, .create 2 (.sample "b")] _ = _
    rw [Step.runAll, Timed.bind_run hremove]
    dsimp only
    rw [Step.runAll, Timed.bind_run hcreate]
    rfl
  have hcheck : ∀ previous : Option (NodeMap Deployment), sample.precheck previous (single 2 (.sample "b"))
      ⟨0, reusingGrid.asked⟩ = .ok (.ok (), ⟨0, reusingGrid.asked⟩) := by
    rintro (_ | _)
    · rfl
    · rfl
  exact reconcile_run_of_pass hfetch (hcheck _) hpass

theorem fresh_reusingGrid : Ledger.Fresh reusingGrid.ledger reusingGrid.taken.ledger := rfl

/-- The contract of a node that is not wanted is active after a success: its number has been handed out anew. -/
theorem isActive_of_reuse : ∃ applied t',
    sample.reconcile (single 1 1) (single 2 (.sample "b")) none ⟨0, reusingGrid⟩ = .ok (⟨applied, none⟩, t') ∧
    reusingGrid.attached = true ∧ OneToOne (single 1 1 : NodeMap ContractId) ∧
    Ledger.Fresh reusingGrid.ledger t'.state.ledger ∧
    ∃ (n : NodeId) (c : ContractId), (single 1 1 : NodeMap ContractId)[n]? = some c ∧
      n ∉ (single 2 (.sample "b") : NodeMap Deployment) ∧ t'.state.ledger.IsActive c := by
  obtain ⟨t', hrun, hasked⟩ := reconcile_reusingGrid
  have hactive : reusingGrid.taken.ledger.IsActive 1 := ⟨sampleRequest.contract 1 1, rfl⟩
  rw [← hasked.ledger] at hactive
  refine ⟨single 2 1, t', hrun, rfl, oneToOne_single 1 1, hasked.ledger ▸ fresh_reusingGrid, 1, 1, rfl, ?_, hactive⟩
  decide +kernel

theorem inPlace_of_reuse : ∃ applied t',
    sample.reconcile (single 1 1) (single 2 (.sample "b")) none ⟨0, reusingGrid⟩ = .ok (⟨applied, none⟩, t') ∧
    InPlace (single 1 1) (single 2 (.sample "b")) applied reusingGrid t'.state := by
  obtain ⟨t', hrun, hasked⟩ := reconcile_reusingGrid
  refine ⟨single 2 1, t', hrun, inPlace_of_reconcile hrun rfl (hasked.ledger ▸ fresh_reusingGrid) ?_⟩
  intro n c d stored hc hd hstored hcollide
  obtain ⟨rfl, rfl⟩ := getElem?_single_eq_some hc
  obtain ⟨_, rfl⟩ := getElem?_single_eq_some hd
  have hover : reusingGrid.taken.isOver 1 = false := Grid.isOver_eq_false_of_isActive ⟨sampleRequest.contract 1 1, rfl⟩
  have htaken := Grid.deployment?_stored_self (reusingGrid.made.record 2 NodeMethod.deploy.text) 2 .new
    { sealedSample with contractId := 1 }
  obtain ⟨stored', hstored', hsame⟩ := hasked.exists_deployment hover htaken
  obtain rfl : stored = stored' := Option.some.inj (hstored.symm.trans hstored')
  rw [Node.unreported_provisioned] at hsame
  have hchosen := (Deployment.chosen_congr hsame).trans (chosen_of_sign_first sign_sealedSample 1)
  exact hcollide.1 (Deployment.contentBytes_congr hchosen)

end Deployer

end ComputeGrid
