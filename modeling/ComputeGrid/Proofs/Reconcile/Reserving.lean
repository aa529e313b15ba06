import ComputeGrid.Proofs.Ledger.Runs
import ComputeGrid.Proofs.Reconcile.Agreement
import ComputeGrid.Proofs.Reconcile.History

/-!
# Addresses that contracts reserve

A contract reserves public addresses when it is made, and keeps to that until it is canceled (`Ledger.Keeps`).  Neither the
node nor the ledger holds a change of a deployment to it.  That what nodes run is within what contracts reserve
(`Grid.Reserved`) is therefore kept by a step only if it is allowed (`Step.Allowed`, `Step.Effect.reserved`).

Steps about other nodes leave a step allowed, so that for a pass it is enough that its changes are allowed at first
(`Step.Trace.reserved`).  What ran before a pass that failed was within what its contracts reserve, and so the way back is
always allowed (`Deployer.Attempted.allowed_back`).
-/

namespace ComputeGrid

/-! ### Reservations -/

namespace Ledger

variable {l l' l₁ l₂ : Ledger} {c : ContractId}

/-- A later state in which no record has gone, and an old contract that is active was so before, with its node and for as
many addresses. -/
structure Keeps (l l' : Ledger) : Prop where
  kept : ∀ c ∈ l.contracts, c ∈ l'.contracts
  active : ∀ c ∈ l.contracts, ∀ k', l'.active? c = some k' →
    ∃ k, l.active? c = some k ∧ k'.nodeId = k.nodeId ∧ k'.publicIps = k.publicIps

theorem Keeps.refl (l : Ledger) : Keeps l l := ⟨fun _ hc => hc, fun _ _ k hk => ⟨k, hk, rfl, rfl⟩⟩

theorem Keeps.trans (h₁ : Keeps l l₁) (h₂ : Keeps l₁ l₂) : Keeps l l₂ where
  kept := fun c hc => h₂.kept c (h₁.kept c hc)
  active := by
    intro c hc k₂ hk₂
    obtain ⟨k₁, hk₁, hnode₂, hips₂⟩ := h₂.active c (h₁.kept c hc) k₂ hk₂
    obtain ⟨k, hk, hnode₁, hips₁⟩ := h₁.active c hc k₁ hk₁
    exact ⟨k, hk, hnode₂.trans hnode₁, hips₂.trans hips₁⟩

theorem Rewrites.keeps (h : Rewrites l l') : Keeps l l' := by
  refine ⟨h.kept, fun c _ k' hk' => ?_⟩
  obtain ⟨k, hk, heq⟩ := h.active hk'
  rw [heq]
  exact ⟨k, hk, rfl, rfl⟩

theorem keeps_create {r : ContractRequest} (h : l.create r = .ok (.ok c, l')) (hnew : c ∉ l.contracts) : Keeps l l' := by
  have htouches := touches_create h
  refine ⟨htouches.kept, fun c' hc' k' hk' => ?_⟩
  have hne : c' ≠ c := fun heq => hnew (heq ▸ hc')
  rw [active?_congr (htouches.others c' hne)] at hk'
  exact ⟨k', hk', rfl, rfl⟩

end Ledger

namespace Deployer

variable {p : Deployer} {node : NodeId} {contract : ContractId} {desired : Deployment} {sp : Option UInt64} {g g' : Grid}

theorem Withdrawn.keeps {failure e : DeployError} (h : Withdrawn node contract failure g e g') :
    Ledger.Keeps g.ledger g'.ledger := by
  cases h with
  | canceled hcancel => exact (Ledger.rewrites_cancel hcancel).keeps
  | dangling => exact .refl g.ledger

theorem Opened.keeps {r : Except DeployError Deployment} (h : Opened p node desired sp g r g')
    (hfresh : Ledger.Fresh g.ledger g'.ledger) : Ledger.Keeps g.ledger g'.ledger := by
  cases h with
  | invalid => exact .refl g.ledger
  | refused => exact .refl g.ledger
  | @withdrawn d ips c l _ _ g₁ _ _ _ hcreate hsubmit hwithdraw =>
    have hmade := Ledger.touches_create hcreate
    have hwithdrawn := hwithdraw.keeps
    have htouches := hwithdraw.touches.ledger
    rw [hsubmit.ledger] at hwithdrawn htouches
    have hnew := (Ledger.fresh_create_iff hcreate).mp (hfresh.left hmade.toGrows htouches.toGrows)
    exact (Ledger.keeps_create hcreate hnew).trans hwithdrawn
  | opened _ _ hcreate hsubmit =>
    rw [hsubmit.ledger] at hfresh ⊢
    exact Ledger.keeps_create hcreate ((Ledger.fresh_create_iff hcreate).mp hfresh)

theorem Updated.keeps {r : Except DeployError Unit} (h : Updated p node contract desired g r g') :
    Ledger.Keeps g.ledger g'.ledger := by
  rcases h.ledger with hsame | ⟨_, _, hupdate⟩
  · exact hsame ▸ .refl g.ledger
  · exact (Ledger.rewrites_update hupdate).keeps

end Deployer

namespace Step

variable {p : Deployer} {sp : Option UInt64} {steps : List Step} {applied : NodeMap ContractId} {s : Step} {o : Outcome}
  {g g' : Grid}

theorem Effect.keeps (h : Effect p sp applied g s o g') (hfresh : Ledger.Fresh g.ledger g'.ledger) :
    Ledger.Keeps g.ledger g'.ledger := by
  cases h with
  | removed hcancel => exact (Ledger.rewrites_cancel hcancel).keeps
  | kept => exact .refl g.ledger
  | notOpened hopen => exact hopen.keeps hfresh
  | opened hopen hawait =>
    rw [hawait.asked.ledger] at hfresh ⊢
    exact hopen.keeps hfresh
  | updated hupdate => exact hupdate.keeps

theorem Trace.keeps (h : Trace p sp steps applied g o g') (hfresh : Ledger.Fresh g.ledger g'.ledger) :
    Ledger.Keeps g.ledger g'.ledger := by
  induction h with
  | done => exact .refl _
  | stopped heffect => exact heffect.keeps hfresh
  | next heffect htrace ih =>
    exact (heffect.keeps (hfresh.left heffect.grows htrace.grows)).trans (ih (hfresh.right heffect.grows htrace.grows))

end Step

/-! ### The bound -/

namespace Grid

variable {E E' : ContractId → Prop} {g g' : Grid} {n node : NodeId} {c : ContractId} {k' : Contract} {d d' : Deployment}

/-- What is held under an old contract was held before if the node ran it, under a contract for as many addresses. -/
theorem Held.origin (h : Held g' n c k' d') (hkeeps : Ledger.Keeps g.ledger g'.ledger) (hc : c ∈ g.ledger.contracts)
    (hd : g.deployment? n c = some d) : ∃ k, Held g n c k d ∧ k'.publicIps = k.publicIps := by
  obtain ⟨k, hk, hnode, hips⟩ := hkeeps.active c hc k' h.active
  exact ⟨k, ⟨hk, hnode.symm.trans h.node, hd⟩, hips⟩

/-- Nodes run deployments under contracts on the ledger only, and with no more public addresses than these reserve, but for
contracts that are excepted. -/
structure Reserved (E : ContractId → Prop) (g : Grid) : Prop where
  known : ∀ n c d, g.deployment? n c = some d → c ∈ g.ledger.contracts
  bounded : ∀ n c k d, Held g n c k d → d.publicIpv4Count ≤ k.publicIps.toNat ∨ E c

theorem Reserved.mono (h : Reserved E g) (himp : ∀ c, E c → E' c) : Reserved E' g where
  known := h.known
  bounded := fun n c k d hheld => (h.bounded n c k d hheld).imp_right (himp c)

theorem count_congr (h : d'.unreported = d.unreported) : d'.publicIpv4Count = d.publicIpv4Count :=
  Deployment.publicIpv4Count_congr (Deployment.chosen_congr h)

theorem Reserved.of_quiet (h : Reserved E g) (hquiet : Quiet g g') (hkeeps : Ledger.Keeps g.ledger g'.ledger) :
    Reserved E g' where
  known := by
    intro n c d' hd'
    obtain ⟨d, hd, -⟩ := hquiet.found n c d' hd'
    exact hkeeps.kept c (h.known n c d hd)
  bounded := by
    intro n c k' d' hheld
    obtain ⟨d, hd, hsame⟩ := hquiet.found n c d' hheld.deployment
    obtain ⟨k, hold, hips⟩ := hheld.origin hkeeps (h.known n c d hd) hd
    rw [hips, count_congr hsame]
    exact h.bounded n c k d hold

theorem Reserved.of_asked {ms : List NodeMethod} {S : NodeId → ContractId → Prop} (h : Reserved E g)
    (hasked : Asked ms S g g') : Reserved E g' :=
  h.of_quiet hasked.toQuiet (hasked.ledger ▸ .refl g.ledger)

/-- A node may take what its contract has reserved enough for. -/
theorem Reserved.of_took (h : Reserved E g) (htook : Took node d g g') (hledger : g'.ledger = g.ledger)
    (hmem : d.contractId ∈ g.ledger.contracts)
    (hbound : ∀ k, g.ledger.active? d.contractId = some k → k.nodeId = node →
      d.publicIpv4Count ≤ k.publicIps.toNat ∨ E d.contractId) : Reserved E g' where
  known := by
    intro n c d' hd'
    rw [hledger]
    by_cases hat : At node d.contractId n c
    · exact hat.2 ▸ hmem
    · rw [(htook.elsewhere n c hat).2] at hd'
      exact h.known n c d' hd'
  bounded := by
    intro n c k d' hheld
    have hk := hheld.active
    rw [hledger] at hk
    by_cases hat : At node d.contractId n c
    · obtain ⟨rfl, rfl⟩ := hat
      rw [count_congr (htook.stored d' hheld.deployment)]
      exact hbound k hk hheld.node
    · have hd' := hheld.deployment
      rw [(htook.elsewhere n c hat).2] at hd'
      exact h.bounded n c k d' ⟨hk, hheld.node, hd'⟩

end Grid

/-! ### Steps that are allowed -/

namespace Step

open Grid (Held Reserved Quiet Asked)

variable {E : ContractId → Prop} {p : Deployer} {sp : Option UInt64} {applied : NodeMap ContractId} {a s : Step}
  {o : Outcome} {g g' : Grid}

/-- A change asks for no more public addresses than the contract of what is held reserves, or the contract is excepted. -/
def Allowed (E : ContractId → Prop) (g : Grid) : Step → Prop
  | remove _ _ | create _ _ => True
  | update n c d => ∀ k live, Held g n c k live → d.publicIpv4Count ≤ k.publicIps.toNat ∨ E c

/-- A change is still allowed if the ledger keeps to what contracts reserve, and the node runs nothing new. -/
theorem Allowed.of_keeps (h : Allowed E g s) (hreserved : Reserved E g) (hkeeps : Ledger.Keeps g.ledger g'.ledger)
    (hfound : ∀ c d', g'.deployment? s.node c = some d' → ∃ d, g.deployment? s.node c = some d) : Allowed E g' s := by
  cases s with
  | remove => trivial
  | create => trivial
  | update n c d =>
    intro k' live' hheld
    obtain ⟨live, hlive⟩ := hfound c live' hheld.deployment
    obtain ⟨k, hold, hips⟩ := hheld.origin hkeeps (hreserved.known n c live hlive) hlive
    rw [hips]
    exact h k live hold

theorem Allowed.of_asked {ms : List NodeMethod} {S : NodeId → ContractId → Prop} (h : Allowed E g s)
    (hreserved : Reserved E g) (hasked : Asked ms S g g') : Allowed E g' s := by
  refine h.of_keeps hreserved (hasked.ledger ▸ .refl g.ledger) fun c d' hd' => ?_
  obtain ⟨d, hd, -⟩ := hasked.found s.node c d' hd'
  exact ⟨d, hd⟩

/-- Steps about other nodes leave a change allowed. -/
theorem Allowed.of_before (h : Allowed E g s) (hreserved : Reserved E g) (hbefore : Before a s)
    (heffect : Effect p sp applied g a o g') (hfresh : Ledger.Fresh g.ledger g'.ledger) : Allowed E g' s := by
  obtain ⟨_, htouches⟩ := heffect.touches
  refine h.of_keeps hreserved (heffect.keeps hfresh) fun c d' hd' => ⟨d', ?_⟩
  rw [← hd']
  exact (htouches.elsewhere s.node c fun hat => hbefore.1 hat.1.symm).symm

end Step

namespace Deployer

open Grid (Held Reserved Quiet)

variable {E : ContractId → Prop} {p : Deployer} {node : NodeId} {contract : ContractId} {desired d : Deployment}
  {sp : Option UInt64} {g g₁ g' : Grid}

theorem Submitted.reserved {s : Grid.Submission} {r : Except DeployError Unit} (h : Submitted p s node d g r g')
    (hreserved : Reserved E g) (hmem : d.contractId ∈ g.ledger.contracts)
    (hbound : ∀ k, g.ledger.active? d.contractId = some k → k.nodeId = node →
      d.publicIpv4Count ≤ k.publicIps.toNat ∨ E d.contractId) : Reserved E g' := by
  have hledger := h.ledger
  rcases r with e | ⟨⟩
  · exact hreserved.of_quiet h.quiet (hledger ▸ .refl g.ledger)
  · obtain ⟨-, g₁, hquiet, hledger₁, htook⟩ := h.took
    have hreserved₁ := hreserved.of_quiet hquiet (hledger₁ ▸ .refl g.ledger)
    rw [← hledger₁] at hmem hbound hledger
    exact hreserved₁.of_took htook hledger hmem hbound

/-- A new contract reserves what is wanted, whatever comes of it. -/
theorem Opened.reserved {r : Except DeployError Deployment} (h : Opened p node desired sp g r g')
    (hfresh : Ledger.Fresh g.ledger g'.ledger) (hreserved : Reserved E g) : Reserved E g' := by
  have hkeeps := h.keeps hfresh
  cases h with
  | invalid => exact hreserved
  | refused => exact hreserved
  | withdrawn _ _ hcreate hsubmit hwithdraw =>
    have hmade : Quiet g _ := .of_ledger (Ledger.touches_create hcreate).toGrows
    exact hreserved.of_quiet ((hmade.trans hsubmit.quiet).trans hwithdraw.quiet) hkeeps
  | @opened d ips c l _ hsign hips hcreate hsubmit =>
    have hmade : Quiet g { g with ledger := l } := .of_ledger (Ledger.touches_create hcreate).toGrows
    have hactive := Ledger.active?_create hcreate
    rw [hsubmit.ledger] at hkeeps
    refine hsubmit.reserved (hreserved.of_quiet hmade hkeeps) (Ledger.IsActive.mem ⟨_, hactive⟩) fun k hk _ => ?_
    obtain rfl := Option.some.inj (hactive.symm.trans hk)
    exact .inl (Nat.le_of_eq (Checked.toNat_of_count32 hips).symm)

/-- The change of a contract leaves what it reserves, so that the node may take what is allowed. -/
theorem Submitted.reserved_of_change {s : Grid.Submission} {live : Deployment} {version : UInt32} {l : Ledger}
    {r : Except DeployError Unit} (h : Submitted p s node d { g₁ with ledger := l } r g')
    (hget : Got p node contract g (.ok live) g₁) (hsign : p.sign node (desired.revise live contract version) = .ok d)
    (hupdate : g₁.ledger.update contract d.challengeHash d.metadata = (.ok contract, l))
    (hallowed : ∀ k live, Held g node contract k live → desired.publicIpv4Count ≤ k.publicIps.toNat ∨ E contract)
    (hreserved : Reserved E g) : Reserved E g' := by
  have hlive : g.deployment? node contract = some live := by
    cases hget with
    | live _ _ hlive => exact hlive
  have hchanged : Quiet g₁ { g₁ with ledger := l } := .of_ledger (Ledger.touches_update hupdate).toGrows
  have hreserved₁ := (hreserved.of_asked hget.asked).of_quiet hchanged (Ledger.rewrites_update hupdate).keeps
  obtain ⟨k, hk, hactive⟩ := Ledger.active?_update hupdate
  obtain rfl := contractId_of_sign_revision hsign
  refine h.reserved hreserved₁ (Ledger.IsActive.mem ⟨_, hactive⟩) fun k' hk' hnode => ?_
  obtain rfl := Option.some.inj (hactive.symm.trans hk')
  rw [Deployment.publicIpv4Count_congr (chosen_of_sign_revision hsign)]
  exact hallowed k live ⟨hget.asked.ledger ▸ hk, hnode, hlive⟩

theorem Updated.reserved {r : Except DeployError Unit} (h : Updated p node contract desired g r g')
    (hallowed : ∀ k live, Held g node contract k live → desired.publicIpv4Count ≤ k.publicIps.toNat ∨ E contract)
    (hreserved : Reserved E g) : Reserved E g' := by
  cases h with
  | unread hget => exact hreserved.of_asked hget.asked
  | unchanged hget => exact hreserved.of_asked hget.asked
  | invalid hget => exact hreserved.of_asked hget.asked
  | refused hget => exact hreserved.of_asked hget.asked
  | failed hget _ _ hsign hupdate hsubmit =>
    exact hsubmit.reserved_of_change hget hsign hupdate hallowed hreserved
  | revised hget _ _ hsign hupdate hsubmit hawait =>
    exact (hsubmit.reserved_of_change hget hsign hupdate hallowed hreserved).of_asked hawait.asked

end Deployer

namespace Step

open Grid (Held Reserved)

variable {E : ContractId → Prop} {p : Deployer} {sp : Option UInt64} {steps : List Step} {applied : NodeMap ContractId}
  {s : Step} {o : Outcome} {g g' : Grid}

theorem Effect.reserved (h : Effect p sp applied g s o g') (hfresh : Ledger.Fresh g.ledger g'.ledger)
    (hallowed : Allowed E g s) (hreserved : Reserved E g) : Reserved E g' := by
  cases h with
  | removed hcancel =>
    exact hreserved.of_quiet (.of_ledger (Ledger.touches_cancel hcancel).toGrows) (Ledger.rewrites_cancel hcancel).keeps
  | kept => exact hreserved
  | notOpened hopen => exact hopen.reserved hfresh hreserved
  | opened hopen hawait =>
    rw [hawait.asked.ledger] at hfresh
    exact (hopen.reserved hfresh hreserved).of_asked hawait.asked
  | updated hupdate => exact hupdate.reserved hallowed hreserved

/-- Steps that are all allowed at first are allowed when their turn comes. -/
theorem Trace.reserved (h : Trace p sp steps applied g o g') (hfresh : Ledger.Fresh g.ledger g'.ledger)
    (horder : steps.Pairwise Before) (hallowed : ∀ s ∈ steps, Allowed E g s) (hreserved : Reserved E g) :
    Reserved E g' := by
  induction h with
  | done => exact hreserved
  | stopped heffect => exact heffect.reserved hfresh (hallowed _ List.mem_cons_self) hreserved
  | next heffect htrace ih =>
    have hleft := hfresh.left heffect.grows htrace.grows
    obtain ⟨hfirst, hrest⟩ := List.pairwise_cons.mp horder
    refine ih (hfresh.right heffect.grows htrace.grows) hrest (fun s hs => ?_)
      (heffect.reserved hleft (hallowed _ List.mem_cons_self) hreserved)
    exact (hallowed s (List.mem_cons_of_mem _ hs)).of_before hreserved (hfirst s hs) heffect hleft

end Step

/-! ### Reconciliations -/

namespace Deployer

open Grid (Held Reserved Asked)
open Step (Trace Allowed)

variable {E : ContractId → Prop} {p : Deployer} {current applied : NodeMap ContractId}
  {desired previous : NodeMap Deployment} {sp : Option UInt64} {o : Outcome} {t t' : Timeline Grid} {g g₁ g' : Grid}

/-- All changes of a plan are allowed. -/
def AllowedFor (E : ContractId → Prop) (current : NodeMap ContractId) (desired : NodeMap Deployment) (g : Grid) : Prop :=
  ∀ (n : NodeId) (c : ContractId) (d : Deployment), current[n]? = some c → desired[n]? = some d →
    ∀ k live, Held g n c k live → d.publicIpv4Count ≤ k.publicIps.toNat ∨ E c

theorem AllowedFor.plan (h : AllowedFor E current desired g) : ∀ s ∈ Step.plan current desired, Allowed E g s := by
  intro s hs
  rcases Step.mem_plan_iff.mp hs with ⟨_, _, rfl, _⟩ | ⟨_, _, rfl, _⟩ | ⟨n, c, d, rfl, hc, hd⟩
  · trivial
  · trivial
  · exact h n c d hc hd

theorem Attempted.keeps (h : Attempted p current desired sp g o g') (hfresh : Ledger.Fresh g.ledger g'.ledger) :
    Ledger.Keeps g.ledger g'.ledger := by
  obtain ⟨g₁, hasked, htrace⟩ := h.exists_trace
  rw [← hasked.ledger] at hfresh ⊢
  exact htrace.keeps hfresh

theorem Attempted.reserved (h : Attempted p current desired sp g o g') (hfresh : Ledger.Fresh g.ledger g'.ledger)
    (hallowed : AllowedFor E current desired g) (hreserved : Reserved E g) : Reserved E g' := by
  obtain ⟨g₁, hasked, htrace⟩ := h.exists_trace
  rw [← hasked.ledger] at hfresh
  exact htrace.reserved hfresh (Step.pairwise_plan current desired)
    (fun s hs => (hallowed.plan s hs).of_asked hreserved hasked) (hreserved.of_asked hasked)

/-- What ran before a pass is within what its contracts reserve, so that the way back is allowed. -/
theorem Attempted.allowed_back (h : Attempted p current desired sp g o g₁) (hfresh : Ledger.Fresh g.ledger g₁.ledger)
    (hfleet : Fleet current g previous) (hreserved : Reserved E g) : AllowedFor E o.applied previous g₁ := by
  intro n c d hc hd k₁ live₁ hheld
  obtain ⟨c₀, live, hc₀, -, hlive, hsame⟩ := hfleet n d hd
  obtain rfl := h.eq_of_applied hc₀ hc
  have hmem := hreserved.known n c live hlive
  obtain ⟨k, hold, hips⟩ := hheld.origin (h.keeps hfresh) hmem hlive
  rw [hips, ← Grid.count_congr hsame]
  exact hreserved.bounded n c k live hold

/-- A pass and one back keep the bound. -/
theorem Attempted.reserved_back {back : Outcome} (h : Attempted p current desired sp g o g₁)
    (hfleet : Fleet current g previous) (hback : Trace p sp (Step.plan o.applied previous) o.applied g₁ back g')
    (hfresh : Ledger.Fresh g.ledger g'.ledger) (hallowed : AllowedFor E current desired g) (hreserved : Reserved E g) :
    Reserved E g' := by
  have hleft := hfresh.left h.grows hback.grows
  exact hback.reserved (hfresh.right h.grows hback.grows) (Step.pairwise_plan o.applied previous)
    (h.allowed_back hleft hfleet hreserved).plan (h.reserved hleft hallowed hreserved)

/-- A reconciliation keeps the bound if its own changes are allowed. -/
theorem Reconciled.reserved (h : Reconciled p current desired sp g o g') (hfresh : Ledger.Fresh g.ledger g'.ledger)
    (hallowed : AllowedFor E current desired g) (hreserved : Reserved E g) : Reserved E g' := by
  cases h with
  | refused hasked => exact hreserved.of_asked hasked
  | passed hattempt => exact hattempt.reserved hfresh hallowed hreserved
  | unrevertable hattempt => exact hattempt.reserved hfresh hallowed hreserved
  | reverted hfleet hattempt hback => exact hattempt.reserved_back hfleet hback hfresh hallowed hreserved
  | revertFailed hfleet hattempt hback => exact hattempt.reserved_back hfleet hback hfresh hallowed hreserved

end Deployer

end ComputeGrid
