import ComputeGrid.Proofs.Digest.Evaluation
import ComputeGrid.Proofs.Reconcile.Logs
import ComputeGrid.Proofs.Reconcile.Success

/-!
# What is signed, written and stored

Whatever a deployer does leaves a log (`Deployer.Logged`) in which every deployment that a node takes comes right after the
write of its hash, and has the deployer's signature of its challenge and no other (`Deployer.Orderly`).  Setting the
contract of a sealed deployment, provisioning it and asking about it change neither the challenge nor the signatures, so what
the node stores is sealed too, under the hash that the ledger holds (`Deployer.inAccord_of_reconcile`).
-/

namespace ComputeGrid

/-- The signature that the identity makes of a message is accepted as one. -/
def Identity.Honors (i : Identity) (message : List UInt8) : Prop := i.verify message (i.sign message) = true

namespace Deployer

open Grid (Asked Event Log Still)

variable {p : Deployer} {node : NodeId} {contract : ContractId} {desired d : Deployment} {sp : Option UInt64}
  {g g₁ g' : Grid}

/-! ### Signatures -/

/-- The one signature of a deployment is by the deployer's twin, and it is accepted as one of the challenge under the
deployer's identity. -/
def Sealed (p : Deployer) (d : Deployment) : Prop :=
  ∃ s bytes, d.signatureRequirement.signatures = [s] ∧ s.twinId = p.twinId ∧ s.scheme = Identity.scheme ∧
    Text.unhex? s.signature = some bytes ∧ p.identity.verify d.challengeDigest bytes = true

/-- The one signature of a deployment is the one that the deployer makes of its challenge. -/
def Signs (p : Deployer) (d : Deployment) : Prop :=
  d.signatureRequirement.signatures = [⟨p.twinId, Text.hex (p.identity.sign d.challengeDigest), Identity.scheme⟩]

theorem signs_of_sign (h : p.sign node desired = .ok d) : p.Signs d := by
  obtain ⟨rfl, -⟩ := sign_eq_ok h
  rfl

/-- What is signed is sealed if honest signatures are accepted. -/
theorem Signs.sealed (h : p.Signs d) (hhonors : p.identity.Honors d.challengeDigest) : p.Sealed d := by
  refine ⟨_, p.identity.sign d.challengeDigest, h, rfl, rfl, ?_, hhonors⟩
  rw [Text.unhex?, Text.hex, String.toList_ofList, Text.hexDecode?_hexEncode]

theorem challengeDigest_congr {d' : Deployment} (h : d'.unreported = d.unreported) :
    d'.challengeDigest = d.challengeDigest := by
  rw [Deployment.challengeDigest, Deployment.challengeBytes_congr h, ← Deployment.challengeDigest]

/-- Reports are not signed. -/
theorem Sealed.congr {d' : Deployment} (h : p.Sealed d) (hsame : d'.unreported = d.unreported) : p.Sealed d' := by
  obtain ⟨s, bytes, hsignatures, htwin, hscheme, hbytes, hverify⟩ := h
  have hrequirement : d'.signatureRequirement = d.signatureRequirement :=
    (congrArg Deployment.signatureRequirement hsame :)
  rw [← hrequirement] at hsignatures
  rw [← challengeDigest_congr hsame] at hverify
  exact ⟨s, bytes, hsignatures, htwin, hscheme, hbytes, hverify⟩

/-! ### Orderly logs -/

/-- Writes, some of which are followed by a node that takes a signed deployment with this contract and hash. -/
inductive Orderly (p : Deployer) : List Event → Prop where
  | done : Orderly p []
  | wrote {c : ContractId} {hash : String} {events : List Event} (rest : Orderly p events) :
    Orderly p (.wrote c hash :: events)
  | took {node : NodeId} {d : Deployment} {events : List Event} (signs : p.Signs d) (rest : Orderly p events) :
    Orderly p (.wrote d.contractId d.challengeHash :: .took node d :: events)

theorem Orderly.append {events events' : List Event} (h : Orderly p events) (h' : Orderly p events') :
    Orderly p (events ++ events') := by
  induction h with
  | done => exact h'
  | wrote _ ih => exact .wrote ih
  | took hsigns _ ih => exact .took hsigns ih

/-- Right before a node takes a deployment its hash is written, and it is signed. -/
theorem Orderly.signs_of_took {events before after : List Event} (h : Orderly p events)
    (heq : events = before ++ .took node d :: after) :
    p.Signs d ∧ ∃ rest, before = rest ++ [.wrote d.contractId d.challengeHash] := by
  induction h generalizing before with
  | done => cases List.append_ne_nil_of_right_ne_nil before (List.cons_ne_nil _ after) heq.symm
  | wrote _ ih =>
    rcases before with _ | ⟨event, before⟩
    · cases heq
    · obtain ⟨hsigns, rest, rfl⟩ := ih (List.cons.inj heq).2
      exact ⟨hsigns, event :: rest, rfl⟩
  | took hsigns _ ih =>
    rcases before with _ | ⟨event, _ | ⟨event', before⟩⟩
    · cases heq
    · cases heq
      exact ⟨hsigns, [], rfl⟩
    · obtain ⟨hsigns, rest, rfl⟩ := ih (List.cons.inj (List.cons.inj heq).2).2
      exact ⟨hsigns, event :: event' :: rest, rfl⟩

theorem Orderly.signs_of_mem {events : List Event} (h : Orderly p events) {n : NodeId} {c : ContractId}
    (hd : d ∈ events.filterMap (Event.taken? n c)) : p.Signs d := by
  obtain ⟨event, hevent, htaken⟩ := List.mem_filterMap.mp hd
  obtain ⟨before, after, heq⟩ := List.append_of_mem hevent
  rcases event with _ | ⟨node, d'⟩
  · cases htaken
  · obtain ⟨-, htaken⟩ := Option.ite_none_right_eq_some.mp htaken
    cases htaken
    exact (h.signs_of_took heq).1

/-! ### Logs of deployers -/

/-- A run has an orderly log. -/
def Logged (p : Deployer) (g g' : Grid) : Prop := ∃ events, Log events g g' ∧ Orderly p events

theorem Logged.refl (p : Deployer) (g : Grid) : Logged p g g := ⟨[], .done, .done⟩

theorem Logged.trans (h₁ : Logged p g g₁) (h₂ : Logged p g₁ g') : Logged p g g' := by
  obtain ⟨events₁, hlog₁, horderly₁⟩ := h₁
  obtain ⟨events₂, hlog₂, horderly₂⟩ := h₂
  exact ⟨events₁ ++ events₂, hlog₁.append hlog₂, horderly₁.append horderly₂⟩

theorem logged_of_still (h : Still g g') : Logged p g g' := ⟨[], .still h .done, .done⟩

theorem Submitted.still {s : Grid.Submission} {e : DeployError} (h : Submitted p s node d g (.error e) g') :
    Still g g' := by
  cases h with
  | failed => exact Grid.still_record g node s.method.text

theorem Withdrawn.logged {failure e : DeployError} (h : Withdrawn node contract failure g e g') : Logged p g g' := by
  cases h with
  | canceled hcancel _ => exact logged_of_still (Grid.still_cancel hcancel)
  | dangling => exact .refl p g

/-- A node that takes a submission adds an entry. -/
theorem Submitted.log {s : Grid.Submission} (h : Submitted p s node d g (.ok ()) g') : Log [.took node d] g g' := by
  cases h with
  | @taken n _ htakes =>
    refine .still (Grid.still_record g node s.method.text) (.took (s := s) ?_ .done)
    rcases Grid.submit_cases s node d (g.record node s.method.text) with ⟨e, -, hnot⟩ | ⟨n', htakes', hok⟩
    · exact absurd htakes (hnot n)
    · rw [hok, Option.some.inj (htakes'.known.symm.trans htakes.known)]

theorem Opened.logged {r : Except DeployError Deployment} (h : Opened p node desired sp g r g') : Logged p g g' := by
  cases h with
  | invalid => exact .refl p g
  | refused => exact .refl p g
  | withdrawn _ _ hcreate hsubmit hwithdraw =>
    have hmade : Logged p g _ := ⟨_, .made hcreate .done, .wrote .done⟩
    exact (hmade.trans (logged_of_still hsubmit.still)).trans hwithdraw.logged
  | @opened d _ c _ _ hsign _ hcreate hsubmit =>
    -- the contract is no part of the challenge, so the hash was that of what is submitted
    have hsigned : p.Signs d := signs_of_sign hsign
    have hsigns : p.Signs { d with contractId := c } := hsigned
    exact ⟨_, .made hcreate hsubmit.log, .took hsigns .done⟩

theorem Updated.logged {r : Except DeployError Unit} (h : Updated p node contract desired g r g') : Logged p g g' := by
  cases h with
  | unread hget => exact logged_of_still hget.asked.still
  | unchanged hget => exact logged_of_still hget.asked.still
  | invalid hget => exact logged_of_still hget.asked.still
  | refused hget => exact logged_of_still hget.asked.still
  | failed hget _ _ _ hupdate hsubmit =>
    have hchanged : Logged p _ _ := ⟨_, .changed hupdate .done, .wrote .done⟩
    exact ((logged_of_still hget.asked.still).trans hchanged).trans (logged_of_still hsubmit.still)
  | revised hget _ _ hsign hupdate hsubmit hawait =>
    obtain rfl := contractId_of_sign_revision hsign
    have hrevised : Logged p _ _ := ⟨_, .changed hupdate hsubmit.log, .took (signs_of_sign hsign) .done⟩
    exact ((logged_of_still hget.asked.still).trans hrevised).trans (logged_of_still hawait.asked.still)

end Deployer

namespace Step

open Deployer (Logged logged_of_still)

variable {p : Deployer} {sp : Option UInt64} {steps : List Step} {applied : NodeMap ContractId} {s : Step} {o : Outcome}
  {g g' : Grid}

theorem Effect.logged (h : Effect p sp applied g s o g') : Logged p g g' := by
  cases h with
  | removed hcancel => exact logged_of_still (Grid.still_cancel hcancel)
  | kept => exact .refl p g
  | notOpened hopen => exact hopen.logged
  | opened hopen hawait => exact hopen.logged.trans (logged_of_still hawait.asked.still)
  | updated hupdate => exact hupdate.logged

theorem Trace.logged (h : Trace p sp steps applied g o g') : Logged p g g' := h.lift (Logged.refl p) .trans Effect.logged

end Step

namespace Deployer

open Grid (Asked Event Log)

variable {p : Deployer} {current : NodeMap ContractId} {desired : NodeMap Deployment} {sp : Option UInt64}
  {o : Outcome} {g g' : Grid} {t t' : Timeline Grid}

theorem Attempted.logged (h : Attempted p current desired sp g o g') : Logged p g g' := by
  obtain ⟨g₁, hasked, htrace⟩ := h.exists_trace
  exact (logged_of_still hasked.still).trans htrace.logged

/-- Whatever comes of a reconciliation, it has an orderly log. -/
theorem Reconciled.logged (h : Reconciled p current desired sp g o g') : Logged p g g' := by
  cases h with
  | refused hasked => exact logged_of_still hasked.still
  | passed hattempt => exact hattempt.logged
  | unrevertable hattempt => exact hattempt.logged
  | reverted _ hattempt hback => exact hattempt.logged.trans hback.logged
  | revertFailed _ hattempt hback => exact hattempt.logged.trans hback.logged

/-- How a node came to store a deployment in a run from `g` to `g'` after what had been logged `before`: the last that was
written is its hash, the ledger holds the hash for the node, and what the node then stores is sealed under that hash. -/
structure Accepted (p : Deployer) (g g' : Grid) (before after : List Event) (node : NodeId) (d : Deployment) : Prop where
  written : ∃ rest, before = rest ++ [.wrote d.contractId d.challengeHash]
  submitted : ∃ s g₁ g₂ k stored, Log before g g₁ ∧ g₁.submit s node d = (.ok (), g₂) ∧ Log after g₂ g' ∧
    g₁.ledger.active? d.contractId = some k ∧ k.nodeId = node ∧ k.deploymentHash = d.challengeHash ∧
    g₂.deployment? node d.contractId = some stored ∧ stored.challengeHash = d.challengeHash ∧ p.Sealed stored

theorem accepted_of_log {events before after : List Event} {node : NodeId} {d : Deployment} (hlog : Log events g g')
    (horderly : Orderly p events) (hattached : g.attached = true) (hhonors : p.identity.Honors d.challengeDigest)
    (heq : events = before ++ .took node d :: after) : Accepted p g g' before after node d := by
  obtain ⟨hsigns, hwritten⟩ := horderly.signs_of_took heq
  obtain ⟨s, g₁, g₂, hbefore, htaken, hafter⟩ := hlog.split heq
  obtain ⟨n, htakes, hg₂⟩ := Grid.submit_eq_ok htaken
  obtain ⟨-, -, hcovers⟩ := Grid.refusal?_eq_none_iff.mp htakes.refusal
  obtain ⟨k, hk, hnode, hhash⟩ := hcovers (hbefore.attached.trans hattached)
  have hstored := Grid.deployment?_stored_self g₁ node n d
  have hsame := Node.unreported_provisioned n.provisioning n.deployments[d.contractId]? d
  rw [← hg₂] at hstored
  exact ⟨hwritten, s, g₁, g₂, k, _, hbefore, htaken, hafter, hk, hnode, hhash, hstored,
    Deployment.challengeHash_congr hsame, (hsigns.sealed hhonors).congr hsame⟩

/-- What is signed, what the ledger holds and what nodes store are one thing, all along the log of a run. -/
structure InAccord (p : Deployer) (events : List Event) (g g' : Grid) : Prop where
  log : Log events g g'
  /-- The log has all that is written. -/
  writes : g'.ledger.creates + g'.ledger.updates = g.ledger.creates + g.ledger.updates + events.countP Event.isWrite
  /-- The log has all that nodes take. -/
  taken : ∀ n c, g'.taken n c = g.taken n c ++ events.filterMap (Event.taken? n c)
  accepted : ∀ before node d after, events = before ++ .took node d :: after → Accepted p g g' before after node d
  /-- What a node has taken last is still sealed in the end, under the same hash. -/
  stored : ∀ n c d stored, (events.filterMap (Event.taken? n c)).getLast? = some d →
    g'.deployment? n c = some stored → stored.challengeHash = d.challengeHash ∧ p.Sealed stored

/-- A reconciliation keeps what is signed, what the ledger holds and what nodes store in accord. -/
theorem inAccord_of_reconcile (run : p.reconcile current desired sp t = .ok (o, t'))
    (hattached : t.state.attached = true)
    (hhonors : ∀ n c, ∀ d ∈ t'.state.taken n c, p.identity.Honors d.challengeDigest) :
    ∃ events, InAccord p events t.state t'.state := by
  obtain ⟨events, hlog, horderly⟩ := (reconciled_of_reconcile run).logged
  have hmem {n : NodeId} {c : ContractId} {d : Deployment} (hd : d ∈ events.filterMap (Event.taken? n c)) :
      p.identity.Honors d.challengeDigest := by
    apply hhonors n c d
    rw [hlog.taken_eq n c]
    exact List.mem_append_right _ hd
  refine ⟨events, hlog, hlog.writes, hlog.taken_eq, ?_, ?_⟩
  · intro before node d after heq
    refine accepted_of_log hlog horderly hattached (hmem (n := node) (c := d.contractId) ?_) heq
    rw [heq]
    exact List.mem_filterMap.mpr ⟨.took node d, List.mem_append_right _ List.mem_cons_self, if_pos ⟨rfl, rfl⟩⟩
  · intro n c d stored hlast hstored
    obtain ⟨d', hsame, hlast' | ⟨hnone, -⟩⟩ := hlog.exists_deployment hstored
    · obtain rfl : d = d' := Option.some.inj (hlast.symm.trans hlast')
      have hd := List.mem_of_getLast? hlast
      have hsealed := (horderly.signs_of_mem hd).sealed (hmem hd)
      exact ⟨Deployment.challengeHash_congr hsame, hsealed.congr hsame⟩
    · rw [hnone] at hlast
      cases hlast

/-! ### A run in accord -/

/-- The honest signature of what node 2 takes is accepted. -/
theorem honors_sealedSample : sample.identity.Honors sealedSample.challengeDigest := by
  unfold Identity.Honors
  rw [Deployment.challengeDigest, Deployment.challengeBytes, Json.renderBytes_eq, Sha2.sha256_eq]
  decide +kernel

theorem honors_reusingGrid (n : NodeId) (c : ContractId) :
    ∀ d ∈ reusingGrid.taken.taken n c, sample.identity.Honors d.challengeDigest := by
  have hnone : (reusingGrid.made.record 2 NodeMethod.deploy.text).taken n c = [] := by
    unfold Grid.taken
    rcases hn : (reusingGrid.made.record 2 NodeMethod.deploy.text).nodes[n]? with _ | node
    · rfl
    · obtain ⟨-, rfl⟩ := getElem?_single_eq_some (k := 2) (v := Node.new) hn
      rfl
  have htook : Grid.Took 2 { sealedSample with contractId := 1 } (reusingGrid.made.record 2 NodeMethod.deploy.text)
      reusingGrid.taken := Grid.took_stored rfl
  intro d hd
  by_cases hat : n = 2 ∧ c = 1
  · obtain ⟨rfl, rfl⟩ := hat
    rw [htook.taken, hnone, List.nil_append, List.mem_singleton] at hd
    rw [hd]
    exact honors_sealedSample
  · rw [(htook.elsewhere n c hat).1, hnone] at hd
    cases hd

theorem inAccord_of_reuse : ∃ t',
    sample.reconcile (single 1 1) (single 2 (.sample "b")) none ⟨0, reusingGrid⟩ = .ok (⟨single 2 1, none⟩, t') ∧
    reusingGrid.attached = true ∧
    (∀ n c, ∀ d ∈ t'.state.taken n c, sample.identity.Honors d.challengeDigest) ∧
    t'.state.taken 2 1 ≠ [] ∧ ∃ events, InAccord sample events reusingGrid t'.state := by
  obtain ⟨t', hrun, hasked⟩ := reconcile_reusingGrid
  have hhonors : ∀ n c, ∀ d ∈ t'.state.taken n c, sample.identity.Honors d.challengeDigest := by
    intro n c
    rw [hasked.taken n c]
    exact honors_reusingGrid n c
  have htaken : t'.state.taken 2 1 ≠ [] := by
    rw [hasked.taken 2 1]
    exact List.cons_ne_nil _ _
  exact ⟨t', hrun, rfl, hhonors, htaken, inAccord_of_reconcile hrun rfl hhonors⟩

end Deployer

end ComputeGrid
