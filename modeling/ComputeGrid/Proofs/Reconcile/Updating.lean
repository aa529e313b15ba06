import ComputeGrid.Proofs.Deployment.Revisions
import ComputeGrid.Proofs.Digest.Evaluation
import ComputeGrid.Proofs.Reconcile.History

/-!
# What an update submits

An update does nothing where a node runs what is desired, and otherwise hands over one deployment (`Deployer.handOver`): the
signed revision of the live one (`Deployer.revision`), unless that is refused before anything is written
(`Deployer.replace_run_eq`).  A handover without error is one that the node has taken (`Deployer.HandedOver`).

`Deployer.update_assigns_versions` puts this together with what revisions are (`Deployment.Revises`).
-/

namespace ComputeGrid.Deployer

open Deployment (Revises)

variable {p : Deployer} {node : NodeId} {contract : ContractId} {desired live d : Deployment} {t t₁ t' : Timeline Grid}

/-! ### Revisions -/

/-- The revision of a live deployment to a desired one, as it is submitted. -/
def revision (p : Deployer) (contract : ContractId) (desired live : Deployment) : Deployment :=
  (desired.revise live contract (live.version + 1)).sign p.twinId p.identity

/-- A version that is not the last has a next one. -/
theorem add32_version (h : live.version.toNat + 1 < UInt32.size) :
    Checked.add32 live.version 1 = .ok (live.version + 1) := by
  have hone : (1 : UInt32).toNat = 1 := rfl
  rw [Checked.add32, hone, if_pos h]

theorem revises_revision (p : Deployer) (contract : ContractId) (hvalid : live.validate = .ok ())
    (hversion : live.version.toNat + 1 < UInt32.size)
    (hcollide : ∀ old ∈ live.workloads, ∀ w ∈ desired.workloads, ¬ Sha2.Collide old.contentBytes w.contentBytes) :
    Revises live desired (p.revision contract desired live) := by
  have hnext := Checked.toNat_of_add32 (add32_version hversion)
  exact (Deployment.revises_revise desired contract hvalid hnext hcollide).sign p.twinId p.identity

/-! ### Handovers -/

/-- Writes a deployment to its contract, submits it as a change and waits until it has converged. -/
def handOver (p : Deployer) (node : NodeId) (d : Deployment) : Timed Grid (Except DeployError Unit) := do
  match ← Grid.updateContract d.contractId d.challengeHash d.metadata with
  | .error cause => return .error (.ledger node .update cause)
  | .ok _ =>
    match ← p.submit .change node d with
    | .error e => return .error e
    | .ok () => p.await node d.contractId d.workloadVersions

/-- A replacement refuses the revision, or hands it over. -/
theorem replace_run_eq (p : Deployer) (node : NodeId) (contract : ContractId) (desired : Deployment) (t : Timeline Grid)
    (hversion : live.version.toNat + 1 < UInt32.size) :
    p.replace node contract desired live t = match (p.revision contract desired live).validate with
      | .ok () => p.handOver node (p.revision contract desired live) t
      | .error cause => .ok (.error (.invalid node cause), t) := by
  have hlift : (Checked.add32 live.version 1 : Timed Grid UInt32) t = .ok (live.version + 1, t) :=
    Timed.lift_eq_ok.mpr ⟨add32_version hversion, rfl⟩
  unfold replace
  rw [Timed.bind_run hlift, sign, ← revision]
  rcases (p.revision contract desired live).validate with cause | ⟨⟩
  · rfl
  · rfl

/-- The node has taken the deployment, and its contract has the hash. -/
structure HandedOver (node : NodeId) (d : Deployment) (g g' : Grid) : Prop where
  taken : g'.taken node d.contractId = g.taken node d.contractId ++ [d]
  hash : ∃ k, g'.ledger.active? d.contractId = some k ∧ k.deploymentHash = d.challengeHash

theorem taken_of_submitted {s : Grid.Submission} {g g' : Grid} (h : Submitted p s node d g (.ok ()) g') :
    g'.taken node d.contractId = g.taken node d.contractId ++ [d] := by
  cases h with
  | taken _ htakes => exact (Grid.took_stored htakes.known).taken

/-- There is no handover without error that the node has not taken. -/
theorem handedOver_of_handOver (h : p.handOver node d t = .ok (.ok (), t')) : HandedOver node d t.state t'.state := by
  rw [handOver, Timed.bind_run (Grid.updateContract_run _ _ _ t)] at h
  rcases hupdate : t.state.ledger.update d.contractId d.challengeHash d.metadata with ⟨cause | c, l⟩
  · rw [hupdate] at h
    cases h
  rw [hupdate] at h
  dsimp only at h
  rw [Timed.bind_eq_ok] at h
  obtain ⟨submitted, t₁, hsubmit, h⟩ := h
  rcases submitted with e | ⟨⟩
  · cases h
  have hawait := awaited_of_await h
  obtain ⟨k, -, hactive⟩ := Ledger.active?_update hupdate
  have hsubmitted := submitted_of_submit hsubmit
  constructor
  · -- nodes do not depend on what the ledger holds
    have htaken := taken_of_submitted hsubmitted
    rw [hawait.asked.taken]
    exact htaken
  · rw [hawait.asked.ledger, hsubmitted.ledger]
    exact ⟨_, hactive, rfl⟩

/-! ### Updates -/

theorem update_run_of_unchanged (hget : p.get node contract t = .ok (.ok live, t₁))
    (hsame : live.isUnchanged desired = true) : p.update node contract desired t = .ok (.ok (), t₁) := by
  rw [update, Timed.bind_run hget]
  dsimp only
  rw [if_pos hsame]
  rfl

/-- A question for a deployment is recorded, and that is all. -/
theorem state_of_get (hget : p.get node contract t = .ok (.ok live, t₁)) :
    t₁.state = t.state.record node NodeMethod.get.text := by
  have hgot := got_of_get hget
  generalize t₁.state = g at hgot
  cases hgot with
  | live => rfl

/-- An update of a valid deployment does nothing if it has what is desired.  Otherwise it is refused for another reason than
a version, or hands over the one revision: of the next version, with the old version for all that runs in the same terms,
the next one for everything else, and no regard to the order of workloads or to versions that are asked for. -/
theorem update_assigns_versions (hget : p.get node contract t = .ok (.ok live, t₁)) (hvalid : live.validate = .ok ())
    (hversion : live.version.toNat + 1 < UInt32.size)
    (hcollide : ¬ Sha2.Collide live.contentBytes desired.contentBytes)
    (hcollides : ∀ old ∈ live.workloads, ∀ w ∈ desired.workloads, ¬ Sha2.Collide old.contentBytes w.contentBytes) :
    (live.chosen = desired.chosen →
      p.update node contract desired t = .ok (.ok (), t₁) ∧ t₁.state = t.state.record node NodeMethod.get.text) ∧
    (live.chosen ≠ desired.chosen →
      (p.update node contract desired t = match (p.revision contract desired live).validate with
        | .ok () => p.handOver node (p.revision contract desired live) t₁
        | .error cause => .ok (.error (.invalid node cause), t₁)) ∧
      ∀ t', p.update node contract desired t = .ok (.ok (), t') →
        HandedOver node (p.revision contract desired live) t.state t'.state) ∧
    (p.revision contract desired live).contractId = contract ∧
    Revises live desired (p.revision contract desired live) ∧
    (∀ deployment name version,
      (p.revision contract desired live).validate ≠ .error (.versionRegression deployment name version)) ∧
    ∀ live' desired' : Deployment, live'.validate = .ok () → live'.version = live.version →
      (live'.workloads.map Workload.unreported).Perm (live.workloads.map Workload.unreported) →
      (desired'.workloads.map Workload.chosen).Perm (desired.workloads.map Workload.chosen) →
      (p.revision contract desired' live').version = (p.revision contract desired live).version ∧
      ((p.revision contract desired' live').workloads.map Workload.unreported).Perm
        ((p.revision contract desired live).workloads.map Workload.unreported) := by
  have hrevises := revises_revision p contract hvalid hversion hcollides
  refine ⟨?_, ?_, rfl, hrevises, fun _ _ _ => hrevises.not_regression hvalid, ?_⟩
  · intro hsame
    exact ⟨update_run_of_unchanged hget (Deployment.isUnchanged_of_chosen_eq hsame), state_of_get hget⟩
  · intro hdiffers
    have hchanged : live.isUnchanged desired = false := by
      rw [Bool.eq_false_iff]
      exact fun h => hdiffers (Deployment.chosen_eq_of_isUnchanged h hcollide)
    have hrun := (update_run_of_differs hget hchanged).trans (replace_run_eq p node contract desired t₁ hversion)
    refine ⟨hrun, fun t' hok => ?_⟩
    -- a success is none of the refusals
    rw [hrun] at hok
    split at hok
    · obtain ⟨htaken, hhash⟩ := handedOver_of_handOver hok
      rw [state_of_get hget] at htaken
      exact ⟨htaken, hhash⟩
    · cases hok
  · intro live' desired' hvalid' hversion' hlive hdesired
    have hversions : (live'.version + 1 : UInt32) = live.version + 1 := by rw [hversion']
    refine ⟨hversions, ?_⟩
    show ((desired'.revise live' contract (live'.version + 1)).workloads.map Workload.unreported).Perm _
    rw [hversions]
    exact Deployment.perm_revise hvalid hvalid' hlive hdesired

/-! ### A revision that is taken -/

/-- A disk at a version. -/
def diskAt (name : String) (version : UInt32) : Workload := { Workload.new name (.disk ⟨1⟩) with version := version }

/-- A disk that runs at its first version, in the second version of its deployment. -/
def runningSecond : Deployment :=
  Node.provisioned .instant none { Deployment.new 1 [diskAt "a" 0] with version := 1, contractId := 1 }

/-- Another disk before that, at versions that do not count. -/
def desiredPair : Deployment := { Deployment.new 1 [diskAt "b" 9, diskAt "a" 5] with version := 7 }

/-- The third version, with the disk that runs as it is. -/
def revisedPair : Deployment :=
  { Deployment.new 1 [diskAt "b" 2, diskAt "a" 0] with version := 2, contractId := 1 }

/-- Node 1 runs the disk. -/
def secondGrid : Grid where
  ledger := { Ledger.new 1 with nextId := 2, contracts := single 1 (.sample 1 1 "") }
  nodes := single 1 { Node.new with deployments := single 1 runningSecond }
  calls := []
  attached := false
  inventory := none

/-- The new disk is at the new version, and the one that runs keeps its own. -/
theorem revision_desiredPair (h : Revises runningSecond desiredPair (sample.revision 1 desiredPair runningSecond)) :
    sample.revision 1 desiredPair runningSecond = revisedPair.sign 1 sample.identity := by
  have hraised := h.raised _ List.mem_cons_self fun old hold hterms => by
    obtain rfl := List.mem_singleton.mp hold
    exact absurd (congrArg Prod.fst hterms) (by decide)
  have hkept := h.kept _ (List.mem_cons_of_mem _ List.mem_cons_self) _ List.mem_cons_self
    (Workload.terms_version (diskAt "a" 5) _).symm
  have hrevise : desiredPair.revise runningSecond 1 (runningSecond.version + 1) = revisedPair :=
    congrArg₂ (fun v v' => { revisedPair with workloads := [diskAt "b" v, diskAt "a" v'] }) hraised hkept
  rw [revision, hrevise]
  rfl

theorem handOver_secondGrid : ∃ t', sample.handOver 1 (revisedPair.sign 1 sample.identity)
    ⟨0, secondGrid.record 1 NodeMethod.get.text⟩ = .ok (.ok (), t') := by
  have hpasses : Checked.passes (sample.handOver 1 (revisedPair.sign 1 sample.identity)
    ⟨0, secondGrid.record 1 NodeMethod.get.text⟩) (fun r => r.1.isOk) = true := by decide +kernel
  obtain ⟨⟨_ | ⟨⟩, t'⟩, hrun, hok⟩ := Checked.exists_of_passes hpasses
  · cases hok
  · exact ⟨t', hrun⟩

theorem not_collide_desiredPair : ¬ Sha2.Collide runningSecond.contentBytes desiredPair.contentBytes := by
  have hdigest : Sha2.sha256 runningSecond.contentBytes ≠ Sha2.sha256 desiredPair.contentBytes := by
    rw [Deployment.contentBytes, Deployment.contentBytes, Json.renderBytes_eq, Json.renderBytes_eq, Sha2.sha256_eq,
      Sha2.sha256_eq]
    decide +kernel
  exact fun h => hdigest h.2

theorem not_collide_workloads : ∀ old ∈ runningSecond.workloads, ∀ w ∈ desiredPair.workloads,
    ¬ Sha2.Collide old.contentBytes w.contentBytes := by
  have hdigest : Sha2.sha256 (diskAt "a" 0).contentBytes ≠ Sha2.sha256 (diskAt "b" 0).contentBytes := by
    rw [Workload.contentBytes, Workload.contentBytes, Json.renderBytes_eq, Json.renderBytes_eq, Sha2.sha256_eq,
      Sha2.sha256_eq]
    decide +kernel
  intro old hold w hw h
  obtain rfl := List.mem_singleton.mp hold
  rcases List.mem_pair.mp hw with rfl | rfl
  · exact hdigest h.2
  · exact h.1 (Workload.contentBytes_inj.2 rfl)

/-- Node 1 takes the revision. -/
theorem update_assigns_pair : ∃ t', sample.update 1 1 desiredPair ⟨0, secondGrid⟩ = .ok (.ok (), t') ∧
    HandedOver 1 (revisedPair.sign 1 sample.identity) secondGrid t'.state := by
  have hget : sample.get 1 1 ⟨0, secondGrid⟩ =
      .ok (.ok runningSecond, ⟨0, secondGrid.record 1 NodeMethod.get.text⟩) := rfl
  have hdiffers : runningSecond.chosen ≠ desiredPair.chosen := fun h => by
    have hlength := congrArg (·.workloads.length) h
    exact absurd hlength (by decide)
  obtain ⟨-, hchanged, -, hrevises, -⟩ := update_assigns_versions hget rfl (by decide) not_collide_desiredPair
    not_collide_workloads
  obtain ⟨hrun, hhanded⟩ := hchanged hdiffers
  rw [revision_desiredPair hrevises] at hrun hhanded
  obtain ⟨t', hhandOver⟩ := handOver_secondGrid
  have hupdate : sample.update 1 1 desiredPair ⟨0, secondGrid⟩ = .ok (.ok (), t') := hrun.trans hhandOver
  exact ⟨t', hupdate, hhanded t' hupdate⟩

end ComputeGrid.Deployer
