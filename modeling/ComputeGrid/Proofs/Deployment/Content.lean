import ComputeGrid.Deployment.Revision
import ComputeGrid.Node.Basic

/-!
# What hashes and comparisons depend on

Two normal forms of a deployment: `unreported` leaves out what its node says about it, and `chosen`
leaves out all that its caller does not choose.  The challenge depends on the first only
(`challenge_unreported`), and the content, with the names, on the second (`challenge_chosen`,
`isUnchanged_congr`).

Provisioning and polling keep the first; sealing a deployment, giving it versions and revising it keep
the second.
-/

namespace ComputeGrid

namespace Workload

/-- The workload before any node has seen it. -/
def unreported (w : Workload) : Workload := { w with report := .unseen }

/-- What a caller chooses: name, payload, metadata and description. -/
def chosen (w : Workload) : Workload := { w with version := 0, report := .unseen }

theorem contentBytes_congr {w w' : Workload} (h : w.chosen = w'.chosen) : w.contentBytes = w'.contentBytes :=
  (congrArg contentBytes h :)

theorem contentHash_unreported (w : Workload) : w.unreported.contentHash = w.contentHash := rfl

end Workload

namespace Deployment

variable {a a' b b' d live live' : Deployment}

/-- The deployment before any node has seen it. -/
def unreported (d : Deployment) : Deployment := { d with workloads := d.workloads.map Workload.unreported }

/-- What a caller chooses: whose deployment it is, its metadata and description, who is to sign it, and
the workloads without their versions. -/
def chosen (d : Deployment) : Deployment where
  version := 0
  twinId := d.twinId
  contractId := 0
  metadata := d.metadata
  description := d.description
  signatureRequirement := ⟨d.signatureRequirement.requests, d.signatureRequirement.weightRequired, []⟩
  workloads := d.workloads.map Workload.chosen

theorem chosen_unreported (d : Deployment) : d.unreported.chosen = d.chosen := by
  simp only [chosen, unreported, List.map_map]
  rfl

theorem chosen_congr (h : a.unreported = b.unreported) : a.chosen = b.chosen := by
  rw [← chosen_unreported, h, chosen_unreported]

theorem version_congr (h : a.unreported = b.unreported) : a.version = b.version := by
  have := congrArg version h
  exact this

/-! ### Challenge and content -/

theorem challenge_unreported (d : Deployment) (v : Versions) : d.unreported.challenge v = d.challenge v := by
  simp only [challenge, unreported, Json.ofList, List.map_map]
  rfl

theorem challenge_chosen (d : Deployment) : d.chosen.challenge .blank = d.challenge .blank := by
  simp only [challenge, chosen, Json.ofList, List.map_map]
  rfl

theorem challengeBytes_congr (h : a.unreported = b.unreported) : a.challengeBytes = b.challengeBytes := by
  rw [challengeBytes, ← challenge_unreported, h, challenge_unreported, ← challengeBytes]

theorem challengeHash_congr (h : a.unreported = b.unreported) : a.challengeHash = b.challengeHash := by
  rw [challengeHash, challengeDigest, challengeBytes_congr h, ← challengeDigest, ← challengeHash]

theorem contentBytes_congr (h : a.chosen = b.chosen) : a.contentBytes = b.contentBytes := by
  rw [contentBytes, ← challenge_chosen, h, challenge_chosen, ← contentBytes]

theorem contentHash_congr (h : a.chosen = b.chosen) : a.contentHash = b.contentHash := by
  rw [contentHash, contentBytes_congr h, ← contentHash]

/-! ### Names -/

theorem namesWithin_chosen (a b : Deployment) : a.chosen.namesWithin b.chosen = a.namesWithin b := by
  simp only [namesWithin, chosen, List.all_map, List.any_map, Function.comp_def, Workload.chosen]

theorem sameNames_chosen (a b : Deployment) : a.chosen.sameNames b.chosen = a.sameNames b := by
  rw [sameNames, sameNames, namesWithin_chosen, namesWithin_chosen]

theorem namesWithin_self (d : Deployment) : d.namesWithin d = true := by
  rw [namesWithin, List.all_eq_true]
  intro w hw
  rw [List.any_eq_true]
  exact ⟨w, hw, beq_self_eq_true w.name⟩

theorem sameNames_self (d : Deployment) : d.sameNames d = true := by
  rw [sameNames, namesWithin_self, Bool.and_self]

/-- Whether a deployment is unchanged depends on nothing but what the two callers chose. -/
theorem isUnchanged_congr (ha : a.chosen = a'.chosen) (hb : b.chosen = b'.chosen) :
    a.isUnchanged b = a'.isUnchanged b' := by
  rw [isUnchanged, isUnchanged, contentHash_congr ha, contentHash_congr hb, ← sameNames_chosen a,
    ← sameNames_chosen a', ha, hb]

theorem isUnchanged_of_chosen_eq (h : a.chosen = b.chosen) : a.isUnchanged b = true := by
  rw [isUnchanged_congr h rfl, isUnchanged, beq_self_eq_true, sameNames_self, Bool.and_self]

/-! ### What keeps the content -/

theorem chosen_resetVersions (d : Deployment) (c : ContractId) :
    { d.resetVersions with contractId := c }.chosen = d.chosen := by
  simp only [chosen, resetVersions, List.map_map]
  rfl

theorem chosen_revise (d live : Deployment) (c : ContractId) (version : UInt32) :
    (d.revise live c version).chosen = d.chosen := by
  simp only [chosen, revise, List.map_map]
  rfl

/-- A signature covers nothing but the challenge, so that it leaves the challenge as it is. -/
theorem challengeHash_sign (d : Deployment) (twinId : TwinId) (identity : Identity) :
    (d.sign twinId identity).challengeHash = d.challengeHash := rfl

/-! ### What keeps everything but the reports -/

theorem publicIpv4Count_congr (h : a.chosen = b.chosen) : a.publicIpv4Count = b.publicIpv4Count := by
  have hcount (d : Deployment) : d.publicIpv4Count = d.chosen.publicIpv4Count := by
    simp only [publicIpv4Count, chosen, List.countP_map]
    rfl
  rw [hcount, h, ← hcount]

theorem workload?_unreported (d : Deployment) (name : String) :
    d.unreported.workload? name = (d.workload? name).map Workload.unreported := by
  rw [workload?, unreported, List.find?_map]
  rfl

theorem workloadHashes_unreported (d : Deployment) : d.unreported.workloadHashes = d.workloadHashes := by
  simp only [workloadHashes, unreported, List.foldl_map, Workload.contentHash_unreported]
  rfl

theorem revise_unreported (d live : Deployment) (c : ContractId) (version : UInt32) :
    d.revise live.unreported c version = d.revise live c version := by
  -- a workload keeps its version if its content has not changed, and reports are no content
  have hversion (w : Workload) : live.unreported.revisedVersion live.workloadHashes version w =
      live.revisedVersion live.workloadHashes version w := by
    simp only [revisedVersion, workload?_unreported]
    rcases live.workload? w.name with _ | old
    · rfl
    · rfl
  simp only [revise, workloadHashes_unreported, hversion]

theorem revise_congr (h : live.unreported = live'.unreported) (d : Deployment) (c : ContractId)
    (version : UInt32) : d.revise live c version = d.revise live' c version := by
  rw [← revise_unreported, h, revise_unreported]

end Deployment

namespace Node

open Deployment (unreported)

theorem unreported_provisionWorkload (p : Provisioning) (previous : Option Deployment) (w : Workload) :
    (provisionWorkload p previous w).unreported = w.unreported := by
  unfold provisionWorkload
  split
  · rfl
  · rfl

/-- Provisioning changes reports only. -/
theorem unreported_provisioned (p : Provisioning) (previous : Option Deployment) (d : Deployment) :
    (provisioned p previous d).unreported = d.unreported := by
  simp only [unreported, provisioned, List.map_map, Function.comp_def, unreported_provisionWorkload]

theorem unreported_ready (w : Workload) : (ready w).unreported = w.unreported := by
  unfold ready
  split
  · rfl
  · rfl

theorem map_unreported_readyFirst (ws : List Workload) :
    (readyFirst ws).map Workload.unreported = ws.map Workload.unreported := by
  induction ws with
  | nil => rfl
  | cons w rest ih =>
    rw [readyFirst]
    split
    · rw [List.map_cons, List.map_cons, unreported_ready]
    · rw [List.map_cons, List.map_cons, ih]

end Node

end ComputeGrid
