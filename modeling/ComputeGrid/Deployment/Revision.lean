import ComputeGrid.Deployment.Challenge

/-!
# Revisions

A revision is a desired deployment with the versions that follow from the one that runs. A workload whose content has not
changed keeps its version, and every other one is at the version of the revision.
-/

namespace ComputeGrid.Deployment

/-- The version of a workload in a revision. -/
def revisedVersion (live : Deployment) (hashes : NameMap String) (version : UInt32) (w : Workload) : UInt32 :=
  match live.workload? w.name with
  | some old => if hashes[w.name]? = some w.contentHash then old.version else version
  | none => version

/-- The desired deployment as the revision of a live one, at a version. -/
def revise (desired live : Deployment) (contract : ContractId) (version : UInt32) : Deployment :=
  let hashes := live.workloadHashes
  { desired with
    contractId := contract
    version := version
    workloads := desired.workloads.map fun w => { w with version := live.revisedVersion hashes version w } }

/-- Whether a live deployment has the content of the desired one. -/
def isUnchanged (live desired : Deployment) : Bool :=
  live.contentHash == desired.contentHash && live.sameNames desired

end ComputeGrid.Deployment
