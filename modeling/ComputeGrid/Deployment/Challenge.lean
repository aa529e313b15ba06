import ComputeGrid.Deployment.Codec
import ComputeGrid.Identity
import ComputeGrid.Workload.Content

/-!
# Challenge and content of a deployment

The challenge is what an owner signs and what the ledger holds the hash of: everything that a caller chooses, with the
versions. The content is the challenge with every version left open, by which two deployments ask for the same thing.
Neither depends on the contract, on signatures or on reports.
-/

namespace ComputeGrid

/-- Whether a challenge shows versions. -/
inductive Versions where
  | shown
  | blank
  deriving DecidableEq

/-- A version in a challenge. -/
def Versions.toJson (v : Versions) (version : UInt32) : Json :=
  match v with
  | .shown => .ofNat version.toNat
  | .blank => .null

namespace Workload

/-- What the challenge of a deployment says about a workload. -/
def challenge (v : Versions) (w : Workload) : Json :=
  .object [("version", v.toJson w.version), ("name", .string w.name), ("data", w.payload.toJson),
    ("metadata", .string w.metadata), ("description", .string w.description)]

end Workload

namespace Deployment

/-- The challenge with its versions shown or left open. -/
def challenge (v : Versions) (d : Deployment) : Json :=
  .object [("version", v.toJson d.version), ("twin_id", .ofNat d.twinId.toNat), ("metadata", .string d.metadata),
    ("description", .string d.description), ("workloads", Json.ofList (Workload.challenge v) d.workloads),
    ("requests", Json.ofList SignatureRequest.toJson d.signatureRequirement.requests),
    ("weight_required", .ofNat d.signatureRequirement.weightRequired.toNat)]

/-- The bytes that the challenge hash covers. -/
def challengeBytes (d : Deployment) : List UInt8 := (d.challenge .shown).renderBytes

/-- The bytes that the content hash covers. -/
def contentBytes (d : Deployment) : List UInt8 := (d.challenge .blank).renderBytes

/-- The digest that is signed. -/
def challengeDigest (d : Deployment) : List UInt8 := Sha2.sha256 d.challengeBytes

/-- The digest that the ledger holds, in hexadecimal. -/
def challengeHash (d : Deployment) : String := Text.hex d.challengeDigest

/-- The digest of the content in hexadecimal. -/
def contentHash (d : Deployment) : String := Text.hex (Sha2.sha256 d.contentBytes)

/-- The content hash of each name; of several workloads of one name the last counts. -/
def workloadHashes (d : Deployment) : NameMap String :=
  d.workloads.foldl (fun m w => m.insert w.name w.contentHash) ∅

/-- The deployment with an identity's signature of its challenge in place of all others. -/
def sign (d : Deployment) (twinId : TwinId) (identity : Identity) : Deployment :=
  let signature := Text.hex (identity.sign d.challengeDigest)
  { d with signatureRequirement.signatures := [⟨twinId, signature, Identity.scheme⟩] }

end Deployment

end ComputeGrid
