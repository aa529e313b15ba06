import ComputeGrid.Deployment.Basic
import ComputeGrid.Workload.Codec

/-!
# Deployments as JSON
-/

namespace ComputeGrid

open Json (ofNat)

namespace SignatureRequest

def toJson (r : SignatureRequest) : Json :=
  .object [("twin_id", ofNat r.twinId.toNat), ("required", .bool r.required), ("weight", ofNat r.weight.toNat)]

def ofJson? (j : Json) : Option SignatureRequest := do
  let f ← j.toFields? 3
  return {
    twinId := ← f.required 0 "twin_id" Json.toUInt32?
    required := ← f.required 1 "required" Json.toBool?
    weight := ← f.required 2 "weight" Json.toUInt32? }

end SignatureRequest

namespace Signature

def toJson (s : Signature) : Json :=
  .object [("twin_id", ofNat s.twinId.toNat), ("signature", .string s.signature),
    ("signature_type", .string s.scheme)]

def ofJson? (j : Json) : Option Signature := do
  let f ← j.toFields? 3
  return {
    twinId := ← f.required 0 "twin_id" Json.toUInt32?
    signature := ← f.required 1 "signature" Json.toString?
    scheme := ← f.required 2 "signature_type" Json.toString? }

end Signature

namespace SignatureRequirement

/-- What is asked for when a record says nothing: no signature at all. -/
def absent : SignatureRequirement := ⟨[], 0, []⟩

def toJson (r : SignatureRequirement) : Json :=
  .object [("requests", Json.ofList SignatureRequest.toJson r.requests),
    ("weight_required", ofNat r.weightRequired.toNat), ("signatures", Json.ofList Signature.toJson r.signatures)]

def ofJson? (j : Json) : Option SignatureRequirement := do
  let f ← j.toFields? 3
  return {
    requests := ← f.required 0 "requests" (Json.toList? SignatureRequest.ofJson?)
    weightRequired := ← f.required 1 "weight_required" Json.toUInt32?
    signatures := ← f.withDefault 2 "signatures" (Json.toList? Signature.ofJson?) [] }

end SignatureRequirement

namespace Deployment

def toJson (d : Deployment) : Json :=
  .object [("version", ofNat d.version.toNat), ("twin_id", ofNat d.twinId.toNat),
    ("contract_id", ofNat d.contractId.toNat), ("metadata", .string d.metadata),
    ("description", .string d.description), ("signature_requirement", d.signatureRequirement.toJson),
    ("workloads", Json.ofList Workload.toJson d.workloads)]

def ofJson? (j : Json) : Option Deployment := do
  let f ← j.toFields? 7
  return {
    version := ← f.required 0 "version" Json.toUInt32?
    twinId := ← f.required 1 "twin_id" Json.toUInt32?
    contractId := ← f.required 2 "contract_id" Json.toUInt64?
    metadata := ← f.withDefault 3 "metadata" Json.toString? ""
    description := ← f.withDefault 4 "description" Json.toString? ""
    signatureRequirement := ← f.withDefault 5 "signature_requirement" SignatureRequirement.ofJson? .absent
    workloads := ← f.required 6 "workloads" (Json.toList? Workload.ofJson?) }

end Deployment

end ComputeGrid
