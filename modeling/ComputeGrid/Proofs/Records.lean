import ComputeGrid.Contract
import ComputeGrid.Deployment.Challenge
import ComputeGrid.Inventory.Codec
import ComputeGrid.Mesh.Codec
import ComputeGrid.Proofs.Workload.Codec

/-!
# Records are read back

What is written of a deployment, a contract, a node or a mesh is read as the same record, and so a deployment that
arrives has the hashes of the one that was sent (`records_readBack`).
-/

namespace ComputeGrid

open Json (toOption?_ofOption)

/-! ### Deployments -/

@[simp] theorem SignatureRequest.ofJson?_toJson (r : SignatureRequest) : ofJson? r.toJson = some r := by
  simp -implicitDefEqProofs [toJson, ofJson?]

@[simp] theorem Signature.ofJson?_toJson (s : Signature) : ofJson? s.toJson = some s := by
  simp -implicitDefEqProofs [toJson, ofJson?]

@[simp] theorem SignatureRequirement.ofJson?_toJson (r : SignatureRequirement) : ofJson? r.toJson = some r := by
  simp -implicitDefEqProofs [toJson, ofJson?]

@[simp] theorem Deployment.ofJson?_toJson (d : Deployment) : ofJson? d.toJson = some d := by
  simp -implicitDefEqProofs [toJson, ofJson?]

/-! ### Contracts -/

@[simp] theorem ContractState.ofText?_text (s : ContractState) : ofText? s.text = some s := by
  cases s <;> decide +kernel

@[simp] theorem Contract.ofJson?_toJson (c : Contract) : ofJson? c.toJson = some c := by
  simp -implicitDefEqProofs [toJson, ofJson?, toOption?_ofOption Json.toUInt64?_ofNat rfl]

/-! ### Nodes -/

@[simp] theorem Capacity.ofJson?_toJson (c : Capacity) : ofJson? c.toJson = some c := by
  simp -implicitDefEqProofs [toJson, ofJson?]

@[simp] theorem PublicConfig.ofJson?_toJson (c : PublicConfig) : ofJson? c.toJson = some c := by
  simp -implicitDefEqProofs [toJson, ofJson?, toOption?_ofOption Ipv4Network.ofJson?_toJson rfl,
    toOption?_ofOption Ipv4.ofJson?_toJson rfl, toOption?_ofOption Ipv6Network.ofJson?_toJson rfl,
    toOption?_ofOption Ipv6.ofJson?_toJson rfl, toOption?_ofOption Json.toString?_string rfl]

@[simp] theorem NodeInfo.ofJson?_toJson (n : NodeInfo) : ofJson? n.toJson = some n := by
  simp -implicitDefEqProofs [toJson, ofJson?, toOption?_ofOption PublicConfig.ofJson?_toJson rfl]

/-! ### Meshes -/

@[simp] theorem Member.ofJson?_toJson (m : Member) : ofJson? m.toJson = some m := by
  simp -implicitDefEqProofs [toJson, ofJson?]

@[simp] theorem ExternalMember.ofJson?_toJson (m : ExternalMember) : ofJson? m.toJson = some m := by
  obtain ⟨subnet, publicKey, privateKey⟩ := m
  cases privateKey with
  | none => simp -implicitDefEqProofs [toJson, ofJson?]
  | some key => simp -implicitDefEqProofs [toJson, ofJson?, Json.toOption?]

@[simp] theorem Mesh.ofJson?_toJson (m : Mesh) : ofJson? m.toJson = some m := by
  simp -implicitDefEqProofs [toJson, ofJson?, toOption?_ofOption Json.toUInt32?_ofNat rfl,
    toOption?_ofOption ExternalMember.ofJson?_toJson rfl]

/-! ### Every record -/

/-- Deployments, lists of workloads, contracts, nodes and meshes are read back from what is written of them, whatever
they hold; the hashes of a deployment are those of the one that is read. -/
theorem records_readBack :
    (∀ d : Deployment, Deployment.ofJson? d.toJson = some d) ∧
      (∀ ws : List Workload, Json.toList? Workload.ofJson? (Json.ofList Workload.toJson ws) = some ws) ∧
      (∀ c : Contract, Contract.ofJson? c.toJson = some c) ∧
      (∀ n : NodeInfo, NodeInfo.ofJson? n.toJson = some n) ∧
      (∀ m : Mesh, Mesh.ofJson? m.toJson = some m) ∧
      ∀ d : Deployment,
        (Deployment.ofJson? d.toJson).map Deployment.challengeHash = some d.challengeHash ∧
          (Deployment.ofJson? d.toJson).map Deployment.contentHash = some d.contentHash := by
  refine ⟨Deployment.ofJson?_toJson, Json.toList?_ofList Workload.ofJson?_toJson, Contract.ofJson?_toJson,
    NodeInfo.ofJson?_toJson, Mesh.ofJson?_toJson, fun d => ?_⟩
  rw [Deployment.ofJson?_toJson]
  exact ⟨rfl, rfl⟩

end ComputeGrid
