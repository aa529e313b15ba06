import ComputeGrid.Proofs.Deployment.Content
import ComputeGrid.Proofs.Workload.Encoding

/-!
# The bytes that are hashed determine what they stand for

A challenge and a content are JSON objects, whose bytes are those of no other object, and their fields are what
callers choose (`Workload.challenge_inj`, `Deployment.challenge_inj`).  So two deployments have the same content as bytes
exactly when their callers chose the same (`Deployment.contentBytes_inj`), the same challenge when the versions are the
same too, and the bytes tell nothing else apart (`Deployment.hashed_iff`).  Where the digest does not collide, the hashes
determine as much as the bytes (`Deployment.chosen_eq_of_contentHash`, `Deployment.version_eq_of_challengeHash`), and the
comparison of names adds nothing to that of the hashes (`Deployment.isUnchanged_eq`).
-/

namespace ComputeGrid

/-- Different messages with one digest. -/
def Sha2.Collide (a b : List UInt8) : Prop := a ≠ b ∧ sha256 a = sha256 b

/-- Messages that do not collide are the same if their digests are, as hexadecimal text. -/
theorem Sha2.eq_of_hex {a b : List UInt8} (h : Text.hex (sha256 a) = Text.hex (sha256 b)) (hcollide : ¬ Collide a b) :
    a = b := by
  have hencode : Text.hexEncode (sha256 a) = Text.hexEncode (sha256 b) := String.ofList_injective h
  have hdigest : some (sha256 a) = some (sha256 b) := by
    rw [← Text.hexDecode?_hexEncode, hencode, Text.hexDecode?_hexEncode]
  exact Classical.byContradiction fun hne => hcollide ⟨hne, Option.some.inj hdigest⟩

/-- Where one function tells apart what another does, it does so on lists. -/
theorem map_eq_map_of_imp {α β γ : Type} {f : α → β} {g : α → γ} (h : ∀ x y, f x = f y → g x = g y)
    {xs ys : List α} (heq : xs.map f = ys.map f) : xs.map g = ys.map g := by
  induction xs generalizing ys with
  | nil =>
    rw [List.map_nil, eq_comm, List.map_eq_nil_iff] at heq
    rw [heq]
  | cons x xs ih =>
    rcases ys with _ | ⟨y, ys⟩
    · cases heq
    · rw [List.map_cons, List.map_cons, List.cons.injEq] at heq
      rw [List.map_cons, List.map_cons, h x y heq.1, ih heq.2]

@[simp] theorem SignatureRequest.toJson_inj {a b : SignatureRequest} : a.toJson = b.toJson ↔ a = b := by
  cases a
  cases b
  simp [toJson, UInt32.toNat_inj]

@[simp] theorem SignatureRequest.plain_toJson (r : SignatureRequest) : r.toJson.Plain := by
  simp [toJson]

@[simp] theorem Versions.plain_toJson (v : Versions) (version : UInt32) : (v.toJson version).Plain := by
  cases v
  · exact trivial
  · exact trivial

theorem Versions.toJson_shown_inj {version version' : UInt32} :
    shown.toJson version = shown.toJson version' ↔ version = version' := by
  rw [toJson, toJson, Json.ofNat_inj, UInt32.toNat_inj]

namespace Workload

variable {w w' : Workload}

/-- What a caller chooses of a workload: name, payload, metadata and description. -/
def terms (w : Workload) : String × Payload × String × String := (w.name, w.payload, w.metadata, w.description)

theorem chosen_inj : w.chosen = w'.chosen ↔ w.terms = w'.terms := by
  simp [chosen, terms]

theorem plain_challenge (v : Versions) (w : Workload) : (w.challenge v).Plain := by
  simp [challenge]

theorem challenge_inj {v : Versions} :
    w.challenge v = w'.challenge v ↔ v.toJson w.version = v.toJson w'.version ∧ w.terms = w'.terms := by
  simp [challenge, terms]

theorem plain_content (w : Workload) : w.content.Plain := by
  simp [content]

theorem content_inj : w.content = w'.content ↔ w.terms = w'.terms := by
  simp [content, terms]

/-- The bytes of the content are the same for those workloads whose callers chose the same. -/
theorem contentBytes_inj : w.contentBytes = w'.contentBytes ↔ w.terms = w'.terms := by
  rw [← content_inj]
  exact ⟨Json.renderBytes_injective w.plain_content w'.plain_content, congrArg _⟩

/-- Workloads with one hash differ in nothing that their callers chose, unless their contents collide. -/
theorem chosen_eq_of_contentHash (h : w.contentHash = w'.contentHash)
    (hcollide : ¬ Sha2.Collide w.contentBytes w'.contentBytes) : w.chosen = w'.chosen :=
  chosen_inj.2 (contentBytes_inj.1 (Sha2.eq_of_hex h hcollide))

end Workload

namespace Deployment

variable {a b : Deployment}

/-- What a caller chooses beside the workloads is the same: whose deployment it is, its metadata and description, and who is
to sign it. -/
structure SameTerms (a b : Deployment) : Prop where
  twinId : a.twinId = b.twinId
  metadata : a.metadata = b.metadata
  description : a.description = b.description
  requests : a.signatureRequirement.requests = b.signatureRequirement.requests
  weightRequired : a.signatureRequirement.weightRequired = b.signatureRequirement.weightRequired

theorem plain_challenge (v : Versions) (d : Deployment) : (d.challenge v).Plain := by
  simp [challenge, Json.plain_ofList (Workload.plain_challenge v), Json.plain_ofList SignatureRequest.plain_toJson]

theorem challenge_inj {v : Versions} : a.challenge v = b.challenge v ↔
    v.toJson a.version = v.toJson b.version ∧ a.SameTerms b ∧
      a.workloads.map (Workload.challenge v) = b.workloads.map (Workload.challenge v) := by
  have hrequest : Function.Injective SignatureRequest.toJson := fun _ _ => SignatureRequest.toJson_inj.mp
  have hworkloads : Json.ofList (Workload.challenge v) a.workloads = Json.ofList (Workload.challenge v) b.workloads ↔
      a.workloads.map (Workload.challenge v) = b.workloads.map (Workload.challenge v) := ⟨Json.array.inj, congrArg _⟩
  simp only [challenge, Json.object.injEq, List.cons.injEq, Prod.mk.injEq, Json.string.injEq, Json.ofNat_inj,
    UInt32.toNat_inj, Json.ofList_inj hrequest, hworkloads, true_and, and_true]
  constructor
  · rintro ⟨hversion, htwin, hmetadata, hdescription, hworkloads, hrequests, hweight⟩
    exact ⟨hversion, ⟨htwin, hmetadata, hdescription, hrequests, hweight⟩, hworkloads⟩
  · rintro ⟨hversion, ⟨htwin, hmetadata, hdescription, hrequests, hweight⟩, hworkloads⟩
    exact ⟨hversion, htwin, hmetadata, hdescription, hworkloads, hrequests, hweight⟩

/-- Deployments with one content differ in nothing that their callers chose. -/
theorem chosen_eq_of_challenge (h : a.challenge .blank = b.challenge .blank) : a.chosen = b.chosen := by
  obtain ⟨-, hterms, hworkloads⟩ := challenge_inj.1 h
  have hworkloads : a.workloads.map Workload.chosen = b.workloads.map Workload.chosen :=
    map_eq_map_of_imp (fun _ _ h => Workload.chosen_inj.2 (Workload.challenge_inj.1 h).2) hworkloads
  rw [chosen, chosen, hterms.twinId, hterms.metadata, hterms.description, hworkloads, hterms.requests,
    hterms.weightRequired]

/-- The bytes of the content are the same for those deployments whose callers chose the same. -/
theorem contentBytes_inj : a.contentBytes = b.contentBytes ↔ a.chosen = b.chosen := by
  refine ⟨fun h => chosen_eq_of_challenge ?_, contentBytes_congr⟩
  exact Json.renderBytes_injective (plain_challenge .blank a) (plain_challenge .blank b) h

/-- What callers chose is the same beside the workloads and in each of them. -/
theorem chosen_iff : a.chosen = b.chosen ↔
    a.SameTerms b ∧ a.workloads.map Workload.terms = b.workloads.map Workload.terms := by
  rw [← contentBytes_inj]
  constructor
  · intro h
    have hchallenge := Json.renderBytes_injective (plain_challenge .blank a) (plain_challenge .blank b) h
    obtain ⟨-, hterms, hworkloads⟩ := challenge_inj.1 hchallenge
    exact ⟨hterms, map_eq_map_of_imp (fun _ _ h => (Workload.challenge_inj.1 h).2) hworkloads⟩
  · rintro ⟨hterms, hworkloads⟩
    have hworkload (w w' : Workload) (h : w.terms = w'.terms) : w.challenge .blank = w'.challenge .blank :=
      Workload.challenge_inj.2 ⟨rfl, h⟩
    exact congrArg Json.renderBytes (challenge_inj.2 ⟨rfl, hterms, map_eq_map_of_imp hworkload hworkloads⟩)

/-- The bytes of a challenge are the same for those deployments that have the same versions and whose callers chose the
same. -/
theorem challengeBytes_inj : a.challengeBytes = b.challengeBytes ↔
    a.version = b.version ∧ a.SameTerms b ∧
      a.workloads.map (fun w => (w.version, w.terms)) = b.workloads.map fun w => (w.version, w.terms) := by
  have hworkload (w w' : Workload) :
      w.challenge .shown = w'.challenge .shown ↔ (w.version, w.terms) = (w'.version, w'.terms) := by
    rw [Workload.challenge_inj, Versions.toJson_shown_inj]
    exact ⟨fun h => Prod.ext h.1 h.2, fun h => ⟨congrArg Prod.fst h, congrArg Prod.snd h⟩⟩
  have hbytes : a.challengeBytes = b.challengeBytes ↔ a.challenge .shown = b.challenge .shown :=
    ⟨Json.renderBytes_injective (plain_challenge .shown a) (plain_challenge .shown b), congrArg _⟩
  rw [hbytes, challenge_inj, Versions.toJson_shown_inj]
  constructor
  · rintro ⟨hversion, hterms, hworkloads⟩
    exact ⟨hversion, hterms, map_eq_map_of_imp (fun w w' => (hworkload w w').1) hworkloads⟩
  · rintro ⟨hversion, hterms, hworkloads⟩
    exact ⟨hversion, hterms, map_eq_map_of_imp (fun w w' => (hworkload w w').2) hworkloads⟩

/-- The bytes of a challenge show the version. -/
theorem version_eq_of_challengeBytes (h : a.challengeBytes = b.challengeBytes) : a.version = b.version :=
  (challengeBytes_inj.1 h).1

theorem chosen_eq_of_contentHash (h : a.contentHash = b.contentHash)
    (hcollide : ¬ Sha2.Collide a.contentBytes b.contentBytes) : a.chosen = b.chosen :=
  contentBytes_inj.mp (Sha2.eq_of_hex h hcollide)

theorem version_eq_of_challengeHash (h : a.challengeHash = b.challengeHash)
    (hcollide : ¬ Sha2.Collide a.challengeBytes b.challengeBytes) : a.version = b.version :=
  version_eq_of_challengeBytes (Sha2.eq_of_hex h hcollide)

/-- A deployment that is taken for unchanged has the content that is wanted. -/
theorem chosen_eq_of_isUnchanged (h : a.isUnchanged b = true)
    (hcollide : ¬ Sha2.Collide a.contentBytes b.contentBytes) : a.chosen = b.chosen := by
  rw [isUnchanged, Bool.and_eq_true, beq_iff_eq] at h
  exact chosen_eq_of_contentHash h.1 hcollide

/-- Whoever asks for the same has the same names, so that the hashes alone decide what is unchanged. -/
theorem isUnchanged_eq (hcollide : ¬ Sha2.Collide a.contentBytes b.contentBytes) :
    a.isUnchanged b = (a.contentHash == b.contentHash) := by
  by_cases h : a.contentHash = b.contentHash
  · rw [isUnchanged_of_chosen_eq (chosen_eq_of_contentHash h hcollide), h, beq_self_eq_true]
  · rw [isUnchanged, beq_eq_false_iff_ne.2 h, Bool.false_and]

/-- The deployment under another contract, with other signatures and other reports. -/
def relabeled (d : Deployment) (contract : ContractId) (signatures : List Signature) (report : Workload → Report) :
    Deployment :=
  { d with
    contractId := contract
    signatureRequirement.signatures := signatures
    workloads := d.workloads.map fun w => { w with report := report w } }

/-- The bytes that are hashed are equal if and only if callers chose the same, at the same versions where these are shown.
So no byte depends on contracts, signatures and reports, and without collisions the names of what is unchanged are the
same. -/
theorem hashed_iff (a b : Deployment) :
    (a.challengeBytes = b.challengeBytes ↔ a.version = b.version ∧ a.SameTerms b ∧
      a.workloads.map (fun w => (w.version, w.terms)) = b.workloads.map fun w => (w.version, w.terms)) ∧
    (a.contentBytes = b.contentBytes ↔
      a.SameTerms b ∧ a.workloads.map Workload.terms = b.workloads.map Workload.terms) ∧
    (∀ w w' : Workload, w.contentBytes = w'.contentBytes ↔ w.terms = w'.terms) ∧
    (∀ contract signatures report,
      (a.relabeled contract signatures report).challengeBytes = a.challengeBytes ∧
        (a.relabeled contract signatures report).contentBytes = a.contentBytes) ∧
    (¬ Sha2.Collide a.contentBytes b.contentBytes →
      (a.contentHash = b.contentHash → a.sameNames b = true) ∧
        a.isUnchanged b = (a.contentHash == b.contentHash)) := by
  refine ⟨challengeBytes_inj, contentBytes_inj.trans chosen_iff, fun w w' => Workload.contentBytes_inj, ?_, ?_⟩
  · intro contract signatures report
    have hterms : (a.relabeled contract signatures report).SameTerms a := ⟨rfl, rfl, rfl, rfl, rfl⟩
    constructor
    · refine challengeBytes_inj.2 ⟨rfl, hterms, ?_⟩
      rw [relabeled, List.map_map]
      rfl
    · refine contentBytes_inj.2 (chosen_iff.2 ⟨hterms, ?_⟩)
      rw [relabeled, List.map_map]
      rfl
  · intro hcollide
    have hunchanged := isUnchanged_eq hcollide
    refine ⟨fun h => ?_, hunchanged⟩
    rw [h, beq_self_eq_true, isUnchanged, Bool.and_eq_true] at hunchanged
    exact hunchanged.2

end Deployment

/-- A deployment that has been given a version and a contract has another challenge, and is still what was asked for. -/
theorem Deployment.hashed_of_revised :
    let d : Deployment := .new 1 [Workload.new "a" (.disk ⟨1024⟩)]
    let revised : Deployment := { d with version := 3, contractId := 7 }
    revised.challengeBytes ≠ d.challengeBytes ∧ ¬ Sha2.Collide revised.contentBytes d.contentBytes ∧
      revised.sameNames d = true ∧ revised.isUnchanged d = true := by
  intro d revised
  have hsame : revised.contentBytes = d.contentBytes :=
    (hashed_iff revised d).2.1.2 ⟨⟨rfl, rfl, rfl, rfl, rfl⟩, rfl⟩
  have hcollide : ¬ Sha2.Collide revised.contentBytes d.contentBytes := fun h => h.1 hsame
  obtain ⟨hnames, hunchanged⟩ := (hashed_iff revised d).2.2.2.2 hcollide
  have hhash : revised.contentHash = d.contentHash := by rw [contentHash, contentHash, hsame]
  refine ⟨fun h => ?_, hcollide, hnames hhash, ?_⟩
  · obtain ⟨hversion, -⟩ := (hashed_iff revised d).1.1 h
    exact absurd hversion (by decide)
  · rw [hunchanged, hhash, beq_self_eq_true]

end ComputeGrid
