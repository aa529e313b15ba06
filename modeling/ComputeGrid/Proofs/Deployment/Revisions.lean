import ComputeGrid.Proofs.Deployment.Versions

/-!
# The versions that a revision assigns

What callers chose decides the version of a workload in a revision: if a live workload was asked for in the same terms, its
version is kept, and otherwise the workload is at the version of the revision (`Revises`, `revises_revise`).  So the order of
workloads and the versions that a caller gives have no part in it (`perm_revise`), and no workload of a revision is ahead of
it, so that it is not refused for that (`Revises.not_regression`).
-/

namespace ComputeGrid

/-- The version of a workload is none of the terms in which it is asked for. -/
theorem Workload.terms_version (w : Workload) (version : UInt32) : { w with version := version }.terms = w.terms := rfl

/-- Workloads that are asked for in the same terms have one hash. -/
theorem Workload.contentHash_of_terms {w w' : Workload} (h : w.terms = w'.terms) : w.contentHash = w'.contentHash := by
  rw [contentHash, contentHash, contentBytes_inj.2 h]

namespace Deployment

variable {d desired desired' live live' : Deployment} {contract : ContractId} {v version : UInt32}
  {w w' old : Workload}

/-! ### One workload -/

/-- A workload that was asked for in the same terms is the one that runs. -/
theorem RunsAt.of_terms (hold : old ∈ live.workloads) (h : old.terms = w.terms) : RunsAt live w old.version :=
  ⟨old, hold, (congrArg Prod.fst h :), Workload.contentHash_of_terms h, rfl⟩

/-- A workload that runs was asked for in the same terms, unless contents collide. -/
theorem RunsAt.exists_terms (h : RunsAt live w v)
    (hcollide : ∀ old ∈ live.workloads, ¬ Sha2.Collide old.contentBytes w.contentBytes) :
    ∃ old ∈ live.workloads, old.terms = w.terms := by
  obtain ⟨old, hold, -, hhash, -⟩ := h
  have hbytes : old.contentBytes = w.contentBytes := Sha2.eq_of_hex hhash (hcollide old hold)
  exact ⟨old, hold, Workload.contentBytes_inj.1 hbytes⟩

theorem RunsAt.eq (hlive : live.validate = .ok ()) (h : RunsAt live w v) (h' : RunsAt live w version) : v = version := by
  obtain ⟨old, hold, hname, -, rfl⟩ := h
  obtain ⟨old', hold', hname', -, rfl⟩ := h'
  rw [eq_of_name_eq hlive hold hold' (hname.trans hname'.symm)]

/-- What runs does not depend on the order of workloads, nor on what nodes report and callers say of versions. -/
theorem RunsAt.congr (h : RunsAt live w v)
    (hlive : (live'.workloads.map Workload.unreported).Perm (live.workloads.map Workload.unreported))
    (hw : w'.chosen = w.chosen) : RunsAt live' w' v := by
  obtain ⟨old, hold, hname, hhash, rfl⟩ := h
  have hterms : w'.terms = w.terms := Workload.chosen_inj.1 hw
  have hmem : old.unreported ∈ live'.workloads.map Workload.unreported := hlive.mem_iff.2 (List.mem_map_of_mem hold)
  obtain ⟨old', hold', hsame⟩ := List.mem_map.1 hmem
  have hname' : old'.name = old.name := (congrArg Workload.name hsame :)
  have hversion' : old'.version = old.version := (congrArg Workload.version hsame :)
  have hhash' : old'.contentHash = old.contentHash := (congrArg Workload.contentHash hsame :)
  refine ⟨old', hold', ?_, ?_, hversion'⟩
  · rw [hname', hname]
    exact (congrArg Prod.fst hterms :).symm
  · rw [hhash', hhash, Workload.contentHash_of_terms hterms]

/-- Nothing else decides the version in a revision. -/
theorem revisedVersion_congr (h : live.validate = .ok ()) (h' : live'.validate = .ok ())
    (hlive : (live'.workloads.map Workload.unreported).Perm (live.workloads.map Workload.unreported))
    (hw : w'.chosen = w.chosen) :
    live'.revisedVersion live'.workloadHashes version w' = live.revisedVersion live.workloadHashes version w := by
  rcases revisedVersion_cases h version w with hruns | ⟨hnone, hnew⟩
  · have hruns' := hruns.congr hlive hw
    rcases revisedVersion_cases h' version w' with hkept | ⟨hnone, -⟩
    · exact hkept.eq h' hruns'
    · exact absurd hruns' (hnone _)
  · rcases revisedVersion_cases h' version w' with hruns' | ⟨-, hnew'⟩
    · exact absurd (hruns'.congr hlive.symm hw.symm) (hnone _)
    · rw [hnew, hnew']

/-! ### All workloads -/

/-- How `d` revises a live deployment to what is desired: it asks for that, at the next version; whatever already runs in the
terms that are desired keeps its version, and all the rest is at the version of `d`. -/
structure Revises (live desired d : Deployment) : Prop where
  version : d.version.toNat = live.version.toNat + 1
  terms : d.SameTerms desired
  workloads : d.workloads.map Workload.terms = desired.workloads.map Workload.terms
  kept : ∀ w ∈ d.workloads, ∀ old ∈ live.workloads, old.terms = w.terms → w.version = old.version
  raised : ∀ w ∈ d.workloads, (∀ old ∈ live.workloads, old.terms ≠ w.terms) → w.version = d.version

theorem revises_revise (desired : Deployment) (contract : ContractId) (h : live.validate = .ok ())
    (hnext : version.toNat = live.version.toNat + 1)
    (hcollide : ∀ old ∈ live.workloads, ∀ w ∈ desired.workloads, ¬ Sha2.Collide old.contentBytes w.contentBytes) :
    Revises live desired (desired.revise live contract version) := by
  have hchosen := chosen_iff.1 (chosen_revise desired live contract version)
  refine ⟨hnext, hchosen.1, hchosen.2, ?_, ?_⟩
  · intro w hw old hold hterms
    obtain ⟨w₀, hw₀, rfl⟩ := List.mem_map.1 hw
    have hruns : RunsAt live w₀ old.version := .of_terms hold hterms
    rcases revisedVersion_cases h version w₀ with hkept | ⟨hnone, -⟩
    · exact hkept.eq h hruns
    · exact absurd hruns (hnone _)
  · intro w hw hnew
    obtain ⟨w₀, hw₀, rfl⟩ := List.mem_map.1 hw
    rcases revisedVersion_cases h version w₀ with hkept | ⟨-, hraised⟩
    · -- whatever keeps its version runs already
      obtain ⟨old, hold, hterms⟩ := hkept.exists_terms fun old hold => hcollide old hold w₀ hw₀
      exact absurd hterms (hnew old hold)
    · exact hraised

/-- A signature is no part of what is revised. -/
theorem Revises.sign (h : Revises live desired d) (twinId : TwinId) (identity : Identity) :
    Revises live desired (d.sign twinId identity) := by
  obtain ⟨htwin, hmetadata, hdescription, hrequests, hweight⟩ := h.terms
  exact ⟨h.version, ⟨htwin, hmetadata, hdescription, hrequests, hweight⟩, h.workloads, h.kept, h.raised⟩

/-- The versions of a revision do not change with the order of the workloads and the versions that were asked for. -/
theorem perm_revise (h : live.validate = .ok ()) (h' : live'.validate = .ok ())
    (hlive : (live'.workloads.map Workload.unreported).Perm (live.workloads.map Workload.unreported))
    (hdesired : (desired'.workloads.map Workload.chosen).Perm (desired.workloads.map Workload.chosen)) :
    ((desired'.revise live' contract version).workloads.map Workload.unreported).Perm
      ((desired.revise live contract version).workloads.map Workload.unreported) := by
  -- the workloads of a revision are made of what callers chose
  have hmap (a b : Deployment) (hb : b.validate = .ok ())
      (hperm : (b.workloads.map Workload.unreported).Perm (live.workloads.map Workload.unreported)) :
      (a.revise b contract version).workloads.map Workload.unreported = (a.workloads.map Workload.chosen).map fun w =>
        { w with version := live.revisedVersion live.workloadHashes version w } := by
    rw [revise, List.map_map, List.map_map]
    refine List.map_congr_left fun w _ => ?_
    have hversion : b.revisedVersion b.workloadHashes version w =
        live.revisedVersion live.workloadHashes version w.chosen := revisedVersion_congr h hb hperm rfl
    simp only [Function.comp_apply, Workload.unreported, hversion]
    rfl
  rw [hmap desired' live' h' hlive, hmap desired live h (.refl _)]
  exact hdesired.map _

/-! ### Refusals -/

/-- A workload on its own is not refused for a version. -/
theorem not_regression_of_workload {at_ : UInt32} {name : String} (w : Workload) :
    w.validate ≠ .error (.versionRegression at_ name v) := by
  unfold Workload.validate
  split
  · split <;> simp
  · simp

/-- Workloads are refused for a version only if one of them is ahead. -/
theorem exists_ahead_of_validateEach {at_ : UInt32} {name : String} {seen : List String} {ws : List Workload}
    (h : validateEach version seen ws = .error (.versionRegression at_ name v)) : ∃ w ∈ ws, version < w.version := by
  induction ws generalizing seen with
  | nil => cases h
  | cons w rest ih =>
    rw [validateEach] at h
    rcases hw : w.validate with e | ⟨⟩
    · rw [hw] at h
      cases h
      exact absurd hw (not_regression_of_workload w)
    rw [hw] at h
    by_cases hseen : seen.contains w.name = true
    · rw [if_pos hseen] at h
      cases h
    rw [if_neg hseen] at h
    by_cases hversion : version < w.version
    · exact ⟨w, List.mem_cons_self, hversion⟩
    rw [if_neg hversion] at h
    obtain ⟨w', hw', hahead⟩ := ih h
    exact ⟨w', List.mem_cons_of_mem w hw', hahead⟩

/-- References are not refused for a version. -/
theorem not_regression_of_references {at_ : UInt32} {name : String} (d : Deployment) (ws : List Workload) :
    validateReferences d ws ≠ .error (.versionRegression at_ name v) := by
  induction ws with
  | nil => exact fun h => by cases h
  | cons w rest ih =>
    rw [validateReferences]
    split
    · exact fun h => by cases h
    · exact ih

/-- A deployment is refused for a version only if a workload is ahead of it. -/
theorem exists_ahead_of_validate {at_ : UInt32} {name : String}
    (h : d.validate = .error (.versionRegression at_ name v)) : ∃ w ∈ d.workloads, d.version < w.version := by
  rw [validate] at h
  by_cases hempty : d.workloads.isEmpty = true
  · rw [if_pos hempty] at h
    cases h
  rw [if_neg hempty] at h
  rcases heach : validateEach d.version [] d.workloads with e | ⟨⟩
  · rw [heach] at h
    cases h
    exact exists_ahead_of_validateEach heach
  · rw [heach] at h
    exact absurd h (not_regression_of_references d d.workloads)

/-- No workload of a revision is ahead of it. -/
theorem Revises.not_regression {at_ : UInt32} {name : String} (h : Revises live desired d) (hlive : live.validate = .ok ()) :
    d.validate ≠ .error (.versionRegression at_ name v) := by
  intro hrefused
  obtain ⟨w, hw, hahead⟩ := exists_ahead_of_validate hrefused
  rw [UInt32.lt_iff_toNat_lt, h.version] at hahead
  by_cases hruns : ∃ old ∈ live.workloads, old.terms = w.terms
  · obtain ⟨old, hold, hterms⟩ := hruns
    have hle : old.version ≤ live.version := version_le_of_validate hlive old hold
    rw [h.kept w hw old hold hterms] at hahead
    rw [UInt32.le_iff_toNat_le] at hle
    omega
  · have hraised := h.raised w hw fun old hold hterms => hruns ⟨old, hold, hterms⟩
    rw [hraised, h.version] at hahead
    omega

end Deployment

end ComputeGrid
