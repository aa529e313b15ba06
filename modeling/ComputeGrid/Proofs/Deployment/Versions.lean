import ComputeGrid.Proofs.Deployment.Encoding
import ComputeGrid.Proofs.Deployment.Validity
import ComputeGrid.Proofs.Maps
import Mathlib.Data.List.Nodup

/-!
# Deployments one after another

A revision is one version above the deployment that it revises, and each of its workloads either is at the
new version or has the version and the hash of a workload that runs (`Deployment.Follows`,
`Deployment.follows_revise`).  Deployments that begin at version zero and follow one another are
`Deployment.Successive`: their versions count up, no version of a workload goes down, and a name at a version
stands for one hash.  That is kept when another one follows (`Deployment.Successive.snoc`).
-/

namespace ComputeGrid.Deployment

open Std (ExtTreeMap)

variable {d d' live last : Deployment} {ds : List Deployment}

/-- A workload of a valid deployment is known by its name. -/
theorem eq_of_name_eq (h : d.validate = .ok ()) {w w' : Workload} (hw : w ∈ d.workloads) (hw' : w' ∈ d.workloads)
    (hname : w.name = w'.name) : w = w' :=
  List.inj_on_of_nodup_map (nodup_names_of_validate h) hw hw' hname

theorem workload?_name (h : d.validate = .ok ()) {w : Workload} (hw : w ∈ d.workloads) : d.workload? w.name = some w :=
  (workload?_eq_some_iff (nodup_names_of_validate h)).2 ⟨hw, rfl⟩

/-! ### Revisions -/

/-- The deployment is one version above a live one, and each of its workloads is at that version or has the version
and the hash of one that is live. -/
structure Follows (live d : Deployment) : Prop where
  version : d.version.toNat = live.version.toNat + 1
  workloads : ∀ w ∈ d.workloads, w.version = d.version ∨
    ∃ old ∈ live.workloads, old.name = w.name ∧ old.version = w.version ∧ old.contentHash = w.contentHash

theorem getElem?_foldl_hashes {ws : List Workload} (hnodup : (ws.map (·.name)).Nodup) (m : NameMap String)
    {w : Workload} (hw : w ∈ ws) :
    (ws.foldl (fun m w => m.insert w.name w.contentHash) m)[w.name]? = some w.contentHash := by
  have hother (ws : List Workload) (m : NameMap String) (hnew : w.name ∉ ws.map (·.name)) :
      (ws.foldl (fun m w => m.insert w.name w.contentHash) m)[w.name]? = m[w.name]? := by
    induction ws generalizing m with
    | nil => rfl
    | cons w' rest ih =>
      rw [List.map_cons, List.mem_cons, not_or] at hnew
      rw [List.foldl_cons, ih _ hnew.2, getElem?_insert_of_ne hnew.1]
  induction ws generalizing m with
  | nil => cases hw
  | cons w' rest ih =>
    rw [List.map_cons, List.nodup_cons] at hnodup
    rw [List.foldl_cons]
    rcases List.mem_cons.mp hw with rfl | hw
    · rw [hother rest _ hnodup.1, ExtTreeMap.getElem?_insert_self]
    · exact ih hnodup.2 _ hw

/-- The hash of a name is that of the workload of this name. -/
theorem getElem?_workloadHashes (h : d.validate = .ok ()) {w : Workload} (hw : w ∈ d.workloads) :
    d.workloadHashes[w.name]? = some w.contentHash :=
  getElem?_foldl_hashes (nodup_names_of_validate h) ∅ hw

/-- A workload of this name and this content runs at a version. -/
def RunsAt (live : Deployment) (w : Workload) (version : UInt32) : Prop :=
  ∃ old ∈ live.workloads, old.name = w.name ∧ old.contentHash = w.contentHash ∧ old.version = version

/-- In a revision a workload keeps the version at which it runs, and is at the new version if it does not run. -/
theorem revisedVersion_cases (h : live.validate = .ok ()) (version : UInt32) (w : Workload) :
    RunsAt live w (live.revisedVersion live.workloadHashes version w) ∨
      (∀ v, ¬ RunsAt live w v) ∧ live.revisedVersion live.workloadHashes version w = version := by
  unfold revisedVersion
  rcases hfound : live.workload? w.name with _ | old
  · refine .inr ⟨?_, rfl⟩
    rintro _ ⟨old, hold, hname, -⟩
    rw [← hname, workload?_name h hold] at hfound
    cases hfound
  have hold : old ∈ live.workloads := List.mem_of_find?_eq_some hfound
  have hname : old.name = w.name := eq_of_beq (List.find?_some hfound :)
  have hhash : live.workloadHashes[w.name]? = some w.contentHash ↔ old.contentHash = w.contentHash := by
    rw [← hname, getElem?_workloadHashes h hold, Option.some.injEq]
  dsimp only
  by_cases hsame : old.contentHash = w.contentHash
  · rw [if_pos (hhash.2 hsame)]
    exact .inl ⟨old, hold, hname, hsame, rfl⟩
  · rw [if_neg fun h => hsame (hhash.1 h)]
    refine .inr ⟨?_, rfl⟩
    rintro _ ⟨old', hold', hname', hsame', -⟩
    rw [eq_of_name_eq h hold' hold (hname'.trans hname.symm)] at hsame'
    exact hsame hsame'

/-- A revision of a valid deployment, at the next version, follows it. -/
theorem follows_revise (desired : Deployment) (contract : ContractId) {version : UInt32} (h : live.validate = .ok ())
    (hnext : version.toNat = live.version.toNat + 1) : Follows live (desired.revise live contract version) := by
  refine ⟨hnext, fun w hw => ?_⟩
  obtain ⟨w₀, _, rfl⟩ := List.mem_map.mp hw
  rcases revisedVersion_cases h version w₀ with ⟨old, hold, hname, hhash, hversion⟩ | ⟨-, hnew⟩
  · exact .inr ⟨old, hold, hname, hversion, hhash⟩
  · exact .inl hnew

/-! ### Successions -/

/-- Valid deployments, first to last: their versions count up from zero, the version of a name never goes down, and
a name at a version stands for one hash. -/
structure Successive (ds : List Deployment) : Prop where
  valid : ∀ d ∈ ds, d.validate = .ok ()
  versions : ds.map (·.version.toNat) = List.range ds.length
  monotone : ds.Pairwise fun d d' => ∀ w ∈ d.workloads, ∀ w' ∈ d'.workloads, w.name = w'.name → w.version ≤ w'.version
  hashes : ∀ d ∈ ds, ∀ d' ∈ ds, ∀ w ∈ d.workloads, ∀ w' ∈ d'.workloads, w.name = w'.name → w.version = w'.version →
    w.contentHash = w'.contentHash

theorem successive_nil : Successive [] := ⟨nofun, rfl, .nil, nofun⟩

/-- A valid deployment whose versions are all zero begins a succession. -/
theorem successive_singleton (h : d.validate = .ok ()) (hversion : d.version = 0) : Successive [d] where
  valid := by
    intro d' hd'
    rw [List.mem_singleton.mp hd']
    exact h
  versions := by
    rw [List.map_cons, hversion]
    rfl
  monotone := List.pairwise_singleton _ d
  hashes := by
    intro a ha b hb w hw w' hw' hname _
    rw [List.mem_singleton.mp ha] at hw
    rw [List.mem_singleton.mp hb] at hw'
    rw [eq_of_name_eq h hw hw' hname]

namespace Successive

/-- The last version is one below the number of deployments. -/
theorem version_last (h : Successive ds) (hlast : ds.getLast? = some last) :
    last.version.toNat + 1 = ds.length := by
  have hversion : (ds.map (·.version.toNat)).getLast? = some last.version.toNat := by
    rw [List.getLast?_map, hlast, Option.map_some]
  have hlength : ds.length ≠ 0 := by
    intro hzero
    rw [List.eq_nil_of_length_eq_zero hzero] at hlast
    cases hlast
  rw [h.versions, List.getLast?_range, if_neg hlength, Option.some.injEq] at hversion
  omega

/-- No workload is at a version that has not come. -/
theorem version_lt (h : Successive ds) (hd : d ∈ ds) {w : Workload} (hw : w ∈ d.workloads) :
    w.version.toNat < ds.length := by
  have hversion : d.version.toNat ∈ ds.map (·.version.toNat) := List.mem_map_of_mem hd
  rw [h.versions, List.mem_range] at hversion
  have hle := UInt32.le_iff_toNat_le.mp (version_le_of_validate (h.valid d hd) w hw)
  omega

/-- No workload is ahead of the last one of its name. -/
theorem version_le_last (h : Successive ds) (hlast : ds.getLast? = some last) (hd : d ∈ ds) {w w' : Workload}
    (hw : w ∈ d.workloads) (hw' : w' ∈ last.workloads) (hname : w.name = w'.name) : w.version ≤ w'.version := by
  obtain ⟨before, rfl⟩ := List.getLast?_eq_some_iff.mp hlast
  rcases List.mem_append.mp hd with hbefore | hd
  · have hcross := (List.pairwise_append.mp h.monotone).2.2
    exact hcross d hbefore last (List.mem_singleton.mpr rfl) w hw w' hw' hname
  · obtain rfl := List.mem_singleton.mp hd
    rw [eq_of_name_eq (h.valid d (List.mem_append_right _ hd)) hw hw' hname]
    exact UInt32.le_refl _

theorem mem_last (hlast : ds.getLast? = some last) : last ∈ ds := List.mem_of_getLast? hlast

/-- A workload of what follows is one of a version that has come only if it has the hash of that. -/
theorem hash_eq_of_follows (h : Successive ds) (hlast : ds.getLast? = some last) (hnext : Follows last d')
    (hd : d ∈ ds) {w w' : Workload} (hw : w ∈ d.workloads) (hw' : w' ∈ d'.workloads) (hname : w.name = w'.name)
    (hversion : w.version = w'.version) : w.contentHash = w'.contentHash := by
  rcases hnext.workloads w' hw' with hnew | ⟨old, hold, hname', hversion', hhash'⟩
  · -- the version is new, so that none of the workloads before has it
    have hlt := h.version_lt hd hw
    have hcount := h.version_last hlast
    have hsucc := hnext.version
    rw [hversion, hnew] at hlt
    omega
  · have hsame := h.hashes d hd last (mem_last hlast) w hw old hold (hname.trans hname'.symm)
      (hversion.trans hversion'.symm)
    exact hsame.trans hhash'

/-- A succession goes on with a valid deployment that follows the last one. -/
theorem snoc (h : Successive ds) (hlast : ds.getLast? = some last) (hnext : Follows last d)
    (hvalid : d.validate = .ok ()) : Successive (ds ++ [d]) where
  valid := by
    intro d' hd'
    rcases List.mem_append.mp hd' with hd' | hd'
    · exact h.valid d' hd'
    · rw [List.mem_singleton.mp hd']
      exact hvalid
  versions := by
    have hversion : d.version.toNat = ds.length := hnext.version.trans (h.version_last hlast)
    rw [List.map_append, h.versions, List.length_append, List.length_singleton, List.range_succ, List.map_singleton,
      hversion]
  monotone := by
    refine List.pairwise_append.mpr ⟨h.monotone, List.pairwise_singleton _ d, ?_⟩
    intro a ha b hb w hw w' hw' hname
    rw [List.mem_singleton.mp hb] at hw'
    rcases hnext.workloads w' hw' with hnew | ⟨old, hold, hname', hversion', _⟩
    · have hlt := h.version_lt ha hw
      have hcount := h.version_last hlast
      have hsucc := hnext.version
      rw [hnew, UInt32.le_iff_toNat_le]
      omega
    · rw [← hversion']
      exact h.version_le_last hlast ha hw hold (hname.trans hname'.symm)
  hashes := by
    intro a ha b hb w hw w' hw' hname hversion
    rcases List.mem_append.mp ha with ha | ha
    · rcases List.mem_append.mp hb with hb | hb
      · exact h.hashes a ha b hb w hw w' hw' hname hversion
      · rw [List.mem_singleton.mp hb] at hw'
        exact h.hash_eq_of_follows hlast hnext ha hw hw' hname hversion
    · rw [List.mem_singleton.mp ha] at hw
      rcases List.mem_append.mp hb with hb | hb
      · exact (h.hash_eq_of_follows hlast hnext hb hw' hw hname.symm hversion.symm).symm
      · rw [List.mem_singleton.mp hb] at hw'
        rw [eq_of_name_eq hvalid hw hw' hname]

end Successive

end ComputeGrid.Deployment
