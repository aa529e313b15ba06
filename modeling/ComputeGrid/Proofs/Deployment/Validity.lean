import ComputeGrid.Deployment.Validity
import ComputeGrid.Proofs.Deployment.Content
import ComputeGrid.Proofs.Timeline
import Mathlib.Data.List.Nodup

/-!
# What validity gives

Workloads pass one after another if each passes on its own and no name comes twice (`validateEach_eq_ok_iff`).  So the
workloads of a valid deployment have different names (`nodup_names_of_validate`), by which they are found
(`workload?_eq_some_iff`), so that the map of their versions has an entry for each of them (`size_workloadVersions`), and none
is ahead of the deployment (`version_le_of_validate`).  Validity has nothing to do with signatures, nor with reports
(`validate_congr`).
-/

namespace ComputeGrid.Deployment

open Std (ExtTreeMap)

variable {d : Deployment}

/-- A workload passes on its own if it is valid, its name has not been seen and its version is not ahead. -/
theorem validateEach_cons_eq_ok {version : UInt32} {seen : List String} {w : Workload} {ws : List Workload} :
    validateEach version seen (w :: ws) = .ok () ↔ w.validate = .ok () ∧ w.name ∉ seen ∧ w.version ≤ version ∧
      validateEach version (w.name :: seen) ws = .ok () := by
  rw [validateEach, Checked.bind_eq_ok]
  by_cases hseen : w.name ∈ seen
  · rw [if_pos (List.contains_iff_mem.mpr hseen)]
    constructor
    · rintro ⟨_, _, h⟩
      cases h
    · exact fun h => absurd hseen h.2.1
  rw [if_neg fun h => hseen (List.contains_iff_mem.mp h)]
  by_cases hversion : version < w.version
  · rw [if_pos hversion]
    constructor
    · rintro ⟨_, _, h⟩
      cases h
    · exact fun h => absurd h.2.2.1 (UInt32.not_le.mpr hversion)
  rw [if_neg hversion]
  constructor
  · rintro ⟨⟨⟩, hvalid, hrest⟩
    exact ⟨hvalid, hseen, UInt32.not_lt.mp hversion, hrest⟩
  · rintro ⟨hvalid, _, _, hrest⟩
    exact ⟨(), hvalid, hrest⟩

/-- Workloads pass one after another if and only if each passes on its own, and no name comes twice. -/
theorem validateEach_eq_ok_iff {version : UInt32} {seen : List String} {ws : List Workload} :
    validateEach version seen ws = .ok () ↔
      (∀ w ∈ ws, w.validate = .ok () ∧ w.version ≤ version ∧ w.name ∉ seen) ∧ (ws.map (·.name)).Nodup := by
  induction ws generalizing seen with
  | nil => exact iff_of_true rfl ⟨nofun, List.nodup_nil⟩
  | cons w rest ih =>
    rw [validateEach_cons_eq_ok, ih, List.forall_mem_cons, List.map_cons, List.nodup_cons]
    constructor
    · rintro ⟨hvalid, hseen, hversion, hrest, hnodup⟩
      refine ⟨⟨⟨hvalid, hversion, hseen⟩, fun other hother => ?_⟩, fun hmem => ?_, hnodup⟩
      · obtain ⟨hvalid', hversion', hseen'⟩ := hrest other hother
        exact ⟨hvalid', hversion', fun hmem => hseen' (List.mem_cons_of_mem _ hmem)⟩
      · obtain ⟨other, hother, hname⟩ := List.mem_map.1 hmem
        exact (hrest other hother).2.2 (hname ▸ List.mem_cons_self)
    · rintro ⟨⟨⟨hvalid, hversion, hseen⟩, hrest⟩, hnew, hnodup⟩
      refine ⟨hvalid, hseen, hversion, fun other hother => ?_, hnodup⟩
      obtain ⟨hvalid', hversion', hseen'⟩ := hrest other hother
      refine ⟨hvalid', hversion', fun hmem => ?_⟩
      rcases List.mem_cons.1 hmem with hname | hmem
      · exact hnew (List.mem_map.2 ⟨other, hother, hname⟩)
      · exact hseen' hmem

theorem nodup_names_of_validateEach {version : UInt32} {seen : List String} {ws : List Workload}
    (h : validateEach version seen ws = .ok ()) : (ws.map (·.name)).Nodup ∧ ∀ w ∈ ws, w.name ∉ seen := by
  obtain ⟨hworkloads, hnodup⟩ := validateEach_eq_ok_iff.mp h
  exact ⟨hnodup, fun w hw => (hworkloads w hw).2.2⟩

theorem version_le_of_validateEach {version : UInt32} {seen : List String} {ws : List Workload}
    (h : validateEach version seen ws = .ok ()) : ∀ w ∈ ws, w.version ≤ version :=
  fun w hw => ((validateEach_eq_ok_iff.mp h).1 w hw).2.1

/-- The workloads of a valid deployment have passed on their own. -/
theorem validateEach_of_validate (h : d.validate = .ok ()) : validateEach d.version [] d.workloads = .ok () := by
  rw [validate] at h
  by_cases hempty : d.workloads.isEmpty = true
  · rw [if_pos hempty] at h
    cases h
  · rw [if_neg hempty, Checked.bind_eq_ok] at h
    obtain ⟨_, heach, _⟩ := h
    exact heach

/-- No two workloads of a valid deployment have the same name. -/
theorem nodup_names_of_validate (h : d.validate = .ok ()) : (d.workloads.map (·.name)).Nodup :=
  (nodup_names_of_validateEach (validateEach_of_validate h)).1

/-- No workload of a valid deployment is ahead of it. -/
theorem version_le_of_validate (h : d.validate = .ok ()) : ∀ w ∈ d.workloads, w.version ≤ d.version :=
  version_le_of_validateEach (validateEach_of_validate h)

/-- Where names are different, the first workload of a name is the only one. -/
theorem workload?_eq_some_iff {name : String} {w : Workload} (hnames : (d.workloads.map (·.name)).Nodup) :
    d.workload? name = some w ↔ w ∈ d.workloads ∧ w.name = name := by
  constructor
  · intro h
    exact ⟨List.mem_of_find?_eq_some h, eq_of_beq (List.find?_some h :)⟩
  · rintro ⟨hw, rfl⟩
    cases hfound : d.workload? w.name with
    | none => exact absurd (beq_self_eq_true w.name) (List.find?_eq_none.1 hfound w hw)
    | some found =>
      have hname : found.name = w.name := eq_of_beq (List.find?_some hfound :)
      rw [List.inj_on_of_nodup_map hnames (List.mem_of_find?_eq_some hfound) hw hname]

theorem size_foldl_versions {ws : List Workload} {m : NameMap UInt32} (hnodup : (ws.map (·.name)).Nodup)
    (hfresh : ∀ w ∈ ws, w.name ∉ m) :
    (ws.foldl (fun m w => m.insert w.name w.version) m).size = m.size + ws.length := by
  induction ws generalizing m with
  | nil => rfl
  | cons w rest ih =>
    rw [List.map_cons, List.nodup_cons] at hnodup
    have hsize : (m.insert w.name w.version).size = m.size + 1 := by
      have hnew : ¬ m.contains w.name = true := fun h => hfresh w List.mem_cons_self (ExtTreeMap.contains_iff_mem.mp h)
      rw [ExtTreeMap.size_insert, if_neg hnew]
    rw [List.foldl_cons, ih hnodup.2, hsize, List.length_cons]
    · omega
    · intro w' hw' hmem
      rcases ExtTreeMap.mem_insert.mp hmem with heq | hmem
      · rw [Std.compare_eq_iff_eq] at heq
        exact hnodup.1 (List.mem_map.mpr ⟨w', hw', heq.symm⟩)
      · exact hfresh w' (List.mem_cons_of_mem _ hw') hmem

/-- Where names are different there is a version for each workload. -/
theorem size_workloadVersions (h : (d.workloads.map (·.name)).Nodup) :
    d.workloadVersions.size = d.workloads.length := by
  have hfresh : ∀ w ∈ d.workloads, w.name ∉ (∅ : NameMap UInt32) := fun _ _ => ExtTreeMap.not_mem_empty
  rw [workloadVersions, size_foldl_versions h hfresh, ExtTreeMap.size_empty, Nat.zero_add]

/-! ### Reports -/

theorem validateEach_unreported (version : UInt32) (seen : List String) (ws : List Workload) :
    validateEach version seen (ws.map Workload.unreported) = validateEach version seen ws := by
  induction ws generalizing seen with
  | nil => rfl
  | cons w rest ih =>
    rw [List.map_cons, validateEach, ih]
    rfl

theorem names_unreported (d : Deployment) (name : String) (kinds : List WorkloadKind) :
    d.unreported.names name kinds = d.names name kinds := by
  rw [names, workload?_unreported, Option.any_map]
  rfl

theorem danglingReference?_unreported (d : Deployment) (w : Workload) :
    d.unreported.danglingReference? w.unreported = d.danglingReference? w := by
  unfold danglingReference?
  simp only [names_unreported, workload?_unreported, Option.any_map]
  rfl

theorem validateReferences_unreported (d : Deployment) (ws : List Workload) :
    validateReferences d.unreported (ws.map Workload.unreported) = validateReferences d ws := by
  induction ws with
  | nil => rfl
  | cons w rest ih =>
    rw [List.map_cons, validateReferences, validateReferences, danglingReference?_unreported, ih]
    rfl

theorem validate_unreported (d : Deployment) : d.unreported.validate = d.validate := by
  have hempty : d.unreported.workloads.isEmpty = d.workloads.isEmpty := List.isEmpty_map
  have heach : validateEach d.unreported.version [] d.unreported.workloads = validateEach d.version [] d.workloads :=
    validateEach_unreported d.version [] d.workloads
  have hreferences : validateReferences d.unreported d.unreported.workloads = validateReferences d d.workloads :=
    validateReferences_unreported d d.workloads
  rw [validate, hempty, heach, hreferences, validate]

/-- What a node reports makes no deployment valid, and none invalid. -/
theorem validate_congr {d' : Deployment} (h : d'.unreported = d.unreported) : d'.validate = d.validate := by
  rw [← validate_unreported, h, validate_unreported]

end ComputeGrid.Deployment
