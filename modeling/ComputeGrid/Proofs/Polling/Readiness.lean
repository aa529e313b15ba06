import ComputeGrid.Proofs.Maps
import ComputeGrid.Proofs.Polling.Convergence
import Mathlib.Data.List.Nodup

/-!
# What counts in a snapshot

Of the names that are expected, those are ready in a snapshot of which some workload is ok at the expected version
(`Convergence.Ready`).  `Convergence.observe` counts them (`Convergence.size_okNames`): neither entries of other names or
versions make a difference to that, nor those that repeat another (`Convergence.readyCount_of_moot`), nor does the order
(`Convergence.ready_of_perm`).
-/

namespace ComputeGrid.Convergence

open Std (ExtTreeMap ExtTreeSet)

variable {c : Convergence} {expected : NameMap UInt32} {ws ws' : List Workload} {w : Workload} {name : String}

/-- A workload is ok at its expected version. -/
def Counts (expected : NameMap UInt32) (w : Workload) : Prop := expected[w.name]? = some w.version ∧ w.report.state = .ok

instance (expected : NameMap UInt32) (w : Workload) : Decidable (Counts expected w) := inferInstanceAs (Decidable (_ ∧ _))

/-- Some workload of a name is ok at its expected version. -/
def Ready (expected : NameMap UInt32) (ws : List Workload) (name : String) : Prop :=
  ∃ w ∈ ws, w.name = name ∧ Counts expected w

instance (expected : NameMap UInt32) (ws : List Workload) (name : String) : Decidable (Ready expected ws name) :=
  inferInstanceAs (Decidable (∃ w ∈ ws, _))

/-- How many of the names that are expected are ready. -/
def readyCount (expected : NameMap UInt32) (ws : List Workload) : Nat :=
  expected.keys.countP fun name => Ready expected ws name

theorem Ready.mem_keys (h : Ready expected ws name) : name ∈ expected.keys := by
  obtain ⟨w, -, rfl, hexpected, -⟩ := h
  exact ExtTreeMap.mem_keys.2 (mem_iff_exists_getElem?.2 ⟨_, hexpected⟩)

theorem mem_okNames_iff : name ∈ c.okNames ws ↔ Ready c.expected ws name := by
  simp only [okNames, isExpected, ExtTreeSet.mem_ofList, List.contains_iff_mem, List.mem_map, List.mem_filter,
    Bool.and_eq_true, beq_iff_eq]
  constructor
  · rintro ⟨w, ⟨hw, hexpected, hok⟩, rfl⟩
    exact ⟨w, hw, rfl, hexpected, hok⟩
  · rintro ⟨w, hw, rfl, hexpected, hok⟩
    exact ⟨w, ⟨hw, hexpected, hok⟩, rfl⟩

/-- The names that are collected from a snapshot are those that are ready in it. -/
theorem size_okNames (c : Convergence) (ws : List Workload) : (c.okNames ws).size = readyCount c.expected ws := by
  have hnodup : (c.okNames ws).toList.Nodup :=
    ExtTreeSet.distinct_toList.imp fun h heq => h (Std.compare_eq_iff_eq.2 heq)
  have hnodup' : (c.expected.keys.filter fun name => Ready c.expected ws name).Nodup := (nodup_keys c.expected).filter _
  rw [readyCount, List.countP_eq_length_filter, ← ExtTreeSet.length_toList]
  refine ((List.perm_ext_iff_of_nodup hnodup hnodup').2 fun name => ?_).length_eq
  rw [ExtTreeSet.mem_toList, mem_okNames_iff, List.mem_filter, decide_eq_true_eq]
  exact ⟨fun h => ⟨Ready.mem_keys h, h⟩, fun h => h.2⟩

theorem readyCount_congr (h : ∀ name, Ready expected ws name ↔ Ready expected ws' name) :
    readyCount expected ws = readyCount expected ws' :=
  List.countP_congr fun name _ => by rw [decide_eq_true_eq, decide_eq_true_eq, h]

theorem ready_of_perm (h : ws.Perm ws') (name : String) : Ready expected ws name ↔ Ready expected ws' name := by
  unfold Ready
  simp only [h.mem_iff]

/-- An entry that is not ok at its expected version does not count, nor does one that repeats another of its name. -/
theorem readyCount_of_moot {before after : List Workload} (h : Counts expected w → Ready expected (before ++ after) w.name) :
    readyCount expected (before ++ w :: after) = readyCount expected (before ++ after) := by
  refine readyCount_congr fun name => ?_
  rw [ready_of_perm List.perm_middle]
  constructor
  · rintro ⟨w', hw', rfl, hcounts⟩
    rcases List.mem_cons.1 hw' with rfl | hw'
    · exact h hcounts
    · exact ⟨w', hw', rfl, hcounts⟩
  · rintro ⟨w', hw', hname, hcounts⟩
    exact ⟨w', List.mem_cons_of_mem _ hw', hname, hcounts⟩

end ComputeGrid.Convergence
