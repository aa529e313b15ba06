import ComputeGrid.Proofs.Polling.Verdicts
import Mathlib.Data.List.Induction

/-!
# What progress is

A snapshot is progress if more of the names that are expected are ready in it than before (`Convergence.readyCount`).  Of the
snapshots before, those that decided have left nothing behind (`Convergence.next`); what is known from the others
(`Convergence.history`) is the most that was ready in one of them, and since when (`Convergence.Peak`).  One call keeps that up
(`Convergence.Peak.snoc`), and so does a run of them (`Convergence.peak_track`).  With it every verdict has exact conditions
(`Convergence.Judges`), whatever has been observed before (`Convergence.judges_track`).
-/

namespace ComputeGrid.Convergence

variable {c c' : Convergence} {expected : NameMap UInt32} {stall : Duration} {began now best since : Nat}
  {ws ws' : List Workload}

/-! ### Verdicts -/

/-- A snapshot decides nothing by its entries. -/
structure Pending (expected : NameMap UInt32) (ws : List Workload) : Prop where
  intact : Intact expected ws
  incomplete : ¬ Converged expected ws

/-- No more is ready than before, and the last progress is longer ago than the stall window. -/
structure Late (expected : NameMap UInt32) (stall : Duration) (best since now : Nat) (ws : List Workload) : Prop where
  progress : readyCount expected ws ≤ best
  window : stall < Duration.ofMillis (now - since)

/-- The conditions of each verdict on a snapshot, given the most that was ready before, and since when. -/
structure Judges (expected : NameMap UInt32) (stall : Duration) (best since now : Nat) (ws : List Workload)
    (verdict : Attempt Convergence ConvergenceFailure Unit) : Prop where
  workload : ∀ name state message, verdict = .failed (.workload name state message) ↔
    ∃ before w after, ws = before ++ w :: after ∧ Intact expected before ∧ expected[w.name]? = some w.version ∧
      w.report.state.isFailure = true ∧ name = w.name ∧ state = w.report.state ∧ message = w.report.error
  done : verdict = .done () ↔ Converged expected ws
  stalled : ∀ ok total, verdict = .failed (.stalled ok total) ↔
    Pending expected ws ∧ Late expected stall best since now ws ∧ ok = readyCount expected ws ∧ total = expected.size
  undecided : (∃ c, verdict = .undecided c) ↔ Pending expected ws ∧ ¬ Late expected stall best since now ws

theorem pending_iff : Pending c.expected ws ↔ c.failure? ws = none ∧ (c.okNames ws).size ≠ c.total := by
  constructor
  · rintro ⟨hintact, hincomplete⟩
    have hnone := failure?_eq_none_iff.2 hintact
    exact ⟨hnone, fun hsize => hincomplete (converged_iff.2 ⟨hnone, hsize⟩)⟩
  · rintro ⟨hnone, hsize⟩
    exact ⟨failure?_eq_none_iff.1 hnone, fun h => hsize (converged_iff.1 h).2⟩

/-- A snapshot as the answer of a poll. -/
def answered (now : Nat) (ws : List Workload) : Poll Empty := ⟨some (.ok ws), now⟩

theorem observe_done_iff : c.observe now ws = .done () ↔ Converged c.expected ws :=
  ⟨fun h => converged_iff.2 (observe_eq_done h), fun h => by
    obtain ⟨_, hanswer, hdone⟩ := decides_ok_iff.1 (.converged rfl h : Decides c (answered now ws) (.ok ()))
    cases hanswer
    exact hdone⟩

theorem observe_failed_iff {e : ConvergenceFailure} :
    c.observe now ws = .failed e ↔ Decides c (answered now ws) (.error e) := by
  rw [decides_error_iff]
  constructor
  · exact fun h => ⟨ws, rfl, h⟩
  · rintro ⟨_, hanswer, h⟩
    cases hanswer
    exact h

/-- The first that has failed is reported. -/
theorem observe_workload_iff {name : String} {state : ReportState} {message : String} :
    c.observe now ws = .failed (.workload name state message) ↔
      ∃ before w after, ws = before ++ w :: after ∧ Intact c.expected before ∧ c.expected[w.name]? = some w.version ∧
        w.report.state.isFailure = true ∧ name = w.name ∧ state = w.report.state ∧ message = w.report.error := by
  rw [observe_failed_iff]
  constructor
  · intro h
    cases h with
    | @failed before after w hanswer hexpected hfailure hfirst =>
      cases hanswer
      exact ⟨before, w, after, rfl, hfirst, hexpected, hfailure, rfl, rfl, rfl⟩
  · rintro ⟨before, w, after, rfl, hfirst, hexpected, hfailure, rfl, rfl, rfl⟩
    exact .failed rfl hexpected hfailure hfirst

theorem observe_stalled_iff {ok total : Nat} :
    c.observe now ws = .failed (.stalled ok total) ↔ Pending c.expected ws ∧
      Late c.expected c.stallTimeout c.bestOk c.lastProgress now ws ∧ ok = readyCount c.expected ws ∧
        total = c.expected.size := by
  rw [observe_failed_iff]
  constructor
  · intro h
    cases h with
    | stalled hanswer hintact hincomplete hprogress hlate =>
      cases hanswer
      rw [size_okNames] at hprogress
      exact ⟨⟨hintact, hincomplete⟩, ⟨hprogress, hlate⟩, size_okNames c ws, rfl⟩
  · rintro ⟨⟨hintact, hincomplete⟩, ⟨hprogress, hlate⟩, rfl, rfl⟩
    rw [← size_okNames] at hprogress ⊢
    exact .stalled rfl hintact hincomplete hprogress hlate

theorem observe_undecided_iff : (∃ c', c.observe now ws = .undecided c') ↔
    Pending c.expected ws ∧ ¬ Late c.expected c.stallTimeout c.bestOk c.lastProgress now ws := by
  rw [pending_iff, observe]
  cases hfailure : c.failure? ws with
  | some w => exact iff_of_false (by rintro ⟨_, ⟨⟩⟩) (by rintro ⟨⟨⟨⟩, -⟩, -⟩)
  | none =>
    dsimp only
    split
    next hsize => exact iff_of_false (by rintro ⟨_, ⟨⟩⟩) fun h => h.1.2 hsize
    next hsize =>
      split
      next hprogress =>
        rw [size_okNames] at hprogress
        exact iff_of_true ⟨_, rfl⟩ ⟨⟨rfl, hsize⟩, fun h => Nat.not_lt.2 h.progress hprogress⟩
      next hprogress =>
        rw [size_okNames, Nat.not_lt] at hprogress
        split
        next hlate => exact iff_of_false (by rintro ⟨_, ⟨⟩⟩) fun h => h.2 ⟨hprogress, hlate⟩
        next hlate => exact iff_of_true ⟨_, rfl⟩ ⟨⟨rfl, hsize⟩, fun h => hlate h.window⟩

/-- A call judges by what is expected, and by the progress that it knows of. -/
theorem judges_observe (c : Convergence) (now : Nat) (ws : List Workload) :
    Judges c.expected c.stallTimeout c.bestOk c.lastProgress now ws (c.observe now ws) :=
  ⟨fun _ _ _ => observe_workload_iff, observe_done_iff, fun _ _ => observe_stalled_iff, observe_undecided_iff⟩

/-! ### The order of a snapshot -/

/-- The same verdict, up to which workload has failed. -/
def Alike (verdict verdict' : Attempt Convergence ConvergenceFailure Unit) : Prop :=
  verdict = verdict' ∨ ∃ name state message name' state' message',
    verdict = .failed (.workload name state message) ∧ verdict' = .failed (.workload name' state' message')

theorem intact_of_perm (h : ws.Perm ws') : Intact expected ws ↔ Intact expected ws' := by
  unfold Intact
  simp only [h.mem_iff]

/-- The order of a snapshot makes no difference but for which failure is reported. -/
theorem alike_of_perm (c : Convergence) (now : Nat) (h : ws.Perm ws') : Alike (c.observe now ws) (c.observe now ws') := by
  have hcount : (c.okNames ws).size = (c.okNames ws').size := by
    rw [size_okNames, size_okNames, readyCount_congr (ready_of_perm h)]
  have hintact : c.failure? ws = none ↔ c.failure? ws' = none := by
    rw [failure?_eq_none_iff, failure?_eq_none_iff, intact_of_perm h]
  rw [observe, observe, ← hcount]
  cases hfailure : c.failure? ws with
  | none =>
    rw [hintact.1 hfailure]
    exact .inl rfl
  | some w =>
    cases hfailure' : c.failure? ws' with
    | none =>
      rw [hintact.2 hfailure'] at hfailure
      cases hfailure
    | some w' => exact .inr ⟨_, _, _, _, _, _, rfl, rfl⟩

/-! ### Snapshots one after another -/

/-- A snapshot of the reports, and when it is observed. -/
structure Snapshot where
  time : Nat
  workloads : List Workload
  deriving DecidableEq

/-- What a call leaves behind: a verdict that decides changes nothing. -/
def next (c : Convergence) (s : Snapshot) : Convergence :=
  match c.observe s.time s.workloads with
  | .undecided c' => c'
  | _ => c

/-- What calls leave behind, one after another. -/
def track (c : Convergence) (seen : List Snapshot) : Convergence := seen.foldl next c

/-- The snapshots that have not decided. -/
def history (c : Convergence) : List Snapshot → List Snapshot
  | [] => []
  | s :: rest =>
    match c.observe s.time s.workloads with
    | .undecided c' => s :: history c' rest
    | _ => history c rest

theorem track_append (c : Convergence) (seen : List Snapshot) (s : Snapshot) :
    c.track (seen ++ [s]) = (c.track seen).next s := List.foldl_append

theorem history_append (c : Convergence) (seen : List Snapshot) (s : Snapshot) :
    c.history (seen ++ [s]) = c.history seen ++
      match (c.track seen).observe s.time s.workloads with
      | .undecided _ => [s]
      | _ => [] := by
  induction seen generalizing c with
  | nil =>
    rw [List.nil_append, history, history, track, List.foldl_nil, List.nil_append]
    cases c.observe s.time s.workloads with
    | undecided _ => rfl
    | done _ => rfl
    | failed _ => rfl
  | cons first rest ih =>
    rw [List.cons_append, history, history, track, List.foldl_cons, next]
    cases c.observe first.time first.workloads with
    | undecided c' => exact congrArg (first :: ·) (ih c')
    | done _ => exact ih c
    | failed _ => exact ih c

/-- The most that is ready in one of the snapshots, and when that was first reached: as long as nothing is ready, that was when
tracking began. -/
structure Peak (expected : NameMap UInt32) (began : Nat) (unsettled : List Snapshot) (best since : Nat) : Prop where
  most : ∀ s ∈ unsettled, readyCount expected s.workloads ≤ best
  reached : best = 0 ∧ since = began ∨ 0 < best ∧ ∃ before s after, unsettled = before ++ s :: after ∧
    readyCount expected s.workloads = best ∧ s.time = since ∧ ∀ other ∈ before, readyCount expected other.workloads < best

theorem Peak.best_le {unsettled : List Snapshot} {best' since' : Nat} (h : Peak expected began unsettled best since)
    (h' : Peak expected began unsettled best' since') : best ≤ best' := by
  obtain ⟨rfl, -⟩ | ⟨-, before, s, after, rfl, rfl, -⟩ := h.reached
  · exact Nat.zero_le _
  · exact h'.most s List.mem_append_cons_self

/-- The first snapshot of the most determines since when it is ready. -/
theorem Peak.unique {unsettled : List Snapshot} {best' since' : Nat} (h : Peak expected began unsettled best since)
    (h' : Peak expected began unsettled best' since') : best = best' ∧ since = since' := by
  obtain rfl := Nat.le_antisymm (h.best_le h') (h'.best_le h)
  have hfind {before after : List Snapshot} {s : Snapshot} (hsplit : unsettled = before ++ s :: after)
      (hs : readyCount expected s.workloads = best) (hfirst : ∀ other ∈ before, readyCount expected other.workloads < best) :
      unsettled.find? (fun s => readyCount expected s.workloads = best) = some s :=
    List.find?_eq_some_iff_append.2 ⟨decide_eq_true hs, before, after, hsplit, fun other hother => by
      rw [decide_eq_false (Nat.ne_of_lt (hfirst other hother)), Bool.not_false]⟩
  rcases h.reached with ⟨hzero, rfl⟩ | ⟨hpositive, before, s, after, hsplit, hs, rfl, hfirst⟩
  · rcases h'.reached with ⟨-, rfl⟩ | ⟨hpositive, -⟩
    · exact ⟨rfl, rfl⟩
    · exact absurd hzero (Nat.ne_of_gt hpositive)
  · rcases h'.reached with ⟨hzero, -⟩ | ⟨-, before', s', after', hsplit', hs', rfl, hfirst'⟩
    · exact absurd hzero (Nat.ne_of_gt hpositive)
    · obtain rfl := Option.some.inj ((hfind hsplit hs hfirst).symm.trans (hfind hsplit' hs' hfirst'))
      exact ⟨rfl, rfl⟩

/-- A snapshot that does not decide is progress if and only if more is ready in it than in all before. -/
theorem Peak.snoc {unsettled : List Snapshot} {s : Snapshot} (h : Peak expected began unsettled c.bestOk c.lastProgress)
    (hexpected : c.expected = expected) (hobserve : c.observe s.time s.workloads = .undecided c') :
    Peak expected began (unsettled ++ [s]) c'.bestOk c'.lastProgress := by
  subst hexpected
  have hlearn : (if c.bestOk < (c.okNames s.workloads).size then
      { c with bestOk := (c.okNames s.workloads).size, lastProgress := s.time } else c) = c' :=
    learn_of_observe (ε := Empty) hobserve
  rw [size_okNames] at hlearn
  split at hlearn
  next hprogress =>
    obtain rfl := hlearn
    have hless : ∀ other ∈ unsettled, readyCount c.expected other.workloads < readyCount c.expected s.workloads :=
      fun other hother => Nat.lt_of_le_of_lt (h.most other hother) hprogress
    refine ⟨fun other hother => ?_, .inr ⟨Nat.zero_lt_of_lt hprogress, unsettled, s, [], rfl, rfl, rfl, hless⟩⟩
    rcases List.mem_append.1 hother with hother | hother
    · exact Nat.le_of_lt (hless other hother)
    · obtain rfl := List.mem_singleton.1 hother
      exact Nat.le_refl _
  next hprogress =>
    obtain rfl := hlearn
    refine ⟨fun other hother => ?_, h.reached.imp_right ?_⟩
    · rcases List.mem_append.1 hother with hother | hother
      · exact h.most other hother
      · rw [List.mem_singleton.1 hother]
        exact Nat.le_of_not_lt hprogress
    · rintro ⟨hpositive, before, first, after, rfl, hfirst⟩
      exact ⟨hpositive, before, first, after ++ [s], by rw [List.append_assoc, List.cons_append], hfirst⟩

theorem stallTimeout_of_observe_undecided (h : c.observe now ws = .undecided c') : c'.stallTimeout = c.stallTimeout := by
  have hlearn : (if c.bestOk < (c.okNames ws).size then { c with bestOk := (c.okNames ws).size, lastProgress := now } else c) =
      c' := learn_of_observe (ε := Empty) h
  rw [← hlearn]
  split
  · rfl
  · rfl

/-- Whatever has been observed, what is known is the peak of the snapshots that have not decided. -/
theorem peak_track (expected : NameMap UInt32) (stall : Duration) (began : Nat) (seen : List Snapshot) :
    ((start expected stall began).track seen).expected = expected ∧
      ((start expected stall began).track seen).stallTimeout = stall ∧
      Peak expected began ((start expected stall began).history seen) ((start expected stall began).track seen).bestOk
        ((start expected stall began).track seen).lastProgress := by
  induction seen using List.reverseRecOn with
  | nil => exact ⟨rfl, rfl, nofun, .inl ⟨rfl, rfl⟩⟩
  | append_singleton seen s ih =>
    obtain ⟨hexpected, hstall, hpeak⟩ := ih
    rw [track_append, history_append, next]
    cases hobserve : ((start expected stall began).track seen).observe s.time s.workloads with
    | undecided c' =>
      exact ⟨(expected_of_observe_undecided hobserve).trans hexpected,
        (stallTimeout_of_observe_undecided hobserve).trans hstall, hpeak.snoc hexpected hobserve⟩
    | done v =>
      dsimp only
      rw [List.append_nil]
      exact ⟨hexpected, hstall, hpeak⟩
    | failed e =>
      dsimp only
      rw [List.append_nil]
      exact ⟨hexpected, hstall, hpeak⟩

/-- Whatever has been observed, a snapshot is judged by the peak of the snapshots before that have not decided.  Its order
makes no difference but for which failure is reported, and what counts as progress in it does not depend on entries that are
not ok at their expected versions, nor on those that repeat others. -/
theorem judges_track (expected : NameMap UInt32) (stall : Duration) (began : Nat) (seen : List Snapshot) (now : Nat)
    (ws : List Workload) :
    (∃ best since, Peak expected began ((start expected stall began).history seen) best since ∧
      Judges expected stall best since now ws (((start expected stall began).track seen).observe now ws)) ∧
    (∀ ws', ws.Perm ws' → Alike (((start expected stall began).track seen).observe now ws)
      (((start expected stall began).track seen).observe now ws')) ∧
    ∀ before w after, ws = before ++ w :: after → (Counts expected w → Ready expected (before ++ after) w.name) →
      readyCount expected ws = readyCount expected (before ++ after) := by
  obtain ⟨hexpected, hstall, hpeak⟩ := peak_track expected stall began seen
  have hjudges := judges_observe ((start expected stall began).track seen) now ws
  rw [hexpected, hstall] at hjudges
  refine ⟨⟨_, _, hpeak, hjudges⟩, fun ws' hperm => alike_of_perm _ now hperm, ?_⟩
  rintro before w after rfl hmoot
  exact readyCount_of_moot hmoot

/-- Two disks are expected. -/
def twoDisks : NameMap UInt32 := (({} : NameMap UInt32).insert "left" 0).insert "right" 0

/-- A disk that is ok. -/
def okDisk (name : String) : Workload := { Workload.new name (.disk ⟨1⟩) with report := { Report.unseen with state := .ok } }

/-- One disk is ok, and then none is. -/
def faltering : List Snapshot := [⟨10, [okDisk "left"]⟩, ⟨50, []⟩]

/-- That the other disk is ok after that is no progress: with a window of 100 ms it is too late 101 ms after the first was ok,
and not before. -/
theorem stalls_of_faltering :
    ((start twoDisks (Duration.ofMillis 100) 0).track faltering).observe 111 [okDisk "right"] = .failed (.stalled 1 2) ∧
    ∃ c, ((start twoDisks (Duration.ofMillis 100) 0).track faltering).observe 110 [okDisk "right"] = .undecided c := by
  have hhistory : (start twoDisks (Duration.ofMillis 100) 0).history faltering = faltering := by decide +kernel
  have hready : readyCount twoDisks [okDisk "left"] = 1 := by decide +kernel
  have hready' : readyCount twoDisks [okDisk "right"] = 1 := by decide +kernel
  have hpeak : Peak twoDisks 0 faltering 1 10 :=
    ⟨by decide +kernel, .inr ⟨Nat.one_pos, [], _, [⟨50, []⟩], rfl, hready, rfl, nofun⟩⟩
  have hpending : Pending twoDisks [okDisk "right"] := by
    refine ⟨by simp [Intact, okDisk, ReportState.isFailure], fun h => ?_⟩
    obtain ⟨w, hw, hname, -⟩ := h.ready "left" 0 (by decide +kernel)
    rw [List.mem_singleton.1 hw] at hname
    exact absurd hname (by decide)
  obtain ⟨best, since, hbest, hjudges⟩ := (judges_track twoDisks (Duration.ofMillis 100) 0 faltering 111 [okDisk "right"]).1
  obtain ⟨best', since', hbest', hjudges'⟩ :=
    (judges_track twoDisks (Duration.ofMillis 100) 0 faltering 110 [okDisk "right"]).1
  rw [hhistory] at hbest hbest'
  obtain ⟨rfl, rfl⟩ := hpeak.unique hbest
  obtain ⟨rfl, rfl⟩ := hpeak.unique hbest'
  refine ⟨(hjudges.stalled 1 2).2 ⟨hpending, ⟨Nat.le_of_eq hready', by decide +kernel⟩, hready'.symm, by decide +kernel⟩,
    hjudges'.undecided.2 ⟨hpending, fun h => absurd h.window (by decide +kernel)⟩⟩

end ComputeGrid.Convergence
