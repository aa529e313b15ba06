import ComputeGrid.Proofs.Maps
import ComputeGrid.Proofs.Polling.Budget
import ComputeGrid.Proofs.Polling.Readiness

/-!
# What polls say

A poll decides when its snapshot shows that all has converged, that something has failed or that there was no progress for
too long (`Convergence.Decides`); it says the same as `Convergence.observe` (`decides_ok_iff`, `decides_error_iff`).  What
earlier polls have shown counts only by how many workloads were ok at most, and since when (`Convergence.learn`).  Waiting
for convergence ends with what the first poll that decides says, or after polls that do not decide
(`Convergence.settled_of_await`), unless the retry of the polls overruns (`Convergence.await_eq_error_iff`).
-/

namespace ComputeGrid.Convergence

open Std (ExtTreeMap)

/-- One question to a feed: its answer, if it came in time, and when that was. -/
structure Poll (ε : Type) where
  answer : Option (Except ε (List Workload))
  time : Nat

variable {σ ε : Type} {c : Convergence} {p : Poll ε} {ws : List Workload} {name : String} {e : ConvergenceFailure}
  {v v' : Except ConvergenceFailure Unit} {polls : List (Poll ε)}

/-- Nothing at its expected version has failed. -/
def Intact (expected : NameMap UInt32) (ws : List Workload) : Prop :=
  ∀ w ∈ ws, expected[w.name]? = some w.version → w.report.state.isFailure = false

/-- All that is expected is ok at its expected version, and nothing at its expected version has failed. -/
structure Converged (expected : NameMap UInt32) (ws : List Workload) : Prop where
  ready : ∀ name version, expected[name]? = some version →
    ∃ w ∈ ws, w.name = name ∧ w.version = version ∧ w.report.state = .ok
  intact : Intact expected ws

/-- What the snapshot of a poll decides, given what the polls before have shown. -/
inductive Decides (c : Convergence) (p : Poll ε) : Except ConvergenceFailure Unit → Prop where
  | converged {ws : List Workload} (answer : p.answer = some (.ok ws)) (converged : Converged c.expected ws) :
    Decides c p (.ok ())
  | failed {before after : List Workload} {w : Workload} (answer : p.answer = some (.ok (before ++ w :: after)))
    (expected : c.expected[w.name]? = some w.version) (failure : w.report.state.isFailure = true)
    (first : Intact c.expected before) : Decides c p (.error (.workload w.name w.report.state w.report.error))
  | stalled {ws : List Workload} (answer : p.answer = some (.ok ws)) (intact : Intact c.expected ws)
    (incomplete : ¬ Converged c.expected ws) (progress : (c.okNames ws).size ≤ c.bestOk)
    (late : c.stallTimeout < Duration.ofMillis (p.time - c.lastProgress)) :
    Decides c p (.error (.stalled (c.okNames ws).size c.total))

/-- What is known after a poll that does not decide. -/
def learn (c : Convergence) (p : Poll ε) : Convergence :=
  match p.answer with
  | some (.ok ws) =>
    if c.bestOk < (c.okNames ws).size then { c with bestOk := (c.okNames ws).size, lastProgress := p.time } else c
  | _ => c

/-! ### Snapshots -/

theorem failure?_eq_none_iff : c.failure? ws = none ↔ Intact c.expected ws := by
  simp only [failure?, isExpected, List.find?_eq_none, Bool.and_eq_true, beq_iff_eq, not_and, Bool.not_eq_true, Intact]

/-- Only expected names count, so that as many as are expected are all of them. -/
theorem size_okNames_iff : (c.okNames ws).size = c.total ↔ ∀ name version, c.expected[name]? = some version →
    ∃ w ∈ ws, w.name = name ∧ w.version = version ∧ w.report.state = .ok := by
  rw [size_okNames, readyCount, total, ← ExtTreeMap.length_keys, List.countP_eq_length]
  constructor
  · intro h name version hversion
    obtain ⟨w, hw, rfl, hexpected, hok⟩ :=
      of_decide_eq_true (h name (ExtTreeMap.mem_keys.mpr (mem_iff_exists_getElem?.mpr ⟨version, hversion⟩)))
    exact ⟨w, hw, rfl, Option.some.inj (hexpected.symm.trans hversion), hok⟩
  · intro h name hname
    obtain ⟨version, hversion⟩ := mem_iff_exists_getElem?.mp (ExtTreeMap.mem_keys.mp hname)
    obtain ⟨w, hw, rfl, rfl, hok⟩ := h name version hversion
    exact decide_eq_true ⟨w, hw, rfl, hversion, hok⟩

theorem converged_iff : Converged c.expected ws ↔ c.failure? ws = none ∧ (c.okNames ws).size = c.total := by
  rw [failure?_eq_none_iff, size_okNames_iff]
  exact ⟨fun h => ⟨h.intact, h.ready⟩, fun h => ⟨h.2, h.1⟩⟩

/-! ### Decisions -/

theorem decides_ok_iff : Decides c p (.ok ()) ↔ ∃ ws, p.answer = some (.ok ws) ∧ c.observe p.time ws = .done () := by
  constructor
  · rintro ⟨⟩
    next ws answer converged =>
      obtain ⟨hnone, hsize⟩ := converged_iff.mp converged
      refine ⟨ws, answer, ?_⟩
      rw [observe, hnone]
      exact if_pos hsize
  · rintro ⟨ws, answer, hdone⟩
    exact .converged answer (converged_iff.mpr (observe_eq_done hdone))

theorem decides_error_iff : Decides c p (.error e) ↔ ∃ ws, p.answer = some (.ok ws) ∧ c.observe p.time ws = .failed e := by
  constructor
  · rintro (_ | @⟨before, after, w, answer, expected, failure, first⟩ | @⟨ws, answer, intact, incomplete, progress, late⟩)
    · have hfirst : c.failure? (before ++ w :: after) = some w := by
        rw [failure?, List.find?_append]
        have hnone : c.failure? before = none := failure?_eq_none_iff.mpr first
        rw [failure?] at hnone
        rw [hnone, Option.none_or, List.find?_cons_of_pos]
        rw [isExpected, expected, failure, Bool.and_true, beq_self_eq_true]
      exact ⟨_, answer, by rw [observe, hfirst]⟩
    · have hnone := failure?_eq_none_iff.mpr intact
      have hsize : (c.okNames ws).size ≠ c.total := fun hsize => incomplete (converged_iff.mpr ⟨hnone, hsize⟩)
      refine ⟨ws, answer, ?_⟩
      rw [observe, hnone]
      dsimp only
      rw [if_neg hsize, if_neg (Nat.not_lt.mpr progress), if_pos late]
  · rintro ⟨ws, answer, hfailed⟩
    unfold observe at hfailed
    split at hfailed
    next w hfirst =>
      cases hfailed
      obtain ⟨hbad, before, after, rfl, hbefore⟩ := List.find?_eq_some_iff_append.mp hfirst
      rw [Bool.and_eq_true, isExpected, beq_iff_eq] at hbad
      refine .failed answer hbad.1 hbad.2 (failure?_eq_none_iff.mp (List.find?_eq_none.mpr fun w' hw' => ?_))
      exact Bool.eq_false_iff.mp ((Bool.not_eq_true' _).mp (hbefore w' hw'))
    next hnone =>
      dsimp only at hfailed
      split at hfailed
      · cases hfailed
      next hsize =>
        split at hfailed
        · cases hfailed
        next hprogress =>
          split at hfailed
          next hlate =>
            cases hfailed
            have hincomplete : ¬ Converged c.expected ws := fun h => hsize (converged_iff.mp h).2
            exact .stalled answer (failure?_eq_none_iff.mp hnone) hincomplete (Nat.le_of_not_lt hprogress) hlate
          next => cases hfailed

/-- A poll decides at most one thing. -/
theorem Decides.unique (h : Decides c p v) (h' : Decides c p v') : v = v' := by
  rcases v with e | ⟨⟩
  · obtain ⟨ws, hanswer, hobserve⟩ := decides_error_iff.mp h
    rcases v' with e' | ⟨⟩
    · obtain ⟨ws', hanswer', hobserve'⟩ := decides_error_iff.mp h'
      cases hanswer.symm.trans hanswer'
      cases hobserve.symm.trans hobserve'
      rfl
    · obtain ⟨ws', hanswer', hobserve'⟩ := decides_ok_iff.mp h'
      cases hanswer.symm.trans hanswer'
      cases hobserve.symm.trans hobserve'
  · rcases v' with e' | ⟨⟩
    · obtain ⟨ws, hanswer, hobserve⟩ := decides_ok_iff.mp h
      obtain ⟨ws', hanswer', hobserve'⟩ := decides_error_iff.mp h'
      cases hanswer.symm.trans hanswer'
      cases hobserve.symm.trans hobserve'
    · rfl

theorem learn_of_observe {c' : Convergence} {now : Nat} (h : c.observe now ws = .undecided c') :
    c.learn (⟨some (.ok ws), now⟩ : Poll ε) = c' := by
  unfold observe at h
  split at h
  · cases h
  · dsimp only at h
    split at h
    · cases h
    · split at h
      next hprogress =>
        cases h
        exact if_pos hprogress
      next hprogress =>
        split at h
        · cases h
        · cases h
          exact if_neg hprogress

/-! ### Polls one after another -/

/-- No poll decides. -/
def Undecided (c : Convergence) : List (Poll ε) → Prop
  | [] => True
  | p :: rest => (∀ v, ¬ Decides c p v) ∧ Undecided (c.learn p) rest

/-- What the first poll that decides says. -/
inductive FirstDecides : Convergence → List (Poll ε) → Except ConvergenceFailure Unit → Prop where
  | here {c : Convergence} {p : Poll ε} {rest : List (Poll ε)} {v : Except ConvergenceFailure Unit}
    (decides : Decides c p v) : FirstDecides c (p :: rest) v
  | later {c : Convergence} {p : Poll ε} {rest : List (Poll ε)} {v : Except ConvergenceFailure Unit}
    (undecided : ∀ v, ¬ Decides c p v) (first : FirstDecides (c.learn p) rest v) : FirstDecides c (p :: rest) v

theorem FirstDecides.unique (h : FirstDecides c polls v) (h' : FirstDecides c polls v') : v = v' := by
  induction h with
  | here hdecides =>
    cases h' with
    | here hdecides' => exact hdecides.unique hdecides'
    | later hundecided _ => exact absurd hdecides (hundecided _)
  | later hundecided _ ih =>
    cases h' with
    | here hdecides' => exact absurd hdecides' (hundecided _)
    | later _ hfirst => exact ih hfirst

theorem FirstDecides.not_undecided (h : FirstDecides c polls v) : ¬ Undecided c polls := by
  induction h with
  | here hdecides => exact fun hundecided => hundecided.1 _ hdecides
  | later _ _ ih => exact fun hundecided => ih hundecided.2

theorem firstDecides_append {before after : List (Poll ε)} (hbefore : Undecided c before)
    (hdecides : Decides (before.foldl learn c) p v) : FirstDecides c (before ++ p :: after) v := by
  induction before generalizing c with
  | nil => exact .here hdecides
  | cons p' rest ih => exact .later hbefore.1 (ih hbefore.2 hdecides)

theorem undecided_append (hbefore : Undecided c polls) (hundecided : ∀ v, ¬ Decides (polls.foldl learn c) p v) :
    Undecided c (polls ++ [p]) := by
  induction polls generalizing c with
  | nil => exact ⟨hundecided, trivial⟩
  | cons p' rest ih => exact ⟨hbefore.1, ih hbefore.2 hundecided⟩

/-! ### Waiting -/

variable {b : Backoff} {changes : Exchange σ (Except ε (List Workload))} {timeout stallTimeout d : Duration}
  {expected : NameMap UInt32} {t₀ t t' : Timeline σ} {n : Nat}

/-- Polls of a feed, each of which was followed by a wait. -/
inductive Polled (b : Backoff) (changes : Exchange σ (Except ε (List Workload))) (timeout : Duration) (t₀ : Timeline σ) :
    List (Poll ε) → Duration → Timeline σ → Prop where
  | start : Polled b changes timeout t₀ [] b.initialInterval t₀
  | wait {polls : List (Poll ε)} {d d' : Duration} {t t' : Timeline σ} {answer : Option (Except ε (List Workload))}
    (before : Polled b changes timeout t₀ polls d t) (poll : changes.within timeout t = .ok (answer, t'))
    (next : b.next d = .ok d') :
    Polled b changes timeout t₀ (polls ++ [⟨answer, t'.now⟩]) d' { t' with now := t'.now + d.ceilMillis }

/-- Polls of a feed, with a wait between one and the next. -/
def Polls (b : Backoff) (changes : Exchange σ (Except ε (List Workload))) (timeout : Duration) (t₀ : Timeline σ)
    (polls : List (Poll ε)) (t' : Timeline σ) : Prop :=
  ∃ before d t answer, Polled b changes timeout t₀ before d t ∧ changes.within timeout t = .ok (answer, t') ∧
    polls = before ++ [⟨answer, t'.now⟩]

/-- A poll comes to an end within its timeout. -/
theorem takes_poll (changes : Exchange σ (Except ε (List Workload))) (timeout : Duration) :
    Backoff.Takes (poll changes timeout) timeout := by
  have hwithin (t : Timeline σ) : ∃ answer t', changes.within timeout t = .ok (answer, t') ∧ t.now ≤ t'.now ∧
      t'.now ≤ t.now + timeout.ceilMillis := by
    rw [Exchange.within_run]
    split
    next x s _ => exact ⟨_, _, rfl, Nat.le_refl _, Nat.le_add_right _ _⟩
    next delay s _ =>
      split
      next hdelay => exact ⟨_, _, rfl, Nat.le_add_right _ _, Nat.add_le_add_left hdelay _⟩
      next => exact ⟨_, _, rfl, Nat.le_add_right _ _, Nat.le_refl _⟩
  have hnow {c : Convergence} {t t' : Timeline σ} {r : Attempt Convergence ConvergenceFailure Unit}
      (h : poll changes timeout c t = .ok (r, t')) : t.now ≤ t'.now ∧ t'.now ≤ t.now + timeout.ceilMillis := by
    obtain ⟨answer, hrun, _⟩ := poll_eq_ok h
    obtain ⟨_, _, hrun', hnow⟩ := hwithin t
    cases hrun.symm.trans hrun'
    exact hnow
  refine ⟨fun c t => ?_, fun h => (hnow h).1, fun h => (hnow h).2⟩
  obtain ⟨answer, t', hrun, _⟩ := hwithin t
  rw [poll, Timed.bind_run hrun]
  split
  · exact ⟨_, rfl⟩
  · exact ⟨_, rfl⟩

/-- What comes of an attempt is what the snapshot of a poll says. -/
def Says (c : Convergence) (p : Poll ε) : Attempt Convergence ConvergenceFailure Unit → Prop
  | .done _ => Decides c p (.ok ())
  | .failed e => Decides c p (.error e)
  | .undecided c' => (∀ v, ¬ Decides c p v) ∧ c.learn p = c'

theorem says_observe (c : Convergence) (ws : List Workload) (now : Nat) :
    Says c (⟨some (.ok ws), now⟩ : Poll ε) (c.observe now ws) := by
  rcases hobserve : c.observe now ws with c' | e | ⟨⟩
  · refine ⟨fun v hdecides => ?_, learn_of_observe hobserve⟩
    rcases v with e | ⟨⟩
    · obtain ⟨_, hanswer, hfailed⟩ := decides_error_iff.mp hdecides
      cases hanswer
      cases hobserve.symm.trans hfailed
    · obtain ⟨_, hanswer, hdone⟩ := decides_ok_iff.mp hdecides
      cases hanswer
      cases hobserve.symm.trans hdone
  · exact decides_error_iff.mpr ⟨ws, rfl, hobserve⟩
  · exact decides_ok_iff.mpr ⟨ws, rfl, hobserve⟩

/-- A poll without a snapshot says nothing. -/
theorem says_undecided (h : ∀ ws, p.answer ≠ some (.ok ws)) : Says c p (.undecided c) := by
  refine ⟨fun v hdecides => ?_, ?_⟩
  · cases hdecides with
    | converged hanswer => exact h _ hanswer
    | failed hanswer => exact h _ hanswer
    | stalled hanswer => exact h _ hanswer
  · unfold learn
    split
    next hanswer => exact absurd hanswer (h _)
    next => rfl

theorem says_of_poll {verdict : Attempt Convergence ConvergenceFailure Unit}
    (h : poll changes timeout c t = .ok (verdict, t')) :
    ∃ answer, changes.within timeout t = .ok (answer, t') ∧ Says c ⟨answer, t'.now⟩ verdict := by
  obtain ⟨answer, hrun, ⟨ws, rfl, rfl⟩ | ⟨hopen, rfl⟩⟩ := poll_eq_ok h
  · exact ⟨_, hrun, says_observe c ws t'.now⟩
  · exact ⟨answer, hrun, says_undecided hopen⟩

/-- Attempts that have not decided are polls that have not. -/
theorem polled_of_waiting {c₀ : Convergence} (h : Backoff.Waiting b (poll changes timeout) c₀ t₀ n d c t) :
    ∃ polls : List (Poll ε), Polled b changes timeout t₀ polls d t ∧ polls.length = n ∧ Undecided c₀ polls ∧
      polls.foldl learn c₀ = c := by
  induction h with
  | start => exact ⟨[], .start, rfl, trivial, rfl⟩
  | wait _ hrun _ hnext ih =>
    obtain ⟨polls, hpolled, hlength, hundecided, rfl⟩ := ih
    obtain ⟨answer, hwithin, hnone, hlearn⟩ := says_of_poll hrun
    refine ⟨_, hpolled.wait hwithin hnext, ?_, undecided_append hundecided hnone, ?_⟩
    · rw [List.length_append, hlength, List.length_singleton]
    · rw [List.foldl_append, List.foldl_cons, List.foldl_nil, hlearn]

/-- What the polls of a feed come to. -/
inductive Settled (c₀ : Convergence) (polls : List (Poll ε)) : Except (RetryError ConvergenceFailure) Unit → Prop where
  | decided {v : Except ConvergenceFailure Unit} (first : FirstDecides c₀ polls v) :
    Settled c₀ polls (v.mapError .permanent)
  | exhausted {attempts : Nat} {elapsed : Duration} (undecided : Undecided c₀ polls) :
    Settled c₀ polls (.error (.exhausted attempts elapsed))

section Regular

variable {c₀ : Convergence} {r : Except (RetryError ConvergenceFailure) Unit} (hregular : b.Regular)
include hregular

/-- A retry of polls ends with what the first of them that decides says, or else with none that does. -/
theorem settled_of_ends (h : Backoff.Ends b (poll changes timeout) c₀ t₀ r t') :
    ∃ polls, Polls b changes timeout t₀ polls t' ∧ polls.length ≤ b.maxElapsed.ceilMillis + 1 ∧ Settled c₀ polls r := by
  have hsound := (takes_poll changes timeout).sound
  -- the last poll comes after polls that do not decide
  have hlast {n : Nat} {d : Duration} {c : Convergence} {t : Timeline σ}
      {verdict : Attempt Convergence ConvergenceFailure Unit}
      (hwaiting : Backoff.Waiting b (poll changes timeout) c₀ t₀ n d c t)
      (hpoll : poll changes timeout c t = .ok (verdict, t')) :
      ∃ before p, Polls b changes timeout t₀ (before ++ [p]) t' ∧ (before ++ [p]).length ≤ b.maxElapsed.ceilMillis + 1 ∧
        Undecided c₀ before ∧ Says (before.foldl learn c₀) p verdict := by
    obtain ⟨before, hpolled, hlength, hundecided, rfl⟩ := polled_of_waiting hwaiting
    obtain ⟨answer, hwithin, hsays⟩ := says_of_poll hpoll
    have hn := hwaiting.le_now hsound (hregular.sustains hsound c₀ t₀)
    obtain ⟨_, hnow⟩ := hwaiting.now_le hsound
    refine ⟨before, ⟨answer, t'.now⟩, ⟨before, d, t, answer, hpolled, hwithin, rfl⟩, ?_, hundecided, hsays⟩
    rw [List.length_append, hlength, List.length_singleton]
    omega
  cases h with
  | done hwaiting hpoll =>
    obtain ⟨before, p, hpolls, hlength, hundecided, hsays⟩ := hlast hwaiting hpoll
    exact ⟨_, hpolls, hlength, .decided (firstDecides_append hundecided hsays)⟩
  | failed hwaiting hpoll =>
    obtain ⟨before, p, hpolls, hlength, hundecided, hsays⟩ := hlast hwaiting hpoll
    exact ⟨_, hpolls, hlength, .decided (firstDecides_append hundecided hsays)⟩
  | exhausted hwaiting hpoll =>
    obtain ⟨before, p, hpolls, hlength, hundecided, hsays⟩ := hlast hwaiting hpoll
    exact ⟨_, hpolls, hlength, .exhausted (undecided_append hundecided hsays.1)⟩

variable (hbudget : b.maxElapsed.nanos < Duration.limit)
include hbudget

/-- Waiting for convergence ends in a fault if and only if the retry of its polls overruns. -/
theorem await_eq_error_iff {fault : Fault} : await b stallTimeout timeout changes expected t = .error fault ↔
    b.Overruns (poll changes timeout) (start expected stallTimeout t.now) t fault := by
  have hsound := (takes_poll changes timeout).sound
  rw [await, Timed.bind_run (Timed.now_run t)]
  exact (hregular.sustains hsound _ t).retry_eq_error_iff hsound hbudget

/-- Waiting for convergence that ends does so within the budget and one timeout. -/
theorem settled_of_await (h : await b stallTimeout timeout changes expected t = .ok (r, t')) :
    ∃ polls, Polls b changes timeout t polls t' ∧ polls.length ≤ b.maxElapsed.ceilMillis + 1 ∧
      t'.now ≤ t.now + (b.maxElapsed.ceilMillis + timeout.ceilMillis) ∧
      Settled (start expected stallTimeout t.now) polls r := by
  have htakes := takes_poll changes timeout
  rw [await, Timed.bind_run (Timed.now_run t)] at h
  have hends := (hregular.sustains htakes.sound _ t).ends htakes.sound hbudget h
  obtain ⟨polls, hpolls, hlength, hsettled⟩ := settled_of_ends hregular hends
  exact ⟨polls, hpolls, hlength, hends.now_le htakes, hsettled⟩

end Regular

end ComputeGrid.Convergence
