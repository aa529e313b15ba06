import ComputeGrid.Proofs.Duration.Scale
import ComputeGrid.Proofs.Polling.Budget

/-!
# When a retry ends in a fault

Settings that are accepted say nothing about how long intervals get.  A retry under them ends in a fault exactly when an
attempt does or some arithmetic of it fails (`Backoff.Faults`, `Backoff.Accepted.retry_eq_error_iff`): it overruns, or an
interval times the multiplier makes no duration although the greatest interval would have come next.

A product fails under some operation if and only if an interval that ends within the budget is too long to be multiplied
(`Backoff.Overgrows`): whether it does is a matter of the settings alone.
-/

namespace ComputeGrid.Backoff

/-! ### Settings -/

/-- What is known of how settings that are accepted say to poll. -/
structure Accepted (b : Backoff) : Prop where
  finite : b.multiplier.isFinite = true
  growing : ¬ b.multiplier < 1.0
  budget : b.maxElapsed.nanos < Duration.limit

theorem accepted_of_validate {s : Settings} (h : s.validate = .ok ()) : Accepted (.ofSettings s.deployer.poll) := by
  have hmultiplier : ¬ ((!s.deployer.poll.multiplier.isFinite || s.deployer.poll.multiplier < 1.0) = true) := by
    intro hrefused
    rw [Settings.validate] at h
    split at h
    · cases h
    · rw [if_pos hrefused] at h
      cases h
  simp only [Bool.or_eq_true, Bool.not_eq_true', decide_eq_true_eq, not_or, Bool.not_eq_false] at hmultiplier
  exact ⟨hmultiplier.1, hmultiplier.2, DurationSetting.read_lt_limit .maxElapsed _⟩

variable {σ β ε α : Type} {b : Backoff} {attempt : β → Timed σ (Attempt β ε α)} {memory₀ memory : β}
  {t₀ t : Timeline σ} {n ms : Nat} {d : Duration} {fault : Fault}

/-- The interval that follows another is too long only where the product is. -/
theorem Accepted.next_eq_error_iff (hb : Accepted b) :
    b.next d = .error fault ↔ fault = .durationRange ∧ 18446744073709551616.0 ≤ b.multiplier * d.toFloat := by
  rw [← Duration.scale_eq_error_iff hb.finite hb.growing, next]
  rcases d.scale b.multiplier with e | grown
  · rfl
  · exact iff_of_false (fun h => by cases h) fun h => by cases h

/-! ### Faults -/

/-- How a retry comes to a fault: an attempt does, or after an attempt that decided nothing some arithmetic fails. -/
inductive Faults (b : Backoff) (attempt : β → Timed σ (Attempt β ε α)) (memory₀ : β) (t₀ : Timeline σ) : Fault → Prop where
  | attempt {n : Nat} {d : Duration} {memory : β} {t : Timeline σ} {fault : Fault}
    (waiting : Waiting b attempt memory₀ t₀ n d memory t) (counted : n < UInt32.size - 1)
    (fails : attempt memory t = .error fault) : Faults b attempt memory₀ t₀ fault
  | sum {n : Nat} {d : Duration} {memory memory' : β} {t t' : Timeline σ}
    (waiting : Waiting b attempt memory₀ t₀ n d memory t) (counted : n < UInt32.size - 1)
    (undecided : attempt memory t = .ok (.undecided memory', t'))
    (long : Duration.limit ≤ (Duration.ofMillis (t'.now - t₀.now)).nanos + d.nanos) :
    Faults b attempt memory₀ t₀ .durationSum
  | product {n : Nat} {d : Duration} {memory memory' : β} {t t' : Timeline σ}
    (waiting : Waiting b attempt memory₀ t₀ n d memory t) (counted : n < UInt32.size - 1)
    (undecided : attempt memory t = .ok (.undecided memory', t'))
    (allowed : (Duration.ofMillis (t'.now - t₀.now)).nanos + d.nanos ≤ b.maxElapsed.nanos)
    (long : 18446744073709551616.0 ≤ b.multiplier * d.toFloat) : Faults b attempt memory₀ t₀ .durationRange
  | count {d : Duration} {memory : β} {t : Timeline σ}
    (waiting : Waiting b attempt memory₀ t₀ (UInt32.size - 1) d memory t) : Faults b attempt memory₀ t₀ .sum

/-- A retry that comes to a fault ends in it. -/
theorem Faults.retry_eq (hb : Accepted b) (h : Faults b attempt memory₀ t₀ fault) :
    b.retry attempt memory₀ t₀ = .error fault := by
  cases h with
  | attempt hwaiting hn hfails =>
    rw [hwaiting.retry_eq_of_lt hb.budget hn, retryFrom, Timed.bind_run_fault hfails]
  | @product n d _ _ _ t' hwaiting hn hundecided hallowed hlong =>
    have hadd : (Duration.ofMillis (t'.now - t₀.now)).add d = .ok ⟨_⟩ :=
      Duration.add_eq_ok_iff.mpr ⟨Nat.lt_of_le_of_lt hallowed hb.budget, rfl⟩
    have hintime : ¬ b.maxElapsed < (⟨_⟩ : Duration) := Nat.not_lt_of_le hallowed
    rw [hwaiting.retry_eq_of_lt hb.budget hn, retryFrom, Timed.bind_run hundecided]
    dsimp only
    rw [Timed.bind_run (Timed.now_run t'), Timed.bind_run (Timed.lift_eq_ok.mpr ⟨hadd, rfl⟩), if_neg hintime,
      Timed.bind_run (Timed.wait_run d t'), hb.next_eq_error_iff.mpr ⟨rfl, hlong⟩]
    rfl
  | sum hwaiting hn hundecided hlong => exact (Overruns.sum hwaiting hn hundecided hlong).retry_eq hb.budget
  | count hwaiting => exact (Overruns.count hwaiting).retry_eq hb.budget

/-- A retry that comes to no fault comes to an end. -/
theorem Accepted.exists_retry (hb : Accepted b) (h : ∀ fault, ¬ Faults b attempt memory₀ t₀ fault) :
    ∃ r, b.retry attempt memory₀ t₀ = .ok r := by
  have hends : (∃ r t', b.retry attempt memory₀ t₀ = .ok (r, t') ∧ Ends b attempt memory₀ t₀ r t') ∨
      ∃ fault, Overruns b attempt memory₀ t₀ fault := by
    apply ends_or_overruns
    case hruns =>
      intro n d memory t hwaiting hn
      rcases hattempt : attempt memory t with e | r
      · exact absurd (.attempt hwaiting hn hattempt) (h e)
      · exact ⟨r, rfl⟩
    case hgrows =>
      intro n d memory t memory' t' hwaiting hn hundecided hallowed
      rcases hnext : b.next d with e | d'
      · obtain ⟨-, hlong⟩ := hb.next_eq_error_iff.mp hnext
        exact absurd (.product hwaiting hn hundecided hallowed hlong) (h _)
      · exact ⟨d', rfl⟩
  rcases hends with ⟨r, t', hrun, -⟩ | ⟨fault, hoverruns⟩
  · exact ⟨_, hrun⟩
  · cases hoverruns with
    | sum hwaiting hn hundecided hlong => exact absurd (.sum hwaiting hn hundecided hlong) (h _)
    | count hwaiting => exact absurd (.count hwaiting) (h _)

theorem Accepted.retry_eq_error_iff (hb : Accepted b) :
    b.retry attempt memory₀ t₀ = .error fault ↔ Faults b attempt memory₀ t₀ fault := by
  refine ⟨fun h => ?_, fun h => h.retry_eq hb⟩
  by_cases hfaults : ∃ fault', Faults b attempt memory₀ t₀ fault'
  · obtain ⟨fault', hfault'⟩ := hfaults
    obtain rfl := Except.error.inj (h.symm.trans (hfault'.retry_eq hb))
    exact hfault'
  · obtain ⟨r, hrun⟩ := hb.exists_retry (not_exists.mp hfaults)
    cases h.symm.trans hrun

/-! ### Settings under which products fail -/

/-- An interval that ends within the budget is too long to be multiplied. -/
def Overgrows (b : Backoff) : Prop :=
  ∃ n ms d, After b n ms d ∧ n < UInt32.size - 1 ∧ (Duration.ofMillis ms).nanos + d.nanos ≤ b.maxElapsed.nanos ∧
    18446744073709551616.0 ≤ b.multiplier * d.toFloat

/-- An attempt that decides nothing and takes no time. -/
def pending (_ : Unit) : Timed Unit (Attempt Unit Unit Unit) := return .undecided ()

theorem sound_pending : Sound pending := fun _ t => ⟨_, t, rfl, Nat.le_refl _⟩

theorem Accepted.overgrows_iff (hb : Accepted b) :
    (∃ attempt : Unit → Timed Unit (Attempt Unit Unit Unit), Sound attempt ∧
      b.retry attempt () ⟨0, ()⟩ = .error .durationRange) ↔ b.Overgrows := by
  constructor
  · rintro ⟨attempt, hsound, hrun⟩
    generalize hfault : Fault.durationRange = fault at hrun
    cases hb.retry_eq_error_iff.mp hrun with
    | @attempt _ _ memory t _ _ _ hfails =>
      obtain ⟨_, _, hok, _⟩ := hsound memory t
      cases hfails.symm.trans hok
    | @product n d memory _ t t' hwaiting hn hundecided hallowed hlong =>
      obtain ⟨ms, hafter, hms⟩ := hwaiting.exists_after hsound
      obtain ⟨_, _, hok, hnow⟩ := hsound memory t
      cases hundecided.symm.trans hok
      have hle := Duration.nanos_ofMillis_mono (m := ms) (n := t'.now - 0) (by dsimp only at hms; omega)
      exact ⟨n, ms, d, hafter, hn, Nat.le_trans (Nat.add_le_add_right hle _) hallowed, hlong⟩
    | sum | count => cases hfault
  · rintro ⟨n, ms, d, hafter, hn, hbudget, hlong⟩
    have hwaiting : Waiting b pending () ⟨0, ()⟩ n d () ⟨0 + ms, ()⟩ :=
      hafter.waiting (fun _ => rfl) (Nat.le_trans (Nat.le_add_right _ _) hbudget) ⟨0, ()⟩
    have hallowed : (Duration.ofMillis (0 + ms - 0)).nanos + d.nanos ≤ b.maxElapsed.nanos := by
      rwa [Nat.add_sub_cancel_left]
    exact ⟨pending, sound_pending, hb.retry_eq_error_iff.mpr (.product hwaiting hn rfl hallowed hlong)⟩

/-! ### Settings that are accepted -/

/-- Under settings that are accepted a retry ends in a fault if and only if an attempt does or some arithmetic of the retry
fails, and that can be a product, for some operation, if and only if an interval that ends within the budget is too long to be
multiplied. -/
theorem retry_fails_iff {s : Settings} (hvalid : s.validate = .ok ()) (attempt : β → Timed σ (Attempt β ε α)) (memory₀ : β)
    (t₀ : Timeline σ) (fault : Fault) :
    ((ofSettings s.deployer.poll).retry attempt memory₀ t₀ = .error fault ↔
      Faults (.ofSettings s.deployer.poll) attempt memory₀ t₀ fault) ∧
    ((∃ attempt : Unit → Timed Unit (Attempt Unit Unit Unit), Sound attempt ∧
      (ofSettings s.deployer.poll).retry attempt () ⟨0, ()⟩ = .error .durationRange) ↔
      (ofSettings s.deployer.poll).Overgrows) := by
  have hb := accepted_of_validate hvalid
  exact ⟨hb.retry_eq_error_iff, hb.overgrows_iff⟩

/-- Settings under which an interval of three seconds is followed by one that is too long, though none is to be longer than
forty seconds. -/
def steep : Settings := { Settings.standard with deployer.poll.multiplier := 1e300 }

/-- Settings with the longest interval that can be written. -/
def vast : Settings := { Settings.standard with deployer.poll.initialIntervalText := "18446744073709551615s" }

/-- An attempt that decides nothing in a second. -/
def slow (_ : Unit) : Timed Unit (Attempt Unit Unit Unit) := do
  Timed.pass 1000
  return .undecided ()

/-- Both are accepted.  The second attempt is never made under the first, and the first attempt never ends in an error under
the second. -/
theorem retry_fails_of_steep :
    steep.validate = .ok () ∧ (ofSettings steep.deployer.poll).retry pending () ⟨0, ()⟩ = .error .durationRange ∧
    (ofSettings steep.deployer.poll).Overgrows ∧
    vast.validate = .ok () ∧ (ofSettings vast.deployer.poll).retry slow () ⟨0, ()⟩ = .error .durationSum := by
  have hsteep : Checked.passes steep.validate (fun _ => true) = true := by decide +kernel
  have hvast : Checked.passes vast.validate (fun _ => true) = true := by decide +kernel
  obtain ⟨⟨⟩, hsteep, -⟩ := Checked.exists_of_passes hsteep
  obtain ⟨⟨⟩, hvast, -⟩ := Checked.exists_of_passes hvast
  have hlong : 18446744073709551616.0 ≤ (ofSettings steep.deployer.poll).multiplier *
      (ofSettings steep.deployer.poll).initialInterval.toFloat := by decide +kernel
  have hproduct : (ofSettings steep.deployer.poll).retry pending () ⟨0, ()⟩ = .error .durationRange :=
    (retry_fails_iff hsteep pending () ⟨0, ()⟩ .durationRange).1.2
      (.product .start (by decide) rfl (by decide +kernel) hlong)
  have hsum : (ofSettings vast.deployer.poll).retry slow () ⟨0, ()⟩ = .error .durationSum :=
    (retry_fails_iff hvast slow () ⟨0, ()⟩ .durationSum).1.2 (.sum .start (by decide) rfl (by decide +kernel))
  have hovergrows := (retry_fails_iff hsteep pending () ⟨0, ()⟩ .durationRange).2.1 ⟨pending, sound_pending, hproduct⟩
  exact ⟨hsteep, hproduct, hovergrows, hvast, hsum⟩

end ComputeGrid.Backoff
