import ComputeGrid.Proofs.Polling.Attempts

/-!
# How long a retry waits

The intervals that a retry comes to are bounded by the greatest interval as they grow, and the first one does not grow.  So the
waits of a retry (`Backoff.Course`) are no longer than the greatest interval, except for the first, which is as long as the
settings say: it is too long where the first interval is longer than the greatest one and still ends within the budget
(`Backoff.retry_waits_capped_iff`).
-/

namespace ComputeGrid

namespace Backoff

variable {σ β ε α : Type} {b : Backoff} {attempt : β → Timed σ (Attempt β ε α)} {memory₀ memory : β}
  {start n : Nat} {t₀ t t' : Timeline σ} {d : Duration} {waits : List Duration} {r : Except (RetryError ε) α}

/-! ### From an attempt to the end -/

/-- What a retry goes through from an attempt on, after `n` others, to its end: the waits that it makes, and its result. -/
inductive Course (b : Backoff) (attempt : β → Timed σ (Attempt β ε α)) (start : Nat) :
    Nat → Duration → β → Timeline σ → List Duration → Except (RetryError ε) α → Timeline σ → Prop where
  | decided {n : Nat} {d : Duration} {memory : β} {t t' : Timeline σ} {outcome : Attempt β ε α}
    {r : Except (RetryError ε) α} (call : attempt memory t = .ok (outcome, t')) (decides : outcome.decision? = some r) :
    Course b attempt start n d memory t [] r t'
  | exhausted {n : Nat} {d : Duration} {memory memory' : β} {t t' : Timeline σ}
    (call : attempt memory t = .ok (.undecided memory', t'))
    (late : b.maxElapsed.nanos < (Duration.ofMillis (t'.now - start)).nanos + d.nanos) :
    Course b attempt start n d memory t [] (.error (.exhausted (n + 1) (.ofMillis (t'.now - start)))) t'
  | wait {n : Nat} {d d' : Duration} {memory memory' : β} {t t' t'' : Timeline σ} {waits : List Duration}
    {r : Except (RetryError ε) α} (call : attempt memory t = .ok (.undecided memory', t'))
    (allowed : (Duration.ofMillis (t'.now - start)).nanos + d.nanos ≤ b.maxElapsed.nanos) (next : b.next d = .ok d')
    (rest : Course b attempt start (n + 1) d' memory' { t' with now := t'.now + d.ceilMillis } waits r t'') :
    Course b attempt start n d memory t (d :: waits) r t''

theorem exists_course_of_retryFrom {left : Nat} (h : b.retryFrom attempt start left n d memory t = .ok (r, t')) :
    ∃ waits, Course b attempt start n d memory t waits r t' := by
  induction left generalizing n d memory t with
  | zero => cases h
  | succ left ih =>
    rw [retryFrom, Timed.bind_eq_ok] at h
    obtain ⟨outcome, t₁, hcall, h⟩ := h
    rcases outcome with memory' | e | x
    · simp only [Timed.bind_eq_ok, Timed.lift_eq_ok, Timed.now_run] at h
      obtain ⟨_, _, hnow, due, _, ⟨hdue, rfl⟩, h⟩ := h
      cases hnow
      obtain rfl := (Duration.add_eq_ok_iff.1 hdue).2
      split at h
      next hlate =>
        rw [Timed.pure_eq_ok] at h
        cases h
        exact ⟨[], .exhausted hcall hlate⟩
      next hallowed =>
        simp only [Timed.bind_eq_ok, Timed.lift_eq_ok, Timed.wait_run] at h
        obtain ⟨_, _, hwait, d', _, ⟨hnext, rfl⟩, h⟩ := h
        cases hwait
        obtain ⟨waits, hrest⟩ := ih h
        exact ⟨d :: waits, .wait hcall (Nat.le_of_not_lt hallowed) hnext hrest⟩
    all_goals
      rw [Timed.pure_eq_ok] at h
      cases h
      exact ⟨[], .decided hcall rfl⟩

theorem exists_course (h : b.retry attempt memory₀ t₀ = .ok (r, t')) :
    ∃ waits, Course b attempt t₀.now 0 b.initialInterval memory₀ t₀ waits r t' := by
  rw [retry, Timed.bind_run (Timed.now_run t₀)] at h
  exact exists_course_of_retryFrom h

/-! ### Bounds -/

theorem next_le {d' : Duration} (h : b.next d = .ok d') : d' ≤ b.maxInterval := by
  obtain ⟨grown, -, rfl⟩ := next_eq_ok h
  show (if grown ≤ b.maxInterval then grown else b.maxInterval) ≤ b.maxInterval
  split
  next hle => exact hle
  next => exact Nat.le_refl _

theorem Course.le_of_le (h : Course b attempt start n d memory t waits r t') (hd : d ≤ b.maxInterval) :
    ∀ w ∈ waits, w ≤ b.maxInterval := by
  induction h with
  | decided | exhausted => exact nofun
  | wait _ _ next _ ih => exact List.forall_mem_cons.2 ⟨hd, ih (next_le next)⟩

/-- The first wait is for the interval that there is, and those after it are no longer than the greatest interval. -/
theorem Course.waits_eq (h : Course b attempt start n d memory t waits r t') :
    waits = [] ∨ ∃ rest, waits = d :: rest ∧ ∀ w ∈ rest, w ≤ b.maxInterval := by
  cases h with
  | decided | exhausted => exact .inl rfl
  | wait _ _ next rest => exact .inr ⟨_, rfl, rest.le_of_le (next_le next)⟩

/-- A wait that is too long is the first one: it is for the first interval, which ends within the budget and can be
multiplied. -/
theorem Accepted.of_course (hb : Accepted b) (h : Course b attempt start n d memory t waits r t')
    (hlong : ∃ w ∈ waits, b.maxInterval < w) :
    b.maxInterval < d ∧ d ≤ b.maxElapsed ∧ ¬ 18446744073709551616.0 ≤ b.multiplier * d.toFloat := by
  obtain ⟨w, hw, hlong⟩ := hlong
  cases h with
  | decided | exhausted => cases hw
  | wait _ allowed next rest =>
    rcases List.mem_cons.1 hw with rfl | hw
    · refine ⟨hlong, Nat.le_trans (Nat.le_add_left _ _) allowed, fun hproduct => ?_⟩
      cases next.symm.trans (hb.next_eq_error_iff.2 ⟨rfl, hproduct⟩)
    · exact absurd (rest.le_of_le (next_le next) w hw) (Nat.not_le_of_lt hlong)

/-- There is an operation under which a retry comes to an end after a wait that is longer than the greatest interval. -/
def Overstays (b : Backoff) : Prop :=
  ∃ (attempt : Bool → Timed Unit (Attempt Bool Unit Unit)) (r : Except (RetryError Unit) Unit) (t' : Timeline Unit)
    (waits : List Duration), b.retry attempt false ⟨0, ()⟩ = .ok (r, t') ∧
      Course b attempt 0 0 b.initialInterval false ⟨0, ()⟩ waits r t' ∧ ∃ w ∈ waits, b.maxInterval < w

/-- An attempt that decides nothing the first time it is made, and is done the second time. -/
def once (tried : Bool) : Timed Unit (Attempt Bool Unit Unit) :=
  return if tried then .done () else .undecided true

/-- A retry of it waits for the first interval, where that ends within the budget and can be multiplied. -/
theorem Accepted.retry_once (hb : Accepted b) (hbudget : b.initialInterval ≤ b.maxElapsed)
    (hproduct : ¬ 18446744073709551616.0 ≤ b.multiplier * b.initialInterval.toFloat) :
    ∃ t', b.retry once false ⟨0, ()⟩ = .ok (.ok (), t') ∧
      Course b once 0 0 b.initialInterval false ⟨0, ()⟩ [b.initialInterval] (.ok ()) t' := by
  obtain ⟨d', hnext⟩ : ∃ d', b.next b.initialInterval = .ok d' := by
    cases hnext : b.next b.initialInterval with
    | error fault => exact absurd (hb.next_eq_error_iff.1 hnext).2 hproduct
    | ok d' => exact ⟨d', rfl⟩
  have hallowed : (Duration.ofMillis (0 - 0)).nanos + b.initialInterval.nanos ≤ b.maxElapsed.nanos :=
    (Nat.zero_add _).symm ▸ hbudget
  have hpending : once false ⟨0, ()⟩ = .ok (.undecided true, ⟨0, ()⟩) := rfl
  have hwaiting := Waiting.start.wait hpending hallowed hnext
  have hdone : once true ⟨0 + b.initialInterval.ceilMillis, ()⟩ =
      .ok (.done (), ⟨0 + b.initialInterval.ceilMillis, ()⟩) := rfl
  refine ⟨_, ?_, .wait hpending hallowed hnext (.decided hdone rfl)⟩
  rw [hwaiting.retry_eq hb.budget (by decide), show UInt32.size - 1 - 1 = UInt32.size - 3 + 1 from rfl, retryFrom,
    Timed.bind_run hdone]
  rfl

/-! ### Settings that are accepted -/

/-- Under settings that are accepted, what a retry waits for first is the first interval, and everything after that is no
longer than the greatest interval.  So none of its waits is longer than that if and only if there are none or the first
interval is not; and one is, under some operation, if and only if the first interval is longer than the greatest one, ends
within the budget and can be multiplied. -/
theorem retry_waits_capped_iff {s : Settings} (hvalid : s.validate = .ok ()) (attempt : β → Timed σ (Attempt β ε α))
    (memory₀ : β) (t₀ : Timeline σ) :
    (∀ r t', (ofSettings s.deployer.poll).retry attempt memory₀ t₀ = .ok (r, t') → ∃ waits,
      Course (.ofSettings s.deployer.poll) attempt t₀.now 0 s.deployer.poll.initialInterval memory₀ t₀ waits r t' ∧
      (∀ w ∈ waits.head?, w = s.deployer.poll.initialInterval) ∧
      (∀ w ∈ waits.tail, w ≤ s.deployer.poll.maxInterval) ∧
      ((∀ w ∈ waits, w ≤ s.deployer.poll.maxInterval) ↔
        waits = [] ∨ s.deployer.poll.initialInterval ≤ s.deployer.poll.maxInterval)) ∧
    ((ofSettings s.deployer.poll).Overstays ↔
      s.deployer.poll.maxInterval < s.deployer.poll.initialInterval ∧
        s.deployer.poll.initialInterval ≤ s.deployer.poll.maxElapsed ∧
        ¬ 18446744073709551616.0 ≤ s.deployer.poll.multiplier * s.deployer.poll.initialInterval.toFloat) := by
  have hb := accepted_of_validate hvalid
  refine ⟨fun r t' hrun => ?_, ?_, ?_⟩
  · obtain ⟨waits, hcourse⟩ := exists_course hrun
    refine ⟨waits, hcourse, ?_⟩
    rcases hcourse.waits_eq with rfl | ⟨rest, rfl, hrest⟩
    · exact ⟨nofun, nofun, iff_of_true nofun (.inl rfl)⟩
    · refine ⟨fun w hw => (Option.some.inj hw).symm, hrest, fun h => .inr ?_, fun h => ?_⟩
      · exact h _ List.mem_cons_self
      · exact List.forall_mem_cons.2 ⟨h.resolve_left (List.cons_ne_nil _ _), hrest⟩
  · rintro ⟨attempt, r, t', waits, -, hcourse, hlong⟩
    exact hb.of_course hcourse hlong
  · rintro ⟨hlong, hbudget, hproduct⟩
    obtain ⟨t', hrun, hcourse⟩ := hb.retry_once hbudget hproduct
    exact ⟨once, _, t', _, hrun, hcourse, _, List.mem_cons_self, hlong⟩

/-- Settings whose first interval is longer than the greatest one of forty seconds. -/
def tardy : Settings := { Settings.standard with deployer.poll.initialIntervalText := "100s" }

/-- They are accepted, and a hundred seconds are within the budget. -/
theorem overstays_of_tardy : tardy.validate = .ok () ∧ (ofSettings tardy.deployer.poll).Overstays := by
  have hvalid : Checked.passes tardy.validate (fun _ => true) = true := by decide +kernel
  obtain ⟨⟨⟩, hvalid, -⟩ := Checked.exists_of_passes hvalid
  exact ⟨hvalid, (retry_waits_capped_iff hvalid once false ⟨0, ()⟩).2.2 (by decide +kernel)⟩

end Backoff

end ComputeGrid
