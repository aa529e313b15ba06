import ComputeGrid.Proofs.Duration.Texts
import ComputeGrid.Proofs.Polling.Retry

/-!
# What retries take

A retry waits only where the wait ends within the budget (`Backoff.Waiting`), so that every attempt begins within the budget
(`Backoff.Waiting.now_le`).  It goes on until an attempt decides or the next wait would end too late (`Backoff.Ends`).  Where
attempts end and intervals can grow, a time or a count that overflows is the one thing that keeps it from that end
(`Backoff.Overruns`, `Backoff.ends_or_overruns`).

Intervals that stay positive take a millisecond or more each (`Backoff.Sustains`), so that there are no more waits than
milliseconds in the budget (`Backoff.Waiting.le_now`).  Whether they stay so can be told from the settings alone
(`Backoff.Regular.sustains`).
-/

namespace ComputeGrid

namespace Duration

variable {d : Duration} {n : Nat}

theorem nanos_ofMillis_mono {m : Nat} (h : m ≤ n) : (ofMillis m).nanos ≤ (ofMillis n).nanos :=
  Nat.mul_le_mul_right 1000000 h

theorem ceilMillis_pos (h : 0 < d.nanos) : 0 < d.ceilMillis := by
  rw [ceilMillis_eq]
  omega

/-- A wait that ends before a limit does so on a clock of whole milliseconds. -/
theorem add_ceilMillis_le {limit : Duration} (h : (ofMillis n).nanos + d.nanos ≤ limit.nanos) :
    n + d.ceilMillis ≤ limit.ceilMillis := by
  rw [nanos_ofMillis] at h
  rw [ceilMillis_eq, ceilMillis_eq]
  omega

theorem add_eq_ok_iff {a b due : Duration} : a.add b = .ok due ↔ a.nanos + b.nanos < limit ∧ due = ⟨a.nanos + b.nanos⟩ := by
  rw [add, add?]
  split
  next h =>
    split at h
    next hfits =>
      cases h
      exact ⟨fun h => ⟨hfits, (Except.ok.inj h).symm⟩, fun h => congrArg _ h.2.symm⟩
    next => cases h
  next h =>
    split at h
    next => cases h
    next hlong => exact ⟨nofun, fun h => absurd h.1 hlong⟩

end Duration

namespace Backoff

variable {σ β ε α : Type} {b : Backoff} {attempt : β → Timed σ (Attempt β ε α)} {memory₀ memory memory' : β}
  {t₀ t t' : Timeline σ} {n ms : Nat} {d : Duration} {r : Except (RetryError ε) α} {fault : Fault}

/-! ### Intervals -/

/-- After a number of waits, of so many milliseconds in all, there is an interval to wait for. -/
inductive After (b : Backoff) : Nat → Nat → Duration → Prop where
  | first : After b 0 0 b.initialInterval
  | next {n ms : Nat} {d d' : Duration} (after : After b n ms d) (next : b.next d = .ok d') :
    After b (n + 1) (ms + d.ceilMillis) d'

theorem After.le_of_pos (h : After b n ms d) (hpos : 0 < n) : b.initialInterval.ceilMillis ≤ ms := by
  induction h with
  | first => exact absurd hpos (Nat.lt_irrefl 0)
  | @next n ms d d' hafter _ ih =>
    cases hafter with
    | first => omega
    | next =>
      have hms := ih (Nat.succ_pos _)
      omega

/-! ### Attempts -/

/-- So many attempts have decided nothing, each was followed by a wait that was to end within the budget, and now there is
an interval to wait for after the next. -/
inductive Waiting (b : Backoff) (attempt : β → Timed σ (Attempt β ε α)) (memory₀ : β) (t₀ : Timeline σ) :
    Nat → Duration → β → Timeline σ → Prop where
  | start : Waiting b attempt memory₀ t₀ 0 b.initialInterval memory₀ t₀
  | wait {n : Nat} {d d' : Duration} {memory memory' : β} {t t' : Timeline σ}
    (before : Waiting b attempt memory₀ t₀ n d memory t)
    (undecided : attempt memory t = .ok (.undecided memory', t'))
    (allowed : (Duration.ofMillis (t'.now - t₀.now)).nanos + d.nanos ≤ b.maxElapsed.nanos) (next : b.next d = .ok d') :
    Waiting b attempt memory₀ t₀ (n + 1) d' memory' { t' with now := t'.now + d.ceilMillis }

/-- How a retry comes to an end: the last attempt decides, or the wait after it would end after the budget. -/
inductive Ends (b : Backoff) (attempt : β → Timed σ (Attempt β ε α)) (memory₀ : β) (t₀ : Timeline σ) :
    Except (RetryError ε) α → Timeline σ → Prop where
  | done {n : Nat} {d : Duration} {memory : β} {t t' : Timeline σ} {x : α}
    (waiting : Waiting b attempt memory₀ t₀ n d memory t) (last : attempt memory t = .ok (.done x, t')) :
    Ends b attempt memory₀ t₀ (.ok x) t'
  | failed {n : Nat} {d : Duration} {memory : β} {t t' : Timeline σ} {e : ε}
    (waiting : Waiting b attempt memory₀ t₀ n d memory t) (last : attempt memory t = .ok (.failed e, t')) :
    Ends b attempt memory₀ t₀ (.error (.permanent e)) t'
  | exhausted {n : Nat} {d : Duration} {memory memory' : β} {t t' : Timeline σ}
    (waiting : Waiting b attempt memory₀ t₀ n d memory t) (last : attempt memory t = .ok (.undecided memory', t'))
    (late : b.maxElapsed.nanos < (Duration.ofMillis (t'.now - t₀.now)).nanos + d.nanos) :
    Ends b attempt memory₀ t₀ (.error (.exhausted (n + 1) (.ofMillis (t'.now - t₀.now)))) t'

/-- How a retry fails of which attempts end and intervals can grow: after an attempt that decided nothing the time that has
passed and the interval make no duration, or there is no count for one more attempt. -/
inductive Overruns (b : Backoff) (attempt : β → Timed σ (Attempt β ε α)) (memory₀ : β) (t₀ : Timeline σ) :
    Fault → Prop where
  | sum {n : Nat} {d : Duration} {memory memory' : β} {t t' : Timeline σ}
    (waiting : Waiting b attempt memory₀ t₀ n d memory t) (counted : n < UInt32.size - 1)
    (undecided : attempt memory t = .ok (.undecided memory', t'))
    (long : Duration.limit ≤ (Duration.ofMillis (t'.now - t₀.now)).nanos + d.nanos) :
    Overruns b attempt memory₀ t₀ .durationSum
  | count {d : Duration} {memory : β} {t : Timeline σ}
    (waiting : Waiting b attempt memory₀ t₀ (UInt32.size - 1) d memory t) : Overruns b attempt memory₀ t₀ .sum

/-- A retry that waits goes on from there. -/
theorem Waiting.retry_eq (hbudget : b.maxElapsed.nanos < Duration.limit) (h : Waiting b attempt memory₀ t₀ n d memory t)
    (hn : n ≤ UInt32.size - 1) :
    b.retry attempt memory₀ t₀ = b.retryFrom attempt t₀.now (UInt32.size - 1 - n) n d memory t := by
  induction h with
  | start => rw [retry, Timed.bind_run (Timed.now_run t₀), Nat.sub_zero]
  | @wait n d d' memory memory' t t' _ hundecided hallowed hnext ih =>
    have hadd : (Duration.ofMillis (t'.now - t₀.now)).add d = .ok ⟨_⟩ :=
      Duration.add_eq_ok_iff.mpr ⟨Nat.lt_of_le_of_lt hallowed hbudget, rfl⟩
    have hintime : ¬ b.maxElapsed < (⟨_⟩ : Duration) := Nat.not_lt_of_le hallowed
    have hleft : UInt32.size - 1 - n = UInt32.size - 1 - (n + 1) + 1 := by omega
    rw [ih (by omega), hleft, retryFrom, Timed.bind_run hundecided]
    dsimp only
    rw [Timed.bind_run (Timed.now_run t'), Timed.bind_run (Timed.lift_eq_ok.mpr ⟨hadd, rfl⟩),
      if_neg hintime, Timed.bind_run (Timed.wait_run d t'),
      Timed.bind_run (Timed.lift_eq_ok.mpr ⟨hnext, rfl⟩)]

/-- Where there is a count for one more attempt, it is made. -/
theorem Waiting.retry_eq_of_lt (hbudget : b.maxElapsed.nanos < Duration.limit)
    (h : Waiting b attempt memory₀ t₀ n d memory t) (hn : n < UInt32.size - 1) :
    b.retry attempt memory₀ t₀ = b.retryFrom attempt t₀.now (UInt32.size - 1 - (n + 1) + 1) n d memory t := by
  have hleft : UInt32.size - 1 - n = UInt32.size - 1 - (n + 1) + 1 := by omega
  rw [h.retry_eq hbudget (Nat.le_of_lt hn), hleft]

theorem Overruns.retry_eq (hbudget : b.maxElapsed.nanos < Duration.limit) (h : Overruns b attempt memory₀ t₀ fault) :
    b.retry attempt memory₀ t₀ = .error fault := by
  cases h with
  | @sum n d _ _ _ t' hwaiting hn hundecided hlong =>
    have hadd : (Duration.ofMillis (t'.now - t₀.now)).add d = .error .durationSum := by
      rw [Duration.add, Duration.add?, if_neg (Nat.not_lt_of_le hlong)]
    rw [hwaiting.retry_eq_of_lt hbudget hn, retryFrom, Timed.bind_run hundecided]
    dsimp only
    rw [Timed.bind_run (Timed.now_run t'), hadd]
    rfl
  | count hwaiting =>
    rw [hwaiting.retry_eq hbudget (Nat.le_refl _), Nat.sub_self, retryFrom]
    rfl

/-- A retry ends or overruns, if attempts end and intervals can grow as long as there is a count for them. -/
theorem ends_or_overruns
    (hruns : ∀ n d memory t, Waiting b attempt memory₀ t₀ n d memory t → n < UInt32.size - 1 →
      ∃ r, attempt memory t = .ok r)
    (hgrows : ∀ n d memory t memory' t', Waiting b attempt memory₀ t₀ n d memory t → n < UInt32.size - 1 →
      attempt memory t = .ok (.undecided memory', t') →
      (Duration.ofMillis (t'.now - t₀.now)).nanos + d.nanos ≤ b.maxElapsed.nanos → ∃ d', b.next d = .ok d') :
    (∃ r t', b.retry attempt memory₀ t₀ = .ok (r, t') ∧ Ends b attempt memory₀ t₀ r t') ∨
      ∃ fault, Overruns b attempt memory₀ t₀ fault := by
  have hfrom (left n : Nat) (hleft : n + left = UInt32.size - 1) {d : Duration} {memory : β} {t : Timeline σ}
      (hwaiting : Waiting b attempt memory₀ t₀ n d memory t) :
      (∃ r t', b.retryFrom attempt t₀.now left n d memory t = .ok (r, t') ∧ Ends b attempt memory₀ t₀ r t') ∨
        ∃ fault, Overruns b attempt memory₀ t₀ fault := by
    induction left generalizing n d memory t with
    | zero =>
      obtain rfl : n = UInt32.size - 1 := hleft
      exact .inr ⟨_, .count hwaiting⟩
    | succ left ih =>
      have hn : n < UInt32.size - 1 := by omega
      obtain ⟨⟨verdict, t'⟩, hrun⟩ := hruns n d memory t hwaiting hn
      rw [retryFrom, Timed.bind_run hrun]
      rcases verdict with memory' | e | x
      · rcases Nat.lt_or_ge ((Duration.ofMillis (t'.now - t₀.now)).nanos + d.nanos) Duration.limit with hsum | hlong
        · have hadd := Duration.add_eq_ok_iff.mpr ⟨hsum, rfl⟩
          dsimp only
          rw [Timed.bind_run (Timed.now_run t'), Timed.bind_run (Timed.lift_eq_ok.mpr ⟨hadd, rfl⟩)]
          split
          next hlate => exact .inl ⟨_, _, rfl, .exhausted hwaiting hrun hlate⟩
          next hallowed =>
            have hallowed := Nat.le_of_not_lt hallowed
            obtain ⟨d', hnext⟩ := hgrows n d memory t memory' t' hwaiting hn hrun hallowed
            rw [Timed.bind_run (Timed.wait_run d t'), Timed.bind_run (Timed.lift_eq_ok.mpr ⟨hnext, rfl⟩)]
            exact ih (n + 1) (by omega) (hwaiting.wait hrun hallowed hnext)
        · exact .inr ⟨_, .sum hwaiting hn hrun hlong⟩
      · exact .inl ⟨_, _, rfl, .failed hwaiting hrun⟩
      · exact .inl ⟨_, _, rfl, .done hwaiting hrun⟩
  rw [retry, Timed.bind_run (Timed.now_run t₀)]
  exact hfrom _ 0 (by omega) .start

/-! ### Time -/

/-- An operation that comes to no fault of its own, and for which time does not go back. -/
def Sound (attempt : β → Timed σ (Attempt β ε α)) : Prop :=
  ∀ memory t, ∃ r t', attempt memory t = .ok (r, t') ∧ t.now ≤ t'.now

/-- An attempt takes no less than no time, and no more than a patience. -/
structure Takes (attempt : β → Timed σ (Attempt β ε α)) (patience : Duration) : Prop where
  runs : ∀ memory t, ∃ r, attempt memory t = .ok r
  least : ∀ {memory t r t'}, attempt memory t = .ok (r, t') → t.now ≤ t'.now
  greatest : ∀ {memory t r t'}, attempt memory t = .ok (r, t') → t'.now ≤ t.now + patience.ceilMillis

theorem Takes.sound {patience : Duration} (h : Takes attempt patience) : Sound attempt := fun memory t => by
  obtain ⟨⟨r, t'⟩, hrun⟩ := h.runs memory t
  exact ⟨r, t', hrun, h.least hrun⟩

theorem Sound.now_le {r : Attempt β ε α} (h : Sound attempt) (hrun : attempt memory t = .ok (r, t')) : t.now ≤ t'.now := by
  obtain ⟨_, _, hrun', hnow⟩ := h memory t
  cases hrun.symm.trans hrun'
  exact hnow

/-- Every attempt begins within the budget. -/
theorem Waiting.now_le (h : Waiting b attempt memory₀ t₀ n d memory t) (hsound : Sound attempt) :
    t₀.now ≤ t.now ∧ t.now ≤ t₀.now + b.maxElapsed.ceilMillis := by
  induction h with
  | start => exact ⟨Nat.le_refl _, Nat.le_add_right _ _⟩
  | wait _ hundecided hallowed _ ih =>
    have hleast := hsound.now_le hundecided
    have hends := Duration.add_ceilMillis_le hallowed
    dsimp only
    omega

/-- The waits that were made are some of the time that has passed. -/
theorem Waiting.exists_after (h : Waiting b attempt memory₀ t₀ n d memory t) (hsound : Sound attempt) :
    ∃ ms, After b n ms d ∧ t₀.now + ms ≤ t.now := by
  induction h with
  | start => exact ⟨0, .first, Nat.le_refl _⟩
  | wait _ hundecided _ hnext ih =>
    obtain ⟨ms, hafter, hms⟩ := ih
    have hleast := hsound.now_le hundecided
    exact ⟨_, hafter.next hnext, by dsimp only; omega⟩

/-- Where no attempt takes time or remembers anything, nothing passes but the intervals. -/
theorem After.waiting (h : After b n ms d) (hidle : ∀ t, attempt memory₀ t = .ok (.undecided memory₀, t))
    (hbudget : (Duration.ofMillis ms).nanos ≤ b.maxElapsed.nanos) (t₀ : Timeline σ) :
    Waiting b attempt memory₀ t₀ n d memory₀ { t₀ with now := t₀.now + ms } := by
  induction h with
  | first => exact .start
  | @next n ms d d' _ hnext ih =>
    have hends : (Duration.ofMillis ms).nanos + d.nanos ≤ (Duration.ofMillis (ms + d.ceilMillis)).nanos := by
      rw [Duration.nanos_ofMillis, Duration.nanos_ofMillis, Duration.ceilMillis_eq]
      omega
    have hwaiting := ih (Nat.le_trans (Nat.le_trans (Nat.le_add_right _ _) hends) hbudget)
    rw [← Nat.add_assoc]
    refine hwaiting.wait (hidle _) ?_ hnext
    rw [Nat.add_sub_cancel_left]
    exact Nat.le_trans hends hbudget

/-- A retry ends within the budget and the time of one attempt. -/
theorem Ends.now_le {patience : Duration} (h : Ends b attempt memory₀ t₀ r t') (htakes : Takes attempt patience) :
    t'.now ≤ t₀.now + (b.maxElapsed.ceilMillis + patience.ceilMillis) := by
  have hlast {n : Nat} {d : Duration} {memory : β} {t t' : Timeline σ} {verdict : Attempt β ε α}
      (hwaiting : Waiting b attempt memory₀ t₀ n d memory t) (hlast : attempt memory t = .ok (verdict, t')) :
      t'.now ≤ t₀.now + (b.maxElapsed.ceilMillis + patience.ceilMillis) := by
    have hnow := (hwaiting.now_le htakes.sound).2
    have hgreatest := htakes.greatest hlast
    omega
  cases h with
  | done hwaiting hattempt => exact hlast hwaiting hattempt
  | failed hwaiting hattempt => exact hlast hwaiting hattempt
  | exhausted hwaiting hattempt => exact hlast hwaiting hattempt

/-! ### Intervals that last -/

/-- The intervals that a retry comes to stay positive, and they do not overflow as they grow. -/
structure Sustains (b : Backoff) (attempt : β → Timed σ (Attempt β ε α)) (memory₀ : β) (t₀ : Timeline σ) : Prop where
  positive : ∀ {n d memory t}, Waiting b attempt memory₀ t₀ n d memory t → 0 < d.nanos
  next : ∀ {n d memory t memory' t'}, Waiting b attempt memory₀ t₀ n d memory t →
    attempt memory t = .ok (.undecided memory', t') →
    (Duration.ofMillis (t'.now - t₀.now)).nanos + d.nanos ≤ b.maxElapsed.nanos → ∃ d', b.next d = .ok d'

/-- Waits for positive intervals have taken a millisecond each. -/
theorem Waiting.le_now (h : Waiting b attempt memory₀ t₀ n d memory t) (hsound : Sound attempt)
    (hsustains : Sustains b attempt memory₀ t₀) : t₀.now + n ≤ t.now := by
  induction h with
  | start => exact Nat.le_refl _
  | wait before undecided _ _ ih =>
    have hnow := hsound.now_le undecided
    have hwait := Duration.ceilMillis_pos (hsustains.positive before)
    dsimp only
    omega

section Sustained

variable (hsound : Sound attempt) (hsustains : Sustains b attempt memory₀ t₀)
include hsound hsustains

/-- Only a budget of some weeks has room for more attempts than can be counted. -/
theorem Overruns.cases_of_sustains (h : Overruns b attempt memory₀ t₀ fault) :
    fault = .durationSum ∨ fault = .sum ∧ UInt32.size - 1 ≤ b.maxElapsed.ceilMillis := by
  cases h with
  | sum => exact .inl rfl
  | count hwaiting =>
    have hleast := hwaiting.le_now hsound hsustains
    have hgreatest := (hwaiting.now_le hsound).2
    exact .inr ⟨rfl, by omega⟩

theorem Sustains.ends_or_overruns :
    (∃ r t', b.retry attempt memory₀ t₀ = .ok (r, t') ∧ Ends b attempt memory₀ t₀ r t') ∨
      ∃ fault, Overruns b attempt memory₀ t₀ fault := by
  refine Backoff.ends_or_overruns (fun _ _ memory t _ _ => ?_) fun _ _ _ _ _ _ hwaiting _ hundecided hallowed => ?_
  · obtain ⟨r, t', hrun, -⟩ := hsound memory t
    exact ⟨_, hrun⟩
  · exact hsustains.next hwaiting hundecided hallowed

variable (hbudget : b.maxElapsed.nanos < Duration.limit)
include hbudget

theorem Sustains.retry_eq_error_iff : b.retry attempt memory₀ t₀ = .error fault ↔ Overruns b attempt memory₀ t₀ fault := by
  refine ⟨fun h => ?_, fun h => h.retry_eq hbudget⟩
  rcases hsustains.ends_or_overruns hsound with ⟨r, t', hrun, -⟩ | ⟨fault', hoverruns⟩
  · cases h.symm.trans hrun
  · obtain rfl := Except.error.inj (h.symm.trans (hoverruns.retry_eq hbudget))
    exact hoverruns

theorem Sustains.ends (h : b.retry attempt memory₀ t₀ = .ok (r, t')) : Ends b attempt memory₀ t₀ r t' := by
  rcases hsustains.ends_or_overruns hsound with ⟨_, _, hrun, hends⟩ | ⟨fault, hoverruns⟩
  · cases h.symm.trans hrun
    exact hends
  · cases h.symm.trans (hoverruns.retry_eq hbudget)

end Sustained

/-! ### Settings whose intervals last -/

/-- A backoff whose intervals last: the first one and the greatest one are positive, and what an interval grows to that ends
within the budget is positive and does not overflow. -/
structure Regular (b : Backoff) : Prop where
  initial : 0 < b.initialInterval.nanos
  greatest : 0 < b.maxInterval.nanos
  grows : ∀ n ms d, After b n ms d → (Duration.ofMillis ms).nanos + d.nanos ≤ b.maxElapsed.nanos →
    ∃ d', d.scale b.multiplier = .ok d' ∧ 0 < d'.nanos

theorem next_eq_ok {d' : Duration} (h : b.next d = .ok d') :
    ∃ grown, d.scale b.multiplier = .ok grown ∧ d' = min grown b.maxInterval := by
  rw [next, Checked.bind_eq_ok] at h
  obtain ⟨grown, hgrown, h⟩ := h
  exact ⟨grown, hgrown, (Except.ok.inj h).symm⟩

theorem Regular.exists_next (h : Regular b) (hafter : After b n ms d)
    (hallowed : (Duration.ofMillis ms).nanos + d.nanos ≤ b.maxElapsed.nanos) :
    ∃ d', b.next d = .ok d' ∧ 0 < d'.nanos := by
  obtain ⟨grown, hgrown, hpos⟩ := h.grows n ms d hafter hallowed
  refine ⟨min grown b.maxInterval, by rw [next, hgrown]; rfl, ?_⟩
  show 0 < (if grown ≤ b.maxInterval then grown else b.maxInterval).nanos
  split
  · exact hpos
  · exact h.greatest

theorem Regular.sustains (h : Regular b) (hsound : Sound attempt) (memory₀ : β) (t₀ : Timeline σ) :
    Sustains b attempt memory₀ t₀ := by
  -- an interval that ends within the budget does so whether or not attempts have taken time
  have hnext {n : Nat} {d : Duration} {memory memory' : β} {t t' : Timeline σ}
      (hwaiting : Waiting b attempt memory₀ t₀ n d memory t) (hundecided : attempt memory t = .ok (.undecided memory', t'))
      (hallowed : (Duration.ofMillis (t'.now - t₀.now)).nanos + d.nanos ≤ b.maxElapsed.nanos) :
      ∃ d', b.next d = .ok d' ∧ 0 < d'.nanos := by
    obtain ⟨ms, hafter, hms⟩ := hwaiting.exists_after hsound
    have hleast := hsound.now_le hundecided
    exact h.exists_next hafter
      (Nat.le_trans (Nat.add_le_add_right (Duration.nanos_ofMillis_mono (by omega)) _) hallowed)
  constructor
  case positive =>
    intro n d memory t hwaiting
    cases hwaiting with
    | start => exact h.initial
    | wait before undecided allowed next =>
      obtain ⟨d', hgrown, hpos⟩ := hnext before undecided allowed
      cases next.symm.trans hgrown
      exact hpos
  case next =>
    intro n d memory t memory' t' hwaiting hundecided hallowed
    obtain ⟨d', hgrown, -⟩ := hnext hwaiting hundecided hallowed
    exact ⟨d', hgrown⟩

/-- Where the budget is shorter than the first interval nothing grows. -/
theorem regular_of_lt (hshort : b.maxElapsed.nanos < b.initialInterval.nanos) (hgreatest : 0 < b.maxInterval.nanos) :
    Regular b := by
  refine ⟨Nat.lt_of_le_of_lt (Nat.zero_le _) hshort, hgreatest, fun n ms d hafter hallowed => ?_⟩
  cases hafter with
  | first => omega
  | next hafter hnext =>
    have hle := (hafter.next hnext).le_of_pos (Nat.succ_pos _)
    rw [Duration.ceilMillis_eq] at hle
    rw [Duration.nanos_ofMillis] at hallowed
    omega

section Steady

variable (hsteady : b.next b.initialInterval = .ok b.initialInterval)
include hsteady

/-- Where the first interval is followed by itself, all the others are like it. -/
theorem after_of_steady (n : Nat) : After b n (n * b.initialInterval.ceilMillis) b.initialInterval := by
  induction n with
  | zero =>
    rw [Nat.zero_mul]
    exact .first
  | succ n ih =>
    rw [Nat.succ_mul]
    exact ih.next hsteady

theorem After.eq_of_steady (h : After b n ms d) : d = b.initialInterval := by
  induction h with
  | first => rfl
  | next _ hnext ih =>
    rw [ih, hsteady] at hnext
    exact (Except.ok.inj hnext).symm

theorem regular_of_steady (hinitial : 0 < b.initialInterval.nanos) : Regular b := by
  obtain ⟨grown, hgrown, heq⟩ := next_eq_ok hsteady
  have hle : b.initialInterval ≤ grown ∧ b.initialInterval ≤ b.maxInterval := by
    change b.initialInterval = if grown ≤ b.maxInterval then grown else b.maxInterval at heq
    split at heq
    next hle => exact ⟨Nat.le_of_eq (congrArg _ heq), heq ▸ hle⟩
    next hlt => exact ⟨heq ▸ Nat.le_of_lt (Nat.lt_of_not_le hlt), Nat.le_of_eq (congrArg _ heq)⟩
  refine ⟨hinitial, Nat.lt_of_lt_of_le hinitial hle.2, fun n ms d hafter _ => ?_⟩
  rw [hafter.eq_of_steady hsteady]
  exact ⟨grown, hgrown, Nat.lt_of_lt_of_le hinitial hle.1⟩

end Steady

/-- Settings that wait for a millisecond each time, for longer than attempts can be counted. -/
def ceaseless : PollSettings := ⟨"1ms", 1.0, "1ms", "4294967295ms", "4m"⟩

/-- Settings with the longest interval that can be multiplied, which is never waited for. -/
def outsized : PollSettings := ⟨"18446744073709549568s", 1.0, "40s", "50m", "4m"⟩

theorem steady_ceaseless : (ofSettings ceaseless).next (ofSettings ceaseless).initialInterval =
    .ok (ofSettings ceaseless).initialInterval := by
  have hpasses : Checked.passes ((ofSettings ceaseless).next (ofSettings ceaseless).initialInterval)
      (· = (ofSettings ceaseless).initialInterval) = true := by decide +kernel
  obtain ⟨d, hnext, hd⟩ := Checked.exists_of_passes hpasses
  rw [hnext, of_decide_eq_true hd]

theorem regular_ceaseless : Regular (ofSettings ceaseless) := regular_of_steady steady_ceaseless (by decide +kernel)

theorem regular_outsized : Regular (ofSettings outsized) := regular_of_lt (by decide +kernel) (by decide +kernel)

theorem next_outsized : (ofSettings outsized).next (ofSettings outsized).initialInterval = .ok (.ofSeconds 40) := by
  have hpasses : Checked.passes ((ofSettings outsized).next (ofSettings outsized).initialInterval)
      (· = .ofSeconds 40) = true := by decide +kernel
  obtain ⟨d, hnext, hd⟩ := Checked.exists_of_passes hpasses
  rw [hnext, of_decide_eq_true hd]

/-- There is time for more attempts that decide nothing at once than can be counted. -/
theorem overruns_of_ceaseless (hidle : ∀ t, attempt memory₀ t = .ok (.undecided memory₀, t)) (t₀ : Timeline σ) :
    Overruns (ofSettings ceaseless) attempt memory₀ t₀ .sum := by
  have hbudget : (Duration.ofMillis ((UInt32.size - 1) * (ofSettings ceaseless).initialInterval.ceilMillis)).nanos ≤
      (ofSettings ceaseless).maxElapsed.nanos := by decide +kernel
  exact .count ((after_of_steady steady_ceaseless (UInt32.size - 1)).waiting hidle hbudget t₀)

/-- After an attempt that decides nothing in 2048 seconds the first interval would end at a time that no duration has. -/
theorem overruns_of_outsized {memory' : β}
    (hslow : attempt memory₀ t₀ = .ok (.undecided memory', { t₀ with now := t₀.now + 2048000 })) :
    Overruns (ofSettings outsized) attempt memory₀ t₀ .durationSum := by
  refine .sum .start (by decide) hslow ?_
  rw [Nat.add_sub_cancel_left]
  decide +kernel

end Backoff

end ComputeGrid
