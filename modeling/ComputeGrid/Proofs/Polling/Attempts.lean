import ComputeGrid.Proofs.Polling.Overflow

/-!
# The calls of an operation

A retry calls an operation again and again, with a wait for the next interval between one call and the next
(`Backoff.Calls`).  Calls do not depend on the budget.  What the budget does is to keep all of them within it and to end
them, after no more waits than there are milliseconds in it (`Backoff.Waiting.exists_calls`).

The result is that of the first call that decides, or else says how many calls there were and how long they took.  There is
one unless the retry overruns, which it does however regular its intervals are: where a call takes so long that the next
interval cannot be added to it, or where there is time for more calls than can be counted
(`Backoff.retry_decides_or_overruns`).
-/

namespace ComputeGrid

/-- What an attempt decides, if it does, as the result of a retry. -/
def Attempt.decision? {β ε α : Type} : Attempt β ε α → Option (Except (RetryError ε) α)
  | .undecided _ => none
  | .failed e => some (.error (.permanent e))
  | .done x => some (.ok x)

namespace Backoff

variable {σ β ε α : Type} {b : Backoff} {attempt : β → Timed σ (Attempt β ε α)} {memory₀ memory : β}
  {t₀ t t' : Timeline σ} {n : Nat} {d : Duration} {r : Except (RetryError ε) α}

/-! ### Calls -/

/-- A call of an operation: when it begins, when it ends and what comes of it. -/
structure Call (β ε α : Type) where
  begins : Nat
  ends : Nat
  outcome : Attempt β ε α

/-- What a call decides, if it does. -/
def Call.decision? (c : Call β ε α) : Option (Except (RetryError ε) α) := c.outcome.decision?

variable {calls : List (Call β ε α)}

/-- Calls that have decided nothing, each of which was followed by a wait. -/
inductive Called (b : Backoff) (attempt : β → Timed σ (Attempt β ε α)) (memory₀ : β) (t₀ : Timeline σ) :
    List (Call β ε α) → Duration → β → Timeline σ → Prop where
  | start : Called b attempt memory₀ t₀ [] b.initialInterval memory₀ t₀
  | wait {calls : List (Call β ε α)} {d d' : Duration} {memory memory' : β} {t t' : Timeline σ}
    (before : Called b attempt memory₀ t₀ calls d memory t) (call : attempt memory t = .ok (.undecided memory', t'))
    (next : b.next d = .ok d') :
    Called b attempt memory₀ t₀ (calls ++ [⟨t.now, t'.now, .undecided memory'⟩]) d' memory'
      { t' with now := t'.now + d.ceilMillis }

/-- Calls with a wait between one and the next, the interval that comes after the last of them, and where that one ends. -/
inductive Calls (b : Backoff) (attempt : β → Timed σ (Attempt β ε α)) (memory₀ : β) (t₀ : Timeline σ) :
    List (Call β ε α) → Duration → Timeline σ → Prop where
  | last {calls : List (Call β ε α)} {d : Duration} {memory : β} {t t' : Timeline σ} {outcome : Attempt β ε α}
    (before : Called b attempt memory₀ t₀ calls d memory t) (call : attempt memory t = .ok (outcome, t')) :
    Calls b attempt memory₀ t₀ (calls ++ [⟨t.now, t'.now, outcome⟩]) d t'

/-! ### Calls of a retry -/

/-- What is known of the calls before the last: there is one for every wait, all begin within the budget, and none
decides. -/
theorem Waiting.exists_called (h : Waiting b attempt memory₀ t₀ n d memory t) (hsound : Sound attempt) :
    ∃ calls, Called b attempt memory₀ t₀ calls d memory t ∧ calls.length = n ∧
      (∀ c ∈ calls, t₀.now ≤ c.begins ∧ c.begins ≤ t₀.now + b.maxElapsed.ceilMillis) ∧
      calls.findSome? (·.decision?) = none := by
  induction h with
  | start => exact ⟨[], .start, rfl, nofun, rfl⟩
  | @wait n d d' memory memory' t t' before undecided _ next ih =>
    obtain ⟨calls, hcalled, hlength, hbegins, hnone⟩ := ih
    refine ⟨_, hcalled.wait undecided next, ?_, ?_, ?_⟩
    · rw [List.length_append, hlength, List.length_singleton]
    · rw [List.forall_mem_append, List.forall_mem_singleton]
      exact ⟨hbegins, before.now_le hsound⟩
    · rw [List.findSome?_append, hnone]
      rfl

/-- The calls of a retry in the end: all begin within the budget, they are no more than the milliseconds in it and one, and
what they decide is what the last one does. -/
theorem Waiting.exists_calls (h : Waiting b attempt memory₀ t₀ n d memory t) (hsound : Sound attempt)
    (hsustains : Sustains b attempt memory₀ t₀) {outcome : Attempt β ε α} (hlast : attempt memory t = .ok (outcome, t')) :
    ∃ calls, Calls b attempt memory₀ t₀ calls d t' ∧ calls.length = n + 1 ∧ n ≤ b.maxElapsed.ceilMillis ∧
      (∀ c ∈ calls, t₀.now ≤ c.begins ∧ c.begins ≤ t₀.now + b.maxElapsed.ceilMillis) ∧
      calls.findSome? (·.decision?) = outcome.decision? := by
  obtain ⟨calls, hcalled, hlength, hbegins, hnone⟩ := h.exists_called hsound
  have hn := h.le_now hsound hsustains
  have hnow := h.now_le hsound
  refine ⟨_, .last hcalled hlast, ?_, by omega, ?_, ?_⟩
  · rw [List.length_append, hlength, List.length_singleton]
  · rw [List.forall_mem_append, List.forall_mem_singleton]
    exact ⟨hbegins, hnow⟩
  · rw [List.findSome?_append, hnone, Option.none_or, List.findSome?_singleton, Call.decision?]

/-- A retry under settings whose intervals stay positive and do not overflow comes to an end if every attempt does, unless it
overruns, and then an attempt has taken too long for the next interval or the budget is of 2 ^ 32 - 1 milliseconds or more.
All of its attempts begin within the budget.  A retry that comes to an end has called the operation no more often than there
are milliseconds in the budget, and once more.  It ends with what the first call that decides says, and is exhausted only if
none does: after as many calls as it says, at the end of the last one, when the next wait would go beyond the budget. -/
theorem retry_decides_or_overruns {s : PollSettings} (hsound : Sound attempt)
    (hsustains : Sustains (ofSettings s) attempt memory₀ t₀) :
    (∀ fault, (ofSettings s).retry attempt memory₀ t₀ = .error fault ↔
      Overruns (ofSettings s) attempt memory₀ t₀ fault) ∧
    (∀ fault, Overruns (ofSettings s) attempt memory₀ t₀ fault →
      fault = .durationSum ∨ fault = .sum ∧ UInt32.size - 1 ≤ s.maxElapsed.ceilMillis) ∧
    (∀ n d memory t, Waiting (ofSettings s) attempt memory₀ t₀ n d memory t →
      Duration.ofMillis (t.now - t₀.now) ≤ s.maxElapsed) ∧
    ∀ r t', (ofSettings s).retry attempt memory₀ t₀ = .ok (r, t') → ∃ calls d,
      Calls (ofSettings s) attempt memory₀ t₀ calls d t' ∧ calls.length ≤ s.maxElapsed.ceilMillis + 1 ∧
      (∀ c ∈ calls, t₀.now ≤ c.begins ∧ Duration.ofMillis (c.begins - t₀.now) ≤ s.maxElapsed) ∧
      (∀ v, calls.findSome? (·.decision?) = some v → r = v) ∧
      ∀ attempts elapsed, r = .error (.exhausted attempts elapsed) ↔
        calls.findSome? (·.decision?) = none ∧ attempts = calls.length ∧ elapsed = .ofMillis (t'.now - t₀.now) ∧
          s.maxElapsed.nanos < elapsed.nanos + d.nanos := by
  have hlimit : (ofSettings s).maxElapsed.nanos < Duration.limit := DurationSetting.read_lt_limit .maxElapsed _
  -- settings give their budget in whole milliseconds, so that what begins within it on the clock does so exactly
  have hbudget {ms : Nat} (hms : ms ≤ t₀.now + (ofSettings s).maxElapsed.ceilMillis) :
      Duration.ofMillis (ms - t₀.now) ≤ s.maxElapsed := by
    have hle : (Duration.ofMillis (ms - t₀.now)).nanos ≤ (Duration.ofMillis s.maxElapsed.ceilMillis).nanos :=
      Duration.nanos_ofMillis_mono (Nat.sub_le_of_le_add (Nat.add_comm _ _ ▸ hms))
    rwa [PollSettings.maxElapsed, DurationSetting.ofMillis_read] at hle
  have hcalls {n d memory t t'} {outcome : Attempt β ε α}
      (hwaiting : Waiting (ofSettings s) attempt memory₀ t₀ n d memory t) (hlast : attempt memory t = .ok (outcome, t')) :
      ∃ calls, Calls (ofSettings s) attempt memory₀ t₀ calls d t' ∧ calls.length = n + 1 ∧
        calls.length ≤ s.maxElapsed.ceilMillis + 1 ∧
        (∀ c ∈ calls, t₀.now ≤ c.begins ∧ Duration.ofMillis (c.begins - t₀.now) ≤ s.maxElapsed) ∧
        calls.findSome? (·.decision?) = outcome.decision? := by
    obtain ⟨calls, hcalls, hlength, hn, hbegins, houtcome⟩ := hwaiting.exists_calls hsound hsustains hlast
    refine ⟨calls, hcalls, hlength, ?_, fun c hc => ⟨(hbegins c hc).1, hbudget (hbegins c hc).2⟩, houtcome⟩
    exact hlength ▸ Nat.succ_le_succ hn
  refine ⟨fun fault => hsustains.retry_eq_error_iff hsound hlimit, fun fault h => h.cases_of_sustains hsound hsustains,
    fun n d memory t h => hbudget (h.now_le hsound).2, fun r t' hrun => ?_⟩
  cases hsustains.ends hsound hlimit hrun with
  | done hwaiting hlast | failed hwaiting hlast =>
    obtain ⟨calls, hcalls, -, hlength, hbegins, houtcome⟩ := hcalls hwaiting hlast
    refine ⟨calls, _, hcalls, hlength, hbegins, fun v hv => ?_, fun attempts elapsed => ?_⟩
    · exact Option.some.inj (houtcome.symm.trans hv)
    · rw [houtcome]
      exact ⟨nofun, nofun⟩
  | exhausted hwaiting hlast hlate =>
    obtain ⟨calls, hcalls, hcount, hlength, hbegins, houtcome⟩ := hcalls hwaiting hlast
    refine ⟨calls, _, hcalls, hlength, hbegins, fun v hv => ?_, fun attempts elapsed => ⟨?_, ?_⟩⟩
    · cases houtcome.symm.trans hv
    · intro h
      cases h
      exact ⟨houtcome, hcount.symm, rfl, hlate⟩
    · rintro ⟨-, rfl, rfl, -⟩
      rw [hcount]

/-- An attempt that decides nothing in 2048 seconds. -/
def tedious (_ : Unit) : Timed Unit (Attempt Unit Unit Unit) := do
  Timed.pass 2048000
  return .undecided ()

/-- Every interval is of a millisecond, and there are more attempts than can be counted.  The one interval is positive and can
be multiplied, and the time of one attempt cannot be added to it. -/
theorem retry_overruns_of_regular :
    Regular (ofSettings ceaseless) ∧ (ofSettings ceaseless).retry pending () ⟨0, ()⟩ = .error .sum ∧
    Regular (ofSettings outsized) ∧
    (ofSettings outsized).next (ofSettings outsized).initialInterval = .ok (.ofSeconds 40) ∧
    (ofSettings outsized).retry tedious () ⟨0, ()⟩ = .error .durationSum := by
  have hsound : Sound tedious := fun _ t => ⟨_, _, rfl, Nat.le_add_right _ _⟩
  have hcount : (ofSettings ceaseless).retry pending () ⟨0, ()⟩ = .error .sum :=
    ((retry_decides_or_overruns sound_pending (regular_ceaseless.sustains sound_pending () ⟨0, ()⟩)).1 .sum).2
      (overruns_of_ceaseless (fun _ => rfl) ⟨0, ()⟩)
  have hsum : (ofSettings outsized).retry tedious () ⟨0, ()⟩ = .error .durationSum :=
    ((retry_decides_or_overruns hsound (regular_outsized.sustains hsound () ⟨0, ()⟩)).1 .durationSum).2
      (overruns_of_outsized rfl)
  exact ⟨regular_ceaseless, hcount, regular_outsized, next_outsized, hsum⟩

end Backoff

end ComputeGrid
