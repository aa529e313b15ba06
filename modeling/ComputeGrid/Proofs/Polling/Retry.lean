import ComputeGrid.Polling.Backoff
import ComputeGrid.Proofs.Timeline

/-!
# Runs of retries

Whatever every attempt does to the state, many attempts do: a relation that is reflexive and transitive
and holds across each attempt holds across a retry (`retry_spec`).  A result is that of the last attempt,
and an invariant of what the attempts remember still holds then.
-/

namespace ComputeGrid.Backoff

variable {σ β ε α : Type} {b : Backoff} {attempt : β → Timed σ (Attempt β ε α)}
  {R : σ → σ → Prop} {I : β → Prop}

/-- What is known of every attempt. -/
structure Respects (attempt : β → Timed σ (Attempt β ε α)) (R : σ → σ → Prop) (I : β → Prop) : Prop where
  state : ∀ {memory t r t'}, I memory → attempt memory t = .ok (r, t') → R t.state t'.state
  memory : ∀ {memory t memory' t'}, I memory → attempt memory t = .ok (.undecided memory', t') → I memory'

theorem retryFrom_spec (hrefl : ∀ s, R s s) (htrans : ∀ {s s₁ s₂}, R s s₁ → R s₁ s₂ → R s s₂)
    (hattempt : Respects attempt R I) {start left attempts : Nat} {interval : Duration} {memory : β}
    {t t' : Timeline σ} {r : Except (RetryError ε) α} (hmemory : I memory)
    (h : b.retryFrom attempt start left attempts interval memory t = .ok (r, t')) :
    R t.state t'.state ∧
    ∀ x, r = .ok x → ∃ memory₁ t₁, I memory₁ ∧ R t.state t₁.state ∧ attempt memory₁ t₁ = .ok (.done x, t') := by
  induction left generalizing attempts interval memory t with
  | zero => cases h
  | succ left ih =>
    rw [retryFrom, Timed.bind_eq_ok] at h
    obtain ⟨a, t₁, ha, h⟩ := h
    have hstate := hattempt.state hmemory ha
    rcases a with memory' | e | x
    · simp only [Timed.bind_eq_ok, Timed.lift_eq_ok, Timed.now_run] at h
      obtain ⟨_, _, hnow, due, _, ⟨_, rfl⟩, h⟩ := h
      cases hnow
      split at h
      · rw [Timed.pure_eq_ok] at h
        cases h
        exact ⟨hstate, nofun⟩
      · simp only [Timed.bind_eq_ok, Timed.lift_eq_ok, Timed.wait_run] at h
        obtain ⟨_, _, hwait, next, _, ⟨_, rfl⟩, h⟩ := h
        cases hwait
        -- an attempt that decides nothing is followed by the others, after a wait
        obtain ⟨hrest, hdone⟩ := ih (hattempt.memory hmemory ha) h
        refine ⟨htrans hstate hrest, fun x hx => ?_⟩
        obtain ⟨memory₁, t₂, hmemory₁, hR, hlast⟩ := hdone x hx
        exact ⟨memory₁, t₂, hmemory₁, htrans hstate hR, hlast⟩
    · rw [Timed.pure_eq_ok] at h
      cases h
      exact ⟨hstate, nofun⟩
    · rw [Timed.pure_eq_ok] at h
      cases h
      -- this attempt is the last
      refine ⟨hstate, fun x' hx => ?_⟩
      cases hx
      exact ⟨memory, t, hmemory, hrefl t.state, ha⟩

theorem retry_spec (hrefl : ∀ s, R s s) (htrans : ∀ {s s₁ s₂}, R s s₁ → R s₁ s₂ → R s s₂)
    (hattempt : Respects attempt R I) {memory : β} {t t' : Timeline σ} {r : Except (RetryError ε) α}
    (hmemory : I memory) (h : b.retry attempt memory t = .ok (r, t')) :
    R t.state t'.state ∧
    ∀ x, r = .ok x → ∃ memory₁ t₁, I memory₁ ∧ R t.state t₁.state ∧ attempt memory₁ t₁ = .ok (.done x, t') := by
  rw [retry, Timed.bind_run (Timed.now_run t)] at h
  exact retryFrom_spec hrefl htrans hattempt hmemory h

end ComputeGrid.Backoff
