import ComputeGrid.Exchange

/-!
# Runs of timed computations

A run `x t = .ok (a, t')` leads from one timeline to another with a result.  A run of a sequence splits
at its first part (`bind_eq_ok`), and every elementary computation has one run (`update_run`,
`query_run`, `pass_run`); only a lifted computation and a checked change can end in a fault
(`lift_eq_ok`, `updateChecked_eq_ok`).  `Exchange.within_run` is the one run of an exchange with a
timeout, and `Exchange.complete_run` that of one without.
-/

namespace ComputeGrid

namespace Checked

variable {ε α β : Type}

/-- A sequence succeeds if its first part does and then the rest, whatever the errors are. -/
theorem bind_eq_ok {x : Except ε α} {f : α → Except ε β} {b : β} :
    (x >>= f) = .ok b ↔ ∃ a, x = .ok a ∧ f a = .ok b := by
  rcases x with e | a
  · simp only [bind, Except.bind, reduceCtorEq, false_and, exists_false]
  · simp only [bind, Except.bind, Except.ok.injEq, exists_eq_left']

theorem pure_eq_ok {a b : α} : (pure a : Except ε α) = .ok b ↔ a = b := by
  show Except.ok a = Except.ok b ↔ a = b
  rw [Except.ok.injEq]

/-- The computation has a result that passes a test. -/
def passes (x : Except ε α) (test : α → Bool) : Bool :=
  match x with
  | .ok a => test a
  | .error _ => false

theorem exists_of_passes {x : Except ε α} {test : α → Bool} (h : passes x test = true) :
    ∃ a, x = .ok a ∧ test a = true := by
  rcases x with e | a
  · cases h
  · exact ⟨a, rfl, h⟩

end Checked

namespace Timed

variable {σ α β : Type}

/-- After a run of its first part a sequence goes on with the rest. -/
theorem bind_run {x : Timed σ α} {f : α → Timed σ β} {t t₁ : Timeline σ} {a : α}
    (h : x t = .ok (a, t₁)) : (x >>= f) t = f a t₁ := by
  show ((x t).bind fun p => f p.1 p.2) = _
  rw [h]
  rfl

/-- A fault of its first part is one of a sequence. -/
theorem bind_run_fault {x : Timed σ α} {f : α → Timed σ β} {t : Timeline σ} {fault : Fault} (h : x t = .error fault) :
    (x >>= f) t = .error fault := by
  show ((x t).bind fun p => f p.1 p.2) = _
  rw [h]
  rfl

/-- A run of a sequence is a run of its first part and then one of the rest. -/
theorem bind_eq_ok {x : Timed σ α} {f : α → Timed σ β} {t : Timeline σ} {r : β × Timeline σ} :
    (x >>= f) t = .ok r ↔ ∃ a t₁, x t = .ok (a, t₁) ∧ f a t₁ = .ok r := by
  show ((x t).bind fun p => f p.1 p.2) = .ok r ↔ _
  rcases x t with e | ⟨a, t₁⟩
  · simp only [Except.bind, reduceCtorEq, false_and, exists_false]
  · constructor
    · exact fun h => ⟨a, t₁, rfl, h⟩
    · rintro ⟨a', t', h, h'⟩
      cases h
      exact h'

theorem pure_eq_ok {a : α} {t : Timeline σ} {r : α × Timeline σ} :
    (pure a : Timed σ α) t = .ok r ↔ r = (a, t) := by
  show Except.ok (a, t) = Except.ok r ↔ _
  rw [Except.ok.injEq, eq_comm]

theorem lift_eq_ok {x : Checked α} {t : Timeline σ} {r : α × Timeline σ} :
    (x : Timed σ α) t = .ok r ↔ x = .ok r.1 ∧ r.2 = t := by
  obtain ⟨a, t'⟩ := r
  show (Except.bind x fun a => .ok (a, t)) = .ok (a, t') ↔ _
  rcases x with e | b
  · simp only [Except.bind, reduceCtorEq, false_and]
  · simp only [Except.bind, Except.ok.injEq, Prod.mk.injEq, eq_comm]

@[simp] theorem now_run (t : Timeline σ) : (now : Timed σ Nat) t = .ok (t.now, t) := rfl

@[simp] theorem get_run (t : Timeline σ) : (get : Timed σ (Timeline σ)) t = .ok (t, t) := rfl

@[simp] theorem set_run (t t' : Timeline σ) : (set t' : Timed σ PUnit) t = .ok (⟨⟩, t') := rfl

@[simp] theorem query_run (f : σ → α) (t : Timeline σ) : query f t = .ok (f t.state, t) := rfl

@[simp] theorem update_run (f : σ → α × σ) (t : Timeline σ) :
    update f t = .ok ((f t.state).1, { t with state := (f t.state).2 }) := rfl

@[simp] theorem pass_run (ms : Nat) (t : Timeline σ) :
    (pass ms : Timed σ Unit) t = .ok ((), { t with now := t.now + ms }) := rfl

@[simp] theorem wait_run (d : Duration) (t : Timeline σ) :
    (wait d : Timed σ Unit) t = .ok ((), { t with now := t.now + d.ceilMillis }) := rfl

theorem updateChecked_eq_ok {f : σ → Checked (α × σ)} {t t' : Timeline σ} {a : α} :
    updateChecked f t = .ok (a, t') ↔ ∃ s, f t.state = .ok (a, s) ∧ t' = { t with state := s } := by
  unfold updateChecked
  simp only [bind_eq_ok, lift_eq_ok, pure_eq_ok, get_run, set_run]
  constructor
  · rintro ⟨_, _, h, ⟨x, s⟩, _, ⟨hf, rfl⟩, _, _, h', h''⟩
    cases h
    cases h'
    cases h''
    exact ⟨s, hf, rfl⟩
  · rintro ⟨s, hf, rfl⟩
    exact ⟨t, t, rfl, (a, s), t, ⟨hf, rfl⟩, ⟨⟩, _, rfl, rfl⟩

end Timed

namespace Exchange

variable {σ α : Type}

/-- The run of an exchange with a timeout: it never ends in a fault, and a request that is not answered
in time leaves only what sending it has done. -/
theorem within_run (e : Exchange σ α) (timeout : Duration) (t : Timeline σ) :
    e.within timeout t = match e.send t.state with
      | (.answered x, s) => .ok (some x, ⟨t.now, s⟩)
      | (.pending delay, s) =>
        if delay ≤ timeout.ceilMillis then .ok (some (e.answer s).1, ⟨t.now + delay, (e.answer s).2⟩)
        else .ok (none, ⟨t.now + timeout.ceilMillis, s⟩) := by
  rw [within, Timed.bind_run (Timed.update_run e.send t)]
  rcases e.send t.state with ⟨x | delay, s⟩
  · rfl
  · dsimp only
    split
    · rfl
    · rfl

/-- The run of an exchange that waits for as long as it takes. -/
theorem complete_run (e : Exchange σ α) (t : Timeline σ) :
    e.complete t = match e.send t.state with
      | (.answered x, s) => .ok (x, ⟨t.now, s⟩)
      | (.pending delay, s) => .ok ((e.answer s).1, ⟨t.now + delay, (e.answer s).2⟩) := by
  rw [complete, Timed.bind_run (Timed.update_run e.send t)]
  rcases e.send t.state with ⟨x | delay, s⟩
  · rfl
  · rfl

end Exchange

end ComputeGrid
