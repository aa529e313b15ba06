import ComputeGrid.Text.Blank

/-!
# What trimming takes off

The blanks are the characters that have the property `White_Space` (`isBlank_iff`).  A text is what trimming leaves of it
with blanks on both sides (`exists_eq_trim`), which make no difference to it (`trim_append`), and a text that neither begins
nor ends with a blank is left as it is (`trim_eq_self_of_ends`).
-/

namespace ComputeGrid.Text

variable {before cs after : List Char}

/-- The code points of the characters with the property `White_Space`. -/
def whiteSpace : List Nat :=
  [0x0009, 0x000A, 0x000B, 0x000C, 0x000D, 0x0020, 0x0085, 0x00A0, 0x1680, 0x2000, 0x2001, 0x2002, 0x2003, 0x2004, 0x2005,
    0x2006, 0x2007, 0x2008, 0x2009, 0x200A, 0x2028, 0x2029, 0x202F, 0x205F, 0x3000]

theorem isBlank_iff {c : Char} : isBlank c = true ↔ c.toNat ∈ whiteSpace := by
  simp only [isBlank, blankRanges, whiteSpace, List.any_cons, List.any_nil, Bool.or_eq_true, Bool.and_eq_true,
    decide_eq_true_eq, Bool.false_eq_true, or_false, List.mem_cons, List.not_mem_nil]
  omega

/-! ### Both sides -/

theorem trimStart_append (h : ∀ c ∈ before, isBlank c = true) : trimStart (before ++ cs) = trimStart cs :=
  List.dropWhile_append_of_pos h

theorem trimEnd_append (h : ∀ c ∈ after, isBlank c = true) : trimEnd (cs ++ after) = trimEnd cs := by
  rw [trimEnd, trimEnd, List.reverse_append, List.dropWhile_append_of_pos]
  exact fun c hc => h c (List.mem_reverse.1 hc)

theorem trimStart_eq_self (h : ∀ c ∈ cs.head?, isBlank c = false) : trimStart cs = cs := by
  cases cs with
  | nil => rfl
  | cons c cs =>
    rw [trimStart, List.dropWhile_cons_of_neg]
    rw [h c rfl]
    exact Bool.false_ne_true

theorem trimEnd_eq_self (h : ∀ c ∈ cs.getLast?, isBlank c = false) : trimEnd cs = cs := by
  rw [← List.head?_reverse] at h
  have hstart := trimStart_eq_self h
  rw [trimStart] at hstart
  rw [trimEnd, hstart, List.reverse_reverse]

/-- Blanks on both sides make no difference. -/
theorem trim_append (hbefore : ∀ c ∈ before, isBlank c = true) (hafter : ∀ c ∈ after, isBlank c = true) :
    trim (before ++ cs ++ after) = trim cs := by
  rw [trim, List.append_assoc, trimStart_append hbefore, trimStart, List.dropWhile_append]
  split
  next hempty =>
    have hnone : after.dropWhile isBlank = [] := List.append_nil after ▸ List.dropWhile_append_of_pos hafter
    rw [trim, trimStart, List.isEmpty_iff.1 hempty, hnone]
  next => rw [trimEnd_append hafter, trim, trimStart]

theorem trim_eq_self_of_ends (hhead : ∀ c ∈ cs.head?, isBlank c = false) (hlast : ∀ c ∈ cs.getLast?, isBlank c = false) :
    trim cs = cs := by
  rw [trim, trimStart_eq_self hhead, trimEnd_eq_self hlast]

theorem trim_eq_self (h : ∀ c ∈ cs, isBlank c = false) : trim cs = cs :=
  trim_eq_self_of_ends (fun c hc => h c (List.mem_of_head? hc)) fun c hc => h c (List.mem_of_getLast? hc)

/-- Blanks only are taken off the end. -/
theorem exists_eq_trimEnd (cs : List Char) : ∃ after, (∀ c ∈ after, isBlank c = true) ∧ cs = trimEnd cs ++ after := by
  refine ⟨(cs.reverse.takeWhile isBlank).reverse, fun c hc => ?_, ?_⟩
  · exact List.all_eq_true.1 List.all_takeWhile c (List.mem_reverse.1 hc)
  · rw [trimEnd, ← List.reverse_append, List.takeWhile_append_dropWhile, List.reverse_reverse]

/-- Nothing but blanks is taken off. -/
theorem exists_eq_trim (cs : List Char) : ∃ before after, (∀ c ∈ before, isBlank c = true) ∧
    (∀ c ∈ after, isBlank c = true) ∧ cs = before ++ trim cs ++ after := by
  obtain ⟨after, hafter, hend⟩ := exists_eq_trimEnd (trimStart cs)
  refine ⟨cs.takeWhile isBlank, after, fun c hc => List.all_eq_true.1 List.all_takeWhile c hc, hafter, ?_⟩
  rw [List.append_assoc, trim, ← hend, trimStart, List.takeWhile_append_dropWhile]

/-! ### What is left -/

theorem isBlank_head?_trimStart (cs : List Char) : ∀ c ∈ (trimStart cs).head?, isBlank c = false := by
  intro c hc
  have hdrop := List.head?_dropWhile_not isBlank cs
  rw [trimStart, Option.mem_def] at hc
  rw [hc] at hdrop
  exact hdrop

theorem isBlank_getLast?_trim (cs : List Char) : ∀ c ∈ (trim cs).getLast?, isBlank c = false := by
  rw [trim, trimEnd, List.getLast?_reverse]
  exact isBlank_head?_trimStart _

theorem isBlank_head?_trim (cs : List Char) : ∀ c ∈ (trim cs).head?, isBlank c = false := by
  intro c hc
  obtain ⟨after, -, hend⟩ := exists_eq_trimEnd (trimStart cs)
  refine isBlank_head?_trimStart cs c ?_
  rw [hend, Option.mem_def, List.head?_append, ← trim, Option.mem_def.1 hc, Option.some_or]

theorem trim_trim (cs : List Char) : trim (trim cs) = trim cs :=
  trim_eq_self_of_ends (isBlank_head?_trim cs) (isBlank_getLast?_trim cs)

end ComputeGrid.Text
