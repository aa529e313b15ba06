import ComputeGrid.Duration
import ComputeGrid.Proofs.Text.Numerals
import ComputeGrid.Proofs.Text.Trimming

/-!
# Which texts are durations

A text can be read as a duration if and only if it writes a number of a unit that fits in 64 bits
(`Duration.reads_iff_writes`).

The reader takes blanks off the text, then a unit off its end, and blanks off what is left.  `Duration.exists_of_ofText?` says
what it has found by then, and `Duration.ofText?_of_suffix` that it finds nothing else: the units share letters, but none of
them ends where digits and blanks do.
-/

namespace ComputeGrid

open Text

namespace Text

variable {cs : List Char} {n : Nat}

theorem lt_of_readCount (h : readCount cs = some n) : n < UInt64.size := (readCount_eq_some_iff.1 h).1

theorem isBlank_of_isDigit {c : Char} (h : c.isDigit = true) : isBlank c = false := by
  obtain ⟨hlow, hhigh⟩ := Char.isDigit_iff_toNat.1 h
  have hlow' : 48 ≤ c.toNat := hlow
  have hhigh' : c.toNat ≤ 57 := hhigh
  rw [Bool.eq_false_iff, Ne, isBlank_iff]
  simp only [whiteSpace, List.mem_cons, List.not_mem_nil, or_false]
  omega

/-- What a count is read from has no blanks. -/
theorem isBlank_of_readCount (h : readCount cs = some n) : ∀ c ∈ cs, isBlank c = false := by
  obtain ⟨-, sign, digits, rfl, hsign, -, hdigits, -⟩ := readCount_eq_some_iff.1 h
  rw [List.forall_mem_append]
  refine ⟨?_, fun c hc => isBlank_of_isDigit (hdigits c hc)⟩
  rcases hsign with rfl | rfl
  · exact nofun
  · exact List.forall_mem_singleton.2 rfl

end Text

/-- What a number counts in the text of a duration; one that is unmarked counts seconds. -/
inductive TimeUnit where
  | millisecond
  | second
  | minute
  | unmarked
  deriving DecidableEq, Repr

namespace TimeUnit

/-- What is written after the number. -/
def suffix : TimeUnit → List Char
  | millisecond => ['m', 's']
  | second => ['s']
  | minute => ['m']
  | unmarked => []

theorem isBlank_of_mem_suffix (u : TimeUnit) : ∀ c ∈ u.suffix, isBlank c = false := by
  cases u with
  | millisecond => exact List.forall_mem_cons.2 ⟨rfl, List.forall_mem_singleton.2 rfl⟩
  | second | minute => exact List.forall_mem_singleton.2 rfl
  | unmarked => exact nofun

/-- The nanoseconds in one. -/
def nanos : TimeUnit → Nat
  | millisecond => 1000000
  | second => 1000000000
  | minute => 60000000000
  | unmarked => 1000000000

/-- The duration of so many of them. -/
def duration (u : TimeUnit) (n : Nat) : Duration := ⟨n * u.nanos⟩

/-- The number fits in 64 bits, and one of minutes does so as a number of seconds. -/
def Fits (u : TimeUnit) (n : Nat) : Prop := n < UInt64.size ∧ (u = minute → 60 * n < UInt64.size)

end TimeUnit

/-- Digits with or without a plus sign before them, and a unit after them.  Blanks may stand before all of this, before the
unit and after it. -/
def Writes (text : String) (n : Nat) (u : TimeUnit) : Prop :=
  ∃ before sign digits gap after : List Char, text.toList = before ++ (sign ++ digits ++ gap ++ u.suffix) ++ after ∧
    (sign = [] ∨ sign = ['+']) ∧ IsNumeral digits n ∧
    (∀ c ∈ before, c.toNat ∈ whiteSpace) ∧ (∀ c ∈ gap, c.toNat ∈ whiteSpace) ∧ ∀ c ∈ after, c.toNat ∈ whiteSpace

namespace Duration

variable {text : String} {d : Duration} {n : Nat} {u : TimeUnit} {rest : List Char}

theorem ofSeconds_mul_sixty (n : Nat) : ofSeconds (n * 60) = TimeUnit.minute.duration n := by
  rw [ofSeconds, TimeUnit.duration, perSecond, Nat.mul_assoc]
  rfl

/-- A text that can be read is a unit after what a count is read from. -/
theorem exists_of_ofText? (h : ofText? text = some d) : ∃ (u : TimeUnit) (n : Nat) (rest : List Char),
    trim text.toList = rest ++ u.suffix ∧ readCount (trim rest) = some n ∧ u.Fits n ∧ d = u.duration n := by
  unfold ofText? at h
  dsimp only at h
  split at h
  next rest hreverse =>
    obtain ⟨n, hn, rfl⟩ := Option.map_eq_some_iff.1 h
    refine ⟨.millisecond, n, rest.reverse, ?_, hn, ⟨lt_of_readCount hn, nofun⟩, rfl⟩
    rw [← List.reverse_reverse (trim text.toList), hreverse, List.reverse_cons, List.reverse_cons, List.append_assoc]
    rfl
  next rest _ hreverse =>
    obtain ⟨n, hn, rfl⟩ := Option.map_eq_some_iff.1 h
    exact ⟨.second, n, rest.reverse, List.reverse_eq_cons_iff.1 hreverse, hn, ⟨lt_of_readCount hn, nofun⟩, rfl⟩
  next rest hreverse =>
    obtain ⟨n, hn, rfl⟩ := Option.map_eq_some_iff.1 h
    obtain ⟨hn, hfits⟩ := Option.filter_eq_some_iff.1 hn
    rw [decide_eq_true_eq, Nat.mul_comm] at hfits
    exact ⟨.minute, n, rest.reverse, List.reverse_eq_cons_iff.1 hreverse, hn, ⟨lt_of_readCount hn, fun _ => hfits⟩,
      ofSeconds_mul_sixty n⟩
  next =>
    obtain ⟨n, hn, rfl⟩ := Option.map_eq_some_iff.1 h
    refine ⟨.unmarked, n, trim text.toList, (List.append_nil _).symm, ?_, ⟨lt_of_readCount hn, nofun⟩, rfl⟩
    rw [trim_eq_self (isBlank_of_readCount hn)]
    exact hn

/-- Where a text ends in a unit, and what is before that does not end in a letter of one, a count is read from the latter. -/
theorem ofText?_of_suffix (htext : trim text.toList = rest ++ u.suffix) (hrest : ∀ c ∈ rest.getLast?, c ≠ 'm' ∧ c ≠ 's')
    (hn : readCount (trim rest) = some n) (hfits : u.Fits n) : ofText? text = some (u.duration n) := by
  have hletter (r : List Char) : rest.reverse ≠ 'm' :: r ∧ rest.reverse ≠ 's' :: r := by
    rw [← List.head?_reverse] at hrest
    exact ⟨fun h => (hrest 'm' (h ▸ rfl)).1 rfl, fun h => (hrest 's' (h ▸ rfl)).2 rfl⟩
  have hreverse : (trim text.toList).reverse = u.suffix.reverse ++ rest.reverse := by
    rw [htext, List.reverse_append]
  unfold ofText?
  dsimp only
  rw [hreverse]
  cases u with
  | millisecond =>
    show (readCount (trim rest.reverse.reverse)).map ofMillis = _
    rw [List.reverse_reverse, hn]
    rfl
  | second =>
    rw [show TimeUnit.second.suffix.reverse ++ rest.reverse = 's' :: rest.reverse from rfl]
    split
    next r h => exact absurd (List.cons.inj h).2 (hletter r).1
    next r _ h =>
      obtain rfl := (List.cons.inj h).2
      rw [List.reverse_reverse, hn]
      rfl
    next h => exact absurd (List.cons.inj h).1 (by decide)
    next _ h _ => exact absurd rfl (h rest.reverse)
  | minute =>
    have hsixty : n * 60 < UInt64.size := Nat.mul_comm 60 n ▸ hfits.2 rfl
    show ((readCount (trim rest.reverse.reverse)).filter (· * 60 < UInt64.size)).map (fun n => ofSeconds (n * 60)) = _
    rw [List.reverse_reverse, hn, Option.filter_some, if_pos (decide_eq_true hsixty), Option.map_some, ofSeconds_mul_sixty]
  | unmarked =>
    rw [show TimeUnit.unmarked.suffix.reverse ++ rest.reverse = rest.reverse from rfl]
    split
    next h => exact absurd h (hletter _).2
    next h => exact absurd h (hletter _).2
    next h => exact absurd h (hletter _).1
    next =>
      have htrim : trim text.toList = rest := htext.trans (List.append_nil rest)
      rw [← htrim, trim_trim] at hn
      rw [hn]
      rfl

theorem ne_letter_of_mem {sign digits gap : List Char} (hsign : sign = [] ∨ sign = ['+']) (hdigits : IsNumeral digits n)
    (hgap : ∀ c ∈ gap, c.toNat ∈ whiteSpace) : ∀ c ∈ sign ++ digits ++ gap, c ≠ 'm' ∧ c ≠ 's' := by
  rw [List.forall_mem_append, List.forall_mem_append]
  refine ⟨⟨?_, fun c hc => ?_⟩, fun c hc => ?_⟩
  · rcases hsign with rfl | rfl
    · exact nofun
    · exact List.forall_mem_singleton.2 (by decide)
  · have hdigit := hdigits.2.1 c hc
    constructor <;> (rintro rfl; revert hdigit; decide)
  · have hblank := hgap c hc
    constructor <;> (rintro rfl; revert hblank; decide)

/-- What trimming leaves of a text that writes a number ends in the unit, and has the number before that. -/
theorem exists_rest_of_writes (h : Writes text n u) (hn : n < UInt64.size) : ∃ rest, trim text.toList = rest ++ u.suffix ∧
    (∀ c ∈ rest.getLast?, c ≠ 'm' ∧ c ≠ 's') ∧ readCount (trim rest) = some n := by
  obtain ⟨before, sign, digits, gap, after, htext, hsign, hdigits, hbefore, hgap, hafter⟩ := h
  have hcount : readCount (sign ++ digits) = some n := readCount_eq_some_iff.2 ⟨hn, sign, digits, rfl, hsign, hdigits⟩
  have hbare := isBlank_of_readCount hcount
  have hletter := ne_letter_of_mem hsign hdigits hgap
  simp only [← isBlank_iff] at hbefore hgap hafter
  have hnumber : trim (sign ++ digits ++ gap) = sign ++ digits := by
    show trim ([] ++ (sign ++ digits) ++ gap) = _
    rw [trim_append (List.forall_mem_nil _) hgap, trim_eq_self hbare]
  rw [htext, trim_append hbefore hafter]
  by_cases hu : u.suffix = []
  · -- the blanks before the unit are at the end, and go with the others
    rw [hu, List.append_nil, hnumber]
    exact ⟨_, (List.append_nil _).symm, fun c hc => hletter c (List.mem_append_left gap (List.mem_of_getLast? hc)),
      (trim_eq_self hbare).symm ▸ hcount⟩
  · refine ⟨sign ++ digits ++ gap, trim_eq_self_of_ends (fun c hc => ?_) fun c hc => ?_,
      fun c hc => hletter c (List.mem_of_getLast? hc), hnumber.symm ▸ hcount⟩
    · have hne : sign ++ digits ≠ [] := List.append_ne_nil_of_right_ne_nil _ hdigits.1
      rw [List.append_assoc, List.head?_append, List.head?_eq_some_head hne, Option.some_or,
        ← List.head?_eq_some_head hne] at hc
      exact hbare c (List.mem_of_head? hc)
    · rw [List.getLast?_append, List.getLast?_eq_some_getLast hu, Option.some_or, ← List.getLast?_eq_some_getLast hu] at hc
      exact u.isBlank_of_mem_suffix c (List.mem_of_getLast? hc)

/-- A text is read as a duration exactly if it writes a number of a unit that fits, and then as so many units. -/
theorem reads_iff_writes : ofText? text = some d ↔ ∃ n u, Writes text n u ∧ u.Fits n ∧ d = u.duration n := by
  constructor
  · intro h
    obtain ⟨u, n, rest, htrim, hn, hfits, rfl⟩ := exists_of_ofText? h
    obtain ⟨-, sign, digits, hcount, hsign, hdigits⟩ := readCount_eq_some_iff.1 hn
    obtain ⟨before, after, hbefore, hafter, htext⟩ := exists_eq_trim text.toList
    obtain ⟨before', gap, hbefore', hgap, hrest⟩ := exists_eq_trim rest
    simp only [isBlank_iff] at hbefore hafter hbefore' hgap
    refine ⟨n, u, ⟨before ++ before', sign, digits, gap, after, ?_, hsign, hdigits, ?_, hgap, hafter⟩, hfits, rfl⟩
    · rw [htext, htrim, hrest, hcount]
      simp only [List.append_assoc]
    · exact List.forall_mem_append.2 ⟨hbefore, hbefore'⟩
  · rintro ⟨n, u, hwrites, hfits, rfl⟩
    obtain ⟨rest, htrim, hletter, hn⟩ := exists_rest_of_writes hwrites hfits.1
    exact ofText?_of_suffix htrim hletter hn hfits

end Duration

end ComputeGrid
