import ComputeGrid.Mesh.Ports
import Mathlib.Order.Bounds.Basic

/-!
# Ports are picked whatever is drawn

A port is `Vacant` if it is one from `low` up to below `high` and is neither in use nor chosen.  The first vacant port that is
drawn is picked, and if the draws miss them all it is the least vacant port (`pick?_eq_some_iff`).  So the draws decide which
port is picked, but not whether one is: there is a port exactly if one is vacant (`picks_iff_vacant`), and it is the same for
all draws exactly if no other is vacant (`forall_pick?_eq_some_iff`).

Both searches go through a sequence of ports and stop at the first that is free (`search_eq_some_iff`, `search_eq_none_iff`).
The one sequence is what is drawn, `draw`; it may be any sequence of ports from `low` up to below `high` (`exists_drawn`).  The
other one is `nth`, which comes to each of these ports, in order (`toNat_nth`, `nth_sub`).
-/

namespace ComputeGrid.Ports

variable {drawn : Nat → Nat} {used chosen : Std.ExtTreeSet UInt16} {low high port : UInt16} {turn offset : Nat}

/-! ### Ports in order and by draw -/

/-- The port at an offset from `low`. -/
def nth (low : UInt16) (offset : Nat) : UInt16 := (low.toNat + offset).toUInt16

/-- The port that is drawn at a turn. -/
def draw (drawn : Nat → Nat) (low high : UInt16) (turn : Nat) : UInt16 :=
  nth low (drawn turn % (high.toNat - low.toNat))

theorem toNat_nth (h : offset < high.toNat - low.toNat) : (nth low offset).toNat = low.toNat + offset := by
  have hhigh := high.toNat_lt
  rw [nth, Nat.toUInt16_eq, UInt16.toNat_ofNat']
  omega

theorem nth_bounds (h : offset < high.toNat - low.toNat) : low ≤ nth low offset ∧ nth low offset < high := by
  rw [UInt16.le_iff_toNat_le, UInt16.lt_iff_toNat_lt, toNat_nth h]
  omega

theorem nth_sub (h : low ≤ port) : nth low (port.toNat - low.toNat) = port := by
  rw [UInt16.le_iff_toNat_le] at h
  rw [nth, Nat.add_sub_cancel' h, Nat.toUInt16_eq, UInt16.ofNat_toNat]

theorem sub_lt (hlow : low ≤ port) (hhigh : port < high) : port.toNat - low.toNat < high.toNat - low.toNat := by
  rw [UInt16.le_iff_toNat_le] at hlow
  rw [UInt16.lt_iff_toNat_lt] at hhigh
  omega

theorem draw_bounds (h : low < high) : low ≤ draw drawn low high turn ∧ draw drawn low high turn < high := by
  rw [UInt16.lt_iff_toNat_lt] at h
  apply nth_bounds
  exact Nat.mod_lt _ (by omega)

/-- Whatever ports from `low` up to below `high` come one after another, they may be what is drawn. -/
theorem exists_drawn (ports : Nat → UInt16) (h : ∀ turn, low ≤ ports turn ∧ ports turn < high) :
    ∃ drawn, draw drawn low high = ports := by
  refine ⟨fun turn => (ports turn).toNat - low.toNat, funext fun turn => ?_⟩
  obtain ⟨hlow, hhigh⟩ := h turn
  rw [draw, Nat.mod_eq_of_lt (sub_lt hlow hhigh), nth_sub hlow]

/-! ### Vacant ports -/

/-- A port that may be picked: one from `low` up to below `high` that is neither in use nor chosen. -/
structure Vacant (used chosen : Std.ExtTreeSet UInt16) (low high port : UInt16) : Prop where
  low_le : low ≤ port
  lt_high : port < high
  unused : port ∉ used
  unchosen : port ∉ chosen

theorem Vacant.low_lt_high (h : Vacant used chosen low high port) : low < high := by
  have hlow := UInt16.le_iff_toNat_le.1 h.low_le
  have hhigh := UInt16.lt_iff_toNat_lt.1 h.lt_high
  rw [UInt16.lt_iff_toNat_lt]
  omega

theorem isFree_iff : isFree used chosen port = true ↔ port ∉ used ∧ port ∉ chosen := by
  rw [isFree, Bool.and_eq_true, Bool.not_eq_true', Bool.not_eq_true', ← Bool.not_eq_true, ← Bool.not_eq_true,
    Std.ExtTreeSet.contains_iff_mem, Std.ExtTreeSet.contains_iff_mem]

theorem isFree_iff_vacant (h : low ≤ port ∧ port < high) :
    isFree used chosen port = true ↔ Vacant used chosen low high port := by
  rw [isFree_iff]
  constructor
  · rintro ⟨hused, hchosen⟩
    exact ⟨h.1, h.2, hused, hchosen⟩
  · intro hport
    exact ⟨hport.unused, hport.unchosen⟩

/-! ### The two searches -/

section Search

variable {f : Nat → UInt16} {n : Nat}

/-- A search through ports from `low` up to below `high` ends at the first vacant one. -/
theorem search_eq_some_iff (hf : ∀ i < n, low ≤ f i ∧ f i < high) :
    ((List.range n).map f).find? (isFree used chosen) = some port ↔
      ∃ i < n, f i = port ∧ Vacant used chosen low high port ∧ ∀ j < i, ¬ Vacant used chosen low high (f j) := by
  rw [List.find?_map, Option.map_eq_some_iff]
  refine exists_congr fun i => ?_
  rw [List.find?_range_eq_some, List.mem_range]
  constructor
  · rintro ⟨⟨hfree, hi, hearlier⟩, rfl⟩
    refine ⟨hi, rfl, (isFree_iff_vacant (hf i hi)).1 hfree, fun j hj hvacant => ?_⟩
    have hnot := hearlier j hj
    rw [Function.comp_apply, (isFree_iff_vacant (hf j (by omega))).2 hvacant] at hnot
    cases hnot
  · rintro ⟨hi, rfl, hvacant, hearlier⟩
    refine ⟨⟨(isFree_iff_vacant (hf i hi)).2 hvacant, hi, fun j hj => ?_⟩, rfl⟩
    rw [Function.comp_apply, Bool.not_eq_true', ← Bool.not_eq_true, isFree_iff_vacant (hf j (by omega))]
    exact hearlier j hj

theorem search_eq_none_iff (hf : ∀ i < n, low ≤ f i ∧ f i < high) :
    ((List.range n).map f).find? (isFree used chosen) = none ↔ ∀ i < n, ¬ Vacant used chosen low high (f i) := by
  rw [List.find?_map, Option.map_eq_none_iff, List.find?_range_eq_none]
  refine forall₂_congr fun i hi => ?_
  rw [Function.comp_apply, Bool.not_eq_true', ← Bool.not_eq_true, isFree_iff_vacant (hf i hi)]

end Search

theorem pick?_eq (h : low < high) : pick? drawn used chosen low high =
    (((List.range draws).map (draw drawn low high)).find? (isFree used chosen)).or
      (((List.range (high.toNat - low.toNat)).map (nth low)).find? (isFree used chosen)) := by
  have hwidth : high.toNat - low.toNat ≠ 0 := by
    rw [UInt16.lt_iff_toNat_lt] at h
    omega
  unfold pick?
  rw [if_neg hwidth, Option.orElse_eq_orElse, Option.orElse_eq_or]
  rfl

theorem pick?_eq_none_of_le (h : high ≤ low) : pick? drawn used chosen low high = none := by
  have hwidth : high.toNat - low.toNat = 0 := by
    rw [UInt16.le_iff_toNat_le] at h
    omega
  unfold pick?
  rw [if_pos hwidth]

/-! ### What is picked -/

/-- A port that is found: the first vacant one that is drawn, or after all draws have missed, the least vacant one. -/
inductive Found (drawn : Nat → Nat) (used chosen : Std.ExtTreeSet UInt16) (low high port : UInt16) : Prop
  | atTurn {turn : Nat} (hturn : turn < draws) (hdraw : draw drawn low high turn = port)
      (hvacant : Vacant used chosen low high port)
      (hfirst : ∀ earlier < turn, ¬ Vacant used chosen low high (draw drawn low high earlier))
  | inOrder (hmissed : ∀ turn < draws, ¬ Vacant used chosen low high (draw drawn low high turn))
      (hleast : IsLeast {port | Vacant used chosen low high port} port)

theorem Found.vacant (h : Found drawn used chosen low high port) : Vacant used chosen low high port := by
  cases h with
  | atTurn _ _ hvacant _ => exact hvacant
  | inOrder _ hleast => exact hleast.1

/-- The search in order ends at the least vacant port. -/
theorem isLeast_iff_search : IsLeast {port | Vacant used chosen low high port} port ↔
    ((List.range (high.toNat - low.toNat)).map (nth low)).find? (isFree used chosen) = some port := by
  rw [search_eq_some_iff fun _ => nth_bounds]
  constructor
  · rintro ⟨hvacant, hleast⟩
    have hoffset := sub_lt hvacant.low_le hvacant.lt_high
    refine ⟨port.toNat - low.toNat, hoffset, nth_sub hvacant.low_le, hvacant, fun offset hbefore hearlier => ?_⟩
    have hle := UInt16.le_iff_toNat_le.1 (hleast hearlier)
    rw [toNat_nth (by omega)] at hle
    omega
  · rintro ⟨offset, hoffset, rfl, hvacant, hearlier⟩
    refine ⟨hvacant, fun other hother => ?_⟩
    rw [UInt16.le_iff_toNat_le, toNat_nth hoffset]
    by_contra hlt
    have hlow := UInt16.le_iff_toNat_le.1 hother.low_le
    refine hearlier (other.toNat - low.toNat) (by omega) ?_
    rw [nth_sub hother.low_le]
    exact hother

/-- The port that is picked is the one that is found. -/
theorem pick?_eq_some_iff : pick? drawn used chosen low high = some port ↔ Found drawn used chosen low high port := by
  rcases UInt16.lt_or_le low high with h | h
  · have hdraw : ∀ turn < draws, low ≤ draw drawn low high turn ∧ draw drawn low high turn < high :=
      fun _ _ => draw_bounds h
    rw [pick?_eq h, Option.or_eq_some_iff, search_eq_some_iff hdraw, search_eq_none_iff hdraw, ← isLeast_iff_search]
    constructor
    · rintro (⟨turn, hturn, hport, hvacant, hfirst⟩ | ⟨hmissed, hleast⟩)
      · exact .atTurn hturn hport hvacant hfirst
      · exact .inOrder hmissed hleast
    · rintro (⟨hturn, hport, hvacant, hfirst⟩ | ⟨hmissed, hleast⟩)
      · exact .inl ⟨_, hturn, hport, hvacant, hfirst⟩
      · exact .inr ⟨hmissed, hleast⟩
  · rw [pick?_eq_none_of_le h]
    refine iff_of_false nofun fun hfound => ?_
    exact UInt16.not_lt.2 h hfound.vacant.low_lt_high

theorem vacant_of_pick? (h : pick? drawn used chosen low high = some port) : Vacant used chosen low high port :=
  (pick?_eq_some_iff.1 h).vacant

/-- No port is picked exactly if none is vacant. -/
theorem pick?_eq_none_iff :
    pick? drawn used chosen low high = none ↔ ∀ port, ¬ Vacant used chosen low high port := by
  constructor
  · intro h port hport
    rw [pick?_eq hport.low_lt_high, Option.or_eq_none_iff, search_eq_none_iff fun _ => nth_bounds] at h
    -- the search in order comes to this port
    apply h.2 (port.toNat - low.toNat) (sub_lt hport.low_le hport.lt_high)
    rw [nth_sub hport.low_le]
    exact hport
  · intro h
    rw [Option.eq_none_iff_forall_ne_some]
    intro port hport
    exact h port (vacant_of_pick? hport)

/-- A vacant port is picked if it is what is drawn first. -/
theorem exists_pick?_eq_some (h : Vacant used chosen low high port) :
    ∃ drawn, pick? drawn used chosen low high = some port := by
  obtain ⟨drawn, hdrawn⟩ := exists_drawn (fun _ => port) fun _ => ⟨h.low_le, h.lt_high⟩
  have hfirst : draw drawn low high 0 = port := by rw [hdrawn]
  have hturn : 0 < draws := by decide
  refine ⟨drawn, pick?_eq_some_iff.2 (.atTurn hturn hfirst h ?_)⟩
  intro earlier hearlier
  exact absurd hearlier (Nat.not_lt_zero _)

/-- Which port is picked does not depend on the draws exactly if it is the only vacant one. -/
theorem forall_pick?_eq_some_iff : (∀ drawn, pick? drawn used chosen low high = some port) ↔
    ∀ other, Vacant used chosen low high other ↔ other = port := by
  constructor
  · intro h other
    constructor
    · intro hother
      obtain ⟨drawn, hdrawn⟩ := exists_pick?_eq_some hother
      rw [h drawn] at hdrawn
      exact (Option.some.inj hdrawn).symm
    · rintro rfl
      exact vacant_of_pick? (h id)
  · intro h drawn
    cases hpick : pick? drawn used chosen low high with
    | none => exact absurd ((h port).2 rfl) (pick?_eq_none_iff.1 hpick port)
    | some other => rw [(h other).1 (vacant_of_pick? hpick)]

/-- Whatever is drawn, and that is any sequence of ports from `low` up to below `high` (`exists_drawn`), a vacant port is
picked if there is one, and none is picked exactly if there is none; so none is if `high` is not above `low`.  The ports that
are picked for some draws are the vacant ones. -/
theorem picks_iff_vacant (used chosen : Std.ExtTreeSet UInt16) (low high : UInt16) :
    (∀ drawn,
      ((∃ port, pick? drawn used chosen low high = some port ∧ Vacant used chosen low high port) ↔
        ∃ port, Vacant used chosen low high port) ∧
      (pick? drawn used chosen low high = none ↔ ∀ port, ¬ Vacant used chosen low high port) ∧
      (high ≤ low → pick? drawn used chosen low high = none)) ∧
    ∀ port, (∃ drawn, pick? drawn used chosen low high = some port) ↔ Vacant used chosen low high port := by
  refine ⟨fun drawn => ⟨?picks, pick?_eq_none_iff, pick?_eq_none_of_le⟩, fun port => ?reaches⟩
  case picks =>
    constructor
    · rintro ⟨port, -, hport⟩
      exact ⟨port, hport⟩
    · rintro ⟨port, hport⟩
      cases hpick : pick? drawn used chosen low high with
      | none => exact absurd hport (pick?_eq_none_iff.1 hpick port)
      | some other => exact ⟨other, rfl, vacant_of_pick? hpick⟩
  case reaches =>
    constructor
    · rintro ⟨drawn, hpick⟩
      exact vacant_of_pick? hpick
    · exact exists_pick?_eq_some

/-- Two ports that are in use, side by side. -/
def crowdedUsed : Std.ExtTreeSet UInt16 := .ofList [(5000 : UInt16), 5001]

/-- The port after them, which is chosen. -/
def crowdedChosen : Std.ExtTreeSet UInt16 := .ofList [(5002 : UInt16)]

theorem vacant_crowded_iff : Vacant crowdedUsed crowdedChosen 5000 5004 port ↔ port = 5003 := by
  constructor
  · intro h
    have hlow := UInt16.le_iff_toNat_le.1 h.low_le
    have hhigh := UInt16.lt_iff_toNat_lt.1 h.lt_high
    have hused := h.unused
    have hchosen := h.unchosen
    simp only [crowdedUsed, crowdedChosen, Std.ExtTreeSet.mem_ofList, List.contains_iff_mem, List.mem_cons,
      List.not_mem_nil, or_false, not_or, ← UInt16.toNat_inj, UInt16.reduceToNat] at hlow hhigh hused hchosen ⊢
    omega
  · rintro rfl
    exact ⟨by decide, by decide, by decide +kernel, by decide +kernel⟩

/-- Draws that come to the same port in use again and again do no harm, and without the one vacant port there is none. -/
theorem picks_last_of_unlucky :
    (∀ turn, draw (fun _ => 0) 5000 5004 turn ∈ crowdedUsed) ∧
    pick? (fun _ => 0) crowdedUsed crowdedChosen 5000 5004 = some 5003 ∧
    pick? (fun _ => 0) crowdedUsed crowdedChosen 5000 5003 = none ∧
    pick? (fun _ => 0) crowdedUsed crowdedChosen 5004 5000 = none := by
  obtain ⟨hfull, -⟩ := picks_iff_vacant crowdedUsed crowdedChosen 5000 5004
  obtain ⟨hshort, -⟩ := picks_iff_vacant crowdedUsed crowdedChosen 5000 5003
  obtain ⟨hempty, -⟩ := picks_iff_vacant crowdedUsed crowdedChosen 5004 5000
  refine ⟨fun turn => ?_, ?_, ?_, ?_⟩
  · have hfirst : draw (fun _ => 0) 5000 5004 turn = 5000 := rfl
    rw [hfirst]
    decide +kernel
  · obtain ⟨port, hpick, hvacant⟩ := (hfull fun _ => 0).1.2 ⟨5003, vacant_crowded_iff.2 rfl⟩
    rw [hpick, vacant_crowded_iff.1 hvacant]
  · refine (hshort fun _ => 0).2.1.2 fun port hport => ?_
    have hlast : port < 5004 := UInt16.lt_trans hport.lt_high (by decide)
    have heq := vacant_crowded_iff.1 ⟨hport.low_le, hlast, hport.unused, hport.unchosen⟩
    rw [heq] at hport
    exact absurd hport.lt_high (by decide)
  · exact (hempty fun _ => 0).2.2 (by decide)

end ComputeGrid.Ports
