import ComputeGrid.Proofs.Mesh.Allotment
import ComputeGrid.Proofs.Mesh.Reservations
import Mathlib.Logic.Relation
import Mathlib.Order.Bounds.Basic

/-!
# Subnets are handed out lowest first

The search for a subnet goes forward only, while networks may be reserved before, at and after the octet that it has come to.
None is missed: at every point of a run the `Subnets.openings`, which the search has still before it, are the octets that no
network reserved in the range and none handed out has (`Subnets.Run.mem_openings_iff`).  The first of them is what is handed
out (`Subnets.allocate_fst`), so that it is the least such octet, and where there is none nothing is handed out any more
(`Subnets.Run.allocates_least`).
-/

namespace ComputeGrid

namespace Subnets

variable {range n k : Ipv4Network} {s s' later : Subnets} {reserved given : List Ipv4Network} {octet : Nat}

/-! ### What is left -/

theorem mem_openings : octet ∈ s.openings ↔ s.next ≤ octet ∧ octet < lastOctet ∧ octet.toUInt8 ∉ s.taken := by
  rw [openings, List.mem_filter, List.mem_range'_1, decide_eq_true_eq]
  constructor
  · rintro ⟨⟨hnext, hlast⟩, hfree⟩
    exact ⟨hnext, by omega, hfree⟩
  · rintro ⟨hnext, hlast, hfree⟩
    exact ⟨⟨hnext, by omega⟩, hfree⟩

theorem pairwise_openings (s : Subnets) : s.openings.Pairwise (· < ·) :=
  List.Pairwise.filter _ (List.pairwise_lt_range' _)

theorem eq_toUInt8_iff {x : UInt8} (h : octet < lastOctet) : x = octet.toUInt8 ↔ x.toNat = octet := by
  rw [← UInt8.toNat_inj, toNat_toUInt8 h]

theorem mem_openings_reserve : octet ∈ (s.reserve k).openings ↔
    octet ∈ s.openings ∧ (s.range.contains k = true → k.thirdOctet.toNat ≠ octet) := by
  rw [reserve]
  split
  next hk =>
    rw [mem_openings, mem_openings, Std.ExtTreeSet.mem_insert, Std.compare_eq_iff_eq, not_or]
    constructor
    · rintro ⟨hnext, hlast, hne, hfree⟩
      exact ⟨⟨hnext, hlast, hfree⟩, fun _ => mt (eq_toUInt8_iff hlast).2 hne⟩
    · rintro ⟨⟨hnext, hlast, hfree⟩, hne⟩
      exact ⟨hnext, hlast, mt (eq_toUInt8_iff hlast).1 (hne hk), hfree⟩
  next hk => exact (and_iff_left fun h => absurd h hk).symm

theorem mem_openings_allocate (h : s.allocate = (some n, s')) :
    octet ∈ s'.openings ↔ octet ∈ s.openings ∧ n.thirdOctet.toNat ≠ octet := by
  obtain ⟨first, hopenings, rfl, -⟩ := openings_of_allocate h
  have hfirst := mem_openings.1 (hopenings ▸ List.mem_cons_self)
  have hafter := (List.pairwise_cons.1 (hopenings ▸ s.pairwise_openings)).1
  rw [thirdOctet_subnet, toNat_toUInt8 hfirst.2.1, hopenings, List.mem_cons]
  constructor
  · intro hmem
    exact ⟨.inr hmem, Nat.ne_of_lt (hafter octet hmem)⟩
  · rintro ⟨heq | hmem, hne⟩
    · exact absurd heq.symm hne
    · exact hmem

theorem openings_after_none (h : s.allocate = (none, s')) : s'.openings = [] := by
  unfold allocate at h
  split at h
  · cases h
  · cases h
    refine List.eq_nil_iff_forall_not_mem.2 fun octet hmem => ?_
    obtain ⟨hnext, hlast, -⟩ := mem_openings.1 hmem
    exact absurd (Nat.le_trans (Nat.le_max_right _ _) hnext) (Nat.not_le_of_lt hlast)

theorem allocate_fst (s : Subnets) : s.allocate.1 = s.openings.head?.map s.subnet := by
  rcases h : s.allocate with ⟨_ | n, s'⟩
  · rw [openings_of_allocate_none h]
    rfl
  · obtain ⟨octet, hopenings, rfl, -⟩ := openings_of_allocate h
    rw [hopenings]
    rfl

theorem allocate_eq_none_iff : s.allocate.1 = none ↔ s.openings = [] := by
  rw [allocate_fst, Option.map_eq_none_iff, List.head?_eq_none_iff]

/-! ### Lowest first -/

/-- An octet that may be handed out, and that no network in the range which has been reserved has, nor any which has been
handed out. -/
structure Unclaimed (range : Ipv4Network) (reserved given : List Ipv4Network) (octet : Nat) : Prop where
  low : 2 ≤ octet
  high : octet ≤ 254
  reserved : ∀ k ∈ reserved, range.contains k = true → k.thirdOctet.toNat ≠ octet
  given : ∀ k ∈ given, k.thirdOctet.toNat ≠ octet

/-- The octets that are left are those that have not been claimed, also behind the ones that the search has passed. -/
theorem Run.mem_openings_iff (run : Run range reserved given s) :
    octet ∈ s.openings ↔ Unclaimed range reserved given octet := by
  induction run with
  | @start s hstart =>
    have hs : s = ⟨range.truncate, ∅, firstOctet⟩ := by
      unfold of? at hstart
      split at hstart
      · exact (Option.some.inj hstart).symm
      · cases hstart
    rw [hs, mem_openings]
    constructor
    · rintro ⟨hlow, hlast, -⟩
      exact ⟨hlow, Nat.le_of_lt_succ hlast, nofun, nofun⟩
    · rintro ⟨hlow, hhigh, -, -⟩
      exact ⟨hlow, Nat.lt_succ_of_le hhigh, Std.ExtTreeSet.not_mem_empty⟩
  | reserve before k ih =>
    rw [mem_openings_reserve, before.apart.ranged.contains, ih]
    constructor
    · rintro ⟨h, hk⟩
      exact ⟨h.low, h.high, List.forall_mem_cons.2 ⟨hk, h.reserved⟩, h.given⟩
    · rintro h
      obtain ⟨hk, hreserved⟩ := List.forall_mem_cons.1 h.reserved
      exact ⟨⟨h.low, h.high, hreserved, h.given⟩, hk⟩
  | allocate before hstep ih =>
    rw [mem_openings_allocate hstep, ih]
    constructor
    · rintro ⟨h, hn⟩
      exact ⟨h.low, h.high, h.reserved, List.forall_mem_cons.2 ⟨hn, h.given⟩⟩
    · rintro h
      obtain ⟨hn, hgiven⟩ := List.forall_mem_cons.1 h.given
      exact ⟨⟨h.low, h.high, h.reserved, hgiven⟩, hn⟩
  | exhausted before hstep ih =>
    rw [← ih, openings_of_allocate_none hstep, openings_after_none hstep]

/-- A network is reserved, or a subnet is asked for. -/
inductive Step : Subnets → Subnets → Prop where
  | reserve (s : Subnets) (n : Ipv4Network) : Step s (s.reserve n)
  | allocate (s : Subnets) : Step s s.allocate.2

/-- What is left comes to nothing for good. -/
theorem openings_of_steps (h : s.openings = []) (steps : Relation.ReflTransGen Step s later) : later.openings = [] := by
  induction steps with
  | refl => exact h
  | @tail s _ _ step ih =>
    cases step with
    | reserve n =>
      refine List.eq_nil_iff_forall_not_mem.2 fun octet hmem => ?_
      exact List.eq_nil_iff_forall_not_mem.1 ih octet (mem_openings_reserve.1 hmem).1
    | allocate =>
      rcases hstep : s.allocate with ⟨_ | n, s'⟩
      · exact openings_after_none hstep
      · obtain ⟨octet, hopenings, -, -⟩ := openings_of_allocate hstep
        rw [ih] at hopenings
        cases hopenings

theorem Over.subnet_eq_mk (h : Over range s) (octet : Nat) : s.subnet octet =
    ⟨⟨range.networkAddress.a, range.networkAddress.b, octet.toUInt8, 0⟩, ⟨24, by decide⟩⟩ := by
  rw [subnet, h.range_eq, Ipv4Network.networkAddress, Ipv4Network.first_truncate]
  rfl

/-- The first octet that is left is the least. -/
theorem isLeast_of_openings {first : Nat} {rest : List Nat} (h : s.openings = first :: rest) :
    IsLeast {octet | octet ∈ s.openings} first := by
  have hafter := (List.pairwise_cons.1 (h ▸ s.pairwise_openings)).1
  refine ⟨h ▸ List.mem_cons_self, fun octet hmem => ?_⟩
  rcases List.mem_cons.1 (h ▸ hmem) with heq | hmem
  · exact Nat.le_of_eq heq.symm
  · exact Nat.le_of_lt (hafter octet hmem)

/-- At every point of a run of reservations and of subnets that were asked for, the next subnet is the `/24` with the least
octet that has not been claimed.  None is handed out exactly if there is no such octet, and then none is ever after. -/
theorem Run.allocates_least (run : Run range reserved given s) :
    (∀ n, s.allocate.1 = some n ↔ ∃ octet, IsLeast {octet | Unclaimed range reserved given octet} octet ∧
      n = ⟨⟨range.networkAddress.a, range.networkAddress.b, octet.toUInt8, 0⟩, ⟨24, by decide⟩⟩) ∧
    (s.allocate.1 = none ↔ ∀ octet, ¬ Unclaimed range reserved given octet) ∧
    (s.allocate.1 = none → ∀ later, Relation.ReflTransGen Step s.allocate.2 later → later.allocate.1 = none) := by
  simp only [← run.mem_openings_iff, ← run.apart.ranged.subnet_eq_mk, allocate_eq_none_iff]
  refine ⟨fun n => ?_, List.eq_nil_iff_forall_not_mem, fun hnone later steps => ?_⟩
  · rw [allocate_fst]
    cases hopenings : s.openings with
    | nil =>
      refine iff_of_false nofun ?_
      rintro ⟨octet, hleast, -⟩
      exact List.not_mem_nil hleast.1
    | cons first rest =>
      have hfirst := isLeast_of_openings hopenings
      rw [hopenings] at hfirst
      rw [List.head?_cons, Option.map_some, Option.some.injEq]
      refine ⟨fun h => ⟨first, hfirst, h.symm⟩, ?_⟩
      rintro ⟨octet, hleast, rfl⟩
      rw [hleast.unique hfirst]
  · exact openings_of_steps hnone (.head (.allocate s) steps)

/-- Octet 3 is reserved, octet 2 handed out, and then an address with octet 4 reserved: octet 5 is next. -/
theorem allocates_least_of_sample : ∃ s,
    Run sampleRange [.single ⟨10, 20, 4, 7⟩, sampleRange.subnetAt 3] [sampleRange.subnetAt 2] s ∧
      s.allocate.1 = some ⟨⟨10, 20, 5, 0⟩, ⟨24, by decide⟩⟩ := by
  have hstart : Run sampleRange [] [] ⟨sampleRange.truncate, ∅, firstOctet⟩ := .start rfl
  have hsecond : (Subnets.reserve ⟨sampleRange.truncate, ∅, firstOctet⟩ (sampleRange.subnetAt 3)).allocate.1 =
      some (sampleRange.subnetAt 2) := by decide +kernel
  rcases hstep : (Subnets.reserve ⟨sampleRange.truncate, ∅, firstOctet⟩ (sampleRange.subnetAt 3)).allocate with ⟨handed, s⟩
  rw [hstep] at hsecond
  obtain rfl : handed = _ := hsecond
  have hrun := ((hstart.reserve (sampleRange.subnetAt 3)).allocate hstep).reserve (.single ⟨10, 20, 4, 7⟩)
  refine ⟨_, hrun, (hrun.allocates_least.1 _).2 ⟨5, ⟨?_, fun octet h => ?_⟩, by decide +kernel⟩⟩
  · exact ⟨by decide, by decide, by decide +kernel, by decide +kernel⟩
  · have hsecond : 2 ≠ octet := h.given _ List.mem_cons_self
    have hthird : 3 ≠ octet := h.reserved _ (List.mem_cons_of_mem _ List.mem_cons_self) (by decide +kernel)
    have hfourth : 4 ≠ octet := h.reserved _ List.mem_cons_self (by decide +kernel)
    have hlow := h.low
    omega

end Subnets

end ComputeGrid
