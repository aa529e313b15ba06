import ComputeGrid.Identifier

/-!
# Look-ups in maps

A change of a map at one key is not seen at another (`getElem?_insert_of_ne`, `getElem?_erase_of_ne`,
`getElem?_modify_of_ne`), and what is entered for a list of keys is found at these (`getElem?_foldl_enter`).  Values that
are all different stay so when one goes or a new one comes (`OneToOne.erase`, `OneToOne.insert`), and the list of a map's
entries has each of its keys once (`nodup_keys_toList`, `nodup_keys`) and makes up the map (`ofList_toList`), also where an
entry may fail to be made (`foldlM_toList`).  The keys are listed in order as the elements of a set are (`pairwise_keys`,
`pairwise_toList`, `keys_eq_toList`).
-/

namespace ComputeGrid

open Std (ExtTreeMap)

variable {κ α : Type} [Ord κ] [Std.TransOrd κ] [Std.LawfulEqOrd κ] {m : ExtTreeMap κ α} {k a : κ}

theorem getElem?_insert_of_ne {v : α} (h : a ≠ k) : (m.insert k v)[a]? = m[a]? := by
  rw [ExtTreeMap.getElem?_insert, if_neg]
  rw [Std.compare_eq_iff_eq]
  exact h.symm

theorem getElem?_erase_of_ne (h : a ≠ k) : (m.erase k)[a]? = m[a]? := by
  rw [ExtTreeMap.getElem?_erase, if_neg]
  rw [Std.compare_eq_iff_eq]
  exact h.symm

theorem getElem?_modify_of_ne {f : α → α} (h : a ≠ k) : (m.modify k f)[a]? = m[a]? := by
  rw [ExtTreeMap.getElem?_modify, if_neg]
  rw [Std.compare_eq_iff_eq]
  exact h.symm

/-- A fold that enters for each item what is known of its key. -/
theorem getElem?_foldl_enter {ι : Type} [DecidableEq κ] (key : ι → κ) (value? : κ → Option α)
    {f : ExtTreeMap κ α → ι → ExtTreeMap κ α} (hf : ∀ m x, f m x = (value? (key x)).elim m (m.insert (key x)))
    (xs : List ι) (m : ExtTreeMap κ α) (k : κ) :
    (xs.foldl f m)[k]? = (if k ∈ xs.map key then value? k else none).or m[k]? := by
  induction xs generalizing m with
  | nil => rfl
  | cons x rest ih =>
    rw [List.foldl_cons, ih, hf, List.map_cons]
    by_cases hk : k = key x
    · subst hk
      rw [if_pos List.mem_cons_self]
      rcases value? (key x) with _ | v
      · simp
      · by_cases hrest : key x ∈ rest.map key <;> simp [hrest]
    · have hsame : ((value? (key x)).elim m (m.insert (key x)))[k]? = m[k]? := by
        rcases value? (key x) with _ | v
        · rfl
        · exact getElem?_insert_of_ne hk
      rw [hsame]
      simp [hk]

/-- The entries of a map have different keys. -/
theorem nodup_keys_toList : (m.toList.map Prod.fst).Nodup := by
  rw [List.Nodup, List.pairwise_map]
  refine ExtTreeMap.distinct_keys_toList.imp fun h heq => h ?_
  rw [Std.compare_eq_iff_eq]
  exact heq

/-- A fold that changes the entry of each key of another map, by what that map has for the key. -/
theorem getElem?_foldl_adjust {β : Type} (adjust : Option α → β → α) {f : ExtTreeMap κ α → κ × β → ExtTreeMap κ α}
    (hf : ∀ m e, f m e = m.insert e.1 (adjust m[e.1]? e.2)) (u : ExtTreeMap κ β) (m : ExtTreeMap κ α) (k : κ) :
    (u.toList.foldl f m)[k]? = (u[k]?.map (adjust m[k]?)).or m[k]? := by
  -- of a list with different keys, what it has for the key is known
  have hlist : ∀ l : List (κ × β), (l.map Prod.fst).Nodup → ∀ x? : Option β, (∀ x, (k, x) ∈ l ↔ x? = some x) → ∀ m,
      (l.foldl f m)[k]? = (x?.map (adjust m[k]?)).or m[k]? := by
    intro l hnodup
    induction l with
    | nil =>
      intro x? hx m
      obtain rfl : x? = none := Option.eq_none_iff_forall_ne_some.2 fun x h => by cases (hx x).2 h
      rfl
    | cons e l ih =>
      intro x? hx m
      obtain ⟨hfresh, hnodup⟩ := List.nodup_cons.1 hnodup
      rw [List.foldl_cons, hf]
      by_cases hk : e.1 = k
      · subst hk
        obtain rfl : x? = some e.2 := (hx e.2).1 List.mem_cons_self
        have hgone : ∀ x, (e.1, x) ∈ l ↔ none = some x :=
          fun x => ⟨fun h => absurd (List.mem_map_of_mem h) hfresh, nofun⟩
        rw [ih hnodup none hgone, ExtTreeMap.getElem?_insert_self]
        rfl
      · have hrest : ∀ x, (k, x) ∈ l ↔ x? = some x := fun x => by
          rw [← hx x, List.mem_cons, or_iff_right]
          exact fun h => hk (congrArg Prod.fst h).symm
        rw [ih hnodup x? hrest, getElem?_insert_of_ne (Ne.symm hk)]
  exact hlist u.toList nodup_keys_toList u[k]? (fun _ => ExtTreeMap.mem_toList_iff_getElem?_eq_some) m

/-- An entry of a changed map is the new one or an old one at another key. -/
theorem getElem?_insert_eq_some {v x : α} (h : (m.insert k v)[a]? = some x) :
    a = k ∧ x = v ∨ a ≠ k ∧ m[a]? = some x := by
  by_cases hk : a = k
  · subst hk
    rw [ExtTreeMap.getElem?_insert_self] at h
    exact .inl ⟨rfl, (Option.some.inj h).symm⟩
  · rw [getElem?_insert_of_ne hk] at h
    exact .inr ⟨hk, h⟩

theorem getElem?_erase_eq_some {x : α} (h : (m.erase k)[a]? = some x) : a ≠ k ∧ m[a]? = some x := by
  by_cases hk : a = k
  · subst hk
    rw [ExtTreeMap.getElem?_erase_self] at h
    cases h
  · rw [getElem?_erase_of_ne hk] at h
    exact ⟨hk, h⟩

omit [Std.LawfulEqOrd κ] in
theorem mem_iff_exists_getElem? : k ∈ m ↔ ∃ v, m[k]? = some v := by
  rw [ExtTreeMap.mem_iff_isSome_getElem?, Option.isSome_iff_exists]

omit [Std.LawfulEqOrd κ] in
theorem getElem?_eq_none_iff : m[k]? = none ↔ k ∉ m := by
  rw [mem_iff_exists_getElem?, Option.eq_none_iff_forall_ne_some, not_exists]

/-- Different keys have different values. -/
def OneToOne (m : ExtTreeMap κ α) : Prop := ∀ (a b : κ) (v : α), m[a]? = some v → m[b]? = some v → a = b

theorem OneToOne.erase (h : OneToOne m) (k : κ) : OneToOne (m.erase k) := fun a b v ha hb =>
  h a b v (getElem?_erase_eq_some ha).2 (getElem?_erase_eq_some hb).2

theorem OneToOne.insert {v : α} (h : OneToOne m) (hv : ∀ a : κ, m[a]? ≠ some v) : OneToOne (m.insert k v) := by
  intro a b x ha hb
  rcases getElem?_insert_eq_some ha with ⟨rfl, rfl⟩ | ⟨_, ha'⟩
  · rcases getElem?_insert_eq_some hb with ⟨rfl, _⟩ | ⟨_, hb'⟩
    · rfl
    · exact absurd hb' (hv b)
  · rcases getElem?_insert_eq_some hb with ⟨_, rfl⟩ | ⟨_, hb'⟩
    · exact absurd ha' (hv a)
    · exact h a b x ha' hb'

/-- The map of one entry. -/
def single (k : κ) (v : α) : ExtTreeMap κ α := (∅ : ExtTreeMap κ α).insert k v

theorem getElem?_single_eq_some {v x : α} (h : (single k v)[a]? = some x) : a = k ∧ x = v := by
  rcases getElem?_insert_eq_some h with h | ⟨_, h⟩
  · exact h
  · rw [ExtTreeMap.getElem?_empty] at h
    cases h

theorem oneToOne_single (k : κ) (v : α) : OneToOne (single k v) := fun a b x ha hb => by
  rw [(getElem?_single_eq_some ha).1, (getElem?_single_eq_some hb).1]

/-- A value is kept by a changed map if it is at another key. -/
theorem exists_getElem?_insert_iff {v x : α} (hk : m[k]? = none) :
    (∃ a : κ, (m.insert k v)[a]? = some x) ↔ x = v ∨ ∃ a : κ, m[a]? = some x := by
  constructor
  · rintro ⟨a, ha⟩
    rcases getElem?_insert_eq_some ha with ⟨_, hx⟩ | ⟨_, ha⟩
    · exact .inl hx
    · exact .inr ⟨a, ha⟩
  · rintro (rfl | ⟨a, ha⟩)
    · exact ⟨k, ExtTreeMap.getElem?_insert_self⟩
    · refine ⟨a, ?_⟩
      rw [getElem?_insert_of_ne, ha]
      rintro rfl
      rw [hk] at ha
      cases ha

/-- The values that are left are those of the other keys. -/
theorem exists_getElem?_erase_iff {v x : α} (h : OneToOne m) (hk : m[k]? = some v) :
    (∃ a : κ, (m.erase k)[a]? = some x) ↔ x ≠ v ∧ ∃ a : κ, m[a]? = some x := by
  constructor
  · rintro ⟨a, ha⟩
    obtain ⟨hne, ha⟩ := getElem?_erase_eq_some ha
    refine ⟨?_, a, ha⟩
    rintro rfl
    exact hne (h a k x ha hk)
  · rintro ⟨hne, a, ha⟩
    refine ⟨a, ?_⟩
    rw [getElem?_erase_of_ne, ha]
    rintro rfl
    rw [hk] at ha
    exact hne (Option.some.inj ha).symm

theorem nodup_keys (m : ExtTreeMap κ α) : m.keys.Nodup := by
  rw [← ExtTreeMap.map_fst_toList_eq_keys]
  exact nodup_keys_toList

section Ordered

variable [LT κ] [LE κ] [Std.LawfulOrderOrd κ] [Std.LawfulOrderLT κ]

omit [Std.LawfulEqOrd κ] in
theorem pairwise_keys (m : ExtTreeMap κ α) : m.keys.Pairwise (· < ·) :=
  ExtTreeMap.ordered_keys.imp fun h => Std.compare_eq_lt.1 h

omit [Std.LawfulEqOrd κ] in
theorem pairwise_toList (s : Std.ExtTreeSet κ) : s.toList.Pairwise (· < ·) :=
  Std.ExtTreeSet.ordered_toList.imp fun h => Std.compare_eq_lt.1 h

end Ordered

/-- The keys of a map are listed as a set lists the same elements. -/
theorem keys_eq_toList {s : Std.ExtTreeSet κ} (h : ∀ k, k ∈ m ↔ k ∈ s) : m.keys = s.toList := by
  have hnodup : s.toList.Nodup := by
    refine Std.ExtTreeSet.ordered_toList.imp fun hlt heq => ?_
    rw [Std.compare_eq_iff_eq.2 heq] at hlt
    cases hlt
  have hperm : m.keys.Perm s.toList := by
    rw [List.perm_ext_iff_of_nodup (nodup_keys m) hnodup]
    intro k
    rw [ExtTreeMap.mem_keys, Std.ExtTreeSet.mem_toList, h]
  refine hperm.eq_of_pairwise ?_ ExtTreeMap.ordered_keys Std.ExtTreeSet.ordered_toList
  -- no two keys are each before the other
  intro a b _ _ hab hba
  rw [Std.OrientedCmp.gt_of_lt hba] at hab
  cases hab

omit [Std.LawfulEqOrd κ] in
/-- The values of a map are those of its entries; the library says so only of the trees that maps are made of. -/
theorem map_snd_toList (m : ExtTreeMap κ α) : m.toList.map Prod.snd = m.values := by
  obtain ⟨t⟩ := m
  induction t using Std.ExtDTreeMap.inductionOn with
  | _ t =>
    show (Std.DTreeMap.Internal.Impl.Const.toList t.inner).map Prod.snd = t.inner.values
    rw [Std.DTreeMap.Internal.Impl.Const.toList_eq_toListModel_map, Std.DTreeMap.Internal.Impl.values_eq_map_snd,
      List.map_map]
    rfl

/-- A map is made of its entries. -/
theorem ofList_toList [BEq κ] [LawfulBEq κ] (m : ExtTreeMap κ α) : ExtTreeMap.ofList m.toList = m := by
  ext k v
  cases hk : m[k]? with
  | some x =>
    have hmem : (k, x) ∈ m.toList := ExtTreeMap.mem_toList_iff_getElem?_eq_some.2 hk
    rw [ExtTreeMap.getElem?_ofList_of_mem Std.ReflCmp.compare_self ExtTreeMap.distinct_keys_toList hmem]
  | none =>
    have hmem : k ∉ m.toList.map Prod.fst := by
      rw [ExtTreeMap.map_fst_toList_eq_keys, ExtTreeMap.mem_keys]
      exact getElem?_eq_none_iff.1 hk
    rw [ExtTreeMap.getElem?_ofList_of_contains_eq_false]
    rw [List.contains_eq_mem, decide_eq_false_iff_not]
    exact hmem

/-- A map is made of its entries one after another, if none of them fails. -/
theorem foldlM_toList [BEq κ] [LawfulBEq κ] {f : Type → Type} [Monad f] [LawfulMonad f]
    {step : ExtTreeMap κ α → κ × α → f (ExtTreeMap κ α)}
    (h : ∀ made k v, m[k]? = some v → step made (k, v) = pure (made.insert k v)) : m.toList.foldlM step ∅ = pure m := by
  have hlist : ∀ l : List (κ × α), (∀ e ∈ l, m[e.1]? = some e.2) → ∀ made,
      l.foldlM step made = pure (l.foldl (fun made e => made.insert e.1 e.2) made) := by
    intro l hl
    induction l with
    | nil => exact fun made => rfl
    | cons e l ih =>
      intro made
      obtain ⟨he, hrest⟩ := List.forall_mem_cons.1 hl
      rw [List.foldlM_cons, h made e.1 e.2 he, pure_bind, ih hrest, List.foldl_cons]
  rw [hlist m.toList (fun e he => ExtTreeMap.mem_toList_iff_getElem?_eq_some.1 he), ← ExtTreeMap.ofList_eq_foldl,
    ofList_toList]

end ComputeGrid
