import ComputeGrid.Ledger.Basic
import ComputeGrid.Proofs.Maps
import ComputeGrid.Proofs.Timeline

/-!
# What the ledger's operations do

Each operation is described by its outcomes (`create_cases`, `update_cases`, `cancel_cases`).  Whatever
the outcome, an operation touches the record of one contract only (`Touches`), and a record is never taken
off the ledger (`Grows`).

`Fresh before after` says that every contract that was made in between took a number that was not on
the ledger: a record that is overwritten makes the records fewer than the contracts that were made
(`fresh_create_iff`).
-/

namespace ComputeGrid

open Std (ExtTreeMap)

/-- The contract that a request leads to, under a number. -/
def ContractRequest.contract (r : ContractRequest) (twinId : TwinId) (c : ContractId) : Contract where
  contractId := c
  nodeId := r.nodeId
  twinId := twinId
  deploymentHash := r.hash
  deploymentData := r.metadata
  publicIps := r.publicIps
  state := .created
  solutionProvider := r.solutionProvider

namespace Ledger

variable {l l' l₁ l₂ : Ledger} {c : ContractId}

/-! ### Active contracts -/

/-- The ledger holds a contract under the number, and it has not been canceled. -/
def IsActive (l : Ledger) (c : ContractId) : Prop := ∃ k, l.active? c = some k

theorem active?_eq_some_iff {k : Contract} :
    l.active? c = some k ↔ l.contracts[c]? = some k ∧ k.isActive := by
  rw [active?, Option.filter_eq_some_iff]

theorem IsActive.mem (h : l.IsActive c) : c ∈ l.contracts := by
  obtain ⟨k, hk⟩ := h
  rw [ExtTreeMap.mem_iff_isSome_getElem?, (active?_eq_some_iff.mp hk).1]
  rfl

theorem active?_congr (h : l'.contracts[c]? = l.contracts[c]?) : l'.active? c = l.active? c := by
  rw [active?, active?, h]

theorem isActive_congr (h : l'.contracts[c]? = l.contracts[c]?) : l'.IsActive c ↔ l.IsActive c := by
  rw [IsActive, IsActive, active?_congr h]

/-! ### What every operation keeps -/

/-- What no operation changes: the twin, the balance, and what the ledger is set to refuse. -/
def terms (l : Ledger) : Ledger :=
  { l with nextId := 0, contracts := ∅, setAside := ∅, vanishing := ∅, creates := 0, updates := 0, canceled := [] }

theorem terms_online (h : l'.terms = l.terms) : l'.online = l.online := by
  have := congrArg online h
  exact this

theorem terms_balance (h : l'.terms = l.terms) : l'.balance = l.balance := by
  have := congrArg balance h
  exact this

/-- A later state of a ledger: no record has gone, there are at most as many new ones as contracts were made,
cancels are listed after those before, and nothing has been set to vanish. -/
structure Grows (l l' : Ledger) : Prop where
  terms : l'.terms = l.terms
  kept : ∀ c ∈ l.contracts, c ∈ l'.contracts
  count : l'.contracts.size + l.creates ≤ l.contracts.size + l'.creates
  canceled : l.canceled <+: l'.canceled
  vanishing : ∀ c ∈ l'.vanishing, c ∈ l.vanishing

theorem Grows.refl (l : Ledger) : Grows l l := ⟨rfl, fun _ h => h, Nat.le_refl _, List.prefix_rfl, fun _ h => h⟩

theorem Grows.trans (h₁ : Grows l l₁) (h₂ : Grows l₁ l₂) : Grows l l₂ where
  terms := h₂.terms.trans h₁.terms
  kept := fun c hc => h₂.kept c (h₁.kept c hc)
  count := by
    have := h₁.count
    have := h₂.count
    omega
  canceled := h₁.canceled.trans h₂.canceled
  vanishing := fun c hc => h₁.vanishing c (h₂.vanishing c hc)

/-- A later state in which every record but that of one contract is as it was. -/
structure Touches (c : ContractId) (l l' : Ledger) : Prop extends Grows l l' where
  others : ∀ c', c' ≠ c → l'.contracts[c']? = l.contracts[c']?

theorem Touches.refl (c : ContractId) (l : Ledger) : Touches c l l :=
  ⟨Grows.refl l, fun _ _ => rfl⟩

theorem Touches.trans (h₁ : Touches c l l₁) (h₂ : Touches c l₁ l₂) : Touches c l l₂ :=
  ⟨h₁.toGrows.trans h₂.toGrows, fun c' hc' => (h₂.others c' hc').trans (h₁.others c' hc')⟩

/-! ### Numbers -/

/-- Every contract that was made between two states of a ledger took a number that was not on it: the
records are more by as many as the contracts that were made. -/
def Fresh (before after : Ledger) : Prop :=
  after.contracts.size + before.creates = before.contracts.size + after.creates

instance (before after : Ledger) : Decidable (Fresh before after) := inferInstanceAs (Decidable (_ = _))

/-- The ledger holds a contract that was made between two of its states. -/
def Made (before after : Ledger) (c : ContractId) : Prop :=
  c ∉ before.contracts ∧ c ∈ after.contracts

theorem Fresh.left (h : Fresh l l₂) (h₁ : Grows l l₁) (h₂ : Grows l₁ l₂) : Fresh l l₁ := by
  have := h₁.count
  have := h₂.count
  unfold Fresh at *
  omega

theorem Fresh.right (h : Fresh l l₂) (h₁ : Grows l l₁) (h₂ : Grows l₁ l₂) : Fresh l₁ l₂ := by
  have := h₁.count
  have := h₂.count
  unfold Fresh at *
  omega

/-- The contract was canceled between two states of a ledger. -/
def Canceled (before after : Ledger) (c : ContractId) : Prop :=
  ∃ new, after.canceled = before.canceled ++ new ∧ c ∈ new

theorem Canceled.of_grows (h : Canceled l l₁ c) (hgrows : Grows l₁ l₂) : Canceled l l₂ c := by
  obtain ⟨new, hnew, hc⟩ := h
  obtain ⟨more, hmore⟩ := hgrows.canceled
  exact ⟨new ++ more, by rw [← hmore, hnew, List.append_assoc], List.mem_append_left more hc⟩

theorem Grows.canceled_trans (h : Grows l l₁) (hc : Canceled l₁ l₂ c) : Canceled l l₂ c := by
  obtain ⟨before, hbefore⟩ := h.canceled
  obtain ⟨new, hnew, hc⟩ := hc
  exact ⟨before ++ new, by rw [hnew, ← hbefore, List.append_assoc], List.mem_append_right before hc⟩

/-! ### Making a contract -/

theorem takeNumber_ok {node : NodeId} (h : l.takeNumber node = .ok (c, l')) :
    l' = { l with setAside := l'.setAside } := by
  unfold takeNumber at h
  split at h
  · cases h
    rfl
  · simp only [Checked.bind_eq_ok, Checked.pure_eq_ok] at h
    obtain ⟨k, _, h⟩ := h
    cases h
    rfl

theorem advance_ok (h : l.advance c = .ok l') : l' = { l with nextId := l'.nextId } := by
  simp only [advance, Checked.bind_eq_ok, Checked.pure_eq_ok] at h
  obtain ⟨k, _, rfl⟩ := h
  rfl

/-- What a request goes through: a number is taken, the running number goes beyond it, and the contract is recorded. -/
theorem create_steps {r : ContractRequest} {res : Except LedgerError ContractId}
    (h : l.create r = .ok (res, l')) :
    (l.online = false ∧ res = .error .offline ∧ l' = l) ∨
    (r.nodeId ∈ l.refusedNodes ∧ res = .error (.nodeRefused r.nodeId) ∧ l' = l) ∨
    ∃ c m m', l.online = true ∧ r.nodeId ∉ l.refusedNodes ∧ l.takeNumber r.nodeId = .ok (c, m) ∧ m.advance c = .ok m' ∧
      res = .ok c ∧
      l' = { m' with creates := m'.creates + 1, contracts := m'.contracts.insert c (r.contract m'.twinId c) } := by
  unfold create at h
  split at h
  next hon =>
    rw [Checked.pure_eq_ok] at h
    cases h
    exact .inl ⟨by simpa using hon, rfl, rfl⟩
  next hon =>
  dsimp only at h
  split at h
  next hnode =>
    rw [Checked.pure_eq_ok] at h
    cases h
    exact .inr (.inl ⟨hnode, rfl, rfl⟩)
  next hnode =>
  simp only [Checked.bind_eq_ok, Checked.pure_eq_ok] at h
  obtain ⟨⟨c, m⟩, hm, m', hm', h⟩ := h
  cases h
  exact .inr (.inr ⟨c, m, m', by simpa using hon, hnode, hm, hm', rfl, rfl⟩)

/-- The outcomes of a request: the ledger is offline, it refuses the node, or it makes the contract. -/
theorem create_cases {r : ContractRequest} {res : Except LedgerError ContractId}
    (h : l.create r = .ok (res, l')) :
    (l.online = false ∧ res = .error .offline ∧ l' = l) ∨
    (r.nodeId ∈ l.refusedNodes ∧ res = .error (.nodeRefused r.nodeId) ∧ l' = l) ∨
    ∃ c, l.online = true ∧ r.nodeId ∉ l.refusedNodes ∧ res = .ok c ∧
      l' = { l with
        nextId := l'.nextId, setAside := l'.setAside, creates := l.creates + 1
        contracts := l.contracts.insert c (r.contract l.twinId c) } := by
  rcases create_steps h with hoffline | hrefused | ⟨c, m, m', hon, hnode, hm, hm', hres, hl⟩
  · exact .inl hoffline
  · exact .inr (.inl hrefused)
  · refine .inr (.inr ⟨c, hon, hnode, hres, ?_⟩)
    rw [hl, advance_ok hm', takeNumber_ok hm]

theorem eq_of_create_error {r : ContractRequest} {e : LedgerError} (h : l.create r = .ok (.error e, l')) :
    l' = l := by
  rcases create_cases h with ⟨_, _, hl⟩ | ⟨_, _, hl⟩ | ⟨c, _, _, hres, _⟩
  · exact hl
  · exact hl
  · cases hres

/-- A contract is made by recording it under its number. -/
theorem eq_of_create_ok {r : ContractRequest} (h : l.create r = .ok (.ok c, l')) :
    l' = { l with
      nextId := l'.nextId, setAside := l'.setAside, creates := l.creates + 1
      contracts := l.contracts.insert c (r.contract l.twinId c) } := by
  rcases create_cases h with ⟨_, hres, _⟩ | ⟨_, hres, _⟩ | ⟨c', _, _, hres, hl⟩
  · cases hres
  · cases hres
  · cases hres
    exact hl

/-- A request touches the record of the contract that was made, if any. -/
theorem touches_create {r : ContractRequest} (h : l.create r = .ok (.ok c, l')) : Touches c l l' := by
  rw [eq_of_create_ok h]
  refine ⟨⟨rfl, fun k hk => ?_, ?_, List.prefix_rfl, fun _ hv => hv⟩, fun k hk => ?_⟩
  · exact ExtTreeMap.mem_insert.mpr (.inr hk)
  · have := ExtTreeMap.size_insert_le (t := l.contracts) (k := c) (v := r.contract l.twinId c)
    dsimp only
    omega
  · exact getElem?_insert_of_ne hk

/-- A contract took a number that was not on the ledger exactly when the ledger has one record more. -/
theorem fresh_create_iff {r : ContractRequest} (h : l.create r = .ok (.ok c, l')) :
    Fresh l l' ↔ c ∉ l.contracts := by
  rw [Fresh, eq_of_create_ok h]
  -- an insertion makes the map larger exactly when the key is new
  simp only [ExtTreeMap.size_insert, ExtTreeMap.contains_iff_mem]
  split
  next hc => exact ⟨fun _ => by omega, fun hn => absurd hc hn⟩
  next hc => exact ⟨fun _ => hc, fun _ => by omega⟩

/-- A contract that was made is active. -/
theorem active?_create {r : ContractRequest} (h : l.create r = .ok (.ok c, l')) :
    l'.active? c = some (r.contract l.twinId c) := by
  rw [active?_eq_some_iff, eq_of_create_ok h]
  exact ⟨ExtTreeMap.getElem?_insert_self, rfl⟩

/-! ### Changing a contract -/

/-- The outcomes of a change: the ledger is offline, the contract is not active, or it is changed. -/
theorem update_cases {hash metadata : String} {res : Except LedgerError ContractId}
    (h : l.update c hash metadata = (res, l')) :
    (l.online = false ∧ res = .error .offline ∧ l' = l) ∨
    (l.active? c = none ∧ res = .error (.notFound c) ∧ l' = l) ∨
    ∃ k, l.online = true ∧ l.active? c = some k ∧ res = .ok c ∧
      l' = { l with
        updates := l.updates + 1
        contracts := l.contracts.insert c { k with deploymentHash := hash, deploymentData := metadata } } := by
  unfold update at h
  split at h
  next hon =>
    cases h
    exact .inl ⟨by simpa using hon, rfl, rfl⟩
  next hon =>
  split at h
  next hc =>
    cases h
    exact .inr (.inl ⟨hc, rfl, rfl⟩)
  next k hk =>
    cases h
    exact .inr (.inr ⟨k, by simpa using hon, hk, rfl, rfl⟩)

/-- An active contract is changed, if the ledger is online. -/
theorem update_run {k : Contract} (honline : l.online = true) (hk : l.active? c = some k) (hash metadata : String) :
    l.update c hash metadata = (.ok c, { l with
      updates := l.updates + 1
      contracts := l.contracts.insert c { k with deploymentHash := hash, deploymentData := metadata } }) := by
  rw [update, honline, hk]
  rfl

theorem eq_of_update_error {hash metadata : String} {e : LedgerError}
    (h : l.update c hash metadata = (.error e, l')) : l' = l := by
  rcases update_cases h with ⟨_, _, hl⟩ | ⟨_, _, hl⟩ | ⟨k, _, _, hres, _⟩
  · exact hl
  · exact hl
  · cases hres

/-- A change gives the number of the contract that was changed. -/
theorem eq_of_update_ok {hash metadata : String} {c' : ContractId}
    (h : l.update c hash metadata = (.ok c', l')) : c' = c := by
  rcases update_cases h with ⟨_, hres, _⟩ | ⟨_, hres, _⟩ | ⟨k, _, _, hres, _⟩
  · cases hres
  · cases hres
  · exact Except.ok.inj hres

/-- A change makes no contract. -/
theorem fresh_update {hash metadata : String} {res : Except LedgerError ContractId}
    (h : l.update c hash metadata = (res, l')) : Fresh l l' := by
  rcases update_cases h with ⟨_, _, rfl⟩ | ⟨_, _, rfl⟩ | ⟨k, _, hk, _, rfl⟩
  · rfl
  · rfl
  have hc : l.contracts.contains c := ExtTreeMap.contains_iff_mem.mpr (IsActive.mem ⟨k, hk⟩)
  rw [Fresh, ExtTreeMap.size_insert, if_pos hc]

theorem touches_update {hash metadata : String} {res : Except LedgerError ContractId}
    (h : l.update c hash metadata = (res, l')) : Touches c l l' := by
  have hfresh := fresh_update h
  rcases update_cases h with ⟨_, _, rfl⟩ | ⟨_, _, rfl⟩ | ⟨k, _, hk, _, rfl⟩
  · exact .refl c l'
  · exact .refl c l'
  have hc : c ∈ l.contracts := IsActive.mem ⟨k, hk⟩
  refine ⟨⟨rfl, fun k' hk' => ?_, Nat.le_of_eq hfresh, List.prefix_rfl, fun _ hv => hv⟩, fun c' hc' => ?_⟩
  · exact ExtTreeMap.mem_insert.mpr (.inr hk')
  · exact getElem?_insert_of_ne hc'

/-- A change that succeeds is one of an active contract, and of nothing but its hash and its metadata. -/
theorem active?_update {hash metadata : String} {c' : ContractId} (h : l.update c hash metadata = (.ok c', l')) :
    ∃ k, l.active? c = some k ∧
      l'.active? c = some { k with deploymentHash := hash, deploymentData := metadata } := by
  rcases update_cases h with ⟨_, hres, _⟩ | ⟨_, hres, _⟩ | ⟨k, _, hk, _, rfl⟩
  · cases hres
  · cases hres
  refine ⟨k, hk, active?_eq_some_iff.mpr ⟨ExtTreeMap.getElem?_insert_self, ?_⟩⟩
  exact (active?_eq_some_iff.mp hk).2

/-- A later state in which the same contracts are recorded and the same ones active. -/
structure SameActive (l l' : Ledger) : Prop where
  mem : ∀ c, c ∈ l'.contracts ↔ c ∈ l.contracts
  active : ∀ c, l'.IsActive c ↔ l.IsActive c

theorem SameActive.refl (l : Ledger) : SameActive l l := ⟨fun _ => Iff.rfl, fun _ => Iff.rfl⟩

/-- A change makes no contract active, and none inactive. -/
theorem sameActive_update {hash metadata : String} {res : Except LedgerError ContractId}
    (h : l.update c hash metadata = (res, l')) : SameActive l l' := by
  rcases update_cases h with ⟨_, _, rfl⟩ | ⟨_, _, rfl⟩ | ⟨k, _, hk, _, rfl⟩
  · exact .refl l'
  · exact .refl l'
  have hc : c ∈ l.contracts := IsActive.mem ⟨k, hk⟩
  refine ⟨fun c' => ?_, fun c' => ?_⟩
  -- the record that is written takes the place of an old one
  · rw [ExtTreeMap.mem_insert, Std.compare_eq_iff_eq]
    exact ⟨fun h => h.elim (fun h => h ▸ hc) id, .inr⟩
  · by_cases hc' : c' = c
    · subst hc'
      refine ⟨fun _ => ⟨k, hk⟩, fun _ => ⟨{ k with deploymentHash := hash, deploymentData := metadata }, ?_⟩⟩
      rw [active?_eq_some_iff]
      exact ⟨ExtTreeMap.getElem?_insert_self, (active?_eq_some_iff.mp hk).2⟩
    · exact isActive_congr (getElem?_insert_of_ne hc')

/-! ### Canceling a contract -/

theorem touches_delete (l : Ledger) (c : ContractId) : Touches c l (l.delete c) := by
  refine ⟨⟨rfl, fun k hk => ?_, ?_, List.prefix_rfl, fun _ hv => hv⟩, fun c' hc' => ?_⟩
  · exact ExtTreeMap.mem_modify.mpr hk
  · exact Nat.le_of_eq (congrArg (· + l.creates) ExtTreeMap.size_modify)
  · exact getElem?_modify_of_ne hc'

theorem not_isActive_delete (l : Ledger) (c : ContractId) : ¬ (l.delete c).IsActive c := by
  rintro ⟨k, hk⟩
  obtain ⟨hget, hactive⟩ := active?_eq_some_iff.mp hk
  rw [delete, ExtTreeMap.getElem?_modify_self, Option.map_eq_some_iff] at hget
  obtain ⟨k', _, rfl⟩ := hget
  simp [Contract.isActive] at hactive

theorem touches_settleVanishing (l : Ledger) (c : ContractId) : Touches c l (l.settleVanishing c) := by
  unfold settleVanishing
  split
  · have h := touches_delete l c
    have hvanishing : ∀ k ∈ l.vanishing.erase c, k ∈ l.vanishing := fun k hk => Std.ExtTreeSet.mem_of_mem_erase hk
    exact ⟨⟨h.terms, h.kept, h.count, h.canceled, hvanishing⟩, h.others⟩
  · exact .refl c l

/-- The outcomes of a cancel: the ledger is offline, it refuses, it finds no active contract (perhaps
because the contract has just vanished), or it cancels the contract. -/
theorem cancel_cases {res : Except LedgerError Unit} (h : l.cancel c = (res, l')) :
    (l.online = false ∧ res = .error .offline ∧ l' = l) ∨
    (c ∈ l.refusedCancels ∧ res = .error (.cancelRefused c) ∧ l' = l) ∨
    (l.online = true ∧ c ∉ l.refusedCancels ∧ ¬ l'.IsActive c ∧ res = .error (.notFound c) ∧
      l' = l.settleVanishing c) ∨
    (l.online = true ∧ c ∉ l.refusedCancels ∧ l.IsActive c ∧ res = .ok () ∧
      l' = { l.delete c with canceled := l.canceled ++ [c] }) := by
  unfold cancel at h
  split at h
  next hon =>
    cases h
    exact .inl ⟨by simpa using hon, rfl, rfl⟩
  next hon =>
  replace hon : l.online = true := by simpa using hon
  split at h
  next hc =>
    cases h
    exact .inr (.inl ⟨hc, rfl, rfl⟩)
  next hc =>
  dsimp only at h
  split at h
  next hn =>
    cases h
    refine .inr (.inr (.inl ⟨hon, hc, ?_, rfl, rfl⟩))
    rintro ⟨k, hk⟩
    rw [hn] at hk
    cases hk
  next k hk =>
    cases h
    -- a contract that is still active has not vanished
    have hv : l.settleVanishing c = l := by
      unfold settleVanishing at hk ⊢
      split
      next hv =>
        rw [if_pos hv] at hk
        exact absurd ⟨k, hk⟩ (not_isActive_delete l c)
      next => rfl
    rw [hv] at hk ⊢
    exact .inr (.inr (.inr ⟨hon, hc, ⟨k, hk⟩, rfl, rfl⟩))

theorem touches_cancel {res : Except LedgerError Unit} (h : l.cancel c = (res, l')) : Touches c l l' := by
  rcases cancel_cases h with ⟨_, _, rfl⟩ | ⟨_, _, rfl⟩ | ⟨_, _, _, _, rfl⟩ | ⟨_, _, _, _, rfl⟩
  · exact .refl c l'
  · exact .refl c l'
  · exact touches_settleVanishing l c
  · have h := touches_delete l c
    exact ⟨⟨h.terms, h.kept, h.count, List.prefix_append l.canceled [c], h.vanishing⟩, h.others⟩

/-- A contract that is not set to vanish is found gone only if it was not active. -/
theorem canceled_of_cancel {res : Except LedgerError Unit} (h : l.cancel c = (res, l'))
    (hres : ∀ e, res = .error e → e.isNotFound = true) (hactive : l.IsActive c) (hlasting : c ∉ l.vanishing) :
    Canceled l l' c := by
  rcases cancel_cases h with ⟨_, rfl, _⟩ | ⟨_, rfl, _⟩ | ⟨_, _, hn, _, rfl⟩ | ⟨_, _, _, _, rfl⟩
  · exact absurd (hres _ rfl) (by decide)
  · exact absurd (hres _ rfl) Bool.false_ne_true
  · rw [settleVanishing, if_neg hlasting] at hn
    exact absurd hactive hn
  · exact ⟨[c], rfl, List.mem_singleton.mpr rfl⟩

/-- A cancel that succeeds, or that finds nothing to cancel, leaves the contract inactive. -/
theorem not_isActive_of_cancel {res : Except LedgerError Unit} (h : l.cancel c = (res, l'))
    (hres : ∀ e, res = .error e → e.isNotFound = true) : ¬ l'.IsActive c := by
  rcases cancel_cases h with ⟨_, rfl, _⟩ | ⟨_, rfl, _⟩ | ⟨_, _, hn, _, _⟩ | ⟨_, _, _, _, rfl⟩
  · exact absurd (hres _ rfl) (by decide)
  · exact absurd (hres _ rfl) Bool.false_ne_true
  · exact hn
  · exact not_isActive_delete l c

/-- A cancel that is refused changes nothing. -/
theorem eq_of_cancel_error {e : LedgerError} (h : l.cancel c = (.error e, l'))
    (he : e.isNotFound = false) : l' = l := by
  rcases cancel_cases h with ⟨_, _, hl⟩ | ⟨_, _, hl⟩ | ⟨_, _, _, hres, _⟩ | ⟨_, _, _, hres, _⟩
  · exact hl
  · exact hl
  · cases hres
    cases he
  · cases hres

end Ledger

end ComputeGrid
