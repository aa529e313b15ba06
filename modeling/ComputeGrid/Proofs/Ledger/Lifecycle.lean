import ComputeGrid.Proofs.Ledger.Numbers

/-!
# The life of a contract

A log lists what was done to a ledger and what was read from it, the latest first (`Ledger.Log`).  Where no numbers are set
aside, the running number is above all that are on the ledger, and every contract takes it (`Ledger.Unreserved`).  So no
record is overwritten: from one point of a log to any later one it keeps its terms, and once the contract is canceled it
stays as it is (`Ledger.Endures`).

What a log says and what the ledger holds in the end agree (`Ledger.Recorded`).  All of this, with what a call leaves that
fails, is `Ledger.Log.lifecycle`.
-/

namespace ComputeGrid

open Std (ExtTreeMap)

/-- A later record of the same contract.  Its hash, its metadata and its state may have changed, unless it was canceled. -/
structure Contract.Continues (k k' : Contract) : Prop where
  terms : k' = { k with deploymentHash := k'.deploymentHash, deploymentData := k'.deploymentData, state := k'.state }
  final : k.isActive = false → k' = k

theorem Contract.Continues.refl (k : Contract) : k.Continues k := ⟨rfl, fun _ => rfl⟩

theorem Contract.Continues.trans {k k₁ k₂ : Contract} (h₁ : k.Continues k₁) (h₂ : k₁.Continues k₂) : k.Continues k₂ := by
  refine ⟨?_, fun hk => ?_⟩
  · rw [h₂.terms, h₁.terms]
  · obtain rfl := h₁.final hk
    exact h₂.final hk

namespace Ledger

variable {l l' l₁ l₂ : Ledger} {c : ContractId} {k : Contract} {call : Call}

/-! ### Records that endure -/

/-- The ledger holds a record that continues one of the contract. -/
def Continued (l : Ledger) (c : ContractId) (k : Contract) : Prop := ∃ k', l.contracts[c]? = some k' ∧ k.Continues k'

/-- Every record is continued. -/
def Endures (l l' : Ledger) : Prop := ∀ (c : ContractId) (k : Contract), l.contracts[c]? = some k → l'.Continued c k

theorem Continued.of_endures (h : l.Continued c k) (hl : Endures l l') : l'.Continued c k := by
  obtain ⟨k₁, hk₁, hcontinues₁⟩ := h
  obtain ⟨k₂, hk₂, hcontinues₂⟩ := hl c k₁ hk₁
  exact ⟨k₂, hk₂, hcontinues₁.trans hcontinues₂⟩

theorem Endures.refl (l : Ledger) : Endures l l := fun _ k hk => ⟨k, hk, .refl k⟩

theorem Endures.trans (h₁ : Endures l l₁) (h₂ : Endures l₁ l₂) : Endures l l₂ :=
  fun c k hk => (h₁ c k hk).of_endures h₂

theorem Endures.of_rewrites (h : Rewrites l l') : Endures l l' := by
  intro c k hk
  obtain ⟨k', hk'⟩ := mem_iff_exists_getElem?.1 (h.kept c (mem_iff_exists_getElem?.2 ⟨k, hk⟩))
  obtain ⟨k₀, hk₀, hterms⟩ := h.records c k' hk'
  cases hk.symm.trans hk₀
  refine ⟨k', hk', hterms, fun hinactive => ?_⟩
  exact Option.some.inj (hk'.symm.trans (h.final c k hk hinactive))

theorem Endures.of_insert (hnew : c ∉ l.contracts) (hl : l'.contracts = l.contracts.insert c k) : Endures l l' := by
  intro c' k' hk'
  have hne : c' ≠ c := by
    rintro rfl
    exact hnew (mem_iff_exists_getElem?.2 ⟨k', hk'⟩)
  exact ⟨k', by rw [hl, getElem?_insert_of_ne hne, hk'], .refl k'⟩

/-- A contract that is on the ledger and not active never is again. -/
theorem Endures.not_isActive (h : Endures l l') (hc : c ∈ l.contracts) (hinactive : ¬ l.IsActive c) : ¬ l'.IsActive c := by
  obtain ⟨k, hk⟩ := mem_iff_exists_getElem?.1 hc
  have hover : k.isActive = false := Bool.eq_false_iff.2 fun hactive => hinactive ⟨k, active?_eq_some_iff.2 ⟨hk, hactive⟩⟩
  obtain ⟨k', hk', hcontinues⟩ := h c k hk
  rintro ⟨k₁, hk₁⟩
  obtain ⟨hget, hactive⟩ := active?_eq_some_iff.1 hk₁
  cases hk'.symm.trans hget
  rw [hcontinues.final hover, hover] at hactive
  cases hactive

theorem Endures.mem (h : Endures l l') (hc : c ∈ l.contracts) : c ∈ l'.contracts := by
  obtain ⟨k, hk⟩ := mem_iff_exists_getElem?.1 hc
  obtain ⟨k', hk', -⟩ := h c k hk
  exact mem_iff_exists_getElem?.2 ⟨k', hk'⟩

/-! ### The running number -/

theorem advance_bounds (h : l.advance c = .ok l') : c < l'.nextId ∧ l.nextId ≤ l'.nextId := by
  simp only [advance, Checked.bind_eq_ok, Checked.pure_eq_ok] at h
  obtain ⟨next, hnext, rfl⟩ := h
  have hc : c < next := by
    rw [UInt64.lt_iff_toNat_lt, Checked.toNat_of_add64 hnext]
    exact Nat.lt_succ_self c.toNat
  have hmax : max l.nextId next = if l.nextId ≤ next then next else l.nextId := rfl
  dsimp only
  rw [hmax]
  split
  next hle => exact ⟨hc, hle⟩
  next hlt => exact ⟨UInt64.lt_trans hc (UInt64.not_le.1 hlt), UInt64.le_refl l.nextId⟩

theorem eq_of_leastFree {contracts : ContractMap Contract} {left : Nat} {first : ContractId} (hfirst : first ∉ contracts)
    (h : leastFree contracts left first = .ok c) : c = first := by
  cases left with
  | zero => cases h
  | succ left =>
    rw [leastFree, if_neg hfirst] at h
    cases h
    rfl

/-- No numbers are set aside, and the running number is above those that are on the ledger. -/
structure Unreserved (l : Ledger) : Prop where
  empty : ∀ node, l.queue node = []
  below : ∀ c ∈ l.contracts, c < l.nextId

theorem unreserved_new (twinId : TwinId) : Unreserved (.new twinId) :=
  ⟨fun _ => rfl, fun _ hc => absurd hc ExtTreeMap.not_mem_empty⟩

namespace Unreserved

theorem nextId_notMem (h : Unreserved l) : l.nextId ∉ l.contracts := fun hmem =>
  UInt64.lt_irrefl l.nextId (h.below l.nextId hmem)

theorem takeNumber (h : Unreserved l) {node : NodeId} (htake : l.takeNumber node = .ok (c, l')) :
    c = l.nextId ∧ l' = l := by
  unfold Ledger.takeNumber at htake
  split at htake
  next first rest hqueue =>
    have hempty := h.empty node
    rw [queue, ExtTreeMap.getD_eq_getD_getElem?, hqueue] at hempty
    cases hempty
  next =>
    rw [Checked.bind_eq_ok] at htake
    obtain ⟨c', hfree, htake⟩ := htake
    cases htake
    exact ⟨eq_of_leastFree h.nextId_notMem hfree, rfl⟩

/-- A contract takes the running number. -/
theorem create (h : Unreserved l) {r : ContractRequest} (run : l.create r = .ok (.ok c, l')) :
    c = l.nextId ∧ c < l'.nextId ∧ l.nextId ≤ l'.nextId ∧ ∀ node, l'.queue node = [] := by
  rcases create_steps run with ⟨-, hres, -⟩ | ⟨-, hres, -⟩ | ⟨c', m, m', -, -, htake, hadvance, hres, rfl⟩
  · cases hres
  · cases hres
  · cases hres
    obtain ⟨rfl, rfl⟩ := h.takeNumber htake
    have hbounds := advance_bounds hadvance
    refine ⟨rfl, hbounds.1, hbounds.2, fun node => ?_⟩
    rw [queue, advance_ok hadvance]
    exact h.empty node

theorem of_insert (h : Unreserved l) (hempty : ∀ node, l'.queue node = [])
    (hcontracts : l'.contracts = l.contracts.insert c k) (hc : c < l'.nextId) (hnext : l.nextId ≤ l'.nextId) :
    Unreserved l' := by
  refine ⟨hempty, fun c' hc' => ?_⟩
  rw [hcontracts, ExtTreeMap.mem_insert, Std.compare_eq_iff_eq] at hc'
  rcases hc' with rfl | hold
  · exact hc
  · exact UInt64.lt_of_lt_of_le (h.below c' hold) hnext

theorem of_rewrites (h : Unreserved l) (hl : Rewrites l l') (hnext : l'.nextId = l.nextId) : Unreserved l' := by
  refine ⟨fun node => ?_, fun c hc => ?_⟩
  · rw [hl.queue]
    exact h.empty node
  · obtain ⟨k', hk'⟩ := mem_iff_exists_getElem?.1 hc
    obtain ⟨k, hk, -⟩ := hl.records c k' hk'
    rw [hnext]
    exact h.below c (mem_iff_exists_getElem?.2 ⟨k, hk⟩)

/-- A call leaves the numbers as they are and rewrites records, or it adds a record under a number that is not on the
ledger. -/
theorem step (h : Unreserved l) (step : Step l call l') : Unreserved l' ∧ Endures l l' := by
  cases step with
  | @insert l' k new free run =>
    simp only [Ledger.insert, Checked.bind_eq_ok, Checked.pure_eq_ok] at run
    obtain ⟨m, hadvance, rfl⟩ := run
    have hm := advance_ok hadvance
    have hcontracts : m.contracts.insert k.contractId k = l.contracts.insert k.contractId k := by rw [hm]
    have hempty (node : NodeId) : m.queue node = [] := by
      rw [queue, hm]
      exact h.empty node
    have hbounds := advance_bounds hadvance
    exact ⟨h.of_insert hempty hcontracts hbounds.1 hbounds.2, .of_insert new hcontracts⟩
  | @create l' r answer run =>
    cases answer with
    | error e =>
      rw [eq_of_create_error run]
      exact ⟨h, .refl l⟩
    | ok c =>
      obtain ⟨hc, hbelow, hnext, hempty⟩ := h.create run
      have hcontracts : l'.contracts = l.contracts.insert c (r.contract l.twinId c) :=
        (congrArg contracts (eq_of_create_ok run) :)
      exact ⟨h.of_insert hempty hcontracts hbelow hnext, .of_insert (hc ▸ h.nextId_notMem) hcontracts⟩
  | @update l' c hash metadata answer run =>
    have hnext : l'.nextId = l.nextId := by
      rcases update_cases run with ⟨-, -, rfl⟩ | ⟨-, -, rfl⟩ | ⟨k, -, -, -, rfl⟩ <;> rfl
    exact ⟨h.of_rewrites (rewrites_update run) hnext, .of_rewrites (rewrites_update run)⟩
  | @cancel l' c answer run =>
    have hnext : l'.nextId = l.nextId := by
      rcases cancel_cases run with ⟨-, -, rfl⟩ | ⟨-, -, rfl⟩ | ⟨-, -, -, -, rfl⟩ | ⟨-, -, -, -, rfl⟩
      · rfl
      · rfl
      · rw [settleVanishing]
        split <;> rfl
      · rfl
    exact ⟨h.of_rewrites (rewrites_cancel run) hnext, .of_rewrites (rewrites_cancel run)⟩
  | set s =>
    have hnext : (l.apply s).nextId = l.nextId := by cases s <;> rfl
    exact ⟨h.of_rewrites (rewrites_apply l s) hnext, .of_rewrites (rewrites_apply l s)⟩

end Unreserved

/-! ### Logs -/

/-- What is read from a ledger, with the answer. -/
inductive Query where
  | contract (c : ContractId) (answer : Except LedgerError Contract)
  | balance (answer : Except LedgerError UInt64)

/-- The answer is what the ledger says. -/
def Query.Answered (l : Ledger) : Query → Prop
  | .contract c answer => l.contract c = answer
  | .balance answer => l.getBalance = answer

/-- What a log lists. -/
inductive Entry where
  | call (call : Call)
  | query (query : Query)

/-- What calls lead to, and what is read in between, the latest first. -/
inductive Log (start : Ledger) : List Entry → Ledger → Prop where
  | start : Log start [] start
  | call {entries : List Entry} {call : Call} {l l' : Ledger} (before : Log start entries l) (step : Step l call l') :
    Log start (.call call :: entries) l'
  | query {entries : List Entry} {query : Query} {l : Ledger} (before : Log start entries l) (answered : query.Answered l) :
    Log start (.query query :: entries) l

variable {start : Ledger} {twinId : TwinId} {entries : List Entry}

theorem Log.endures (log : Log start entries l) (h : Unreserved start) : Unreserved l ∧ Endures start l := by
  induction log with
  | start => exact ⟨h, .refl start⟩
  | call _ step ih =>
    have hstep := ih.1.step step
    exact ⟨hstep.1, ih.2.trans hstep.2⟩
  | query _ _ ih => exact ih

namespace Entry

/-- The number of a contract that was made. -/
def made? : Entry → Option ContractId
  | .call (.create _ (.ok c)) => some c
  | _ => none

/-- The number of a contract that was changed. -/
def updated? : Entry → Option ContractId
  | .call (.update _ _ _ (.ok c)) => some c
  | _ => none

/-- The number of a contract that was canceled. -/
def canceled? : Entry → Option ContractId
  | .call (.cancel c (.ok _)) => some c
  | _ => none

theorem eq_create_of_made? {e : Entry} (h : e.made? = some c) : ∃ r, e = .call (.create r (.ok c)) := by
  unfold made? at h
  split at h
  next r c' =>
    cases h
    exact ⟨r, rfl⟩
  next => cases h

theorem eq_cancel_of_canceled? {e : Entry} (h : e.canceled? = some c) : e = .call (.cancel c (.ok ())) := by
  unfold canceled? at h
  split at h
  next c' _ =>
    cases h
    rfl
  next => cases h

end Entry

/-! ### What a log says -/

/-- What is listed of a log grows by what is listed of the latest entry. -/
theorem filterMap_cons (f : Entry → Option ContractId) (e : Entry) (entries : List Entry) :
    (e :: entries).filterMap f = (f e).toList ++ entries.filterMap f := by
  rw [List.filterMap_cons]
  cases f e <;> rfl

/-- What a call adds to the counts, and to the contracts that were canceled. -/
theorem Step.tallies (step : Step l call l') :
    l'.twinId = l.twinId ∧ l'.creates = l.creates + (Entry.call call).made?.toList.length ∧
      l'.updates = l.updates + (Entry.call call).updated?.toList.length ∧
      l'.canceled = l.canceled ++ (Entry.call call).canceled?.toList := by
  have hsame : l.canceled = l.canceled ++ [] := (List.append_nil _).symm
  cases step with
  | insert new free run =>
    simp only [Ledger.insert, Checked.bind_eq_ok, Checked.pure_eq_ok] at run
    obtain ⟨m, hadvance, rfl⟩ := run
    rw [advance_ok hadvance]
    exact ⟨rfl, rfl, rfl, hsame⟩
  | create run =>
    rcases create_cases run with ⟨-, rfl, rfl⟩ | ⟨-, rfl, rfl⟩ | ⟨c, -, -, rfl, hl⟩
    · exact ⟨rfl, rfl, rfl, hsame⟩
    · exact ⟨rfl, rfl, rfl, hsame⟩
    · rw [hl]
      exact ⟨rfl, rfl, rfl, hsame⟩
  | update run =>
    rcases update_cases run with ⟨-, rfl, rfl⟩ | ⟨-, rfl, rfl⟩ | ⟨k, -, -, rfl, rfl⟩ <;> exact ⟨rfl, rfl, rfl, hsame⟩
  | cancel run =>
    rcases cancel_cases run with ⟨-, rfl, rfl⟩ | ⟨-, rfl, rfl⟩ | ⟨-, -, -, rfl, rfl⟩ | ⟨-, -, -, rfl, rfl⟩
    · exact ⟨rfl, rfl, rfl, hsame⟩
    · exact ⟨rfl, rfl, rfl, hsame⟩
    · rw [settleVanishing]
      split <;> exact ⟨rfl, rfl, rfl, hsame⟩
    · exact ⟨rfl, rfl, rfl, rfl⟩
  | set s => cases s <;> exact ⟨rfl, rfl, rfl, hsame⟩

/-- The ledger and the log agree: every contract took a higher number than those before it (the log has the latest first), the
records continue those that were made and those that were read, and what is counted and what is listed as canceled are the
calls that succeeded, no contract twice. -/
structure Recorded (twinId : TwinId) (entries : List Entry) (l : Ledger) : Prop where
  twin : l.twinId = twinId
  increasing : (entries.filterMap Entry.made?).Pairwise (· > ·)
  made : ∀ r c, .call (.create r (.ok c)) ∈ entries → l.Continued c (r.contract twinId c)
  read : ∀ c k, .query (.contract c (.ok k)) ∈ entries → l.Continued c k
  creates : l.creates = (entries.filterMap Entry.made?).length
  updates : l.updates = (entries.filterMap Entry.updated?).length
  canceled : l.canceled = (entries.filterMap Entry.canceled?).reverse
  once : l.canceled.Nodup
  gone : ∀ c ∈ l.canceled, c ∈ l.contracts ∧ ¬ l.IsActive c

theorem recorded_new (twinId : TwinId) : Recorded twinId [] (.new twinId) :=
  ⟨rfl, .nil, nofun, nofun, rfl, rfl, rfl, .nil, nofun⟩

theorem getElem?_of_contract (h : l.contract c = .ok k) : l.contracts[c]? = some k := by
  unfold contract at h
  split at h
  · cases h
  split at h
  next k' hk =>
    cases h
    exact hk
  next => cases h

/-- A contract that is canceled was active, and is no more. -/
theorem isActive_of_cancel (h : l.cancel c = (.ok (), l')) : l.IsActive c ∧ c ∈ l'.contracts ∧ ¬ l'.IsActive c := by
  have hover : ¬ l'.IsActive c := not_isActive_of_cancel h nofun
  rcases cancel_cases h with ⟨-, hres, -⟩ | ⟨-, hres, -⟩ | ⟨-, -, -, hres, -⟩ | ⟨-, -, hactive, -, -⟩
  · cases hres
  · cases hres
  · cases hres
  · exact ⟨hactive, (touches_cancel h).kept c hactive.mem, hover⟩

namespace Recorded

/-- A contract that is made takes a higher number than those before. -/
theorem lt_nextId (h : Recorded twinId entries l) (hl : Unreserved l) (hc : c ∈ entries.filterMap Entry.made?) :
    c < l.nextId := by
  obtain ⟨e, he, hmade⟩ := List.mem_filterMap.1 hc
  obtain ⟨r, rfl⟩ := Entry.eq_create_of_made? hmade
  obtain ⟨k, hk, -⟩ := h.made r c he
  exact hl.below c (mem_iff_exists_getElem?.2 ⟨k, hk⟩)

theorem step (h : Recorded twinId entries l) (hl : Unreserved l) (step : Step l call l') :
    Recorded twinId (.call call :: entries) l' := by
  have hendures := (hl.step step).2
  obtain ⟨htwin, hcreates, hupdates, hcanceled⟩ := step.tallies
  have hover (c : ContractId) (hc : c ∈ (Entry.call call).canceled?.toList) :
      l.IsActive c ∧ c ∈ l'.contracts ∧ ¬ l'.IsActive c := by
    have heq := Entry.eq_cancel_of_canceled? (Option.mem_toList.1 hc)
    cases heq
    cases step with
    | cancel run => exact isActive_of_cancel run
  constructor
  case twin => rw [htwin, h.twin]
  case increasing =>
    rw [filterMap_cons, List.pairwise_append]
    refine ⟨?_, h.increasing, fun c hc c' hc' => ?_⟩
    · cases (Entry.call call).made? with
      | none => exact .nil
      | some c => exact List.pairwise_singleton _ c
    · obtain ⟨r, heq⟩ := Entry.eq_create_of_made? (Option.mem_toList.1 hc)
      cases heq
      cases step with
      | create run =>
        rw [(hl.create run).1]
        exact h.lt_nextId hl hc'
  case made =>
    intro r c hr
    rcases List.mem_cons.1 hr with heq | hr
    · cases heq
      cases step with
      | create run =>
        rw [← h.twin]
        exact ⟨_, (active?_eq_some_iff.1 (active?_create run)).1, .refl _⟩
    · exact (h.made r c hr).of_endures hendures
  case read =>
    intro c k hc
    obtain hc := (List.mem_cons.1 hc).resolve_left nofun
    exact (h.read c k hc).of_endures hendures
  case creates => rw [hcreates, h.creates, filterMap_cons, List.length_append, Nat.add_comm]
  case updates => rw [hupdates, h.updates, filterMap_cons, List.length_append, Nat.add_comm]
  case canceled =>
    rw [hcanceled, h.canceled, filterMap_cons, List.reverse_append]
    cases (Entry.call call).canceled? <;> rfl
  case once =>
    rw [hcanceled, List.nodup_append]
    refine ⟨h.once, ?_, ?_⟩
    · cases (Entry.call call).canceled? with
      | none => exact .nil
      | some c => exact List.nodup_singleton c
    · rintro c hold c' hnew rfl
      exact (h.gone c hold).2 (hover c hnew).1
  case gone =>
    intro c hc
    rw [hcanceled, List.mem_append] at hc
    rcases hc with hold | hnew
    · exact ⟨hendures.mem (h.gone c hold).1, hendures.not_isActive (h.gone c hold).1 (h.gone c hold).2⟩
    · exact (hover c hnew).2

theorem query (h : Recorded twinId entries l) {query : Query} (answered : query.Answered l) :
    Recorded twinId (.query query :: entries) l := by
  constructor
  case twin => exact h.twin
  case increasing => exact h.increasing
  case made =>
    intro r c hr
    exact h.made r c ((List.mem_cons.1 hr).resolve_left nofun)
  case read =>
    intro c k hc
    rcases List.mem_cons.1 hc with heq | hc
    · cases heq
      exact ⟨k, getElem?_of_contract answered, .refl k⟩
    · exact h.read c k hc
  case creates => exact h.creates
  case updates => exact h.updates
  case canceled => exact h.canceled
  case once => exact h.once
  case gone => exact h.gone

end Recorded

theorem Log.recorded (log : Log (.new twinId) entries l) : Unreserved l ∧ Recorded twinId entries l := by
  induction log with
  | start => exact ⟨unreserved_new twinId, recorded_new twinId⟩
  | call _ step ih => exact ⟨(ih.1.step step).1, ih.2.step ih.1 step⟩
  | query _ answered ih => exact ⟨ih.1, ih.2.query answered⟩

/-! ### Calls that fail -/

/-- The answer is an error. -/
def Call.Fails : Call → Prop
  | .create _ answer | .update _ _ _ answer => ∃ e, answer = .error e
  | .cancel _ answer => ∃ e, answer = .error e
  | .insert _ | .set _ => False

/-- A cancel gets as far as to find that the contract vanishes. -/
structure Vanishes (l : Ledger) (c : ContractId) : Prop where
  online : l.online = true
  accepted : c ∉ l.refusedCancels
  vanishing : c ∈ l.vanishing

/-- Except where a contract vanishes, a call that fails leaves all as it was. -/
theorem Step.eq_of_fails (step : Step l call l') (hfails : call.Fails)
    (hlasting : ∀ c answer, call = .cancel c answer → ¬ l.Vanishes c) : l' = l := by
  cases step with
  | insert => exact hfails.elim
  | create run =>
    obtain ⟨e, rfl⟩ := hfails
    exact eq_of_create_error run
  | update run =>
    obtain ⟨e, rfl⟩ := hfails
    exact eq_of_update_error run
  | @cancel l' c answer run =>
    obtain ⟨e, rfl⟩ := hfails
    rcases cancel_cases run with ⟨-, -, hl⟩ | ⟨-, -, hl⟩ | ⟨honline, haccepted, -, -, hl⟩ | ⟨-, -, -, hres, -⟩
    · exact hl
    · exact hl
    · have hc : c ∉ l.vanishing := fun hvanishing => hlasting c (.error e) rfl ⟨honline, haccepted, hvanishing⟩
      rw [hl, settleVanishing, if_neg hc]
    · cases hres
  | set => exact hfails.elim

/-- A contract that vanishes is deleted, and not found. -/
theorem Vanishes.cancel (h : l.Vanishes c) :
    l.cancel c = (.error (.notFound c), { l.delete c with vanishing := l.vanishing.erase c }) := by
  have hsettle : l.settleVanishing c = { l.delete c with vanishing := l.vanishing.erase c } := if_pos h.vanishing
  have hactive : (l.settleVanishing c).active? c = none := by
    rw [hsettle, Option.eq_none_iff_forall_ne_some]
    intro k hk
    exact not_isActive_delete l c ⟨k, hk⟩
  rw [Ledger.cancel, h.online, if_neg (by decide), if_neg h.accepted]
  dsimp only
  rw [hactive, hsettle]

/-! ### The whole life -/

/-- Over any log without numbers set aside: the ledger and the log agree, its records endure whatever comes later, and a call
that fails changes nothing, but for a cancel that finds that the contract vanishes. -/
theorem Log.lifecycle (log : Log (.new twinId) entries l) :
    Recorded twinId entries l ∧ (∀ later l', Log l later l' → Endures l l') ∧
      (∀ call l', Step l call l' → call.Fails → (∀ c answer, call = .cancel c answer → ¬ l.Vanishes c) → l' = l) ∧
      ∀ c, l.Vanishes c →
        l.cancel c = (.error (.notFound c), { l.delete c with vanishing := l.vanishing.erase c }) := by
  obtain ⟨hunreserved, hrecorded⟩ := log.recorded
  exact ⟨hrecorded, fun _ _ later => (later.endures hunreserved).2,
    fun _ _ step hfails hlasting => step.eq_of_fails hfails hlasting, fun _ hvanishes => hvanishes.cancel⟩

/-- The record of a contract that was made, changed and canceled. -/
def canceledRecord : Contract := { (plainRequest 1).contract 7 1 with deploymentHash := "hash", state := .deleted }

/-- Two contracts are made and one of them is changed; then the other vanishes, and the first is canceled. -/
theorem lifecycle_of_two : ∃ l, Log (.new 7) [.query (.contract 1 (.ok canceledRecord)), .call (.cancel 1 (.ok ())),
      .call (.cancel 2 (.error (.notFound 2))), .call (.update 1 "hash" "" (.ok 1)),
      .call (.create (plainRequest 2) (.ok 2)), .call (.create (plainRequest 1) (.ok 1)), .call (.set (.vanish 2))] l ∧
    l.creates = 2 ∧ l.updates = 1 ∧ l.canceled = [1] ∧
      ∀ later l', Log l later l' → l'.contracts[(1 : ContractId)]? = some canceledRecord := by
  have hruns : Checked.passes (((Ledger.new 7).vanish 2).create (plainRequest 1)) (fun first =>
      first.1 = .ok 1 && Checked.passes (first.2.create (plainRequest 2)) fun second =>
        second.1 = .ok 2 &&
        let changed := second.2.update 1 "hash" ""
        let vanished := changed.2.cancel 2
        let canceled := vanished.2.cancel 1
        changed.1 = .ok 1 && vanished.1 = .error (.notFound 2) && canceled.1 = .ok () &&
          canceled.2.contract 1 = .ok canceledRecord) = true := by decide +kernel
  obtain ⟨⟨answer, l₁⟩, hfirst, hruns⟩ := Checked.exists_of_passes hruns
  simp only [Bool.and_eq_true, decide_eq_true_eq] at hruns
  obtain ⟨rfl, hruns⟩ := hruns
  obtain ⟨⟨answer, l₂⟩, hsecond, hruns⟩ := Checked.exists_of_passes hruns
  simp only [Bool.and_eq_true, decide_eq_true_eq] at hruns
  obtain ⟨rfl, ⟨⟨hupdate, hvanish⟩, hcancel⟩, hread⟩ := hruns
  have made := ((Log.start.call (.set (.new 7) (.vanish 2))).call (.create hfirst)).call (.create hsecond)
  have hanswered : Query.Answered _ (.contract 1 (.ok canceledRecord)) := hread
  have log := (((made.call (.update (Prod.ext hupdate rfl))).call (.cancel (Prod.ext hvanish rfl))).call
    (.cancel (Prod.ext hcancel rfl))).query hanswered
  obtain ⟨hrecorded, hendures, -, -⟩ := log.lifecycle
  refine ⟨_, log, hrecorded.creates, hrecorded.updates, hrecorded.canceled, fun later l' hlater => ?_⟩
  obtain ⟨k, hk, hcontinues⟩ := hendures later l' hlater 1 canceledRecord (getElem?_of_contract hread)
  rw [hk, hcontinues.final rfl]

end Ledger

end ComputeGrid
