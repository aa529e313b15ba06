import ComputeGrid.Proofs.Ledger.Runs
import Mathlib.Data.List.Nodup

/-!
# Numbers that are given twice

The running number goes past the contracts that are on the ledger, but not past the numbers that are set aside, and a number
that was set aside is taken without a look at the ledger.  So a contract takes a number that is on the ledger
(`Ledger.Run.reissues_iff`) if the number was set aside for its node, but another node's contract came to it first; that
contract's record is then overwritten.

Along a run the numbers that are still set aside stay distinct, and those of them that are on the ledger are there for
another node than they were set aside for (`Ledger.Tracked`).
-/

namespace ComputeGrid

open Std (ExtTreeMap)

namespace Ledger

variable {l l' : Ledger} {c : ContractId} {node : NodeId} {calls : List Call} {numbers : List (NodeId × ContractId)}

/-! ### Numbers set aside -/

/-- The ledger of a twin with numbers set aside, before any contract. -/
def withNumbers (twinId : TwinId) (numbers : List (NodeId × ContractId)) : Ledger :=
  numbers.foldl (fun l (node, c) => l.setContractId node c) (.new twinId)

theorem queue_setContractId (l : Ledger) (node node' : NodeId) (c : ContractId) :
    (l.setContractId node c).queue node' = l.queue node' ++ if node = node' then [c] else [] := by
  rw [queue, setContractId, ExtTreeMap.getD_insert]
  simp only [Std.compare_eq_iff_eq]
  split
  next h =>
    subst h
    rfl
  next => rw [List.append_nil, queue]

theorem queue_foldl (l : Ledger) (numbers : List (NodeId × ContractId)) (node : NodeId) :
    (numbers.foldl (fun l (node, c) => l.setContractId node c) l).queue node =
      l.queue node ++ (numbers.filter (·.1 = node)).map Prod.snd := by
  induction numbers generalizing l with
  | nil => rw [List.foldl_nil, List.filter_nil, List.map_nil, List.append_nil]
  | cons e rest ih =>
    rw [List.foldl_cons, ih, queue_setContractId, List.filter_cons, List.append_assoc]
    by_cases h : e.1 = node
    · simp [h]
    · simp [h]

theorem queue_withNumbers (twinId : TwinId) (numbers : List (NodeId × ContractId)) (node : NodeId) :
    (withNumbers twinId numbers).queue node = (numbers.filter (·.1 = node)).map Prod.snd := by
  rw [withNumbers, queue_foldl]
  exact List.nil_append _

theorem contracts_withNumbers (twinId : TwinId) (numbers : List (NodeId × ContractId)) :
    (withNumbers twinId numbers).contracts = ∅ :=
  List.foldlRecOn numbers _ (motive := fun l : Ledger => l.contracts = ∅) rfl fun _ h _ _ => h

/-! ### Taking a number -/

theorem notMem_of_leastFree {contracts : ContractMap Contract} {left : Nat} {first : ContractId}
    (h : leastFree contracts left first = .ok c) : c ∉ contracts := by
  induction left generalizing first with
  | zero => cases h
  | succ left ih =>
    rw [leastFree] at h
    split at h
    next => exact ih h
    next hfree =>
      cases h
      exact hfree

/-- A number is taken from those set aside for the node as long as there are any; else it is one that is not on the
ledger. -/
theorem queue_takeNumber (h : l.takeNumber node = .ok (c, l')) :
    (l.queue node = c :: l'.queue node ∨ l.queue node = [] ∧ l'.queue node = [] ∧ c ∉ l.contracts) ∧
      ∀ node', node' ≠ node → l'.queue node' = l.queue node' := by
  unfold takeNumber at h
  split at h
  next contract rest hqueue =>
    cases h
    refine ⟨.inl ?_, fun node' hne => ?_⟩
    · rw [queue, queue, ExtTreeMap.getD_insert_self, ExtTreeMap.getD_eq_getD_getElem?, hqueue]
      rfl
    · rw [queue, queue, ExtTreeMap.getD_eq_getD_getElem?, getElem?_insert_of_ne hne, ExtTreeMap.getD_eq_getD_getElem?]
  next hqueue =>
    rw [Checked.bind_eq_ok] at h
    obtain ⟨contract, hfree, h⟩ := h
    cases h
    have hnone : l.queue node = [] := by
      rw [queue, ExtTreeMap.getD_eq_getD_getElem?]
      cases hget : l.setAside[node]? with
      | none => rfl
      | some numbers =>
        cases numbers with
        | nil => rfl
        | cons first rest => exact absurd hget (hqueue first rest)
    exact ⟨.inr ⟨hnone, hnone, notMem_of_leastFree hfree⟩, fun _ _ => rfl⟩

/-- A contract takes the first number that is set aside for its node, or one that is not on the ledger. -/
theorem queue_create {r : ContractRequest} (h : l.create r = .ok (.ok c, l')) :
    (l.queue r.nodeId = c :: l'.queue r.nodeId ∨
        l.queue r.nodeId = [] ∧ l'.queue r.nodeId = [] ∧ c ∉ l.contracts) ∧
      ∀ node, node ≠ r.nodeId → l'.queue node = l.queue node := by
  rcases create_steps h with ⟨-, hres, -⟩ | ⟨-, hres, -⟩ | ⟨c', m, m', -, -, htake, hadvance, hres, rfl⟩
  · cases hres
  · cases hres
  · cases hres
    have hsame (node : NodeId) : m'.queue node = m.queue node := by
      rw [queue, advance_ok hadvance, queue]
    have hqueue := queue_takeNumber htake
    rw [← hsame] at hqueue
    simp only [← hsame] at hqueue
    exact hqueue

/-- A number that is left aside when a contract takes another was set aside before. -/
theorem mem_queue_of_create {r : ContractRequest} (h : l.create r = .ok (.ok c, l')) {c' : ContractId}
    (hc : c' ∈ l'.queue node) : c' ∈ l.queue node := by
  obtain ⟨hown, hothers⟩ := queue_create h
  by_cases hnode : node = r.nodeId
  · subst hnode
    rcases hown with hqueue | ⟨-, hempty, -⟩
    · rw [hqueue]
      exact List.mem_cons_of_mem c hc
    · rw [hempty] at hc
      cases hc
  · rwa [hothers node hnode] at hc

/-! ### Runs -/

/-- What holds at every point of a run: the numbers still set aside are distinct, what was issued is on the ledger, and where
a number set aside is on the ledger, it was issued for another node. -/
structure Tracked (calls : List Call) (l : Ledger) : Prop where
  nodup : ∀ node, (l.queue node).Nodup
  apart : ∀ node node' c, c ∈ l.queue node → c ∈ l.queue node' → node = node'
  recorded : ∀ node c, Issued calls node c → c ∈ l.contracts
  met : ∀ node c k, c ∈ l.queue node → l.contracts[c]? = some k → k.nodeId ≠ node ∧ Issued calls k.nodeId c

theorem tracked_withNumbers (h : (numbers.map Prod.snd).Nodup) (twinId : TwinId) :
    Tracked [] (withNumbers twinId numbers) := by
  have hmem (node : NodeId) (c : ContractId) (hc : c ∈ (withNumbers twinId numbers).queue node) : (node, c) ∈ numbers := by
    rw [queue_withNumbers, List.mem_map] at hc
    obtain ⟨⟨node', c'⟩, he, rfl⟩ := hc
    obtain ⟨he, hnode⟩ := List.mem_filter.1 he
    rwa [← of_decide_eq_true hnode]
  constructor
  case nodup =>
    intro node
    rw [queue_withNumbers]
    exact h.sublist (List.filter_sublist.map Prod.snd)
  case apart =>
    intro node node' c hc hc'
    have heq := List.inj_on_of_nodup_map h (hmem node c hc) (hmem node' c hc') rfl
    exact congrArg Prod.fst heq
  case recorded =>
    rintro node c ⟨r, -, hr⟩
    cases hr
  case met =>
    intro node c k _ hk
    rw [contracts_withNumbers, ExtTreeMap.getElem?_empty] at hk
    cases hk

/-- Where no contract is put on the ledger and none is issued. -/
theorem Tracked.of_rewrites (h : Tracked calls l) (hl : Rewrites l l') {call : Call}
    (hcall : ∀ r c, call ≠ .create r (.ok c)) : Tracked (call :: calls) l' := by
  constructor
  case nodup =>
    intro node
    rw [hl.queue]
    exact h.nodup node
  case apart =>
    intro node node' c hc hc'
    rw [hl.queue] at hc hc'
    exact h.apart node node' c hc hc'
  case recorded =>
    rintro node c ⟨r, hnode, hr⟩
    rcases List.mem_cons.1 hr with heq | hr
    · exact absurd heq.symm (hcall r c)
    · exact hl.kept c (h.recorded node c ⟨r, hnode, hr⟩)
  case met =>
    intro node c k' hc hk'
    rw [hl.queue] at hc
    obtain ⟨k, hk, heq⟩ := hl.records c k' hk'
    obtain ⟨hne, hissued⟩ := h.met node c k hc hk
    rw [heq]
    exact ⟨hne, hissued.cons call⟩

/-- A contract that is inserted has none of the numbers that are set aside. -/
theorem Tracked.insert {k : Contract} (h : Tracked calls l) (hfree : ∀ node, k.contractId ∉ l.queue node)
    (run : l.insert k = .ok l') : Tracked (.insert k :: calls) l' := by
  rw [Ledger.insert, Checked.bind_eq_ok] at run
  obtain ⟨m, hm, run⟩ := run
  cases run
  rw [advance_ok hm]
  constructor
  case nodup => exact h.nodup
  case apart => exact h.apart
  case recorded =>
    rintro node c ⟨r, hnode, hr⟩
    obtain hr := (List.mem_cons.1 hr).resolve_left nofun
    exact ExtTreeMap.mem_insert.2 (.inr (h.recorded node c ⟨r, hnode, hr⟩))
  case met =>
    intro node c k' hc hk'
    rcases getElem?_insert_eq_some hk' with ⟨rfl, rfl⟩ | ⟨-, hold⟩
    · exact absurd hc (hfree node)
    · obtain ⟨hne, hissued⟩ := h.met node c k' hc hold
      exact ⟨hne, hissued.cons _⟩

/-- A number that stays aside is not the one that a contract takes, unless the contract came to it as the running number;
then it is another node's. -/
theorem Tracked.create {r : ContractRequest} (h : Tracked calls l) (run : l.create r = .ok (.ok c, l')) :
    Tracked (.create r (.ok c) :: calls) l' := by
  obtain ⟨hown, hothers⟩ := queue_create run
  have hcontracts : l'.contracts = l.contracts.insert c (r.contract l.twinId c) :=
    (congrArg contracts (eq_of_create_ok run) :)
  constructor
  case nodup =>
    intro node
    by_cases hnode : node = r.nodeId
    · subst hnode
      rcases hown with hqueue | ⟨-, hempty, -⟩
      · have hnodup := h.nodup r.nodeId
        rw [hqueue] at hnodup
        exact hnodup.of_cons
      · rw [hempty]
        exact List.nodup_nil
    · rw [hothers node hnode]
      exact h.nodup node
  case apart =>
    intro node node' c' hc hc'
    exact h.apart node node' c' (mem_queue_of_create run hc) (mem_queue_of_create run hc')
  case recorded =>
    rintro node c' ⟨r', hnode, hr'⟩
    rw [hcontracts, ExtTreeMap.mem_insert, Std.compare_eq_iff_eq]
    rcases List.mem_cons.1 hr' with heq | hr'
    · cases heq
      exact .inl rfl
    · exact .inr (h.recorded node c' ⟨r', hnode, hr'⟩)
  case met =>
    intro node c' k hc' hk
    rw [hcontracts] at hk
    rcases getElem?_insert_eq_some hk with ⟨rfl, rfl⟩ | ⟨-, hold⟩
    · refine ⟨?_, r, rfl, List.mem_cons_self⟩
      rintro rfl
      -- it would have been left aside for the very node that has taken it
      rcases hown with hqueue | ⟨-, hempty, -⟩
      · have hnodup := h.nodup r.nodeId
        rw [hqueue] at hnodup
        exact (List.nodup_cons.1 hnodup).1 hc'
      · rw [show (r.contract l.twinId c').nodeId = r.nodeId from rfl, hempty] at hc'
        cases hc'
    · obtain ⟨hne, hissued⟩ := h.met node c' k (mem_queue_of_create run hc') hold
      exact ⟨hne, hissued.cons _⟩

theorem Tracked.step {call : Call} (h : Tracked calls l) (step : Step l call l') : Tracked (call :: calls) l' := by
  cases step with
  | insert new free run => exact h.insert free run
  | @create l' r answer run =>
    cases answer with
    | ok c => exact h.create run
    | error e =>
      rw [eq_of_create_error run]
      exact h.of_rewrites (.refl l) nofun
  | update run => exact h.of_rewrites (rewrites_update run) nofun
  | cancel run => exact h.of_rewrites (rewrites_cancel run) nofun
  | set s => exact h.of_rewrites (rewrites_apply l s) nofun

namespace Run

variable {start : Ledger} {twinId : TwinId}

theorem tracked (run : Run start calls l) (h : Tracked [] start) : Tracked calls l := by
  induction run with
  | start => exact h
  | call before step ih => exact ih.step step

/-- A contract takes a number that is on the ledger exactly if the number was set aside for its node and was issued for
another node before; and that is when another contract's record is overwritten. -/
theorem reissues_iff (run : Run (withNumbers twinId numbers) calls l) (h : (numbers.map Prod.snd).Nodup)
    {r : ContractRequest} (hcreate : l.create r = .ok (.ok c, l')) :
    (c ∈ l.contracts ↔ (∃ rest, l.queue r.nodeId = c :: rest) ∧ ∃ node, node ≠ r.nodeId ∧ Issued calls node c) ∧
      ((∀ c' ∈ l.contracts, l'.contracts[c']? = l.contracts[c']?) ↔ c ∉ l.contracts) := by
  have htracked := run.tracked (tracked_withNumbers h twinId)
  have hqueue (hc : c ∈ l.contracts) : ∃ rest, l.queue r.nodeId = c :: rest := by
    rcases (queue_create hcreate).1 with hqueue | ⟨-, -, hnew⟩
    · exact ⟨_, hqueue⟩
    · exact absurd hc hnew
  have hmet (k : Contract) (hk : l.contracts[c]? = some k) : k.nodeId ≠ r.nodeId ∧ Issued calls k.nodeId c := by
    obtain ⟨rest, hrest⟩ := hqueue (mem_iff_exists_getElem?.2 ⟨k, hk⟩)
    exact htracked.met r.nodeId c k (hrest ▸ List.mem_cons_self) hk
  refine ⟨⟨fun hc => ?_, ?_⟩, fun hsame hc => ?_, fun hnew c' hc' => ?_⟩
  · obtain ⟨k, hk⟩ := mem_iff_exists_getElem?.1 hc
    exact ⟨hqueue hc, k.nodeId, hmet k hk⟩
  · rintro ⟨-, node, -, hissued⟩
    exact htracked.recorded node c hissued
  · -- the record that was there is of another node's contract
    obtain ⟨k, hk⟩ := mem_iff_exists_getElem?.1 hc
    have hmade := (active?_eq_some_iff.1 (active?_create hcreate)).1
    rw [hsame c hc, hk] at hmade
    cases hmade
    exact (hmet _ hk).1 rfl
  · exact (touches_create hcreate).others c' fun heq => hnew (heq ▸ hc')

end Run

/-- A request for a contract with a node. -/
def plainRequest (node : NodeId) : ContractRequest := ⟨node, "", "", 0, none⟩

/-- Number 1 is set aside for node 2, but node 1 comes first. -/
theorem reissues_one : ∃ l l', Run (withNumbers 7 [(2, 1)]) [.create (plainRequest 1) (.ok 1)] l ∧
    l.create (plainRequest 2) = .ok (.ok 1, l') ∧ 1 ∈ l.contracts ∧
      ¬ ∀ c ∈ l.contracts, l'.contracts[c]? = l.contracts[c]? := by
  have hruns : Checked.passes ((withNumbers 7 [(2, 1)]).create (plainRequest 1)) (fun (answer, l) =>
      answer = .ok 1 && l.queue 2 = [1] && Checked.passes (l.create (plainRequest 2)) fun (answer', _) =>
        answer' = .ok 1) = true := by decide +kernel
  obtain ⟨⟨answer, l⟩, hfirst, hrest⟩ := Checked.exists_of_passes hruns
  obtain ⟨hnow, hrest⟩ := Bool.and_eq_true_iff.1 hrest
  obtain ⟨hone, hqueue⟩ := Bool.and_eq_true_iff.1 hnow
  obtain ⟨⟨answer', l'⟩, hsecond, hone'⟩ := Checked.exists_of_passes hrest
  obtain rfl := of_decide_eq_true hone
  obtain rfl := of_decide_eq_true hone'
  have run : Run (withNumbers 7 [(2, 1)]) [.create (plainRequest 1) (.ok 1)] l := .call .start (.create hfirst)
  have hissued : Issued [.create (plainRequest 1) (.ok 1)] 1 1 := ⟨plainRequest 1, rfl, List.mem_cons_self⟩
  obtain ⟨hreissues, hkept⟩ := run.reissues_iff (by decide) hsecond
  have hmem : 1 ∈ l.contracts := hreissues.2 ⟨⟨[], of_decide_eq_true hqueue⟩, 1, by decide, hissued⟩
  exact ⟨l, l', run, hsecond, hmem, fun hsame => hkept.1 hsame hmem⟩

end Ledger

end ComputeGrid
