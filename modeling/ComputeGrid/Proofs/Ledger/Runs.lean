import ComputeGrid.Proofs.Ledger.Operations

/-!
# Runs of a ledger

A run is a sequence of calls with their answers (`Ledger.Run`).  What the ledger is to refuse or to lose is set in between,
and contracts that were made elsewhere are put on it under numbers that are neither on it nor set aside (`Ledger.Step`).

A contract is put on the ledger when it is made and when it is inserted.  Everything else takes no number, and of a record
it changes no more than the hash, the metadata and the state, and nothing once the contract is canceled (`Ledger.Rewrites`).
-/

namespace ComputeGrid

open Std (ExtTreeMap)

namespace Ledger

variable {l l' l₁ l₂ : Ledger} {c : ContractId}

/-! ### Calls -/

/-- What a ledger can be told to refuse or to lose, and the balance it is to give. -/
inductive Setting where
  | refuseNode (node : NodeId)
  | refuseCancel (c : ContractId)
  | vanish (c : ContractId)
  | online (online : Bool)
  | balance (balance : UInt64)

def apply (l : Ledger) : Setting → Ledger
  | .refuseNode node => l.refuseNode node
  | .refuseCancel c => l.refuseCancel c
  | .vanish c => l.vanish c
  | .online online => { l with online := online }
  | .balance balance => { l with balance := balance }

/-- The numbers set aside for a node, first to last. -/
def queue (l : Ledger) (node : NodeId) : List ContractId := l.setAside.getD node []

/-- What is done to a ledger, with the answer. -/
inductive Call where
  | insert (k : Contract)
  | create (r : ContractRequest) (answer : Except LedgerError ContractId)
  | update (c : ContractId) (hash metadata : String) (answer : Except LedgerError ContractId)
  | cancel (c : ContractId) (answer : Except LedgerError Unit)
  | set (s : Setting)

/-- A call leads from one state of a ledger to another. -/
inductive Step : Ledger → Call → Ledger → Prop where
  | insert {l l' : Ledger} {k : Contract} (new : k.contractId ∉ l.contracts)
    (free : ∀ node, k.contractId ∉ l.queue node) (run : l.insert k = .ok l') : Step l (.insert k) l'
  | create {l l' : Ledger} {r : ContractRequest} {answer : Except LedgerError ContractId}
    (run : l.create r = .ok (answer, l')) : Step l (.create r answer) l'
  | update {l l' : Ledger} {c : ContractId} {hash metadata : String} {answer : Except LedgerError ContractId}
    (run : l.update c hash metadata = (answer, l')) : Step l (.update c hash metadata answer) l'
  | cancel {l l' : Ledger} {c : ContractId} {answer : Except LedgerError Unit} (run : l.cancel c = (answer, l')) :
    Step l (.cancel c answer) l'
  | set (l : Ledger) (s : Setting) : Step l (.set s) (l.apply s)

/-- What calls lead to, the latest first. -/
inductive Run (start : Ledger) : List Call → Ledger → Prop where
  | start : Run start [] start
  | call {calls : List Call} {call : Call} {l l' : Ledger} (before : Run start calls l) (step : Step l call l') :
    Run start (call :: calls) l'

/-- A contract with the node was made under the number. -/
def Issued (calls : List Call) (node : NodeId) (c : ContractId) : Prop :=
  ∃ r : ContractRequest, r.nodeId = node ∧ .create r (.ok c) ∈ calls

theorem Issued.cons {calls : List Call} {node : NodeId} (h : Issued calls node c) (call : Call) :
    Issued (call :: calls) node c := by
  obtain ⟨r, hr, hmem⟩ := h
  exact ⟨r, hr, List.mem_cons_of_mem call hmem⟩

/-! ### What is kept where no contract is put on the ledger -/

/-- A later state with the same numbers set aside and the same contracts on the ledger.  What is written in them may be another
hash, other metadata and another state, and nothing in those that have been canceled. -/
structure Rewrites (l l' : Ledger) : Prop where
  setAside : l'.setAside = l.setAside
  kept : ∀ c ∈ l.contracts, c ∈ l'.contracts
  records : ∀ (c : ContractId) (k' : Contract), l'.contracts[c]? = some k' → ∃ k : Contract, l.contracts[c]? = some k ∧
    k' = { k with deploymentHash := k'.deploymentHash, deploymentData := k'.deploymentData, state := k'.state }
  final : ∀ (c : ContractId) (k : Contract), l.contracts[c]? = some k → k.isActive = false → l'.contracts[c]? = some k

theorem Rewrites.of_eq (hsetAside : l'.setAside = l.setAside) (hcontracts : l'.contracts = l.contracts) :
    Rewrites l l' := by
  refine ⟨hsetAside, ?_, ?_, ?_⟩
  all_goals rw [hcontracts]
  · exact fun _ hc => hc
  · exact fun _ k' hk' => ⟨k', hk', rfl⟩
  · exact fun _ _ hk _ => hk

theorem Rewrites.refl (l : Ledger) : Rewrites l l := .of_eq rfl rfl

theorem Rewrites.queue (h : Rewrites l l') (node : NodeId) : l'.queue node = l.queue node := by
  rw [Ledger.queue, Ledger.queue, h.setAside]

/-- A contract that is active was active before. -/
theorem Rewrites.active (h : Rewrites l l') {k' : Contract} (hk' : l'.active? c = some k') :
    ∃ k, l.active? c = some k ∧
      k' = { k with deploymentHash := k'.deploymentHash, deploymentData := k'.deploymentData, state := k'.state } := by
  obtain ⟨hget', hactive'⟩ := active?_eq_some_iff.1 hk'
  obtain ⟨k, hk, heq⟩ := h.records c k' hget'
  refine ⟨k, active?_eq_some_iff.2 ⟨hk, ?_⟩, heq⟩
  cases hactive : k.isActive with
  | true => rfl
  | false =>
    cases hget'.symm.trans (h.final c k hk hactive)
    exact hactive.symm.trans hactive'

theorem Rewrites.isActive (h : Rewrites l l') (hactive : l'.IsActive c) : l.IsActive c := by
  obtain ⟨k', hk'⟩ := hactive
  obtain ⟨k, hk, -⟩ := h.active hk'
  exact ⟨k, hk⟩

theorem rewrites_update {hash metadata : String} {answer : Except LedgerError ContractId}
    (h : l.update c hash metadata = (answer, l')) : Rewrites l l' := by
  have hkept := (touches_update h).kept
  rcases update_cases h with ⟨-, -, rfl⟩ | ⟨-, -, rfl⟩ | ⟨k, -, hk, -, rfl⟩
  · exact .refl l'
  · exact .refl l'
  obtain ⟨hget, hactive⟩ := active?_eq_some_iff.1 hk
  refine ⟨rfl, hkept, fun c' k' hk' => ?_, fun c' k' hk' hinactive => ?_⟩
  · rcases getElem?_insert_eq_some hk' with ⟨rfl, rfl⟩ | ⟨-, hold⟩
    · exact ⟨k, hget, rfl⟩
    · exact ⟨k', hold, rfl⟩
  · have hne : c' ≠ c := by
      rintro rfl
      cases hget.symm.trans hk'
      rw [hactive] at hinactive
      cases hinactive
    exact (getElem?_insert_of_ne hne).trans hk'

theorem rewrites_delete (l : Ledger) (c : ContractId) : Rewrites l (l.delete c) := by
  have hothers (c' : ContractId) (hc : c' ≠ c) : (l.delete c).contracts[c']? = l.contracts[c']? := getElem?_modify_of_ne hc
  have hsame : (l.delete c).contracts[c]? = l.contracts[c]?.map fun k => { k with state := .deleted } :=
    ExtTreeMap.getElem?_modify_self
  refine ⟨rfl, (touches_delete l c).kept, fun c' k' hk' => ?_, fun c' k hk hinactive => ?_⟩
  · by_cases hc : c' = c
    · subst hc
      rw [hsame, Option.map_eq_some_iff] at hk'
      obtain ⟨k, hk, rfl⟩ := hk'
      exact ⟨k, hk, rfl⟩
    · exact ⟨k', (hothers c' hc).symm.trans hk', rfl⟩
  · by_cases hc : c' = c
    · subst hc
      have hstate : k.state = .deleted := by
        rwa [Contract.isActive, bne_eq_false_iff_eq] at hinactive
      rw [hsame, hk, Option.map_some, ← hstate]
    · exact (hothers c' hc).trans hk

theorem rewrites_cancel {answer : Except LedgerError Unit} (h : l.cancel c = (answer, l')) : Rewrites l l' := by
  have hdelete := rewrites_delete l c
  rcases cancel_cases h with ⟨-, -, rfl⟩ | ⟨-, -, rfl⟩ | ⟨-, -, -, -, rfl⟩ | ⟨-, -, -, -, rfl⟩
  · exact .refl l'
  · exact .refl l'
  · rw [settleVanishing]
    split
    · exact ⟨hdelete.setAside, hdelete.kept, hdelete.records, hdelete.final⟩
    · exact .refl l
  · exact ⟨hdelete.setAside, hdelete.kept, hdelete.records, hdelete.final⟩

theorem rewrites_apply (l : Ledger) (s : Setting) : Rewrites l (l.apply s) := by
  cases s <;> exact .of_eq rfl rfl

end Ledger

end ComputeGrid
