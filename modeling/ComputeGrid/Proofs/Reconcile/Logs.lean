import ComputeGrid.Proofs.Reconcile.History

/-!
# Logs of runs

A log lists what a run has written to the ledger and what nodes have taken, in order (`Grid.Log`).  Each entry is a call of
the ledger or of a node that was carried out, and what happens beside the entries makes and changes no contract and is no
matter of what nodes have taken (`Grid.Still`).  So a log leaves nothing out: it has as many writes as the ledger counts
(`Grid.Log.writes`), and it has what each node has taken (`Grid.Log.taken_eq`).  It can be taken apart at any entry
(`Grid.Log.split`).
-/

namespace ComputeGrid

open Std (ExtTreeMap)

namespace Ledger

variable {l l' : Ledger} {c c' : ContractId}

/-- The hash that a contract has, canceled or not. -/
def hash? (l : Ledger) (c : ContractId) : Option String := l.contracts[c]?.map (·.deploymentHash)

theorem hash?_delete (l : Ledger) (c c' : ContractId) : (l.delete c).hash? c' = l.hash? c' := by
  by_cases h : c' = c
  · subst h
    rw [hash?, delete, ExtTreeMap.getElem?_modify_self, Option.map_map]
    rfl
  · exact congrArg _ (getElem?_modify_of_ne h)

/-- A cancel changes no hash, and is no write. -/
theorem hash?_cancel {r : Except LedgerError Unit} (h : l.cancel c = (r, l')) :
    l'.creates = l.creates ∧ l'.updates = l.updates ∧ ∀ c', l'.hash? c' = l.hash? c' := by
  rcases cancel_cases h with ⟨-, -, rfl⟩ | ⟨-, -, rfl⟩ | ⟨-, -, -, -, rfl⟩ | ⟨-, -, -, -, rfl⟩
  · exact ⟨rfl, rfl, fun _ => rfl⟩
  · exact ⟨rfl, rfl, fun _ => rfl⟩
  · unfold settleVanishing
    split
    · exact ⟨rfl, rfl, l.hash?_delete c⟩
    · exact ⟨rfl, rfl, fun _ => rfl⟩
  · exact ⟨rfl, rfl, l.hash?_delete c⟩

theorem counts_create {r : ContractRequest} (h : l.create r = .ok (.ok c, l')) :
    l'.creates = l.creates + 1 ∧ l'.updates = l.updates := by
  rw [eq_of_create_ok h]
  exact ⟨rfl, rfl⟩

theorem counts_update {hash metadata : String} (h : l.update c hash metadata = (.ok c', l')) :
    l'.creates = l.creates ∧ l'.updates = l.updates + 1 := by
  rcases update_cases h with ⟨-, hres, -⟩ | ⟨-, hres, -⟩ | ⟨k, -, -, -, rfl⟩
  · cases hres
  · cases hres
  · exact ⟨rfl, rfl⟩

end Ledger

namespace Grid

variable {g g₁ g' : Grid} {node : NodeId} {d : Deployment}

/-! ### Entries -/

/-- What is seen of a run: a contract has been made or changed to have a hash, or a node has taken a deployment. -/
inductive Event where
  | wrote (contract : ContractId) (hash : String)
  | took (node : NodeId) (d : Deployment)

def Event.isWrite : Event → Bool
  | wrote _ _ => true
  | took _ _ => false

/-- What an entry says a node has taken under a contract. -/
def Event.taken? (n : NodeId) (c : ContractId) : Event → Option Deployment
  | wrote _ _ => none
  | took node d => if n = node ∧ c = d.contractId then some d else none

/-- No contract has been made or changed, and no node has taken anything. -/
structure Still (g g' : Grid) : Prop extends Steady g g', Quiet g g' where
  creates : g'.ledger.creates = g.ledger.creates
  updates : g'.ledger.updates = g.ledger.updates
  hashes : ∀ c, g'.ledger.hash? c = g.ledger.hash? c

theorem Asked.still {ms : List NodeMethod} {S : NodeId → ContractId → Prop} (h : Asked ms S g g') : Still g g' where
  toSteady := h.toSteady
  toQuiet := h.toQuiet
  creates := congrArg Ledger.creates h.ledger
  updates := congrArg Ledger.updates h.ledger
  hashes := fun c => congrArg (Ledger.hash? · c) h.ledger

theorem still_record (g : Grid) (node : NodeId) (name : String) : Still g (g.record node name) where
  toSteady := steady_record g node name
  toQuiet := quiet_record g node name
  creates := rfl
  updates := rfl
  hashes := fun _ => rfl

theorem still_cancel {c : ContractId} {r : Except LedgerError Unit} {l : Ledger} (h : g.ledger.cancel c = (r, l)) :
    Still g { g with ledger := l } := by
  obtain ⟨hcreates, hupdates, hhashes⟩ := Ledger.hash?_cancel h
  exact ⟨⟨rfl, rfl, fun _ => rfl⟩, .of_ledger (Ledger.touches_cancel h).toGrows, hcreates, hupdates, hhashes⟩

/-! ### Logs -/

/-- A run from one state to another, with what is seen of it in order. -/
inductive Log : List Event → Grid → Grid → Prop where
  | done {g : Grid} : Log [] g g
  | still {events : List Event} {g g₁ g' : Grid} (still : Still g g₁) (rest : Log events g₁ g') : Log events g g'
  | made {r : ContractRequest} {c : ContractId} {l : Ledger} {events : List Event} {g g' : Grid}
    (create : g.ledger.create r = .ok (.ok c, l)) (rest : Log events { g with ledger := l } g') :
    Log (.wrote c r.hash :: events) g g'
  | changed {c : ContractId} {hash metadata : String} {l : Ledger} {events : List Event} {g g' : Grid}
    (update : g.ledger.update c hash metadata = (.ok c, l)) (rest : Log events { g with ledger := l } g') :
    Log (.wrote c hash :: events) g g'
  | took {s : Submission} {node : NodeId} {d : Deployment} {events : List Event} {g g₁ g' : Grid}
    (taken : g.submit s node d = (.ok (), g₁)) (rest : Log events g₁ g') : Log (.took node d :: events) g g'

/-- A submission that succeeds is taken. -/
theorem submit_eq_ok {s : Submission} (h : g.submit s node d = (.ok (), g')) :
    ∃ n, Takes s node d g n ∧ g' = g.stored node n d := by
  rcases submit_cases s node d g with ⟨e, he, -⟩ | ⟨n, htakes, hok⟩
  · rw [h] at he
    cases he
  · rw [h] at hok
    cases hok
    exact ⟨n, htakes, rfl⟩

namespace Log

variable {events events' before after : List Event}

theorem append (h : Log events g g₁) (h' : Log events' g₁ g') : Log (events ++ events') g g' := by
  induction h with
  | done => exact h'
  | still hstill _ ih => exact .still hstill (ih h')
  | made hcreate _ ih => exact .made hcreate (ih h')
  | changed hupdate _ ih => exact .changed hupdate (ih h')
  | took htaken _ ih => exact .took htaken (ih h')

theorem attached (h : Log events g g') : g'.attached = g.attached := by
  induction h with
  | done => rfl
  | still hstill _ ih => exact ih.trans hstill.attached
  | made _ _ ih => exact ih
  | changed _ _ ih => exact ih
  | took htaken _ ih =>
    obtain ⟨n, -, rfl⟩ := submit_eq_ok htaken
    exact ih

/-- The ledger counts as many writes as there are. -/
theorem writes (h : Log events g g') :
    g'.ledger.creates + g'.ledger.updates = g.ledger.creates + g.ledger.updates + events.countP Event.isWrite := by
  induction h with
  | done => rfl
  | still hstill _ ih => rw [ih, hstill.creates, hstill.updates]
  | made hcreate _ ih =>
    obtain ⟨hcreates, hupdates⟩ := Ledger.counts_create hcreate
    rw [ih, List.countP_cons_of_pos rfl]
    dsimp only
    omega
  | changed hupdate _ ih =>
    obtain ⟨hcreates, hupdates⟩ := Ledger.counts_update hupdate
    rw [ih, List.countP_cons_of_pos rfl]
    dsimp only
    omega
  | took htaken _ ih =>
    obtain ⟨n, -, rfl⟩ := submit_eq_ok htaken
    rw [ih, List.countP_cons_of_neg Bool.false_ne_true]
    rfl

/-- What nodes have taken is what there was and what has been logged since. -/
theorem taken_eq (h : Log events g g') (n : NodeId) (c : ContractId) :
    g'.taken n c = g.taken n c ++ events.filterMap (Event.taken? n c) := by
  induction h with
  | done => rw [List.filterMap_nil, List.append_nil]
  | still hstill _ ih => rw [ih, hstill.taken]
  | made _ _ ih =>
    rw [ih, List.filterMap_cons_none rfl]
    rfl
  | changed _ _ ih =>
    rw [ih, List.filterMap_cons_none rfl]
    rfl
  | @took s node d events g g₁ g' htaken _ ih =>
    obtain ⟨k, htakes, rfl⟩ := submit_eq_ok htaken
    have htook := took_stored htakes.known (d := d)
    by_cases hat : n = node ∧ c = d.contractId
    · have hevent : (Event.took node d).taken? n c = some d := if_pos hat
      obtain ⟨rfl, rfl⟩ := hat
      rw [ih, htook.taken, List.filterMap_cons_some hevent, List.append_assoc, List.singleton_append]
    · have hevent : (Event.took node d).taken? n c = none := if_neg hat
      rw [ih, (htook.elsewhere n c hat).1, List.filterMap_cons_none hevent]

/-- What runs in the end is the last that was taken since, or else what ran before, up to its reports. -/
theorem exists_deployment (h : Log events g g') {n : NodeId} {c : ContractId} {stored : Deployment}
    (hstored : g'.deployment? n c = some stored) : ∃ d, stored.unreported = d.unreported ∧
      ((events.filterMap (Event.taken? n c)).getLast? = some d ∨
        events.filterMap (Event.taken? n c) = [] ∧ g.deployment? n c = some d) := by
  induction h with
  | done => exact ⟨stored, rfl, .inr ⟨rfl, hstored⟩⟩
  | still hstill _ ih =>
    obtain ⟨d, hsame, hlast | ⟨hnone, hd⟩⟩ := ih hstored
    · exact ⟨d, hsame, .inl hlast⟩
    · obtain ⟨d', hd', hsame'⟩ := hstill.found n c d hd
      exact ⟨d', hsame.trans hsame', .inr ⟨hnone, hd'⟩⟩
  | made _ _ ih => exact ih hstored
  | changed _ _ ih => exact ih hstored
  | @took s node d events g g₁ g' htaken _ ih =>
    obtain ⟨k, htakes, rfl⟩ := submit_eq_ok htaken
    have htook := took_stored htakes.known (d := d)
    obtain ⟨d', hsame, hcases⟩ := ih hstored
    by_cases hat : n = node ∧ c = d.contractId
    · have hevent : (Event.took node d).taken? n c = some d := if_pos hat
      rw [List.filterMap_cons_some hevent, List.getLast?_cons]
      obtain ⟨rfl, rfl⟩ := hat
      rcases hcases with hlast | ⟨hnone, hd'⟩
      · exact ⟨d', hsame, .inl (by rw [hlast, Option.getD_some])⟩
      · exact ⟨d, hsame.trans (htook.stored d' hd'), .inl (by rw [hnone]; rfl)⟩
    · have hevent : (Event.took node d).taken? n c = none := if_neg hat
      rw [List.filterMap_cons_none hevent, ← (htook.elsewhere n c hat).2]
      exact ⟨d', hsame, hcases⟩

/-- A run can be taken apart where a node has taken something. -/
theorem split (h : Log events g g') (heq : events = before ++ .took node d :: after) :
    ∃ s g₁ g₂, Log before g g₁ ∧ g₁.submit s node d = (.ok (), g₂) ∧ Log after g₂ g' := by
  induction h generalizing before with
  | done => cases List.append_ne_nil_of_right_ne_nil before (List.cons_ne_nil _ after) heq.symm
  | still hstill _ ih =>
    obtain ⟨s, g₁, g₂, hbefore, htaken, hafter⟩ := ih heq
    exact ⟨s, g₁, g₂, .still hstill hbefore, htaken, hafter⟩
  | made hcreate _ ih =>
    rcases before with _ | ⟨event, before⟩
    · cases heq
    · obtain ⟨rfl, hrest⟩ := List.cons.inj heq
      obtain ⟨s, g₁, g₂, hbefore, htaken, hafter⟩ := ih hrest
      exact ⟨s, g₁, g₂, .made hcreate hbefore, htaken, hafter⟩
  | changed hupdate _ ih =>
    rcases before with _ | ⟨event, before⟩
    · cases heq
    · obtain ⟨rfl, hrest⟩ := List.cons.inj heq
      obtain ⟨s, g₁, g₂, hbefore, htaken, hafter⟩ := ih hrest
      exact ⟨s, g₁, g₂, .changed hupdate hbefore, htaken, hafter⟩
  | took htaken hlog ih =>
    rcases before with _ | ⟨event, before⟩
    · cases heq
      exact ⟨_, _, _, .done, htaken, hlog⟩
    · obtain ⟨rfl, hrest⟩ := List.cons.inj heq
      obtain ⟨s, g₁, g₂, hbefore, htaken', hafter⟩ := ih hrest
      exact ⟨s, g₁, g₂, .took htaken hbefore, htaken', hafter⟩

end Log

end Grid

end ComputeGrid
