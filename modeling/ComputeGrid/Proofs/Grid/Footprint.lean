import ComputeGrid.Grid.Exchanges
import ComputeGrid.Proofs.Deployment.Content
import ComputeGrid.Proofs.Ledger.Operations

/-!
# How far a computation reaches

Relations between an earlier and a later state of the grid, each reflexive and transitive:

* `Grid.Steady`: the nodes behave as they did.  Nothing that a deployer does changes this.
* `Grid.Quiet`: no node has taken anything.  What a node runs it ran before, up to its reports.
* `Grid.Asked`: nodes were asked questions.  The ledger is as it was, and so is every deployment whose
  contract is not over, up to its reports.
* `Grid.Touches`: one node and one contract were worked on.  All other deployments and contracts are as
  they were.
-/

namespace ComputeGrid

open Std (ExtTreeMap)

/-- How a node behaves, apart from what it runs and what it has taken. -/
def Node.traits (n : Node) : Node := { n with deployments := ∅, pendingPolls := ∅, taken := [] }

namespace Grid

variable {g g' g₁ g₂ : Grid} {node : NodeId} {contract : ContractId}

/-! ### Behavior -/

/-- The nodes behave as they did, towards the ledger and by themselves. -/
structure Steady (g g' : Grid) : Prop where
  attached : g'.attached = g.attached
  inventory : g'.inventory = g.inventory
  traits : ∀ n : NodeId, g'.nodes[n]?.map Node.traits = g.nodes[n]?.map Node.traits

theorem Steady.refl (g : Grid) : Steady g g := ⟨rfl, rfl, fun _ => rfl⟩

theorem Steady.trans (h₁ : Steady g g₁) (h₂ : Steady g₁ g₂) : Steady g g₂ :=
  ⟨h₂.attached.trans h₁.attached, h₂.inventory.trans h₁.inventory,
    fun n => (h₂.traits n).trans (h₁.traits n)⟩

theorem Steady.symm (h : Steady g g') : Steady g' g :=
  ⟨h.attached.symm, h.inventory.symm, fun n => (h.traits n).symm⟩

/-- A node at a later time, given what it was before. -/
theorem Steady.exists_node {n : Node} (h : Steady g g') (hn : g.nodes[node]? = some n) :
    ∃ n', g'.nodes[node]? = some n' ∧ n'.traits = n.traits := by
  have htraits := h.traits node
  rw [hn, Option.map_some, Option.map_eq_some_iff] at htraits
  exact htraits

/-- The node answers within a time. -/
def Answers (g : Grid) (node : NodeId) (timeout : Duration) : Prop :=
  ∃ n, g.nodes[node]? = some n ∧ n.down = false ∧ n.latency ≤ timeout.ceilMillis

theorem Steady.answers {timeout : Duration} (h : Steady g g') (hg : g.Answers node timeout) :
    g'.Answers node timeout := by
  obtain ⟨n, hn, hdown, hlatency⟩ := hg
  obtain ⟨n', hn', htraits⟩ := h.exists_node hn
  have hdown' : n'.down = n.down := (congrArg Node.down htraits :)
  have hlatency' : n'.latency = n.latency := (congrArg Node.latency htraits :)
  exact ⟨n', hn', hdown' ▸ hdown, hlatency' ▸ hlatency⟩

theorem isOver_congr (hattached : g'.attached = g.attached)
    (hcontract : g'.ledger.contracts[contract]? = g.ledger.contracts[contract]?) :
    g'.isOver contract = g.isOver contract := by
  rw [isOver, isOver, hattached, Ledger.active?_congr hcontract]

theorem isOver_eq_false_of_isActive (h : g.ledger.IsActive contract) : g.isOver contract = false := by
  obtain ⟨k, hk⟩ := h
  rw [isOver, hk, Option.isNone_some, Bool.and_false]

/-- On attached nodes a contract that is not over is active. -/
theorem isActive_of_isOver_eq_false (hattached : g.attached = true) (h : g.isOver contract = false) :
    g.ledger.IsActive contract := by
  rw [isOver, hattached, Bool.true_and] at h
  exact Option.isSome_iff_exists.mp (Option.isNone_eq_false_iff.mp h)

/-- Nodes do not forget a contract that stays active. -/
theorem isOver_of_isActive_imp (hattached : g'.attached = g.attached)
    (hactive : g.ledger.IsActive contract → g'.ledger.IsActive contract) (h : g.isOver contract = false) :
    g'.isOver contract = false := by
  by_cases hg : g.attached = true
  · exact isOver_eq_false_of_isActive (hactive (isActive_of_isOver_eq_false hg h))
  · rw [isOver, hattached, Bool.eq_false_iff.mpr hg, Bool.false_and]

/-! ### What has been taken -/

/-- The deployments that a node has taken under a contract, first to last. -/
def taken (g : Grid) (node : NodeId) (contract : ContractId) : List Deployment :=
  ((g.nodes[node]?.map (·.taken)).getD []).filter (·.contractId = contract)

theorem taken_congr {g g' : Grid} {n : NodeId}
    (h : g'.nodes[n]?.map (·.taken) = g.nodes[n]?.map (·.taken)) (c : ContractId) : g'.taken n c = g.taken n c := by
  rw [taken, h, taken]

/-- No deployment has been taken: what nodes run they ran before, up to its reports, and no record has gone from the
ledger. -/
structure Quiet (g g' : Grid) : Prop where
  records : ∀ c ∈ g.ledger.contracts, c ∈ g'.ledger.contracts
  taken : ∀ n c, g'.taken n c = g.taken n c
  found : ∀ n c d', g'.deployment? n c = some d' → ∃ d, g.deployment? n c = some d ∧ d'.unreported = d.unreported

namespace Quiet

theorem refl (g : Grid) : Quiet g g := ⟨fun _ h => h, fun _ _ => rfl, fun _ _ d hd => ⟨d, hd, rfl⟩⟩

theorem trans (h₁ : Quiet g g₁) (h₂ : Quiet g₁ g₂) : Quiet g g₂ where
  records := fun c hc => h₂.records c (h₁.records c hc)
  taken := fun n c => (h₂.taken n c).trans (h₁.taken n c)
  found := by
    intro n c d₂ hd₂
    obtain ⟨d₁, hd₁, hsame₂⟩ := h₂.found n c d₂ hd₂
    obtain ⟨d, hd, hsame₁⟩ := h₁.found n c d₁ hd₁
    exact ⟨d, hd, hsame₂.trans hsame₁⟩

/-- A change of the ledger is no matter of the nodes. -/
theorem of_ledger {l : Ledger} (h : Ledger.Grows g.ledger l) : Quiet g { g with ledger := l } :=
  ⟨h.kept, fun _ _ => rfl, fun _ _ d hd => ⟨d, hd, rfl⟩⟩

end Quiet

/-! ### Calls -/

/-- All calls that have been sent since are of a kind. -/
def Called (P : NodeId × String → Prop) (g g' : Grid) : Prop :=
  ∃ new, g'.calls = new ++ g.calls ∧ ∀ x ∈ new, P x

namespace Called

variable {P Q : NodeId × String → Prop}

theorem trans (h₁ : Called P g g₁) (h₂ : Called P g₁ g₂) : Called P g g₂ := by
  obtain ⟨new₁, hcalls₁, hnew₁⟩ := h₁
  obtain ⟨new₂, hcalls₂, hnew₂⟩ := h₂
  refine ⟨new₂ ++ new₁, by rw [hcalls₂, hcalls₁, List.append_assoc], fun x hx => ?_⟩
  rcases List.mem_append.mp hx with hx | hx
  · exact hnew₂ x hx
  · exact hnew₁ x hx

theorem mono (h : Called P g g') (hPQ : ∀ x, P x → Q x) : Called Q g g' := by
  obtain ⟨new, hcalls, hnew⟩ := h
  exact ⟨new, hcalls, fun x hx => hPQ x (hnew x hx)⟩

/-- Calls of another kind are not counted. -/
theorem callsTo (h : Called P g g') (n : NodeId) (name : String) (hother : ¬ P (n, name)) :
    g'.callsTo n name = g.callsTo n name := by
  obtain ⟨new, hcalls, hnew⟩ := h
  have hnone : new.countP (fun c => c.1 == n && c.2 == name) = 0 := by
    rw [List.countP_eq_zero]
    rintro ⟨n', name'⟩ hx hsame
    rw [Bool.and_eq_true, beq_iff_eq, beq_iff_eq] at hsame
    obtain ⟨rfl, rfl⟩ := hsame
    exact hother (hnew _ hx)
  rw [Grid.callsTo, hcalls, List.countP_append, hnone, Nat.zero_add, ← Grid.callsTo]

end Called

/-! ### Questions -/

/-- One node and one contract. -/
def At (node : NodeId) (contract : ContractId) : NodeId → ContractId → Prop :=
  fun n c => n = node ∧ c = contract

variable {ms ms' : List NodeMethod} {S S' : NodeId → ContractId → Prop}

/-- Questions were asked by methods `ms`, of the nodes and for the contracts in `S`. -/
structure Asked (ms : List NodeMethod) (S : NodeId → ContractId → Prop) (g g' : Grid) : Prop extends
    Steady g g', Quiet g g' where
  ledger : g'.ledger = g.ledger
  elsewhere : ∀ n c, ¬ S n c → g'.deployment? n c = g.deployment? n c
  kept : ∀ n c, g.isOver c = false →
    (g'.deployment? n c).map Deployment.unreported = (g.deployment? n c).map Deployment.unreported
  calls : ∃ new, g'.calls = new ++ g.calls ∧ ∀ x ∈ new, (∃ c, S x.1 c) ∧ ∃ m ∈ ms, x.2 = m.text

namespace Asked

theorem refl (ms : List NodeMethod) (S : NodeId → ContractId → Prop) (g : Grid) : Asked ms S g g :=
  ⟨Steady.refl g, Quiet.refl g, rfl, fun _ _ _ => rfl, fun _ _ _ => rfl, [], rfl, nofun⟩

theorem isOver (h : Asked ms S g g') (c : ContractId) : g'.isOver c = g.isOver c :=
  isOver_congr h.attached (by rw [h.ledger])

theorem trans (h₁ : Asked ms S g g₁) (h₂ : Asked ms S g₁ g₂) : Asked ms S g g₂ where
  toSteady := h₁.toSteady.trans h₂.toSteady
  toQuiet := h₁.toQuiet.trans h₂.toQuiet
  ledger := h₂.ledger.trans h₁.ledger
  elsewhere := fun n c hS => (h₂.elsewhere n c hS).trans (h₁.elsewhere n c hS)
  kept := fun n c hc => (h₂.kept n c ((h₁.isOver c).trans hc)).trans (h₁.kept n c hc)
  calls := Called.trans h₁.calls h₂.calls

theorem mono (h : Asked ms S g g') (hms : ∀ m ∈ ms, m ∈ ms') (hS : ∀ n c, S n c → S' n c) :
    Asked ms' S' g g' where
  toSteady := h.toSteady
  toQuiet := h.toQuiet
  ledger := h.ledger
  elsewhere := fun n c hc => h.elsewhere n c fun hS' => hc (hS n c hS')
  kept := h.kept
  calls := by
    refine Called.mono h.calls ?_
    rintro x ⟨⟨c, hc⟩, m, hm, hx⟩
    exact ⟨⟨c, hS _ _ hc⟩, m, hms m hm, hx⟩

/-- A deployment whose contract is not over is still there after questions, up to its reports. -/
theorem exists_deployment {n : NodeId} {c : ContractId} {d : Deployment} (h : Asked ms S g g')
    (hc : g.isOver c = false) (hd : g.deployment? n c = some d) :
    ∃ d', g'.deployment? n c = some d' ∧ d'.unreported = d.unreported := by
  have hkept := h.kept n c hc
  rw [hd, Option.map_some, Option.map_eq_some_iff] at hkept
  exact hkept

/-- Where only deployments were asked for, every call was such a question. -/
theorem only_get (h : Asked [.get] S g g') :
    ∃ new, g'.calls = new ++ g.calls ∧ ∀ x ∈ new, x.2 = NodeMethod.get.text := by
  refine Called.mono h.calls ?_
  rintro x ⟨_, m, hm, hx⟩
  rw [hx, List.mem_singleton.mp hm]

/-- Questions are no calls of other methods. -/
theorem callsTo {name : String} (h : Asked ms S g g') (hname : ∀ m ∈ ms, m.text ≠ name) (n : NodeId) :
    g'.callsTo n name = g.callsTo n name := by
  refine Called.callsTo h.calls n name ?_
  rintro ⟨_, m, hm, hx⟩
  exact hname m hm hx.symm

/-- Questions for deployments are no calls of other methods. -/
theorem callsTo_of_get {m : NodeMethod} (h : Asked [.get] S g g') (hm : m ≠ .get) (n : NodeId) :
    g'.callsTo n m.text = g.callsTo n m.text := by
  refine h.callsTo (fun m' hm' heq => hm ?_) n
  have hsame := congrArg NodeMethod.ofText? heq
  rw [NodeMethod.ofText?_text, NodeMethod.ofText?_text, List.mem_singleton.mp hm'] at hsame
  exact (Option.some.inj hsame).symm

end Asked

/-! ### Work on one node -/

/-- One node and one contract were worked on. -/
structure Touches (node : NodeId) (contract : ContractId) (g g' : Grid) : Prop extends Steady g g' where
  ledger : Ledger.Touches contract g.ledger g'.ledger
  elsewhere : ∀ n c, ¬ At node contract n c → g'.deployment? n c = g.deployment? n c
  calls : ∃ new, g'.calls = new ++ g.calls ∧ ∀ x ∈ new, x.1 = node

namespace Touches

theorem refl (node : NodeId) (contract : ContractId) (g : Grid) : Touches node contract g g :=
  ⟨Steady.refl g, Ledger.Touches.refl contract g.ledger, fun _ _ _ => rfl, [], rfl, nofun⟩

theorem trans (h₁ : Touches node contract g g₁) (h₂ : Touches node contract g₁ g₂) :
    Touches node contract g g₂ where
  toSteady := h₁.toSteady.trans h₂.toSteady
  ledger := h₁.ledger.trans h₂.ledger
  elsewhere := fun n c hc => (h₂.elsewhere n c hc).trans (h₁.elsewhere n c hc)
  calls := Called.trans h₁.calls h₂.calls

/-- Work on one node is no call of another. -/
theorem callsTo_of_ne {n : NodeId} (h : Touches node contract g g') (hn : n ≠ node) (name : String) :
    g'.callsTo n name = g.callsTo n name :=
  Called.callsTo h.calls n name hn

/-- A change of the record of one contract touches no node. -/
theorem of_ledger (node : NodeId) {l : Ledger} (h : Ledger.Touches contract g.ledger l) :
    Touches node contract g { g with ledger := l } :=
  ⟨⟨rfl, rfl, fun _ => rfl⟩, h, fun _ _ _ => rfl, [], rfl, nofun⟩

end Touches

/-- Questions to a node for a contract are work on these. -/
theorem Asked.touches (h : Asked ms (At node contract) g g') : Touches node contract g g' where
  toSteady := h.toSteady
  ledger := h.ledger ▸ Ledger.Touches.refl contract g.ledger
  elsewhere := h.elsewhere
  calls := Called.mono h.calls fun _ hx => hx.1.choose_spec.1

end Grid

end ComputeGrid
