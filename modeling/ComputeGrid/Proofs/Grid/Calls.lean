import ComputeGrid.Proofs.Grid.Footprint

/-!
# What calls of nodes do

An operation of the ledger changes nothing but the ledger.  A call with a timeout is not answered at all, or
is answered by the grid as it is when the answer is due (`exchange_within`).  A node takes a submission
exactly when `Grid.Takes` holds (`submit_cases`): the deployment is valid, signed and covered by its contract
(`refusal?_eq_none_iff`), and the node does not reject it (`rejection?_first_eq_none_iff`,
`rejection?_change_eq_none_iff`).  Questions leave what `Grid.Asked` says (`asked_lookUp`, `asked_observe`).
-/

namespace ComputeGrid

open Std (ExtTreeMap)

/-! ### Nodes -/

namespace Node

variable {n : Node} {contract c : ContractId} {d : Deployment}

theorem store_deployments_self (n : Node) (d : Deployment) : (n.store d).deployments[d.contractId]? =
    some (provisioned n.provisioning n.deployments[d.contractId]? d) :=
  ExtTreeMap.getElem?_insert_self

theorem store_deployments_of_ne (h : c ≠ d.contractId) : (n.store d).deployments[c]? = n.deployments[c]? :=
  getElem?_insert_of_ne h

theorem traits_progress (n : Node) (contract : ContractId) : (n.progress contract).traits = n.traits := by
  unfold progress
  cases n.deployments[contract]? with
  | none => rfl
  | some d =>
    cases h : n.provisioning with
    | afterPolls => simp only [traits, h]
    | onePerPoll => simp only [traits, h]
    | instant | stuck | fail => rfl

/-- Progress replaces the workloads of one deployment by the same ones with other reports, if anything. -/
theorem progress_deployments (n : Node) (contract : ContractId) :
    (n.progress contract).deployments = n.deployments ∨
    ∃ d ws, n.deployments[contract]? = some d ∧
      ws.map Workload.unreported = d.workloads.map Workload.unreported ∧
      (n.progress contract).deployments = n.deployments.insert contract { d with workloads := ws } := by
  unfold progress
  cases hd : n.deployments[contract]? with
  | none => exact .inl rfl
  | some d =>
    cases n.provisioning with
    | afterPolls =>
      dsimp only
      generalize (if n.pendingPolls.getD contract 0 = 0 then (0 : UInt32) else _) = left
      split
      · refine .inr ⟨d, _, rfl, ?_, rfl⟩
        simp only [List.map_map, Function.comp_def, unreported_ready]
      · exact .inl rfl
    | onePerPoll => exact .inr ⟨d, _, rfl, map_unreported_readyFirst d.workloads, rfl⟩
    | instant | stuck | fail => exact .inl rfl

theorem progress_deployments_of_ne (h : c ≠ contract) :
    (n.progress contract).deployments[c]? = n.deployments[c]? := by
  rcases n.progress_deployments contract with heq | ⟨d, ws, _, _, heq⟩
  · rw [heq]
  · rw [heq, getElem?_insert_of_ne h]

theorem progress_unreported (n : Node) (contract : ContractId) :
    (n.progress contract).deployments[contract]?.map Deployment.unreported =
      n.deployments[contract]?.map Deployment.unreported := by
  rcases n.progress_deployments contract with heq | ⟨d, ws, hd, hws, heq⟩
  · rw [heq]
  · rw [heq, ExtTreeMap.getElem?_insert_self, hd, Option.map_some, Option.map_some, Deployment.unreported, hws]
    rfl

theorem taken_progress (n : Node) (contract : ContractId) : (n.progress contract).taken = n.taken := by
  unfold progress
  cases n.deployments[contract]? with
  | none => rfl
  | some d => cases n.provisioning <;> rfl

/-- A change that nodes make of themselves when they are asked about a contract. -/
structure Inquiry (contract : ContractId) (f : Node → Node) : Prop where
  traits : ∀ n, (f n).traits = n.traits
  taken : ∀ n, (f n).taken = n.taken
  others : ∀ n c, c ≠ contract → (f n).deployments[c]? = n.deployments[c]?
  found : ∀ n d', (f n).deployments[contract]? = some d' →
    ∃ d, n.deployments[contract]? = some d ∧ d'.unreported = d.unreported

/-- What a node runs after an inquiry it ran before, up to its reports. -/
theorem Inquiry.exists_deployment {f : Node → Node} {d' : Deployment} (h : Inquiry contract f)
    (hd' : (f n).deployments[c]? = some d') : ∃ d, n.deployments[c]? = some d ∧ d'.unreported = d.unreported := by
  by_cases hc : c = contract
  · subst hc
    exact h.found n d' hd'
  · rw [h.others n c hc] at hd'
    exact ⟨d', hd', rfl⟩

theorem inquiry_erase (contract : ContractId) :
    Inquiry contract fun n => { n with deployments := n.deployments.erase contract } where
  traits := fun _ => rfl
  taken := fun _ => rfl
  others := fun _ _ hc => getElem?_erase_of_ne hc
  found := fun _ _ hd' => absurd rfl (getElem?_erase_eq_some hd').1

theorem inquiry_progress (contract : ContractId) : Inquiry contract fun n => n.progress contract where
  traits := fun n => n.traits_progress contract
  taken := fun n => n.taken_progress contract
  others := fun _ _ hc => progress_deployments_of_ne hc
  found := by
    intro n d' hd'
    have hsame := n.progress_unreported contract
    rw [hd', Option.map_some, eq_comm, Option.map_eq_some_iff] at hsame
    obtain ⟨d, hd, hunreported⟩ := hsame
    exact ⟨d, hd, hunreported.symm⟩

end Node

namespace Grid

variable {α : Type} {g g' : Grid} {node : NodeId} {contract : ContractId} {d : Deployment}
  {ms : List NodeMethod} {timeout : Duration} {t t' : Timeline Grid}

/-! ### The ledger -/

theorem cancelContract_run (contract : ContractId) (t : Timeline Grid) : cancelContract contract t =
    .ok ((t.state.ledger.cancel contract).1,
      { t with state := { t.state with ledger := (t.state.ledger.cancel contract).2 } }) := rfl

theorem updateContract_run (contract : ContractId) (hash metadata : String) (t : Timeline Grid) :
    updateContract contract hash metadata t =
      .ok ((t.state.ledger.update contract hash metadata).1,
        { t with state := { t.state with ledger := (t.state.ledger.update contract hash metadata).2 } }) := rfl

theorem createContract_eq_ok {r : ContractRequest} {res : Except LedgerError ContractId} :
    createContract r t = .ok (res, t') ↔
      ∃ l, t.state.ledger.create r = .ok (res, l) ∧ t' = { t with state := { t.state with ledger := l } } := by
  rw [createContract, Timed.updateChecked_eq_ok]
  simp only [Checked.bind_eq_ok, Checked.pure_eq_ok, Prod.exists, Prod.mk.injEq]
  constructor
  · rintro ⟨g, ⟨_, l, hcreate, rfl, rfl⟩, rfl⟩
    exact ⟨l, hcreate, rfl⟩
  · rintro ⟨l, hcreate, rfl⟩
    exact ⟨_, ⟨res, l, hcreate, rfl, rfl⟩, rfl⟩

/-! ### Sending -/

/-- The grid after a call has been sent. -/
def record (g : Grid) (node : NodeId) (name : String) : Grid := { g with calls := (node, name) :: g.calls }

theorem steady_record (g : Grid) (node : NodeId) (name : String) : Steady g (g.record node name) :=
  ⟨rfl, rfl, fun _ => rfl⟩

theorem touches_record (g : Grid) (node : NodeId) (contract : ContractId) (name : String) :
    Touches node contract g (g.record node name) := by
  refine ⟨steady_record g node name, Ledger.Touches.refl contract g.ledger, fun _ _ _ => rfl, [(node, name)], rfl, ?_⟩
  intro x hx
  rw [List.mem_singleton] at hx
  rw [hx]

theorem quiet_record (g : Grid) (node : NodeId) (name : String) : Quiet g (g.record node name) :=
  ⟨fun _ h => h, fun _ _ => rfl, fun _ _ d hd => ⟨d, hd, rfl⟩⟩

theorem asked_record {m : NodeMethod} (hm : m ∈ ms) (g : Grid) (node : NodeId) (contract : ContractId) :
    Asked ms (At node contract) g (g.record node m.text) := by
  refine ⟨steady_record g node m.text, quiet_record g node m.text, rfl, fun _ _ _ => rfl, fun _ _ _ => rfl,
    [(node, m.text)], rfl, ?_⟩
  intro x hx
  rw [List.mem_singleton] at hx
  rw [hx]
  exact ⟨⟨contract, rfl, rfl⟩, m, hm, rfl⟩

/-- A call is recorded when it is sent, and an answer at once is an error. -/
theorem exchange_send (node : NodeId) (name : String) (answer : Grid → Except RpcError α × Grid) (g : Grid) :
    ∃ s, (exchange node name answer).send g = (s, g.record node name) ∧ ∀ x, s ≠ .answered (.ok x) := by
  unfold exchange
  dsimp only
  split
  · split
    · exact ⟨_, rfl, nofun⟩
    · exact ⟨_, rfl, nofun⟩
  · exact ⟨_, rfl, nofun⟩

/-- What comes of a call with a timeout. -/
inductive Exchanged (node : NodeId) (name : String) (timeout : Duration)
    (answer : Grid → Except RpcError α × Grid) (g : Grid) : Option (Except RpcError α) → Grid → Prop where
  | unreachable (h : ¬ g.Answers node timeout) :
    Exchanged node name timeout answer g (some (.error (.unreachable node))) (g.record node name)
  | late (h : ¬ g.Answers node timeout) : Exchanged node name timeout answer g none (g.record node name)
  | answered (h : g.Answers node timeout) {x : Except RpcError α} {g' : Grid}
    (hx : answer (g.record node name) = (x, g')) : Exchanged node name timeout answer g (some x) g'

/-- A node that is up in time answers. -/
theorem exchange_run {n : Node} {name : String} {answer : Grid → Except RpcError α × Grid}
    (hn : t.state.nodes[node]? = some n) (hup : n.down = false) (hlatency : n.latency ≤ timeout.ceilMillis) :
    (exchange node name answer).within timeout t = .ok (some (answer (t.state.record node name)).1,
      ⟨t.now + n.latency, (answer (t.state.record node name)).2⟩) := by
  have hsend : (exchange node name answer).send t.state = (.pending n.latency, t.state.record node name) := by
    simp only [exchange, hn, hup, Bool.false_eq_true, if_false]
    rfl
  rw [Exchange.within_run, hsend]
  exact if_pos hlatency

/-- A call with a timeout always comes to an end. -/
theorem exchange_within (node : NodeId) (name : String) (timeout : Duration)
    (answer : Grid → Except RpcError α × Grid) (t : Timeline Grid) :
    ∃ r t', (exchange node name answer).within timeout t = .ok (r, t') ∧
      Exchanged node name timeout answer t.state r t'.state := by
  by_cases hanswers : t.state.Answers node timeout
  · obtain ⟨n, hn, hup, hlatency⟩ := hanswers
    exact ⟨_, _, exchange_run hn hup hlatency, .answered ⟨n, hn, hup, hlatency⟩ rfl⟩
  rw [Exchange.within_run]
  -- a node that does not answer is unknown, slow or down
  rcases hn : t.state.nodes[node]? with _ | n
  · have hsend : (exchange node name answer).send t.state =
        (.answered (.error (.unreachable node)), t.state.record node name) := by
      simp only [exchange, hn]
      rfl
    rw [hsend]
    exact ⟨_, _, rfl, .unreachable hanswers⟩
  rcases hdown : n.down
  · have hsend : (exchange node name answer).send t.state = (.pending n.latency, t.state.record node name) := by
      simp only [exchange, hn, hdown, Bool.false_eq_true, if_false]
      rfl
    rw [hsend]
    dsimp only
    rw [if_neg fun hlatency => hanswers ⟨n, hn, hdown, hlatency⟩]
    exact ⟨_, _, rfl, .late hanswers⟩
  · have hsend : (exchange node name answer).send t.state =
        (.answered (.error (.unreachable node)), t.state.record node name) := by
      simp only [exchange, hn, hdown, if_true]
      rfl
    rw [hsend]
    exact ⟨_, _, rfl, .unreachable hanswers⟩

theorem exchanged_of_within {name : String} {answer : Grid → Except RpcError α × Grid}
    {r : Option (Except RpcError α)} (h : (exchange node name answer).within timeout t = .ok (r, t')) :
    Exchanged node name timeout answer t.state r t'.state := by
  obtain ⟨r', t'', h', hex⟩ := exchange_within node name timeout answer t
  rw [h'] at h
  cases h
  exact hex

/-! ### Submissions -/

/-- The contract of a deployment covers it on a node, if nodes check that. -/
def Covers (g : Grid) (node : NodeId) (d : Deployment) : Prop :=
  g.attached = true →
    ∃ k, g.ledger.active? d.contractId = some k ∧ k.nodeId = node ∧ k.deploymentHash = d.challengeHash

theorem contractRefusal?_eq_none_iff : g.contractRefusal? node d = none ↔ g.Covers node d := by
  unfold contractRefusal? Covers
  rcases hattached : g.attached
  · simp only [Bool.not_false, if_true, Bool.false_eq_true, false_implies]
  simp only [Bool.not_true, Bool.false_eq_true, if_false, true_implies]
  rcases g.ledger.active? d.contractId with _ | k
  · simp only [reduceCtorEq, false_and, exists_false]
  dsimp only
  by_cases hnode : k.nodeId = node
  · by_cases hhash : k.deploymentHash = d.challengeHash
    · simp [hnode, hhash]
    · simp [hnode, hhash]
  · simp [hnode]

theorem refusal?_eq_none_iff : g.refusal? node d = none ↔
    d.validate = .ok () ∧ d.signatureRequirement.signatures ≠ [] ∧ g.Covers node d := by
  rw [← contractRefusal?_eq_none_iff, refusal?]
  rcases d.validate with e | ⟨⟩
  · simp only [reduceCtorEq, false_and]
  · simp only [true_and, List.isEmpty_iff]
    split
    next h => simp only [reduceCtorEq, h, ne_eq, not_true_eq_false, false_and]
    next h => simp only [ne_eq, h, not_false_eq_true, true_and]

theorem rejection?_first_eq_none_iff {n : Node} : Submission.first.rejection? node n d = none ↔
    n.refusal = none ∧ n.deployments[d.contractId]? = none := by
  unfold Submission.rejection?
  rcases n.refusal with _ | message
  · rcases n.deployments[d.contractId]? with _ | stored
    · simp only [and_self]
    · simp only [reduceCtorEq, and_false]
  · simp only [reduceCtorEq, false_and]

theorem rejection?_change_eq_none_iff {n : Node} : Submission.change.rejection? node n d = none ↔
    n.refusal = none ∧ ∃ stored, n.deployments[d.contractId]? = some stored ∧ stored.version < d.version := by
  unfold Submission.rejection?
  rcases n.refusal with _ | message
  · rcases n.deployments[d.contractId]? with _ | stored
    · simp only [reduceCtorEq, false_and, exists_false, and_false]
    · simp only [Option.some.injEq, exists_eq_left', true_and]
      split
      next h => simp only [reduceCtorEq, UInt32.not_lt.mpr h]
      next h => simp only [UInt32.not_le.mp h]
  · simp only [reduceCtorEq, false_and]

/-- The node `n` takes a submission. -/
structure Takes (s : Submission) (node : NodeId) (d : Deployment) (g : Grid) (n : Node) : Prop where
  known : g.nodes[node]? = some n
  refusal : g.refusal? node d = none
  rejection : s.rejection? node n d = none

/-- The grid after a node has taken a deployment. -/
def stored (g : Grid) (node : NodeId) (n : Node) (d : Deployment) : Grid :=
  { g with nodes := g.nodes.insert node (n.store d) }

theorem submit_of_takes {s : Submission} {n : Node} (h : Takes s node d g n) :
    g.submit s node d = (.ok (), g.stored node n d) := by
  rw [submit, h.refusal, h.known]
  dsimp only
  rw [h.rejection]
  rfl

/-- A submission is taken, or it changes nothing. -/
theorem submit_cases (s : Submission) (node : NodeId) (d : Deployment) (g : Grid) :
    (∃ e, g.submit s node d = (.error e, g) ∧ ∀ n, ¬ Takes s node d g n) ∨
    ∃ n, Takes s node d g n ∧ g.submit s node d = (.ok (), g.stored node n d) := by
  by_cases htakes : ∃ n, Takes s node d g n
  · obtain ⟨n, htakes⟩ := htakes
    exact .inr ⟨n, htakes, submit_of_takes htakes⟩
  · have hnot := not_exists.mp htakes
    refine .inl ?_
    rw [submit]
    rcases hrefusal : g.refusal? node d with _ | cause
    · rcases hn : g.nodes[node]? with _ | n
      · exact ⟨_, rfl, hnot⟩
      · dsimp only
        rcases hrejection : s.rejection? node n d with _ | e
        · exact absurd ⟨hn, hrefusal, hrejection⟩ (hnot n)
        · exact ⟨e, rfl, hnot⟩
    · exact ⟨_, rfl, hnot⟩

theorem deployment?_stored_self (g : Grid) (node : NodeId) (n : Node) (d : Deployment) :
    (g.stored node n d).deployment? node d.contractId =
      some (Node.provisioned n.provisioning n.deployments[d.contractId]? d) := by
  rw [deployment?, stored, ExtTreeMap.getElem?_insert_self]
  exact n.store_deployments_self d

theorem touches_stored {n : Node} (hn : g.nodes[node]? = some n) (hd : d.contractId = contract) :
    Touches node contract g (g.stored node n d) := by
  refine ⟨⟨rfl, rfl, fun m => ?_⟩, Ledger.Touches.refl contract g.ledger, fun m c hc => ?_, [], rfl, nofun⟩
  · by_cases hm : m = node
    · rw [hm, stored, ExtTreeMap.getElem?_insert_self, hn]
      rfl
    · rw [stored, getElem?_insert_of_ne hm]
  · by_cases hm : m = node
    · rw [hm, deployment?, deployment?, stored, ExtTreeMap.getElem?_insert_self, hn]
      exact Node.store_deployments_of_ne fun h => hc ⟨hm, h.trans hd⟩
    · rw [deployment?, deployment?, stored, getElem?_insert_of_ne hm]

/-! ### Questions -/

/-- A change of one node that is no more than a question for a contract. -/
theorem asked_modify {f : Node → Node} (hf : Node.Inquiry contract f)
    (hkept : g.isOver contract = false → ∀ n, (f n).deployments[contract]?.map Deployment.unreported =
      n.deployments[contract]?.map Deployment.unreported) :
    Asked ms (At node contract) g { g with nodes := g.nodes.modify node f } := by
  have hself (c : ContractId) : ({ g with nodes := g.nodes.modify node f } : Grid).deployment? node c =
      g.nodes[node]?.bind fun n => (f n).deployments[c]? := by
    rw [deployment?, ExtTreeMap.getElem?_modify_self, Option.bind_map]
    rfl
  have hne {m : NodeId} (hm : m ≠ node) (c : ContractId) :
      ({ g with nodes := g.nodes.modify node f } : Grid).deployment? m c = g.deployment? m c := by
    rw [deployment?, getElem?_modify_of_ne hm, deployment?]
  -- whatever `f` leaves alone on every node it leaves alone here
  have hsame {β : Type} (view : Node → β) (hview : ∀ n, view (f n) = view n) (m : NodeId) :
      (g.nodes.modify node f)[m]?.map view = g.nodes[m]?.map view := by
    by_cases hm : m = node
    · rw [hm, ExtTreeMap.getElem?_modify_self, Option.map_map]
      exact Option.map_congr fun n _ => hview n
    · rw [getElem?_modify_of_ne hm]
  have hfound (m : NodeId) (c : ContractId) (d' : Deployment)
      (hd' : ({ g with nodes := g.nodes.modify node f } : Grid).deployment? m c = some d') :
      ∃ d, g.deployment? m c = some d ∧ d'.unreported = d.unreported := by
    by_cases hm : m = node
    · rw [hm, hself] at hd'
      obtain ⟨n, hn, hd'⟩ := Option.bind_eq_some_iff.mp hd'
      obtain ⟨d, hd, hunreported⟩ := hf.exists_deployment hd'
      exact ⟨d, by rw [hm, deployment?, hn]; exact hd, hunreported⟩
    · rw [hne hm] at hd'
      exact ⟨d', hd', rfl⟩
  refine ⟨⟨rfl, rfl, hsame Node.traits hf.traits⟩, ⟨fun _ h => h, fun m c => ?_, hfound⟩, rfl, fun m c hc => ?_,
    fun m c hc => ?_, [], rfl, nofun⟩
  · exact taken_congr (hsame Node.taken hf.taken m) c
  · by_cases hm : m = node
    · rw [hm, hself, deployment?]
      congr 1
      funext n
      exact hf.others n c fun h => hc ⟨hm, h⟩
    · exact hne hm c
  · by_cases hm : m = node
    · rw [hm, hself, deployment?]
      rcases g.nodes[node]? with _ | n
      · rfl
      · by_cases hcontract : c = contract
        · subst hcontract
          exact hkept hc n
        · exact congrArg _ (hf.others n c hcontract)
    · rw [hne hm]

theorem asked_lookUp (ms : List NodeMethod) (node : NodeId) (contract : ContractId) (g : Grid) :
    Asked ms (At node contract) g (g.lookUp node contract).2 := by
  unfold lookUp
  dsimp only
  split
  next hover =>
    refine asked_modify (Node.inquiry_erase contract) fun h => ?_
    rw [hover] at h
    cases h
  next =>
    split
    · exact .refl ms _ g
    · exact .refl ms _ g

/-- An answer to a question for a deployment is the one that the node runs. -/
theorem lookUp_eq_ok (h : g.lookUp node contract = (.ok d, g')) :
    g' = g ∧ g.isOver contract = false ∧ g.deployment? node contract = some d := by
  unfold lookUp at h
  dsimp only at h
  split at h
  · cases h
  next hover =>
    split at h
    next hd =>
      cases h
      exact ⟨rfl, Bool.eq_false_iff.mpr hover, hd⟩
    next => cases h

theorem lookUp_of_deployment (hover : g.isOver contract = false) (hd : g.deployment? node contract = some d) :
    g.lookUp node contract = (.ok d, g) := by
  rw [lookUp, hover, hd]
  rfl

/-- A question for a deployment changes nothing under contracts that are not over. -/
theorem deployment?_lookUp {n : NodeId} {c : ContractId} (hc : g.isOver c = false) :
    (g.lookUp node contract).2.deployment? n c = g.deployment? n c := by
  by_cases hover : g.isOver contract = true
  · refine (asked_lookUp [] node contract g).elsewhere n c fun hat => ?_
    rw [hat.2, hover] at hc
    cases hc
  · unfold lookUp
    rw [if_neg hover]
    split
    · rfl
    · rfl

/-- What is asked for under a contract that is over is forgotten. -/
theorem deployment?_lookUp_of_isOver (hover : g.isOver contract = true) :
    (g.lookUp node contract).2.deployment? node contract = none := by
  unfold lookUp
  rw [if_pos hover, deployment?, ExtTreeMap.getElem?_modify_self, Option.bind_map]
  cases g.nodes[node]? with
  | none => rfl
  | some n => exact ExtTreeMap.getElem?_erase_self

theorem asked_observe (ms : List NodeMethod) (node : NodeId) (contract : ContractId) (g : Grid) :
    Asked ms (At node contract) g (g.observe node contract).2 := by
  have hasked := asked_lookUp ms node contract g
  unfold observe
  rcases hlook : g.lookUp node contract with ⟨_ | d, g₁⟩
  · rw [hlook] at hasked
    exact hasked
  · rw [hlook] at hasked
    exact hasked.trans (asked_modify (Node.inquiry_progress contract) fun _ n => n.progress_unreported contract)

/-- An answer to a question for changes holds the workloads as they now are. -/
theorem observe_eq_ok {ws : List Workload} (h : g.observe node contract = (.ok ws, g')) :
    g.isOver contract = false ∧ ∃ d, g'.deployment? node contract = some d ∧ ws = d.workloads := by
  unfold observe at h
  rcases hlook : g.lookUp node contract with ⟨_ | d, g₁⟩
  · rw [hlook] at h
    cases h
  rw [hlook] at h
  obtain ⟨rfl, hover, hd⟩ := lookUp_eq_ok hlook
  refine ⟨hover, ?_⟩
  -- the workloads are those after the question, with the progress that it makes
  have hasked : Asked [] (At node contract) g₁
      { g₁ with nodes := g₁.nodes.modify node fun n => n.progress contract } :=
    asked_modify (Node.inquiry_progress contract) fun _ n => n.progress_unreported contract
  obtain ⟨d', hd', _⟩ := hasked.exists_deployment hover hd
  simp only [Prod.mk.injEq, Except.ok.injEq] at h
  obtain ⟨rfl, rfl⟩ := h
  exact ⟨d', hd', by rw [hd']; rfl⟩

end Grid

end ComputeGrid
