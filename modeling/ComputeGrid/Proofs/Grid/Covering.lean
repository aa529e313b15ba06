import ComputeGrid.Grid.Wire
import ComputeGrid.Proofs.Deployment.Versions
import ComputeGrid.Proofs.Grid.Calls
import ComputeGrid.Proofs.Records
import Mathlib.Logic.Relation

/-!
# What nodes store

Nodes that are attached to a ledger store only what a contract covers, whatever arrives.  `Grid.Turn` is all that can
happen: the ledger changes, a node comes to behave in another way, a call is sent, or its answer is due, and neither the
method nor the payload need make sense.  A method that is answered has taken a submission, or it has asked a
question (`Grid.respond_cases`).  So every turn keeps `Grid.Guarded` (`Grid.Guarded.turn`), which says that deployments
are stored under their contracts, valid and signed; and `Grid.Covering` is what follows for the calls that come next
(`Grid.covering_of_turns`).
-/

namespace ComputeGrid

open Std (ExtTreeMap)

/-- What may be stored under a contract: a valid and signed deployment of that contract. -/
structure Deployment.Admissible (contract : ContractId) (d : Deployment) : Prop where
  contractId : d.contractId = contract
  valid : d.validate = .ok ()
  signed : d.signatureRequirement.signatures ≠ []

/-- Reports do not matter for what may be stored. -/
theorem Deployment.Admissible.congr {contract : ContractId} {d d' : Deployment} (h : d.Admissible contract)
    (hsame : d'.unreported = d.unreported) : d'.Admissible contract := by
  have hcontract : d'.contractId = d.contractId := (congrArg Deployment.contractId hsame :)
  have hrequirement : d'.signatureRequirement = d.signatureRequirement :=
    (congrArg Deployment.signatureRequirement hsame :)
  exact ⟨hcontract.trans h.contractId, (Deployment.validate_congr hsame).trans h.valid, hrequirement ▸ h.signed⟩

namespace Node

/-- A workload at the version at which it was stored keeps its report. -/
theorem report_provisionWorkload {p : Provisioning} {live : Deployment} {w prior : Workload}
    (hprior : live.workload? w.name = some prior) (hversion : prior.version = w.version) :
    (provisionWorkload p (some live) w).report = prior.report := by
  rw [provisionWorkload, Option.bind_some, hprior, Option.filter_some, if_pos (beq_iff_eq.2 hversion)]

end Node

namespace Grid

variable {g g₀ g' : Grid} {n : Node} {node : NodeId} {s : Submission} {d : Deployment} {payload : Json}

/-! ### Answers -/

/-- A call is recorded when it is sent, and no more. -/
theorem send_call (node : NodeId) (name : String) (payload : Json) (g : Grid) :
    ((call node name payload).send g).2 = g.record node name := by
  obtain ⟨sent, hsend, -⟩ := exchange_send node name (call node name payload).answer g
  exact congrArg Prod.snd hsend

/-- What is sent to a method is answered by the method. -/
theorem answer_call (node : NodeId) (m : NodeMethod) (payload : Json) (g : Grid) :
    (call node m.text payload).answer g = respond node payload m g := by
  unfold call exchange
  dsimp only
  rw [NodeMethod.ofText?_text]

/-- What is written is an answer to what was read. -/
theorem reading_written_eq_ok {α β : Type} {toJson : β → Json} {read? : Option α}
    {answer : α → Grid → Except RpcError β × Grid} {x : Json}
    (h : reading read? (fun a => written toJson (answer a)) g = (.ok x, g')) :
    ∃ a y, read? = some a ∧ answer a g = (.ok y, g') ∧ x = toJson y := by
  cases read? with
  | none => cases h
  | some a =>
    rw [reading, written] at h
    rcases hanswer : answer a g with ⟨e | y, g₁⟩
    · rw [hanswer] at h
      cases h
    · rw [hanswer] at h
      cases h
      exact ⟨a, y, rfl, hanswer, rfl⟩

theorem respond_submission (s : Submission) (node : NodeId) (payload : Json) (g : Grid) :
    respond node payload s.method g =
      reading (Deployment.ofJson? payload) (fun d => written (fun _ => .null) (submit s node d)) g := by
  cases s with
  | first => rfl
  | change => rfl

/-- A submission is not taken and nothing changes, or its payload is a deployment that is taken. -/
theorem respond_submission_cases (s : Submission) (node : NodeId) (payload : Json) (g : Grid) :
    (∃ e, respond node payload s.method g = (.error e, g)) ∨
    ∃ d n, Deployment.ofJson? payload = some d ∧ Takes s node d g n ∧
      respond node payload s.method g = (.ok .null, g.stored node n d) := by
  rw [respond_submission]
  cases hpayload : Deployment.ofJson? payload with
  | none => exact .inl ⟨.malformed, rfl⟩
  | some d =>
    rw [reading, written]
    rcases submit_cases s node d g with ⟨e, hsubmit, -⟩ | ⟨n, htakes, hsubmit⟩
    · rw [hsubmit]
      exact .inl ⟨e, rfl⟩
    · rw [hsubmit]
      exact .inr ⟨d, n, rfl, htakes, rfl⟩

/-- A method has taken a submission, or it has asked a question. -/
theorem respond_cases (node : NodeId) (payload : Json) (m : NodeMethod) (g : Grid) :
    (∃ s d n, Takes s node d g n ∧ (respond node payload m g).2 = g.stored node n d) ∨
    ∃ S, Asked [] S g (respond node payload m g).2 := by
  have hunasked : ∃ S, Asked [] S g g := ⟨fun _ _ => False, .refl [] _ g⟩
  have hsubmission (s : Submission) : (∃ s' d n, Takes s' node d g n ∧
      (respond node payload s.method g).2 = g.stored node n d) ∨ ∃ S, Asked [] S g (respond node payload s.method g).2 := by
    rcases respond_submission_cases s node payload g with ⟨e, h⟩ | ⟨d, n, -, htakes, h⟩
    · rw [h]
      exact .inr hunasked
    · rw [h]
      exact .inl ⟨s, d, n, htakes, rfl⟩
  cases m with
  | deploy => exact hsubmission .first
  | update => exact hsubmission .change
  | get =>
    rw [respond]
    cases contractRef? payload with
    | none => exact .inr hunasked
    | some c => exact .inr ⟨At node c, asked_lookUp [] node c g⟩
  | changes =>
    rw [respond]
    cases contractRef? payload with
    | none => exact .inr hunasked
    | some c => exact .inr ⟨At node c, asked_observe [] node c g⟩
  | wgPorts => exact .inr hunasked
  | publicConfig =>
    refine .inr ?_
    rw [respond, written, getPublicConfig, exchange]
    dsimp only
    split
    · exact hunasked
    · exact hunasked
  | interfaces => exact .inr hunasked

/-! ### Turns -/

/-- What can happen: the ledger changes in whatever way, a node comes to behave in another way, a call is sent, or its
answer is due. -/
inductive Turn : Grid → Grid → Prop
  | ledger (g : Grid) (l : Ledger) : Turn g { g with ledger := l }
  | fault (g : Grid) (node : NodeId) {change : Node → Node} (h : ∀ n, (change n).deployments = n.deployments) :
    Turn g (g.withNode node change)
  | send (g : Grid) (node : NodeId) (name : String) (payload : Json) : Turn g ((call node name payload).send g).2
  | answer (g : Grid) (node : NodeId) (name : String) (payload : Json) : Turn g ((call node name payload).answer g).2

theorem deployment?_withNode {change : Node → Node} (h : ∀ n, (change n).deployments = n.deployments) (m : NodeId)
    (c : ContractId) : (g.withNode node change).deployment? m c = g.deployment? m c := by
  by_cases hm : m = node
  · subst hm
    rw [deployment?, withNode, ExtTreeMap.getElem?_insert_self, Option.bind_some, h, ExtTreeMap.getD_eq_getD_getElem?,
      deployment?]
    cases g.nodes[m]? with
    | none => exact ExtTreeMap.getElem?_empty
    | some n => rfl
  · rw [deployment?, withNode, getElem?_insert_of_ne hm, deployment?]

theorem deployment?_of_known (hn : g.nodes[node]? = some n) (c : ContractId) :
    g.deployment? node c = n.deployments[c]? := by
  rw [deployment?, hn, Option.bind_some]

/-- The nodes check deployments against the ledger, and have stored none that they should not have. -/
structure Guarded (g : Grid) : Prop where
  attached : g.attached = true
  admissible : ∀ n c d, g.deployment? n c = some d → d.Admissible c

namespace Guarded

/-- Nodes that have taken nothing since are as guarded as they were. -/
theorem of_found (h : Guarded g) (hattached : g'.attached = g.attached)
    (hfound : ∀ n c d', g'.deployment? n c = some d' → ∃ d, g.deployment? n c = some d ∧ d'.unreported = d.unreported) :
    Guarded g' := by
  refine ⟨hattached.trans h.attached, fun n c d' hd' => ?_⟩
  obtain ⟨d, hd, hsame⟩ := hfound n c d' hd'
  exact (h.admissible n c d hd).congr hsame

theorem of_deployment? (h : Guarded g) (hattached : g'.attached = g.attached)
    (hsame : ∀ n c, g'.deployment? n c = g.deployment? n c) : Guarded g' :=
  h.of_found hattached fun n c d' hd' => ⟨d', (hsame n c).symm.trans hd', rfl⟩

theorem stored (h : Guarded g) (htakes : Takes s node d g n) : Guarded (g.stored node n d) := by
  refine ⟨h.attached, fun m c d' hd' => ?_⟩
  by_cases hat : At node d.contractId m c
  · obtain ⟨rfl, rfl⟩ := hat
    rw [deployment?_stored_self] at hd'
    cases hd'
    obtain ⟨hvalid, hsigned, -⟩ := refusal?_eq_none_iff.1 htakes.refusal
    exact Deployment.Admissible.congr ⟨rfl, hvalid, hsigned⟩ (Node.unreported_provisioned _ _ d)
  · rw [(touches_stored htakes.known rfl).elsewhere m c hat] at hd'
    exact h.admissible m c d' hd'

theorem respond (h : Guarded g) (node : NodeId) (payload : Json) (m : NodeMethod) :
    Guarded (Grid.respond node payload m g).2 := by
  rcases respond_cases node payload m g with ⟨s, d, n, htakes, heq⟩ | ⟨S, hasked⟩
  · rw [heq]
    exact h.stored htakes
  · exact h.of_found hasked.attached hasked.found

/-- Nothing that happens makes a node store what it should not. -/
theorem turn (h : Guarded g) (hturn : Turn g g') : Guarded g' := by
  cases hturn with
  | ledger l => exact h.of_deployment? rfl fun _ _ => rfl
  | fault node hchange => exact h.of_deployment? rfl (deployment?_withNode hchange)
  | send node name payload =>
    rw [send_call]
    exact h.of_deployment? rfl fun _ _ => rfl
  | answer node name payload =>
    unfold call exchange
    dsimp only
    split
    next m _ => exact h.respond node payload m
    next => exact h

/-- So it is after any number of turns. -/
theorem turns (h : Guarded g₀) (hturns : Relation.ReflTransGen Turn g₀ g) : Guarded g := by
  induction hturns with
  | refl => exact h
  | tail _ hturn ih => exact ih.turn hturn

end Guarded

/-! ### Calls of guarded nodes -/

/-- What holds when a node has taken a submission: the contract was active, with this node, and held the hash of what was
submitted; there was nothing under it, or an earlier version; and nothing else has changed.  What is stored is what was
submitted, with the reports of workloads that were there at the same version. -/
structure Accepted (s : Submission) (node : NodeId) (d : Deployment) (g g' : Grid) : Prop where
  covered : ∃ k, g.ledger.active? d.contractId = some k ∧ k.nodeId = node ∧ k.deploymentHash = d.challengeHash
  before : match s with
    | .first => g.deployment? node d.contractId = none
    | .change => ∃ live, g.deployment? node d.contractId = some live ∧ live.version < d.version
  stored : ∃ d', g'.deployment? node d.contractId = some d' ∧ d'.unreported = d.unreported ∧
    ∀ live, g.deployment? node d.contractId = some live → ∀ w ∈ live.workloads, ∀ w' ∈ d'.workloads,
      w.name = w'.name → w.version = w'.version → w'.report = w.report
  elsewhere : ∀ m c, ¬ (m = node ∧ c = d.contractId) → g'.deployment? m c = g.deployment? m c

/-- A workload that was stored at the version of one that is stored now has handed on its report. -/
theorem report_provisioned {p : Provisioning} {live : Deployment} (hlive : live.validate = .ok ()) {w w' : Workload}
    (hw : w ∈ live.workloads) (hw' : w' ∈ (Node.provisioned p (some live) d).workloads) (hname : w.name = w'.name)
    (hversion : w.version = w'.version) : w'.report = w.report := by
  obtain ⟨w₀, -, rfl⟩ := List.mem_map.1 hw'
  have hsame := Node.unreported_provisionWorkload p (some live) w₀
  have hname₀ : w.name = w₀.name := hname.trans (congrArg Workload.name hsame :)
  have hversion₀ : w.version = w₀.version := hversion.trans (congrArg Workload.version hsame :)
  refine Node.report_provisionWorkload ?_ hversion₀
  rw [← hname₀]
  exact Deployment.workload?_name hlive hw

theorem Takes.accepted (h : Takes s node d g n) (hguarded : Guarded g) : Accepted s node d g (g.stored node n d) := by
  have hbefore := deployment?_of_known h.known d.contractId
  obtain ⟨-, -, hcovers⟩ := refusal?_eq_none_iff.1 h.refusal
  refine ⟨hcovers hguarded.attached, ?_, ⟨_, deployment?_stored_self g node n d, Node.unreported_provisioned _ _ d, ?_⟩,
    (touches_stored h.known rfl).elsewhere⟩
  · cases s with
    | first => exact hbefore.trans (rejection?_first_eq_none_iff.1 h.rejection).2
    | change =>
      obtain ⟨-, live, hlive, hversion⟩ := rejection?_change_eq_none_iff.1 h.rejection
      exact ⟨live, hbefore.trans hlive, hversion⟩
  · intro live hlive w hw w' hw' hname hversion
    rw [← hbefore, hlive] at hw'
    exact report_provisioned (hguarded.admissible _ _ _ hlive).valid hw hw' hname hversion

/-- What holds of guarded nodes, and of every call that comes next. -/
structure Covering (g : Grid) : Prop where
  /-- Every deployment is stored under its contract, valid and signed, by whatever node. -/
  stored : ∀ n c d, g.deployment? n c = some d → d.Admissible c
  /-- A call that is sent changes no deployment, and none is taken at once. -/
  sent : ∀ node name payload, (∀ x, ((call node name payload).send g).1 ≠ .answered (.ok x)) ∧
    ∀ n c, ((call node name payload).send g).2.deployment? n c = g.deployment? n c
  /-- A submission that succeeds was one of a deployment that its contract covers. -/
  accepted : ∀ (s : Submission) node payload x g', (call node s.method.text payload).answer g = (.ok x, g') →
    ∃ d, Deployment.ofJson? payload = some d ∧ Accepted s node d g g'
  /-- A submission that fails changes no deployment. -/
  rejected : ∀ (s : Submission) node payload e g', (call node s.method.text payload).answer g = (.error e, g') →
    ∀ n c, g'.deployment? n c = g.deployment? n c
  /-- A deployment that is given away is stored under an active contract. -/
  got : ∀ node payload x g', (call node NodeMethod.get.text payload).answer g = (.ok x, g') →
    ∃ d, x = d.toJson ∧ contractRef? payload = some d.contractId ∧ g'.deployment? node d.contractId = some d ∧
      g'.ledger.IsActive d.contractId
  /-- Workloads that are given away are those of such a deployment. -/
  observed : ∀ node payload x g', (call node NodeMethod.changes.text payload).answer g = (.ok x, g') →
    ∃ d, x = Json.ofList Workload.toJson d.workloads ∧ contractRef? payload = some d.contractId ∧
      g'.deployment? node d.contractId = some d ∧ g'.ledger.IsActive d.contractId

theorem Guarded.covering (h : Guarded g) : Covering g where
  stored := h.admissible
  sent := by
    intro node name payload
    obtain ⟨sent, hsend, hsent⟩ := exchange_send node name (call node name payload).answer g
    have heq : (call node name payload).send g = (sent, g.record node name) := hsend
    rw [heq]
    exact ⟨hsent, fun _ _ => rfl⟩
  accepted := by
    intro s node payload x g' hanswer
    rw [answer_call] at hanswer
    rcases respond_submission_cases s node payload g with ⟨e, herror⟩ | ⟨d, n, hpayload, htakes, hok⟩
    · rw [herror] at hanswer
      cases hanswer
    · rw [hok] at hanswer
      cases hanswer
      exact ⟨d, hpayload, htakes.accepted h⟩
  rejected := by
    intro s node payload e g' hanswer
    rw [answer_call] at hanswer
    rcases respond_submission_cases s node payload g with ⟨e', herror⟩ | ⟨d, n, -, -, hok⟩
    · rw [herror] at hanswer
      cases hanswer
      exact fun _ _ => rfl
    · rw [hok] at hanswer
      cases hanswer
  got := by
    intro node payload x g' hanswer
    rw [answer_call] at hanswer
    obtain ⟨c, d, hc, hlook, rfl⟩ := reading_written_eq_ok hanswer
    obtain ⟨rfl, hover, hd⟩ := lookUp_eq_ok hlook
    obtain rfl := (h.admissible node c d hd).contractId
    exact ⟨d, rfl, hc, hd, isActive_of_isOver_eq_false h.attached hover⟩
  observed := by
    intro node payload x g' hanswer
    rw [answer_call] at hanswer
    have hafter := h.respond node payload .changes
    rw [hanswer] at hafter
    obtain ⟨c, ws, hc, hobserve, rfl⟩ := reading_written_eq_ok hanswer
    obtain ⟨hover, d, hd, rfl⟩ := observe_eq_ok hobserve
    obtain rfl := (hafter.admissible node c d hd).contractId
    have hledger : g'.ledger = g.ledger := (congrArg (·.2.ledger) hobserve).symm.trans (asked_observe [] node _ g).ledger
    exact ⟨d, rfl, hc, hd, hledger ▸ isActive_of_isOver_eq_false h.attached hover⟩

/-- However nodes that are attached to a ledger and run nothing are used, and whatever becomes of them and of the ledger, they
store and give away only what contracts cover. -/
theorem covering_of_turns (hattached : g₀.attached = true) (hempty : ∀ n c, g₀.deployment? n c = none)
    (hturns : Relation.ReflTransGen Turn g₀ g) : Covering g := by
  have hguarded : Guarded g₀ := by
    refine ⟨hattached, fun n c d hd => ?_⟩
    rw [hempty] at hd
    cases hd
  exact (hguarded.turns hturns).covering

/-! ### A deployment that arrives -/

/-- A deployment of one disk under contract 1. -/
def arriving : Deployment :=
  { Deployment.new 1 [.new "disk" (.disk ⟨1024⟩)] with
    contractId := 1
    signatureRequirement.signatures := [⟨1, "", Identity.scheme⟩] }

/-- Node 1, which runs nothing, and the contract of what is to arrive there. -/
def waitingGrid : Grid where
  ledger := { Ledger.new 1 with
    contracts := single 1 ⟨1, 1, 1, arriving.challengeHash, "", 0, .created, none⟩ }
  nodes := single 1 .new
  calls := []
  attached := true
  inventory := none

theorem deployment?_waitingGrid (n : NodeId) (c : ContractId) : waitingGrid.deployment? n c = none := by
  rw [deployment?, Option.bind_eq_none_iff]
  intro node hnode
  obtain ⟨-, rfl⟩ := getElem?_single_eq_some hnode
  exact ExtTreeMap.getElem?_empty

/-- The node takes what arrives, and stores it from then on. -/
theorem covering_of_arriving : waitingGrid.attached = true ∧ (∀ n c, waitingGrid.deployment? n c = none) ∧
    ∃ g, Relation.ReflTransGen Turn waitingGrid g ∧ (∃ d, g.deployment? 1 1 = some d) ∧ Covering g := by
  have hsigned : arriving.signatureRequirement.signatures ≠ [] := List.cons_ne_nil _ _
  have hcovers : (waitingGrid.record 1 NodeMethod.deploy.text).Covers 1 arriving := fun _ => ⟨_, rfl, rfl, rfl⟩
  have htakes : Takes .first 1 arriving (waitingGrid.record 1 NodeMethod.deploy.text) .new :=
    ⟨rfl, refusal?_eq_none_iff.2 ⟨rfl, hsigned, hcovers⟩, rfl⟩
  have hanswer : (call 1 NodeMethod.deploy.text arriving.toJson).answer (waitingGrid.record 1 NodeMethod.deploy.text) =
      (.ok .null, (waitingGrid.record 1 NodeMethod.deploy.text).stored 1 .new arriving) := by
    rw [answer_call]
    refine (respond_submission .first 1 _ _).trans ?_
    rw [Deployment.ofJson?_toJson, reading, written, submit_of_takes htakes]
    rfl
  have hsent := Turn.send waitingGrid 1 NodeMethod.deploy.text arriving.toJson
  rw [send_call] at hsent
  have hanswered := Turn.answer (waitingGrid.record 1 NodeMethod.deploy.text) 1 NodeMethod.deploy.text arriving.toJson
  rw [hanswer] at hanswered
  have hturns : Relation.ReflTransGen Turn waitingGrid
      ((waitingGrid.record 1 NodeMethod.deploy.text).stored 1 .new arriving) := .tail (.single hsent) hanswered
  exact ⟨rfl, deployment?_waitingGrid, _, hturns, ⟨_, deployment?_stored_self _ 1 .new arriving⟩,
    covering_of_turns rfl deployment?_waitingGrid hturns⟩

end Grid

end ComputeGrid
