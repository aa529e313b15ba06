import ComputeGrid.Proofs.Mesh.Stability
import ComputeGrid.Proofs.Mesh.Probing
import Mathlib.Algebra.Group.Action.Defs
import Mathlib.Algebra.Order.BigOperators.Group.List
import Mathlib.Algebra.Order.Ring.Nat

/-!
# How long passes wait

A pass does nothing that takes time but ask nodes, one question after another (`Planner.inquires_plan`).  The questions of a
probe are waited for no longer than the probe timeout; a node that joins is asked for its ports, and that answer is waited
for however late it comes (`Question.Asked.spec`).  So the time that a pass takes is the sum of these waits
(`Questioning.spec`), and no question is waited for longer than the timeout if and only if every node that is asked for its
ports answers within it (`Planner.waits_of_plan`).
-/

namespace ComputeGrid

variable {timeout : Duration} {t t₁ t₂ t' : Timeline Grid} {node : NodeId}

/-! ### Calls -/

namespace Grid

variable {α : Type} {name : String} {answer : Grid → Except RpcError α × Grid}

/-- The milliseconds before a node answers, if it can be reached. -/
def delay? (g : Grid) (node : NodeId) : Option Nat := (g.nodes[node]?.filter (!·.down)).map (·.latency)

/-- The milliseconds before a node answers; where it cannot be reached, that is known at once. -/
def delay (g : Grid) (node : NodeId) : Nat := (g.delay? node).getD 0

theorem exchange_send_eq (node : NodeId) (name : String) (answer : Grid → Except RpcError α × Grid) (g : Grid) :
    (exchange node name answer).send g =
      (match g.delay? node with
        | some ms => .pending ms
        | none => .answered (.error (.unreachable node)), g.record node name) := by
  rw [delay?]
  cases hn : g.nodes[node]? with
  | none =>
    simp only [exchange, hn]
    rfl
  | some n => cases hdown : n.down with
    | true =>
      simp only [exchange, hn, hdown, Option.filter_some]
      rfl
    | false =>
      simp only [exchange, hn, hdown, Option.filter_some]
      rfl

/-- A call with a timeout takes until the answer comes, but no longer than the timeout. -/
theorem within_exchange (hanswer : ∀ g, (answer g).2 = g) (t : Timeline Grid) :
    ∃ r t', (exchange node name answer).within timeout t = .ok (r, t') ∧ t'.state = t.state.record node name ∧
      t'.now = t.now + min (t.state.delay node) timeout.ceilMillis := by
  rw [Exchange.within_run, exchange_send_eq, delay]
  cases t.state.delay? node with
  | none => exact ⟨_, _, rfl, rfl, by simp⟩
  | some ms =>
    dsimp only [Option.getD_some]
    split
    next hintime => exact ⟨_, _, rfl, hanswer _, by rw [Nat.min_eq_left hintime]⟩
    next hlate => exact ⟨_, _, rfl, rfl, by rw [Nat.min_eq_right (Nat.le_of_not_le hlate)]⟩

/-- A call without a timeout takes until the answer comes. -/
theorem complete_exchange (hanswer : ∀ g, (answer g).2 = g) (t : Timeline Grid) :
    ∃ r t', (exchange node name answer).complete t = .ok (r, t') ∧ t'.state = t.state.record node name ∧
      t'.now = t.now + t.state.delay node := by
  rw [Exchange.complete_run, exchange_send_eq, delay]
  cases t.state.delay? node with
  | none => exact ⟨_, _, rfl, rfl, rfl⟩
  | some ms => exact ⟨_, _, rfl, hanswer _, rfl⟩

theorem exists_publicConfig (node : NodeId) (timeout : Duration) (t : Timeline Grid) :
    ∃ r t', (getPublicConfig node).within timeout t = .ok (r, t') ∧
      t'.state = t.state.record node NodeMethod.publicConfig.text ∧
      t'.now = t.now + min (t.state.delay node) timeout.ceilMillis :=
  within_exchange (getPublicConfig_answer_snd node) t

theorem exists_interfaces (node : NodeId) (timeout : Duration) (t : Timeline Grid) :
    ∃ r t', (getInterfaces node).within timeout t = .ok (r, t') ∧
      t'.state = t.state.record node NodeMethod.interfaces.text ∧
      t'.now = t.now + min (t.state.delay node) timeout.ceilMillis :=
  within_exchange (fun _ => rfl) t

theorem exists_ports (node : NodeId) (t : Timeline Grid) :
    ∃ r t', (getPorts node).complete t = .ok (r, t') ∧ t'.state = t.state.record node NodeMethod.wgPorts.text ∧
      t'.now = t.now + t.state.delay node :=
  complete_exchange (fun _ => rfl) t

end Grid

/-! ### Questions -/

/-- What a pass asks a node. -/
inductive Question where
  | publicConfig (node : NodeId)
  | interfaces (node : NodeId)
  | ports (node : NodeId)

namespace Question

variable {q : Question}

/-- The call that a question is. -/
def call : Question → NodeId × String
  | publicConfig node => (node, NodeMethod.publicConfig.text)
  | interfaces node => (node, NodeMethod.interfaces.text)
  | ports node => (node, NodeMethod.wgPorts.text)

/-- A question is asked at one time, and at another its answer is there or is no longer waited for. -/
inductive Asked (timeout : Duration) (t t' : Timeline Grid) : Question → Prop where
  | publicConfig {node : NodeId} {r : Option (Except RpcError PublicConfig)}
    (run : (Grid.getPublicConfig node).within timeout t = .ok (r, t')) : Asked timeout t t' (.publicConfig node)
  | interfaces {node : NodeId} {r : Option (Except RpcError (NameMap (List IpAddress)))}
    (run : (Grid.getInterfaces node).within timeout t = .ok (r, t')) : Asked timeout t t' (.interfaces node)
  | ports {node : NodeId} {r : Except RpcError (List UInt16)}
    (run : (Grid.getPorts node).complete t = .ok (r, t')) : Asked timeout t t' (.ports node)

/-- The milliseconds for which a question is waited for: until the answer comes, but in a probe no longer than a timeout. -/
def wait (g : Grid) (timeout : Duration) : Question → Nat
  | publicConfig node | interfaces node => min (g.delay node) timeout.ceilMillis
  | ports node => g.delay node

/-- A question is recorded, and nothing else has happened when its wait is over. -/
theorem Asked.spec (h : Asked timeout t t' q) :
    t'.state = t.state.record q.call.1 q.call.2 ∧ t'.now = t.now + q.wait t.state timeout := by
  cases h with
  | @publicConfig node r run =>
    obtain ⟨_, _, hrun, hspec⟩ := Grid.exists_publicConfig node timeout t
    cases run.symm.trans hrun
    exact hspec
  | @interfaces node r run =>
    obtain ⟨_, _, hrun, hspec⟩ := Grid.exists_interfaces node timeout t
    cases run.symm.trans hrun
    exact hspec
  | @ports node r run =>
    obtain ⟨_, _, hrun, hspec⟩ := Grid.exists_ports node t
    cases run.symm.trans hrun
    exact hspec

end Question

/-- Questions one after another, with nothing in between. -/
inductive Questioning (timeout : Duration) : Timeline Grid → List Question → Timeline Grid → Prop where
  | done {t : Timeline Grid} : Questioning timeout t [] t
  | ask {t t₁ t₂ : Timeline Grid} {q : Question} {rest : List Question} (first : q.Asked timeout t t₁)
    (others : Questioning timeout t₁ rest t₂) : Questioning timeout t (q :: rest) t₂

namespace Questioning

variable {asked asked' : List Question}

theorem append (h : Questioning timeout t asked t₁) (h' : Questioning timeout t₁ asked' t₂) :
    Questioning timeout t (asked ++ asked') t₂ := by
  induction h with
  | done => exact h'
  | ask first _ ih => exact .ask first (ih h')

/-- All questions are recorded, nothing else has happened, and the time that has passed is that of their waits. -/
theorem spec (h : Questioning timeout t asked t') :
    t'.state = { t.state with calls := (asked.map Question.call).reverse ++ t.state.calls } ∧
      t'.now = t.now + (asked.map (Question.wait t.state timeout)).sum := by
  induction h with
  | done => exact ⟨rfl, rfl⟩
  | @ask t t₁ t₂ q rest first _ ih =>
    obtain ⟨hstate, hnow⟩ := first.spec
    obtain ⟨hstate', hnow'⟩ := ih
    -- the nodes have not changed, so the later waits are those of the first state
    have hsame : Question.wait t₁.state timeout = Question.wait t.state timeout := by
      rw [hstate]
      rfl
    rw [hsame, hnow] at hnow'
    rw [hstate] at hstate'
    refine ⟨?_, ?_⟩
    · rw [hstate', List.map_cons, List.reverse_cons, List.append_assoc]
      rfl
    · rw [hnow', List.map_cons, List.sum_cons]
      omega

end Questioning

namespace Planner

variable {α β : Type} {joins : NodeId → Prop}

/-- Wherever it starts, a computation comes to an end, and until then it does nothing but ask questions.  It asks no nodes for
their ports but those that join. -/
def Inquires (timeout : Duration) (joins : NodeId → Prop) (x : Timed Grid α) : Prop :=
  ∀ t, ∃ a t' asked, x t = .ok (a, t') ∧ Questioning timeout t asked t' ∧ ∀ node, .ports node ∈ asked → joins node

theorem inquires_pure (a : α) : Inquires timeout joins (pure a : Timed Grid α) := fun t => ⟨a, t, [], rfl, .done, nofun⟩

theorem inquires_bind {x : Timed Grid α} {f : α → Timed Grid β} (hx : Inquires timeout joins x)
    (hf : ∀ a, Inquires timeout joins (f a)) : Inquires timeout joins (x >>= f) := by
  intro t
  obtain ⟨a, t₁, asked, hrun, hasked, hjoins⟩ := hx t
  obtain ⟨b, t₂, asked', hrun', hasked', hjoins'⟩ := hf a t₁
  refine ⟨b, t₂, asked ++ asked', (Timed.bind_run hrun).trans hrun', hasked.append hasked', fun node hnode => ?_⟩
  rcases List.mem_append.1 hnode with hnode | hnode
  · exact hjoins node hnode
  · exact hjoins' node hnode

section Planning

theorem inquires_except_pure (r : Except MeshError α) : Inquires timeout joins (ExceptT.run (liftM r : Planning α)) :=
  inquires_pure r

theorem inquires_except_bind {x : Planning α} {f : α → Planning β} (hx : Inquires timeout joins x.run)
    (hf : ∀ a, Inquires timeout joins (f a).run) : Inquires timeout joins (x >>= f).run := by
  refine inquires_bind (f := ExceptT.bindCont f) hx fun r => ?_
  cases r with
  | error e => exact inquires_pure (Except.error e : Except MeshError β)
  | ok a => exact hf a

theorem inquires_except_lift {x : Timed Grid α} (hx : Inquires timeout joins x) :
    Inquires timeout joins (ExceptT.run (liftM x : Planning α)) :=
  inquires_bind hx fun a => inquires_pure (Except.ok a : Except MeshError α)

end Planning

/-! ### Passes -/

/-- A single question is all that it takes. -/
theorem inquires_of_asked {x : Timed Grid α} {q : Question} (hjoins : ∀ node, q = .ports node → joins node)
    (h : ∀ t, ∃ a t', x t = .ok (a, t') ∧ q.Asked timeout t t') : Inquires timeout joins x := by
  intro t
  obtain ⟨a, t', hrun, hasked⟩ := h t
  refine ⟨a, t', [q], hrun, .ask hasked .done, fun node hnode => hjoins node ?_⟩
  exact (List.mem_singleton.1 hnode).symm

theorem inquires_probe (node : NodeId) : Inquires timeout joins (Reachability.probe node timeout) := by
  have hconfig : Inquires timeout joins ((Grid.getPublicConfig node).within timeout) := by
    refine inquires_of_asked (q := .publicConfig node) nofun fun t => ?_
    obtain ⟨r, t', hrun, -⟩ := Grid.exists_publicConfig node timeout t
    exact ⟨r, t', hrun, .publicConfig hrun⟩
  have hinterfaces : Inquires timeout joins ((Grid.getInterfaces node).within timeout) := by
    refine inquires_of_asked (q := .interfaces node) nofun fun t => ?_
    obtain ⟨r, t', hrun, -⟩ := Grid.exists_interfaces node timeout t
    exact ⟨r, t', hrun, .interfaces hrun⟩
  refine inquires_bind hconfig fun config => ?_
  split
  · exact inquires_pure _
  · exact inquires_bind hinterfaces fun _ => inquires_pure _

variable {p : Planner} {chance : Chance} {previous : Mesh} {targets : Std.ExtTreeSet NodeId} {external : Bool}

theorem inquires_survey (nodes : List NodeId) : Inquires p.probeTimeout joins (p.survey nodes) := by
  induction nodes with
  | nil => exact inquires_pure _
  | cons node rest ih => exact inquires_bind (inquires_probe node) fun _ => inquires_bind ih fun _ => inquires_pure _

theorem inquires_findRelay (inventory : Inventory) (reach : NodeMap Reachability) (tries : Nat) (exclude : List NodeId) :
    Inquires p.probeTimeout joins (p.findRelay inventory reach tries exclude).run := by
  induction tries generalizing exclude with
  | zero => exact inquires_pure _
  | succ tries ih =>
    rw [findRelay]
    split
    · exact inquires_pure _
    · exact inquires_pure _
    next candidate _ =>
      refine inquires_except_bind (inquires_except_lift (inquires_probe candidate)) fun found => ?_
      split
      · exact inquires_pure _
      · exact ih (exclude ++ [candidate])

theorem inquires_keepRelay (before : Option NodeId) (reach : NodeMap Reachability) :
    Inquires p.probeTimeout joins (p.keepRelay before reach) := by
  cases before with
  | none => exact inquires_pure _
  | some relay =>
    rw [keepRelay]
    split
    · exact inquires_bind (inquires_pure _) fun _ => inquires_pure _
    · exact inquires_bind (inquires_probe relay) fun _ => inquires_pure _

theorem inquires_relayFor (before : Option NodeId) (reach : NodeMap Reachability) :
    Inquires p.probeTimeout joins (p.relayFor before targets external reach).run := by
  have hnew : Inquires p.probeTimeout joins (p.newRelay before targets.toList reach).run := by
    unfold newRelay
    split
    · exact inquires_pure _
    · refine inquires_except_bind (inquires_except_lift fun t => ⟨_, t, [], rfl, .done, nofun⟩) fun inventory => ?_
      split
      · exact inquires_pure _
      · exact inquires_findRelay _ _ _ _
  have hchoose : Inquires p.probeTimeout joins (p.chooseRelay before targets.toList reach).run := by
    refine inquires_except_bind (inquires_except_lift (inquires_keepRelay before reach)) fun kept => ?_
    split
    · exact inquires_pure _
    · exact hnew
  unfold relayFor
  split
  · exact inquires_except_bind hchoose fun _ => inquires_pure _
  · exact inquires_pure _

theorem inquires_newMember {node : NodeId} (hjoins : joins node) (subnet : Ipv4Network) (chosen : Std.ExtTreeSet UInt16) :
    Inquires timeout joins (p.newMember chance node subnet chosen).run := by
  have hports : Inquires timeout joins (Grid.getPorts node).complete := by
    refine inquires_of_asked (q := .ports node) (by rintro _ ⟨⟩; exact hjoins) fun t => ?_
    obtain ⟨r, t', hrun, -⟩ := Grid.exists_ports node t
    exact ⟨r, t', hrun, .ports hrun⟩
  refine inquires_except_bind (inquires_except_lift hports) fun r => ?_
  split
  · exact inquires_pure _
  · split
    · exact inquires_pure _
    · exact inquires_pure _

/-- Only nodes that keep nothing are asked for their ports. -/
theorem inquires_chooseMembers (nodes : List NodeId) (s : Subnets) (chosen : Std.ExtTreeSet UInt16)
    (members : NodeMap Member) : Inquires timeout (fun node => kept previous node = none)
      (p.chooseMembers chance previous s chosen members nodes).run := by
  induction nodes generalizing s chosen members with
  | nil => exact inquires_pure _
  | cons node rest ih =>
    rw [chooseMembers]
    cases hkept : kept previous node with
    | some m => exact ih _ _ _
    | none =>
      refine inquires_except_bind (inquires_except_pure _) fun given => ?_
      exact inquires_except_bind (inquires_newMember hkept _ _) fun m => ih _ _ _

/-- A pass does nothing but ask questions, and asks only nodes that join for their ports. -/
theorem inquires_plan (p : Planner) (chance : Chance) (previous : Mesh) (targets : Std.ExtTreeSet NodeId) (external : Bool) :
    Inquires p.probeTimeout (fun node => kept previous node = none) (p.plan chance previous targets external).run := by
  rw [plan]
  refine inquires_except_bind (inquires_except_pure _) fun start => ?_
  refine inquires_except_bind (inquires_except_lift (inquires_survey _)) fun found => ?_
  refine inquires_except_bind (inquires_relayFor _ _) fun relay => ?_
  refine inquires_except_bind (inquires_except_pure _) fun outside => ?_
  exact inquires_except_bind (inquires_chooseMembers _ _ _ _) fun members => inquires_pure _

/-- Whatever its nodes are like, a pass comes to an end, and until then time passes only while the questions that it asks are
waited for.  Each of them is waited for no longer than the probe timeout, if and only if every node that is asked for its
ports answers within it or cannot be reached.  Then the pass takes no longer than this timeout for every question. -/
theorem waits_of_plan (p : Planner) (chance : Chance) (previous : Mesh) (targets : Std.ExtTreeSet NodeId) (external : Bool)
    (t : Timeline Grid) :
    ∃ outcome t' asked, p.plan chance previous targets external t = .ok (outcome, t') ∧
      Questioning p.probeTimeout t asked t' ∧
      t'.state = { t.state with calls := (asked.map Question.call).reverse ++ t.state.calls } ∧
      t'.now = t.now + (asked.map (Question.wait t.state p.probeTimeout)).sum ∧
      (∀ node, .ports node ∈ asked → kept previous node = none) ∧
      ((∀ q ∈ asked, q.wait t.state p.probeTimeout ≤ p.probeTimeout.ceilMillis) ↔
        ∀ node, .ports node ∈ asked → t.state.delay node ≤ p.probeTimeout.ceilMillis) ∧
      ((∀ q ∈ asked, q.wait t.state p.probeTimeout ≤ p.probeTimeout.ceilMillis) →
        t'.now ≤ t.now + asked.length * p.probeTimeout.ceilMillis) := by
  obtain ⟨outcome, t', asked, hrun, hasked, hjoins⟩ := inquires_plan p chance previous targets external t
  obtain ⟨hstate, hnow⟩ := hasked.spec
  refine ⟨outcome, t', asked, hrun, hasked, hstate, hnow, hjoins, ⟨fun h node hnode => h _ hnode, fun h q hq => ?_⟩, ?_⟩
  · cases q with
    | publicConfig node => exact Nat.min_le_right _ _
    | interfaces node => exact Nat.min_le_right _ _
    | ports node => exact h node hq
  · intro h
    have hsum := List.sum_le_card_nsmul (asked.map (Question.wait t.state p.probeTimeout)) p.probeTimeout.ceilMillis
      (List.forall_mem_map.2 h)
    rw [List.length_map, smul_eq_mul] at hsum
    omega

/-- A grid with a hidden node that takes ten minutes to answer. -/
def slowGrid : Grid := { hillyGrid with nodes := hillyGrid.nodes.insert 2 { Node.new with latency := 600000 } }

/-- When the slow node joins, its three answers cost far more than three times the timeout, since the pass waits for its ports
until it has them. -/
theorem waits_of_slowGrid : ∃ plan t',
    plainPlanner.plan plainChance hillyMesh (.ofList [(2 : NodeId)]) false ⟨0, slowGrid⟩ = .ok (.ok plan, t') ∧
      t'.state.calls.length = 3 ∧ plainPlanner.probeTimeout.ceilMillis = 10000 ∧ t'.now = 620000 ∧
      ∃ node, kept hillyMesh node = none ∧ plainPlanner.probeTimeout.ceilMillis < slowGrid.delay node := by
  have hruns : Checked.passes (plainPlanner.plan plainChance hillyMesh (.ofList [(2 : NodeId)]) false ⟨0, slowGrid⟩)
      (fun r => Checked.passes r.1 (fun _ => true) && (r.2.state.calls.length = 3 && r.2.now = 620000)) = true := by
    decide +kernel
  obtain ⟨⟨outcome, t'⟩, hrun, htest⟩ := Checked.exists_of_passes hruns
  obtain ⟨hplan, hcalls, hnow⟩ := by simpa only [Bool.and_eq_true, decide_eq_true_eq] using htest
  obtain ⟨plan, rfl, -⟩ := Checked.exists_of_passes hplan
  have hms : plainPlanner.probeTimeout.ceilMillis = 10000 := by decide +kernel
  refine ⟨plan, t', hrun, hcalls, hms, hnow, ?_⟩
  obtain ⟨_, _, asked, hrun', -, hstate, -, hjoins, hguarded, hbound⟩ :=
    waits_of_plan plainPlanner plainChance hillyMesh (.ofList [(2 : NodeId)]) false ⟨0, slowGrid⟩
  cases hrun.symm.trans hrun'
  have hlength : asked.length = 3 := by
    rw [hstate] at hcalls
    simpa [slowGrid, hillyGrid] using hcalls
  by_contra hfast
  -- otherwise every question would be waited for no longer than the timeout, and three of them for half a minute
  have hwaits := hbound (hguarded.2 fun node hnode => Nat.le_of_not_lt fun hlate => hfast ⟨node, hjoins node hnode, hlate⟩)
  rw [hlength, hms] at hwaits
  change t'.now ≤ 0 + 3 * 10000 at hwaits
  omega

end Planner

end ComputeGrid
