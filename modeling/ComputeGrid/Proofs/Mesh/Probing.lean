import ComputeGrid.Mesh.Planner
import ComputeGrid.Proofs.Grid.Calls

/-!
# What probes find

A probe finds what the node's configuration says, if the node answers in time (`Grid.reachability`), and leaves nothing
behind but its calls (`Grid.Probed`, `Reachability.probe_run`).  So the survey of a list of nodes finds the reachability
of each of them (`Planner.survey_run`), and whatever is probed later finds the same.
-/

namespace ComputeGrid

namespace Grid

variable {g g' g₁ g₂ : Grid} {node : NodeId} {timeout : Duration} {t : Timeline Grid}

/-! ### States that probes lead to -/

/-- Nodes were asked for their public network and their interfaces, and nothing else has happened. -/
structure Probed (g g' : Grid) : Prop where
  same : g' = { g with calls := g'.calls }
  calls : Called (fun x => x.2 = NodeMethod.publicConfig.text ∨ x.2 = NodeMethod.interfaces.text) g g'

theorem Probed.refl (g : Grid) : Probed g g := ⟨rfl, [], rfl, nofun⟩

theorem Probed.trans (h₁ : Probed g g₁) (h₂ : Probed g₁ g₂) : Probed g g₂ where
  same := by rw [h₂.same, h₁.same]
  calls := h₁.calls.trans h₂.calls

theorem probed_record {m : NodeMethod} (h : m = .publicConfig ∨ m = .interfaces) (g : Grid) (node : NodeId) :
    Probed g (g.record node m.text) := by
  refine ⟨rfl, [(node, m.text)], rfl, fun x hx => ?_⟩
  rw [List.mem_singleton] at hx
  rw [hx]
  exact h.imp (congrArg NodeMethod.text) (congrArg NodeMethod.text)

/-! ### What a node says of itself -/

/-- A node that answers within a time. -/
def responder? (g : Grid) (node : NodeId) (timeout : Duration) : Option Node :=
  g.nodes[node]?.filter fun n => !n.down && n.latency ≤ timeout.ceilMillis

/-- How a node can be reached by what it says of itself within a time for each question. -/
def reachability (g : Grid) (node : NodeId) (timeout : Duration) : Reachability :=
  ((g.responder? node timeout).bind fun n =>
    (n.publicConfig.bind Reachability.ofPublicConfig?).or (Reachability.ofInterfaces? n.interfaces)).getD .hidden

theorem responder?_eq_some {n : Node} (h : g.responder? node timeout = some n) :
    g.nodes[node]? = some n ∧ n.down = false ∧ n.latency ≤ timeout.ceilMillis := by
  obtain ⟨hn, htest⟩ := Option.filter_eq_some_iff.1 h
  rw [Bool.and_eq_true, Bool.not_eq_true', decide_eq_true_eq] at htest
  exact ⟨hn, htest.1, htest.2⟩

theorem responder?_eq_none (h : g.responder? node timeout = none) : ¬ g.Answers node timeout := by
  rintro ⟨n, hn, hup, hlatency⟩
  rw [responder?, hn, Option.filter_some, hup, decide_eq_true hlatency] at h
  cases h

theorem Probed.reachability (h : Probed g g') (node : NodeId) (timeout : Duration) :
    g'.reachability node timeout = g.reachability node timeout := by
  rw [h.same]
  rfl

/-- What is learned from a question to a node: what its answer says, if it answers in time. -/
theorem exists_learned {α β : Type} (node : NodeId) (name : String) (timeout : Duration) (t : Timeline Grid)
    {answer : Grid → Except RpcError α × Grid} (hanswer : ∀ g, (answer g).2 = g) (learn : α → Option β) :
    ∃ r t', (exchange node name answer).within timeout t = .ok (r, t') ∧ t'.state = t.state.record node name ∧
      (r.bind fun x => x.toOption.bind learn) =
        (t.state.responder? node timeout).bind fun _ => (answer (t.state.record node name)).1.toOption.bind learn := by
  cases hn : t.state.responder? node timeout with
  | some n =>
    obtain ⟨hnode, hup, hlatency⟩ := responder?_eq_some hn
    exact ⟨_, _, exchange_run hnode hup hlatency, hanswer _, rfl⟩
  | none =>
    obtain ⟨r, t', hrun, hex⟩ := exchange_within node name timeout answer t
    generalize ht' : t'.state = g' at hex
    cases hex with
    | unreachable => exact ⟨_, t', hrun, ht', rfl⟩
    | late => exact ⟨_, t', hrun, ht', rfl⟩
    | answered hanswers => exact absurd hanswers (responder?_eq_none hn)

theorem getPublicConfig_answer_snd (node : NodeId) (g : Grid) : ((getPublicConfig node).answer g).2 = g := by
  simp only [getPublicConfig, exchange]
  split
  · rfl
  · rfl

theorem getPublicConfig_run (node : NodeId) (timeout : Duration) (t : Timeline Grid) :
    ∃ r t', (getPublicConfig node).within timeout t = .ok (r, t') ∧
      t'.state = t.state.record node NodeMethod.publicConfig.text ∧
      (r.bind fun x => x.toOption.bind Reachability.ofPublicConfig?) =
        (t.state.responder? node timeout).bind fun n => n.publicConfig.bind Reachability.ofPublicConfig? := by
  obtain ⟨r, t', hrun, ht', hr⟩ := exists_learned node NodeMethod.publicConfig.text timeout t
    (getPublicConfig_answer_snd node) Reachability.ofPublicConfig?
  refine ⟨r, t', hrun, ht', hr.trans ?_⟩
  cases hn : t.state.responder? node timeout with
  | none => rfl
  | some n =>
    have hnode : (t.state.record node NodeMethod.publicConfig.text).nodes[node]? = some n := (responder?_eq_some hn).1
    rw [Option.bind_some, Option.bind_some]
    simp only [getPublicConfig, exchange, hnode, Option.bind_some]
    cases n.publicConfig with
    | none => rfl
    | some config => rfl

theorem getInterfaces_run (node : NodeId) (timeout : Duration) (t : Timeline Grid) :
    ∃ r t', (getInterfaces node).within timeout t = .ok (r, t') ∧
      t'.state = t.state.record node NodeMethod.interfaces.text ∧
      (r.bind fun x => x.toOption.bind Reachability.ofInterfaces?) =
        (t.state.responder? node timeout).bind fun n => Reachability.ofInterfaces? n.interfaces := by
  have hanswer : ∀ g, ((getInterfaces node).answer g).2 = g := fun _ => rfl
  obtain ⟨r, t', hrun, ht', hr⟩ := exists_learned node NodeMethod.interfaces.text timeout t hanswer
    Reachability.ofInterfaces?
  refine ⟨r, t', hrun, ht', hr.trans ?_⟩
  cases hn : t.state.responder? node timeout with
  | none => rfl
  | some n =>
    have hnode : (t.state.record node NodeMethod.interfaces.text).nodes[node]? = some n := (responder?_eq_some hn).1
    rw [Option.bind_some, Option.bind_some]
    simp only [getInterfaces, exchange, hnode, Option.map_some, Option.getD_some]
    rfl

end Grid

namespace Reachability

open Grid

/-- A probe finds how the node can be reached. -/
theorem probe_run (node : NodeId) (timeout : Duration) (t : Timeline Grid) :
    ∃ t', probe node timeout t = .ok (t.state.reachability node timeout, t') ∧ Probed t.state t'.state := by
  obtain ⟨r, t₁, hconfig, ht₁, hr⟩ := getPublicConfig_run node timeout t
  have hprobed : Probed t.state t₁.state := ht₁ ▸ probed_record (.inl rfl) t.state node
  rw [probe, Timed.bind_run hconfig, hr]
  cases hfound : (t.state.responder? node timeout).bind fun n => n.publicConfig.bind ofPublicConfig? with
  | some found =>
    obtain ⟨n, hn, hpublic⟩ := Option.bind_eq_some_iff.1 hfound
    refine ⟨t₁, ?_, hprobed⟩
    rw [Grid.reachability, hn, Option.bind_some, hpublic]
    rfl
  | none =>
    obtain ⟨r', t₂, hinterfaces, ht₂, hr'⟩ := getInterfaces_run node timeout t₁
    have hresponder : t₁.state.responder? node timeout = t.state.responder? node timeout := by rw [ht₁]; rfl
    dsimp only
    rw [Timed.bind_run hinterfaces, hr', hresponder]
    refine ⟨t₂, ?_, hprobed.trans (ht₂ ▸ probed_record (.inr rfl) t₁.state node)⟩
    rw [Grid.reachability]
    cases hn : t.state.responder? node timeout with
    | none => rfl
    | some n =>
      rw [hn, Option.bind_some] at hfound
      rw [Option.bind_some, Option.bind_some, hfound, Option.none_or]
      rfl

theorem eq_of_probe {node : NodeId} {timeout : Duration} {t t' : Timeline Grid} {r : Reachability}
    (h : probe node timeout t = .ok (r, t')) : r = t.state.reachability node timeout ∧ Probed t.state t'.state := by
  obtain ⟨t'', hrun, hprobed⟩ := probe_run node timeout t
  rw [hrun] at h
  cases h
  exact ⟨rfl, hprobed⟩

end Reachability

namespace Planner

open Grid

variable {p : Planner} {t : Timeline Grid}

/-- A survey finds how each of its nodes can be reached. -/
theorem survey_run (p : Planner) (nodes : List NodeId) (t : Timeline Grid) :
    ∃ found t', p.survey nodes t = .ok (found, t') ∧ Probed t.state t'.state ∧
      ∀ node : NodeId, found[node]? =
        if node ∈ nodes then some (t.state.reachability node p.probeTimeout) else none := by
  induction nodes generalizing t with
  | nil =>
    refine ⟨∅, t, rfl, .refl t.state, fun node => ?_⟩
    rw [Std.ExtTreeMap.getElem?_empty, if_neg List.not_mem_nil]
  | cons first rest ih =>
    obtain ⟨t₁, hprobe, hprobed⟩ := Reachability.probe_run first p.probeTimeout t
    obtain ⟨found, t₂, hrest, hprobed', hfound⟩ := ih t₁
    refine ⟨found.insert first (t.state.reachability first p.probeTimeout), t₂, ?_, hprobed.trans hprobed',
      fun node => ?_⟩
    · rw [survey, Timed.bind_run hprobe, Timed.bind_run hrest]
      rfl
    · by_cases heq : node = first
      · subst heq
        rw [Std.ExtTreeMap.getElem?_insert_self, if_pos List.mem_cons_self]
      · rw [getElem?_insert_of_ne heq, hfound, hprobed.reachability]
        simp only [List.mem_cons, heq, false_or]

end Planner

end ComputeGrid
