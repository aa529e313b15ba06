import ComputeGrid.Proofs.Mesh.Relays
import Mathlib.Data.List.Find

/-!
# How a relay is looked for

Nodes are known as a survey has found them (`Planner.Sights`), and what is probed in the search is found the same way.  So
what the search ends in is settled before it starts: the previous relay, the first target, or the first of the nodes that
the inventory gives one after another (`Inventory.picks`), that is seen to have a public IPv4 address
(`Planner.choiceOf`).  The search ends in that node, or in an error that says that there is none
(`Planner.chooseRelay_run`, `Planner.relayFor_run`), and leaves nothing behind but its probes.
-/

namespace ComputeGrid

/-- Whether an error says that no relay was found. -/
def MeshError.isOfRelay : MeshError → Bool
  | noRelay _ | inventory _ => true
  | _ => false

namespace Planner

open Grid

variable {p : Planner} {targets : Std.ExtTreeSet NodeId} {external : Bool} {t t' : Timeline Grid}
  {found reach : NodeMap Reachability} {node relay : NodeId} {previous : Option NodeId}

/-! ### What is known about nodes -/

/-- Nodes are known as they are found in a state of the grid. -/
def Sights (p : Planner) (g : Grid) (found : NodeMap Reachability) : Prop :=
  ∀ (node : NodeId) r, found[node]? = some r → r = g.reachability node p.probeTimeout

theorem Sights.of_probed {g g' : Grid} (hfound : p.Sights g found) (h : Probed g g') : p.Sights g' found := by
  intro node r hr
  rw [h.reachability]
  exact hfound node r hr

/-- A survey knows its nodes as they are found when it ends. -/
theorem survey_eq_ok {nodes : List NodeId} (h : p.survey nodes t = .ok (found, t')) :
    p.Sights t'.state found ∧ Probed t.state t'.state := by
  obtain ⟨found', t₁, hrun, hprobed, hfound⟩ := survey_run p nodes t
  rw [h] at hrun
  cases hrun
  refine ⟨fun node r hr => ?_, hprobed⟩
  rw [hprobed.reachability]
  rw [hfound] at hr
  split at hr
  · exact (Option.some.inj hr).symm
  · cases hr

/-- Whether a node is found to have a public IPv4 address. -/
def sees (p : Planner) (g : Grid) (node : NodeId) : Bool := (g.reachability node p.probeTimeout).isIpv4

theorem sees_of_probed {g g' : Grid} (h : Probed g g') : p.sees g' = p.sees g := by
  funext node
  rw [sees, h.reachability, sees]

/-! ### Steps of the search -/

/-- What is known about nodes when one has been found anew. -/
def enter (p : Planner) (g : Grid) (found : NodeMap Reachability) (relay : NodeId) : NodeId × NodeMap Reachability :=
  (relay, found.insert relay (g.reachability relay p.probeTimeout))

theorem enter_of_probed {g g' : Grid} (h : Probed g g') : p.enter g' found = p.enter g found := by
  funext relay
  rw [enter, h.reachability, enter]

/-- What a search ends in by its choice: the node that is chosen, or an error of relays if there is none. -/
inductive Seeks (p : Planner) (g : Grid) (found : NodeMap Reachability) :
    Option NodeId → Except MeshError (NodeId × NodeMap Reachability) → Prop
  | chosen {r : NodeId} : Seeks p g found (some r) (.ok (p.enter g found r))
  | missing {e : MeshError} (he : e.isOfRelay = true) : Seeks p g found none (.error e)

/-- Probes between two states of the grid make no difference to a search. -/
theorem Seeks.of_probed {g g' : Grid} {choice : Option NodeId} {outcome : Except MeshError (NodeId × NodeMap Reachability)}
    (h : Probed g g') (hseeks : p.Seeks g' found choice outcome) : p.Seeks g found choice outcome := by
  cases hseeks with
  | chosen =>
    rw [enter_of_probed h]
    exact .chosen
  | missing he => exact .missing he

/-- The search in an inventory ends in the first node among those that it gives that is seen. -/
theorem findRelay_run (p : Planner) (inventory : Inventory) (found : NodeMap Reachability) (tries : Nat)
    (exclude : List NodeId) (t : Timeline Grid) :
    ∃ outcome t', p.findRelay inventory found tries exclude t = .ok (outcome, t') ∧
      p.Seeks t.state found ((inventory.picks tries exclude).find? (p.sees t.state)) outcome ∧
      Probed t.state t'.state := by
  -- each try excludes one more node and starts where the probe before it has ended
  induction tries generalizing exclude t with
  | zero => exact ⟨_, t, rfl, .missing rfl, .refl t.state⟩
  | succ tries ih =>
    rw [findRelay, Inventory.picks]
    cases hpick : inventory.pickPublicNode exclude with
    | error cause =>
      cases cause with
      | noPublicNode => exact ⟨_, t, rfl, .missing rfl, .refl t.state⟩
      | nodeNotFound node => exact ⟨_, t, rfl, .missing rfl, .refl t.state⟩
      | offline => exact ⟨_, t, rfl, .missing rfl, .refl t.state⟩
    | ok candidate =>
      obtain ⟨t₁, hprobe, hprobed⟩ := Reachability.probe_run candidate p.probeTimeout t
      dsimp only
      rw [bind_run (liftTimed_eq_ok.2 hprobe), List.find?_cons]
      cases hsees : (t.state.reachability candidate p.probeTimeout).isIpv4 with
      | true =>
        rw [show p.sees t.state candidate = true from hsees, if_pos rfl]
        exact ⟨_, t₁, rfl, .chosen, hprobed⟩
      | false =>
        -- the search goes on from what the probe has led to
        obtain ⟨outcome, t', hrun, hseeks, hprobed'⟩ := ih (exclude ++ [candidate]) t₁
        rw [show p.sees t.state candidate = false from hsees, if_neg Bool.false_ne_true, ← sees_of_probed hprobed]
        exact ⟨outcome, t', hrun, hseeks.of_probed hprobed, hprobed.trans hprobed'⟩

/-- The previous relay stays if it is seen, whether it is a target or is probed anew. -/
theorem keepRelay_run (hfound : p.Sights t.state found) (previous : Option NodeId) :
    ∃ t', p.keepRelay previous found t = .ok ((previous.filter (p.sees t.state)).map (p.enter t.state found), t') ∧
      Probed t.state t'.state := by
  cases previous with
  | none => exact ⟨t, rfl, .refl t.state⟩
  | some relay =>
    have hkept : (if (t.state.reachability relay p.probeTimeout).isIpv4 then
        some (relay, found.insert relay (t.state.reachability relay p.probeTimeout)) else none) =
        ((some relay).filter (p.sees t.state)).map (p.enter t.state found) := by
      rw [Option.filter_some, sees]
      split
      · rfl
      · rfl
    rw [keepRelay, ← hkept]
    -- a target is known as a probe would find it
    cases hrelay : found[relay]? with
    | some r =>
      obtain rfl := hfound relay r hrelay
      exact ⟨t, rfl, .refl t.state⟩
    | none =>
      obtain ⟨t', hprobe, hprobed⟩ := Reachability.probe_run relay p.probeTimeout t
      refine ⟨t', ?_, hprobed⟩
      dsimp only
      rw [Timed.bind_run hprobe]
      rfl

/-- The node of the inventory that is chosen. -/
def discovered (p : Planner) (g : Grid) (exclude : List NodeId) : Option NodeId :=
  (g.inventory.filter fun _ => p.usesInventory).bind fun i => (i.picks relayCandidates exclude).find? (p.sees g)

/-- Whether a node is known to have a public IPv4 address. -/
def isKnown (found : NodeMap Reachability) (node : NodeId) : Bool := found[node]?.any (·.isIpv4)

theorem isKnown_iff : isKnown found node = true ↔ ∃ r : Reachability, found[node]? = some r ∧ r.isIpv4 = true :=
  Option.any_eq_true _ _

/-- The nodes that are known are seen as they are known. -/
theorem find?_isKnown {g : Grid} {nodes : List NodeId} (hfound : p.Sights g found) (hnodes : ∀ node ∈ nodes, node ∈ found) :
    nodes.find? (isKnown found) = nodes.find? (p.sees g) :=
  List.find?_congr fun node hnode => by
    obtain ⟨r, hr⟩ := mem_iff_exists_getElem?.1 (hnodes node hnode)
    rw [isKnown, hr, hfound node r hr]
    rfl

/-- Instead of the previous relay the first target that is known to have a public IPv4 address is chosen, or else a node of
the inventory. -/
theorem newRelay_run (hfound : p.Sights t.state found) (previous : Option NodeId) (nodes : List NodeId) :
    ∃ outcome t', p.newRelay previous nodes found t = .ok (outcome, t') ∧
      p.Seeks t.state found ((nodes.find? (isKnown found)).or (p.discovered t.state (nodes ++ previous.toList))) outcome ∧
      Probed t.state t'.state := by
  rw [newRelay, show (fun node => found[node]?.any (·.isIpv4)) = isKnown found from rfl]
  cases htarget : nodes.find? (isKnown found) with
  | some node =>
    obtain ⟨r, hr, -⟩ := isKnown_iff.1 (List.find?_some htarget)
    obtain rfl := hfound node r hr
    -- the node is known already, so entering it changes nothing
    have hentered : found.insert node (t.state.reachability node p.probeTimeout) = found := by
      refine Std.ExtTreeMap.ext_getElem? fun other => ?_
      by_cases heq : other = node
      · subst heq
        rw [Std.ExtTreeMap.getElem?_insert_self, hr]
      · rw [getElem?_insert_of_ne heq]
    have hchosen : p.Seeks t.state found (some node) (.ok (p.enter t.state found node)) := .chosen
    rw [enter, hentered] at hchosen
    exact ⟨_, t, rfl, hchosen, .refl t.state⟩
  | none =>
    have hquery : (liftM (Timed.query (·.inventory) : Timed Grid (Option Inventory)) : Planning (Option Inventory)) t =
        .ok (.ok t.state.inventory, t) := rfl
    dsimp only
    rw [bind_run hquery, Option.none_or, discovered]
    cases t.state.inventory.filter fun _ => p.usesInventory with
    | none => exact ⟨_, t, rfl, .missing rfl, .refl t.state⟩
    | some inventory => exact p.findRelay_run inventory found relayCandidates _ t

/-- The relay that a search ends in: the previous one if it is seen, or else the first target that is known to have a public
IPv4 address, or else a node of the inventory. -/
def choiceOf (p : Planner) (g : Grid) (found : NodeMap Reachability) (previous : Option NodeId) (nodes : List NodeId) :
    Option NodeId :=
  (previous.filter (p.sees g)).or ((nodes.find? (isKnown found)).or (p.discovered g (nodes ++ previous.toList)))

theorem discovered_of_probed {g g' : Grid} (h : Probed g g') : p.discovered g' = p.discovered g := by
  funext exclude
  rw [discovered, sees_of_probed h, show g'.inventory = g.inventory by rw [h.same], discovered]

theorem chooseRelay_run (hfound : p.Sights t.state found) (previous : Option NodeId) (nodes : List NodeId) :
    ∃ outcome t', p.chooseRelay previous nodes found t = .ok (outcome, t') ∧
      p.Seeks t.state found (p.choiceOf t.state found previous nodes) outcome ∧ Probed t.state t'.state := by
  obtain ⟨t₁, hkeep, hprobed⟩ := keepRelay_run hfound previous
  rw [chooseRelay, bind_run (liftTimed_eq_ok.2 hkeep), choiceOf]
  cases previous.filter (p.sees t.state) with
  | some relay => exact ⟨_, t₁, rfl, .chosen, hprobed⟩
  | none =>
    obtain ⟨outcome, t', hrun, hseeks, hprobed'⟩ := newRelay_run (hfound.of_probed hprobed) previous nodes
    rw [discovered_of_probed hprobed] at hseeks
    exact ⟨outcome, t', hrun, hseeks.of_probed hprobed, hprobed.trans hprobed'⟩

/-- Whichever node is chosen is seen. -/
theorem sees_of_choiceOf {g : Grid} {nodes : List NodeId} (hfound : p.Sights g found)
    (h : p.choiceOf g found previous nodes = some relay) : p.sees g relay = true := by
  rw [choiceOf, Option.or_eq_some_iff] at h
  rcases h with hkept | ⟨-, h⟩
  · exact (Option.filter_eq_some_iff.1 hkept).2
  rw [Option.or_eq_some_iff] at h
  rcases h with htarget | ⟨-, hdiscovered⟩
  · obtain ⟨r, hr, hipv4⟩ := isKnown_iff.1 (List.find?_some htarget)
    rw [sees, ← hfound relay r hr]
    exact hipv4
  · obtain ⟨i, -, hfind⟩ := Option.bind_eq_some_iff.1 hdiscovered
    exact List.find?_some hfind

/-- Whichever node is chosen is entered as it is found. -/
theorem chooseRelay_insert {nodes : List NodeId} (hfound : p.Sights t.state found)
    (h : p.chooseRelay previous nodes found t = .ok (.ok (relay, reach), t')) :
    (t.state.reachability relay p.probeTimeout).isIpv4 = true ∧
      reach = found.insert relay (t.state.reachability relay p.probeTimeout) := by
  obtain ⟨outcome, t₁, hrun, hseeks, -⟩ := chooseRelay_run hfound previous nodes
  rw [h] at hrun
  cases hrun
  generalize hchoice : p.choiceOf t.state found previous nodes = choice at hseeks
  cases hseeks with
  | chosen => exact ⟨sees_of_choiceOf hfound hchoice, rfl⟩

/-- What the question for a relay ends in: nothing where none is needed, and else the choice, or an error of relays. -/
inductive Finds (p : Planner) (g : Grid) (previous : Option NodeId) (targets : Std.ExtTreeSet NodeId) (external : Bool)
    (found : NodeMap Reachability) : Except MeshError (Option NodeId × NodeMap Reachability) → Prop
  | unneeded (hneeds : needsRelay targets external found = false) :
      Finds p g previous targets external found (.ok (none, found))
  | chosen {r : NodeId} (hneeds : needsRelay targets external found = true)
      (hchoice : p.choiceOf g found previous targets.toList = some r) :
      Finds p g previous targets external found (.ok (some r, (p.enter g found r).2))
  | missing {e : MeshError} (hneeds : needsRelay targets external found = true)
      (hchoice : p.choiceOf g found previous targets.toList = none) (he : e.isOfRelay = true) :
      Finds p g previous targets external found (.error e)

theorem relayFor_run (hfound : p.Sights t.state found) (previous : Option NodeId) (targets : Std.ExtTreeSet NodeId)
    (external : Bool) :
    ∃ outcome t', p.relayFor previous targets external found t = .ok (outcome, t') ∧
      p.Finds t.state previous targets external found outcome ∧ Probed t.state t'.state := by
  rw [relayFor]
  cases hneeds : needsRelay targets external found with
  | false => exact ⟨_, t, rfl, .unneeded hneeds, .refl t.state⟩
  | true =>
    obtain ⟨outcome, t', hrun, hseeks, hprobed⟩ := chooseRelay_run hfound previous targets.toList
    rw [if_pos rfl]
    generalize hchoice : p.choiceOf t.state found previous targets.toList = choice at hseeks
    cases hseeks with
    | chosen =>
      rw [bind_run hrun]
      exact ⟨_, t', rfl, .chosen hneeds hchoice, hprobed⟩
    | missing he => exact ⟨_, t', bind_eq_error.2 (.inl hrun), .missing hneeds hchoice he, hprobed⟩

theorem finds_of_relayFor {outcome : Except MeshError (Option NodeId × NodeMap Reachability)}
    (hfound : p.Sights t.state found) (h : p.relayFor previous targets external found t = .ok (outcome, t')) :
    p.Finds t.state previous targets external found outcome ∧ Probed t.state t'.state := by
  obtain ⟨_, _, hrun, hfinds, hprobed⟩ := relayFor_run hfound previous targets external
  rw [h] at hrun
  cases hrun
  exact ⟨hfinds, hprobed⟩

end Planner

end ComputeGrid
