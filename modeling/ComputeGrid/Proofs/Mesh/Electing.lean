import ComputeGrid.Proofs.Mesh.Searching
import ComputeGrid.Proofs.Mesh.Stability
import Mathlib.Order.Bounds.Basic

/-!
# Which relay a pass chooses

A relay is wanted for access from outside, or for a hidden target beside another one (`Planner.Wants`).  The one that a pass
ends in is the previous one as long as it is seen to have a public IPv4 address, or else the least of the targets that are
seen to, or else the least of the first five candidates of the inventory that are seen to (`Planner.Elects`).  A pass that
ends for want of a relay has found none of these (`Planner.Barren`).  Both are read off the choice that the search ends in
(`Planner.elects_of_choiceOf`, `Planner.barren_of_choiceOf`), since no other step of a pass ends in an error of relays.
-/

namespace ComputeGrid.Planner

open Grid

variable {p : Planner} {chance : Chance} {targets : Std.ExtTreeSet NodeId} {external : Bool} {t t' : Timeline Grid}
  {g g' : Grid} {found : NodeMap Reachability} {node relay : NodeId} {previous : Option NodeId} {e : MeshError}

/-! ### What a relay is wanted for -/

/-- A relay is wanted for access from outside, or for a hidden target beside another one. -/
def Wants (p : Planner) (g : Grid) (targets : Std.ExtTreeSet NodeId) (external : Bool) : Prop :=
  external = true ∨ (∃ node ∈ targets, g.reachability node p.probeTimeout = .hidden) ∧ 2 ≤ targets.size

/-- What is known of exactly the targets tells whether a relay is wanted. -/
theorem needsRelay_iff (hfound : p.Sights g found) (hmem : ∀ node, node ∈ found ↔ node ∈ targets) :
    needsRelay targets external found = true ↔ p.Wants g targets external := by
  rw [needsRelay, Bool.or_eq_true, Bool.and_eq_true, decide_eq_true_eq, any_isHidden_iff]
  refine or_congr_right (and_congr_left fun _ => ⟨?_, ?_⟩)
  · rintro ⟨node, hnode⟩
    exact ⟨node, (hmem node).1 (mem_iff_exists_getElem?.2 ⟨_, hnode⟩), (hfound node _ hnode).symm⟩
  · rintro ⟨node, hnode, hhidden⟩
    obtain ⟨r, hr⟩ := mem_iff_exists_getElem?.1 ((hmem node).2 hnode)
    refine ⟨node, ?_⟩
    rw [hr, hfound node r hr, hhidden]

/-! ### Who is chosen -/

/-- The previous relay is not seen, if there was one. -/
def Gone (p : Planner) (g : Grid) (previous : Option NodeId) : Prop :=
  ∀ relay, previous = some relay → p.sees g relay = false

/-- The first five candidates of an inventory beside the targets and the previous relay. -/
def hopefuls (i : Inventory) (targets : Std.ExtTreeSet NodeId) (previous : Option NodeId) : List NodeId :=
  (i.candidates (targets.toList ++ previous.toList)).take 5

/-- There is a relay if one is wanted; it is seen; it is the previous one if that is seen, or else the least target that is
seen, or else the least of the first five candidates of the inventory that is seen. -/
structure Elects (p : Planner) (g : Grid) (previous : Option NodeId) (targets : Std.ExtTreeSet NodeId) (external : Bool)
    (relay : Option NodeId) : Prop where
  wanted : relay.isSome = true ↔ p.Wants g targets external
  seen : ∀ r, relay = some r → p.sees g r = true
  stays : ∀ r before, relay = some r → previous = some before → p.sees g before = true → r = before
  target : ∀ r, relay = some r → p.Gone g previous → (∃ node ∈ targets, p.sees g node = true) →
    IsLeast {node | node ∈ targets ∧ p.sees g node = true} r
  elsewhere : ∀ r, relay = some r → p.Gone g previous → (∀ node ∈ targets, p.sees g node = false) →
    r ∉ targets ∧ previous ≠ some r ∧ ∃ i, g.inventory = some i ∧ p.usesInventory = true ∧ i.online = true ∧
      IsLeast {node | node ∈ hopefuls i targets previous ∧ p.sees g node = true} r

/-- A relay is wanted, and neither the previous one is seen, nor any target, nor one of the first five candidates of an
inventory that answers. -/
structure Barren (p : Planner) (g : Grid) (previous : Option NodeId) (targets : Std.ExtTreeSet NodeId)
    (external : Bool) : Prop where
  wanted : p.Wants g targets external
  gone : p.Gone g previous
  unseen : ∀ node ∈ targets, p.sees g node = false
  elsewhere : ∀ i, g.inventory = some i → p.usesInventory = true → i.online = true →
    ∀ node ∈ hopefuls i targets previous, p.sees g node = false

/-! ### The least of a list -/

/-- The first node of a list with a property is the least such node if the list is in order. -/
theorem isLeast_of_find? {nodes : List NodeId} {q : NodeId → Bool} (hordered : nodes.Pairwise (· < ·))
    (h : nodes.find? q = some node) : IsLeast {node | node ∈ nodes ∧ q node = true} node := by
  obtain ⟨hq, earlier, later, rfl, hearlier⟩ := List.find?_eq_some_iff_append.1 h
  refine ⟨⟨List.mem_append_right _ List.mem_cons_self, hq⟩, ?_⟩
  rintro other ⟨hother, hqother⟩
  rcases List.mem_append.1 hother with hmem | hmem
  · have hnot := hearlier other hmem
    rw [hqother] at hnot
    cases hnot
  · rcases List.mem_cons.1 hmem with rfl | hmem
    · exact UInt32.le_refl _
    · have hafter : node < other := List.rel_of_pairwise_cons (List.pairwise_append.1 hordered).2.1 hmem
      exact UInt32.le_of_lt hafter

theorem pairwise_hopefuls (i : Inventory) : (hopefuls i targets previous).Pairwise (· < ·) :=
  Inventory.pairwise_candidates.sublist (List.take_sublist _ _)

/-- The candidates are none of those whom they stand beside. -/
theorem not_mem_of_hopefuls {i : Inventory} (h : node ∈ hopefuls i targets previous) :
    node ∉ targets ∧ previous ≠ some node := by
  have hexclude := (Inventory.mem_candidates.1 (List.mem_of_mem_take h)).2
  rw [List.mem_append, not_or, Std.ExtTreeSet.mem_toList, Option.mem_toList] at hexclude
  exact hexclude

/-! ### The choice -/

/-- The node of the inventory that is chosen is the first of the first five candidates that is seen. -/
theorem discovered_eq_some_iff (hindexed : ∀ i, g.inventory = some i → i.Indexed) :
    p.discovered g (targets.toList ++ previous.toList) = some node ↔
      ∃ i, g.inventory = some i ∧ p.usesInventory = true ∧ i.online = true ∧
        (hopefuls i targets previous).find? (p.sees g) = some node := by
  rw [discovered, Option.bind_eq_some_iff]
  refine exists_congr fun i => ?_
  rw [Option.filter_eq_some_iff, and_assoc]
  refine and_congr_right fun hi => and_congr_right fun _ => ?_
  -- an inventory that is offline gives nothing
  cases honline : i.online with
  | true =>
    rw [(hindexed i hi).picks_eq honline]
    exact (and_iff_right rfl).symm
  | false =>
    rw [i.picks_of_offline honline, List.find?_nil]
    constructor
    · intro h
      cases h
    · rintro ⟨h, -⟩
      cases h

/-- What the search ends in is in order of preference. -/
theorem choiceOf_eq (hfound : p.Sights g found) (hmem : ∀ node, node ∈ found ↔ node ∈ targets) :
    p.choiceOf g found previous targets.toList =
      (previous.filter (p.sees g)).or
        ((targets.toList.find? (p.sees g)).or (p.discovered g (targets.toList ++ previous.toList))) := by
  rw [choiceOf, find?_isKnown hfound fun node hnode => (hmem node).2 (Std.ExtTreeSet.mem_toList.1 hnode)]

theorem filter_sees_eq_none_iff : previous.filter (p.sees g) = none ↔ p.Gone g previous := by
  rw [Option.filter_eq_none_iff, Gone]
  exact forall₂_congr fun _ _ => iff_of_eq (Bool.not_eq_true _)

theorem find?_sees_eq_none_iff : targets.toList.find? (p.sees g) = none ↔ ∀ node ∈ targets, p.sees g node = false := by
  rw [List.find?_eq_none]
  refine forall_congr' fun node => ?_
  rw [Std.ExtTreeSet.mem_toList, Bool.not_eq_true]

/-- No relay is chosen where none is wanted. -/
theorem elects_none (hwants : ¬ p.Wants g targets external) : p.Elects g previous targets external none :=
  ⟨iff_of_false Bool.false_ne_true hwants, nofun, nofun, nofun, nofun⟩

theorem elects_of_choiceOf (hindexed : ∀ i, g.inventory = some i → i.Indexed) (hfound : p.Sights g found)
    (hmem : ∀ node, node ∈ found ↔ node ∈ targets) (hwants : p.Wants g targets external)
    (h : p.choiceOf g found previous targets.toList = some relay) :
    p.Elects g previous targets external (some relay) := by
  have hsees := sees_of_choiceOf hfound h
  rw [choiceOf_eq hfound hmem] at h
  refine {
    wanted := iff_of_true rfl hwants
    seen := ?seen
    stays := ?stays
    target := ?target
    elsewhere := ?elsewhere }
  case seen =>
    rintro r ⟨⟩
    exact hsees
  case stays =>
    rintro r before ⟨⟩ rfl hbefore
    rw [Option.filter_some, if_pos hbefore, Option.some_or] at h
    exact (Option.some.inj h).symm
  case target =>
    rintro r ⟨⟩ hgone ⟨node, hnode, hseen⟩
    rw [filter_sees_eq_none_iff.2 hgone, Option.none_or] at h
    cases htarget : targets.toList.find? (p.sees g) with
    | none =>
      rw [find?_sees_eq_none_iff.1 htarget node hnode] at hseen
      cases hseen
    | some first =>
      rw [htarget, Option.some_or] at h
      obtain rfl := Option.some.inj h
      have hleast := isLeast_of_find? (pairwise_toList targets) htarget
      simp only [Std.ExtTreeSet.mem_toList] at hleast
      exact hleast
  case elsewhere =>
    -- neither the previous relay nor a target is in the way of the inventory
    rintro r ⟨⟩ hgone hunseen
    rw [filter_sees_eq_none_iff.2 hgone, Option.none_or, find?_sees_eq_none_iff.2 hunseen, Option.none_or] at h
    obtain ⟨i, hi, huses, honline, hfind⟩ := (discovered_eq_some_iff hindexed).1 h
    obtain ⟨htarget, hprevious⟩ := not_mem_of_hopefuls (List.mem_of_find?_eq_some hfind)
    exact ⟨htarget, hprevious, i, hi, huses, honline, isLeast_of_find? (pairwise_hopefuls i) hfind⟩

theorem barren_of_choiceOf (hindexed : ∀ i, g.inventory = some i → i.Indexed) (hfound : p.Sights g found)
    (hmem : ∀ node, node ∈ found ↔ node ∈ targets) (hwants : p.Wants g targets external)
    (h : p.choiceOf g found previous targets.toList = none) : p.Barren g previous targets external := by
  rw [choiceOf_eq hfound hmem, Option.or_eq_none_iff, Option.or_eq_none_iff] at h
  obtain ⟨hprevious, htargets, hdiscovered⟩ := h
  refine {
    wanted := hwants
    gone := filter_sees_eq_none_iff.1 hprevious
    unseen := find?_sees_eq_none_iff.1 htargets
    elsewhere := ?_ }
  intro i hi huses honline node hnode
  by_contra hseen
  rw [Bool.not_eq_false] at hseen
  -- then some candidate would have been chosen
  obtain ⟨first, hfirst⟩ := Option.isSome_iff_exists.1 (List.find?_isSome.2 ⟨node, hnode, hseen⟩)
  rw [(discovered_eq_some_iff hindexed).2 ⟨i, hi, huses, honline, hfirst⟩] at hdiscovered
  cases hdiscovered

/-! ### Errors of the other steps -/

theorem isOfRelay_of_ranges {m : Mesh} (h : p.ranges m = .error e) : e.isOfRelay = false := by
  unfold ranges at h
  split at h
  · cases h
    rfl
  · split at h
    · cases h
    · cases h
      rfl

theorem isOfRelay_of_allocate {s : Subnets} (h : allocate s = .error e) : e.isOfRelay = false := by
  unfold allocate at h
  split at h
  · cases h
  · cases h
    rfl

theorem isOfRelay_of_chooseExternal {before : Option ExternalMember} {s : Subnets}
    (h : chooseExternal chance before s = .error e) : e.isOfRelay = false := by
  unfold chooseExternal at h
  cases before with
  | none =>
    dsimp only at h
    cases hallocate : allocate s with
    | ok r =>
      rw [hallocate] at h
      cases h
    | error flaw =>
      rw [hallocate] at h
      cases h
      exact isOfRelay_of_allocate hallocate
  | some member =>
    dsimp only at h
    split at h
    · cases h
    · cases h
    · cases h
      rfl

theorem isOfRelay_of_outsideFor {before : Option ExternalMember} {s : Subnets}
    (h : outsideFor chance before external s = .error e) : e.isOfRelay = false := by
  cases external with
  | false =>
    rw [outsideFor, if_neg Bool.false_ne_true] at h
    cases h
  | true =>
    rw [outsideFor, if_pos rfl] at h
    cases hchoose : chooseExternal chance before s with
    | ok r =>
      rw [hchoose] at h
      cases h
    | error flaw =>
      rw [hchoose] at h
      cases h
      exact isOfRelay_of_chooseExternal hchoose

theorem isOfRelay_of_newMember {subnet : Ipv4Network} {chosen : Std.ExtTreeSet UInt16}
    (h : p.newMember chance node subnet chosen t = .ok (.error e, t')) : e.isOfRelay = false := by
  obtain ⟨asked, -, hadmits⟩ := admits_of_newMember h
  cases hadmits with
  | unanswered _ => rfl
  | full _ => rfl

theorem isOfRelay_of_chooseMembers {m : Mesh} {nodes : List NodeId} {s : Subnets} {chosen : Std.ExtTreeSet UInt16}
    {members : NodeMap Member} (h : p.chooseMembers chance m s chosen members nodes t = .ok (.error e, t')) :
    e.isOfRelay = false := by
  induction nodes generalizing s chosen members t with
  | nil =>
    rw [chooseMembers] at h
    cases h
  | cons node rest ih =>
    rw [chooseMembers] at h
    cases hkept : kept m node with
    | some k =>
      rw [hkept] at h
      exact ih h
    | none =>
      rw [hkept, bind_eq_error] at h
      rcases h with h | ⟨⟨subnet, left⟩, t₁, -, h⟩
      · exact isOfRelay_of_allocate (lift_eq_error.1 h).1
      rcases bind_eq_error.1 h with h | ⟨k, t₂, -, h⟩
      · exact isOfRelay_of_newMember h
      · exact ih h

/-- A pass that ends in an error of relays ends in the search for one, right after its survey. -/
theorem relayFor_of_error {m : Mesh} (h : p.plan chance m targets external t = .ok (.error e, t'))
    (he : e.isOfRelay = true) :
    ∃ found t₁ t₂, p.survey targets.toList t = .ok (found, t₁) ∧
      p.relayFor m.relay targets external found t₁ = .ok (.error e, t₂) := by
  -- of the steps of a pass only the search can end in such an error
  rw [plan, bind_eq_error] at h
  rcases h with h | ⟨⟨carrier, start⟩, t₁, hranges, h⟩
  · rw [isOfRelay_of_ranges (lift_eq_error.1 h).1] at he
    cases he
  obtain ⟨-, rfl⟩ := lift_eq_ok.1 hranges
  rcases bind_eq_error.1 h with h | ⟨found, t₂, hsurvey, h⟩
  · exact absurd h liftTimed_ne_error
  rcases bind_eq_error.1 h with h | ⟨⟨relay, reach⟩, t₃, -, h⟩
  · exact ⟨found, t₂, t', liftTimed_eq_ok.1 hsurvey, h⟩
  rcases bind_eq_error.1 h with h | ⟨⟨outside, left⟩, t₄, -, h⟩
  · rw [isOfRelay_of_outsideFor (lift_eq_error.1 h).1] at he
    cases he
  rcases bind_eq_error.1 h with h | ⟨members, t₅, -, h⟩
  · rw [isOfRelay_of_chooseMembers h] at he
    cases he
  · cases h

/-! ### Passes -/

/-- The survey of a pass knows exactly the targets, as they are found when the pass starts. -/
theorem sights_of_survey (h : p.survey targets.toList t = .ok (found, t')) :
    p.Sights t.state found ∧ ∀ node, node ∈ found ↔ node ∈ targets := by
  obtain ⟨hfound, hprobed⟩ := survey_eq_ok h
  refine ⟨fun node r hr => ?_, fun node => ?_⟩
  · rw [hfound node r hr, hprobed.reachability]
  · rw [mem_survey h, Std.ExtTreeSet.mem_toList]

theorem choiceOf_of_probed (h : Probed g g') : p.choiceOf g' = p.choiceOf g := by
  funext found previous nodes
  rw [choiceOf, sees_of_probed h, discovered_of_probed h, choiceOf]

theorem Finds.of_probed {outcome : Except MeshError (Option NodeId × NodeMap Reachability)} (h : Probed g g')
    (hfinds : p.Finds g' previous targets external found outcome) : p.Finds g previous targets external found outcome := by
  cases hfinds with
  | unneeded hneeds => exact .unneeded hneeds
  | chosen hneeds hchoice =>
    rw [enter_of_probed h]
    rw [choiceOf_of_probed h] at hchoice
    exact .chosen hneeds hchoice
  | missing hneeds hchoice he =>
    rw [choiceOf_of_probed h] at hchoice
    exact .missing hneeds hchoice he

/-- The search that follows the survey of a pass finds its relay by what was known when the pass started. -/
theorem finds_of_search {m : Mesh} {t₁ t₂ : Timeline Grid}
    {outcome : Except MeshError (Option NodeId × NodeMap Reachability)}
    (hsurvey : p.survey targets.toList t = .ok (found, t₁))
    (hrelay : p.relayFor m.relay targets external found t₁ = .ok (outcome, t₂)) :
    p.Finds t.state m.relay targets external found outcome := by
  obtain ⟨hfound, hprobed⟩ := survey_eq_ok hsurvey
  exact (finds_of_relayFor hfound hrelay).1.of_probed hprobed

theorem elects_of_finds {relay : Option NodeId} {reach : NodeMap Reachability}
    (hindexed : ∀ i, g.inventory = some i → i.Indexed) (hfound : p.Sights g found)
    (hmem : ∀ node, node ∈ found ↔ node ∈ targets)
    (h : p.Finds g previous targets external found (.ok (relay, reach))) :
    p.Elects g previous targets external relay := by
  cases h with
  | unneeded hneeds =>
    refine elects_none fun hwants => ?_
    rw [(needsRelay_iff hfound hmem).2 hwants] at hneeds
    cases hneeds
  | chosen hneeds hchoice =>
    exact elects_of_choiceOf hindexed hfound hmem ((needsRelay_iff hfound hmem).1 hneeds) hchoice

/-- A pass that succeeds has the relay that it should, and one that ends in an error of relays could have had none. -/
theorem elects_of_plan {m : Mesh} (hindexed : ∀ i, t.state.inventory = some i → i.Indexed) :
    (∀ plan t', p.plan chance m targets external t = .ok (.ok plan, t') →
      p.Elects t.state m.relay targets external plan.mesh.relay) ∧
    ∀ e t', p.plan chance m targets external t = .ok (.error e, t') → e.isOfRelay = true →
      p.Barren t.state m.relay targets external := by
  constructor
  · intro plan t' run
    obtain ⟨x, -, ⟨t₁, t₂, hsurvey, hrelay⟩, rfl⟩ := sighted_pass_of_run run
    obtain ⟨hsights, hmem⟩ := sights_of_survey hsurvey
    exact elects_of_finds hindexed hsights hmem (finds_of_search hsurvey hrelay)
  · intro e t' run he
    obtain ⟨found, t₁, t₂, hsurvey, hrelay⟩ := relayFor_of_error run he
    obtain ⟨hsights, hmem⟩ := sights_of_survey hsurvey
    cases finds_of_search hsurvey hrelay with
    | missing hneeds hchoice =>
      exact barren_of_choiceOf hindexed hsights hmem ((needsRelay_iff hsights hmem).1 hneeds) hchoice

/-- A node of the inventory that has the public network of the first one. -/
def publicInfo (node : NodeId) (online : Bool) : NodeInfo where
  nodeId := node
  farmId := 1
  twinId := 7
  total := ⟨0, 0, 0, 0⟩
  used := ⟨0, 0, 0, 0⟩
  publicConfig := hillyGrid.nodes[(1 : NodeId)]?.bind (·.publicConfig)
  online := online

/-- A grid with two more public nodes in its inventory: one of them is not there, and one is offline. -/
def listedGrid : Grid :=
  { hillyGrid with
    nodes := hillyGrid.nodes.insert 7 { Node.new with publicConfig := (publicInfo 7 true).publicConfig }
    inventory := some (((Inventory.empty.insertNode (publicInfo 4 true)).insertNode (publicInfo 6 false)).insertNode
      (publicInfo 7 true)) }

/-- Plans with the inventory or without it. -/
def listedPlanner (usesInventory : Bool) : Planner := { plainPlanner with usesInventory := usesInventory }

/-- A pass over the hidden nodes of this grid, after one whose relay is gone. -/
def listedPass (usesInventory : Bool) : Checked (Except MeshError MeshPlan × Timeline Grid) :=
  (listedPlanner usesInventory).plan plainChance { hillyMesh with relay := some 5 } (.ofList [(2 : NodeId), 3]) false
    ⟨0, listedGrid⟩

theorem indexed_listedGrid : ∀ i, listedGrid.inventory = some i → i.Indexed := by
  rintro i ⟨⟩
  exact ((Inventory.indexed_empty.insertNode _).insertNode _).insertNode _

/-- The one node of the inventory that is there and online is chosen, and without the inventory there is none. -/
theorem elects_of_listedPass :
    (∃ plan : MeshPlan, plan.mesh.relay = some 7 ∧
      (listedPlanner true).Elects listedGrid (some 5) (.ofList [(2 : NodeId), 3]) false plan.mesh.relay) ∧
    (listedPlanner false).Barren listedGrid (some 5) (.ofList [(2 : NodeId), 3]) false := by
  have hfound : succeeds (listedPass true) (fun plan => plan.mesh.relay = some 7) = true := by decide +kernel
  have hmissed : Checked.passes (listedPass false) (fun r => match r.1 with
      | .ok _ => false
      | .error e => e.isOfRelay) = true := by decide +kernel
  obtain ⟨plan, t, hplan, hrelay⟩ := exists_of_succeeds hfound
  obtain ⟨⟨_ | plan', t'⟩, hrun, he⟩ := Checked.exists_of_passes hmissed
  · exact ⟨⟨plan, of_decide_eq_true hrelay, (elects_of_plan indexed_listedGrid).1 plan t hplan⟩,
      (elects_of_plan indexed_listedGrid).2 _ t' hrun he⟩
  · cases he

end ComputeGrid.Planner
