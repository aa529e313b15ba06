import ComputeGrid.Proofs.Mesh.Searching
import ComputeGrid.Proofs.Mesh.Stability

/-!
# Planning again

A pass over the mesh of a plan, with the same targets, ends in the same plan, if the targets and the relay are found as
they were (`Planner.plan_repeats`).  The survey finds the same, so the relay is needed as it was and is still one
(`relayFor_again`); the external member has keys of its own now, which are read back (`outsideFor_again`); and everyone has
a subnet in the range, so that nobody joins (`chooseMembers_of_kept`).  Nothing is drawn in such a pass, and no node is
asked for its ports.
-/

namespace ComputeGrid.Planner

open Grid

variable {p : Planner} {chance chance' : Chance} {previous : Mesh} {targets : Std.ExtTreeSet NodeId} {external : Bool}
  {t t' t₁ t₂ : Timeline Grid} {x : Pass} {s s' left : Subnets} {range : Ipv4Network} {found reach : NodeMap Reachability}
  {node relay : NodeId}

/-! ### The survey -/

/-- A survey finds what another one has found if its nodes are found as they were. -/
theorem survey_again {nodes : List NodeId} (h : p.survey nodes t₁ = .ok (found, t))
    (hsame : ∀ node ∈ nodes, t₂.state.reachability node p.probeTimeout = t₁.state.reachability node p.probeTimeout) :
    ∃ t', p.survey nodes t₂ = .ok (found, t') := by
  obtain ⟨before, t₃, hbefore, -, hfound⟩ := survey_run p nodes t₁
  obtain ⟨again, t', hagain, -, hfound'⟩ := survey_run p nodes t₂
  rw [h] at hbefore
  cases hbefore
  suffices heq : again = found by exact ⟨t', heq ▸ hagain⟩
  refine Std.ExtTreeMap.ext_getElem? fun node => ?_
  rw [hfound, hfound']
  by_cases hnode : node ∈ nodes
  · rw [if_pos hnode, if_pos hnode, hsame node hnode]
  · rw [if_neg hnode, if_neg hnode]

/-! ### The relay -/

/-- The relay that is chosen is chosen again, from whatever state it is found in as it was. -/
theorem relayFor_again {before relay : Option NodeId} (hfound : p.Sights t₁.state found)
    (hfound' : p.Sights t₂.state found)
    (hsame : ∀ node, relay = some node →
      t₂.state.reachability node p.probeTimeout = t₁.state.reachability node p.probeTimeout)
    (h : p.relayFor before targets external found t₁ = .ok (.ok (relay, reach), t)) :
    ∃ t', p.relayFor relay targets external found t₂ = .ok (.ok (relay, reach), t') ∧ Probed t₂.state t'.state := by
  rcases relayFor_eq_ok h with ⟨hneeds, rfl, rfl⟩ | ⟨hneeds, node, rfl, hchoose⟩
  · refine ⟨t₂, ?_, .refl t₂.state⟩
    rw [relayFor, hneeds]
    rfl
  · obtain ⟨hipv4, rfl⟩ := chooseRelay_insert hfound hchoose
    obtain ⟨t', hkeep, hprobed⟩ := keepRelay_run hfound' (some node)
    rw [Option.filter_some, sees, hsame node rfl, if_pos hipv4, Option.map_some, enter, hsame node rfl] at hkeep
    refine ⟨t', ?_, hprobed⟩
    rw [relayFor, hneeds, if_pos rfl, bind_eq_ok]
    refine ⟨(node, found.insert node (t₁.state.reachability node p.probeTimeout)), t', ?_, rfl⟩
    rw [chooseRelay, bind_eq_ok]
    exact ⟨_, t', liftTimed_eq_ok.2 hkeep, rfl⟩

/-! ### The external member -/

/-- Whatever the external member was before, it has the keys of its private key, and the subnets are still those of the
range. -/
theorem chooseExternal_eq_ok {e : Option ExternalMember} {o : MeshPlan.External} (hs : s.Over range)
    (h : chooseExternal chance e s = .ok (o, left)) :
    KeyPair.ofPrivate o.keys.privateKey = .ok o.keys ∧ left.Over range := by
  cases e with
  | none =>
    obtain ⟨hallocate, hkeys⟩ := chooseExternal_none_eq_ok h
    rw [hkeys]
    exact ⟨chance.ofPrivate_keys none, (Subnets.free_of_allocate hs hallocate).1⟩
  | some e =>
    obtain ⟨-, hkeys, rfl⟩ := chooseExternal_some_eq_ok h
    exact ⟨hkeys, hs⟩

theorem outsideFor_again {e : Option ExternalMember} {outside : Option MeshPlan.External} (hs : s.Over range)
    (h : outsideFor chance e external s = .ok (outside, left)) (chance' : Chance) (s' : Subnets) :
    outsideFor chance' (outside.map (·.member)) external s' = .ok (outside, s') ∧ left.Over range := by
  rcases outsideFor_eq_ok h with ⟨rfl, rfl, rfl⟩ | ⟨rfl, o, rfl, hchoose⟩
  · exact ⟨rfl, hs⟩
  · obtain ⟨hkeys, hleft⟩ := chooseExternal_eq_ok hs hchoose
    refine ⟨?_, hleft⟩
    rw [outsideFor, if_pos rfl, Option.map_some, chooseExternal_member hkeys]
    rfl

/-! ### The members -/

/-- Where everyone keeps something, nobody joins. -/
theorem chooseMembers_of_kept (p : Planner) (chance : Chance) {nodes : List NodeId}
    (h : ∀ node ∈ nodes, ∃ m, kept previous node = some m) (s : Subnets) (chosen : Std.ExtTreeSet UInt16)
    (members : NodeMap Member) (t : Timeline Grid) :
    ∃ result, p.chooseMembers chance previous s chosen members nodes t = .ok (.ok result, t) := by
  induction nodes generalizing chosen members with
  | nil => exact ⟨members, rfl⟩
  | cons node rest ih =>
    obtain ⟨⟨m, hm⟩, hrest⟩ := List.forall_mem_cons.1 h
    rw [chooseMembers, hm]
    exact ih hrest (chosen.insert m.port) (members.insert node m)

namespace Pass.Valid

variable (hx : x.Valid p chance previous targets external t) (keepalive : UInt32)
include hx

/-- Every member of a plan keeps what it holds. -/
theorem kept_plan (hnode : node ∈ x.nodes targets) :
    ∃ m, kept (x.plan previous keepalive).mesh node = some m ∧ x.members[node]? = some m := by
  have hleft := (outsideFor_again hx.unheld_over hx.outside chance (x.unheld previous targets)).2
  obtain ⟨m, hm⟩ := mem_iff_exists_getElem?.1 ((hx.members.mem_iff hleft).2 hnode)
  refine ⟨m, Option.filter_eq_some_iff.2 ⟨hm, ?_⟩, hm⟩
  exact hx.members.contains hleft hm

theorem chooseMembers_again (s : Subnets) (t : Timeline Grid) :
    p.chooseMembers chance' (x.plan previous keepalive).mesh s ∅ ∅ (x.nodes targets) t = .ok (.ok x.members, t) := by
  have hkept : ∀ node ∈ x.nodes targets, ∃ m, kept (x.plan previous keepalive).mesh node = some m := fun node hnode =>
    (hx.kept_plan keepalive hnode).imp fun _ h => h.1
  obtain ⟨result, hrun⟩ := chooseMembers_of_kept p chance' hkept s ∅ ∅ t
  have hresult := chooses_of_run hrun
  suffices heq : result = x.members by rw [hrun, heq]
  refine Std.ExtTreeMap.ext_getElem? fun node => ?_
  by_cases hnode : node ∈ x.nodes targets
  · obtain ⟨m, hm, hmember⟩ := hx.kept_plan keepalive hnode
    rw [hresult.of_kept hnode hm, hmember]
  · rw [hresult.elsewhere hnode, hx.members.elsewhere hnode]

end Pass.Valid

/-! ### The pass -/

/-- The plan of what a pass has found and chosen, over its own mesh: no node goes. -/
theorem Pass.plan_plan (x : Pass) (previous : Mesh) (keepalive : UInt32) :
    x.plan (x.plan previous keepalive).mesh keepalive = { x.plan previous keepalive with removed := [] } := by
  have hremoved : x.members.keys.filter (fun node => !x.members.contains node) = [] := by
    rw [List.filter_eq_nil_iff]
    intro node hnode
    rw [Std.ExtTreeMap.contains_iff_mem.2 (Std.ExtTreeMap.mem_keys.1 hnode)]
    exact Bool.false_ne_true
  show { x.plan previous keepalive with removed := x.members.keys.filter fun node => !x.members.contains node } = _
  rw [hremoved]

/-- A pass over the mesh of a plan with the same targets, at any time when the targets and the relay are found as they were,
ends in the same plan, whatever is drawn: nothing is changed and no node is removed.  No node is asked for its ports. -/
theorem plan_repeats {plan : MeshPlan} (run : p.plan chance previous targets external t = .ok (.ok plan, t'))
    (chance' : Chance) (t₂ : Timeline Grid) (hsame : ∀ node, node ∈ targets ∨ plan.mesh.relay = some node →
      t₂.state.reachability node p.probeTimeout = t.state.reachability node p.probeTimeout) :
    ∃ t₃, p.plan chance' plan.mesh targets external t₂ = .ok (.ok { plan with removed := [] }, t₃) ∧
      Probed t₂.state t₃.state := by
  obtain ⟨x, hx, ⟨t₁, t₁', hsurvey, hrelay⟩, rfl⟩ := sighted_pass_of_run run
  obtain ⟨hsights, hprobed⟩ := survey_eq_ok hsurvey
  obtain ⟨t₅, hsurvey'⟩ := survey_again hsurvey fun node hnode => hsame node (.inl (Std.ExtTreeSet.mem_toList.1 hnode))
  obtain ⟨hsights', hprobed'⟩ := survey_eq_ok hsurvey'
  have hrelays : ∀ node, x.relay = some node →
      t₅.state.reachability node p.probeTimeout = t₁.state.reachability node p.probeTimeout := by
    intro node hnode
    rw [hprobed.reachability, hprobed'.reachability, hsame node (.inr hnode)]
  obtain ⟨t₃, hrelay', hprobed₃⟩ := relayFor_again hsights hsights' hrelays hrelay
  have houtside := (outsideFor_again hx.unheld_over hx.outside chance'
    (x.unheld (x.plan previous p.settings.keepalive).mesh targets)).1
  refine ⟨t₃, ?_, hprobed'.trans hprobed₃⟩
  rw [Planner.plan, bind_eq_ok]
  refine ⟨(x.carrier, x.start), t₂, lift_eq_ok.2 ⟨hx.ranges, rfl⟩, ?_⟩
  rw [bind_eq_ok]
  refine ⟨x.found, t₅, liftTimed_eq_ok.2 hsurvey', ?_⟩
  rw [bind_eq_ok]
  refine ⟨(x.relay, x.reach), t₃, hrelay', ?_⟩
  rw [bind_eq_ok]
  refine ⟨(x.outside, _), t₃, lift_eq_ok.2 ⟨houtside, rfl⟩, ?_⟩
  rw [bind_eq_ok]
  refine ⟨x.members, t₃, hx.chooseMembers_again p.settings.keepalive _ t₃, ?_⟩
  rw [pure_eq_ok]
  exact ⟨(x.plan_plan previous p.settings.keepalive).symm, rfl⟩

/-- Secrets that are other ones than the first ones. -/
def otherChance : Chance where
  secret _ := List.replicate 32 9
  length_secret _ := rfl
  port _ i := i + 5

/-- The second of two passes removes a node and keeps a relay that is no target; the one after it changes nothing. -/
theorem plan_repeats_of_hillyPass : ∃ (plan : MeshPlan) (t : Timeline Grid), plan.mesh.relay = some 1 ∧ plan.removed = [2] ∧
    plainPlanner.plan otherChance plan.mesh (.ofList [(3 : NodeId)]) true ⟨5, hillyGrid⟩ =
      .ok (.ok { plan with removed := [] }, t) := by
  have hruns : succeeds (hillyPass hillyMesh [1, 2]) (fun before =>
      succeeds (hillyPass before.mesh [3]) fun plan => plan.mesh.relay = some 1 && plan.removed = [2]) = true := by
    decide +kernel
  obtain ⟨before, t, hbefore, hrest⟩ := exists_of_succeeds hruns
  obtain ⟨plan, t', hplan, htest⟩ := exists_of_succeeds hrest
  rw [Bool.and_eq_true, decide_eq_true_eq, decide_eq_true_eq] at htest
  obtain ⟨t₃, hagain, -⟩ := plan_repeats hplan otherChance ⟨5, hillyGrid⟩ fun _ _ => rfl
  exact ⟨plan, t₃, htest.1, htest.2, hagain⟩

end ComputeGrid.Planner
