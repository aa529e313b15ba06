import ComputeGrid.Proofs.Mesh.Observing

/-!
# Plans among other deployments

A plan is merged into deployments node by node (`MeshPlan.getElem?_mergeInto`): at each of its nodes one workload is placed,
in a new deployment if there is none.  A workload takes the place of the first of its name (`MeshPlan.find?_place`), and the
workloads of other names stay as they are (`MeshPlan.filter_place`).  To place it once more changes nothing
(`MeshPlan.place_place`).

A mesh is recognized by the first slice of its name in each deployment.  Where a workload was placed, that is the slice of
the workload (`MeshPlan.slice?_receive`), so that merged deployments have the slices that the plan's own have
(`MeshPlan.slices_mergeInto`) and the same mesh is recognized in them.  The workloads of a plan that comes from a pass are
such slices (`Mesh.WellFormed.plan_of_run`).
-/

namespace ComputeGrid

namespace MeshPlan

variable {p : MeshPlan} {desired : NodeMap Deployment} {twin : TwinId} {node : NodeId} {w : Workload}
  {ws : List Workload} {d? : Option Deployment}

/-! ### Placing a workload -/

theorem filter_place : (place w ws).filter (·.name ≠ w.name) = ws.filter (·.name ≠ w.name) := by
  induction ws with
  | nil => simp [place]
  | cons x rest ih =>
    rw [place]
    split
    next hx => simp [hx]
    next hx => rw [List.filter_cons, List.filter_cons, ih]

theorem find?_place : (place w ws).find? (·.name = w.name) = some w := by
  induction ws with
  | nil => simp [place]
  | cons x rest ih =>
    rw [place]
    split
    next hx => simp
    next hx => simp [hx, ih]

theorem place_place : place w (place w ws) = place w ws := by
  induction ws with
  | nil => simp [place]
  | cons x rest ih =>
    rw [place]
    split
    next hx => simp [place]
    next hx => rw [place, if_neg hx, ih]

/-- A deployment, or a new one, with a workload placed in it. -/
def receive (twin : TwinId) (d? : Option Deployment) (w : Workload) : Deployment :=
  let d := d?.getD (Deployment.new twin [])
  { d with workloads := place w d.workloads }

theorem receive_receive {twin' : TwinId} : receive twin' (some (receive twin d? w)) w = receive twin d? w := by
  rw [receive, Option.getD_some, receive]
  dsimp only
  rw [place_place]

/-- The slice that is found after a workload was placed is that of the workload. -/
theorem slice?_receive {s : NetworkSlice} (hw : w.payload = .network s) :
    Mesh.slice? w.name (receive twin d? w) = some s := by
  rw [Mesh.slice?, receive]
  dsimp only
  induction (d?.getD (Deployment.new twin [])).workloads with
  | nil =>
    rw [place, List.findSome?_singleton, hw]
    exact if_pos rfl
  | cons x rest ih =>
    rw [place]
    split
    next hx =>
      rw [List.findSome?_cons, hw]
      dsimp only
      rw [if_pos rfl]
    next hx =>
      -- a workload of another name is passed over
      rw [List.findSome?_cons]
      split
      next s' hs' =>
        split at hs'
        · rw [if_neg hx] at hs'
          cases hs'
        · cases hs'
      next => exact ih

/-! ### Merging -/

theorem getElem?_mergeInto : (p.mergeInto desired twin)[node]? =
    (p.workloads[node]?.map (receive twin desired[node]?)).or desired[node]? := by
  refine getElem?_foldl_adjust (receive twin) (fun m e => ?_) p.workloads desired node
  obtain ⟨node, w⟩ := e
  dsimp only
  rw [Std.ExtTreeMap.getD_eq_getD_getElem?, receive]

theorem getElem?_mergeInto_of_notMem (h : node ∉ p.workloads) : (p.mergeInto desired twin)[node]? = desired[node]? := by
  rw [getElem?_mergeInto, getElem?_eq_none_iff.2 h]
  rfl

theorem getElem?_mergeInto_of_eq_some (h : p.workloads[node]? = some w) :
    (p.mergeInto desired twin)[node]? = some (receive twin desired[node]? w) := by
  rw [getElem?_mergeInto, h]
  rfl

/-- To merge a plan once more changes nothing, whoever the twin is. -/
theorem mergeInto_mergeInto (twin' : TwinId) : p.mergeInto (p.mergeInto desired twin) twin' = p.mergeInto desired twin := by
  refine Std.ExtTreeMap.ext_getElem? fun node => ?_
  cases hw : p.workloads[node]? with
  | none =>
    have hnode := getElem?_eq_none_iff.1 hw
    rw [getElem?_mergeInto_of_notMem hnode]
  | some w => rw [getElem?_mergeInto_of_eq_some hw, getElem?_mergeInto_of_eq_some hw, receive_receive]

/-! ### What is recognized -/

/-- Every workload of the plan is a slice of its mesh, under the mesh's name. -/
def Named (p : MeshPlan) : Prop :=
  ∀ (node : NodeId) w, p.workloads[node]? = some w → w.name = p.mesh.name ∧ ∃ s, w.payload = .network s

/-- The slices of the plan are of its mesh's range, and their keys can be used. -/
def Keyed (p : MeshPlan) : Prop :=
  ∀ (node : NodeId) w s, p.workloads[node]? = some w → w.payload = .network s →
    s.ipRange = p.mesh.range ∧ ∃ m, Mesh.memberOf s = .ok m

/-- Nowhere but at the plan's nodes there is a slice of its mesh's name. -/
def Alone (p : MeshPlan) (desired : NodeMap Deployment) : Prop :=
  ∀ (node : NodeId) d, desired[node]? = some d → node ∉ p.workloads → Mesh.slice? p.mesh.name d = none

theorem slices_eq_toList (name : String) (fleet : NodeMap Deployment) :
    Mesh.slices name fleet = (fleet.filterMap fun _ d => Mesh.slice? name d).toList := by
  rw [Std.ExtTreeMap.toList_filterMap, Mesh.slices]

/-- The slices in merged deployments are those in the plan's own. -/
theorem slices_mergeInto (hnamed : p.Named) (halone : p.Alone desired) :
    Mesh.slices p.mesh.name (p.mergeInto desired twin) = Mesh.slices p.mesh.name (p.deployments twin) := by
  rw [slices_eq_toList, slices_eq_toList]
  congr 1
  refine Std.ExtTreeMap.ext_getElem? fun node => ?_
  rw [Std.ExtTreeMap.getElem?_filterMap', Std.ExtTreeMap.getElem?_filterMap', deployments, Std.ExtTreeMap.getElem?_map]
  cases hw : p.workloads[node]? with
  | none =>
    have hnode := getElem?_eq_none_iff.1 hw
    rw [getElem?_mergeInto_of_notMem hnode, Option.map_none, Option.bind_none, Option.bind_eq_none_iff]
    exact fun d hd => halone node d hd hnode
  | some w =>
    obtain ⟨hname, s, hs⟩ := hnamed node w hw
    have hown : Deployment.new twin [w] = receive twin none w := rfl
    rw [getElem?_mergeInto_of_eq_some hw, Option.map_some, Option.bind_some, Option.bind_some, hown, ← hname,
      slice?_receive hs, slice?_receive hs]

end MeshPlan

/-! ### Meshes that are recognized -/

namespace Mesh

variable {name : String} {range : Ipv4Network} {fleet : NodeMap Deployment}

theorem exists_members (name : String) {l : List (NodeId × NetworkSlice)}
    (h : ∀ e ∈ l, e.2.ipRange = range ∧ ∃ m, memberOf e.2 = .ok m) : ∃ nodes, members name range l = .ok nodes := by
  rw [members]
  generalize (∅ : NodeMap Member) = start
  induction l generalizing start with
  | nil => exact ⟨start, rfl⟩
  | cons e l ih =>
    obtain ⟨⟨hrange, m, hm⟩, hrest⟩ := List.forall_mem_cons.1 h
    rw [List.foldlM_cons]
    dsimp only
    rw [if_neg (not_not_intro hrange), hm]
    exact ih hrest _

/-- A mesh is recognized where all slices are of its range and have keys that can be used. -/
theorem exists_observe (h : ∀ e ∈ slices name fleet, e.2.ipRange = range ∧ ∃ m, memberOf e.2 = .ok m) :
    ∃ m, observe name range fleet = .ok m := by
  obtain ⟨nodes, hnodes⟩ := exists_members name h
  rw [observe]
  dsimp only
  rw [hnodes]
  dsimp only [bind, Except.bind]
  split
  · exact ⟨_, rfl⟩
  · exact ⟨_, rfl⟩

end Mesh

namespace MeshPlan

variable {p : MeshPlan} {desired : NodeMap Deployment} {twin : TwinId}

theorem Named.mem_slices (hnamed : p.Named) {e : NodeId × NetworkSlice}
    (he : e ∈ Mesh.slices p.mesh.name (p.deployments twin)) :
    ∃ w, p.workloads[e.1]? = some w ∧ w.payload = .network e.2 := by
  rw [slices_eq_toList, Std.ExtTreeMap.mem_toList_iff_getElem?_eq_some, Std.ExtTreeMap.getElem?_filterMap', deployments,
    Std.ExtTreeMap.getElem?_map, Option.bind_eq_some_iff] at he
  obtain ⟨d, hd, hslice⟩ := he
  obtain ⟨w, hw, rfl⟩ := Option.map_eq_some_iff.1 hd
  obtain ⟨hname, s, hs⟩ := hnamed e.1 w hw
  have hown : Deployment.new twin [w] = receive twin none w := rfl
  rw [← hname, hown, slice?_receive hs] at hslice
  cases hslice
  exact ⟨w, hw, hs⟩

/-- What merging a plan does: outside its nodes it changes nothing; at its nodes it changes workloads only, none of another
name, and the first of its name is then the plan's; and to merge the plan once more changes nothing.  If there is no slice
of the mesh elsewhere, the mesh is recognized as in the plan's own deployments. -/
theorem mergeInto_merges (p : MeshPlan) (desired : NodeMap Deployment) (twin : TwinId) :
    (∀ node, node ∉ p.workloads → (p.mergeInto desired twin)[node]? = desired[node]?) ∧
      (∀ node w, p.workloads[node]? = some w →
        ∃ d, (p.mergeInto desired twin)[node]? = some d ∧
          d = { desired.getD node (Deployment.new twin []) with workloads := d.workloads } ∧
          d.workloads.filter (·.name ≠ w.name) =
            (desired.getD node (Deployment.new twin [])).workloads.filter (·.name ≠ w.name) ∧
          d.workloads.find? (·.name = w.name) = some w) ∧
      (∀ twin', p.mergeInto (p.mergeInto desired twin) twin' = p.mergeInto desired twin) ∧
      (p.Named → p.Alone desired →
        (∀ range, Mesh.observe p.mesh.name range (p.mergeInto desired twin) =
            Mesh.observe p.mesh.name range (p.deployments twin)) ∧
          (p.Keyed → ∃ m, Mesh.observe p.mesh.name p.mesh.range (p.mergeInto desired twin) = .ok m)) := by
  refine ⟨fun node => getElem?_mergeInto_of_notMem, fun node w hw => ?_, mergeInto_mergeInto, fun hnamed halone => ?_⟩
  · refine ⟨_, getElem?_mergeInto_of_eq_some hw, ?_, ?_, find?_place⟩
    · rw [Std.ExtTreeMap.getD_eq_getD_getElem?, receive]
    · rw [Std.ExtTreeMap.getD_eq_getD_getElem?, receive]
      exact filter_place
  · have hobserve (range : Ipv4Network) : Mesh.observe p.mesh.name range (p.mergeInto desired twin) =
        Mesh.observe p.mesh.name range (p.deployments twin) := by
      rw [Mesh.observe, slices_mergeInto hnamed halone, Mesh.observe]
    refine ⟨hobserve, fun hkeyed => ?_⟩
    rw [hobserve]
    refine Mesh.exists_observe fun e he => ?_
    obtain ⟨w, hw, hs⟩ := hnamed.mem_slices he
    exact hkeyed e.1 w e.2 hw hs

end MeshPlan

/-! ### Plans of passes -/

namespace Mesh.WellFormed

variable {m : Mesh} {p : Planner} {chance : Chance} {targets : Std.ExtTreeSet NodeId} {external : Bool} {plan : MeshPlan}
  {t t' : Timeline Grid}

/-- The workloads of a pass are slices of its mesh with keys that can be used. -/
theorem plan_of_run (h : m.WellFormed) (run : p.plan chance m targets external t = .ok (.ok plan, t')) :
    plan.mesh.name = m.name ∧ plan.Named ∧ plan.Keyed := by
  obtain ⟨x, hx, rfl⟩ := Planner.pass_of_run run
  have hworkloads (node : NodeId) (w : Workload) (hw : (x.plan m p.settings.keepalive).workloads[node]? = some w) :
      ∃ member, x.members[node]? = some member ∧
        Workload.new m.name (.network ((x.topology m).slice node member)) = w := by
    rw [Planner.Pass.plan, MeshPlan.assemble, Std.ExtTreeMap.getElem?_map] at hw
    exact Option.map_eq_some_iff.1 hw
  refine ⟨rfl, fun node w hw => ?_, fun node w s hw hs => ?_⟩
  · obtain ⟨member, -, rfl⟩ := hworkloads node w hw
    exact ⟨rfl, _, rfl⟩
  · obtain ⟨member, hmember, rfl⟩ := hworkloads node w hw
    cases hs
    exact ⟨rfl, member, Topology.memberOf_slice (hx.keyed_members h.nodeKeys node member hmember)⟩

end Mesh.WellFormed

namespace MeshPlan

def diskNamed (name : String) : Workload := .new name (.disk ⟨1⟩)

/-- Deployments in which a disk has the name of the mesh, and in which a node is outside of it. -/
def crowdedFleet : NodeMap Deployment :=
  .ofList [((1 : NodeId), Deployment.new 7 [diskNamed "data", diskNamed "net", diskNamed "logs"]),
    (9, Deployment.new 7 [diskNamed "net"])]

/-- The disk gives way to the slice of its node, the node outside keeps what it has, and the mesh is recognized. -/
theorem merges_of_hillyPass : ∃ plan : MeshPlan, plan.Named ∧ plan.Keyed ∧ plan.Alone crowdedFleet ∧
    (∃ w, plan.workloads[(1 : NodeId)]? = some w) ∧ (plan.mergeInto crowdedFleet 7)[(9 : NodeId)]? = crowdedFleet[(9 : NodeId)]? ∧
      plan.mergeInto (plan.mergeInto crowdedFleet 7) 7 = plan.mergeInto crowdedFleet 7 ∧
      Mesh.observe plan.mesh.name plan.mesh.range (plan.mergeInto crowdedFleet 7) = .ok plan.mesh.unkeyed ∧
      ∃ m, Mesh.observe plan.mesh.name plan.mesh.range (plan.mergeInto crowdedFleet 7) = .ok m := by
  have hruns : Planner.succeeds (Planner.hillyPass Planner.hillyMesh [1, 2]) (fun plan =>
      plan.workloads[(1 : NodeId)]?.isSome && !plan.workloads.contains 9) = true := by decide +kernel
  obtain ⟨plan, t, hplan, htest⟩ := Planner.exists_of_succeeds hruns
  obtain ⟨hone, hnine⟩ := Bool.and_eq_true_iff.1 htest
  have hwell : Planner.hillyMesh.WellFormed := Mesh.wellFormed_new rfl
  obtain ⟨hname, hnamed, hkeyed⟩ := hwell.plan_of_run hplan
  have halone : plan.Alone crowdedFleet := by
    have hslices : ∀ e ∈ crowdedFleet.toList, Mesh.slice? Planner.hillyMesh.name e.2 = none := by decide +kernel
    intro node d hd _
    rw [hname]
    exact hslices (node, d) (Std.ExtTreeMap.mem_toList_iff_getElem?_eq_some.2 hd)
  have houtside : (9 : NodeId) ∉ plan.workloads := by
    rw [← Std.ExtTreeMap.contains_iff_mem, Bool.not_eq_true]
    exact (Bool.not_eq_true' _).mp hnine
  obtain ⟨hframe, -, hagain, hsame⟩ := mergeInto_merges plan crowdedFleet 7
  obtain ⟨hobserve, hok⟩ := hsame hnamed halone
  refine ⟨plan, hnamed, hkeyed, halone, Option.isSome_iff_exists.1 hone, hframe 9 houtside, hagain 7, ?_, hok hkeyed⟩
  obtain ⟨x, hx, rfl⟩ := Planner.pass_of_run hplan
  rw [hobserve, Planner.deployments_plan]
  exact (hx.legible hwell).observe_eq _ 7

end MeshPlan

end ComputeGrid
