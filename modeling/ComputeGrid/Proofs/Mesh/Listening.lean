import ComputeGrid.Proofs.Mesh.Ports
import ComputeGrid.Proofs.Mesh.Searching
import ComputeGrid.Proofs.Mesh.Stability

/-!
# Listen ports of a mesh

A node that joins is asked for the ports that it uses, and gets another one that is none of those chosen so far
(`Planner.picks_of_newMember`).  Members are chosen by their numbers, one after another, whether they join or stay
(`Planner.Listens`).  So a node that joins has a port that the settings offer, that it does not use and that no member of a
smaller number has (`Listens.pairwise_port_ne`).  The ports of members that stay are kept only when it is their turn: a member
of a larger number that stays may have the same port, and this is the only way for two members to have one
(`Planner.portsApart_iff_of_plan`).
-/

namespace ComputeGrid

/-- A port that new members may be given. -/
def NetworkSettings.Offers (s : NetworkSettings) (port : UInt16) : Prop := s.wgPortMin ≤ port ∧ port < s.wgPortMax

/-- A node that is asked for its ports without a timeout gives those that it uses, unless it cannot be reached. -/
theorem Grid.getPorts_complete {node : NodeId} {r : Except RpcError (List UInt16)} {t t' : Timeline Grid}
    (h : (Grid.getPorts node).complete t = .ok (r, t')) :
    t'.state.nodes = t.state.nodes ∧
      ((∃ cause, r = .error cause) ∧ (∀ n, t.state.nodes[node]? = some n → n.down = true) ∨
        ∃ n, t.state.nodes[node]? = some n ∧ n.down = false ∧ r = .ok n.usedPorts) := by
  rw [Exchange.complete_run] at h
  cases hn : t.state.nodes[node]? with
  | none =>
    simp only [getPorts, exchange, hn] at h
    cases h
    exact ⟨rfl, .inl ⟨⟨_, rfl⟩, by rintro _ ⟨⟩⟩⟩
  | some n =>
    cases hdown : n.down with
    | true =>
      simp only [getPorts, exchange, hn, hdown, if_true] at h
      cases h
      exact ⟨rfl, .inl ⟨⟨_, rfl⟩, by rintro _ ⟨⟩; exact hdown⟩⟩
    | false =>
      simp only [getPorts, exchange, hn, hdown, Bool.false_eq_true, if_false] at h
      cases h
      exact ⟨rfl, .inr ⟨n, rfl, hdown, rfl⟩⟩

namespace Planner

open Grid

variable {p : Planner} {chance : Chance} {previous : Mesh} {targets : Std.ExtTreeSet NodeId} {external : Bool}
  {t t' : Timeline Grid} {running : NodeMap Node} {chosen : Std.ExtTreeSet UInt16} {nodes : List NodeId}
  {members result : NodeMap Member} {node other : NodeId} {m m' : Member}

/-! ### Ports of nodes that join -/

/-- A node picks a port that it does not use and that is not chosen so far. -/
def Picks (p : Planner) (chance : Chance) (running : NodeMap Node) (chosen : Std.ExtTreeSet UInt16) (node : NodeId)
    (port : UInt16) : Prop :=
  ∃ n, running[node]? = some n ∧
    Ports.pick? (chance.port node) (.ofList n.usedPorts) chosen p.settings.wgPortMin p.settings.wgPortMax = some port

theorem Picks.offers {port : UInt16} (h : p.Picks chance running chosen node port) : p.settings.Offers port := by
  obtain ⟨n, -, hpick⟩ := h
  have hvacant := Ports.vacant_of_pick? hpick
  exact ⟨hvacant.low_le, hvacant.lt_high⟩

theorem Picks.unused {port : UInt16} (h : p.Picks chance running chosen node port) :
    ∃ n, running[node]? = some n ∧ port ∉ n.usedPorts := by
  obtain ⟨n, hn, hpick⟩ := h
  refine ⟨n, hn, fun hused => (Ports.vacant_of_pick? hpick).unused ?_⟩
  rw [Std.ExtTreeSet.mem_ofList, List.contains_iff_mem]
  exact hused

theorem Picks.not_mem {port : UInt16} (h : p.Picks chance running chosen node port) : port ∉ chosen := by
  obtain ⟨n, -, hpick⟩ := h
  exact (Ports.vacant_of_pick? hpick).unchosen

/-- A new member has picked its port, and no node has changed by that. -/
theorem picks_of_newMember {subnet : Ipv4Network} (h : p.newMember chance node subnet chosen t = .ok (.ok m, t')) :
    p.Picks chance t.state.nodes chosen node m.port ∧ t'.state.nodes = t.state.nodes := by
  obtain ⟨asked, hasked, hadmits⟩ := admits_of_newMember h
  obtain ⟨hnodes, hanswer⟩ := getPorts_complete hasked
  cases hadmits with
  | joined hport =>
    obtain ⟨⟨_, ⟨⟩⟩, -⟩ | ⟨n, hn, -, ⟨⟩⟩ := hanswer
    exact ⟨⟨n, hn, hport⟩, hnodes⟩

/-! ### Members one after another -/

/-- How members come to their ports one after another, over nodes that are running: one that stays keeps its port, and one
that joins picks a port beside those chosen so far. -/
inductive Listens (p : Planner) (chance : Chance) (previous : Mesh) (running : NodeMap Node) (result : NodeMap Member) :
    Std.ExtTreeSet UInt16 → List NodeId → Prop
  | done {chosen : Std.ExtTreeSet UInt16} : Listens p chance previous running result chosen []
  | keep {chosen : Std.ExtTreeSet UInt16} {node : NodeId} {m : Member} {rest : List NodeId}
      (hm : kept previous node = some m) (hresult : result[node]? = some m)
      (h : Listens p chance previous running result (chosen.insert m.port) rest) :
      Listens p chance previous running result chosen (node :: rest)
  | join {chosen : Std.ExtTreeSet UInt16} {node : NodeId} {m : Member} {rest : List NodeId}
      (hnew : kept previous node = none) (hpicks : p.Picks chance running chosen node m.port)
      (hresult : result[node]? = some m)
      (h : Listens p chance previous running result (chosen.insert m.port) rest) :
      Listens p chance previous running result chosen (node :: rest)

theorem listens_of_run {s : Subnets} (hnodup : nodes.Nodup)
    (h : p.chooseMembers chance previous s chosen members nodes t = .ok (.ok result, t')) :
    p.Listens chance previous t.state.nodes result chosen nodes := by
  induction nodes generalizing s chosen members t with
  | nil => exact .done
  | cons node rest ih =>
    obtain ⟨hnot, hnodup⟩ := List.nodup_cons.1 hnodup
    have hchooses := chooses_of_run h
    rw [chooseMembers] at h
    cases hm : kept previous node with
    | some m =>
      rw [hm] at h
      exact .keep hm (hchooses.of_kept List.mem_cons_self hm) (ih hnodup h)
    | none =>
      rw [hm, bind_eq_ok] at h
      obtain ⟨⟨subnet, left⟩, t₁, hsubnet, h⟩ := h
      obtain ⟨-, rfl⟩ := lift_eq_ok.1 hsubnet
      obtain ⟨m, t₂, hnew, h⟩ := bind_eq_ok.1 h
      obtain ⟨hpicks, hnodes⟩ := picks_of_newMember hnew
      have hresult : result[node]? = some m := by
        rw [(chooses_of_run h).elsewhere hnot, Std.ExtTreeMap.getElem?_insert_self]
      refine .join hm hpicks hresult ?_
      -- the question for ports has changed no node
      rw [← hnodes]
      exact ih hnodup h

namespace Listens

/-- A node that joins has picked its port, beside all those chosen before. -/
theorem picks (h : p.Listens chance previous running result chosen nodes) (hnode : node ∈ nodes)
    (hnew : kept previous node = none) (hm : result[node]? = some m) :
    ∃ chosen', p.Picks chance running chosen' node m.port ∧ ∀ port ∈ chosen, port ∈ chosen' := by
  induction h with
  | done => cases hnode
  | @keep chosen first k rest hk _ _ ih =>
    obtain ⟨chosen', hpicks, hmore⟩ := ih ((List.mem_cons.1 hnode).resolve_left (ne_of_kept hk hnew).symm)
    exact ⟨chosen', hpicks, fun port hport => hmore port (Std.ExtTreeSet.mem_insert.2 (.inr hport))⟩
  | @join chosen first k rest _ hpicks hresult _ ih =>
    rcases List.mem_cons.1 hnode with rfl | hnode
    · rw [hresult] at hm
      cases hm
      exact ⟨chosen, hpicks, fun _ hport => hport⟩
    · obtain ⟨chosen', hpicks, hmore⟩ := ih hnode
      exact ⟨chosen', hpicks, fun port hport => hmore port (Std.ExtTreeSet.mem_insert.2 (.inr hport))⟩

/-- A node that joins has none of the ports chosen before. -/
theorem port_ne_of_mem (h : p.Listens chance previous running result chosen nodes) {port : UInt16} (hport : port ∈ chosen)
    (hnode : node ∈ nodes) (hnew : kept previous node = none) (hm : result[node]? = some m) : port ≠ m.port := by
  obtain ⟨chosen', hpicks, hmore⟩ := h.picks hnode hnew hm
  rintro rfl
  exact hpicks.not_mem (hmore _ hport)

/-- A node that joins has another port than those that come before it, whether they join or stay. -/
theorem pairwise_port_ne (h : p.Listens chance previous running result chosen nodes) :
    nodes.Pairwise fun node other => kept previous other = none →
      ∀ m m', result[node]? = some m → result[other]? = some m' → m.port ≠ m'.port := by
  induction h with
  | done => exact .nil
  | keep _ hresult hrest ih =>
    refine List.pairwise_cons.2 ⟨fun other hother hnew m m' hm hm' => ?_, ih⟩
    rw [hresult] at hm
    cases hm
    exact hrest.port_ne_of_mem Std.ExtTreeSet.mem_insert_self hother hnew hm'
  | join _ _ hresult hrest ih =>
    refine List.pairwise_cons.2 ⟨fun other hother hnew m m' hm hm' => ?_, ih⟩
    rw [hresult] at hm
    cases hm
    exact hrest.port_ne_of_mem Std.ExtTreeSet.mem_insert_self hother hnew hm'

end Listens

/-! ### Passes -/

/-- What holds of nodes in the order of a list holds of them by their numbers, if these are in order. -/
theorem rel_of_lt {R : NodeId → NodeId → Prop} (hordered : nodes.Pairwise (· < ·)) (h : nodes.Pairwise R)
    (hnode : node ∈ nodes) (hother : other ∈ nodes) (hlt : node < other) : R node other := by
  induction nodes with
  | nil => cases hnode
  | cons first rest ih =>
    obtain ⟨hbefore, hordered⟩ := List.pairwise_cons.1 hordered
    obtain ⟨hfirst, hrest⟩ := List.pairwise_cons.1 h
    rcases List.mem_cons.1 hnode with rfl | hin
    · refine hfirst other ((List.mem_cons.1 hother).resolve_left ?_)
      rintro rfl
      exact UInt32.lt_irrefl _ hlt
    · refine ih hordered hrest hin ((List.mem_cons.1 hother).resolve_left ?_)
      rintro rfl
      exact UInt32.lt_irrefl _ (UInt32.lt_trans hlt (hbefore node hin))

theorem pairwise_participants (targets : Std.ExtTreeSet NodeId) (relay : Option NodeId) :
    (participants targets relay).Pairwise (· < ·) := pairwise_toList _

/-- The search for a relay that follows a survey has only probed. -/
theorem nodes_of_search {found : NodeMap Reachability} {before : Option NodeId} {t₁ t₂ : Timeline Grid}
    {outcome : Except MeshError (Option NodeId × NodeMap Reachability)}
    (hsurvey : p.survey targets.toList t = .ok (found, t₁))
    (hrelay : p.relayFor before targets external found t₁ = .ok (outcome, t₂)) : t₂.state.nodes = t.state.nodes := by
  obtain ⟨hfound, hprobed⟩ := survey_eq_ok hsurvey
  rw [(hprobed.trans (finds_of_relayFor hfound hrelay).2).same]

/-- The members of a pass come to their ports over the nodes that were running when it started. -/
theorem Pass.Staffed.listens {x : Pass} (h : x.Staffed p chance previous targets external t t') :
    p.Listens chance previous t.state.nodes x.members ∅ (x.nodes targets) := by
  obtain ⟨t₁, t₂, hsurvey, hrelay, hmembers⟩ := h
  rw [← nodes_of_search hsurvey hrelay]
  exact listens_of_run ((pairwise_participants targets x.relay).imp UInt32.ne_of_lt) hmembers

/-- What stays has what it keeps. -/
theorem Pass.Valid.eq_of_kept {x : Pass} (hx : x.Valid p chance previous targets external t)
    (hk : kept previous node = some m') (hm : x.members[node]? = some m) : m = m' := by
  have hnode : node ∈ x.nodes targets := hx.mem_members.1 (mem_iff_exists_getElem?.2 ⟨m, hm⟩)
  rw [hx.members.of_kept hnode hk] at hm
  exact (Option.some.inj hm).symm

end Planner

/-- Members have different ports. -/
def Mesh.PortsApart (m : Mesh) : Prop :=
  ∀ (node other : NodeId) k k', m.nodes[node]? = some k → m.nodes[other]? = some k' → node ≠ other → k.port ≠ k'.port

namespace Planner

variable {p : Planner} {chance : Chance} {previous : Mesh} {targets : Std.ExtTreeSet NodeId} {external : Bool}
  {t t' : Timeline Grid} {plan : MeshPlan}

/-- Whatever is drawn, a pass that succeeds gives every node that joins a port that the settings offer and that the node does
not use.  Where members had different ports before they have different ones after it, unless a node that joins has drawn the
port of a node of a larger number that stays. -/
theorem portsApart_iff_of_plan (hapart : previous.PortsApart)
    (run : p.plan chance previous targets external t = .ok (.ok plan, t')) :
    (∀ node m, kept previous node = none → plan.mesh.nodes[node]? = some m →
      p.settings.Offers m.port ∧ ∃ n, t.state.nodes[node]? = some n ∧ m.port ∉ n.usedPorts) ∧
    (plan.mesh.PortsApart ↔ ∀ node other m k, node < other → kept previous node = none → kept previous other = some k →
      plan.mesh.nodes[node]? = some m → other ∈ plan.mesh.nodes → m.port ≠ k.port) := by
  obtain ⟨x, hx, hstaffed, rfl⟩ := staffed_pass_of_run run
  have hlistens := hstaffed.listens
  have hmem {node : NodeId} {m : Member} (hm : x.members[node]? = some m) : node ∈ x.nodes targets :=
    hx.mem_members.1 (mem_iff_exists_getElem?.2 ⟨m, hm⟩)
  refine ⟨?joins, ?apart, ?clear⟩
  case joins =>
    intro node m hnew hm
    obtain ⟨chosen, hpicks, -⟩ := hlistens.picks (hmem hm) hnew hm
    exact ⟨hpicks.offers, hpicks.unused⟩
  case apart =>
    intro hplan node other m k hlt hnew hk hm hother
    have hk' : x.members[other]? = some k := hx.members.of_kept (hx.mem_members.1 hother) hk
    exact hplan node other m k hm hk' (UInt32.ne_of_lt hlt)
  case clear =>
    -- the order of two nodes is the one in which they are chosen, so a clash is looked at from the smaller number
    intro hclear
    have hbelow : ∀ (node other : NodeId) m m', node < other → x.members[node]? = some m →
        x.members[other]? = some m' → m.port ≠ m'.port := by
      intro node other m m' hlt hm hm'
      cases hk' : kept previous other with
      | none =>
        have hordered := pairwise_participants targets x.relay
        exact rel_of_lt hordered hlistens.pairwise_port_ne (hmem hm) (hmem hm') hlt hk' m m' hm hm'
      | some k' =>
        obtain rfl := hx.eq_of_kept hk' hm'
        cases hk : kept previous node with
        | none => exact hclear node other m m' hlt hk hk' hm (mem_iff_exists_getElem?.2 ⟨m', hm'⟩)
        | some k =>
          obtain rfl := hx.eq_of_kept hk hm
          -- both stay, and had different ports before
          exact hapart node other m m' (Option.filter_eq_some_iff.1 hk).1 (Option.filter_eq_some_iff.1 hk').1
            (UInt32.ne_of_lt hlt)
    intro node other m m' hm hm' hne
    rcases UInt32.lt_or_lt_of_ne hne with hlt | hlt
    · exact hbelow node other m m' hlt hm hm'
    · exact (hbelow other node m' m hlt hm' hm).symm

/-- A node with the first port that the standard settings offer. -/
def loneMember : Member where
  subnet := Subnets.subnet ⟨hillyMesh.range, ∅, Subnets.firstOctet⟩ Subnets.firstOctet
  privateKey := "k2"
  publicKey := "p2"
  port := NetworkSettings.standard.wgPortMin

/-- The mesh of this node alone. -/
def loneMesh : Mesh := { hillyMesh with nodes := single 2 loneMember }

theorem portsApart_loneMesh : loneMesh.PortsApart := by
  intro node other k k' hk hk' hne
  exact absurd ((getElem?_single_eq_some hk).1.trans (getElem?_single_eq_some hk').1.symm) hne

/-- A node of a smaller number joins and draws the port of the one that stays. -/
theorem not_portsApart_of_loneMesh : ∃ (plan : MeshPlan) (m : Member), plan.mesh.nodes[(1 : NodeId)]? = some m ∧
    NetworkSettings.standard.Offers m.port ∧ m.port = loneMember.port ∧ ¬ plan.mesh.PortsApart := by
  have hrun : succeeds (hillyPass loneMesh [1, 2]) (fun plan =>
      decide (plan.mesh.nodes[(1 : NodeId)]?.map (·.port) = some loneMember.port) && plan.mesh.nodes.contains 2) = true := by
    decide +kernel
  obtain ⟨plan, t, hplan, htest⟩ := exists_of_succeeds hrun
  rw [Bool.and_eq_true, decide_eq_true_eq, Option.map_eq_some_iff] at htest
  obtain ⟨⟨m, hm, hport⟩, hother⟩ := htest
  have hnew : kept loneMesh 1 = none := by decide +kernel
  have hkept : kept loneMesh 2 = some loneMember := by decide +kernel
  obtain ⟨hjoins, happart⟩ := portsApart_iff_of_plan portsApart_loneMesh hplan
  refine ⟨plan, m, hm, (hjoins 1 m hnew hm).1, hport, fun h => ?_⟩
  exact happart.1 h 1 2 m loneMember (by decide) hnew hkept hm (Std.ExtTreeMap.contains_iff_mem.1 hother) hport

end Planner

end ComputeGrid
