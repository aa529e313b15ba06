import ComputeGrid.Proofs.Mesh.Allotment
import ComputeGrid.Proofs.Mesh.Delays
import ComputeGrid.Proofs.Mesh.Electing
import ComputeGrid.Proofs.Mesh.Listening

/-!
# What blocks a pass

Over a mesh that passes lead to, a pass comes to an end, and it fails for three reasons only: it lacks a relay that it wants
(`Planner.Lacks`); there are fewer octets left beside those of members that stay than there are newcomers; or a node that joins
cannot be asked for its ports, or has no free one (`Planner.Refuses`).  The first is read off what the search for a relay finds
(`Planner.lacks_of_finds`, `Planner.leads_of_finds`); the others, together `Planner.Blocked`, are what the choice of members
ends in (`Planner.blocked_of_chooseMembers`), and no pass that succeeds meets them (`Planner.Pass.Valid.not_blocked`).  Members
that stay are asked for nothing in this, so those that are down block nothing (`Mesh.Reached.fails_iff`).
-/

namespace ComputeGrid

namespace Planner

open Grid

variable {p : Planner} {chance : Chance} {previous : Mesh} {targets : Std.ExtTreeSet NodeId} {external : Bool}
  {t t' : Timeline Grid} {g : Grid} {running : NodeMap Node} {found reach : NodeMap Reachability} {s left : Subnets}
  {chosen : Std.ExtTreeSet UInt16} {nodes before after : List NodeId} {members result result' : NodeMap Member}
  {node other : NodeId} {m m' : Member} {e : MeshError} {relay relay' former : Option NodeId}

/-! ### What a relay is wanted for and not found -/

/-- The nodes that the inventory gives as relays one after another, if there is one that answers. -/
def yielded (p : Planner) (g : Grid) (former : Option NodeId) (targets : Std.ExtTreeSet NodeId) : List NodeId :=
  (g.inventory.filter fun _ => p.usesInventory).elim [] fun i => i.picks relayCandidates (targets.toList ++ former.toList)

/-- The node that is preferred as a relay: the former one, a target or one that the inventory gives, as long as it is seen. -/
def preferred (p : Planner) (g : Grid) (former : Option NodeId) (targets : Std.ExtTreeSet NodeId) : Option NodeId :=
  (former.filter (p.sees g)).or ((targets.toList.find? (p.sees g)).or ((p.yielded g former targets).find? (p.sees g)))

/-- A relay is wanted, and neither the former one is seen, nor any target, nor any node that the inventory gives. -/
structure Lacks (p : Planner) (g : Grid) (former : Option NodeId) (targets : Std.ExtTreeSet NodeId) (external : Bool) :
    Prop where
  wanted : p.Wants g targets external
  gone : p.Gone g former
  unseen : ∀ node ∈ targets, p.sees g node = false
  elsewhere : ∀ node ∈ p.yielded g former targets, p.sees g node = false

/-- There is a relay if one is wanted, and it is the one that is preferred. -/
structure Leads (p : Planner) (g : Grid) (former : Option NodeId) (targets : Std.ExtTreeSet NodeId) (external : Bool)
    (relay : Option NodeId) : Prop where
  wanted : relay.isSome = true ↔ p.Wants g targets external
  preferred : ∀ r, relay = some r → p.preferred g former targets = some r

theorem preferred_eq_none_iff : p.preferred g former targets = none ↔
    p.Gone g former ∧ (∀ node ∈ targets, p.sees g node = false) ∧
      ∀ node ∈ p.yielded g former targets, p.sees g node = false := by
  rw [preferred, Option.or_eq_none_iff, Option.or_eq_none_iff, filter_sees_eq_none_iff, find?_sees_eq_none_iff,
    List.find?_eq_none]
  refine and_congr_right fun _ => and_congr_right fun _ => forall₂_congr fun _ _ => iff_of_eq (Bool.not_eq_true _)

theorem choiceOf_eq_preferred (hfound : p.Sights g found) (hmem : ∀ node, node ∈ found ↔ node ∈ targets) :
    p.choiceOf g found former targets.toList = p.preferred g former targets := by
  have hyielded : p.discovered g (targets.toList ++ former.toList) = (p.yielded g former targets).find? (p.sees g) := by
    rw [discovered, yielded]
    cases g.inventory.filter fun _ => p.usesInventory with
    | none => rfl
    | some i => rfl
  rw [choiceOf_eq hfound hmem, hyielded, preferred]

section Finds

variable (hfound : p.Sights g found) (hmem : ∀ node, node ∈ found ↔ node ∈ targets)
include hfound hmem

theorem lacks_of_finds (h : p.Finds g former targets external found (.error e)) : p.Lacks g former targets external := by
  cases h with
  | missing hneeds hchoice =>
    rw [choiceOf_eq_preferred hfound hmem] at hchoice
    obtain ⟨hgone, hunseen, helsewhere⟩ := preferred_eq_none_iff.1 hchoice
    exact ⟨(needsRelay_iff hfound hmem).1 hneeds, hgone, hunseen, helsewhere⟩

theorem leads_of_finds (h : p.Finds g former targets external found (.ok (relay, reach))) :
    p.Leads g former targets external relay := by
  have hneeded : needsRelay targets external found = true ↔ p.Wants g targets external := needsRelay_iff hfound hmem
  cases h with
  | unneeded hneeds =>
    refine ⟨iff_of_false Bool.false_ne_true fun hwants => ?_, nofun⟩
    rw [hneeded.2 hwants] at hneeds
    cases hneeds
  | chosen hneeds hchoice =>
    rw [choiceOf_eq_preferred hfound hmem] at hchoice
    refine ⟨iff_of_true rfl (hneeded.1 hneeds), ?_⟩
    rintro _ ⟨⟩
    exact hchoice

end Finds

/-- Where a relay is lacking none leads. -/
theorem Lacks.not_leads (h : p.Lacks g former targets external) : ¬ p.Leads g former targets external relay := by
  intro hleads
  obtain ⟨r, rfl⟩ := Option.isSome_iff_exists.1 (hleads.wanted.2 h.wanted)
  have hsome := hleads.preferred r rfl
  rw [preferred_eq_none_iff.2 ⟨h.gone, h.unseen, h.elsewhere⟩] at hsome
  cases hsome

theorem Leads.eq (h : p.Leads g former targets external relay) (h' : p.Leads g former targets external relay') :
    relay = relay' := by
  cases relay with
  | none =>
    cases relay' with
    | none => rfl
    | some r =>
      have hnone := h.wanted.2 (h'.wanted.1 rfl)
      cases hnone
  | some r =>
    obtain ⟨r', rfl⟩ := Option.isSome_iff_exists.1 (h'.wanted.2 (h.wanted.1 rfl))
    rw [← h.preferred r rfl, h'.preferred r' rfl]

/-! ### Nodes that join -/

/-- A node cannot be asked for its ports, or none that the settings offer is left beside those that it uses and those that
others have chosen. -/
inductive Refuses (p : Planner) (running : NodeMap Node) (chosen : UInt16 → Prop) (node : NodeId) : Prop
  | unreachable (h : ∀ n, running[node]? = some n → n.down = true)
  | full {n : Node} (hn : running[node]? = some n)
      (h : ∀ port, p.settings.Offers port → port ∈ n.usedPorts ∨ chosen port)

theorem Refuses.imp {c c' : UInt16 → Prop} (hc : ∀ port, c port → c' port) (h : p.Refuses running c node) :
    p.Refuses running c' node := by
  cases h with
  | unreachable h => exact .unreachable h
  | full hn h => exact .full hn fun port hport => (h port hport).imp_right (hc port)

theorem refuses_of_newMember {subnet : Ipv4Network} (h : p.newMember chance node subnet chosen t = .ok (.error e, t')) :
    p.Refuses t.state.nodes (· ∈ chosen) node := by
  obtain ⟨asked, hasked, hadmits⟩ := admits_of_newMember h
  obtain ⟨-, hanswer⟩ := getPorts_complete hasked
  cases hadmits with
  | unanswered cause =>
    obtain ⟨-, hdown⟩ | ⟨n, -, -, ⟨⟩⟩ := hanswer
    exact .unreachable hdown
  | full hport =>
    obtain ⟨⟨_, ⟨⟩⟩, -⟩ | ⟨n, hn, -, ⟨⟩⟩ := hanswer
    refine .full hn fun port hoffered => ?_
    by_contra htaken
    rw [not_or] at htaken
    refine Ports.pick?_eq_none_iff.1 hport port ⟨hoffered.1, hoffered.2, fun hused => htaken.1 ?_, htaken.2⟩
    rw [Std.ExtTreeSet.mem_ofList, List.contains_iff_mem] at hused
    exact hused

/-! ### Those who come before -/

/-- A port that nodes have. -/
def Has (result : NodeMap Member) (nodes : List NodeId) (port : UInt16) : Prop :=
  ∃ node ∈ nodes, ∃ m, result[node]? = some m ∧ m.port = port

theorem Has.cons {port : UInt16} (h : Has result nodes port) (hnot : node ∉ nodes) :
    Has (result.insert node m) (node :: nodes) port := by
  obtain ⟨other, hother, k, hk, hport⟩ := h
  refine ⟨other, List.mem_cons_of_mem _ hother, k, ?_, hport⟩
  rw [getElem?_insert_of_ne (ne_of_mem_of_not_mem hother hnot), hk]

namespace Listens

theorem congr (h : p.Listens chance previous running result chosen nodes)
    (hsame : ∀ node ∈ nodes, result'[node]? = result[node]?) : p.Listens chance previous running result' chosen nodes := by
  induction h with
  | done => exact .done
  | keep hm hresult _ ih =>
    obtain ⟨hfirst, hrest⟩ := List.forall_mem_cons.1 hsame
    exact .keep hm (hfirst.trans hresult) (ih hrest)
  | join hnew hpicks hresult _ ih =>
    obtain ⟨hfirst, hrest⟩ := List.forall_mem_cons.1 hsame
    exact .join hnew hpicks (hfirst.trans hresult) (ih hrest)

theorem of_append (h : p.Listens chance previous running result chosen (before ++ after)) :
    p.Listens chance previous running result chosen before := by
  induction before generalizing chosen with
  | nil => exact .done
  | cons node before ih =>
    cases h with
    | keep hm hresult h => exact .keep hm hresult (ih h)
    | join hnew hpicks hresult h => exact .join hnew hpicks hresult (ih h)

/-- Whoever else takes part, the ports of nodes are settled by those that come before them. -/
theorem port_eq (h : p.Listens chance previous running result chosen nodes)
    (h' : p.Listens chance previous running result' chosen nodes) :
    ∀ node ∈ nodes, result[node]?.map (·.port) = result'[node]?.map (·.port) := by
  induction h with
  | done => exact nofun
  | keep hm hresult _ ih =>
    cases h' with
    | keep hm' hresult' h' =>
      cases hm.symm.trans hm'
      exact List.forall_mem_cons.2 ⟨by rw [hresult, hresult'], ih h'⟩
    | join hnew => cases hm.symm.trans hnew
  | join hnew hpicks hresult _ ih =>
    cases h' with
    | keep hm => cases hnew.symm.trans hm
    | join _ hpicks' hresult' h' =>
      obtain ⟨n, hn, hport⟩ := hpicks
      obtain ⟨n', hn', hport'⟩ := hpicks'
      cases hn.symm.trans hn'
      have heq := Option.some.inj (hport.symm.trans hport')
      rw [← heq] at h'
      exact List.forall_mem_cons.2 ⟨by rw [hresult, hresult', Option.map_some, Option.map_some, heq], ih h'⟩

end Listens

/-! ### Octets that are left -/

/-- The subnets of those among some nodes that are members, and of the external member. -/
def stakes (previous : Mesh) (nodes : List NodeId) : List Ipv4Network :=
  (nodes.filterMap fun node => previous.nodes[node]?.map (·.subnet)) ++ (previous.external.map (·.subnet)).toList

/-- The octets of a range that are left beside those of the nodes that are members, and of the external member. -/
def unclaimed (previous : Mesh) (nodes : List NodeId) : List Nat :=
  (List.range' Subnets.firstOctet (Subnets.lastOctet - Subnets.firstOctet)).filter fun octet =>
    ∀ n ∈ stakes previous nodes, n.thirdOctet ≠ octet.toUInt8

/-- One if there is to be an external member where there was none. -/
def entrant (previous : Mesh) (external : Bool) : Nat := if external && previous.external.isNone then 1 else 0

/-- How many subnets are needed: for nodes that are no members, and for an external member where there was none. -/
def needed (previous : Mesh) (nodes : List NodeId) (external : Bool) : Nat :=
  entrant previous external + nodes.countP fun node => node ∉ previous.nodes

/-- There are fewer octets left than subnets needed, or some node that joins refuses, beside those that come before it. -/
inductive Blocked (p : Planner) (chance : Chance) (running : NodeMap Node) (previous : Mesh) (nodes : List NodeId)
    (external : Bool) : Prop
  | octets (h : (unclaimed previous nodes).length < needed previous nodes external)
  | node {before after : List NodeId} {node : NodeId} {result : NodeMap Member} (hnodes : nodes = before ++ node :: after)
      (hnew : node ∉ previous.nodes) (hbefore : p.Listens chance previous running result ∅ before)
      (hrefuses : p.Refuses running (Has result before) node)

section Inside

variable (hinside : previous.Inside)
include hinside

theorem isNone_kept_of_inside : (kept previous node).isNone = decide (node ∉ previous.nodes) := by
  rw [kept_of_inside hinside, Bool.eq_iff_iff, decide_eq_true_eq, Option.isNone_iff_eq_none, getElem?_eq_none_iff]

theorem contains_of_stakes {n : Ipv4Network} (h : n ∈ stakes previous nodes) : previous.range.contains n = true := by
  rcases List.mem_append.1 h with hn | hn
  · obtain ⟨node, -, hnode⟩ := List.mem_filterMap.1 hn
    exact hinside (some node) n hnode
  · exact hinside none n (Option.mem_toList.1 hn)

/-- Where everyone's subnet is in the range, the octets that are left are the unclaimed ones. -/
theorem openings_reserveHeld (nodes : List NodeId) (hs : s = ⟨previous.range.truncate, ∅, Subnets.firstOctet⟩)
    (hover : s.Over previous.range) :
    (reserveHeld previous nodes s).openings = unclaimed previous nodes := by
  have hnext : (reserveHeld previous nodes s).next = Subnets.firstOctet := by
    rw [reserveHeld, Subnets.next_foldl_reserve, hs]
  rw [Subnets.openings, hnext, unclaimed]
  refine List.filter_congr fun octet _ => ?_
  rw [decide_eq_decide, reserveHeld, Subnets.mem_taken_foldl_reserve hover, hs, or_iff_right Std.ExtTreeSet.not_mem_empty]
  constructor
  · intro hnone n hn heq
    exact hnone ⟨n, hn, contains_of_stakes hinside hn, heq⟩
  · rintro hnone ⟨n, hn, -, heq⟩
    exact hnone n hn heq

end Inside

/-! ### The external member -/

theorem openings_of_outsideFor {outside : Option MeshPlan.External}
    (h : outsideFor chance previous.external external s = .ok (outside, left)) :
    s.openings.length = entrant previous external + left.openings.length := by
  rcases outsideFor_eq_ok h with ⟨rfl, -, rfl⟩ | ⟨rfl, o, -, hchoose⟩
  · exact (Nat.zero_add _).symm
  · unfold entrant
    cases hold : previous.external with
    | some member =>
      rw [hold] at hchoose
      obtain ⟨-, -, rfl⟩ := chooseExternal_some_eq_ok hchoose
      exact (Nat.zero_add _).symm
    | none =>
      rw [hold] at hchoose
      obtain ⟨octet, hopenings, -⟩ := Subnets.openings_of_allocate (chooseExternal_none_eq_ok hchoose).1
      rw [hopenings, List.length_cons, Nat.add_comm]
      rfl

theorem openings_of_allocate_error (h : allocate s = .error e) : s.openings = [] := by
  unfold allocate at h
  split at h
  · cases h
  next hnone => exact Subnets.openings_of_allocate_none hnone

/-- An external member whose keys are known is chosen again, so only one where there was none can fail to be chosen, for want
of octets. -/
theorem lt_of_outsideFor (hkeyed : previous.Keyed) (h : outsideFor chance previous.external external s = .error e) :
    s.openings.length < entrant previous external := by
  cases external with
  | false =>
    rw [outsideFor, if_neg Bool.false_ne_true] at h
    cases h
  | true =>
    rw [outsideFor, if_pos rfl] at h
    cases hold : previous.external with
    | some member =>
      obtain ⟨o, rfl, hkeys⟩ := hkeyed member hold
      rw [hold, chooseExternal_member hkeys] at h
      cases h
    | none =>
      rw [hold, chooseExternal] at h
      cases hallocate : allocate s with
      | ok r =>
        rw [hallocate] at h
        cases h
      | error flaw =>
        rw [openings_of_allocate_error hallocate, entrant, hold]
        exact Nat.zero_lt_one

/-! ### The choice of members -/

/-- A choice of members that fails has come to a node that joins and refuses, or had fewer octets than nodes that join. -/
theorem blocked_of_chooseMembers (hnodup : nodes.Nodup)
    (h : p.chooseMembers chance previous s chosen members nodes t = .ok (.error e, t')) :
    s.openings.length < nodes.countP (fun node => (kept previous node).isNone) ∨
      ∃ before node after result, nodes = before ++ node :: after ∧ kept previous node = none ∧
        p.Listens chance previous t.state.nodes result chosen before ∧
        p.Refuses t.state.nodes (fun port => port ∈ chosen ∨ Has result before port) node := by
  induction nodes generalizing s chosen members t with
  | nil =>
    rw [chooseMembers] at h
    cases h
  | cons first rest ih =>
    obtain ⟨hnot, hnodup⟩ := List.nodup_cons.1 hnodup
    -- the first node comes before those that the others come after
    have hfirst {before after : List NodeId} {node : NodeId} (result : NodeMap Member) (m : Member)
        (hrest : rest = before ++ node :: after) :
        (∀ other ∈ before, (result.insert first m)[other]? = result[other]?) ∧
          ∀ port, port ∈ chosen.insert m.port ∨ Has result before port →
            port ∈ chosen ∨ Has (result.insert first m) (first :: before) port := by
      have hearlier : first ∉ before := fun hmem => hnot (hrest ▸ List.mem_append_left _ hmem)
      refine ⟨fun other hother => getElem?_insert_of_ne (ne_of_mem_of_not_mem hother hearlier), ?_⟩
      rintro port (hport | hport)
      · rcases Std.ExtTreeSet.mem_insert.1 hport with heq | hmem
        · exact .inr ⟨first, List.mem_cons_self, m, Std.ExtTreeMap.getElem?_insert_self, Std.compare_eq_iff_eq.1 heq⟩
        · exact .inl hmem
      · exact .inr (hport.cons hearlier)
    rw [chooseMembers] at h
    cases hm : kept previous first with
    | some m =>
      rw [hm] at h
      rw [List.countP_cons_of_neg (by rw [hm]; exact Bool.false_ne_true)]
      refine (ih hnodup h).imp_right ?_
      rintro ⟨before, node, after, result, hrest, hnew, hbefore, hrefuses⟩
      obtain ⟨hsame, hports⟩ := hfirst result m hrest
      refine ⟨first :: before, node, after, result.insert first m, congrArg (first :: ·) hrest, hnew, ?_, hrefuses.imp hports⟩
      exact .keep hm Std.ExtTreeMap.getElem?_insert_self (hbefore.congr hsame)
    | none =>
      rw [hm, bind_eq_error] at h
      rw [List.countP_cons_of_pos (by rw [hm]; rfl)]
      rcases h with h | ⟨⟨subnet, s'⟩, t₁, hsubnet, h⟩
      · rw [openings_of_allocate_error (lift_eq_error.1 h).1]
        exact .inl (Nat.zero_lt_succ _)
      obtain ⟨hallocate, rfl⟩ := lift_eq_ok.1 hsubnet
      rcases bind_eq_error.1 h with h | ⟨m, t₂, hmember, h⟩
      · exact .inr ⟨[], first, rest, ∅, rfl, hm, .done, (refuses_of_newMember h).imp fun _ => .inl⟩
      obtain ⟨hpicks, hnodes⟩ := picks_of_newMember hmember
      obtain ⟨octet, hopenings, -⟩ := Subnets.openings_of_allocate (allocate_eq_ok hallocate)
      rw [hopenings, List.length_cons, Nat.add_lt_add_iff_right]
      refine (ih hnodup h).imp_right ?_
      rintro ⟨before, node, after, result, hrest, hnew, hbefore, hrefuses⟩
      rw [hnodes] at hbefore hrefuses
      obtain ⟨hsame, hports⟩ := hfirst result m hrest
      refine ⟨first :: before, node, after, result.insert first m, congrArg (first :: ·) hrest, hnew, ?_, hrefuses.imp hports⟩
      exact .join hm hpicks Std.ExtTreeMap.getElem?_insert_self (hbefore.congr hsame)

/-- Every node that has joined could be reached. -/
theorem reachable_of_chooseMembers (h : p.chooseMembers chance previous s chosen members nodes t = .ok (.ok result, t'))
    (hnode : node ∈ nodes) (hnew : kept previous node = none) :
    ¬ ∀ n, t.state.nodes[node]? = some n → n.down = true := by
  induction nodes generalizing s chosen members t with
  | nil => cases hnode
  | cons first rest ih =>
    rw [chooseMembers] at h
    cases hm : kept previous first with
    | some m =>
      rw [hm] at h
      exact ih h ((List.mem_cons.1 hnode).resolve_left (ne_of_kept hm hnew).symm)
    | none =>
      rw [hm, bind_eq_ok] at h
      obtain ⟨⟨subnet, s'⟩, t₁, hsubnet, h⟩ := h
      obtain ⟨-, rfl⟩ := lift_eq_ok.1 hsubnet
      obtain ⟨m, t₂, hmember, h⟩ := bind_eq_ok.1 h
      rcases List.mem_cons.1 hnode with rfl | hnode
      · obtain ⟨asked, hasked, hadmits⟩ := admits_of_newMember hmember
        obtain ⟨-, hanswer⟩ := getPorts_complete hasked
        cases hadmits with
        | joined _ =>
          obtain ⟨⟨_, ⟨⟩⟩, -⟩ | ⟨n, hn, hup, -⟩ := hanswer
          intro hdown
          rw [hdown n hn] at hup
          cases hup
      · rw [← (picks_of_newMember hmember).2]
        exact ih h hnode

/-- As many nodes join as there are octets left for them. -/
theorem Chooses.countP_le (h : Chooses p chance previous s chosen members nodes result) (hnodup : nodes.Nodup) :
    nodes.countP (fun node => (kept previous node).isNone) ≤ s.openings.length := by
  have hlength := congrArg List.length (h.map_subnetOf hnodup)
  rw [List.length_map, List.length_map, List.length_take] at hlength
  rw [List.countP_eq_length_filter]
  omega

/-! ### Passes -/

/-- A pass that succeeds is not blocked. -/
theorem Pass.Valid.not_blocked {x : Pass} (hx : x.Valid p chance previous targets external t)
    (hstaffed : x.Staffed p chance previous targets external t t') (hinside : previous.Inside) :
    ¬ p.Blocked chance t.state.nodes previous (x.nodes targets) external := by
  have hnodup : (x.nodes targets).Nodup := hx.keys_members ▸ nodup_keys x.members
  have hlistens := hstaffed.listens
  rintro (hoctets | @⟨before, after, node, result, hnodes, hnew, hbefore, hrefuses⟩)
  · have hopenings := openings_of_outsideFor hx.outside
    have hjoin := hx.members.countP_le hnodup
    rw [unheld, openings_reserveHeld hinside _ hx.start_eq hx.start_over] at hopenings
    simp only [isNone_kept_of_inside hinside] at hjoin
    rw [hopenings, needed] at hoctets
    omega
  · have hjoins : kept previous node = none := by
      rw [kept_of_inside hinside]
      exact getElem?_eq_none_iff.2 hnew
    rw [hnodes] at hlistens
    -- the node has picked a port, and those before it have theirs whatever the result is
    have hmember : node ∈ x.members := hx.mem_members.2 (by rw [hnodes]; exact List.mem_append_right _ List.mem_cons_self)
    obtain ⟨m, hm⟩ := mem_iff_exists_getElem?.1 hmember
    obtain ⟨chosen, hpicks, -⟩ := hlistens.picks (List.mem_append_right _ List.mem_cons_self) hjoins hm
    have happart := (List.pairwise_append.1 hlistens.pairwise_port_ne).2.2
    cases hrefuses with
    | unreachable hdown =>
      obtain ⟨t₁, t₂, hsurvey, hrelay, hmembers⟩ := hstaffed
      rw [← nodes_of_search hsurvey hrelay] at hdown
      exact reachable_of_chooseMembers hmembers (hx.mem_members.1 hmember) hjoins hdown
    | full hn hfull =>
      obtain ⟨n', hn', hunused⟩ := hpicks.unused
      cases hn.symm.trans hn'
      rcases hfull m.port hpicks.offers with hused | ⟨other, hother, k, hk, hport⟩
      · exact hunused hused
      · have hsame := hlistens.of_append.port_eq hbefore other hother
        rw [hk, Option.map_some, Option.map_eq_some_iff] at hsame
        obtain ⟨k', hk', hport'⟩ := hsame
        exact happart other hother node List.mem_cons_self hjoins k' m hk' hm (hport'.trans hport)

/-- A pass that fails lacks a relay, or is blocked. -/
theorem blocked_of_plan {carrier : Ipv4Network} (hlength : previous.range.length.val = 16)
    (hcarrier : p.settings.carrierRange = .ok carrier) (hinside : previous.Inside) (hkeyed : previous.Keyed)
    (h : p.plan chance previous targets external t = .ok (.error e, t')) :
    p.Lacks t.state previous.relay targets external ∨ ∃ relay, p.Leads t.state previous.relay targets external relay ∧
      p.Blocked chance t.state.nodes previous (participants targets relay) external := by
  have hranges : p.ranges previous = .ok (carrier, ⟨previous.range.truncate, ∅, Subnets.firstOctet⟩) := by
    simp only [ranges, hcarrier, Subnets.of?, if_pos hlength]
  rw [plan, bind_eq_error] at h
  rcases h with h | ⟨⟨_, start⟩, t₁, hlifted, h⟩
  · rw [hranges] at h
    cases h
  obtain ⟨hstart, rfl⟩ := lift_eq_ok.1 hlifted
  cases hranges.symm.trans hstart
  rcases bind_eq_error.1 h with h | ⟨found, t₂, hsurvey, h⟩
  · exact absurd h liftTimed_ne_error
  have hsurvey := liftTimed_eq_ok.1 hsurvey
  obtain ⟨hsights, hmem⟩ := sights_of_survey hsurvey
  rcases bind_eq_error.1 h with h | ⟨⟨relay, reach⟩, t₃, hrelay, h⟩
  · exact .inl (lacks_of_finds hsights hmem (finds_of_search hsurvey h))
  refine .inr ⟨relay, leads_of_finds hsights hmem (finds_of_search hsurvey hrelay), ?_⟩
  -- from here on it is octets, or a node that joins
  have hopenings := openings_reserveHeld hinside (participants targets relay) rfl ⟨rfl, hlength, Nat.le_refl _⟩
  rcases bind_eq_error.1 h with h | ⟨⟨outside, left⟩, t₄, houtside, hrest⟩
  · have hlt := lt_of_outsideFor hkeyed (lift_eq_error.1 h).1
    rw [hopenings] at hlt
    exact .octets (Nat.lt_of_lt_of_le hlt (Nat.le_add_right _ _))
  obtain ⟨hchosen, rfl⟩ := lift_eq_ok.1 houtside
  have hleft := openings_of_outsideFor hchosen
  rcases bind_eq_error.1 hrest with hmembers | ⟨members, t₅, -, hend⟩
  · rcases blocked_of_chooseMembers ((pairwise_participants targets relay).imp UInt32.ne_of_lt) hmembers with
      hlt | ⟨before, node, after, result, hnodes, hnew, hbefore, hrefuses⟩
    · simp only [isNone_kept_of_inside hinside] at hlt
      refine .octets ?_
      rw [← hopenings, hleft, needed]
      omega
    · rw [nodes_of_search hsurvey hrelay] at hbefore hrefuses
      rw [kept_of_inside hinside] at hnew
      refine .node hnodes (getElem?_eq_none_iff.1 hnew) hbefore (hrefuses.imp ?_)
      exact fun port hport => hport.resolve_left Std.ExtTreeSet.not_mem_empty
  · cases hend

/-- Where everyone who takes part is a member, and no external member is needed, nothing is blocked. -/
theorem not_blocked_of_members (hnodes : ∀ node ∈ nodes, node ∈ previous.nodes)
    (hexternal : external = true → previous.external ≠ none) : ¬ p.Blocked chance running previous nodes external := by
  rintro (hoctets | @⟨before, after, node, result, rfl, hnew, -, -⟩)
  · have hentrant : entrant previous external = 0 := by
      cases external with
      | false => rfl
      | true =>
        obtain ⟨member, hmember⟩ := Option.ne_none_iff_exists'.1 (hexternal rfl)
        rw [entrant, hmember]
        rfl
    have hjoin : nodes.countP (fun node => node ∉ previous.nodes) = 0 :=
      List.countP_eq_zero.2 fun node hnode hnew => of_decide_eq_true hnew (hnodes node hnode)
    rw [needed, hentrant, hjoin] at hoctets
    omega
  · exact hnew (hnodes node (List.mem_append_right _ List.mem_cons_self))

end Planner

/-! ### Runs of passes -/

namespace Mesh

open Planner

variable {name : String} {range : Ipv4Network} {m : Mesh} {p : Planner} {carrier : Ipv4Network}

/-- The relay of a mesh that passes lead to is a member. -/
theorem Reached.mem_of_relay (hm : Reached (new name range) m) {relay : NodeId} (h : m.relay = some relay) :
    relay ∈ m.nodes := by
  cases hm with
  | start => cases h
  | pass _ run =>
    obtain ⟨x, hx, rfl⟩ := pass_of_run run
    exact hx.mem_members.2 (mem_participants.2 (.inr h))

/-- However passes have led from a new mesh to this one, the next comes to an end, whichever nodes are down.  It fails if and
only if it lacks a relay, or there are fewer octets left than subnets needed, or a node that is no member refuses.  So if
everyone who is wanted is a member, it succeeds unless a relay is wanted and the former one is not seen any more. -/
theorem Reached.fails_iff (hm : Reached (new name range) m) (hlength : range.length.val = 16)
    (hcarrier : p.settings.carrierRange = .ok carrier) (chance : Chance) (targets : Std.ExtTreeSet NodeId)
    (external : Bool) (t : Timeline Grid) :
    ∃ outcome t', p.plan chance m targets external t = .ok (outcome, t') ∧
      ((∃ e, outcome = .error e) ↔
        p.Lacks t.state m.relay targets external ∨ ∃ relay, p.Leads t.state m.relay targets external relay ∧
          p.Blocked chance t.state.nodes m (participants targets relay) external) ∧
      ((∀ node ∈ targets, node ∈ m.nodes) → (external = true → m.external ≠ none) →
        (p.Wants t.state targets external → ∃ relay, m.relay = some relay ∧ p.sees t.state relay = true) →
          ∃ plan, outcome = .ok plan) := by
  obtain ⟨rfl, haddressed, hkeyed⟩ := hm.sound
  obtain ⟨outcome, t', -, hrun, -⟩ := inquires_plan p chance m targets external t
  have hfails : (∃ e, outcome = .error e) ↔
      p.Lacks t.state m.relay targets external ∨ ∃ relay, p.Leads t.state m.relay targets external relay ∧
        p.Blocked chance t.state.nodes m (participants targets relay) external := by
    constructor
    · rintro ⟨e, rfl⟩
      exact blocked_of_plan hlength hcarrier haddressed.inside hkeyed hrun
    · intro hreason
      cases outcome with
      | error e => exact ⟨e, rfl⟩
      | ok plan =>
        -- a pass that succeeds has a relay that leads, and meets none of this
        obtain ⟨x, hx, hstaffed, -⟩ := staffed_pass_of_run hrun
        obtain ⟨t₁, t₂, hsurvey, hrelay⟩ := hstaffed.sighted
        obtain ⟨hsights, hmem⟩ := sights_of_survey hsurvey
        have hleads := leads_of_finds hsights hmem (finds_of_search hsurvey hrelay)
        rcases hreason with hlacks | ⟨relay, hleads', hblocked⟩
        · exact absurd hleads hlacks.not_leads
        · rw [hleads'.eq hleads] at hblocked
          exact absurd hblocked (hx.not_blocked hstaffed haddressed.inside)
  refine ⟨outcome, t', hrun, hfails, fun htargets hexternal hrelay => ?_⟩
  cases outcome with
  | ok plan => exact ⟨plan, rfl⟩
  | error e =>
    exfalso
    rcases hfails.1 ⟨e, rfl⟩ with hlacks | ⟨relay, hleads, hblocked⟩
    · obtain ⟨former, hformer, hseen⟩ := hrelay hlacks.wanted
      rw [hlacks.gone former hformer] at hseen
      cases hseen
    · refine not_blocked_of_members (fun node hnode => ?_) hexternal hblocked
      rcases mem_participants.1 hnode with hnode | rfl
      · exact htargets node hnode
      · -- the former relay leads, and is a member
        obtain ⟨former, hformer, hseen⟩ := hrelay (hleads.wanted.1 rfl)
        have hsame := hleads.preferred node rfl
        rw [preferred, hformer, Option.filter_some, if_pos hseen, Option.some_or] at hsame
        cases hsame
        exact hm.mem_of_relay hformer

/-- The grid with its hidden nodes down. -/
def dimGrid : Grid :=
  { hillyGrid with nodes := (hillyGrid.nodes.insert 2 { Node.new with down := true }).insert 3 { Node.new with down := true } }

/-- A pass over this grid that gives access from outside. -/
def dimPass (m : Mesh) (targets : List NodeId) : Checked (Except MeshError MeshPlan × Timeline Grid) :=
  plainPlanner.plan plainChance m (.ofList targets) true ⟨0, dimGrid⟩

/-- A member that has gone down is no obstacle to the next pass; a node that is down and would have to join is one. -/
theorem fails_of_dimPass : ∃ before : MeshPlan, 2 ∈ before.mesh.nodes ∧ 3 ∉ before.mesh.nodes ∧
    (∃ plan t, dimPass before.mesh [1, 2] = .ok (.ok plan, t)) ∧ ∃ e t, dimPass before.mesh [1, 3] = .ok (.error e, t) := by
  have hruns : succeeds (hillyPass hillyMesh [1, 2]) (fun before =>
      decide (before.mesh.relay = some 1) && (before.mesh.external.isSome && (before.mesh.nodes.keys = [1, 2] &&
        (kept before.mesh 1).isSome))) = true := by decide +kernel
  obtain ⟨before, t, hbefore, htest⟩ := exists_of_succeeds hruns
  simp only [Bool.and_eq_true, decide_eq_true_eq] at htest
  obtain ⟨hrelay, hexternal, hkeys, hkept⟩ := htest
  have hnodes (node : NodeId) : node ∈ before.mesh.nodes ↔ node = 1 ∨ node = 2 := by
    rw [← Std.ExtTreeMap.mem_keys, hkeys, List.mem_cons, List.mem_singleton]
  have hnew : (3 : NodeId) ∉ before.mesh.nodes := by
    rw [hnodes]
    decide
  have hseen : plainPlanner.sees dimGrid 1 = true := by decide +kernel
  have hreached : Reached (new "net" hillyMesh.range) before.mesh := .pass .start hbefore
  have hcarrier : plainPlanner.settings.carrierRange = .ok ⟨⟨100, 64, 0, 0⟩, 16⟩ := rfl
  refine ⟨before, (hnodes 2).2 (.inr rfl), hnew, ?_, ?_⟩
  · obtain ⟨outcome, t', hrun, -, hmembers⟩ :=
      hreached.fails_iff rfl hcarrier plainChance (.ofList [(1 : NodeId), 2]) true ⟨0, dimGrid⟩
    obtain ⟨plan, rfl⟩ := hmembers
      (fun node hnode => (hnodes node).2 (by simpa [Std.ExtTreeSet.mem_ofList] using hnode))
      (fun _ => Option.isSome_iff_ne_none.1 hexternal) fun _ => ⟨1, hrelay, hseen⟩
    exact ⟨plan, t', hrun⟩
  · obtain ⟨outcome, t', hrun, hfails, -⟩ :=
      hreached.fails_iff rfl hcarrier plainChance (.ofList [(1 : NodeId), 3]) true ⟨0, dimGrid⟩
    obtain ⟨m, hm⟩ := Option.isSome_iff_exists.1 hkept
    have hleads : plainPlanner.Leads dimGrid before.mesh.relay (.ofList [(1 : NodeId), 3]) true (some 1) := by
      refine ⟨iff_of_true rfl (.inl rfl), ?_⟩
      rintro _ ⟨⟩
      rw [preferred, hrelay, Option.filter_some, if_pos hseen, Option.some_or]
    have hparticipants : participants (.ofList [(1 : NodeId), 3]) (some 1) = [1] ++ 3 :: [] := by decide +kernel
    have hdown : ∀ n, dimGrid.nodes[(3 : NodeId)]? = some n → n.down = true := by
      have hthree : dimGrid.nodes[(3 : NodeId)]? = some { Node.new with down := true } := by
        rw [dimGrid, Std.ExtTreeMap.getElem?_insert_self]
      rintro n hn
      rw [hthree] at hn
      cases hn
      rfl
    obtain ⟨e, rfl⟩ := hfails.2 (.inr ⟨some 1, hleads, .node hparticipants hnew
      (.keep hm (Option.filter_eq_some_iff.1 hm).1 .done) (.unreachable hdown)⟩)
    exact ⟨e, t', hrun⟩

end Mesh

end ComputeGrid
