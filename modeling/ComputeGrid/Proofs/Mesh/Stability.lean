import ComputeGrid.Proofs.Mesh.Choices
import ComputeGrid.Proofs.Mesh.Keys

/-!
# Addresses over runs of passes

From whatever mesh a pass starts, whoever keeps a subnet has the same one, which was reserved, and whoever keeps none is
given one that was free (`Pass.Valid.held_or_free`).  So two subnets in the range have the same third octet only if both
were held before (`Pass.Valid.held_of_thirdOctet_eq`).

In a mesh that is `Addressed` everyone has a `/24` of the range of their own, which a pass preserves
(`Pass.Valid.addressed`), and in one that is `Keyed`, as a pass leaves it (`Pass.Valid.keyed`), the keys of the external
member are known.  So over any run of passes from a new mesh the addresses are unique, and members keep what they hold
from one pass to the next (`Mesh.Reached.continues`).
-/

namespace ComputeGrid

/-! ### What is kept -/

namespace Mesh

/-- The private key of the external member is known, and its public key is that of the private one. -/
def Keyed (m : Mesh) : Prop :=
  ∀ e, m.external = some e →
    ∃ outside : MeshPlan.External, e = outside.member ∧ KeyPair.ofPrivate outside.keys.privateKey = .ok outside.keys

/-- What one pass keeps of a mesh: everyone who is still there holds what they held. -/
structure Keeps (before after : Mesh) : Prop where
  nodes : ∀ (node : NodeId) m m', before.nodes[node]? = some m → after.nodes[node]? = some m' → m' = m
  external : ∀ e e', before.external = some e → after.external = some e' → e' = e

end Mesh

namespace Planner

variable {p : Planner} {chance : Chance} {previous : Mesh} {targets : Std.ExtTreeSet NodeId} {external : Bool}
  {t t' : Timeline Grid} {x : Pass} {s left : Subnets} {n k : Ipv4Network} {nodes : List NodeId} {node : NodeId}
  {who other : Option NodeId}

/-! ### What is held and what is reserved -/

/-- The subnet that someone who takes part keeps: the external member whatever it held, a node only a subnet in the range. -/
def keptSubnet (previous : Mesh) : Option NodeId → Option Ipv4Network
  | some node => (kept previous node).map (·.subnet)
  | none => previous.external.map (·.subnet)

theorem subnetOf_of_keptSubnet (h : keptSubnet previous who = some n) : previous.subnetOf who = some n := by
  cases who with
  | some node =>
    obtain ⟨m, hm, rfl⟩ := Option.map_eq_some_iff.1 h
    rw [Mesh.subnetOf, (Option.filter_eq_some_iff.1 hm).1, Option.map_some]
  | none => exact h

theorem kept_of_inside (h : previous.Inside) : kept previous node = previous.nodes[node]? := by
  unfold kept
  cases hm : previous.nodes[node]? with
  | none => rfl
  | some m =>
    have hwithin := h (some node) m.subnet (by rw [Mesh.subnetOf, hm, Option.map_some])
    rw [Option.filter_some, if_pos hwithin]

/-- What is free when everyone's subnets are reserved has another third octet than the subnet of a participant or of the
external member, if that is in the range. -/
theorem ne_of_reserveHeld (hs : s.Over previous.range) (hn : (reserveHeld previous nodes s).Free n)
    (hk : previous.subnetOf who = some k) (hwho : ∀ node, who = some node → node ∈ nodes)
    (hwithin : previous.range.contains k = true) : n.thirdOctet ≠ k.thirdOctet := by
  apply (Subnets.free_of_foldl_reserve hs hn).2 k _ hwithin
  rw [List.mem_append]
  cases who with
  | some node => exact .inl (List.mem_filterMap.2 ⟨node, hwho node rfl, hk⟩)
  | none =>
    rw [Mesh.subnetOf] at hk
    rw [hk]
    exact .inr List.mem_cons_self

/-! ### The external member -/

theorem chooseExternal_member {outside : MeshPlan.External}
    (h : KeyPair.ofPrivate outside.keys.privateKey = .ok outside.keys) :
    chooseExternal chance (some outside.member) s = .ok (outside, s) := by
  simp only [chooseExternal, MeshPlan.External.member, Option.map_some, h]
  rfl

/-- An external member that there was has the subnet that it had, and the keys of its private key. -/
theorem chooseExternal_some_eq_ok {e : ExternalMember} {o : MeshPlan.External}
    (h : chooseExternal chance (some e) s = .ok (o, left)) :
    o.subnet = e.subnet ∧ KeyPair.ofPrivate o.keys.privateKey = .ok o.keys ∧ left = s := by
  rw [chooseExternal] at h
  cases hprivate : e.privateKey with
  | none =>
    rw [hprivate] at h
    cases h
    exact ⟨rfl, chance.ofPrivate_keys none, rfl⟩
  | some privateKey =>
    rw [hprivate] at h
    cases hkeys : KeyPair.ofPrivate privateKey with
    | error flaw =>
      simp only [Option.map_some, hkeys] at h
      cases h
    | ok keys =>
      simp only [Option.map_some, hkeys] at h
      cases h
      exact ⟨rfl, KeyPair.ofPrivate_privateKey hkeys, rfl⟩

theorem chooseExternal_none_eq_ok {e : MeshPlan.External} (h : chooseExternal chance none s = .ok (e, left)) :
    s.allocate = (some e.subnet, left) ∧ e.keys = chance.keys none := by
  rw [chooseExternal, Checked.bind_eq_ok] at h
  obtain ⟨⟨subnet, s'⟩, hsubnet, h⟩ := h
  rw [Checked.pure_eq_ok] at h
  cases h
  exact ⟨allocate_eq_ok hsubnet, rfl⟩

theorem outsideFor_eq_ok {e : Option ExternalMember} {outside : Option MeshPlan.External}
    (h : outsideFor chance e external s = .ok (outside, left)) :
    (external = false ∧ outside = none ∧ left = s) ∨
      external = true ∧ ∃ o, outside = some o ∧ chooseExternal chance e s = .ok (o, left) := by
  cases external with
  | false =>
    rw [outsideFor, if_neg Bool.false_ne_true, Checked.pure_eq_ok] at h
    cases h
    exact .inl ⟨rfl, rfl, rfl⟩
  | true =>
    rw [outsideFor, if_pos rfl, Checked.bind_eq_ok] at h
    obtain ⟨⟨o, left'⟩, ho, h⟩ := h
    rw [Checked.pure_eq_ok] at h
    cases h
    exact .inr ⟨rfl, o, rfl, ho⟩

/-! ### One pass -/

namespace Pass.Valid

variable (hx : x.Valid p chance previous targets external t)
include hx

theorem start_over : x.start.Over previous.range := by
  have hranges := hx.ranges
  unfold Planner.ranges at hranges
  split at hranges
  · cases hranges
  · split at hranges
    next s hs =>
      cases hranges
      exact Subnets.over_of_of? hs
    · cases hranges

theorem unheld_over : (x.unheld previous targets).Over previous.range := hx.start_over.foldl_reserve

theorem of_old_external {e : ExternalMember} {o : MeshPlan.External} (hold : previous.external = some e)
    (ho : x.outside = some o) :
    o.subnet = e.subnet ∧ KeyPair.ofPrivate o.keys.privateKey = .ok o.keys ∧ x.left = x.unheld previous targets := by
  rcases outsideFor_eq_ok hx.outside with ⟨-, hnone, -⟩ | ⟨-, o', houtside, hchoose⟩
  · rw [hnone] at ho
    cases ho
  · rw [houtside] at ho
    cases ho
    rw [hold] at hchoose
    exact chooseExternal_some_eq_ok hchoose

theorem of_keyed_external (hkeyed : previous.Keyed) {e : ExternalMember} {o : MeshPlan.External}
    (hold : previous.external = some e) (ho : x.outside = some o) : o.member = e := by
  obtain ⟨o', rfl, hkeys⟩ := hkeyed e hold
  rcases outsideFor_eq_ok hx.outside with ⟨-, hnone, -⟩ | ⟨-, o'', houtside, hchoose⟩
  · rw [hnone] at ho
    cases ho
  · rw [houtside] at ho
    cases ho
    rw [hold, chooseExternal_member hkeys] at hchoose
    obtain ⟨rfl, -⟩ := Prod.mk.inj (Except.ok.inj hchoose)
    rfl

theorem of_new_external {o : MeshPlan.External} (hold : previous.external = none) (ho : x.outside = some o) :
    o.keys = chance.keys none ∧ (x.unheld previous targets).allocate = (some o.subnet, x.left) := by
  rcases outsideFor_eq_ok hx.outside with ⟨-, hnone, -⟩ | ⟨-, o', houtside, hchoose⟩
  · rw [hnone] at ho
    cases ho
  · rw [houtside] at ho
    cases ho
    rw [hold] at hchoose
    obtain ⟨hallocate, hkeys⟩ := chooseExternal_none_eq_ok hchoose
    exact ⟨hkeys, hallocate⟩

/-- What is free for the members was free before there was an external member. -/
theorem free_of_left :
    x.left.Over previous.range ∧
      ∀ n, x.left.Free n → (x.unheld previous targets).Free n := by
  have hover := hx.unheld_over
  rcases outsideFor_eq_ok hx.outside with ⟨-, -, hleft⟩ | ⟨-, o, ho, -⟩
  · rw [hleft]
    exact ⟨hover, fun _ hn => hn⟩
  · cases hold : previous.external with
    | some e =>
      rw [(hx.of_old_external hold ho).2.2]
      exact ⟨hover, fun _ hn => hn⟩
    | none =>
      obtain ⟨hleft, -, hlater⟩ := Subnets.free_of_allocate hover (hx.of_new_external hold ho).2
      exact ⟨hleft, fun n hn => (hlater n hn).1⟩

/-- Every participant is a member, and no other node is. -/
theorem mem_members : node ∈ x.members ↔ node ∈ x.nodes targets :=
  hx.members.mem_iff hx.free_of_left.1

section Members

variable {m m' : Member}

theorem eq_of_old_node (hkept : kept previous node = some m) (hm : x.members[node]? = some m') : m' = m := by
  have hnode := hx.mem_members.1 (mem_iff_exists_getElem?.2 ⟨m', hm⟩)
  have heq := hx.members.of_kept hnode hkept
  rw [hm] at heq
  exact Option.some.inj heq

theorem of_new_node (hkept : kept previous node = none) (hm : x.members[node]? = some m) :
    node ∈ x.nodes targets ∧ x.left.Free m.subnet := by
  have hnode := hx.mem_members.1 (mem_iff_exists_getElem?.2 ⟨m, hm⟩)
  obtain ⟨m', hm', hfree⟩ := hx.members.of_new hx.free_of_left.1 hnode hkept
  rw [hm] at hm'
  cases hm'
  exact ⟨hnode, hfree⟩

end Members

/-- Everyone in the new mesh has the subnet that they keep, or one that was free if they keep none.  What is kept is not free
if it is in the range. -/
theorem held_or_free {keepalive : UInt32} (h : (x.plan previous keepalive).mesh.subnetOf who = some n) :
    keptSubnet previous who = some n ∧
        (previous.range.contains n = true → ∀ f, (x.unheld previous targets).Free f → f.thirdOctet ≠ n.thirdOctet) ∨
      keptSubnet previous who = none ∧ (x.unheld previous targets).Free n := by
  cases who with
  | some node =>
    obtain ⟨m, hm, rfl⟩ := Option.map_eq_some_iff.1 h
    have hnode := hx.mem_members.1 (mem_iff_exists_getElem?.2 ⟨m, hm⟩)
    cases hkept : kept previous node with
    | some m' =>
      have heq := hx.eq_of_old_node hkept hm
      subst heq
      have hsubnet : keptSubnet previous (some node) = some m.subnet := by rw [keptSubnet, hkept, Option.map_some]
      refine .inl ⟨hsubnet, fun hwithin f hf => ?_⟩
      refine ne_of_reserveHeld hx.start_over hf (subnetOf_of_keptSubnet hsubnet) ?_ hwithin
      rintro _ ⟨⟩
      exact hnode
    | none =>
      refine .inr ⟨?_, hx.free_of_left.2 _ (hx.of_new_node hkept hm).2⟩
      rw [keptSubnet, hkept, Option.map_none]
  | none =>
    obtain ⟨e, he, rfl⟩ := Option.map_eq_some_iff.1 h
    obtain ⟨o, ho, rfl⟩ := Option.map_eq_some_iff.1 he
    cases hold : previous.external with
    | some e =>
      have hsubnet : keptSubnet previous none = some o.subnet := by
        rw [keptSubnet, hold, Option.map_some, (hx.of_old_external hold ho).1]
      exact .inl ⟨hsubnet, fun hwithin f hf =>
        ne_of_reserveHeld hx.start_over hf (subnetOf_of_keptSubnet hsubnet) nofun hwithin⟩
    | none =>
      have hallocate := (hx.of_new_external hold ho).2
      refine .inr ⟨?_, (Subnets.free_of_allocate hx.unheld_over hallocate).2.1⟩
      rw [keptSubnet, hold, Option.map_none]

/-- A node and the external member that are both new are given different subnets. -/
theorem apart_external {m : Member} {o : MeshPlan.External} (hkept : kept previous node = none)
    (hexternal : previous.external = none) (hm : x.members[node]? = some m) (ho : x.outside = some o) :
    m.subnet.thirdOctet ≠ o.subnet.thirdOctet := by
  have hfree := (hx.of_new_node hkept hm).2
  have hallocate := (hx.of_new_external hexternal ho).2
  exact ((Subnets.free_of_allocate hx.unheld_over hallocate).2.2 _ hfree).2

/-- Two that keep no subnet are given different ones. -/
theorem apart {keepalive : UInt32} (hne : who ≠ other) (hwho : keptSubnet previous who = none)
    (hother : keptSubnet previous other = none) (hn : (x.plan previous keepalive).mesh.subnetOf who = some n)
    (hk : (x.plan previous keepalive).mesh.subnetOf other = some k) : n.thirdOctet ≠ k.thirdOctet := by
  cases who with
  | some a =>
    obtain ⟨m, hm, rfl⟩ := Option.map_eq_some_iff.1 hn
    have ha := Option.map_eq_none_iff.1 hwho
    cases other with
    | some b =>
      obtain ⟨m', hm', rfl⟩ := Option.map_eq_some_iff.1 hk
      have hb := Option.map_eq_none_iff.1 hother
      have hab : a ≠ b := fun heq => hne (congrArg some heq)
      exact hx.members.apart hx.free_of_left.1 hab (hx.of_new_node ha hm).1 (hx.of_new_node hb hm').1 ha hb hm hm'
    | none =>
      obtain ⟨e, he, rfl⟩ := Option.map_eq_some_iff.1 hk
      obtain ⟨o, ho, rfl⟩ := Option.map_eq_some_iff.1 he
      exact hx.apart_external ha (Option.map_eq_none_iff.1 hother) hm ho
  | none =>
    obtain ⟨e, he, rfl⟩ := Option.map_eq_some_iff.1 hn
    obtain ⟨o, ho, rfl⟩ := Option.map_eq_some_iff.1 he
    cases other with
    | some b =>
      obtain ⟨m', hm', rfl⟩ := Option.map_eq_some_iff.1 hk
      exact (hx.apart_external (Option.map_eq_none_iff.1 hother) (Option.map_eq_none_iff.1 hwho) hm' ho).symm
    | none => exact absurd rfl hne

/-! ### What a pass preserves -/

/-- Two subnets in the range have the same third octet only if both were held before: what is held is not given to anyone
new, and two new ones are given theirs in turn. -/
theorem held_of_thirdOctet_eq {keepalive : UInt32} (hne : who ≠ other)
    (hn : (x.plan previous keepalive).mesh.subnetOf who = some n)
    (hk : (x.plan previous keepalive).mesh.subnetOf other = some k) (hwithin : previous.range.contains n = true)
    (hwithin' : previous.range.contains k = true) (heq : n.thirdOctet = k.thirdOctet) :
    previous.subnetOf who = some n ∧ previous.subnetOf other = some k := by
  rcases hx.held_or_free hn with ⟨hold, hheld⟩ | ⟨hnew, hfree⟩
  · rcases hx.held_or_free hk with ⟨hold', -⟩ | ⟨-, hfree'⟩
    · exact ⟨subnetOf_of_keptSubnet hold, subnetOf_of_keptSubnet hold'⟩
    · exact absurd heq.symm (hheld hwithin k hfree')
  · rcases hx.held_or_free hk with ⟨-, hheld'⟩ | ⟨hnew', -⟩
    · exact absurd heq (hheld' hwithin' n hfree)
    · exact absurd heq (hx.apart hne hnew hnew' hn hk)

/-- Everyone's subnet is in the range, unless the external member has kept one that is not. -/
theorem contains_or_stray {keepalive : UInt32} (h : (x.plan previous keepalive).mesh.subnetOf who = some n) :
    previous.range.contains n = true ∨ previous.Stray who n := by
  rcases hx.held_or_free h with ⟨hold, -⟩ | ⟨-, hfree⟩
  · cases who with
    | some node =>
      obtain ⟨m, hm, rfl⟩ := Option.map_eq_some_iff.1 hold
      exact .inl (Option.filter_eq_some_iff.1 hm).2
    | none =>
      cases hwithin : previous.range.contains n with
      | true => exact .inl rfl
      | false => exact .inr ⟨rfl, hold, hwithin⟩
  · exact .inl (hfree.slot hx.unheld_over).within

theorem inside (hinside : previous.Inside) (keepalive : UInt32) : (x.plan previous keepalive).mesh.Inside := by
  intro who n h
  rcases hx.contains_or_stray h with hwithin | ⟨-, hold, -⟩
  · exact hwithin
  · exact hinside none n hold

/-- Two with the same subnet both held it before. -/
theorem distinct (hapart : previous.Apart) (keepalive : UInt32) : (x.plan previous keepalive).mesh.Apart := by
  intro who other n h h'
  refine Classical.byContradiction fun hne => ?_
  rcases hx.contains_or_stray h with hwithin | ⟨rfl, -, houtside⟩
  · obtain ⟨hold, hold'⟩ := hx.held_of_thirdOctet_eq hne h h' hwithin hwithin rfl
    exact hne (hapart who other n hold hold')
  · -- nobody but the external member has a subnet outside the range
    rcases hx.contains_or_stray h' with hwithin | ⟨rfl, -, -⟩
    · rw [houtside] at hwithin
      cases hwithin
    · exact hne rfl

theorem addressed (haddressed : previous.Addressed) (keepalive : UInt32) :
    (x.plan previous keepalive).mesh.Addressed := by
  constructor
  case slot =>
    intro who n h
    rcases hx.held_or_free h with ⟨hold, -⟩ | ⟨-, hfree⟩
    · exact haddressed.slot who n (subnetOf_of_keptSubnet hold)
    · exact hfree.slot hx.unheld_over
  case distinct => exact hx.distinct haddressed.distinct keepalive

/-- Whatever was known of the external member before, it has the keys of its private key now. -/
theorem keys_outside {o : MeshPlan.External} (ho : x.outside = some o) :
    KeyPair.ofPrivate o.keys.privateKey = .ok o.keys := by
  cases hold : previous.external with
  | some e => exact (hx.of_old_external hold ho).2.1
  | none =>
    rw [(hx.of_new_external hold ho).1]
    exact chance.ofPrivate_keys none

/-- If the nodes had keys that belong together, the members have. -/
theorem keyed_members (hnodes : ∀ (node : NodeId) m, previous.nodes[node]? = some m → m.Keyed) :
    ∀ (node : NodeId) m, x.members[node]? = some m → m.Keyed := by
  apply hx.members.forall_members (P := Member.Keyed)
  · intro node m hm
    rw [kept, Option.filter_eq_some_iff] at hm
    exact hnodes node m hm.1
  · intro node subnet chosen m t t' hrun
    obtain ⟨port, rfl⟩ := newMember_eq_ok hrun
    exact chance.ofPrivate_keys (some node)
  · intro node m hm
    rw [Std.ExtTreeMap.getElem?_empty] at hm
    cases hm

theorem keyed (keepalive : UInt32) : (x.plan previous keepalive).mesh.Keyed := by
  intro e he
  obtain ⟨o, ho, rfl⟩ := Option.map_eq_some_iff.1 he
  exact ⟨o, rfl, hx.keys_outside ho⟩

theorem keeps (haddressed : previous.Addressed) (hkeyed : previous.Keyed) (keepalive : UInt32) :
    previous.Keeps (x.plan previous keepalive).mesh := by
  constructor
  case nodes =>
    intro node m m' hm hm'
    exact hx.eq_of_old_node ((kept_of_inside haddressed.inside).trans hm) hm'
  case external =>
    intro e e' he he'
    obtain ⟨o, ho, rfl⟩ := Option.map_eq_some_iff.1 he'
    exact hx.of_keyed_external hkeyed he ho

end Pass.Valid

end Planner

/-! ### Runs of passes -/

namespace Mesh

/-- The meshes that passes lead to, one after another, whatever is wanted, found and drawn in each. -/
inductive Reached (first : Mesh) : Mesh → Prop
  | start : Reached first first
  | pass {m : Mesh} {p : Planner} {chance : Chance} {targets : Std.ExtTreeSet NodeId} {external : Bool} {plan : MeshPlan}
      {t t' : Timeline Grid} (before : Reached first m)
      (run : p.plan chance m targets external t = .ok (.ok plan, t')) : Reached first plan.mesh

/-- What a pass over targets makes of a mesh. -/
structure Continues (before : Mesh) (targets : Std.ExtTreeSet NodeId) (plan : MeshPlan) : Prop where
  addressed : plan.mesh.Addressed
  keeps : before.Keeps plan.mesh
  nodes : ∀ node, node ∈ plan.mesh.nodes ↔ node ∈ targets ∨ plan.mesh.relay = some node
  removed : ∀ node, node ∈ plan.removed ↔ node ∈ before.nodes ∧ node ∉ plan.mesh.nodes
  nodup_removed : plan.removed.Nodup

variable {name : String} {range : Ipv4Network} {m : Mesh} {p : Planner} {chance : Chance}
  {targets : Std.ExtTreeSet NodeId} {external : Bool} {plan : MeshPlan} {t t' : Timeline Grid}

theorem subnetOf_new (who : Option NodeId) : (new name range).subnetOf who = none := by
  cases who with
  | some node => rw [subnetOf, new, Std.ExtTreeMap.getElem?_empty, Option.map_none]
  | none => rfl

theorem addressed_new : (new name range).Addressed := by
  constructor
  case slot =>
    intro who n h
    rw [subnetOf_new] at h
    cases h
  case distinct =>
    intro who other n h
    rw [subnetOf_new] at h
    cases h

/-- Whatever passes lead to has addresses and keys. -/
theorem Reached.sound (h : Reached (new name range) m) : m.range = range ∧ m.Addressed ∧ m.Keyed := by
  induction h with
  | start => exact ⟨rfl, addressed_new, nofun⟩
  | pass _ run ih =>
    obtain ⟨hrange, haddressed, -⟩ := ih
    obtain ⟨x, hx, rfl⟩ := Planner.pass_of_run run
    exact ⟨hrange, hx.addressed haddressed _, hx.keyed _⟩

/-- The keys of every node that passes lead to belong together. -/
theorem Reached.keyed_nodes (h : Reached (new name range) m) :
    ∀ (node : NodeId) member, m.nodes[node]? = some member → member.Keyed := by
  induction h with
  | start =>
    intro node member hmember
    rw [new, Std.ExtTreeMap.getElem?_empty] at hmember
    cases hmember
  | pass _ run ih =>
    obtain ⟨x, hx, rfl⟩ := Planner.pass_of_run run
    exact hx.keyed_members ih

/-- However passes have led from a new mesh to this one, the next that succeeds continues it: everyone has a `/24` of the
range of their own, whoever stays keeps what they hold, the nodes are the targets and the relay, and the nodes that are
no longer among them are removed. -/
theorem Reached.continues (hm : Reached (new name range) m)
    (run : p.plan chance m targets external t = .ok (.ok plan, t')) :
    plan.mesh.range = range ∧ m.Continues targets plan := by
  obtain ⟨hrange, haddressed, hkeyed⟩ := hm.sound
  obtain ⟨x, hx, rfl⟩ := Planner.pass_of_run run
  refine ⟨hrange, {
    addressed := hx.addressed haddressed _
    keeps := hx.keeps haddressed hkeyed _
    nodes := ?nodes
    removed := ?removed
    nodup_removed := ?nodup }⟩
  case nodes =>
    intro node
    exact hx.mem_members.trans Planner.mem_participants
  case removed =>
    intro node
    show node ∈ m.nodes.keys.filter (fun node => !x.members.contains node) ↔ node ∈ m.nodes ∧ node ∉ x.members
    rw [List.mem_filter, Std.ExtTreeMap.mem_keys, Bool.not_eq_true', ← Bool.not_eq_true, Std.ExtTreeMap.contains_iff_mem]
  case nodup =>
    have hkeys : m.nodes.keys.Nodup := nodup_keys m.nodes
    exact hkeys.filter _

end Mesh

/-! ### A run of two passes -/

namespace Planner

/-- Secrets that are all the same, and ports in order. -/
def plainChance : Chance where
  secret _ := List.replicate 32 7
  length_secret _ := rfl
  port _ i := i

/-- Plans with the standard settings, without an inventory. -/
def plainPlanner : Planner := ⟨.standard, ⟨10000000000⟩, false⟩

/-- A grid with a node that has a public address and two that are hidden. -/
def hillyGrid : Grid where
  ledger := .new 7
  nodes := .ofList [((1 : NodeId), { Node.new with publicConfig := some { PublicConfig.empty with
      ipv4 := some ⟨⟨185, 206, 122, 31⟩, 24⟩ } }), (2, .new), (3, .new)]
  calls := []
  attached := false
  inventory := none

/-- The mesh that is planned over it. -/
def hillyMesh : Mesh := .new "net" ⟨⟨10, 20, 0, 0⟩, 16⟩

/-- A pass over nodes of this grid that gives access from outside. -/
def hillyPass (m : Mesh) (targets : List NodeId) : Checked (Except MeshError MeshPlan × Timeline Grid) :=
  plainPlanner.plan plainChance m (.ofList targets) true ⟨0, hillyGrid⟩

/-- A pass succeeds with a plan that passes a test. -/
def succeeds (run : Checked (Except MeshError MeshPlan × Timeline Grid)) (test : MeshPlan → Bool) : Bool :=
  Checked.passes run fun r => Checked.passes r.1 test

theorem exists_of_succeeds {run : Checked (Except MeshError MeshPlan × Timeline Grid)} {test : MeshPlan → Bool}
    (h : succeeds run test = true) : ∃ plan t, run = .ok (.ok plan, t) ∧ test plan = true := by
  obtain ⟨⟨r, t⟩, hrun, h⟩ := Checked.exists_of_passes h
  obtain ⟨plan, rfl, htest⟩ := Checked.exists_of_passes h
  exact ⟨plan, t, hrun, htest⟩

end Planner

/-- The first pass is over two nodes; then one of them leaves, another one joins, and the relay stays though it is no
target. -/
theorem Mesh.continues_of_hillyPass : ∃ before plan : MeshPlan, plan.removed = [2] ∧
    plan.mesh.range = Planner.hillyMesh.range ∧ before.mesh.Continues (.ofList [(3 : NodeId)]) plan := by
  have hruns : Planner.succeeds (Planner.hillyPass Planner.hillyMesh [1, 2]) (fun before =>
      Planner.succeeds (Planner.hillyPass before.mesh [3]) fun plan => plan.removed = [2]) = true := by decide +kernel
  obtain ⟨before, t, hbefore, hrest⟩ := Planner.exists_of_succeeds hruns
  obtain ⟨plan, t', hplan, hremoved⟩ := Planner.exists_of_succeeds hrest
  obtain ⟨hrange, hcontinues⟩ := Reached.continues (.pass .start hbefore) hplan
  exact ⟨before, plan, of_decide_eq_true hremoved, hrange, hcontinues⟩

end ComputeGrid
