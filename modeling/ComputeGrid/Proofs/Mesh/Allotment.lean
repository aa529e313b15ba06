import ComputeGrid.Proofs.Mesh.Carriers

/-!
# Subnets that passes give

Every subnet of a plan is inside the range, but for one that the external member has kept (`Planner.inside_iff_of_plan`).

Octets are handed out in order.  The ones that are left are the `Subnets.openings`, of which `Subnets.allocate` takes the
first (`openings_of_allocate`).  So those who join one after another get the first of them (`Chooses.map_subnetOf`), the
external member before the nodes (`Pass.Valid.map_subnetOf`).  In a mesh that passes lead to, the octets that are left
are the `Mesh.vacant` ones: those of nodes that leave are among them.  Hence the subnet of such a node is handed out again
if its octet is one of as many as there are newcomers (`Mesh.Reached.reuses_iff`).
-/

namespace ComputeGrid

/-! ### Inside the range -/

namespace Planner

variable {p : Planner} {chance : Chance} {previous : Mesh} {targets : Std.ExtTreeSet NodeId} {external : Bool}
  {t t' : Timeline Grid} {x : Pass} {plan : MeshPlan}

/-- An external member that is wanted and was there before has the subnet that it had. -/
theorem Pass.Valid.subnetOf_old_external (hx : x.Valid p chance previous targets external t) (hwanted : external = true)
    {e : ExternalMember} (hold : previous.external = some e) (keepalive : UInt32) :
    (x.plan previous keepalive).mesh.subnetOf none = some e.subnet := by
  rcases outsideFor_eq_ok hx.outside with ⟨hfalse, -, -⟩ | ⟨-, o, ho, -⟩
  · rw [hwanted] at hfalse
    cases hfalse
  · show (x.outside.map (·.member)).map (·.subnet) = some e.subnet
    rw [ho, ← (hx.of_old_external hold ho).1]
    rfl

/-- From whatever mesh a pass starts, it gives every node a subnet in the range, and everyone unless access from outside is
wanted and the external member had a subnet outside the range before. -/
theorem inside_iff_of_plan (run : p.plan chance previous targets external t = .ok (.ok plan, t')) :
    plan.mesh.range = previous.range ∧
    (∀ node n, plan.mesh.subnetOf (some node) = some n → previous.range.contains n = true) ∧
    (plan.mesh.Inside ↔
      ¬ (external = true ∧ ∃ e, previous.external = some e ∧ previous.range.contains e.subnet = false)) := by
  obtain ⟨x, hx, rfl⟩ := pass_of_run run
  refine ⟨rfl, ?nodes, ?kept, ?repaired⟩
  case nodes =>
    intro node n hn
    refine (hx.contains_or_stray hn).resolve_right ?_
    rintro ⟨⟨⟩, -⟩
  case kept =>
    rintro hinside ⟨hwanted, e, hold, houtside⟩
    have hwithin := hinside none e.subnet (hx.subnetOf_old_external hwanted hold _)
    rw [show (x.plan previous p.settings.keepalive).mesh.range = previous.range from rfl, houtside] at hwithin
    cases hwithin
  case repaired =>
    intro hkept who n hn
    refine (hx.contains_or_stray hn).resolve_right ?_
    rintro ⟨rfl, hstray, houtside⟩
    obtain ⟨e, hold, rfl⟩ := Option.map_eq_some_iff.1 hstray
    refine hkept ⟨?_, e, hold, houtside⟩
    -- without access from outside there would be no external member
    cases external with
    | true => rfl
    | false =>
      rcases outsideFor_eq_ok hx.outside with ⟨-, hnone, -⟩ | ⟨⟨⟩, -⟩
      have hmember : (x.outside.map (·.member)).map (·.subnet) = some e.subnet := hn
      rw [hnone] at hmember
      cases hmember

/-- A mesh whose external member holds a subnet outside the range. -/
def strayMesh : Mesh := { hillyMesh with external := some ⟨firstSubnet 11 20, "p0", none⟩ }

/-- An external member that keeps a subnet outside the range, and a node whose subnet is inside. -/
theorem not_inside_of_strayMesh : ∃ (plan : MeshPlan) (n : Ipv4Network), plan.mesh.subnetOf (some 1) = some n ∧
    strayMesh.range.contains n = true ∧ ¬ plan.mesh.Inside := by
  have hrun : succeeds (hillyPass strayMesh [1]) (fun plan => (plan.mesh.subnetOf (some 1)).isSome) = true := by
    decide +kernel
  obtain ⟨plan, t, hplan, hsome⟩ := exists_of_succeeds hrun
  obtain ⟨n, hn⟩ := Option.isSome_iff_exists.1 hsome
  obtain ⟨-, hnodes, hinside⟩ := inside_iff_of_plan hplan
  refine ⟨plan, n, hn, hnodes 1 n hn, fun h => hinside.1 h ⟨rfl, _, rfl, ?_⟩⟩
  decide +kernel

end Planner

/-! ### The subnet of an octet -/

/-- The `/24` of a range with a third octet. -/
def Ipv4Network.subnetAt (range : Ipv4Network) (octet : Nat) : Ipv4Network :=
  Subnets.subnet ⟨range.truncate, ∅, Subnets.firstOctet⟩ octet

namespace Subnets

variable {range n : Ipv4Network} {s s' : Subnets} {taken : Std.ExtTreeSet UInt8} {held : List Ipv4Network}

theorem Over.subnet_eq (h : Over range s) (octet : Nat) : s.subnet octet = range.subnetAt octet := by
  rw [Ipv4Network.subnetAt, subnet, subnet, h.range_eq]

theorem thirdOctet_subnetAt (range : Ipv4Network) (octet : Nat) : (range.subnetAt octet).thirdOctet = octet.toUInt8 :=
  thirdOctet_subnet _ octet

theorem toNat_toUInt8 {octet : Nat} (h : octet < lastOctet) : octet.toUInt8.toNat = octet := by
  have hlast : octet < 255 := h
  rw [Nat.toUInt8_eq, UInt8.toNat_ofNat']
  omega

/-- What is handed out is the subnet of its own third octet. -/
theorem Free.eq_subnetAt (hs : Over range s) (h : Free s n) : n = range.subnetAt n.thirdOctet.toNat := by
  obtain ⟨octet, -, hlast, -, rfl⟩ := h
  rw [thirdOctet_subnet, toNat_toUInt8 hlast, hs.subnet_eq]

/-! ### The order of handing out -/

/-- The octets that are left, in the order in which they are handed out. -/
def openings (s : Subnets) : List Nat :=
  (List.range' s.next (lastOctet - s.next)).filter fun octet => octet.toUInt8 ∉ s.taken

/-- The search passes over the octets that are taken and stops at the first that is not. -/
theorem filter_of_search {left octet found : Nat} (h : search taken left octet = some found) :
    (List.range' octet left).filter (fun octet => octet.toUInt8 ∉ taken) =
      found :: (List.range' (found + 1) (octet + left - (found + 1))).filter fun octet => octet.toUInt8 ∉ taken := by
  induction left generalizing octet with
  | zero => cases h
  | succ left ih =>
    rw [search] at h
    rw [List.range'_succ, List.filter_cons]
    split at h
    next htaken =>
      rw [if_neg (by simpa using htaken), ih h, show octet + 1 + left = octet + (left + 1) by omega]
    next hfree =>
      cases h
      rw [if_pos (by simpa using hfree), show found + (left + 1) - (found + 1) = left by omega]

/-- What is handed out is the subnet of the first octet that is left. -/
theorem openings_of_allocate (h : s.allocate = (some n, s')) :
    ∃ octet, s.openings = octet :: s'.openings ∧ n = s.subnet octet ∧ s'.range = s.range := by
  unfold allocate at h
  split at h
  next octet hsearch =>
    obtain ⟨hlow, hhigh, -⟩ := search_eq_some hsearch
    have hlast : s.next + (lastOctet - s.next) = lastOctet := by omega
    cases h
    refine ⟨octet, ?_, rfl, rfl⟩
    rw [openings, filter_of_search hsearch, hlast, openings]
    congr 1
    -- the octets after the one that is taken now are others
    refine List.filter_congr fun other hother => ?_
    rw [List.mem_range'_1] at hother
    rw [decide_eq_decide, Std.ExtTreeSet.mem_insert, not_or, Std.compare_eq_iff_eq]
    refine (and_iff_right fun heq => ?_).symm
    have hlow' := toNat_toUInt8 (show octet < lastOctet by omega)
    have hhigh' := toNat_toUInt8 (show other < lastOctet by omega)
    rw [heq] at hlow'
    omega
  · cases h

theorem filter_of_search_eq_none {left octet : Nat} (h : search taken left octet = none) :
    (List.range' octet left).filter (fun octet => octet.toUInt8 ∉ taken) = [] := by
  induction left generalizing octet with
  | zero => rfl
  | succ left ih =>
    rw [search] at h
    split at h
    next htaken => rw [List.range'_succ, List.filter_cons, if_neg (by simpa using htaken), ih h]
    · cases h

/-- Nothing is handed out only if no octet is left. -/
theorem openings_of_allocate_none (h : s.allocate = (none, s')) : s.openings = [] := by
  unfold allocate at h
  split at h
  · cases h
  next hsearch => exact filter_of_search_eq_none hsearch

/-- Reserving takes the octets of networks in the range. -/
theorem mem_taken_foldl_reserve (hs : Over range s) (octet : UInt8) :
    octet ∈ (held.foldl reserve s).taken ↔
      octet ∈ s.taken ∨ ∃ k ∈ held, range.contains k = true ∧ k.thirdOctet = octet := by
  induction held generalizing s with
  | nil => simp
  | cons k held ih =>
    rw [List.foldl_cons, ih (hs.reserve k)]
    have hreserve : octet ∈ (s.reserve k).taken ↔ octet ∈ s.taken ∨ range.contains k = true ∧ k.thirdOctet = octet := by
      rw [← hs.contains, reserve]
      split
      next hin => simp [hin, or_comm]
      next hout => simp [hout]
    simp only [hreserve, List.mem_cons, exists_eq_or_imp, or_assoc]

theorem next_foldl_reserve : (held.foldl reserve s).next = s.next := by
  induction held generalizing s with
  | nil => rfl
  | cons k held ih =>
    rw [List.foldl_cons, ih, reserve]
    split
    · rfl
    · rfl

end Subnets

/-! ### Who joins and what is left -/

namespace Mesh

/-- Everyone in a mesh, the external member first. -/
def everyone (m : Mesh) : List (Option NodeId) := (m.external.map fun _ => none).toList ++ m.nodes.keys.map some

/-- Those who are in a mesh and were not in the one before. -/
def newcomers (before after : Mesh) : List (Option NodeId) := after.everyone.filter fun who => who ∉ before.everyone

/-- Someone of a mesh is heeded when another takes its place: the external member, and a node that stays. -/
def Heeded (after : Mesh) (who : Option NodeId) : Prop := who = none ∨ who ∈ after.everyone

instance (after : Mesh) (who : Option NodeId) : Decidable (after.Heeded who) := inferInstanceAs (Decidable (_ ∨ _))

/-- Nobody who is heeded has an octet. -/
def Spares (before after : Mesh) (octet : Nat) : Prop :=
  ∀ who ∈ before.everyone, after.Heeded who → (before.subnetOf who).map (·.thirdOctet) ≠ some octet.toUInt8

-- decided over those who are in the mesh, and not over all numbers of nodes
instance (before after : Mesh) (octet : Nat) : Decidable (before.Spares after octet) :=
  List.decidableBAll (fun who => after.Heeded who → (before.subnetOf who).map (·.thirdOctet) ≠ some octet.toUInt8) _

/-- The octets of a range that nobody who is heeded has, in order. -/
def vacant (before after : Mesh) : List Nat :=
  (List.range' Subnets.firstOctet (Subnets.lastOctet - Subnets.firstOctet)).filter fun octet => before.Spares after octet

variable {m : Mesh} {who : Option NodeId}

theorem mem_everyone : who ∈ m.everyone ↔ ∃ n, m.subnetOf who = some n := by
  cases who with
  | none => cases h : m.external <;> simp [everyone, subnetOf, h]
  | some node =>
    rw [← Option.isSome_iff_exists, subnetOf, Option.isSome_map, ← Std.ExtTreeMap.mem_iff_isSome_getElem?]
    cases h : m.external <;> simp [everyone, h]

theorem some_mem_everyone {node : NodeId} : some node ∈ m.everyone ↔ node ∈ m.nodes := by
  rw [mem_everyone, ← Option.isSome_iff_exists, subnetOf, Option.isSome_map, Std.ExtTreeMap.mem_iff_isSome_getElem?]

end Mesh

namespace Planner

variable {p : Planner} {chance : Chance} {previous : Mesh} {targets : Std.ExtTreeSet NodeId} {external : Bool}
  {t t' : Timeline Grid} {x : Pass} {s : Subnets} {chosen : Std.ExtTreeSet UInt16} {members result : NodeMap Member}
  {nodes : List NodeId}

/-- Those who join are given the subnets of the first octets that are left, one after another. -/
theorem Chooses.map_subnetOf (h : Chooses p chance previous s chosen members nodes result) (hnodup : nodes.Nodup) :
    (nodes.filter fun node => (kept previous node).isNone).map (fun node => result[node]?.map (·.subnet)) =
      (s.openings.take (nodes.filter fun node => (kept previous node).isNone).length).map fun octet =>
        some (s.subnet octet) := by
  induction h with
  | done => rfl
  | keep hk _ ih =>
    rw [List.filter_cons, hk, if_neg (by simp)]
    exact ih hnodup.of_cons
  | @join s s' chosen members node subnet m rest result t t' hnew hsubnet hrun hrest ih =>
    obtain ⟨octet, hopenings, rfl, hrange⟩ := Subnets.openings_of_allocate hsubnet
    obtain ⟨port, rfl⟩ := newMember_eq_ok hrun
    have hsame : s'.subnet = s.subnet := by
      funext other
      rw [Subnets.subnet, hrange, Subnets.subnet]
    -- the first one has what is handed out now, and nobody after it changes that
    have hfirst : result[node]?.map (·.subnet) = some (s.subnet octet) := by
      rw [hrest.elsewhere (List.nodup_cons.1 hnodup).1, Std.ExtTreeMap.getElem?_insert_self, Option.map_some]
    rw [List.filter_cons, hnew, if_pos Option.isNone_none, List.map_cons, hfirst, List.length_cons, hopenings,
      List.take_succ_cons, List.map_cons, ih hnodup.of_cons, hsame]

/-- What is reserved are the subnets of participants and of the external member. -/
theorem mem_taken_reserveHeld {range : Ipv4Network} (hs : s.Over range) (octet : UInt8) :
    octet ∈ (reserveHeld previous nodes s).taken ↔ octet ∈ s.taken ∨ ∃ who k, previous.subnetOf who = some k ∧
      (∀ node, who = some node → node ∈ nodes) ∧ range.contains k = true ∧ k.thirdOctet = octet := by
  have hheld (k : Ipv4Network) :
      k ∈ (nodes.filterMap fun node => previous.nodes[node]?.map (·.subnet)) ++
          (previous.external.map (·.subnet)).toList ↔
        ∃ who, previous.subnetOf who = some k ∧ ∀ node, who = some node → node ∈ nodes := by
    rw [List.mem_append, List.mem_filterMap, Option.mem_toList]
    constructor
    · rintro (⟨node, hnode, hk⟩ | hk)
      · exact ⟨some node, hk, by rintro _ ⟨⟩; exact hnode⟩
      · exact ⟨none, hk, nofun⟩
    · rintro ⟨who | node, hk, hnode⟩
      · exact .inr hk
      · exact .inl ⟨node, hnode node rfl, hk⟩
  rw [reserveHeld, Subnets.mem_taken_foldl_reserve hs]
  refine or_congr_right ?_
  constructor
  · rintro ⟨k, hk, hwithin, heq⟩
    obtain ⟨who, hwho, hnode⟩ := (hheld k).1 hk
    exact ⟨who, k, hwho, hnode, hwithin, heq⟩
  · rintro ⟨who, k, hwho, hnode, hwithin, heq⟩
    exact ⟨k, (hheld k).2 ⟨who, hwho, hnode⟩, hwithin, heq⟩

namespace Pass.Valid

variable (hx : x.Valid p chance previous targets external t)
include hx

/-- The nodes of a plan are the participants, in the same order. -/
theorem keys_members : x.members.keys = x.nodes targets :=
  keys_eq_toList fun node => by
    rw [hx.mem_members, Pass.nodes, participants, Std.ExtTreeSet.mem_toList]

theorem mem_removed {keepalive : UInt32} {node : NodeId} :
    node ∈ (x.plan previous keepalive).removed ↔ node ∈ previous.nodes ∧ node ∉ x.nodes targets := by
  show node ∈ previous.nodes.keys.filter (fun node => !x.members.contains node) ↔ _
  rw [List.mem_filter, Std.ExtTreeMap.mem_keys, Bool.not_eq_true', ← Bool.not_eq_true, Std.ExtTreeMap.contains_iff_mem,
    hx.mem_members]

theorem start_eq : x.start = ⟨previous.range.truncate, ∅, Subnets.firstOctet⟩ := by
  have hranges := hx.ranges
  unfold Planner.ranges Subnets.of? at hranges
  rw [if_pos hx.start_over.length] at hranges
  split at hranges
  · cases hranges
  · exact (Prod.mk.inj (Except.ok.inj hranges)).2.symm

/-- Someone is heeded if they take part or are the external member. -/
theorem heeded_iff {keepalive : UInt32} {who : Option NodeId} :
    (x.plan previous keepalive).mesh.Heeded who ↔ ∀ node, who = some node → node ∈ x.nodes targets := by
  cases who with
  | none => exact iff_of_true (.inl rfl) nofun
  | some node =>
    simp only [Mesh.Heeded, reduceCtorEq, false_or, Option.some.injEq, forall_eq']
    rw [Mesh.some_mem_everyone, ← hx.mem_members]
    rfl

/-- Where everyone's subnet is in the range, the octets that are left at first are the vacant ones. -/
theorem openings_unheld (hinside : previous.Inside) (keepalive : UInt32) :
    (x.unheld previous targets).openings = previous.vacant (x.plan previous keepalive).mesh := by
  have hnext : (x.unheld previous targets).next = Subnets.firstOctet := by
    rw [unheld, reserveHeld, Subnets.next_foldl_reserve, hx.start_eq]
  rw [Subnets.openings, Mesh.vacant, hnext]
  refine List.filter_congr fun octet _ => ?_
  rw [decide_eq_decide, unheld, mem_taken_reserveHeld hx.start_over, hx.start_eq, or_iff_right Std.ExtTreeSet.not_mem_empty]
  -- an octet has been reserved if and only if someone who is heeded has it
  constructor
  · rintro hnone who - hheeded hoctet
    obtain ⟨k, hk, heq⟩ := Option.map_eq_some_iff.1 hoctet
    exact hnone ⟨who, k, hk, hx.heeded_iff.1 hheeded, hinside who k hk, heq⟩
  · rintro hnone ⟨who, k, hk, hheeded, -, heq⟩
    refine hnone who (Mesh.mem_everyone.2 ⟨k, hk⟩) (hx.heeded_iff.2 hheeded) ?_
    rw [hk, Option.map_some, heq]

/-- The newcomers are the external member, if there was none before, and the nodes that join. -/
theorem newcomers_eq (hinside : previous.Inside) (keepalive : UInt32) :
    previous.newcomers (x.plan previous keepalive).mesh =
      (if x.outside.isSome ∧ previous.external = none then [none] else []) ++
        ((x.nodes targets).filter fun node => (kept previous node).isNone).map some := by
  have heveryone : (x.plan previous keepalive).mesh.everyone =
      (x.outside.map fun _ => none).toList ++ (x.nodes targets).map some := by
    rw [← hx.keys_members]
    show ((x.outside.map (·.member)).map fun _ => none).toList ++ x.members.keys.map some = _
    rw [Option.map_map]
    rfl
  rw [Mesh.newcomers, heveryone, List.filter_append, List.filter_map]
  congr 1
  · have hnone : none ∈ previous.everyone ↔ previous.external ≠ none := by
      rw [Mesh.mem_everyone, Mesh.subnetOf, ← Option.isSome_iff_exists, Option.isSome_map, Option.isSome_iff_ne_none]
    cases x.outside with
    | none => rfl
    | some o => simp [List.filter_cons, hnone]
  · congr 1
    refine List.filter_congr fun node _ => ?_
    rw [Function.comp_apply, kept_of_inside hinside, Bool.eq_iff_iff, decide_eq_true_eq, Mesh.some_mem_everyone,
      Option.isNone_iff_eq_none, getElem?_eq_none_iff]

/-- Newcomers are given the subnets of the first vacant octets, one after another. -/
theorem map_subnetOf (hinside : previous.Inside) (keepalive : UInt32) :
    (previous.newcomers (x.plan previous keepalive).mesh).map (x.plan previous keepalive).mesh.subnetOf =
      ((previous.vacant (x.plan previous keepalive).mesh).take
        (previous.newcomers (x.plan previous keepalive).mesh).length).map fun octet =>
          some (previous.range.subnetAt octet) := by
  have hnodup : (x.nodes targets).Nodup := hx.keys_members ▸ nodup_keys x.members
  have hjoining := hx.members.map_subnetOf hnodup
  have hleft : x.left.subnet = previous.range.subnetAt := funext hx.free_of_left.1.subnet_eq
  rw [hleft] at hjoining
  rw [hx.newcomers_eq hinside, ← hx.openings_unheld hinside, List.map_append, List.map_map]
  have hnodes : ((x.nodes targets).filter fun node => (kept previous node).isNone).map
      ((x.plan previous keepalive).mesh.subnetOf ∘ some) =
      ((x.nodes targets).filter fun node => (kept previous node).isNone).map fun node =>
        x.members[node]?.map (·.subnet) := rfl
  rw [hnodes, hjoining]
  split
  next hexternal =>
    obtain ⟨hsome, hnone⟩ := hexternal
    obtain ⟨o, ho⟩ := Option.isSome_iff_exists.1 hsome
    -- the external member has taken the first octet
    obtain ⟨octet, hopenings, hsubnet, -⟩ := Subnets.openings_of_allocate (hx.of_new_external hnone ho).2
    have hmember : (x.plan previous keepalive).mesh.subnetOf none = some (previous.range.subnetAt octet) := by
      rw [← hx.unheld_over.subnet_eq, ← hsubnet]
      show (x.outside.map (·.member)).map (·.subnet) = some o.subnet
      rw [ho]
      rfl
    rw [hopenings, List.map_singleton, List.length_append, List.length_singleton, List.length_map, Nat.add_comm,
      List.take_succ_cons, List.map_cons, hmember]
    rfl
  next hexternal =>
    -- the octets are left as they were
    have hsame : x.left = x.unheld previous targets := by
      rcases outsideFor_eq_ok hx.outside with ⟨-, -, hleft⟩ | ⟨-, o, ho, -⟩
      · exact hleft
      · cases hold : previous.external with
        | some e => exact (hx.of_old_external hold ho).2.2
        | none => exact absurd ⟨by rw [ho]; rfl, hold⟩ hexternal
    rw [hsame, List.nil_append, List.length_map]
    rfl

end Pass.Valid

end Planner

/-! ### Runs of passes -/

namespace Mesh

variable {name : String} {range : Ipv4Network} {m : Mesh} {p : Planner} {chance : Chance}
  {targets : Std.ExtTreeSet NodeId} {external : Bool} {plan : MeshPlan} {t t' : Timeline Grid}

/-- Whatever passes lead to from a new mesh, every subnet is the one of its own third octet. -/
theorem Reached.eq_subnetAt (h : Reached (new name range) m) :
    ∀ who n, m.subnetOf who = some n → n = m.range.subnetAt n.thirdOctet.toNat := by
  induction h with
  | start =>
    intro who n hn
    rw [subnetOf_new] at hn
    cases hn
  | pass before run ih =>
    obtain ⟨x, hx, rfl⟩ := Planner.pass_of_run run
    intro who n hn
    rcases hx.held_or_free hn with ⟨hold, -⟩ | ⟨-, hfree⟩
    · exact ih who n (Planner.subnetOf_of_keptSubnet hold)
    · exact hfree.eq_subnetAt hx.unheld_over

/-- However passes have led from a new mesh to this one, the next that succeeds gives no newcomer the subnet of anyone but a
node that it removes.  It gives that one again if and only if the octet is among the first vacant ones, as many as there are
newcomers. -/
theorem Reached.reuses_iff (hm : Reached (new name range) m)
    (run : p.plan chance m targets external t = .ok (.ok plan, t')) :
    (∀ who ∈ m.newcomers plan.mesh, ∀ other n, plan.mesh.subnetOf who = some n → m.subnetOf other = some n →
      ∃ node ∈ plan.removed, other = some node) ∧
    ∀ node ∈ plan.removed, ∀ n, m.subnetOf (some node) = some n →
      ((∃ who ∈ m.newcomers plan.mesh, plan.mesh.subnetOf who = some n) ↔
        n.thirdOctet.toNat ∈ (m.vacant plan.mesh).take (m.newcomers plan.mesh).length) := by
  obtain ⟨-, haddressed, -⟩ := hm.sound
  obtain ⟨x, hx, rfl⟩ := Planner.pass_of_run run
  have hgiven := hx.map_subnetOf haddressed.inside p.settings.keepalive
  refine ⟨?others, ?removed⟩
  case others =>
    intro who hwho other n hn hother
    have hnew : m.subnetOf who = none := by
      rw [Option.eq_none_iff_forall_ne_some]
      exact fun k hk => of_decide_eq_true (List.mem_filter.1 hwho).2 (mem_everyone.2 ⟨k, hk⟩)
    have hfree : (x.unheld m targets).Free n := by
      rcases hx.held_or_free hn with ⟨hold, -⟩ | ⟨-, hfree⟩
      · rw [Planner.subnetOf_of_keptSubnet hold] at hnew
        cases hnew
      · exact hfree
    -- what is free is not held by anyone who takes part, nor by the external member
    refine Classical.byContradiction fun hstays => ?_
    refine Planner.ne_of_reserveHeld hx.start_over hfree hother ?_ (haddressed.inside other n hother) rfl
    rintro node rfl
    refine Classical.byContradiction fun hnode => hstays ⟨node, hx.mem_removed.2 ⟨?_, hnode⟩, rfl⟩
    exact some_mem_everyone.1 (mem_everyone.2 ⟨n, hother⟩)
  case removed =>
    intro node hremoved n hn
    have hoctets : ∀ octet ∈ (m.vacant (x.plan m p.settings.keepalive).mesh).take
        (m.newcomers (x.plan m p.settings.keepalive).mesh).length, octet.toUInt8.toNat = octet := by
      intro octet hoctet
      have hbelow := List.mem_range'_1.1 (List.mem_filter.1 (List.mem_of_mem_take hoctet)).1
      exact Subnets.toNat_toUInt8 hbelow.2
    rw [← List.mem_map, hgiven, List.mem_map]
    constructor
    · rintro ⟨octet, hoctet, heq⟩
      rw [← Option.some.inj heq, Subnets.thirdOctet_subnetAt, hoctets octet hoctet]
      exact hoctet
    · intro hoctet
      exact ⟨n.thirdOctet.toNat, hoctet, congrArg some (hm.eq_subnetAt _ n hn).symm⟩

end Mesh

/-- A node leaves and another one joins, which is given the subnet of the first: there is one newcomer, and no octet below
is vacant. -/
theorem Mesh.reuses_of_hillyPass : ∃ (before plan : MeshPlan) (n : Ipv4Network), 2 ∈ plan.removed ∧
    before.mesh.newcomers plan.mesh = [some 3] ∧ before.mesh.subnetOf (some 2) = some n ∧
    plan.mesh.subnetOf (some 3) = some n := by
  have hruns : Planner.succeeds (Planner.hillyPass Planner.hillyMesh [1, 2]) (fun before =>
      Planner.succeeds (Planner.hillyPass before.mesh [3]) fun plan => decide (2 ∈ plan.removed) &&
        decide (before.mesh.newcomers plan.mesh = [some 3]) && (before.mesh.subnetOf (some 2)).any fun n =>
          n.thirdOctet.toNat ∈ (before.mesh.vacant plan.mesh).take 1) = true := by decide +kernel
  obtain ⟨before, t, hbefore, hrest⟩ := Planner.exists_of_succeeds hruns
  obtain ⟨plan, t', hplan, htest⟩ := Planner.exists_of_succeeds hrest
  rw [Bool.and_eq_true, Bool.and_eq_true, decide_eq_true_eq, decide_eq_true_eq, Option.any_eq_true] at htest
  obtain ⟨⟨hremoved, hnewcomers⟩, n, hn, hoctet⟩ := htest
  obtain ⟨-, hreused⟩ := Reached.reuses_iff (.pass .start hbefore) hplan
  obtain ⟨who, hwho, hagain⟩ := (hreused 2 hremoved n hn).2 (by rw [hnewcomers]; exact of_decide_eq_true hoctet)
  rw [hnewcomers, List.mem_singleton] at hwho
  exact ⟨before, plan, n, hremoved, hnewcomers, hn, hwho ▸ hagain⟩

end ComputeGrid
