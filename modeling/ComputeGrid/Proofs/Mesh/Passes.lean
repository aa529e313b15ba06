import ComputeGrid.Mesh.Planner
import ComputeGrid.Proofs.Timeline

/-!
# What a pass finds and chooses

A step of planning succeeds if what it is made up of does (`bind_eq_ok`, `lift_eq_ok`, `liftTimed_eq_ok`).  So a pass that
succeeds has found and chosen what a `Pass` holds, each part of it by the step that is named in `Pass.Valid`, and has ended in
its plan (`pass_of_run`).  The members are chosen one after another, and each of them keeps what it has or joins with a subnet
that is left (`Chooses`).  What comes of a node that is to join depends on its answer to the question which ports it uses, and
on the port that is picked (`admits_of_newMember`).
-/

namespace ComputeGrid.Planner

/-! ### Runs -/

section Planning

variable {α β : Type} {t t' : Timeline Grid}

theorem bind_eq_ok {x : Planning α} {f : α → Planning β} {b : β} :
    (x >>= f) t = .ok (.ok b, t') ↔ ∃ a t₁, x t = .ok (.ok a, t₁) ∧ f a t₁ = .ok (.ok b, t') := by
  show (ExceptT.run x >>= ExceptT.bindCont f) t = .ok (.ok b, t') ↔ _
  rw [Timed.bind_eq_ok]
  constructor
  · rintro ⟨e | a, t₁, hx, hf⟩
    · cases hf
    · exact ⟨a, t₁, hx, hf⟩
  · rintro ⟨a, t₁, hx, hf⟩
    exact ⟨.ok a, t₁, hx, hf⟩

theorem bind_run {x : Planning α} {f : α → Planning β} {a : α} (h : x t = .ok (.ok a, t')) : (x >>= f) t = f a t' := by
  show (ExceptT.run x >>= ExceptT.bindCont f) t = ExceptT.bindCont f (.ok a) t'
  exact Timed.bind_run h

/-- A sequence ends in an error of its first part or of the rest. -/
theorem bind_eq_error {x : Planning α} {f : α → Planning β} {e : MeshError} :
    (x >>= f) t = .ok (.error e, t') ↔
      x t = .ok (.error e, t') ∨ ∃ a t₁, x t = .ok (.ok a, t₁) ∧ f a t₁ = .ok (.error e, t') := by
  show (ExceptT.run x >>= ExceptT.bindCont f) t = .ok (.error e, t') ↔ _
  rw [Timed.bind_eq_ok]
  constructor
  · rintro ⟨e' | a, t₁, hx, hf⟩
    · cases hf
      exact .inl hx
    · exact .inr ⟨a, t₁, hx, hf⟩
  · rintro (hx | ⟨a, t₁, hx, hf⟩)
    · exact ⟨.error e, t', hx, rfl⟩
    · exact ⟨.ok a, t₁, hx, hf⟩

theorem pure_eq_ok {a b : α} : (pure a : Planning α) t = .ok (.ok b, t') ↔ b = a ∧ t' = t := by
  show Except.ok (Except.ok a, t) = Except.ok (Except.ok b, t') ↔ _
  simp only [Except.ok.injEq, Prod.mk.injEq, eq_comm]

theorem throw_ne_ok {e : MeshError} {a : α} : (throw e : Planning α) t ≠ .ok (.ok a, t') := nofun

theorem lift_eq_ok {x : Except MeshError α} {a : α} :
    (liftM x : Planning α) t = .ok (.ok a, t') ↔ x = .ok a ∧ t' = t := by
  show Except.ok (x, t) = Except.ok (Except.ok a, t') ↔ _
  simp only [Except.ok.injEq, Prod.mk.injEq, eq_comm]

theorem lift_eq_error {x : Except MeshError α} {e : MeshError} :
    (liftM x : Planning α) t = .ok (.error e, t') ↔ x = .error e ∧ t' = t := by
  show Except.ok (x, t) = Except.ok (Except.error e, t') ↔ _
  simp only [Except.ok.injEq, Prod.mk.injEq, eq_comm]

theorem liftTimed_eq_ok {x : Timed Grid α} {a : α} :
    (liftM x : Planning α) t = .ok (.ok a, t') ↔ x t = .ok (a, t') := by
  show (x >>= fun a => pure (.ok a : Except MeshError α)) t = .ok (.ok a, t') ↔ _
  rw [Timed.bind_eq_ok]
  constructor
  · rintro ⟨b, t₁, hx, hb⟩
    cases hb
    exact hx
  · intro hx
    exact ⟨a, t', hx, rfl⟩

theorem liftTimed_ne_error {x : Timed Grid α} {e : MeshError} : (liftM x : Planning α) t ≠ .ok (.error e, t') := by
  show (x >>= fun a => pure (.ok a : Except MeshError α)) t ≠ .ok (.error e, t')
  rw [ne_eq, Timed.bind_eq_ok]
  rintro ⟨a, t₁, -, ha⟩
  cases ha

/-- What is done on the grid first cannot be what a sequence fails in. -/
theorem bind_liftTimed_eq_ok {x : Timed Grid α} {f : α → Planning β} {r : Except MeshError β} :
    ((liftM x : Planning α) >>= f) t = .ok (r, t') ↔ ∃ a t₁, x t = .ok (a, t₁) ∧ f a t₁ = .ok (r, t') := by
  cases r with
  | ok b => simp only [bind_eq_ok, liftTimed_eq_ok]
  | error e => simp only [bind_eq_error, liftTimed_eq_ok, liftTimed_ne_error, false_or]

end Planning

/-! ### Members -/

variable {p : Planner} {chance : Chance} {previous : Mesh} {targets : Std.ExtTreeSet NodeId} {external : Bool}
  {t t' : Timeline Grid}

/-- How members are chosen one after another: from the subnets that are left, the ports that are chosen and the members so
far to all members. -/
inductive Chooses (p : Planner) (chance : Chance) (previous : Mesh) :
    Subnets → Std.ExtTreeSet UInt16 → NodeMap Member → List NodeId → NodeMap Member → Prop
  | done {s chosen members} : Chooses p chance previous s chosen members [] members
  | keep {s chosen members node m rest result} (hm : kept previous node = some m)
      (h : Chooses p chance previous s (chosen.insert m.port) (members.insert node m) rest result) :
      Chooses p chance previous s chosen members (node :: rest) result
  | join {s s' chosen members node subnet m rest result t t'} (hnew : kept previous node = none)
      (hsubnet : s.allocate = (some subnet, s'))
      (hm : p.newMember chance node subnet chosen t = .ok (.ok m, t'))
      (h : Chooses p chance previous s' (chosen.insert m.port) (members.insert node m) rest result) :
      Chooses p chance previous s chosen members (node :: rest) result

theorem allocate_eq_ok {s s' : Subnets} {n : Ipv4Network} (h : allocate s = .ok (n, s')) : s.allocate = (some n, s') := by
  unfold allocate at h
  split at h
  next ha =>
    cases h
    exact ha
  · cases h

theorem chooses_of_run {nodes : List NodeId} {s : Subnets} {chosen : Std.ExtTreeSet UInt16} {members result : NodeMap Member}
    (h : p.chooseMembers chance previous s chosen members nodes t = .ok (.ok result, t')) :
    Chooses p chance previous s chosen members nodes result := by
  induction nodes generalizing s chosen members t with
  | nil =>
    rw [chooseMembers, pure_eq_ok] at h
    rw [h.1]
    exact .done
  | cons node rest ih =>
    rw [chooseMembers] at h
    cases hm : kept previous node with
    | some m =>
      rw [hm] at h
      exact .keep hm (ih h)
    | none =>
      rw [hm, bind_eq_ok] at h
      obtain ⟨⟨subnet, s'⟩, t₁, hsubnet, h⟩ := h
      obtain ⟨m, t₂, hrun, h⟩ := bind_eq_ok.1 h
      exact .join hm (allocate_eq_ok (lift_eq_ok.1 hsubnet).1) hrun (ih h)

/-- What comes of a node that is to join once it has been asked for the ports that it uses: it may not have answered, there
may be no port left beside them, or it is a member with a port that has been picked. -/
inductive Admits (p : Planner) (chance : Chance) (node : NodeId) (subnet : Ipv4Network) (chosen : Std.ExtTreeSet UInt16) :
    Except RpcError (List UInt16) → Except MeshError Member → Prop
  | unanswered (cause : RpcError) : Admits p chance node subnet chosen (.error cause) (.error (.rpc node cause))
  | full {ports : List UInt16}
      (hport : Ports.pick? (chance.port node) (.ofList ports) chosen p.settings.wgPortMin p.settings.wgPortMax = none) :
      Admits p chance node subnet chosen (.ok ports) (.error (.noFreePort node))
  | joined {ports : List UInt16} {port : UInt16}
      (hport : Ports.pick? (chance.port node) (.ofList ports) chosen p.settings.wgPortMin p.settings.wgPortMax = some port) :
      Admits p chance node subnet chosen (.ok ports)
        (.ok ⟨subnet, (chance.keys (some node)).privateKey, (chance.keys (some node)).publicKey, port⟩)

/-- A node that is to join is asked for its ports, and nothing else happens. -/
theorem admits_of_newMember {node : NodeId} {subnet : Ipv4Network} {chosen : Std.ExtTreeSet UInt16}
    {r : Except MeshError Member} (h : p.newMember chance node subnet chosen t = .ok (r, t')) :
    ∃ asked, (Grid.getPorts node).complete t = .ok (asked, t') ∧ p.Admits chance node subnet chosen asked r := by
  rw [newMember, bind_liftTimed_eq_ok] at h
  obtain ⟨cause | ports, t₁, hasked, h⟩ := h
  · cases h
    exact ⟨_, hasked, .unanswered cause⟩
  · dsimp only at h
    cases hport : Ports.pick? (chance.port node) (.ofList ports) chosen p.settings.wgPortMin p.settings.wgPortMax with
    | none =>
      rw [hport] at h
      cases h
      exact ⟨_, hasked, .full hport⟩
    | some port =>
      rw [hport] at h
      cases h
      exact ⟨_, hasked, .joined hport⟩

/-- A new member has its subnet and new keys. -/
theorem newMember_eq_ok {node : NodeId} {subnet : Ipv4Network} {chosen : Std.ExtTreeSet UInt16} {m : Member}
    (h : p.newMember chance node subnet chosen t = .ok (.ok m, t')) :
    ∃ port, m = ⟨subnet, (chance.keys (some node)).privateKey, (chance.keys (some node)).publicKey, port⟩ := by
  obtain ⟨asked, -, hadmits⟩ := admits_of_newMember h
  cases hadmits with
  | joined _ => exact ⟨_, rfl⟩

/-! ### Passes -/

theorem mem_participants {relay : Option NodeId} {node : NodeId} :
    node ∈ participants targets relay ↔ node ∈ targets ∨ relay = some node := by
  rw [participants, Std.ExtTreeSet.mem_toList]
  cases relay with
  | none => simp
  | some r => simp [or_comm]

/-- What a pass finds and chooses. -/
structure Pass where
  carrier : Ipv4Network
  start : Subnets
  found : NodeMap Reachability
  relay : Option NodeId
  reach : NodeMap Reachability
  outside : Option MeshPlan.External
  left : Subnets
  members : NodeMap Member

namespace Pass

/-- The nodes that take part. -/
def nodes (x : Pass) (targets : Std.ExtTreeSet NodeId) : List NodeId := participants targets x.relay

/-- The subnets that are left beside those that are held. -/
def unheld (x : Pass) (previous : Mesh) (targets : Std.ExtTreeSet NodeId) : Subnets :=
  reserveHeld previous (x.nodes targets) x.start

/-- The plan that a pass ends in. -/
def plan (x : Pass) (previous : Mesh) (keepalive : UInt32) : MeshPlan :=
  .assemble previous x.carrier keepalive x.reach x.relay x.outside x.members

/-- The steps of a pass that starts at a time. -/
structure Valid (p : Planner) (chance : Chance) (previous : Mesh) (targets : Std.ExtTreeSet NodeId) (external : Bool)
    (t : Timeline Grid) (x : Pass) : Prop where
  ranges : p.ranges previous = .ok (x.carrier, x.start)
  survey : ∃ t₁, p.survey targets.toList t = .ok (x.found, t₁)
  relay : ∃ t₁ t₂, p.relayFor previous.relay targets external x.found t₁ = .ok (.ok (x.relay, x.reach), t₂)
  outside : outsideFor chance previous.external external (x.unheld previous targets) = .ok (x.outside, x.left)
  members : Chooses p chance previous x.left ∅ ∅ (x.nodes targets) x.members

end Pass

/-- The survey of a pass, and the search for a relay that follows it. -/
def Pass.Sighted (p : Planner) (previous : Mesh) (targets : Std.ExtTreeSet NodeId) (external : Bool) (t : Timeline Grid)
    (x : Pass) : Prop :=
  ∃ t₁ t₂, p.survey targets.toList t = .ok (x.found, t₁) ∧
    p.relayFor previous.relay targets external x.found t₁ = .ok (.ok (x.relay, x.reach), t₂)

/-- The choice of members of a pass, which follows the search for a relay. -/
def Pass.Staffed (p : Planner) (chance : Chance) (previous : Mesh) (targets : Std.ExtTreeSet NodeId) (external : Bool)
    (t t' : Timeline Grid) (x : Pass) : Prop :=
  ∃ t₁ t₂, p.survey targets.toList t = .ok (x.found, t₁) ∧
    p.relayFor previous.relay targets external x.found t₁ = .ok (.ok (x.relay, x.reach), t₂) ∧
    p.chooseMembers chance previous x.left ∅ ∅ (x.nodes targets) t₂ = .ok (.ok x.members, t')

theorem Pass.Staffed.sighted {x : Pass} (h : x.Staffed p chance previous targets external t t') :
    x.Sighted p previous targets external t := by
  obtain ⟨t₁, t₂, hsurvey, hrelay, -⟩ := h
  exact ⟨t₁, t₂, hsurvey, hrelay⟩

/-- A pass that succeeds ends in the plan of what it has found and chosen, and has chosen its members last. -/
theorem staffed_pass_of_run {plan : MeshPlan} (h : p.plan chance previous targets external t = .ok (.ok plan, t')) :
    ∃ x : Pass, x.Valid p chance previous targets external t ∧ x.Staffed p chance previous targets external t t' ∧
      plan = x.plan previous p.settings.keepalive := by
  rw [Planner.plan, bind_eq_ok] at h
  obtain ⟨⟨carrier, start⟩, t₁, hranges, h⟩ := h
  obtain ⟨hstart, rfl⟩ := lift_eq_ok.1 hranges
  rw [bind_eq_ok] at h
  obtain ⟨found, t₂, hfound, h⟩ := h
  rw [bind_eq_ok] at h
  obtain ⟨⟨relay, reach⟩, t₃, hrelay, h⟩ := h
  rw [bind_eq_ok] at h
  obtain ⟨⟨outside, left⟩, t₄, houtside, h⟩ := h
  obtain ⟨hchosen, rfl⟩ := lift_eq_ok.1 houtside
  rw [bind_eq_ok] at h
  obtain ⟨members, t₅, hmembers, h⟩ := h
  obtain ⟨hplan, rfl⟩ := pure_eq_ok.1 h
  have hsurvey := liftTimed_eq_ok.1 hfound
  exact ⟨⟨carrier, start, found, relay, reach, outside, left, members⟩,
    ⟨hstart, ⟨t₂, hsurvey⟩, ⟨t₂, t₄, hrelay⟩, hchosen, chooses_of_run hmembers⟩,
    ⟨t₂, t₄, hsurvey, hrelay, hmembers⟩, hplan⟩

/-- A pass that succeeds ends in the plan of what it has found and chosen, and has looked for the relay right after its
survey. -/
theorem sighted_pass_of_run {plan : MeshPlan} (h : p.plan chance previous targets external t = .ok (.ok plan, t')) :
    ∃ x : Pass, x.Valid p chance previous targets external t ∧ x.Sighted p previous targets external t ∧
      plan = x.plan previous p.settings.keepalive := by
  obtain ⟨x, hx, hstaffed, hplan⟩ := staffed_pass_of_run h
  exact ⟨x, hx, hstaffed.sighted, hplan⟩

/-- A pass that succeeds ends in the plan of what it has found and chosen. -/
theorem pass_of_run {plan : MeshPlan} (h : p.plan chance previous targets external t = .ok (.ok plan, t')) :
    ∃ x : Pass, x.Valid p chance previous targets external t ∧ plan = x.plan previous p.settings.keepalive := by
  obtain ⟨x, hx, -, hplan⟩ := sighted_pass_of_run h
  exact ⟨x, hx, hplan⟩

end ComputeGrid.Planner
