import ComputeGrid.Proofs.Reconcile.Steps

/-!
# Traces of passes

A pass leaves a trace: the effects of its steps up to the first that fails (`Step.trace_of_runAll`).  What
is to be proved of a pass is proved by induction on it: nothing happens on nodes that no step is about
(`Step.Trace.elsewhere`).  Where every step is to establish something of its own that the steps after it keep,
`Step.Stepwise.forall_steps` is that induction.

The steps of a plan are about different nodes, and contracts are canceled before any is made and made
before any is changed (`Step.pairwise_plan`).  Each step fits the contracts that are in place when it is
taken (`Step.fits_plan`, `Step.Fits.tail`).
-/

namespace ComputeGrid.Step

open Std (ExtTreeMap)

variable {p : Deployer} {sp : Option UInt64} {current applied applied' : NodeMap ContractId}
  {desired : NodeMap Deployment} {steps rest : List Step} {s : Step} {o : Outcome}
  {t t' : Timeline Grid} {g g' : Grid}

/-! ### Traces -/

/-- The effects of steps up to the first that fails. -/
inductive Trace (p : Deployer) (sp : Option UInt64) :
    List Step → NodeMap ContractId → Grid → Outcome → Grid → Prop where
  | done {applied : NodeMap ContractId} {g : Grid} : Trace p sp [] applied g ⟨applied, none⟩ g
  | stopped {s : Step} {rest : List Step} {applied applied' : NodeMap ContractId} {e : DeployError} {g g' : Grid}
    (effect : Effect p sp applied g s ⟨applied', some e⟩ g') :
    Trace p sp (s :: rest) applied g ⟨applied', some e⟩ g'
  | next {s : Step} {rest : List Step} {applied applied₁ : NodeMap ContractId} {g g₁ : Grid} {o : Outcome} {g' : Grid}
    (effect : Effect p sp applied g s ⟨applied₁, none⟩ g₁) (trace : Trace p sp rest applied₁ g₁ o g') :
    Trace p sp (s :: rest) applied g o g'

theorem trace_of_runAll (h : runAll p sp applied steps t = .ok (o, t')) :
    Trace p sp steps applied t.state o t'.state := by
  induction steps generalizing applied t with
  | nil =>
    rw [runAll, Timed.pure_eq_ok] at h
    cases h
    exact .done
  | cons s rest ih =>
    rw [runAll, Timed.bind_eq_ok] at h
    obtain ⟨⟨applied₁, _ | e⟩, t₁, hrun, h⟩ := h
    · exact .next (effect_of_run hrun) (ih h)
    · rw [Timed.pure_eq_ok] at h
      cases h
      exact .stopped (effect_of_run hrun)

theorem Effect.steady (h : Effect p sp applied g s o g') : g.Steady g' := by
  obtain ⟨_, htouches⟩ := h.touches
  exact htouches.toSteady

theorem Effect.grows (h : Effect p sp applied g s o g') : Ledger.Grows g.ledger g'.ledger := by
  obtain ⟨_, htouches⟩ := h.touches
  exact htouches.ledger.toGrows

/-- What holds across every step holds across a trace, if it is reflexive and transitive. -/
theorem Trace.lift {R : Grid → Grid → Prop} (h : Trace p sp steps applied g o g') (hrefl : ∀ g, R g g)
    (htrans : ∀ {g g₁ g'}, R g g₁ → R g₁ g' → R g g')
    (hstep : ∀ {s applied o g g'}, Effect p sp applied g s o g' → R g g') : R g g' := by
  induction h with
  | done => exact hrefl _
  | stopped heffect => exact hstep heffect
  | next heffect _ ih => exact htrans (hstep heffect) ih

theorem Trace.steady (h : Trace p sp steps applied g o g') : g.Steady g' := h.lift .refl .trans Effect.steady

theorem Trace.grows (h : Trace p sp steps applied g o g') : Ledger.Grows g.ledger g'.ledger :=
  h.lift (R := fun g g' => Ledger.Grows g.ledger g'.ledger) (fun g => .refl g.ledger) .trans Effect.grows

/-- A step alone leaves a trace. -/
theorem Effect.trace (h : Effect p sp applied g s o g') : Trace p sp [s] applied g o g' := by
  rcases o with ⟨applied', _ | e⟩
  · exact .next h .done
  · exact .stopped h

/-- The traces of steps without error and of the steps after them are one trace. -/
theorem Trace.append {g₁ : Grid} (h : Trace p sp steps applied g o g₁) (ho : o.error = none) {o' : Outcome}
    (hrest : Trace p sp rest o.applied g₁ o' g') : Trace p sp (steps ++ rest) applied g o' g' := by
  induction h with
  | done => exact hrest
  | stopped => cases ho
  | next heffect _ ih => exact .next heffect (ih ho hrest)

/-- A node that no step is about runs what it ran and gets no call. -/
theorem Trace.elsewhere (h : Trace p sp steps applied g o g') {n : NodeId} (hn : ∀ s ∈ steps, n ≠ s.node) :
    (∀ c, g'.deployment? n c = g.deployment? n c) ∧ ∀ name, g'.callsTo n name = g.callsTo n name := by
  have hstep {s : Step} {applied : NodeMap ContractId} {o : Outcome} {g g' : Grid} (h : Effect p sp applied g s o g')
      (hs : n ≠ s.node) : (∀ c, g'.deployment? n c = g.deployment? n c) ∧ ∀ name, g'.callsTo n name = g.callsTo n name := by
    obtain ⟨_, htouches⟩ := h.touches
    exact ⟨fun c => htouches.elsewhere n c fun hat => hs hat.1, htouches.callsTo_of_ne hs⟩
  induction h with
  | done => exact ⟨fun _ => rfl, fun _ => rfl⟩
  | stopped heffect => exact hstep heffect (hn _ List.mem_cons_self)
  | next heffect _ ih =>
    obtain ⟨hruns, hcalls⟩ := ih fun s hs => hn s (List.mem_cons_of_mem _ hs)
    obtain ⟨hruns₁, hcalls₁⟩ := hstep heffect (hn _ List.mem_cons_self)
    exact ⟨fun c => (hruns c).trans (hruns₁ c), fun name => (hcalls name).trans (hcalls₁ name)⟩

/-- A step changes at most what is in place on its node. -/
theorem Effect.applied_of_ne (h : Effect p sp applied g s o g') {n : NodeId} (hn : n ≠ s.node) :
    o.applied[n]? = applied[n]? := by
  cases h with
  | removed => exact getElem?_erase_of_ne hn
  | kept => rfl
  | notOpened => rfl
  | opened =>
    rw [Outcome.applied_of]
    exact getElem?_insert_of_ne hn
  | updated => rw [Outcome.applied_of]

/-! ### Plans -/

/-- Where in a pass a step has its place: contracts are canceled, then made, then changed. -/
def phase : Step → Nat
  | remove _ _ => 0
  | create _ _ => 1
  | update _ _ _ => 2

/-- The order of two steps of a pass: they are about different nodes, and in the order of their phases. -/
def Before (a b : Step) : Prop := a.node ≠ b.node ∧ a.phase ≤ b.phase

theorem mem_removes_iff :
    (s ∈ current.toList.filterMap fun (node, contract) => if node ∈ desired then none else some (remove node contract)) ↔
    ∃ n c, s = .remove n c ∧ current[n]? = some c ∧ n ∉ desired := by
  simp only [List.mem_filterMap, Prod.exists, ExtTreeMap.mem_toList_iff_getElem?_eq_some,
    Option.ite_none_left_eq_some, Option.some.injEq]
  constructor
  · rintro ⟨n, c, hc, hn, rfl⟩
    exact ⟨n, c, rfl, hc, hn⟩
  · rintro ⟨n, c, rfl, hc, hn⟩
    exact ⟨n, c, hc, hn, rfl⟩

theorem mem_creates_iff :
    (s ∈ desired.toList.filterMap fun (node, d) => if node ∈ current then none else some (create node d)) ↔
    ∃ n d, s = .create n d ∧ desired[n]? = some d ∧ n ∉ current := by
  simp only [List.mem_filterMap, Prod.exists, ExtTreeMap.mem_toList_iff_getElem?_eq_some,
    Option.ite_none_left_eq_some, Option.some.injEq]
  constructor
  · rintro ⟨n, d, hd, hn, rfl⟩
    exact ⟨n, d, rfl, hd, hn⟩
  · rintro ⟨n, d, rfl, hd, hn⟩
    exact ⟨n, d, hd, hn, rfl⟩

theorem mem_updates_iff :
    (s ∈ desired.toList.filterMap fun (node, d) => current[node]?.map fun contract => update node contract d) ↔
    ∃ n c d, s = .update n c d ∧ current[n]? = some c ∧ desired[n]? = some d := by
  simp only [List.mem_filterMap, Prod.exists, ExtTreeMap.mem_toList_iff_getElem?_eq_some, Option.map_eq_some_iff]
  constructor
  · rintro ⟨n, d, hd, c, hc, rfl⟩
    exact ⟨n, c, d, rfl, hc, hd⟩
  · rintro ⟨n, c, d, rfl, hc, hd⟩
    exact ⟨n, d, hd, c, hc, rfl⟩

theorem mem_plan_iff : s ∈ plan current desired ↔
    (∃ n c, s = .remove n c ∧ current[n]? = some c ∧ n ∉ desired) ∨
    (∃ n d, s = .create n d ∧ desired[n]? = some d ∧ n ∉ current) ∨
    ∃ n c d, s = .update n c d ∧ current[n]? = some c ∧ desired[n]? = some d := by
  rw [plan, List.mem_append, List.mem_append, mem_removes_iff, mem_creates_iff, mem_updates_iff, or_assoc]

/-- Steps that are made from the entries of a map, one of each, are in order if all are of one phase. -/
theorem pairwise_filterMap {α : Type} (m : NodeMap α) {f : NodeId × α → Option Step} {k : Nat}
    (hf : ∀ x s, f x = some s → s.node = x.1 ∧ s.phase = k) : (m.toList.filterMap f).Pairwise Before := by
  have hkeys : m.toList.Pairwise fun a b => a.1 ≠ b.1 := List.pairwise_map.mp nodup_keys_toList
  rw [List.pairwise_filterMap]
  refine hkeys.imp fun hne s hs s' hs' => ?_
  obtain ⟨hnode, hphase⟩ := hf _ s hs
  obtain ⟨hnode', hphase'⟩ := hf _ s' hs'
  exact ⟨hnode ▸ hnode' ▸ hne, by omega⟩

/-- The steps of a plan are about different nodes, and its phases follow each other. -/
theorem pairwise_plan (current : NodeMap ContractId) (desired : NodeMap Deployment) :
    (plan current desired).Pairwise Before := by
  rw [plan, List.append_assoc, List.pairwise_append, List.pairwise_append]
  refine ⟨pairwise_filterMap (k := 0) current ?_, ⟨pairwise_filterMap (k := 1) desired ?_,
    pairwise_filterMap (k := 2) desired ?_, ?_⟩, ?_⟩
  -- within a phase the nodes are the keys of one map
  · rintro ⟨n, c⟩ s hs
    rw [Option.ite_none_left_eq_some, Option.some.injEq] at hs
    obtain ⟨_, rfl⟩ := hs
    exact ⟨rfl, rfl⟩
  · rintro ⟨n, d⟩ s hs
    rw [Option.ite_none_left_eq_some, Option.some.injEq] at hs
    obtain ⟨_, rfl⟩ := hs
    exact ⟨rfl, rfl⟩
  · rintro ⟨n, d⟩ s hs
    obtain ⟨c, _, rfl⟩ := Option.map_eq_some_iff.mp hs
    exact ⟨rfl, rfl⟩
  -- across phases one map has the node and the other has not
  · intro s hs s' hs'
    obtain ⟨n, d, rfl, _, hnew⟩ := mem_creates_iff.mp hs
    obtain ⟨n', c, d', rfl, hc, _⟩ := mem_updates_iff.mp hs'
    refine ⟨?_, Nat.le_succ 1⟩
    rintro (rfl : n = n')
    exact hnew (mem_iff_exists_getElem?.mpr ⟨c, hc⟩)
  · intro s hs s' hs'
    obtain ⟨n, c, rfl, _, hold⟩ := mem_removes_iff.mp hs
    refine ⟨?_, Nat.zero_le _⟩
    rcases List.mem_append.mp hs' with hs' | hs'
    · obtain ⟨n', d, rfl, hd, _⟩ := mem_creates_iff.mp hs'
      rintro (rfl : n = n')
      exact hold (mem_iff_exists_getElem?.mpr ⟨d, hd⟩)
    · obtain ⟨n', c', d, rfl, _, hd⟩ := mem_updates_iff.mp hs'
      rintro (rfl : n = n')
      exact hold (mem_iff_exists_getElem?.mpr ⟨d, hd⟩)

/-! ### What every step achieves -/

/-- A relation of ledgers that holds across a run holds across each part of it. -/
def Divisible (R : Ledger → Ledger → Prop) : Prop :=
  ∀ {l l₁ l₂}, Ledger.Grows l l₁ → Ledger.Grows l₁ l₂ → R l l₂ → R l l₁ ∧ R l₁ l₂

theorem divisible_fresh : Divisible Ledger.Fresh := fun h₁ h₂ h => ⟨h.left h₁ h₂, h.right h₁ h₂⟩

/-- How `Post` is to be proved of every step of a pass without error: a step establishes it where `Pre` holds,
the steps before it keep `Pre`, and those after it keep `Post`.  Each may rely on what the step does to the
ledger. -/
structure Stepwise (p : Deployer) (sp : Option UInt64) (R : Ledger → Ledger → Prop)
    (Pre Post : Step → NodeMap ContractId → Grid → Prop) : Prop where
  divisible : Divisible R
  awaited : ∀ {a b : Step} {applied applied' : NodeMap ContractId} {g g' : Grid}, Before a b →
    Effect p sp applied g a ⟨applied', none⟩ g' → R g.ledger g'.ledger → Pre b applied g → Pre b applied' g'
  established : ∀ {s : Step} {applied applied' : NodeMap ContractId} {g g' : Grid},
    Effect p sp applied g s ⟨applied', none⟩ g' → R g.ledger g'.ledger → Pre s applied g → Post s applied' g'
  kept : ∀ {a b : Step} {applied applied' : NodeMap ContractId} {g g' : Grid}, Before a b →
    Effect p sp applied g b ⟨applied', none⟩ g' → R g.ledger g'.ledger → Pre b applied g → Post a applied g →
    Post a applied' g'

section Stepwise

variable {R : Ledger → Ledger → Prop} {Pre Post : Step → NodeMap ContractId → Grid → Prop} {a : Step}

/-- What a step has established holds after all the steps that follow it. -/
theorem Stepwise.kept_trace (h : Stepwise p sp R Pre Post) (htrace : Trace p sp steps applied g o g')
    (ho : o.error = none) (hledger : R g.ledger g'.ledger) (horder : (a :: steps).Pairwise Before)
    (hinit : ∀ s ∈ steps, Pre s applied g) (ha : Post a applied g) : Post a o.applied g' := by
  induction htrace with
  | done => exact ha
  | stopped => cases ho
  | @next s rest applied applied₁ g g₁ o g' heffect htrace ih =>
    obtain ⟨hleft, hright⟩ := h.divisible heffect.grows htrace.grows hledger
    obtain ⟨hfirst, hrest⟩ := List.pairwise_cons.mp horder
    obtain ⟨hsecond, hrest⟩ := List.pairwise_cons.mp hrest
    have hs := hinit s List.mem_cons_self
    -- `a` comes before the rest, and the rest still awaits its turn
    refine ih ho hright ?_ (fun b hb => ?_) (h.kept (hfirst s List.mem_cons_self) heffect hleft hs ha)
    · exact List.pairwise_cons.mpr ⟨fun b hb => hfirst b (List.mem_cons_of_mem _ hb), hrest⟩
    · exact h.awaited (hsecond b hb) heffect hleft (hinit b (List.mem_cons_of_mem _ hb))

theorem Stepwise.forall_steps (h : Stepwise p sp R Pre Post) (htrace : Trace p sp steps applied g o g')
    (ho : o.error = none) (hledger : R g.ledger g'.ledger) (horder : steps.Pairwise Before)
    (hinit : ∀ s ∈ steps, Pre s applied g) : ∀ s ∈ steps, Post s o.applied g' := by
  induction htrace with
  | done => exact nofun
  | stopped => cases ho
  | @next s rest applied applied₁ g g₁ o g' heffect htrace ih =>
    obtain ⟨hleft, hright⟩ := h.divisible heffect.grows htrace.grows hledger
    obtain ⟨hfirst, hrest⟩ := List.pairwise_cons.mp horder
    have hpending : ∀ b ∈ rest, Pre b applied₁ g₁ := fun b hb =>
      h.awaited (hfirst b hb) heffect hleft (hinit b (List.mem_cons_of_mem _ hb))
    intro a ha
    rcases List.mem_cons.mp ha with rfl | ha
    · have hpost := h.established heffect hleft (hinit a List.mem_cons_self)
      exact h.kept_trace htrace ho hright horder hpending hpost
    · exact ih ho hright hrest hpending a ha

end Stepwise

/-! ### What is in place -/

/-- The step is about what is in place on its node. -/
def FitsOne (applied : NodeMap ContractId) : Step → Prop
  | remove node contract | update node contract _ => applied[node]? = some contract
  | create node _ => applied[node]? = none

/-- What a step is about does not change by steps about other nodes. -/
theorem FitsOne.of_before {a b : Step} (h : FitsOne applied b) (hbefore : Before a b)
    (heffect : Effect p sp applied g a o g') : FitsOne o.applied b := by
  have hsame := heffect.applied_of_ne hbefore.1.symm
  cases b with
  | remove n c => exact hsame.trans h
  | create n d => exact hsame.trans h
  | update n c d => exact hsame.trans h

/-- Steps that are to be taken one after another, each about what is in place on its node. -/
structure Fits (applied : NodeMap ContractId) (steps : List Step) : Prop where
  each : ∀ s ∈ steps, FitsOne applied s
  order : steps.Pairwise Before

theorem fits_plan (current : NodeMap ContractId) (desired : NodeMap Deployment) :
    Fits current (plan current desired) := by
  refine ⟨fun s hs => ?_, pairwise_plan current desired⟩
  rcases mem_plan_iff.mp hs with ⟨n, c, rfl, hc, _⟩ | ⟨n, d, rfl, _, hn⟩ | ⟨n, c, d, rfl, hc, _⟩
  · exact hc
  · exact getElem?_eq_none_iff.mpr hn
  · exact hc

theorem Fits.head (h : Fits applied (s :: rest)) : FitsOne applied s := h.each s List.mem_cons_self

/-- The steps that remain fit what one of them has put in place. -/
theorem Fits.tail (h : Fits applied (s :: rest)) (heffect : Effect p sp applied g s o g') :
    Fits o.applied rest := by
  obtain ⟨hfirst, horder⟩ := List.pairwise_cons.mp h.order
  exact ⟨fun s' hs' => (h.each s' (List.mem_cons_of_mem _ hs')).of_before (hfirst s' hs') heffect, horder⟩

/-- A change of a deployment changes nothing of what is in place. -/
theorem Effect.applied_of_update (h : Effect p sp applied g s o g') (hs : s.phase = 2) : o.applied = applied := by
  cases h with
  | removed => cases hs
  | kept => rfl
  | notOpened => rfl
  | opened => cases hs
  | updated => rw [Outcome.applied_of]

/-- What is in place on a node stays there if no step cancels or makes a contract for the node. -/
theorem Trace.applied_of_ne (h : Trace p sp steps applied g o g') {n : NodeId}
    (hn : ∀ s ∈ steps, n ≠ s.node ∨ s.phase = 2) : o.applied[n]? = applied[n]? := by
  have hstep {s : Step} {applied : NodeMap ContractId} {g g' : Grid} {o : Outcome} (h : Effect p sp applied g s o g')
      (hs : n ≠ s.node ∨ s.phase = 2) : o.applied[n]? = applied[n]? := by
    rcases hs with hs | hs
    · exact h.applied_of_ne hs
    · rw [h.applied_of_update hs]
  induction h with
  | done => rfl
  | stopped heffect => exact hstep heffect (hn _ List.mem_cons_self)
  | next heffect _ ih =>
    rw [ih fun s hs => hn s (List.mem_cons_of_mem _ hs)]
    exact hstep heffect (hn _ List.mem_cons_self)

/-- A step puts in place no more than the contract that it makes. -/
theorem Effect.applied_of_not_create (h : Effect p sp applied g s o g') {n : NodeId} {c : ContractId}
    (hs : ∀ d, s ≠ create n d) (hc : o.applied[n]? = some c) : applied[n]? = some c := by
  cases h with
  | removed => exact (getElem?_erase_eq_some hc).2
  | kept => exact hc
  | notOpened => exact hc
  | @opened node d =>
    rw [Outcome.applied_of] at hc
    rcases getElem?_insert_eq_some hc with ⟨rfl, _⟩ | ⟨_, hc⟩
    · exact absurd rfl (hs d)
    · exact hc
  | updated =>
    rw [Outcome.applied_of] at hc
    exact hc

/-- On a node for which no contract is made what is in place was so before. -/
theorem Trace.applied_of_not_create (h : Trace p sp steps applied g o g') {n : NodeId} {c : ContractId}
    (hn : ∀ s ∈ steps, ∀ d, s ≠ create n d) (hc : o.applied[n]? = some c) : applied[n]? = some c := by
  induction h with
  | done => exact hc
  | stopped heffect => exact heffect.applied_of_not_create (hn _ List.mem_cons_self) hc
  | next heffect _ ih =>
    have hfirst := ih (fun s hs => hn s (List.mem_cons_of_mem _ hs)) hc
    exact heffect.applied_of_not_create (hn _ List.mem_cons_self) hfirst

end ComputeGrid.Step

namespace ComputeGrid.Deployer

variable {p : Deployer} {sp : Option UInt64} {current : NodeMap ContractId} {desired : NodeMap Deployment}
  {o : Outcome} {t t' : Timeline Grid}

theorem trace_of_pass (h : p.pass current desired sp t = .ok (o, t')) :
    Step.Trace p sp (Step.plan current desired) current t.state o t'.state :=
  Step.trace_of_runAll h

end ComputeGrid.Deployer
