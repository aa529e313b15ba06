import ComputeGrid.Proofs.Reconcile.Success

/-!
# What a failure leaves

Without a revert, a reconciliation that fails has done nothing, or its pass has stopped at a step
(`Deployer.reconcile_cases`, `Step.runAll_eq_error`), and the error tells which (`Step.Effect.not_unmet`).  In a pass
that stops every step before is complete, and what the nodes of the steps after it run and hold is as it was
(`Deployer.stops_of_reconcile`).

The step that fails leaves what other nodes hold as it is.  For a change this is not a matter of its contract alone,
which is written before the node refuses the change: the number of the contract may have been handed out anew, to a node
before.  But then the contract was not on the ledger at the start, and the node has forgotten what it ran under it or does
not answer, so that nothing is written (`Step.Effect.ledger_of_unread`).
-/

namespace ComputeGrid

/-! ### What errors are about -/

namespace DeployError

variable {e : DeployError} {node : NodeId} {contract : ContractId} {m : NodeMethod}

theorem node?_of_call? (h : e.call? = some (node, contract, m)) : e.node? = some node := by
  cases e
  all_goals cases h
  all_goals rfl

theorem NotConverged.node? (h : NotConverged node contract e) : e.node? = some node := by
  cases h
  all_goals rfl

theorem Unmet.node?_eq_none (h : e.Unmet) : e.node? = none := by
  cases h
  all_goals rfl

end DeployError

namespace Deployer

variable {p : Deployer} {node : NodeId} {contract : ContractId} {desired d : Deployment} {sp : Option UInt64}
  {e : DeployError} {g g' : Grid}

theorem Submitted.node?_of_error {s : Grid.Submission} (h : Submitted p s node d g (.error e) g') :
    e.node? = some node := by
  cases h with
  | failed hcall => exact DeployError.node?_of_call? hcall

theorem Got.node?_of_error (h : Got p node contract g (.error e) g') : e.node? = some node := by
  cases h with
  | failed hcall => exact DeployError.node?_of_call? hcall

theorem Awaited.node?_of_error {expected : NameMap UInt32} (h : Awaited p node contract expected g (.error e) g') :
    e.node? = some node := by
  cases h with
  | failed _ herror => exact herror.node?

theorem Opened.node?_of_error (h : Opened p node desired sp g (.error e) g') : e.node? = some node := by
  cases h with
  | invalid => rfl
  | refused => rfl
  | withdrawn _ _ _ _ hwithdraw =>
    cases hwithdraw with
    | canceled => rfl
    | dangling => rfl

theorem Updated.node?_of_error (h : Updated p node contract desired g (.error e) g') : e.node? = some node := by
  cases h with
  | unread hget => exact hget.node?_of_error
  | invalid => rfl
  | refused => rfl
  | failed _ _ _ _ _ hsubmit => exact hsubmit.node?_of_error
  | revised _ _ _ _ _ _ hawait => exact hawait.node?_of_error

end Deployer

namespace Step

variable {p : Deployer} {sp : Option UInt64} {current applied applied₁ : NodeMap ContractId}
  {desired : NodeMap Deployment} {steps done rest : List Step} {a s : Step} {o : Outcome} {e : DeployError}
  {t t' : Timeline Grid} {g₀ g g₁ g' : Grid} {n : NodeId} {c : ContractId}

/-- The error of a step names its node, or the contract that could not be canceled. -/
theorem Effect.node?_of_error (h : Effect p sp applied g s o g') (ho : o.error = some e) :
    e.node? = some s.node ∨ ∃ c cause, e = .cancel c cause := by
  cases h with
  | removed => cases ho
  | @kept _ contract cause =>
    cases ho
    exact .inr ⟨contract, cause, rfl⟩
  | notOpened hopen =>
    cases ho
    exact .inl hopen.node?_of_error
  | @opened _ _ _ r _ _ _ hawait =>
    rcases r with e' | ⟨⟩
    · cases ho
      exact .inl hawait.node?_of_error
    · cases ho
  | @updated _ _ _ r _ hupdate =>
    rcases r with e' | ⟨⟩
    · cases ho
      exact .inl hupdate.node?_of_error
    · cases ho

/-- No step fails because of what must hold before a pass. -/
theorem Effect.not_unmet (h : Effect p sp applied g s o g') (ho : o.error = some e) : ¬ e.Unmet := by
  intro hunmet
  rcases h.node?_of_error ho with hnode | ⟨c, cause, rfl⟩
  · rw [hunmet.node?_eq_none] at hnode
    cases hnode
  · cases hunmet

/-! ### Where a pass stops -/

/-- Steps that fail do so at one of them, after the ones before it. -/
theorem runAll_eq_error (h : runAll p sp applied steps t = .ok (o, t')) (ho : o.error = some e) :
    ∃ done s rest applied₁ t₁, steps = done ++ s :: rest ∧
      runAll p sp applied done t = .ok (⟨applied₁, none⟩, t₁) ∧ s.run p sp applied₁ t₁ = .ok (o, t') := by
  induction steps generalizing applied t with
  | nil =>
    rw [runAll, Timed.pure_eq_ok] at h
    cases h
    cases ho
  | cons s rest ih =>
    rw [runAll, Timed.bind_eq_ok] at h
    obtain ⟨⟨applied₁, _ | e'⟩, t₁, hrun, h⟩ := h
    · obtain ⟨done, s', rest', applied₂, t₂, rfl, hdone, hrun'⟩ := ih h
      refine ⟨s :: done, s', rest', applied₂, t₂, rfl, ?_, hrun'⟩
      rw [runAll, Timed.bind_run hrun]
      exact hdone
    · rw [Timed.pure_eq_ok] at h
      cases h
      exact ⟨[], s, rest, applied, t, rfl, rfl, hrun⟩

/-! ### What is complete -/

/-- A step of a pass from `g₀` has achieved all that it is to achieve. -/
structure Complete (p : Deployer) (g₀ : Grid) (applied : NodeMap ContractId) (g : Grid) (s : Step) : Prop where
  done : Done p applied g s
  settles : Settles g₀ applied g s

/-- What is complete stays so through a step about another node that leaves its contract as it is, even one that fails. -/
theorem Complete.of_before (ha : Complete p g₀ applied g a) (hbefore : Before a s) (h : Effect p sp applied g s o g')
    (hattached : g.attached = true) (hgrows : Ledger.Grows g₀.ledger g.ledger) (hfresh : Ledger.Fresh g.ledger g'.ledger)
    (hkept : ∀ c k, applied[a.node]? = some c → g.ledger.active? c = some k → g'.ledger.active? c = some k) :
    Complete p g₀ o.applied g' a := by
  obtain ⟨_, htouches⟩ := h.touches
  have happlied := h.applied_of_ne hbefore.1
  obtain ⟨hdone, hsettles⟩ := ha
  cases a with
  | remove n c => exact ⟨happlied.trans hdone, h.made_of_isActive hgrows hfresh hsettles⟩
  | create n d =>
    obtain ⟨c, hc, hplaced⟩ := hdone
    obtain ⟨c', k, stored, hc', hsettled, hips⟩ := hsettles
    obtain rfl : c = c' := Option.some.inj (hc.symm.trans hc')
    have hactive := hkept c k hc hsettled.active
    have hover := Grid.isOver_eq_false_of_isActive ⟨k, hactive⟩
    exact ⟨⟨c, happlied.trans hc, hplaced.of_touches htouches hbefore.1 hover⟩,
      c, k, stored, happlied.trans hc, hsettled.of_touches htouches hbefore.1 hactive, hips⟩
  | update n c d =>
    obtain ⟨hc, hplaced⟩ := hdone
    obtain ⟨k, hk⟩ := Grid.isActive_of_isOver_eq_false hattached hplaced.notOver
    have hover := Grid.isOver_eq_false_of_isActive ⟨k, hkept c k hc hk⟩
    refine ⟨⟨happlied.trans hc, hplaced.of_touches htouches hbefore.1 hover⟩, fun hcalls => ?_⟩
    have hsame : g'.callsTo n NodeMethod.update.text = g.callsTo n NodeMethod.update.text :=
      htouches.callsTo_of_ne hbefore.1 _
    obtain ⟨k', stored, hsettled⟩ := hsettles (hsame ▸ hcalls)
    exact ⟨k', stored, hsettled.of_touches htouches hbefore.1 (hkept c k' hc hsettled.active)⟩

/-- What is in place after steps was so before, or its number was not on the ledger. -/
theorem Trace.not_mem_of_applied (h : Trace p sp steps applied g o g') (hfresh : Ledger.Fresh g.ledger g'.ledger)
    (hc : o.applied[n]? = some c) : applied[n]? = some c ∨ c ∉ g.ledger.contracts := by
  have hstep {s : Step} {applied : NodeMap ContractId} {o : Outcome} {g g' : Grid} (h : Effect p sp applied g s o g')
      (hfresh : Ledger.Fresh g.ledger g'.ledger) (hc : o.applied[n]? = some c) :
      applied[n]? = some c ∨ c ∉ g.ledger.contracts := by
    cases h with
    | removed => exact .inl (getElem?_erase_eq_some hc).2
    | kept => exact .inl hc
    | notOpened => exact .inl hc
    | opened hopen hawait =>
      rw [Outcome.applied_of] at hc
      rcases getElem?_insert_eq_some hc with ⟨_, rfl⟩ | ⟨_, hc⟩
      · rw [hawait.asked.ledger] at hfresh
        exact .inr (not_mem_of_opened hopen hfresh)
      · exact .inl hc
    | updated =>
      rw [Outcome.applied_of] at hc
      exact .inl hc
  induction h with
  | done => exact .inl hc
  | stopped heffect => exact hstep heffect hfresh hc
  | next heffect htrace ih =>
    rcases ih (hfresh.right heffect.grows htrace.grows) hc with hc | hnew
    · exact hstep heffect (hfresh.left heffect.grows htrace.grows) hc
    · exact .inr fun hmem => hnew (heffect.grows.kept c hmem)

/-- A step that fails and is about what cannot be read leaves the ledger as it is. -/
theorem Effect.ledger_of_unread (h : Effect p sp applied g s o g') (ho : o.error = some e) (hs : s.contract? = some c)
    (hunread : ¬ (g.Answers s.node p.settings.fetchTimeout ∧ ∃ d, g.deployment? s.node c = some d)) :
    g'.ledger = g.ledger := by
  have hnone {d : Deployment} {g₁ : Grid} (hget : Deployer.Got p s.node c g (.ok d) g₁) : False := by
    cases hget with
    | live hanswers _ hd => exact hunread ⟨hanswers, d, hd⟩
  cases h with
  | removed => cases ho
  | kept => rfl
  | notOpened => cases hs
  | opened => cases hs
  | updated hupdate =>
    obtain rfl := Option.some.inj hs
    cases hupdate with
    | unread hget => exact hget.asked.ledger
    | unchanged hget => exact (hnone hget).elim
    | invalid hget => exact (hnone hget).elim
    | refused hget => exact (hnone hget).elim
    | failed hget => exact (hnone hget).elim
    | revised hget => exact (hnone hget).elim

/-! ### Passes that stop -/

section Stop

variable (hplan : plan current desired = done ++ s :: rest) (htrace : Trace p sp done current g ⟨applied, none⟩ g₁)
  (heffect : Effect p sp applied g₁ s o g')
include hplan htrace heffect

/-- Where a step fails, and nodes that answer have forgotten what is over, every step before it is complete. -/
theorem complete_of_stop (ho : o.error = some e) (honeToOne : OneToOne current) (hattached : g.attached = true)
    (hfresh : Ledger.Fresh g.ledger g'.ledger) (hforgets : ∀ (n : NodeId) (c : ContractId), current[n]? = some c →
      g.isOver c = true → g.Answers n p.settings.fetchTimeout → g.deployment? n c = none) (ha : a ∈ done) :
    Complete p g o.applied g' a := by
  have hfits := fits_plan current desired
  rw [hplan] at hfits
  obtain ⟨horder, -, hcross⟩ := List.pairwise_append.mp hfits.order
  have hdone : Fits current done := ⟨fun b hb => hfits.each b (List.mem_append_left _ hb), horder⟩
  have hbefore : Before a s := hcross a ha s List.mem_cons_self
  have hleft := hfresh.left htrace.grows heffect.grows
  have hright := hfresh.right htrace.grows heffect.grows
  have hcomplete : Complete p g applied g₁ a :=
    ⟨htrace.forall_done rfl hdone a ha, htrace.forall_settles rfl hattached hleft hdone a ha⟩
  refine hcomplete.of_before hbefore heffect (htrace.steady.attached.trans hattached) htrace.grows hright ?_
  intro c k hc hk
  by_cases hs : s.contract? ≠ some c
  · exact heffect.active?_of_ne hs hright hk
  rw [Classical.not_not] at hs
  -- the contract of `s` is in place on the node of `a`: it was made, under a number that was not on the ledger
  have hcurrent := (hfits.each s (List.mem_append_right _ List.mem_cons_self)).applied_of_contract? hs
  have hnew : c ∉ g.ledger.contracts := (htrace.not_mem_of_applied hleft hc).resolve_left fun hold =>
    hbefore.1 (honeToOne a.node s.node c hold hcurrent)
  have hover : g.isOver c = true := Bool.of_not_eq_false fun hover =>
    hnew (Grid.isActive_of_isOver_eq_false hattached hover).mem
  rw [heffect.ledger_of_unread ho hs ?_]
  · exact hk
  rintro ⟨hanswers, d, hd⟩
  rw [(htrace.elsewhere fun b hb => (hcross b hb s List.mem_cons_self).1.symm).1 c,
    hforgets s.node c hcurrent hover (htrace.steady.symm.answers hanswers)] at hd
  cases hd

/-- The nodes of the steps after one that is taken run what they ran and get no call, and the records of their contracts
are as they were. -/
theorem spared_of_stop (honeToOne : OneToOne current) (hfresh : Ledger.Fresh g.ledger g'.ledger) (ha : a ∈ rest) :
    (∀ c, g'.deployment? a.node c = g.deployment? a.node c) ∧
    (∀ name, g'.callsTo a.node name = g.callsTo a.node name) ∧
    ∀ c, current[a.node]? = some c → c ∈ g.ledger.contracts → g'.ledger.contracts[c]? = g.ledger.contracts[c]? := by
  have hfits := fits_plan current desired
  rw [hplan, List.append_cons] at hfits
  obtain ⟨-, -, hcross⟩ := List.pairwise_append.mp hfits.order
  have hall := htrace.append rfl heffect.trace
  obtain ⟨hruns, hcalls⟩ := hall.elsewhere fun b hb => (hcross b hb a ha).1.symm
  refine ⟨hruns, hcalls, fun c hc hmem => hall.record_of_ne (fun b hb hs => ?_) hfresh hmem⟩
  have hcurrent := (hfits.each b (List.mem_append_left _ hb)).applied_of_contract? hs
  exact (hcross b hb a ha).1 (honeToOne b.node a.node c hcurrent hc)

/-- A contract that no node had and that is not made has the record that it had. -/
theorem record_of_stop (hfresh : Ledger.Fresh g.ledger g'.ledger) (hc : ∀ n : NodeId, current[n]? ≠ some c)
    (hmade : ¬ Ledger.Made g.ledger g'.ledger c) : g'.ledger.contracts[c]? = g.ledger.contracts[c]? := by
  have hfits := fits_plan current desired
  rw [hplan, List.append_cons] at hfits
  by_cases hmem : c ∈ g.ledger.contracts
  · refine (htrace.append rfl heffect.trace).record_of_ne (fun b hb hs => ?_) hfresh hmem
    exact hc b.node ((hfits.each b (List.mem_append_left _ hb)).applied_of_contract? hs)
  · have hnot : c ∉ g'.ledger.contracts := fun hnew => hmade ⟨hmem, hnew⟩
    rw [getElem?_eq_none_iff.mpr hmem, getElem?_eq_none_iff.mpr hnot]

end Stop

end Step

/-! ### Reconciliations that fail -/

namespace Deployer

variable {p : Deployer} {current : NodeMap ContractId} {desired : NodeMap Deployment} {sp : Option UInt64} {o : Outcome}
  {e : DeployError} {t t' : Timeline Grid}

/-- Without a revert a reconciliation ends before its pass, because of what must hold there, or with its pass. -/
theorem reconcile_cases (h : p.reconcile current desired sp t = .ok (o, t')) (hrevert : p.settings.revertOnFailure = false) :
    ∃ fetched t₁, Grid.fetchFleet current p.settings.fetchTimeout t = .ok (fetched, t₁) ∧
      ((∃ e, e.Unmet ∧ o.error = some e ∧ t' = t₁) ∨ p.pass current desired sp t₁ = .ok (o, t')) := by
  rw [reconcile, Timed.bind_eq_ok] at h
  obtain ⟨fetched, t₁, hfetch, h⟩ := h
  refine ⟨fetched, t₁, hfetch, ?_⟩
  rw [Timed.bind_eq_ok] at h
  obtain ⟨checked, t₂, hcheck, h⟩ := h
  obtain ⟨rfl, -, hunmet⟩ := precheck_eq_ok hcheck
  rcases checked with e | ⟨⟩
  · rw [Timed.pure_eq_ok] at h
    cases h
    exact .inl ⟨e, hunmet e rfl, rfl, rfl⟩
  dsimp only at h
  rw [Timed.bind_eq_ok] at h
  obtain ⟨⟨applied, _ | cause⟩, t₃, hpass, h⟩ := h
  · rw [Timed.pure_eq_ok] at h
    cases h
    exact .inr hpass
  · dsimp only at h
    rw [if_neg (Bool.eq_false_iff.mp hrevert), Timed.pure_eq_ok] at h
    cases h
    exact .inr hpass

/-- Neither the ledger nor any deployment under an active contract has changed. -/
structure Untouched (before after : Grid) : Prop where
  ledger : after.ledger = before.ledger
  deployments : ∀ n c, before.ledger.IsActive c → after.deployment? n c = before.deployment? n c

/-- The pass of a reconciliation stops at the step `s` of its plan, after the steps `done` and before the steps `rest`. -/
structure Stops (p : Deployer) (current : NodeMap ContractId) (desired : NodeMap Deployment) (sp : Option UInt64)
    (done : List Step) (s : Step) (rest : List Step) (o : Outcome) (t t' : Timeline Grid) : Prop where
  plan : Step.plan current desired = done ++ s :: rest
  /-- Once the deployments have been asked for, the steps before `s` are taken without error, and then `s` fails. -/
  runs : ∃ fetched t₁ applied t₂, Grid.fetchFleet current p.settings.fetchTimeout t = .ok (fetched, t₁) ∧
    Step.runAll p sp current done t₁ = .ok (⟨applied, none⟩, t₂) ∧ s.run p sp applied t₂ = .ok (o, t')
  complete : ∀ a ∈ done, Step.Complete p t.state o.applied t'.state a
  /-- The active contract of a node that is still to come has the record that it had. -/
  record : ∀ a ∈ rest, ∀ c, current[a.node]? = some c → t.state.ledger.IsActive c →
    t'.state.ledger.contracts[c]? = t.state.ledger.contracts[c]?
  /-- The node runs what it ran under it. -/
  deployment : ∀ a ∈ rest, ∀ c, current[a.node]? = some c → t.state.ledger.IsActive c →
    t'.state.deployment? a.node c = t.state.deployment? a.node c
  calls : ∀ a ∈ rest, ∀ m ∈ [NodeMethod.deploy, .update],
    t'.state.callsTo a.node m.text = t.state.callsTo a.node m.text
  /-- Contracts that no node had and that have not been made have the records that they had. -/
  others : ∀ c, (∀ n : NodeId, current[n]? ≠ some c) → ¬ Ledger.Made t.state.ledger t'.state.ledger c →
    t'.state.ledger.contracts[c]? = t.state.ledger.contracts[c]?

/-- A reconciliation that fails without a revert has changed nothing, if its error is one of what must hold before a pass,
and otherwise its pass has stopped at a step: the steps before it are complete, and what belongs to those after it is
as it was.  This is on nodes that are attached to the ledger, if nodes have different contracts and new contracts take
new numbers. -/
theorem stops_of_reconcile (h : p.reconcile current desired sp t = .ok (o, t')) (ho : o.error = some e)
    (hrevert : p.settings.revertOnFailure = false) (honeToOne : OneToOne current) (hattached : t.state.attached = true)
    (hfresh : Ledger.Fresh t.state.ledger t'.state.ledger) :
    (e.Unmet ∧ Untouched t.state t'.state) ∨
    ¬ e.Unmet ∧ ∃ done s rest, Stops p current desired sp done s rest o t t' := by
  obtain ⟨fetched, t₁, hfetch, hend⟩ := reconcile_cases h hrevert
  have hread := Grid.read_fetchFleet hfetch
  rcases hend with ⟨e', hunmet, ho', rfl⟩ | hpass
  · obtain rfl : e = e' := Option.some.inj (ho.symm.trans ho')
    exact .inl ⟨hunmet, hread.ledger, fun n c hc => hread.same n c (Grid.isOver_eq_false_of_isActive hc)⟩
  obtain ⟨done, s, rest, applied, t₂, hplan, hdone, hrun⟩ := Step.runAll_eq_error hpass ho
  have htrace := Step.trace_of_runAll hdone
  have heffect := Step.effect_of_run hrun
  have hattached₁ : t₁.state.attached = true := hread.attached.trans hattached
  have hfresh₁ : Ledger.Fresh t₁.state.ledger t'.state.ledger := hread.ledger ▸ hfresh
  have hforgets : ∀ (n : NodeId) (c : ContractId), current[n]? = some c → t₁.state.isOver c = true →
      t₁.state.Answers n p.settings.fetchTimeout → t₁.state.deployment? n c = none := fun n c hc hover hanswers =>
    Grid.fetchFleet_forgets hfetch hc ((hread.isOver c).symm.trans hover) (hread.toSteady.symm.answers hanswers)
  have hspared {a : Step} (ha : a ∈ rest) := Step.spared_of_stop hplan htrace heffect honeToOne hfresh₁ ha
  refine .inr ⟨heffect.not_unmet ho, done, s, rest, {
    plan := hplan
    runs := ⟨fetched, t₁, applied, t₂, hfetch, hdone, hrun⟩
    complete := ?complete
    record := ?record
    deployment := ?deployment
    calls := ?calls
    others := ?others }⟩
  case complete =>
    intro a ha
    have hcomplete := Step.complete_of_stop hplan htrace heffect ho honeToOne hattached₁ hfresh₁ hforgets ha
    exact ⟨hcomplete.done, hcomplete.settles.of_asked hread.toAsked⟩
  case record =>
    intro a ha c hc hactive
    rw [← hread.ledger] at hactive ⊢
    exact (hspared ha).2.2 c hc hactive.mem
  case deployment =>
    intro a ha c _ hactive
    exact ((hspared ha).1 c).trans (hread.same a.node c (Grid.isOver_eq_false_of_isActive hactive))
  case calls =>
    intro a ha m hm
    have hother : m ≠ .get := by
      rintro rfl
      exact absurd hm (by decide)
    exact ((hspared ha).2.1 m.text).trans (hread.callsTo_of_get hother a.node)
  case others =>
    intro c hc hmade
    rw [← hread.ledger] at hmade ⊢
    exact Step.record_of_stop hplan htrace heffect hfresh₁ hc hmade

/-! ### A node that gets no contract -/

/-- The ledger makes no contracts with node 2.  Contract 1 is with node 1, and node 3 runs a deployment under contract 3. -/
def barringGrid : Grid where
  ledger := { Ledger.new 1 with
    nextId := 4
    contracts := (single 3 (.sample 3 3 "c")).insert 1 (.sample 1 1 "a")
    refusedNodes := .ofList [(2 : NodeId)] }
  nodes := (single 3 { Node.new with deployments := single 3 (.sample "c") }).insert 1 .new
  calls := []
  attached := true
  inventory := none

/-- The contracts of nodes 1 and 3. -/
def heldContracts : NodeMap ContractId := (single 3 3).insert 1 1

/-- What is wanted on nodes 2 and 3. -/
def wantedDisks : NodeMap Deployment := (single 3 (.sample "d")).insert 2 (.sample "b")

/-- The sample deployer without a revert. -/
def lenient : Deployer := { sample with settings := .standard }

/-- The pass cancels contract 1, gets no contract with node 2, and does not come to node 3. -/
theorem stops_of_barring : ∃ o t' done s rest,
    lenient.reconcile heldContracts wantedDisks none ⟨0, barringGrid⟩ = .ok (o, t') ∧
    o.error = some (.ledger 2 .create (.nodeRefused 2)) ∧
    Stops lenient heldContracts wantedDisks none done s rest o ⟨0, barringGrid⟩ t' := by
  have hpasses : Checked.passes (lenient.reconcile heldContracts wantedDisks none ⟨0, barringGrid⟩)
      (fun r => r.1.error = some (.ledger 2 .create (.nodeRefused 2)) &&
        decide (Ledger.Fresh barringGrid.ledger r.2.state.ledger)) = true := by decide +kernel
  obtain ⟨⟨o, t'⟩, hrun, htest⟩ := Checked.exists_of_passes hpasses
  rw [Bool.and_eq_true, decide_eq_true_eq, decide_eq_true_eq] at htest
  have honeToOne : OneToOne heldContracts := by
    refine (oneToOne_single 3 3).insert fun n hn => ?_
    cases (getElem?_single_eq_some hn).2
  rcases stops_of_reconcile hrun htest.1 rfl honeToOne rfl htest.2 with ⟨hunmet, -⟩ | ⟨-, done, s, rest, hstops⟩
  · cases hunmet
  · exact ⟨o, t', done, s, rest, hrun, htest.1, hstops⟩

end Deployer

end ComputeGrid
