import ComputeGrid.Proofs.Reconcile.Runs

/-!
# What a pass without error leaves

After a pass without error there is a contract in place for each node that is wanted, the old one where
there was one, and for no other node (`Step.Trace.applied_eq_none`, `Step.Trace.placed`).
Each of these nodes runs the wanted content under its contract, which is not over (`Deployer.Placed`), and an
update of that does nothing but ask for it (`Deployer.update_run_of_placed`).
-/

namespace ComputeGrid

open Std (ExtTreeMap)

namespace Deployer

open Grid (Asked Steady)

variable {p : Deployer} {g g₁ g' : Grid} {n : NodeId} {c : ContractId} {d desired : Deployment}

/-- A node runs the wanted content under a contract that is not over, and it answers in time. -/
structure Placed (p : Deployer) (g : Grid) (n : NodeId) (c : ContractId) (desired : Deployment) : Prop where
  answers : g.Answers n p.settings.fetchTimeout
  notOver : g.isOver c = false
  content : ∃ live, g.deployment? n c = some live ∧ live.isUnchanged desired = true

/-- Reports do not matter for what is placed. -/
theorem Placed.of_same (h : Placed p g n c desired) (hsteady : Steady g g') (hover : g'.isOver c = false)
    (hsame : (g'.deployment? n c).map Deployment.unreported = (g.deployment? n c).map Deployment.unreported) :
    Placed p g' n c desired := by
  obtain ⟨live, hlive, hcontent⟩ := h.content
  rw [hlive, Option.map_some, Option.map_eq_some_iff] at hsame
  obtain ⟨live', hlive', hunreported⟩ := hsame
  refine ⟨hsteady.answers h.answers, hover, live', hlive', ?_⟩
  rw [Deployment.isUnchanged_congr (Deployment.chosen_congr hunreported) rfl, hcontent]

/-- Work on other nodes does not matter for what is placed, as long as its contract is not over. -/
theorem Placed.of_touches {m : NodeId} {c' : ContractId} (h : Placed p g n c desired) (htouches : Grid.Touches m c' g g')
    (hn : n ≠ m) (hover : g'.isOver c = false) : Placed p g' n c desired :=
  h.of_same htouches.toSteady hover (congrArg _ (htouches.elsewhere n c fun hat => hn hat.1))

theorem Placed.of_asked {ms : List NodeMethod} {S : NodeId → ContractId → Prop} (h : Placed p g n c desired)
    (hasked : Asked ms S g g') : Placed p g' n c desired :=
  h.of_same hasked.toSteady ((hasked.isOver c).trans h.notOver) (hasked.kept n c h.notOver)

/-- What a node has taken is placed when it has converged. -/
theorem Submitted.placed {s : Grid.Submission} (h : Submitted p s n d g (.ok ()) g₁)
    (hawait : Awaited p n d.contractId d.workloadVersions g₁ (.ok ()) g') (hchosen : d.chosen = desired.chosen) :
    Placed p g' n d.contractId desired := by
  obtain ⟨stored, hstored, hsame, _⟩ := h.converged hawait
  cases hawait with
  | converged hasked hanswers hover =>
    refine ⟨hasked.toSteady.answers hanswers, (hasked.isOver _).trans hover, stored, hstored, ?_⟩
    exact Deployment.isUnchanged_of_chosen_eq ((Deployment.chosen_congr hsame).trans hchosen)

theorem Updated.placed (h : Updated p n c desired g (.ok ()) g') : Placed p g' n c desired := by
  cases h with
  | @unchanged live _ hget hsame =>
    have hasked := hget.asked
    cases hget with
    | live hanswers hover hlive => exact Placed.of_asked ⟨hanswers, hover, live, hlive, hsame⟩ hasked
  | revised _ _ _ hsign _ hsubmit hawait =>
    obtain rfl := contractId_of_sign_revision hsign
    exact hsubmit.placed hawait (chosen_of_sign_revision hsign)

/-! ### Updates of what is placed -/

/-- An update to what is placed already asks for the deployment and ends. -/
theorem update_run_of_placed {n : NodeId} {c : ContractId} {d : Deployment} (h : Placed p t.state n c d) :
    ∃ t', p.update n c d t = .ok (.ok (), t') ∧ Asked [.get] (Grid.At n c) t.state t'.state := by
  obtain ⟨r, t₁, hrun, hgot⟩ := get_run p n c t
  refine ⟨t₁, ?_, hgot.asked⟩
  obtain ⟨live, hlive, hcontent⟩ := h.content
  rw [update, Timed.bind_run hrun]
  rcases t₁ with ⟨now, g₁⟩
  cases hgot with
  | live _ _ hd =>
    obtain rfl := Option.some.inj (hlive.symm.trans hd)
    dsimp only
    rw [if_pos hcontent]
    rfl
  | failed _ _ hnot => exact absurd ⟨h.answers, h.notOver, live, hlive⟩ hnot

/-- A pass over what is placed already does no more than ask for it. -/
theorem runAll_run_of_placed (sp : Option UInt64) {steps : List Step} (hsteps : ∀ s ∈ steps, ∃ n c d, s = .update n c d ∧
      applied[n]? = some c ∧ Placed p t.state n c d) :
    ∃ t', Step.runAll p sp applied steps t = .ok (⟨applied, none⟩, t') ∧
      Asked [.get] (fun n c => applied[n]? = some c) t.state t'.state := by
  induction steps generalizing t with
  | nil => exact ⟨t, rfl, .refl _ _ _⟩
  | cons s rest ih =>
    obtain ⟨n, c, d, rfl, hc, hplaced⟩ := hsteps s List.mem_cons_self
    obtain ⟨t₁, hupdate, hasked⟩ := update_run_of_placed hplaced
    have hasked : Asked [.get] (fun n c => applied[n]? = some c) t.state t₁.state := by
      refine hasked.mono (fun _ hm => hm) ?_
      rintro n' c' ⟨rfl, rfl⟩
      exact hc
    obtain ⟨t₂, hrest, hasked₂⟩ := ih (t := t₁) fun s hs => by
      obtain ⟨n', c', d', rfl, hc', hplaced'⟩ := hsteps s (List.mem_cons_of_mem _ hs)
      exact ⟨n', c', d', rfl, hc', hplaced'.of_asked hasked⟩
    refine ⟨t₂, ?_, hasked.trans hasked₂⟩
    have hstep : (Step.update n c d).run p sp applied t = .ok (⟨applied, none⟩, t₁) := Timed.bind_run hupdate
    rw [Step.runAll, Timed.bind_run hstep]
    exact hrest

end Deployer

namespace Step

open Deployer (Placed)

variable {p : Deployer} {sp : Option UInt64} {applied applied' : NodeMap ContractId} {a s : Step} {o : Outcome}
  {g g' : Grid}

/-- What a step without error is to achieve. -/
def Done (p : Deployer) (applied : NodeMap ContractId) (g : Grid) : Step → Prop
  | remove node _ => applied[node]? = none
  | create node desired => ∃ c, applied[node]? = some c ∧ Placed p g node c desired
  | update node contract desired => applied[node]? = some contract ∧ Placed p g node contract desired

theorem Effect.done (h : Effect p sp applied g s o g') (ho : o.error = none) (hfits : FitsOne applied s) :
    Done p o.applied g' s := by
  cases h with
  | removed => exact ExtTreeMap.getElem?_erase_self
  | kept => cases ho
  | notOpened => cases ho
  | @opened node desired _ r _ _ hopen hawait =>
    rcases r with e | ⟨⟩
    · cases ho
    cases hopen with
    | @opened d _ c _ _ hsign _ _ hsubmit =>
      exact ⟨c, ExtTreeMap.getElem?_insert_self, hsubmit.placed hawait (Deployer.chosen_of_sign_first hsign c)⟩
  | @updated _ _ _ r _ hupdate =>
    rcases r with e | ⟨⟩
    · cases ho
    exact ⟨hfits, hupdate.placed⟩

/-- No contract is canceled by a step without error that makes or changes one. -/
theorem Effect.isActive (h : Effect p sp applied g s o g') (ho : o.error = none) (hphase : s.phase ≠ 0)
    {c : ContractId} (hc : g.ledger.IsActive c) : g'.ledger.IsActive c := by
  cases h with
  | removed => exact absurd rfl hphase
  | kept => exact absurd rfl hphase
  | notOpened => cases ho
  | opened hopen hawait =>
    cases hopen with
    | @opened _ _ c' l _ _ _ hcreate hsubmit =>
      rw [hawait.asked.ledger, hsubmit.ledger]
      change l.IsActive c
      by_cases hsame : c = c'
      · rw [hsame]
        exact ⟨_, Ledger.active?_create hcreate⟩
      · exact (Ledger.isActive_congr ((Ledger.touches_create hcreate).others c hsame)).mpr hc
  | updated hupdate => exact (hupdate.sameActive.active c).mpr hc

/-- What is placed on a node stays so while other nodes get or change their deployments. -/
theorem Effect.placed_of_ne {n : NodeId} {c : ContractId} {d : Deployment} (h : Effect p sp applied g s o g')
    (ho : o.error = none) (hphase : s.phase ≠ 0) (hn : n ≠ s.node) (hplaced : Placed p g n c d) :
    Placed p g' n c d := by
  obtain ⟨_, htouches⟩ := h.touches
  refine hplaced.of_touches htouches hn ?_
  exact Grid.isOver_of_isActive_imp htouches.attached (h.isActive ho hphase) hplaced.notOver

/-- What a step has achieved outlasts the steps after it. -/
theorem Done.of_before (ha : Done p applied g a) (hbefore : Before a s) (h : Effect p sp applied g s o g')
    (ho : o.error = none) : Done p o.applied g' a := by
  have happlied := h.applied_of_ne hbefore.1
  cases a with
  | remove n c => exact happlied.trans ha
  | create n d =>
    obtain ⟨c, hc, hplaced⟩ := ha
    have hphase : s.phase ≠ 0 := fun hzero => Nat.not_succ_le_zero _ (hzero ▸ hbefore.2)
    exact ⟨c, happlied.trans hc, h.placed_of_ne ho hphase hbefore.1 hplaced⟩
  | update n c d =>
    have hphase : s.phase ≠ 0 := fun hzero => Nat.not_succ_le_zero _ (hzero ▸ hbefore.2)
    exact ⟨happlied.trans ha.1, h.placed_of_ne ho hphase hbefore.1 ha.2⟩

theorem stepwise_done (p : Deployer) (sp : Option UInt64) :
    Stepwise p sp (fun _ _ => True) (fun s applied _ => FitsOne applied s) (fun s applied g => Done p applied g s) where
  divisible := fun _ _ _ => ⟨trivial, trivial⟩
  awaited := fun hbefore heffect _ hfits => hfits.of_before hbefore heffect
  established := fun heffect _ hfits => heffect.done rfl hfits
  kept := fun hbefore heffect _ _ hdone => hdone.of_before hbefore heffect rfl

/-- After a pass without error every step of it has achieved what it is to achieve. -/
theorem Trace.forall_done {steps : List Step} (h : Trace p sp steps applied g o g') (ho : o.error = none)
    (hfits : Fits applied steps) : ∀ s ∈ steps, Done p o.applied g' s :=
  (stepwise_done p sp).forall_steps h ho trivial hfits.order hfits.each

end Step

/-! ### Passes without error -/

namespace Step

open Deployer (Placed)

variable {p : Deployer} {current : NodeMap ContractId} {desired : NodeMap Deployment} {sp : Option UInt64}
  {o : Outcome} {g g' : Grid} {n : NodeId} {d : Deployment}

/-- After a pass without error no contract is in place for a node that is not wanted. -/
theorem Trace.applied_eq_none (h : Trace p sp (plan current desired) current g o g') (ho : o.error = none)
    (hn : n ∉ desired) : o.applied[n]? = none := by
  rcases hcurrent : current[n]? with _ | c
  · rw [← hcurrent]
    refine h.applied_of_ne fun s hs => .inl ?_
    rcases mem_plan_iff.mp hs with ⟨n', c, rfl, hc, _⟩ | ⟨n', d, rfl, hd, _⟩ | ⟨n', c, d, rfl, hc, _⟩
    · rintro (rfl : n = n')
      rw [hcurrent] at hc
      cases hc
    · rintro (rfl : n = n')
      exact hn (mem_iff_exists_getElem?.mpr ⟨d, hd⟩)
    · rintro (rfl : n = n')
      rw [hcurrent] at hc
      cases hc
  · exact h.forall_done ho (fits_plan current desired) (.remove n c) (mem_plan_iff.mpr (.inl ⟨n, c, rfl, hcurrent, hn⟩))

/-- After a pass without error what is wanted on a node is placed there, under the contract that the node
had if it had one. -/
theorem Trace.placed (h : Trace p sp (plan current desired) current g o g') (ho : o.error = none)
    (hd : desired[n]? = some d) :
    ∃ c, o.applied[n]? = some c ∧ Placed p g' n c d ∧ ∀ c₀, current[n]? = some c₀ → c = c₀ := by
  have hdone := h.forall_done ho (fits_plan current desired)
  rcases hcurrent : current[n]? with _ | c
  · obtain ⟨c, hc, hplaced⟩ := hdone (.create n d)
      (mem_plan_iff.mpr (.inr (.inl ⟨n, d, rfl, hd, getElem?_eq_none_iff.mp hcurrent⟩)))
    exact ⟨c, hc, hplaced, nofun⟩
  · obtain ⟨hc, hplaced⟩ := hdone (.update n c d)
      (mem_plan_iff.mpr (.inr (.inr ⟨n, c, d, rfl, hcurrent, hd⟩)))
    exact ⟨c, hc, hplaced, fun c₀ hc₀ => Option.some.inj hc₀⟩

/-- After a pass without error there is a contract in place for exactly the nodes that are wanted. -/
theorem Trace.mem_applied_iff (h : Trace p sp (plan current desired) current g o g') (ho : o.error = none) :
    n ∈ o.applied ↔ n ∈ desired := by
  constructor
  · intro hn
    refine Classical.byContradiction fun hunwanted => ?_
    exact getElem?_eq_none_iff.mp (h.applied_eq_none ho hunwanted) hn
  · intro hn
    obtain ⟨d, hd⟩ := mem_iff_exists_getElem?.mp hn
    obtain ⟨c, hc, _⟩ := h.placed ho hd
    exact mem_iff_exists_getElem?.mpr ⟨c, hc⟩

/-- What is in place after a pass without error is what is wanted. -/
theorem Trace.placed_of_applied {c : ContractId} (h : Trace p sp (plan current desired) current g o g')
    (ho : o.error = none) (hc : o.applied[n]? = some c) :
    ∃ d, desired[n]? = some d ∧ Placed p g' n c d ∧ ∀ c₀, current[n]? = some c₀ → c = c₀ := by
  obtain ⟨d, hd⟩ := mem_iff_exists_getElem?.mp ((h.mem_applied_iff ho).mp (mem_iff_exists_getElem?.mpr ⟨c, hc⟩))
  obtain ⟨c', hc', hplaced, hsame⟩ := h.placed ho hd
  obtain rfl : c' = c := Option.some.inj (hc'.symm.trans hc)
  exact ⟨d, hd, hplaced, hsame⟩

end Step

namespace Deployer

variable {p : Deployer} {current : NodeMap ContractId} {desired : NodeMap Deployment} {sp : Option UInt64}
  {o : Outcome} {g g' : Grid} {n : NodeId}

theorem Attempted.mem_applied_iff (h : Attempted p current desired sp g o g') (ho : o.error = none) :
    n ∈ o.applied ↔ n ∈ desired := by
  obtain ⟨_, _, htrace⟩ := h.exists_trace
  exact htrace.mem_applied_iff ho

theorem Attempted.placed_of_applied {c : ContractId} (h : Attempted p current desired sp g o g') (ho : o.error = none)
    (hc : o.applied[n]? = some c) :
    ∃ d, desired[n]? = some d ∧ Placed p g' n c d ∧ ∀ c₀, current[n]? = some c₀ → c = c₀ := by
  obtain ⟨_, _, htrace⟩ := h.exists_trace
  exact htrace.placed_of_applied ho hc

end Deployer

end ComputeGrid
