import ComputeGrid.Grid.Fetch
import ComputeGrid.Proofs.Grid.Calls

/-!
# What fetching a fleet does

A fetch never ends in a fault, and all that it does is to ask questions (`asked_fetchFleet`).  The
deployments that it finds are those that run under contracts that are not over, up to their reports
(`fetchFleet_sound`), and where none is missing there is one for each contract (`fetchFleet_complete`).
Deployments are only read, so that those under contracts that are not over are as they were
(`read_fetchFleet`), and nodes that answer forget the others (`fetchFleet_forgets`).
-/

namespace ComputeGrid.Grid

open Std (ExtTreeMap)

variable {g g₀ : Grid} {t t' : Timeline Grid} {S : NodeId → ContractId → Prop}

/-- Nodes were asked for deployments, and those under contracts that are not over are as they were. -/
structure Read (S : NodeId → ContractId → Prop) (g g' : Grid) : Prop extends Asked [.get] S g g' where
  same : ∀ n c, g.isOver c = false → g'.deployment? n c = g.deployment? n c

theorem Read.refl (S : NodeId → ContractId → Prop) (g : Grid) : Read S g g := ⟨.refl _ S g, fun _ _ _ => rfl⟩

theorem Read.trans {g₁ g₂ : Grid} (h₁ : Read S g g₁) (h₂ : Read S g₁ g₂) : Read S g g₂ := by
  refine ⟨h₁.toAsked.trans h₂.toAsked, fun n c hc => ?_⟩
  exact (h₂.same n c ((h₁.isOver c).trans hc)).trans (h₁.same n c hc)

theorem read_record {node : NodeId} {contract : ContractId} (hS : S node contract) (g : Grid) :
    Read S g (g.record node NodeMethod.get.text) := by
  refine ⟨(asked_record (List.mem_singleton.mpr rfl) g node contract).mono (fun _ h => h) ?_, fun _ _ _ => rfl⟩
  rintro n c ⟨rfl, rfl⟩
  exact hS

theorem read_lookUp {node : NodeId} {contract : ContractId} (hS : S node contract) (g : Grid) :
    Read S g (g.lookUp node contract).2 := by
  refine ⟨(asked_lookUp [.get] node contract g).mono (fun _ h => h) ?_, fun _ _ hc => deployment?_lookUp hc⟩
  rintro n c ⟨rfl, rfl⟩
  exact hS

/-- A request for a deployment is recorded when it is sent, and an answer at once is an error. -/
theorem getDeployment_send (node : NodeId) (contract : ContractId) (g : Grid) :
    ∃ s, (getDeployment node contract).send g = (s, g.record node NodeMethod.get.text) ∧ ∀ d, s ≠ .answered (.ok d) :=
  exchange_send node NodeMethod.get.text (lookUp node contract) g

/-- Sending requests is no more than asking, and no deployment is known before its answer is due. -/
theorem sendAll_spec {rs : List (NodeId × ContractId)} (hrs : ∀ r ∈ rs, S r.1 r.2) (g : Grid) :
    Read S g (g.sendAll rs).2 ∧
    ∀ (n : NodeId) (d : Deployment), (g.sendAll rs).1[n]? ≠ some (.answered (.ok d)) := by
  induction rs generalizing g with
  | nil => exact ⟨.refl S g, fun n d => by rw [sendAll, ExtTreeMap.getElem?_empty]; nofun⟩
  | cons r rest ih =>
    obtain ⟨node, contract⟩ := r
    obtain ⟨s, hsend, hs⟩ := getDeployment_send node contract g
    obtain ⟨hread, hpending⟩ := ih (fun r hr => hrs r (List.mem_cons_of_mem _ hr)) (g.record node NodeMethod.get.text)
    rw [sendAll, hsend]
    constructor
    · exact (read_record (hrs _ List.mem_cons_self) g).trans hread
    · intro n d h
      rcases getElem?_insert_eq_some h with ⟨_, h⟩ | ⟨_, h⟩
      · exact hs d h.symm
      · exact hpending n d h

/-- The answers so far come from the grid `g₀`, of which no more than questions were asked. -/
structure Faithful (S : NodeId → ContractId → Prop) (g₀ : Grid) (f : Fetched) : Prop where
  read : Read S g₀ f.grid
  answers : ∀ (n : NodeId) (d : Deployment), f.answers[n]? = some (.ok d) →
    ∃ c d₀, S n c ∧ g₀.isOver c = false ∧ g₀.deployment? n c = some d₀ ∧ d₀.unreported = d.unreported

theorem Faithful.asked {f : Fetched} (h : Faithful S g₀ f) : Asked [.get] S g₀ f.grid := h.read.toAsked

theorem Faithful.insert_error {f : Fetched} (h : Faithful S g₀ f) (node : NodeId) (e : RpcError) (ms : Nat) :
    Faithful S g₀ { f with answers := f.answers.insert node (.error e), ms := ms } := by
  refine ⟨h.read, fun n d hn => ?_⟩
  rcases getElem?_insert_eq_some hn with ⟨_, hn⟩ | ⟨_, hn⟩
  · cases hn
  · exact h.answers n d hn

theorem Faithful.insert_lookUp {f : Fetched} {node : NodeId} {contract : ContractId} {x : Except RpcError Deployment}
    (h : Faithful S g₀ f) (hS : S node contract) (hx : f.grid.lookUp node contract = (x, g)) (ms : Nat) :
    Faithful S g₀ ⟨f.answers.insert node x, ms, g⟩ := by
  have hread := read_lookUp hS f.grid
  rw [hx] at hread
  refine ⟨h.read.trans hread, fun n d hn => ?_⟩
  rcases getElem?_insert_eq_some hn with ⟨rfl, rfl⟩ | ⟨_, hn⟩
  · obtain ⟨_, hover, hd⟩ := lookUp_eq_ok hx
    rw [h.read.isOver] at hover
    -- the questions before have changed nothing here
    exact ⟨contract, d, hS, hover, (h.read.same n contract hover).symm.trans hd, rfl⟩
  · exact h.answers n d hn

theorem faithful_receiveAll {patience : Nat} {sent : NodeMap (Sent (Except RpcError Deployment))}
    (hsent : ∀ (n : NodeId) (d : Deployment), sent[n]? ≠ some (.answered (.ok d)))
    {rs : List (NodeId × ContractId)} (hrs : ∀ r ∈ rs, S r.1 r.2) {f : Fetched} (h : Faithful S g₀ f) :
    Faithful S g₀ (receiveAll patience sent f rs) := by
  induction rs generalizing f with
  | nil => exact h
  | cons r rest ih =>
    obtain ⟨node, contract⟩ := r
    rw [receiveAll]
    apply ih fun r hr => hrs r (List.mem_cons_of_mem _ hr)
    split
    next x hx =>
      rcases x with e | d
      · exact h.insert_error node e f.ms
      · exact absurd hx (hsent node d)
    next delay _ =>
      split
      · exact h.insert_lookUp (hrs _ List.mem_cons_self) rfl _
      · exact h.insert_error node _ _
    next => exact h

theorem faithful_fetchInOrder (g : Grid) (patience : Nat) {requests answers : List (NodeId × ContractId)}
    (hrequests : ∀ r ∈ requests, S r.1 r.2) (hanswers : ∀ r ∈ answers, S r.1 r.2) :
    Faithful S g (g.fetchInOrder patience requests answers) := by
  obtain ⟨hread, hsent⟩ := sendAll_spec hrequests g
  refine faithful_receiveAll hsent hanswers ⟨hread, fun n d hn => ?_⟩
  rw [ExtTreeMap.getElem?_empty] at hn
  cases hn

theorem fetchFleet_run (current : NodeMap ContractId) (timeout : Duration) (t : Timeline Grid) :
    fetchFleet current timeout t =
      .ok ((t.state.fetchInOrder timeout.ceilMillis current.toList current.toList).result,
        ⟨t.now + (t.state.fetchInOrder timeout.ceilMillis current.toList current.toList).ms,
          (t.state.fetchInOrder timeout.ceilMillis current.toList current.toList).grid⟩) := rfl

variable {current : NodeMap ContractId} {timeout : Duration} {r : Except FetchError (NodeMap Deployment)}

theorem faithful_fetchFleet (current : NodeMap ContractId) (timeout : Duration) (t : Timeline Grid) :
    Faithful (fun n c => current[n]? = some c) t.state
      (t.state.fetchInOrder timeout.ceilMillis current.toList current.toList) := by
  have hmem : ∀ r ∈ current.toList, current[r.1]? = some r.2 := fun _ hr =>
    ExtTreeMap.mem_toList_iff_getElem?_eq_some.mp hr
  exact faithful_fetchInOrder t.state timeout.ceilMillis hmem hmem

theorem read_fetchFleet (h : fetchFleet current timeout t = .ok (r, t')) :
    Read (fun n c => current[n]? = some c) t.state t'.state := by
  rw [fetchFleet_run] at h
  cases h
  exact (faithful_fetchFleet current timeout t).read

theorem asked_fetchFleet (h : fetchFleet current timeout t = .ok (r, t')) :
    Asked [.get] (fun n c => current[n]? = some c) t.state t'.state := (read_fetchFleet h).toAsked

/-- Every request is on its way once all are sent. -/
theorem mem_sendAll (g : Grid) {rs : List (NodeId × ContractId)} {r : NodeId × ContractId} (hr : r ∈ rs) :
    r.1 ∈ (g.sendAll rs).1 := by
  induction rs generalizing g with
  | nil => cases hr
  | cons r' rest ih =>
    obtain ⟨node, contract⟩ := r'
    obtain ⟨s, hsend, _⟩ := getDeployment_send node contract g
    rw [sendAll, hsend]
    rcases List.mem_cons.mp hr with rfl | hr
    · exact ExtTreeMap.mem_insert_self
    · exact ExtTreeMap.mem_insert.mpr (.inr (ih _ hr))

/-- Every request that was sent is answered, if only by a timeout, and no answer is lost. -/
theorem mem_receiveAll {patience : Nat} {sent : NodeMap (Sent (Except RpcError Deployment))}
    (rs : List (NodeId × ContractId)) (f : Fetched) {n : NodeId}
    (hn : n ∈ f.answers ∨ ∃ r ∈ rs, r.1 = n ∧ r.1 ∈ sent) : n ∈ (receiveAll patience sent f rs).answers := by
  induction rs generalizing f with
  | nil =>
    rcases hn with hn | ⟨r, hr, _⟩
    · exact hn
    · cases hr
  | cons r rest ih =>
    obtain ⟨node, contract⟩ := r
    have hgrown {x : Except RpcError Deployment} (hn : n ∈ f.answers ∨ ∃ r ∈ (node, contract) :: rest, r.1 = n ∧ r.1 ∈ sent) :
        n ∈ f.answers.insert node x ∨ ∃ r ∈ rest, r.1 = n ∧ r.1 ∈ sent := by
      rcases hn with hn | ⟨r, hr, rfl, hsent⟩
      · exact .inl (ExtTreeMap.mem_insert.mpr (.inr hn))
      · rcases List.mem_cons.mp hr with rfl | hr
        · exact .inl ExtTreeMap.mem_insert_self
        · exact .inr ⟨r, hr, rfl, hsent⟩
    rw [receiveAll]
    apply ih
    split
    next => exact hgrown hn
    next =>
      split
      · exact hgrown hn
      · exact hgrown hn
    next hnone =>
      rcases hn with hn | ⟨r, hr, rfl, hsent⟩
      · exact .inl hn
      · rcases List.mem_cons.mp hr with rfl | hr
        · exact absurd hsent (getElem?_eq_none_iff.mp hnone)
        · exact .inr ⟨r, hr, rfl, hsent⟩

/-- Where no deployment is missing there is one for each contract that was asked for. -/
theorem fetchFleet_complete {m : NodeMap Deployment} (h : fetchFleet current timeout t = .ok (.ok m, t')) {n : NodeId}
    {c : ContractId} (hc : current[n]? = some c) : n ∈ m := by
  have hmem : (n, c) ∈ current.toList := ExtTreeMap.mem_toList_iff_getElem?_eq_some.mpr hc
  have hanswer : n ∈ (t.state.fetchInOrder timeout.ceilMillis current.toList current.toList).answers :=
    mem_receiveAll _ _ (.inr ⟨(n, c), hmem, rfl, mem_sendAll t.state hmem⟩)
  obtain ⟨x, hx⟩ := mem_iff_exists_getElem?.mp hanswer
  rw [fetchFleet_run] at h
  simp only [Except.ok.injEq, Prod.mk.injEq, Fetched.result] at h
  obtain ⟨hresult, _⟩ := h
  split at hresult
  next hempty =>
    cases hresult
    rcases x with e | d
    -- a failure would be among the failures, which are none
    · have hfailure : (t.state.fetchInOrder timeout.ceilMillis current.toList current.toList).failures[n]? = some e := by
        rw [Fetched.failures, ExtTreeMap.getElem?_filterMap', hx]
        rfl
      rw [ExtTreeMap.isEmpty_iff.mp hempty, ExtTreeMap.getElem?_empty] at hfailure
      cases hfailure
    · rw [mem_iff_exists_getElem?]
      refine ⟨d, ?_⟩
      rw [Fetched.deployments, ExtTreeMap.getElem?_filterMap', hx]
      rfl
  next => cases hresult

/-- A request to a node that answers is on its way. -/
theorem getDeployment_send_of_answers {node : NodeId} (contract : ContractId) (h : g.Answers node timeout) :
    ∃ delay ≤ timeout.ceilMillis,
      (getDeployment node contract).send g = (.pending delay, g.record node NodeMethod.get.text) := by
  obtain ⟨n, hn, hup, hlatency⟩ := h
  refine ⟨n.latency, hlatency, ?_⟩
  simp only [getDeployment, exchange, hn, hup, Bool.false_eq_true, if_false]
  rfl

theorem sendAll_of_answers {rs : List (NodeId × ContractId)} {n : NodeId} {c : ContractId} (hr : (n, c) ∈ rs)
    (h : g.Answers n timeout) : ∃ delay ≤ timeout.ceilMillis, (g.sendAll rs).1[n]? = some (.pending delay) := by
  induction rs generalizing g with
  | nil => cases hr
  | cons r rest ih =>
    obtain ⟨node, contract⟩ := r
    by_cases hn : n = node
    · subst hn
      obtain ⟨delay, hdelay, hsend⟩ := getDeployment_send_of_answers contract h
      refine ⟨delay, hdelay, ?_⟩
      rw [sendAll, hsend]
      exact ExtTreeMap.getElem?_insert_self
    · obtain ⟨s, hsend, _⟩ := getDeployment_send node contract g
      have hrest : (n, c) ∈ rest := (List.mem_cons.mp hr).resolve_left fun heq => hn (congrArg Prod.fst heq)
      obtain ⟨delay, hdelay, hpending⟩ := ih hrest ((steady_record g node NodeMethod.get.text).answers h)
      refine ⟨delay, hdelay, ?_⟩
      rw [sendAll, hsend]
      exact (getElem?_insert_of_ne hn).trans hpending

/-- Once an answer is in, nothing is left under a contract that is over. -/
theorem receiveAll_forgets {patience delay : Nat} {sent : NodeMap (Sent (Except RpcError Deployment))} {n : NodeId}
    {c : ContractId} (hsent : sent[n]? = some (.pending delay)) (hdelay : delay ≤ patience)
    (rs : List (NodeId × ContractId)) (f : Fetched) (hover : f.grid.isOver c = true)
    (h : (n, c) ∈ rs ∨ f.grid.deployment? n c = none) :
    (receiveAll patience sent f rs).grid.deployment? n c = none := by
  induction rs generalizing f with
  | nil => exact h.resolve_left List.not_mem_nil
  | cons r rest ih =>
    obtain ⟨node, contract⟩ := r
    have hlater (hr : ¬ (n = node ∧ c = contract)) : (n, c) ∈ rest ∨ f.grid.deployment? n c = none := by
      refine h.imp_left fun hmem => (List.mem_cons.mp hmem).resolve_left fun heq => hr ?_
      exact ⟨congrArg Prod.fst heq, congrArg Prod.snd heq⟩
    rw [receiveAll]
    split
    next hx =>
      refine ih _ hover (hlater ?_)
      rintro ⟨rfl, rfl⟩
      rw [hsent] at hx
      cases hx
    next delay' hx =>
      split
      · have hasked := asked_lookUp [.get] node contract f.grid
        refine ih _ ((hasked.isOver c).trans hover) ?_
        by_cases hr : n = node ∧ c = contract
        · obtain ⟨rfl, rfl⟩ := hr
          exact .inr (deployment?_lookUp_of_isOver hover)
        · exact (hlater hr).imp_right (hasked.elsewhere n c hr).trans
      next hlate =>
        refine ih _ hover (hlater ?_)
        rintro ⟨rfl, rfl⟩
        rw [hsent] at hx
        cases hx
        exact hlate hdelay
    next hx =>
      refine ih _ hover (hlater ?_)
      rintro ⟨rfl, rfl⟩
      rw [hsent] at hx
      cases hx

/-- A node that answers has forgotten what it ran under a contract that is over. -/
theorem fetchFleet_forgets (h : fetchFleet current timeout t = .ok (r, t')) {n : NodeId} {c : ContractId}
    (hc : current[n]? = some c) (hover : t.state.isOver c = true) (hanswers : t.state.Answers n timeout) :
    t'.state.deployment? n c = none := by
  have hmem : (n, c) ∈ current.toList := ExtTreeMap.mem_toList_iff_getElem?_eq_some.mpr hc
  obtain ⟨delay, hdelay, hsent⟩ := sendAll_of_answers hmem hanswers
  have hread : Read (fun _ _ => True) t.state (t.state.sendAll current.toList).2 :=
    (sendAll_spec (fun _ _ => trivial) t.state).1
  rw [fetchFleet_run] at h
  cases h
  exact receiveAll_forgets hsent hdelay current.toList _ ((hread.isOver c).trans hover) (.inl hmem)

/-- A deployment that was fetched ran under a contract that was not over. -/
theorem fetchFleet_sound {m : NodeMap Deployment} (h : fetchFleet current timeout t = .ok (.ok m, t'))
    {n : NodeId} {d : Deployment} (hn : m[n]? = some d) :
    ∃ c d₀, current[n]? = some c ∧ t.state.isOver c = false ∧ t.state.deployment? n c = some d₀ ∧
      d₀.unreported = d.unreported := by
  have hfaithful := faithful_fetchFleet current timeout t
  rw [fetchFleet_run] at h
  simp only [Except.ok.injEq, Prod.mk.injEq, Fetched.result] at h
  obtain ⟨hresult, _⟩ := h
  split at hresult
  · cases hresult
    rw [Fetched.deployments, ExtTreeMap.getElem?_filterMap'] at hn
    -- the deployments are the answers that are no errors
    obtain ⟨x, hx, hd⟩ := Option.bind_eq_some_iff.mp hn
    refine hfaithful.answers n d ?_
    rw [hx]
    rcases x with e | d'
    · cases hd
    · cases hd
      rfl
  · cases hresult

end ComputeGrid.Grid
