import ComputeGrid.Grid.Tasks
import ComputeGrid.Proofs.Grid.Fetch
import Mathlib.Algebra.GroupWithZero.Nat
import Mathlib.Algebra.Order.BigOperators.Group.List
import Mathlib.Algebra.Order.Group.Nat
import Mathlib.Data.List.Nodup

/-!
# Fetching in any order

What comes of a question to a node depends on that node alone (`Grid.answerOf`): other questions change neither how the node
behaves nor what it runs under a contract that is not over (`Grid.Read`).  So each task is on its way to what comes of its
own node, whatever turns the others take (`Task.Sound`, `Task.turned_of_turn?`), and every step brings the tasks nearer to
their end (`Fetching.Sound.step`).  Where no task can take a turn, the first one to wake is waited for
(`Fetching.finished_or_step`).  In the end all have brought in what each node answers alone, which is what asking one node
after another gives (`Fetching.fetched_of_steps`).
-/

namespace ComputeGrid

open Std (ExtTreeMap)
open Grid (Read getDeployment)

variable {g g₀ g' : Grid} {S : NodeId → ContractId → Prop} {timeout : Duration} {node n : NodeId} {contract : ContractId}
  {x : Except RpcError Deployment} {t : Timeline Grid}

/-! ### One question -/

namespace Grid

/-- What is sent to a node and what it asks the ledger for is the same in all states that behave the same. -/
theorem getDeployment_send_congr (h : Steady g g') (node : NodeId) (contract : ContractId) :
    ((getDeployment node contract).send g').1 = ((getDeployment node contract).send g).1 := by
  unfold getDeployment exchange
  dsimp only
  have htraits := h.traits node
  rcases hn : g.nodes[node]? with _ | n
  · rw [hn, Option.map_none, Option.map_eq_none_iff] at htraits
    rw [htraits]
  · obtain ⟨n', hn', htraits⟩ := h.exists_node hn
    have hdown : n'.down = n.down := (congrArg Node.down htraits :)
    have hlatency : n'.latency = n.latency := (congrArg Node.latency htraits :)
    rw [hn']
    dsimp only
    rw [hdown, hlatency]
    split
    · rfl
    · rfl

/-- Questions do not change what a question finds. -/
theorem lookUp_of_read (h : Read S g g') (node : NodeId) (contract : ContractId) :
    (g'.lookUp node contract).1 = (g.lookUp node contract).1 := by
  have hover := h.isOver contract
  unfold lookUp
  rw [hover]
  split
  · rfl
  next hnot =>
    rw [h.same node contract (Bool.eq_false_iff.mpr hnot)]
    split
    · rfl
    · rfl

theorem lookUp_eq_lookUpGiven (node : NodeId) (contract : ContractId) (g : Grid) :
    g.lookUp node contract = g.lookUpGiven (g.isOver contract) node contract := rfl

/-- What comes of a question that a node is asked alone. -/
def answerOf (g : Grid) (timeout : Duration) (node : NodeId) (contract : ContractId) : Except RpcError Deployment :=
  match ((getDeployment node contract).send g).1 with
  | .answered x => x
  | .pending delay =>
    if delay ≤ timeout.ceilMillis then (g.lookUp node contract).1 else .error (.timeout node .get)

theorem within_answerOf (t : Timeline Grid) (timeout : Duration) (node : NodeId) (contract : ContractId) :
    ∃ r t', (getDeployment node contract).within timeout t = .ok (r, t') ∧
      t.state.answerOf timeout node contract = r.getD (.error (.timeout node .get)) := by
  obtain ⟨s, hsend, _⟩ := getDeployment_send node contract t.state
  rw [Exchange.within_run, answerOf, hsend]
  rcases s with x | delay
  · exact ⟨_, _, rfl, rfl⟩
  · dsimp only
    split
    · refine ⟨_, _, rfl, ?_⟩
      have hread : Read (fun _ _ => True) t.state (t.state.record node NodeMethod.get.text) :=
        @read_record (fun _ _ => True) node contract trivial t.state
      exact (lookUp_of_read hread node contract).symm
    · exact ⟨_, _, rfl, rfl⟩

end Grid

/-! ### What is collected -/

namespace Collected

/-- The error in the place of a deployment. -/
def failure? : Except RpcError Deployment → Option RpcError
  | .ok _ => none
  | .error e => some e

/-- What has been collected for a node is no more than what came of it, if anything has. -/
structure Holds (c : Collected) (node : NodeId) (x : Option (Except RpcError Deployment)) : Prop where
  fetched : c.fetched[node]? = x.bind (·.toOption)
  failures : c.failures[node]? = x.bind failure?

variable {c : Collected}

theorem Holds.add_self (h : c.Holds node none) (x : Except RpcError Deployment) : (c.add node x).Holds node (some x) := by
  rcases x with e | d
  · exact ⟨h.fetched, ExtTreeMap.getElem?_insert_self⟩
  · exact ⟨ExtTreeMap.getElem?_insert_self, h.failures⟩

theorem Holds.add_of_ne {r : Option (Except RpcError Deployment)} (h : c.Holds n r) (hn : n ≠ node)
    (x : Except RpcError Deployment) : (c.add node x).Holds n r := by
  rcases x with e | d
  · exact ⟨h.fetched, (getElem?_insert_of_ne hn).trans h.failures⟩
  · exact ⟨(getElem?_insert_of_ne hn).trans h.fetched, h.failures⟩

end Collected

/-! ### One task -/

namespace Stage

def isDone : Stage → Bool
  | done => true
  | _ => false

/-- How far a task is from its end. -/
def left (now : Nat) : Stage → Nat
  | ready => 6
  | waiting due deadline => if min due deadline ≤ now then 4 else 5
  | asking => 3
  | looking _ => 2
  | answered _ => 1
  | done => 0

theorem left_waiting (due deadline now : Nat) :
    3 < (waiting due deadline).left now ∧ (waiting due deadline).left now < 6 := by
  simp only [left]
  split
  · exact ⟨by decide, by decide⟩
  · exact ⟨by decide, by decide⟩

/-- A stage is on the way to what comes of the node alone. -/
def Sound (g₀ : Grid) (timeout : Duration) (node : NodeId) (contract : ContractId) (now : Nat) : Stage → Prop
  | ready | done => True
  | waiting due deadline => now ≤ min due deadline ∧ g₀.answerOf timeout node contract =
      if due ≤ deadline then (g₀.lookUp node contract).1 else .error (.timeout node .get)
  | asking => g₀.answerOf timeout node contract = (g₀.lookUp node contract).1
  | looking ended => ended = g₀.isOver contract ∧ g₀.answerOf timeout node contract = (g₀.lookUp node contract).1
  | answered x => g₀.answerOf timeout node contract = x

end Stage

namespace Task

variable {now : Nat} {task task' : Task} {c c' : Collected}

/-- A task is on its way to what comes of its node alone, and has brought that in if it is at its end. -/
structure Sound (g₀ : Grid) (timeout : Duration) (now : Nat) (c : Collected) (task : Task) : Prop where
  stage : task.stage.Sound g₀ timeout task.node task.contract now
  held : c.Holds task.node (if task.stage.isDone then some (g₀.answerOf timeout task.node task.contract) else none)

/-- What a turn of a task leads to. -/
structure Turned (S : NodeId → ContractId → Prop) (g₀ : Grid) (timeout : Duration) (now : Nat) (task : Task) (c : Collected)
    (task' : Task) (g' : Grid) (c' : Collected) : Prop where
  node : task'.node = task.node
  contract : task'.contract = task.contract
  read : Read S g₀ g'
  sound : task'.Sound g₀ timeout now c'
  others : ∀ n r, n ≠ task.node → c.Holds n r → c'.Holds n r
  less : task'.stage.left now < task.stage.left now

theorem turned_of_turn? (h : task.turn? timeout now g c = some (task', g', c')) (hS : S task.node task.contract)
    (hread : Read S g₀ g) (hsound : task.Sound g₀ timeout now c) :
    Turned S g₀ timeout now task c task' g' c' := by
  obtain ⟨node, contract, stage⟩ := task
  obtain ⟨hstage, hheld⟩ := hsound
  cases stage with
  | ready =>
    obtain ⟨s, hsend, _⟩ := Grid.getDeployment_send node contract g
    have hsame := Grid.getDeployment_send_congr hread.toSteady node contract
    have hread' := hread.trans (Grid.read_record hS g)
    rw [hsend] at hsame
    simp only [turn?, hsend] at h
    rcases s with x | delay
    · cases h
      refine ⟨rfl, rfl, hread', ⟨?_, hheld⟩, fun _ _ _ hn => hn, Nat.lt_of_sub_eq_succ rfl⟩
      show Grid.answerOf _ _ _ _ = _
      rw [Grid.answerOf, ← hsame]
    · cases h
      refine ⟨rfl, rfl, hread', ⟨⟨by omega, ?_⟩, hheld⟩, fun _ _ _ hn => hn, (Stage.left_waiting _ _ _).2⟩
      rw [Grid.answerOf, ← hsame]
      simp only [Nat.add_le_add_iff_left]
  | waiting due deadline =>
    obtain ⟨hnow, hanswer⟩ := hstage
    have hleft := (Stage.left_waiting due deadline now).1
    simp only [turn?] at h
    split at h
    next hdue =>
      cases h
      refine ⟨rfl, rfl, hread, ⟨?_, hheld⟩, fun _ _ _ hn => hn, hleft⟩
      rw [if_pos (by omega)] at hanswer
      exact hanswer
    next hdue =>
      split at h
      next hdeadline =>
        cases h
        refine ⟨rfl, rfl, hread, ⟨?_, hheld⟩, fun _ _ _ hn => hn, Nat.lt_of_succ_lt (Nat.lt_of_succ_lt hleft)⟩
        rw [if_neg (by omega)] at hanswer
        exact hanswer
      next => cases h
  | asking =>
    cases h
    exact ⟨rfl, rfl, hread, ⟨⟨hread.isOver contract, hstage⟩, hheld⟩, fun _ _ _ hn => hn, Nat.lt_of_sub_eq_succ rfl⟩
  | looking ended =>
    obtain ⟨hended, hanswer⟩ := hstage
    obtain rfl : ended = g.isOver contract := hended.trans (hread.isOver contract).symm
    cases h
    refine ⟨rfl, rfl, hread.trans (Grid.read_lookUp hS g), ⟨?_, hheld⟩, fun _ _ _ hn => hn, Nat.lt_of_sub_eq_succ rfl⟩
    exact hanswer.trans (Grid.lookUp_of_read hread node contract).symm
  | answered x =>
    cases h
    refine ⟨rfl, rfl, hread, ⟨trivial, ?_⟩, fun _ _ hn hheld => hheld.add_of_ne hn x, Nat.lt_of_sub_eq_succ rfl⟩
    rw [← hstage]
    exact Collected.Holds.add_self hheld _
  | done => cases h

/-- A task that cannot take a turn is at its end or waits for a later time. -/
theorem turn?_eq_none (h : task.turn? timeout now g c = none) :
    task.stage = .done ∨ ∃ due deadline, task.stage = .waiting due deadline ∧ now < due ∧ now < deadline := by
  obtain ⟨node, contract, stage⟩ := task
  cases stage with
  | ready =>
    obtain ⟨s, hsend, _⟩ := Grid.getDeployment_send node contract g
    simp only [turn?, hsend] at h
    rcases s with x | delay
    · cases h
    · cases h
  | waiting due deadline =>
    simp only [turn?] at h
    split at h
    · cases h
    · split at h
      · cases h
      · exact .inr ⟨due, deadline, rfl, by omega, by omega⟩
  | asking => cases h
  | looking ended => cases h
  | answered x => cases h
  | done => exact .inl rfl

theorem left_le_of_le {now' : Nat} (h : now ≤ now') (s : Stage) : s.left now' ≤ s.left now := by
  cases s with
  | waiting due deadline =>
    simp only [Stage.left]
    split
    · split
      · omega
      · omega
    · split
      · omega
      · omega
  | _ => exact Nat.le_refl _

theorem left_lt_of_wake? {now' : Nat} {s : Stage} (h : s.wake? = some now') (hlater : now < now') :
    s.left now' < s.left now := by
  cases s with
  | waiting due deadline =>
    cases h
    simp only [Stage.left]
    rw [if_pos (Nat.le_refl _), if_neg (Nat.not_le.mpr hlater)]
    exact Nat.lt_of_sub_eq_succ rfl
  | done => cases h
  | _ =>
    cases h
    exact absurd hlater (Nat.not_lt_zero now)

theorem Sound.of_le {now' : Nat} (h : task.Sound g₀ timeout now c) (hnow : ∀ w, task.stage.wake? = some w → now' ≤ w) :
    task.Sound g₀ timeout now' c := by
  obtain ⟨node, contract, stage⟩ := task
  refine ⟨?_, h.held⟩
  have hstage := h.stage
  cases stage with
  | waiting due deadline => exact ⟨hnow _ rfl, hstage.2⟩
  | _ => exact hstage

end Task

/-! ### All tasks -/

namespace Fetching

variable {current : NodeMap ContractId} {s s' : Fetching} {k : Nat}

/-- How far the tasks are from their end. -/
def left (s : Fetching) : Nat := (s.tasks.map fun task => task.stage.left s.now).sum

/-- The tasks ask the nodes for what they hold, each is on its way to what comes of its node alone, and nothing has come of
other nodes. -/
structure Sound (current : NodeMap ContractId) (timeout : Duration) (g₀ : Grid) (s : Fetching) : Prop where
  read : Read (fun n c => current[n]? = some c) g₀ s.grid
  questions : s.tasks.map (fun task => (task.node, task.contract)) = current.toList
  tasks : ∀ task ∈ s.tasks, task.Sound g₀ timeout s.now s.collected
  others : ∀ n, n ∉ current → s.collected.Holds n none

theorem Sound.contract_eq (h : Sound current timeout g₀ s) {task : Task} (htask : task ∈ s.tasks) :
    current[task.node]? = some task.contract := by
  refine ExtTreeMap.mem_toList_iff_getElem?_eq_some.mp ?_
  rw [← h.questions]
  exact List.mem_map_of_mem htask

theorem Sound.nodup (h : Sound current timeout g₀ s) : (s.tasks.map (·.node)).Nodup := by
  have hnodes : s.tasks.map (·.node) = current.toList.map Prod.fst := by
    rw [← h.questions, List.map_map]
    rfl
  rw [hnodes]
  exact nodup_keys_toList

theorem sound_start (current : NodeMap ContractId) (timeout : Duration) (t : Timeline Grid) :
    Sound current timeout t.state (start current t) := by
  refine ⟨.refl _ _, ?_, fun task htask => ?_, fun n _ => ⟨ExtTreeMap.getElem?_empty, ExtTreeMap.getElem?_empty⟩⟩
  · rw [start, List.map_map]
    exact List.map_id' _
  · obtain ⟨_, _, rfl⟩ := List.mem_map.mp htask
    exact ⟨trivial, ExtTreeMap.getElem?_empty, ExtTreeMap.getElem?_empty⟩

theorem left_start (current : NodeMap ContractId) (t : Timeline Grid) : (start current t).left = 6 * current.size := by
  rw [left, start, List.map_map, ← ExtTreeMap.length_toList]
  show (current.toList.map fun _ => 6).sum = _
  rw [List.map_const', List.sum_replicate_nat, Nat.mul_comm]

/-- A step keeps the tasks on their way and brings them nearer to their end. -/
theorem Sound.step (h : Sound current timeout g₀ s) (hstep : Step timeout s s') :
    Sound current timeout g₀ s' ∧ s'.left < s.left := by
  cases hstep with
  | @turn before after task task' g c htasks hturn =>
    have hmem : task ∈ s.tasks := htasks ▸ List.mem_append_right before List.mem_cons_self
    have hturned := Task.turned_of_turn? hturn (h.contract_eq hmem) h.read (h.tasks task hmem)
    have hnode : ∀ other, other ∈ before ∨ other ∈ after → other ∈ s.tasks ∧ other.node ≠ task.node := by
      have hnodup := h.nodup
      rw [htasks, List.map_append, List.map_cons, List.nodup_middle, List.nodup_cons, List.mem_append] at hnodup
      rintro other (hother | hother)
      · refine ⟨htasks ▸ List.mem_append_left _ hother, fun heq => hnodup.1 (.inl ?_)⟩
        exact heq ▸ List.mem_map_of_mem hother
      · refine ⟨htasks ▸ List.mem_append_right _ (List.mem_cons_of_mem _ hother), fun heq => hnodup.1 (.inr ?_)⟩
        exact heq ▸ List.mem_map_of_mem hother
    refine ⟨⟨hturned.read, ?_, fun other hother => ?_, fun n hn => ?_⟩, ?_⟩
    · rw [← h.questions, htasks]
      simp only [List.map_append, List.map_cons, hturned.node, hturned.contract]
    · rw [List.mem_append, List.mem_cons, or_left_comm] at hother
      rcases hother with rfl | hother
      · exact hturned.sound
      · obtain ⟨hother, hne⟩ := hnode other hother
        have hsound := h.tasks other hother
        exact ⟨hsound.stage, hturned.others _ _ hne hsound.held⟩
    · refine hturned.others n _ (fun heq => hn ?_) (h.others n hn)
      rw [heq]
      exact mem_iff_exists_getElem?.mpr ⟨_, h.contract_eq hmem⟩
    · have hless := hturned.less
      simp only [left, htasks, List.map_append, List.map_cons, List.sum_append, List.sum_cons]
      omega
  | @tick now hlater hwakes hfirst =>
    refine ⟨⟨h.read, h.questions, fun task htask => (h.tasks task htask).of_le (hfirst task htask), h.others⟩, ?_⟩
    obtain ⟨task, htask, hwake⟩ := hwakes
    refine List.sum_lt_sum _ _ (fun other _ => Task.left_le_of_le hlater.le other.stage) ⟨task, htask, ?_⟩
    exact Task.left_lt_of_wake? hwake hlater

theorem Sound.steps (h : Sound current timeout g₀ s) (hsteps : Steps timeout s k s') :
    Sound current timeout g₀ s' ∧ k + s'.left ≤ s.left := by
  induction hsteps with
  | none => exact ⟨h, by omega⟩
  | next _ hstep ih =>
    obtain ⟨hsound, hless⟩ := ih.1.step hstep
    exact ⟨hsound, by omega⟩

/-- Where no task can take a turn and some are not at their end, one of them is the first to wake. -/
theorem finished_or_step (timeout : Duration) (s : Fetching) : s.Finished ∨ ∃ s', Step timeout s s' := by
  by_cases hturn : ∃ task ∈ s.tasks, task.turn? timeout s.now s.grid s.collected ≠ none
  · obtain ⟨task, htask, hturn⟩ := hturn
    obtain ⟨before, after, htasks⟩ := List.append_of_mem htask
    obtain ⟨⟨task', g, c⟩, hturn⟩ := Option.ne_none_iff_exists'.mp hturn
    exact .inr ⟨_, .turn htasks hturn⟩
  have hidle : ∀ task ∈ s.tasks, task.turn? timeout s.now s.grid s.collected = none := by
    intro task htask
    by_contra hne
    exact hturn ⟨task, htask, hne⟩
  rcases hfirst : (s.tasks.filterMap (·.stage.wake?)).min? with _ | now
  · rw [List.min?_eq_none_iff, List.filterMap_eq_nil_iff] at hfirst
    refine .inl fun task htask => ?_
    rcases Task.turn?_eq_none (hidle task htask) with hdone | ⟨due, deadline, hwaiting, _⟩
    · exact hdone
    · have hwake := hfirst task htask
      rw [hwaiting] at hwake
      cases hwake
  · obtain ⟨hmem, hleast⟩ := List.min?_eq_some_iff.mp hfirst
    obtain ⟨task, htask, hwake⟩ := List.mem_filterMap.mp hmem
    refine .inr ⟨_, .tick ?_ ⟨task, htask, hwake⟩ fun other hother w hw => ?_⟩
    · rcases Task.turn?_eq_none (hidle task htask) with hdone | ⟨due, deadline, hwaiting, hdue, hdeadline⟩
      · rw [hdone] at hwake
        cases hwake
      · rw [hwaiting] at hwake
        cases hwake
        exact Nat.lt_min.mpr ⟨hdue, hdeadline⟩
    · exact hleast w (List.mem_filterMap.mpr ⟨other, hother, hw⟩)

/-- Some order brings all tasks to their end. -/
theorem Sound.exists_finished (h : Sound current timeout g₀ s) : ∃ k s', Steps timeout s k s' ∧ s'.Finished := by
  -- no run is longer than the tasks are from their end, and a longest one has ended
  have hlong (k : Nat) : (∃ j s', Steps timeout s j s' ∧ s'.Finished) ∨ ∃ s', Steps timeout s k s' := by
    induction k with
    | zero => exact .inr ⟨s, .none⟩
    | succ k ih =>
      obtain hfinished | ⟨s', hsteps⟩ := ih
      · exact .inl hfinished
      · obtain hfinished | ⟨s'', hstep⟩ := finished_or_step timeout s'
        · exact .inl ⟨k, s', hsteps, hfinished⟩
        · exact .inr ⟨s'', hsteps.next hstep⟩
  refine (hlong (s.left + 1)).resolve_right ?_
  rintro ⟨s', hsteps⟩
  have hless := (h.steps hsteps).2
  omega

/-- Tasks that have come to their end have brought in what comes of each node alone. -/
theorem Sound.holds (h : Sound current timeout g₀ s) (hfinished : s.Finished) (n : NodeId) :
    s.collected.Holds n (current[n]?.map (g₀.answerOf timeout n)) := by
  rcases hc : current[n]? with _ | c
  · exact h.others n (getElem?_eq_none_iff.mp hc)
  have hmem : (n, c) ∈ current.toList := ExtTreeMap.mem_toList_iff_getElem?_eq_some.mpr hc
  rw [← h.questions] at hmem
  obtain ⟨task, htask, heq⟩ := List.mem_map.mp hmem
  cases heq
  have hheld := (h.tasks task htask).held
  rw [hfinished task htask] at hheld
  exact hheld

end Fetching

/-! ### One after another -/

namespace Grid

/-- Every request goes out as it would alone. -/
theorem getElem?_sendAll {rs : List (NodeId × ContractId)} (h : Steady g₀ g) (hrs : (rs.map Prod.fst).Nodup)
    {r : NodeId × ContractId} (hr : r ∈ rs) :
    (g.sendAll rs).1[r.1]? = some ((getDeployment r.1 r.2).send g₀).1 := by
  induction rs generalizing g with
  | nil => cases hr
  | cons r' rest ih =>
    obtain ⟨node, contract⟩ := r'
    obtain ⟨s, hsend, _⟩ := getDeployment_send node contract g
    have hsame := getDeployment_send_congr h node contract
    rw [hsend] at hsame
    obtain ⟨hnode, hrest⟩ := List.nodup_cons.mp hrs
    rw [sendAll, hsend]
    rcases List.mem_cons.mp hr with rfl | hr
    · exact ExtTreeMap.getElem?_insert_self.trans (congrArg some hsame)
    · have hne : r.1 ≠ node := fun heq => hnode (List.mem_map.mpr ⟨r, hr, heq⟩)
      exact (getElem?_insert_of_ne hne).trans (ih (h.trans (steady_record g node NodeMethod.get.text)) hrest hr)

/-- Every answer is what comes of the node alone. -/
theorem answers_receiveAll {sent : NodeMap (Sent (Except RpcError Deployment))} {rs : List (NodeId × ContractId)}
    {f : Fetched} (hread : Read S g₀ f.grid) (hS : ∀ r ∈ rs, S r.1 r.2)
    (hsent : ∀ r ∈ rs, sent[r.1]? = some ((getDeployment r.1 r.2).send g₀).1) :
    (receiveAll timeout.ceilMillis sent f rs).answers =
      rs.foldl (fun answers r => answers.insert r.1 (g₀.answerOf timeout r.1 r.2)) f.answers := by
  induction rs generalizing f with
  | nil => rfl
  | cons r rest ih =>
    obtain ⟨node, contract⟩ := r
    have hrest {f' : Fetched} (hread' : Read S g₀ f'.grid)
        (hanswers : f'.answers = f.answers.insert node (g₀.answerOf timeout node contract)) :
        (receiveAll timeout.ceilMillis sent f' rest).answers =
          rest.foldl (fun answers r => answers.insert r.1 (g₀.answerOf timeout r.1 r.2))
            (f.answers.insert node (g₀.answerOf timeout node contract)) := by
      rw [← hanswers]
      exact ih hread' (fun r hr => hS r (List.mem_cons_of_mem _ hr)) fun r hr => hsent r (List.mem_cons_of_mem _ hr)
    have hhead := hsent _ List.mem_cons_self
    rw [receiveAll, List.foldl_cons, hhead]
    rcases hs : ((getDeployment node contract).send g₀).1 with x | delay
    · have hown : g₀.answerOf timeout node contract = x := by rw [answerOf, hs]
      exact hrest hread (congrArg (f.answers.insert node) hown.symm)
    · have hown : g₀.answerOf timeout node contract = if delay ≤ timeout.ceilMillis then (g₀.lookUp node contract).1
          else .error (.timeout node .get) := by rw [answerOf, hs]
      dsimp only
      split
      next hdelay =>
        rw [if_pos hdelay, ← lookUp_of_read hread] at hown
        have hread' := hread.trans (read_lookUp (hS _ List.mem_cons_self) f.grid)
        exact hrest hread' (congrArg (f.answers.insert node) hown.symm)
      next hdelay =>
        rw [if_neg hdelay] at hown
        exact hrest hread (congrArg (f.answers.insert node) hown.symm)

/-- Nodes that are asked one after another answer as each would alone. -/
theorem answers_fetchInOrder (g : Grid) (timeout : Duration) (current : NodeMap ContractId) :
    (g.fetchInOrder timeout.ceilMillis current.toList current.toList).answers = current.map (g.answerOf timeout) := by
  have hmem : ∀ r ∈ current.toList, current[r.1]? = some r.2 := fun _ hr =>
    ExtTreeMap.mem_toList_iff_getElem?_eq_some.mp hr
  have hread : Read (fun n c => current[n]? = some c) g (g.sendAll current.toList).2 := (sendAll_spec hmem g).1
  rw [fetchInOrder, answers_receiveAll hread hmem fun r hr => getElem?_sendAll (.refl g) nodup_keys_toList hr,
    ← ofList_toList (current.map _), ExtTreeMap.ofList_eq_foldl, ExtTreeMap.toList_map, List.foldl_map]

/-- Where each node has brought in what it answers alone, the result is that of asking one node after another. -/
theorem result_of_holds {c : Collected} {current : NodeMap ContractId}
    (h : ∀ n, c.Holds n (current[n]?.map (g.answerOf timeout n))) :
    c.result = (g.fetchInOrder timeout.ceilMillis current.toList current.toList).result := by
  have hanswers := answers_fetchInOrder g timeout current
  generalize g.fetchInOrder timeout.ceilMillis current.toList current.toList = f at hanswers
  have hfetched : c.fetched = f.deployments := by
    refine ExtTreeMap.ext_getElem? fun n => ?_
    rw [Fetched.deployments, ExtTreeMap.getElem?_filterMap', hanswers, ExtTreeMap.getElem?_map]
    exact (h n).fetched
  have hfailures : c.failures = f.failures := by
    refine ExtTreeMap.ext_getElem? fun n => ?_
    rw [Fetched.failures, ExtTreeMap.getElem?_filterMap', hanswers, ExtTreeMap.getElem?_map]
    refine (h n).failures.trans (congrArg _ (funext fun x => ?_))
    rcases x with _ | _
    · rfl
    · rfl
  rw [Collected.result, Fetched.result, hfetched, hfailures]

end Grid

/-! ### Any order -/

namespace Fetching

variable {current : NodeMap ContractId} {s : Fetching} {k : Nat}

/-- Each node of a fleet, and no other, has brought in a deployment or a failure, and that is what it answers alone. -/
structure Complete (current : NodeMap ContractId) (timeout : Duration) (t : Timeline Grid) (c : Collected) : Prop where
  one : ∀ n, n ∈ current → (n ∈ c.fetched ↔ n ∉ c.failures)
  others : ∀ n, n ∉ current → n ∉ c.fetched ∧ n ∉ c.failures
  fetched : ∀ (n : NodeId) (contract : ContractId) (d : Deployment), current[n]? = some contract →
    (c.fetched[n]? = some d ↔ ∃ t', (getDeployment n contract).within timeout t = .ok (some (.ok d), t'))
  failed : ∀ (n : NodeId) (contract : ContractId) (e : RpcError), current[n]? = some contract →
    (c.failures[n]? = some e ↔ ∃ t', (getDeployment n contract).within timeout t = .ok (some (.error e), t') ∨
      (getDeployment n contract).within timeout t = .ok (none, t') ∧ e = .timeout n .get)

theorem complete_of_holds {c : Collected} (h : ∀ n, c.Holds n (current[n]?.map (t.state.answerOf timeout n))) :
    Complete current timeout t c := by
  have hin {n : NodeId} {contract : ContractId} (hn : current[n]? = some contract) :
      c.Holds n (some (t.state.answerOf timeout n contract)) := by
    have hheld := h n
    rw [hn] at hheld
    exact hheld
  refine ⟨fun n hn => ?_, fun n hn => ?_, fun n contract d hn => ?_, fun n contract e hn => ?_⟩
  · obtain ⟨contract, hcontract⟩ := mem_iff_exists_getElem?.mp hn
    obtain ⟨hfetched, hfailures⟩ := hin hcontract
    rw [mem_iff_exists_getElem?, mem_iff_exists_getElem?, hfetched, hfailures]
    rcases t.state.answerOf timeout n contract with e | d
    · exact ⟨nofun, fun hnot => absurd ⟨e, rfl⟩ hnot⟩
    · exact ⟨fun _ => nofun, fun _ => ⟨d, rfl⟩⟩
  · obtain ⟨hfetched, hfailures⟩ := h n
    rw [getElem?_eq_none_iff.mpr hn] at hfetched hfailures
    exact ⟨getElem?_eq_none_iff.mp hfetched, getElem?_eq_none_iff.mp hfailures⟩
  · obtain ⟨r, t', hrun, hown⟩ := Grid.within_answerOf t timeout n contract
    rw [(hin hn).fetched, hrun, hown]
    rcases r with _ | e | d'
    all_goals simp [Except.toOption, eq_comm]
  · obtain ⟨r, t', hrun, hown⟩ := Grid.within_answerOf t timeout n contract
    rw [(hin hn).failures, hrun, hown]
    rcases r with _ | e' | d
    all_goals simp [Collected.failure?, eq_comm]

/-- Tasks that fetch a fleet come to their end, whoever takes a turn when, and then have brought in what each node answers
alone: the result is that of asking one node after another. -/
theorem fetched_of_steps (hsteps : Steps timeout (start current t) k s) :
    k ≤ 6 * current.size ∧ (¬ s.Finished → ∃ s', Step timeout s s') ∧
    (s.Finished → Complete current timeout t s.collected ∧
      ((∃ m, s.collected.result = .ok m) ↔ s.collected.failures = ∅) ∧
      ∃ t', Grid.fetchFleet current timeout t = .ok (s.collected.result, t')) := by
  obtain ⟨hsound, hleft⟩ := (sound_start current timeout t).steps hsteps
  rw [left_start] at hleft
  refine ⟨by omega, (finished_or_step timeout s).resolve_left, fun hfinished => ?_⟩
  have hholds := hsound.holds hfinished
  refine ⟨complete_of_holds hholds, ?_, ?_⟩
  · rw [Collected.result, ← ExtTreeMap.isEmpty_iff]
    split
    next hempty => exact ⟨fun _ => hempty, fun _ => ⟨_, rfl⟩⟩
    next hsome => exact ⟨nofun, fun hempty => absurd hempty hsome⟩
  · rw [Grid.fetchFleet_run, Grid.result_of_holds hholds]
    exact ⟨_, rfl⟩

/-- Node 1 has what it is asked for, node 2 is down, node 3 is slow and node 4 runs nothing. -/
def mixedFleet : Grid where
  ledger := .new 1
  nodes := .ofList [((1 : NodeId), { Node.new with deployments := single 1 (.new 1 []) }),
    (2, { Node.new with down := true }), (3, { Node.new with latency := 50 }), (4, .new)]
  calls := []
  attached := false
  inventory := none

/-- What the nodes of the mixed fleet are asked for. -/
def mixedContracts : NodeMap ContractId := .ofList [((1 : NodeId), (1 : ContractId)), (2, 2), (3, 3), (4, 4)]

theorem fetched_of_mixedFleet : ∃ k s, Steps (.ofMillis 20) (start mixedContracts ⟨0, mixedFleet⟩) k s ∧ k ≤ 24 ∧
    s.Finished ∧ s.collected.fetched.keys = [1] ∧ s.collected.failures.keys = [2, 3, 4] ∧
    ∃ t', Grid.fetchFleet mixedContracts (.ofMillis 20) ⟨0, mixedFleet⟩ = .ok (s.collected.result, t') := by
  obtain ⟨k, s, hsteps, hfinished⟩ := (sound_start mixedContracts (.ofMillis 20) ⟨0, mixedFleet⟩).exists_finished
  obtain ⟨hbound, _, hend⟩ := fetched_of_steps hsteps
  obtain ⟨_, _, t', hfetch⟩ := hend hfinished
  have hpasses : Checked.passes (Grid.fetchFleet mixedContracts (.ofMillis 20) ⟨0, mixedFleet⟩) (fun r =>
      match r.1 with
      | .error e => e.fetched.keys == [1] && e.failures.keys == [2, 3, 4]
      | .ok _ => false) = true := by decide +kernel
  rw [hfetch, Collected.result] at hpasses
  have hsize : mixedContracts.size = 4 := by decide +kernel
  rw [hsize] at hbound
  refine ⟨k, s, hsteps, hbound, hfinished, ?_⟩
  split at hpasses
  · cases hpasses
  · rw [Checked.passes, Bool.and_eq_true, beq_iff_eq, beq_iff_eq] at hpasses
    exact ⟨hpasses.1, hpasses.2, t', hfetch⟩

end Fetching

end ComputeGrid
