import ComputeGrid.Proofs.Capacity
import ComputeGrid.Proofs.Feasibility
import Mathlib.Data.List.Basic

/-!
# What the feasibility check decides on

The check goes through the new deployments in order and keeps the addresses that are still free.  Of each deployment on a
node that is known it asks whether it is cleared (`Feasibility.Cleared`) and whether there is room for it
(`Feasibility.Room`), if that can be counted (`Feasibility.Overflows`).  How it ends is `Feasibility.Ends`, which no longer
speaks of the addresses that are kept: these are always the free ones of a farm with what the old deployments hold, less
what those before ask for (`Feasibility.Balanced`, `Feasibility.ends_of_checkFeasible`).

Addresses are counted without a bound.  The numbers are those of contracts, which have 32 bits, as long as a deployment has
fewer workloads than 32 bits can count (`Feasibility.exists_count32`): what is credited and what an increase is judged by
are these (`Feasibility.credited_of_count32`, `Feasibility.checkIncrease_of_count32`).
-/

namespace ComputeGrid

open Std (ExtTreeMap)

variable {i : Inventory} {infos : NodeMap NodeInfo} {info : NodeInfo} {old new : NodeMap Deployment} {n : NodeId}
  {d : Deployment} {id : FarmId} {ds done : List (NodeId × Deployment)} {free : FreeAddresses}

namespace Inventory

/-- The farm of a node that the inventory knows. -/
def farmOf? (i : Inventory) (n : NodeId) : Option FarmId := (i.node n).toOption.map (·.farmId)

/-- A farm that the inventory knows. -/
def farm? (i : Inventory) (id : FarmId) : Option Farm :=
  match i.farmsWith (.byId id) with
  | .ok (farm :: _) => some farm
  | _ => none

/-- How many public addresses deployments reserve on the nodes of a farm, as far as these are known. -/
def addressesOn (i : Inventory) (id : FarmId) : List (NodeId × Deployment) → Nat
  | [] => 0
  | (n, d) :: ds => (if i.farmOf? n = some id then d.publicIpv4Count else 0) + i.addressesOn id ds

theorem addressesOn_append (i : Inventory) (id : FarmId) (ds ds' : List (NodeId × Deployment)) :
    i.addressesOn id (ds ++ ds') = i.addressesOn id ds + i.addressesOn id ds' := by
  induction ds with
  | nil => exact (Nat.zero_add _).symm
  | cons x ds ih => rw [List.cons_append, addressesOn, addressesOn, ih, Nat.add_assoc]

theorem addressesOn_of_known (h : i.node n = .ok info) (id : FarmId) (d : Deployment) :
    i.addressesOn id [(n, d)] = if info.farmId = id then d.publicIpv4Count else 0 := by
  simp only [addressesOn, farmOf?, h, Except.toOption, Option.map_some, Option.some.injEq, Nat.add_zero]

theorem addressesOn_of_unknown (h : ¬ i.Knows n) (id : FarmId) (d : Deployment) : i.addressesOn id [(n, d)] = 0 := by
  rcases hnode : i.node n with e | info
  · simp only [addressesOn, farmOf?, hnode, Except.toOption, Option.map_none, reduceCtorEq, if_false, Nat.add_zero]
  · exact absurd ⟨info, hnode⟩ h

theorem mem_farms_of_farm? {farm : Farm} (h : i.farm? id = some farm) :
    farm.farmId = id ∧ ∃ k : FarmId, i.farms[k]? = some farm := by
  unfold farm? at h
  split at h
  next first rest hfarms =>
    obtain rfl : first = farm := Option.some.inj h
    have hhead : first ∈ first :: rest := List.mem_cons_self
    unfold farmsWith at hfarms
    split at hfarms
    · rw [← Except.ok.inj hfarms] at hhead
      obtain ⟨⟨k, f⟩, hentry, hadmits⟩ := List.mem_filterMap.mp hhead
      obtain ⟨hid, hsame⟩ := Option.ite_none_right_eq_some.mp hadmits
      obtain rfl : f = first := Option.some.inj hsame
      have hid' : id = f.farmId := by simpa [FarmFilter.admits, FarmFilter.byId] using hid
      exact ⟨hid'.symm, k, ExtTreeMap.mem_toList_iff_getElem?_eq_some.mp hentry⟩
    · cases hfarms
  next => cases h

/-- The free addresses of the farms that some nodes are of. -/
theorem getElem?_freeAddresses (i : Inventory) (infos : List NodeInfo) (id : FarmId) :
    (i.freeAddresses infos)[id]? =
      if id ∈ infos.map (·.farmId) then (i.farm? id).map (fun farm => (farm.freePublicIps : Int)) else none := by
  rw [freeAddresses, getElem?_foldl_enter (·.farmId) fun id => (i.farm? id).map fun farm => (farm.freePublicIps : Int),
    ExtTreeMap.getElem?_empty, Option.or_none]
  intro m info
  rw [farm?]
  rcases i.farmsWith (.byId info.farmId) with e | (_ | ⟨farm, rest⟩)
  · rfl
  · rfl
  · rfl

end Inventory

namespace Feasibility

/-! ### Capacities -/

/-- How much of a resource is held by the deployment that is replaced, if there is one. -/
def held (previous : Option Deployment) (r : Resource) : Nat := previous.elim 0 (·.demand r)

/-- The fault that ends the check of a capacity: twice the SSD storage of the node, what is left of the node together with
what is held, or what is needed does not fit in 64 bits. -/
inductive Overflows (info : NodeInfo) (previous : Option Deployment) (d : Deployment) : Fault → Prop where
  | doubled (le : UInt64.size ≤ 2 * info.total.sru.toNat) : Overflows info previous d .product
  | credited {r : Resource} (doubled : 2 * info.total.sru.toNat < UInt64.size)
    (le : UInt64.size ≤ held previous r + info.headroom r) : Overflows info previous d .sum
  | needed {r : Resource} (doubled : 2 * info.total.sru.toNat < UInt64.size) (le : UInt64.size ≤ d.demand r) :
    Overflows info previous d .sum

/-- No fault ends the check of a capacity. -/
def Countable (info : NodeInfo) (previous : Option Deployment) (d : Deployment) : Prop :=
  ∀ fault, ¬ Overflows info previous d fault

/-- The deployment needs no more than it replaces and is left. -/
def Room (info : NodeInfo) (previous : Option Deployment) (d : Deployment) : Prop :=
  ∀ r, d.demand r ≤ held previous r + info.headroom r

theorem countable_iff {previous : Option Deployment} : Countable info previous d ↔
    2 * info.total.sru.toNat < UInt64.size ∧
      ∀ r, held previous r + info.headroom r < UInt64.size ∧ d.demand r < UInt64.size := by
  constructor
  · intro h
    have hdouble := Nat.lt_of_not_le fun hle => h _ (.doubled hle)
    exact ⟨hdouble, fun r => ⟨Nat.lt_of_not_le fun hle => h _ (.credited hdouble hle),
      Nat.lt_of_not_le fun hle => h _ (.needed hdouble hle)⟩⟩
  · rintro ⟨hdouble, hsums⟩ fault (hle | ⟨-, hle⟩ | ⟨-, hle⟩)
    · exact Nat.not_le_of_lt hdouble hle
    · exact Nat.not_le_of_lt (hsums _).1 hle
    · exact Nat.not_le_of_lt (hsums _).2 hle

/-- What a deployment may use: what is left of the node and what is held by the one that it replaces. -/
def available (info : NodeInfo) (previous : Option Deployment) : Checked Capacity := do
  let free ← info.free
  match previous with
  | some old => free.add (← old.capacity)
  | none => return free

theorem checkCapacity_eq (info : NodeInfo) (previous : Option Deployment) (d : Deployment) :
    checkCapacity info previous d = do
      let free ← available info previous
      let needed ← d.capacity
      return if needed.fits free then .ok () else .error (.insufficientCapacity info.nodeId needed free) := by
  unfold checkCapacity available
  rcases previous with _ | old <;> simp only [bind_assoc, pure_bind]

/-- What is held is counted first, and then together with what is left. -/
theorem counted_add_held (free : Capacity) (old : Deployment) :
    Capacity.Counted (fun r => old.demand r + free.amount r) (old.capacity >>= free.add) := by
  have hheld := old.counted_capacity
  rcases hcapacity : old.capacity with fault | c
  · rw [hcapacity] at hheld
    cases hheld with
    | exceeds hlarge => exact .exceeds (Nat.le_add_right_of_le hlarge)
  · rw [hcapacity] at hheld
    cases hheld with
    | fits hamounts =>
      have hsum := Capacity.counted_add free c
      simp only [hamounts, Nat.add_comm (free.amount _)] at hsum
      exact hsum

theorem available_cases (info : NodeInfo) (previous : Option Deployment) :
    2 * info.total.sru.toNat < UInt64.size ∧
      Capacity.Counted (fun r => held previous r + info.headroom r) (available info previous) ∨
    UInt64.size ≤ 2 * info.total.sru.toNat ∧ available info previous = .error .product := by
  unfold available
  rcases info.free_cases with ⟨hdouble, free, hfree, hleft⟩ | ⟨hlarge, hfree⟩
  · refine .inl ⟨hdouble, ?_⟩
    rw [hfree]
    simp only [← hleft]
    rcases previous with _ | old
    · exact .fits fun r => (Nat.zero_add _).symm
    · exact counted_add_held free old
  · rw [hfree]
    exact .inr ⟨hlarge, rfl⟩

/-- The check of a capacity ends in a fault, or it tells whether there is room. -/
theorem checkCapacity_cases (info : NodeInfo) (previous : Option Deployment) (d : Deployment) :
    (∃ fault, Overflows info previous d fault ∧ checkCapacity info previous d = .error fault) ∨
    Countable info previous d ∧
      ∃ r, checkCapacity info previous d = .ok r ∧ (r = .ok () ↔ Room info previous d) := by
  rw [checkCapacity_eq]
  rcases available_cases info previous with ⟨hdouble, havailable⟩ | ⟨hlarge, havailable⟩
  case inr =>
    rw [havailable]
    exact .inl ⟨.product, .doubled hlarge, rfl⟩
  generalize available info previous = free at havailable
  cases havailable with
  | exceeds hlarge => exact .inl ⟨.sum, .credited hdouble hlarge, rfl⟩
  | @fits free hfree =>
  have hneeded := d.counted_capacity
  generalize d.capacity = needed at hneeded
  cases hneeded with
  | exceeds hlarge => exact .inl ⟨.sum, .needed hdouble hlarge, rfl⟩
  | @fits needed hneed =>
  refine .inr ⟨countable_iff.mpr ⟨hdouble, fun r => ⟨?_, ?_⟩⟩, _, rfl, ?_⟩
  -- all that is counted is the amount of some capacity
  · rw [← hfree]
    exact free.amount_lt r
  · rw [← hneed]
    exact needed.amount_lt r
  · have hfits : needed.fits free = true ↔ Room info previous d := by
      simp only [Capacity.fits_iff, hneed, hfree, Room]
    rw [← hfits]
    split <;> simp_all

/-- One fault ends a check. -/
theorem Overflows.eq {fault fault' : Fault} {previous : Option Deployment} (h : Overflows info previous d fault)
    (h' : Overflows info previous d fault') : fault = fault' := by
  rcases h with hle | ⟨hlt, -⟩ | ⟨hlt, -⟩ <;> rcases h' with hle' | ⟨hlt', -⟩ | ⟨hlt', -⟩ <;> first | rfl | omega

/-! ### Addresses -/

/-- The addresses that are kept are those that are left of each farm: its free ones with those of the old deployments, less
those of the new deployments that are done with. -/
def Balanced (i : Inventory) (infos : NodeMap NodeInfo) (old : NodeMap Deployment) (done : List (NodeId × Deployment))
    (free : FreeAddresses) : Prop :=
  ∀ (n : NodeId) (info : NodeInfo), infos[n]? = some info → free[info.farmId]? = (i.farm? info.farmId).map fun farm =>
    (farm.freePublicIps : Int) + i.addressesOn info.farmId old.toList - i.addressesOn info.farmId done

/-- What is known of the nodes of deployments is what the inventory knows. -/
def Resolves (i : Inventory) (infos : NodeMap NodeInfo) (ds : List (NodeId × Deployment)) : Prop :=
  ∀ x ∈ ds, infos[x.1]? = (i.node x.1).toOption

theorem getElem?_adjust (free : FreeAddresses) (id id' : FarmId) (change : Int) :
    (adjust free id change)[id']? = free[id']?.map (· + if id = id' then change else 0) := by
  rw [adjust, ExtTreeMap.getElem?_modify]
  by_cases h : id = id'
  · subst h
    simp
  · rw [if_neg (by rwa [Std.compare_eq_iff_eq]), if_neg h]
    simp

theorem Resolves.cons_iff {x : NodeId × Deployment} :
    Resolves i infos (x :: ds) ↔ infos[x.1]? = (i.node x.1).toOption ∧ Resolves i infos ds := List.forall_mem_cons

/-- Deployments give back what addresses they hold on the nodes that are known. -/
theorem getElem?_credited (hds : Resolves i infos old.toList) (free : FreeAddresses) (id : FarmId) :
    (credited infos old free)[id]? = free[id]?.map (· + (i.addressesOn id old.toList : Int)) := by
  unfold credited
  generalize old.toList = ds at hds ⊢
  induction ds generalizing free with
  | nil => simp [Inventory.addressesOn]
  | cons x ds ih =>
    obtain ⟨n, d⟩ := x
    obtain ⟨hinfo, hds⟩ := Resolves.cons_iff.mp hds
    have hsum : i.addressesOn id ((n, d) :: ds) = i.addressesOn id [(n, d)] + i.addressesOn id ds :=
      i.addressesOn_append id [(n, d)] ds
    rw [List.foldl_cons, ih _ hds, hsum]
    dsimp only at hinfo ⊢
    rcases hnode : i.node n with e | info
    · rw [hinfo, hnode, Inventory.addressesOn_of_unknown (by simp [Inventory.Knows, hnode])]
      simp [Except.toOption]
    · rw [hinfo, hnode, Inventory.addressesOn_of_known hnode, Except.toOption, getElem?_adjust, Option.map_map]
      congr 1
      funext c
      dsimp only [Function.comp]
      split <;> omega

/-- At first nothing is done, and the old deployments have given back what they hold. -/
theorem balanced_credited (hold : Resolves i infos old.toList) :
    Balanced i infos old [] (credited infos old (i.freeAddresses infos.values)) := by
  intro n info hinfo
  have hmem : info.farmId ∈ infos.values.map (·.farmId) := by
    rw [← map_snd_toList]
    exact List.mem_map_of_mem (List.mem_map_of_mem (ExtTreeMap.mem_toList_iff_getElem?_eq_some.mpr hinfo))
  rw [getElem?_credited hold, Inventory.getElem?_freeAddresses, if_pos hmem, Option.map_map]
  simp [Inventory.addressesOn, Function.comp_def]

/-- What a deployment asks for is taken from its farm. -/
theorem Balanced.debit (h : Balanced i infos old done free) (hnode : i.node n = .ok info) (d : Deployment) :
    Balanced i infos old (done ++ [(n, d)]) (adjust free info.farmId (-d.publicIpv4Count)) := by
  intro n' info' hinfo'
  rw [getElem?_adjust, h n' info' hinfo', Option.map_map, i.addressesOn_append, Inventory.addressesOn_of_known hnode]
  congr 1
  funext farm
  dsimp only [Function.comp]
  split <;> omega

theorem Balanced.skip (h : Balanced i infos old done free) (hnode : ¬ i.Knows n) (d : Deployment) :
    Balanced i infos old (done ++ [(n, d)]) free := by
  intro n' info' hinfo'
  rw [h n' info' hinfo', i.addressesOn_append, Inventory.addressesOn_of_unknown hnode, Nat.add_zero]

/-! ### One deployment -/

/-- A deployment asks for no more addresses than the one that it replaces, and its gateways find the public network that they
need. -/
structure Suits (info : NodeInfo) (previous : Option Deployment) (d : Deployment) : Prop where
  increase : ∀ before, previous = some before → d.publicIpv4Count ≤ before.publicIpv4Count
  fqdnGateway : d.hasKind .fqdnGateway → info.hasIpv4
  nameGateway : d.hasKind .nameGateway → info.hasDomain

/-- A deployment suits its node and, after those that are done with, its farm has the addresses that it asks for. -/
structure Cleared (i : Inventory) (old : NodeMap Deployment) (done : List (NodeId × Deployment)) (n : NodeId)
    (d : Deployment) (info : NodeInfo) : Prop where
  suits : Suits info old[n]? d
  addresses : ∀ farm, i.farm? info.farmId = some farm → i.addressesOn info.farmId (done ++ [(n, d)]) ≤
    farm.freePublicIps + i.addressesOn info.farmId old.toList

theorem checkIncrease_eq_ok_iff {previous : Option Deployment} : checkIncrease n previous d = .ok () ↔
    ∀ before, previous = some before → d.publicIpv4Count ≤ before.publicIpv4Count := by
  rcases previous with _ | before
  · simp [checkIncrease]
  · simp [checkIncrease]

theorem checkFarm_eq_ok_iff : checkFarm id free = .ok () ↔ ∀ c, free[id]? = some c → 0 ≤ c := by
  unfold checkFarm
  rcases free[id]? with _ | c
  · simp
  · simp

theorem checkGateways_eq_ok_iff : checkGateways info d = .ok () ↔
    (d.hasKind .fqdnGateway → info.hasIpv4) ∧ (d.hasKind .nameGateway → info.hasDomain) := by
  unfold checkGateways
  grind

theorem Balanced.checkFarm_eq_ok_iff (h : Balanced i infos old done free) (hinfo : infos[n]? = some info) :
    checkFarm info.farmId free = .ok () ↔ ∀ farm, i.farm? info.farmId = some farm →
      i.addressesOn info.farmId done ≤ farm.freePublicIps + i.addressesOn info.farmId old.toList := by
  rw [Feasibility.checkFarm_eq_ok_iff, h n info hinfo]
  constructor
  · intro hleft farm hfarm
    have hnonneg := hleft _ (by rw [hfarm, Option.map_some])
    omega
  · intro hleft c hc
    obtain ⟨farm, hfarm, rfl⟩ := Option.map_eq_some_iff.mp hc
    have hle := hleft farm hfarm
    omega

/-! ### Counts of 32 bits -/

/-- A deployment with fewer workloads than 32 bits can count has as many public addresses as the contract that is opened for
it, so that up to there the check, which counts without a bound, goes by the numbers of contracts. -/
theorem exists_count32 (h : d.workloads.length < UInt32.size) :
    ∃ count, Checked.count32 d.publicIpv4Count = .ok count ∧ count.toNat = d.publicIpv4Count := by
  have hcount : Checked.count32 d.publicIpv4Count = .ok d.publicIpv4Count.toUInt32 :=
    if_pos (Nat.lt_of_le_of_lt List.countP_le_length h)
  exact ⟨_, hcount, Checked.toNat_of_count32 hcount⟩

/-- What old deployments give back is what is counted in 32 bits. -/
theorem credited_of_count32 {count : NodeId × Deployment → UInt32}
    (h : ∀ x ∈ old.toList, Checked.count32 x.2.publicIpv4Count = .ok (count x)) :
    credited infos old free = old.toList.foldl (fun free x =>
      match infos[x.1]? with
      | some info => adjust free info.farmId (count x).toNat
      | none => free) free := by
  rw [credited]
  refine List.foldl_ext _ _ _ fun free x hx => ?_
  have hcount : x.2.publicIpv4Count = (count x).toNat := (Checked.toNat_of_count32 (h x hx)).symm
  cases hinfo : infos[x.1]? with
  | none => simp only [hinfo]
  | some info => simp only [hinfo, hcount]

/-- An increase is refused if and only if the counts of 32 bits increase, and shows them. -/
theorem checkIncrease_of_count32 {before : Deployment} {reserved requested : UInt32}
    (hbefore : Checked.count32 before.publicIpv4Count = .ok reserved)
    (h : Checked.count32 d.publicIpv4Count = .ok requested) :
    checkIncrease n (some before) d =
      if reserved < requested then .error (.publicIpIncrease n before.contractId reserved.toNat requested.toNat)
      else .ok () := by
  simp only [checkIncrease, ← Checked.toNat_of_count32 hbefore, ← Checked.toNat_of_count32 h, UInt32.lt_iff_toNat_lt]

/-- The checks that come before that of the capacity pass just if the deployment is cleared. -/
theorem early_eq_ok_iff (hfree : Balanced i infos old (done ++ [(n, d)]) free) (hinfo : infos[n]? = some info) :
    (do checkIncrease n old[n]? d; checkFarm info.farmId free; checkGateways info d) = .ok () ↔
      Cleared i old done n d info := by
  constructor
  · intro h
    obtain ⟨⟨⟩, hincrease, h⟩ := Checked.bind_eq_ok.mp h
    obtain ⟨⟨⟩, hfarm, hgateways⟩ := Checked.bind_eq_ok.mp h
    obtain ⟨hfqdn, hname⟩ := checkGateways_eq_ok_iff.mp hgateways
    exact ⟨⟨checkIncrease_eq_ok_iff.mp hincrease, hfqdn, hname⟩, (hfree.checkFarm_eq_ok_iff hinfo).mp hfarm⟩
  · rintro ⟨hsuits, haddresses⟩
    rw [checkIncrease_eq_ok_iff.mpr hsuits.increase, (hfree.checkFarm_eq_ok_iff hinfo).mpr haddresses]
    exact checkGateways_eq_ok_iff.mpr ⟨hsuits.fqdnGateway, hsuits.nameGateway⟩

/-- A deployment passes: on a node that is known it is cleared, its capacity can be checked, and there is room for it. -/
def Passes (i : Inventory) (old : NodeMap Deployment) (done : List (NodeId × Deployment)) (n : NodeId)
    (d : Deployment) : Prop :=
  ∀ info, i.node n = .ok info → Cleared i old done n d info ∧ Countable info old[n]? d ∧ Room info old[n]? d

theorem passes_of_unknown (h : ¬ i.Knows n) : Passes i old done n d := fun info hnode => absurd ⟨info, hnode⟩ h

theorem passes_iff_of_known (h : i.node n = .ok info) : Passes i old done n d ↔
    Cleared i old done n d info ∧ Countable info old[n]? d ∧ Room info old[n]? d := by
  constructor
  · exact fun hpasses => hpasses info h
  · intro hchecked info' h'
    obtain rfl : info = info' := Except.ok.inj (h.symm.trans h')
    exact hchecked

/-! ### All deployments -/

/-- How the check of deployments ends after those that are done with. -/
inductive Ends (i : Inventory) (old : NodeMap Deployment) :
    List (NodeId × Deployment) → List (NodeId × Deployment) → Checked (Except FeasibilityError Unit) → Prop where
  | accepted {done : List (NodeId × Deployment)} : Ends i old done [] (.ok (.ok ()))
  | passed {done : List (NodeId × Deployment)} {n : NodeId} {d : Deployment} {ds : List (NodeId × Deployment)}
    {r : Checked (Except FeasibilityError Unit)} (passes : Passes i old done n d)
    (rest : Ends i old (done ++ [(n, d)]) ds r) : Ends i old done ((n, d) :: ds) r
  | refused {done : List (NodeId × Deployment)} {n : NodeId} {d : Deployment} {ds : List (NodeId × Deployment)}
    {info : NodeInfo} {e : FeasibilityError} (node : i.node n = .ok info)
    (fails : ¬ Cleared i old done n d info ∨ Countable info old[n]? d ∧ ¬ Room info old[n]? d) :
    Ends i old done ((n, d) :: ds) (.ok (.error e))
  | halted {done : List (NodeId × Deployment)} {n : NodeId} {d : Deployment} {ds : List (NodeId × Deployment)}
    {info : NodeInfo} {fault : Fault} (node : i.node n = .ok info) (cleared : Cleared i old done n d info)
    (overflows : Overflows info old[n]? d fault) : Ends i old done ((n, d) :: ds) (.error fault)

theorem ends_of_checkEach (hfree : Balanced i infos old done free) (hds : Resolves i infos ds) :
    Ends i old done ds (checkEach infos old free ds) := by
  induction ds generalizing done free with
  | nil => exact .accepted
  | cons x ds ih =>
    obtain ⟨n, d⟩ := x
    obtain ⟨hinfo, hds⟩ := Resolves.cons_iff.mp hds
    rw [checkEach]
    dsimp only at hinfo
    rcases hnode : i.node n with e | info <;> rw [hnode] at hinfo <;> rw [hinfo]
    · have hunknown : ¬ i.Knows n := by simp [Inventory.Knows, hnode]
      exact .passed (passes_of_unknown hunknown) (ih (hfree.skip hunknown d) hds)
    have hdebit := hfree.debit hnode d
    have hearly := early_eq_ok_iff hdebit hinfo
    dsimp only [Except.toOption]
    split
    next e hfails =>
      refine .refused hnode (.inl fun hcleared => ?_)
      rw [hearly.mpr hcleared] at hfails
      cases hfails
    next hpasses =>
    have hcleared := hearly.mp hpasses
    rcases checkCapacity_cases info old[n]? d with ⟨fault, hoverflows, hcheck⟩ | ⟨hcounted, r, hcheck, hroom⟩
    · rw [hcheck]
      exact .halted hnode hcleared hoverflows
    · rw [hcheck]
      rcases r with e | ⟨⟩
      · exact .refused hnode (.inr ⟨hcounted, fun h => by cases hroom.mpr h⟩)
      · exact .passed ((passes_iff_of_known hnode).mpr ⟨hcleared, hcounted, hroom.mp rfl⟩) (ih hdebit hds)

/-- The nodes of the old and the new deployments are looked up first. -/
theorem resolves_resolve {nodes : List NodeId} {m : NodeMap Deployment} (h : ∀ n ∈ m, n ∈ nodes) :
    Resolves i (i.resolve nodes) m.toList := by
  intro x hx
  have hmem : x.1 ∈ m := mem_iff_exists_getElem?.mpr ⟨x.2, ExtTreeMap.mem_toList_iff_getElem?_eq_some.mp hx⟩
  rw [Inventory.getElem?_resolve, if_pos (h x.1 hmem)]

theorem ends_of_checkFeasible (i : Inventory) (old new : NodeMap Deployment) :
    Ends i old [] new.toList (i.checkFeasible old new) := by
  have hold : Resolves i (i.resolve (old.keys ++ new.keys)) old.toList :=
    resolves_resolve fun n hn => List.mem_append_left _ (ExtTreeMap.mem_keys.mpr hn)
  have hnew : Resolves i (i.resolve (old.keys ++ new.keys)) new.toList :=
    resolves_resolve fun n hn => List.mem_append_right _ (ExtTreeMap.mem_keys.mpr hn)
  exact ends_of_checkEach (balanced_credited hold) hnew

end Feasibility

end ComputeGrid
