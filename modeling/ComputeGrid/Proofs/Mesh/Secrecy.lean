import ComputeGrid.Proofs.Maps
import ComputeGrid.Proofs.Mesh.Passes
import ComputeGrid.Proofs.Mesh.Stability
import Mathlib.Data.Set.Insert

/-!
# Private keys stay with their owners

Two passes over the same grid, with the same left to chance, from meshes that differ in private keys only.  Who peers with
whom does not depend on private keys (`Topology.peers_withoutKeys`), and nothing that a pass asks or decides does: step by
step the two runs end `Alike` (`Alike.bind`), and what they choose for each node differs by no more than what the node held
before (`alike_chooseMembers`).  So the workload of a node depends on no private key but its own, and not on that of the
external member beyond the public key that it stands for (`sameButKeys_of_plan`).
-/

namespace ComputeGrid

/-! ### What is left without private keys -/

def Member.withoutKey (m : Member) : Member := { m with privateKey := "" }

def NetworkSlice.withoutKey (s : NetworkSlice) : NetworkSlice := { s with privateKey := "" }

/-- A workload without the private key of its slice if it has one. -/
def Workload.withoutKey (w : Workload) : Workload :=
  match w.payload with
  | .network s => { w with payload := .network s.withoutKey }
  | _ => w

namespace ExternalMember

def withoutKey (e : ExternalMember) : ExternalMember := { e with privateKey := none }

/-- What an external member shows of itself: all but its private key, and the public key that this one stands for. -/
def shown (e : ExternalMember) : ExternalMember × Option (Except KeyFlaw String) :=
  (e.withoutKey, e.privateKey.map KeyPair.derivePublic)

end ExternalMember

/-- What depends only on what is shown is the same where that is. -/
theorem map_comp_eq {α β γ : Type} {o o' : Option α} {f : α → β} (g : β → γ) (h : o'.map f = o.map f) :
    o'.map (g ∘ f) = o.map (g ∘ f) := by
  rw [← Option.map_map, h, Option.map_map]

/-- Two maps are the same outside some nodes, and everywhere in what is left when something is hidden. -/
structure SameBut {α : Type} (V : Set NodeId) (hide : α → α) (m m' : NodeMap α) : Prop where
  outside : ∀ node ∉ V, m'[node]? = m[node]?
  hidden : ∀ node : NodeId, m'[node]?.map hide = m[node]?.map hide

/-- Two meshes differ at most in the private keys of some nodes and in how the private key of the external member is
written. -/
structure Mesh.SameButKeys (V : Set NodeId) (m m' : Mesh) : Prop where
  name : m'.name = m.name
  range : m'.range = m.range
  relay : m'.relay = m.relay
  nodes : SameBut V Member.withoutKey m.nodes m'.nodes
  external : m'.external.map (·.shown) = m.external.map (·.shown)

/-- Two plans differ at most in the private keys that some nodes are sent, each its own, and in how the private key of the
external member is written. -/
structure MeshPlan.SameButKeys (V : Set NodeId) (plan plan' : MeshPlan) : Prop where
  mesh : plan.mesh.SameButKeys V plan'.mesh
  workloads : SameBut V Workload.withoutKey plan.workloads plan'.workloads
  removed : plan'.removed = plan.removed

namespace SameBut

variable {α β : Type} {V : Set NodeId} {hide : α → α} {m m' : NodeMap α} {node : NodeId} {x x' : α}

theorem refl : SameBut V hide m m := ⟨fun _ _ => rfl, fun _ => rfl⟩

theorem insert (h : SameBut V hide m m') (hsame : node ∉ V → x' = x) (hhide : hide x' = hide x) :
    SameBut V hide (m.insert node x) (m'.insert node x') := by
  constructor
  · intro other hother
    by_cases heq : other = node
    · subst heq
      rw [Std.ExtTreeMap.getElem?_insert_self, Std.ExtTreeMap.getElem?_insert_self, hsame hother]
    · rw [getElem?_insert_of_ne heq, getElem?_insert_of_ne heq, h.outside other hother]
  · intro other
    by_cases heq : other = node
    · subst heq
      rw [Std.ExtTreeMap.getElem?_insert_self, Std.ExtTreeMap.getElem?_insert_self, Option.map_some, Option.map_some, hhide]
    · rw [getElem?_insert_of_ne heq, getElem?_insert_of_ne heq, h.hidden other]

/-- What is made of each entry hides what it should if it does so of one. -/
theorem map {hide' : β → β} (h : SameBut V hide m m') {f : NodeId → α → β}
    (hf : ∀ node x, hide' (f node (hide x)) = hide' (f node x)) : SameBut V hide' (m.map f) (m'.map f) := by
  constructor
  · intro node hnode
    rw [Std.ExtTreeMap.getElem?_map, Std.ExtTreeMap.getElem?_map, h.outside node hnode]
  · intro node
    have hhidden (o : Option α) : (o.map (f node)).map hide' = (o.map hide).map (hide' ∘ f node) := by
      rw [Option.map_map, Option.map_map]
      exact congrArg (Option.map · o) (funext fun x => (hf node x).symm)
    rw [Std.ExtTreeMap.getElem?_map, Std.ExtTreeMap.getElem?_map, hhidden, hhidden, h.hidden node]

theorem map_hide (h : SameBut V hide m m') : m'.map (fun _ => hide) = m.map fun _ => hide :=
  Std.ExtTreeMap.ext_getElem? fun node => by
    rw [Std.ExtTreeMap.getElem?_map, Std.ExtTreeMap.getElem?_map, h.hidden node]

theorem keys_eq (h : SameBut V hide m m') : m'.keys = m.keys := by
  rw [← Std.ExtTreeMap.keys_map (f := fun _ => hide), h.map_hide, Std.ExtTreeMap.keys_map]

theorem contains_eq (h : SameBut V hide m m') (node : NodeId) : m'.contains node = m.contains node := by
  rw [Std.ExtTreeMap.contains_eq_isSome_getElem?, Std.ExtTreeMap.contains_eq_isSome_getElem?, ← Option.isSome_map,
    h.hidden node, Option.isSome_map]

end SameBut

/-! ### Peers -/

namespace Topology

variable {t t' : Topology} {node : NodeId}

def withoutKeys (t : Topology) : Topology :=
  { t with members := t.members.map fun _ m => m.withoutKey, external := t.external.map (·.withoutKey) }

theorem hidden_withoutKeys : t.withoutKeys.hidden = t.hidden.map (·.withoutKey) := by
  rw [hidden, withoutKeys, Std.ExtTreeMap.toList_map, List.filterMap_map, hidden, List.map_filterMap]
  refine congrArg (List.filterMap · t.members.toList) (funext fun (node, m) => ?_)
  show (if (t.reachOf node).isHidden then some m.withoutKey else none) = Option.map _ (if _ then _ else _)
  split <;> rfl

theorem behindRelay_withoutKeys : t.withoutKeys.behindRelay = t.behindRelay := by
  rw [behindRelay, hidden_withoutKeys, List.map_map, behindRelay]
  show _ ++ ((t.external.map (·.withoutKey)).map (·.subnet)).toList = _
  rw [Option.map_map]
  rfl

theorem dialingPeers_withoutKeys : t.withoutKeys.dialingPeers = t.dialingPeers := by
  rw [dialingPeers, hidden_withoutKeys, List.map_map, dialingPeers]
  show _ ++ ((t.external.map (·.withoutKey)).map _).toList = _
  rw [Option.map_map]
  rfl

theorem relayPeer_withoutKeys : t.withoutKeys.relayPeer node = t.relayPeer node := by
  show ((t.members.map fun _ m => m.withoutKey)[node]?).map _ = _
  rw [Std.ExtTreeMap.getElem?_map, Option.map_map]
  rfl

theorem directPeer_withoutKeys (m : Member) : t.withoutKeys.directPeer node m.withoutKey = t.directPeer node m := by
  rw [directPeer, behindRelay_withoutKeys]
  rfl

theorem directPeers_withoutKeys : t.withoutKeys.directPeers node = t.directPeers node := by
  rw [directPeers, withoutKeys, Std.ExtTreeMap.toList_map, List.filterMap_map, directPeers]
  refine congrArg (List.filterMap · t.members.toList) (funext fun (other, m) => ?_)
  show (if _ then none else some (t.withoutKeys.directPeer other m.withoutKey)) = _
  rw [directPeer_withoutKeys]
  rfl

/-- Who peers with whom does not depend on private keys. -/
theorem peers_withoutKeys (node : NodeId) : t.withoutKeys.peers node = t.peers node := by
  rw [peers, directPeers_withoutKeys, dialingPeers_withoutKeys, peers]
  simp only [relayPeer_withoutKeys]
  rfl

theorem peers_eq (h : t'.withoutKeys = t.withoutKeys) : t'.peers node = t.peers node := by
  rw [← peers_withoutKeys, h, peers_withoutKeys]

end Topology

/-! ### Two runs -/

/-- Two computations end in the same error, or in results that are related. -/
inductive Alike {ε α : Type} (R : α → α → Prop) : Except ε α → Except ε α → Prop
  | error (e : ε) : Alike R (.error e) (.error e)
  | ok {a a' : α} (h : R a a') : Alike R (.ok a) (.ok a')

namespace Alike

variable {ε α β : Type} {R : α → α → Prop} {S : β → β → Prop}

theorem refl (hR : ∀ a, R a a) (x : Except ε α) : Alike R x x := by
  cases x with
  | error e => exact .error e
  | ok a => exact .ok (hR a)

theorem bind {x x' : Except ε α} {f f' : α → Except ε β} (h : Alike R x x')
    (hf : ∀ a a', R a a' → Alike S (f a) (f' a')) : Alike S (x >>= f) (x' >>= f') := by
  cases h with
  | error e => exact .error e
  | ok h => exact hf _ _ h

end Alike

namespace Planner

/-- Two runs end at the same time in the same state, in the same fault or error or in results that are related. -/
def AlikeRuns {α : Type} (R : α → α → Prop) (run run' : Checked (Except MeshError α × Timeline Grid)) : Prop :=
  Alike (fun r r' => Alike R r.1 r'.1 ∧ r'.2 = r.2) run run'

section Planning

variable {α β : Type} {R : α → α → Prop} {S : β → β → Prop} {t : Timeline Grid}

theorem alikeRuns_refl (hR : ∀ a, R a a) (run : Checked (Except MeshError α × Timeline Grid)) : AlikeRuns R run run :=
  .refl (fun _ => ⟨.refl hR _, rfl⟩) run

theorem alikeRuns_bind {x x' : Planning α} {f f' : α → Planning β} (h : AlikeRuns R (x t) (x' t))
    (hf : ∀ a a' t₁, R a a' → AlikeRuns S (f a t₁) (f' a' t₁)) : AlikeRuns S ((x >>= f) t) ((x' >>= f') t) := by
  refine Alike.bind h ?_
  rintro ⟨r, t₁⟩ ⟨r', _⟩ ⟨hr, rfl⟩
  cases hr with
  | error e => exact .ok ⟨.error e, rfl⟩
  | ok h => exact hf _ _ _ h

/-- Two runs that begin with the same computation. -/
theorem alikeRuns_bind_same {x : Planning α} {f f' : α → Planning β} (hf : ∀ a t₁, AlikeRuns S (f a t₁) (f' a t₁)) :
    AlikeRuns S ((x >>= f) t) ((x >>= f') t) := by
  refine alikeRuns_bind (alikeRuns_refl (fun _ => rfl) (x t)) ?_
  rintro a _ t₁ rfl
  exact hf _ t₁

theorem alikeRuns_lift {x x' : Except MeshError α} (h : Alike R x x') :
    AlikeRuns R ((liftM x : Planning α) t) ((liftM x' : Planning α) t) :=
  .ok ⟨h, rfl⟩

theorem alikeRuns_pure {a a' : α} (h : R a a') : AlikeRuns R ((pure a : Planning α) t) ((pure a' : Planning α) t) :=
  .ok ⟨.ok h, rfl⟩

end Planning

/-! ### Passes -/

variable {p : Planner} {chance : Chance} {previous previous' : Mesh} {targets : Std.ExtTreeSet NodeId} {external : Bool}
  {t : Timeline Grid} {V : Set NodeId} {s : Subnets} {nodes : List NodeId} {node : NodeId}

theorem ranges_same (h : previous.SameButKeys V previous') : p.ranges previous' = p.ranges previous := by
  rw [ranges, h.range, ranges]

theorem reserveHeld_same (h : previous.SameButKeys V previous') :
    reserveHeld previous' nodes s = reserveHeld previous nodes s := by
  have hnode (node : NodeId) : previous'.nodes[node]?.map (·.subnet) = previous.nodes[node]?.map (·.subnet) :=
    (map_comp_eq Member.subnet (h.nodes.hidden node) :)
  have hexternal : previous'.external.map (·.subnet) = previous.external.map (·.subnet) :=
    (map_comp_eq (fun x => x.1.subnet) h.external :)
  simp only [reserveHeld, hnode, hexternal]

theorem kept_outside (h : previous.SameButKeys V previous') (hnode : node ∉ V) :
    kept previous' node = kept previous node := by
  rw [kept, h.nodes.outside node hnode, h.range, kept]

theorem kept_hidden (h : previous.SameButKeys V previous') :
    (kept previous' node).map (·.withoutKey) = (kept previous node).map (·.withoutKey) := by
  have hkept (m : Mesh) : (kept m node).map (·.withoutKey) =
      (m.nodes[node]?.map (·.withoutKey)).filter fun x => m.range.contains x.subnet := by
    rw [Option.filter_map]
    rfl
  rw [hkept, hkept, h.nodes.hidden node, h.range]

/-- The external member has the same subnet and the same public key. -/
theorem alike_chooseExternal {before before' : Option ExternalMember}
    (h : before'.map (·.shown) = before.map (·.shown)) :
    Alike (fun e e' => e'.1.member.shown = e.1.member.shown ∧ e'.2 = e.2) (chooseExternal chance before s)
      (chooseExternal chance before' s) := by
  cases before with
  | none =>
    obtain rfl : before' = none := Option.map_eq_none_iff.1 h
    exact .refl (fun _ => ⟨rfl, rfl⟩) _
  | some e =>
    obtain ⟨e', rfl, hshown⟩ := Option.map_eq_some_iff.1 h
    obtain ⟨subnet, publicKey, key⟩ := e
    obtain ⟨subnet', publicKey', key'⟩ := e'
    obtain ⟨hbare, hkey⟩ := Prod.mk.inj hshown
    obtain rfl : subnet' = subnet := congrArg (·.subnet) hbare
    cases key with
    | none =>
      obtain rfl : key' = none := Option.map_eq_none_iff.1 hkey
      exact .refl (fun _ => ⟨rfl, rfl⟩) _
    | some k =>
      obtain ⟨k', rfl, hpublic⟩ := Option.map_eq_some_iff.1 hkey
      simp only [chooseExternal, Option.map_some, KeyPair.ofPrivate, hpublic]
      cases hk : KeyPair.derivePublic k with
      | error flaw => exact .error (MeshError.invalidKey flaw)
      | ok key =>
        refine .ok ⟨?_, rfl⟩
        show (_, some (KeyPair.derivePublic k')) = (_, some (KeyPair.derivePublic k))
        rw [hpublic]
        rfl

theorem alike_outsideFor (h : previous.SameButKeys V previous') :
    Alike (fun e e' => e'.1.map (·.member.shown) = e.1.map (·.member.shown) ∧ e'.2 = e.2)
      (outsideFor chance previous.external external s) (outsideFor chance previous'.external external s) := by
  unfold outsideFor
  cases external with
  | false => exact .ok ⟨rfl, rfl⟩
  | true =>
    refine (alike_chooseExternal h.external).bind ?_
    rintro ⟨e, s₁⟩ ⟨e', _⟩ ⟨hshown, rfl⟩
    exact .ok ⟨congrArg some hshown, rfl⟩

/-- What is chosen for a node differs by no more than what it held. -/
theorem alike_chooseMembers (h : previous.SameButKeys V previous') {chosen : Std.ExtTreeSet UInt16}
    {members members' : NodeMap Member} (hmembers : SameBut V Member.withoutKey members members') :
    AlikeRuns (SameBut V Member.withoutKey) (p.chooseMembers chance previous s chosen members nodes t)
      (p.chooseMembers chance previous' s chosen members' nodes t) := by
  -- both runs have the same subnets left and the same ports chosen all along
  induction nodes generalizing s chosen members members' t with
  | nil => exact alikeRuns_pure hmembers
  | cons node rest ih =>
    rw [chooseMembers, chooseMembers]
    have hhidden : (kept previous' node).map (·.withoutKey) = (kept previous node).map (·.withoutKey) := kept_hidden h
    cases hm : kept previous node with
    | none =>
      rw [hm] at hhidden
      rw [Option.map_eq_none_iff.1 hhidden]
      refine alikeRuns_bind_same ?_
      rintro ⟨subnet, s₁⟩ t₁
      refine alikeRuns_bind_same fun m t₂ => ?_
      exact ih (hmembers.insert (fun _ => rfl) rfl)
    | some m =>
      rw [hm] at hhidden
      obtain ⟨m', hm', hbare⟩ := Option.map_eq_some_iff.1 hhidden
      have hport : m'.port = m.port := congrArg (·.port) hbare
      have hsame (hnode : node ∉ V) : m' = m := by
        rw [kept_outside h hnode, hm] at hm'
        exact (Option.some.inj hm').symm
      rw [hm']
      dsimp only
      rw [hport]
      exact ih (hmembers.insert hsame hbare)

/-- Plans that are made of members and external members that are the same but for private keys are so themselves. -/
theorem sameButKeys_assemble (h : previous.SameButKeys V previous') {members members' : NodeMap Member}
    (hmembers : SameBut V Member.withoutKey members members') {outside outside' : Option MeshPlan.External}
    (houtside : outside'.map (·.member.shown) = outside.map (·.member.shown)) (carrier : Ipv4Network) (keepalive : UInt32)
    (reach : NodeMap Reachability) (relay : Option NodeId) :
    (MeshPlan.assemble previous carrier keepalive reach relay outside members).SameButKeys V
      (.assemble previous' carrier keepalive reach relay outside' members') := by
  have hexternal : (outside'.map (·.member)).map (·.shown) = (outside.map (·.member)).map (·.shown) := by
    rw [Option.map_map, Option.map_map]
    exact houtside
  let made (m : Mesh) (members : NodeMap Member) (outside : Option MeshPlan.External) : Topology :=
    ⟨m.range, carrier, members, reach, relay, outside.map (·.member)⟩
  have htopology : (made previous' members' outside').withoutKeys = (made previous members outside).withoutKeys := by
    have hbare : (outside'.map (·.member)).map (·.withoutKey) = (outside.map (·.member)).map (·.withoutKey) :=
      (map_comp_eq Prod.fst hexternal :)
    simp only [made, Topology.withoutKeys, h.range, hmembers.map_hide, hbare]
  -- so the only key in a slice is that of the member itself
  have hslice (node : NodeId) (m : Member) :
      (made previous' members' outside').slice node m = (made previous members outside).slice node m := by
    rw [Topology.slice, Topology.peers_eq htopology]
    simp only [made, h.range]
    rfl
  refine ⟨⟨h.name, h.range, rfl, hmembers, hexternal⟩, ?_, ?_⟩
  · show SameBut V _ (members.map _) (members'.map _)
    simp only [made] at hslice
    simp only [hslice, h.name]
    exact hmembers.map fun _ _ => rfl
  · show List.filter _ previous'.nodes.keys = List.filter _ previous.nodes.keys
    rw [h.nodes.keys_eq]
    simp only [hmembers.contains_eq]

/-- Two passes over the same grid, with the same left to chance, from meshes that differ in private keys only: in those of
some nodes, and in how the private key of the external member is written, which stands for the same public key.  They end
in the same error or in plans in which every other node has the same workload, and each of these nodes has one that
differs at most in its own private key. -/
theorem sameButKeys_of_plan (h : previous.SameButKeys V previous') :
    AlikeRuns (MeshPlan.SameButKeys V) (p.plan chance previous targets external t)
      (p.plan chance previous' targets external t) := by
  rw [plan, plan, ranges_same h, h.relay]
  refine alikeRuns_bind_same ?_
  rintro ⟨carrier, s₁⟩ t₁
  refine alikeRuns_bind_same fun found t₂ => ?_
  refine alikeRuns_bind_same ?_
  rintro ⟨relay, reach⟩ t₃
  dsimp only
  rw [reserveHeld_same h]
  refine alikeRuns_bind (alikeRuns_lift (alike_outsideFor h)) ?_
  rintro ⟨outside, s₂⟩ ⟨outside', _⟩ t₄ ⟨houtside, rfl⟩
  refine alikeRuns_bind (alike_chooseMembers h .refl) fun members members' t₅ hmembers => ?_
  exact alikeRuns_pure (sameButKeys_assemble h hmembers houtside _ _ _ _)

/-- A mesh of which a hidden node and the external member have these private keys. -/
def keyedMesh (key outside : String) : Mesh :=
  let subnet : Nat → Ipv4Network := Subnets.subnet ⟨hillyMesh.range, ∅, Subnets.firstOctet⟩
  { hillyMesh with
    nodes := ((∅ : NodeMap Member).insert 1 ⟨subnet 2, "first", "FIRST", 2000⟩).insert 2 ⟨subnet 3, key, "SECOND", 2001⟩
    relay := some 1
    external := some ⟨subnet 4, "OUTSIDE", some outside⟩ }

theorem keyedMesh_sameButKeys {key key' outside outside' : String}
    (h : KeyPair.derivePublic outside' = KeyPair.derivePublic outside) :
    (keyedMesh key outside).SameButKeys {2} (keyedMesh key' outside') := by
  refine ⟨rfl, rfl, rfl, SameBut.refl.insert (fun hnot => absurd rfl hnot) rfl, ?_⟩
  show some (_, some (KeyPair.derivePublic outside')) = some (_, some (KeyPair.derivePublic outside))
  rw [h]
  rfl

/-- The second node has another private key and that of the external member stands between blanks, in a pass in which a
third node joins. -/
theorem sameButKeys_of_keyedMesh : ∃ (plan plan' : MeshPlan) (t : Timeline Grid) (outside outside' : String),
    hillyPass (keyedMesh "old" outside) [1, 2, 3] = .ok (.ok plan, t) ∧
    hillyPass (keyedMesh "new" outside') [1, 2, 3] = .ok (.ok plan', t) ∧ plan.SameButKeys {2} plan' ∧
    plan'.workloads[(2 : NodeId)]? ≠ plan.workloads[(2 : NodeId)]? ∧ plan'.externalConfig ≠ plan.externalConfig := by
  let outside := (plainChance.keys none).privateKey
  let outside' := " " ++ outside ++ " "
  have hpublic : KeyPair.derivePublic outside' = KeyPair.derivePublic outside :=
    congrArg (Except.map _) (by decide +kernel : KeyPair.secret outside' = KeyPair.secret outside)
  have hruns : succeeds (hillyPass (keyedMesh "old" outside) [1, 2, 3]) (fun plan =>
      succeeds (hillyPass (keyedMesh "new" outside') [1, 2, 3]) fun plan' =>
        plan'.workloads[(2 : NodeId)]? ≠ plan.workloads[(2 : NodeId)]? && plan'.externalConfig ≠ plan.externalConfig) =
      true := by
    decide +kernel
  obtain ⟨plan, t, hplan, hrest⟩ := exists_of_succeeds hruns
  obtain ⟨plan', t', hplan', htest⟩ := exists_of_succeeds hrest
  rw [Bool.and_eq_true, decide_eq_true_eq, decide_eq_true_eq] at htest
  have halike : AlikeRuns (MeshPlan.SameButKeys {2}) (hillyPass (keyedMesh "old" outside) [1, 2, 3])
      (hillyPass (keyedMesh "new" outside') [1, 2, 3]) :=
    sameButKeys_of_plan (keyedMesh_sameButKeys hpublic)
  rw [hplan, hplan'] at halike
  obtain - | ⟨hresults, rfl⟩ := halike
  obtain - | hplans := hresults
  exact ⟨plan, plan', t', outside, outside', hplan, hplan', hplans, htest.1, htest.2⟩

end Planner

end ComputeGrid
