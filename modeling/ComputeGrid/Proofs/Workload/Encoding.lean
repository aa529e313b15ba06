import ComputeGrid.Proofs.Json.Encoding
import ComputeGrid.Workload.Codec

/-!
# The JSON of a payload determines it

Different payloads are different as JSON, whatever their kinds (`Payload.toJson_inj`), and no payload has a
float in it (`Payload.plain_toJson`), so that their texts are different too.  The same is shown of each
record that a payload contains.
-/

namespace ComputeGrid

open Std (ExtTreeMap)

/-! ### Values -/

namespace Json

@[simp] theorem ofNat_inj {m n : Nat} : ofNat m = ofNat n ↔ m = n := by
  simp only [ofNat, Json.number.injEq, Number.integer.injEq, Int.ofNat_inj]

@[simp] theorem plain_ofNat (n : Nat) : (ofNat n).Plain := trivial

@[simp] theorem plain_string (s : String) : (Json.string s).Plain := trivial

@[simp] theorem plain_bool (b : Bool) : (Json.bool b).Plain := trivial

@[simp] theorem plain_null : Json.null.Plain := trivial

@[simp] theorem plain_object_nil : (Json.object []).Plain := trivial

@[simp] theorem plain_object_cons {name : String} {x : Json} {members : List (String × Json)} :
    (Json.object ((name, x) :: members)).Plain ↔ x.Plain ∧ (Json.object members).Plain := Iff.rfl

variable {α : Type} {toJson : α → Json}

theorem ofList_inj (h : Function.Injective toJson) {xs ys : List α} : ofList toJson xs = ofList toJson ys ↔ xs = ys := by
  rw [ofList, ofList, Json.array.injEq]
  exact ⟨fun heq => List.map_inj_right h |>.mp heq, congrArg _⟩

theorem plain_ofList (h : ∀ x, (toJson x).Plain) (xs : List α) : (ofList toJson xs).Plain := by
  show PlainItems _
  rw [plainItems_iff]
  intro j hj
  obtain ⟨x, _, rfl⟩ := List.mem_map.mp hj
  exact h x

theorem ofOption_string_inj {x y : Option String} : ofOption .string x = ofOption .string y ↔ x = y := by
  rcases x with _ | x
  · rcases y with _ | y
    · simp only [ofOption]
    · simp only [ofOption, reduceCtorEq]
  · rcases y with _ | y
    · simp only [ofOption, reduceCtorEq]
    · simp only [ofOption, string.injEq, Option.some.injEq]

theorem plain_ofOption_string (x : Option String) : (ofOption .string x).Plain := by
  rcases x with _ | x
  · exact trivial
  · exact trivial

theorem nameMap_string_inj {m m' : NameMap String} : nameMap .string m = nameMap .string m' ↔ m = m' := by
  have hmember : Function.Injective fun x : String × String => (x.1, Json.string x.2) := by
    rintro ⟨name, x⟩ ⟨name', x'⟩ h
    simp only [Prod.mk.injEq, string.injEq] at h
    rw [h.1, h.2]
  rw [nameMap, nameMap, object.injEq, ← ExtTreeMap.toList_inj]
  exact ⟨(List.map_inj_right hmember).mp, congrArg _⟩

theorem plain_nameMap_string (m : NameMap String) : (nameMap .string m).Plain := by
  show PlainMembers _
  rw [plainMembers_iff]
  intro x hx
  obtain ⟨y, _, rfl⟩ := List.mem_map.mp hx
  exact trivial

end Json

/-! ### Addresses -/

theorem Ipv4.chars_append_inj {x y : Ipv4} {r s : List Char} (hr : Text.Delimited r) (hs : Text.Delimited s)
    (h : x.chars ++ r = y.chars ++ s) : x = y ∧ r = s := by
  have hdot (cs : List Char) : Text.Delimited ('.' :: cs) := Text.delimited_cons rfl
  simp only [chars, List.append_assoc, List.cons_append] at h
  obtain ⟨ha, h⟩ := Text.numeral_append_inj (hdot _) (hdot _) h
  obtain ⟨hb, h⟩ := Text.numeral_append_inj (hdot _) (hdot _) (List.cons.inj h).2
  obtain ⟨hc, h⟩ := Text.numeral_append_inj (hdot _) (hdot _) (List.cons.inj h).2
  obtain ⟨hd, hrs⟩ := Text.numeral_append_inj hr hs (List.cons.inj h).2
  rw [UInt8.toNat_inj] at ha hb hc hd
  cases x
  cases y
  simp only at ha hb hc hd
  rw [ha, hb, hc, hd]
  exact ⟨rfl, hrs⟩

theorem Ipv4.text_injective {x y : Ipv4} (h : x.text = y.text) : x = y :=
  (chars_append_inj Text.delimited_nil Text.delimited_nil (congrArg (· ++ []) (String.ofList_inj.mp h))).1

@[simp] theorem Ipv4.toJson_inj {x y : Ipv4} : x.toJson = y.toJson ↔ x = y :=
  ⟨fun h => text_injective (Json.string.inj h), congrArg _⟩

theorem Ipv4Network.text_injective {m n : Ipv4Network} (h : m.text = n.text) : m = n := by
  have hslash (cs : List Char) : Text.Delimited ('/' :: cs) := Text.delimited_cons rfl
  obtain ⟨haddress, h⟩ := Ipv4.chars_append_inj (hslash _) (hslash _) (String.ofList_inj.mp h)
  have hlength := Text.numeral_injective (List.cons.inj h).2
  cases m
  cases n
  simp only at haddress hlength
  rw [haddress, Fin.ext hlength]

@[simp] theorem Ipv4Network.toJson_inj {m n : Ipv4Network} : m.toJson = n.toJson ↔ m = n :=
  ⟨fun h => text_injective (Json.string.inj h), congrArg _⟩

@[simp] theorem Ipv4.plain_toJson (x : Ipv4) : x.toJson.Plain := trivial

@[simp] theorem Ipv4Network.plain_toJson (n : Ipv4Network) : n.toJson.Plain := trivial

/-! ### Records -/

@[simp] theorem Compute.toJson_inj {a b : Compute} : a.toJson = b.toJson ↔ a = b := by
  cases a
  cases b
  simp [toJson, UInt8.toNat_inj, UInt64.toNat_inj]

@[simp] theorem MachineInterface.toJson_inj {a b : MachineInterface} : a.toJson = b.toJson ↔ a = b := by
  cases a
  cases b
  simp [toJson]

@[simp] theorem MachineMount.toJson_inj {a b : MachineMount} : a.toJson = b.toJson ↔ a = b := by
  cases a
  cases b
  simp [toJson]

@[simp] theorem MachineNetwork.toJson_inj {a b : MachineNetwork} : a.toJson = b.toJson ↔ a = b := by
  have hinterface : Function.Injective MachineInterface.toJson := fun _ _ => MachineInterface.toJson_inj.mp
  cases a
  cases b
  simp [toJson, Json.ofOption_string_inj, Json.ofList_inj hinterface]

@[simp] theorem Peer.toJson_inj {a b : Peer} : a.toJson = b.toJson ↔ a = b := by
  have hnetwork : Function.Injective Ipv4Network.toJson := fun _ _ => Ipv4Network.toJson_inj.mp
  cases a
  cases b
  simp [toJson, Json.ofList_inj hnetwork]

@[simp] theorem QsfsBackend.toJson_inj {a b : QsfsBackend} : a.toJson = b.toJson ↔ a = b := by
  cases a
  cases b
  simp [toJson]

@[simp] theorem QsfsGroup.toJson_inj {a b : QsfsGroup} : a.toJson = b.toJson ↔ a = b := by
  have hbackend : Function.Injective QsfsBackend.toJson := fun _ _ => QsfsBackend.toJson_inj.mp
  cases a
  cases b
  simp [toJson, Json.ofList_inj hbackend]

@[simp] theorem Compute.plain_toJson (c : Compute) : c.toJson.Plain := by
  simp [toJson]

@[simp] theorem MachineInterface.plain_toJson (i : MachineInterface) : i.toJson.Plain := by
  simp [toJson]

@[simp] theorem MachineMount.plain_toJson (m : MachineMount) : m.toJson.Plain := by
  simp [toJson]

@[simp] theorem MachineNetwork.plain_toJson (n : MachineNetwork) : n.toJson.Plain := by
  simp [toJson, Json.plain_ofOption_string, Json.plain_ofList MachineInterface.plain_toJson]

@[simp] theorem Peer.plain_toJson (p : Peer) : p.toJson.Plain := by
  simp [toJson, Json.plain_ofList Ipv4Network.plain_toJson]

@[simp] theorem QsfsBackend.plain_toJson (b : QsfsBackend) : b.toJson.Plain := by
  simp [toJson]

@[simp] theorem QsfsGroup.plain_toJson (g : QsfsGroup) : g.toJson.Plain := by
  simp [toJson, Json.plain_ofList QsfsBackend.plain_toJson]

/-! ### Payloads -/

theorem WorkloadKind.tag_injective {k k' : WorkloadKind} (h : k.tag = k'.tag) : k = k' :=
  Option.some.inj ((ofTag?_tag k).symm.trans (h ▸ ofTag?_tag k'))

theorem ZdbMode.text_injective {m m' : ZdbMode} (h : m.text = m'.text) : m = m' := by
  cases m
  · cases m'
    · rfl
    · exact absurd h (by decide)
  · cases m'
    · exact absurd h (by decide)
    · rfl

namespace Payload

/-- The fields of payloads of one kind determine them. -/
theorem fields_injective {p q : Payload} (hkind : p.kind = q.kind) (h : p.fields = q.fields) : p = q := by
  have hmount : Function.Injective MachineMount.toJson := fun _ _ => MachineMount.toJson_inj.mp
  have hpeer : Function.Injective Peer.toJson := fun _ _ => Peer.toJson_inj.mp
  have hgroup : Function.Injective QsfsGroup.toJson := fun _ _ => QsfsGroup.toJson_inj.mp
  have hstring : Function.Injective Json.string := fun _ _ => Json.string.inj
  rcases p with a | a | a | a | a | a | a | a | a <;> rcases q with b | b | b | b | b | b | b | b | b
  any_goals cases hkind
  all_goals
    cases a
    cases b
  · simpa [fields, Machine.fields, Json.ofList_inj hmount, Json.nameMap_string_inj, UInt64.toNat_inj] using h
  · simpa [fields, Disk.fields, UInt64.toNat_inj] using h
  · simp [fields, Zdb.fields, UInt64.toNat_inj] at h
    obtain ⟨hsize, hmode, hpassword, hpublic⟩ := h
    rw [hsize, ZdbMode.text_injective hmode, hpassword, hpublic]
  · simpa [fields, NameGateway.fields, Json.ofList_inj hstring] using h
  · simpa [fields, FqdnGateway.fields, Json.ofList_inj hstring] using h
  · simpa [fields, NetworkSlice.fields, Json.ofList_inj hpeer, UInt16.toNat_inj] using h
  · simpa [fields, PublicIp.fields] using h
  · simpa [fields, Qsfs.fields, Json.ofList_inj hgroup, UInt32.toNat_inj, UInt64.toNat_inj] using h
  · simpa [fields, LogShipper.fields] using h

@[simp] theorem toJson_inj {p q : Payload} : p.toJson = q.toJson ↔ p = q := by
  refine ⟨fun h => ?_, congrArg _⟩
  rw [toJson, toJson, Json.object.injEq, List.cons.injEq, Prod.mk.injEq, Json.string.injEq] at h
  exact fields_injective (WorkloadKind.tag_injective h.1.2) h.2

@[simp] theorem plain_toJson (p : Payload) : p.toJson.Plain := by
  rcases p with a | a | a | a | a | a | a | a | a
  · simp [toJson, fields, Machine.fields, Json.plain_ofList MachineMount.plain_toJson, Json.plain_nameMap_string]
  · simp [toJson, fields, Disk.fields]
  · simp [toJson, fields, Zdb.fields]
  · simp [toJson, fields, NameGateway.fields, Json.plain_ofList Json.plain_string]
  · simp [toJson, fields, FqdnGateway.fields, Json.plain_ofList Json.plain_string]
  · simp [toJson, fields, NetworkSlice.fields, Json.plain_ofList Peer.plain_toJson]
  · simp [toJson, fields, PublicIp.fields]
  · simp [toJson, fields, Qsfs.fields, Json.plain_ofList QsfsGroup.plain_toJson]
  · simp [toJson, fields, LogShipper.fields]

end Payload

end ComputeGrid
