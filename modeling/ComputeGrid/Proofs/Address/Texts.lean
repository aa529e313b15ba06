import ComputeGrid.Address.Codec
import ComputeGrid.Proofs.Json.Records

/-!
# Addresses that are read back

The text of an address is read as the address, alone or with the length of a network after it.  For IPv4 the four numbers are
read one after another (`Ipv4.read_chars`).  For IPv6 there are three forms of text: one that maps an IPv4 address
(`Ipv6.read_mapped`), one with `::` in place of the longest run of zeros (`Ipv6.read_run`), and all eight groups
(`Ipv6.read_full`); in each the groups are read up to where they end (`Ipv6.readGroups_groupsText`), and `Ipv6.read_chars` puts
them together.
-/

namespace ComputeGrid

open Text (numeral digitValueIn)

/-! ### IPv4 -/

namespace Ipv4

variable {x : Ipv4} {cs r : List Char}

@[simp] theorem skip_self (c : Char) (cs : List Char) : skip c (c :: cs) = some cs := if_pos rfl

/-- An octet is read back in either form. -/
theorem read_numeral (form : Octets) (x : UInt8) (hr : Text.Delimited r) :
    form.read (numeral x.toNat ++ r) = some (x, r) := by
  have hlt := x.toNat_lt
  have hlength : (numeral x.toNat).length ≤ 3 := Text.length_numeral_le (by decide) (Nat.lt_of_lt_of_le hlt (by decide))
  have hzero : ¬ (form = .canonical ∧ 1 < (numeral x.toNat).length ∧ (numeral x.toNat).head? = some '0') :=
    fun h => Text.head?_numeral h.2.1 h.2.2
  rw [Octets.read, Text.takeWhile_numeral_append hr]
  dsimp only [Option.bind_eq_bind]
  rw [Text.readDigits_numeral, Option.bind_some, if_neg (by omega), if_neg hzero, List.drop_left, Nat.toUInt8_eq,
    UInt8.ofNat_toNat]

/-- An address is read back from its text, up to what follows it. -/
theorem read_chars (form : Octets) (x : Ipv4) (hr : Text.Delimited r) : read form (x.chars ++ r) = some (x, r) := by
  have hdot (cs : List Char) : Text.Delimited ('.' :: cs) := Text.delimited_cons rfl
  simp only [read, chars, List.append_assoc, List.cons_append, read_numeral form _ (hdot _), read_numeral form _ hr,
    skip_self, Option.bind_eq_bind, Option.bind_some]
  rfl

theorem ofText?_text (x : Ipv4) : ofText? x.text = some x := by
  have hread : read .canonical x.chars = some (x, []) := by
    have h := read_chars .canonical x Text.delimited_nil
    rwa [List.append_nil] at h
  rw [ofText?, text, String.toList_ofList, hread]

/-- What is left after a number is what follows its digits. -/
theorem rest_of_read {form : Octets} {a : UInt8} (h : form.read cs = some (a, r)) : r = cs.dropWhile Char.isDigit := by
  rw [Octets.read] at h
  dsimp only [Option.bind_eq_bind] at h
  obtain ⟨n, -, h⟩ := Option.bind_eq_some_iff.1 h
  split at h
  · cases h
  · split at h
    · cases h
    · cases h
      calc cs.drop (cs.takeWhile Char.isDigit).length
        _ = (cs.takeWhile Char.isDigit ++ cs.dropWhile Char.isDigit).drop (cs.takeWhile Char.isDigit).length := by
            rw [List.takeWhile_append_dropWhile]
        _ = cs.dropWhile Char.isDigit := List.drop_left

/-- Nothing is read unless there is a point after the first digits. -/
theorem read_eq_none (form : Octets) (h : (cs.dropWhile Char.isDigit).head? ≠ some '.') : read form cs = none := by
  rw [read]
  cases hfirst : form.read cs with
  | none => rfl
  | some p =>
    obtain ⟨a, rest⟩ := p
    have hrest := rest_of_read hfirst
    have hskip : skip '.' rest = none := by
      rw [hrest]
      cases hcs : cs.dropWhile Char.isDigit with
      | nil => rfl
      | cons c tail =>
        rw [hcs, List.head?_cons] at h
        exact if_neg fun heq => h (congrArg some heq)
    show (skip '.' rest).bind _ = none
    rw [hskip, Option.bind_none]

end Ipv4

/-! ### IPv6 -/

namespace Ipv6

open Ipv4 (skip skip_self)

variable {x : Ipv6} {g : UInt16} {gs front back : List UInt16} {cs r : List Char}

/-- The digits of a group. -/
abbrev digits (g : UInt16) : List Char := Nat.toDigits 16 g.toNat

/-- The text does not go on with a digit or a point, but with a colon or a slash if at all. -/
def Parted (cs : List Char) : Prop := ∀ c ∈ cs.head?, c = ':' ∨ c = '/'

/-- What may follow groups: nothing, the colons of a run of zeros, or the length of a network. -/
inductive Ends : List Char → Prop
  | nil : Ends []
  | run (cs : List Char) : Ends (':' :: ':' :: cs)
  | slash (cs : List Char) : Ends ('/' :: cs)

theorem parted_colon (cs : List Char) : Parted (':' :: cs) := fun _ hc => .inl (Option.some.inj hc).symm

theorem parted_slash (cs : List Char) : Parted ('/' :: cs) := fun _ hc => .inr (Option.some.inj hc).symm

theorem Ends.parted (h : Ends r) : Parted r := by
  cases h with
  | nil => exact nofun
  | run cs => exact parted_colon _
  | slash cs => exact parted_slash cs

/-! #### One group -/

theorem isSome_of_mem_digits {c : Char} (h : c ∈ digits g) : (digitValueIn 16 c).isSome = true :=
  Text.isSome_digitValueIn_of_mem_toDigits (by decide) (by decide) h

theorem takeWhile_digits_append (hr : Parted r) :
    (digits g ++ r).takeWhile (fun c => (digitValueIn 16 c).isSome) = digits g := by
  rw [List.takeWhile_append_of_pos fun _ => isSome_of_mem_digits]
  cases r with
  | nil => rw [List.takeWhile_nil, List.append_nil]
  | cons c cs =>
    rw [List.takeWhile_cons_of_neg, List.append_nil]
    rcases hr c rfl with rfl | rfl
    · decide
    · decide

/-- A group is read back, up to what follows it. -/
theorem readGroup_digits (hr : Parted r) : readGroup (digits g ++ r) = some (g, r) := by
  have hlt := g.toNat_lt
  have hlength : (digits g).length ≤ 4 := (Nat.length_toDigits_le_iff (by decide) (by decide)).2 (by omega)
  rw [readGroup, takeWhile_digits_append hr]
  dsimp only [Option.bind_eq_bind]
  rw [Text.readDigits_toDigits (by decide) (by decide), Option.bind_some, if_neg (by omega), List.drop_left,
    Nat.toUInt16_eq, UInt16.ofNat_toNat]

theorem readGroup_eq_none (hr : Parted r) : readGroup r = none := by
  have hdigits : r.takeWhile (fun c => (digitValueIn 16 c).isSome) = [] := by
    cases r with
    | nil => rfl
    | cons c cs =>
      rw [List.takeWhile_cons_of_neg]
      rcases hr c rfl with rfl | rfl
      · decide
      · decide
  rw [readGroup, hdigits]
  rfl

/-- No dotted address starts with a group. -/
theorem readIpv4_eq_none (form : Octets) {ds : List Char} (hds : ∀ c ∈ ds, (digitValueIn 16 c).isSome = true)
    (hr : Parted r) : Ipv4.read form (ds ++ r) = none := by
  apply Ipv4.read_eq_none
  intro hdot
  have hmem : '.' ∈ ds ∨ r.head? = some '.' := by
    induction ds with
    | nil =>
      refine .inr ?_
      cases r with
      | nil => cases hdot
      | cons c cs =>
        rw [List.nil_append, List.dropWhile_cons_of_neg] at hdot
        · exact hdot
        · rcases hr c rfl with rfl | rfl
          · decide
          · decide
    | cons c ds ih =>
      rw [List.cons_append, List.dropWhile_cons] at hdot
      split at hdot
      · obtain ⟨-, hds⟩ := List.forall_mem_cons.1 hds
        exact (ih hds hdot).imp (List.mem_cons_of_mem c) id
      · rw [List.head?_cons, Option.some.injEq] at hdot
        rw [hdot]
        exact .inl List.mem_cons_self
  rcases hmem with hmem | hhead
  · exact absurd (hds _ hmem) (by decide)
  · rcases hr '.' hhead with h | h
    · cases h
    · cases h

/-! #### Groups one after another -/

/-- Where no group can be read the groups end. -/
theorem readGroups_stop (form : Octets) (room : Nat) {first : Bool}
    (h : ∀ r, (if first then some cs else skip ':' cs) = some r → Parted r) :
    readGroups form room first cs = ([], false, cs) := by
  cases room with
  | zero => rfl
  | succ room =>
    rw [readGroups]
    cases hstart : if first then some cs else skip ':' cs with
    | none =>
      dsimp only
      rw [Option.bind_none, ite_self, Option.bind_none]
    | some r =>
      have hr := h r hstart
      have hempty : ∀ c ∈ ([] : List Char), (digitValueIn 16 c).isSome = true := nofun
      have hipv4 : Ipv4.read form r = none := readIpv4_eq_none form hempty hr
      dsimp only
      rw [Option.bind_some, Option.bind_some, hipv4, ite_self, readGroup_eq_none hr]

/-- A group is read, and then those that follow it. -/
theorem readGroups_group (form : Octets) (room : Nat) {first : Bool}
    (hstart : (if first then some cs else skip ':' cs) = some (digits g ++ r)) (hr : Parted r) :
    readGroups form (room + 1) first cs =
      (g :: (readGroups form room false r).1, (readGroups form room false r).2) := by
  have hipv4 : Ipv4.read form (digits g ++ r) = none := readIpv4_eq_none form (fun _ => isSome_of_mem_digits) hr
  rw [readGroups, hstart]
  dsimp only
  rw [Option.bind_some, Option.bind_some, hipv4, ite_self, readGroup_digits hr]

/-- The groups after the first. -/
def moreText (gs : List UInt16) : List Char := gs.flatMap fun g => ':' :: digits g

theorem groupsText_cons (g : UInt16) (gs : List UInt16) : groupsText (g :: gs) = digits g ++ moreText gs := by
  induction gs generalizing g with
  | nil => exact (List.append_nil _).symm
  | cons g' gs ih =>
    rw [groupsText, ih]
    · rfl
    · exact nofun

theorem Ends.parted_moreText (h : Ends r) (gs : List UInt16) : Parted (moreText gs ++ r) := by
  cases gs with
  | nil => exact h.parted
  | cons g gs => exact parted_colon _

theorem readGroups_moreText (form : Octets) {room : Nat} (hroom : gs.length ≤ room) (hr : Ends r) :
    readGroups form room false (moreText gs ++ r) = (gs, false, r) := by
  induction gs generalizing room with
  | nil =>
    apply readGroups_stop
    intro s hs
    cases hr with
    | nil => cases hs
    | run cs =>
      cases hs
      exact parted_colon cs
    | slash cs => cases hs
  | cons g gs ih =>
    cases room with
    | zero => cases hroom
    | succ room =>
      have hstart : (if false = true then some (moreText (g :: gs) ++ r) else skip ':' (moreText (g :: gs) ++ r)) =
          some (digits g ++ (moreText gs ++ r)) := by
        rw [if_neg Bool.false_ne_true, moreText, List.flatMap_cons, List.cons_append, List.cons_append, skip_self,
          List.append_assoc]
        rfl
      rw [readGroups_group form room hstart (hr.parted_moreText gs), ih (Nat.le_of_succ_le_succ hroom)]

/-- Groups are read back, up to what ends them. -/
theorem readGroups_groupsText (form : Octets) {room : Nat} (hroom : gs.length ≤ room) (hr : Ends r) :
    readGroups form room true (groupsText gs ++ r) = (gs, false, r) := by
  cases gs with
  | nil =>
    apply readGroups_stop
    rintro s ⟨⟩
    exact hr.parted
  | cons g gs =>
    cases room with
    | zero => cases hroom
    | succ room =>
      have hstart : (if true = true then some (groupsText (g :: gs) ++ r) else skip ':' (groupsText (g :: gs) ++ r)) =
          some (digits g ++ (moreText gs ++ r)) := by
        rw [if_pos rfl, groupsText_cons, List.append_assoc]
      rw [readGroups_group form room hstart (hr.parted_moreText gs),
        readGroups_moreText form (Nat.le_of_succ_le_succ hroom) hr]

/-! #### Runs of zeros -/

theorem ofEnds?_eq_some (h : front ++ List.replicate (8 - front.length - back.length) 0 ++ back = x.groups.toList) :
    ofEnds? front back = some x := by
  have hsize : (front ++ List.replicate (8 - front.length - back.length) 0 ++ back).toArray.size = 8 := by
    rw [List.size_toArray, h, Vector.length_toList]
  rw [ofEnds?, dif_pos hsize]
  congr 1
  obtain ⟨⟨groups, hgroups⟩⟩ := x
  congr 2
  rw [h]
  exact Array.toArray_toList

theorem eq_append_zerosAtStart (gs : List UInt16) :
    gs = List.replicate (zerosAtStart gs) 0 ++ gs.drop (zerosAtStart gs) := by
  induction gs with
  | nil => rfl
  | cons g gs ih =>
    rw [zerosAtStart, List.takeWhile_cons]
    split
    next hg =>
      rw [beq_iff_eq] at hg
      rw [hg, List.length_cons, List.replicate_succ, List.cons_append, List.drop_succ_cons]
      exact congrArg (List.cons 0) ih
    next => rfl

/-- The run that is found is one of zeros. -/
theorem eq_append_longestRun (place : Nat) (gs : List UInt16) :
    ∃ k, (longestRun place gs).1 = place + k ∧
      gs = gs.take k ++ List.replicate (longestRun place gs).2 0 ++ gs.drop (k + (longestRun place gs).2) := by
  induction gs generalizing place with
  | nil => exact ⟨0, rfl, rfl⟩
  | cons g gs ih =>
    rw [longestRun]
    split
    · refine ⟨0, rfl, ?_⟩
      rw [List.take_zero, List.nil_append, Nat.zero_add]
      exact eq_append_zerosAtStart (g :: gs)
    · obtain ⟨k, hplace, hgs⟩ := ih (place + 1)
      refine ⟨k + 1, ?_, ?_⟩
      · rw [hplace]
        omega
      · rw [List.take_succ_cons, Nat.add_right_comm, List.drop_succ_cons, List.cons_append, List.cons_append]
        exact congrArg (List.cons g) hgs

/-! #### Texts -/

/-- Eight groups are an address. -/
theorem read_full (form : Octets) (least : Nat) (hgs : gs = x.groups.toList) (hr : Ends r) :
    read form least (groupsText gs ++ r) = some (x, r) := by
  have hlength : gs.length = 8 := by rw [hgs, Vector.length_toList]
  have hends : ofEnds? gs [] = some x := by
    apply ofEnds?_eq_some
    rw [hlength, hgs]
    simp
  rw [read, readGroups_groupsText form (Nat.le_of_eq hlength) hr]
  dsimp only
  rw [if_pos hlength, hends]
  rfl

/-- Groups at both ends, with two colons between them, are an address if there are not too many of them. -/
theorem read_run (form : Octets) {least : Nat} (hlength : front.length + back.length + least ≤ 8)
    (hfront : front.length ≠ 8) (hends : ofEnds? front back = some x) (hr : Ends r) :
    read form least (groupsText front ++ ':' :: ':' :: (groupsText back ++ r)) = some (x, r) := by
  have hback : back.length ≤ 8 - front.length - least := by omega
  rw [read, readGroups_groupsText form (by omega) (.run _)]
  dsimp only
  rw [if_neg hfront, if_neg Bool.false_ne_true, skip_self, Option.bind_eq_bind, Option.bind_some, skip_self,
    Option.bind_eq_bind, Option.bind_some, readGroups_groupsText form hback hr, hends]
  rfl

/-- Groups with two colons in place of a run of zeros are an address. -/
theorem read_zeros (form : Octets) {least place length : Nat} (hleast : least ≤ 1) (hlength : 1 < length)
    (hgs : x.groups.toList =
      x.groups.toList.take place ++ List.replicate length 0 ++ x.groups.toList.drop (place + length)) (hr : Ends r) :
    read form least (groupsText (x.groups.toList.take place) ++ [':', ':'] ++
      groupsText (x.groups.toList.drop (place + length)) ++ r) = some (x, r) := by
  generalize x.groups.toList.take place = front at hgs ⊢
  generalize x.groups.toList.drop (place + length) = back at hgs ⊢
  have hall : front.length + length + back.length = 8 := by
    have h := congrArg List.length hgs
    rw [Vector.length_toList, List.length_append, List.length_append, List.length_replicate] at h
    exact h.symm
  have hends : ofEnds? front back = some x := by
    apply ofEnds?_eq_some
    rw [hgs]
    congr 3
    omega
  rw [List.append_assoc, List.append_assoc]
  exact read_run form (by omega) (by omega) hends hr

theorem Ends.delimited (h : Ends r) : Text.Delimited r := by
  intro c hc
  rcases h.parted c hc with rfl | rfl
  · rfl
  · rfl

/-- Where there is room for two groups a dotted address stands for them. -/
theorem readGroups_ipv4 (form : Octets) {room : Nat} (hroom : 0 < room) (y : Ipv4) (hr : Ends r) :
    readGroups form (room + 1) false (':' :: (y.chars ++ r)) = (groupsOfIpv4 y, true, r) := by
  rw [readGroups, if_neg Bool.false_ne_true, skip_self]
  dsimp only
  rw [Option.bind_some, if_pos hroom, Ipv4.read_chars form y hr.delimited]

/-- The text that maps an IPv4 address stands for its groups. -/
theorem read_mapped (form : Octets) {least : Nat} (hleast : least ≤ 1) {y : Ipv4}
    (hy : x.groups.toList = [0, 0, 0, 0, 0, 0xFFFF] ++ groupsOfIpv4 y) (hr : Ends r) :
    read form least ("::ffff:".toList ++ (y.chars ++ r)) = some (x, r) := by
  have htext : "::ffff:".toList ++ (y.chars ++ r) =
      groupsText [] ++ ':' :: ':' :: (digits 0xFFFF ++ ':' :: (y.chars ++ r)) := rfl
  have hback : readGroups form (8 - 0 - least) true (digits 0xFFFF ++ ':' :: (y.chars ++ r)) =
      (0xFFFF :: groupsOfIpv4 y, true, r) := by
    obtain ⟨room, hroom, hpos⟩ : ∃ room, 8 - 0 - least = room + 1 + 1 ∧ 0 < room := ⟨6 - least, by omega, by omega⟩
    rw [hroom, readGroups_group form (room + 1) rfl (parted_colon _), readGroups_ipv4 form hpos y hr]
  have hends : ofEnds? [] (0xFFFF :: groupsOfIpv4 y) = some x := ofEnds?_eq_some hy.symm
  rw [htext, read, readGroups_groupsText form (Nat.zero_le 8) (.run _)]
  dsimp only
  rw [if_neg nofun, if_neg Bool.false_ne_true, skip_self, Option.bind_eq_bind, Option.bind_some, skip_self,
    Option.bind_eq_bind, Option.bind_some, List.length_nil, hback, hends]
  rfl

/-- The dotted address that two groups are shown as stands for them. -/
theorem groupsOfIpv4_mk (high low : UInt16) :
    groupsOfIpv4 ⟨(high.toNat / 256).toUInt8, high.toUInt8, (low.toNat / 256).toUInt8, low.toUInt8⟩ = [high, low] := by
  have hpair (g : UInt16) : ((g.toNat / 256).toUInt8.toNat * 256 + g.toUInt8.toNat).toUInt16 = g := by
    have hg := g.toNat_lt
    rw [← UInt16.toNat_inj, Nat.toUInt16_eq, UInt16.toNat_ofNat', Nat.toUInt8_eq, UInt8.toNat_ofNat', UInt16.toNat_toUInt8]
    omega
  rw [groupsOfIpv4, hpair high, hpair low]

/-- An address is read back from its text, up to what follows it. -/
theorem read_chars (form : Octets) {least : Nat} (hleast : least ≤ 1) (x : Ipv6) (hr : Ends r) :
    read form least (x.chars ++ r) = some (x, r) := by
  rw [chars]
  dsimp only
  split
  next high low hgs =>
    rw [List.append_assoc]
    apply read_mapped form hleast _ hr
    rw [groupsOfIpv4_mk]
    exact hgs
  next =>
    obtain ⟨place, hplace, hgs⟩ := eq_append_longestRun 0 x.groups.toList
    rw [Nat.zero_add] at hplace
    split
    next hlength =>
      rw [hplace]
      exact read_zeros form hleast hlength hgs hr
    next => exact read_full form least rfl hr

theorem ofText?_text (x : Ipv6) : ofText? x.text = some x := by
  have hread : read .canonical 1 x.chars = some (x, []) := by
    have h := read_chars .canonical (Nat.le_refl 1) x .nil
    rwa [List.append_nil] at h
  rw [ofText?, text, String.toList_ofList, hread]

end Ipv6

/-! ### Networks -/

/-- A length is read back if there are digits enough for the bound. -/
theorem readLength?_numeral (count : Nat) {bound n : Nat} (hcount : 0 < count) (hbound : bound ≤ Nat.pow 10 count)
    (hn : n < bound) : Ipv4Network.readLength? count bound (numeral n) = some n := by
  have hlength : (numeral n).length ≤ count := Text.length_numeral_le hcount (Nat.lt_of_lt_of_le hn hbound)
  rw [Ipv4Network.readLength?, if_pos hlength, Text.readDigits_numeral, Option.filter_some, if_pos (decide_eq_true hn)]

theorem Ipv4Network.ofText?_text (n : Ipv4Network) : ofText? n.text = some n := by
  have hread := Ipv4.read_chars .padded n.address (Text.delimited_cons (r := numeral n.length.val) (c := '/') rfl)
  have hlength := readLength?_numeral 2 (by decide) (by decide) n.length.isLt
  rw [ofText?, text, String.toList_ofList, hread, Option.bind_eq_bind, Option.bind_some]
  dsimp only
  rw [Ipv4.skip_self, Option.bind_eq_bind, Option.bind_some, hlength, Option.bind_eq_bind, Option.bind_some,
    dif_pos n.length.isLt]
  rfl

theorem Ipv6Network.ofText?_text (n : Ipv6Network) : ofText? n.text = some n := by
  have hread := Ipv6.read_chars .padded (Nat.zero_le 1) n.address (.slash (numeral n.length.val))
  have hlength := readLength?_numeral 3 (by decide) (by decide) n.length.isLt
  rw [ofText?, text, String.toList_ofList, hread, Option.bind_eq_bind, Option.bind_some]
  dsimp only
  rw [Ipv4.skip_self, Option.bind_eq_bind, Option.bind_some, hlength, Option.bind_eq_bind, Option.bind_some,
    dif_pos n.length.isLt]
  rfl

/-! ### Addresses and networks as JSON -/

@[simp] theorem Ipv4.ofJson?_toJson (x : Ipv4) : ofJson? x.toJson = some x := by
  rw [ofJson?, toJson, Json.toString?_string, Option.bind_some, ofText?_text]

@[simp] theorem Ipv6.ofJson?_toJson (x : Ipv6) : ofJson? x.toJson = some x := by
  rw [ofJson?, toJson, Json.toString?_string, Option.bind_some, ofText?_text]

@[simp] theorem Ipv4Network.ofJson?_toJson (n : Ipv4Network) : ofJson? n.toJson = some n := by
  rw [ofJson?, toJson, Json.toString?_string, Option.bind_some, ofText?_text]

@[simp] theorem Ipv6Network.ofJson?_toJson (n : Ipv6Network) : ofJson? n.toJson = some n := by
  rw [ofJson?, toJson, Json.toString?_string, Option.bind_some, ofText?_text]

end ComputeGrid
