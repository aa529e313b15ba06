import ComputeGrid.Mesh.QuickConfig
import ComputeGrid.Proofs.Address.Texts
import ComputeGrid.Proofs.Text.Trimming
import Mathlib.Data.List.Basic

/-!
# Configurations that are read back

The text of a configuration is made up of marks and values by turns (`QuickConfig.toList_render`): one section says what the
member itself is, the other has its only peer.  A value goes on up to a character that does not occur in it
(`QuickConfig.between?_append`), so the text of a configuration whose keys and endpoint are without these characters is read as
the configuration (`QuickConfig.ofText?_render`).
-/

namespace ComputeGrid

/-! ### Characters of addresses -/

theorem Ipv4.isDigit_of_mem_chars {x : Ipv4} {c : Char} (h : c ∈ x.chars) : c.isDigit = true ∨ c = '.' := by
  simp only [chars, List.mem_append, List.mem_cons] at h
  rcases h with ((h | rfl | h) | rfl | h) | rfl | h
  all_goals first
    | exact .inl (Text.isDigit_of_mem_numeral h)
    | exact .inr rfl

namespace Ipv4Network

variable {n : Ipv4Network} {c : Char}

theorem toList_text (n : Ipv4Network) : n.text.toList = n.address.chars ++ '/' :: Text.numeral n.length.val :=
  String.toList_ofList

theorem isDigit_of_mem_text (h : c ∈ n.text.toList) : c.isDigit = true ∨ c = '.' ∨ c = '/' := by
  rw [toList_text, List.mem_append, List.mem_cons] at h
  rcases h with h | rfl | h
  · exact (Ipv4.isDigit_of_mem_chars h).imp_right .inl
  · exact .inr (.inr rfl)
  · exact .inl (Text.isDigit_of_mem_numeral h)

/-- No other character is in the text of a network. -/
theorem not_mem_text (hdigit : c.isDigit = false) (hpoint : c ≠ '.') (hslash : c ≠ '/') : c ∉ n.text.toList := by
  intro h
  rcases isDigit_of_mem_text h with h | h | h
  · rw [hdigit] at h
    cases h
  · exact hpoint h
  · exact hslash h

theorem text_ne_nil (n : Ipv4Network) : n.text.toList ≠ [] := by
  rw [toList_text]
  exact List.append_ne_nil_of_right_ne_nil _ (List.cons_ne_nil _ _)

theorem trim_text (n : Ipv4Network) : Text.trim n.text.toList = n.text.toList := by
  refine Text.trim_eq_self fun c hc => Bool.eq_false_iff.2 fun hblank => ?_
  rw [Text.isBlank_iff] at hblank
  rcases isDigit_of_mem_text hc with h | rfl | rfl
  · obtain ⟨hlow, hhigh⟩ : 48 ≤ c.toNat ∧ c.toNat ≤ 57 := Char.isDigit_iff_toNat.1 h
    simp only [Text.whiteSpace, List.mem_cons, List.not_mem_nil, or_false] at hblank
    omega
  · revert hblank
    decide
  · revert hblank
    decide

theorem trim_space_text (n : Ipv4Network) : Text.trim (' ' :: n.text.toList) = n.text.toList := by
  have htrim : Text.trim ([' '] ++ n.text.toList ++ []) = Text.trim n.text.toList :=
    Text.trim_append (List.forall_mem_singleton.2 rfl) nofun
  rwa [List.append_nil, List.singleton_append, n.trim_text] at htrim

end Ipv4Network

namespace QuickConfig

/-! ### Reading -/

/-- What stands after a mark that a text begins with, up to a character, and what follows from that character on. -/
def between? (mark : String) (stop : Char) (cs : List Char) : Option (List Char × List Char) :=
  (cs.dropPrefix? mark.toList).map fun cs => (cs.takeWhile (· != stop), cs.dropWhile (· != stop))

/-- The networks that a text is, with commas between them. -/
def networksOf? (cs : List Char) : Option (List Ipv4Network) :=
  if cs = [] then some []
  else (cs.splitOn ',').mapM fun part => Ipv4Network.ofText? (String.ofList (Text.trim part))

/-- The number of seconds that a text is. -/
def secondsOf? (cs : List Char) : Option UInt32 :=
  ((Text.readDigits 10 cs).filter (· < UInt32.size)).map (·.toUInt32)

/-- The configuration that a text is.  Blanks around a private key are part of it, and may be line breaks, so it goes on to the
next section. -/
def ofText? (text : String) : Option QuickConfig := do
  let (address, cs) ← between? "[Interface]\nAddress = " '\n' text.toList
  let (privateKey, cs) ← between? "\nPrivateKey = " '[' cs
  let (publicKey, cs) ← between? "[Peer]\nPublicKey = " '\n' cs
  let (networks, cs) ← between? "\nAllowedIPs = " '\n' cs
  let (seconds, cs) ← between? "\nPersistentKeepalive = " '\n' cs
  let (endpoint, cs) ← between? "\nEndpoint = " '\n' cs
  guard (cs = ['\n'])
  return {
    address := ← Ipv4Network.ofText? (String.ofList address)
    privateKey := String.ofList (← privateKey.dropSuffix? "\n\n".toList)
    relayPublicKey := String.ofList publicKey
    relayEndpoint := String.ofList endpoint
    allowedIps := ← networksOf? networks
    keepalive := ← secondsOf? seconds }

/-! ### Networks with commas between them -/

theorem mem_intercalate {sep : List Char} {parts : List (List Char)} {c : Char} (h : c ∈ sep.intercalate parts) :
    c ∈ sep ∨ ∃ part ∈ parts, c ∈ part := by
  induction parts with
  | nil => cases h
  | cons part parts ih =>
    cases parts with
    | nil =>
      rw [List.intercalate_singleton] at h
      exact .inr ⟨part, List.mem_cons_self, h⟩
    | cons next rest =>
      rw [List.intercalate_cons_cons, List.mem_append, List.mem_append] at h
      rcases h with (h | h) | h
      · exact .inr ⟨part, List.mem_cons_self, h⟩
      · exact .inl h
      · exact (ih h).imp_right fun ⟨other, hother, hc⟩ => ⟨other, List.mem_cons_of_mem _ hother, hc⟩

/-- A list with commas and spaces between its parts has commas between parts with a space before them. -/
theorem intercalate_comma_space (part : List Char) (parts : List (List Char)) :
    ", ".toList.intercalate (part :: parts) = [','].intercalate (part :: parts.map (' ' :: ·)) := by
  induction parts generalizing part with
  | nil => rfl
  | cons next parts ih =>
    have hspace (rest : List (List Char)) : [','].intercalate ((' ' :: next) :: rest) =
        ' ' :: [','].intercalate (next :: rest) := by
      cases rest with
      | nil => rfl
      | cons _ _ =>
        rw [List.intercalate_cons_cons, List.intercalate_cons_cons]
        rfl
    rw [List.intercalate_cons_cons, ih, List.map_cons, List.intercalate_cons_cons, hspace, List.append_assoc,
      List.append_assoc]
    rfl

theorem mapM_map_eq_some {α β : Type} {f : β → Option α} {g : α → β} (xs : List α) (h : ∀ x, f (g x) = some x) :
    (xs.map g).mapM f = some xs := by
  induction xs with
  | nil => rfl
  | cons x xs ih =>
    rw [List.map_cons, List.mapM_cons, h, ih]
    rfl

theorem networksOf?_intercalate (ns : List Ipv4Network) :
    networksOf? (", ".intercalate (ns.map Ipv4Network.text)).toList = some ns := by
  rw [String.toList_intercalate, List.map_map]
  cases ns with
  | nil => rfl
  | cons n ns =>
    have hcomma (k : Ipv4Network) : ',' ∉ k.text.toList := Ipv4Network.not_mem_text rfl (by decide) (by decide)
    have hapart : ∀ part ∈ n.text.toList :: ns.map (' ' :: ·.text.toList), ',' ∉ part := by
      refine List.forall_mem_cons.2 ⟨hcomma n, List.forall_mem_map.2 fun k _ h => ?_⟩
      exact (List.mem_cons.1 h).elim (by decide) (hcomma k)
    have hsplit : List.splitOn ',' ([','].intercalate (n.text.toList :: ns.map (' ' :: ·.text.toList))) =
        n.text.toList :: ns.map (' ' :: ·.text.toList) :=
      List.splitOn_intercalate ',' hapart (List.cons_ne_nil _ _)
    have hne : [','].intercalate (n.text.toList :: ns.map (' ' :: ·.text.toList)) ≠ [] := by
      intro hempty
      rw [hempty] at hsplit
      exact n.text_ne_nil (List.cons.inj hsplit).1.symm
    have hfirst : Ipv4Network.ofText? (String.ofList (Text.trim n.text.toList)) = some n := by
      rw [n.trim_text, String.ofList_toList, n.ofText?_text]
    have hrest : (ns.map (' ' :: ·.text.toList)).mapM (fun part => Ipv4Network.ofText? (String.ofList (Text.trim part))) =
        some ns := by
      refine mapM_map_eq_some ns fun k => ?_
      rw [k.trim_space_text, String.ofList_toList, k.ofText?_text]
    rw [List.map_cons, intercalate_comma_space, List.map_map]
    show networksOf? ([','].intercalate (n.text.toList :: ns.map (' ' :: ·.text.toList))) = _
    rw [networksOf?, if_neg hne, hsplit, List.mapM_cons, hfirst, hrest]
    rfl

/-! ### Reading back -/

theorem between?_append {mark : String} {stop : Char} {value rest : List Char} (hvalue : stop ∉ value)
    (hrest : rest.head? = some stop) : between? mark stop (mark.toList ++ (value ++ rest)) = some (value, rest) := by
  have hgoes : ∀ c ∈ value, (c != stop) = true := fun c hc => bne_iff_ne.2 fun heq => hvalue (heq ▸ hc)
  have hstops : ¬ (stop != stop) = true := fun h => bne_iff_ne.1 h rfl
  obtain ⟨rest, rfl⟩ := List.head?_eq_some_iff.1 hrest
  rw [between?, List.dropPrefix?_append_of_beq _ BEq.rfl, Option.map_some, List.takeWhile_append_of_pos hgoes,
    List.dropWhile_append_of_pos hgoes]
  simp only [List.takeWhile_cons, List.dropWhile_cons, if_neg hstops, List.append_nil]

theorem secondsOf?_numeral (n : UInt32) : secondsOf? (Text.numeral n.toNat) = some n := by
  rw [secondsOf?, Text.readDigits_numeral, Option.filter_some, if_pos (decide_eq_true n.toNat_lt), Option.map_some,
    Nat.toUInt32_eq, UInt32.ofNat_toNat]

/-- A configuration whose keys and endpoint are without the characters that end them. -/
structure Legible (c : QuickConfig) : Prop where
  privateKey : '[' ∉ c.privateKey.toList
  publicKey : '\n' ∉ c.relayPublicKey.toList
  endpoint : '\n' ∉ c.relayEndpoint.toList

/-- The text is made up of marks and values by turns. -/
theorem toList_render (c : QuickConfig) : c.render.toList =
    "[Interface]\nAddress = ".toList ++ (c.address.text.toList ++
    ("\nPrivateKey = ".toList ++ (c.privateKey.toList ++ "\n\n".toList ++
    ("[Peer]\nPublicKey = ".toList ++ (c.relayPublicKey.toList ++
    ("\nAllowedIPs = ".toList ++ ((", ".intercalate (c.allowedIps.map Ipv4Network.text)).toList ++
    ("\nPersistentKeepalive = ".toList ++ (Text.numeral c.keepalive.toNat ++
    ("\nEndpoint = ".toList ++ (c.relayEndpoint.toList ++ ['\n']))))))))))) := by
  have haddress : "[Interface]\nAddress = ".toList = "[Interface]".toList ++ ("\n".toList ++ "Address = ".toList) := rfl
  have hprivate : "\nPrivateKey = ".toList = "\n".toList ++ "PrivateKey = ".toList := rfl
  have hsection : "\n\n".toList = "\n".toList ++ "\n".toList := rfl
  have hpublic : "[Peer]\nPublicKey = ".toList = "[Peer]".toList ++ ("\n".toList ++ "PublicKey = ".toList) := rfl
  have hnetworks : "\nAllowedIPs = ".toList = "\n".toList ++ "AllowedIPs = ".toList := rfl
  have hseconds : "\nPersistentKeepalive = ".toList = "\n".toList ++ "PersistentKeepalive = ".toList := rfl
  have hendpoint : "\nEndpoint = ".toList = "\n".toList ++ "Endpoint = ".toList := rfl
  have hend : ['\n'] = "\n".toList := rfl
  have hnumeral : (toString c.keepalive.toNat).toList = Text.numeral c.keepalive.toNat := String.toList_ofList
  rw [haddress, hprivate, hsection, hpublic, hnetworks, hseconds, hendpoint, hend, ← hnumeral, render]
  simp only [String.toList_join, List.map_cons, List.map_nil, List.flatMap_cons, List.flatMap_nil, String.toList_append,
    List.append_assoc, List.append_nil]
  rfl

/-- The text of a configuration is read as the configuration. -/
theorem ofText?_render {c : QuickConfig} (h : c.Legible) : ofText? c.render = some c := by
  have hbreak (n : Ipv4Network) : '\n' ∉ n.text.toList := Ipv4Network.not_mem_text rfl (by decide) (by decide)
  have hkey : '[' ∉ c.privateKey.toList ++ "\n\n".toList := by
    rw [List.mem_append, not_or]
    exact ⟨h.privateKey, by decide⟩
  have hnetworks : '\n' ∉ (", ".intercalate (c.allowedIps.map Ipv4Network.text)).toList := by
    rw [String.toList_intercalate, List.map_map]
    intro hmem
    rcases mem_intercalate hmem with hmem | ⟨part, hpart, hmem⟩
    · revert hmem
      decide
    · obtain ⟨n, -, rfl⟩ := List.mem_map.1 hpart
      exact hbreak n hmem
  have hseconds : '\n' ∉ Text.numeral c.keepalive.toNat := fun hmem => by
    cases Text.isDigit_of_mem_numeral hmem
  have hsuffix : (c.privateKey.toList ++ "\n\n".toList).dropSuffix? "\n\n".toList = some c.privateKey.toList :=
    List.dropSuffix?_eq_some_iff.2 ⟨_, rfl, BEq.rfl⟩
  rw [ofText?, toList_render]
  rw [between?_append (hbreak c.address) rfl, Option.bind_eq_bind, Option.bind_some]
  dsimp only
  rw [between?_append hkey rfl, Option.bind_eq_bind, Option.bind_some]
  dsimp only
  rw [between?_append h.publicKey rfl, Option.bind_eq_bind, Option.bind_some]
  dsimp only
  rw [between?_append hnetworks rfl, Option.bind_eq_bind, Option.bind_some]
  dsimp only
  rw [between?_append hseconds rfl, Option.bind_eq_bind, Option.bind_some]
  dsimp only
  rw [between?_append h.endpoint rfl, Option.bind_eq_bind, Option.bind_some]
  dsimp only
  rw [guard, if_pos rfl, hsuffix, networksOf?_intercalate, secondsOf?_numeral, String.ofList_toList, String.ofList_toList,
    String.ofList_toList, Ipv4Network.ofText?_text]
  exact congrArg (fun privateKey => some { c with privateKey }) String.ofList_toList

/-- The text in full. -/
example : render ⟨⟨⟨100, 64, 20, 2⟩, 32⟩, "private", "public", "185.0.0.1:5000",
    [⟨⟨10, 20, 0, 0⟩, 16⟩, ⟨⟨100, 64, 0, 0⟩, 16⟩], 25⟩ =
      "[Interface]\nAddress = 100.64.20.2/32\nPrivateKey = private\n\n" ++
      "[Peer]\nPublicKey = public\nAllowedIPs = 10.20.0.0/16, 100.64.0.0/16\n" ++
      "PersistentKeepalive = 25\nEndpoint = 185.0.0.1:5000\n" := by decide +kernel

end QuickConfig

end ComputeGrid
