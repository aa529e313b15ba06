import ComputeGrid.Mesh.Planner
import ComputeGrid.Proofs.Text.Base64

/-!
# Keys that are read back

The private key of a secret is read as the secret (`secret_base64`), so a pair that was made from a secret is the pair of
its private key (`ofPrivate_ofSecret`).  A private key that is read has only blanks and characters of base64
(`cases_of_mem_privateKey`), and its public key has no blanks (`isBlank_of_mem_publicKey`).
-/

namespace ComputeGrid

namespace KeyPair

variable {bytes : List UInt8} {privateKey : String} {pair : KeyPair}

theorem secret_base64 (h : bytes.length = 32) : secret (Text.base64 bytes) = .ok bytes := by
  have hread : Text.base64Decode? (Text.trim (Text.base64 bytes).toList) = some bytes := by
    rw [Text.base64, String.toList_ofList, Text.trim_base64Encode, Text.base64Decode?_base64Encode]
  rw [secret, hread]
  exact if_pos h

theorem ofPrivate_ofSecret (h : bytes.length = 32) : ofPrivate (ofSecret bytes).privateKey = .ok (ofSecret bytes) := by
  have hsecret : secret (ofSecret bytes).privateKey = .ok bytes := secret_base64 h
  rw [ofPrivate, derivePublic, hsecret]
  rfl

/-- A pair is made up of a private key as it is written and the public key that is derived from it. -/
theorem ofPrivate_eq_ok (h : ofPrivate privateKey = .ok pair) :
    pair.privateKey = privateKey ∧ derivePublic privateKey = .ok pair.publicKey := by
  rw [ofPrivate] at h
  cases hpublic : derivePublic privateKey with
  | error flaw =>
    rw [hpublic] at h
    cases h
  | ok publicKey =>
    rw [hpublic] at h
    cases h
    exact ⟨rfl, rfl⟩

theorem ofPrivate_privateKey (h : ofPrivate privateKey = .ok pair) : ofPrivate pair.privateKey = .ok pair := by
  rwa [(ofPrivate_eq_ok h).1]

theorem derivePublic_of_ofPrivate (h : ofPrivate privateKey = .ok pair) : derivePublic privateKey = .ok pair.publicKey :=
  (ofPrivate_eq_ok h).2

/-! ### Characters of keys -/

/-- The secret of a private key that has a public one, and the public one. -/
theorem derivePublic_eq_ok {publicKey : String} (h : derivePublic privateKey = .ok publicKey) :
    ∃ bytes, Text.base64Decode? (Text.trim privateKey.toList) = some bytes ∧
      publicKey = Text.base64 (Curve25519.publicBytes bytes) := by
  rw [derivePublic, secret] at h
  cases hread : Text.base64Decode? (Text.trim privateKey.toList) with
  | none =>
    rw [hread] at h
    cases h
  | some bytes =>
    rw [hread] at h
    dsimp only at h
    split at h
    · cases h
      exact ⟨bytes, rfl, rfl⟩
    · cases h

/-- A private key has only blanks and characters of base64. -/
theorem cases_of_mem_privateKey (h : ofPrivate privateKey = .ok pair) {c : Char} (hc : c ∈ pair.privateKey.toList) :
    Text.isBlank c = true ∨ c = '=' ∨ (Text.base64Value? c).isSome = true := by
  obtain ⟨hprivate, hpublic⟩ := ofPrivate_eq_ok h
  obtain ⟨bytes, hread, -⟩ := derivePublic_eq_ok hpublic
  obtain ⟨before, after, hbefore, hafter, hsplit⟩ := Text.exists_eq_trim privateKey.toList
  rw [hprivate, hsplit, List.mem_append, List.mem_append] at hc
  rcases hc with (hc | hc) | hc
  · exact .inl (hbefore c hc)
  · exact .inr (Text.isSome_base64Value?_of_mem hread c hc)
  · exact .inl (hafter c hc)

/-- A public key has no blanks. -/
theorem isBlank_of_mem_publicKey (h : ofPrivate privateKey = .ok pair) {c : Char} (hc : c ∈ pair.publicKey.toList) :
    Text.isBlank c = false := by
  obtain ⟨bytes, -, hpublic⟩ := derivePublic_eq_ok (derivePublic_of_ofPrivate h)
  rw [hpublic, Text.base64, String.toList_ofList] at hc
  exact Text.isBlank_of_mem_base64Encode c hc

end KeyPair

/-- The public key is that of the private one. -/
def Member.Keyed (m : Member) : Prop := KeyPair.ofPrivate m.privateKey = .ok ⟨m.privateKey, m.publicKey⟩

/-- New keys are those of their private key. -/
theorem Chance.ofPrivate_keys (c : Chance) (who : Option NodeId) :
    KeyPair.ofPrivate (c.keys who).privateKey = .ok (c.keys who) :=
  KeyPair.ofPrivate_ofSecret (c.length_secret who)

end ComputeGrid
