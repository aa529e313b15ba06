import ComputeGrid.Curve25519.Ladder
import ComputeGrid.Text.Base64
import ComputeGrid.Text.Blank
import ComputeGrid.Text.Quoted

/-!
# Keys of a mesh

A key is 32 bytes in base64. The public key is the public half of the private one; blanks around a private key are passed
over when it is read, and kept.
-/

namespace ComputeGrid

/-- Why a text is no private key. -/
inductive KeyFlaw where
  | notBase64
  | length (bytes : Nat)
  deriving DecidableEq, Repr

def KeyFlaw.text : KeyFlaw → String
  | notBase64 => "<base64>"
  | length bytes => "expected 32 bytes, got " ++ toString bytes

/-- A private key and its public key. -/
structure KeyPair where
  privateKey : String
  publicKey : String
  deriving DecidableEq, Repr

namespace KeyPair

/-- The secret that a private key stands for. -/
def secret (privateKey : String) : Except KeyFlaw (List UInt8) :=
  match Text.base64Decode? (Text.trim privateKey.toList) with
  | none => .error .notBase64
  | some bytes => if bytes.length = 32 then .ok bytes else .error (.length bytes.length)

/-- The public key of a private key. -/
def derivePublic (privateKey : String) : Except KeyFlaw String :=
  (secret privateKey).map fun bytes => Text.base64 (Curve25519.publicBytes bytes)

/-- The pair of a private key as it is written. -/
def ofPrivate (privateKey : String) : Except KeyFlaw KeyPair :=
  (derivePublic privateKey).map fun publicKey => ⟨privateKey, publicKey⟩

/-- The pair of a secret. -/
def ofSecret (bytes : List UInt8) : KeyPair :=
  ⟨Text.base64 bytes, Text.base64 (Curve25519.publicBytes bytes)⟩

/-- How a pair is shown: by its public key alone. -/
def description (k : KeyPair) : String :=
  "WgKeyPair \x7b public_key: " ++ Text.quoted k.publicKey ++ ", .. \x7d"

end KeyPair

end ComputeGrid
