import ComputeGrid.Curve25519.Edwards
import ComputeGrid.Digest.Sha2
import ComputeGrid.Text.Hex
import ComputeGrid.Text.Quoted

/-!
# Signing identities

An `Identity` is an Ed25519 key pair, given by its 32-byte seed. `Identity.sign` is deterministic, and `Identity.verify`
accepts a signature `R ‖ S` if `S` is below the order of the base point and `S · B - k · A` is written as `R`.
-/

namespace ComputeGrid

open Curve25519

/-- A key pair for signatures. -/
structure Identity where
  /-- The secret that everything else is derived from. -/
  seed : List UInt8
  length_seed : seed.length = 32

namespace Identity

/-- The digest whose halves are the secret factor and the source of nonces. -/
def expanded (i : Identity) : List UInt8 := Sha2.sha512 i.seed

/-- The secret factor. -/
def factor (i : Identity) : Nat := clamp (i.expanded.take 32)

/-- The public point. -/
def point (i : Identity) : Point := Point.base.multiple i.factor

/-- The public key. -/
def publicKey (i : Identity) : List UInt8 := i.point.toBytes

/-- The number that a digest stands for, modulo the order of the base point. -/
def reduced (bytes : List UInt8) : Nat := ofBytes (Sha2.sha512 bytes) % order

/-- The signature of a message. -/
def sign (i : Identity) (message : List UInt8) : List UInt8 :=
  let nonce := reduced (i.expanded.drop 32 ++ message)
  let commitment := (Point.base.multiple nonce).toBytes
  let challenge := reduced (commitment ++ i.publicKey ++ message)
  commitment ++ toBytes 32 ((nonce + challenge * i.factor) % order)

/-- Whether bytes are a signature of a message under the public key. -/
def verify (i : Identity) (message signature : List UInt8) : Bool :=
  let commitment := signature.take 32
  let response := ofBytes (signature.drop 32)
  if signature.length = 64 ∧ response < order then
    let challenge := reduced (commitment ++ i.publicKey ++ message)
    ((Point.base.multiple response).add (i.point.neg.multiple challenge)).toBytes == commitment
  else false

/-- The name of the signature scheme. -/
def scheme : String := "ed25519"

/-- The public key in hexadecimal. -/
def publicKeyHex (i : Identity) : String := Text.hex i.publicKey

/-- How an identity is shown: by its public key alone. -/
def description (i : Identity) : String :=
  "Ed25519Identity \x7b public_key: " ++ Text.quoted i.publicKeyHex ++ " \x7d"

end Identity

end ComputeGrid
