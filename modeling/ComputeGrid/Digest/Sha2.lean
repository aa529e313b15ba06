/-!
# The SHA-2 digests

`Sha2.sha256` and `Sha2.sha512` are one construction over words of different width. A `Variant` holds what differs: the
width, the rotations and the number of rounds. The round constants and the initial state of the narrow variant are the
upper halves of those of the wide one.
-/

namespace ComputeGrid.Sha2

/-- The first 64 bits of the fractional parts of the cube roots of the first eighty primes. -/
def cubeRoots : Array UInt64 :=
  #[0x428a2f98d728ae22, 0x7137449123ef65cd, 0xb5c0fbcfec4d3b2f, 0xe9b5dba58189dbbc,
    0x3956c25bf348b538, 0x59f111f1b605d019, 0x923f82a4af194f9b, 0xab1c5ed5da6d8118,
    0xd807aa98a3030242, 0x12835b0145706fbe, 0x243185be4ee4b28c, 0x550c7dc3d5ffb4e2,
    0x72be5d74f27b896f, 0x80deb1fe3b1696b1, 0x9bdc06a725c71235, 0xc19bf174cf692694,
    0xe49b69c19ef14ad2, 0xefbe4786384f25e3, 0x0fc19dc68b8cd5b5, 0x240ca1cc77ac9c65,
    0x2de92c6f592b0275, 0x4a7484aa6ea6e483, 0x5cb0a9dcbd41fbd4, 0x76f988da831153b5,
    0x983e5152ee66dfab, 0xa831c66d2db43210, 0xb00327c898fb213f, 0xbf597fc7beef0ee4,
    0xc6e00bf33da88fc2, 0xd5a79147930aa725, 0x06ca6351e003826f, 0x142929670a0e6e70,
    0x27b70a8546d22ffc, 0x2e1b21385c26c926, 0x4d2c6dfc5ac42aed, 0x53380d139d95b3df,
    0x650a73548baf63de, 0x766a0abb3c77b2a8, 0x81c2c92e47edaee6, 0x92722c851482353b,
    0xa2bfe8a14cf10364, 0xa81a664bbc423001, 0xc24b8b70d0f89791, 0xc76c51a30654be30,
    0xd192e819d6ef5218, 0xd69906245565a910, 0xf40e35855771202a, 0x106aa07032bbd1b8,
    0x19a4c116b8d2d0c8, 0x1e376c085141ab53, 0x2748774cdf8eeb99, 0x34b0bcb5e19b48a8,
    0x391c0cb3c5c95a63, 0x4ed8aa4ae3418acb, 0x5b9cca4f7763e373, 0x682e6ff3d6b2b8a3,
    0x748f82ee5defb2fc, 0x78a5636f43172f60, 0x84c87814a1f0ab72, 0x8cc702081a6439ec,
    0x90befffa23631e28, 0xa4506cebde82bde9, 0xbef9a3f7b2c67915, 0xc67178f2e372532b,
    0xca273eceea26619c, 0xd186b8c721c0c207, 0xeada7dd6cde0eb1e, 0xf57d4f7fee6ed178,
    0x06f067aa72176fba, 0x0a637dc5a2c898a6, 0x113f9804bef90dae, 0x1b710b35131c471b,
    0x28db77f523047d84, 0x32caab7b40c72493, 0x3c9ebe0a15c9bebc, 0x431d67c49c100d4c,
    0x4cc5d4becb3e42b6, 0x597f299cfc657e2a, 0x5fcb6fab3ad6faec, 0x6c44198c4a475817]

/-- The first 64 bits of the fractional parts of the square roots of the first eight primes. -/
def squareRoots : Array UInt64 :=
  #[0x6a09e667f3bcc908, 0xbb67ae8584caa73b, 0x3c6ef372fe94f82b, 0xa54ff53a5f1d36f1,
    0x510e527fade682d1, 0x9b05688c2b3e6c1f, 0x1f83d9abfb41bd6b, 0x5be0cd19137e2179]

/-- What sets a digest of the family apart. -/
structure Variant (W : Type) where
  /-- Bytes in a word. -/
  wordBytes : Nat
  /-- One constant for each round. -/
  constants : Array W
  initial : Array W
  /-- The word made of bytes, the first one highest. -/
  ofBytes : List UInt8 → W
  /-- The bytes of a word, the highest first. -/
  toBytes : W → List UInt8
  majorSigma0 : W → W
  majorSigma1 : W → W
  minorSigma0 : W → W
  minorSigma1 : W → W

section

variable {W : Type} [Add W] [XorOp W] [AndOp W] [Complement W] [Inhabited W]

/-- The message with its closing bit, zeros up to a full block and its length in bits. -/
def pad (v : Variant W) (message : List UInt8) : List UInt8 :=
  let block := 16 * v.wordBytes
  let lengthBytes := 2 * v.wordBytes
  let used := (message.length + 1 + lengthBytes) % block
  let zeros := (block - used) % block
  let bits := 8 * message.length
  message ++ 0x80 :: List.replicate zeros 0 ++
    (List.range lengthBytes).map fun i => (bits / Nat.pow 256 (lengthBytes - 1 - i)).toUInt8

/-- The sixteen words of a block, extended to one for each round. -/
@[specialize] def schedule (v : Variant W) (block : Array W) : Array W :=
  (List.range (v.constants.size - 16)).foldl (fun words i =>
    let at_ (k : Nat) : W := words.getD (16 + i - k) default
    words.push (v.minorSigma1 (at_ 2) + at_ 7 + v.minorSigma0 (at_ 15) + at_ 16)) block

/-- The eight working words. -/
structure Working (W : Type) where
  a : W
  b : W
  c : W
  d : W
  e : W
  f : W
  g : W
  h : W

/-- One round. -/
@[specialize] def round (v : Variant W) (s : Working W) (constant word : W) : Working W :=
  let choice := (s.e &&& s.f) ^^^ (~~~s.e &&& s.g)
  let majority := (s.a &&& s.b) ^^^ (s.a &&& s.c) ^^^ (s.b &&& s.c)
  let t := s.h + v.majorSigma1 s.e + choice + constant + word
  ⟨t + v.majorSigma0 s.a + majority, s.a, s.b, s.c, s.d + t, s.e, s.f, s.g⟩

/-- The state after one more block. -/
@[specialize] def compress (v : Variant W) (state : Array W) (block : Array W) : Array W :=
  let words := schedule v block
  let at_ (i : Nat) : W := state.getD i default
  let start : Working W := ⟨at_ 0, at_ 1, at_ 2, at_ 3, at_ 4, at_ 5, at_ 6, at_ 7⟩
  let s := (List.range v.constants.size).foldl
    (fun s i => round v s (v.constants.getD i default) (words.getD i default)) start
  #[at_ 0 + s.a, at_ 1 + s.b, at_ 2 + s.c, at_ 3 + s.d, at_ 4 + s.e, at_ 5 + s.f, at_ 6 + s.g, at_ 7 + s.h]

/-- The words of block `i` of a padded message. -/
@[specialize] def blockWords (v : Variant W) (bytes : Array UInt8) (i : Nat) : Array W :=
  ((List.range 16).map fun j =>
    let start := (16 * i + j) * v.wordBytes
    v.ofBytes (bytes.extract start (start + v.wordBytes)).toList).toArray

/-- The digest of a message. -/
@[specialize] def digest (v : Variant W) (message : List UInt8) : List UInt8 :=
  let bytes := (pad v message).toArray
  let blocks := bytes.size / (16 * v.wordBytes)
  let state := (List.range blocks).foldl (fun state i => compress v state (blockWords v bytes i)) v.initial
  state.toList.flatMap v.toBytes

end

/-- Rotates a 32-bit word to the right by an amount below 32. -/
def rotate32 (x : UInt32) (n : UInt32) : UInt32 := (x >>> n) ||| (x <<< (32 - n))

/-- Rotates a 64-bit word to the right by an amount below 64. -/
def rotate64 (x : UInt64) (n : UInt64) : UInt64 := (x >>> n) ||| (x <<< (64 - n))

/-- The variant over 32-bit words, with 64 rounds. -/
def narrow : Variant UInt32 where
  wordBytes := 4
  constants := (cubeRoots.extract 0 64).map fun (k : UInt64) => (k >>> 32).toUInt32
  initial := squareRoots.map fun (h : UInt64) => (h >>> 32).toUInt32
  ofBytes := fun bytes => bytes.foldl (fun n b => (n <<< 8) ||| b.toUInt32) 0
  toBytes := fun w => [(w >>> 24).toUInt8, (w >>> 16).toUInt8, (w >>> 8).toUInt8, w.toUInt8]
  majorSigma0 := fun x => rotate32 x 2 ^^^ rotate32 x 13 ^^^ rotate32 x 22
  majorSigma1 := fun x => rotate32 x 6 ^^^ rotate32 x 11 ^^^ rotate32 x 25
  minorSigma0 := fun x => rotate32 x 7 ^^^ rotate32 x 18 ^^^ (x >>> 3)
  minorSigma1 := fun x => rotate32 x 17 ^^^ rotate32 x 19 ^^^ (x >>> 10)

/-- The variant over 64-bit words, with 80 rounds. -/
def wide : Variant UInt64 where
  wordBytes := 8
  constants := cubeRoots
  initial := squareRoots
  ofBytes := fun bytes => bytes.foldl (fun n b => (n <<< 8) ||| b.toUInt64) 0
  toBytes := fun w =>
    [(w >>> 56).toUInt8, (w >>> 48).toUInt8, (w >>> 40).toUInt8, (w >>> 32).toUInt8, (w >>> 24).toUInt8,
      (w >>> 16).toUInt8, (w >>> 8).toUInt8, w.toUInt8]
  majorSigma0 := fun x => rotate64 x 28 ^^^ rotate64 x 34 ^^^ rotate64 x 39
  majorSigma1 := fun x => rotate64 x 14 ^^^ rotate64 x 18 ^^^ rotate64 x 41
  minorSigma0 := fun x => rotate64 x 1 ^^^ rotate64 x 8 ^^^ (x >>> 7)
  minorSigma1 := fun x => rotate64 x 19 ^^^ rotate64 x 61 ^^^ (x >>> 6)

/-- The SHA-256 digest, of 32 bytes. -/
def sha256 (message : List UInt8) : List UInt8 := digest narrow message

/-- The SHA-512 digest, of 64 bytes. -/
def sha512 (message : List UInt8) : List UInt8 := digest wide message

end ComputeGrid.Sha2
