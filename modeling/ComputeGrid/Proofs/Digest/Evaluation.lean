import ComputeGrid.Digest.Sha2

/-!
# Digests by arithmetic of numbers

A digest is evaluated on the numbers that its words stand for, and on lists in place of arrays.  A `Counting` has the
operations on numbers that a variant needs, `Counts` relates the two, and `digest_eq` says that both ways lead to the same
bytes.  So `sha256_eq` turns the digest of a given message into one that is soon computed.
-/

namespace ComputeGrid.Sha2

/-- The operations of a variant on the numbers of its words. -/
structure Counting where
  modulus : Nat
  ofBytes : List UInt8 → Nat
  toBytes : Nat → List UInt8
  majorSigma0 : Nat → Nat
  majorSigma1 : Nat → Nat
  minorSigma0 : Nat → Nat
  minorSigma1 : Nat → Nat

namespace Counting

variable (c : Counting)

def add (a b : Nat) : Nat := (a + b) % c.modulus

/-- The word after sixteen or more, of which the latest is first. -/
def next (words : List Nat) : Nat :=
  c.add (c.add (c.add (c.minorSigma1 (words.getD 1 0)) (words.getD 6 0)) (c.minorSigma0 (words.getD 14 0)))
    (words.getD 15 0)

/-- Words with a number of further ones, the latest first. -/
def extend : Nat → List Nat → List Nat
  | 0, words => words
  | n + 1, words => extend n (c.next words :: words)

/-- One round. -/
def round (s : Working Nat) (constant word : Nat) : Working Nat :=
  let choice := (s.e &&& s.f) ^^^ ((c.modulus - 1 - s.e) &&& s.g)
  let majority := (s.a &&& s.b) ^^^ (s.a &&& s.c) ^^^ (s.b &&& s.c)
  let t := c.add (c.add (c.add (c.add s.h (c.majorSigma1 s.e)) choice) constant) word
  ⟨c.add (c.add t (c.majorSigma0 s.a)) majority, s.a, s.b, s.c, c.add s.d t, s.e, s.f, s.g⟩

/-- All rounds, one for each constant and its word. -/
def rounds : List Nat → List Nat → Working Nat → Working Nat
  | constant :: constants, word :: words, s => rounds constants words (c.round s constant word)
  | _, _, s => s

/-- The state after one more block. -/
def compress (constants state block : List Nat) : List Nat :=
  let words := (c.extend (constants.length - 16) block.reverse).reverse
  let at_ (i : Nat) : Nat := state.getD i 0
  let s := c.rounds constants words ⟨at_ 0, at_ 1, at_ 2, at_ 3, at_ 4, at_ 5, at_ 6, at_ 7⟩
  [c.add (at_ 0) s.a, c.add (at_ 1) s.b, c.add (at_ 2) s.c, c.add (at_ 3) s.d, c.add (at_ 4) s.e, c.add (at_ 5) s.f,
    c.add (at_ 6) s.g, c.add (at_ 7) s.h]

/-- A number of words from the start of bytes. -/
def words (wordBytes : Nat) : Nat → List UInt8 → List Nat
  | 0, _ => []
  | n + 1, bytes => c.ofBytes (bytes.take wordBytes) :: words wordBytes n (bytes.drop wordBytes)

/-- The state after a number of blocks from the start of bytes. -/
def blocks (wordBytes : Nat) (constants : List Nat) : Nat → List Nat → List UInt8 → List Nat
  | 0, state, _ => state
  | n + 1, state, bytes =>
    blocks wordBytes constants n (c.compress constants state (c.words wordBytes 16 bytes)) (bytes.drop (16 * wordBytes))

theorem extend_succ (n : Nat) (words : List Nat) :
    c.extend (n + 1) words = c.next (c.extend n words) :: c.extend n words := by
  induction n generalizing words with
  | zero => rfl
  | succ n ih => rw [extend, ih, extend]

theorem length_extend (n : Nat) (words : List Nat) : (c.extend n words).length = n + words.length := by
  induction n with
  | zero => exact (Nat.zero_add _).symm
  | succ n ih => rw [extend_succ, List.length_cons, ih, Nat.add_right_comm]

theorem words_eq_map (wordBytes n : Nat) (bytes : List UInt8) : c.words wordBytes n bytes =
    (List.range n).map fun j => c.ofBytes ((bytes.drop (j * wordBytes)).take wordBytes) := by
  induction n generalizing bytes with
  | zero => rfl
  | succ n ih =>
    rw [words, ih, List.range_succ_eq_map, List.map_cons, List.map_map, Nat.zero_mul, List.drop_zero]
    congr 1
    refine List.map_congr_left fun j _ => ?_
    rw [Function.comp_apply, List.drop_drop, Nat.succ_mul, Nat.add_comm]

end Counting

theorem getD_toList {W : Type} (words : Array W) (i : Nat) (w : W) : words.toList.getD i w = words.getD i w := by
  rw [List.getD_eq_getElem?_getD, Array.getElem?_toList, Array.getD_eq_getD_getElem?]

section

variable {W : Type} [Add W] [XorOp W] [AndOp W] [Complement W] [Inhabited W] {v : Variant W} {c : Counting} {val : W → Nat}

/-- The words of a variant are counted by `val`, which its operations respect. -/
structure Counts (v : Variant W) (c : Counting) (val : W → Nat) : Prop where
  zero : val default = 0
  add : ∀ a b, val (a + b) = c.add (val a) (val b)
  xor : ∀ a b, val (a ^^^ b) = val a ^^^ val b
  and : ∀ a b, val (a &&& b) = val a &&& val b
  complement : ∀ a, val (~~~a) = c.modulus - 1 - val a
  ofBytes : ∀ bytes, val (v.ofBytes bytes) = c.ofBytes bytes
  toBytes : ∀ a, v.toBytes a = c.toBytes (val a)
  majorSigma0 : ∀ a, val (v.majorSigma0 a) = c.majorSigma0 (val a)
  majorSigma1 : ∀ a, val (v.majorSigma1 a) = c.majorSigma1 (val a)
  minorSigma0 : ∀ a, val (v.minorSigma0 a) = c.minorSigma0 (val a)
  minorSigma1 : ∀ a, val (v.minorSigma1 a) = c.minorSigma1 (val a)
  sixteen : 16 ≤ v.constants.size

/-- The numbers of the working words. -/
def Working.map (val : W → Nat) (s : Working W) : Working Nat :=
  ⟨val s.a, val s.b, val s.c, val s.d, val s.e, val s.f, val s.g, val s.h⟩

namespace Counts

theorem getD (h : Counts v c val) (words : Array W) (i : Nat) :
    val (words.getD i default) = (words.toList.map val).getD i 0 := by
  rw [List.getD_eq_getElem?_getD, List.getElem?_map, Array.getElem?_toList, Array.getD_eq_getD_getElem?]
  rcases words[i]? with _ | w
  · exact h.zero
  · rfl

/-- The words are found from the end of the reversed list. -/
theorem getD_size_sub (h : Counts v c val) {words : Array W} {k : Nat} (hk : k < words.size) :
    val (words.getD (words.size - (k + 1)) default) = (words.toList.map val).reverse.getD k 0 := by
  have hlength : k < (words.toList.map val).length := by rwa [List.length_map, Array.length_toList]
  rw [h.getD, List.getD_eq_getElem?_getD, List.getD_eq_getElem?_getD, List.getElem?_reverse hlength, List.length_map,
    Array.length_toList]
  congr 2
  omega

theorem schedule (h : Counts v c val) {block : Array W} (hblock : block.size = 16) :
    (schedule v block).toList.map val =
      (c.extend (v.constants.size - 16) (block.toList.map val).reverse).reverse := by
  rw [Sha2.schedule]
  generalize v.constants.size - 16 = n
  suffices hstep : ∀ words, words = (List.range n).foldl (fun words i =>
      let at_ (k : Nat) : W := words.getD (16 + i - k) default
      words.push (v.minorSigma1 (at_ 2) + at_ 7 + v.minorSigma0 (at_ 15) + at_ 16)) block →
      words.size = 16 + n ∧ (words.toList.map val).reverse = c.extend n (block.toList.map val).reverse by
    rw [← (hstep _ rfl).2, List.reverse_reverse]
  induction n with
  | zero =>
    rintro _ rfl
    exact ⟨hblock, rfl⟩
  | succ n ih =>
    rintro _ rfl
    obtain ⟨hsize, hwords⟩ := ih _ rfl
    rw [List.range_succ, List.foldl_append, List.foldl_cons, List.foldl_nil, Counting.extend_succ, ← hwords]
    generalize (List.range n).foldl _ block = words at hsize
    refine ⟨by rw [Array.size_push, hsize]; omega, ?_⟩
    have hat (k : Nat) (hk : k < 16) : val (words.getD (16 + n - (k + 1)) default) =
        (words.toList.map val).reverse.getD k 0 := by
      rw [← hsize]
      exact h.getD_size_sub (by omega)
    rw [Array.toList_push, List.map_append, List.reverse_append, List.map_singleton, List.reverse_singleton,
      List.singleton_append, h.add, h.add, h.add, h.minorSigma1, h.minorSigma0, hat 1 (by omega), hat 6 (by omega),
      hat 14 (by omega), hat 15 (by omega)]
    rfl

theorem round (h : Counts v c val) (s : Working W) (constant word : W) :
    (round v s constant word).map val = c.round (s.map val) (val constant) (val word) := by
  simp only [Sha2.round, Counting.round, Working.map, h.add, h.xor, h.and, h.complement, h.majorSigma0, h.majorSigma1]

/-- The rounds go through the constants and the words together. -/
theorem rounds (h : Counts v c val) {constants words : List W} (hlength : constants.length = words.length)
    (s : Working W) :
    ((List.range constants.length).foldl
      (fun s i => Sha2.round v s (constants.getD i default) (words.getD i default)) s).map val =
      c.rounds (constants.map val) (words.map val) (s.map val) := by
  induction constants generalizing words s with
  | nil => rfl
  | cons constant constants ih =>
    rcases words with _ | ⟨word, words⟩
    · cases hlength
    rw [List.length_cons, List.range_succ_eq_map, List.foldl_cons, List.foldl_map]
    have hrest := ih (Nat.succ.inj hlength) (Sha2.round v s constant word)
    rw [h.round] at hrest
    exact hrest

theorem compress (h : Counts v c val) {block : Array W} (hblock : block.size = 16) (state : Array W) :
    (compress v state block).toList.map val =
      c.compress (v.constants.toList.map val) (state.toList.map val) (block.toList.map val) := by
  have hwords := h.schedule hblock
  have hlength : v.constants.toList.length = (Sha2.schedule v block).toList.length := by
    have hsize := congrArg List.length hwords
    rw [List.length_reverse, Counting.length_extend, List.length_reverse, List.length_map, List.length_map,
      Array.length_toList, Array.length_toList, hblock] at hsize
    rw [Array.length_toList, Array.length_toList, hsize]
    exact (Nat.sub_add_cancel h.sixteen).symm
  have hrounds := h.rounds hlength
    ⟨state.getD 0 default, state.getD 1 default, state.getD 2 default, state.getD 3 default, state.getD 4 default,
      state.getD 5 default, state.getD 6 default, state.getD 7 default⟩
  simp only [getD_toList, Array.length_toList, hwords, Working.map, h.getD] at hrounds
  rw [Counting.compress, List.length_map, Array.length_toList, ← hrounds]
  simp only [Sha2.compress, List.map_cons, List.map_nil, h.add, h.getD]

/-- The words of a block are read from where it begins. -/
theorem blockWords (h : Counts v c val) (bytes : Array UInt8) (i : Nat) :
    (blockWords v bytes i).toList.map val =
      c.words v.wordBytes 16 (bytes.toList.drop (i * (16 * v.wordBytes))) := by
  rw [Sha2.blockWords, List.toList_toArray, List.map_map, Counting.words_eq_map]
  refine List.map_congr_left fun j _ => ?_
  have hstart : (16 * i + j) * v.wordBytes = i * (16 * v.wordBytes) + j * v.wordBytes := by
    rw [Nat.add_mul, Nat.mul_right_comm, Nat.mul_comm]
  rw [Function.comp_apply, h.ofBytes, Array.toList_extract, List.extract_eq_take_drop, List.drop_drop, hstart,
    Nat.add_sub_cancel_left]

theorem blocks (h : Counts v c val) (bytes : Array UInt8) (n i : Nat) (state : Array W) :
    ((List.range n).foldl (fun state j => Sha2.compress v state (Sha2.blockWords v bytes (i + j))) state).toList.map val =
      c.blocks v.wordBytes (v.constants.toList.map val) n (state.toList.map val)
        (bytes.toList.drop (i * (16 * v.wordBytes))) := by
  induction n generalizing i state with
  | zero => rfl
  | succ n ih =>
    have hsize : (Sha2.blockWords v bytes i).size = 16 := by
      rw [Sha2.blockWords, List.size_toArray, List.length_map, List.length_range]
    have hrest := ih (i + 1) (Sha2.compress v state (Sha2.blockWords v bytes i))
    rw [h.compress hsize, h.blockWords, Nat.succ_mul i, ← List.drop_drop] at hrest
    have hshift (j : Nat) : i + 1 + j = i + (j + 1) := Nat.add_right_comm i 1 j
    simp only [hshift] at hrest
    rw [List.range_succ_eq_map, List.foldl_cons, List.foldl_map, Counting.blocks, ← hrest]
    rfl

end Counts

/-- The digest of a message, by numbers. -/
def evaluate (v : Variant W) (c : Counting) (val : W → Nat) (message : List UInt8) : List UInt8 :=
  let bytes := pad v message
  let state := c.blocks v.wordBytes (v.constants.toList.map val) (bytes.length / (16 * v.wordBytes))
    (v.initial.toList.map val) bytes
  state.flatMap c.toBytes

theorem digest_eq (h : Counts v c val) (message : List UInt8) : digest v message = evaluate v c val message := by
  have hblocks := h.blocks (pad v message).toArray ((pad v message).length / (16 * v.wordBytes)) 0 v.initial
  simp only [Nat.zero_mul, List.drop_zero, Nat.zero_add] at hblocks
  rw [digest, evaluate, List.size_toArray, ← hblocks, List.flatMap_map, funext h.toBytes]

end

/-! ### 32-bit words -/

/-- Rotates a 32-bit number to the right. -/
def rotateNat32 (x n : Nat) : Nat := (x >>> n) ||| ((x <<< (32 - n)) % UInt32.size)

/-- The variant over 32-bit words by numbers. -/
def narrowCounting : Counting where
  modulus := UInt32.size
  ofBytes := fun bytes => bytes.foldl (fun n b => ((n <<< 8) % UInt32.size) ||| b.toNat) 0
  toBytes := fun w => [(w >>> 24).toUInt8, (w >>> 16).toUInt8, (w >>> 8).toUInt8, w.toUInt8]
  majorSigma0 := fun x => rotateNat32 x 2 ^^^ rotateNat32 x 13 ^^^ rotateNat32 x 22
  majorSigma1 := fun x => rotateNat32 x 6 ^^^ rotateNat32 x 11 ^^^ rotateNat32 x 25
  minorSigma0 := fun x => rotateNat32 x 7 ^^^ rotateNat32 x 18 ^^^ (x >>> 3)
  minorSigma1 := fun x => rotateNat32 x 17 ^^^ rotateNat32 x 19 ^^^ (x >>> 10)

theorem toNat_rotate32 (x : UInt32) {n : UInt32} (hpos : 0 < n.toNat) (hlt : n.toNat < 32) :
    (rotate32 x n).toNat = rotateNat32 x.toNat n.toNat := by
  have hback : (32 - n).toNat = 32 - n.toNat := UInt32.toNat_sub_of_le 32 n (UInt32.le_iff_toNat_le.mpr (Nat.le_of_lt hlt))
  have hleft : (x <<< (32 - n)).toNat = x.toNat <<< ((32 - n).toNat % 32) % UInt32.size := UInt32.toNat_shiftLeft x (32 - n)
  rw [rotate32, UInt32.toNat_or, UInt32.toNat_shiftRight, hleft, hback, Nat.mod_eq_of_lt hlt,
    Nat.mod_eq_of_lt (Nat.sub_lt (by decide) hpos), rotateNat32]

/-- The bytes of a block's word make up the same number. -/
theorem toNat_ofBytes (bytes : List UInt8) (w : UInt32) :
    (bytes.foldl (fun (w : UInt32) b => (w <<< 8) ||| b.toUInt32) w).toNat =
      bytes.foldl (fun n b => ((n <<< 8) % UInt32.size) ||| b.toNat) w.toNat := by
  induction bytes generalizing w with
  | nil => rfl
  | cons b bytes ih =>
    have hshift : (w <<< 8).toNat = w.toNat <<< 8 % UInt32.size := UInt32.toNat_shiftLeft w 8
    rw [List.foldl_cons, List.foldl_cons, ih, UInt32.toNat_or, hshift, UInt8.toNat_toUInt32]

theorem counts_narrow : Counts narrow narrowCounting UInt32.toNat where
  zero := rfl
  add := UInt32.toNat_add
  xor := UInt32.toNat_xor
  and := UInt32.toNat_and
  complement := UInt32.toNat_not
  ofBytes := fun bytes => toNat_ofBytes bytes 0
  toBytes := fun _ => rfl
  majorSigma0 := fun a => by
    rw [narrow, UInt32.toNat_xor, UInt32.toNat_xor, toNat_rotate32 a (by decide) (by decide),
      toNat_rotate32 a (by decide) (by decide), toNat_rotate32 a (by decide) (by decide)]
    rfl
  majorSigma1 := fun a => by
    rw [narrow, UInt32.toNat_xor, UInt32.toNat_xor, toNat_rotate32 a (by decide) (by decide),
      toNat_rotate32 a (by decide) (by decide), toNat_rotate32 a (by decide) (by decide)]
    rfl
  minorSigma0 := fun a => by
    rw [narrow, UInt32.toNat_xor, UInt32.toNat_xor, toNat_rotate32 a (by decide) (by decide),
      toNat_rotate32 a (by decide) (by decide)]
    rfl
  minorSigma1 := fun a => by
    rw [narrow, UInt32.toNat_xor, UInt32.toNat_xor, toNat_rotate32 a (by decide) (by decide),
      toNat_rotate32 a (by decide) (by decide)]
    rfl
  sixteen := by decide +kernel

/-- The digest of a message by numbers. -/
theorem sha256_eq (message : List UInt8) : sha256 message = evaluate narrow narrowCounting UInt32.toNat message :=
  digest_eq counts_narrow message

end ComputeGrid.Sha2
