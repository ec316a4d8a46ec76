import Afterveda.Lib.Bits
import Afterveda.Onvif.Utils

/-!
# `sha1` computes SHA-1

The loops of `sha1`, one after the other, against the definitions of FIPS 180-4: the padding, the
words of a chunk, the schedule, the eighty rounds, the chunks, and the digest.

Main theorems: `sha1_eq`, on every input, and `sha1_standard`, with what the padding and the loop do
on the messages that the standard is defined on.
-/

namespace Afterveda.Onvif

open CText
open Sha1 (Word State ch maj parity padded block blockWord schedule round compress bigEndian)

/-! ### Words and their bytes -/

theorem leftRotate_eq (value : Word) {bits : ℕ} (h : bits < 32) :
    leftRotate value bits = value.rotateLeft bits := by
  rw [leftRotate, BitVec.rotateLeft_def, Nat.mod_eq_of_lt h]

theorem byteAt_eq {n : ℕ} (word : BitVec n) (shift : ℕ) (hn : 8 ≤ n) :
    byteAt word shift = UInt8.ofNat (word.toNat / 2 ^ shift) := by
  have hmask : (word >>> shift &&& 0xff).toNat = (word >>> shift).toNat % 2 ^ 8 :=
    Bits.toNat_and_mask _ (m := 8) hn
  rw [byteAt, hmask, BitVec.toNat_ushiftRight, Nat.shiftRight_eq_div_pow]
  exact UInt8.ofNat_mod_size

theorem messageWord_lt (message : Bytes) (j : ℕ) : (messageWord message j).toNat < 2 ^ 8 := by
  have h := (message.getD j 0).toNat_lt
  rw [messageWord, BitVec.toNat_ofNat]
  omega

theorem messageWord_toNat (message : Bytes) (j : ℕ) :
    (messageWord message j).toNat = (message.getD j 0).toNat := by
  have h := (message.getD j 0).toNat_lt
  rw [messageWord, BitVec.toNat_ofNat]
  omega

/-- Four bytes shifted into their places are the word they make. -/
theorem or_messageWord (message : Bytes) (j : ℕ) :
    messageWord message j <<< 24 ||| messageWord message (j + 1) <<< 16 |||
      messageWord message (j + 2) <<< 8 ||| messageWord message (j + 3) =
    BitVec.ofNat 32 (Sha1.wordValue (message.getD j 0) (message.getD (j + 1) 0)
      (message.getD (j + 2) 0) (message.getD (j + 3) 0)) := by
  have h0 := messageWord_lt message j
  have h1 := messageWord_lt message (j + 1)
  have h2 := messageWord_lt message (j + 2)
  have h3 := messageWord_lt message (j + 3)
  have hlow := Bits.toNat_shiftLeft_or (k := 8) (messageWord message (j + 2)) _ (by omega) h3
  have hmid := Bits.toNat_shiftLeft_or (k := 16) (messageWord message (j + 1)) _ (by omega)
    (show _ < 2 ^ 16 by rw [hlow]; omega)
  have hall := Bits.toNat_shiftLeft_or (k := 24) (messageWord message j) _ (by omega)
    (show _ < 2 ^ 24 by rw [hmid, hlow]; omega)
  apply BitVec.eq_of_toNat_eq
  rw [BitVec.or_assoc, BitVec.or_assoc, hall, hmid, hlow, BitVec.toNat_ofNat, Sha1.wordValue]
  simp only [messageWord_toNat] at h0 h1 h2 h3 ⊢
  omega

theorem choose_eq (x y z : Word) : (x &&& y) ||| (~~~x &&& z) = ch x y z := by
  apply BitVec.eq_of_getLsbD_eq
  intro i hi
  simp only [ch, BitVec.getLsbD_or, BitVec.getLsbD_and, BitVec.getLsbD_not, BitVec.getLsbD_xor]
  cases x.getLsbD i <;> cases y.getLsbD i <;> cases z.getLsbD i <;> simp

theorem majority_eq (x y z : Word) : (x &&& y) ||| (x &&& z) ||| (y &&& z) = maj x y z := by
  apply BitVec.eq_of_getLsbD_eq
  intro i hi
  simp only [maj, BitVec.getLsbD_or, BitVec.getLsbD_and, BitVec.getLsbD_xor]
  cases x.getLsbD i <;> cases y.getLsbD i <;> cases z.getLsbD i <;> rfl

/-! ### Padding -/

theorem sha1PushZeros_eq (message : Bytes) :
    sha1PushZeros message = message ++ List.replicate ((120 - message.length % 64) % 64) 0 := by
  fun_induction sha1PushZeros message with
  | case1 message h ih =>
    rw [ih, List.append_assoc, List.length_append, List.length_singleton]
    congr 1
    have hcount : (120 - message.length % 64) % 64 =
        (120 - (message.length + 1) % 64) % 64 + 1 := by omega
    rw [hcount, List.replicate_succ]
    rfl
  | case2 message h =>
    have hcount : (120 - message.length % 64) % 64 = 0 := by omega
    rw [hcount, List.replicate_zero, List.append_nil]

theorem push_length_eq (message : Bytes) (bitLen : BitVec 64) :
    [7, 6, 5, 4, 3, 2, 1, 0].foldl (fun message i => message ++ [byteAt bitLen (i * 8)]) message =
      message ++ bigEndian 8 bitLen.toNat := by
  simp only [List.foldl_cons, List.foldl_nil, List.append_assoc,
    byteAt_eq _ _ (show 8 ≤ 64 by omega)]
  rfl

/-- The message the loop over the chunks works on. -/
theorem message_eq (input : Bytes) :
    [7, 6, 5, 4, 3, 2, 1, 0].foldl
      (fun message i => message ++ [byteAt (BitVec.ofNat 64 input.length * 8) (i * 8)])
      (sha1PushZeros (input ++ [0x80])) = padded input := by
  have hzeros : (120 - (input.length + 1) % 64) % 64 = Sha1.zeros input.length := by
    unfold Sha1.zeros
    omega
  have hbits : (BitVec.ofNat 64 input.length * 8).toNat = 8 * input.length % 2 ^ 64 := by
    rw [BitVec.toNat_mul, BitVec.toNat_ofNat]
    show input.length % 2 ^ 64 * 8 % 2 ^ 64 = _
    omega
  rw [push_length_eq, sha1PushZeros_eq, hbits, Sha1.padded, List.length_append,
    List.length_singleton, hzeros]
  simp only [List.append_assoc, List.cons_append, List.nil_append]

/-! ### The schedule -/

/-- A loop that fills in the entries of a list one after the other. -/
theorem getD_foldl_set {α : Type*} {d : α} (value : List α → ℕ → α) {target : ℕ → α}
    {start bound : ℕ} {w : List α} (hbound : bound ≤ w.length)
    (hstart : ∀ t < start, w.getD t d = target t)
    (hvalue : ∀ w i, start ≤ i → i < bound → (∀ t < i, w.getD t d = target t) →
      value w i = target i)
    (n : ℕ) (hn : start + n ≤ bound) :
    ((List.range' start n).foldl (fun w i => w.set i (value w i)) w).length = w.length ∧
    ∀ t < start + n,
      ((List.range' start n).foldl (fun w i => w.set i (value w i)) w).getD t d = target t := by
  induction n with
  | zero => exact ⟨rfl, hstart⟩
  | succ n ih =>
    obtain ⟨hlength, hget⟩ := ih (by omega)
    rw [List.range'_concat, List.foldl_append, Nat.one_mul]
    simp only [List.foldl_cons, List.foldl_nil]
    constructor
    · rw [List.length_set, hlength]
    · intro t ht
      rw [List.getD_eq_getElem?_getD, List.getElem?_set, hlength]
      by_cases hnew : start + n = t
      · -- the entry that was filled in last
        rw [if_pos hnew, if_pos (by omega), Option.getD_some,
          hvalue _ _ (by omega) (by omega) hget, hnew]
      · rw [if_neg hnew, ← List.getD_eq_getElem?_getD]
        exact hget t (by omega)

theorem getD_block (message : Bytes) (i : ℕ) {j : ℕ} (hj : j < 64) :
    (block message i).getD j 0 = message.getD (64 * i + j) 0 := by
  rw [block, List.getD_eq_getElem?_getD, List.getElem?_take_of_lt hj, List.getElem?_drop,
    ← List.getD_eq_getElem?_getD]

theorem sha1ChunkWord_eq (message : Bytes) (i : ℕ) {t : ℕ} (ht : t < 16) :
    sha1ChunkWord message (64 * i) t = schedule (block message i) t := by
  rw [schedule, if_pos ht, blockWord, getD_block _ _ (by omega), getD_block _ _ (by omega),
    getD_block _ _ (by omega), getD_block _ _ (by omega), Nat.mul_comm 4 t]
  exact or_messageWord message (64 * i + t * 4)

theorem sha1NextWord_eq {w : List Word} {b : Bytes} {i : ℕ} (hi : 16 ≤ i)
    (hw : ∀ t < i, w.getD t 0 = schedule b t) : sha1NextWord w i = schedule b i := by
  rw [sha1NextWord, leftRotate_eq _ (by omega), hw _ (by omega), hw _ (by omega),
    hw _ (by omega), hw _ (by omega), schedule.eq_def b i, if_neg (by omega)]

/-- The eighty words are the message schedule. -/
theorem sha1Words_getD (message : Bytes) (i : ℕ) :
    ∀ t < 80, (sha1Words message (64 * i)).getD t 0 = schedule (block message i) t := by
  have hzero : (List.replicate 80 (0 : Word)).length = 80 := List.length_replicate
  obtain ⟨hlength, hload⟩ := getD_foldl_set (fun _ => sha1ChunkWord message (64 * i))
    (show 16 ≤ _ by rw [hzero]; omega) (fun t ht => absurd ht (Nat.not_lt_zero t))
    (fun _ t _ ht _ => sha1ChunkWord_eq message i ht) 16 (by omega)
  exact (getD_foldl_set sha1NextWord (show 80 ≤ _ by rw [hlength, hzero]) hload
    (fun _ t hge _ hw => sha1NextWord_eq hge hw) 64 (by omega)).2

/-! ### Rounds and chunks -/

theorem sha1Round_eq {w : List Word} {t : ℕ} {value : ℕ → Word} (h : w.getD t 0 = value t)
    (v : State) : sha1Round w v t = round value v t := by
  rw [sha1Round, Sha1.round, h, leftRotate_eq _ (by omega), leftRotate_eq _ (by omega), choose_eq,
    majority_eq, Sha1.f, Sha1.K]
  split_ifs <;> rfl

theorem sha1Chunk_eq (message : Bytes) (h : State) (i : ℕ) :
    sha1Chunk message h (64 * i) = compress h (block message i) := by
  have hrounds : (List.range 80).foldl (sha1Round (sha1Words message (64 * i))) h =
      (List.range 80).foldl (round (schedule (block message i))) h := by
    apply List.foldl_ext
    intro v t ht
    exact sha1Round_eq (sha1Words_getD message i t (List.mem_range.mp ht)) v
  rw [sha1Chunk, compress, hrounds]
  simp only [BitVec.add_comm]

/-- The chunks start at the multiples of 64. -/
theorem range'_eq_map (n : ℕ) : List.range' 0 n 64 = (List.range n).map (64 * ·) := by
  induction n with
  | zero => rfl
  | succ n ih =>
    rw [List.range'_concat, ih, List.range_succ, List.map_append, Nat.zero_add]
    rfl

theorem foldl_sha1Chunk (message : Bytes) (n : ℕ) (h : State) :
    (List.range' 0 n 64).foldl (sha1Chunk message) h =
      ((List.range n).map (block message)).foldl compress h := by
  rw [range'_eq_map, List.foldl_map, List.foldl_map]
  simp only [sha1Chunk_eq]

/-- `sha1` computes the digest of the standard. -/
theorem sha1_eq (input : Bytes) : sha1 input = Sha1.digest input := by
  have hcount : ((padded input).length + 63) / 64 = (padded input).length / 64 := by
    have h := Sha1.length_padded input
    omega
  have hoctets : ∀ word : Word,
      [byteAt word 24, byteAt word 16, byteAt word 8, byteAt word 0] = bigEndian 4 word.toNat := by
    intro word
    simp only [byteAt_eq _ _ (show 8 ≤ 32 by omega)]
    rfl
  rw [sha1, Sha1.digest]
  simp only [message_eq, hcount, foldl_sha1Chunk, hoctets]
  rfl

example : sha1 (bytes "abc") =
    [0xa9, 0x99, 0x3e, 0x36, 0x47, 0x06, 0x81, 0x6a, 0xba, 0x3e, 0x25, 0x71, 0x78, 0x50, 0xc2, 0x6c,
      0x9c, 0xd0, 0xd8, 0x9d] := by
  decide +kernel

/-! ### The messages of the standard -/

/-- The message that the loop over the chunks of `sha1` works on. -/
def sha1Message (input : Bytes) : Bytes :=
  [7, 6, 5, 4, 3, 2, 1, 0].foldl
    (fun message i => message ++ [byteAt (BitVec.ofNat 64 input.length * 8) (i * 8)])
    (sha1PushZeros (input ++ [0x80]))

/-- **SHA-1**: the digest of the standard, for every message the standard is defined on.  The
message is padded with a 1 bit, the fewest 0 bits that leave room for the length at the end of a
block, and the length in bits; it fills whole blocks, so that every byte of a chunk is read inside
it; and the loop over any number of chunks is the standard's compression of the blocks, one after
the other. -/
theorem sha1_standard {input : Bytes} (h : input.length < 2 ^ 61) :
    sha1 input = Sha1.digest input ∧
    (∃ zeros, IsLeast {k | (8 * input.length + 1 + k) % 512 = 448} (7 + 8 * zeros) ∧
      sha1Message input =
        input ++ 0x80 :: List.replicate zeros 0 ++ bigEndian 8 (8 * input.length)) ∧
    (sha1Message input).length % 64 = 0 ∧
    (∀ chunk ∈ List.range' 0 (((sha1Message input).length + 63) / 64) 64, ∀ i < 16,
      chunk + i * 4 + 3 < (sha1Message input).length) ∧
    ∀ (n : ℕ) (state : State),
      (List.range' 0 n 64).foldl (sha1Chunk (sha1Message input)) state =
        ((List.range n).map (block (sha1Message input))).foldl compress state := by
  have hmessage : sha1Message input = padded input := message_eq input
  have hlength := Sha1.length_padded input
  rw [hmessage]
  refine ⟨sha1_eq input, ⟨Sha1.zeros input.length, ?_, ?_⟩, hlength, ?_, foldl_sha1Chunk _⟩
  · constructor
    · show (8 * input.length + 1 + (7 + 8 * Sha1.zeros input.length)) % 512 = 448
      unfold Sha1.zeros
      omega
    · intro k hk
      rw [Set.mem_ofPred_eq] at hk
      unfold Sha1.zeros
      omega
  · rw [Sha1.padded, Nat.mod_eq_of_lt (by omega)]
  · intro chunk hchunk i hi
    -- the chunks are the multiples of 64 below the length
    rw [range'_eq_map] at hchunk
    obtain ⟨j, hj, rfl⟩ := List.mem_map.mp hchunk
    rw [List.mem_range] at hj
    omega

/-- A message that leaves no room for its length in the first block. -/
theorem sha1_standard_two :
    sha1 (List.replicate 56 7) = Sha1.digest (List.replicate 56 7) ∧
      (sha1Message (List.replicate 56 7)).length % 64 = 0 := by
  have hshort : (List.replicate 56 7 : Bytes).length < 2 ^ 61 := by decide
  obtain ⟨hdigest, -, hlength, -⟩ := sha1_standard hshort
  exact ⟨hdigest, hlength⟩

end Afterveda.Onvif
