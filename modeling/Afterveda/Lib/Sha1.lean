import Afterveda.Lib.Text
import Mathlib.Data.BitVec
import Mathlib.Order.Bounds.Basic

/-!
# SHA-1

The Secure Hash Algorithm 1 of FIPS 180-4, for messages of whole octets.  The standard bounds the
length of a message by 2^64 bits; here the length of a longer one is reduced modulo 2^64.
-/

namespace Sha1

open CText

/-- A 32-bit word. -/
abbrev Word := BitVec 32

/-- The value of a word of four octets, the most significant first. -/
def wordValue (a b c d : UInt8) : ℕ :=
  a.toNat * 2 ^ 24 + b.toNat * 2 ^ 16 + c.toNat * 2 ^ 8 + d.toNat

/-- The last octets of a number, the most significant first. -/
def bigEndian (count n : ℕ) : Bytes :=
  (List.range count).map fun i => UInt8.ofNat (n / 2 ^ (8 * (count - 1 - i)))

/-! ### Functions and constants (4.1.1, 4.2.1) -/

def ch (x y z : Word) : Word := (x &&& y) ^^^ (~~~x &&& z)

def parity (x y z : Word) : Word := x ^^^ y ^^^ z

def maj (x y z : Word) : Word := (x &&& y) ^^^ (x &&& z) ^^^ (y &&& z)

/-- The function of round `t`. -/
def f (t : ℕ) : Word → Word → Word → Word :=
  if t < 20 then ch else if t < 40 then parity else if t < 60 then maj else parity

/-- The constant of round `t`. -/
def K (t : ℕ) : Word :=
  if t < 20 then 0x5a827999 else if t < 40 then 0x6ed9eba1
  else if t < 60 then 0x8f1bbcdc else 0xca62c1d6

/-! ### Padding and parsing (5.1.1, 5.2.1) -/

/-- The zero octets between the octet that starts with the 1 bit and the length. -/
def zeros (length : ℕ) : ℕ := (119 - length % 64) % 64

/-- The padding is the shortest that leaves room for the length at the end of a block. -/
theorem isLeast_zeros (length : ℕ) : IsLeast {k | (length + 1 + k) % 64 = 56} (zeros length) := by
  constructor
  · show (length + 1 + zeros length) % 64 = 56
    unfold zeros
    omega
  · intro k hk
    rw [Set.mem_ofPred_eq] at hk
    unfold zeros
    omega

/-- The padded message. -/
def padded (message : Bytes) : Bytes :=
  message ++ 0x80 :: List.replicate (zeros message.length) 0 ++
    bigEndian 8 (8 * message.length % 2 ^ 64)

theorem length_padded (message : Bytes) : (padded message).length % 64 = 0 := by
  have hzeros : (message.length + 1 + zeros message.length) % 64 = 56 :=
    (isLeast_zeros message.length).1
  simp only [padded, bigEndian, List.length_append, List.length_cons, List.length_replicate,
    List.length_map, List.length_range]
  omega

/-- Block `i` of a padded message. -/
def block (message : Bytes) (i : ℕ) : Bytes := (message.drop (64 * i)).take 64

/-- Word `t` of a block. -/
def blockWord (block : Bytes) (t : ℕ) : Word :=
  BitVec.ofNat 32 (wordValue (block.getD (4 * t) 0) (block.getD (4 * t + 1) 0)
    (block.getD (4 * t + 2) 0) (block.getD (4 * t + 3) 0))

/-! ### Computation (6.1.2) -/

/-- The message schedule of a block. -/
def schedule (block : Bytes) (t : ℕ) : Word :=
  if t < 16 then blockWord block t
  else
    (schedule block (t - 3) ^^^ schedule block (t - 8) ^^^ schedule block (t - 14) ^^^
      schedule block (t - 16)).rotateLeft 1

/-- The five working variables, also the five words of a hash value. -/
@[ext] structure State where
  a : Word
  b : Word
  c : Word
  d : Word
  e : Word
  deriving DecidableEq

/-- The initial hash value (5.3.1). -/
def initial : State := ⟨0x67452301, 0xefcdab89, 0x98badcfe, 0x10325476, 0xc3d2e1f0⟩

/-- Round `t` with the schedule `w`. -/
def round (w : ℕ → Word) (s : State) (t : ℕ) : State :=
  ⟨s.a.rotateLeft 5 + f t s.b s.c s.d + s.e + K t + w t, s.a, s.b.rotateLeft 30, s.c, s.d⟩

/-- The hash value after one more block. -/
def compress (h : State) (block : Bytes) : State :=
  let s := (List.range 80).foldl (round (schedule block)) h
  ⟨s.a + h.a, s.b + h.b, s.c + h.c, s.d + h.d, s.e + h.e⟩

/-- The octets of a hash value. -/
def State.octets (h : State) : Bytes :=
  [h.a, h.b, h.c, h.d, h.e].flatMap fun word => bigEndian 4 word.toNat

/-- The message digest. -/
def digest (message : Bytes) : Bytes :=
  let m := padded message
  (((List.range (m.length / 64)).map (block m)).foldl compress initial).octets

end Sha1
