import Afterveda.Onvif.Equiv.Base64
import Afterveda.Onvif.Equiv.Sha1

/-!
# The shifts of the base64 functions

The accumulators of `base64_decode` and `base64_encode` are `int`s that are never masked, so what
has been read is shifted on to the left until it leaves the word.  The functions are run here with
shifts that are checked (`base64DecodeChecked`, `base64EncodeChecked`): a run has a result when
every left shift is of a number that is not negative, with a product below `2 ^ bound`.  The bound
31 is that of an `int`; with the bound 32 the shifts are those that C++17 defines.

`base64_shifts_iff` says on which texts and which octets all of them are: the numbers they spell
have to stay below the bound.
-/

namespace Afterveda.Onvif

open CText Bits
open Base64 (sextet pad)

variable {bound : ℕ}

/-! ### Checked runs -/

/-- The loop of `base64_decode`, with no result where a shift is not defined. -/
def base64DecodeLoopChecked (bound : ℕ) : Bytes → ℕ → BitVec 32 → Bytes → Option Bytes
  | [], _, _, out => some out
  | c :: value, bits, accumulator, out =>
    if c = 61 then some out
    else if isSpace c then base64DecodeLoopChecked bound value bits accumulator out
    else
      let decoded := base64Table.getD c.toNat 0
      if decoded < 0 then some []
      else
        (checkedShift bound accumulator 6).bind fun shifted =>
          let accumulator := shifted ||| BitVec.ofInt 32 decoded
          let bits := bits + 6
          if 8 ≤ bits then
            base64DecodeLoopChecked bound value (bits - 8) accumulator
              (out ++ [UInt8.ofNat (accumulator.sshiftRight (bits - 8) &&& 0xff).toNat])
          else base64DecodeLoopChecked bound value bits accumulator out

def base64DecodeChecked (bound : ℕ) (value : Bytes) : Option Bytes :=
  base64DecodeLoopChecked bound value 0 0 []

/-- The loop of `base64_encode`, with no result where a shift is not defined. -/
def base64EncodeLoopChecked (bound : ℕ) : Bytes → ℕ → BitVec 32 → Bytes → Option Bytes
  | [], bits, accumulator, out =>
    if 0 < bits then
      (checkedShift bound accumulator (6 - bits)).map fun shifted =>
        base64Pad (out ++ [kAlphabet.getD (shifted &&& 0x3f).toNat 0])
    else some (base64Pad out)
  | byte :: rest, bits, accumulator, out =>
    (checkedShift bound accumulator 8).bind fun shifted =>
      let accumulator := shifted ||| BitVec.ofNat 32 byte.toNat
      let (bits, out) := base64Emit (bits + 8) accumulator out
      base64EncodeLoopChecked bound rest bits accumulator out

def base64EncodeChecked (bound : ℕ) (octets : Bytes) : Option Bytes :=
  base64EncodeLoopChecked bound octets 0 0 []

/-- A run whose shifts are all defined is the run of the function. -/
theorem base64DecodeLoopChecked_eq {value out result : Bytes} {bits : ℕ} {accumulator : BitVec 32}
    (h : base64DecodeLoopChecked bound value bits accumulator out = some result) :
    base64DecodeLoop value bits accumulator out = result := by
  fun_induction base64DecodeLoop value bits accumulator out with
  | case1 bits accumulator out => exact Option.some.inj h
  | case2 bits accumulator out value => exact Option.some.inj h
  | case3 bits accumulator out c value hpad hspace ih =>
    rw [base64DecodeLoopChecked, if_neg hpad, if_pos hspace] at h
    exact ih h
  | case4 bits accumulator out c value hpad hspace decoded hinvalid =>
    rw [base64DecodeLoopChecked, if_neg hpad, if_neg hspace] at h
    exact Option.some.inj ((if_pos hinvalid).symm.trans h)
  | case5 bits accumulator out c value hpad hspace decoded hvalid accumulator' bits' hfull ih =>
    rw [base64DecodeLoopChecked, if_neg hpad, if_neg hspace] at h
    obtain ⟨shifted, hshift, h⟩ := Option.bind_eq_some_iff.mp ((if_neg hvalid).symm.trans h)
    obtain rfl := eq_of_checkedShift hshift
    exact ih ((if_pos hfull).symm.trans h)
  | case6 bits accumulator out c value hpad hspace decoded hvalid accumulator' bits' hfull ih =>
    rw [base64DecodeLoopChecked, if_neg hpad, if_neg hspace] at h
    obtain ⟨shifted, hshift, h⟩ := Option.bind_eq_some_iff.mp ((if_neg hvalid).symm.trans h)
    obtain rfl := eq_of_checkedShift hshift
    exact ih ((if_neg hfull).symm.trans h)

theorem base64EncodeLoopChecked_eq {octets out result : Bytes} {bits : ℕ} {accumulator : BitVec 32}
    (h : base64EncodeLoopChecked bound octets bits accumulator out = some result) :
    base64EncodeLoop octets bits accumulator out = result := by
  induction octets generalizing bits accumulator out with
  | nil =>
    rw [base64EncodeLoopChecked] at h
    rw [base64EncodeLoop]
    split_ifs at h ⊢ with hbits
    · obtain ⟨shifted, hshift, rfl⟩ := Option.map_eq_some_iff.mp h
      rw [eq_of_checkedShift hshift]
    · exact Option.some.inj h
  | cons byte rest ih =>
    obtain ⟨shifted, hshift, h⟩ := Option.bind_eq_some_iff.mp h
    obtain rfl := eq_of_checkedShift hshift
    exact ih h

/-! ### Decoding -/

/-- The sextets that `base64_decode` reads: white space is skipped, and the first padding or other
byte outside the alphabet ends them. -/
def sextetsRead : Bytes → List ℕ
  | [] => []
  | c :: text =>
    if c = pad then []
    else if isSpace c then sextetsRead text
    else
      match sextet c with
      | none => []
      | some v => v :: sextetsRead text

/-- The accumulator holds the number read so far. -/
theorem shiftIn_ofNat (n : ℕ) {v : ℕ} (hv : v < 64) :
    shiftIn (BitVec.ofNat 32 n) v = BitVec.ofNat 32 (n * 64 + v) := by
  apply BitVec.eq_of_toNat_eq
  rw [shiftIn_toNat _ hv, BitVec.toNat_ofNat, BitVec.toNat_ofNat]
  omega

/-- One more sextet on a number below the bound: the shift is defined exactly when the new number is
below the bound too. -/
theorem checkedShift_six_iff (hbound : bound = 31 ∨ bound = 32) {n v : ℕ} (hn : n < 2 ^ bound)
    (hv : v < 64) :
    (checkedShift bound (BitVec.ofNat 32 n) 6).isSome ↔ n * 64 + v < 2 ^ bound := by
  have hwidth : n < 2 ^ 32 := by rcases hbound with rfl | rfl <;> omega
  rw [checkedShift_isSome_iff (by omega) (by omega) hwidth]
  rcases hbound with rfl | rfl <;> omega

theorem base64DecodeLoopChecked_isSome (hbound : bound = 31 ∨ bound = 32) (text : Bytes)
    (bits : ℕ) {n : ℕ} (hn : n < 2 ^ bound) (out : Bytes) :
    (base64DecodeLoopChecked bound text bits (BitVec.ofNat 32 n) out).isSome ↔
      spell 64 n (sextetsRead text) < 2 ^ bound := by
  induction text generalizing bits n out with
  | nil => simpa [base64DecodeLoopChecked, sextetsRead, spell] using hn
  | cons c text ih =>
    rw [base64DecodeLoopChecked, sextetsRead]
    by_cases hpad : c = pad
    · rw [if_pos hpad, if_pos (show c = 61 from hpad)]
      simpa [spell] using hn
    rw [if_neg hpad, if_neg (show ¬c = 61 from hpad)]
    by_cases hspace : isSpace c = true
    · rw [if_pos hspace, if_pos hspace]
      exact ih bits hn out
    rw [if_neg hspace, if_neg hspace]
    have htable := base64Table_getD c
    cases hc : sextet c with
    | none =>
      rw [hc] at htable
      simp only [htable]
      simpa [spell] using hn
    | some v =>
      have hv : v < 64 := Base64.sextet_lt hc
      have hvalue : base64Table.getD c.toNat 0 = (v : ℤ) := by rw [htable, hc]; rfl
      have hnonneg : ¬(v : ℤ) < 0 := by omega
      have hspell : spell 64 n (v :: sextetsRead text) = spell 64 (n * 64 + v) (sextetsRead text) :=
        rfl
      simp only [hvalue, if_neg hnonneg, hspell]
      have hiff := checkedShift_six_iff hbound hn hv
      cases hshift : checkedShift bound (BitVec.ofNat 32 n) 6 with
      | none =>
        -- the number is past the bound, and stays there
        rw [hshift] at hiff
        have hlarge := mt hiff.mpr (by simp)
        have hle := le_spell (show 1 ≤ 64 by omega) (n * 64 + v) (sextetsRead text)
        simp only [Option.bind_none, Option.isSome_none, Bool.false_eq_true, false_iff]
        omega
      | some shifted =>
        rw [hshift] at hiff
        have hsmall := hiff.mp rfl
        have hnext : shifted ||| BitVec.ofInt 32 v = BitVec.ofNat 32 (n * 64 + v) := by
          rw [eq_of_checkedShift hshift, BitVec.ofInt_natCast]
          exact shiftIn_ofNat n hv
        simp only [Option.bind_some, hnext]
        split_ifs
        · exact ih _ hsmall _
        · exact ih _ hsmall _

/-! ### Encoding -/

theorem shiftInOctet_ofNat (n : ℕ) (byte : UInt8) :
    shiftInOctet (BitVec.ofNat 32 n) byte = BitVec.ofNat 32 (n * 256 + byte.toNat) := by
  apply BitVec.eq_of_toNat_eq
  rw [shiftInOctet_toNat, BitVec.toNat_ofNat, BitVec.toNat_ofNat]
  omega

theorem checkedShift_eight_iff (hbound : bound = 31 ∨ bound = 32) {n : ℕ} (hn : n < 2 ^ bound)
    (byte : UInt8) :
    (checkedShift bound (BitVec.ofNat 32 n) 8).isSome ↔ n * 256 + byte.toNat < 2 ^ bound := by
  have hbyte : byte.toNat < 256 := byte.toNat_lt
  have hwidth : n < 2 ^ 32 := by rcases hbound with rfl | rfl <;> omega
  rw [checkedShift_isSome_iff (by omega) (by omega) hwidth]
  rcases hbound with rfl | rfl <;> omega

/-- Symbols are written out until less than one is left. -/
theorem base64Emit_fst (bits : ℕ) (accumulator : BitVec 32) (out : Bytes) :
    (base64Emit bits accumulator out).1 = bits % 6 := by
  fun_induction base64Emit bits accumulator out with
  | case1 bits out h ih =>
    rw [ih]
    omega
  | case2 bits out h => exact (Nat.mod_eq_of_lt (by omega)).symm

/-- The bits that fill up the last symbol, after so many bits. -/
def fillBits (bits : ℕ) : ℕ := (6 - bits % 6) % 6

theorem base64EncodeLoopChecked_isSome (hbound : bound = 31 ∨ bound = 32) (octets : Bytes)
    {bits : ℕ} (hbits : bits < 6) {n : ℕ} (hn : n < 2 ^ bound) (out : Bytes) :
    (base64EncodeLoopChecked bound octets bits (BitVec.ofNat 32 n) out).isSome ↔
      spell 256 n (octets.map UInt8.toNat) * 2 ^ fillBits (bits + 8 * octets.length) <
        2 ^ bound := by
  induction octets generalizing bits n out with
  | nil =>
    have hwidth : n < 2 ^ 32 := by rcases hbound with rfl | rfl <;> omega
    rw [base64EncodeLoopChecked]
    -- the bits left over, if any, are filled up to a symbol
    split_ifs with hpos
    · have hfill : fillBits (bits + 8 * ([] : Bytes).length) = 6 - bits := by
        simp only [fillBits, List.length_nil]
        omega
      rw [Option.isSome_map, checkedShift_isSome_iff (by omega) (by omega) hwidth, hfill]
      rfl
    · have hfill : fillBits (bits + 8 * ([] : Bytes).length) = 0 := by
        simp only [fillBits, List.length_nil]
        omega
      rw [hfill]
      simpa [spell] using hn
  | cons byte rest ih =>
    have hspell : spell 256 n ((byte :: rest).map UInt8.toNat) =
        spell 256 (n * 256 + byte.toNat) (rest.map UInt8.toNat) := rfl
    have hiff := checkedShift_eight_iff hbound hn byte
    rw [base64EncodeLoopChecked, hspell]
    cases hshift : checkedShift bound (BitVec.ofNat 32 n) 8 with
    | none =>
      -- the octets so far are too large, and later ones make the number no smaller
      rw [hshift] at hiff
      have hlarge := mt hiff.mpr (by simp)
      have hle := le_spell (show 1 ≤ 256 by omega) (n * 256 + byte.toNat) (rest.map UInt8.toNat)
      have hfill := Nat.le_mul_of_pos_right
        (spell 256 (n * 256 + byte.toNat) (rest.map UInt8.toNat))
        (Nat.two_pow_pos (fillBits (bits + 8 * (byte :: rest).length)))
      simp only [Option.bind_none, Option.isSome_none, Bool.false_eq_true, false_iff]
      omega
    | some shifted =>
      rw [hshift] at hiff
      have hsmall := hiff.mp rfl
      have hnext : shifted ||| BitVec.ofNat 32 byte.toNat =
          BitVec.ofNat 32 (n * 256 + byte.toNat) := by
        rw [eq_of_checkedShift hshift]
        exact shiftInOctet_ofNat n byte
      have hfst := base64Emit_fst (bits + 8) (BitVec.ofNat 32 (n * 256 + byte.toNat)) out
      have hfill : fillBits (bits + 8 * (byte :: rest).length) =
          fillBits ((bits + 8) % 6 + 8 * rest.length) := by
        simp only [fillBits, List.length_cons]
        omega
      simp only [Option.bind_some, hnext]
      rw [ih (by rw [hfst]; omega) hsmall, hfst, hfill]

/-! ### Defined runs -/

theorem length_sha1 (input : Bytes) : (sha1 input).length = 20 := rfl

/-- A checked run has a result exactly when it has that of the function. -/
theorem isSome_iff_eq_some {r : Option Bytes} {x : Bytes} (h : ∀ y, r = some y → x = y) :
    r.isSome ↔ r = some x := by
  constructor
  · intro hsome
    obtain ⟨y, hy⟩ := Option.isSome_iff_exists.mp hsome
    rw [hy, h y hy]
  · intro heq
    rw [heq]
    rfl

/-- **The shifts of the base64 functions**: with the bound of an `int` (31), and with that of C++17
(32), all left shifts of `base64_decode` are defined exactly when the sextets it reads spell a
number below the bound, and all those of `base64_encode` exactly when the octets do, filled up to
whole sextets; for a digest the last two bits are filled in. -/
theorem base64_shifts_iff (hbound : bound = 31 ∨ bound = 32) :
    (∀ text, base64DecodeChecked bound text = some (base64Decode text) ↔
      spell 64 0 (sextetsRead text) < 2 ^ bound) ∧
    (∀ octets, base64EncodeChecked bound octets = some (base64Encode octets) ↔
      spell 256 0 (octets.map UInt8.toNat) * 2 ^ fillBits (8 * octets.length) < 2 ^ bound) ∧
    ∀ input, base64EncodeChecked bound (sha1 input) = some (base64Encode (sha1 input)) ↔
      spell 256 0 ((sha1 input).map UInt8.toNat) * 4 < 2 ^ bound := by
  have hzero : 0 < 2 ^ bound := Nat.two_pow_pos bound
  have hencode : ∀ octets, base64EncodeChecked bound octets = some (base64Encode octets) ↔
      spell 256 0 (octets.map UInt8.toNat) * 2 ^ fillBits (8 * octets.length) < 2 ^ bound := by
    intro octets
    have hresult : ∀ y, base64EncodeChecked bound octets = some y → base64Encode octets = y :=
      fun y => base64EncodeLoopChecked_eq
    rw [← isSome_iff_eq_some hresult, ← Nat.zero_add (8 * octets.length)]
    exact base64EncodeLoopChecked_isSome hbound octets (by omega) hzero []
  refine ⟨fun text => ?_, hencode, fun input => ?_⟩
  · have hresult : ∀ y, base64DecodeChecked bound text = some y → base64Decode text = y :=
      fun y => base64DecodeLoopChecked_eq
    rw [← isSome_iff_eq_some hresult]
    exact base64DecodeLoopChecked_isSome hbound text 0 hzero []
  · rw [hencode, length_sha1]
    rfl

/-- Four symbols and three octets stay below the bound. -/
theorem base64_shifts_iff_four :
    base64DecodeChecked 31 (bytes "TWFu") = some (base64Decode (bytes "TWFu")) ∧
      base64EncodeChecked 31 (bytes "Man") = some (base64Encode (bytes "Man")) := by
  obtain ⟨hdecode, hencode, -⟩ := base64_shifts_iff (Or.inl rfl : 31 = 31 ∨ 31 = 32)
  exact ⟨(hdecode _).mpr (by decide), (hencode _).mpr (by decide)⟩

/-- A nonce of twelve octets overflows when it is decoded, and a digest when it is encoded. -/
theorem not_base64_shifts :
    ¬(∀ text, base64DecodeChecked 31 text = some (base64Decode text)) ∧
      ¬∀ octets, base64EncodeChecked 31 octets = some (base64Encode octets) := by
  have hdecode : base64DecodeChecked 31 (bytes "bm9uY2Utbm9uY2U=") = none := by decide +kernel
  have hencode : base64EncodeChecked 31 (sha1 (bytes "abc")) = none := by decide +kernel
  constructor
  · intro hall
    have hnone := hall (bytes "bm9uY2Utbm9uY2U=")
    rw [hdecode] at hnone
    cases hnone
  · intro hall
    have hnone := hall (sha1 (bytes "abc"))
    rw [hencode] at hnone
    cases hnone

end Afterveda.Onvif
