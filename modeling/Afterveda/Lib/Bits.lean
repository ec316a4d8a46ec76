import Mathlib.Data.BitVec
import Mathlib.Tactic.Linarith
import Mathlib.Tactic.NormNum
import Mathlib.Tactic.Positivity
import Mathlib.Tactic.Ring

/-!
# Shifts and masks of machine words

The value of the words that C code builds with shifts, `|` and `&`.
-/

namespace Bits

/-- A word shifted left, with bits put into the place this frees. -/
theorem toNat_shiftLeft_or {w k : ℕ} (x y : BitVec w) (hk : k ≤ w) (hy : y.toNat < 2 ^ k) :
    (x <<< k ||| y).toNat = (x.toNat * 2 ^ k + y.toNat) % 2 ^ w := by
  have hpow : 2 ^ w = 2 ^ (w - k) * 2 ^ k := by rw [← pow_add, Nat.sub_add_cancel hk]
  have hhigh : x.toNat * 2 ^ k % 2 ^ w = (x.toNat % 2 ^ (w - k)) * 2 ^ k := by
    rw [hpow, Nat.mul_mod_mul_right]
  have hlow : y.toNat < 2 ^ w := y.isLt
  have hsum : (x.toNat * 2 ^ k + y.toNat) % 2 ^ w =
      (x.toNat % 2 ^ (w - k)) * 2 ^ k + y.toNat := by
    rw [Nat.add_mod, hhigh, Nat.mod_eq_of_lt hlow, Nat.mod_eq_of_lt]
    have hlt : x.toNat % 2 ^ (w - k) < 2 ^ (w - k) := Nat.mod_lt _ (by positivity)
    calc x.toNat % 2 ^ (w - k) * 2 ^ k + y.toNat
        < x.toNat % 2 ^ (w - k) * 2 ^ k + 2 ^ k := by omega
      _ = (x.toNat % 2 ^ (w - k) + 1) * 2 ^ k := by ring
      _ ≤ 2 ^ (w - k) * 2 ^ k := Nat.mul_le_mul_right _ hlt
      _ = 2 ^ w := hpow.symm
  rw [hsum, BitVec.toNat_or, BitVec.toNat_shiftLeft, Nat.shiftLeft_eq, hhigh,
    ← Nat.shiftLeft_eq, Nat.shiftLeft_add_eq_or_of_lt hy]

/-- The low bits of a word, masked out. -/
theorem toNat_and_mask {w m : ℕ} (x : BitVec w) (hm : m ≤ w) :
    (x &&& BitVec.ofNat w (2 ^ m - 1)).toNat = x.toNat % 2 ^ m := by
  have hlt : 2 ^ m - 1 < 2 ^ w := by
    have hle : 2 ^ m ≤ 2 ^ w := Nat.pow_le_pow_right (by norm_num) hm
    have hpos : 0 < 2 ^ m := by positivity
    omega
  rw [BitVec.toNat_and, BitVec.toNat_ofNat, Nat.mod_eq_of_lt hlt, Nat.and_two_pow_sub_one_eq_mod]

/-- Bits of a word below its sign are those an arithmetic right shift moves down. -/
theorem toNat_sshiftRight_and_mask {w k m : ℕ} (x : BitVec w) (hkm : k + m ≤ w) :
    (x.sshiftRight k &&& BitVec.ofNat w (2 ^ m - 1)).toNat = x.toNat / 2 ^ k % 2 ^ m := by
  have hbits : x.sshiftRight k &&& BitVec.ofNat w (2 ^ m - 1) =
      x >>> k &&& BitVec.ofNat w (2 ^ m - 1) := by
    apply BitVec.eq_of_getLsbD_eq
    intro i hi
    have hmask : (BitVec.ofNat w (2 ^ m - 1)).getLsbD i = decide (i < m) := by
      rw [BitVec.getLsbD_ofNat, Nat.testBit_two_pow_sub_one]
      simp [hi]
    rw [BitVec.getLsbD_and, BitVec.getLsbD_and, hmask]
    by_cases him : i < m
    · rw [BitVec.getLsbD_sshiftRight, BitVec.getLsbD_ushiftRight, if_pos (by omega)]
      have hwi : ¬ w ≤ i := by omega
      simp only [hwi, decide_false, Bool.not_false, Bool.true_and]
    · simp [him]
  rw [hbits, toNat_and_mask _ (by omega), BitVec.toNat_ushiftRight, Nat.shiftRight_eq_div_pow]

/-! ### Shifts of signed words -/

/-- The number that digits spell after the digits of another one, the most significant first. -/
def spell (base n : ℕ) (digits : List ℕ) : ℕ := digits.foldl (fun n d => n * base + d) n

theorem le_spell {base : ℕ} (hbase : 1 ≤ base) (n : ℕ) (digits : List ℕ) :
    n ≤ spell base n digits := by
  induction digits generalizing n with
  | nil => exact le_refl n
  | cons d digits ih =>
    calc n ≤ n * base := Nat.le_mul_of_pos_right n hbase
      _ ≤ n * base + d := Nat.le_add_right _ d
      _ ≤ spell base n (d :: digits) := ih _

/-- A left shift of a signed word.  It has a result where the word is not negative and its product
is below `2 ^ bound`. -/
def checkedShift {w : ℕ} (bound : ℕ) (x : BitVec w) (k : ℕ) : Option (BitVec w) :=
  if 0 ≤ x.toInt ∧ x.toInt * 2 ^ k < 2 ^ bound then some (x <<< k) else none

theorem eq_of_checkedShift {w bound k : ℕ} {x y : BitVec w} (h : checkedShift bound x k = some y) :
    y = x <<< k := by
  unfold checkedShift at h
  split_ifs at h
  exact (Option.some.inj h).symm

theorem checkedShift_isSome {w : ℕ} (bound : ℕ) (x : BitVec w) (k : ℕ) :
    (checkedShift bound x k).isSome ↔ 0 ≤ x.toInt ∧ x.toInt * 2 ^ k < 2 ^ bound := by
  unfold checkedShift
  split_ifs with h
  · simp only [Option.isSome_some, h, and_self]
  · simp only [Option.isSome_none, Bool.false_eq_true, h]

/-- With bounds on the result up to the width, the number that was put into the word decides. -/
theorem checkedShift_isSome_iff {w bound k n : ℕ} (hk : 1 ≤ k) (hbound : bound ≤ w)
    (hn : n < 2 ^ w) :
    (checkedShift bound (BitVec.ofNat w n) k).isSome ↔ n * 2 ^ k < 2 ^ bound := by
  have hvalue : (BitVec.ofNat w n).toNat = n := by
    rw [BitVec.toNat_ofNat, Nat.mod_eq_of_lt hn]
  rw [checkedShift_isSome, BitVec.toInt_eq_toNat_cond, hvalue]
  by_cases hsign : 2 * n < 2 ^ w
  · rw [if_pos hsign]
    have hnonneg : (0 : ℤ) ≤ n := Int.natCast_nonneg n
    have hcast : (n : ℤ) * 2 ^ k < 2 ^ bound ↔ n * 2 ^ k < 2 ^ bound := by exact_mod_cast Iff.rfl
    rw [hcast, and_iff_right hnonneg]
  · -- the word is negative, and the product is past the bound
    rw [if_neg hsign]
    have hneg : (n : ℤ) - (2 ^ w : ℕ) < 0 := by
      have hcast : (n : ℤ) < (2 ^ w : ℕ) := by exact_mod_cast hn
      linarith
    have hlarge : ¬n * 2 ^ k < 2 ^ bound := by
      have hdouble : n * 2 ≤ n * 2 ^ k := Nat.mul_le_mul_left n (Nat.le_self_pow (by omega) 2)
      have hwidth : 2 ^ bound ≤ 2 ^ w := Nat.pow_le_pow_right (by norm_num) hbound
      omega
    exact iff_of_false (fun h => absurd h.1 (not_le.mpr hneg)) hlarge

end Bits
