import Afterveda.Lib.RealText

/-!
# The numbers a `double` holds

`binary64` rounds a number to the nearest binary64 number, ties to even.  `Precision.round` is what
a decimal numeral is read as: that number, or its exact value.  `reread_reread` says what survives
text in either reading: a number that was printed with six significant digits and read is not
changed by a second trip.
-/

namespace CText

open CNumber

/-! ### The nearest integer -/

theorem roundHalfEven_eq_iff {q : ℚ} {n : ℤ} : roundHalfEven q = n ↔
    |q - n| < 1 / 2 ∨ |q - n| = 1 / 2 ∧ n % 2 = 0 := by
  have hlow : (⌊q⌋ : ℚ) ≤ q := Int.floor_le q
  have hhigh : q < ⌊q⌋ + 1 := Int.lt_floor_add_one q
  have hnear : |q - n| ≤ 1 / 2 → n = ⌊q⌋ ∨ n = ⌊q⌋ + 1 := by
    intro h
    obtain ⟨h1, h2⟩ := abs_le.mp h
    have hupper : n < ⌊q⌋ + 2 := by
      have : (n : ℚ) < ⌊q⌋ + 2 := by linarith
      exact_mod_cast this
    have hlower : ⌊q⌋ < n + 1 := by
      have : (⌊q⌋ : ℚ) < n + 1 := by linarith
      exact_mod_cast this
    omega
  have hfloor : |q - (⌊q⌋ : ℤ)| = q - ⌊q⌋ := abs_of_nonneg (by linarith)
  have hceil : |q - ((⌊q⌋ + 1 : ℤ) : ℚ)| = 1 - (q - ⌊q⌋) := by
    push_cast
    rw [abs_of_nonpos (by linarith)]
    ring
  unfold roundHalfEven
  dsimp only
  constructor
  · rintro rfl
    split_ifs with h1 h2 h3
    · exact Or.inl (by rw [hfloor]; exact h1)
    · exact Or.inl (by rw [hceil]; linarith)
    · exact Or.inr ⟨by rw [hfloor]; linarith, h3⟩
    · exact Or.inr ⟨by rw [hceil]; linarith, by omega⟩
  · intro h
    have hle : |q - n| ≤ 1 / 2 := h.elim le_of_lt fun h => h.1.le
    rcases hnear hle with rfl | rfl
    · rw [hfloor] at h
      rcases h with h | ⟨h, heven⟩
      · rw [if_pos h]
      · rw [if_neg h.not_lt, if_neg h.symm.not_lt, if_pos heven]
    · rw [hceil] at h
      rcases h with h | ⟨h, heven⟩
      · rw [if_neg (by linarith), if_pos (by linarith)]
      · rw [if_neg (by linarith), if_neg (by linarith), if_neg (by omega)]

theorem abs_sub_roundHalfEven_le (q : ℚ) : |q - roundHalfEven q| ≤ 1 / 2 := by
  rcases roundHalfEven_eq_iff.mp (rfl : roundHalfEven q = _) with h | ⟨h, -⟩
  · exact h.le
  · exact h.le

/-- No integer is nearer. -/
theorem abs_sub_roundHalfEven_le_abs_sub (q : ℚ) (n : ℤ) : |q - roundHalfEven q| ≤ |q - n| := by
  by_contra! h
  have hhalf := abs_sub_roundHalfEven_le q
  -- two integers, the one within a half and the other nearer still
  have hdiff : |((roundHalfEven q - n : ℤ) : ℚ)| < 1 := by
    push_cast
    calc |(roundHalfEven q : ℚ) - n| = |(q - n) - (q - roundHalfEven q)| := by congr 1; ring
      _ ≤ |q - n| + |q - roundHalfEven q| := abs_sub _ _
      _ < 1 := by linarith
  have hsame : roundHalfEven q - n = 0 := by
    rw [← Int.cast_abs] at hdiff
    have : |roundHalfEven q - n| < 1 := by exact_mod_cast hdiff
    exact Int.abs_lt_one_iff.mp this
  rw [sub_eq_zero.mp hsame] at h
  exact lt_irrefl _ h

theorem roundHalfEven_neg (q : ℚ) : roundHalfEven (-q) = -roundHalfEven q := by
  have habs : |-q - ((-roundHalfEven q : ℤ) : ℚ)| = |q - roundHalfEven q| := by
    push_cast
    rw [← abs_neg]
    congr 1
    ring
  rw [roundHalfEven_eq_iff, habs]
  rcases roundHalfEven_eq_iff.mp (rfl : roundHalfEven q = _) with h | ⟨h, heven⟩
  · exact Or.inl h
  · exact Or.inr ⟨h, by omega⟩

/-! ### Six significant digits -/

/-- A positive number with six digits and its decimal exponent. -/
theorem exists_roundPos {q : ℚ} (hq : 0 < q) : ∃ (m : ℕ) (e : ℤ), 10 ^ 5 ≤ m ∧ m < 10 ^ 6 ∧
    roundPos q = m * 10 ^ (e - 5) :=
  ⟨_, _, (sixDigits_mem hq).1, (sixDigits_mem hq).2, rfl⟩

/-- The rounding before a carry is written as one. -/
theorem roundPos_eq {q : ℚ} (hq : 0 < q) : roundPos q =
    roundHalfEven (q * 10 ^ (5 - Int.log 10 q)) * 10 ^ (Int.log 10 q - 5) := by
  obtain ⟨hlow, -⟩ := scaled_mem hq
  have hnonneg : 0 ≤ roundHalfEven (q * 10 ^ (5 - Int.log 10 q)) :=
    le_roundHalfEven (by rw [Int.cast_zero]; linarith)
  have hcast : (((roundHalfEven (q * 10 ^ (5 - Int.log 10 q))).toNat : ℤ) : ℚ) =
      roundHalfEven (q * 10 ^ (5 - Int.log 10 q)) := by
    rw [Int.toNat_of_nonneg hnonneg]
  rw [Int.cast_natCast] at hcast
  unfold roundPos sixDigits
  dsimp only
  split_ifs with h
  · rw [h] at hcast
    rw [← hcast, show Int.log 10 q + 1 - 5 = 1 + (Int.log 10 q - 5) by ring,
      zpow_add₀ (by norm_num)]
    push_cast
    ring
  · rw [← hcast]

/-- Rounding to six digits at most halves a number. -/
theorem le_two_mul_round6 {q : ℚ} (hq : 0 < q) : q ≤ 2 * round6 q := by
  obtain ⟨hlow, -⟩ := scaled_mem hq
  rw [round6_of_pos hq, roundPos_eq hq]
  set k := Int.log 10 q
  have hpos : (0 : ℚ) < 10 ^ (k - 5) := by positivity
  obtain ⟨-, hhalf⟩ := abs_le.mp (abs_sub_roundHalfEven_le (q * 10 ^ (5 - k)))
  have hscaled : q * 10 ^ (5 - k) ≤ 2 * roundHalfEven (q * 10 ^ (5 - k)) := by linarith
  calc q = q * 10 ^ (5 - k) * 10 ^ (k - 5) := by
        rw [mul_assoc, ← zpow_add₀ (by norm_num), show 5 - k + (k - 5) = 0 by ring, zpow_zero,
          mul_one]
    _ ≤ 2 * roundHalfEven (q * 10 ^ (5 - k)) * 10 ^ (k - 5) := by
        gcongr
    _ = 2 * (roundHalfEven (q * 10 ^ (5 - k)) * 10 ^ (k - 5)) := mul_assoc ..

/-- No number of six digits is nearer. -/
theorem abs_sub_roundPos_le {q : ℚ} (hq : 0 < q) {m : ℕ} (e : ℤ) (hm : m < 10 ^ 6) :
    |q - roundPos q| ≤ |q - m * 10 ^ (e - 5)| := by
  obtain ⟨hlow, -⟩ := scaled_mem hq
  set k := Int.log 10 q
  have hpos : (0 : ℚ) < 10 ^ (k - 5) := by positivity
  have hunscale : ∀ x : ℚ, x * 10 ^ (5 - k) * 10 ^ (k - 5) = x := by
    intro x
    rw [mul_assoc, ← zpow_add₀ (by norm_num), show 5 - k + (k - 5) = 0 by ring, zpow_zero, mul_one]
  -- in units of the sixth digit of `q`
  suffices h : |q * 10 ^ (5 - k) - roundHalfEven (q * 10 ^ (5 - k))| ≤
      |q * 10 ^ (5 - k) - m * 10 ^ (e - 5) * 10 ^ (5 - k)| by
    calc |q - roundPos q|
        = |(q * 10 ^ (5 - k) - roundHalfEven (q * 10 ^ (5 - k))) * 10 ^ (k - 5)| := by
          rw [sub_mul, hunscale, roundPos_eq hq]
      _ = |q * 10 ^ (5 - k) - roundHalfEven (q * 10 ^ (5 - k))| * 10 ^ (k - 5) := by
          rw [abs_mul, abs_of_pos hpos]
      _ ≤ |q * 10 ^ (5 - k) - m * 10 ^ (e - 5) * 10 ^ (5 - k)| * 10 ^ (k - 5) := by gcongr
      _ = |(q * 10 ^ (5 - k) - m * 10 ^ (e - 5) * 10 ^ (5 - k)) * 10 ^ (k - 5)| := by
          rw [abs_mul, abs_of_pos hpos]
      _ = |q - m * 10 ^ (e - 5)| := by rw [sub_mul, hunscale, hunscale]
  have hscaled : (m : ℚ) * 10 ^ (e - 5) * 10 ^ (5 - k) = m * 10 ^ (e - k) := by
    rw [mul_assoc, ← zpow_add₀ (by norm_num), show e - 5 + (5 - k) = e - k by ring]
  rw [hscaled]
  rcases le_or_gt k e with he | he
  · -- an integer
    obtain ⟨n, hn⟩ : ∃ n : ℕ, e - k = n := ⟨(e - k).toNat, by omega⟩
    have hint : (m : ℚ) * 10 ^ (e - k) = ((m * 10 ^ n : ℤ) : ℚ) := by
      rw [hn, zpow_natCast]
      push_cast
      rfl
    rw [hint]
    exact abs_sub_roundHalfEven_le_abs_sub _ _
  · -- below every six-digit integer
    have hbelow : (m : ℚ) * 10 ^ (e - k) ≤ 10 ^ 5 := by
      calc (m : ℚ) * 10 ^ (e - k) ≤ 10 ^ 6 * 10 ^ (-1 : ℤ) := by
            gcongr
            · exact_mod_cast hm.le
            · norm_num
            · omega
        _ = 10 ^ 5 := by norm_num
    refine (abs_sub_roundHalfEven_le_abs_sub _ (10 ^ 5 : ℤ)).trans ?_
    push_cast
    rw [abs_of_nonneg (by linarith), abs_of_nonneg (by linarith)]
    linarith

/-- Of two numbers of six digits the one with the larger exponent is larger by a tenth of its last
digit at least. -/
theorem six_add_le {m m' : ℕ} {e e' : ℤ} (hhigh : m < 10 ^ 6) (hlow' : 10 ^ 5 ≤ m') (he : e < e') :
    (m : ℚ) * 10 ^ (e - 5) + 10 ^ (e' - 6) ≤ m' * 10 ^ (e' - 5) := by
  have hm : (m : ℚ) + 1 ≤ 10 ^ 6 := by exact_mod_cast hhigh
  have hm' : (10 : ℚ) ^ 5 ≤ m' := by exact_mod_cast hlow'
  have hpow : (10 : ℚ) ^ (e - 5) ≤ 10 ^ (e' - 6) := zpow_le_zpow_right₀ (by norm_num) (by omega)
  have hstep : (10 : ℚ) ^ (e' - 5) = 10 * 10 ^ (e' - 6) := by
    rw [show e' - 5 = 1 + (e' - 6) by ring, zpow_add₀ (by norm_num), zpow_one]
  calc (m : ℚ) * 10 ^ (e - 5) + 10 ^ (e' - 6)
      ≤ m * 10 ^ (e' - 6) + 10 ^ (e' - 6) := by gcongr
    _ = (m + 1) * 10 ^ (e' - 6) := by ring
    _ ≤ 10 ^ 6 * 10 ^ (e' - 6) := by gcongr
    _ = 10 ^ 5 * 10 ^ (e' - 5) := by
        rw [hstep]
        ring
    _ ≤ m' * 10 ^ (e' - 5) := by gcongr

/-- Different numbers of six digits are apart by a tenth of the last digit at least. -/
theorem eq_of_six_near {m m' : ℕ} {e e' : ℤ} (hlow : 10 ^ 5 ≤ m) (hhigh : m < 10 ^ 6)
    (hlow' : 10 ^ 5 ≤ m') (hhigh' : m' < 10 ^ 6)
    (h : |(m : ℚ) * 10 ^ (e - 5) - m' * 10 ^ (e' - 5)| < 10 ^ (e - 6)) :
    (m : ℚ) * 10 ^ (e - 5) = m' * 10 ^ (e' - 5) := by
  obtain ⟨h1, h2⟩ := abs_lt.mp h
  rcases lt_trichotomy e e' with he | rfl | he
  · have hgap := six_add_le hhigh hlow' he
    have hpow : (10 : ℚ) ^ (e - 6) ≤ 10 ^ (e' - 6) := zpow_le_zpow_right₀ (by norm_num) (by omega)
    linarith
  · -- the digits differ by less than one
    have hpos : (0 : ℚ) < 10 ^ (e - 5) := by positivity
    have hpow : (10 : ℚ) ^ (e - 6) ≤ 10 ^ (e - 5) := zpow_le_zpow_right₀ (by norm_num) (by omega)
    have hclose : |((m - m' : ℤ) : ℚ)| < 1 := by
      rw [← sub_mul, abs_mul, abs_of_pos hpos] at h
      push_cast
      exact lt_of_mul_lt_mul_right ((h.trans_le hpow).trans_eq (one_mul _).symm) hpos.le
    have hsame : (m : ℤ) - m' = 0 := by
      rw [← Int.cast_abs] at hclose
      exact Int.abs_lt_one_iff.mp (by exact_mod_cast hclose)
    rw [show m = m' by omega]
  · have hgap := six_add_le hhigh' hlow he
    linarith

/-- What is nearer to a number of six digits than a twentieth of the last one is printed as that. -/
theorem roundPos_of_near {m : ℕ} {e : ℤ} (hlow : 10 ^ 5 ≤ m) (hhigh : m < 10 ^ 6) {y : ℚ}
    (hy : 0 < y) (h : |y - m * 10 ^ (e - 5)| * 2 < 10 ^ (e - 6)) :
    roundPos y = m * 10 ^ (e - 5) := by
  obtain ⟨m', e', hlow', hhigh', hround⟩ := exists_roundPos hy
  have hnear := abs_sub_roundPos_le hy e hhigh
  rw [hround] at hnear ⊢
  refine (eq_of_six_near hlow hhigh hlow' hhigh' ?_).symm
  calc |(m : ℚ) * 10 ^ (e - 5) - m' * 10 ^ (e' - 5)|
      = |(y - m' * 10 ^ (e' - 5)) - (y - m * 10 ^ (e - 5))| := by congr 1; ring
    _ ≤ |y - m' * 10 ^ (e' - 5)| + |y - m * 10 ^ (e - 5)| := abs_sub _ _
    _ < 10 ^ (e - 6) := by linarith

/-! ### Binary numbers -/

/-- The exponent of the last binary digit that a `double` of about this size has. -/
def lastBit (q : ℚ) : ℤ := max (Int.log 2 |q| - 52) (-1074)

/-- The nearest binary64 number, ties to even, as long as the number does not overflow. -/
def binary64 (q : ℚ) : ℚ := roundHalfEven (q * 2 ^ (-lastBit q)) * 2 ^ lastBit q

theorem binary64_neg (q : ℚ) : binary64 (-q) = -binary64 q := by
  have hbit : lastBit (-q) = lastBit q := by rw [lastBit, lastBit, abs_neg]
  rw [binary64, hbit, neg_mul, roundHalfEven_neg, Int.cast_neg, neg_mul, binary64]

@[simp] theorem binary64_zero : binary64 0 = 0 := by
  rw [binary64, zero_mul, ← Int.cast_zero, roundHalfEven_intCast, Int.cast_zero, zero_mul]

/-- A multiple of the last digit is at most half a digit away from what is rounded to it. -/
theorem binary64_eq_of_near {q : ℚ} {n : ℤ}
    (h : |q - n * 2 ^ lastBit q| * 2 < 2 ^ lastBit q ∨
      |q - n * 2 ^ lastBit q| * 2 = 2 ^ lastBit q ∧ n % 2 = 0) :
    binary64 q = n * 2 ^ lastBit q := by
  have hpos : (0 : ℚ) < 2 ^ lastBit q := by positivity
  have hscale : |q * 2 ^ (-lastBit q) - n| * 2 ^ lastBit q = |q - n * 2 ^ lastBit q| := by
    rw [← abs_of_pos hpos, ← abs_mul, abs_of_pos hpos, sub_mul, mul_assoc,
      ← zpow_add₀ (by norm_num), neg_add_cancel, zpow_zero, mul_one]
  rw [binary64, roundHalfEven_eq_iff.mpr]
  rw [← hscale] at h
  rcases h with h | ⟨h, heven⟩
  · left
    by_contra! hge
    have := mul_le_mul_of_nonneg_right hge hpos.le
    linarith
  · refine Or.inr ⟨?_, heven⟩
    have : (|q * 2 ^ (-lastBit q) - n| - 1 / 2) * 2 ^ lastBit q = 0 := by linarith
    rcases mul_eq_zero.mp this with h | h
    · linarith
    · exact absurd h hpos.ne'

/-- The error in units of the last digit. -/
theorem abs_sub_binary64 (q : ℚ) : |q - binary64 q| =
    |q * 2 ^ (-lastBit q) - roundHalfEven (q * 2 ^ (-lastBit q))| * 2 ^ lastBit q := by
  have hpos : (0 : ℚ) < 2 ^ lastBit q := by positivity
  have hfactor : q - binary64 q =
      (q * 2 ^ (-lastBit q) - roundHalfEven (q * 2 ^ (-lastBit q))) * 2 ^ lastBit q := by
    rw [binary64, sub_mul, mul_assoc, ← zpow_add₀ (by norm_num), neg_add_cancel, zpow_zero, mul_one]
  rw [hfactor, abs_mul, abs_of_pos hpos]

theorem abs_sub_binary64_le (q : ℚ) : |q - binary64 q| * 2 ≤ 2 ^ lastBit q := by
  have hpos : (0 : ℚ) < 2 ^ lastBit q := by positivity
  rw [abs_sub_binary64]
  have := mul_le_mul_of_nonneg_right (abs_sub_roundHalfEven_le (q * 2 ^ (-lastBit q))) hpos.le
  linarith

/-- What is at least as near to a binary64 number as one that is rounded to it, and of the same
last digit, is rounded to it as well. -/
theorem binary64_eq_of_nearer {p q : ℚ} (hbit : lastBit p = lastBit q)
    (h : |p - binary64 q| ≤ |q - binary64 q|) : binary64 p = binary64 q := by
  have hpos : (0 : ℚ) < 2 ^ lastBit q := by positivity
  rw [abs_sub_binary64 q] at h
  set n := roundHalfEven (q * 2 ^ (-lastBit q)) with hn
  have hvalue : binary64 q = n * 2 ^ lastBit p := by rw [binary64, ← hn, hbit]
  rw [hvalue] at h ⊢
  apply binary64_eq_of_near
  rw [hbit] at h ⊢
  rcases roundHalfEven_eq_iff.mp hn.symm with hlt | ⟨heq, heven⟩
  · have := mul_lt_mul_of_pos_right hlt hpos
    left
    linarith
  · rw [heq] at h
    have hle : |p - n * 2 ^ lastBit q| * 2 ≤ 2 ^ lastBit q := by linarith
    rcases hle.lt_or_eq with hlt | hhalf
    · exact Or.inl hlt
    · exact Or.inr ⟨hhalf, heven⟩

/-- The subnormal numbers and the smallest normal ones have one last digit. -/
theorem lastBit_of_lt {q : ℚ} (hq : 0 < q) (h : q < 2 ^ (-1021 : ℤ)) : lastBit q = -1074 := by
  have hlog : Int.log 2 q < -1021 :=
    (Int.lt_zpow_iff_log_lt (by norm_num) hq).mp (by exact_mod_cast h)
  rw [lastBit, abs_of_pos hq]
  omega

theorem binary64_nonneg {q : ℚ} (h : 0 ≤ q) : 0 ≤ binary64 q := by
  have hnonneg : 0 ≤ roundHalfEven (q * 2 ^ (-lastBit q)) :=
    le_roundHalfEven (by rw [Int.cast_zero]; positivity)
  have : (0 : ℚ) ≤ roundHalfEven (q * 2 ^ (-lastBit q)) := by exact_mod_cast hnonneg
  rw [binary64]
  positivity

/-- Below 2⁵³ every integer is a binary64 number, so rounding does not pass one. -/
theorem intCast_le_binary64 {q : ℚ} {n : ℤ} (hq : |q| < 2 ^ 53) (h : (n : ℚ) ≤ q) :
    (n : ℚ) ≤ binary64 q := by
  have hbit : lastBit q ≤ 0 := by
    rcases eq_or_ne q 0 with rfl | hne
    · decide +kernel
    · have hlog : Int.log 2 |q| < 53 :=
        (Int.lt_zpow_iff_log_lt (by norm_num) (abs_pos.mpr hne)).mp (by exact_mod_cast hq)
      unfold lastBit
      omega
  obtain ⟨k, hk⟩ : ∃ k : ℕ, -lastBit q = k := ⟨(-lastBit q).toNat, by omega⟩
  have hpos : (0 : ℚ) < 2 ^ lastBit q := by positivity
  have hint : (n : ℚ) * 2 ^ (-lastBit q) = ((n * 2 ^ k : ℤ) : ℚ) := by
    rw [hk, zpow_natCast]
    push_cast
    rfl
  have hle : ((n * 2 ^ k : ℤ) : ℚ) ≤ q * 2 ^ (-lastBit q) := by
    rw [← hint]
    gcongr
  calc (n : ℚ) = n * 2 ^ (-lastBit q) * 2 ^ lastBit q := by
        rw [mul_assoc, ← zpow_add₀ (by norm_num), neg_add_cancel, zpow_zero, mul_one]
    _ = ((n * 2 ^ k : ℤ) : ℚ) * 2 ^ lastBit q := by rw [hint]
    _ ≤ binary64 q := by
        unfold binary64
        gcongr
        exact le_roundHalfEven hle

theorem binary64_le_intCast {q : ℚ} {n : ℤ} (hq : |q| < 2 ^ 53) (h : q ≤ n) :
    binary64 q ≤ n := by
  have hneg := intCast_le_binary64 (q := -q) (n := -n) (by rwa [abs_neg]) (by
    push_cast
    exact neg_le_neg h)
  rw [binary64_neg] at hneg
  push_cast at hneg
  exact neg_le_neg_iff.mp hneg

/-- A number that is not rounded to zero is at most halved. -/
theorem le_two_mul_binary64 {q : ℚ} (hq : 0 ≤ q) (hne : binary64 q ≠ 0) : q ≤ 2 * binary64 q := by
  have hpos : (0 : ℚ) < 2 ^ lastBit q := by positivity
  have hnonneg : 0 ≤ roundHalfEven (q * 2 ^ (-lastBit q)) :=
    le_roundHalfEven (by rw [Int.cast_zero]; positivity)
  have hone : 1 ≤ roundHalfEven (q * 2 ^ (-lastBit q)) := by
    rcases hnonneg.eq_or_lt with hzero | hlt
    · refine absurd ?_ hne
      rw [binary64, ← hzero, Int.cast_zero, zero_mul]
    · exact hlt
  -- one last digit is no more than what there is
  have hdigit : (2 : ℚ) ^ lastBit q ≤ binary64 q := by
    rw [binary64]
    exact le_mul_of_one_le_left hpos.le (by exact_mod_cast hone)
  obtain ⟨-, hclose⟩ := abs_le.mp
    (show |q - binary64 q| ≤ binary64 q by linarith [abs_sub_binary64_le q])
  linarith

/-! ### Printing and reading again -/

/-- The normal numbers have more than six digits: what a decimal of six digits is rounded to is
printed as the decimal. -/
theorem roundPos_binary64 {m : ℕ} {e : ℤ} (hlow : 10 ^ 5 ≤ m) (hhigh : m < 10 ^ 6)
    (hnormal : -1022 ≤ Int.log 2 ((m : ℚ) * 10 ^ (e - 5))) :
    0 < binary64 (m * 10 ^ (e - 5)) ∧
      roundPos (binary64 (m * 10 ^ (e - 5))) = m * 10 ^ (e - 5) := by
  set d : ℚ := m * 10 ^ (e - 5) with hd
  have hm : (0 : ℚ) < m := by exact_mod_cast (by omega : 0 < m)
  have hdpos : 0 < d := by positivity
  have hbit : lastBit d = Int.log 2 d - 52 := by
    rw [lastBit, abs_of_pos hdpos]
    omega
  -- half a last digit is less than one part in 2 ^ 53
  have hdigit : (2 : ℚ) ^ lastBit d * 2 ^ 52 ≤ d := by
    have hlog : (2 : ℚ) ^ Int.log 2 d ≤ d := by
      have h := Int.zpow_log_le_self (b := 2) (by norm_num) hdpos
      exact_mod_cast h
    rw [hbit]
    calc (2 : ℚ) ^ (Int.log 2 d - 52) * 2 ^ 52 = 2 ^ Int.log 2 d := by
          rw [zpow_sub₀ (by norm_num)]
          norm_num
      _ ≤ d := hlog
  have hclose := abs_sub_binary64_le d
  have hpos : 0 < binary64 d := by
    obtain ⟨-, h⟩ := abs_le.mp (show |d - binary64 d| ≤ d / 2 by linarith)
    linarith
  refine ⟨hpos, roundPos_of_near hlow hhigh hpos ?_⟩
  have hsix : d ≤ 10 ^ 6 * (10 * 10 ^ (e - 6)) := by
    have hstep : (10 : ℚ) ^ (e - 5) = 10 * 10 ^ (e - 6) := by
      rw [show e - 5 = 1 + (e - 6) by ring, zpow_add₀ (by norm_num), zpow_one]
    rw [hd, hstep]
    gcongr
    exact_mod_cast hhigh.le
  have hunit : (0 : ℚ) < 10 ^ (e - 6) := by positivity
  rw [abs_sub_comm]
  linarith

/-- The subnormal numbers are multiples of one number.  What is printed of one is at least as near
to it as the decimal it was read from, so it is rounded to it again. -/
theorem binary64_round6_subnormal {m : ℕ} {e : ℤ} (hhigh : m < 10 ^ 6)
    (hpos : (0 : ℚ) < m * 10 ^ (e - 5)) (hsubnormal : Int.log 2 ((m : ℚ) * 10 ^ (e - 5)) < -1022) :
    binary64 (round6 (binary64 (m * 10 ^ (e - 5)))) = binary64 (m * 10 ^ (e - 5)) := by
  set d : ℚ := m * 10 ^ (e - 5) with hd
  have hsmall : d < 2 ^ (-1022 : ℤ) := by
    have h := (Int.lt_zpow_iff_log_lt (b := 2) (by norm_num) hpos).mpr hsubnormal
    exact_mod_cast h
  have htwo : (2 : ℚ) ^ (-1021 : ℤ) = 2 ^ (-1022 : ℤ) + 2 ^ (-1022 : ℤ) := by
    rw [show (-1021 : ℤ) = 1 + -1022 by norm_num, zpow_add₀ (by norm_num), zpow_one, two_mul]
  have hunit : (0 : ℚ) < 2 ^ (-1022 : ℤ) := by positivity
  have hbit : lastBit d = -1074 := lastBit_of_lt hpos (by linarith)
  rcases (binary64_nonneg hpos.le).eq_or_lt with hzero | hypos
  · rw [← hzero, round6_zero, binary64_zero]
  have hnear : |binary64 d - round6 (binary64 d)| ≤ |binary64 d - d| := by
    rw [round6_of_pos hypos]
    exact abs_sub_roundPos_le hypos e hhigh
  have hprinted : 0 < round6 (binary64 d) := by
    rw [round6_of_pos hypos]
    exact roundPos_pos hypos
  rw [abs_sub_comm, abs_sub_comm _ d] at hnear
  have hbit' : lastBit (round6 (binary64 d)) = -1074 := by
    refine lastBit_of_lt hprinted ?_
    have hclose : |d - binary64 d| * 2 ≤ 2 ^ (-1074 : ℤ) := hbit ▸ abs_sub_binary64_le d
    have hdigit : (2 : ℚ) ^ (-1074 : ℤ) ≤ 2 ^ (-1022 : ℤ) :=
      zpow_le_zpow_right₀ (by norm_num) (by norm_num)
    calc round6 (binary64 d)
        ≤ binary64 d + |round6 (binary64 d) - binary64 d| := by
          linarith [le_abs_self (round6 (binary64 d) - binary64 d)]
      _ ≤ binary64 d + |d - binary64 d| := by gcongr
      _ ≤ d + |d - binary64 d| * 2 := by linarith [neg_abs_le (d - binary64 d)]
      _ < 2 ^ (-1021 : ℤ) := by linarith
  exact binary64_eq_of_nearer (hbit'.trans hbit.symm) hnear

theorem binary64_round6_binary64 (q : ℚ) :
    binary64 (round6 (binary64 (round6 q))) = binary64 (round6 q) := by
  have hpos : ∀ q : ℚ, 0 < q →
      binary64 (round6 (binary64 (round6 q))) = binary64 (round6 q) := by
    intro q hq
    obtain ⟨m, e, hlow, hhigh, hround⟩ := exists_roundPos hq
    rw [round6_of_pos hq]
    rw [hround]
    rcases lt_or_ge (Int.log 2 ((m : ℚ) * 10 ^ (e - 5))) (-1022) with h | h
    · exact binary64_round6_subnormal hhigh (hround ▸ roundPos_pos hq) h
    · obtain ⟨hpositive, hsame⟩ := roundPos_binary64 hlow hhigh h
      rw [round6_of_pos hpositive, hsame]
  rcases lt_trichotomy q 0 with h | rfl | h
  · have hneg := hpos (-q) (by linarith)
    rw [round6_neg, binary64_neg, round6_neg, binary64_neg] at hneg
    exact neg_injective hneg
  · simp
  · exact hpos q h

end CText

namespace CNumber

open CText

/-! ### Reading numerals -/

/-- The number that a numeral of this value is read as. -/
def Precision.round : Precision → ℚ → ℚ
  | .exact, q => q
  | .binary64, q => CText.binary64 q

/-- The `double` for a numeral of this value. -/
def Precision.nearest (precision : Precision) : Double → Double
  | .finite q => .finite (precision.round q)
  | x => x

/-- A `double` as it is after it was printed and read. -/
def Precision.reread (precision : Precision) : Double → Double
  | .finite q => .finite (precision.round (round6 q))
  | x => x

variable (precision : Precision)

/-- A value printed and read twice is the value printed and read once. -/
theorem reread_reread (x : Double) :
    precision.reread (precision.reread x) = precision.reread x := by
  cases x with
  | finite q =>
    cases precision with
    | exact => exact congrArg Double.finite (round6_round6 q)
    | binary64 => exact congrArg Double.finite (binary64_round6_binary64 q)
  | _ => rfl

theorem intCast_le_round {q : ℚ} {n : ℤ} (hq : |q| < 2 ^ 53) (h : (n : ℚ) ≤ q) :
    (n : ℚ) ≤ precision.round q := by
  cases precision with
  | exact => exact h
  | binary64 => exact intCast_le_binary64 hq h

theorem round_le_intCast {q : ℚ} {n : ℤ} (hq : |q| < 2 ^ 53) (h : q ≤ n) :
    precision.round q ≤ n := by
  cases precision with
  | exact => exact h
  | binary64 => exact binary64_le_intCast hq h

theorem round_intCast {n : ℤ} (hn : |(n : ℚ)| < 2 ^ 53) : precision.round n = n :=
  le_antisymm (round_le_intCast precision hn le_rfl) (intCast_le_round precision hn le_rfl)

/-- A number of six digits in the normal range is printed as it was. -/
theorem round6_round {q : ℚ} (hsix : SixDigits q) (hq : 1 / 10 ^ 9 ≤ q) :
    round6 (precision.round q) = q := by
  have hpos : 0 < q := lt_of_lt_of_le (by norm_num) hq
  have hself : round6 q = q := (round6_eq_self_iff hpos.le).mpr hsix
  cases precision with
  | exact => exact hself
  | binary64 =>
    have hnormal : -30 ≤ Int.log 2 q := by
      rw [← Int.zpow_le_iff_le_log (by norm_num) hpos]
      refine le_trans ?_ hq
      norm_num
    obtain ⟨m, e, hlow, hhigh, hround⟩ := exists_roundPos hpos
    rw [← round6_of_pos hpos, hself] at hround
    rw [hround] at hnormal ⊢
    obtain ⟨hpositive, hsame⟩ := roundPos_binary64 hlow hhigh (le_trans (by norm_num) hnormal)
    exact (round6_of_pos hpositive).trans hsame

theorem le_two_mul_round {q : ℚ} (hq : 0 ≤ q) (hne : precision.round q ≠ 0) :
    q ≤ 2 * precision.round q := by
  cases precision with
  | exact => exact le_mul_of_one_le_left hq one_le_two
  | binary64 => exact le_two_mul_binary64 hq hne

/-- A decimal of six digits that is smaller than the rendering of a number, or at least ten times as
large, does not come back as that number. -/
theorem reread_nearest_ne {q v : ℚ} (hq : 0 ≤ q) (hv : 0 ≤ v) (hsix : SixDigits v)
    (h : (v < round6 q ∧ (v = 0 ∨ 1 / 10 ^ 9 ≤ v)) ∨ (0 < q ∧ 10 * round6 q ≤ v)) :
    precision.reread (precision.nearest (.finite v)) ≠ .finite q := by
  have hself : round6 v = v := (round6_eq_self_iff hv).mpr hsix
  have hnearest : precision.nearest (.finite v) = precision.reread (.finite v) := by
    rw [Precision.nearest, Precision.reread, hself]
  rw [hnearest, reread_reread, Precision.reread, hself]
  rintro heq
  obtain rfl := Double.finite.inj heq
  rcases h with ⟨hlt, rfl | hnormal⟩ | ⟨hpos, hge⟩
  · have hzero : precision.round 0 = 0 := by
      exact_mod_cast round_intCast precision (n := 0) (by norm_num)
    rw [hzero, round6_zero] at hlt
    exact lt_irrefl 0 hlt
  · exact hlt.ne (round6_round precision hsix hnormal).symm
  · have hround := le_two_mul_round precision hv hpos.ne'
    have hsixth := le_two_mul_round6 hpos
    linarith

end CNumber
