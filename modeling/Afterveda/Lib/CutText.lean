import Afterveda.Lib.RealText

/-!
# Texts cut short

What is read of the beginning of a printed value.  A number whose last characters are missing is
read as another number: one without its last digits is smaller (`strtol_cut_toDecimal`,
`cutDecimal_fixedText`), one without the end of a negative exponent much larger
(`readDecimal_cut_scientific`); `strtod_cut_formatDouble` puts the two forms together.  A quoted
text is not read before its closing quote (`readQuoted_cut`).
-/

namespace CText

open CNumber

/-! ### Integers -/

/-- A numeral without its last digits stands for a smaller number, unless for zero. -/
theorem digitsValue_lt_of_pos {p rest : Bytes} (hrest : rest ≠ [])
    (hpos : 0 < digitsValue (p ++ rest)) : digitsValue p < digitsValue (p ++ rest) := by
  have hten : 10 ≤ 10 ^ rest.length :=
    Nat.le_self_pow (List.length_pos_iff.mpr hrest).ne' 10
  rw [digitsValue_append] at hpos ⊢
  by_contra! hle
  nlinarith

/-- A printed number has no zero in front. -/
theorem digitsValue_lt_of_append {n : ℕ} {p rest : Bytes} (h : p ++ rest = natDecimal n)
    (hp : p ≠ []) (hrest : rest ≠ []) : digitsValue p < n := by
  have hvalue := digitsValue_natDecimal n
  rw [← h] at hvalue
  rcases Nat.eq_zero_or_pos n with hzero | hpos
  · -- the numeral of zero is a single digit
    have hlength := congrArg List.length h
    have hone : (natDecimal 0).length = 1 := by decide
    rw [hzero, hone, List.length_append] at hlength
    have := List.length_pos_iff.mpr hp
    have := List.length_pos_iff.mpr hrest
    omega
  · have hlt := digitsValue_lt_of_pos hrest (hvalue ▸ hpos)
    rwa [hvalue] at hlt

/-- Some of the digits of a printed integer, behind its sign, are read as another integer. -/
theorem strtol_cut_digits {n : ℤ} (hn : IsInt32 n) {negative : Bool}
    (hneg : negative = true ↔ n < 0) {ds rest : Bytes} (h : ds ++ rest = natDecimal n.natAbs)
    (hds : ds ≠ []) (hrest : rest ≠ []) :
    ∃ v, strtol ((if negative then [45] else []) ++ ds) = some (v, []) ∧ IsInt32 v ∧ v ≠ n := by
  unfold IsInt32 at hn ⊢
  have hlt := digitsValue_lt_of_append h hds hrest
  have hall : ∀ c ∈ ds, isDigit c = true := fun c hc =>
    isDigit_of_mem_natDecimal (h ▸ List.mem_append_left rest hc)
  obtain ⟨c, ds, rfl⟩ := List.exists_cons_of_ne_nil hds
  have hread := @strtol_digits c ds [] hall (by rintro c ⟨⟩) negative
  rw [List.append_nil] at hread
  refine ⟨_, hread, ?_⟩
  cases negative with
  | true =>
    have := hneg.mp rfl
    rw [if_pos rfl, clampLong_of_mem (by omega)]
    omega
  | false =>
    have : ¬n < 0 := fun h => Bool.false_ne_true (hneg.mpr h)
    rw [if_neg Bool.false_ne_true, clampLong_of_mem (by omega)]
    omega

/-- The beginning of a printed integer is a sign alone, or stands for another integer. -/
theorem strtol_cut_toDecimal {n : ℤ} (hn : IsInt32 n) {p rest : Bytes}
    (h : p ++ rest = toDecimal n) (hp : p ≠ []) (hrest : rest ≠ []) :
    (n < 0 ∧ strtol p = none) ∨ ∃ v, strtol p = some (v, []) ∧ IsInt32 v ∧ v ≠ n := by
  rw [toDecimal] at h
  split_ifs at h with hneg
  · obtain ⟨c, ds, rfl⟩ := List.exists_cons_of_ne_nil hp
    obtain ⟨rfl, hds⟩ := List.cons.inj h
    by_cases hempty : ds = []
    · subst hempty
      exact Or.inl ⟨hneg, by decide⟩
    · exact Or.inr (strtol_cut_digits hn (iff_of_true rfl hneg) hds hempty hrest)
  · exact Or.inr (strtol_cut_digits hn (iff_of_false Bool.false_ne_true hneg) h hp hrest)

/-! ### Fixed form -/

/-- What more digits after the point add to a number. -/
theorem digitsValue_fraction_append (whole fraction rest : Bytes) :
    (digitsValue (whole ++ (fraction ++ rest)) : ℚ) / 10 ^ (fraction ++ rest).length =
      digitsValue (whole ++ fraction) / 10 ^ fraction.length +
        digitsValue rest / 10 ^ (fraction ++ rest).length := by
  rw [← List.append_assoc, digitsValue_append (whole ++ fraction), List.length_append, pow_add]
  push_cast
  field_simp

/-- A digit other than zero at the end makes the number positive. -/
theorem digitsValue_pos {ds : Bytes} (hne : ds ≠ []) (hdigit : ∀ c ∈ ds, isDigit c = true)
    (hlast : ds.getLast hne ≠ 48) : 0 < digitsValue ds := by
  have hmem := hdigit _ (List.getLast_mem hne)
  simp only [isDigit, Bool.and_eq_true, decide_eq_true_eq, UInt8.le_iff_toNat_le] at hmem
  have hvalue : 0 < digitsValue [ds.getLast hne] := by
    have hne48 : (ds.getLast hne).toNat ≠ 48 := fun h => hlast (UInt8.toNat_inj.mp h)
    simp [digitsValue, digitValue]
    have : (48 : UInt8).toNat = 48 := rfl
    omega
  rw [← List.dropLast_append_getLast hne, digitsValue_append]
  omega

theorem readDecimal_whole {whole : Bytes} (hne : whole ≠ []) (h : ∀ c ∈ whole, isDigit c = true) :
    readDecimal whole = some ((digitsValue whole : ℚ), []) := by
  have hread :=
    @readDecimal_digits whole [] [] hne h (fun c hc => nomatch hc) (fun c hc => nomatch hc)
    (fun c hc => nomatch hc)
  simpa [readExponent] using hread

theorem readDecimal_point {whole : Bytes} (hne : whole ≠ []) (h : ∀ c ∈ whole, isDigit c = true) :
    readDecimal (whole ++ [46]) = some ((digitsValue whole : ℚ), []) := by
  have hhead : NoDigitHead ([46] : Bytes) := by decide
  obtain ⟨htake, hdrop⟩ := takeWhile_digits h hhead
  simp [readDecimal, htake, hdrop, readFraction, hne, readExponent]

/-- The digits before the point. -/
theorem isDigit_whole {m k : ℕ} : ∀ c ∈ natDecimal (m / 10 ^ k), isDigit c = true :=
  fun _ hc => isDigit_of_mem_natDecimal hc

/-- What some of the digits after the point stand for: it is no smaller than the digits before the
point, and smaller than the whole number unless all digits are there. -/
theorem digitsValue_cut {m k : ℕ} {bs ds : Bytes}
    (h : (padded k (m % 10 ^ k)).rdropWhile (· = 48) = bs ++ ds) :
    (digitsValue (natDecimal (m / 10 ^ k) ++ bs) : ℚ) / 10 ^ bs.length ≤ m / 10 ^ k ∧
      (ds ≠ [] →
        (digitsValue (natDecimal (m / 10 ^ k) ++ bs) : ℚ) / 10 ^ bs.length < m / 10 ^ k) ∧
      ((m / 10 ^ k : ℕ) : ℚ) ≤
        (digitsValue (natDecimal (m / 10 ^ k) ++ bs) : ℚ) / 10 ^ bs.length ∧ bs.length ≤ k := by
  have hdigit : ∀ c ∈ bs ++ ds, isDigit c = true := by
    rw [← h]
    exact fun c hc => isDigit_of_mem_padded ((List.rdropWhile_prefix _ _).subset hc)
  have hlast : ∀ hds : ds ≠ [], ds.getLast hds ≠ 48 := by
    intro hds
    have hne : (padded k (m % 10 ^ k)).rdropWhile (· = 48) ≠ [] := by simp [h, hds]
    have hnot := List.rdropWhile_last_not (· = (48 : UInt8)) (padded k (m % 10 ^ k)) hne
    simpa [h, List.getLast_append_of_ne_nil _ hds] using hnot
  have hlength := (List.rdropWhile_prefix (· = (48 : UInt8)) (padded k (m % 10 ^ k))).length_le
  have hvalue := digitsValue_fixedText m k
  rw [h] at hvalue hlength
  rw [List.length_append, length_padded] at hlength
  rw [← hvalue]
  rw [digitsValue_fraction_append]
  refine ⟨le_add_of_nonneg_right (by positivity), fun hds => ?_, ?_, by omega⟩
  · have hpos :=
      digitsValue_pos hds (fun c hc => hdigit c (List.mem_append_right bs hc)) (hlast hds)
    exact lt_add_of_pos_right _ (by positivity)
  · rw [le_div_iff₀ (by positivity), digitsValue_append, digitsValue_natDecimal]
    exact_mod_cast Nat.le_add_right _ _

/-- Some of the digits before the point stand for a smaller number; there are no such when the point
stands behind the first digit. -/
theorem digitsValue_cut_whole {m k : ℕ} {p as : Bytes} (h : p ++ as = natDecimal (m / 10 ^ k))
    (hp : p ≠ []) (has : as ≠ []) : (digitsValue p : ℚ) < m / 10 ^ k ∧ 10 ^ (k + 1) ≤ m := by
  constructor
  · have hlt := (Nat.lt_div_iff_mul_lt (by positivity : 0 < 10 ^ k)).mp
      (digitsValue_lt_of_append h hp has)
    rw [lt_div_iff₀ (by positivity)]
    exact_mod_cast (by omega : digitsValue p * 10 ^ k < m)
  · by_contra! hm
    have hten : m / 10 ^ k < 10 := Nat.div_lt_of_lt_mul (by rwa [← pow_succ])
    have hone : (natDecimal (m / 10 ^ k)).length = 1 := by
      generalize m / 10 ^ k = d at hten
      interval_cases d <;> decide
    rw [← h, List.length_append] at hone
    have := List.length_pos_iff.mpr hp
    have := List.length_pos_iff.mpr has
    omega

/-- The text is read as a number of at most `k` places after the point: it is no larger than
`m / 10 ^ k`, smaller where a `rest` is missing, and no smaller than the digits before the point
where there is only one. -/
def CutDecimal (m k : ℕ) (p rest : Bytes) : Prop :=
  ∃ n j : ℕ, readDecimal p = some ((n : ℚ) / 10 ^ j, []) ∧ j ≤ k ∧
    (n : ℚ) / 10 ^ j ≤ m / 10 ^ k ∧ (rest ≠ [] → (n : ℚ) / 10 ^ j < m / 10 ^ k) ∧
    (m < 10 ^ (k + 1) → ((m / 10 ^ k : ℕ) : ℚ) ≤ n / 10 ^ j)

/-- All digits before the point, and nothing behind them. -/
theorem cutDecimal_whole {m k : ℕ} {rest : Bytes} (h : rest = fractionText k (m % 10 ^ k)) :
    CutDecimal m k (natDecimal (m / 10 ^ k)) rest := by
  obtain ⟨hle, hlt, hlow, hj⟩ := @digitsValue_cut m k [] _ rfl
  rw [List.append_nil] at hle hlt hlow
  refine ⟨digitsValue (natDecimal (m / 10 ^ k)), 0, ?_, hj, hle, fun hrest => hlt fun hnil => ?_,
    fun _ => hlow⟩
  · rw [readDecimal_whole (natDecimal_ne_nil _) isDigit_whole, pow_zero, div_one]
  · exact hrest (h.trans (if_pos hnil))

/-- Some of the digits before the point. -/
theorem cutDecimal_digits {m k : ℕ} {p as rest : Bytes} (h : p ++ as = natDecimal (m / 10 ^ k))
    (hp : p ≠ []) (has : as ≠ []) : CutDecimal m k p rest := by
  obtain ⟨hlt, hm⟩ := digitsValue_cut_whole h hp has
  have hdigit : ∀ c ∈ p, isDigit c = true :=
    fun c hc => isDigit_of_mem_natDecimal (h ▸ List.mem_append_left as hc)
  rw [← div_one ((digitsValue p : ℕ) : ℚ), ← pow_zero 10] at hlt
  refine ⟨digitsValue p, 0, ?_, Nat.zero_le k, hlt.le, fun _ => hlt, fun h => by omega⟩
  rw [readDecimal_whole hp hdigit, pow_zero, div_one]

/-- The digits before the point, the point, and some of the digits after it. -/
theorem cutDecimal_fraction {m k : ℕ} {bs rest : Bytes}
    (h : (padded k (m % 10 ^ k)).rdropWhile (· = 48) = bs ++ rest) :
    CutDecimal m k (natDecimal (m / 10 ^ k) ++ 46 :: bs) rest := by
  have hwhole : natDecimal (m / 10 ^ k) ≠ [] := natDecimal_ne_nil _
  obtain ⟨hle, hlt, hlow, hj⟩ := digitsValue_cut h
  refine ⟨_, bs.length, ?_, hj, hle, hlt, fun _ => hlow⟩
  by_cases hempty : bs = []
  · rw [hempty, readDecimal_point hwhole isDigit_whole, List.append_nil, List.length_nil, pow_zero,
      div_one]
  · have hdigit : ∀ c ∈ bs, isDigit c = true := by
      intro c hc
      have hmem : c ∈ (padded k (m % 10 ^ k)).rdropWhile (· = 48) := by
        rw [h]
        exact List.mem_append_left rest hc
      exact isDigit_of_mem_padded ((List.rdropWhile_prefix _ _).subset hmem)
    have hread := @readDecimal_digits _ bs [] hwhole isDigit_whole hdigit
      (by rintro c ⟨⟩) (by rintro c ⟨⟩)
    rw [if_neg hempty, List.append_nil] at hread
    rw [hread, readExponent, zpow_zero, mul_one]

/-- The beginning of a fixed text. -/
theorem cutDecimal_fixedText {m k : ℕ} {p rest : Bytes} (hp : p ++ rest = fixedText m k)
    (hne : p ≠ []) : CutDecimal m k p rest := by
  rcases List.append_eq_append_iff.mp hp with ⟨as, hsplit, hrest⟩ | ⟨bs, rfl, hfraction⟩
  · by_cases has : as = []
    · rw [has, List.append_nil] at hsplit
      rw [has, List.nil_append] at hrest
      exact hsplit ▸ cutDecimal_whole hrest
    · exact cutDecimal_digits hsplit.symm hne has
  · obtain _ | ⟨b, bs⟩ := bs
    · rw [List.append_nil]
      exact cutDecimal_whole hfraction.symm
    · rw [fractionText] at hfraction
      split_ifs at hfraction
      · cases hfraction
      · obtain ⟨rfl, hsplit⟩ := List.cons.inj hfraction
        exact cutDecimal_fraction hsplit

/-! ### Scientific form -/

/-- The beginning of a negative exponent is read as a larger one, but as no positive one. -/
theorem readExponent_cut {e : ℤ} (he : e < 0) {x rest : Bytes} (h : x ++ rest = exponentText e) :
    (rest ≠ [] → e + 1 ≤ (readExponent 101 x).1) ∧ (readExponent 101 x).1 ≤ 0 ∧
      ∀ c ∈ x.head?, c = 101 := by
  obtain ⟨ds, -, hds, hvalue, htext⟩ := exists_exponentText e
  rw [htext, if_pos he] at h
  obtain _ | ⟨a, _ | ⟨b, x⟩⟩ := x
  · exact ⟨fun _ => he, le_refl (0 : ℤ), nofun⟩
  · obtain ⟨rfl, -⟩ := List.cons.inj h
    exact ⟨fun _ => he, le_refl (0 : ℤ), by simp⟩
  · obtain ⟨rfl, htail⟩ := List.cons.inj h
    obtain ⟨rfl, hsplit : x ++ rest = ds⟩ := List.cons.inj htail
    have hall : x.takeWhile isDigit = x :=
      List.takeWhile_eq_self_iff.mpr fun c hc => hds c (hsplit ▸ List.mem_append_left rest hc)
    have hsign : readSign (45 :: x) = (true, x) := rfl
    have hlower : toLower 101 = 101 := by decide
    refine ⟨fun hrest => ?_, ?_, by simp⟩
    · simp only [readExponent, hsign, hlower, hall, ↓reduceIte, true_and]
      split_ifs with hne
      · have hlt : digitsValue x < digitsValue ds := by
          rw [← hsplit]
          refine digitsValue_lt_of_pos hrest ?_
          rw [hsplit, hvalue]
          omega
        show e + 1 ≤ -(digitsValue x : ℤ)
        omega
      · show e + 1 ≤ 0
        omega
    · simp only [readExponent, hsign, ↓reduceIte]
      split_ifs
      · exact neg_nonpos.mpr (Int.natCast_nonneg (digitsValue (x.takeWhile isDigit)))
      · exact le_refl (0 : ℤ)

/-- Fewer digits of a number of six digits are no more than six digits. -/
theorem sixDigits_of_le {n j m k : ℕ} (hj : j ≤ k) (hm : m < 10 ^ 6)
    (h : (n : ℚ) / 10 ^ j ≤ m / 10 ^ k) : SixDigits ((n : ℚ) / 10 ^ j) := by
  refine ⟨n, -j, ?_, by rw [zpow_neg, zpow_natCast, div_eq_mul_inv]⟩
  have hpow : (10 : ℚ) ^ j ≤ 10 ^ k := pow_le_pow_right₀ (by norm_num) hj
  rw [div_le_div_iff₀ (by positivity) (by positivity)] at h
  have hle : (n : ℚ) * 10 ^ k ≤ m * 10 ^ k := h.trans (by gcongr)
  have : n ≤ m := by exact_mod_cast le_of_mul_le_mul_right hle (by positivity)
  omega

/-- The beginning of a small number in scientific form is read as one below ten, and at least ten
times as large. -/
theorem readDecimal_cut_scientific {m : ℕ} (hlow : 10 ^ 5 ≤ m) (hhigh : m < 10 ^ 6) {e : ℤ}
    (he : e < -4) {p rest : Bytes} (hp : p ++ rest = fixedText m 5 ++ exponentText e)
    (hne : p ≠ []) :
    ∃ v t, readDecimal p = some (v, t) ∧ 0 ≤ v ∧ v ≤ (m : ℚ) / 10 ^ 5 ∧ SixDigits v ∧
      (rest ≠ [] → (m : ℚ) / 10 ^ 5 * 10 ^ (e + 1) ≤ v) := by
  rcases List.append_eq_append_iff.mp hp with ⟨as, hsplit, -⟩ | ⟨x, rfl, hexponent⟩
  · -- a digit other than zero stands before the point
    obtain ⟨n, j, hread, hj, hle, -, hwhole⟩ := cutDecimal_fixedText hsplit.symm hne
    refine ⟨_, [], hread, by positivity, hle, sixDigits_of_le hj hhigh hle, fun _ => ?_⟩
    have hone : (1 : ℚ) ≤ (m / 10 ^ 5 : ℕ) := by
      exact_mod_cast (Nat.le_div_iff_mul_le (by positivity)).mpr (by omega)
    refine le_trans ?_ (hone.trans (hwhole hhigh))
    have hpow : (10 : ℚ) ^ (e + 1) ≤ 10 ^ (-4 : ℤ) := zpow_le_zpow_right₀ (by norm_num) (by omega)
    have hm : (m : ℚ) / 10 ^ 5 ≤ 10 := by
      rw [div_le_iff₀ (by positivity)]
      have : (m : ℚ) ≤ 10 ^ 6 := by exact_mod_cast hhigh.le
      linarith
    calc (m : ℚ) / 10 ^ 5 * 10 ^ (e + 1) ≤ 10 * 10 ^ (-4 : ℤ) := by gcongr
      _ ≤ 1 := by norm_num
  · obtain ⟨hlarger, hnonpos, hhead⟩ := readExponent_cut (by omega) hexponent.symm
    have hread := readDecimal_fixedText m 5 (t := x)
      (fun c hc => by rw [hhead c hc]; decide) (fun c hc => by rw [hhead c hc]; decide)
    refine ⟨_, _, hread, by positivity, ?_, ⟨m, (readExponent 101 x).1 - 5, hhigh, ?_⟩,
      fun hrest => ?_⟩
    · exact mul_le_of_le_one_right (by positivity) (zpow_le_one_of_nonpos₀ (by norm_num) hnonpos)
    · rw [div_mul_eq_mul_div, mul_div_assoc, ← zpow_natCast, ← zpow_sub₀ (by norm_num)]
      rfl
    · have hpow := zpow_le_zpow_right₀ (by norm_num : (1 : ℚ) ≤ 10) (hlarger hrest)
      gcongr

/-! ### Printed numbers -/

/-- A number of six digits between 0 and 100; and where a `rest` of the text is missing, another
number than the one that was printed: a smaller one that is not too small, or one at least ten times
as large. -/
def CutValue (q : ℚ) (rest : Bytes) (v : ℚ) : Prop :=
  0 ≤ v ∧ v ≤ 100 ∧ SixDigits v ∧
    (rest ≠ [] → (v < round6 q ∧ (v = 0 ∨ 1 / 10 ^ 9 ≤ v)) ∨ (0 < q ∧ 10 * round6 q ≤ v))

/-- In scientific form the missing end leaves a larger number. -/
theorem cutValue_scientific {q : ℚ} (hq : 0 < q) {m : ℕ} (hlow : 10 ^ 5 ≤ m) (hhigh : m < 10 ^ 6)
    {e : ℤ} (hround : round6 q = m * 10 ^ (e - 5)) (he : e < -4) {p rest : Bytes}
    (hp : p ++ rest = fixedText m 5 ++ exponentText e) (hne : p ≠ []) :
    ∃ v t, readDecimal p = some (v, t) ∧ CutValue q rest v := by
  obtain ⟨v, t, hread, hv0, hv, hsix, hlarge⟩ := readDecimal_cut_scientific hlow hhigh he hp hne
  refine ⟨v, t, hread, hv0, hv.trans ?_, hsix, fun hrest => Or.inr ⟨hq, ?_⟩⟩
  · have hm : (m : ℚ) ≤ 10 ^ 6 := by exact_mod_cast hhigh.le
    linarith
  · refine le_trans (le_of_eq ?_) (hlarge hrest)
    rw [hround, show e - 5 = e + 1 - 1 - 5 by ring, zpow_sub₀ (by norm_num),
      zpow_sub₀ (by norm_num)]
    norm_num
    ring

/-- In fixed form it leaves a smaller one. -/
theorem cutValue_fixedText {q : ℚ} {m : ℕ} (hhigh : m < 10 ^ 6) {e : ℤ} (hlow : -4 ≤ e) (he : e ≤ 5)
    (hround : round6 q = m * 10 ^ (e - 5)) (hround100 : round6 q ≤ 100) {p rest : Bytes}
    (hp : p ++ rest = fixedText m (5 - e).toNat) (hne : p ≠ []) :
    ∃ v t, readDecimal p = some (v, t) ∧ CutValue q rest v := by
  have hk : ((5 - e).toNat : ℤ) = 5 - e := by omega
  have hvalue : (m : ℚ) / 10 ^ (5 - e).toNat = round6 q := by
    rw [hround, div_eq_mul_inv, ← zpow_natCast, hk, ← zpow_neg, neg_sub]
  obtain ⟨n, j, hread, hj, hle, hlt, -⟩ := cutDecimal_fixedText hp hne
  have hsix := sixDigits_of_le hj hhigh hle
  rw [hvalue] at hle hlt
  refine ⟨_, [], hread, by positivity, hle.trans hround100, hsix,
    fun hrest => Or.inl ⟨hlt hrest, ?_⟩⟩
  -- at most nine digits stand after the point
  rcases Nat.eq_zero_or_pos n with rfl | hn
  · left
    simp
  · right
    have hone : (1 : ℚ) ≤ n := by exact_mod_cast hn
    have hpow : (10 : ℚ) ^ j ≤ 10 ^ 9 := pow_le_pow_right₀ (by norm_num) (by omega)
    gcongr

/-- The beginning of a printed number between 0 and 100 is read as a decimal. -/
theorem readDecimal_cut_formatDouble {q : ℚ} (h0 : 0 ≤ q) (h100 : q ≤ 100) {c : UInt8}
    {u rest : Bytes} (hp : c :: u ++ rest = formatDouble (.finite q)) :
    isDigit c = true ∧ ∃ v t, readDecimal (c :: u) = some (v, t) ∧ CutValue q rest v := by
  rcases h0.eq_or_lt with rfl | hq
  · have hzero : formatDouble (.finite 0) = [48] := by decide +kernel
    rw [hzero] at hp
    obtain ⟨rfl, htail⟩ := List.cons.inj hp
    obtain ⟨rfl, rfl⟩ := List.append_eq_nil_iff.mp htail
    exact ⟨by decide, 0, [], by decide +kernel, le_rfl, by norm_num,
      ⟨0, 0, by norm_num, by norm_num⟩, fun h => absurd rfl h⟩
  · have hround : round6 q ≤ 100 := by
      have h := roundPos_le (k := 2) hq (by norm_num; exact h100)
      rw [← round6_of_pos hq] at h
      norm_num at h
      exact h
    obtain ⟨hlow, hhigh⟩ := sixDigits_mem hq
    rw [formatDouble, if_neg hq.ne', if_neg (by linarith)] at hp
    obtain ⟨d, t, hcons, hd⟩ := formatDigits_cons (sixDigits q).1 (sixDigits q).2
    obtain rfl : c = d := by
      rw [hcons] at hp
      exact (List.cons.inj hp).1
    refine ⟨hd, ?_⟩
    have hvalue : round6 q = (sixDigits q).1 * 10 ^ ((sixDigits q).2 - 5) := round6_of_pos hq
    generalize sixDigits q = digits at hp hvalue hlow hhigh
    obtain ⟨m, e⟩ := digits
    dsimp only at hp hvalue hlow hhigh
    have he : e < 3 := by
      by_contra! hge
      have h3 : (10 : ℚ) ^ (-2 : ℤ) ≤ 10 ^ (e - 5) := zpow_le_zpow_right₀ (by norm_num) (by omega)
      have hm : (10 : ℚ) ^ 5 ≤ m := by exact_mod_cast hlow
      have := mul_le_mul hm h3 (by positivity) (by positivity)
      norm_num at this
      linarith
    unfold formatDigits at hp
    split_ifs at hp with hform
    · exact cutValue_scientific hq hlow hhigh hvalue (by omega) hp (List.cons_ne_nil c u)
    · exact cutValue_fixedText hhigh (by omega) (by omega) hvalue hround hp (List.cons_ne_nil c u)

/-- The beginning of a printed number between 0 and 100 is read as such a number of six digits, and
as another one. -/
theorem strtod_cut_formatDouble {q : ℚ} (h0 : 0 ≤ q) (h100 : q ≤ 100) {p rest : Bytes}
    (hp : p ++ rest = formatDouble (.finite q)) (hne : p ≠ []) :
    ∃ v t, strtod p = some (.finite v, t) ∧ CutValue q rest v := by
  obtain ⟨c, u, rfl⟩ := List.exists_cons_of_ne_nil hne
  obtain ⟨hc, v, t, hread, hv⟩ := readDecimal_cut_formatDouble h0 h100 hp
  have hsecond : ∀ d ∈ u.head?, toLower d ≠ 120 := by
    intro d hd
    have hmem : d ∈ formatDouble (.finite q) := by
      rw [← hp]
      exact List.mem_append_left _ (List.mem_cons_of_mem _ (List.mem_of_mem_head? hd))
    rcases mem_formatDouble hmem with h | h
    · exact toLower_ne_of_isDigit h (by decide)
    · have hne : ∀ d ∈ bytes "+-.einfa", toLower d ≠ 120 :=
        List.all_iff_forall_prop.mp (by decide)
      exact hne d h
  have hreal := (readReal_decimal (toLower_ne_of_isDigit hc (by decide))
    (toLower_ne_of_isDigit hc (by decide)) hsecond).2.2.2
  have hfinite : toDouble v = .finite v :=
    toDouble_of_lt (by rw [abs_of_nonneg hv.1]; exact hv.2.1.trans_lt hundred_lt_doubleBound)
  rw [hread, Option.map_some] at hreal
  dsimp only at hreal
  rw [hfinite] at hreal
  exact ⟨v, t, strtod_unsigned hc hreal false, hv⟩

/-! ### Quoted texts -/

/-- A quoted text without its closing quote is not read. -/
theorem readQuoted_cut {v u rest : Bytes} (h : u ++ rest = backslashEscape v) :
    readQuoted u = none := by
  induction v generalizing u with
  | nil =>
    obtain ⟨rfl, -⟩ := List.append_eq_nil_iff.mp h
    rfl
  | cons c v ih =>
    rw [backslashEscape_cons] at h
    split_ifs at h with hc
    · obtain _ | ⟨a, _ | ⟨b, u⟩⟩ := u
      · rfl
      · obtain ⟨rfl, -⟩ := List.cons.inj h
        rfl
      · obtain ⟨rfl, htail⟩ := List.cons.inj h
        obtain ⟨-, htail⟩ := List.cons.inj htail
        simp [readQuoted, ih htail]
    · obtain _ | ⟨a, u⟩ := u
      · rfl
      · obtain ⟨rfl, htail⟩ := List.cons.inj h
        rw [not_or] at hc
        rw [readQuoted_cons hc.1 hc.2, ih htail, Option.map_none]

end CText
