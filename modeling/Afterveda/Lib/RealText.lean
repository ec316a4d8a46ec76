import Afterveda.Lib.CNumber
import Afterveda.Lib.Text
import Mathlib.Algebra.Order.Field.Power
import Mathlib.Data.Int.Log
import Mathlib.Data.List.DropRight
import Mathlib.Tactic.FieldSimp
import Mathlib.Tactic.NormNum

/-!
# Real numbers as text

`formatDouble` is how a C++ stream prints a `double` by default (`%g`, six significant digits) and
`strtod` is `std::strtod` in the C locale.  `strtod_formatDouble` says what survives a trip through
text: a printed value is read back as `round6` of it, its rounding to six significant digits, and
`round6_round6` that a second trip changes nothing more.
-/

namespace CText

open CNumber

/-! ### Rounding to six significant digits -/

/-- The nearest integer, ties to even. -/
def roundHalfEven (q : ℚ) : ℤ :=
  let n := ⌊q⌋
  if q - n < 1 / 2 then n
  else if 1 / 2 < q - n then n + 1
  else if n % 2 = 0 then n
  else n + 1

/-- Six significant digits and the decimal exponent of the first: `(m, e)` stands for
`m * 10 ^ (e - 5)`. -/
def sixDigits (q : ℚ) : ℕ × ℤ :=
  let e := Int.log 10 q
  let m := (roundHalfEven (q * 10 ^ (5 - e))).toNat
  -- 999999.5 and above carry into the next power of ten
  if m = 10 ^ 6 then (10 ^ 5, e + 1) else (m, e)

/-- A positive value rounded to six significant digits. -/
def roundPos (q : ℚ) : ℚ := (sixDigits q).1 * 10 ^ ((sixDigits q).2 - 5)

/-- Rounding to six significant digits. -/
def round6 (q : ℚ) : ℚ := if q = 0 then 0 else if q < 0 then -roundPos (-q) else roundPos q

/-! ### Printing -/

/-- The last `k` digits of a numeral. -/
def padded : ℕ → ℕ → Bytes
  | 0, _ => []
  | k + 1, n => padded k (n / 10) ++ [digitByte (n % 10)]

/-- The digits after the point, without the zeros at the end, and the point if any is left. -/
def fractionText (k n : ℕ) : Bytes :=
  let ds := (padded k n).rdropWhile (· = 48)
  if ds = [] then [] else 46 :: ds

/-- The decimal `m / 10 ^ k`. -/
def fixedText (m k : ℕ) : Bytes := natDecimal (m / 10 ^ k) ++ fractionText k (m % 10 ^ k)

/-- The exponent of a number in scientific form: a sign and at least two digits. -/
def exponentText (e : ℤ) : Bytes :=
  101 :: (if e < 0 then 45 else 43) ::
    if e.natAbs < 100 then padded 2 e.natAbs else natDecimal e.natAbs

/-- `%g`: the shorter of the fixed and the scientific form. -/
def formatDigits (m : ℕ) (e : ℤ) : Bytes :=
  if e < -4 ∨ 6 ≤ e then fixedText m 5 ++ exponentText e else fixedText m (5 - e).toNat

/-- `out << value` for a `double`. -/
def formatDouble : Double → Bytes
  | .finite q =>
    if q = 0 then [48]
    else if q < 0 then 45 :: formatDigits (sixDigits (-q)).1 (sixDigits (-q)).2
    else formatDigits (sixDigits q).1 (sixDigits q).2
  | .inf negative => if negative then bytes "-inf" else bytes "inf"
  | .nan => bytes "nan"

/-! ### Reading -/

/-- The bytes in lower case. -/
def toLower (c : UInt8) : UInt8 := if 65 ≤ c && c ≤ 90 then c + 32 else c

/-- The text after `word`, in any case. -/
def dropWord (word s : Bytes) : Option Bytes :=
  if (s.take word.length).map toLower = word then some (s.drop word.length) else none

/-- A decimal exponent after `mark` (given in lower case), or no exponent at all. -/
def readExponent (mark : UInt8) (s : Bytes) : ℤ × Bytes :=
  match s with
  | [] => (0, [])
  | c :: t =>
    let (negative, u) := readSign t
    if toLower c = mark ∧ u.takeWhile isDigit ≠ [] then
      let n : ℤ := digitsValue (u.takeWhile isDigit)
      (if negative then -n else n, u.dropWhile isDigit)
    else (0, s)

/-- The digits after a point. -/
def readFraction (digit : UInt8 → Bool) (s : Bytes) : Bytes × Bytes :=
  match s with
  | 46 :: t => (t.takeWhile digit, t.dropWhile digit)
  | _ => ([], s)

/-- Digits with an optional point and exponent. -/
def readDecimal (s : Bytes) : Option (ℚ × Bytes) :=
  let whole := s.takeWhile isDigit
  let (fraction, t) := readFraction isDigit (s.dropWhile isDigit)
  if whole = [] ∧ fraction = [] then none
  else
    let (e, u) := readExponent 101 t
    some (digitsValue (whole ++ fraction) / 10 ^ fraction.length * 10 ^ e, u)

def isHexDigit (c : UInt8) : Bool := isDigit c || (97 ≤ toLower c && toLower c ≤ 102)

/-- The value of a hexadecimal digit sequence. -/
def hexValue (ds : Bytes) : ℕ :=
  ds.foldl (fun n c => 16 * n + if isDigit c then c.toNat - 48 else (toLower c).toNat - 87) 0

/-- Hexadecimal digits with an optional point and binary exponent, after the `0x`. -/
def readHex (s : Bytes) : Option (ℚ × Bytes) :=
  let whole := s.takeWhile isHexDigit
  let (fraction, t) := readFraction isHexDigit (s.dropWhile isHexDigit)
  if whole = [] ∧ fraction = [] then none
  else
    let (e, u) := readExponent 112 t
    some (hexValue (whole ++ fraction) / 16 ^ fraction.length * 2 ^ e, u)

/-- The `nan(chars)` form: the text after the closing parenthesis, if there is one. -/
def dropNanChars (s : Bytes) : Bytes :=
  match s with
  | 40 :: t =>
    match t.dropWhile fun c => isDigit c || (97 ≤ toLower c && toLower c ≤ 122) || c = 95 with
    | 41 :: u => u
    | _ => s
  | _ => s

/-- The magnitude from which a number is rounded to an infinity. -/
def doubleBound : ℚ := 2 ^ 1024 - 2 ^ 970

/-- A magnitude too large for a `double` becomes an infinity. -/
def toDouble (q : ℚ) : Double := if doubleBound ≤ |q| then .inf (q < 0) else .finite q

/-- An unsigned value, as `strtod` reads it. -/
def readReal (s : Bytes) : Option (Double × Bytes) :=
  match dropWord (bytes "infinity") s, dropWord (bytes "inf") s, dropWord (bytes "nan") s with
  | some t, _, _ => some (.inf false, t)
  | none, some t, _ => some (.inf false, t)
  | none, none, some t => some (.nan, dropNanChars t)
  | none, none, none =>
    match (dropWord (bytes "0x") s).bind readHex with
    | some (q, t) => some (toDouble q, t)
    | none => (readDecimal s).map fun (q, t) => (toDouble q, t)

/-- `-value`. -/
def negate : Double → Double
  | .finite q => .finite (-q)
  | .inf negative => .inf !negative
  | .nan => .nan

/-- `std::strtod(s, &end)`: the value and the text from `end` on, or `none` when nothing was read
(`end == s`). -/
def strtod (s : Bytes) : Option (Double × Bytes) :=
  let (negative, s) := readSign (s.dropWhile isSpace)
  (readReal s).map fun (x, t) => (if negative then negate x else x, t)

/-- `errno == ERANGE` after `std::strtod(s, &end)`: a numeral whose value is too large for a
`double` or too small for a normal one. -/
def strtodRange (s : Bytes) : Bool :=
  let s := (readSign (s.dropWhile isSpace)).2
  if (dropWord (bytes "inf") s).isSome || (dropWord (bytes "nan") s).isSome then false
  else
    match ((dropWord (bytes "0x") s).bind readHex).or (readDecimal s) with
    | none => false
    | some (q, _) => doubleBound ≤ q || (q ≠ 0 && q < 1 / 2 ^ 1022)

/-! ### The rounding -/

theorem roundHalfEven_eq (q : ℚ) :
    roundHalfEven q = ⌊q⌋ ∨ roundHalfEven q = ⌊q⌋ + 1 ∧ (⌊q⌋ : ℚ) < q := by
  unfold roundHalfEven
  dsimp only
  split_ifs with h1 h2 h3
  · exact Or.inl rfl
  · exact Or.inr ⟨rfl, by linarith⟩
  · exact Or.inl rfl
  · exact Or.inr ⟨rfl, by linarith⟩

theorem le_roundHalfEven {q : ℚ} {a : ℤ} (h : (a : ℚ) ≤ q) : a ≤ roundHalfEven q := by
  have hfloor : a ≤ ⌊q⌋ := Int.le_floor.mpr h
  rcases roundHalfEven_eq q with hr | ⟨hr, -⟩ <;> omega

theorem roundHalfEven_le {q : ℚ} {a : ℤ} (h : q ≤ a) : roundHalfEven q ≤ a := by
  have hfloor : (⌊q⌋ : ℚ) ≤ q := Int.floor_le q
  rcases roundHalfEven_eq q with hr | ⟨hr, hlt⟩
  · rw [hr]
    exact_mod_cast hfloor.trans h
  · have hlt' : ⌊q⌋ < a := by exact_mod_cast hlt.trans_le h
    omega

@[simp] theorem roundHalfEven_intCast (n : ℤ) : roundHalfEven (n : ℚ) = n :=
  le_antisymm (roundHalfEven_le le_rfl) (le_roundHalfEven le_rfl)

/-- A positive value scaled by its decimal exponent has six digits before the point. -/
theorem scaled_mem {q : ℚ} (hq : 0 < q) :
    (10 : ℚ) ^ 5 ≤ q * 10 ^ (5 - Int.log 10 q) ∧ q * 10 ^ (5 - Int.log 10 q) < 10 ^ 6 := by
  have hlow : (10 : ℚ) ^ Int.log 10 q ≤ q := by
    have h := Int.zpow_log_le_self (b := 10) (by norm_num) hq
    exact_mod_cast h
  have hhigh : q < (10 : ℚ) ^ (Int.log 10 q + 1) := by
    have h := Int.lt_zpow_succ_log_self (b := 10) (by norm_num) q
    exact_mod_cast h
  have hpos : (0 : ℚ) < 10 ^ (5 - Int.log 10 q) := by positivity
  constructor
  · calc (10 : ℚ) ^ 5 = 10 ^ Int.log 10 q * 10 ^ (5 - Int.log 10 q) := by
          rw [← zpow_add₀ (by norm_num)]; norm_num
      _ ≤ q * 10 ^ (5 - Int.log 10 q) := by gcongr
  · calc q * 10 ^ (5 - Int.log 10 q)
        < 10 ^ (Int.log 10 q + 1) * 10 ^ (5 - Int.log 10 q) := by gcongr
      _ = 10 ^ 6 := by
          rw [← zpow_add₀ (by norm_num)]
          have he : Int.log 10 q + 1 + (5 - Int.log 10 q) = 6 := by ring
          rw [he]
          norm_num

theorem sixDigits_mem {q : ℚ} (hq : 0 < q) :
    10 ^ 5 ≤ (sixDigits q).1 ∧ (sixDigits q).1 < 10 ^ 6 := by
  obtain ⟨hlow, hhigh⟩ := scaled_mem hq
  have hlow' : (10 : ℤ) ^ 5 ≤ roundHalfEven (q * 10 ^ (5 - Int.log 10 q)) :=
    le_roundHalfEven (by exact_mod_cast hlow)
  have hhigh' : roundHalfEven (q * 10 ^ (5 - Int.log 10 q)) ≤ 10 ^ 6 :=
    roundHalfEven_le (by exact_mod_cast hhigh.le)
  unfold sixDigits
  dsimp only
  split_ifs with h
  · constructor <;> norm_num
  · dsimp only
    omega

theorem log_six {m : ℕ} (e : ℤ) (hlow : 10 ^ 5 ≤ m) (hhigh : m < 10 ^ 6) :
    Int.log 10 ((m : ℚ) * 10 ^ (e - 5)) = e := by
  have hlow' : (10 : ℚ) ^ 5 ≤ m := by exact_mod_cast hlow
  have hhigh' : (m : ℚ) < 10 ^ 6 := by exact_mod_cast hhigh
  have hpos : (0 : ℚ) < 10 ^ (e - 5) := by positivity
  have hm : (0 : ℚ) < m * 10 ^ (e - 5) := by positivity
  apply le_antisymm
  · have h : (m : ℚ) * 10 ^ (e - 5) < ((10 : ℕ) : ℚ) ^ (e + 1) := by
      calc (m : ℚ) * 10 ^ (e - 5) < 10 ^ 6 * 10 ^ (e - 5) := by gcongr
        _ = 10 ^ (6 : ℤ) * 10 ^ (e - 5) := by norm_num
        _ = ((10 : ℕ) : ℚ) ^ (e + 1) := by
            rw [← zpow_add₀ (by norm_num)]
            have he : 6 + (e - 5) = e + 1 := by ring
            rw [he]
            norm_num
    have := (Int.lt_zpow_iff_log_lt (by norm_num) hm).mp h
    omega
  · rw [← Int.zpow_le_iff_le_log (by norm_num) hm]
    calc ((10 : ℕ) : ℚ) ^ e = 10 ^ (5 : ℤ) * 10 ^ (e - 5) := by
          rw [← zpow_add₀ (by norm_num)]
          have he : 5 + (e - 5) = e := by ring
          rw [he]
          norm_num
      _ = 10 ^ 5 * 10 ^ (e - 5) := by norm_num
      _ ≤ m * 10 ^ (e - 5) := by gcongr

theorem sixDigits_six {m : ℕ} (e : ℤ) (hlow : 10 ^ 5 ≤ m) (hhigh : m < 10 ^ 6) :
    sixDigits ((m : ℚ) * 10 ^ (e - 5)) = (m, e) := by
  have hscale : (m : ℚ) * 10 ^ (e - 5) * 10 ^ (5 - e) = ((m : ℤ) : ℚ) := by
    rw [mul_assoc, ← zpow_add₀ (by norm_num)]
    have he : e - 5 + (5 - e) = 0 := by ring
    rw [he]
    norm_num
  unfold sixDigits
  dsimp only
  rw [log_six e hlow hhigh, hscale, roundHalfEven_intCast, Int.toNat_natCast, if_neg (by omega)]

theorem roundPos_pos {q : ℚ} (hq : 0 < q) : 0 < roundPos q := by
  obtain ⟨hlow, -⟩ := sixDigits_mem hq
  have hm : (0 : ℚ) < (sixDigits q).1 := by exact_mod_cast (by omega : 0 < (sixDigits q).1)
  unfold roundPos
  positivity

theorem roundPos_roundPos {q : ℚ} (hq : 0 < q) : roundPos (roundPos q) = roundPos q := by
  obtain ⟨hlow, hhigh⟩ := sixDigits_mem hq
  have h : sixDigits (roundPos q) = sixDigits q := sixDigits_six (sixDigits q).2 hlow hhigh
  rw [roundPos, h, roundPos]

theorem round6_of_pos {q : ℚ} (hq : 0 < q) : round6 q = roundPos q := by
  rw [round6, if_neg hq.ne', if_neg (by linarith)]

@[simp] theorem round6_zero : round6 0 = 0 := rfl

theorem round6_neg (q : ℚ) : round6 (-q) = -round6 q := by
  rcases lt_trichotomy q 0 with h | rfl | h
  · rw [round6_of_pos (by linarith : 0 < -q), round6, if_neg h.ne, if_pos h, neg_neg]
  · simp
  · rw [round6_of_pos h, round6, if_neg (by linarith), if_pos (by linarith), neg_neg]

/-- A value printed and read twice is the value printed and read once. -/
theorem round6_round6 (q : ℚ) : round6 (round6 q) = round6 q := by
  have hpos : ∀ q : ℚ, 0 < q → round6 (round6 q) = round6 q := by
    intro q hq
    rw [round6_of_pos hq, round6_of_pos (roundPos_pos hq), roundPos_roundPos hq]
  rcases lt_trichotomy q 0 with h | rfl | h
  · have hneg := hpos (-q) (by linarith)
    rw [round6_neg, round6_neg] at hneg
    exact neg_injective hneg
  · rfl
  · exact hpos q h

theorem tenPow_five (k : ℤ) : ((10 ^ 5 : ℕ) : ℚ) * 10 ^ (k - 5) = 10 ^ k := by
  calc ((10 ^ 5 : ℕ) : ℚ) * 10 ^ (k - 5) = 10 ^ (5 : ℤ) * 10 ^ (k - 5) := by norm_num
    _ = 10 ^ (5 + (k - 5)) := by rw [zpow_add₀ (by norm_num)]
    _ = 10 ^ k := by congr 1; ring

/-- Rounding does not leave the range up to a power of ten. -/
theorem roundPos_le {q : ℚ} {k : ℤ} (hq : 0 < q) (h : q ≤ 10 ^ k) : roundPos q ≤ 10 ^ k := by
  obtain ⟨-, hmax⟩ := sixDigits_mem hq
  rcases h.eq_or_lt with rfl | hlt
  · -- a power of ten is its own rounding
    have hsix : sixDigits ((10 ^ 5 : ℕ) * 10 ^ (k - 5)) = (10 ^ 5, k) :=
      sixDigits_six k le_rfl (by norm_num)
    rw [tenPow_five] at hsix
    rw [roundPos, hsix, tenPow_five]
  · have hlog : Int.log 10 q < k :=
      (Int.lt_zpow_iff_log_lt (by norm_num) hq).mp (by exact_mod_cast hlt)
    -- below it, the rounding stays below, or carries up to it
    have hexp : (sixDigits q).2 + 1 ≤ k ∨ (sixDigits q).2 = k ∧ (sixDigits q).1 = 10 ^ 5 := by
      unfold sixDigits
      dsimp only
      split_ifs <;> dsimp only <;> omega
    rcases hexp with hexp | ⟨he, hm⟩
    · calc roundPos q ≤ 10 ^ (6 : ℤ) * 10 ^ ((sixDigits q).2 - 5) := by
            unfold roundPos
            gcongr
            exact_mod_cast hmax.le
        _ = 10 ^ ((sixDigits q).2 + 1) := by
            rw [← zpow_add₀ (by norm_num)]
            congr 1
            ring
        _ ≤ 10 ^ k := zpow_le_zpow_right₀ (by norm_num) hexp
    · rw [roundPos, he, hm, tenPow_five]

/-- Rounding keeps a value between zero and a power of ten there. -/
theorem round6_mem {q : ℚ} {k : ℤ} (h0 : 0 ≤ q) (h : q ≤ 10 ^ k) :
    0 ≤ round6 q ∧ round6 q ≤ 10 ^ k := by
  rcases h0.eq_or_lt with rfl | hq
  · exact ⟨le_rfl, h⟩
  · rw [round6_of_pos hq]
    exact ⟨(roundPos_pos hq).le, roundPos_le hq h⟩

/-- A number has at most six significant digits. -/
def SixDigits (q : ℚ) : Prop := ∃ (m : ℕ) (e : ℤ), m < 10 ^ 6 ∧ q = m * 10 ^ e

/-- Printing keeps exactly the numbers with at most six significant digits. -/
theorem round6_eq_self_iff {q : ℚ} (h : 0 ≤ q) : round6 q = q ↔ SixDigits q := by
  constructor
  · intro hround
    rcases h.eq_or_lt with rfl | hpos
    · exact ⟨0, 0, by norm_num, by norm_num⟩
    · rw [round6_of_pos hpos] at hround
      exact ⟨(sixDigits q).1, (sixDigits q).2 - 5, (sixDigits_mem hpos).2, hround.symm⟩
  · rintro ⟨m, e, hm, rfl⟩
    rcases Nat.eq_zero_or_pos m with rfl | hpos
    · simp
    · -- scaled up to six digits
      have hlog : Nat.log 10 m ≤ 5 := Nat.lt_succ_iff.mp (Nat.log_lt_of_lt_pow hpos.ne' hm)
      have hlow : 10 ^ Nat.log 10 m ≤ m := Nat.pow_log_le_self 10 hpos.ne'
      have hhigh : m < 10 ^ (Nat.log 10 m + 1) := Nat.lt_pow_succ_log_self (by norm_num) m
      obtain ⟨k, hk⟩ : ∃ k, Nat.log 10 m + k = 5 := ⟨5 - Nat.log 10 m, by omega⟩
      have hlow' : 10 ^ 5 ≤ m * 10 ^ k := by
        rw [← hk, pow_add]
        exact Nat.mul_le_mul_right _ hlow
      have hhigh' : m * 10 ^ k < 10 ^ 6 := by
        calc m * 10 ^ k < 10 ^ (Nat.log 10 m + 1) * 10 ^ k := by gcongr
          _ = 10 ^ 6 := by rw [← pow_add]; congr 1; omega
      have hscaled : (m : ℚ) * 10 ^ e = ((m * 10 ^ k : ℕ) : ℚ) * 10 ^ (e - k + 5 - 5) := by
        push_cast
        rw [mul_assoc, ← zpow_natCast, ← zpow_add₀ (by norm_num)]
        congr 2
        omega
      have hq : (0 : ℚ) < m * 10 ^ e := by positivity
      rw [round6_of_pos hq, roundPos, hscaled, sixDigits_six _ hlow' hhigh']

/-! ### Printed digits -/

@[simp] theorem length_padded (k n : ℕ) : (padded k n).length = k := by
  induction k generalizing n with
  | zero => rfl
  | succ k ih => rw [padded, List.length_append, ih, List.length_singleton]

theorem isDigit_of_mem_padded {k n : ℕ} {c : UInt8} (h : c ∈ padded k n) : isDigit c = true := by
  induction k generalizing n with
  | zero => cases h
  | succ k ih =>
    rcases List.mem_append.mp h with h | h
    · exact ih h
    · rw [List.mem_singleton.mp h]
      exact isDigit_digitByte (Nat.mod_lt _ (by norm_num))

theorem digitsValue_padded (k n : ℕ) : digitsValue (padded k n) = n % 10 ^ k := by
  induction k generalizing n with
  | zero => simp [padded, Nat.mod_one]
  | succ k ih =>
    have hlast : digitsValue [digitByte (n % 10)] = n % 10 := by
      have h := @digitsValue_map_digitByte [n % 10] (by
        intro d hd
        rw [List.mem_singleton.mp hd]
        exact Nat.mod_lt _ (by norm_num))
      simpa using h
    rw [padded, digitsValue_append, ih, hlast, List.length_singleton, pow_one, pow_succ',
      Nat.mod_mul]
    ring

theorem digitsValue_replicate_zero (j : ℕ) : digitsValue (List.replicate j 48) = 0 := by
  induction j with
  | zero => rfl
  | succ j ih =>
    rw [List.replicate_succ, ← List.singleton_append, digitsValue_append, ih]
    simp [digitsValue, digitValue]

/-- Zeros at the end of a fraction do not change its value. -/
theorem digitsValue_rdropWhile (ds es : Bytes) :
    (digitsValue (ds ++ es.rdropWhile (· = 48)) : ℚ) / 10 ^ (es.rdropWhile (· = 48)).length =
      digitsValue (ds ++ es) / 10 ^ es.length := by
  obtain ⟨j, hj⟩ : ∃ j, es.rtakeWhile (· = 48) = List.replicate j 48 := by
    refine ⟨_, List.eq_replicate_of_mem fun c hc => ?_⟩
    simpa using List.mem_rtakeWhile_imp hc
  have hes : es = es.rdropWhile (· = 48) ++ List.replicate j 48 := by
    rw [← hj, List.rdropWhile_append_rtakeWhile]
  set fs := es.rdropWhile (· = 48)
  rw [hes, ← List.append_assoc, digitsValue_append (ds ++ fs), digitsValue_replicate_zero,
    List.length_append, List.length_replicate, pow_add]
  push_cast
  field_simp
  ring

/-! ### Reading what was printed -/

/-- Text after a number that cannot be part of it. -/
def NumberEnd (s : Bytes) : Prop :=
  ∀ c ∈ s.head?, isDigit c = false ∧ c ≠ 46 ∧ toLower c ≠ 101 ∧ toLower c ≠ 120

instance (s : Bytes) : Decidable (NumberEnd s) := Option.decidableForallMem _

theorem NumberEnd.noDigitHead {s : Bytes} (h : NumberEnd s) : NoDigitHead s :=
  fun c hc => (h c hc).1

theorem NumberEnd.append {lit : Bytes} (h : NumberEnd lit) (hne : lit ≠ []) (s : Bytes) :
    NumberEnd (lit ++ s) := by
  intro c hc
  rw [List.head?_append_of_ne_nil _ hne] at hc
  exact h c hc

theorem readExponent_of_ne {s : Bytes} (h : ∀ c ∈ s.head?, toLower c ≠ 101) :
    readExponent 101 s = (0, s) := by
  cases s with
  | nil => rfl
  | cons c t =>
    have hc : toLower c ≠ 101 := h c rfl
    simp [readExponent, hc]

theorem readExponent_none {s : Bytes} (h : NumberEnd s) : readExponent 101 s = (0, s) :=
  readExponent_of_ne fun c hc => (h c hc).2.2.1

/-- The digits of an exponent. -/
theorem exists_exponentText (e : ℤ) : ∃ ds : Bytes, ds ≠ [] ∧ (∀ c ∈ ds, isDigit c = true) ∧
    digitsValue ds = e.natAbs ∧ exponentText e = 101 :: (if e < 0 then 45 else 43) :: ds := by
  -- below a hundred the digits are two, padded with a zero
  by_cases hsmall : e.natAbs < 100
  · refine ⟨padded 2 e.natAbs, ?_, fun c hc => isDigit_of_mem_padded hc, ?_, ?_⟩
    · exact List.ne_nil_of_length_pos (by simp)
    · rw [digitsValue_padded]
      omega
    · rw [exponentText, if_pos hsmall]
  · refine ⟨natDecimal e.natAbs, natDecimal_ne_nil _, fun c hc => isDigit_of_mem_natDecimal hc,
      digitsValue_natDecimal _, ?_⟩
    rw [exponentText, if_neg hsmall]

theorem readExponent_exponentText (e : ℤ) {s : Bytes} (h : NumberEnd s) :
    readExponent 101 (exponentText e ++ s) = (e, s) := by
  obtain ⟨ds, hne, hds, hvalue, htext⟩ := exists_exponentText e
  obtain ⟨htake, hdrop⟩ := takeWhile_digits hds h.noDigitHead
  have hlower : toLower 101 = 101 := by decide
  rw [htext]
  by_cases hneg : e < 0
  · have hsign : readSign (45 :: (ds ++ s)) = (true, ds ++ s) := rfl
    simp only [hneg, ↓reduceIte, List.cons_append, readExponent, hsign, hlower, htake, hdrop, hne,
      ne_eq, not_false_eq_true, and_self, hvalue]
    congr 1
    omega
  · have hsign : readSign (43 :: (ds ++ s)) = (false, ds ++ s) := rfl
    simp only [hneg, ↓reduceIte, List.cons_append, readExponent, hsign, hlower, htake, hdrop, hne,
      ne_eq, not_false_eq_true, and_self, hvalue, Bool.false_eq_true]
    congr 1
    omega

/-- Digits with a fraction, followed by something that neither continues them nor is a point. -/
theorem readDecimal_digits {whole fraction t : Bytes} (hne : whole ≠ [])
    (hwhole : ∀ c ∈ whole, isDigit c = true) (hfraction : ∀ c ∈ fraction, isDigit c = true)
    (ht : NoDigitHead t) (hpoint : ∀ c ∈ t.head?, c ≠ 46) :
    readDecimal (whole ++ ((if fraction = [] then [] else 46 :: fraction) ++ t)) =
      some ((digitsValue (whole ++ fraction) : ℚ) / 10 ^ fraction.length *
        10 ^ (readExponent 101 t).1,
        (readExponent 101 t).2) := by
  have hhead : NoDigitHead ((if fraction = [] then [] else 46 :: fraction) ++ t) := by
    split_ifs with hf
    · exact ht
    · intro c hc
      obtain rfl : 46 = c := by simpa using hc
      rfl
  have hread : readFraction isDigit ((if fraction = [] then [] else 46 :: fraction) ++ t) =
      (fraction, t) := by
    split_ifs with hf
    · rw [hf, List.nil_append]
      cases t with
      | nil => rfl
      | cons c t =>
        have hc : c ≠ 46 := hpoint c rfl
        simp [readFraction, hc]
    · obtain ⟨htake, hdrop⟩ := takeWhile_digits hfraction ht
      simp only [List.cons_append, readFraction, htake, hdrop]
  obtain ⟨htake, hdrop⟩ := takeWhile_digits hwhole hhead
  simp only [readDecimal, htake, hdrop, hread, hne, false_and, ↓reduceIte]

theorem noDigitHead_dropWhile (s : Bytes) : NoDigitHead (s.dropWhile isDigit) := by
  intro c hc
  have h := List.head?_dropWhile_not isDigit s
  rw [hc] at h
  exact h

/-- What is read as a decimal: digits, a point with more digits or none, and an exponent. -/
theorem exists_of_readDecimal {s v : Bytes} {q : ℚ} (h : readDecimal s = some (q, v)) :
    ∃ whole fraction rest : Bytes, (∀ c ∈ whole, isDigit c = true) ∧
      (∀ c ∈ fraction, isDigit c = true) ∧ NoDigitHead rest ∧
      (s = whole ++ 46 :: (fraction ++ rest) ∨ whole ≠ [] ∧ fraction = [] ∧ s = whole ++ rest) ∧
        (readExponent 101 rest).2 = v := by
  have hsplit : ∀ u : Bytes, u.takeWhile isDigit ++ u.dropWhile isDigit = u :=
    fun _ => List.takeWhile_append_dropWhile
  have hdigits : ∀ {u : Bytes}, ∀ c ∈ u.takeWhile isDigit, isDigit c = true :=
    fun c hc => List.mem_takeWhile_imp hc
  by_cases hpoint : ∃ t, s.dropWhile isDigit = 46 :: t
  · obtain ⟨t, ht⟩ := hpoint
    simp only [readDecimal, ht, readFraction] at h
    split_ifs at h
    refine ⟨s.takeWhile isDigit, t.takeWhile isDigit, t.dropWhile isDigit, hdigits, hdigits,
      noDigitHead_dropWhile t, Or.inl ?_, (Prod.mk.inj (Option.some.inj h)).2⟩
    rw [hsplit t, ← ht, hsplit s]
  · have hread : readFraction isDigit (s.dropWhile isDigit) = ([], s.dropWhile isDigit) := by
      unfold readFraction
      split
      · rename_i t ht
        exact absurd ⟨t, ht⟩ hpoint
      · rfl
    simp only [readDecimal, hread, and_true] at h
    split_ifs at h with hwhole
    exact ⟨s.takeWhile isDigit, [], s.dropWhile isDigit, hdigits, fun c hc => (by cases hc),
      noDigitHead_dropWhile s, Or.inr ⟨hwhole, rfl, (hsplit s).symm⟩,
      (Prod.mk.inj (Option.some.inj h)).2⟩

/-- The value of a fixed text is that of its digits. -/
theorem digitsValue_fixedText (m k : ℕ) :
    (digitsValue (natDecimal (m / 10 ^ k) ++ (padded k (m % 10 ^ k)).rdropWhile (· = 48)) : ℚ) /
      10 ^ ((padded k (m % 10 ^ k)).rdropWhile (· = 48)).length = m / 10 ^ k := by
  have hm : digitsValue (natDecimal (m / 10 ^ k) ++ padded k (m % 10 ^ k)) = m := by
    rw [digitsValue_append, digitsValue_natDecimal, length_padded, digitsValue_padded, Nat.mod_mod]
    exact Nat.div_add_mod' m (10 ^ k)
  rw [digitsValue_rdropWhile, hm, length_padded]

theorem readDecimal_fixedText (m k : ℕ) {t : Bytes} (ht : NoDigitHead t)
    (hpoint : ∀ c ∈ t.head?, c ≠ 46) :
    readDecimal (fixedText m k ++ t) =
      some ((m : ℚ) / 10 ^ k * 10 ^ (readExponent 101 t).1, (readExponent 101 t).2) := by
  have hdigits : ∀ c ∈ (padded k (m % 10 ^ k)).rdropWhile (· = 48), isDigit c = true :=
    fun c hc => isDigit_of_mem_padded ((List.rdropWhile_prefix _ _).subset hc)
  rw [fixedText, fractionText, List.append_assoc,
    readDecimal_digits (natDecimal_ne_nil _) (fun c hc => isDigit_of_mem_natDecimal hc) hdigits ht
      hpoint, digitsValue_fixedText]

theorem mem_fixedText {m k : ℕ} {c : UInt8} (h : c ∈ fixedText m k) :
    isDigit c = true ∨ c = 46 := by
  rw [fixedText, fractionText] at h
  rcases List.mem_append.mp h with h | h
  · exact Or.inl (isDigit_of_mem_natDecimal h)
  · split_ifs at h with hnil
    · cases h
    · rcases List.mem_cons.mp h with rfl | h
      · exact Or.inr rfl
      · exact Or.inl (isDigit_of_mem_padded ((List.rdropWhile_prefix _ _).subset h))

theorem fixedText_cons (m k : ℕ) : ∃ c t, fixedText m k = c :: t ∧ isDigit c = true := by
  obtain ⟨c, ds, hcons⟩ := List.exists_cons_of_ne_nil (natDecimal_ne_nil (m / 10 ^ k))
  have hc : isDigit c = true := isDigit_of_mem_natDecimal (hcons ▸ List.mem_cons_self ..)
  exact ⟨c, ds ++ fractionText k (m % 10 ^ k), by rw [fixedText, hcons, List.cons_append], hc⟩

theorem toLower_of_isDigit {c : UInt8} (h : isDigit c = true) : toLower c = c := by
  simp only [isDigit, Bool.and_eq_true, decide_eq_true_eq] at h
  unfold toLower
  grind

theorem dropWord_of_ne {w c : UInt8} (h : toLower c ≠ w) (word t : Bytes) :
    dropWord (w :: word) (c :: t) = none := by
  simp [dropWord, h]

theorem dropWord_of_ne₂ {w c : UInt8} {t : Bytes} (h : ∀ c ∈ t.head?, toLower c ≠ w)
    (v : UInt8) (word : Bytes) : dropWord (v :: w :: word) (c :: t) = none := by
  cases t with
  | nil => simp [dropWord]
  | cons d t =>
    have hd : toLower d ≠ w := h d rfl
    simp [dropWord, hd]

/-- Text that begins like no special value and no `0x` is read as a decimal. -/
theorem readReal_decimal {c : UInt8} {t : Bytes} (hi : toLower c ≠ 105) (hn : toLower c ≠ 110)
    (hx : ∀ d ∈ t.head?, toLower d ≠ 120) :
    dropWord (bytes "inf") (c :: t) = none ∧ dropWord (bytes "nan") (c :: t) = none ∧
      dropWord (bytes "0x") (c :: t) = none ∧
      readReal (c :: t) = (readDecimal (c :: t)).map fun (q, u) => (toDouble q, u) := by
  have hinfinity : dropWord (bytes "infinity") (c :: t) = none :=
    dropWord_of_ne hi (bytes "nfinity") _
  have hinf : dropWord (bytes "inf") (c :: t) = none := dropWord_of_ne hi (bytes "nf") _
  have hnan : dropWord (bytes "nan") (c :: t) = none := dropWord_of_ne hn (bytes "an") _
  have hhex : dropWord (bytes "0x") (c :: t) = none := dropWord_of_ne₂ hx 48 []
  refine ⟨hinf, hnan, hhex, ?_⟩
  rw [readReal, hinfinity, hinf, hnan, hhex]
  rfl

theorem toLower_ne_of_isDigit {c w : UInt8} (h : isDigit c = true) (hw : isDigit w = false) :
    toLower c ≠ w := by
  rw [toLower_of_isDigit h]
  rintro rfl
  rw [h] at hw
  cases hw

/-- A fixed text is read as a decimal. -/
theorem readReal_fixedText (m k : ℕ) {t : Bytes} (ht : ∀ c ∈ t.head?, toLower c ≠ 120) :
    readReal (fixedText m k ++ t) =
      (readDecimal (fixedText m k ++ t)).map fun (q, u) => (toDouble q, u) := by
  obtain ⟨c, u, hcons, hc⟩ := fixedText_cons m k
  have hsecond : ∀ d ∈ (u ++ t).head?, toLower d ≠ 120 := by
    intro d hd
    cases u with
    | nil => exact ht d hd
    | cons x u =>
      obtain rfl : x = d := by simpa using hd
      have hx : x ∈ fixedText m k := by rw [hcons]; simp
      rcases mem_fixedText hx with hx | rfl
      · exact toLower_ne_of_isDigit hx (by decide)
      · decide
  rw [hcons, List.cons_append]
  exact (readReal_decimal (toLower_ne_of_isDigit hc (by decide))
    (toLower_ne_of_isDigit hc (by decide)) hsecond).2.2.2

theorem hundred_lt_doubleBound : 100 < doubleBound := by decide +kernel

theorem toDouble_of_lt {q : ℚ} (h : |q| < doubleBound) : toDouble q = .finite q := by
  rw [toDouble, if_neg (not_le.mpr h)]

/-- The digits of a positive number are read back to the number they stand for. -/
theorem readReal_formatDigits (m : ℕ) (e : ℤ) {s : Bytes} (hs : NumberEnd s) :
    readReal (formatDigits m e ++ s) = some (toDouble (m * 10 ^ (e - 5)), s) := by
  unfold formatDigits
  split_ifs with h
  · -- scientific form: the exponent's `e` ends the digits
    have hhead : ∀ c ∈ (exponentText e ++ s).head?, isDigit c = false ∧ c ≠ 46 ∧
        toLower c ≠ 120 := by
      intro c hc
      obtain rfl : 101 = c := by simpa [exponentText] using hc
      decide
    rw [List.append_assoc, readReal_fixedText m 5 fun c hc => (hhead c hc).2.2,
      readDecimal_fixedText m 5 (fun c hc => (hhead c hc).1) fun c hc => (hhead c hc).2.1,
      readExponent_exponentText e hs, Option.map_some]
    have hvalue : (m : ℚ) / 10 ^ 5 * 10 ^ e = m * 10 ^ (e - 5) := by
      rw [zpow_sub₀ (by norm_num), div_mul_eq_mul_div, mul_div_assoc]
      norm_num
    rw [hvalue]
  · -- fixed form: what follows the number ends the digits
    have hk : ((5 - e).toNat : ℤ) = 5 - e := by omega
    rw [readReal_fixedText m _ fun c hc => (hs c hc).2.2.2,
      readDecimal_fixedText m _ hs.noDigitHead fun c hc => (hs c hc).2.1, readExponent_none hs,
      Option.map_some]
    have hvalue : (m : ℚ) / 10 ^ (5 - e).toNat * 10 ^ (0 : ℤ) = m * 10 ^ (e - 5) := by
      rw [zpow_zero, mul_one, div_eq_mul_inv, ← zpow_natCast, hk, ← zpow_neg, neg_sub]
    rw [hvalue]

theorem formatDigits_cons (m : ℕ) (e : ℤ) :
    ∃ c t, formatDigits m e = c :: t ∧ isDigit c = true := by
  unfold formatDigits
  split_ifs with h
  · obtain ⟨c, t, hcons, hc⟩ := fixedText_cons m 5
    exact ⟨c, t ++ exponentText e, by rw [hcons, List.cons_append], hc⟩
  · exact fixedText_cons m _

/-- An optional minus before text that starts with a digit. -/
theorem strtod_unsigned {c : UInt8} {t s : Bytes} {x : Double} (hc : isDigit c = true)
    (hread : readReal (c :: t) = some (x, s)) (negative : Bool) :
    strtod ((if negative then [45] else []) ++ c :: t) =
      some (if negative then negate x else x, s) := by
  obtain ⟨hspace, -, -⟩ := ne_of_isDigit hc
  cases negative with
  | true =>
    have hsign : readSign (45 :: c :: t) = (true, c :: t) := rfl
    simp only [strtod, ↓reduceIte, List.singleton_append]
    rw [List.dropWhile_cons_of_neg (by decide), hsign]
    simp only [hread, Option.map_some, ↓reduceIte]
  | false =>
    have hsign : readSign (c :: t) = (false, c :: t) := readSign_of_isDigit hc _
    simp only [strtod, Bool.false_eq_true, ↓reduceIte, List.nil_append]
    rw [List.dropWhile_cons_of_neg (by rw [hspace]; simp), hsign]
    simp only [hread, Option.map_some, Bool.false_eq_true, ↓reduceIte]

theorem strtod_formatPos (q : ℚ) (negative : Bool) {s : Bytes} (hs : NumberEnd s) :
    strtod ((if negative then [45] else []) ++
        (formatDigits (sixDigits q).1 (sixDigits q).2 ++ s)) =
      some (if negative then negate (toDouble (roundPos q)) else toDouble (roundPos q), s) := by
  have hread := readReal_formatDigits (sixDigits q).1 (sixDigits q).2 hs
  obtain ⟨c, t, hcons, hc⟩ := formatDigits_cons (sixDigits q).1 (sixDigits q).2
  rw [hcons, List.cons_append] at hread ⊢
  exact strtod_unsigned hc hread negative

/-- A numeral is a decimal without a fraction. -/
theorem readReal_natDecimal (n : ℕ) {s : Bytes} (hs : NumberEnd s) :
    readReal (natDecimal n ++ s) = some (toDouble n, s) := by
  have htext : natDecimal n = fixedText n 0 := by
    rw [fixedText, pow_zero, Nat.div_one, Nat.mod_one]
    exact (List.append_nil _).symm
  rw [htext, readReal_fixedText n 0 fun c hc => (hs c hc).2.2.2,
    readDecimal_fixedText n 0 hs.noDigitHead fun c hc => (hs c hc).2.1, readExponent_none hs,
    Option.map_some]
  norm_num

/-- A printed integer is read back. -/
theorem strtod_toDecimal {n : ℤ} (hn : |(n : ℚ)| < doubleBound) {s : Bytes} (hs : NumberEnd s) :
    strtod (toDecimal n ++ s) = some (.finite n, s) := by
  obtain ⟨c, t, hcons⟩ := List.exists_cons_of_ne_nil (natDecimal_ne_nil n.natAbs)
  have hc : isDigit c = true := isDigit_of_mem_natDecimal (hcons ▸ List.mem_cons_self ..)
  have hread := readReal_natDecimal n.natAbs hs
  rw [hcons, List.cons_append] at hread
  have habs : ((n.natAbs : ℤ) : ℚ) = |(n : ℚ)| := by rw [Int.natCast_natAbs, Int.cast_abs]
  rw [Int.cast_natCast] at habs
  rw [toDouble_of_lt (by rwa [habs, abs_abs]), habs] at hread
  have hsigned := strtod_unsigned hc hread (decide (n < 0))
  unfold toDecimal
  rw [hcons]
  by_cases hneg : n < 0
  · have hq : (n : ℚ) ≤ 0 := by exact_mod_cast hneg.le
    simp only [hneg, decide_true, ↓reduceIte, List.cons_append, List.nil_append] at hsigned ⊢
    rw [hsigned, negate, abs_of_nonpos hq, neg_neg]
  · have hq : (0 : ℚ) ≤ n := by exact_mod_cast not_lt.mp hneg
    simp only [hneg, decide_false, Bool.false_eq_true, ↓reduceIte, List.nil_append,
      List.cons_append] at hsigned ⊢
    rw [hsigned, abs_of_nonneg hq]

/-- A printed value is read back as its rounding to six significant digits. -/
theorem strtod_formatDouble {q : ℚ} (hq : |round6 q| < doubleBound) {s : Bytes} (hs : NumberEnd s) :
    strtod (formatDouble (.finite q) ++ s) = some (.finite (round6 q), s) := by
  rcases lt_trichotomy q 0 with h | rfl | h
  · have hneg : round6 q = -roundPos (-q) := by rw [round6, if_neg h.ne, if_pos h]
    have hread := strtod_formatPos (-q) true hs
    rw [hneg, abs_neg] at hq
    rw [toDouble_of_lt hq] at hread
    rw [formatDouble, if_neg h.ne, if_pos h, hneg]
    exact hread
  · have hzero : formatDouble (.finite 0) = toDecimal 0 := by decide +kernel
    rw [hzero, round6_zero]
    exact_mod_cast strtod_toDecimal hq hs
  · have hread := strtod_formatPos q false hs
    rw [round6_of_pos h] at hq ⊢
    rw [toDouble_of_lt hq] at hread
    rw [formatDouble, if_neg h.ne', if_neg (by linarith)]
    exact hread

/-- The bytes a printed `double` is made of. -/
theorem mem_formatDouble {x : Double} {c : UInt8} (h : c ∈ formatDouble x) :
    isDigit c = true ∨ c ∈ bytes "+-.einfa" := by
  have hdigits : ∀ (m : ℕ) (e : ℤ), c ∈ formatDigits m e →
      isDigit c = true ∨ c ∈ bytes "+-.einfa" := by
    intro m e h
    have hfixed : ∀ k, c ∈ fixedText m k → isDigit c = true ∨ c ∈ bytes "+-.einfa" := by
      intro k h
      rcases mem_fixedText h with h | rfl
      · exact Or.inl h
      · exact Or.inr (by decide)
    unfold formatDigits at h
    split_ifs at h
    · rcases List.mem_append.mp h with h | h
      · exact hfixed 5 h
      · rw [exponentText, List.mem_cons, List.mem_cons] at h
        rcases h with rfl | rfl | h
        · exact Or.inr (by decide)
        · right
          split_ifs <;> decide
        · left
          split_ifs at h
          · exact isDigit_of_mem_padded h
          · exact isDigit_of_mem_natDecimal h
    · exact hfixed _ h
  cases x with
  | finite q =>
    rw [formatDouble] at h
    split_ifs at h
    · rw [List.mem_singleton.mp h]
      exact Or.inl rfl
    · rcases List.mem_cons.mp h with rfl | h
      · exact Or.inr (by decide)
      · exact hdigits _ _ h
    · exact hdigits _ _ h
  | inf negative =>
    right
    have hinf : bytes "inf" ⊆ bytes "+-.einfa" := by decide
    have hneg : bytes "-inf" ⊆ bytes "+-.einfa" := by decide
    rw [formatDouble] at h
    split_ifs at h
    · exact hneg h
    · exact hinf h
  | nan =>
    have hnan : bytes "nan" ⊆ bytes "+-.einfa" := by decide
    exact Or.inr (hnan h)

end CText
