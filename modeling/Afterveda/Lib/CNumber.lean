import Mathlib.Algebra.Order.Floor.Defs
import Mathlib.Data.Rat.Floor
import Mathlib.Tactic.Linarith

/-!
# C numbers

A C `int` is an integer that conversions and arithmetic reduce into `-2^31 ≤ z < 2^31`
(`wrap32`); `IsInt32` says that a value is one.  A `double` is a `Double`: a finite value, taken as
the exact rational, or one of the special values.  What the C library leaves open (`std::lround` of
a value that no `long` can hold) is a parameter, the structure `Libm`.
-/

namespace CNumber

/-! ### 32-bit integers -/

/-- The value is one a 32-bit `int` can hold. -/
def IsInt32 (z : ℤ) : Prop := -2 ^ 31 ≤ z ∧ z < 2 ^ 31

instance (z : ℤ) : Decidable (IsInt32 z) := inferInstanceAs (Decidable (_ ∧ _))

/-- Reduction into a 32-bit `int` (two's complement). -/
def wrap32 (z : ℤ) : ℤ := (z + 2 ^ 31) % 2 ^ 32 - 2 ^ 31

theorem isInt32_wrap32 (z : ℤ) : IsInt32 (wrap32 z) := by
  unfold IsInt32 wrap32
  omega

theorem wrap32_of_isInt32 {z : ℤ} (h : IsInt32 z) : wrap32 z = z := by
  unfold IsInt32 at h
  unfold wrap32
  omega

/-- The reduction as a residue: its upper half stands for the negative values. -/
theorem wrap32_eq (z : ℤ) :
    wrap32 z = if z % 2 ^ 32 < 2 ^ 31 then z % 2 ^ 32 else z % 2 ^ 32 - 2 ^ 32 := by
  unfold wrap32
  split_ifs <;> omega

/-! ### Doubles -/

/-- A `double`: a finite value (exact), an infinity, or NaN. -/
inductive Double
  | finite (q : ℚ)
  | inf (negative : Bool)
  | nan
  deriving DecidableEq, Repr

/-- `std::fabs`. -/
def Double.fabs : Double → Double
  | .finite q => .finite |q|
  | .inf _ => .inf false
  | .nan => .nan

/-- A positive constant times a `double`. -/
def Double.scale (k : ℤ) : Double → Double
  | .finite q => .finite (k * q)
  | .inf negative => .inf negative
  | .nan => .nan

/-- The sum of two values. -/
def Double.add : Double → Double → Double
  | .nan, _ | _, .nan => .nan
  | .finite p, .finite q => .finite (p + q)
  | .inf m, .inf n => if m = n then .inf m else .nan
  | .inf m, .finite _ | .finite _, .inf m => .inf m

/-- `value == 0.0`. -/
def Double.isZero : Double → Bool
  | .finite q => q = 0
  | _ => false

/-- `value < bound` for a finite bound. -/
def Double.lt (value : Double) (bound : ℚ) : Bool :=
  match value with
  | .finite q => q < bound
  | .inf negative => negative
  | .nan => false

/-- `value > bound` for a finite bound. -/
def Double.gt (value : Double) (bound : ℚ) : Bool :=
  match value with
  | .finite q => bound < q
  | .inf negative => !negative
  | .nan => false

/-- `value <= bound` for a finite bound. -/
def Double.le (value : Double) (bound : ℚ) : Bool :=
  match value with
  | .finite q => q ≤ bound
  | .inf negative => negative
  | .nan => false

/-- `value >= bound` for a finite bound. -/
def Double.ge (value : Double) (bound : ℚ) : Bool :=
  match value with
  | .finite q => bound ≤ q
  | .inf negative => !negative
  | .nan => false

/-- `std::isfinite`. -/
def Double.isFinite : Double → Bool
  | .finite _ => true
  | _ => false

/-- Rounding to the nearest integer, halves away from zero. -/
def roundHalfAway (q : ℚ) : ℤ := if q < 0 then -⌊-q + 1 / 2⌋ else ⌊q + 1 / 2⌋

theorem roundHalfAway_of_nonneg {q : ℚ} (h : 0 ≤ q) : roundHalfAway q = ⌊q + 1 / 2⌋ :=
  if_neg (not_lt.mpr h)

theorem roundHalfAway_nonneg {q : ℚ} (h : 0 ≤ q) : 0 ≤ roundHalfAway q := by
  rw [roundHalfAway_of_nonneg h]
  exact Int.floor_nonneg.mpr (by linarith)

theorem roundHalfAway_mono {p q : ℚ} (hp : 0 ≤ p) (h : p ≤ q) :
    roundHalfAway p ≤ roundHalfAway q := by
  rw [roundHalfAway_of_nonneg hp, roundHalfAway_of_nonneg (hp.trans h)]
  exact Int.floor_mono (by linarith)

/-- A value rounds to at most `n` exactly when it is below the half after `n`. -/
theorem roundHalfAway_le_iff {q : ℚ} (h : 0 ≤ q) {n : ℤ} : roundHalfAway q ≤ n ↔ q < n + 1 / 2 := by
  rw [roundHalfAway_of_nonneg h, ← Int.lt_add_one_iff, Int.floor_lt]
  push_cast
  constructor <;> intro h <;> linarith

/-- The value is one a 64-bit `long` can hold. -/
def IsInt64 (z : ℤ) : Prop := -2 ^ 63 ≤ z ∧ z < 2 ^ 63

instance (z : ℤ) : Decidable (IsInt64 z) := inferInstanceAs (Decidable (_ ∧ _))

/-- What a decimal numeral is read as: its exact value, or the nearest binary64 number. -/
inductive Precision
  | exact
  | binary64
  deriving DecidableEq

/-- What is left open of the C library. -/
structure Libm where
  /-- `std::lround` of a value that rounds to no `long`: too large, an infinity or NaN. -/
  lroundSpecial : Double → ℤ
  /-- What numerals are read as. -/
  precision : Precision

/-- `std::lround`. -/
def lround (libm : Libm) (value : Double) : ℤ :=
  match value with
  | .finite q => if IsInt64 (roundHalfAway q) then roundHalfAway q else libm.lroundSpecial value
  | _ => libm.lroundSpecial value

/-- Where a `long` can hold the rounded value, `std::lround` is exact. -/
theorem lround_finite (libm : Libm) {q : ℚ} (hq : 0 ≤ q) (h : roundHalfAway q < 2 ^ 63) :
    lround libm (.finite q) = roundHalfAway q := by
  have hnonneg := roundHalfAway_nonneg hq
  have hlong : IsInt64 (roundHalfAway q) := ⟨by omega, h⟩
  exact if_pos hlong

end CNumber
