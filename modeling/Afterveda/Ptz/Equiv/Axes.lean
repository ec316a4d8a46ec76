import Afterveda.Ptz.Equiv.Limits
import Afterveda.Ptz.Equiv.Service
import Mathlib.Analysis.Convex.Star
import Mathlib.Data.Int.ConditionallyCompleteOrder
import Mathlib.Data.Sign.Basic

/-!
# Axis values

An axis value of a move comes from the network as any `float`, and is turned into a number of
degrees or a speed by `stepFromAxis`: the rounded share of a configured maximum (`axisSize`),
converted to an `int`.  Nothing restricts the value, so the conversion may wrap, and a share that no
`long` can hold is rounded to whatever the C library gives (`lroundShare`).

* `relativeMove_iff`: a relative move goes where it was asked to exactly when every axis has room
  for its movement (`AxisFits`).
* `continuousMove_iff`: the speed of a continuous move stays within the configured maximum exactly
  when the wrapped size does, and the speeds of a set of axis values are in order and within the
  maximum exactly when no value of the set asks for more.
-/

namespace Afterveda.Ptz

open CText CNumber Onvif Onvif.Soap

/-! ### The size of a movement -/

/-- The rounded share of a maximum that an axis value asks for. -/
def axisSize (maximum : ℤ) (x : ℚ) : ℤ := roundHalfAway (maximum * |x|)

/-- What `std::lround` makes of that share. -/
def lroundShare (libm : Libm) (maximum : ℤ) (x : ℚ) : ℤ := lround libm (.finite (maximum * |x|))

/-- The movement an axis value asks for: at least one, in the direction of its sign. -/
def axisMovement (maximum : ℤ) (x : ℚ) : ℤ := SignType.sign x * max 1 (axisSize maximum x)

/-- A size as an `int`, at least one where it vanishes. -/
def wrapSize (size : ℤ) : ℤ := if wrap32 size = 0 then 1 else wrap32 size

/-- The upper half of the residues stands for negative sizes. -/
theorem wrapSize_eq (size : ℤ) : wrapSize size =
    if size % 2 ^ 32 < 2 ^ 31 then max 1 (size % 2 ^ 32) else size % 2 ^ 32 - 2 ^ 32 := by
  rw [wrapSize, wrap32_eq]
  split_ifs <;> omega

theorem axisSize_nonneg {maximum : ℤ} (h : 0 ≤ maximum) (x : ℚ) : 0 ≤ axisSize maximum x :=
  roundHalfAway_nonneg (mul_nonneg (by exact_mod_cast h) (abs_nonneg x))

variable {libm : Libm} {maximum : ℤ} {x : ℚ}

/-- They agree on what a `long` can hold. -/
theorem lroundShare_of_lt (h : 0 ≤ maximum) (hlt : axisSize maximum x < 2 ^ 63) :
    lroundShare libm maximum x = axisSize maximum x :=
  lround_finite libm (mul_nonneg (by exact_mod_cast h) (abs_nonneg x)) hlt

theorem stepFromAxis_zero : stepFromAxis libm maximum (.finite 0) = 0 := by
  rfl

theorem stepFromAxis_of_pos (h : 0 < x) :
    stepFromAxis libm maximum (.finite x) = wrapSize (lroundShare libm maximum x) := by
  have hzero : (Double.finite x).isZero = false := decide_eq_false h.ne'
  have hneg : (Double.finite x).lt 0 = false := decide_eq_false (not_lt.mpr h.le)
  rw [stepFromAxis, hzero, hneg]
  rfl

theorem stepFromAxis_of_neg (h : x < 0) :
    stepFromAxis libm maximum (.finite x) = wrap32 (-wrapSize (lroundShare libm maximum x)) := by
  have hzero : (Double.finite x).isZero = false := decide_eq_false h.ne
  have hneg : (Double.finite x).lt 0 = true := decide_eq_true h
  rw [stepFromAxis, hzero, hneg]
  rfl

theorem axisMovement_zero : axisMovement maximum 0 = 0 := by
  rw [axisMovement, sign_zero]
  exact zero_mul _

theorem axisMovement_of_pos (h : 0 < x) : axisMovement maximum x = max 1 (axisSize maximum x) := by
  rw [axisMovement, sign_pos h]
  exact one_mul _

theorem axisMovement_of_neg (h : x < 0) : axisMovement maximum x = -max 1 (axisSize maximum x) := by
  rw [axisMovement, sign_neg h]
  exact neg_one_mul _

/-! ### The target of a relative move -/

/-- A size goes in where `left` degrees remain up to the end of the range and an `int` has `room`:
the rounded size has to fit in after its reduction, and where that is not the size `asked` for, it
must reach the end of the range all the same. -/
def SizeFits (room left asked size : ℤ) : Prop :=
  size % 2 ^ 32 ≤ room ∧ (asked < 2 ^ 32 ∨ left ≤ max 1 (size % 2 ^ 32))

instance (room left asked size : ℤ) : Decidable (SizeFits room left asked size) :=
  inferInstanceAs (Decidable (_ ∧ _))

/-- The movement that an axis value asks for at a position goes in. -/
def AxisFits (libm : Libm) (low high maximum position : ℤ) (x : ℚ) : Prop :=
  (0 < x → SizeFits (2 ^ 31 - 1 - position) (high - position) (axisSize maximum x)
      (lroundShare libm maximum x)) ∧
    (x < 0 → SizeFits (2 ^ 31 + position) (position - low) (axisSize maximum x)
      (lroundShare libm maximum x))

instance (libm : Libm) (low high maximum position : ℤ) (x : ℚ) :
    Decidable (AxisFits libm low high maximum position x) :=
  inferInstanceAs (Decidable (_ ∧ _))

section Target

variable {low high position asked size : ℤ}

theorem clampInt_add_wrapSize (hlow : 0 ≤ low) (hlow' : low ≤ position) (hhigh' : position ≤ high)
    (hhigh : high + 1 < 2 ^ 31) (hrange : low < high) (hasked : 0 ≤ asked)
    (hsize : asked < 2 ^ 32 → size = asked) :
    clampInt (wrap32 (position + wrapSize size)) low high =
        clampInt (position + max 1 asked) low high ↔
      SizeFits (2 ^ 31 - 1 - position) (high - position) asked size := by
  have hnonneg : 0 ≤ size % 2 ^ 32 := by omega
  have hreduced : asked < 2 ^ 32 → size % 2 ^ 32 = asked := by omega
  have hreduced' : size % 2 ^ 32 < 2 ^ 32 := by omega
  unfold SizeFits
  rw [wrapSize_eq]
  generalize size % 2 ^ 32 = m at *
  by_cases hbit : m < 2 ^ 31
  · rw [if_pos hbit]
    by_cases hroom : m ≤ 2 ^ 31 - 1 - position
    · -- the sum is an `int`
      have hint : IsInt32 (position + max 1 m) := by
        unfold IsInt32
        omega
      rw [wrap32_of_isInt32 hint, and_iff_right hroom]
      unfold clampInt
      split_ifs <;> omega
    · -- the sum turns negative, and the target is the lower end
      have hsum : wrap32 (position + max 1 m) = position + m - 2 ^ 32 := by
        unfold wrap32
        omega
      rw [hsum]
      refine iff_of_false ?_ fun h => hroom h.1
      unfold clampInt
      split_ifs <;> omega
  · -- the size is taken for a negative one, and the target is no higher than the position
    have hint : IsInt32 (position + (m - 2 ^ 32)) := by
      unfold IsInt32
      omega
    rw [if_neg hbit, wrap32_of_isInt32 hint]
    refine iff_of_false ?_ fun h => by omega
    unfold clampInt
    split_ifs <;> omega

theorem clampInt_add_neg_wrapSize (hlow : 0 ≤ low) (hlow' : low ≤ position)
    (hhigh' : position ≤ high) (hhigh : high + 1 < 2 ^ 31) (hrange : low < high)
    (hasked : 0 ≤ asked) (hsize : asked < 2 ^ 32 → size = asked) :
    clampInt (wrap32 (position + wrap32 (-wrapSize size))) low high =
        clampInt (position + -max 1 asked) low high ↔
      SizeFits (2 ^ 31 + position) (position - low) asked size := by
  have hnonneg : 0 ≤ size % 2 ^ 32 := by omega
  have hreduced : asked < 2 ^ 32 → size % 2 ^ 32 = asked := by omega
  have hreduced' : size % 2 ^ 32 < 2 ^ 32 := by omega
  unfold SizeFits
  rw [wrapSize_eq]
  generalize size % 2 ^ 32 = m at *
  by_cases hbit : m < 2 ^ 31
  · -- the difference is an `int`
    have hneg : IsInt32 (-max 1 m) := by
      unfold IsInt32
      omega
    have hint : IsInt32 (position + -max 1 m) := by
      unfold IsInt32
      omega
    have hroom : m ≤ 2 ^ 31 + position := by omega
    rw [if_pos hbit, wrap32_of_isInt32 hneg, wrap32_of_isInt32 hint, and_iff_right hroom]
    unfold clampInt
    split_ifs <;> omega
  · rw [if_neg hbit]
    by_cases hroom : m ≤ 2 ^ 31 + position
    · -- the sum wraps twice, and the target is the lower end after all
      have hsum : wrap32 (position + wrap32 (-(m - 2 ^ 32))) = position - m := by
        unfold wrap32
        omega
      rw [hsum]
      refine iff_of_true ?_ ⟨hroom, Or.inr (by omega)⟩
      unfold clampInt
      split_ifs <;> omega
    · -- the size is taken for a negative one, and the target is above the position
      have hsum : wrap32 (position + wrap32 (-(m - 2 ^ 32))) = position + (2 ^ 32 - m) := by
        unfold wrap32
        omega
      rw [hsum]
      refine iff_of_false ?_ fun h => hroom h.1
      unfold clampInt
      split_ifs <;> omega

/-- The clamped sum is the one asked for exactly when the movement goes in. -/
theorem clampInt_stepFromAxis_iff (hlow : 0 ≤ low) (hlow' : low ≤ position)
    (hhigh' : position ≤ high) (hhigh : high + 1 < 2 ^ 31) (hrange : low < high)
    (hmaximum : 0 ≤ maximum) :
    clampInt (wrap32 (position + stepFromAxis libm maximum (.finite x))) low high =
        clampInt (position + axisMovement maximum x) low high ↔
      AxisFits libm low high maximum position x := by
  have hasked := axisSize_nonneg hmaximum x
  have hsize : axisSize maximum x < 2 ^ 32 → lroundShare libm maximum x = axisSize maximum x :=
    fun hlt => lroundShare_of_lt hmaximum (by omega)
  rcases lt_trichotomy x 0 with hneg | rfl | hpos
  · rw [stepFromAxis_of_neg hneg, axisMovement_of_neg hneg,
      clampInt_add_neg_wrapSize hlow hlow' hhigh' hhigh hrange hasked hsize]
    exact ⟨fun h => ⟨fun hpos => absurd hpos hneg.asymm, fun _ => h⟩, fun h => h.2 hneg⟩
  · have hint : IsInt32 (position + 0) := by
      unfold IsInt32
      omega
    rw [stepFromAxis_zero, axisMovement_zero, wrap32_of_isInt32 hint]
    exact iff_of_true rfl ⟨fun h => absurd h (lt_irrefl 0), fun h => absurd h (lt_irrefl 0)⟩
  · rw [stepFromAxis_of_pos hpos, axisMovement_of_pos hpos,
      clampInt_add_wrapSize hlow hlow' hhigh' hhigh hrange hasked hsize]
    exact ⟨fun h => ⟨fun _ => h, fun hneg => absurd hneg hpos.asymm⟩, fun h => h.1 hpos⟩

end Target

/-- **Relative moves**: whatever the axis values of a request and whatever happens around the call,
the one command of a relative move from a position that was read goes where the request asks, on
each axis, exactly when the movement of that axis goes in. -/
theorem relativeMove_iff (libm : Libm) {config : Config} (hstep : 0 ≤ config.ptzStep)
    {around : Surroundings} {s : PtzState} {position : PtzPosition}
    (hread : readPtzPosition config around.reply s = .ok position) (hposition : InLimits position)
    (x y : ℚ) :
    (∃ target ok, (relativeMovePtz libm config around (.finite x) (.finite y) s).2.attempts =
        (fireAll config around.timers s).attempts ++ [⟨.client, .position target, ok⟩] ∧
      (target.pan = clampInt (position.pan + axisMovement config.ptzStep x) kPanMin kPanMax ↔
        AxisFits libm kPanMin kPanMax config.ptzStep position.pan x) ∧
      (target.tilt = clampInt (position.tilt + axisMovement config.ptzStep y) kTiltMin kTiltMax ↔
        AxisFits libm kTiltMin kTiltMax config.ptzStep position.tilt y)) ∧
    ∀ (ctx : Context) (request : Option TptzRelativeMove) (other : (c : Call) → c.Answer),
      (request.bind TptzRelativeMove.translation).bind PtzVector.panTilt =
          some ⟨.finite x, .finite y⟩ →
        Commanded (relativeMovePtz libm config around (.finite x) (.finite y)) s
          ((tptzRelativeMove ctx request).run (ptzHost libm config around other) s) := by
  refine ⟨?_, fun ctx request other => commanded_tptzRelativeMove around other ctx⟩
  obtain ⟨hpan, hpan', htilt, htilt'⟩ := hposition
  let target : PtzPosition := clampPtzPosition
    ⟨wrap32 (position.pan + deltaFromAxis libm config (.finite x)),
      wrap32 (position.tilt + deltaFromAxis libm config (.finite y))⟩
  have hmove : relativeMovePtz libm config around (.finite x) (.finite y) s =
      writePtzPosition config target around.outcome (fireAll config around.timers s) := by
    rw [relativeMovePtz, movePtzByAxes, hread]
  -- the write clamps once more, which changes nothing
  have hclamped : clampPtzPosition target = target :=
    clampPtzPosition_of_inLimits (inLimits_clampPtzPosition _)
  have hwrite := (writePtzPosition_spec config target around.outcome
    (fireAll config around.timers s)).attempts
  rw [hclamped, ← hmove] at hwrite
  refine ⟨target, _, hwrite, ?_, ?_⟩
  · exact clampInt_stepFromAxis_iff (by decide) hpan hpan' (by decide) (by decide) hstep
  · exact clampInt_stepFromAxis_iff (by decide) htilt htilt' (by decide) (by decide) hstep

theorem notMem_main : 0 ∉ bytes "main" := by decide

/-- The token of the one profile. -/
def mainToken : CStr := ⟨bytes "main", notMem_main⟩

/-- A relative move by the axis value `x` that leaves the tilt alone. -/
def panRequest (x : ℚ) : TptzRelativeMove where
  profileToken := some mainToken
  translation := some { panTilt := some ⟨.finite x, .finite 0⟩ }

/-- Half the step to the left goes in. -/
theorem relativeMove_iff_half : ∃ target ok,
    (relativeMovePtz plainLibm dryConfig {} (.finite (-1 / 2)) (.finite 0) {}).2.attempts =
        [⟨.client, .position target, ok⟩] ∧
      target.pan = clampInt (90 + axisMovement 5 (-1 / 2)) 30 150 := by
  have hposition : InLimits ⟨90, 45⟩ := by
    unfold InLimits
    decide
  obtain ⟨⟨target, ok, hattempts, hpan, -⟩, -⟩ := relativeMove_iff plainLibm
    (show 0 ≤ dryConfig.ptzStep by decide)
    (show readPtzPosition dryConfig {} {} = .ok ⟨90, 45⟩ by rfl) hposition (-1 / 2) 0
  exact ⟨target, ok, hattempts, hpan.mpr (by decide +kernel)⟩

/-- A request to a server in dry-run mode that has just started. -/
def wideRun : Except Fault Unit × PtzState :=
  (tptzRelativeMove openContext (some (panRequest 500000000))).run
    (ptzHost plainLibm dryConfig {} fun _ => default) {}

/-- A move to the right of 2500000000 degrees does not: the request is accepted and the camera moves
to the left end of its range. -/
theorem relativeMove_wraps : wideRun.1 = .ok () ∧
    wideRun.2.attempts = [⟨.client, .position ⟨30, 45⟩, true⟩] ∧
      clampInt (90 + axisMovement dryConfig.ptzStep 500000000) kPanMin kPanMax = 150 := by
  decide +kernel

/-! ### The speed of a continuous move -/

/-- The speed for an axis value has its sign and at most the configured maximum as its size. -/
def SpeedWithin (libm : Libm) (config : Config) (x : ℚ) : Prop :=
  |speedFromAxis libm config (.finite x)| ≤ config.ptzSpeed ∧
    SignType.sign (speedFromAxis libm config (.finite x)) = SignType.sign x

/-- A wrapped size is positive and within a maximum exactly when the residue is within it. -/
theorem wrapSize_le_iff {size : ℤ} (hmaximum : 1 ≤ maximum) (hmaximum' : maximum < 2 ^ 31) :
    0 < wrapSize size ∧ wrapSize size ≤ maximum ↔ size % 2 ^ 32 ≤ maximum := by
  rw [wrapSize_eq]
  split_ifs <;> omega

theorem isInt32_wrapSize (size : ℤ) : IsInt32 (wrapSize size) := by
  unfold wrapSize
  split_ifs
  · decide
  · exact isInt32_wrap32 size

/-- The speed is within the maximum exactly when the residue of the size is. -/
theorem speedWithin_iff {config : Config} (hspeed : 1 ≤ config.ptzSpeed)
    (hspeed' : config.ptzSpeed < 2 ^ 31) (x : ℚ) :
    SpeedWithin libm config x ↔ lroundShare libm config.ptzSpeed x % 2 ^ 32 ≤ config.ptzSpeed := by
  rw [← wrapSize_le_iff hspeed hspeed', SpeedWithin, speedFromAxis, abs_le]
  rcases lt_trichotomy x 0 with hneg | rfl | hpos
  · have hint := isInt32_wrapSize (lroundShare libm config.ptzSpeed x)
    rw [stepFromAxis_of_neg hneg, sign_neg hneg, sign_eq_neg_one_iff]
    unfold IsInt32 at hint
    unfold wrap32
    constructor
    · rintro ⟨⟨hge, hle⟩, hsign⟩
      omega
    · rintro ⟨hsign, hle⟩
      omega
  · have hsize : axisSize config.ptzSpeed 0 = 0 := by
      norm_num [axisSize, roundHalfAway]
    have hshare : lroundShare libm config.ptzSpeed 0 = axisSize config.ptzSpeed 0 :=
      lroundShare_of_lt (zero_le_one.trans hspeed) (by rw [hsize]; decide)
    have hwrap : wrapSize 0 = 1 := by decide
    rw [stepFromAxis_zero, sign_zero, sign_zero, hshare, hsize, hwrap]
    exact iff_of_true ⟨⟨by omega, by omega⟩, rfl⟩ ⟨one_pos, hspeed⟩
  · rw [stepFromAxis_of_pos hpos, sign_pos hpos, sign_eq_one_iff]
    constructor
    · rintro ⟨⟨-, hle⟩, hsign⟩
      exact ⟨hsign, hle⟩
    · rintro ⟨hsign, hle⟩
      exact ⟨⟨by omega, hle⟩, hsign⟩

/-- An axis value that asks for at most the maximum gets the speed it asks for. -/
theorem speedFromAxis_of_le {config : Config} (hspeed : 0 ≤ config.ptzSpeed)
    (hspeed' : config.ptzSpeed < 2 ^ 31 - 1) (h : axisSize config.ptzSpeed x ≤ config.ptzSpeed) :
    speedFromAxis libm config (.finite x) = axisMovement config.ptzSpeed x := by
  have hsize := axisSize_nonneg hspeed x
  have hwrap : wrapSize (lroundShare libm config.ptzSpeed x) =
      max 1 (axisSize config.ptzSpeed x) := by
    rw [lroundShare_of_lt hspeed (by omega)]
    have hmod : axisSize config.ptzSpeed x % 2 ^ 32 = axisSize config.ptzSpeed x :=
      Int.emod_eq_of_lt hsize (by omega)
    rw [wrapSize_eq, hmod, if_pos (by omega)]
  rw [speedFromAxis]
  rcases lt_trichotomy x 0 with hneg | rfl | hpos
  · rw [stepFromAxis_of_neg hneg, axisMovement_of_neg hneg, hwrap]
    apply wrap32_of_isInt32
    unfold IsInt32
    omega
  · rw [stepFromAxis_zero, axisMovement_zero]
  · rw [stepFromAxis_of_pos hpos, axisMovement_of_pos hpos, hwrap]

theorem axisSize_mono {y : ℚ} (h : 0 ≤ maximum) (hxy : |x| ≤ |y|) :
    axisSize maximum x ≤ axisSize maximum y := by
  have hmaximum : (0 : ℚ) ≤ maximum := by exact_mod_cast h
  exact roundHalfAway_mono (mul_nonneg hmaximum (abs_nonneg x))
    (mul_le_mul_of_nonneg_left hxy hmaximum)

/-- The movement asked for grows with the axis value. -/
theorem axisMovement_mono (h : 0 ≤ maximum) : Monotone (axisMovement maximum) := by
  intro x y hxy
  rcases lt_trichotomy x 0 with hx | rfl | hx
  · rw [axisMovement_of_neg hx]
    rcases lt_trichotomy y 0 with hy | rfl | hy
    · have hsize := axisSize_mono h (show |y| ≤ |x| by
        rw [abs_of_neg hx, abs_of_neg hy]
        exact neg_le_neg hxy)
      rw [axisMovement_of_neg hy]
      omega
    · rw [axisMovement_zero]
      omega
    · rw [axisMovement_of_pos hy]
      omega
  · rw [axisMovement_zero]
    rcases hxy.eq_or_lt with rfl | hy
    · rw [axisMovement_zero]
    · rw [axisMovement_of_pos hy]
      omega
  · have hy := hx.trans_le hxy
    have hsize := axisSize_mono h (show |x| ≤ |y| by rwa [abs_of_pos hx, abs_of_pos hy])
    rw [axisMovement_of_pos hx, axisMovement_of_pos hy]
    omega

variable (libm) in
/-- When a value asks for more than the maximum, some value between it and zero gets more. -/
theorem exists_not_speedWithin {config : Config} (hspeed : 1 ≤ config.ptzSpeed)
    (hspeed' : config.ptzSpeed < 2 ^ 31) (h : config.ptzSpeed < axisSize config.ptzSpeed x) :
    ∃ c : ℚ, 0 ≤ c ∧ c ≤ 1 ∧ ¬SpeedWithin libm config (c * x) := by
  have hmaximum : (0 : ℚ) < config.ptzSpeed := by exact_mod_cast hspeed
  have hfull : (config.ptzSpeed : ℚ) + 1 / 2 ≤ config.ptzSpeed * |x| := by
    rw [← not_lt, ← roundHalfAway_le_iff (mul_nonneg hmaximum.le (abs_nonneg x)), not_le]
    exact h
  have hpos : 0 < config.ptzSpeed * |x| := by linarith
  have habs : |x| ≠ 0 := right_ne_zero_of_mul hpos.ne'
  -- the value whose share is just the half after the maximum
  refine ⟨(config.ptzSpeed + 1 / 2) / (config.ptzSpeed * |x|), by positivity,
    (div_le_one hpos).mpr hfull, ?_⟩
  have hshare : config.ptzSpeed * |(config.ptzSpeed + 1 / 2) / (config.ptzSpeed * |x|) * x| =
      (config.ptzSpeed : ℚ) + 1 / 2 := by
    rw [abs_mul, abs_of_nonneg (by positivity)]
    field_simp
  have hsize : axisSize config.ptzSpeed
      ((config.ptzSpeed + 1 / 2) / (config.ptzSpeed * |x|) * x) = config.ptzSpeed + 1 := by
    rw [axisSize, hshare, roundHalfAway_of_nonneg (by positivity), add_assoc]
    norm_num
  rw [speedWithin_iff hspeed hspeed', lroundShare_of_lt (by omega) (by omega), hsize]
  omega

/-- **Continuous moves**: an accepted request sends the speeds of its axis values as they are.  The
speed for an axis value is within the maximum and in its direction exactly when the residue of what
`std::lround` gives is; that is the size asked for where a `long` can hold it; and on a range of
axis values that reaches down to zero all speeds are, and are in order, exactly when no value of the
range rounds to more than the maximum. -/
theorem continuousMove_iff (libm : Libm) {config : Config} (hspeed : 1 ≤ config.ptzSpeed)
    (hspeed' : config.ptzSpeed ≤ 65535) :
    (∀ (ctx : Context) (request : Option TptzContinuousMove) (around : Surroundings)
        (other : (c : Call) → c.Answer) (s t : PtzState) (x y : ℚ),
      (request.bind TptzContinuousMove.velocity).bind PtzVector.panTilt =
          some ⟨.finite x, .finite y⟩ →
        (tptzContinuousMove libm ctx request).run (ptzHost libm config around other) s =
            (.ok (), t) →
          t.attempts = s.attempts ++ [⟨.client, .speed (speedFromAxis libm config (.finite x))
            (speedFromAxis libm config (.finite y)), true⟩]) ∧
    (∀ x, (SpeedWithin libm config x ↔
        lroundShare libm config.ptzSpeed x % 2 ^ 32 ≤ config.ptzSpeed) ∧
      (axisSize config.ptzSpeed x < 2 ^ 63 →
        lroundShare libm config.ptzSpeed x = axisSize config.ptzSpeed x)) ∧
    ∀ A : Set ℚ, StarConvex ℚ 0 A →
      ((∀ x ∈ A, SpeedWithin libm config x) ∧
          MonotoneOn (fun x => speedFromAxis libm config (.finite x)) A ↔
        ∀ x ∈ A, axisSize config.ptzSpeed x ≤ config.ptzSpeed) := by
  refine ⟨?_, fun x => ⟨speedWithin_iff hspeed (by omega) x, lroundShare_of_lt (by omega)⟩,
    fun A hA => ⟨?_, fun hle => ⟨?_, ?_⟩⟩⟩
  · intro ctx request around other s t x y hrequest hrun
    obtain ⟨timeoutMs, hcommanded⟩ := commanded_tptzContinuousMove around other ctx hrequest
    obtain ⟨herror, rfl⟩ := hcommanded.of_ok hrun
    have hwrite := (continuousMovePtz_spec libm config (.finite x) (.finite y) timeoutMs
      around.outcome s).1
    exact hwrite.attempts_of_nil herror
  · rintro ⟨hwithin, -⟩ x hx
    rw [← not_lt]
    intro hlt
    -- the range holds the value in between as well
    obtain ⟨c, hc, hc', hnot⟩ := exists_not_speedWithin libm hspeed (by omega) hlt
    exact hnot (hwithin _ (hA.smul_mem hx hc hc'))
  · intro x hx
    have hsize := axisSize_nonneg (zero_le_one.trans hspeed) x
    have hx := hle x hx
    rw [speedWithin_iff hspeed (by omega), lroundShare_of_lt (by omega) (by omega)]
    omega
  · intro x hx y hy hxy
    show speedFromAxis libm config _ ≤ speedFromAxis libm config _
    rw [speedFromAxis_of_le (by omega) (by omega) (hle x hx),
      speedFromAxis_of_le (by omega) (by omega) (hle y hy)]
    exact axisMovement_mono (by omega) hxy

/-- A continuous move by the axis value `x`. -/
def speedRequest (x : ℚ) : TptzContinuousMove where
  profileToken := some mainToken
  velocity := some { panTilt := some ⟨.finite x, .finite 0⟩ }

/-- What a request to a server that has just started does. -/
def speedRun (x : ℚ) : Except Fault Unit × PtzState :=
  (tptzContinuousMove plainLibm openContext (some (speedRequest x))).run
    (ptzHost plainLibm {} {} fun _ => default) {}

/-- Full speed to the left is within the maximum. -/
theorem continuousMove_iff_full : (speedRun (-1)).1 = .ok () ∧
    (speedRun (-1)).2.attempts = [⟨.client, .speed (speedFromAxis plainLibm {} (.finite (-1)))
      (speedFromAxis plainLibm {} (.finite 0)), true⟩] ∧ SpeedWithin plainLibm {} (-1) := by
  have hok : (speedRun (-1)).1 = .ok () := by decide +kernel
  obtain ⟨hsent, hwithin, -⟩ := continuousMove_iff plainLibm
    (show 1 ≤ ({} : Config).ptzSpeed by decide) (show ({} : Config).ptzSpeed ≤ 65535 by decide)
  refine ⟨hok, ?_, (hwithin (-1)).1.mpr (by decide +kernel)⟩
  exact hsent openContext (some (speedRequest (-1))) {} (fun _ => default) {} _ (-1) 0 rfl
    (Prod.ext hok rfl)

/-- The axis value 2 is accepted and sent as twice the maximum. -/
theorem continuousMove_exceeds : (speedRun 2).1 = .ok () ∧
    (speedRun 2).2.attempts = [⟨.client, .speed 60 0, true⟩] ∧ ({} : Config).ptzSpeed = 30 ∧
      ¬SpeedWithin plainLibm {} 2 := by
  have hspeed : speedFromAxis plainLibm {} (.finite 2) = 60 := by decide +kernel
  refine ⟨by decide +kernel, by decide +kernel, rfl, ?_⟩
  rw [SpeedWithin, hspeed]
  decide

end Afterveda.Ptz
