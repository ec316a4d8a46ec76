import Afterveda.Lib.Duration
import Afterveda.Ptz.Equiv.AutoStop
import Afterveda.Onvif.Soap.Ptz

/-!
# The timeout of a continuous move

`parse_ptz_timeout_ms` leaves the reading of each amount to `strtod`.

* `parsePtzTimeoutMs_componentsText`: a sequence of decimal amounts, each with its unit, gives the
  milliseconds that it says, rounded, when these are between one millisecond and an hour.
* `isTimeDuration_iff`: a text that is accepted is an ISO 8601 duration exactly when it is plain;
  what else `strtod` takes for a number is accepted as well, and so are units out of order.
-/

namespace Afterveda.Onvif.Soap

open CText CNumber Duration

/-! ### The loop -/

theorem unitSeconds_letter (u : TimeUnit) : unitSeconds u.letter = some u.seconds := by
  cases u <;> decide

theorem exists_of_unitSeconds {c : UInt8} {size : ℤ} (h : unitSeconds c = some size) :
    ∃ u : TimeUnit, u.letter = c := by
  unfold unitSeconds at h
  split_ifs at h with h1 h2 h3
  · exact ⟨.hour, h1.symm⟩
  · exact ⟨.minute, h2.symm⟩
  · exact ⟨.second, h3.symm⟩

/-- One turn of the loop. -/
theorem sumDuration_succ {cursor : Bytes} (h : cursor ≠ []) (fuel : ℕ) (seconds : Double) :
    sumDuration (fuel + 1) cursor seconds =
      match strtod cursor with
      | some (amount, unit :: rest) =>
        if strtodRange cursor ∨ amount.lt 0 then none
        else
          match unitSeconds unit with
          | none => none
          | some size => sumDuration fuel rest (seconds.add (amount.scale size))
      | _ => none := by
  cases cursor with
  | nil => exact absurd rfl h
  | cons c cursor => rfl

/-- The loop adds up the components. -/
theorem sumDuration_componentsText {cs : List Component} (hrange : ∀ c ∈ cs, c.amount.InRange)
    {fuel : ℕ} (hfuel : cs.length ≤ fuel) (seconds : ℚ) :
    sumDuration fuel (componentsText cs) (.finite seconds) =
      some (.finite (seconds + total cs)) := by
  induction cs generalizing fuel seconds with
  | nil =>
    have htotal : total [] = 0 := rfl
    rw [htotal, add_zero]
    cases fuel <;> rfl
  | cons c cs ih =>
    obtain ⟨fuel, rfl⟩ : ∃ k, fuel = k + 1 := ⟨fuel - 1, by simp at hfuel; omega⟩
    have htext : componentsText (c :: cs) =
        c.amount.text ++ c.unit.letter :: componentsText cs := by
      show c.amount.text ++ [c.unit.letter] ++ componentsText cs = _
      rw [List.append_assoc, List.singleton_append]
    have hamount := hrange c (List.mem_cons_self ..)
    obtain ⟨hread, hrangeError⟩ :=
      strtod_numeral c.amount (numberEnd_letter c.unit (componentsText cs))
    have hvalue : toDouble c.amount.value = .finite c.amount.value :=
      toDouble_of_lt (by rw [abs_of_nonneg c.amount.value_nonneg]; exact hamount.1)
    have hsign : (Double.finite c.amount.value).lt 0 = false :=
      decide_eq_false (not_lt.mpr c.amount.value_nonneg)
    -- one round: the amount is neither out of range nor negative, and its seconds are added
    rw [htext, sumDuration_succ (by simp), hread, hvalue]
    dsimp only
    rw [hrangeError.mpr hamount, hsign, if_neg (by simp), unitSeconds_letter]
    dsimp only [Double.scale, Double.add]
    rw [ih (fun d hd => hrange d (List.mem_cons_of_mem c hd)) (by simpa using hfuel)]
    have htotal : total (c :: cs) = c.seconds + total cs := by
      rw [total, List.map_cons, List.sum_cons]
      rfl
    rw [htotal, ← add_assoc]
    rfl

/-- A plain text that the loop gets through is a sequence of components. -/
theorem exists_components_of_sumDuration {fuel : ℕ} {s : Bytes} {seconds x : Double}
    (hbytes : ∀ c ∈ s, DurationByte c) (hpoints : PointsInside s)
    (h : sumDuration fuel s seconds = some x) : ∃ cs, s = componentsText cs := by
  induction fuel generalizing s seconds with
  | zero =>
    cases s with
    | nil => exact ⟨[], rfl⟩
    | cons c s => exact nomatch h
  | succ fuel ih =>
    by_cases hs : s = []
    · exact ⟨[], hs⟩
    · rw [sumDuration_succ hs] at h
      split at h
      · rename_i amount unit rest hread
        split_ifs at h
        split at h
        · cases h
        · rename_i size hsize
          -- what was read before the letter of a unit is a numeral
          obtain ⟨u, rfl⟩ := exists_of_unitSeconds hsize
          obtain ⟨n, rfl⟩ := exists_numeral_of_strtod hbytes hpoints hread
          have hletter : isDigit u.letter = false := by
            cases u <;> decide
          obtain ⟨cs, rfl⟩ := ih (fun c hc => hbytes c (by simp [hc])) (hpoints.tail hletter) h
          refine ⟨⟨n, u⟩ :: cs, ?_⟩
          show _ = n.text ++ [u.letter] ++ componentsText cs
          rw [List.append_assoc, List.singleton_append]
      · cases h

/-! ### The value of a timeout -/

theorem notMem_durationText (cs : List Component) : 0 ∉ durationText cs := by
  intro h
  rcases List.mem_append.mp h with h | h
  · exact absurd h (by decide)
  · rcases mem_componentsText h with h | h | h
    · exact absurd h (by decide)
    · exact absurd h (by decide)
    · exact absurd h (by decide)

/-- The text of a duration as it comes with a request. -/
def durationArgument (cs : List Component) : CStr := ⟨durationText cs, notMem_durationText cs⟩

theorem length_le_componentsText (cs : List Component) :
    cs.length ≤ (componentsText cs).length := by
  induction cs with
  | nil => exact le_rfl
  | cons c cs ih =>
    show cs.length + 1 ≤ (c.amount.text ++ [c.unit.letter] ++ componentsText cs).length
    simp only [List.length_append, List.length_singleton]
    omega

/-- The checks behind the loop. -/
def timeoutOf (libm : Libm) (seconds : Double) : Option ℤ :=
  if seconds.le 0 ∨ seconds.gt 3600 then none
  else if 0 < wrap32 (lround libm (seconds.scale 1000)) then
    some (wrap32 (lround libm (seconds.scale 1000)))
  else none

theorem parsePtzTimeoutMs_eq (libm : Libm) {value : CStr} (hne : value.val ≠ []) :
    parsePtzTimeoutMs libm (some value) =
      if ¬bytes "PT" <+: value.val ∨ value.val.length ≤ 2 then none
      else (sumDuration value.val.length (value.val.drop 2) (.finite 0)).bind (timeoutOf libm) := by
  have hvalue : stringValue (some value) = value.val := rfl
  unfold parsePtzTimeoutMs
  dsimp only
  rw [hvalue, if_neg hne]
  cases sumDuration value.val.length (value.val.drop 2) (.finite 0) <;> rfl

/-- Up to an hour the rounded milliseconds fit an `int`. -/
theorem roundHalfAway_millis_le {t : ℚ} (h : 0 < t) (h' : t ≤ 3600) :
    roundHalfAway (1000 * t) ≤ 3600000 := by
  rw [roundHalfAway_le_iff (by positivity)]
  push_cast
  linarith

theorem timeoutOf_finite (libm : Libm) (t : ℚ) : timeoutOf libm (.finite t) =
    if 0 < t ∧ t ≤ 3600 ∧ 1 ≤ roundHalfAway (1000 * t) then some (roundHalfAway (1000 * t))
    else none := by
  have hle : (Double.finite t).le 0 = decide (t ≤ 0) := rfl
  have hgt : (Double.finite t).gt 3600 = decide (3600 < t) := rfl
  have hscale : (Double.finite t).scale 1000 = .finite (1000 * t) := by
    show Double.finite ((1000 : ℤ) * t) = _
    norm_num
  simp only [timeoutOf, hle, hgt, hscale, decide_eq_true_eq]
  by_cases hlow : t ≤ 0
  · rw [if_pos (Or.inl hlow), if_neg fun h => absurd h.1 (not_lt.mpr hlow)]
  · by_cases hhigh : 3600 < t
    · rw [if_pos (Or.inr hhigh), if_neg fun h => absurd h.2.1 (not_le.mpr hhigh)]
    · have hpos := not_le.mp hlow
      have hmillis := roundHalfAway_millis_le hpos (not_lt.mp hhigh)
      have hnonneg : 0 ≤ roundHalfAway (1000 * t) := roundHalfAway_nonneg (by positivity)
      have hround : lround libm (.finite (1000 * t)) = roundHalfAway (1000 * t) :=
        lround_finite libm (by positivity) (by omega)
      have hint : wrap32 (roundHalfAway (1000 * t)) = roundHalfAway (1000 * t) := by
        apply wrap32_of_isInt32
        unfold IsInt32
        omega
      rw [if_neg (not_or.mpr ⟨hlow, hhigh⟩), hround, hint]
      simp only [hpos, not_lt.mp hhigh, true_and]
      rfl

/-- **The value of a timeout**: a sequence of components whose amounts a `double` can hold is
accepted exactly when its seconds are more than none, no more than an hour and round to a
millisecond at least; the timeout is then the rounded number of milliseconds. -/
theorem parsePtzTimeoutMs_componentsText (libm : Libm) {cs : List Component} (hne : cs ≠ [])
    (hrange : ∀ c ∈ cs, c.amount.InRange) :
    (parsePtzTimeoutMs libm (some (durationArgument cs)) =
      if 0 < total cs ∧ total cs ≤ 3600 ∧ 1 ≤ roundHalfAway (1000 * total cs) then
        some (roundHalfAway (1000 * total cs))
      else none) ∧
    ∀ ms ∈ parsePtzTimeoutMs libm (some (durationArgument cs)), 1 ≤ ms ∧ ms ≤ 3600000 := by
  have hlength := length_le_componentsText cs
  have hpos : 0 < cs.length := List.length_pos_of_ne_nil hne
  have hsize : (durationArgument cs).val.length = 2 + (componentsText cs).length :=
    List.length_append
  have hprefix : bytes "PT" <+: (durationArgument cs).val := List.prefix_append _ _
  have hdrop : (durationArgument cs).val.drop 2 = componentsText cs := rfl
  have hloop := sumDuration_componentsText hrange (show cs.length ≤
    (durationArgument cs).val.length by omega) 0
  have hresult : parsePtzTimeoutMs libm (some (durationArgument cs)) =
      if 0 < total cs ∧ total cs ≤ 3600 ∧ 1 ≤ roundHalfAway (1000 * total cs) then
        some (roundHalfAway (1000 * total cs))
      else none := by
    rw [parsePtzTimeoutMs_eq libm (List.ne_nil_of_length_pos (by omega)),
      if_neg (not_or.mpr ⟨not_not.mpr hprefix, by omega⟩), hdrop, hloop, zero_add]
    exact timeoutOf_finite libm (total cs)
  refine ⟨hresult, ?_⟩
  intro ms hms
  rw [hresult] at hms
  split_ifs at hms with hcond
  · obtain rfl := Option.some.inj hms
    exact ⟨hcond.2.2, roundHalfAway_millis_le hcond.1 hcond.2.1⟩
  · cases hms

/-- A minute and a half: `PT1M30.0S`. -/
def ninetySeconds : List Component :=
  [⟨⟨bytes "1", [], by decide, List.all_eq_true.mp (by decide), nofun⟩, .minute⟩,
    ⟨⟨bytes "30", bytes "0", by decide, List.all_eq_true.mp (by decide),
      List.all_eq_true.mp (by decide)⟩, .second⟩]

theorem parsePtzTimeoutMs_componentsText_ninety :
    parsePtzTimeoutMs Ptz.plainLibm (some (durationArgument ninetySeconds)) = some 90000 := by
  have hrange : ∀ c ∈ ninetySeconds, c.amount.InRange := by
    intro c hc
    unfold Numeral.InRange
    rcases List.mem_cons.mp hc with rfl | hc
    · decide +kernel
    · rw [List.mem_singleton.mp hc]
      decide +kernel
  rw [(parsePtzTimeoutMs_componentsText Ptz.plainLibm (by simp [ninetySeconds]) hrange).1]
  decide +kernel

/-! ### The accepted texts -/

/-- An ISO 8601 duration is plain behind its `PT`. -/
theorem plain_of_isTimeDuration {s : Bytes} (h : IsTimeDuration s) : Plain (s.drop 2) := by
  obtain ⟨cs, -, hunits, rfl⟩ := h
  exact plain_componentsText.mpr hunits

/-- **The accepted texts**: one that is accepted is an ISO 8601 duration in hours, minutes and
seconds exactly when behind its `PT` it holds digits, points between two digits, and the letters of
units, each at most once and in order. -/
theorem isTimeDuration_iff (libm : Libm) {value : CStr} (hne : value.val ≠ []) {ms : ℤ}
    (h : parsePtzTimeoutMs libm (some value) = some ms) :
    IsTimeDuration value.val ↔ Plain (value.val.drop 2) := by
  refine ⟨plain_of_isTimeDuration, fun hplain => ?_⟩
  rw [parsePtzTimeoutMs_eq libm hne] at h
  split_ifs at h with hprefix
  rw [not_or, not_not, not_le] at hprefix
  obtain ⟨⟨s, hs⟩, hlength⟩ := hprefix
  have hdrop : value.val.drop 2 = s := by
    rw [← hs]
    rfl
  rw [hdrop] at h hplain
  -- the loop has read the text to its end
  obtain ⟨seconds, hloop, -⟩ := Option.bind_eq_some_iff.mp h
  obtain ⟨cs, rfl⟩ := exists_components_of_sumDuration hplain.bytes hplain.points hloop
  refine ⟨cs, ?_, plain_componentsText.mp hplain, hs.symm⟩
  rintro rfl
  rw [← hs] at hlength
  exact absurd hlength (by decide)

/-- The accepted `PT1M30.0S` is a duration. -/
theorem isTimeDuration_iff_ninety : IsTimeDuration (durationText ninetySeconds) := by
  have haccepted : parsePtzTimeoutMs Ptz.plainLibm (some (durationArgument ninetySeconds)) =
      some 90000 := by
    decide +kernel
  exact (isTimeDuration_iff Ptz.plainLibm (by decide) haccepted).mpr
    (plain_componentsText.mpr (by decide))

/-- Ten hexadecimal seconds with a sign. -/
def hexSeconds : CStr := ⟨bytes "PT+0xAS", by decide⟩

/-- They are accepted as ten seconds, and are no ISO 8601 duration. -/
theorem hexSeconds_accepted :
    parsePtzTimeoutMs Ptz.plainLibm (some hexSeconds) = some 10000 ∧
      ¬IsTimeDuration hexSeconds.val := by
  refine ⟨by decide +kernel, fun h => ?_⟩
  -- a sign is no byte of a duration
  have hplus : DurationByte 43 := (plain_of_isTimeDuration h).bytes 43 (by decide)
  exact absurd rfl hplus.plain.2.2.1

end Afterveda.Onvif.Soap
