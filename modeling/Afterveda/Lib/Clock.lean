import Afterveda.Lib.DateTime

/-!
# Clocks

`gmtime` and `timegm` are inverse to each other on every second (`timegm_gmtime`), `gmtime` gives
dates of the calendar, and what `formatUtc` writes of a second is the dateTime that falls into it
(`exists_utcDateTime`), as long as the year has four digits.
-/

namespace Calendar

open CText DateTime

/-! ### Days -/

/-- The day of the year in an era of 400 years, where the year is counted from March: the days of
the era, the year and the day in it. -/
theorem dayOfYear_bounds {d a b c y : ℤ} (h0 : 0 ≤ d) (h1 : d < 146097) (ha : a = d / 1460)
    (hb : b = d / 36524) (hc : c = d / 146096) (hy : y = (d - a + b - c) / 365) :
    0 ≤ d - (365 * y + y / 4 - y / 100) ∧ d - (365 * y + y / 4 - y / 100) ≤ 365 ∧
      (d - (365 * y + y / 4 - y / 100) = 365 →
        (y + 1) % 4 = 0 ∧ ((y + 1) % 100 ≠ 0 ∨ (y + 1) % 400 = 0)) := by
  have hlast : c = 0 ∧ d < 146096 ∨ c = 1 ∧ d = 146096 := by omega
  rcases hlast with ⟨rfl, -⟩ | ⟨-, rfl⟩
  · -- `a` counts cycles of four years, of which 25 make a century, and `b` centuries
    have hcentury : a / 25 = 0 ∨ a / 25 = 1 ∨ a / 25 = 2 ∨ a / 25 = 3 ∨ a / 25 = 4 := by omega
    have hleaps : b = a / 25 ∨ b = a / 25 - 1 := by omega
    have hyear : y = 4 * a - 1 ∨ y = 4 * a ∨ y = 4 * a + 1 ∨ y = 4 * a + 2 ∨ y = 4 * a + 3 := by
      omega
    obtain ⟨r, hr⟩ : ∃ r, d = 1460 * a + r := ⟨d - 1460 * a, by omega⟩
    have hr0 : 0 ≤ r := by omega
    have hr1 : r < 1460 := by omega
    clear ha hc
    rcases hcentury with h | h | h | h | h <;> rw [h] at hleaps <;>
      rcases hleaps with rfl | rfl <;> rcases hyear with rfl | rfl | rfl | rfl | rfl <;>
      subst hr <;> omega
  · subst ha hb hc hy
    decide

theorem yearOfEra_bounds {d a b c y : ℤ} (h0 : 0 ≤ d) (h1 : d < 146097) (ha : a = d / 1460)
    (hb : b = d / 36524) (hc : c = d / 146096) (hy : y = (d - a + b - c) / 365) :
    0 ≤ y ∧ y < 400 := by
  omega

/-- A day of the year, and the month and the day it is. -/
theorem month_bounds {n m : ℤ} (h0 : 0 ≤ n) (h1 : n ≤ 365) (hm : m = (5 * n + 2) / 153) :
    0 ≤ m ∧ m ≤ 11 := by
  omega

/-- What `civilFromDays` computes with: the era of 400 years, the year in it that begins in March,
and the day of that year. -/
theorem exists_civilFromDays (days : ℤ) : ∃ era y n m : ℤ, 0 ≤ y ∧ y < 400 ∧ 0 ≤ n ∧ n ≤ 365 ∧
    (n = 365 → (y + 1) % 4 = 0 ∧ ((y + 1) % 100 ≠ 0 ∨ (y + 1) % 400 = 0)) ∧
    m = (5 * n + 2) / 153 ∧ days + 719468 = era * 146097 + (y * 365 + y / 4 - y / 100 + n) ∧
    civilFromDays days = (y + era * 400 + (if m < 10 then 0 else 1),
      if m < 10 then m + 3 else m - 9, n - (153 * m + 2) / 5 + 1) := by
  obtain ⟨d, hd⟩ : ∃ d, d = (days + 719468) % 146097 := ⟨_, rfl⟩
  obtain ⟨y, hy⟩ : ∃ y, y = (d - d / 1460 + d / 36524 - d / 146096) / 365 := ⟨_, rfl⟩
  obtain ⟨n, hn⟩ : ∃ n, n = d - (365 * y + y / 4 - y / 100) := ⟨_, rfl⟩
  obtain ⟨m, hm⟩ : ∃ m, m = (5 * n + 2) / 153 := ⟨_, rfl⟩
  have h0 : 0 ≤ d := by omega
  have h1 : d < 146097 := by omega
  obtain ⟨hy0, hy1⟩ := yearOfEra_bounds h0 h1 rfl rfl rfl hy
  obtain ⟨hn0, hn1, hleap⟩ := dayOfYear_bounds h0 h1 rfl rfl rfl hy
  rw [← hn] at hn0 hn1 hleap
  obtain ⟨hm0, hm1⟩ := month_bounds hn0 hn1 hm
  refine ⟨(days + 719468) / 146097, y, n, m, hy0, hy1, hn0, hn1, hleap, hm, by omega, ?_⟩
  have hmonth : (if (if m < 10 then m + 3 else m - 9) ≤ 2 then (1 : ℤ) else 0) =
      if m < 10 then 0 else 1 := by
    split_ifs <;> omega
  unfold civilFromDays
  dsimp only
  rw [← hd, ← hy, ← hn, ← hm, hmonth]

/-- A day becomes a date and the same day again. -/
theorem daysFromCivil_civilFromDays (days : ℤ) :
    daysFromCivil (civilFromDays days).1 (civilFromDays days).2.1 (civilFromDays days).2.2 =
      days := by
  obtain ⟨era, y, n, m, hy0, hy1, hn0, hn1, -, hm, hdays, hcivil⟩ := exists_civilFromDays days
  obtain ⟨hm0, hm1⟩ := month_bounds hn0 hn1 hm
  rw [hcivil]
  unfold daysFromCivil
  dsimp only
  by_cases hmonth : m < 10
  · have hyear : (y + era * 400) / 400 = era ∧ (y + era * 400) % 400 = y := by omega
    simp only [hmonth, if_true, add_zero, show ¬m + 3 ≤ 2 by omega, if_false, hyear,
      add_sub_cancel_right]
    omega
  · have hyear : (y + era * 400 + 1 - 1) / 400 = era ∧ (y + era * 400 + 1 - 1) % 400 = y := by omega
    simp only [hmonth, if_false, show m - 9 ≤ 2 by omega, if_true, hyear, sub_add_cancel]
    omega

theorem daysInMonth_le (year month : ℤ) : daysInMonth year month ≤ 31 := by
  unfold daysInMonth
  split_ifs <;> omega

/-- A date is one of the calendar. -/
theorem civilFromDays_mem (days : ℤ) :
    1 ≤ (civilFromDays days).2.1 ∧ (civilFromDays days).2.1 ≤ 12 ∧
      1 ≤ (civilFromDays days).2.2 ∧
      (civilFromDays days).2.2 ≤ daysInMonth (civilFromDays days).1 (civilFromDays days).2.1 := by
  obtain ⟨era, y, n, m, hy0, hy1, hn0, hn1, hleap, hm, -, hcivil⟩ := exists_civilFromDays days
  obtain ⟨hm0, hm1⟩ := month_bounds hn0 hn1 hm
  rw [hcivil]
  unfold daysInMonth
  dsimp only
  refine ⟨?_, ?_, ?_, ?_⟩
  · split_ifs <;> omega
  · split_ifs <;> omega
  · omega
  · -- the months from March on have 153 days in five, and the year ends with February
    by_cases hmonth : m < 10
    · simp only [hmonth, if_true]
      split_ifs <;> omega
    · simp only [hmonth, if_false]
      split_ifs <;> omega

/-! ### Seconds -/

/-- `timegm` undoes `gmtime`. -/
theorem timegm_gmtime (t : ℤ) : timegm (gmtime t) = t := by
  have hdays := daysFromCivil_civilFromDays (t / 86400)
  unfold timegm gmtime
  dsimp only
  rw [hdays]
  omega

theorem gmtime_date (t : ℤ) :
    1 ≤ (gmtime t).month ∧ (gmtime t).month ≤ 12 ∧ 1 ≤ (gmtime t).day ∧
      (gmtime t).day ≤ daysInMonth (gmtime t).year (gmtime t).month :=
  civilFromDays_mem (t / 86400)

/-- What is left over of a day. -/
theorem gmtime_time (t : ℤ) :
    0 ≤ (gmtime t).hour ∧ (gmtime t).hour ≤ 23 ∧ 0 ≤ (gmtime t).minute ∧ (gmtime t).minute ≤ 59 ∧
      0 ≤ (gmtime t).second ∧ (gmtime t).second ≤ 59 := by
  unfold gmtime
  dsimp only
  omega

/-! ### Texts -/

theorem length_natDecimal {n k : ℕ} (hlow : 10 ^ k ≤ n) (hhigh : n < 10 ^ (k + 1)) :
    (natDecimal n).length = k + 1 := by
  have hpos : 0 < 10 ^ k := Nat.pow_pos (by omega)
  have hne : n ≠ 0 := by omega
  have hmore : k < (Nat.digits 10 n).length := (Nat.lt_digits_length_iff (by omega) n).mpr hlow
  have hless : (Nat.digits 10 n).length ≤ k + 1 :=
    (Nat.digits_length_le_iff (by omega) n).mpr hhigh
  rw [natDecimal, if_neg hne, List.length_map, List.length_reverse]
  omega

theorem toDecimal_of_nonneg {n : ℤ} (h : 0 ≤ n) : toDecimal n = natDecimal n.natAbs := by
  rw [toDecimal, if_neg (by omega)]

/-- A number of so many digits. -/
theorem exists_digits {n : ℤ} {k : ℕ} (hlow : 10 ^ k ≤ n) (hhigh : n < 10 ^ (k + 1)) :
    ∃ ds : Digits, ds.val = toDecimal n ∧ ds.val.length = k + 1 ∧ ds.value = n := by
  have hnonneg : 0 ≤ n := le_trans (by positivity) hlow
  lift n to ℕ using hnonneg
  have hdigits : ∀ c ∈ toDecimal n, isDigit c = true := by
    intro c hc
    rw [toDecimal_of_nonneg (by omega)] at hc
    exact isDigit_of_mem_natDecimal hc
  refine ⟨⟨toDecimal n, hdigits⟩, rfl, ?_, ?_⟩
  · show (toDecimal n).length = k + 1
    rw [toDecimal_of_nonneg (by omega), Int.natAbs_natCast]
    exact length_natDecimal (by exact_mod_cast hlow) (by exact_mod_cast hhigh)
  · show ((digitsValue (toDecimal n) : ℕ) : ℤ) = n
    rw [toDecimal_of_nonneg (by omega), Int.natAbs_natCast, digitsValue_natDecimal]

theorem exists_twoDigits {n : ℤ} (hlow : 0 ≤ n) (hhigh : n ≤ 99) :
    ∃ ds : Digits, ds.val = twoDigits n ∧ ds.val.length = 2 ∧ ds.value = n := by
  by_cases hten : n < 10
  · lift n to ℕ using hlow
    have htext : twoDigits n = [48] ++ natDecimal n := by
      rw [twoDigits, if_pos hten, toDecimal_of_nonneg (by omega), Int.natAbs_natCast]
      rfl
    have hdigits : ∀ c ∈ [48] ++ natDecimal n, isDigit c = true := by
      intro c hc
      rcases List.mem_append.mp hc with hc | hc
      · obtain rfl := List.mem_singleton.mp hc
        rfl
      · exact isDigit_of_mem_natDecimal hc
    have hlength : (natDecimal n).length = 1 := by
      cases n with
      | zero => rfl
      | succ n => exact length_natDecimal (by omega) (by omega)
    refine ⟨⟨[48] ++ natDecimal n, hdigits⟩, htext.symm, ?_, ?_⟩
    · show ([48] ++ natDecimal n).length = 2
      rw [List.length_append, hlength]
      rfl
    · show ((digitsValue ([48] ++ natDecimal n) : ℕ) : ℤ) = n
      rw [digitsValue_append, digitsValue_natDecimal]
      simp [digitsValue, digitValue]
  · have htext : twoDigits n = toDecimal n := if_neg hten
    rw [htext]
    exact exists_digits (k := 1) (by omega) (by omega)

theorem notMem_formatUtc (tm : Tm) : 0 ∉ formatUtc tm := by
  have hdecimal : ∀ n : ℤ, 0 ∉ toDecimal n := by
    intro n h
    rcases mem_toDecimal h with h | h <;> exact absurd h (by decide)
  have htwo : ∀ n : ℤ, 0 ∉ twoDigits n := by
    intro n h
    unfold twoDigits at h
    split_ifs at h
    · rcases List.mem_cons.mp h with h | h
      · exact absurd h (by decide)
      · exact hdecimal n h
    · exact hdecimal n h
  unfold formatUtc
  simp only [List.mem_append, hdecimal, htwo, or_false, false_or]
  decide

/-- The text of a time with a year of four digits is one that `%Y-%m-%dT%H:%M:%SZ` reads. -/
theorem exists_fields {tm : Tm} (hyear : 1000 ≤ tm.year ∧ tm.year ≤ 9999)
    (hmonth : 0 ≤ tm.month ∧ tm.month ≤ 99) (hday : 0 ≤ tm.day ∧ tm.day ≤ 99)
    (hhour : 0 ≤ tm.hour ∧ tm.hour ≤ 99) (hminute : 0 ≤ tm.minute ∧ tm.minute ≤ 99)
    (hsecond : 0 ≤ tm.second ∧ tm.second ≤ 99) :
    ∃ f : Fields, formatUtc tm = f.text [90] ∧ f.tm = tm ∧ f.year.val.length = 4 ∧
      f.TwoDigits := by
  obtain ⟨year, hyearText, hyearLength, hyearValue⟩ :=
    exists_digits (n := tm.year) (k := 3) (by omega) (by omega)
  obtain ⟨month, hmonthText, hmonthLength, hmonthValue⟩ := exists_twoDigits hmonth.1 hmonth.2
  obtain ⟨day, hdayText, hdayLength, hdayValue⟩ := exists_twoDigits hday.1 hday.2
  obtain ⟨hour, hhourText, hhourLength, hhourValue⟩ := exists_twoDigits hhour.1 hhour.2
  obtain ⟨minute, hminuteText, hminuteLength, hminuteValue⟩ :=
    exists_twoDigits hminute.1 hminute.2
  obtain ⟨second, hsecondText, hsecondLength, hsecondValue⟩ :=
    exists_twoDigits hsecond.1 hsecond.2
  refine ⟨⟨year, month, day, hour, minute, second⟩, ?_, ?_, hyearLength,
    ⟨hmonthLength, hdayLength, hhourLength, hminuteLength, hsecondLength⟩⟩
  · unfold formatUtc Fields.text
    rw [hyearText, hmonthText, hdayText, hhourText, hminuteText, hsecondText]
    have hhyphen : bytes "-" = [45] := rfl
    have hcolon : bytes ":" = [58] := rfl
    have htee : bytes "T" = [84] := rfl
    have hzed : bytes "Z" = [90] := rfl
    rw [hhyphen, hcolon, htee, hzed]
    simp only [List.append_assoc, List.cons_append, List.nil_append]
  · unfold Fields.tm
    rw [hyearValue, hmonthValue, hdayValue, hhourValue, hminuteValue, hsecondValue]

/-- What is written of a second is the dateTime that falls into it. -/
theorem exists_utcDateTime {t : ℤ} (hyear : 1000 ≤ (gmtime t).year ∧ (gmtime t).year ≤ 9999) :
    ∃ d : UtcDateTime, d.text = formatUtc (gmtime t) ∧ d.Plain ∧ d.epochSecond = t := by
  obtain ⟨hmonth0, hmonth1, hday0, hday1⟩ := gmtime_date t
  obtain ⟨hhour0, hhour1, hminute0, hminute1, hsecond0, hsecond1⟩ := gmtime_time t
  have hlast := daysInMonth_le (gmtime t).year (gmtime t).month
  obtain ⟨f, htext, htm, hlength, htwo⟩ := exists_fields hyear (by omega) (by omega) (by omega)
    (by omega) (by omega)
  have hvalues : f.year.value = (gmtime t).year ∧ f.month.value = (gmtime t).month ∧
      f.day.value = (gmtime t).day ∧ f.hour.value = (gmtime t).hour ∧
      f.minute.value = (gmtime t).minute ∧ f.second.value = (gmtime t).second := by
    rw [← htm]
    exact ⟨rfl, rfl, rfl, rfl, rfl, rfl⟩
  obtain ⟨hy, hmo, hd, hh, hmi, hs⟩ := hvalues
  let d : UtcDateTime :=
    { negative := false
      fields := f
      fraction := none
      year := ⟨by omega, fun h => absurd hlength (by omega)⟩
      twoDigits := htwo
      fraction_ne_nil := by simp
      month := by omega
      day := by
        rw [hd, hmo]
        show _ ∧ _ ≤ daysInMonth f.year.value _
        rw [hy]
        exact ⟨hday0, hday1⟩
      time := Or.inl (by omega) }
  have hplain : d.Plain := ⟨rfl, hlength, rfl, by show f.hour.value ≤ 23; omega⟩
  refine ⟨d, ?_, hplain, ?_⟩
  · rw [hplain.text_eq, htext]
  · rw [hplain.epochSecond_eq]
    show timegm f.tm = t
    rw [htm, timegm_gmtime]

end Calendar
