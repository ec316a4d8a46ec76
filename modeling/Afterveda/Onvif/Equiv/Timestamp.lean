import Afterveda.Lib.DateTime
import Afterveda.Onvif.Utils

/-!
# Timestamps

`utc_timestamp_within` reads a fixed format.  A dateTime may have parts that the format has no place
for, and then it is refused; text around the format and numbers that are none of a calendar are
passed over, and then what is no dateTime is accepted.  `utcTimestampWithin_iff` says that these,
and the second before the epoch, which stands for an error, are the only timestamps that are
mishandled.
-/

namespace Afterveda.Onvif

open CText Calendar DateTime

variable {getTime : Bytes → Option Tm}

theorem utcTimestampWithin_eq_true_iff {now tolerance : ℤ} {value : Bytes} :
    utcTimestampWithin getTime now value tolerance = true ↔
      ∃ tm, getTime value = some tm ∧ timegm tm ≠ -1 ∧ |now - timegm tm| ≤ tolerance := by
  unfold utcTimestampWithin
  cases getTime value with
  | none => simp
  | some tm =>
    dsimp only
    split_ifs with hminusOne
    · simp [hminusOne]
    · simp [hminusOne]

/-! ### What is mishandled -/

/-- The text read is none of a dateTime: something stands around it, a number has too few digits,
the day is past the end of the month, or the minute has a leap second. -/
def Deviates (spaces rest : Bytes) (f : Fields) : Prop :=
  spaces ≠ [] ∨ rest ≠ [] ∨ f.year.val.length ≠ 4 ∨ ¬f.TwoDigits ∨
    daysInMonth f.year.value f.month.value < f.day.value ∨ f.second.value = 60

/-- The timestamps of second `t` that are not handled as dateTimes. -/
inductive Mishandled (getTime : Bytes → Option Tm) (value : Bytes) (t : ℤ) : Prop
  /-- Accepted, though it is no dateTime. -/
  | malformed {spaces rest : Bytes} {f : Fields} (hspaces : ∀ c ∈ spaces, isSpace c = true)
      (hvalue : value = spaces ++ f.text (90 :: rest)) (hdeviates : Deviates spaces rest f)
      (hread : getTime value = some f.tm) (htime : timegm f.tm = t) (hminusOne : t ≠ -1)
  /-- Refused, though it is a dateTime: it has a sign, a year of more than four digits, a fraction
  or the hour 24. -/
  | refused {d : UtcDateTime} (hvalue : d.text = value) (htime : d.epochSecond = t)
      (hplain : ¬d.Plain)
  /-- Refused, though it is a dateTime: the second before the epoch. -/
  | minusOne {d : UtcDateTime} (hvalue : d.text = value) (htime : d.epochSecond = t)
      (hminusOne : t = -1)

/-! ### Texts that are read -/

/-- A text that is read and does not deviate is a dateTime. -/
theorem exists_plain {f : Fields} (hyear : f.year.val.length = 4) (htwo : f.TwoDigits)
    (hrange : f.InRange) (hday : f.day.value ≤ daysInMonth f.year.value f.month.value)
    (hsecond : f.second.value ≤ 59) :
    ∃ d : UtcDateTime, d.text = f.text [90] ∧ d.epochSecond = timegm f.tm :=
  ⟨{ negative := false
     fields := f
     fraction := none
     year := ⟨le_of_eq hyear.symm, fun h => absurd hyear (by omega)⟩
     twoDigits := htwo
     fraction_ne_nil := by simp
     month := hrange.month
     day := ⟨hrange.day.1, hday⟩
     time := Or.inl ⟨hrange.hour, hrange.minute, hsecond⟩ }, rfl, rfl⟩

theorem FallsInto.of_read (h : ReadsFormat getTime) {value : Bytes} {tm : Tm}
    (hread : getTime value = some tm) (hminusOne : timegm tm ≠ -1) :
    FallsInto value (timegm tm) ∨ Mishandled getTime value (timegm tm) := by
  obtain ⟨spaces, rest, f, hspaces, hvalue, -, -, hrange, rfl⟩ := h.sound hread
  by_cases hdeviates : Deviates spaces rest f
  · exact Or.inr (.malformed hspaces hvalue hdeviates hread rfl hminusOne)
  · unfold Deviates at hdeviates
    push Not at hdeviates
    obtain ⟨rfl, rfl, hyear, htwo, hday, hsecond⟩ := hdeviates
    have hleap := hrange.second
    obtain ⟨d, htext, htime⟩ := exists_plain hyear htwo hrange hday (by omega)
    exact Or.inl ⟨d, htext.trans hvalue.symm, htime⟩

theorem read_of_plain (h : ReadsWhole getTime) {d : UtcDateTime} (hplain : d.Plain) :
    getTime d.text = some d.fields.tm := by
  rw [hplain.text_eq]
  exact h.complete d.fields [] hplain.year d.twoDigits hplain.inRange

/-- What is read of a dateTime is the whole of it. -/
theorem plain_of_read (h : ReadsFormat getTime) {d : UtcDateTime} {tm : Tm}
    (hread : getTime d.text = some tm) : d.Plain := by
  obtain ⟨spaces, rest, f, hspaces, hvalue, hne, hyear, hrange, rfl⟩ := h.sound hread
  exact UtcDateTime.plain_of_text_eq hspaces hne hyear hrange.hour hvalue

/-- A text that deviates is no dateTime. -/
theorem not_deviates {d : UtcDateTime} {spaces rest : Bytes} {f : Fields} {tm : Tm}
    (h : ReadsFormat getTime) (hread : getTime d.text = some tm)
    (hspaces : ∀ c ∈ spaces, isSpace c = true) (hvalue : d.text = spaces ++ f.text (90 :: rest)) :
    ¬Deviates spaces rest f := by
  have hplain := plain_of_read h hread
  have hskip := congrArg (List.dropWhile isSpace) hvalue
  rw [dropWhile_isSpace hspaces, hplain.text_eq, d.fields.dropWhile_text] at hskip
  obtain ⟨hfields, hrest⟩ := Fields.text_inj (noDigitHead_cons (by decide) [])
    (noDigitHead_cons (by decide) rest) hskip
  obtain rfl := (List.cons.inj hrest).2
  rw [hplain.text_eq, ← hfields] at hvalue
  have hnil : spaces = [] := List.append_left_eq_self.mp hvalue.symm
  rintro (hne | hne | hyear | htwo | hday | hsecond)
  · exact hne hnil
  · exact hne rfl
  · exact hyear (hfields ▸ hplain.year)
  · exact htwo (hfields ▸ d.twoDigits)
  · have hlast := d.day.2
    rw [hplain.negative, hfields] at hlast
    exact absurd hday (not_lt.mpr hlast)
  · have htime := d.time
    have hhour := hplain.hour
    rw [hfields] at htime hhour
    omega

/-- Other dateTimes than these are not mishandled. -/
theorem not_mishandled_of_plain (h : ReadsFormat getTime) {d : UtcDateTime} (hplain : d.Plain)
    (hminusOne : d.epochSecond ≠ -1) (t : ℤ) : ¬Mishandled getTime d.text t := by
  have hread := read_of_plain h.toReadsWhole hplain
  intro hmishandled
  cases hmishandled with
  | malformed hspaces hvalue hdeviates _ _ _ => exact not_deviates h hread hspaces hvalue hdeviates
  | @refused d' hvalue _ hnot =>
    rw [← hvalue] at hread
    exact hnot (plain_of_read h hread)
  | @minusOne d' hvalue htime ht =>
    have hread' := hread
    rw [← hvalue] at hread'
    have hplain' := plain_of_read h hread'
    have hsame := hread'.symm.trans (read_of_plain h.toReadsWhole hplain')
    rw [hplain.epochSecond_eq, Option.some.inj hsame, ← hplain'.epochSecond_eq, htime] at hminusOne
    exact hminusOne ht

/-! ### The window -/

/-- **Timestamps**: `utc_timestamp_within` takes a text exactly when it is a dateTime with the
suffix `Z` that falls into a second within the tolerance, unless the text is mishandled for such a
second. -/
theorem utcTimestampWithin_iff (h : ReadsFormat getTime) (now tolerance : ℤ) (value : Bytes) :
    (utcTimestampWithin getTime now value tolerance = true ↔
      ∃ t, FallsInto value t ∧ |now - t| ≤ tolerance) ↔
    ¬∃ t, Mishandled getTime value t ∧ |now - t| ≤ tolerance := by
  rw [utcTimestampWithin_eq_true_iff]
  constructor
  · -- each kind gives a text that is taken and falls into no second, or the other way round
    rintro hiff ⟨t, hmishandled, hnear⟩
    cases hmishandled with
    | malformed hspaces hvalue hdeviates hread htime hminusOne =>
      obtain ⟨t', ⟨d, rfl, -⟩, -⟩ := hiff.mp ⟨_, hread, by rwa [htime], by rwa [htime]⟩
      exact not_deviates h hread hspaces hvalue hdeviates
    | @refused d hvalue htime hplain =>
      obtain ⟨tm, hread, -⟩ := hiff.mpr ⟨t, ⟨d, hvalue, htime⟩, hnear⟩
      rw [← hvalue] at hread
      exact hplain (plain_of_read h hread)
    | @minusOne d hvalue htime hminusOne =>
      obtain ⟨tm, hread, hne, -⟩ := hiff.mpr ⟨t, ⟨d, hvalue, htime⟩, hnear⟩
      rw [← hvalue] at hread
      have hplain := plain_of_read h hread
      have htm := Option.some.inj (hread.symm.trans (read_of_plain h.toReadsWhole hplain))
      rw [htm, ← hplain.epochSecond_eq, htime] at hne
      exact hne hminusOne
  · intro hnone
    constructor
    · rintro ⟨tm, hread, hminusOne, hnear⟩
      rcases FallsInto.of_read h hread hminusOne with hfalls | hmishandled
      · exact ⟨_, hfalls, hnear⟩
      · exact absurd ⟨_, hmishandled, hnear⟩ hnone
    · rintro ⟨t, ⟨d, hvalue, htime⟩, hnear⟩
      by_cases hplain : d.Plain
      · by_cases hminusOne : t = -1
        · exact absurd ⟨t, .minusOne hvalue htime hminusOne, hnear⟩ hnone
        · have hepoch : timegm d.fields.tm = t := hplain.epochSecond_eq.symm.trans htime
          exact ⟨_, hvalue ▸ read_of_plain h.toReadsWhole hplain, hepoch ▸ hminusOne,
            hepoch ▸ hnear⟩
      · exact absurd ⟨t, .refused hvalue htime hplain, hnear⟩ hnone

/-- Noon on the last day of a February, with or without a fraction of a second. -/
def leapNoon (fraction : Option Digits) (hne : ∀ ds ∈ fraction, ds.val ≠ []) : UtcDateTime where
  negative := false
  fields :=
    { year := ⟨bytes "2024", List.all_eq_true.mp (by decide)⟩
      month := ⟨bytes "02", List.all_eq_true.mp (by decide)⟩
      day := ⟨bytes "29", List.all_eq_true.mp (by decide)⟩
      hour := ⟨bytes "12", List.all_eq_true.mp (by decide)⟩
      minute := ⟨bytes "00", List.all_eq_true.mp (by decide)⟩
      second := ⟨bytes "00", List.all_eq_true.mp (by decide)⟩ }
  fraction
  year := by decide
  twoDigits := ⟨rfl, rfl, rfl, rfl, rfl⟩
  fraction_ne_nil := hne
  month := by decide
  day := by decide
  time := Or.inl (by decide)

theorem utcTimestampWithin_iff_noon :
    utcTimestampWithin Calendar.getTime 1709208000 (bytes "2024-02-29T12:00:00Z") 300 = true := by
  let d := leapNoon none (by simp)
  have hplain : d.Plain := ⟨rfl, rfl, rfl, by decide⟩
  have htime : d.epochSecond = 1709208000 := by decide
  have hiff := (utcTimestampWithin_iff readsFormat_getTime 1709208000 300 d.text).mpr fun hexists =>
    not_mishandled_of_plain readsFormat_getTime hplain (by rw [htime]; decide) _
      hexists.choose_spec.1
  exact hiff.mpr ⟨1709208000, ⟨d, rfl, htime⟩, by decide⟩

/-- The same second is refused when a fraction of it is given. -/
theorem not_utcTimestampWithin :
    ¬∀ (now tolerance : ℤ) (value : Bytes),
      utcTimestampWithin Calendar.getTime now value tolerance = true ↔
        ∃ t, FallsInto value t ∧ |now - t| ≤ tolerance := by
  intro hall
  let d := leapNoon (some ⟨bytes "5", List.all_eq_true.mp (by decide)⟩) (by rintro ds ⟨⟩; decide)
  have hrefused : utcTimestampWithin Calendar.getTime 1709208000 d.text 300 = false := by
    decide +kernel
  have htaken := (hall 1709208000 300 d.text).mpr ⟨1709208000, ⟨d, rfl, by decide⟩, by decide⟩
  rw [hrefused] at htaken
  cases htaken

end Afterveda.Onvif
