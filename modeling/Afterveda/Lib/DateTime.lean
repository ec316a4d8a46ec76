import Afterveda.Lib.Calendar

/-!
# Date and time texts

`UtcDateTime` is a dateTime of XML Schema 1.1 in UTC, written with the suffix `Z`: `text` is how it
is written and `epochSecond` the second it falls into.  `ReadsWhole` says what a reader of the
format `%Y-%m-%dT%H:%M:%SZ` reads, `ReadsFormat` that it reads nothing else, and
`readsFormat_getTime` that `Calendar.getTime` does both.

Both are built on `Fields`, the six numbers of a date and a time of day with the characters between
them; a text determines its fields (`Fields.text_inj`).
-/

namespace DateTime

open CText Calendar

/-! ### Fields -/

/-- Decimal digits. -/
abbrev Digits := {ds : Bytes // ∀ c ∈ ds, isDigit c = true}

/-- The number digits denote. -/
def Digits.value (ds : Digits) : ℤ := digitsValue ds.val

/-- The six numbers of a date and a time of day, as digits. -/
structure Fields where
  year : Digits
  month : Digits
  day : Digits
  hour : Digits
  minute : Digits
  second : Digits

/-- The numbers with what stands between them, and then the rest of a text. -/
def Fields.text (f : Fields) (rest : Bytes) : Bytes :=
  f.year.val ++ 45 :: (f.month.val ++ 45 :: (f.day.val ++ 84 :: (f.hour.val ++ 58 ::
    (f.minute.val ++ 58 :: (f.second.val ++ rest)))))

def Fields.tm (f : Fields) : Tm :=
  ⟨f.year.value, f.month.value, f.day.value, f.hour.value, f.minute.value, f.second.value⟩

/-- The numbers are those of a calendar, whatever the length of the month; a minute may have a leap
second. -/
structure Fields.InRange (f : Fields) : Prop where
  month : 1 ≤ f.month.value ∧ f.month.value ≤ 12
  day : 1 ≤ f.day.value ∧ f.day.value ≤ 31
  hour : f.hour.value ≤ 23
  minute : f.minute.value ≤ 59
  second : f.second.value ≤ 60

/-- Two digits for each number after the year. -/
structure Fields.TwoDigits (f : Fields) : Prop where
  month : f.month.val.length = 2
  day : f.day.val.length = 2
  hour : f.hour.val.length = 2
  minute : f.minute.val.length = 2
  second : f.second.val.length = 2

/-- Digits before something else are determined by the text. -/
theorem Digits.append_inj {ds es : Digits} {s t : Bytes} (hs : NoDigitHead s) (ht : NoDigitHead t)
    (h : ds.val ++ s = es.val ++ t) : ds = es ∧ s = t := by
  obtain ⟨htake, hdrop⟩ := takeWhile_digits ds.property hs
  obtain ⟨htake', hdrop'⟩ := takeWhile_digits es.property ht
  rw [h] at htake hdrop
  exact ⟨Subtype.ext (htake.symm.trans htake'), hdrop.symm.trans hdrop'⟩

theorem noDigitHead_cons {c : UInt8} (hc : isDigit c = false) (s : Bytes) :
    NoDigitHead (c :: s) := by
  rintro d ⟨⟩
  exact hc

/-- The same before a character that is no digit. -/
theorem Digits.append_cons_inj {ds es : Digits} {c : UInt8} (hc : isDigit c = false) {s t : Bytes}
    (h : ds.val ++ c :: s = es.val ++ c :: t) : ds = es ∧ s = t := by
  obtain ⟨hds, hrest⟩ := Digits.append_inj (noDigitHead_cons hc s) (noDigitHead_cons hc t) h
  exact ⟨hds, (List.cons.inj hrest).2⟩

theorem Fields.text_inj {f g : Fields} {s t : Bytes} (hs : NoDigitHead s) (ht : NoDigitHead t)
    (h : f.text s = g.text t) : f = g ∧ s = t := by
  obtain ⟨year, month, day, hour, minute, second⟩ := f
  obtain ⟨year', month', day', hour', minute', second'⟩ := g
  unfold Fields.text at h
  obtain ⟨rfl, h⟩ := Digits.append_cons_inj (by decide) h
  obtain ⟨rfl, h⟩ := Digits.append_cons_inj (by decide) h
  obtain ⟨rfl, h⟩ := Digits.append_cons_inj (by decide) h
  obtain ⟨rfl, h⟩ := Digits.append_cons_inj (by decide) h
  obtain ⟨rfl, h⟩ := Digits.append_cons_inj (by decide) h
  obtain ⟨rfl, hrest⟩ := Digits.append_inj hs ht h
  exact ⟨rfl, hrest⟩

/-- Fields start with a digit or with the first hyphen. -/
theorem Fields.head?_text (f : Fields) (rest : Bytes) :
    ∃ c, (f.text rest).head? = some c ∧ (isDigit c = true ∨ c = 45) := by
  unfold Fields.text
  cases hyear : f.year.val with
  | nil => exact ⟨45, rfl, Or.inr rfl⟩
  | cons c ds =>
    have hc : isDigit c = true := f.year.property c (by rw [hyear]; exact List.mem_cons_self ..)
    exact ⟨c, rfl, Or.inl hc⟩

theorem isSpace_of_isDigit {c : UInt8} (h : isDigit c = true) : isSpace c = false := by
  simp only [isDigit, Bool.and_eq_true, decide_eq_true_eq] at h
  unfold isSpace
  grind

/-- White space before the fields is skipped, and no more. -/
theorem dropWhile_isSpace {spaces : Bytes} (hspaces : ∀ c ∈ spaces, isSpace c = true) (f : Fields)
    (rest : Bytes) : (spaces ++ f.text rest).dropWhile isSpace = f.text rest := by
  rw [List.dropWhile_append_of_pos hspaces]
  obtain ⟨c, hhead, hc⟩ := f.head?_text rest
  obtain ⟨t, ht⟩ := List.head?_eq_some_iff.mp hhead
  have hspace : isSpace c = false := by
    rcases hc with hc | rfl
    · exact isSpace_of_isDigit hc
    · rfl
  rw [ht, List.dropWhile_cons_of_neg (by simp [hspace])]

theorem Fields.dropWhile_text (f : Fields) (rest : Bytes) :
    (f.text rest).dropWhile isSpace = f.text rest :=
  dropWhile_isSpace (fun c (hc : c ∈ ([] : Bytes)) => absurd hc List.not_mem_nil) f rest

/-! ### Dates and times -/

/-- The days of a month of the Gregorian calendar. -/
def daysInMonth (year month : ℤ) : ℤ :=
  if month = 2 then if year % 4 = 0 ∧ (year % 100 ≠ 0 ∨ year % 400 = 0) then 29 else 28
  else if month = 4 ∨ month = 6 ∨ month = 9 ∨ month = 11 then 30
  else 31

/-- A number with a sign. -/
def signed (negative : Bool) (n : ℤ) : ℤ := if negative then -n else n

/-- A dateTime of XML Schema with the time zone `Z`: a year of four digits, or of more that do not
start with a zero, and two digits for each of the others; a fraction of a second may follow, and the
hour 24 stands for the end of the day. -/
structure UtcDateTime where
  negative : Bool
  fields : Fields
  fraction : Option Digits
  year : 4 ≤ fields.year.val.length ∧ (4 < fields.year.val.length → fields.year.val.head? ≠ some 48)
  twoDigits : fields.TwoDigits
  fraction_ne_nil : ∀ ds ∈ fraction, ds.val ≠ []
  month : 1 ≤ fields.month.value ∧ fields.month.value ≤ 12
  day : 1 ≤ fields.day.value ∧
    fields.day.value ≤ daysInMonth (signed negative fields.year.value) fields.month.value
  time : fields.hour.value ≤ 23 ∧ fields.minute.value ≤ 59 ∧ fields.second.value ≤ 59 ∨
    fields.hour.value = 24 ∧ fields.minute.value = 0 ∧ fields.second.value = 0 ∧
      ∀ ds ∈ fraction, ds.value = 0

/-- What is written after the seconds. -/
def UtcDateTime.tail (d : UtcDateTime) : Bytes :=
  match d.fraction with
  | none => [90]
  | some ds => 46 :: (ds.val ++ [90])

/-- How a dateTime is written. -/
def UtcDateTime.text (d : UtcDateTime) : Bytes :=
  (if d.negative then [45] else []) ++ d.fields.text d.tail

theorem UtcDateTime.noDigitHead_tail (d : UtcDateTime) : NoDigitHead d.tail := by
  unfold UtcDateTime.tail
  cases d.fraction with
  | none => exact noDigitHead_cons (by decide) _
  | some ds => exact noDigitHead_cons (by decide) _

/-- The second since the epoch that a dateTime falls into. -/
def UtcDateTime.epochSecond (d : UtcDateTime) : ℤ :=
  timegm { d.fields.tm with year := signed d.negative d.fields.year.value }

/-- The text is a dateTime with the suffix `Z` that falls into second `t`. -/
def FallsInto (value : Bytes) (t : ℤ) : Prop :=
  ∃ d : UtcDateTime, d.text = value ∧ d.epochSecond = t

/-- There is no part that the format `%Y-%m-%dT%H:%M:%SZ` has no place for. -/
structure UtcDateTime.Plain (d : UtcDateTime) : Prop where
  negative : d.negative = false
  year : d.fields.year.val.length = 4
  fraction : d.fraction = none
  hour : d.fields.hour.value ≤ 23

theorem UtcDateTime.Plain.text_eq {d : UtcDateTime} (h : d.Plain) :
    d.text = d.fields.text [90] := by
  rw [UtcDateTime.text, UtcDateTime.tail, h.negative, h.fraction]
  rfl

theorem UtcDateTime.Plain.epochSecond_eq {d : UtcDateTime} (h : d.Plain) :
    d.epochSecond = timegm d.fields.tm := by
  rw [UtcDateTime.epochSecond, h.negative]
  rfl

theorem UtcDateTime.Plain.inRange {d : UtcDateTime} (h : d.Plain) : d.fields.InRange := by
  have hdays : ∀ year month : ℤ, daysInMonth year month ≤ 31 := by
    intro year month
    unfold daysInMonth
    split_ifs <;> omega
  have htime := d.time
  have hhour := h.hour
  exact {
    month := d.month
    day := ⟨d.day.1, d.day.2.trans (hdays _ _)⟩
    hour := hhour
    minute := by omega
    second := by omega }

/-- Only a dateTime without such parts is written as the format is. -/
theorem UtcDateTime.plain_of_text_eq {d : UtcDateTime} {spaces rest : Bytes} {f : Fields}
    (hspaces : ∀ c ∈ spaces, isSpace c = true) (hne : f.year.val ≠ [])
    (hyear : f.year.val.length ≤ 4) (hhour : f.hour.value ≤ 23)
    (h : d.text = spaces ++ f.text (90 :: rest)) : d.Plain := by
  have hskip := congrArg (List.dropWhile isSpace) h
  rw [dropWhile_isSpace hspaces] at hskip
  have hnegative : d.negative = false := by
    cases hsign : d.negative with
    | false => rfl
    | true =>
      -- the text starts with a hyphen, and the fields with a digit
      obtain ⟨c, ds, hcons⟩ := List.exists_cons_of_ne_nil hne
      have hc : isDigit c = true := f.year.property c (by rw [hcons]; exact List.mem_cons_self ..)
      have hstart : d.text.dropWhile isSpace = 45 :: d.fields.text d.tail := by
        rw [UtcDateTime.text, hsign]
        rfl
      rw [hstart] at hskip
      unfold Fields.text at hskip
      rw [hcons] at hskip
      rw [← (List.cons.inj hskip).1] at hc
      exact absurd hc (by decide)
  have htext : d.text = d.fields.text d.tail := by
    rw [UtcDateTime.text, hnegative]
    rfl
  rw [htext, Fields.dropWhile_text] at hskip
  obtain ⟨hfields, hrest⟩ := Fields.text_inj d.noDigitHead_tail (noDigitHead_cons (by decide) rest)
    hskip
  have hfraction : d.fraction = none := by
    cases hf : d.fraction with
    | none => rfl
    | some ds =>
      rw [UtcDateTime.tail, hf] at hrest
      exact absurd (List.cons.inj hrest).1 (by decide)
  exact {
    negative := hnegative
    year := le_antisymm (hfields ▸ hyear) d.year.1
    fraction := hfraction
    hour := hfields ▸ hhour }

/-! ### Reading the format -/

/-- A reader of the format `%Y-%m-%dT%H:%M:%SZ` reads numbers of full width in their ranges, and
leaves what follows the `Z`. -/
structure ReadsWhole (getTime : Bytes → Option Tm) : Prop where
  complete : ∀ (f : Fields) (rest : Bytes), f.year.val.length = 4 → f.TwoDigits → f.InRange →
    getTime (f.text (90 :: rest)) = some f.tm

/-- It reads nothing else: what it reads are numbers in their ranges with the characters of the
format between them, after white space, and it fails at the first mismatch. -/
structure ReadsFormat (getTime : Bytes → Option Tm) : Prop extends ReadsWhole getTime where
  sound : ∀ {value : Bytes} {tm : Tm}, getTime value = some tm →
    ∃ (spaces rest : Bytes) (f : Fields), (∀ c ∈ spaces, isSpace c = true) ∧
      value = spaces ++ f.text (90 :: rest) ∧ f.year.val ≠ [] ∧ f.year.val.length ≤ 4 ∧ f.InRange ∧
      tm = f.tm

theorem readField_eq_some {digits : ℕ} {low high n : ℤ} {s rest : Bytes}
    (h : readField digits low high s = some (n, rest)) :
    ∃ ds : Digits, s = ds.val ++ rest ∧ ds.val ≠ [] ∧ ds.val.length ≤ digits ∧ n = ds.value ∧
      low ≤ n ∧ n ≤ high := by
  unfold readField at h
  dsimp only at h
  split_ifs at h with hbad
  obtain ⟨rfl, rfl⟩ := Prod.mk.inj (Option.some.inj h)
  rw [not_or, not_or, not_lt, not_lt] at hbad
  have hdigits : ∀ c ∈ (s.takeWhile isDigit).take digits, isDigit c = true := fun c hc =>
    List.mem_takeWhile_imp (List.mem_of_mem_take hc)
  have hpre : (s.takeWhile isDigit).take digits <+: s :=
    (List.take_prefix _ _).trans (List.takeWhile_prefix _)
  have hsplit := (List.prefix_iff_eq_append.mp hpre).symm
  exact ⟨⟨_, hdigits⟩, hsplit, hbad.1, List.length_take_le _ _, rfl, hbad.2⟩

theorem readField_append {digits : ℕ} {low high : ℤ} {ds : Digits} (hne : ds.val ≠ [])
    (hlength : ds.val.length ≤ digits) (hlow : low ≤ ds.value) (hhigh : ds.value ≤ high) {s : Bytes}
    (hs : NoDigitHead s) : readField digits low high (ds.val ++ s) = some (ds.value, s) := by
  have htake := (takeWhile_digits ds.property hs).1
  have hvalue : ((digitsValue ds.val : ℕ) : ℤ) = ds.value := rfl
  unfold readField
  rw [htake, List.take_of_length_le hlength]
  dsimp only
  rw [hvalue, if_neg (by simp [hne, hlow, hhigh]), List.drop_left]

theorem readLiteral_eq_some_iff {c : UInt8} {s t : Bytes} :
    readLiteral c s = some t ↔ s = c :: t := by
  cases s with
  | nil => simp [readLiteral]
  | cons d s =>
    rw [readLiteral]
    split_ifs with h
    · simp [h]
    · simp [h]

theorem readLiteral_cons (c : UInt8) (s : Bytes) : readLiteral c (c :: s) = some s :=
  readLiteral_eq_some_iff.mpr rfl

theorem Digits.ne_nil {ds : Digits} {n : ℕ} (h : ds.val.length = n) (hn : 0 < n) : ds.val ≠ [] := by
  intro hnil
  rw [hnil, List.length_nil] at h
  omega

theorem Digits.value_nonneg (ds : Digits) : 0 ≤ ds.value := Int.natCast_nonneg _

theorem readsFormat_getTime : ReadsFormat getTime where
  complete := by
    intro f rest hyear htwo hrange
    have hfour := digitsValue_lt f.year.property
    rw [hyear] at hfour
    have hnine : f.year.value ≤ 9999 := by
      show ((digitsValue f.year.val : ℕ) : ℤ) ≤ 9999
      omega
    -- each number is read up to the character that follows it
    have hyearField : ∀ s, readField 4 0 9999 (f.year.val ++ 45 :: s) =
        some (f.year.value, 45 :: s) := fun s =>
      readField_append (Digits.ne_nil hyear (by omega)) (le_of_eq hyear) f.year.value_nonneg hnine
        (noDigitHead_cons (by decide) s)
    have hmonthField : ∀ s, readField 2 1 12 (f.month.val ++ 45 :: s) =
        some (f.month.value, 45 :: s) := fun s =>
      readField_append (Digits.ne_nil htwo.month (by omega)) (le_of_eq htwo.month) hrange.month.1
        hrange.month.2 (noDigitHead_cons (by decide) s)
    have hdayField : ∀ s, readField 2 1 31 (f.day.val ++ 84 :: s) =
        some (f.day.value, 84 :: s) := fun s =>
      readField_append (Digits.ne_nil htwo.day (by omega)) (le_of_eq htwo.day) hrange.day.1
        hrange.day.2 (noDigitHead_cons (by decide) s)
    have hhourField : ∀ s, readField 2 0 23 (f.hour.val ++ 58 :: s) =
        some (f.hour.value, 58 :: s) := fun s =>
      readField_append (Digits.ne_nil htwo.hour (by omega)) (le_of_eq htwo.hour)
        f.hour.value_nonneg hrange.hour (noDigitHead_cons (by decide) s)
    have hminuteField : ∀ s, readField 2 0 59 (f.minute.val ++ 58 :: s) =
        some (f.minute.value, 58 :: s) := fun s =>
      readField_append (Digits.ne_nil htwo.minute (by omega)) (le_of_eq htwo.minute)
        f.minute.value_nonneg hrange.minute (noDigitHead_cons (by decide) s)
    have hsecondField : ∀ s, readField 2 0 60 (f.second.val ++ 90 :: s) =
        some (f.second.value, 90 :: s) := fun s =>
      readField_append (Digits.ne_nil htwo.second (by omega)) (le_of_eq htwo.second)
        f.second.value_nonneg hrange.second (noDigitHead_cons (by decide) s)
    unfold getTime
    rw [Fields.dropWhile_text, Fields.text]
    simp only [hyearField, hmonthField, hdayField, hhourField, hminuteField, hsecondField,
      readLiteral_cons, Option.bind_eq_bind, Option.bind_some]
    rfl
  sound := by
    intro value tm h
    unfold getTime at h
    obtain ⟨⟨year, s₁⟩, hyear, h⟩ := Option.bind_eq_some_iff.mp h
    obtain ⟨t₁, ht₁, h⟩ := Option.bind_eq_some_iff.mp h
    obtain ⟨⟨month, s₂⟩, hmonth, h⟩ := Option.bind_eq_some_iff.mp h
    obtain ⟨t₂, ht₂, h⟩ := Option.bind_eq_some_iff.mp h
    obtain ⟨⟨day, s₃⟩, hday, h⟩ := Option.bind_eq_some_iff.mp h
    obtain ⟨t₃, ht₃, h⟩ := Option.bind_eq_some_iff.mp h
    obtain ⟨⟨hour, s₄⟩, hhour, h⟩ := Option.bind_eq_some_iff.mp h
    obtain ⟨t₄, ht₄, h⟩ := Option.bind_eq_some_iff.mp h
    obtain ⟨⟨minute, s₅⟩, hminute, h⟩ := Option.bind_eq_some_iff.mp h
    obtain ⟨t₅, ht₅, h⟩ := Option.bind_eq_some_iff.mp h
    obtain ⟨⟨second, s₆⟩, hsecond, h⟩ := Option.bind_eq_some_iff.mp h
    obtain ⟨rest, hrest, h⟩ := Option.bind_eq_some_iff.mp h
    obtain rfl := Option.some.inj h
    obtain ⟨y, hy, hyne, hylength, rfl, -, -⟩ := readField_eq_some hyear
    obtain ⟨m, hm, -, -, rfl, hmlow, hmhigh⟩ := readField_eq_some hmonth
    obtain ⟨d, hd, -, -, rfl, hdlow, hdhigh⟩ := readField_eq_some hday
    obtain ⟨hr, hh, -, -, rfl, -, hhhigh⟩ := readField_eq_some hhour
    obtain ⟨mi, hmi, -, -, rfl, -, hmihigh⟩ := readField_eq_some hminute
    obtain ⟨se, hse, -, -, rfl, -, hsehigh⟩ := readField_eq_some hsecond
    refine ⟨value.takeWhile isSpace, rest, ⟨y, m, d, hr, mi, se⟩,
      fun c hc => List.mem_takeWhile_imp hc, ?_, hyne, hylength,
      ⟨⟨hmlow, hmhigh⟩, ⟨hdlow, hdhigh⟩, hhhigh, hmihigh, hsehigh⟩, rfl⟩
    -- the pieces, put together again
    have hvalue : value.dropWhile isSpace = (⟨y, m, d, hr, mi, se⟩ : Fields).text (90 :: rest) := by
      rw [Fields.text, hy, readLiteral_eq_some_iff.mp ht₁, hm, readLiteral_eq_some_iff.mp ht₂, hd,
        readLiteral_eq_some_iff.mp ht₃, hh, readLiteral_eq_some_iff.mp ht₄, hmi,
        readLiteral_eq_some_iff.mp ht₅, hse, readLiteral_eq_some_iff.mp hrest]
    rw [← hvalue, List.takeWhile_append_dropWhile]

end DateTime
