import Afterveda.Lib.RealText

/-!
# Time durations

The durations of ISO 8601 that have a time part only: `PT`, then an amount of hours, of minutes and
of seconds, each an unsigned decimal number (`Numeral`) before the letter of its unit and each left
out where it is not needed (`IsTimeDuration`).

`plain_of_isTimeDuration` says what the bytes of such a text are, and `strtod_numeral` and
`exists_numeral_of_strtod` that among such bytes `strtod` reads the numerals and nothing else.
-/

namespace Duration

open CText CNumber

/-! ### Numerals -/

/-- An unsigned decimal number: digits, and a point with more digits or none. -/
structure Numeral where
  whole : Bytes
  fraction : Bytes
  whole_ne_nil : whole ≠ []
  isDigit_whole : ∀ c ∈ whole, isDigit c = true
  isDigit_fraction : ∀ c ∈ fraction, isDigit c = true

def Numeral.text (n : Numeral) : Bytes :=
  n.whole ++ if n.fraction = [] then [] else 46 :: n.fraction

def Numeral.value (n : Numeral) : ℚ := digitsValue (n.whole ++ n.fraction) / 10 ^ n.fraction.length

theorem Numeral.value_nonneg (n : Numeral) : 0 ≤ n.value := by
  unfold Numeral.value
  positivity

theorem Numeral.mem_text {n : Numeral} {c : UInt8} (h : c ∈ n.text) :
    isDigit c = true ∨ c = 46 := by
  rcases List.mem_append.mp h with h | h
  · exact Or.inl (n.isDigit_whole c h)
  · split_ifs at h
    · cases h
    · rcases List.mem_cons.mp h with rfl | h
      · exact Or.inr rfl
      · exact Or.inl (n.isDigit_fraction c h)

/-! ### Units and components -/

inductive TimeUnit
  | hour
  | minute
  | second
  deriving DecidableEq

def TimeUnit.letter : TimeUnit → UInt8
  | .hour => 72
  | .minute => 77
  | .second => 83

def TimeUnit.seconds : TimeUnit → ℤ
  | .hour => 3600
  | .minute => 60
  | .second => 1

/-- The unit of a letter. -/
def unitOf (c : UInt8) : Option TimeUnit :=
  if c = 72 then some .hour
  else if c = 77 then some .minute
  else if c = 83 then some .second
  else none

/-- An amount of a unit. -/
structure Component where
  amount : Numeral
  unit : TimeUnit

def Component.text (c : Component) : Bytes := c.amount.text ++ [c.unit.letter]

def Component.seconds (c : Component) : ℚ := c.unit.seconds * c.amount.value

/-- The components one after the other. -/
def componentsText (cs : List Component) : Bytes := cs.flatMap Component.text

/-- The text of a duration. -/
def durationText (cs : List Component) : Bytes := bytes "PT" ++ componentsText cs

/-- The seconds of a duration. -/
def total (cs : List Component) : ℚ := (cs.map Component.seconds).sum

/-- The text is an ISO 8601 duration in hours, minutes and seconds: some of the three, in this
order. -/
def IsTimeDuration (s : Bytes) : Prop :=
  ∃ cs : List Component, cs ≠ [] ∧
    (cs.map Component.unit).Sublist [.hour, .minute, .second] ∧ s = durationText cs

theorem unitOf_letter (u : TimeUnit) : unitOf u.letter = some u := by
  cases u <;> decide

theorem letter_of_unitOf {c : UInt8} {u : TimeUnit} (h : unitOf c = some u) : u.letter = c := by
  unfold unitOf at h
  split_ifs at h with h1 h2 h3
  · obtain rfl := Option.some.inj h
    exact h1.symm
  · obtain rfl := Option.some.inj h
    exact h2.symm
  · obtain rfl := Option.some.inj h
    exact h3.symm

/-- A letter ends a number. -/
theorem numberEnd_letter (u : TimeUnit) (s : Bytes) : NumberEnd (u.letter :: s) := by
  rintro c ⟨⟩
  cases u <;> decide

theorem unitOf_of_isDigit {c : UInt8} (h : isDigit c = true) : unitOf c = none := by
  simp only [isDigit, Bool.and_eq_true, decide_eq_true_eq] at h
  unfold unitOf
  rw [if_neg, if_neg, if_neg] <;> grind

/-! ### The bytes of a duration -/

/-- A byte of the text after `PT`. -/
def DurationByte (c : UInt8) : Prop := isDigit c = true ∨ c = 46 ∨ (unitOf c).isSome

/-- Every point stands between two digits. -/
def PointsInside (s : Bytes) : Prop :=
  ∀ pre post, s = pre ++ 46 :: post →
    (∃ d ∈ pre.getLast?, isDigit d = true) ∧ ∃ d ∈ post.head?, isDigit d = true

theorem PointsInside.append {s t : Bytes} (hs : PointsInside s) (ht : PointsInside t) :
    PointsInside (s ++ t) := by
  intro pre post h
  rcases List.append_eq_append_iff.mp h with ⟨mid, rfl, hmid⟩ | ⟨mid, rfl, hmid⟩
  · obtain ⟨⟨d, hd, hdigit⟩, hpost⟩ := ht mid post hmid
    refine ⟨⟨d, ?_, hdigit⟩, hpost⟩
    rw [List.getLast?_append, hd]
    rfl
  · cases mid with
    | nil =>
      -- the point would be the first byte of the second text
      obtain ⟨⟨d, hd, -⟩, -⟩ := ht [] post hmid.symm
      cases hd
    | cons c mid =>
      obtain ⟨rfl, rfl⟩ := List.cons.inj hmid
      obtain ⟨hpre, d, hd, hdigit⟩ := hs pre mid rfl
      refine ⟨hpre, d, ?_, hdigit⟩
      show d ∈ (mid ++ t).head?
      rw [List.head?_append, hd]
      rfl

theorem pointsInside_of_notMem {s : Bytes} (h : 46 ∉ s) : PointsInside s := by
  rintro pre post rfl
  simp at h

/-- What follows a byte that is no digit. -/
theorem PointsInside.tail {s t : Bytes} {c : UInt8} (h : PointsInside (s ++ c :: t))
    (hc : isDigit c = false) : PointsInside t := by
  rintro pre post rfl
  obtain ⟨⟨d, hd, hdigit⟩, hpost⟩ := h (s ++ c :: pre) post (by simp)
  refine ⟨⟨d, ?_, hdigit⟩, hpost⟩
  cases pre with
  | nil =>
    obtain rfl : c = d := by simpa using hd
    rw [hc] at hdigit
    cases hdigit
  | cons b pre =>
    rw [List.getLast?_append, List.getLast?_cons_cons] at hd
    cases hlast : (b :: pre).getLast? with
    | none => simp at hlast
    | some e => rwa [hlast] at hd

theorem Numeral.pointsInside (n : Numeral) : PointsInside n.text := by
  intro pre post h
  have hno : ∀ {ds : Bytes}, (∀ c ∈ ds, isDigit c = true) → 46 ∉ ds :=
    fun hds hmem => absurd (hds 46 hmem) (by decide)
  unfold Numeral.text at h
  split_ifs at h with hfraction
  · -- there is no point
    rw [List.append_nil] at h
    exact absurd (h ▸ List.mem_append_right pre (List.mem_cons_self ..)) (hno n.isDigit_whole)
  · obtain ⟨rfl, -, rfl⟩ := (List.append_cons_inj_of_notMem (hno n.isDigit_whole)
      (hno n.isDigit_fraction)).mp h
    refine ⟨⟨_, List.getLast?_eq_some_getLast n.whole_ne_nil, ?_⟩,
      ⟨_, List.head?_eq_some_head hfraction, ?_⟩⟩
    · exact n.isDigit_whole _ (List.getLast_mem _)
    · exact n.isDigit_fraction _ (List.head_mem _)

theorem pointsInside_componentsText (cs : List Component) : PointsInside (componentsText cs) := by
  induction cs with
  | nil => exact pointsInside_of_notMem List.not_mem_nil
  | cons c cs ih =>
    have hletter : (46 : UInt8) ∉ [c.unit.letter] := by
      cases c.unit <;> decide
    exact (c.amount.pointsInside.append (pointsInside_of_notMem hletter)).append ih

/-- The units named in a text, in its order. -/
def unitsOf (s : Bytes) : List TimeUnit := s.filterMap unitOf

theorem unitsOf_componentsText (cs : List Component) :
    unitsOf (componentsText cs) = cs.map Component.unit := by
  induction cs with
  | nil => rfl
  | cons c cs ih =>
    have hamount : c.amount.text.filterMap unitOf = [] := by
      rw [List.filterMap_eq_nil_iff]
      intro d hd
      rcases Numeral.mem_text hd with h | rfl
      · exact unitOf_of_isDigit h
      · rfl
    show (c.amount.text ++ [c.unit.letter] ++ componentsText cs).filterMap unitOf = _
    rw [List.filterMap_append, List.filterMap_append, hamount, List.nil_append, List.map_cons,
      List.filterMap_cons_some (unitOf_letter c.unit)]
    exact congrArg _ ih

/-- The text after `PT` holds digits, points between two digits, and letters of units, each at most
once and in order. -/
structure Plain (s : Bytes) : Prop where
  bytes : ∀ c ∈ s, DurationByte c
  points : PointsInside s
  units : (unitsOf s).Sublist [.hour, .minute, .second]

theorem mem_componentsText {cs : List Component} {c : UInt8} (h : c ∈ componentsText cs) :
    DurationByte c := by
  obtain ⟨component, -, h⟩ := List.mem_flatMap.mp h
  rcases List.mem_append.mp h with h | h
  · rcases Numeral.mem_text h with h | h
    · exact Or.inl h
    · exact Or.inr (Or.inl h)
  · rw [List.mem_singleton.mp h]
    exact Or.inr (Or.inr (by rw [unitOf_letter]; rfl))

/-- Components with each unit at most once and in order make a plain text, and conversely. -/
theorem plain_componentsText {cs : List Component} :
    Plain (componentsText cs) ↔ (cs.map Component.unit).Sublist [.hour, .minute, .second] := by
  rw [← unitsOf_componentsText]
  exact ⟨Plain.units, fun h => ⟨fun _ => mem_componentsText, pointsInside_componentsText cs, h⟩⟩

/-! ### Reading an amount -/

/-- The value is neither too large for a `double` nor too small for a normal one. -/
def Numeral.InRange (n : Numeral) : Prop :=
  n.value < doubleBound ∧ (n.value = 0 ∨ 1 / 2 ^ 1022 ≤ n.value)

theorem Numeral.text_cons (n : Numeral) : ∃ c u, n.text = c :: u ∧ isDigit c = true := by
  obtain ⟨c, u, hcons⟩ := List.exists_cons_of_ne_nil n.whole_ne_nil
  have hc : isDigit c = true := n.isDigit_whole c (hcons ▸ List.mem_cons_self ..)
  refine ⟨c, u ++ if n.fraction = [] then [] else 46 :: n.fraction, ?_, hc⟩
  rw [Numeral.text, hcons, List.cons_append]

theorem readDecimal_numeral (n : Numeral) {s : Bytes} (hs : NumberEnd s) :
    readDecimal (n.text ++ s) = some (n.value, s) := by
  rw [Numeral.text, List.append_assoc, readDecimal_digits n.whole_ne_nil n.isDigit_whole
    n.isDigit_fraction hs.noDigitHead fun c hc => (hs c hc).2.1, readExponent_none hs, zpow_zero,
    mul_one]
  rfl

/-- No byte of a duration starts or continues anything but a decimal number. -/
theorem DurationByte.plain {c : UInt8} (h : DurationByte c) : isSpace c = false ∧ c ≠ 45 ∧ c ≠ 43 ∧
    toLower c ≠ 105 ∧ toLower c ≠ 110 ∧ toLower c ≠ 120 ∧ toLower c ≠ 101 := by
  rcases h with h | rfl | h
  · obtain ⟨hspace, hminus, hplus⟩ := ne_of_isDigit h
    exact ⟨hspace, hminus, hplus, toLower_ne_of_isDigit h (by decide),
      toLower_ne_of_isDigit h (by decide), toLower_ne_of_isDigit h (by decide),
      toLower_ne_of_isDigit h (by decide)⟩
  · decide
  · obtain ⟨u, hu⟩ := Option.isSome_iff_exists.mp h
    rw [← letter_of_unitOf hu]
    cases u <;> decide

/-- Text that begins with such a byte and has no `x` behind it is read as a decimal. -/
theorem strtod_decimal {c : UInt8} (h : DurationByte c) {t : Bytes}
    (hx : ∀ d ∈ t.head?, toLower d ≠ 120) :
    strtod (c :: t) = (readDecimal (c :: t)).map (fun (q, u) => (toDouble q, u)) ∧
      strtodRange (c :: t) =
        match readDecimal (c :: t) with
        | none => false
        | some (q, _) => doubleBound ≤ q || (q ≠ 0 && q < 1 / 2 ^ 1022) := by
  obtain ⟨hspace, hminus, hplus, hi, hn, -, -⟩ := h.plain
  have hskip : readSign ((c :: t).dropWhile isSpace) = (false, c :: t) := by
    rw [List.dropWhile_cons_of_neg (by rw [hspace]; simp)]
    simp [readSign, hminus, hplus]
  obtain ⟨hinf, hnan, hhex, hread⟩ := readReal_decimal hi hn hx
  constructor
  · rw [strtod, hskip]
    dsimp only
    rw [hread, Option.map_map]
    rfl
  · rw [strtodRange, hskip]
    dsimp only
    rw [hinf, hnan, hhex]
    rfl

/-- A numeral followed by something that does not continue it is read to its value. -/
theorem strtod_numeral (n : Numeral) {s : Bytes} (hs : NumberEnd s) :
    strtod (n.text ++ s) = some (toDouble n.value, s) ∧
      (strtodRange (n.text ++ s) = false ↔ n.InRange) := by
  have hdecimal := readDecimal_numeral n hs
  obtain ⟨c, u, hcons, hc⟩ := n.text_cons
  -- a hexadecimal number would have an `x` in the second place
  have hx : ∀ d ∈ (u ++ s).head?, toLower d ≠ 120 := by
    intro d hd
    cases u with
    | nil => exact (hs d hd).2.2.2
    | cons x u =>
      obtain rfl : x = d := by simpa using hd
      have hx : x ∈ n.text := by rw [hcons]; simp
      rcases Numeral.mem_text hx with hx | rfl
      · exact toLower_ne_of_isDigit hx (by decide)
      · decide
  rw [hcons, List.cons_append] at hdecimal ⊢
  obtain ⟨hread, hrange⟩ := strtod_decimal (Or.inl hc) hx
  rw [hread, hrange, hdecimal]
  refine ⟨rfl, ?_⟩
  unfold Numeral.InRange
  simp only [Bool.or_eq_false_iff, Bool.and_eq_false_iff, decide_eq_false_iff_not, not_le, not_lt,
    ne_eq, not_not]

/-- Among the bytes of durations, with points inside only, what `strtod` reads before the letter of
a unit is a numeral. -/
theorem exists_numeral_of_strtod {s t : Bytes} (hbytes : ∀ c ∈ s, DurationByte c)
    (hpoints : PointsInside s) {x : Double} {u : TimeUnit}
    (h : strtod s = some (x, u.letter :: t)) : ∃ n : Numeral, s = n.text ++ u.letter :: t := by
  obtain ⟨c, s', rfl⟩ : ∃ c s', s = c :: s' := by
    cases s with
    | nil => exact nomatch h
    | cons c s' => exact ⟨c, s', rfl⟩
  have hx : ∀ d ∈ s'.head?, toLower d ≠ 120 := fun d hd =>
    (hbytes d (List.mem_cons_of_mem c (List.mem_of_mem_head? hd))).plain.2.2.2.2.2.1
  rw [(strtod_decimal (hbytes c (List.mem_cons_self ..)) hx).1, Option.map_eq_some_iff] at h
  obtain ⟨⟨q, rest⟩, hread, hrest⟩ := h
  obtain rfl : rest = u.letter :: t := (Prod.mk.inj hrest).2
  obtain ⟨whole, fraction, rest, hwhole, hfraction, hhead, hs, hexponent⟩ :=
    exists_of_readDecimal hread
  -- no byte of a duration starts an exponent
  have hrest' : rest = u.letter :: t := by
    have hsuffix : rest ⊆ c :: s' := by
      intro d hd
      rcases hs with hs | ⟨-, -, hs⟩
      · rw [hs]
        simp [hd]
      · rw [hs]
        simp [hd]
    rw [← hexponent, readExponent_of_ne fun d hd =>
      (hbytes d (hsuffix (List.mem_of_mem_head? hd))).plain.2.2.2.2.2.2]
  rcases hs with hs | ⟨hne, -, hs⟩
  · -- the point stands between two digits, so both digit sequences are there
    obtain ⟨⟨d, hd, -⟩, e, he, hdigit⟩ := hpoints whole (fraction ++ rest) hs
    have hne : whole ≠ [] := by
      rintro rfl
      cases hd
    have hne' : fraction ≠ [] := by
      rintro rfl
      rw [hhead e he] at hdigit
      cases hdigit
    refine ⟨⟨whole, fraction, hne, hwhole, hfraction⟩, ?_⟩
    rw [hs, hrest', Numeral.text, if_neg hne', List.append_assoc, List.cons_append]
  · refine ⟨⟨whole, [], hne, hwhole, fun c hc => (by cases hc)⟩, ?_⟩
    rw [hs, hrest', Numeral.text, if_pos rfl, List.append_nil]

end Duration
