import Afterveda.Lib.Text

/-!
# JSON texts

`IsText text value` is the grammar of JSON over bytes, with the value a text denotes; strings are
character sequences in UTF-8 (`Utf8`).

A flat object written by hand is a `Layout` and its members, each string with a backslash before its
quotes and backslashes.  `isText_print_iff` is the rule for such documents: they denote their
members exactly when no string has a control character.  `isString_quoted_iff` is the rule for one
string.

A text that the grammar derives is walked over by `Place.run`, which follows where quotes open and
close; it stops at a control character inside quotes.
-/

namespace Json

open CText

/-! ### UTF-8 -/

/-- The bytes of a character sequence. -/
def utf8 (cs : List Char) : Bytes := cs.flatMap String.utf8EncodeChar

/-- The bytes are those of a character sequence. -/
def Utf8 (s : Bytes) : Prop := ∃ cs, s = utf8 cs

/-- No control character; the bytes below 32 are those of the characters below U+0020. -/
def NoControl (s : Bytes) : Prop := ∀ c ∈ s, 32 ≤ c

instance (s : Bytes) : Decidable (NoControl s) := List.decidableBAll _ s

@[simp] theorem utf8_nil : utf8 [] = [] := rfl

theorem utf8_cons (c : Char) (cs : List Char) :
    utf8 (c :: cs) = String.utf8EncodeChar c ++ utf8 cs :=
  rfl

theorem utf8_append (cs ds : List Char) : utf8 (cs ++ ds) = utf8 cs ++ utf8 ds :=
  List.flatMap_append

/-- A character is one byte below 128, or all its bytes are at least 128. -/
theorem utf8EncodeChar_cases (c : Char) :
    (c.toNat < 128 ∧ String.utf8EncodeChar c = [UInt8.ofNat c.toNat]) ∨
      (128 ≤ c.toNat ∧ ∀ b ∈ String.utf8EncodeChar c, 128 ≤ b.toNat) := by
  have hhigh : ∀ n < 128, 128 ≤ (UInt8.ofNat (n + 128)).toNat := by
    intro n hn
    rw [UInt8.toNat_ofNat', Nat.mod_eq_of_lt (by omega)]
    omega
  by_cases hc : c.toNat < 128
  · left
    have hle : c.val.toNat ≤ 127 := Nat.lt_succ_iff.mp hc
    exact ⟨hc, by rw [String.utf8EncodeChar, if_pos hle]; rfl⟩
  · right
    have hgt : ¬c.val.toNat ≤ 127 := fun h => hc (Nat.lt_succ_iff.mpr h)
    refine ⟨Nat.not_lt.mp hc, ?_⟩
    have htail := hhigh (c.val.toNat % 64) (by omega)
    have hmid := hhigh (c.val.toNat / 64 % 64) (by omega)
    have htop := hhigh (c.val.toNat / 4096 % 64) (by omega)
    rw [String.utf8EncodeChar, if_neg hgt]
    split_ifs
    · have hfirst := hhigh (c.val.toNat / 64 % 32 + 64) (by omega)
      simpa using ⟨hfirst, htail⟩
    · have hfirst := hhigh (c.val.toNat / 4096 % 16 + 96) (by omega)
      simpa using ⟨hfirst, hmid, htail⟩
    · have hfirst := hhigh (c.val.toNat / 262144 % 8 + 112) (by omega)
      simpa using ⟨hfirst, htop, hmid, htail⟩

theorem utf8_bytes (s : String) : Utf8 (bytes s) := by
  refine ⟨s.toList, ?_⟩
  rw [bytes, ← String.utf8Encode_toList]
  simp [List.utf8Encode, utf8]

/-- Bytes below 128 are characters. -/
theorem utf8_of_ascii {s : Bytes} (h : ∀ c ∈ s, c < 128) : Utf8 s := by
  induction s with
  | nil => exact ⟨[], rfl⟩
  | cons c s ih =>
    obtain ⟨cs, rfl⟩ := ih fun d hd => h d (List.mem_cons_of_mem _ hd)
    have hc : c.toNat < 128 := UInt8.lt_iff_toNat_lt.mp (h c (List.mem_cons_self ..))
    have hchar : (Char.ofNat c.toNat).toNat = c.toNat := by
      rw [Char.ofNat, dif_pos (Or.inl (by omega))]
      rfl
    refine ⟨Char.ofNat c.toNat :: cs, ?_⟩
    rcases utf8EncodeChar_cases (Char.ofNat c.toNat) with ⟨-, hbytes⟩ | ⟨hhigh, -⟩
    · rw [utf8_cons, hbytes, hchar, UInt8.ofNat_toNat]
      rfl
    · omega

/-! ### String literals -/

/-- The character a two-character escape stands for. -/
def escapeValue : Char → Option Char
  | '"' => some '"'
  | '\\' => some '\\'
  | '/' => some '/'
  | 'b' => some '\x08'
  | 'f' => some '\x0c'
  | 'n' => some '\n'
  | 'r' => some '\r'
  | 't' => some '\t'
  | _ => none

/-- The value of a hexadecimal digit. -/
def hexValue (c : Char) : Option ℕ :=
  if '0' ≤ c ∧ c ≤ '9' then some (c.toNat - 48)
  else if 'a' ≤ c ∧ c ≤ 'f' then some (c.toNat - 87)
  else if 'A' ≤ c ∧ c ≤ 'F' then some (c.toNat - 55)
  else none

/-- Four hexadecimal digits and their value. -/
structure CodeUnit (digits : List Char) (n : ℕ) : Prop where
  length : digits.length = 4
  hex : ∀ c ∈ digits, (hexValue c).isSome
  value : Nat.ofDigits 16 (digits.filterMap hexValue).reverse = n

/-- What may stand between the quotes of a string, and the characters it denotes. -/
inductive StringBody : List Char → List Char → Prop
  | nil : StringBody [] []
  | char {c : Char} {s t : List Char} (hc : 32 ≤ c.toNat) (hquote : c ≠ '"')
      (hbackslash : c ≠ '\\') (h : StringBody s t) : StringBody (c :: s) (c :: t)
  | escape {c d : Char} {s t : List Char} (hc : escapeValue c = some d) (h : StringBody s t) :
      StringBody ('\\' :: c :: s) (d :: t)
  | unicode {digits s t : List Char} {n : ℕ} (hunit : CodeUnit digits n) (hn : n.isValidChar)
      (h : StringBody s t) : StringBody ('\\' :: 'u' :: (digits ++ s)) (Char.ofNat n :: t)
  -- a character outside the basic plane is a high and a low surrogate
  | surrogates {high low s t : List Char} {m n : ℕ} (hhigh : CodeUnit high (0xD800 + m))
      (hm : m < 0x400) (hlow : CodeUnit low (0xDC00 + n)) (hn : n < 0x400) (h : StringBody s t) :
      StringBody ('\\' :: 'u' :: (high ++ '\\' :: 'u' :: (low ++ s)))
        (Char.ofNat (0x10000 + m * 0x400 + n) :: t)

/-- The text is a string literal that denotes the UTF-8 string. -/
def IsString (text s : Bytes) : Prop :=
  ∃ body chars, StringBody body chars ∧ text = 34 :: (utf8 body ++ [34]) ∧ s = utf8 chars

/-! ### Where quotes open and close -/

/-- Where a byte of a text stands: outside quotes, inside, or inside after a backslash. -/
inductive Place
  | outside
  | inside
  | escaped
  deriving DecidableEq

/-- The place after a byte; a control character may not stand inside quotes. -/
def Place.step : Place → UInt8 → Option Place
  | .outside, c => some (if c = 34 then .inside else .outside)
  | .inside, c =>
    if c < 32 then none
    else if c = 34 then some .outside
    else if c = 92 then some .escaped
    else some .inside
  | .escaped, c => if c < 32 then none else some .inside

/-- The place after a text. -/
def Place.run (q : Place) (text : Bytes) : Option Place := text.foldlM Place.step q

theorem Place.run_append (q : Place) (a b : Bytes) :
    q.run (a ++ b) = (q.run a).bind fun r => r.run b :=
  List.foldlM_append ..

theorem Place.run_cons (q : Place) (c : UInt8) (s : Bytes) :
    q.run (c :: s) = (q.step c).bind fun r => r.run s :=
  rfl

/-- What comes before a text decides where it starts. -/
theorem Place.run_of_run {q r : Place} {a : Bytes} (h : q.run a = some r) (b : Bytes) :
    q.run (a ++ b) = r.run b := by
  rw [Place.run_append, h, Option.bind_some]

theorem run_outside {s : Bytes} (h : 34 ∉ s) : Place.outside.run s = some .outside := by
  induction s with
  | nil => rfl
  | cons c s ih =>
    rw [List.mem_cons, not_or] at h
    rw [Place.run_cons, Place.step, if_neg (Ne.symm h.1), Option.bind_some, ih h.2]

/-- Bytes that stand for themselves inside quotes. -/
def Plain (s : Bytes) : Prop := ∀ c ∈ s, 32 ≤ c ∧ c ≠ 34 ∧ c ≠ 92

instance (s : Bytes) : Decidable (Plain s) := List.decidableBAll _ s

theorem run_inside {s : Bytes} (h : Plain s) : Place.inside.run s = some .inside := by
  induction s with
  | nil => rfl
  | cons c s ih =>
    obtain ⟨hc, hquote, hbackslash⟩ := h c (List.mem_cons_self ..)
    rw [Place.run_cons, Place.step, if_neg (UInt8.not_lt.mpr hc), if_neg hquote, if_neg hbackslash,
      Option.bind_some, ih fun d hd => h d (List.mem_cons_of_mem _ hd)]

/-- The bytes of a character are not those of another one below 128. -/
theorem ne_of_mem_utf8EncodeChar {b : UInt8} {c d : Char} (hb : b ∈ String.utf8EncodeChar c)
    (hne : c ≠ d) (hd : d.toNat < 128) : b ≠ UInt8.ofNat d.toNat := by
  intro heq
  have hnat : b.toNat = d.toNat := by rw [heq, UInt8.toNat_ofNat', Nat.mod_eq_of_lt (by omega)]
  rcases utf8EncodeChar_cases c with ⟨hlow, hbytes⟩ | ⟨-, hhigh⟩
  · rw [hbytes, List.mem_singleton] at hb
    rw [hb, UInt8.toNat_ofNat', Nat.mod_eq_of_lt (by omega)] at hnat
    exact hne (Char.toNat_inj.mp hnat)
  · have hle := hhigh b hb
    omega

/-- A character that is no quote, backslash or control stands for itself. -/
theorem plain_utf8EncodeChar {c : Char} (hc : 32 ≤ c.toNat) (hquote : c ≠ '"')
    (hbackslash : c ≠ '\\') : Plain (String.utf8EncodeChar c) := by
  intro b hb
  refine ⟨?_, ne_of_mem_utf8EncodeChar hb hquote (by decide),
    ne_of_mem_utf8EncodeChar hb hbackslash (by decide)⟩
  rw [UInt8.le_iff_toNat_le]
  rcases utf8EncodeChar_cases c with ⟨hlow, hbytes⟩ | ⟨-, hhigh⟩
  · rw [hbytes, List.mem_singleton] at hb
    rw [hb, UInt8.toNat_ofNat', Nat.mod_eq_of_lt (by omega)]
    exact hc
  · exact le_trans (by decide) (hhigh b hb)

/-- A hexadecimal digit is no quote, backslash or control. -/
theorem hexValue_bounds {c : Char} (h : (hexValue c).isSome) :
    32 ≤ c.toNat ∧ c ≠ '"' ∧ c ≠ '\\' := by
  refine ⟨?_, ?_, ?_⟩
  · have hle : ∀ a b : Char, a ≤ b ↔ a.toNat ≤ b.toNat := fun a b => Iff.rfl
    have h0 : '0'.toNat = 48 := rfl
    have ha : 'a'.toNat = 97 := rfl
    have hA : 'A'.toNat = 65 := rfl
    unfold hexValue at h
    simp only [hle] at h
    by_contra hc
    rw [if_neg (by omega), if_neg (by omega), if_neg (by omega)] at h
    cases h
  · rintro rfl
    exact absurd h (by decide)
  · rintro rfl
    exact absurd h (by decide)

/-- The digits of a code unit stand for themselves. -/
theorem CodeUnit.run {digits : List Char} {n : ℕ} (h : CodeUnit digits n) :
    Place.inside.run (utf8 digits) = some .inside := by
  apply run_inside
  intro b hb
  obtain ⟨c, hc, hb⟩ := List.mem_flatMap.mp hb
  obtain ⟨hlow, hquote, hbackslash⟩ := hexValue_bounds (h.hex c hc)
  exact plain_utf8EncodeChar hlow hquote hbackslash b hb

theorem run_escape {c d : Char} (h : escapeValue c = some d) :
    Place.inside.run (utf8 ['\\', c]) = some .inside := by
  unfold escapeValue at h
  split at h <;> first | decide | cases h

theorem CodeUnit.run_escape {digits : List Char} {n : ℕ} (h : CodeUnit digits n) :
    Place.inside.run (utf8 ('\\' :: 'u' :: digits)) = some .inside := by
  have hu : Place.inside.run (utf8 ['\\', 'u']) = some .inside := by decide
  have hdigits : utf8 ('\\' :: 'u' :: digits) = utf8 ['\\', 'u'] ++ utf8 digits :=
    utf8_append ['\\', 'u'] digits
  rw [hdigits, Place.run_of_run hu, h.run]

/-- A string body opens and closes no quotes. -/
theorem StringBody.run {s t : List Char} (h : StringBody s t) :
    Place.inside.run (utf8 s) = some .inside := by
  induction h with
  | nil => rfl
  | char hc hquote hbackslash _ ih =>
    rw [utf8_cons, Place.run_of_run (run_inside (plain_utf8EncodeChar hc hquote hbackslash)), ih]
  | @escape c d s t hc _ ih =>
    have happend : utf8 ('\\' :: c :: s) = utf8 ['\\', c] ++ utf8 s := utf8_append ['\\', c] s
    rw [happend, Place.run_of_run (run_escape hc), ih]
  | @unicode digits s t n hunit _ _ ih =>
    have happend : utf8 ('\\' :: 'u' :: (digits ++ s)) = utf8 ('\\' :: 'u' :: digits) ++ utf8 s :=
      utf8_append ('\\' :: 'u' :: digits) s
    rw [happend, Place.run_of_run hunit.run_escape, ih]
  | @surrogates high low s t m n hhigh _ hlow _ _ ih =>
    have happend : utf8 ('\\' :: 'u' :: (high ++ '\\' :: 'u' :: (low ++ s))) =
        utf8 ('\\' :: 'u' :: high) ++ (utf8 ('\\' :: 'u' :: low) ++ utf8 s) := by
      rw [← utf8_append, ← utf8_append]
      rfl
    rw [happend, Place.run_of_run hhigh.run_escape, Place.run_of_run hlow.run_escape, ih]

/-- A string literal opens and closes its own quotes. -/
theorem IsString.run {text s : Bytes} (h : IsString text s) :
    Place.outside.run text = some .outside := by
  obtain ⟨body, chars, hbody, rfl, -⟩ := h
  have hclose : Place.inside.run [34] = some .outside := rfl
  show Place.inside.run (utf8 body ++ [34]) = some .outside
  rw [Place.run_of_run hbody.run, hclose]

/-! ### Escaped strings -/

/-- A text with a backslash before its quotes and backslashes, in quotes. -/
def quoted (s : Bytes) : Bytes := 34 :: (backslashEscape s ++ [34])

/-- The escaping, on characters. -/
def escapeChars (cs : List Char) : List Char :=
  cs.flatMap fun c => if c = '"' ∨ c = '\\' then ['\\', c] else [c]

theorem escapeChars_cons (c : Char) (cs : List Char) :
    escapeChars (c :: cs) = (if c = '"' ∨ c = '\\' then ['\\', c] else [c]) ++ escapeChars cs :=
  rfl

theorem backslashEscape_utf8 (cs : List Char) :
    backslashEscape (utf8 cs) = utf8 (escapeChars cs) := by
  induction cs with
  | nil => rfl
  | cons c cs ih =>
    have happend : backslashEscape (utf8 (c :: cs)) =
        backslashEscape (String.utf8EncodeChar c) ++ backslashEscape (utf8 cs) :=
      List.flatMap_append
    rw [happend, ih, escapeChars_cons, utf8_append]
    congr 1
    by_cases hc : c = '"' ∨ c = '\\'
    · rw [if_pos hc]
      rcases hc with rfl | rfl <;> decide
    · rw [if_neg hc, utf8_cons, utf8_nil, List.append_nil]
      rw [not_or] at hc
      apply backslashEscape_of_plain
      intro b hb
      exact ⟨ne_of_mem_utf8EncodeChar hb hc.1 (by decide),
        ne_of_mem_utf8EncodeChar hb hc.2 (by decide)⟩

/-- Escaped characters denote themselves. -/
theorem stringBody_escapeChars {cs : List Char} (h : ∀ c ∈ cs, 32 ≤ c.toNat) :
    StringBody (escapeChars cs) cs := by
  induction cs with
  | nil => exact .nil
  | cons c cs ih =>
    have hrest := ih fun d hd => h d (List.mem_cons_of_mem _ hd)
    rw [escapeChars_cons]
    by_cases hc : c = '"' ∨ c = '\\'
    · rw [if_pos hc]
      have hescape : escapeValue c = some c := by rcases hc with rfl | rfl <;> rfl
      exact .escape hescape hrest
    · rw [if_neg hc]
      rw [not_or] at hc
      exact .char (h c (List.mem_cons_self ..)) hc.1 hc.2 hrest

theorem le_toNat_of_noControl {cs : List Char} (h : NoControl (utf8 cs)) :
    ∀ c ∈ cs, 32 ≤ c.toNat := by
  intro c hc
  rcases utf8EncodeChar_cases c with ⟨hlow, hbytes⟩ | ⟨hhigh, -⟩
  · have hmem : UInt8.ofNat c.toNat ∈ utf8 cs :=
      List.mem_flatMap.mpr ⟨c, hc, by rw [hbytes, List.mem_singleton]⟩
    have hle := UInt8.le_iff_toNat_le.mp (h _ hmem)
    rwa [UInt8.toNat_ofNat', Nat.mod_eq_of_lt (by omega)] at hle
  · omega

theorem noControl_cons {c : UInt8} {s : Bytes} : NoControl (c :: s) ↔ 32 ≤ c ∧ NoControl s :=
  List.forall_mem_cons

/-- Escaped text stays inside its quotes, unless it has a control character. -/
theorem run_backslashEscape (s : Bytes) :
    Place.inside.run (backslashEscape s) = if NoControl s then some .inside else none := by
  induction s with
  | nil => rfl
  | cons c s ih =>
    rw [backslashEscape_cons]
    by_cases hc : c < 32
    · have hescape : ¬(c = 34 ∨ c = 92) := by
        rintro (rfl | rfl) <;> exact absurd hc (by decide)
      have hstop : Place.inside.run (c :: backslashEscape s) = none := by
        rw [Place.run_cons, Place.step, if_pos hc]
        rfl
      have hcontrol : ¬NoControl (c :: s) := fun h => UInt8.not_le.mpr hc (noControl_cons.mp h).1
      rw [if_neg hescape, if_neg hcontrol]
      exact hstop
    · have hinside :
          Place.inside.run (if c = 34 ∨ c = 92 then [92, c] else [c]) = some .inside := by
        by_cases hescape : c = 34 ∨ c = 92
        · rw [if_pos hescape]
          rcases hescape with rfl | rfl <;> rfl
        · rw [if_neg hescape]
          rw [not_or] at hescape
          rw [Place.run_cons, Place.step, if_neg hc, if_neg hescape.1, if_neg hescape.2]
          rfl
      have hlow : 32 ≤ c := UInt8.not_lt.mp hc
      simp only [Place.run_of_run hinside, ih, noControl_cons, hlow, true_and]

theorem run_quoted (s : Bytes) :
    Place.outside.run (quoted s) = if NoControl s then some .outside else none := by
  show Place.inside.run (backslashEscape s ++ [34]) = _
  rw [Place.run_append, run_backslashEscape]
  split_ifs <;> rfl

/-- An escaped string is a literal that denotes it exactly when it has no control character. -/
theorem isString_quoted_iff {s : Bytes} (hs : Utf8 s) : IsString (quoted s) s ↔ NoControl s := by
  constructor
  · intro hstring
    have hrun := hstring.run
    rw [run_quoted] at hrun
    by_contra hcontrol
    rw [if_neg hcontrol] at hrun
    cases hrun
  · intro hcontrol
    obtain ⟨cs, rfl⟩ := hs
    refine ⟨escapeChars cs, cs, stringBody_escapeChars (le_toNat_of_noControl hcontrol), ?_, rfl⟩
    rw [quoted, backslashEscape_utf8]

/-! ### Numbers -/

def Digits (ds : Bytes) : Prop := ds ≠ [] ∧ ∀ c ∈ ds, isDigit c = true

/-- An optional fraction and its digits. -/
inductive IsFraction : Bytes → Bytes → Prop
  | absent : IsFraction [] []
  | present {ds : Bytes} (h : Digits ds) : IsFraction (46 :: ds) ds

/-- An optional exponent and its value. -/
inductive IsExponent : Bytes → ℤ → Prop
  | absent : IsExponent [] 0
  | plain {e : UInt8} {ds : Bytes} (he : e = 69 ∨ e = 101) (h : Digits ds) :
      IsExponent (e :: ds) (digitsValue ds)
  | plus {e : UInt8} {ds : Bytes} (he : e = 69 ∨ e = 101) (h : Digits ds) :
      IsExponent (e :: 43 :: ds) (digitsValue ds)
  | minus {e : UInt8} {ds : Bytes} (he : e = 69 ∨ e = 101) (h : Digits ds) :
      IsExponent (e :: 45 :: ds) (-digitsValue ds)

/-- The text is a number; only zero starts with a zero. -/
def IsNumber (text : Bytes) (q : ℚ) : Prop :=
  ∃ (negative : Bool) (whole fraction exponent ds : Bytes) (e : ℤ),
    Digits whole ∧ (whole.head? = some 48 → whole = [48]) ∧ IsFraction fraction ds ∧
    IsExponent exponent e ∧
    text = (if negative then [45] else []) ++ (whole ++ (fraction ++ exponent)) ∧
    q = (if negative then -1 else 1) * digitsValue (whole ++ ds) * 10 ^ (e - ds.length)

theorem Digits.notMem {ds : Bytes} (h : Digits ds) : 34 ∉ ds := fun hmem =>
  absurd (h.2 34 hmem) (by decide)

theorem IsFraction.notMem {text ds : Bytes} (h : IsFraction text ds) : 34 ∉ text := by
  cases h with
  | absent => simp
  | present h => simpa using h.notMem

theorem IsExponent.notMem {text : Bytes} {e : ℤ} (h : IsExponent text e) : 34 ∉ text := by
  cases h with
  | absent => simp
  | plain he h | plus he h | minus he h => rcases he with rfl | rfl <;> simpa using h.notMem

theorem IsNumber.notMem {text : Bytes} {q : ℚ} (h : IsNumber text q) : 34 ∉ text := by
  obtain ⟨negative, whole, fraction, exponent, ds, e, hwhole, -, hfraction, hexponent, rfl, -⟩ := h
  rw [List.mem_append, List.mem_append, List.mem_append]
  rintro (hmem | hmem | hmem | hmem)
  · cases negative <;> simp at hmem
  · exact hwhole.notMem hmem
  · exact hfraction.notMem hmem
  · exact hexponent.notMem hmem

/-- Only zero is printed with a zero in front. -/
theorem head?_natDecimal {n : ℕ} (h : (natDecimal n).head? = some 48) : natDecimal n = [48] := by
  unfold natDecimal at h ⊢
  split_ifs at h ⊢ with hn
  · rfl
  · have hne : Nat.digits 10 n ≠ [] := Nat.digits_ne_nil_iff_ne_zero.mpr hn
    rw [List.head?_map, List.head?_reverse, List.getLast?_eq_some_getLast hne, Option.map_some] at h
    have hlt := Nat.digits_lt_base (by norm_num : 1 < 10) (List.getLast_mem hne)
    have hzero := congrArg UInt8.toNat (Option.some.inj h)
    rw [toNat_digitByte hlt] at hzero
    have hlast := Nat.getLast_digit_ne_zero 10 hn
    exact absurd (Nat.add_left_cancel hzero : _ = 0) hlast

/-- A printed integer is a number. -/
theorem isNumber_toDecimal (n : ℤ) : IsNumber (toDecimal n) n := by
  have hdigits : Digits (natDecimal n.natAbs) :=
    ⟨natDecimal_ne_nil _, fun c hc => isDigit_of_mem_natDecimal hc⟩
  refine ⟨decide (n < 0), natDecimal n.natAbs, [], [], [], 0, hdigits, head?_natDecimal, .absent,
    .absent, ?_, ?_⟩
  · unfold toDecimal
    by_cases hn : n < 0 <;> simp [hn]
  · rw [List.append_nil, digitsValue_natDecimal]
    by_cases hn : n < 0
    · simp [hn, abs_of_neg]
    · simp [hn, abs_of_nonneg (Int.not_lt.mp hn)]

/-! ### Values -/

inductive Value
  | null
  | boolean (b : Bool)
  | number (q : ℚ)
  | string (s : Bytes)
  | array (elements : List Value)
  | object (members : List (Bytes × Value))

/-- White space between tokens. -/
def Space (w : Bytes) : Prop := ∀ c ∈ w, c = 32 ∨ c = 9 ∨ c = 10 ∨ c = 13

instance (w : Bytes) : Decidable (Space w) := List.decidableBAll _ w

theorem space_nil : Space [] := List.forall_mem_nil _

mutual

/-- The text is a value, without white space around it. -/
inductive IsValue : Bytes → Value → Prop
  | null : IsValue (bytes "null") .null
  | true : IsValue (bytes "true") (.boolean Bool.true)
  | false : IsValue (bytes "false") (.boolean Bool.false)
  | number {text : Bytes} {q : ℚ} (h : IsNumber text q) : IsValue text (.number q)
  | string {text s : Bytes} (h : IsString text s) : IsValue text (.string s)
  | emptyArray {w : Bytes} (hw : Space w) : IsValue (91 :: (w ++ [93])) (.array [])
  | array {text : Bytes} {elements : List Value} (h : IsElements text elements) :
      IsValue (91 :: (text ++ [93])) (.array elements)
  | emptyObject {w : Bytes} (hw : Space w) : IsValue (123 :: (w ++ [125])) (.object [])
  | object {text : Bytes} {members : List (Bytes × Value)} (h : IsMembers text members) :
      IsValue (123 :: (text ++ [125])) (.object members)

/-- The text is what stands between the brackets of an array that is not empty. -/
inductive IsElements : Bytes → List Value → Prop
  | last {a text b : Bytes} {v : Value} (ha : Space a) (h : IsValue text v) (hb : Space b) :
      IsElements (a ++ (text ++ b)) [v]
  | cons {a text b rest : Bytes} {v : Value} {vs : List Value} (ha : Space a) (h : IsValue text v)
      (hb : Space b) (hrest : IsElements rest vs) :
      IsElements (a ++ (text ++ (b ++ 44 :: rest))) (v :: vs)

/-- The text is what stands between the braces of an object that is not empty. -/
inductive IsMembers : Bytes → List (Bytes × Value) → Prop
  | last {a key b c text d name : Bytes} {v : Value} (ha : Space a) (hkey : IsString key name)
      (hb : Space b) (hc : Space c) (h : IsValue text v) (hd : Space d) :
      IsMembers (a ++ (key ++ (b ++ 58 :: (c ++ (text ++ d))))) [(name, v)]
  | cons {a key b c text d name rest : Bytes} {v : Value} {vs : List (Bytes × Value)} (ha : Space a)
      (hkey : IsString key name) (hb : Space b) (hc : Space c) (h : IsValue text v) (hd : Space d)
      (hrest : IsMembers rest vs) :
      IsMembers (a ++ (key ++ (b ++ 58 :: (c ++ (text ++ (d ++ 44 :: rest)))))) ((name, v) :: vs)

end

/-- The text is a JSON text: a value with white space around it. -/
def IsText (text : Bytes) (v : Value) : Prop :=
  ∃ a body b, Space a ∧ IsValue body v ∧ Space b ∧ text = a ++ (body ++ b)

theorem Space.run {w : Bytes} (h : Space w) : Place.outside.run w = some .outside := by
  apply run_outside
  intro hmem
  rcases h 34 hmem with h | h | h | h <;> exact absurd h (by decide)

theorem run_separator {c : UInt8} (hc : c ≠ 34) (s : Bytes) :
    Place.outside.run (c :: s) = Place.outside.run s := by
  rw [Place.run_cons, Place.step, if_neg hc, Option.bind_some]

mutual

theorem IsValue.run {text : Bytes} {v : Value} (h : IsValue text v) :
    Place.outside.run text = some .outside := by
  cases h with
  | null => decide
  | true => decide
  | false => decide
  | number h => exact run_outside h.notMem
  | string h => exact h.run
  | emptyArray hw | emptyObject hw =>
    rw [run_separator (by decide), Place.run_of_run hw.run]
    rfl
  | array h | object h =>
    rw [run_separator (by decide), Place.run_of_run h.run]
    rfl

theorem IsElements.run {text : Bytes} {elements : List Value} (h : IsElements text elements) :
    Place.outside.run text = some .outside := by
  cases h with
  | last ha h hb => rw [Place.run_of_run ha.run, Place.run_of_run h.run, hb.run]
  | cons ha h hb hrest =>
    rw [Place.run_of_run ha.run, Place.run_of_run h.run, Place.run_of_run hb.run,
      run_separator (by decide), hrest.run]

theorem IsMembers.run {text : Bytes} {members : List (Bytes × Value)} (h : IsMembers text members) :
    Place.outside.run text = some .outside := by
  cases h with
  | last ha hkey hb hc h hd =>
    rw [Place.run_of_run ha.run, Place.run_of_run hkey.run, Place.run_of_run hb.run,
      run_separator (by decide), Place.run_of_run hc.run, Place.run_of_run h.run, hd.run]
  | cons ha hkey hb hc h hd hrest =>
    rw [Place.run_of_run ha.run, Place.run_of_run hkey.run, Place.run_of_run hb.run,
      run_separator (by decide), Place.run_of_run hc.run, Place.run_of_run h.run,
      Place.run_of_run hd.run, run_separator (by decide), hrest.run]

end

/-- A JSON text opens and closes its quotes. -/
theorem IsText.run {text : Bytes} {v : Value} (h : IsText text v) :
    Place.outside.run text = some .outside := by
  obtain ⟨a, body, b, ha, hvalue, hb, rfl⟩ := h
  rw [Place.run_of_run ha.run, Place.run_of_run hvalue.run, hb.run]

/-! ### Flat objects written by hand -/

/-- A value without nesting. -/
inductive Scalar
  | null
  | boolean (b : Bool)
  | int (n : ℤ)
  | string (s : Bytes)

def Scalar.text : Scalar → Bytes
  | .null => bytes "null"
  | .boolean b => if b then bytes "true" else bytes "false"
  | .int n => toDecimal n
  | .string s => quoted s

@[simp] theorem Scalar.text_boolean (b : Bool) :
    (Scalar.boolean b).text = if b then bytes "true" else bytes "false" := rfl

@[simp] theorem Scalar.text_int (n : ℤ) : (Scalar.int n).text = toDecimal n := rfl

@[simp] theorem Scalar.text_string (s : Bytes) : (Scalar.string s).text = quoted s := rfl

def Scalar.value : Scalar → Value
  | .null => .null
  | .boolean b => .boolean b
  | .int n => .number n
  | .string s => .string s

/-- The strings a value holds. -/
def Scalar.strings : Scalar → List Bytes
  | .string s => [s]
  | _ => []

/-- The strings the members hold. -/
def stringsOf (ms : List (Bytes × Scalar)) : List Bytes := ms.flatMap fun m => m.2.strings

/-- The white space of a document: before each member, after each colon, and around the brace at its
end. -/
structure Layout where
  margin : Bytes
  gap : Bytes
  last : Bytes
  after : Bytes
  margin_space : Space margin
  gap_space : Space gap
  last_space : Space last
  after_space : Space after

/-- `"name":value` -/
def Layout.member (layout : Layout) (m : Bytes × Scalar) : Bytes :=
  34 :: (m.1 ++ 34 :: 58 :: (layout.gap ++ m.2.text))

def Layout.members (layout : Layout) : List (Bytes × Scalar) → Bytes
  | [] => []
  | [m] => layout.margin ++ (layout.member m ++ layout.last)
  | m :: ms => layout.margin ++ (layout.member m ++ 44 :: layout.members ms)

/-- The document of some members. -/
def Layout.print (layout : Layout) (ms : List (Bytes × Scalar)) : Bytes :=
  123 :: (layout.members ms ++ 125 :: layout.after)

/-- What a document denotes. -/
def objectOf (ms : List (Bytes × Scalar)) : Value := .object (ms.map fun m => (m.1, m.2.value))

/-- Text below 128 that stands for itself inside quotes. -/
def Printable (s : Bytes) : Prop := ∀ c ∈ s, 32 ≤ c ∧ c < 128 ∧ c ≠ 34 ∧ c ≠ 92

instance (s : Bytes) : Decidable (Printable s) := List.decidableBAll _ s

theorem Printable.utf8 {s : Bytes} (h : Printable s) : Utf8 s :=
  utf8_of_ascii fun c hc => (h c hc).2.1

theorem Printable.noControl {s : Bytes} (h : Printable s) : NoControl s := fun c hc => (h c hc).1

theorem Printable.plain {s : Bytes} (h : Printable s) : Plain s := fun c hc =>
  ⟨(h c hc).1, (h c hc).2.2⟩

theorem Printable.backslashEscape {s : Bytes} (h : Printable s) : CText.backslashEscape s = s :=
  backslashEscape_of_plain fun c hc => (h c hc).2.2

theorem Printable.append {s t : Bytes} (hs : Printable s) (ht : Printable t) :
    Printable (s ++ t) := by
  intro c hc
  rcases List.mem_append.mp hc with hc | hc
  · exact hs c hc
  · exact ht c hc

theorem printable_toDecimal (n : ℤ) : Printable (toDecimal n) := by
  intro c hc
  rcases mem_toDecimal hc with rfl | hdigit
  · decide
  · simp only [isDigit, Bool.and_eq_true, decide_eq_true_eq] at hdigit
    refine ⟨?_, ?_, ?_, ?_⟩ <;> grind

theorem Printable.isString {name : Bytes} (h : Printable name) :
    IsString (34 :: (name ++ [34])) name := by
  have hquoted : quoted name = 34 :: (name ++ [34]) := by rw [quoted, h.backslashEscape]
  rw [← hquoted]
  exact (isString_quoted_iff h.utf8).mpr h.noControl

/-- Names that need no escape. -/
def PlainNames (ms : List (Bytes × Scalar)) : Prop := ∀ name ∈ ms.map Prod.fst, Printable name

theorem PlainNames.head {m : Bytes × Scalar} {ms : List (Bytes × Scalar)}
    (h : PlainNames (m :: ms)) :
    Printable m.1 :=
  h m.1 (List.mem_cons_self ..)

theorem PlainNames.tail {m : Bytes × Scalar} {ms : List (Bytes × Scalar)}
    (h : PlainNames (m :: ms)) :
    PlainNames ms := fun name hname => h name (List.mem_cons_of_mem _ hname)

theorem Scalar.isValue {v : Scalar} (hutf8 : ∀ s ∈ v.strings, Utf8 s)
    (hcontrol : ∀ s ∈ v.strings, NoControl s) : IsValue v.text v.value := by
  cases v with
  | null => exact .null
  | boolean b =>
    cases b with
    | false => exact .false
    | true => exact .true
  | int n => exact .number (isNumber_toDecimal n)
  | string s =>
    have hmem : s ∈ (Scalar.string s).strings := List.mem_singleton_self s
    exact .string ((isString_quoted_iff (hutf8 s hmem)).mpr (hcontrol s hmem))

/-- The members are derived when no string has a control character. -/
theorem Layout.isMembers (layout : Layout) {ms : List (Bytes × Scalar)} (hne : ms ≠ [])
    (hnames : PlainNames ms) (hutf8 : ∀ m ∈ ms, ∀ s ∈ m.2.strings, Utf8 s)
    (hcontrol : ∀ m ∈ ms, ∀ s ∈ m.2.strings, NoControl s) :
    IsMembers (layout.members ms) (ms.map fun m => (m.1, m.2.value)) := by
  induction ms with
  | nil => exact absurd rfl hne
  | cons m ms ih =>
    have hkey := hnames.head.isString
    have hvalue :=
      Scalar.isValue (hutf8 m (List.mem_cons_self ..)) (hcontrol m (List.mem_cons_self ..))
    cases ms with
    | nil =>
      have htext : layout.members [m] = layout.margin ++ (34 :: (m.1 ++ [34]) ++ ([] ++ 58 ::
          (layout.gap ++ (m.2.text ++ layout.last)))) := by
        simp [Layout.members, Layout.member]
      rw [htext]
      exact .last layout.margin_space hkey space_nil layout.gap_space hvalue layout.last_space
    | cons m' ms =>
      have htext : layout.members (m :: m' :: ms) = layout.margin ++ (34 :: (m.1 ++ [34]) ++ ([] ++
          58 :: (layout.gap ++ (m.2.text ++ ([] ++ 44 :: layout.members (m' :: ms)))))) := by
        simp [Layout.members, Layout.member]
      have hrest := ih (List.cons_ne_nil m' ms) hnames.tail
        (fun x hx => hutf8 x (List.mem_cons_of_mem _ hx))
        (fun x hx => hcontrol x (List.mem_cons_of_mem _ hx))
      rw [htext]
      exact .cons layout.margin_space hkey space_nil layout.gap_space hvalue space_nil hrest

/-- The text of a value opens and closes its quotes, unless a string of it has a control character.
-/
theorem Scalar.run (v : Scalar) :
    Place.outside.run v.text = if ∀ s ∈ v.strings, NoControl s then some .outside else none := by
  cases v with
  | null => rfl
  | boolean b => cases b <;> rfl
  | int n =>
    have hall : ∀ s ∈ (Scalar.int n).strings, NoControl s := by simp [Scalar.strings]
    rw [if_pos hall]
    exact run_outside (isNumber_toDecimal n).notMem
  | string s =>
    have hall : (∀ t ∈ (Scalar.string s).strings, NoControl t) ↔ NoControl s := by
      simp [Scalar.strings]
    simp only [hall]
    exact run_quoted s

/-- A member's text stops at a control character, and else leaves its quotes closed. -/
theorem Layout.run_member (layout : Layout) {m : Bytes × Scalar} (hplain : Plain m.1) (s : Bytes) :
    Place.outside.run (layout.margin ++ (layout.member m ++ s)) =
      if ∀ v ∈ m.2.strings, NoControl v then Place.outside.run s else none := by
  have hname : Place.outside.run (34 :: (m.1 ++ [34])) = some .outside := by
    show Place.inside.run (m.1 ++ [34]) = some .outside
    rw [Place.run_of_run (run_inside hplain)]
    rfl
  have htext : layout.member m ++ s =
      34 :: (m.1 ++ [34]) ++ 58 :: (layout.gap ++ (m.2.text ++ s)) := by
    simp [Layout.member]
  rw [Place.run_of_run layout.margin_space.run, htext, Place.run_of_run hname,
    run_separator (by decide), Place.run_of_run layout.gap_space.run, Place.run_append, Scalar.run]
  split_ifs <;> rfl

/-- A string with a control character stops the members' text. -/
theorem Layout.run_members (layout : Layout) {ms : List (Bytes × Scalar)} (hnames : PlainNames ms)
    (h : ∃ m ∈ ms, ∃ s ∈ m.2.strings, ¬NoControl s) (rest : Bytes) :
    Place.outside.run (layout.members ms ++ rest) = none := by
  induction ms with
  | nil => simp at h
  | cons m ms ih =>
    have hplain := hnames.head.plain
    obtain ⟨m₀, hmem, s, hs, hcontrol⟩ := h
    cases ms with
    | nil =>
      obtain rfl := List.mem_singleton.mp hmem
      have hnot : ¬∀ v ∈ m₀.2.strings, NoControl v := fun hall => hcontrol (hall s hs)
      rw [Layout.members, List.append_assoc, List.append_assoc, layout.run_member hplain,
        if_neg hnot]
    | cons m' ms =>
      rw [Layout.members, List.append_assoc, List.append_assoc, layout.run_member hplain]
      by_cases hall : ∀ v ∈ m.2.strings, NoControl v
      · have hrest : m₀ ∈ m' :: ms := by
          rcases List.mem_cons.mp hmem with rfl | hrest
          · exact absurd (hall s hs) hcontrol
          · exact hrest
        rw [if_pos hall, List.cons_append, run_separator (by decide)]
        exact ih hnames.tail ⟨m₀, hrest, s, hs, hcontrol⟩
      · rw [if_neg hall]
      · simp

/-- A document denotes its members exactly when no string of it has a control character. -/
theorem Layout.isText_print_iff (layout : Layout) {ms : List (Bytes × Scalar)} (hne : ms ≠ [])
    (hnames : PlainNames ms) (hutf8 : ∀ s ∈ stringsOf ms, Utf8 s) :
    IsText (layout.print ms) (objectOf ms) ↔ ∀ s ∈ stringsOf ms, NoControl s := by
  simp only [stringsOf, List.forall_mem_flatMap] at hutf8 ⊢
  constructor
  · intro htext
    by_contra hcontrol
    push Not at hcontrol
    have hrun := htext.run
    rw [Layout.print, run_separator (by decide), layout.run_members hnames hcontrol] at hrun
    cases hrun
  · intro hcontrol
    have hmembers := layout.isMembers hne hnames hutf8 hcontrol
    refine ⟨[], _, layout.after, by simp [Space], .object hmembers, layout.after_space, ?_⟩
    simp [Layout.print]

/-- Below the space, a document has only the characters of its white space. -/
theorem Layout.notMem_print (layout : Layout) {ms : List (Bytes × Scalar)} (hnames : PlainNames ms)
    (hcontrol : ∀ s ∈ stringsOf ms, NoControl s) : 0 ∉ layout.print ms := by
  have hspace : ∀ {w : Bytes}, Space w → 0 ∉ w := by
    intro w hw hmem
    rcases hw 0 hmem with h | h | h | h <;> exact absurd h (by decide)
  have hscalar : ∀ v : Scalar, (∀ s ∈ v.strings, NoControl s) → 0 ∉ v.text := by
    intro v hv
    cases v with
    | null => decide
    | boolean b => cases b <;> decide
    | int n => exact fun hmem => absurd (printable_toDecimal n 0 hmem).1 (by decide)
    | string s =>
      have hs := hv s (List.mem_singleton_self s)
      rw [Scalar.text_string, quoted, List.mem_cons, List.mem_append, List.mem_singleton]
      rintro (h | h | h)
      · exact absurd h (by decide)
      · rcases mem_backslashEscape h with h | h
        · exact absurd (hs 0 h) (by decide)
        · exact absurd h (by decide)
      · exact absurd h (by decide)
  have hmember : ∀ m ∈ ms, 0 ∉ layout.member m := by
    intro m hm
    have hname : 0 ∉ m.1 := fun hmem =>
      absurd (hnames m.1 (List.mem_map_of_mem hm) 0 hmem).1 (by decide)
    have hvalue := hscalar m.2 fun s hs => hcontrol s (List.mem_flatMap.mpr ⟨m, hm, hs⟩)
    simp [Layout.member, hname, hvalue, hspace layout.gap_space]
  have hmembers : 0 ∉ layout.members ms := by
    clear hcontrol hnames
    induction ms with
    | nil => exact List.not_mem_nil
    | cons m ms ih =>
      have hfirst := hmember m (List.mem_cons_self ..)
      have hrest := ih fun m' hm' => hmember m' (List.mem_cons_of_mem _ hm')
      cases ms with
      | nil => simp [Layout.members, hfirst, hspace layout.margin_space, hspace layout.last_space]
      | cons m' ms =>
        simp only [Layout.members, List.mem_append, List.mem_cons, hfirst,
          hspace layout.margin_space, false_or, not_or]
        exact ⟨by decide, hrest⟩
  simp [Layout.print, hmembers, hspace layout.after_space]

/-! ### Objects around other texts -/

/-- A member of an object: the white space before it, its name, and the text after its colon, which
denotes a value. -/
structure Member where
  margin : Bytes
  name : Bytes
  text : Bytes
  value : Value
  margin_space : Space margin
  name_printable : Printable name
  isText : IsText text value

/-- The text between the braces of an object. -/
def writeMembers : List Member → Bytes
  | [] => []
  | [m] => m.margin ++ 34 :: (m.name ++ 34 :: 58 :: m.text)
  | m :: ms => m.margin ++ 34 :: (m.name ++ 34 :: 58 :: (m.text ++ 44 :: writeMembers ms))

theorem isMembers_writeMembers {ms : List Member} (hne : ms ≠ []) :
    IsMembers (writeMembers ms) (ms.map fun m => (m.name, m.value)) := by
  induction ms with
  | nil => exact absurd rfl hne
  | cons m ms ih =>
    have hkey := m.name_printable.isString
    obtain ⟨c, body, d, hc, hvalue, hd, htext⟩ := m.isText
    cases ms with
    | nil =>
      have hmember := IsMembers.last m.margin_space hkey space_nil hc hvalue hd
      simpa [writeMembers, htext] using hmember
    | cons m' ms =>
      have hmember := IsMembers.cons m.margin_space hkey space_nil hc hvalue hd
        (ih (List.cons_ne_nil m' ms))
      simpa [writeMembers, htext] using hmember

/-- An object of members denotes their values. -/
theorem isText_writeMembers {ms : List Member} (hne : ms ≠ []) {a b : Bytes} (ha : Space a)
    (hb : Space b) :
    IsText (a ++ 123 :: (writeMembers ms ++ 125 :: b))
      (.object (ms.map fun m => (m.name, m.value))) :=
  ⟨a, _, b, ha, .object (isMembers_writeMembers hne), hb, by simp⟩

/-- White space around a text belongs to it. -/
theorem IsText.between {a text b : Bytes} {v : Value} (ha : Space a) (h : IsText text v)
    (hb : Space b) : IsText (a ++ (text ++ b)) v := by
  obtain ⟨a', body, b', ha', hvalue, hb', rfl⟩ := h
  refine ⟨a ++ a', body, b' ++ b, ?_, hvalue, ?_, by simp⟩
  · exact fun c hc => (List.mem_append.mp hc).elim (ha c) (ha' c)
  · exact fun c hc => (List.mem_append.mp hc).elim (hb' c) (hb c)

/-- A scalar with printable strings as a member, with white space after it. -/
def Member.scalar (margin name : Bytes) (v : Scalar) (last : Bytes) (hmargin : Space margin)
    (hname : Printable name) (hv : ∀ s ∈ v.strings, Printable s) (hlast : Space last) : Member where
  margin := margin
  name := name
  text := 32 :: (v.text ++ last)
  value := v.value
  margin_space := hmargin
  name_printable := hname
  isText := ⟨[32], v.text, last, by decide,
    v.isValue (fun s hs => (hv s hs).utf8) (fun s hs => (hv s hs).noControl), hlast, by simp⟩

end Json
