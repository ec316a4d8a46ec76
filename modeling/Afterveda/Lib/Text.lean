import Mathlib.Data.Bool.AllAny
import Mathlib.Data.List.TakeWhile
import Mathlib.Data.Nat.Digits.Lemmas

/-!
# C and C++ text

A `std::string` or a C string is its list of bytes (`Bytes`); `bytes` gives the bytes of a literal.
The module models the library calls that scan and print text: `find` (`std::string::find`), `strtol`
in base ten, and `toDecimal` (`std::to_string` and `<<` of an integer), with the lemmas that let a
proof walk over a document built from literals and numbers:

* `find_at`: text that keeps `Apart` from a marker does not hide the marker that follows it;
* `strtol_toDecimal`: a printed number is read back;
* `strtol_eq_some_iff`: what a text denotes, of any size, and what is read of it;
* `readQuoted_backslashEscape`: escaped text is read back.
-/

namespace CText

/-- A byte string. -/
abbrev Bytes := List UInt8

/-- The bytes of a literal. -/
def bytes (s : String) : Bytes := s.toByteArray.data.toList

theorem bytes_append (a b : String) : bytes (a ++ b) = bytes a ++ bytes b := by
  simp [bytes]

/-- `std::isspace` in the C locale. -/
def isSpace (c : UInt8) : Bool := c = 32 || (9 ≤ c && c ≤ 13)

/-- `std::isdigit`. -/
def isDigit (c : UInt8) : Bool := 48 ≤ c && c ≤ 57

/-! ### `std::string::find` -/

/-- `s.find(needle)`: where the first occurrence starts. -/
def find : Bytes → Bytes → Option ℕ
  | [], needle => if needle = [] then some 0 else none
  | c :: s, needle => if needle <+: c :: s then some 0 else (find s needle).map (· + 1)

/-- No occurrence of `needle` starts inside `pre`, whatever follows `pre`. -/
def Apart (needle pre : Bytes) : Prop :=
  ∀ t ∈ pre.tails, t ≠ [] → ¬ needle <+: t ∧ ¬ t <+: needle

instance (needle pre : Bytes) : Decidable (Apart needle pre) :=
  inferInstanceAs (Decidable (∀ t ∈ pre.tails, t ≠ [] → _))

theorem Apart.tail {needle : Bytes} {c : UInt8} {pre : Bytes} (h : Apart needle (c :: pre)) :
    Apart needle pre := by
  intro t ht
  exact h t (by rw [List.mem_tails] at ht ⊢; exact ht.trans (List.suffix_cons c pre))

theorem Apart.not_prefix {needle pre : Bytes} (h : Apart needle pre) (hne : pre ≠ [])
    (s : Bytes) : ¬ needle <+: pre ++ s := by
  intro hp
  obtain ⟨h1, h2⟩ := h pre (by rw [List.mem_tails]) hne
  rcases List.prefix_or_prefix_of_prefix hp (List.prefix_append pre s) with h' | h'
  · exact h1 h'
  · exact h2 h'

/-- Text without the first byte of the needle is apart from it. -/
theorem apart_of_forall_ne {c : UInt8} {needle pre : Bytes} (h : ∀ x ∈ pre, x ≠ c) :
    Apart (c :: needle) pre := by
  intro t ht hne
  rw [List.mem_tails] at ht
  obtain ⟨d, t, rfl⟩ := List.exists_cons_of_ne_nil hne
  have hd : d ≠ c := h d (ht.subset (List.mem_cons_self ..))
  constructor
  · intro hp
    exact hd (List.cons_prefix_cons.mp hp).1.symm
  · intro hp
    exact hd (List.cons_prefix_cons.mp hp).1

theorem Apart.append {needle a b : Bytes} (ha : Apart needle a) (hb : Apart needle b) :
    Apart needle (a ++ b) := by
  induction a with
  | nil => exact hb
  | cons c a ih =>
    intro t ht hne
    rw [List.mem_tails, List.cons_append, List.suffix_cons_iff] at ht
    rcases ht with rfl | ht
    · -- an occurrence that starts inside `a` would show in `a` alone
      refine ⟨by rw [← List.cons_append]; exact ha.not_prefix (by simp) b, fun hp => ?_⟩
      rw [← List.cons_append] at hp
      exact (ha (c :: a) (by rw [List.mem_tails]) (by simp)).2
        ((List.prefix_append _ _).trans hp)
    · exact ih ha.tail t (by rwa [List.mem_tails]) hne

theorem find_append {needle pre : Bytes} (h : Apart needle pre) (s : Bytes) :
    find (pre ++ s) needle = (find s needle).map (· + pre.length) := by
  induction pre with
  | nil => simp
  | cons c pre ih =>
    have hp := h.not_prefix (by simp) s
    rw [List.cons_append] at hp ⊢
    rw [find, if_neg hp, ih h.tail, Option.map_map]
    congr 1

theorem find_here (needle s : Bytes) : find (needle ++ s) needle = some 0 := by
  cases h : needle ++ s with
  | nil =>
    rw [List.append_eq_nil_iff] at h
    rw [h.1]
    rfl
  | cons c t => rw [find, if_pos (h ▸ List.prefix_append needle s)]

/-- The marker found in a document is the one that follows text apart from it. -/
theorem find_at {needle pre : Bytes} (h : Apart needle pre) (s : Bytes) :
    find (pre ++ (needle ++ s)) needle = some pre.length := by
  rw [find_append h, find_here, Option.map_some, Nat.zero_add]

theorem length_of_find {s needle : Bytes} {i : ℕ} (h : find s needle = some i) :
    i + needle.length ≤ s.length := by
  induction s generalizing i with
  | nil =>
    rw [find] at h
    split_ifs at h with hempty
    obtain rfl := Option.some.inj h
    simp [hempty]
  | cons c s ih =>
    rw [find] at h
    split_ifs at h with hp
    · obtain rfl := Option.some.inj h
      simpa using hp.length_le
    · obtain ⟨j, hj, rfl⟩ := Option.map_eq_some_iff.mp h
      have hlen := ih hj
      rw [List.length_cons]
      omega

/-- The first occurrence in a text is the first one also when more text follows. -/
theorem find_append_right {p needle : Bytes} {i : ℕ} (h : find p needle = some i) (s : Bytes) :
    find (p ++ s) needle = some i := by
  induction p generalizing i with
  | nil =>
    rw [find] at h
    split_ifs at h with hempty
    obtain rfl := Option.some.inj h
    rw [hempty]
    exact find_here [] _
  | cons c p ih =>
    have hlen := length_of_find h
    rw [find] at h
    rw [List.cons_append, find]
    split_ifs at h with hp
    · have hhere : needle <+: c :: (p ++ s) := hp.trans (List.prefix_append (c :: p) s)
      rw [if_pos hhere, h]
    · obtain ⟨j, hj, rfl⟩ := Option.map_eq_some_iff.mp h
      -- the needle fits into `c :: p`, so it does not start there with the help of `s`
      have hhere : ¬needle <+: c :: (p ++ s) := fun hn =>
        hp (List.prefix_of_prefix_length_le hn (List.prefix_append (c :: p) s) (by omega))
      rw [if_neg hhere, ih hj, Option.map_some]

/-- A text that is cut off before the first occurrence ends has none. -/
theorem find_eq_none_of_prefix {s p needle : Bytes} {i : ℕ} (h : find s needle = some i)
    (hp : p <+: s) (hlen : p.length < i + needle.length) : find p needle = none := by
  cases hfind : find p needle with
  | none => rfl
  | some j =>
    obtain ⟨t, rfl⟩ := hp
    have hj := length_of_find hfind
    obtain rfl := Option.some.inj ((find_append_right hfind t).symm.trans h)
    omega

/-- `s.rfind(c)`: where the last occurrence of a byte is. -/
def rfind (s : Bytes) (c : UInt8) : Option ℕ :=
  (s.reverse.idxOf? c).map fun i => s.length - 1 - i

/-- The text after the last occurrence of `needle`. -/
def afterLast (needle : Bytes) : Bytes → Option Bytes
  | [] => none
  | c :: s =>
    match afterLast needle s with
    | some t => some t
    | none => if needle <+: c :: s then some ((c :: s).drop needle.length) else none

theorem afterLast_of_apart {needle s : Bytes} (h : Apart needle s) : afterLast needle s = none := by
  induction s with
  | nil => rfl
  | cons c s ih =>
    have hp := (h (c :: s) (by rw [List.mem_tails]) (by simp)).1
    rw [afterLast, ih h.tail]
    exact if_neg hp

/-- What stands before an occurrence does not matter. -/
theorem afterLast_append {needle s t : Bytes} (h : afterLast needle s = some t) (pre : Bytes) :
    afterLast needle (pre ++ s) = some t := by
  induction pre with
  | nil => exact h
  | cons c pre ih => rw [List.cons_append, afterLast, ih]

/-- The last occurrence is the one after which no other starts. -/
theorem afterLast_here {c : UInt8} {needle s : Bytes} (h : Apart (c :: needle) (needle ++ s)) :
    afterLast (c :: needle) (c :: needle ++ s) = some s := by
  have hdrop : (c :: (needle ++ s)).drop (c :: needle).length = s := by
    rw [← List.cons_append, List.drop_left]
  rw [List.cons_append, afterLast, afterLast_of_apart h, hdrop]
  exact if_pos (List.prefix_append (c :: needle) s)

/-! ### Decimal numerals -/

/-- The byte of a decimal digit. -/
def digitByte (d : ℕ) : UInt8 := UInt8.ofNat (48 + d)

/-- The value of a decimal digit's byte. -/
def digitValue (c : UInt8) : ℕ := c.toNat - 48

/-- The number a digit sequence denotes. -/
def digitsValue (ds : Bytes) : ℕ := Nat.ofDigits 10 (ds.map digitValue).reverse

/-- The decimal numeral of a natural number. -/
def natDecimal (n : ℕ) : Bytes :=
  if n = 0 then [48] else (Nat.digits 10 n).reverse.map digitByte

/-- `std::to_string` of an integer. -/
def toDecimal (n : ℤ) : Bytes :=
  if n < 0 then 45 :: natDecimal n.natAbs else natDecimal n.natAbs

theorem toNat_digitByte {d : ℕ} (h : d < 10) : (digitByte d).toNat = 48 + d := by
  rw [digitByte, UInt8.toNat_ofNat', Nat.mod_eq_of_lt (by omega)]

theorem digitValue_digitByte {d : ℕ} (h : d < 10) : digitValue (digitByte d) = d := by
  rw [digitValue, toNat_digitByte h]
  omega

theorem isDigit_digitByte {d : ℕ} (h : d < 10) : isDigit (digitByte d) = true := by
  have hd := toNat_digitByte h
  simp only [isDigit, Bool.and_eq_true, decide_eq_true_eq, UInt8.le_iff_toNat_le, hd]
  constructor
  · show 48 ≤ _
    omega
  · show _ ≤ 57
    omega

@[simp] theorem digitsValue_nil : digitsValue [] = 0 := rfl

theorem digitsValue_append (ds es : Bytes) :
    digitsValue (ds ++ es) = digitsValue ds * 10 ^ es.length + digitsValue es := by
  simp only [digitsValue, List.map_append, List.reverse_append, Nat.ofDigits_append,
    List.length_reverse, List.length_map]
  ring

theorem digitsValue_lt {ds : Bytes} (h : ∀ c ∈ ds, isDigit c = true) :
    digitsValue ds < 10 ^ ds.length := by
  have hlt : ∀ d ∈ (ds.map digitValue).reverse, d < 10 := by
    intro d hd
    obtain ⟨c, hc, rfl⟩ := List.mem_map.mp (List.mem_reverse.mp hd)
    have hdigit := h c hc
    simp only [isDigit, Bool.and_eq_true, decide_eq_true_eq, UInt8.le_iff_toNat_le] at hdigit
    have hnine : c.toNat ≤ 57 := hdigit.2
    rw [digitValue]
    omega
  have hpow := Nat.ofDigits_lt_base_pow_length (by norm_num : 1 < 10) hlt
  rwa [List.length_reverse, List.length_map] at hpow

theorem digitsValue_map_digitByte {ds : List ℕ} (h : ∀ d ∈ ds, d < 10) :
    digitsValue (ds.map digitByte) = Nat.ofDigits 10 ds.reverse := by
  have hmap : ds.map (digitValue ∘ digitByte) = ds := by
    conv_rhs => rw [← List.map_id ds]
    exact List.map_congr_left fun d hd => digitValue_digitByte (h d hd)
  rw [digitsValue, List.map_map, hmap]

theorem digitsValue_natDecimal (n : ℕ) : digitsValue (natDecimal n) = n := by
  unfold natDecimal
  split_ifs with h
  · rw [h]; rfl
  · rw [digitsValue_map_digitByte, List.reverse_reverse, Nat.ofDigits_digits]
    intro d hd
    exact Nat.digits_lt_base (by norm_num) (List.mem_reverse.mp hd)

theorem isDigit_of_mem_natDecimal {n : ℕ} {c : UInt8} (h : c ∈ natDecimal n) :
    isDigit c = true := by
  unfold natDecimal at h
  split_ifs at h
  · rw [List.mem_singleton.mp h]; rfl
  · obtain ⟨d, hd, rfl⟩ := List.mem_map.mp h
    exact isDigit_digitByte (Nat.digits_lt_base (by norm_num) (List.mem_reverse.mp hd))

theorem natDecimal_ne_nil (n : ℕ) : natDecimal n ≠ [] := by
  unfold natDecimal
  split_ifs with h
  · simp
  · simpa using Nat.digits_ne_nil_iff_ne_zero.mpr h

theorem mem_toDecimal {n : ℤ} {c : UInt8} (h : c ∈ toDecimal n) : c = 45 ∨ isDigit c = true := by
  unfold toDecimal at h
  split_ifs at h
  · rcases List.mem_cons.mp h with rfl | h
    · exact Or.inl rfl
    · exact Or.inr (isDigit_of_mem_natDecimal h)
  · exact Or.inr (isDigit_of_mem_natDecimal h)

/-! ### `strtol` -/

/-- An optional sign: whether it is a minus, and the text after it. -/
def readSign (s : Bytes) : Bool × Bytes :=
  match s.head? with
  | some 45 => (true, s.tail)
  | some 43 => (false, s.tail)
  | _ => (false, s)

/-- A `long` result: out of range values saturate. -/
def clampLong (z : ℤ) : ℤ := max (-2 ^ 63) (min z (2 ^ 63 - 1))

/-- `std::strtol(s, &end, 10)`: the value and the text from `end` on, or `none` when no digits were
read (`end == s`). -/
def strtol (s : Bytes) : Option (ℤ × Bytes) :=
  let (negative, s) := readSign (s.dropWhile isSpace)
  let ds := s.takeWhile isDigit
  if ds = [] then none
  else
    let n : ℤ := digitsValue ds
    some (clampLong (if negative then -n else n), s.dropWhile isDigit)

/-- The text does not start with a digit. -/
def NoDigitHead (s : Bytes) : Prop := ∀ c ∈ s.head?, isDigit c = false

instance (s : Bytes) : Decidable (NoDigitHead s) := Option.decidableForallMem _

theorem NoDigitHead.append {lit : Bytes} (h : NoDigitHead lit) (hne : lit ≠ []) (s : Bytes) :
    NoDigitHead (lit ++ s) := by
  intro c hc
  rw [List.head?_append_of_ne_nil _ hne] at hc
  exact h c hc

theorem takeWhile_digits {ds s : Bytes} (hds : ∀ c ∈ ds, isDigit c = true) (hs : NoDigitHead s) :
    (ds ++ s).takeWhile isDigit = ds ∧ (ds ++ s).dropWhile isDigit = s := by
  induction ds with
  | nil =>
    cases s with
    | nil => simp
    | cons c s =>
      have hc : isDigit c = false := hs c rfl
      simp [hc]
  | cons c ds ih =>
    have hc : isDigit c = true := hds c (by simp)
    obtain ⟨h1, h2⟩ := ih fun x hx => hds x (by simp [hx])
    rw [List.cons_append, List.takeWhile_cons_of_pos hc, List.dropWhile_cons_of_pos hc, h1, h2]
    exact ⟨rfl, rfl⟩

theorem clampLong_of_mem {z : ℤ} (h : -2 ^ 63 ≤ z ∧ z < 2 ^ 63) : clampLong z = z := by
  unfold clampLong
  omega

/-- Leading white space is skipped. -/
theorem strtol_space {c : UInt8} (h : isSpace c = true) (s : Bytes) :
    strtol (c :: s) = strtol s := by
  unfold strtol
  rw [List.dropWhile_cons_of_pos h]

/-- A digit is neither white space nor a sign. -/
theorem ne_of_isDigit {c : UInt8} (h : isDigit c = true) :
    isSpace c = false ∧ c ≠ 45 ∧ c ≠ 43 := by
  simp only [isDigit, Bool.and_eq_true, decide_eq_true_eq] at h
  refine ⟨?_, ?_, ?_⟩
  · unfold isSpace
    grind
  · grind
  · grind

theorem readSign_of_isDigit {c : UInt8} (h : isDigit c = true) (s : Bytes) :
    readSign (c :: s) = (false, c :: s) := by
  obtain ⟨-, h45, h43⟩ := ne_of_isDigit h
  simp [readSign, h45, h43]

/-- A digit sequence after an optional minus, followed by no digit, is read to its value. -/
theorem strtol_digits {c : UInt8} {ds s : Bytes} (hds : ∀ x ∈ c :: ds, isDigit x = true)
    (hs : NoDigitHead s) (negative : Bool) :
    strtol ((if negative then [45] else []) ++ (c :: ds ++ s)) =
      some (clampLong (if negative then -digitsValue (c :: ds) else digitsValue (c :: ds)), s) := by
  have hc : isDigit c = true := hds c (by simp)
  obtain ⟨hspace, -, -⟩ := ne_of_isDigit hc
  obtain ⟨htake, hdrop⟩ := takeWhile_digits hds hs
  cases negative with
  | true =>
    have hsign : readSign (45 :: (c :: ds ++ s)) = (true, c :: ds ++ s) := rfl
    simp only [strtol, ↓reduceIte, List.singleton_append]
    rw [List.dropWhile_cons_of_neg (by decide), hsign]
    simp only [htake, hdrop, reduceCtorEq, ↓reduceIte]
  | false =>
    have hsign : readSign (c :: ds ++ s) = (false, c :: ds ++ s) := readSign_of_isDigit hc _
    simp only [strtol, Bool.false_eq_true, ↓reduceIte, List.nil_append]
    rw [List.cons_append, List.dropWhile_cons_of_neg (by rw [hspace]; simp), ← List.cons_append,
      hsign]
    simp only [htake, hdrop, reduceCtorEq, Bool.false_eq_true, ↓reduceIte]

/-- The text is a decimal numeral of the integer: digits after an optional minus. -/
def IsDecimal (text : Bytes) (n : ℤ) : Prop :=
  ∃ (negative : Bool) (ds : Bytes), ds ≠ [] ∧ (∀ c ∈ ds, isDigit c = true) ∧
    text = (if negative then [45] else []) ++ ds ∧
      n = if negative then -(digitsValue ds : ℤ) else digitsValue ds

theorem IsDecimal.mem {text : Bytes} {n : ℤ} (h : IsDecimal text n) {c : UInt8} (hc : c ∈ text) :
    c = 45 ∨ isDigit c = true := by
  obtain ⟨negative, ds, -, hds, rfl, -⟩ := h
  rcases List.mem_append.mp hc with hc | hc
  · split_ifs at hc
    · exact Or.inl (List.mem_singleton.mp hc)
    · cases hc
  · exact Or.inr (hds c hc)

/-- A numeral is apart from a marker that starts with neither a minus nor a digit. -/
theorem IsDecimal.apart {text needle : Bytes} {n : ℤ} (h : IsDecimal text n)
    (hneedle : needle.head?.any (fun c => c ≠ 45 && !isDigit c) = true) : Apart needle text := by
  cases needle with
  | nil => cases hneedle
  | cons c needle =>
    apply apart_of_forall_ne
    rintro x hx rfl
    rcases h.mem hx with rfl | hdigit
    · cases hneedle
    · simp [hdigit] at hneedle

/-- A numeral followed by no digit is read to its value. -/
theorem IsDecimal.strtol {text : Bytes} {n : ℤ} (h : IsDecimal text n) {s : Bytes}
    (hs : NoDigitHead s) : strtol (text ++ s) = some (clampLong n, s) := by
  obtain ⟨negative, ds, hne, hds, rfl, rfl⟩ := h
  obtain ⟨c, ds, rfl⟩ := List.exists_cons_of_ne_nil hne
  rw [List.append_assoc]
  exact strtol_digits hds hs negative

theorem isDecimal_toDecimal (n : ℤ) : IsDecimal (toDecimal n) n := by
  have hdigits : ∀ c ∈ natDecimal n.natAbs, isDigit c = true := fun c hc =>
    isDigit_of_mem_natDecimal hc
  refine ⟨decide (n < 0), natDecimal n.natAbs, natDecimal_ne_nil _, hdigits, ?_, ?_⟩
  · unfold toDecimal
    by_cases hneg : n < 0
    · simp [hneg]
    · simp [hneg]
  · rw [digitsValue_natDecimal]
    by_cases hneg : n < 0
    · rw [if_pos (decide_eq_true hneg)]
      omega
    · rw [if_neg (by simpa using hneg)]
      omega

/-- A printed number is apart from a marker that starts with a quote. -/
theorem apart_toDecimal (needle : Bytes) (n : ℤ) : Apart (34 :: needle) (toDecimal n) :=
  (isDecimal_toDecimal n).apart rfl

/-- A printed number followed by no digit is read back. -/
theorem strtol_toDecimal (n : ℤ) {s : Bytes} (hn : -2 ^ 63 ≤ n ∧ n < 2 ^ 63)
    (hs : NoDigitHead s) : strtol (toDecimal n ++ s) = some (n, s) := by
  rw [(isDecimal_toDecimal n).strtol hs, clampLong_of_mem hn]

/-! ### Numerals of any size -/

/-- The integer at the start of a text, of any size, and the text after it; `strtol` saturates it.
-/
def readInteger (s : Bytes) : Option (ℤ × Bytes) :=
  let (negative, s) := readSign (s.dropWhile isSpace)
  let ds := s.takeWhile isDigit
  if ds = [] then none
  else
    let n : ℤ := digitsValue ds
    some (if negative then -n else n, s.dropWhile isDigit)

theorem strtol_eq (s : Bytes) :
    strtol s = (readInteger s).map fun r => (clampLong r.1, r.2) := by
  unfold strtol readInteger
  dsimp only
  generalize readSign (s.dropWhile isSpace) = r
  by_cases h : r.2.takeWhile isDigit = []
  · simp only [if_pos h, Option.map_none]
  · simp only [if_neg h, Option.map_some]

/-- The text denotes the integer: white space, an optional sign and digits, and nothing else. -/
def Denotes (text : Bytes) (n : ℤ) : Prop :=
  ∃ space sign ds : Bytes, (∀ c ∈ space, isSpace c = true) ∧
    (sign = [] ∨ sign = [43] ∨ sign = [45]) ∧ ds ≠ [] ∧ (∀ c ∈ ds, isDigit c = true) ∧
    text = space ++ (sign ++ ds) ∧ n = if sign = [45] then -(digitsValue ds : ℤ) else digitsValue ds

/-- What a sign leaves, put back. -/
theorem exists_readSign (s : Bytes) : ∃ sign : Bytes, (sign = [] ∨ sign = [43] ∨ sign = [45]) ∧
    s = sign ++ (readSign s).2 ∧ ((readSign s).1 = true ↔ sign = [45]) := by
  unfold readSign
  split
  · next h => exact ⟨[45], by simp, (List.cons_head?_tail h).symm, by simp⟩
  · next h => exact ⟨[43], by simp, (List.cons_head?_tail h).symm, by simp⟩
  · exact ⟨[], by simp, rfl, by simp⟩

/-- White space and a sign before digits are read. -/
theorem readSign_append {space sign ds : Bytes} (hspace : ∀ c ∈ space, isSpace c = true)
    (hsign : sign = [] ∨ sign = [43] ∨ sign = [45]) (hne : ds ≠ [])
    (hds : ∀ c ∈ ds, isDigit c = true) :
    readSign ((space ++ (sign ++ ds)).dropWhile isSpace) = (decide (sign = [45]), ds) := by
  rw [List.dropWhile_append_of_pos hspace]
  rcases hsign with rfl | rfl | rfl
  · obtain ⟨c, ds, rfl⟩ := List.exists_cons_of_ne_nil hne
    have hc : isDigit c = true := hds c (by simp)
    rw [List.nil_append, List.dropWhile_cons_of_neg (by simp [(ne_of_isDigit hc).1])]
    exact readSign_of_isDigit hc ds
  · rfl
  · rfl

theorem readInteger_eq_some_iff {s : Bytes} {n : ℤ} :
    readInteger s = some (n, []) ↔ Denotes s n := by
  constructor
  · intro h
    obtain ⟨sign, hsign, hs, hminus⟩ := exists_readSign (s.dropWhile isSpace)
    unfold readInteger at h
    dsimp only at h
    -- from here on only what the sign leaves matters
    generalize readSign (s.dropWhile isSpace) = r at h hs hminus
    obtain ⟨negative, ds⟩ := r
    dsimp only at h hs hminus
    by_cases hempty : ds.takeWhile isDigit = []
    · rw [if_pos hempty] at h
      cases h
    · rw [if_neg hempty] at h
      obtain ⟨hn, hrest⟩ := Prod.mk.inj (Option.some.inj h)
      have hds : ∀ c ∈ ds, isDigit c = true := List.dropWhile_eq_nil_iff.mp hrest
      rw [List.takeWhile_eq_self_iff.mpr hds] at hn hempty
      refine ⟨s.takeWhile isSpace, sign, ds, fun c hc => List.mem_takeWhile_imp hc, hsign, hempty,
        hds, ?_, ?_⟩
      · rw [← hs, List.takeWhile_append_dropWhile]
      · rw [← hn]
        exact if_congr hminus rfl rfl
  · rintro ⟨space, sign, ds, hspace, hsign, hne, hds, rfl, rfl⟩
    unfold readInteger
    rw [readSign_append hspace hsign hne hds]
    dsimp only
    rw [List.takeWhile_eq_self_iff.mpr hds, List.dropWhile_eq_nil_iff.mpr hds, if_neg hne]
    simp only [decide_eq_true_eq]

theorem Denotes.unique {s : Bytes} {m n : ℤ} (hm : Denotes s m) (hn : Denotes s n) : m = n := by
  have h := (readInteger_eq_some_iff.mpr hm).symm.trans (readInteger_eq_some_iff.mpr hn)
  exact (Prod.mk.inj (Option.some.inj h)).1

/-- A text that `strtol` reads to its end denotes the integer that was saturated. -/
theorem strtol_eq_some_iff {s : Bytes} {v : ℤ} :
    strtol s = some (v, []) ↔ ∃ n, Denotes s n ∧ v = clampLong n := by
  rw [strtol_eq, Option.map_eq_some_iff]
  constructor
  · rintro ⟨⟨n, rest⟩, hread, heq⟩
    obtain ⟨rfl, rfl⟩ := Prod.mk.inj heq
    exact ⟨n, readInteger_eq_some_iff.mp hread, rfl⟩
  · rintro ⟨n, hn, rfl⟩
    exact ⟨(n, []), readInteger_eq_some_iff.mpr hn, rfl⟩

/-- `std::stoi`, or `none` where it throws: without digits, and out of the range of `int`. -/
def stoi (s : Bytes) : Option ℤ :=
  match strtol s with
  | none => none
  | some (value, _) => if -2 ^ 31 ≤ value ∧ value < 2 ^ 31 then some value else none

/-! ### C strings and quoted text -/

/-- The bytes a reader of `s.c_str()` sees: those before the first NUL. -/
def cString (s : Bytes) : Bytes := s.takeWhile (· ≠ 0)

/-- A C string: no byte of it is NUL. -/
abbrev CStr := {s : Bytes // 0 ∉ s}

theorem cString_of_notMem {s : Bytes} (h : 0 ∉ s) : cString s = s := by
  apply List.takeWhile_eq_self_iff.mpr
  intro c hc
  have hne : c ≠ 0 := fun h0 => h (h0 ▸ hc)
  simpa using hne

theorem notMem_cString (s : Bytes) : 0 ∉ cString s := by
  intro h
  simpa using List.mem_takeWhile_imp h

/-- A backslash before each quote and each backslash. -/
def backslashEscape (s : Bytes) : Bytes :=
  s.flatMap fun c => if c = 34 ∨ c = 92 then [92, c] else [c]

@[simp] theorem backslashEscape_nil : backslashEscape [] = [] := rfl

theorem backslashEscape_cons (c : UInt8) (s : Bytes) :
    backslashEscape (c :: s) =
      (if c = 34 ∨ c = 92 then [92, c] else [c]) ++ backslashEscape s := rfl

theorem mem_backslashEscape {s : Bytes} {c : UInt8} (h : c ∈ backslashEscape s) :
    c ∈ s ∨ c = 92 := by
  obtain ⟨d, hd, hc⟩ := List.mem_flatMap.mp h
  split_ifs at hc
  · rcases List.mem_cons.mp hc with rfl | hc
    · exact Or.inr rfl
    · rw [List.mem_singleton.mp hc]
      exact Or.inl hd
  · rw [List.mem_singleton.mp hc]
    exact Or.inl hd

theorem backslashEscape_of_plain {s : Bytes} (h : ∀ c ∈ s, c ≠ 34 ∧ c ≠ 92) :
    backslashEscape s = s := by
  induction s with
  | nil => rfl
  | cons c s ih =>
    obtain ⟨h34, h92⟩ := h c (List.mem_cons_self ..)
    rw [backslashEscape_cons, if_neg (by simp [h34, h92]),
      ih fun d hd => h d (List.mem_cons_of_mem _ hd)]
    rfl

/-- The text up to the quote that closes it, with the byte after a backslash taken as it stands,
and what follows the quote; `none` when no quote closes the text. -/
def readQuoted : Bytes → Option (Bytes × Bytes)
  | [] => none
  | [c] => if c = 34 then some ([], []) else none
  | c :: d :: s =>
    if c = 34 then some ([], d :: s)
    else if c = 92 then (readQuoted s).map fun (v, t) => (d :: v, t)
    else (readQuoted (d :: s)).map fun (v, t) => (c :: v, t)

theorem readQuoted_quote (s : Bytes) : readQuoted (34 :: s) = some ([], s) := by
  cases s <;> simp [readQuoted]

theorem readQuoted_cons {c : UInt8} (h34 : c ≠ 34) (h92 : c ≠ 92) (s : Bytes) :
    readQuoted (c :: s) = (readQuoted s).map fun (v, t) => (c :: v, t) := by
  cases s <;> simp [readQuoted, h34, h92]

theorem readQuoted_backslash (c : UInt8) (s : Bytes) :
    readQuoted (92 :: c :: s) = (readQuoted s).map fun (v, t) => (c :: v, t) := by
  simp [readQuoted]

/-- Escaped text is read back. -/
theorem readQuoted_backslashEscape (v s : Bytes) :
    readQuoted (backslashEscape v ++ 34 :: s) = some (v, s) := by
  induction v with
  | nil => exact readQuoted_quote s
  | cons c v ih =>
    rw [backslashEscape_cons, List.append_assoc]
    by_cases hc : c = 34 ∨ c = 92
    · rw [if_pos hc, List.cons_append, List.singleton_append, readQuoted_backslash, ih]
      rfl
    · rw [not_or] at hc
      rw [if_neg (not_or.mpr hc), List.singleton_append, readQuoted_cons hc.1 hc.2, ih]
      rfl

end CText
