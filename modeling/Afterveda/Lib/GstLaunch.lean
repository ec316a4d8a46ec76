import Afterveda.Lib.Text

/-!
# Quoted values of gst-launch

A quoted value of a launch text is the longest match of a quote, characters other than a quote or
quotes after a backslash, and a quote (`Lexes`).  What it denotes is the text between the outer
quotes with every backslash taken away in favour of the character after it (`unquote`).

`lexes_escaped_iff` is the rule for text written with a backslash before each quote and each
backslash: the lexer takes it for what it is exactly when the text does not end with a backslash.
-/

namespace GstLaunch

open CText

/-! ### The lexer -/

/-- What may stand between the outer quotes. -/
inductive QuotedBody : Bytes → Prop
  | nil : QuotedBody []
  | char {c : UInt8} {s : Bytes} (hc : c ≠ 34) (h : QuotedBody s) : QuotedBody (c :: s)
  | quote {s : Bytes} (h : QuotedBody s) : QuotedBody (92 :: 34 :: s)

/-- A body between its quotes. -/
def quoted (body : Bytes) : Bytes := 34 :: (body ++ [34])

/-- The value is the longest quoted one that the text starts with. -/
def Lexes (text value : Bytes) : Prop :=
  (∃ body, QuotedBody body ∧ value = quoted body) ∧ value <+: text ∧
    ∀ body, QuotedBody body → quoted body <+: text → (quoted body).length ≤ value.length

/-- The text without backslashes, except those after a backslash. -/
def unescape : Bytes → Bytes
  | [] => []
  | [c] => if c = 92 then [] else [c]
  | c :: d :: s => if c = 92 then d :: unescape s else c :: unescape (d :: s)

/-- What a quoted value denotes. -/
def unquote (value : Bytes) : Bytes := unescape value.tail.dropLast

theorem unquote_quoted (body : Bytes) : unquote (quoted body) = unescape body := by
  rw [unquote, quoted, List.tail_cons, List.dropLast_concat]

/-! ### Bodies -/

/-- A quote inside a body stands after a backslash. -/
theorem QuotedBody.getLast?_of_append {a s : Bytes} (h : QuotedBody (a ++ 34 :: s)) :
    a.getLast? = some 92 := by
  generalize htext : a ++ 34 :: s = text at h
  induction h generalizing a with
  | nil => simp at htext
  | @char c text hc _ ih =>
    cases a with
    | nil => exact absurd (List.cons.inj htext).1.symm hc
    | cons d a =>
      have hrest := ih (List.cons.inj htext).2
      rw [List.getLast?_cons, hrest]
      rfl
  | @quote text _ ih =>
    match a with
    | [] => exact absurd (List.cons.inj htext).1 (by decide)
    | [d] =>
      obtain rfl := (List.cons.inj htext).1
      rfl
    | d :: e :: a =>
      have hrest := ih (List.cons.inj (List.cons.inj htext).2).2
      rw [List.getLast?_cons, List.getLast?_cons, hrest]
      rfl

/-- After a body that ends with a backslash, a quote goes on with it. -/
theorem QuotedBody.append_quote {a s : Bytes} (ha : QuotedBody a) (hlast : a.getLast? = some 92)
    (hs : QuotedBody s) : QuotedBody (a ++ 34 :: s) := by
  induction ha with
  | nil => cases hlast
  | @char c a hc _ ih =>
    rw [List.getLast?_cons] at hlast
    cases hlast' : a.getLast? with
    | none =>
      obtain rfl := List.getLast?_eq_none_iff.mp hlast'
      obtain rfl : c = 92 := Option.some.inj hlast
      exact .quote hs
    | some d =>
      rw [hlast'] at hlast
      exact .char hc (ih (hlast'.trans hlast))
  | @quote a _ ih =>
    rw [List.getLast?_cons, List.getLast?_cons] at hlast
    cases hlast' : a.getLast? with
    | none =>
      rw [hlast'] at hlast
      exact absurd (Option.some.inj hlast) (by decide)
    | some d =>
      rw [hlast'] at hlast
      exact .quote (ih (hlast'.trans hlast))

/-- Text without quotes is a body. -/
theorem quotedBody_of_notMem {s : Bytes} (h : 34 ∉ s) : QuotedBody s := by
  induction s with
  | nil => exact .nil
  | cons c s ih =>
    rw [List.mem_cons, not_or] at h
    exact .char (Ne.symm h.1) (ih h.2)

/-! ### Escaped text -/

theorem quotedBody_backslashEscape (v : Bytes) : QuotedBody (backslashEscape v) := by
  induction v with
  | nil => exact .nil
  | cons c v ih =>
    rw [backslashEscape_cons]
    by_cases hquote : c = 34
    · rw [if_pos (Or.inl hquote), hquote]
      exact .quote ih
    · by_cases hbackslash : c = 92
      · rw [if_pos (Or.inr hbackslash), hbackslash]
        exact .char (by decide) (.char (by decide) ih)
      · rw [if_neg (not_or.mpr ⟨hquote, hbackslash⟩)]
        exact .char hquote ih

/-- Escaping keeps the last byte. -/
theorem getLast?_backslashEscape (v : Bytes) : (backslashEscape v).getLast? = v.getLast? := by
  induction v using List.reverseRecOn with
  | nil => rfl
  | append_singleton v c =>
    have happend : backslashEscape (v ++ [c]) =
        backslashEscape v ++ if c = 34 ∨ c = 92 then [92, c] else [c] := by
      rw [backslashEscape, List.flatMap_append]
      simp [backslashEscape]
    rw [happend, List.getLast?_append, List.getLast?_concat]
    split_ifs <;> rfl

theorem unescape_backslash (c : UInt8) (s : Bytes) : unescape (92 :: c :: s) = c :: unescape s := by
  simp [unescape]

theorem unescape_char {c : UInt8} (hc : c ≠ 92) (s : Bytes) :
    unescape (c :: s) = c :: unescape s := by
  cases s <;> simp [unescape, hc]

/-- Escaped text denotes itself. -/
theorem unescape_backslashEscape (v : Bytes) : unescape (backslashEscape v) = v := by
  induction v with
  | nil => rfl
  | cons c v ih =>
    rw [backslashEscape_cons]
    by_cases hc : c = 34 ∨ c = 92
    · rw [if_pos hc, List.cons_append, List.singleton_append, unescape_backslash, ih]
    · rw [if_neg hc, List.singleton_append, unescape_char (fun h => hc (Or.inr h)), ih]

/-! ### Longest matches -/

theorem quoted_append (body s : Bytes) : quoted body ++ s = 34 :: (body ++ 34 :: s) := by
  simp [quoted]

theorem quoted_prefix_iff {body body' rest : Bytes} :
    quoted body' <+: 34 :: (body ++ 34 :: rest) ↔ body' ++ [34] <+: body ++ 34 :: rest := by
  rw [quoted, List.cons_prefix_cons]
  exact ⟨And.right, fun h => ⟨rfl, h⟩⟩

/-- The lexer ends at a quote that does not stand after a backslash. -/
theorem lexes_of_getLast? {body : Bytes} (hbody : QuotedBody body) (hlast : body.getLast? ≠ some 92)
    (rest : Bytes) : Lexes (34 :: (body ++ 34 :: rest)) (quoted body) := by
  refine ⟨⟨body, hbody, rfl⟩, ?_, ?_⟩
  · rw [quoted_prefix_iff]
    exact ⟨rest, by simp⟩
  · intro body' hbody' hprefix
    rw [quoted_prefix_iff] at hprefix
    by_contra hlonger
    have hlength : body.length + 1 ≤ body'.length := by
      simp only [quoted, List.length_cons, List.length_append, List.length_nil] at hlonger
      omega
    -- a longer match has the quote inside its body
    have hshort : body ++ [34] <+: body' := by
      have h1 : body ++ [34] <+: body ++ 34 :: rest := ⟨rest, by simp⟩
      have h2 : body' <+: body ++ 34 :: rest := (List.prefix_append body' [34]).trans hprefix
      exact List.prefix_of_prefix_length_le h1 h2 (by simpa using hlength)
    obtain ⟨s, rfl⟩ := hshort
    rw [List.append_assoc] at hbody'
    exact hlast hbody'.getLast?_of_append

/-- The lexer goes on past a quote after a backslash, up to the next one. -/
theorem lexes_past {body mid : Bytes} (hbody : QuotedBody body) (hlast : body.getLast? = some 92)
    (hmid : 34 ∉ mid) (hmidLast : mid.getLast? ≠ some 92) (rest : Bytes) :
    Lexes (34 :: (body ++ 34 :: (mid ++ 34 :: rest))) (quoted (body ++ 34 :: mid)) := by
  have hboth : QuotedBody (body ++ 34 :: mid) :=
    hbody.append_quote hlast (quotedBody_of_notMem hmid)
  have hbothLast : (body ++ 34 :: mid).getLast? ≠ some 92 := by
    rw [List.getLast?_append, List.getLast?_cons, Option.some_or]
    cases hc : mid.getLast? with
    | none => decide
    | some c => rwa [hc] at hmidLast
  have htext : body ++ 34 :: (mid ++ 34 :: rest) = (body ++ 34 :: mid) ++ 34 :: rest := by simp
  rw [htext]
  exact lexes_of_getLast? hboth hbothLast rest

/-- A text has one lexed value. -/
theorem Lexes.unique {text a b : Bytes} (ha : Lexes text a) (hb : Lexes text b) : a = b := by
  obtain ⟨⟨body, hbody, rfl⟩, hprefix, hlongest⟩ := ha
  obtain ⟨⟨body', hbody', rfl⟩, hprefix', hlongest'⟩ := hb
  have hlength : (quoted body).length = (quoted body').length :=
    Nat.le_antisymm (hlongest' body hbody hprefix) (hlongest body' hbody' hprefix')
  exact (List.prefix_of_prefix_length_le hprefix hprefix' hlength.le).eq_of_length hlength

/-- Escaped text is lexed for what it is exactly when it does not end with a backslash, where
another quote follows. -/
theorem lexes_escaped_iff (v : Bytes) {mid : Bytes} (hmid : 34 ∉ mid)
    (hmidLast : mid.getLast? ≠ some 92) (rest : Bytes) :
    Lexes (quoted (backslashEscape v) ++ (mid ++ 34 :: rest)) (quoted (backslashEscape v)) ↔
      v.getLast? ≠ some 92 := by
  rw [quoted_append, ← getLast?_backslashEscape]
  have hbody := quotedBody_backslashEscape v
  constructor
  · intro hlexes hlast
    have hvalue := hlexes.unique (lexes_past hbody hlast hmid hmidLast rest)
    have hlength := congrArg List.length hvalue
    simp only [quoted, List.length_cons, List.length_append] at hlength
    omega
  · intro hlast
    exact lexes_of_getLast? hbody hlast (mid ++ 34 :: rest)

end GstLaunch
