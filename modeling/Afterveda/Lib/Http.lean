import Afterveda.Lib.RealText

/-!
# HTTP responses

The text of a response of HTTP/1.1: a status line, header fields with a `Content-Length` among them,
an empty line and the body.  The empty line is the first in the text (`find_separator`), so it shows
where a piece of the text from its start was cut: before the empty line ends
(`find_separator_of_prefix`), or inside the body (`exists_of_prefix`).
-/

namespace Http

open CText CNumber

def crlf : Bytes := [13, 10]

/-- The end of the last header field, and the empty line. -/
def separator : Bytes := crlf ++ crlf

/-! ### Header fields -/

/-- A header field; the value is all that follows the colon. -/
structure Field where
  name : Bytes
  value : Bytes
  deriving DecidableEq

def Field.line (f : Field) : Bytes := f.name ++ 58 :: f.value

/-- A blank that may stand around a value. -/
def isBlank (c : UInt8) : Bool := c = 32 || c = 9

/-- The value without blanks around it. -/
def Field.content (f : Field) : Bytes :=
  ((f.value.dropWhile isBlank).reverse.dropWhile isBlank).reverse

/-- The field is a `Content-Length` of so many bytes. -/
def Field.IsContentLength (f : Field) (n : ℕ) : Prop :=
  f.name.map toLower = bytes "content-length" ∧ f.content ≠ [] ∧
    (∀ c ∈ f.content, isDigit c = true) ∧ digitsValue f.content = n

/-- A piece of text within one line. -/
def InLine (text : Bytes) : Prop := ∀ c ∈ text, c ≠ 13 ∧ c ≠ 10

instance (text : Bytes) : Decidable (InLine text) := List.decidableBAll _ text

/-! ### Responses -/

structure Response where
  version : Bytes
  statusCode : Bytes
  reason : Bytes
  fields : List Field
  body : Bytes
  inLine_version : InLine version ∧ 32 ∉ version
  isDigit_statusCode : statusCode.length = 3 ∧ ∀ c ∈ statusCode, isDigit c = true
  inLine_reason : InLine reason
  inLine_fields : ∀ f ∈ fields, f.name ≠ [] ∧ InLine f.name ∧ InLine f.value
  contentLength : ∃ f ∈ fields, f.IsContentLength body.length

namespace Response

variable (R : Response)

def status : ℤ := digitsValue R.statusCode

def statusLine : Bytes := R.version ++ 32 :: (R.statusCode ++ 32 :: R.reason)

/-- The text before the empty line, without the end of its last line. -/
def head : Bytes := R.statusLine ++ R.fields.flatMap fun f => crlf ++ f.line

def text : Bytes := R.head ++ (separator ++ R.body)

/-- The length up to the body. -/
def headLength : ℕ := R.head.length + separator.length

theorem text_eq : R.text = (R.head ++ separator) ++ R.body := by
  rw [text, List.append_assoc]

theorem drop_headLength : R.text.drop R.headLength = R.body := by
  rw [text_eq, headLength, List.drop_left' List.length_append]

theorem length_text : R.text.length = R.headLength + R.body.length := by
  rw [text_eq, List.length_append, List.length_append, headLength]

/-! ### The empty line -/

theorem apart_of_inLine {line : Bytes} (h : InLine line) : Apart separator line :=
  apart_of_forall_ne fun c hc => (h c hc).1

theorem inLine_append {a b : Bytes} (ha : InLine a) (hb : InLine b) : InLine (a ++ b) := by
  intro c hc
  rcases List.mem_append.mp hc with hc | hc
  · exact ha c hc
  · exact hb c hc

theorem inLine_cons {c : UInt8} {line : Bytes} (hc : c ≠ 13 ∧ c ≠ 10) (h : InLine line) :
    InLine (c :: line) := by
  intro x hx
  rcases List.mem_cons.mp hx with rfl | hx
  · exact hc
  · exact h x hx

/-- The end of a line is apart from the separator when another line with text in it follows. -/
theorem apart_crlf_line {line : Bytes} (h : InLine line) (hne : line ≠ []) :
    Apart separator (crlf ++ line) := by
  obtain ⟨c, line, rfl⟩ := List.exists_cons_of_ne_nil hne
  have hc : c ≠ 13 := (h c (by simp)).1
  intro t ht htne
  rw [List.mem_tails] at ht
  -- an occurrence would start at the first byte of the line end, or at the second
  rcases List.suffix_cons_iff.mp ht with rfl | ht
  · constructor <;> simp [separator, crlf, List.cons_prefix_cons, hc, hc.symm]
  · rcases List.suffix_cons_iff.mp ht with rfl | ht
    · constructor <;> simp [separator, crlf, List.cons_prefix_cons]
    · exact apart_of_inLine h t (by rwa [List.mem_tails]) htne

theorem isDigit_inLine {ds : Bytes} (h : ∀ c ∈ ds, isDigit c = true) : InLine ds := by
  intro c hc
  constructor
  · rintro rfl
    exact absurd (h _ hc) (by decide)
  · rintro rfl
    exact absurd (h _ hc) (by decide)

theorem inLine_statusLine : InLine R.statusLine :=
  inLine_append R.inLine_version.1 <| inLine_cons (by decide) <|
    inLine_append (isDigit_inLine R.isDigit_statusCode.2) <|
      inLine_cons (by decide) R.inLine_reason

theorem apart_fields {fields : List Field}
    (h : ∀ f ∈ fields, f.name ≠ [] ∧ InLine f.name ∧ InLine f.value) :
    Apart separator (fields.flatMap fun f => crlf ++ f.line) := by
  induction fields with
  | nil =>
    intro t ht hne
    exact absurd (List.suffix_nil.mp ((List.mem_tails _ _).mp ht)) hne
  | cons f fields ih =>
    obtain ⟨hne, hname, hvalue⟩ := h f (by simp)
    have hline : Apart separator (crlf ++ f.line) :=
      apart_crlf_line (inLine_append hname (inLine_cons (by decide) hvalue)) (by simp [Field.line])
    exact hline.append (ih fun g hg => h g (by simp [hg]))

theorem apart_head : Apart separator R.head :=
  (apart_of_inLine R.inLine_statusLine).append (apart_fields R.inLine_fields)

/-- The first empty line is the one before the body. -/
theorem find_separator (body : Bytes) :
    find (R.head ++ (separator ++ body)) separator = some R.head.length :=
  find_at R.apart_head body

variable {R} in
/-- A piece that is cut before the body has no empty line. -/
theorem find_separator_of_prefix {p : Bytes} (hp : p <+: R.text) (h : p.length < R.headLength) :
    find p separator = none :=
  find_eq_none_of_prefix (R.find_separator R.body) hp h

variable {R} in
/-- A longer piece is cut inside the body. -/
theorem exists_of_prefix {p : Bytes} (hp : p <+: R.text) (h : R.headLength ≤ p.length) :
    ∃ body, body <+: R.body ∧ p = R.head ++ (separator ++ body) := by
  -- both begin the text, and the head is the shorter one
  have hhead : R.head ++ separator <+: p :=
    List.prefix_of_prefix_length_le (R.text_eq ▸ List.prefix_append _ _) hp
      (by rw [List.length_append]; exact h)
  obtain ⟨body, rfl⟩ := hhead
  refine ⟨body, ?_, List.append_assoc ..⟩
  rwa [text_eq, List.prefix_append_right_inj] at hp

/-! ### The status code -/

/-- The first blank is the one before the status code. -/
theorem find_statusCode (rest : Bytes) :
    find (R.head ++ rest) [32] = some R.version.length := by
  have hversion : Apart [32] R.version := apart_of_forall_ne fun c hc h =>
    R.inLine_version.2 (h ▸ hc)
  rw [head, statusLine, List.append_assoc, List.append_assoc]
  exact find_at hversion _

theorem statusCode_of_drop (rest : Bytes) :
    ((R.head ++ rest).drop (R.version.length + 1)).take 3 = R.statusCode := by
  have hdrop : (R.head ++ rest).drop (R.version.length + 1) =
      R.statusCode ++ (32 :: R.reason ++ R.fields.flatMap (fun f => crlf ++ f.line) ++ rest) := by
    -- the text as what is dropped, the code and what follows it
    have hhead : R.head ++ rest = (R.version ++ [32]) ++
        (R.statusCode ++
          (32 :: R.reason ++ R.fields.flatMap (fun f => crlf ++ f.line) ++ rest)) := by
      simp [head, statusLine]
    rw [hhead]
    exact List.drop_left' (by simp)
  rw [hdrop, List.take_left' R.isDigit_statusCode.1]

theorem stoi_statusCode : stoi R.statusCode = some R.status := by
  obtain ⟨hlength, hdigits⟩ := R.isDigit_statusCode
  have hlt : digitsValue R.statusCode < 1000 := by
    have := digitsValue_lt hdigits
    rwa [hlength] at this
  have hdecimal : IsDecimal R.statusCode R.status :=
    ⟨false, R.statusCode, List.ne_nil_of_length_eq_add_one hlength, hdigits, rfl, rfl⟩
  have hread := hdecimal.strtol (show NoDigitHead [] by decide)
  rw [List.append_nil, clampLong_of_mem (by unfold status; omega)] at hread
  rw [stoi, hread]
  exact if_pos (by unfold status; omega)

end Response

end Http
