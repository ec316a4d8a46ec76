import Afterveda.Lib.Http

/-!
# HTTP requests

The text of a request of HTTP/1.1 with a `Content-Length`, and a reader of such texts.  Main
theorem: `readRequest_text`, the reader gets the method, the target and the whole body, whatever
bytes the body has and whatever follows on the connection.
-/

namespace Http

open CText

/-! ### Texts -/

/-- The field says how long the body is. -/
def Field.isLength (f : Field) : Bool := f.name.map toLower = bytes "content-length"

/-- Text that a blank ends. -/
def Word (text : Bytes) : Prop := InLine text ∧ 32 ∉ text

instance (text : Bytes) : Decidable (Word text) := inferInstanceAs (Decidable (_ ∧ _))

structure Request where
  method : Bytes
  target : Bytes
  version : Bytes
  fields : List Field
  body : Bytes
  word_method : Word method
  word_target : Word target
  inLine_version : InLine version
  inLine_fields : ∀ f ∈ fields, f.name ≠ [] ∧ InLine f.name ∧ InLine f.value
  colon_fields : ∀ f ∈ fields, 58 ∉ f.name
  contentLength : ∃ f ∈ fields, f.isLength = true
  /-- Fields that say a length all say the length of the body. -/
  framed : ∀ f ∈ fields, f.isLength = true → f.IsContentLength body.length

namespace Request

variable (R : Request)

def requestLine : Bytes := R.method ++ 32 :: (R.target ++ 32 :: R.version)

/-- The text before the empty line, without the end of its last line. -/
def head : Bytes := R.requestLine ++ R.fields.flatMap fun f => crlf ++ f.line

def text : Bytes := R.head ++ (separator ++ R.body)

end Request

/-! ### The reader -/

/-- The lines of a head, the first with what follows its line feed. -/
def headLines (head : Bytes) : List Bytes := head.splitOnP (· = 13)

/-- A header field without its line feed. -/
def readField (line : Bytes) : Field where
  name := line.takeWhile (· ≠ 58)
  value := (line.dropWhile (· ≠ 58)).drop 1

/-- The method, the target and the body of the request that the bytes of a connection begin with. -/
def readRequest (s : Bytes) : Option (Bytes × Bytes × Bytes) := do
  let i ← find s separator
  let lines := headLines (s.take i)
  let requestLine := lines.headD []
  let fields := lines.tail.map fun line => readField (line.drop 1)
  let length ← fields.find? Field.isLength
  let rest := s.drop (i + separator.length)
  return (requestLine.takeWhile (· ≠ 32),
    ((requestLine.dropWhile (· ≠ 32)).drop 1).takeWhile (· ≠ 32),
    rest.take (digitsValue length.content))

/-! ### Reading a text -/

/-- A word and what follows its blank. -/
theorem takeWhile_word {word : Bytes} {c : UInt8} (h : c ∉ word) (rest : Bytes) :
    (word ++ c :: rest).takeWhile (· ≠ c) = word ∧
      ((word ++ c :: rest).dropWhile (· ≠ c)).drop 1 = rest := by
  have hall : ∀ x ∈ word, decide (x ≠ c) = true := by
    intro x hx
    have hne : x ≠ c := fun heq => h (heq ▸ hx)
    simp [hne]
  constructor
  · rw [List.takeWhile_append_of_pos hall, List.takeWhile_cons_of_neg (by simp),
      List.append_nil]
  · rw [List.dropWhile_append_of_pos hall, List.dropWhile_cons_of_neg (by simp)]
    rfl

theorem readField_line {f : Field} (h : 58 ∉ f.name) : readField f.line = f := by
  obtain ⟨hname, hvalue⟩ := takeWhile_word h f.value
  unfold readField Field.line
  rw [hname, hvalue]

/-- The lines of a head that is written line by line. -/
theorem headLines_text {first : Bytes} {fields : List Field} (hfirst : ∀ c ∈ first, c ≠ 13)
    (h : ∀ f ∈ fields, InLine f.name ∧ InLine f.value) :
    headLines (first ++ fields.flatMap fun f => crlf ++ f.line) =
      first :: fields.map fun f => 10 :: f.line := by
  have hno : ∀ c ∈ first, decide (c = (13 : UInt8)) = false := fun c hc =>
    decide_eq_false (hfirst c hc)
  induction fields generalizing first with
  | nil =>
    rw [List.flatMap_nil, List.append_nil]
    exact List.splitOnP_eq_singleton hno
  | cons f fields ih =>
    obtain ⟨hname, hvalue⟩ := h f (by simp)
    -- the line after the line feed, which stays with it
    have hline : ∀ c ∈ 10 :: f.line, c ≠ 13 := by
      intro c hc
      rcases List.mem_cons.mp hc with rfl | hc
      · decide
      · exact (Response.inLine_append hname (Response.inLine_cons (by decide) hvalue) c hc).1
    have hsplit : first ++ (f :: fields).flatMap (fun f => crlf ++ f.line) =
        first ++ 13 :: ((10 :: f.line) ++ fields.flatMap fun f => crlf ++ f.line) := rfl
    rw [hsplit, headLines, List.splitOnP_append_cons_of_forall_mem hno 13 (decide_eq_true rfl)]
    have hrest := ih hline (fun g hg => h g (by simp [hg])) fun c hc =>
      decide_eq_false (hline c hc)
    rw [headLines] at hrest
    rw [hrest, List.map_cons]

/-- The printed length of a body says its length. -/
theorem isContentLength_toDecimal (n : ℕ) :
    Field.IsContentLength ⟨bytes "Content-Length", 32 :: toDecimal n⟩ n := by
  have hdecimal : toDecimal n = natDecimal n := by
    rw [toDecimal, if_neg (by omega), Int.natAbs_natCast]
  have hdigits : ∀ c ∈ natDecimal n, isDigit c = true := fun c hc => isDigit_of_mem_natDecimal hc
  have hblank : ∀ c, isDigit c = true → isBlank c = false := by
    intro c hc
    by_contra hb
    rw [Bool.not_eq_false, isBlank, Bool.or_eq_true, decide_eq_true_eq, decide_eq_true_eq] at hb
    rcases hb with rfl | rfl <;> exact absurd hc (by decide)
  -- no blank stands before the digits or after them
  have hkept : ∀ ds : Bytes, (∀ c ∈ ds, isDigit c = true) → ds.dropWhile isBlank = ds := by
    intro ds hds
    rw [List.dropWhile_eq_self_iff]
    intro hl
    rw [hblank _ (hds _ (List.getElem_mem hl))]
    exact Bool.false_ne_true
  have hcontent : Field.content ⟨bytes "Content-Length", 32 :: natDecimal n⟩ = natDecimal n := by
    rw [Field.content]
    dsimp only
    rw [List.dropWhile_cons_of_pos (by decide), hkept _ hdigits,
      hkept _ fun c hc => hdigits c (List.mem_reverse.mp hc), List.reverse_reverse]
  have hname : (bytes "Content-Length").map toLower = bytes "content-length" := by decide
  rw [hdecimal]
  refine ⟨hname, ?_, ?_, ?_⟩
  · rw [hcontent]
    exact natDecimal_ne_nil n
  · rw [hcontent]
    exact hdigits
  · rw [hcontent]
    exact digitsValue_natDecimal n

/-- The printed length of a body stays within its line. -/
theorem inLine_toDecimal (n : ℕ) : InLine (32 :: toDecimal n) := by
  refine Response.inLine_cons (by decide) fun c hc => ?_
  rcases mem_toDecimal hc with rfl | hdigit
  · decide
  · exact Response.isDigit_inLine (fun c hc => List.mem_singleton.mp hc ▸ hdigit) c
      (List.mem_singleton_self c)

namespace Request

variable (R : Request)

theorem inLine_requestLine : InLine R.requestLine :=
  Response.inLine_append R.word_method.1 <| Response.inLine_cons (by decide) <|
    Response.inLine_append R.word_target.1 <| Response.inLine_cons (by decide) R.inLine_version

theorem apart_head : Apart separator R.head :=
  (Response.apart_of_inLine R.inLine_requestLine).append (Response.apart_fields R.inLine_fields)

theorem headLines_head :
    headLines R.head = R.requestLine :: R.fields.map fun f => 10 :: f.line :=
  headLines_text (fun c hc => (R.inLine_requestLine c hc).1) fun f hf => (R.inLine_fields f hf).2

theorem map_readField :
    (R.fields.map fun f => 10 :: f.line).map (fun line => readField (line.drop 1)) = R.fields := by
  rw [List.map_map]
  conv_rhs => rw [← List.map_id R.fields]
  refine List.map_congr_left fun f hf => ?_
  exact readField_line (R.colon_fields f hf)

/-- The length that the reader finds. -/
theorem exists_find_isLength : ∃ f, R.fields.find? Field.isLength = some f ∧
    digitsValue f.content = R.body.length := by
  obtain ⟨g, hg, hlength⟩ := R.contentLength
  cases hfind : R.fields.find? Field.isLength with
  | none => exact absurd hlength (List.find?_eq_none.mp hfind g hg)
  | some f =>
    have hframed := R.framed f (List.mem_of_find?_eq_some hfind) (List.find?_some hfind)
    exact ⟨f, rfl, hframed.2.2.2⟩

/-- **Reading requests**: the reader gets what the request says, and its body to the last byte. -/
theorem readRequest_text (rest : Bytes) :
    readRequest (R.text ++ rest) = some (R.method, R.target, R.body) := by
  have htext : R.text ++ rest = R.head ++ (separator ++ (R.body ++ rest)) := by
    rw [text, List.append_assoc, List.append_assoc]
  have htake : (R.text ++ rest).take R.head.length = R.head := by
    rw [htext, List.take_left]
  have hdrop : (R.text ++ rest).drop (R.head.length + separator.length) = R.body ++ rest := by
    rw [htext, ← List.append_assoc, List.drop_left' List.length_append]
  obtain ⟨f, hfind, hlength⟩ := R.exists_find_isLength
  obtain ⟨hmethod, hafter⟩ := takeWhile_word R.word_method.2 (R.target ++ 32 :: R.version)
  obtain ⟨htarget, -⟩ := takeWhile_word R.word_target.2 R.version
  have hseparator : find (R.text ++ rest) separator = some R.head.length := by
    rw [htext]
    exact find_at R.apart_head (R.body ++ rest)
  unfold readRequest
  rw [hseparator]
  simp only [Option.bind_eq_bind, Option.bind_some, htake, hdrop, headLines_head, List.tail_cons,
    List.headD_cons, map_readField, hfind, hlength]
  rw [requestLine, hmethod, hafter, htarget, List.take_left]
  rfl

end Request

end Http
