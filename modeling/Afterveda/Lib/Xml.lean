import Afterveda.Lib.Text

/-!
# XML documents

The XML of documents written out in one piece: a declaration, elements with attributes in double
quotes, text, and the five predefined entities; no comments, sections, instructions or other
references.  `read` reads such a document to its end or not at all.

`escape` writes text so that none of it is markup: `unescape_escape` gives the text back, and
`read_render` the whole document, whatever its texts are.  The encoding of characters and the ends
of lines are left to the reader of the bytes.  `items` are the items of a text that is a list.
-/

namespace Xml

open CText

/-! ### Entities -/

/-- The predefined entities and the characters they stand for. -/
def entities : List (Bytes × UInt8) :=
  [(bytes "&amp;", 38), (bytes "&lt;", 60), (bytes "&gt;", 62), (bytes "&quot;", 34),
    (bytes "&apos;", 39)]

/-- A character as text: by its entity where it has one. -/
def escapeByte (c : UInt8) : Bytes := ((entities.find? (·.2 = c)).map Prod.fst).getD [c]

def escape (s : Bytes) : Bytes := s.flatMap escapeByte

/-- The entity at the start of a text. -/
def entityAt (s : Bytes) : Option (Bytes × UInt8) := entities.find? (·.1 <+: s)

/-- What text stands for: its entities replaced.  Markup is no text, and a `&` begins an entity. -/
def unescape : Bytes → Option Bytes
  | [] => some []
  | c :: s =>
    if c = 60 then none
    else if c = 38 then
      match entityAt (c :: s) with
      | none => none
      | some (name, d) => (unescape (s.drop (name.length - 1))).map (d :: ·)
    else (unescape s).map (c :: ·)
termination_by s => s.length
decreasing_by all_goals grind

theorem escape_cons (c : UInt8) (s : Bytes) : escape (c :: s) = escapeByte c ++ escape s :=
  List.flatMap_cons

/-- The five characters have an entity, which is no beginning of another; the others have none. -/
theorem escapeByte_cases (c : UInt8) :
    (∃ name, (name, c) ∈ entities ∧ escapeByte c = name) ∨
      (escapeByte c = [c] ∧ c ∉ entities.map Prod.snd) := by
  rw [escapeByte]
  cases h : entities.find? (·.2 = c) with
  | none =>
    refine Or.inr ⟨rfl, fun hmem => ?_⟩
    obtain ⟨e, he, heq⟩ := List.mem_map.mp hmem
    have hnot := List.find?_eq_none.mp h e he
    exact hnot (by simpa using heq)
  | some e =>
    have heq : e.2 = c := by simpa using List.find?_some h
    rw [← heq]
    exact Or.inl ⟨e.1, List.mem_of_find?_eq_some h, rfl⟩

/-- No entity begins another. -/
theorem entities_apart {e e' : Bytes × UInt8} (h : e ∈ entities) (h' : e' ∈ entities)
    (hpre : e'.1 <+: e.1) : e' = e := by
  have hall : entities.all fun e => entities.all fun e' => !(e'.1.isPrefixOf e.1) || e' = e := by
    decide
  have hpair := List.all_eq_true.mp (List.all_eq_true.mp hall e h) e' h'
  simpa [List.isPrefixOf_iff_prefix.mpr hpre] using hpair

theorem entities_amp {e : Bytes × UInt8} (h : e ∈ entities) :
    e.1 = 38 :: e.1.drop 1 ∧ 0 < e.1.length := by
  have hall : entities.all fun e => e.1 = 38 :: e.1.drop 1 ∧ 0 < e.1.length := by decide
  simpa using List.all_eq_true.mp hall e h

theorem entityAt_append {e : Bytes × UInt8} (h : e ∈ entities) (s : Bytes) :
    entityAt (e.1 ++ s) = some e := by
  have hsome : (entityAt (e.1 ++ s)).isSome := by
    rw [entityAt, List.find?_isSome]
    exact ⟨e, h, by simp⟩
  obtain ⟨e', he'⟩ := Option.isSome_iff_exists.mp hsome
  have hmem : e' ∈ entities := List.mem_of_find?_eq_some he'
  have hpre : e'.1 <+: e.1 ++ s := by simpa using List.find?_some he'
  rw [he']
  rcases List.prefix_or_prefix_of_prefix hpre (List.prefix_append e.1 s) with hle | hle
  · rw [entities_apart h hmem hle]
  · rw [entities_apart hmem h hle]

theorem unescape_entity {e : Bytes × UInt8} (h : e ∈ entities) (s : Bytes) :
    unescape (e.1 ++ s) = (unescape s).map (e.2 :: ·) := by
  obtain ⟨hamp, hlength⟩ := entities_amp h
  have hsplit : e.1 ++ s = 38 :: (e.1.drop 1 ++ s) := by
    rw [← List.cons_append, ← hamp]
  have hat : entityAt (38 :: (e.1.drop 1 ++ s)) = some e := by
    rw [← hsplit, entityAt_append h]
  have hdrop : (e.1.drop 1 ++ s).drop (e.1.length - 1) = s :=
    List.drop_left' List.length_drop
  rw [hsplit, unescape, if_neg (by decide), if_pos rfl, hat]
  dsimp only
  rw [hdrop]

theorem unescape_cons {c : UInt8} (hlt : c ≠ 60) (hamp : c ≠ 38) (s : Bytes) :
    unescape (c :: s) = (unescape s).map (c :: ·) := by
  rw [unescape, if_neg hlt, if_neg hamp]

/-- Escaped text stands for the text. -/
theorem unescape_escape (s : Bytes) : unescape (escape s) = some s := by
  induction s with
  | nil => rw [escape, List.flatMap_nil, unescape]
  | cons c s ih =>
    rw [escape_cons]
    rcases escapeByte_cases c with ⟨name, hmem, hname⟩ | ⟨hself, hnot⟩
    · rw [hname, unescape_entity hmem, ih]
      rfl
    · rw [hself, List.singleton_append, unescape_cons, ih]
      · rfl
      · rintro rfl
        exact hnot (by decide)
      · rintro rfl
        exact hnot (by decide)

/-- Escaped text holds no character of markup and no quote. -/
theorem notMem_escape {s : Bytes} {c : UInt8} (h : c ∈ escape s) :
    c ≠ 60 ∧ c ≠ 62 ∧ c ≠ 34 ∧ c ≠ 39 := by
  obtain ⟨d, -, hd⟩ := List.mem_flatMap.mp h
  rcases escapeByte_cases d with ⟨name, hmem, hname⟩ | ⟨hself, hnot⟩
  · have hall : entities.all fun e => e.1.all fun c => c ≠ 60 ∧ c ≠ 62 ∧ c ≠ 34 ∧ c ≠ 39 := by
      decide
    rw [hname] at hd
    simpa using List.all_eq_true.mp (List.all_eq_true.mp hall _ hmem) c hd
  · rw [hself, List.mem_singleton] at hd
    rw [hd]
    refine ⟨?_, ?_, ?_, ?_⟩ <;> rintro rfl <;> exact hnot (by decide)

/-- No character of the text has an entity. -/
def Plain (s : Bytes) : Prop := s.all fun c => c ∉ entities.map Prod.snd

instance (s : Bytes) : Decidable (Plain s) := inferInstanceAs (Decidable (_ = true))

theorem escape_of_plain {s : Bytes} (h : Plain s) : escape s = s := by
  induction s with
  | nil => rfl
  | cons c s ih =>
    obtain ⟨hc, hs⟩ : c ∉ entities.map Prod.snd ∧ Plain s := by simpa [Plain] using h
    rcases escapeByte_cases c with ⟨name, hmem, -⟩ | ⟨hself, -⟩
    · exact absurd (List.mem_map_of_mem hmem) hc
    · rw [escape_cons, hself, ih hs, List.singleton_append]

theorem suffix_of_notMem {c : UInt8} {a b t : Bytes} (hc : c ∉ a) (h : c :: t <:+ a ++ b) :
    c :: t <:+ b := by
  induction a with
  | nil => exact h
  | cons d a ih =>
    rw [List.mem_cons, not_or] at hc
    rcases List.suffix_cons_iff.mp h with heq | hsuffix
    · exact absurd (List.cons.inj heq).1 hc.1
    · exact ih hc.2 hsuffix

/-- Every `&` of escaped text begins an entity. -/
theorem entity_of_suffix {s t : Bytes} (h : 38 :: t <:+ escape s) :
    ∃ e ∈ entities, e.1 <+: 38 :: t := by
  induction s with
  | nil => simp [escape] at h
  | cons c s ih =>
    rw [escape_cons] at h
    rcases escapeByte_cases c with ⟨name, hmem, hname⟩ | ⟨hself, hnot⟩
    · -- the only `&` of an entity is its first character
      rw [hname] at h
      have hamp : name = 38 :: name.drop 1 := (entities_amp hmem).1
      have hall : entities.all fun e => 38 ∉ e.1.drop 1 := by decide
      have hrest : 38 ∉ name.drop 1 := by simpa using List.all_eq_true.mp hall _ hmem
      rw [hamp, List.cons_append] at h
      rcases List.suffix_cons_iff.mp h with heq | hsuffix
      · refine ⟨_, hmem, ?_⟩
        rw [heq, ← List.cons_append, ← hamp]
        exact List.prefix_append _ _
      · exact ih (suffix_of_notMem hrest hsuffix)
    · rw [hself, List.singleton_append] at h
      rcases List.suffix_cons_iff.mp h with heq | hsuffix
      · obtain ⟨rfl, -⟩ := List.cons.inj heq
        exact absurd (by decide) hnot
      · exact ih hsuffix

/-! ### Lists -/

/-- White space of XML. -/
def isXmlSpace (c : UInt8) : Bool := c = 32 || c = 9 || c = 10 || c = 13

/-- The items of a list type: what white space leaves. -/
def items (s : Bytes) : List Bytes := (s.splitOnP isXmlSpace).filter (· ≠ [])

theorem items_eq_singleton {s : Bytes} (h : ∀ c ∈ s, isXmlSpace c = false) (hne : s ≠ []) :
    items s = [s] := by
  rw [items, List.splitOnP_eq_singleton h]
  simp [hne]

/-- The first item ends at the first white space. -/
theorem items_append_cons {s rest : Bytes} {c : UInt8} (h : ∀ c ∈ s, isXmlSpace c = false)
    (hne : s ≠ []) (hc : isXmlSpace c = true) : items (s ++ c :: rest) = s :: items rest := by
  rw [items, List.splitOnP_append_cons_of_forall_mem h c hc rest]
  simp [hne, items]

theorem noSpace_of_mem_splitOnP {s item : Bytes} (h : item ∈ s.splitOnP isXmlSpace) :
    ∀ c ∈ item, isXmlSpace c = false := by
  induction s generalizing item with
  | nil =>
    rw [List.splitOnP_nil, List.mem_singleton] at h
    rw [h]
    exact fun c hc => absurd hc List.not_mem_nil
  | cons d s ih =>
    rw [List.splitOnP_cons_eq_if_modifyHead] at h
    split_ifs at h with hd
    · rcases List.mem_cons.mp h with rfl | hmem
      · exact fun c hc => absurd hc List.not_mem_nil
      · exact ih hmem
    · obtain ⟨first, others, hsplit⟩ :=
        List.exists_cons_of_ne_nil (List.splitOnP_ne_nil isXmlSpace s)
      rw [hsplit, List.modifyHead_cons] at h
      rcases List.mem_cons.mp h with rfl | hmem
      · intro c hc
        rcases List.mem_cons.mp hc with rfl | hc
        · simpa using hd
        · exact ih (by rw [hsplit]; exact List.mem_cons_self ..) c hc
      · exact ih (by rw [hsplit]; exact List.mem_cons_of_mem _ hmem)

theorem noSpace_of_mem_items {s item : Bytes} (h : item ∈ items s) :
    ∀ c ∈ item, isXmlSpace c = false :=
  noSpace_of_mem_splitOnP (List.mem_of_mem_filter h)

/-! ### Reading -/

/-- What stands in an element or beside it: text, and elements with the content after them. -/
inductive Content
  | text (s : Bytes)
  | element (before name : Bytes) (attributes : List (Bytes × Bytes)) (children after : Content)
  deriving DecidableEq

structure Document where
  declaration : List (Bytes × Bytes)
  name : Bytes
  attributes : List (Bytes × Bytes)
  children : Content
  deriving DecidableEq

def isNameStart (c : UInt8) : Bool :=
  (65 ≤ c && c ≤ 90) || (97 ≤ c && c ≤ 122) || c = 58 || c = 95 || 128 ≤ c

def isNameByte (c : UInt8) : Bool := isNameStart c || isDigit c || c = 45 || c = 46

/-- The bytes are a name. -/
def IsName (s : Bytes) : Prop := (∃ c ∈ s.head?, isNameStart c) ∧ ∀ c ∈ s, isNameByte c

instance (s : Bytes) : Decidable (IsName s) :=
  have : Decidable (∀ c ∈ s, isNameByte c) := List.decidableBAll (isNameByte · = true) s
  inferInstanceAs (Decidable ((∃ c ∈ s.head?, isNameStart c) ∧ ∀ c ∈ s, isNameByte c))

/-- The text after a literal. -/
def expect (literal s : Bytes) : Option Bytes :=
  if literal <+: s then some (s.drop literal.length) else none

def readName (s : Bytes) : Option (Bytes × Bytes) :=
  let name := s.takeWhile isNameByte
  if IsName name then some (name, s.dropWhile isNameByte) else none

/-- Attributes, each after a blank, at most as many as there is fuel for. -/
def readAttributes : ℕ → Bytes → Option (List (Bytes × Bytes) × Bytes)
  | 0, s => some ([], s)
  | fuel + 1, s =>
    if s.head? ≠ some 32 then some ([], s)
    else do
      let (name, s) ← readName s.tail
      let s ← expect (bytes "=\"") s
      let value ← unescape (s.takeWhile (· ≠ 34))
      let s ← expect (bytes "\"") (s.dropWhile (· ≠ 34))
      let (attributes, s) ← readAttributes fuel s
      return ((name, value) :: attributes, s)

/-- Text up to the next markup. -/
def readText (s : Bytes) : Option (Bytes × Bytes) :=
  let raw := s.takeWhile (· ≠ 60)
  if bytes "]]>" <:+: raw then none
  else (unescape raw).map (·, s.dropWhile (· ≠ 60))

/-- A start tag, whose attributes have different names. -/
def readStartTag (s : Bytes) : Option ((Bytes × List (Bytes × Bytes)) × Bytes) := do
  let s ← expect (bytes "<") s
  let (name, s) ← readName s
  let (attributes, s) ← readAttributes s.length s
  let s ← expect (bytes ">") s
  if (attributes.map Prod.fst).Nodup then return ((name, attributes), s) else none

/-- Content up to an end tag or the end, with fuel for its elements. -/
def readContent : ℕ → Bytes → Option (Content × Bytes)
  | 0, _ => none
  | fuel + 1, s => do
    let (text, s) ← readText s
    if s = [] ∨ bytes "</" <+: s then return (.text text, s)
    else
      let ((name, attributes), s) ← readStartTag s
      let (children, s) ← readContent fuel s
      let s ← expect (bytes "</" ++ name ++ bytes ">") s
      let (after, s) ← readContent fuel s
      return (.element text name attributes children after, s)

/-- A document: its declaration and one element, with nothing after it. -/
def read (s : Bytes) : Option Document := do
  let s ← expect (bytes "<?xml") s
  let (declaration, s) ← readAttributes s.length s
  let s ← expect (bytes "?>") s
  match readContent (s.length + 1) s with
  | some (.element [] name attributes children (.text []), []) =>
    some ⟨declaration, name, attributes, children⟩
  | _ => none

/-! ### Writing -/

def renderAttributes (attributes : List (Bytes × Bytes)) : Bytes :=
  attributes.flatMap fun (name, value) =>
    bytes " " ++ name ++ bytes "=\"" ++ escape value ++ bytes "\""

def Content.render : Content → Bytes
  | text s => escape s
  | element before name attributes children after =>
    escape before ++ bytes "<" ++ name ++ renderAttributes attributes ++ bytes ">" ++
      children.render ++ bytes "</" ++ name ++ bytes ">" ++ after.render

/-- The element of the document, with nothing beside it. -/
def Document.root (d : Document) : Content :=
  .element [] d.name d.attributes d.children (.text [])

def Document.render (d : Document) : Bytes :=
  bytes "<?xml" ++ renderAttributes d.declaration ++ bytes "?>" ++ d.root.render

/-- The names of the elements and attributes are names, and no attribute is given twice. -/
def Content.WellNamed : Content → Prop
  | text _ => True
  | element _ name attributes children after =>
    IsName name ∧ (∀ a ∈ attributes, IsName a.1) ∧ (attributes.map Prod.fst).Nodup ∧
      children.WellNamed ∧ after.WellNamed

/-- Names are looked at, texts are not. -/
def Content.decideWellNamed : (c : Content) → Decidable c.WellNamed
  | text _ => .isTrue trivial
  | element _ name attributes children after =>
    have := children.decideWellNamed
    have := after.decideWellNamed
    have : Decidable (∀ a ∈ attributes, IsName a.1) := List.decidableBAll (IsName ·.1) attributes
    inferInstanceAs (Decidable (IsName name ∧ (∀ a ∈ attributes, IsName a.1) ∧
      (attributes.map Prod.fst).Nodup ∧ children.WellNamed ∧ after.WellNamed))

instance (c : Content) : Decidable c.WellNamed := c.decideWellNamed

def Document.WellNamed (d : Document) : Prop :=
  (∀ a ∈ d.declaration, IsName a.1) ∧ d.root.WellNamed

instance (d : Document) : Decidable d.WellNamed :=
  have : Decidable (∀ a ∈ d.declaration, IsName a.1) :=
    List.decidableBAll (IsName ·.1) d.declaration
  inferInstanceAs (Decidable ((∀ a ∈ d.declaration, IsName a.1) ∧ d.root.WellNamed))

/-- The number of readings that a content takes. -/
def Content.size : Content → ℕ
  | text _ => 1
  | element _ _ _ children after => children.size + after.size + 1

/-! ### Reading what was written -/

@[simp] theorem expect_append (literal s : Bytes) : expect literal (literal ++ s) = some s := by
  rw [expect, if_pos (List.prefix_append _ _), List.drop_left]

/-- A run of bytes before one that does not belong to it. -/
theorem takeWhile_append_stop {p : UInt8 → Bool} {a rest : Bytes} (ha : ∀ c ∈ a, p c = true)
    (hrest : ∀ c ∈ rest.head?, p c = false) :
    (a ++ rest).takeWhile p = a ∧ (a ++ rest).dropWhile p = rest := by
  rw [List.takeWhile_append_of_pos ha, List.dropWhile_append_of_pos ha]
  cases rest with
  | nil => simp
  | cons c rest =>
    have hc : p c = false := hrest c rfl
    simp [hc]

theorem readName_append {name rest : Bytes} (h : IsName name)
    (hrest : ∀ c ∈ rest.head?, isNameByte c = false) :
    readName (name ++ rest) = some (name, rest) := by
  obtain ⟨htake, hdrop⟩ := takeWhile_append_stop h.2 hrest
  rw [readName, htake, hdrop, if_pos h]

theorem unescape_takeWhile (value rest : Bytes) :
    unescape ((escape value ++ 34 :: rest).takeWhile (· ≠ 34)) = some value ∧
      (escape value ++ 34 :: rest).dropWhile (· ≠ 34) = 34 :: rest := by
  have hvalue : ∀ c ∈ escape value, (c ≠ 34 : Bool) = true := fun c hc => by
    simpa using (notMem_escape hc).2.2.1
  have hquote : ∀ c ∈ (34 :: rest).head?, (c ≠ 34 : Bool) = false := fun c hc => by
    simpa using (Option.some.inj hc).symm
  obtain ⟨htake, hdrop⟩ := takeWhile_append_stop (p := (· ≠ 34)) hvalue hquote
  exact ⟨by rw [htake, unescape_escape], hdrop⟩

theorem readAttributes_render {attributes : List (Bytes × Bytes)} {rest : Bytes}
    (hnames : ∀ a ∈ attributes, IsName a.1) (hrest : rest.head? ≠ some 32) {fuel : ℕ}
    (hfuel : attributes.length ≤ fuel) :
    readAttributes fuel (renderAttributes attributes ++ rest) = some (attributes, rest) := by
  induction attributes generalizing fuel with
  | nil =>
    cases fuel with
    | zero => rfl
    | succ fuel =>
      rw [readAttributes]
      exact if_pos hrest
  | cons a attributes ih =>
    obtain ⟨name, value⟩ := a
    cases fuel with
    | zero => simp at hfuel
    | succ fuel =>
      have hsplit : renderAttributes ((name, value) :: attributes) ++ rest =
          32 :: (name ++ (bytes "=\"" ++ (escape value ++
            (bytes "\"" ++ (renderAttributes attributes ++ rest))))) := by
        have hblank : bytes " " = [32] := by decide
        simp [renderAttributes, hblank]
      have hname : IsName name := hnames (name, value) (List.mem_cons_self ..)
      have hnext := ih (fun a ha => hnames a (List.mem_cons_of_mem _ ha))
        (Nat.le_of_succ_le_succ hfuel)
      obtain ⟨hvalue, hafter⟩ := unescape_takeWhile value (renderAttributes attributes ++ rest)
      rw [hsplit, readAttributes, if_neg (by simp), List.tail_cons,
        readName_append hname fun c hc => by
          obtain rfl : 61 = c := Option.some.inj hc
          decide]
      have hquote : bytes "\"" = [34] := by decide
      simp only [Option.bind_eq_bind, Option.bind_some, expect_append, hquote,
        List.singleton_append, hvalue, hafter]
      have hclose : expect [34] (34 :: (renderAttributes attributes ++ rest)) =
          some (renderAttributes attributes ++ rest) := expect_append [34] _
      rw [hclose]
      simp [hnext]

theorem length_renderAttributes (attributes : List (Bytes × Bytes)) :
    attributes.length ≤ (renderAttributes attributes).length := by
  induction attributes with
  | nil => exact Nat.zero_le _
  | cons a attributes ih =>
    have hblank : (bytes " ").length = 1 := rfl
    rw [renderAttributes, List.flatMap_cons, ← renderAttributes]
    simp only [List.length_append, List.length_cons]
    omega

theorem readAttributes_length {attributes : List (Bytes × Bytes)}
    (hnames : ∀ a ∈ attributes, IsName a.1) (rest : Bytes) (hrest : rest.head? ≠ some 32) :
    readAttributes (renderAttributes attributes ++ rest).length
      (renderAttributes attributes ++ rest) = some (attributes, rest) := by
  refine readAttributes_render hnames hrest ?_
  rw [List.length_append]
  exact Nat.le_add_right_of_le (length_renderAttributes attributes)

theorem readText_escape {s rest : Bytes} (hrest : rest = [] ∨ bytes "<" <+: rest) :
    readText (escape s ++ rest) = some (s, rest) := by
  have hraw : ∀ c ∈ escape s, (c ≠ 60 : Bool) = true := fun c hc => by
    simpa using (notMem_escape hc).1
  have hstop : ∀ c ∈ rest.head?, (c ≠ 60 : Bool) = false := by
    intro c hc
    rcases hrest with rfl | ⟨t, rfl⟩
    · cases hc
    · simpa using (Option.some.inj hc).symm
  obtain ⟨htake, hdrop⟩ := takeWhile_append_stop (p := (· ≠ 60)) hraw hstop
  have hend : ¬bytes "]]>" <:+: escape s := by
    intro h
    have hmem : 62 ∈ escape s := h.subset (by decide)
    exact (notMem_escape hmem).2.1 rfl
  rw [readText, htake, hdrop, if_neg hend, unescape_escape]
  rfl

theorem readStartTag_render {name : Bytes} {attributes : List (Bytes × Bytes)} (hname : IsName name)
    (hnames : ∀ a ∈ attributes, IsName a.1) (hnodup : (attributes.map Prod.fst).Nodup)
    (rest : Bytes) :
    readStartTag (bytes "<" ++ (name ++ (renderAttributes attributes ++ (bytes ">" ++ rest)))) =
      some ((name, attributes), rest) := by
  have hstop : ∀ c ∈ (renderAttributes attributes ++ (bytes ">" ++ rest)).head?,
      isNameByte c = false := by
    intro c hc
    cases attributes with
    | nil =>
      obtain rfl : 62 = c := Option.some.inj hc
      decide
    | cons a attributes =>
      obtain rfl : 32 = c := Option.some.inj hc
      decide
  have hattributes := readAttributes_length hnames (bytes ">" ++ rest) fun h => by cases h
  rw [readStartTag, expect_append]
  simp only [Option.bind_eq_bind, Option.bind_some, readName_append hname hstop, hattributes,
    expect_append]
  rw [if_pos hnodup]
  rfl

/-- A start tag is no end tag. -/
theorem not_endTag {name : Bytes} (h : IsName name) (rest : Bytes) :
    ¬(bytes "<" ++ (name ++ rest) = [] ∨ bytes "</" <+: bytes "<" ++ (name ++ rest)) := by
  refine not_or.mpr ⟨List.cons_ne_nil _ _, ?_⟩
  obtain ⟨⟨c, hc, hstart⟩, -⟩ := h
  cases name with
  | nil => cases hc
  | cons d name =>
    obtain rfl : d = c := Option.some.inj hc
    intro hpre
    have htail : [47] <+: d :: (name ++ rest) := (List.prefix_append_right_inj (bytes "<")).mp hpre
    obtain rfl : 47 = d := (List.cons_prefix_cons.mp htail).1
    revert hstart
    decide

theorem readContent_render {c : Content} (h : c.WellNamed) (rest : Bytes)
    (hrest : rest = [] ∨ bytes "</" <+: rest) {fuel : ℕ} (hfuel : c.size ≤ fuel) :
    readContent fuel (c.render ++ rest) = some (c, rest) := by
  induction c generalizing rest fuel with
  | text s =>
    cases fuel with
    | zero => cases hfuel
    | succ fuel =>
      have hstart : rest = [] ∨ bytes "<" <+: rest :=
        hrest.imp_right fun h => List.IsPrefix.trans (by decide) h
      rw [readContent, Content.render, readText_escape hstart]
      simp [hrest]
  | element before name attributes children after ihchildren ihafter =>
    obtain ⟨hname, hnames, hnodup, hchildren, hafter⟩ := h
    rw [Content.size] at hfuel
    cases fuel with
    | zero => cases hfuel
    | succ fuel =>
      have hclose : bytes "</" <+: bytes "</" ++ name ++ bytes ">" ++ (after.render ++ rest) := by
        simp only [List.append_assoc]
        exact List.prefix_append _ _
      -- the fuel bounds the whole content, so it lasts for the children and for what follows
      have hfuelChildren : children.size ≤ fuel := by omega
      have hfuelAfter : after.size ≤ fuel := by omega
      have hreadChildren := ihchildren hchildren _ (Or.inr hclose) hfuelChildren
      have hreadAfter := ihafter hafter rest hrest hfuelAfter
      have htag := readStartTag_render hname hnames hnodup
        (children.render ++ (bytes "</" ++ name ++ bytes ">" ++ (after.render ++ rest)))
      have hsplit : (Content.element before name attributes children after).render ++ rest =
          escape before ++ (bytes "<" ++ (name ++ (renderAttributes attributes ++ (bytes ">" ++
            (children.render ++
              (bytes "</" ++ name ++ bytes ">" ++ (after.render ++ rest))))))) := by
        simp only [Content.render, List.append_assoc]
      rw [hsplit, readContent, readText_escape (Or.inr (List.prefix_append _ _))]
      simp only [Option.bind_eq_bind, Option.bind_some]
      rw [if_neg (not_endTag hname _), htag]
      simp only [Option.bind_some, hreadChildren, expect_append, hreadAfter]
      rfl

theorem Content.size_le (c : Content) : c.size ≤ c.render.length + 1 := by
  induction c with
  | text s => exact Nat.le_add_left _ _
  | element before name attributes children after ihchildren ihafter =>
    have hopen : (bytes "<").length = 1 := rfl
    have hclose : (bytes ">").length = 1 := rfl
    simp only [Content.size, Content.render, List.length_append]
    omega

/-- A document that was written is read as it is, whatever the texts and values in it. -/
theorem read_render {d : Document} (h : d.WellNamed) : read d.render = some d := by
  have hdeclaration := readAttributes_length h.1 (bytes "?>" ++ d.root.render) fun h => by cases h
  have hcontent := readContent_render h.2 [] (Or.inl rfl) d.root.size_le
  rw [List.append_nil] at hcontent
  have hsplit : d.render = bytes "<?xml" ++ (renderAttributes d.declaration ++
      (bytes "?>" ++ d.root.render)) := by
    simp only [Document.render, List.append_assoc]
  rw [hsplit, read]
  simp only [Option.bind_eq_bind, expect_append, Option.bind_some, hdeclaration, hcontent]
  rfl

end Xml
