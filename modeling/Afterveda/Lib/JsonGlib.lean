import Afterveda.Lib.Binary64

/-!
# JSON documents

`JsonNode` is a document as json-glib holds it, and a `Parser` is what
`json_parser_load_from_data` and `json_parser_get_root` make of a text: a document or nothing.

`objectText` writes a flat object, the way a client that builds its bodies by hand does, and
`Reads` says what json-glib is relied on for: such a text denotes the members it was written from.
`reads_flatObject` shows that the reliance can be met.
-/

namespace JsonGlib

open CText CNumber

/-- A document. -/
inductive JsonNode
  | null
  | boolean (value : Bool)
  | int (value : ℤ)
  | double (value : Double)
  | string (value : Bytes)
  | array (elements : List JsonNode)
  | object (members : List (Bytes × JsonNode))

/-- `json_node_get_double` of a number. -/
def JsonNode.getDouble : JsonNode → Option Double
  | .int n => some (.finite n)
  | .double x => some x
  | _ => none

/-- `json_object_get_member`. -/
def getMember (members : List (Bytes × JsonNode)) (name : Bytes) : Option JsonNode :=
  members.lookup name

/-- The document of a text, or `none` when json-glib refuses it or finds it empty. -/
abbrev Parser := Bytes → Option JsonNode

/-! ### Flat objects -/

/-- A value written without nesting. -/
inductive Scalar
  | int (n : ℤ)
  | real (q : ℚ)
  | boolean (b : Bool)
  | string (s : Bytes)

def Scalar.text : Scalar → Bytes
  | .int n => toDecimal n
  | .real q => formatDouble (.finite q)
  | .boolean b => if b then bytes "true" else bytes "false"
  | .string s => 34 :: backslashEscape s ++ [34]

/-- `"name":value` -/
def memberText (m : Bytes × Scalar) : Bytes := 34 :: m.1 ++ 34 :: 58 :: m.2.text

def membersText : List (Bytes × Scalar) → Bytes
  | [] => []
  | [m] => memberText m
  | m :: ms => memberText m ++ 44 :: membersText ms

/-- `{"name":value,...}` -/
def objectText (ms : List (Bytes × Scalar)) : Bytes := 123 :: membersText ms ++ [125]

/-- The node holds the value that was written, a real number as it was printed and read. -/
def Scalar.Denotes (precision : Precision) : Scalar → JsonNode → Prop
  | .int n, node => node = .int n
  | .real q, node => node.getDouble = some (precision.reread (.finite q))
  | .boolean b, node => node = .boolean b
  | .string s, node => node = .string s

/-- The value is no string; any text may be refused as a string, for one that is not UTF-8. -/
def Scalar.isString : Scalar → Bool
  | .string _ => true
  | _ => false

/-- A printable ASCII character other than the quote and the backslash. -/
def PlainByte (c : UInt8) : Prop := 32 ≤ c ∧ c < 127 ∧ c ≠ 34 ∧ c ≠ 92

instance : DecidablePred PlainByte := fun _ => inferInstanceAs (Decidable (_ ∧ _))

/-- A name that stands in JSON as it is. -/
def PlainName (name : Bytes) : Prop := name ≠ [] ∧ ∀ c ∈ name, PlainByte c

instance : DecidablePred PlainName := fun name =>
  decidable_of_iff (name ≠ [] ∧ name.all (PlainByte ·) = true)
    (and_congr_right fun _ => List.all_iff_forall_prop)

/-- A value under such a name that json-glib can hold: a C `int`, a number in the range where a
`double` holds every integer, a C string. -/
def PlainMember (m : Bytes × Scalar) : Prop :=
  PlainName m.1 ∧
    match m.2 with
    | .int n => IsInt32 n
    | .real q => |round6 q| < 2 ^ 53
    | .boolean _ => True
    | .string s => 0 ∉ s

/-- What is relied on: flat objects are read to the members they were written from, and refused
only for their strings. -/
structure Reads (precision : Precision) (parse : Parser) : Prop where
  accepts : ∀ ms, ms ≠ [] → (∀ m ∈ ms, PlainMember m) → (∀ m ∈ ms, m.2.isString = false) →
    parse (objectText ms) ≠ none
  faithful : ∀ ms node, ms ≠ [] → (∀ m ∈ ms, PlainMember m) → (ms.map Prod.fst).Nodup →
    parse (objectText ms) = some node →
    ∃ members, node = .object members ∧
      List.Forall₂ (fun m n => m.1 = n.1 ∧ m.2.Denotes precision n.2) ms members

variable {precision : Precision}

/-- Members looked up by name, one after the other. -/
theorem getMember_of_forall₂ {ms : List (Bytes × Scalar)} {members : List (Bytes × JsonNode)}
    (h : List.Forall₂ (fun m n => m.1 = n.1 ∧ m.2.Denotes precision n.2) ms members)
    (name : Bytes) :
    match ms.lookup name with
    | none => getMember members name = none
    | some v => ∃ node, getMember members name = some node ∧ v.Denotes precision node := by
  induction h with
  | nil => rfl
  | @cons m n ms members hmn _ ih =>
    obtain ⟨k, v⟩ := m
    obtain ⟨k', node⟩ := n
    obtain ⟨rfl, hdenotes⟩ := hmn
    by_cases hname : name = k
    · subst hname
      simpa [getMember] using hdenotes
    · have hbeq : (name == k) = false := by simpa using hname
      simpa only [getMember, List.lookup_cons, hbeq] using ih

/-! ### A reader of flat objects -/

/-- The node of a number, an integer where it is one. -/
def numberNode (precision : Precision) (q : ℚ) : JsonNode :=
  if q.den = 1 then .int q.num else .double (.finite (precision.round q))

/-- A value, and what follows it. -/
def readScalar (precision : Precision) (s : Bytes) : Option (JsonNode × Bytes) :=
  match s with
  | 34 :: t => (readQuoted t).map fun (v, u) => (.string v, u)
  | _ =>
    if bytes "true" <+: s then some (.boolean true, s.drop 4)
    else if bytes "false" <+: s then some (.boolean false, s.drop 5)
    else
      match strtod s with
      | some (.finite q, t) => some (numberNode precision q, t)
      | _ => none

/-- The members up to the closing brace, which must end the text. -/
def readMembers (precision : Precision) : ℕ → Bytes → Option (List (Bytes × JsonNode))
  | fuel + 1, 34 :: s =>
    match readQuoted s with
    | some (name, 58 :: t) =>
      match readScalar precision t with
      | some (node, [125]) => some [(name, node)]
      | some (node, 44 :: u) => (readMembers precision fuel u).map ((name, node) :: ·)
      | _ => none
    | _ => none
  | _, _ => none

/-- A parser of flat objects without white space. -/
def flatObject (precision : Precision) : Parser
  | 123 :: s => (readMembers precision s.length s).map .object
  | _ => none

/-- The parser of flat objects with binary64 numbers. -/
def flatParser : Parser := flatObject .binary64

/-- The node the reader gives for a value. -/
def Scalar.node (precision : Precision) : Scalar → JsonNode
  | .int n => .int n
  | .real q => numberNode precision (round6 q)
  | .boolean b => .boolean b
  | .string s => .string s

theorem denotes_node {m : Bytes × Scalar} (hm : PlainMember m) :
    m.2.Denotes precision (m.2.node precision) := by
  obtain ⟨name, v⟩ := m
  obtain ⟨-, hv⟩ := hm
  cases v with
  | real q =>
    show (numberNode precision (round6 q)).getDouble = some (.finite (precision.round (round6 q)))
    unfold numberNode
    split_ifs with hint
    · -- an integer is read as it is
      have hcast : ((round6 q).num : ℚ) = round6 q := Rat.coe_int_num_of_den_eq_one hint
      have hround := round_intCast precision (n := (round6 q).num) (by rw [hcast]; exact hv)
      rw [hcast] at hround
      rw [JsonNode.getDouble, hcast, hround]
    · rfl
  | _ => rfl

/-- Text that begins with a digit or a minus is read as a number. -/
theorem readScalar_number {c : UInt8} {t s : Bytes} {q : ℚ} (hc : isDigit c = true ∨ c = 45)
    (hread : strtod (c :: t) = some (.finite q, s)) :
    readScalar precision (c :: t) = some (numberNode precision q, s) := by
  have hne : c ≠ 34 ∧ c ≠ 116 ∧ c ≠ 102 := by
    rcases hc with hc | rfl
    · refine ⟨?_, ?_, ?_⟩ <;> rintro rfl <;> exact absurd hc (by decide)
    · decide
  have htrue : ¬ bytes "true" <+: c :: t := by
    intro h
    exact hne.2.1 (List.cons_prefix_cons.mp h).1.symm
  have hfalse : ¬ bytes "false" <+: c :: t := by
    intro h
    exact hne.2.2 (List.cons_prefix_cons.mp h).1.symm
  unfold readScalar
  split
  · rename_i u heq
    exact absurd (List.cons.inj heq).1 hne.1
  · rw [if_neg htrue, if_neg hfalse, hread]

theorem readScalar_boolean (b : Bool) (s : Bytes) :
    readScalar precision ((if b then bytes "true" else bytes "false") ++ s) =
      some (.boolean b, s) := by
  have hstarts : ∀ w : Bytes, w <+: w ++ s := fun w => List.prefix_append w s
  unfold readScalar
  split
  · rename_i u heq
    cases b <;> exact absurd (List.cons.inj heq).1 (by decide)
  · cases b with
    | true =>
      rw [if_pos rfl, if_pos (hstarts _)]
      rfl
    | false =>
      have hne : ¬ bytes "true" <+: bytes "false" ++ s := by
        intro h
        exact absurd (List.cons_prefix_cons.mp h).1 (by decide)
      rw [if_neg Bool.false_ne_true, if_neg hne, if_pos (hstarts _)]
      rfl

/-- The text ends a value: a comma or the closing brace. -/
def ValueEnd (s : Bytes) : Prop := ∃ t, s = 44 :: t ∨ s = 125 :: t

theorem ValueEnd.numberEnd {s : Bytes} (h : ValueEnd s) : NumberEnd s := by
  obtain ⟨t, rfl | rfl⟩ := h <;> intro c hc <;> obtain rfl := Option.some.inj hc <;> decide

theorem formatDouble_cons (q : ℚ) :
    ∃ c t, formatDouble (.finite q) = c :: t ∧ (isDigit c = true ∨ c = 45) := by
  rw [formatDouble]
  split_ifs
  · exact ⟨48, [], rfl, Or.inl rfl⟩
  · exact ⟨45, _, rfl, Or.inr rfl⟩
  · obtain ⟨c, t, hcons, hc⟩ := formatDigits_cons (sixDigits q).1 (sixDigits q).2
    exact ⟨c, t, hcons, Or.inl hc⟩

theorem toDecimal_cons (n : ℤ) : ∃ c t, toDecimal n = c :: t ∧ (isDigit c = true ∨ c = 45) := by
  have hne : toDecimal n ≠ [] := by
    unfold toDecimal
    split_ifs
    · simp
    · exact natDecimal_ne_nil _
  obtain ⟨c, t, hcons⟩ := List.exists_cons_of_ne_nil hne
  exact ⟨c, t, hcons, (mem_toDecimal (hcons ▸ List.mem_cons_self ..)).symm⟩

theorem lt_doubleBound {q : ℚ} (h : |q| < 2 ^ 53) : |q| < doubleBound := by
  have hbound : (2 : ℚ) ^ 53 < doubleBound := by decide +kernel
  exact h.trans hbound

theorem readScalar_text {m : Bytes × Scalar} (hm : PlainMember m) {s : Bytes} (hs : ValueEnd s) :
    readScalar precision (m.2.text ++ s) = some (m.2.node precision, s) := by
  obtain ⟨name, v⟩ := m
  obtain ⟨-, hv⟩ := hm
  cases v with
  | int n =>
    have hn : |(n : ℚ)| < 2 ^ 53 := by
      have habs : |n| < 2 ^ 53 := by
        obtain ⟨hlow, hhigh⟩ : IsInt32 n := hv
        exact abs_lt.mpr ⟨by omega, by omega⟩
      exact_mod_cast habs
    have hread := strtod_toDecimal (lt_doubleBound hn) hs.numberEnd
    obtain ⟨c, t, hcons, hc⟩ := toDecimal_cons n
    rw [hcons, List.cons_append] at hread
    rw [Scalar.text, hcons, List.cons_append, readScalar_number hc hread, numberNode,
      Rat.den_intCast, if_pos rfl, Rat.num_intCast, Scalar.node]
  | real q =>
    have hread := strtod_formatDouble (lt_doubleBound hv) hs.numberEnd
    obtain ⟨c, t, hcons, hc⟩ := formatDouble_cons q
    rw [hcons, List.cons_append] at hread
    rw [Scalar.text, hcons, List.cons_append, readScalar_number hc hread, Scalar.node]
  | boolean b =>
    exact readScalar_boolean b s
  | string v =>
    rw [Scalar.text, List.append_assoc, List.cons_append, readScalar]
    rw [List.singleton_append, readQuoted_backslashEscape]
    rfl

theorem readMembers_membersText {ms : List (Bytes × Scalar)} (hne : ms ≠ [])
    (hms : ∀ m ∈ ms, PlainMember m) {fuel : ℕ} (hfuel : ms.length ≤ fuel) :
    readMembers precision fuel (membersText ms ++ [125]) =
      some (ms.map fun m => (m.1, m.2.node precision)) := by
  induction ms generalizing fuel with
  | nil => exact absurd rfl hne
  | cons m ms ih =>
    obtain ⟨fuel, rfl⟩ : ∃ k, fuel = k + 1 := ⟨fuel - 1, by simp at hfuel; omega⟩
    have hm := hms m (List.mem_cons_self ..)
    have hname : ∀ s, readQuoted (m.1 ++ 34 :: s) = some (m.1, s) := by
      intro s
      conv_lhs => rw [← backslashEscape_of_plain fun c hc => (hm.1.2 c hc).2.2]
      exact readQuoted_backslashEscape _ _
    cases ms with
    | nil =>
      -- the closing brace follows the last value
      have hend : ValueEnd [125] := ⟨[], Or.inr rfl⟩
      simp only [membersText, memberText, List.cons_append, List.append_assoc, readMembers, hname,
        readScalar_text hm hend, List.map_cons, List.map_nil]
    | cons m' ms =>
      -- a comma follows any other
      have hend : ValueEnd (44 :: (membersText (m' :: ms) ++ [125])) := ⟨_, Or.inl rfl⟩
      have hlength : (m' :: ms).length ≤ fuel := by simp at hfuel ⊢; omega
      have hrest := ih (by simp) (fun x hx => hms x (List.mem_cons_of_mem _ hx)) hlength
      simp only [membersText, memberText, List.cons_append, List.append_assoc, readMembers, hname,
        readScalar_text hm hend, List.map_cons] at hrest ⊢
      rw [hrest]
      rfl

theorem length_le_membersText (ms : List (Bytes × Scalar)) :
    ms.length ≤ (membersText ms).length := by
  induction ms with
  | nil => simp
  | cons m ms ih =>
    cases ms with
    | nil => simp [membersText, memberText]
    | cons m' ms =>
      simp only [membersText, List.length_append, List.length_cons] at ih ⊢
      omega

theorem flatObject_objectText {ms : List (Bytes × Scalar)} (hne : ms ≠ [])
    (hms : ∀ m ∈ ms, PlainMember m) : flatObject precision (objectText ms) =
      some (.object (ms.map fun m => (m.1, m.2.node precision))) := by
  -- a member has at least one byte, so the text's length is fuel enough
  have hlength : ms.length ≤ (membersText ms ++ [125]).length := by
    have h := length_le_membersText ms
    rw [List.length_append]
    omega
  show (readMembers precision (membersText ms ++ [125]).length
    (membersText ms ++ [125])).map _ = _
  rw [readMembers_membersText hne hms hlength]
  rfl

/-- The reader of flat objects does what is relied on. -/
theorem reads_flatObject (precision : Precision) : Reads precision (flatObject precision) where
  accepts ms hne hms _ := by
    rw [flatObject_objectText hne hms]
    exact Option.some_ne_none _
  faithful ms node hne hms _ h := by
    rw [flatObject_objectText hne hms] at h
    obtain rfl := Option.some.inj h
    refine ⟨_, rfl, ?_⟩
    rw [List.forall₂_map_right_iff, List.forall₂_same]
    exact fun m hm => ⟨rfl, denotes_node (hms m hm)⟩

theorem reads_flatParser : Reads .binary64 flatParser := reads_flatObject .binary64

end JsonGlib
