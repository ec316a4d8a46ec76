import Afterveda.Lib.CutText
import Afterveda.Onvif.Equiv.RailClient

/-!
# Documents cut short

An answer of rail-media may reach the client without its end.  What the client reads of such a
document is still something it can send back: a level in its range (`isLevel_jsonDouble_cut`), a C
integer, a text without NUL.

It is the value of the document when that has arrived to its end (`Arrived`), and what the client
has built in when nothing of it has (`Missing`).  `jsonInt_cut`, `reread_jsonDouble_cut` and
`jsonString_cut` say that there is no other way: a number without its last characters is another
number, and a text without its closing quote is not read.
-/

namespace Afterveda.Onvif

open CText CNumber JsonGlib Rail

variable {precision : Precision}

/-! ### Values -/

/-- What follows a marker that has arrived is the beginning of what follows it in the document. -/
theorem afterMarker_append {p key rest : Bytes} (h : afterMarker p key = some rest) (s : Bytes) :
    afterMarker (p ++ s) key = some (rest ++ s) := by
  obtain ⟨pos, hpos, rfl⟩ := Option.map_eq_some_iff.mp h
  unfold afterMarker
  rw [find_append_right hpos, Option.map_some, List.drop_append_of_le_length (length_of_find hpos)]

theorem isInt32_jsonInt {json key : Bytes} {fallback : ℤ} (h : IsInt32 fallback) :
    IsInt32 (jsonInt json key fallback) := by
  unfold jsonInt
  cases (afterMarker json key).bind strtol with
  | none => exact h
  | some read => exact isInt32_wrap32 read.1

theorem isLevel_nearest {q : ℚ} (h0 : 0 ≤ q) (h100 : q ≤ 100) :
    IsLevel (precision.nearest (.finite q)) := by
  have hbound : |q| < 2 ^ 53 := by
    rw [abs_of_nonneg h0]
    linarith
  refine ⟨precision.round q, rfl, ?_, ?_⟩
  · exact_mod_cast intCast_le_round precision (n := 0) hbound (by exact_mod_cast h0)
  · exact_mod_cast round_le_intCast precision (n := 100) hbound (by exact_mod_cast h100)

/-- A level of a document is read as a level, however much of the document has arrived. -/
theorem isLevel_jsonDouble_cut {json key : Bytes} {x fallback : Double} (hx : IsLevel x)
    (hfallback : IsLevel fallback)
    (h : ∃ rest, afterMarker json key = some (formatDouble x ++ rest) ∧ NumberEnd rest) (n : ℕ) :
    IsLevel (jsonDouble precision (json.take n) key fallback) := by
  obtain ⟨rest, hjson, hrest⟩ := h
  cases hmarker : afterMarker (json.take n) key with
  | none =>
    rw [jsonDouble, hmarker]
    exact hfallback
  | some p =>
    have hall := afterMarker_append hmarker (json.drop n)
    rw [List.take_append_drop, hjson, Option.some.injEq] at hall
    rcases List.append_eq_append_iff.mp hall.symm with ⟨a, hcut, -⟩ | ⟨a, hwhole, htail⟩
    · -- the end of the number may be missing
      obtain ⟨q, rfl, h0, h100⟩ := hx
      rw [jsonDouble, hmarker, Option.bind_some]
      by_cases hempty : p = []
      · rw [hempty]
        exact hfallback
      · obtain ⟨v, t, hread, hv0, hv100, -⟩ := strtod_cut_formatDouble h0 h100 hcut.symm hempty
        rw [hread]
        exact isLevel_nearest hv0 hv100
    · have hend : NumberEnd a := by
        intro c hc
        refine hrest c ?_
        rw [htail, List.head?_append, Option.mem_def.mp hc]
        rfl
      rw [jsonDouble_eq hx ⟨a, hwhole ▸ hmarker, hend⟩]
      exact isLevel_reread hx

theorem mem_readQuoted {s v t : Bytes} (h : readQuoted s = some (v, t)) {c : UInt8} (hc : c ∈ v) :
    c ∈ s := by
  fun_induction readQuoted s generalizing v t with
  | case1 => cases h
  | case2 | case4 =>
    obtain rfl := (Prod.mk.inj (Option.some.inj h)).1
    cases hc
  | case3 => cases h
  | case5 d s _ ih | case6 c' d s _ _ ih =>
    obtain ⟨⟨w, u⟩, hread, heq⟩ := Option.map_eq_some_iff.mp h
    obtain rfl := (Prod.mk.inj heq).1
    rcases List.mem_cons.mp hc with rfl | hc
    · simp
    · simp [ih hread hc]

/-- The client reads no NUL where there is none. -/
theorem notMem_jsonString {json key fallback : Bytes} (hjson : 0 ∉ json)
    (hfallback : 0 ∉ fallback) :
    0 ∉ jsonString json key fallback := by
  unfold jsonString
  cases hmarker : afterMarker json key with
  | none => exact hfallback
  | some rest =>
    dsimp only
    cases hstart : find rest [34] with
    | none => exact hfallback
    | some start =>
      dsimp only
      cases hread : readQuoted (rest.drop (start + 1)) with
      | none => exact hfallback
      | some read =>
        intro hmem
        obtain ⟨pos, -, rfl⟩ := Option.map_eq_some_iff.mp hmarker
        exact hjson (List.mem_of_mem_drop (List.mem_of_mem_drop (mem_readQuoted hread hmem)))

/-! ### What has arrived -/

/-- The value of a key stands in a text to its end. -/
def Arrived (json key value : Bytes) : Prop :=
  ∃ rest, afterMarker json key = some rest ∧ value <+: rest.dropWhile isJsonSpace

/-- Nothing of the value of a key stands in a text. -/
def Missing (json key : Bytes) : Prop :=
  ∀ rest, afterMarker json key = some rest → ∀ c ∈ rest, isJsonSpace c = true

/-- How far the beginning of a document goes: not to a value, into the value, or to its end. -/
inductive Arrival (json key gap value rest : Bytes) : Prop
  | missing (hmissing : Missing json key) (hnot : ¬Arrived json key value)
      (h : ∀ r, afterMarker json key = some r → r <+: gap)
  | part (p as : Bytes) (hp : p ≠ []) (has : as ≠ []) (hsplit : p ++ as = value)
      (hmissing : ¬Missing json key) (hnot : ¬Arrived json key value)
      (h : afterMarker json key = some (gap ++ p))
  | whole (a t : Bytes) (hsplit : rest = a ++ t) (hmissing : ¬Missing json key)
      (harrived : Arrived json key value) (h : afterMarker json key = some (gap ++ (value ++ a)))

/-- A gap of white space is skipped in front of a value that starts with none. -/
theorem dropWhile_gap {gap p : Bytes} (hgap : ∀ c ∈ gap, isJsonSpace c = true)
    (hp : ∀ c ∈ p.head?, isJsonSpace c = false) : (gap ++ p).dropWhile isJsonSpace = p := by
  rw [List.dropWhile_append_of_pos hgap]
  cases p with
  | nil => rfl
  | cons c p => exact List.dropWhile_cons_of_neg (by simp [hp c rfl])

section Marker

variable {json key gap value rest u : Bytes} (hgap : ∀ c ∈ gap, isJsonSpace c = true)

include hgap

theorem arrived_iff (hmarker : afterMarker json key = some (gap ++ u))
    (hu : ∀ c ∈ u.head?, isJsonSpace c = false) : Arrived json key value ↔ value <+: u := by
  constructor
  · rintro ⟨r, hr, hpre⟩
    rw [hmarker, Option.some.injEq] at hr
    rwa [← hr, dropWhile_gap hgap hu] at hpre
  · intro hpre
    exact ⟨_, hmarker, by rwa [dropWhile_gap hgap hu]⟩

theorem missing_iff (hmarker : afterMarker json key = some (gap ++ u))
    (hu : ∀ c ∈ u.head?, isJsonSpace c = false) : Missing json key ↔ u = [] := by
  constructor
  · intro hmissing
    by_contra hne
    obtain ⟨c, t, rfl⟩ := List.exists_cons_of_ne_nil hne
    have hspace := hmissing _ hmarker c (List.mem_append_right gap (List.mem_cons_self ..))
    rw [hu c rfl] at hspace
    cases hspace
  · rintro rfl r hr c hc
    rw [hmarker, Option.some.injEq, List.append_nil] at hr
    exact hgap c (hr ▸ hc)

/-- At most the gap has arrived. -/
theorem arrival_of_gap (hne : value ≠ [])
    (h : ∀ r, afterMarker json key = some r → r <+: gap) : Arrival json key gap value rest := by
  refine .missing (fun r hr c hc => hgap c ((h r hr).subset hc)) (fun ⟨r, hr, hpre⟩ => hne ?_) h
  have hnil : r.dropWhile isJsonSpace = [] :=
    List.dropWhile_eq_nil_iff.mpr fun c hc => hgap c ((h r hr).subset hc)
  rwa [hnil, List.prefix_nil] at hpre

theorem arrival_take (hne : value ≠ []) (hvalue : ∀ c ∈ value.head?, isJsonSpace c = false)
    (h : afterMarker json key = some (gap ++ (value ++ rest))) (length : ℕ) :
    Arrival (json.take length) key gap value rest := by
  cases hmarker : afterMarker (json.take length) key with
  | none =>
    refine arrival_of_gap hgap hne fun r hr => ?_
    rw [hmarker] at hr
    cases hr
  | some r =>
    have hall := afterMarker_append hmarker (json.drop length)
    rw [List.take_append_drop, h, Option.some.injEq] at hall
    rcases List.append_eq_append_iff.mp hall with ⟨u, rfl, htail⟩ | ⟨u, hcut, -⟩
    · -- the gap is there
      have hhead : ∀ c ∈ u.head?, isJsonSpace c = false := by
        intro c hc
        obtain ⟨t, rfl⟩ := List.head?_eq_some_iff.mp hc
        obtain ⟨d, v, rfl⟩ := List.exists_cons_of_ne_nil hne
        obtain ⟨rfl, -⟩ := List.cons.inj htail
        exact hvalue d rfl
      have hmissing := missing_iff hgap hmarker hhead
      have harrived := @arrived_iff _ _ _ value _ hgap hmarker hhead
      rcases List.append_eq_append_iff.mp htail with ⟨a, rfl, hsplit⟩ | ⟨as, hsplit, -⟩
      · exact .whole a _ hsplit (mt hmissing.mp (List.append_ne_nil_of_left_ne_nil hne a))
          (harrived.mpr (List.prefix_append value a)) hmarker
      · by_cases has : as = []
        · -- the value ends the text
          rw [has, List.append_nil] at hsplit
          subst hsplit
          exact .whole [] rest rfl (mt hmissing.mp hne) (harrived.mpr List.prefix_rfl)
            (by rwa [List.append_nil])
        by_cases hu : u = []
        · refine arrival_of_gap hgap hne fun r' hr' => ?_
          rw [hmarker, Option.some.injEq, hu, List.append_nil] at hr'
          exact hr' ▸ List.prefix_rfl
        · refine .part u as hu has hsplit.symm (mt hmissing.mp hu) (fun hwhole => has ?_) hmarker
          have hlength := (harrived.mp hwhole).length_le
          rw [hsplit, List.length_append] at hlength
          exact List.length_eq_zero_iff.mp (by omega)
    · -- part of the gap, or all of it
      refine arrival_of_gap hgap hne fun r' hr' => ?_
      rw [hmarker, Option.some.injEq] at hr'
      exact hr' ▸ ⟨u, hcut.symm⟩

end Marker

/-! ### Integers -/

theorem isJsonSpace_of_isDigit {c : UInt8} (h : isDigit c = true) : isJsonSpace c = false := by
  have hne : ∀ d, isDigit d = false → c ≠ d := by
    rintro d hd rfl
    exact Bool.false_ne_true (hd.symm.trans h)
  simp [isJsonSpace, hne 32 (by decide), hne 9 (by decide), hne 13 (by decide), hne 10 (by decide)]

theorem isJsonSpace_toDecimal (n : ℤ) : ∀ c ∈ (toDecimal n).head?, isJsonSpace c = false := by
  intro c hc
  rcases (isDecimal_toDecimal n).mem (List.mem_of_mem_head? hc) with rfl | hdigit
  · decide
  · exact isJsonSpace_of_isDigit hdigit

/-- An integer of a document is kept when its value has arrived, or when nothing of it has and it is
the one the client goes on with. -/
theorem jsonInt_cut {json key : Bytes} {n : ℤ} (hn : IsInt32 n)
    (h : ∃ rest, afterMarker json key = some ([32] ++ (toDecimal n ++ rest)) ∧ NoDigitHead rest)
    {fallback : ℤ} (hfallback : 0 ≤ fallback) (length : ℕ) :
    jsonInt (json.take length) key fallback = n ↔
      Arrived (json.take length) key (toDecimal n) ∨
        Missing (json.take length) key ∧ fallback = n := by
  obtain ⟨rest, hjson, hrest⟩ := h
  have hne : toDecimal n ≠ [] := by
    rw [toDecimal]
    split_ifs
    · exact List.cons_ne_nil _ _
    · exact natDecimal_ne_nil _
  cases arrival_take (List.all_eq_true.mp rfl) hne (isJsonSpace_toDecimal n) hjson length with
  | missing hmissing hnot hmarker =>
    have hread : jsonInt (json.take length) key fallback = fallback := by
      rw [jsonInt]
      cases hr : afterMarker (json.take length) key with
      | none => rfl
      | some r =>
        rcases List.prefix_cons_iff.mp (hmarker r hr) with rfl | ⟨t, rfl, ht⟩
        · rfl
        · rw [List.prefix_nil.mp ht]
          rfl
    rw [hread]
    simp [hmissing, hnot]
  | part p as hp has hsplit hmissing hnot hmarker =>
    have hread : jsonInt (json.take length) key fallback ≠ n := by
      rw [jsonInt, hmarker, Option.bind_some, List.singleton_append, strtol_space (by decide)]
      rcases strtol_cut_toDecimal hn hsplit hp has with ⟨hneg, hnone⟩ | ⟨v, hv, hint, hne⟩
      · rw [hnone]
        exact (hneg.trans_le hfallback).ne'
      · rw [hv]
        exact fun heq => hne ((wrap32_of_isInt32 hint).symm.trans heq)
    simp [hread, hmissing, hnot]
  | whole a t hsplit hmissing harrived hmarker =>
    have hend : NoDigitHead a := by
      intro c hc
      refine hrest c ?_
      rw [hsplit, List.head?_append, Option.mem_def.mp hc]
      rfl
    rw [jsonInt_eq hn ⟨a, hmarker, hend⟩]
    simp [harrived]

/-! ### Levels -/

/-- A level of a document comes back when its value has arrived and is not changed by its printing,
or when nothing of it has arrived and it is the one the client goes on with. -/
theorem reread_jsonDouble_cut {json key : Bytes} {x : Double} (hx : IsLevel x)
    (h : ∃ rest, afterMarker json key = some (formatDouble x ++ rest) ∧ NumberEnd rest)
    (fallback : Double) (length : ℕ) :
    precision.reread (jsonDouble precision (json.take length) key fallback) = x ↔
      Arrived (json.take length) key (formatDouble x) ∧ precision.reread x = x ∨
        Missing (json.take length) key ∧ precision.reread fallback = x := by
  obtain ⟨rest, hjson, hrest⟩ := h
  obtain ⟨q, rfl, h0, h100⟩ := id hx
  have hhead : ∀ c ∈ (formatDouble (.finite q)).head?, isJsonSpace c = false := by
    intro c hc
    rcases mem_formatDouble (List.mem_of_mem_head? hc) with hdigit | hother
    · exact isJsonSpace_of_isDigit hdigit
    · have hothers : ∀ c ∈ bytes "+-.einfa", isJsonSpace c = false :=
        List.all_iff_forall_prop.mp (by decide)
      exact hothers c hother
  have hne : formatDouble (.finite q) ≠ [] := by
    intro hnil
    have hread := @strtod_formatDouble q (lt_doubleBound (abs_round6_lt hx)) [] nofun
    rw [hnil] at hread
    cases hread
  have hgap : ∀ c ∈ ([] : Bytes), isJsonSpace c = true := nofun
  cases arrival_take hgap hne hhead hjson length with
  | missing hmissing hnot hmarker =>
    have hread : jsonDouble precision (json.take length) key fallback = fallback := by
      rw [jsonDouble]
      cases hr : afterMarker (json.take length) key with
      | none => rfl
      | some r =>
        rw [List.prefix_nil.mp (hmarker r hr)]
        rfl
    rw [hread]
    simp [hmissing, hnot]
  | part p as hp has hsplit hmissing hnot hmarker =>
    obtain ⟨v, t, hv, hv0, -, hsix, hother⟩ := strtod_cut_formatDouble h0 h100 hsplit hp
    have hread : jsonDouble precision (json.take length) key fallback =
        precision.nearest (.finite v) := by
      rw [jsonDouble, hmarker, Option.bind_some, List.nil_append, hv]
    have hchanged := reread_nearest_ne precision h0 hv0 hsix (hother has)
    rw [hread]
    simp [hchanged, hmissing, hnot]
  | whole a t hsplit hmissing harrived hmarker =>
    have hend : NumberEnd a := by
      intro c hc
      refine hrest c ?_
      rw [hsplit, List.head?_append, Option.mem_def.mp hc]
      rfl
    rw [jsonDouble_eq hx ⟨a, hmarker, hend⟩, reread_reread]
    simp [harrived, hmissing]

/-! ### Texts -/

/-- A text of a document is kept when its closing quote has arrived, or when it is the one the
client goes on with. -/
theorem jsonString_cut {json key v tail : Bytes}
    (h : afterMarker json key = some ([32, 34] ++ (backslashEscape v ++ 34 :: tail)))
    (fallback : Bytes) (length : ℕ) :
    jsonString (json.take length) key fallback = v ↔
      Arrived (json.take length) key (34 :: (backslashEscape v ++ [34])) ∨ fallback = v := by
  have hjson : afterMarker json key =
      some ([32] ++ ((34 :: (backslashEscape v ++ [34])) ++ tail)) := by
    rw [h]
    simp
  have hspace : ∀ c ∈ (34 :: (backslashEscape v ++ [34])).head?, isJsonSpace c = false := by
    rintro c hc
    obtain rfl := Option.some.inj hc
    decide
  cases arrival_take (List.all_eq_true.mp rfl) (List.cons_ne_nil _ _) hspace hjson length with
  | missing hmissing hnot hmarker =>
    have hread : jsonString (json.take length) key fallback = fallback := by
      rw [jsonString]
      cases hr : afterMarker (json.take length) key with
      | none => rfl
      | some r =>
        rcases List.prefix_cons_iff.mp (hmarker r hr) with rfl | ⟨t, rfl, ht⟩
        · rfl
        · rw [List.prefix_nil.mp ht]
          rfl
    rw [hread]
    simp [hnot]
  | part p as hp has hsplit hmissing hnot hmarker =>
    have hread : jsonString (json.take length) key fallback = fallback := by
      obtain ⟨c, u, rfl⟩ := List.exists_cons_of_ne_nil hp
      obtain ⟨rfl, htail : u ++ as = backslashEscape v ++ [34]⟩ := List.cons.inj hsplit
      -- the closing quote is missing
      have hnone : readQuoted u = none := by
        rcases List.append_eq_append_iff.mp htail with ⟨w, hw, -⟩ | ⟨w, hw, hquote⟩
        · exact readQuoted_cut hw.symm
        · obtain ⟨rfl, -⟩ | ⟨-, hnil⟩ := List.append_eq_singleton_iff.mp hquote.symm
          · rw [List.append_nil] at hw
            exact readQuoted_cut ((List.append_nil u).trans hw)
          · exact absurd hnil has
      have hfind : find ([32] ++ 34 :: u) [34] = some 1 := by
        have hapart : Apart [34] [32] := by decide
        exact find_at hapart u
      rw [jsonString, hmarker]
      dsimp only
      rw [hfind]
      dsimp only
      have hdrop : ([32] ++ 34 :: u).drop (1 + 1) = u := rfl
      rw [hdrop, hnone]
    rw [hread]
    simp [hnot]
  | whole a t hsplit hmissing harrived hmarker =>
    have hmarker' : afterMarker (json.take length) key =
        some ([32, 34] ++ (backslashEscape v ++ 34 :: a)) := by
      rw [hmarker]
      simp
    rw [jsonString_eq hmarker']
    simp [harrived]

/-! ### Settings -/

theorem sound_read (json : Bytes) {profile : VideoProfile} (h : profile.Sound) :
    (profile.read json).Sound :=
  ⟨isInt32_jsonInt h.width, isInt32_jsonInt h.height, isInt32_jsonInt h.fps,
    isInt32_jsonInt h.bitrateKbps⟩

theorem sound_read_cut {config : Rail.Config} (h : Stored config) {settings : ImageSettings}
    (hsettings : settings.Sound) (n : ℕ) :
    (settings.read precision ((imagingJson config).take n)).Sound :=
  ⟨isLevel_jsonDouble_cut h.brightness hsettings.brightness (afterMarker_brightness config) n,
    isLevel_jsonDouble_cut h.contrast hsettings.contrast (afterMarker_contrast config) n,
    isLevel_jsonDouble_cut h.colorSaturation hsettings.colorSaturation
      (afterMarker_colorSaturation config) n⟩

theorem notMem_osdJson {config : Rail.Config} (h : 0 ∉ config.osdText) : 0 ∉ osdJson config := by
  have hflag : 0 ∉ (if config.osdEnabled then bytes "true" else bytes "false") := by
    split_ifs <;> decide
  have htext : 0 ∉ Rail.jsonEscape config.osdText := fun hmem =>
    (mem_backslashEscape hmem).elim h (by decide)
  rw [osdJson]
  simp only [List.mem_append, hflag, htext, false_or]
  decide

theorem notMem_read_cut {config : Rail.Config} (h : Stored config) {settings : OsdSettings}
    (hsettings : 0 ∉ settings.text) (n : ℕ) :
    0 ∉ (settings.read ((osdJson config).take n)).text :=
  notMem_jsonString (fun hmem => notMem_osdJson h.osdText.1 (List.mem_of_mem_take hmem)) hsettings

end Afterveda.Onvif
