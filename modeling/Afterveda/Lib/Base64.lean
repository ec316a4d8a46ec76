import Afterveda.Lib.Text
import Mathlib.Data.Option.Basic

/-!
# Base64

The encoding of RFC 4648 (`encode`), and the reading of a text that carries one (`decode`): white
space is left out, the padding ends the text, any other byte outside the alphabet makes it invalid,
and bits that do not fill an octet are dropped.

Main theorem: `decode_of_spaced`, an encoding is read back, whatever white space was put into it.
-/

namespace Base64

open CText

/-- The alphabet of RFC 4648, Table 1. -/
def alphabet : Bytes := bytes "ABCDEFGHIJKLMNOPQRSTUVWXYZabcdefghijklmnopqrstuvwxyz0123456789+/"

/-- The symbol of a sextet. -/
def symbol (v : ℕ) : UInt8 := alphabet.getD v 0

/-- The sextet of a symbol. -/
def sextet (c : UInt8) : Option ℕ := alphabet.idxOf? c

/-- The padding byte. -/
def pad : UInt8 := 61

/-- Octets in groups of three as sextets in groups of four; a last group is filled up with zero
bits. -/
def pack : Bytes → List ℕ
  | a :: b :: c :: rest =>
    a.toNat / 4 :: (a.toNat % 4 * 16 + b.toNat / 16) :: (b.toNat % 16 * 4 + c.toNat / 64) ::
      c.toNat % 64 :: pack rest
  | [a, b] => [a.toNat / 4, a.toNat % 4 * 16 + b.toNat / 16, b.toNat % 16 * 4]
  | [a] => [a.toNat / 4, a.toNat % 4 * 16]
  | [] => []

/-- Sextets in groups of four as octets in groups of three; bits that do not fill an octet are
dropped. -/
def unpack : List ℕ → Bytes
  | a :: b :: c :: d :: rest =>
    UInt8.ofNat (a * 4 + b / 16) :: UInt8.ofNat (b % 16 * 16 + c / 4) ::
      UInt8.ofNat (c % 4 * 64 + d) :: unpack rest
  | [a, b, c] => [UInt8.ofNat (a * 4 + b / 16), UInt8.ofNat (b % 16 * 16 + c / 4)]
  | [a, b] => [UInt8.ofNat (a * 4 + b / 16)]
  | _ => []

/-- The padding after the encoding of so many octets. -/
def padding (length : ℕ) : Bytes := List.replicate ((3 - length % 3) % 3) pad

/-- The RFC 4648 encoding, with padding. -/
def encode (octets : Bytes) : Bytes := (pack octets).map symbol ++ padding octets.length

/-- The symbols of a text: what stands before the padding, without white space. -/
def payload (text : Bytes) : Bytes := (text.takeWhile (· ≠ pad)).filter (!isSpace ·)

/-- The octets a text stands for. -/
def decode (text : Bytes) : Option Bytes := ((payload text).mapM sextet).map unpack

example : encode (bytes "foob") = bytes "Zm9vYg==" := by decide

/-! ### Symbols and sextets -/

theorem symbol_spec : ∀ v < 64,
    sextet (symbol v) = some v ∧ symbol v ≠ pad ∧ isSpace (symbol v) = false := by
  decide

theorem isSpace_pad : isSpace pad = false := by decide

/-- A value below 64 is the sextet of the symbol it indexes. -/
theorem sextet_lt {c : UInt8} {v : ℕ} (h : sextet c = some v) : v < 64 := by
  have hlen : alphabet.length = 64 := by decide
  rw [← hlen]
  rw [sextet, List.idxOf?, List.findIdx?_eq_some_iff_getElem] at h
  exact h.1

theorem mapM_sextet_map_symbol {vs : List ℕ} (h : ∀ v ∈ vs, v < 64) :
    (vs.map symbol).mapM sextet = some vs := by
  induction vs with
  | nil => rfl
  | cons v vs ih =>
    have hv : sextet (symbol v) = some v := (symbol_spec v (h v (List.mem_cons_self ..))).1
    have hvs := ih fun w hw => h w (List.mem_cons_of_mem _ hw)
    rw [List.map_cons, List.mapM_cons, hv, hvs]
    rfl

/-! ### Packing and unpacking -/

theorem pack_lt (octets : Bytes) : ∀ v ∈ pack octets, v < 64 := by
  fun_induction pack octets with
  | case1 a b c rest ih =>
    have ha := a.toNat_lt
    have hb := b.toNat_lt
    have hc := c.toNat_lt
    intro v hv
    simp only [List.mem_cons] at hv
    rcases hv with rfl | rfl | rfl | rfl | hv
    · omega
    · omega
    · omega
    · omega
    · exact ih v hv
  | case2 a b =>
    have ha := a.toNat_lt
    have hb := b.toNat_lt
    intro v hv
    simp only [List.mem_cons, List.not_mem_nil, or_false] at hv
    omega
  | case3 a =>
    have ha := a.toNat_lt
    intro v hv
    simp only [List.mem_cons, List.not_mem_nil, or_false] at hv
    omega
  | case4 =>
    intro v hv
    exact absurd hv List.not_mem_nil

/-- An octet is known from its bits. -/
theorem ofNat_eq {a : UInt8} {n : ℕ} (h : n = a.toNat) : UInt8.ofNat n = a := by
  rw [h, UInt8.ofNat_toNat]

theorem unpack_pack (octets : Bytes) : unpack (pack octets) = octets := by
  fun_induction pack octets with
  | case1 a b c rest ih =>
    have ha := a.toNat_lt
    have hb := b.toNat_lt
    have hc := c.toNat_lt
    rw [unpack, ih, ofNat_eq (a := a) (by omega), ofNat_eq (a := b) (by omega),
      ofNat_eq (a := c) (by omega)]
  | case2 a b =>
    have ha := a.toNat_lt
    have hb := b.toNat_lt
    rw [unpack, ofNat_eq (a := a) (by omega), ofNat_eq (a := b) (by omega)]
  | case3 a =>
    have ha := a.toNat_lt
    rw [unpack, ofNat_eq (a := a) (by omega)]
  | case4 => rfl

/-! ### The round trip -/

/-- White space can be left out before the padding is looked for. -/
theorem payload_eq (text : Bytes) :
    payload text = (text.filter (!isSpace ·)).takeWhile (· ≠ pad) := by
  induction text with
  | nil => rfl
  | cons c text ih =>
    by_cases hpad : c = pad
    · have hspace : isSpace c = false := by rw [hpad]; exact isSpace_pad
      rw [payload, List.takeWhile_cons_of_neg (by simp [hpad]),
        List.filter_cons_of_pos (by simp [hspace]), List.takeWhile_cons_of_neg (by simp [hpad])]
      rfl
    · rw [payload, List.takeWhile_cons_of_pos (by simpa using hpad)]
      cases hspace : isSpace c with
      | true =>
        rw [List.filter_cons_of_neg (by simp [hspace]), List.filter_cons_of_neg (by simp [hspace])]
        exact ih
      | false =>
        rw [List.filter_cons_of_pos (by simp [hspace]), List.filter_cons_of_pos (by simp [hspace]),
          List.takeWhile_cons_of_pos (by simpa using hpad)]
        exact congrArg (c :: ·) ih

theorem takeWhile_encode (octets : Bytes) :
    (encode octets).takeWhile (· ≠ pad) = (pack octets).map symbol := by
  have hsymbols : ∀ c ∈ (pack octets).map symbol, decide (c ≠ pad) = true := by
    intro c hc
    obtain ⟨v, hv, rfl⟩ := List.mem_map.mp hc
    exact decide_eq_true (symbol_spec v (pack_lt octets v hv)).2.1
  have hpadding : (padding octets.length).takeWhile (· ≠ pad) = [] := by
    rw [padding, List.takeWhile_replicate, if_neg (by simp)]
  rw [encode, List.takeWhile_append_of_pos hsymbols, hpadding, List.append_nil]

theorem notMem_encode (octets : Bytes) : 0 ∉ encode octets := by
  intro h
  rcases List.mem_append.mp h with h | h
  · obtain ⟨v, hv, hzero⟩ := List.mem_map.mp h
    have hsymbols : ∀ v < 64, symbol v ≠ 0 := by decide
    exact hsymbols v (pack_lt octets v hv) hzero
  · exact absurd (List.eq_of_mem_replicate h) (by decide)

/-- A text that is an encoding once its white space is left out stands for the octets encoded. -/
theorem decode_of_filter_eq_encode {text octets : Bytes}
    (h : text.filter (!isSpace ·) = encode octets) : decode text = some octets := by
  rw [decode, payload_eq, h, takeWhile_encode, mapM_sextet_map_symbol (pack_lt octets),
    Option.map_some, unpack_pack]

/-- The second text is the first one with white space put in at any places. -/
inductive Spaced : Bytes → Bytes → Prop
  | nil : Spaced [] []
  | keep (c : UInt8) {s t : Bytes} (h : Spaced s t) : Spaced (c :: s) (c :: t)
  | space {c : UInt8} (hc : isSpace c = true) {s t : Bytes} (h : Spaced s t) : Spaced s (c :: t)

/-- The white space can be told from a text that has none. -/
theorem Spaced.filter_eq {s t : Bytes} (h : Spaced s t) (hs : ∀ c ∈ s, isSpace c = false) :
    t.filter (!isSpace ·) = s := by
  induction h with
  | nil => rfl
  | @keep c s t _ ih =>
    have hc : isSpace c = false := hs c (List.mem_cons_self ..)
    rw [List.filter_cons_of_pos (by simp [hc]), ih fun d hd => hs d (List.mem_cons_of_mem _ hd)]
  | space hc _ ih =>
    rw [List.filter_cons_of_neg (by simp [hc])]
    exact ih hs

theorem isSpace_of_mem_encode {octets : Bytes} {c : UInt8} (h : c ∈ encode octets) :
    isSpace c = false := by
  rcases List.mem_append.mp h with h | h
  · obtain ⟨v, hv, rfl⟩ := List.mem_map.mp h
    exact (symbol_spec v (pack_lt octets v hv)).2.2
  · rw [List.eq_of_mem_replicate h]
    exact isSpace_pad

theorem decode_of_spaced {text octets : Bytes} (h : Spaced (encode octets) text) :
    decode text = some octets :=
  decode_of_filter_eq_encode (h.filter_eq fun _ => isSpace_of_mem_encode)

end Base64
