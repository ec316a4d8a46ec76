import Afterveda.Lib.Base64
import Afterveda.Lib.Bits
import Afterveda.Onvif.Utils
import Mathlib.Tactic.IntervalCases

/-!
# The base64 functions compute base64

`base64_decode` and `base64_encode` regroup bits in an accumulator that shifts whole bytes out at
its top.  What they write out depends only on the bits that came in last, so on every input they
agree with the definitions over groups of three octets.

Main theorems: `base64Decode_eq` and `base64Encode_eq`, and with them `base64_roundTrip`.
-/

namespace Afterveda.Onvif

open CText
open Base64 (sextet symbol pad payload pack unpack)

/-! ### The table -/

theorem base64Table_eq : base64Table =
    (List.range 256).map fun c => ((sextet (UInt8.ofNat c)).map Int.ofNat).getD (-1) := by
  decide +kernel

theorem base64Table_getD (c : UInt8) :
    base64Table.getD c.toNat 0 = ((sextet c).map Int.ofNat).getD (-1) := by
  have hc : c.toNat < 256 := c.toNat_lt
  rw [base64Table_eq, List.getD_eq_getElem?_getD, List.getElem?_map, List.getElem?_range hc]
  simp only [Option.map_some, Option.getD_some, UInt8.ofNat_toNat]

/-! ### Decoding -/

/-- The accumulator after one more sextet. -/
def shiftIn (accumulator : BitVec 32) (v : ℕ) : BitVec 32 := accumulator <<< 6 ||| BitVec.ofNat 32 v

theorem shiftIn_toNat (accumulator : BitVec 32) {v : ℕ} (h : v < 64) :
    (shiftIn accumulator v).toNat = (accumulator.toNat * 64 + v) % 2 ^ 32 := by
  have hv : (BitVec.ofNat 32 v).toNat = v := by
    rw [BitVec.toNat_ofNat]
    omega
  rw [shiftIn, Bits.toNat_shiftLeft_or _ _ (by omega) (by rw [hv]; omega), hv]
  norm_num

/-- The last two sextets are the low bits of the accumulator: a byte written out is taken from
them. -/
theorem octet_shiftIn (accumulator : BitVec 32) {u v k n : ℕ} (hu : u < 64) (hv : v < 64)
    (hk : k ≤ 4) (hn : (u * 64 + v) / 2 ^ k % 256 = n) :
    UInt8.ofNat ((shiftIn (shiftIn accumulator u) v).sshiftRight k &&& 0xff).toNat =
      UInt8.ofNat n := by
  have hlow : (shiftIn (shiftIn accumulator u) v).toNat % 4096 = u * 64 + v := by
    rw [shiftIn_toNat _ hv, shiftIn_toNat _ hu]
    omega
  have hmask : ((shiftIn (shiftIn accumulator u) v).sshiftRight k &&& 0xff).toNat =
      (shiftIn (shiftIn accumulator u) v).toNat / 2 ^ k % 2 ^ 8 :=
    Bits.toNat_sshiftRight_and_mask _ (m := 8) (by omega)
  rw [hmask, ← hn]
  congr 1
  interval_cases k <;> omega

/-- The three bytes that four sextets make. -/
theorem octets_shiftIn (accumulator : BitVec 32) {a b : ℕ} (ha : a < 64) (hb : b < 64) :
    let word := shiftIn (shiftIn accumulator a) b
    UInt8.ofNat (word.sshiftRight 4 &&& 0xff).toNat = UInt8.ofNat (a * 4 + b / 16) ∧
      UInt8.ofNat (word.sshiftRight 2 &&& 0xff).toNat = UInt8.ofNat (a % 16 * 16 + b / 4) ∧
      UInt8.ofNat (word.sshiftRight 0 &&& 0xff).toNat = UInt8.ofNat (a % 4 * 64 + b) := by
  refine ⟨?_, ?_, ?_⟩
  · exact octet_shiftIn accumulator ha hb (by omega) (by omega)
  · exact octet_shiftIn accumulator ha hb (by omega) (by omega)
  · exact octet_shiftIn accumulator ha hb (by omega) (by omega)

theorem base64DecodeLoop_nil (bits : ℕ) (accumulator : BitVec 32) (out : Bytes) :
    base64DecodeLoop [] bits accumulator out = out := rfl

theorem base64DecodeLoop_pad (value : Bytes) (bits : ℕ) (accumulator : BitVec 32) (out : Bytes) :
    base64DecodeLoop (pad :: value) bits accumulator out = out := by
  rw [base64DecodeLoop]
  exact if_pos rfl

theorem base64DecodeLoop_space {c : UInt8} (h : isSpace c = true) (value : Bytes) (bits : ℕ)
    (accumulator : BitVec 32) (out : Bytes) :
    base64DecodeLoop (c :: value) bits accumulator out =
      base64DecodeLoop value bits accumulator out := by
  have hpad : c ≠ 61 := by
    rintro rfl
    exact absurd h (by decide)
  rw [base64DecodeLoop, if_neg hpad, if_pos h]

/-- One turn of the loop on any other byte. -/
theorem base64DecodeLoop_cons {c : UInt8} (hpad : c ≠ pad) (hspace : isSpace c = false)
    (value : Bytes) (bits : ℕ) (accumulator : BitVec 32) (out : Bytes) :
    base64DecodeLoop (c :: value) bits accumulator out =
      match sextet c with
      | none => []
      | some v =>
        if 8 ≤ bits + 6 then
          base64DecodeLoop value (bits + 6 - 8) (shiftIn accumulator v)
            (out ++ [UInt8.ofNat
              ((shiftIn accumulator v).sshiftRight (bits + 6 - 8) &&& 0xff).toNat])
        else base64DecodeLoop value (bits + 6) (shiftIn accumulator v) out := by
  have htable := base64Table_getD c
  rw [base64DecodeLoop, if_neg (show ¬ c = 61 from hpad), if_neg (by simp [hspace])]
  cases hc : sextet c with
  | none =>
    rw [hc] at htable
    simp only [htable]
    rfl
  | some v =>
    have hv : base64Table.getD c.toNat 0 = (v : ℤ) := by rw [htable, hc]; rfl
    have hnonneg : ¬ (v : ℤ) < 0 := by omega
    simp only [hv, if_neg hnonneg, BitVec.ofInt_natCast, shiftIn]

theorem base64DecodeLoop_symbol {v : ℕ} (hv : v < 64) (value : Bytes) (bits : ℕ)
    (accumulator : BitVec 32) (out : Bytes) :
    base64DecodeLoop (symbol v :: value) bits accumulator out =
      if 8 ≤ bits + 6 then
        base64DecodeLoop value (bits + 6 - 8) (shiftIn accumulator v)
          (out ++ [UInt8.ofNat
            ((shiftIn accumulator v).sshiftRight (bits + 6 - 8) &&& 0xff).toNat])
      else base64DecodeLoop value (bits + 6) (shiftIn accumulator v) out := by
  obtain ⟨hsextet, hpad, hspace⟩ := Base64.symbol_spec v hv
  rw [base64DecodeLoop_cons hpad hspace, hsextet]

/-- The symbols of a text decide the result: white space is skipped, and the loop ends at the
padding. -/
theorem base64DecodeLoop_payload (value : Bytes) (bits : ℕ) (accumulator : BitVec 32)
    (out : Bytes) :
    base64DecodeLoop value bits accumulator out =
      base64DecodeLoop (payload value) bits accumulator out := by
  induction value generalizing bits accumulator out with
  | nil => rfl
  | cons c value ih =>
    by_cases hpad : c = pad
    · have hnil : payload (c :: value) = [] := by
        rw [payload, List.takeWhile_cons_of_neg (by simp [hpad])]
        rfl
      rw [hnil, hpad, base64DecodeLoop_pad, base64DecodeLoop_nil]
    · have hcons : payload (c :: value) =
          if isSpace c then payload value else c :: payload value := by
        rw [payload, List.takeWhile_cons_of_pos (by simpa using hpad), List.filter_cons]
        cases isSpace c <;> rfl
      rw [hcons]
      cases hspace : isSpace c with
      | true =>
        rw [base64DecodeLoop_space hspace]
        exact ih bits accumulator out
      | false =>
        -- what is left of the loop starts from the same accumulator on both sides
        rw [if_neg (by simp), base64DecodeLoop_cons hpad hspace, base64DecodeLoop_cons hpad hspace]
        simp only [ih]

/-- A byte outside the alphabet makes the result empty. -/
theorem base64DecodeLoop_invalid {value : Bytes} (hpad : ∀ c ∈ value, c ≠ pad)
    (hspace : ∀ c ∈ value, isSpace c = false) (h : value.mapM sextet = none) (bits : ℕ)
    (accumulator : BitVec 32) (out : Bytes) :
    base64DecodeLoop value bits accumulator out = [] := by
  induction value generalizing bits accumulator out with
  | nil => cases h
  | cons c value ih =>
    rw [base64DecodeLoop_cons (hpad c (List.mem_cons_self ..)) (hspace c (List.mem_cons_self ..))]
    cases hc : sextet c with
    | none => rfl
    | some v =>
      have hvalue : value.mapM sextet = none := by
        cases hm : value.mapM sextet with
        | none => rfl
        | some vs =>
          rw [List.mapM_cons, hc, hm] at h
          cases h
      have hrest := ih (fun d hd => hpad d (List.mem_cons_of_mem _ hd))
        (fun d hd => hspace d (List.mem_cons_of_mem _ hd)) hvalue
      show (if _ then _ else _) = []
      rw [hrest, hrest, ite_self]

theorem symbol_of_sextet {c : UInt8} {v : ℕ} (h : sextet c = some v) : symbol v = c := by
  rw [sextet, List.idxOf?, List.findIdx?_eq_some_iff_getElem] at h
  obtain ⟨hlt, hv, -⟩ := h
  rw [symbol, List.getD_eq_getElem?_getD, List.getElem?_eq_getElem hlt]
  simpa using hv

/-- Symbols are decoded four by four; the accumulator keeps only bits that were written out
before. -/
theorem base64DecodeLoop_map_symbol (vs : List ℕ) (hvs : ∀ v ∈ vs, v < 64)
    (accumulator : BitVec 32) (out : Bytes) :
    base64DecodeLoop (vs.map symbol) 0 accumulator out = out ++ unpack vs := by
  fun_induction unpack vs generalizing accumulator out with
  | case1 a b c d rest ih =>
    obtain ⟨ha, hb, hc, hd, hrest⟩ : a < 64 ∧ b < 64 ∧ c < 64 ∧ d < 64 ∧ ∀ v ∈ rest, v < 64 := by
      simpa using hvs
    -- the bytes are complete after the second, the third and the fourth symbol
    have hab := (octets_shiftIn accumulator ha hb).1
    have hbc := (octets_shiftIn (shiftIn accumulator a) hb hc).2.1
    have hcd := (octets_shiftIn (shiftIn (shiftIn accumulator a) b) hc hd).2.2
    simp only [List.map_cons, base64DecodeLoop_symbol, ha, hb, hc, hd, Nat.reduceAdd,
      Nat.reduceLeDiff, Nat.reduceSub, if_true, if_false, hab, hbc, hcd]
    rw [ih hrest]
    simp only [List.append_assoc, List.cons_append, List.nil_append]
  | case2 a b c =>
    obtain ⟨ha, hb, hc⟩ : a < 64 ∧ b < 64 ∧ c < 64 := by simpa using hvs
    have hab := (octets_shiftIn accumulator ha hb).1
    have hbc := (octets_shiftIn (shiftIn accumulator a) hb hc).2.1
    simp only [List.map_cons, List.map_nil, base64DecodeLoop_symbol, ha, hb, hc, Nat.reduceAdd,
      Nat.reduceLeDiff, Nat.reduceSub, if_true, if_false, hab, hbc, base64DecodeLoop_nil]
    simp only [List.append_assoc, List.cons_append, List.nil_append]
  | case3 a b =>
    obtain ⟨ha, hb⟩ : a < 64 ∧ b < 64 := by simpa using hvs
    have hab := (octets_shiftIn accumulator ha hb).1
    simp only [List.map_cons, List.map_nil, base64DecodeLoop_symbol, ha, hb, Nat.reduceAdd,
      Nat.reduceLeDiff, Nat.reduceSub, if_true, if_false, hab, base64DecodeLoop_nil]
  | case4 vs h4 h3 h2 =>
    -- at most one sextet: no byte is complete
    match vs with
    | [] => rw [List.map_nil, base64DecodeLoop_nil, List.append_nil]
    | [a] =>
      have ha : a < 64 := hvs a (List.mem_singleton_self a)
      simp only [List.map_cons, List.map_nil, base64DecodeLoop_symbol, ha, Nat.reduceAdd,
        Nat.reduceLeDiff, if_false, base64DecodeLoop_nil, List.append_nil]
    | [a, b] => exact absurd rfl (h2 a b)
    | [a, b, c] => exact absurd rfl (h3 a b c)
    | a :: b :: c :: d :: rest => exact absurd rfl (h4 a b c d rest)

theorem of_mapM_sextet {value : Bytes} {vs : List ℕ} (h : value.mapM sextet = some vs) :
    value = vs.map symbol ∧ ∀ v ∈ vs, v < 64 := by
  induction value generalizing vs with
  | nil =>
    cases h
    exact ⟨rfl, fun v hv => absurd hv List.not_mem_nil⟩
  | cons c value ih =>
    rw [List.mapM_cons] at h
    obtain ⟨v, hv, h⟩ := Option.bind_eq_some_iff.mp h
    obtain ⟨vs, hvs, h⟩ := Option.bind_eq_some_iff.mp h
    cases h
    obtain ⟨hmap, hlt⟩ := ih hvs
    constructor
    · rw [List.map_cons, symbol_of_sextet hv, ← hmap]
    · intro w hw
      rcases List.mem_cons.mp hw with rfl | hw
      · exact Base64.sextet_lt hv
      · exact hlt w hw

/-- The decoder computes the octets a text stands for, and none for an invalid text. -/
theorem base64Decode_eq (value : Bytes) :
    base64Decode value = (Base64.decode value).getD [] := by
  rw [base64Decode, base64DecodeLoop_payload, Base64.decode]
  have hpad : ∀ c ∈ payload value, c ≠ pad := by
    intro c hc
    rw [payload] at hc
    have hne := List.mem_takeWhile_imp (List.mem_filter.mp hc).1
    exact of_decide_eq_true hne
  have hspace : ∀ c ∈ payload value, isSpace c = false := by
    intro c hc
    rw [payload] at hc
    simpa using (List.mem_filter.mp hc).2
  cases h : (payload value).mapM sextet with
  | none =>
    rw [base64DecodeLoop_invalid hpad hspace h]
    rfl
  | some vs =>
    obtain ⟨hmap, hlt⟩ := of_mapM_sextet h
    rw [hmap, base64DecodeLoop_map_symbol vs hlt]
    rfl

/-! ### Encoding -/

/-- The accumulator after one more octet. -/
def shiftInOctet (accumulator : BitVec 32) (byte : UInt8) : BitVec 32 :=
  accumulator <<< 8 ||| BitVec.ofNat 32 byte.toNat

theorem shiftInOctet_toNat (accumulator : BitVec 32) (byte : UInt8) :
    (shiftInOctet accumulator byte).toNat = (accumulator.toNat * 256 + byte.toNat) % 2 ^ 32 := by
  have hlt : byte.toNat < 256 := byte.toNat_lt
  have hbyte : (BitVec.ofNat 32 byte.toNat).toNat = byte.toNat := by
    rw [BitVec.toNat_ofNat]
    omega
  rw [shiftInOctet, Bits.toNat_shiftLeft_or _ _ (by omega) (by rw [hbyte]; omega), hbyte]
  norm_num

/-- The symbol written out with `k` bits left over. -/
def symbolAt (accumulator : BitVec 32) (k : ℕ) : UInt8 :=
  kAlphabet.getD (accumulator.sshiftRight k &&& 0x3f).toNat 0

theorem symbolAt_eq (accumulator : BitVec 32) {k : ℕ} (hk : k ≤ 6) :
    symbolAt accumulator k = symbol (accumulator.toNat / 2 ^ k % 64) := by
  have hmask : (accumulator.sshiftRight k &&& 0x3f).toNat = accumulator.toNat / 2 ^ k % 2 ^ 6 :=
    Bits.toNat_sshiftRight_and_mask _ (m := 6) (by omega)
  rw [symbolAt, hmask]
  rfl

theorem base64Emit_add (bits : ℕ) (accumulator : BitVec 32) (out : Bytes) :
    base64Emit (bits + 6) accumulator out =
      base64Emit bits accumulator (out ++ [symbolAt accumulator bits]) := by
  rw [base64Emit, if_pos (by omega), Nat.add_sub_cancel]
  rfl

theorem base64Emit_of_lt {bits : ℕ} (h : bits < 6) (accumulator : BitVec 32) (out : Bytes) :
    base64Emit bits accumulator out = (bits, out) := by
  rw [base64Emit, if_neg (by omega)]

theorem base64Pad_eq (out : Bytes) :
    base64Pad out = out ++ List.replicate ((4 - out.length % 4) % 4) pad := by
  fun_induction base64Pad out with
  | case1 out h ih =>
    rw [ih, List.append_assoc, List.length_append, List.length_singleton]
    congr 1
    have hcount : (4 - out.length % 4) % 4 = (4 - (out.length + 1) % 4) % 4 + 1 := by omega
    rw [hcount, List.replicate_succ]
    rfl
  | case2 out h =>
    have hcount : (4 - out.length % 4) % 4 = 0 := by omega
    rw [hcount, List.replicate_zero, List.append_nil]

/-- The last symbol, filled up with zero bits. -/
theorem lastSymbol_eq (accumulator : BitVec 32) {k : ℕ} (hk : k ≤ 6) :
    kAlphabet.getD (accumulator <<< k &&& 0x3f).toNat 0 =
      symbol (accumulator.toNat * 2 ^ k % 64) := by
  have hmask : (accumulator <<< k &&& 0x3f).toNat = (accumulator <<< k).toNat % 2 ^ 6 :=
    Bits.toNat_and_mask _ (m := 6) (by omega)
  have hmod : (accumulator <<< k).toNat % 2 ^ 6 = accumulator.toNat * 2 ^ k % 64 := by
    rw [BitVec.toNat_shiftLeft, Nat.shiftLeft_eq]
    interval_cases k <;> omega
  rw [hmask, hmod]
  rfl

theorem base64EncodeLoop_cons {byte : UInt8} {rest out out' : Bytes} {bits bits' : ℕ}
    {accumulator : BitVec 32}
    (h : base64Emit (bits + 8) (shiftInOctet accumulator byte) out = (bits', out')) :
    base64EncodeLoop (byte :: rest) bits accumulator out =
      base64EncodeLoop rest bits' (shiftInOctet accumulator byte) out' := by
  rw [base64EncodeLoop]
  show base64EncodeLoop rest (base64Emit (bits + 8) (shiftInOctet accumulator byte) out).1
    (shiftInOctet accumulator byte)
    (base64Emit (bits + 8) (shiftInOctet accumulator byte) out).2 = _
  rw [h]

/-! The symbols one turn writes out, by the number of bits left over from the turns before. -/

theorem base64Emit_eight (accumulator : BitVec 32) (out : Bytes) :
    base64Emit (0 + 8) accumulator out = (2, out ++ [symbolAt accumulator 2]) :=
  (base64Emit_add 2 accumulator out).trans (base64Emit_of_lt (by omega) _ _)

theorem base64Emit_ten (accumulator : BitVec 32) (out : Bytes) :
    base64Emit (2 + 8) accumulator out = (4, out ++ [symbolAt accumulator 4]) :=
  (base64Emit_add 4 accumulator out).trans (base64Emit_of_lt (by omega) _ _)

theorem base64Emit_twelve (accumulator : BitVec 32) (out : Bytes) :
    base64Emit (4 + 8) accumulator out =
      (0, out ++ [symbolAt accumulator 6] ++ [symbolAt accumulator 0]) :=
  (base64Emit_add 6 accumulator out).trans
    ((base64Emit_add 0 accumulator _).trans (base64Emit_of_lt (by omega) _ _))

/-! The symbols of a group of octets. -/

theorem symbolAt_first (accumulator : BitVec 32) (a : UInt8) :
    symbolAt (shiftInOctet accumulator a) 2 = symbol (a.toNat / 4) := by
  have ha := a.toNat_lt
  rw [symbolAt_eq _ (by omega), shiftInOctet_toNat]
  congr 1
  omega

theorem symbolAt_second (accumulator : BitVec 32) (a b : UInt8) :
    symbolAt (shiftInOctet (shiftInOctet accumulator a) b) 4 =
      symbol (a.toNat % 4 * 16 + b.toNat / 16) := by
  have ha := a.toNat_lt
  have hb := b.toNat_lt
  rw [symbolAt_eq _ (by omega), shiftInOctet_toNat, shiftInOctet_toNat]
  congr 1
  omega

theorem symbolAt_third (accumulator : BitVec 32) (b c : UInt8) :
    symbolAt (shiftInOctet (shiftInOctet accumulator b) c) 6 =
      symbol (b.toNat % 16 * 4 + c.toNat / 64) := by
  have hb := b.toNat_lt
  have hc := c.toNat_lt
  rw [symbolAt_eq _ (by omega), shiftInOctet_toNat, shiftInOctet_toNat]
  congr 1
  omega

theorem symbolAt_fourth (accumulator : BitVec 32) (c : UInt8) :
    symbolAt (shiftInOctet accumulator c) 0 = symbol (c.toNat % 64) := by
  have hc := c.toNat_lt
  rw [symbolAt_eq _ (by omega), shiftInOctet_toNat]
  congr 1
  omega

/-- Octets are encoded three by three; the accumulator keeps only bits that were written out
before. -/
theorem base64EncodeLoop_eq (octets : Bytes) (accumulator : BitVec 32) (out : Bytes)
    (hout : out.length % 4 = 0) :
    base64EncodeLoop octets 0 accumulator out = out ++ Base64.encode octets := by
  unfold Base64.encode
  fun_induction pack octets generalizing accumulator out with
  | case1 a b c rest ih =>
    -- three octets: four symbols, and no bits are left
    have hpadding : Base64.padding (a :: b :: c :: rest).length = Base64.padding rest.length := by
      unfold Base64.padding
      congr 2
      simp only [List.length_cons]
      omega
    rw [base64EncodeLoop_cons (base64Emit_eight _ _), base64EncodeLoop_cons (base64Emit_ten _ _),
      base64EncodeLoop_cons (base64Emit_twelve _ _), symbolAt_first, symbolAt_second,
      symbolAt_third, symbolAt_fourth, ih, hpadding]
    · simp only [List.map_cons, List.append_assoc, List.cons_append, List.nil_append]
    · simp only [List.length_append, List.length_singleton]
      omega
  | case2 a b =>
    -- two octets at the end: four bits are left for the third symbol
    have hb := b.toNat_lt
    have hlast : (shiftInOctet (shiftInOctet accumulator a) b).toNat * 2 ^ 2 % 64 =
        b.toNat % 16 * 4 := by
      rw [shiftInOctet_toNat]
      omega
    rw [base64EncodeLoop_cons (base64Emit_eight _ _), base64EncodeLoop_cons (base64Emit_ten _ _),
      symbolAt_first, symbolAt_second, base64EncodeLoop, if_pos (by omega),
      lastSymbol_eq _ (by omega), hlast, base64Pad_eq]
    have hlength : (4 - (out ++ [symbol (a.toNat / 4)] ++
        [symbol (a.toNat % 4 * 16 + b.toNat / 16)] ++ [symbol (b.toNat % 16 * 4)]).length % 4) % 4
          = 1 := by
      simp only [List.length_append, List.length_singleton]
      omega
    rw [hlength]
    simp only [List.map_cons, List.map_nil, List.append_assoc, List.cons_append, List.nil_append]
    rfl
  | case3 a =>
    -- one octet at the end: two bits are left for the second symbol
    have ha := a.toNat_lt
    have hlast : (shiftInOctet accumulator a).toNat * 2 ^ 4 % 64 = a.toNat % 4 * 16 := by
      rw [shiftInOctet_toNat]
      omega
    rw [base64EncodeLoop_cons (base64Emit_eight _ _), symbolAt_first, base64EncodeLoop,
      if_pos (by omega), lastSymbol_eq _ (by omega), hlast, base64Pad_eq]
    have hlength : (4 - (out ++ [symbol (a.toNat / 4)] ++ [symbol (a.toNat % 4 * 16)]).length % 4)
        % 4 = 2 := by
      simp only [List.length_append, List.length_singleton]
      omega
    rw [hlength]
    simp only [List.map_cons, List.map_nil, List.append_assoc, List.cons_append, List.nil_append]
    rfl
  | case4 =>
    rw [base64EncodeLoop, if_neg (by omega), base64Pad_eq, hout]
    rfl

/-- The encoder computes the encoding. -/
theorem base64Encode_eq (octets : Bytes) : base64Encode octets = Base64.encode octets :=
  base64EncodeLoop_eq octets 0 [] rfl

/-- **Base64**: the encoder computes the encoding of RFC 4648, and the decoder reads it back,
whatever white space was put into it. -/
theorem base64_roundTrip (octets : Bytes) :
    base64Encode octets = Base64.encode octets ∧
      ∀ text, Base64.Spaced (base64Encode octets) text → base64Decode text = octets := by
  refine ⟨base64Encode_eq octets, fun text htext => ?_⟩
  rw [base64Encode_eq] at htext
  rw [base64Decode_eq, Base64.decode_of_spaced htext, Option.getD_some]

/-- An encoding with a space and a line end in it. -/
theorem base64_roundTrip_foob : base64Decode (bytes "Zm9v Yg==\n") = bytes "foob" := by
  have hencode : base64Encode (bytes "foob") = bytes "Zm9vYg==" := by
    rw [base64Encode_eq]
    decide
  refine (base64_roundTrip (bytes "foob")).2 _ ?_
  rw [hencode]
  exact .keep _ <| .keep _ <| .keep _ <| .keep _ <| .space rfl <| .keep _ <| .keep _ <| .keep _ <|
    .keep _ <| .space rfl .nil

end Afterveda.Onvif
