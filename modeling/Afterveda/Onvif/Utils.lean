import Afterveda.Lib.Calendar
import Afterveda.Lib.Sha1

/-!
# Utilities of the ONVIF server

The functions of `core/utils.cpp` that the SOAP services and WS-Discovery call.  The two `int`
accumulators of the base64 functions are 32-bit words that drop what a shift moves out, and `>>` on
them keeps the sign.
-/

namespace Afterveda.Onvif

open CText Calendar
open Sha1 (State)

/-- `contains`. -/
def contains (value needle : Bytes) : Bool := (find value needle).isSome

/-! ### Discovery -/

/-- `xml_escape`. -/
def xmlEscape : Bytes → Bytes
  | [] => []
  | c :: value =>
    (if c = 38 then bytes "&amp;"
    else if c = 60 then bytes "&lt;"
    else if c = 62 then bytes "&gt;"
    else if c = 34 then bytes "&quot;"
    else if c = 39 then bytes "&apos;"
    else [c]) ++ xmlEscape value

/-- A number in `n` hexadecimal digits, with zeros in front. -/
def toHex : ℕ → ℕ → Bytes
  | 0, _ => []
  | n + 1, value =>
    let d := value % 16
    toHex n (value / 16) ++ [if d < 10 then UInt8.ofNat (48 + d) else UInt8.ofNat (87 + d)]

/-- `uuid_from_serial`: a 32-bit hash of the serial number in eight digits. -/
def uuidFromSerial (serial : Bytes) : Bytes :=
  let hash : BitVec 32 :=
    serial.foldl (fun hash c => (hash ^^^ BitVec.ofNat 32 c.toNat) * 16777619) 2166136261
  bytes "00000000-0000-4000-8000-" ++ toHex 8 hash.toNat ++ bytes "0000"

/-! ### base64 -/

/-- `kAlphabet`. -/
def kAlphabet : Bytes := bytes "ABCDEFGHIJKLMNOPQRSTUVWXYZabcdefghijklmnopqrstuvwxyz0123456789+/"

/-- `table`: the value of each byte of the alphabet, -1 for the others. -/
def base64Table : List ℤ :=
  (List.range 64).foldl (fun table i => table.set (kAlphabet.getD i 0).toNat i)
    (List.replicate 256 (-1))

/-- The loop of `base64_decode`. -/
def base64DecodeLoop : Bytes → ℕ → BitVec 32 → Bytes → Bytes
  | [], _, _, out => out
  | c :: value, bits, accumulator, out =>
    -- `break` at the first `=`: what follows the padding is not looked at
    if c = 61 then out
    else if isSpace c then base64DecodeLoop value bits accumulator out
    else
      let decoded := base64Table.getD c.toNat 0
      -- one byte outside the alphabet empties the result
      if decoded < 0 then []
      else
        let accumulator := accumulator <<< 6 ||| BitVec.ofInt 32 decoded
        let bits := bits + 6
        if 8 ≤ bits then
          base64DecodeLoop value (bits - 8) accumulator
            (out ++ [UInt8.ofNat (accumulator.sshiftRight (bits - 8) &&& 0xff).toNat])
        else base64DecodeLoop value bits accumulator out

/-- `base64_decode`. -/
def base64Decode (value : Bytes) : Bytes := base64DecodeLoop value 0 0 []

/-- `while (bits >= 6)` of `base64_encode`. -/
def base64Emit (bits : ℕ) (accumulator : BitVec 32) (out : Bytes) : ℕ × Bytes :=
  if 6 ≤ bits then
    base64Emit (bits - 6) accumulator
      (out ++ [kAlphabet.getD (accumulator.sshiftRight (bits - 6) &&& 0x3f).toNat 0])
  else (bits, out)

/-- `while (out.size() % 4 != 0) out += '='`. -/
def base64Pad (out : Bytes) : Bytes :=
  if out.length % 4 ≠ 0 then base64Pad (out ++ [61]) else out
termination_by (4 - out.length % 4) % 4
decreasing_by
  rw [List.length_append, List.length_singleton]
  omega

/-- The loop of `base64_encode` and what follows it. -/
def base64EncodeLoop : Bytes → ℕ → BitVec 32 → Bytes → Bytes
  | [], bits, accumulator, out =>
    base64Pad (if 0 < bits then
        out ++ [kAlphabet.getD (accumulator <<< (6 - bits) &&& 0x3f).toNat 0]
      else out)
  | byte :: rest, bits, accumulator, out =>
    let accumulator := accumulator <<< 8 ||| BitVec.ofNat 32 byte.toNat
    let (bits, out) := base64Emit (bits + 8) accumulator out
    base64EncodeLoop rest bits accumulator out

/-- `base64_encode`. -/
def base64Encode (octets : Bytes) : Bytes := base64EncodeLoop octets 0 0 []

/-! ### SHA-1 -/

/-- `left_rotate`. -/
def leftRotate (value : BitVec 32) (bits : ℕ) : BitVec 32 :=
  value <<< bits ||| value >>> (32 - bits)

/-- `while ((message.size() % 64) != 56) message.push_back(0)`. -/
def sha1PushZeros (message : Bytes) : Bytes :=
  if message.length % 64 ≠ 56 then sha1PushZeros (message ++ [0]) else message
termination_by (120 - message.length % 64) % 64
decreasing_by
  rw [List.length_append, List.length_singleton]
  omega

/-- `static_cast<uint32_t>(message[j])`. -/
def messageWord (message : Bytes) (j : ℕ) : BitVec 32 := BitVec.ofNat 32 (message.getD j 0).toNat

/-- Word `i` of the chunk. -/
def sha1ChunkWord (message : Bytes) (chunk i : ℕ) : BitVec 32 :=
  let j := chunk + i * 4
  messageWord message j <<< 24 ||| messageWord message (j + 1) <<< 16 |||
    messageWord message (j + 2) <<< 8 ||| messageWord message (j + 3)

/-- Word `i` from the words before it. -/
def sha1NextWord (w : List (BitVec 32)) (i : ℕ) : BitVec 32 :=
  leftRotate (w.getD (i - 3) 0 ^^^ w.getD (i - 8) 0 ^^^ w.getD (i - 14) 0 ^^^ w.getD (i - 16) 0) 1

/-- The eighty words of `w`: the loop over the words of the chunk, then the loop over the others. -/
def sha1Words (message : Bytes) (chunk : ℕ) : List (BitVec 32) :=
  let w := (List.range' 0 16).foldl (fun w i => w.set i (sha1ChunkWord message chunk i))
    (List.replicate 80 0)
  (List.range' 16 64).foldl (fun w i => w.set i (sha1NextWord w i)) w

/-- One turn of the loop over the eighty rounds, on `a`, `b`, `c`, `d` and `e`. -/
def sha1Round (w : List (BitVec 32)) (v : State) (i : ℕ) : State :=
  let (f, k) : BitVec 32 × BitVec 32 :=
    if i < 20 then ((v.b &&& v.c) ||| (~~~v.b &&& v.d), 0x5a827999)
    else if i < 40 then (v.b ^^^ v.c ^^^ v.d, 0x6ed9eba1)
    else if i < 60 then ((v.b &&& v.c) ||| (v.b &&& v.d) ||| (v.c &&& v.d), 0x8f1bbcdc)
    else (v.b ^^^ v.c ^^^ v.d, 0xca62c1d6)
  let temp := leftRotate v.a 5 + f + v.e + k + w.getD i 0
  ⟨temp, v.a, leftRotate v.b 30, v.c, v.d⟩

/-- One turn of the loop over the chunks, on `h0` to `h4`. -/
def sha1Chunk (message : Bytes) (h : State) (chunk : ℕ) : State :=
  let v := (List.range 80).foldl (sha1Round (sha1Words message chunk)) h
  ⟨h.a + v.a, h.b + v.b, h.c + v.c, h.d + v.d, h.e + v.e⟩

/-- A byte of a word: `(word >> shift) & 0xff`. -/
def byteAt {n : ℕ} (word : BitVec n) (shift : ℕ) : UInt8 :=
  UInt8.ofNat (word >>> shift &&& 0xff).toNat

/-- `sha1`. -/
def sha1 (input : Bytes) : Bytes :=
  let bitLen : BitVec 64 := BitVec.ofNat 64 input.length * 8
  let message := sha1PushZeros (input ++ [0x80])
  let message := [7, 6, 5, 4, 3, 2, 1, 0].foldl
    (fun message i => message ++ [byteAt bitLen (i * 8)]) message
  -- the chunks start at 0, 64, .. below the length of the message
  let h := (List.range' 0 ((message.length + 63) / 64) 64).foldl (sha1Chunk message)
    ⟨0x67452301, 0xefcdab89, 0x98badcfe, 0x10325476, 0xc3d2e1f0⟩
  [h.a, h.b, h.c, h.d, h.e].flatMap fun word =>
    [byteAt word 24, byteAt word 16, byteAt word 8, byteAt word 0]

/-! ### Time -/

/-- `utc_timestamp_within` at the time `now`, where `getTime` is
`in >> std::get_time(&tm, "%Y-%m-%dT%H:%M:%SZ")`, with no result when the stream fails. -/
def utcTimestampWithin (getTime : Bytes → Option Tm) (now : ℤ) (value : Bytes)
    (toleranceSeconds : ℤ) : Bool :=
  match getTime value with
  | none => false
  | some tm =>
    let parsed := timegm tm
    if parsed = -1 then false else |now - parsed| ≤ toleranceSeconds

end Afterveda.Onvif
