import Mathlib.Data.Fin.VecNotation
import Whip.Lib.SHA1
import Whip.Net.CSUnauthenticated

/-!
# The hash of the password

`CSHA1` computes SHA-1 on blocks of 64 bytes, with a buffer for what does not fill a block. The
rounds of a block are unrolled over five variables that change their roles, and the words of the
message schedule are computed in place. Lengths are 32-bit numbers, which may wrap around: a read or
a write that is then out of bounds is `none`.
-/

namespace Whip

open SHA1 (Word)

/-- The 64 bytes of `m_buffer`. -/
abbrev HashBuffer := { b : ByteString // b.length = 64 }

structure CSHA1 where
  m_state : Fin 5 → Word
  m_count : Fin 2 → Word
  m_buffer : HashBuffer
  m_digest : ByteString

namespace CSHA1

/-! ### Transform -/

def ROL32 (val32 : Word) (nBits : ℕ) : Word := (val32 <<< nBits) ||| (val32 >>> (32 - nBits))

/-- The index `i & 15`. -/
def and15 (i : ℕ) : Fin 16 := ⟨i &&& 15, Nat.lt_of_le_of_lt Nat.and_le_right (by decide)⟩

/-- A word of the block with its bytes in the other order; only for `i < 16`. -/
def SHABLK0 (l : Fin 16 → Word) (i : ℕ) : Word :=
  (ROL32 (l (and15 i)) 24 &&& 0xFF00FF00#32) ||| (ROL32 (l (and15 i)) 8 &&& 0x00FF00FF#32)

def SHABLK (l : Fin 16 → Word) (i : ℕ) : Word :=
  ROL32 (l (and15 (i + 13)) ^^^ l (and15 (i + 8)) ^^^ l (and15 (i + 2)) ^^^ l (and15 i)) 1

/-- The rounds `_R0` to `_R4`. -/
inductive Round
  | R0 | R1 | R2 | R3 | R4
deriving DecidableEq

namespace Round

def block : Round → (Fin 16 → Word) → ℕ → Word
  | R0 => SHABLK0
  | _ => SHABLK

def mix : Round → Word → Word → Word → Word
  | R0, w, x, y | R1, w, x, y => (w &&& (x ^^^ y)) ^^^ y
  | R2, w, x, y | R4, w, x, y => w ^^^ x ^^^ y
  | R3, w, x, y => ((w ||| x) &&& y) ||| (w &&& x)

def constant : Round → Word
  | R0 | R1 => 0x5A827999#32
  | R2 => 0x6ED9EBA1#32
  | R3 => 0x8F1BBCDC#32
  | R4 => 0xCA62C1D6#32

end Round

/-- A round with the variables it is used with; these have the numbers of the elements of the state
that they are loaded from. -/
structure Call where
  round : Round
  v : Fin 5
  w : Fin 5
  x : Fin 5
  y : Fin 5
  z : Fin 5
  i : ℕ
deriving DecidableEq

/-- The variables `a` to `e` and the words of `m_block`. -/
structure Workspace where
  var : Fin 5 → Word
  l : Fin 16 → Word

/-- `z += mix(w,x,y) + block(i) + constant + ROL32(v,5); w = ROL32(w,30);` -/
def Call.exec (s : Workspace) (k : Call) : Workspace :=
  let word := k.round.block s.l k.i
  let var := Function.update s.var k.z (s.var k.z +
    (k.round.mix (s.var k.w) (s.var k.x) (s.var k.y) + word + k.round.constant +
      ROL32 (s.var k.v) 5))
  ⟨Function.update var k.w (ROL32 (var k.w) 30), Function.update s.l (and15 k.i) word⟩

abbrev a : Fin 5 := 0
abbrev b : Fin 5 := 1
abbrev c : Fin 5 := 2
abbrev d : Fin 5 := 3
abbrev e : Fin 5 := 4

abbrev R0 : Fin 5 → Fin 5 → Fin 5 → Fin 5 → Fin 5 → ℕ → Call := Call.mk .R0
abbrev R1 : Fin 5 → Fin 5 → Fin 5 → Fin 5 → Fin 5 → ℕ → Call := Call.mk .R1
abbrev R2 : Fin 5 → Fin 5 → Fin 5 → Fin 5 → Fin 5 → ℕ → Call := Call.mk .R2
abbrev R3 : Fin 5 → Fin 5 → Fin 5 → Fin 5 → Fin 5 → ℕ → Call := Call.mk .R3
abbrev R4 : Fin 5 → Fin 5 → Fin 5 → Fin 5 → Fin 5 → ℕ → Call := Call.mk .R4

/-- The unrolled loop. -/
def calls : List Call :=
  [R0 a b c d e 0, R0 e a b c d 1, R0 d e a b c 2, R0 c d e a b 3,
    R0 b c d e a 4, R0 a b c d e 5, R0 e a b c d 6, R0 d e a b c 7,
    R0 c d e a b 8, R0 b c d e a 9, R0 a b c d e 10, R0 e a b c d 11,
    R0 d e a b c 12, R0 c d e a b 13, R0 b c d e a 14, R0 a b c d e 15,
    R1 e a b c d 16, R1 d e a b c 17, R1 c d e a b 18, R1 b c d e a 19,
    R2 a b c d e 20, R2 e a b c d 21, R2 d e a b c 22, R2 c d e a b 23,
    R2 b c d e a 24, R2 a b c d e 25, R2 e a b c d 26, R2 d e a b c 27,
    R2 c d e a b 28, R2 b c d e a 29, R2 a b c d e 30, R2 e a b c d 31,
    R2 d e a b c 32, R2 c d e a b 33, R2 b c d e a 34, R2 a b c d e 35,
    R2 e a b c d 36, R2 d e a b c 37, R2 c d e a b 38, R2 b c d e a 39,
    R3 a b c d e 40, R3 e a b c d 41, R3 d e a b c 42, R3 c d e a b 43,
    R3 b c d e a 44, R3 a b c d e 45, R3 e a b c d 46, R3 d e a b c 47,
    R3 c d e a b 48, R3 b c d e a 49, R3 a b c d e 50, R3 e a b c d 51,
    R3 d e a b c 52, R3 c d e a b 53, R3 b c d e a 54, R3 a b c d e 55,
    R3 e a b c d 56, R3 d e a b c 57, R3 c d e a b 58, R3 b c d e a 59,
    R4 a b c d e 60, R4 e a b c d 61, R4 d e a b c 62, R4 c d e a b 63,
    R4 b c d e a 64, R4 a b c d e 65, R4 e a b c d 66, R4 d e a b c 67,
    R4 c d e a b 68, R4 b c d e a 69, R4 a b c d e 70, R4 e a b c d 71,
    R4 d e a b c 72, R4 c d e a b 73, R4 b c d e a 74, R4 a b c d e 75,
    R4 e a b c d 76, R4 d e a b c 77, R4 c d e a b 78, R4 b c d e a 79]

/-- The words of the union after `memcpy(m_block, pBuffer, 64)`, on a little-endian machine. -/
def load (pBuffer : ByteString) (i : Fin 16) : Word :=
  BitVec.ofNat 32 (Bytes.ofBigEndian ((pBuffer.drop (4 * i)).take 4).reverse)

def Transform (pState : Fin 5 → Word) (pBuffer : ByteString) : Fin 5 → Word :=
  let s := calls.foldl Call.exec ⟨pState, load pBuffer⟩
  fun i => pState i + s.var i

/-! ### Update -/

/-- The constructor leaves everything else as it is in memory. -/
def Reset (s : CSHA1) : CSHA1 :=
  { s with
    m_state := ![0x67452301#32, 0xEFCDAB89#32, 0x98BADCFE#32, 0x10325476#32, 0xC3D2E1F0#32]
    m_count := ![0, 0] }

/-- The `n` bytes at `p + off`. -/
def bytesAt (p : ByteString) (off n : ℕ) : Option ByteString :=
  if off + n ≤ p.length then some ((p.drop off).take n) else none

def memcpy (dst : HashBuffer) (off : ℕ) (src : ByteString) : Option HashBuffer :=
  if h : off + src.length ≤ 64 then
    some ⟨dst.1.take off ++ src ++ dst.1.drop (off + src.length), by simp [dst.2]; omega⟩
  else none

/-- The loop over the full blocks of the data; `fuel` bounds its rounds. -/
def transformBlocks (pbData : ByteString) (uLen : Word) :
    ℕ → (Fin 5 → Word) → Word → Option ((Fin 5 → Word) × Word)
  | 0, _, _ => none
  | fuel + 1, state, i =>
    if i + 63#32 < uLen then
      (bytesAt pbData i.toNat 64).bind fun block =>
        transformBlocks pbData uLen fuel (Transform state block) (i + 64#32)
    else some (state, i)

/-- The branch of `Update` that completes a block: the state, the buffer, and what `i` and `j` are
after it. -/
def fillBlocks (s : CSHA1) (pbData : ByteString) (uLen j : Word) :
    Option ((Fin 5 → Word) × HashBuffer × Word × Word) :=
  if j + uLen > 63#32 then do
    let i := 64#32 - j
    let buffer ← memcpy s.m_buffer j.toNat (← bytesAt pbData 0 i.toNat)
    let (state, i) ← transformBlocks pbData uLen (uLen.toNat + 1) (Transform s.m_state buffer) i
    pure (state, buffer, i, 0#32)
  else pure (s.m_state, s.m_buffer, 0#32, j)

/-- The copy at the end of `Update`. -/
def keepRest (buffer : HashBuffer) (pbData : ByteString) (uLen i j : Word) : Option HashBuffer :=
  if uLen - i ≠ 0#32 then do memcpy buffer j.toNat (← bytesAt pbData i.toNat (uLen - i).toNat)
  else pure buffer

def Update (s : CSHA1) (pbData : ByteString) (uLen : Word) : Option CSHA1 := do
  let j := (s.m_count 0 >>> 3) &&& 0x3F#32
  let low := s.m_count 0 + (uLen <<< 3)
  let high := (if low < uLen <<< 3 then s.m_count 1 + 1#32 else s.m_count 1) + (uLen >>> 29)
  let (state, buffer, i, j) ← s.fillBlocks pbData uLen j
  let buffer ← keepRest buffer pbData uLen i j
  pure { s with m_state := state, m_count := ![low, high], m_buffer := buffer }

/-! ### Final -/

def finalcount (s : CSHA1) : ByteString :=
  (List.range 8).map fun i =>
    UInt8.ofNat ((s.m_count (if i ≥ 4 then 0 else 1) >>> ((3 - (i &&& 3)) * 8)) &&& 255#32).toNat

/-- The loop that fills up with zeros; `fuel` bounds its rounds. -/
def updateZeros : ℕ → CSHA1 → Option CSHA1
  | 0, _ => none
  | fuel + 1, s =>
    if s.m_count 0 &&& 504#32 ≠ 448#32 then (s.Update [0] 1#32).bind (updateZeros fuel)
    else some s

def digest (state : Fin 5 → Word) : ByteString :=
  (List.range 20).map fun i =>
    UInt8.ofNat ((state (Fin.ofNat 5 (i >>> 2)) >>> ((3 - (i &&& 3)) * 8)) &&& 0xFF#32).toNat

/-- The end of `Final`, where everything but the digest is wiped. -/
def wiped (m_digest : ByteString) : CSHA1 :=
  let zeros : HashBuffer := ⟨List.replicate 64 0, List.length_replicate⟩
  { m_state := Transform (fun _ => 0#32) zeros
    m_count := fun _ => 0#32
    m_buffer := zeros
    m_digest := m_digest }

def Final (s : CSHA1) : Option CSHA1 := do
  let finalcount := s.finalcount
  let s ← s.Update [0x80] 1#32
  let s ← s.updateZeros 64
  let s ← s.Update finalcount 8#32
  pure (wiped (digest s.m_state))

/-! ### Reports -/

inductive ReportType
  | REPORT_HEX
  | REPORT_DIGIT
  | REPORT_HEX_SHORT
deriving DecidableEq

/-- The character of a hexadecimal digit, in upper case. -/
def upperHexChar (n : ℕ) : UInt8 := if n < 10 then UInt8.ofNat (48 + n) else UInt8.ofNat (55 + n)

/-- The format `%02X`. -/
def hex (x : UInt8) : ByteString := [upperHexChar (x.toNat / 16), upperHexChar (x.toNat % 16)]

/-- The format `%u`. -/
def decimal (x : UInt8) : ByteString := (Nat.toDigits 10 x.toNat).map fun ch => UInt8.ofNat ch.toNat

/-- `ReportHash` into a buffer that is large enough. -/
def ReportHash (s : CSHA1) : ReportType → ByteString
  | .REPORT_HEX => List.intercalate [32] (s.m_digest.map hex)
  | .REPORT_HEX_SHORT => s.m_digest.flatMap hex
  | .REPORT_DIGIT => List.intercalate [32] (s.m_digest.map decimal)

/-- `ReportHashStl`, with `boost::algorithm::to_lower`. -/
def ReportHashStl (s : CSHA1) (rtReportType : ReportType) : ByteString :=
  (s.ReportHash rtReportType).map toLowerChar

/-- `AuthResponseMsg::calculateChallengeResponse`, with the object in uninitialised memory `sha`;
`numeric_cast` throws when the length does not fit. -/
def calculateChallengeResponse (sha : CSHA1) (phrase password : ByteString) : Option ByteString :=
  let correctHash := password ++ phrase
  if correctHash.length < 2 ^ 32 then do
    let sha ← sha.Reset.Update correctHash (BitVec.ofNat 32 correctHash.length)
    let sha ← sha.Final
    pure (sha.ReportHashStl .REPORT_HEX_SHORT)
  else none

end CSHA1

end Whip
