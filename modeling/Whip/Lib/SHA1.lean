import Mathlib.Data.List.Basic
import Mathlib.Data.List.TakeDrop
import Mathlib.Tactic.IntervalCases
import Whip.Lib.Bytes

/-!
# SHA-1

`BlockHash.absorb` takes a message block by block and leaves what does not fill a block, and the
rules say what is absorbed of a message that comes in parts.

SHA-1 is its instance with the compression function of FIPS 180-1, on words of 32 bits: the message
schedule of 80 words, one round for each of them, and the padding with the length of the message.
-/

/-! ### Hashing by blocks -/

namespace BlockHash

variable {σ α : Type*} (k : ℕ) (f : σ → List α → σ)

/-- The first `n` blocks of `k` elements. -/
def blocks : ℕ → σ → List α → σ
  | 0, s, _ => s
  | n + 1, s, m => blocks n (f s (m.take k)) (m.drop k)

/-- All the full blocks. -/
def absorb (s : σ) (m : List α) : σ := blocks k f (m.length / k) s m

/-- What does not fill a block. -/
def rest (m : List α) : List α := m.drop (m.length / k * k)

variable {k f}

lemma length_rest (m : List α) : (rest k m).length = m.length % k := by
  rw [rest, List.length_drop, Nat.mod_eq_sub_div_mul]

lemma rest_of_lt {m : List α} (h : m.length < k) : rest k m = m := by
  rw [rest, Nat.div_eq_of_lt h, Nat.zero_mul, List.drop_zero]

lemma absorb_of_lt {m : List α} (h : m.length < k) (s : σ) : absorb k f s m = s := by
  rw [absorb, Nat.div_eq_of_lt h, blocks]

lemma length_block_div {b : List α} (hk : 0 < k) (hb : b.length = k) (m : List α) :
    (b ++ m).length / k = m.length / k + 1 := by
  rw [List.length_append, hb, Nat.add_comm, Nat.add_div_right _ hk]

lemma absorb_block {b : List α} (hk : 0 < k) (hb : b.length = k) (s : σ) (m : List α) :
    absorb k f s (b ++ m) = absorb k f (f s b) m := by
  rw [absorb, length_block_div hk hb, blocks, List.take_left' hb, List.drop_left' hb, absorb]

lemma rest_block {b : List α} (hk : 0 < k) (hb : b.length = k) (m : List α) :
    rest k (b ++ m) = rest k m := by
  rw [rest, length_block_div hk hb, Nat.succ_mul, Nat.add_comm, ← List.drop_drop,
    List.drop_left' hb, rest]

/-- A message that comes in two parts. -/
lemma absorb_append (hk : 0 < k) (s : σ) (m n : List α) :
    absorb k f s (m ++ n) = absorb k f (absorb k f s m) (rest k m ++ n) ∧
      rest k (m ++ n) = rest k (rest k m ++ n) := by
  induction hlen : m.length using Nat.strong_induction_on generalizing s m with
  | _ len ih =>
    by_cases hlt : m.length < k
    · rw [absorb_of_lt hlt, rest_of_lt hlt]
      exact ⟨rfl, rfl⟩
    · have hb : (m.take k).length = k := List.length_take_of_le (by omega)
      have hdrop : (m.drop k).length < len := by
        rw [List.length_drop]
        omega
      obtain ⟨habsorb, hrest⟩ := ih _ hdrop (f s (m.take k)) (m.drop k) rfl
      rw [← List.take_append_drop k m, List.append_assoc, absorb_block hk hb, rest_block hk hb,
        absorb_block hk hb, rest_block hk hb]
      exact ⟨habsorb, hrest⟩

end BlockHash

namespace SHA1

abbrev Word := BitVec 32

/-! ### The compression function -/

/-- The word that the four bytes at `4 * t` stand for. -/
def word (block : List UInt8) (t : ℕ) : Word :=
  BitVec.ofNat 32 (Bytes.ofBigEndian ((block.drop (4 * t)).take 4))

/-- The message schedule. -/
def schedule (block : List UInt8) (t : ℕ) : Word :=
  if t < 16 then word block t
  else (schedule block (t - 3) ^^^ schedule block (t - 8) ^^^ schedule block (t - 14) ^^^
    schedule block (t - 16)).rotateLeft 1
termination_by t
decreasing_by all_goals omega

lemma schedule_of_lt (block : List UInt8) {t : ℕ} (h : t < 16) :
    schedule block t = word block t := by
  rw [schedule, if_pos h]

lemma schedule_add (block : List UInt8) (t : ℕ) :
    schedule block (t + 16) = (schedule block (t + 13) ^^^ schedule block (t + 8) ^^^
      schedule block (t + 2) ^^^ schedule block t).rotateLeft 1 := by
  rw [schedule, if_neg (by omega)]
  rfl

def choose (b c d : Word) : Word := (b &&& c) ||| (~~~b &&& d)

def parity (b c d : Word) : Word := b ^^^ c ^^^ d

def majority (b c d : Word) : Word := (b &&& c) ||| (b &&& d) ||| (c &&& d)

/-- The function of round `t` and its constant. -/
def mix (t : ℕ) : (Word → Word → Word → Word) × Word :=
  if t < 20 then (choose, 0x5A827999#32)
  else if t < 40 then (parity, 0x6ED9EBA1#32)
  else if t < 60 then (majority, 0x8F1BBCDC#32)
  else (parity, 0xCA62C1D6#32)

structure State where
  a : Word
  b : Word
  c : Word
  d : Word
  e : Word
deriving DecidableEq

def initial : State := ⟨0x67452301#32, 0xEFCDAB89#32, 0x98BADCFE#32, 0x10325476#32, 0xC3D2E1F0#32⟩

/-- Round `t` with the word `w` of the schedule. -/
def round (t : ℕ) (w : Word) (s : State) : State :=
  ⟨s.a.rotateLeft 5 + (mix t).1 s.b s.c s.d + s.e + w + (mix t).2, s.a, s.b.rotateLeft 30, s.c,
    s.d⟩

/-- The first `t` rounds. -/
def rounds (block : List UInt8) : ℕ → State → State
  | 0, s => s
  | t + 1, s => round t (schedule block t) (rounds block t s)

def compress (s : State) (block : List UInt8) : State :=
  let r := rounds block 80 s
  ⟨s.a + r.a, s.b + r.b, s.c + r.c, s.d + r.d, s.e + r.e⟩

/-! ### Messages -/

/-- The bytes of the state. -/
def State.bytes (s : State) : List UInt8 :=
  [s.a, s.b, s.c, s.d, s.e].flatMap fun w => Bytes.toBigEndian w.toNat

/-- The length of the message in bits, as a number of 64 bits. -/
def lengthField (n : ℕ) : List UInt8 :=
  Bytes.toBigEndian (8 * n / 2 ^ 32) ++ Bytes.toBigEndian (8 * n)

/-- One bit, and zeros until the length fills up a block. -/
def pad (m : List UInt8) : List UInt8 :=
  m ++ [0x80] ++ List.replicate ((119 - m.length % 64) % 64) 0 ++ lengthField m.length

def absorb : State → List UInt8 → State := BlockHash.absorb 64 compress

/-- The SHA-1 of a message. -/
def hash (m : List UInt8) : List UInt8 := (absorb initial (pad m)).bytes

lemma length_bytes (s : State) : s.bytes.length = 20 := rfl

lemma length_hash (m : List UInt8) : (hash m).length = 20 := length_bytes _

end SHA1
