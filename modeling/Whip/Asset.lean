import Mathlib.Data.List.Basic
import Mathlib.Data.List.TakeWhile
import Mathlib.Data.Finset.Basic
import Mathlib.Tactic.Common
import Mathlib.Tactic.Ring

/-!
# Assets and their identifiers

An asset is one byte array that carries its own metadata: the first 32 bytes are its UUID in text
form, byte 32 is its type and byte 33 its local flag (`Asset.cpp`). The text form is checked by
`Validator::IsValidUUID`, and the in-memory index keys on the 16-byte `kashmir::uuid_t` that the
stream parser makes of it.
-/

namespace Whip

/-- A `std::string` or a `whip::byte_array`. -/
abbrev ByteString := List UInt8

/-! ### Validator -/

/-- `'0'..'9'` or `'a'..'f'`. -/
def isHexChar (ch : UInt8) : Bool := (48 ≤ ch && ch ≤ 57) || (97 ≤ ch && ch ≤ 102)

def Validator.UUID_LEN : ℕ := 32

def Validator.isValidUUID (uuid : ByteString) : Bool :=
  uuid.length == Validator.UUID_LEN && uuid.all isHexChar

/-- An identifier the validator accepts. -/
structure AssetId where
  text : ByteString
  valid : Validator.isValidUUID text = true
deriving DecidableEq

lemma AssetId.length_text (u : AssetId) : u.text.length = 32 := by
  have h := u.valid
  simp only [Validator.isValidUUID, Validator.UUID_LEN, Bool.and_eq_true, beq_iff_eq] at h
  exact h.1

lemma AssetId.isHexChar_of_mem (u : AssetId) {ch : UInt8} (h : ch ∈ u.text) :
    isHexChar ch = true := by
  have hv := u.valid
  simp only [Validator.isValidUUID, Bool.and_eq_true, List.all_eq_true] at hv
  exact hv.2 ch h

@[ext] lemma AssetId.ext {u v : AssetId} (h : u.text = v.text) : u = v := by
  cases u; cases v; simp_all

/-! ### The 16-byte UUID -/

/-- `kashmir::uuid_t`: sixteen octets. -/
structure Uuid where
  data : List UInt8
  size_eq : data.length = 16
deriving DecidableEq

/-- What constructing a `uuid_t` from a C string does. -/
inductive UuidResult
  | value (u : Uuid)
  | uninitialized      -- nothing but white space: the stream is not good and nothing is read
  | thrown             -- `failed to extract valid uuid from stream.`
deriving DecidableEq

/-- The characters `operator>>` skips. -/
def isSpaceChar (ch : UInt8) : Bool := ch == 32 || (9 ≤ ch && ch ≤ 13)

/-- `std::ctype::tolower` on the letters. -/
def toLowerChar (ch : UInt8) : UInt8 := if 65 ≤ ch && ch ≤ 90 then ch + 32 else ch

/-- The place of a character in `0123456789abcdef`. -/
def hexDigit (ch : UInt8) : Option UInt8 :=
  if 48 ≤ ch && ch ≤ 57 then some (ch - 48)
  else if 97 ≤ ch && ch ≤ 102 then some (ch - 87)
  else none

/-- The character of a hexadecimal digit. -/
def Uuid.hexChar (n : ℕ) : UInt8 := if n < 10 then UInt8.ofNat (48 + n) else UInt8.ofNat (87 + n)

/-- The loop of `uuid_t::get`: `n` octets of two digits each. Only the first digit of an octet is
lowered before it is looked up. -/
def Uuid.getOctets : ℕ → ByteString → Option (List UInt8)
  | 0, _ => some []
  | n + 1, c :: d :: rest => do
    let hi ← hexDigit (toLowerChar c)
    let lo ← hexDigit d
    let tail ← Uuid.getOctets n rest
    return (hi <<< 4 ||| lo) :: tail
  | _ + 1, _ => none

lemma Uuid.length_getOctets {n : ℕ} {s : ByteString} {l : List UInt8}
    (h : Uuid.getOctets n s = some l) : l.length = n := by
  induction n generalizing s l with
  | zero => simp [Uuid.getOctets] at h; simp [← h]
  | succ n ih =>
    match s, h with
    | c :: d :: rest, h =>
      simp only [Uuid.getOctets, Option.bind_eq_bind, Option.bind_eq_some_iff,
        Option.pure_def, Option.some.injEq] at h
      obtain ⟨hi, -, lo, -, tail, ht, rfl⟩ := h
      simp [ih ht]

/-- `uuid_t(const char*)`: the text ends at the first NUL, white space is skipped, and what follows
the sixteenth octet is not looked at. -/
def Uuid.parse (s : ByteString) : UuidResult :=
  match (s.takeWhile (· ≠ 0)).filter (fun ch => !isSpaceChar ch) with
  | []         => .uninitialized
  | c :: chars =>
    match h : Uuid.getOctets 16 (c :: chars) with
    | some l => .value ⟨l, Uuid.length_getOctets h⟩
    | none   => .thrown

/-! ### Parsing on valid identifiers -/

lemma isHexChar_iff {ch : UInt8} :
    isHexChar ch = true ↔ (48 ≤ ch.toNat ∧ ch.toNat ≤ 57) ∨ (97 ≤ ch.toNat ∧ ch.toNat ≤ 102) := by
  simp [isHexChar, UInt8.le_iff_toNat_le]

lemma hexDigit_eq_some_iff {ch d : UInt8} :
    hexDigit ch = some d ↔
      (48 ≤ ch.toNat ∧ ch.toNat ≤ 57 ∧ d.toNat + 48 = ch.toNat) ∨
      (97 ≤ ch.toNat ∧ ch.toNat ≤ 102 ∧ d.toNat + 87 = ch.toNat) := by
  have hch := ch.toNat_lt
  have hd := d.toNat_lt
  simp only [hexDigit, Bool.and_eq_true, decide_eq_true_eq, UInt8.le_iff_toNat_le,
    UInt8.reduceToNat]
  split_ifs with h₁ h₂
  · simp only [Option.some.injEq, ← UInt8.toNat_inj, UInt8.toNat_sub, UInt8.reduceToNat]
    omega
  · simp only [Option.some.injEq, ← UInt8.toNat_inj, UInt8.toNat_sub, UInt8.reduceToNat]
    omega
  · simp only [false_iff]
    omega

lemma hexDigit_of_isHexChar {ch : UInt8} (h : isHexChar ch = true) :
    ∃ d, hexDigit ch = some d := by
  rcases isHexChar_iff.mp h with h | h
  · refine ⟨ch - 48, hexDigit_eq_some_iff.mpr (Or.inl ⟨h.1, h.2, ?_⟩)⟩
    simp only [UInt8.toNat_sub, UInt8.reduceToNat]
    omega
  · refine ⟨ch - 87, hexDigit_eq_some_iff.mpr (Or.inr ⟨h.1, h.2, ?_⟩)⟩
    simp only [UInt8.toNat_sub, UInt8.reduceToNat]
    omega

lemma toLowerChar_of_isHexChar {ch : UInt8} (h : isHexChar ch = true) : toLowerChar ch = ch := by
  have := isHexChar_iff.mp h
  simp only [toLowerChar, Bool.and_eq_true, decide_eq_true_eq, UInt8.le_iff_toNat_le,
    UInt8.reduceToNat, ite_eq_right_iff]
  omega

lemma hexDigit_injective {c c' d : UInt8} (h : hexDigit c = some d) (h' : hexDigit c' = some d) :
    c = c' := by
  rw [hexDigit_eq_some_iff] at h h'
  apply UInt8.toNat_inj.mp
  omega

lemma hexDigit_lt {c d : UInt8} (h : hexDigit c = some d) : d.toNat < 16 := by
  rw [hexDigit_eq_some_iff] at h
  omega

lemma Uuid.hexChar_of_hexDigit {c d : UInt8} (h : hexDigit c = some d) :
    Uuid.hexChar d.toNat = c := by
  rw [hexDigit_eq_some_iff] at h
  have hc := c.toNat_lt
  apply UInt8.toNat_inj.mp
  unfold hexChar
  split_ifs
  · rw [UInt8.toNat_ofNat_of_lt' (by unfold UInt8.size; omega)]
    omega
  · rw [UInt8.toNat_ofNat_of_lt' (by unfold UInt8.size; omega)]
    omega

lemma hexDigit_hexChar : ∀ {n : ℕ}, n < 16 → hexDigit (Uuid.hexChar n) = some (UInt8.ofNat n) := by
  decide

lemma isHexChar_hexChar : ∀ {n : ℕ}, n < 16 → isHexChar (Uuid.hexChar n) = true := by decide

lemma Uuid.hexChar_injective {m n : ℕ} (hm : m < 16) (hn : n < 16)
    (h : Uuid.hexChar m = Uuid.hexChar n) : m = n := by
  have hdigits := hexDigit_hexChar hm
  rw [h, hexDigit_hexChar hn, Option.some.injEq] at hdigits
  have hval := congrArg UInt8.toNat hdigits
  simp only [UInt8.toNat_ofNat'] at hval
  omega

lemma Uuid.exists_hexChar {ch : UInt8} (h : isHexChar ch = true) :
    ∃ n < 16, Uuid.hexChar n = ch := by
  obtain ⟨d, hd⟩ := hexDigit_of_isHexChar h
  exact ⟨d.toNat, hexDigit_lt hd, Uuid.hexChar_of_hexDigit hd⟩

lemma toNat_octet {hi lo : UInt8} (h₁ : hi.toNat < 16) (h₂ : lo.toNat < 16) :
    (hi <<< 4 ||| lo).toNat = hi.toNat * 16 + lo.toNat := by
  rw [UInt8.toNat_or, UInt8.toNat_shiftLeft]
  have : hi.toNat <<< 4 % 256 = hi.toNat <<< 4 := by
    rw [Nat.shiftLeft_eq]; omega
  simp only [UInt8.reduceToNat, Nat.reduceMod, Nat.reducePow]
  rw [this, ← Nat.shiftLeft_add_eq_or_of_lt (by omega), Nat.shiftLeft_eq]

/-- An octet determines its two digits. -/
lemma octet_injective {hi lo hi' lo' : UInt8} (h₁ : hi.toNat < 16) (h₂ : lo.toNat < 16)
    (h₁' : hi'.toNat < 16) (h₂' : lo'.toNat < 16) (h : (hi <<< 4 ||| lo) = (hi' <<< 4 ||| lo')) :
    hi = hi' ∧ lo = lo' := by
  have hn := congrArg UInt8.toNat h
  rw [toNat_octet h₁ h₂, toNat_octet h₁' h₂'] at hn
  exact ⟨UInt8.toNat_inj.mp (by omega), UInt8.toNat_inj.mp (by omega)⟩

/-- On hexadecimal text of the right length the loop succeeds, and different texts give different
octets. -/
lemma Uuid.getOctets_of_hex {n : ℕ} {s : ByteString} (hlen : s.length = 2 * n)
    (hs : ∀ ch ∈ s, isHexChar ch = true) : ∃ l, Uuid.getOctets n s = some l := by
  induction n generalizing s with
  | zero => exact ⟨[], rfl⟩
  | succ n ih =>
    match s, hlen, hs with
    | c :: d :: rest, hlen, hs =>
      obtain ⟨hi, hhi⟩ := hexDigit_of_isHexChar (hs c (by simp))
      obtain ⟨lo, hlo⟩ := hexDigit_of_isHexChar (hs d (by simp))
      obtain ⟨tail, ht⟩ := ih (s := rest) (by simp at hlen; omega)
        (fun ch hch => hs ch (by simp [hch]))
      refine ⟨(hi <<< 4 ||| lo) :: tail, ?_⟩
      simp [Uuid.getOctets, toLowerChar_of_isHexChar (hs c (by simp)), hhi, hlo, ht]

lemma Uuid.getOctets_injective {n : ℕ} {s t : ByteString} {l : List UInt8}
    (hs : s.length = 2 * n) (ht : t.length = 2 * n) (hsx : ∀ ch ∈ s, isHexChar ch = true)
    (htx : ∀ ch ∈ t, isHexChar ch = true) (h : Uuid.getOctets n s = some l)
    (h' : Uuid.getOctets n t = some l) : s = t := by
  induction n generalizing s t l with
  | zero => rw [List.length_eq_zero_iff.mp hs, List.length_eq_zero_iff.mp ht]
  | succ n ih =>
    match s, t, hs, ht, hsx, htx, h, h' with
    | c :: d :: rest, c' :: d' :: rest', hs, ht, hsx, htx, h, h' =>
      simp only [Uuid.getOctets, toLowerChar_of_isHexChar (hsx c (by simp)),
        toLowerChar_of_isHexChar (htx c' (by simp)), Option.bind_eq_bind,
        Option.bind_eq_some_iff, Option.pure_def, Option.some.injEq] at h h'
      obtain ⟨hi, hhi, lo, hlo, tail, htl, rfl⟩ := h
      obtain ⟨hi', hhi', lo', hlo', tail', htl', heq⟩ := h'
      obtain ⟨hoct, rfl⟩ := List.cons.inj heq
      obtain ⟨rfl, rfl⟩ := octet_injective (hexDigit_lt hhi') (hexDigit_lt hlo')
        (hexDigit_lt hhi) (hexDigit_lt hlo) hoct
      rw [hexDigit_injective hhi hhi', hexDigit_injective hlo hlo',
        ih (s := rest) (t := rest') (by simp at hs; omega) (by simp at ht; omega)
          (fun ch hch => hsx ch (by simp [hch])) (fun ch hch => htx ch (by simp [hch])) htl htl']

/-- The `uuid_t` of a valid identifier. -/
def AssetId.toUuid (u : AssetId) : Uuid where
  data := (Uuid.getOctets 16 u.text).getD []
  size_eq := by
    obtain ⟨l, hl⟩ := Uuid.getOctets_of_hex (n := 16) (by rw [u.length_text])
      (fun ch hch => u.isHexChar_of_mem hch)
    simp [hl, Uuid.length_getOctets hl]

/-- A valid identifier holds neither NUL nor white space, so all of it is parsed. -/
lemma Uuid.parse_text (u : AssetId) : Uuid.parse u.text = .value u.toUuid := by
  have hchars : ∀ ch ∈ u.text, ch ≠ 0 ∧ isSpaceChar ch = false := by
    intro ch hch
    have := isHexChar_iff.mp (u.isHexChar_of_mem hch)
    constructor
    · rintro rfl; simp at this
    · simp only [isSpaceChar, Bool.or_eq_false_iff, beq_eq_false_iff_ne, ne_eq, ← UInt8.toNat_inj,
        Bool.and_eq_false_iff, decide_eq_false_iff_not, UInt8.le_iff_toNat_le, UInt8.reduceToNat]
      omega
  have htake : u.text.takeWhile (· ≠ 0) = u.text :=
    List.takeWhile_eq_self_iff.mpr fun ch hch => by simpa using (hchars ch hch).1
  have hfilter : u.text.filter (fun ch => !isSpaceChar ch) = u.text :=
    List.filter_eq_self.mpr fun ch hch => by simp [(hchars ch hch).2]
  obtain ⟨l, hl⟩ := Uuid.getOctets_of_hex (n := 16) (by rw [u.length_text])
    (fun ch hch => u.isHexChar_of_mem hch)
  have hto : u.toUuid.data = l := by simp [AssetId.toUuid, hl]
  unfold Uuid.parse
  rw [htake, hfilter]
  split
  · next hnil => have := u.length_text; simp [hnil] at this
  · next c chars htext =>
    split
    · next l' hl' =>
      rw [← htext, hl] at hl'
      cases u' : u.toUuid
      simp_all
    · next hnone => rw [← htext, hl] at hnone; cases hnone

theorem AssetId.toUuid_injective : Function.Injective AssetId.toUuid := by
  intro u v h
  obtain ⟨l, hl⟩ := Uuid.getOctets_of_hex (n := 16) (by rw [u.length_text])
    (fun ch hch => u.isHexChar_of_mem hch)
  obtain ⟨l', hl'⟩ := Uuid.getOctets_of_hex (n := 16) (by rw [v.length_text])
    (fun ch hch => v.isHexChar_of_mem hch)
  have hll : l = l' := by simpa [AssetId.toUuid, hl, hl'] using h
  subst hll
  exact AssetId.ext (Uuid.getOctets_injective u.length_text v.length_text
    (fun ch hch => u.isHexChar_of_mem hch) (fun ch hch => v.isHexChar_of_mem hch) hl hl')

@[simp] lemma AssetId.toUuid_inj {u v : AssetId} : u.toUuid = v.toUuid ↔ u = v :=
  AssetId.toUuid_injective.eq_iff

/-! ### Assets -/

/-- `Asset`: the data array with the metadata in front. The accessors index the array without a
check, so what they return on a shorter array is not the array's; see `ValidAsset`. -/
structure Asset where
  data : ByteString
deriving DecidableEq

def Asset.getUUID (a : Asset) : ByteString := a.data.take 32

def Asset.getType (a : Asset) : UInt8 := a.data.getD 32 0

def Asset.isLocal (a : Asset) : Bool := a.data.getD 33 0 == 1

/-- An identifier, and an asset that has it, for runs that are evaluated. -/
def sampleUUID (n : ℕ) : ByteString := List.replicate 31 48 ++ [Uuid.hexChar n]

def sampleAsset (n : ℕ) : Asset := ⟨sampleUUID n ++ [0, 0, 116, 101, 120, 116]⟩

/-- An asset the storage layer is handed: its metadata lies inside the array, its identifier has
passed the validator, and its size fits the 32-bit size fields it came through. -/
structure ValidAsset extends Asset where
  size_ge : 34 ≤ data.length
  size_lt : data.length < 2 ^ 32
  valid : Validator.isValidUUID (data.take 32) = true
deriving DecidableEq

def ValidAsset.id (a : ValidAsset) : AssetId := ⟨a.data.take 32, a.valid⟩

@[simp] lemma ValidAsset.text_id (a : ValidAsset) : a.id.text = a.getUUID := rfl

end Whip
