import Whip.Storage.Backend

/-!
# The existence index as a set of strings

The index keeps the sixteen octets of an identifier, while the disk keeps its text. On the
identifiers the validator accepts, parsing is injective, printing undoes it, and the order of the
`std::set` identifies equal octets only.
-/

namespace Whip

namespace Uuid

/-! ### Printing -/

/-- The adjustment flags of an output stream. -/
inductive Adjust
  | unset
  | left
  | right
  | internal
deriving DecidableEq

/-- The state of an output stream that `put` reads; a fresh stream has these defaults. Its flags
`showbase` and `uppercase` are not set. -/
structure Format where
  adjust : Adjust := .unset
  width : ℕ := 0
  fill : UInt8 := 32

/-- The digits of an octet, without leading zeros. -/
def hexDigits (octet : UInt8) : ByteString :=
  if octet.toNat < 16 then [hexChar octet.toNat]
  else [hexChar (octet.toNat / 16), hexChar (octet.toNat % 16)]

/-- `os << static_cast<unsigned>(data[i])` with `std::hex`, width 2 and fill `0`. -/
def putOctet (adjust : Adjust) (octet : UInt8) : ByteString :=
  let digits := hexDigits octet
  let padding := List.replicate (2 - digits.length) 48
  if adjust = .left then digits ++ padding else padding ++ digits

/-- `uuid_t::put` on a good stream. The padding goes by `string_size`, the length with dashes. -/
def put (format : Format) (u : Uuid) : ByteString :=
  let padding := List.replicate (format.width - 36) format.fill
  let digits := u.data.flatMap (putOctet format.adjust)
  match format.adjust with
  | .unset            => digits
  | .left             => digits ++ padding
  | .right | .internal => padding ++ digits

/-- An octet is printed as the two digits it was read from. -/
lemma putOctet_octet {c d hi lo : UInt8} (hhi : hexDigit c = some hi) (hlo : hexDigit d = some lo) :
    putOctet .unset (hi <<< 4 ||| lo) = [c, d] := by
  have hval := toNat_octet (hexDigit_lt hhi) (hexDigit_lt hlo)
  have hlo' := hexDigit_lt hlo
  have hdiv : (hi <<< 4 ||| lo).toNat / 16 = hi.toNat := by omega
  have hmod : (hi <<< 4 ||| lo).toNat % 16 = lo.toNat := by omega
  unfold putOctet hexDigits
  split_ifs with hsmall hadj hadj
  · cases hadj
  · have hzero : hi.toNat = 0 := by omega
    have hc : c = 48 := by rw [← hexChar_of_hexDigit hhi, hzero]; rfl
    have heq : (hi <<< 4 ||| lo).toNat = lo.toNat := by omega
    simp [heq, hexChar_of_hexDigit hlo, hc]
  · cases hadj
  · rw [hdiv, hmod, hexChar_of_hexDigit hhi, hexChar_of_hexDigit hlo]
    rfl

lemma flatMap_putOctet {n : ℕ} {s : ByteString} {l : List UInt8} (hlen : s.length = 2 * n)
    (hs : ∀ ch ∈ s, isHexChar ch = true) (h : getOctets n s = some l) :
    l.flatMap (putOctet .unset) = s := by
  induction n generalizing s l with
  | zero =>
    cases h
    rw [List.length_eq_zero_iff.mp hlen]
    rfl
  | succ n ih =>
    match s, hlen, hs, h with
    | c :: d :: rest, hlen, hs, h =>
      simp only [getOctets, toLowerChar_of_isHexChar (hs c (by simp)), Option.bind_eq_bind,
        Option.bind_eq_some_iff, Option.pure_def, Option.some.injEq] at h
      obtain ⟨hi, hhi, lo, hlo, tail, htail, rfl⟩ := h
      have hrest := ih (by simp at hlen; omega) (fun ch hch => hs ch (by simp [hch])) htail
      rw [List.flatMap_cons, putOctet_octet hhi hlo, hrest]
      rfl

/-- On a fresh stream, printing gives back the text. -/
lemma put_toUuid (u : AssetId) : u.toUuid.put {} = u.text := by
  obtain ⟨l, hl⟩ := getOctets_of_hex (n := 16) (by rw [u.length_text])
    (fun ch hch => u.isHexChar_of_mem hch)
  have hdata : u.toUuid.data = l := by simp [AssetId.toUuid, hl]
  unfold put
  rw [hdata]
  exact flatMap_putOctet u.length_text (fun ch hch => u.isHexChar_of_mem hch) hl

/-! ### The order of the set -/

/-- `operator<`: `std::lexicographical_compare` on the octets. -/
def less (x y : Uuid) : Bool := lexicographicalCompare x.data y.data
where
  lexicographicalCompare : List UInt8 → List UInt8 → Bool
    | _, []           => false
    | [], _ :: _      => true
    | a :: as, b :: bs => if a < b then true else if b < a then false else
        lexicographicalCompare as bs

lemma eq_of_not_lexicographicalCompare {l l' : List UInt8}
    (h : less.lexicographicalCompare l l' = false) (h' : less.lexicographicalCompare l' l = false) :
    l = l' := by
  induction l generalizing l' with
  | nil =>
    cases l' with
    | nil => rfl
    | cons b bs => cases h
  | cons a as ih =>
    cases l' with
    | nil => cases h'
    | cons b bs =>
      simp only [less.lexicographicalCompare] at h h'
      split_ifs at h h' with hab hba
      rw [ih h h', UInt8.le_antisymm (UInt8.not_lt.mp hba) (UInt8.not_lt.mp hab)]

lemma lexicographicalCompare_self (l : List UInt8) : less.lexicographicalCompare l l = false := by
  induction l with
  | nil => rfl
  | cons a as ih => simp [less.lexicographicalCompare, ih]

/-- The set takes two values for the same if and only if they are equal. -/
lemma not_less_iff {x y : Uuid} : (x.less y = false ∧ y.less x = false) ↔ x = y := by
  constructor
  · rintro ⟨h, h'⟩
    have hdata := eq_of_not_lexicographicalCompare h h'
    cases x
    cases y
    simpa using hdata
  · rintro rfl
    exact ⟨lexicographicalCompare_self _, lexicographicalCompare_self _⟩

end Uuid

/-! ### Sequences of operations -/

namespace ExistenceIndex

/-- The operations on the index, on valid identifiers. -/
inductive Op
  | addNewId (assetId : AssetId)
  | removeId (assetId : AssetId)
deriving DecidableEq

def Op.assetId : Op → AssetId
  | .addNewId u => u
  | .removeId u => u

/-- One operation; an identifier to remove is parsed first, as in `assetWriteFailed`. -/
def applyOp (index : List Uuid) : Op → List Uuid
  | .addNewId u => addNewId index u.text
  | .removeId u =>
    match Uuid.parse u.text with
    | .value id => removeId index id
    | _         => index

/-- The last operation on the identifier. -/
def lastOn (u : AssetId) (ops : List Op) : Option Op := ops.reverse.find? (·.assetId = u)

/-- One operation decides about its own identifier and leaves the others alone. -/
lemma mem_applyOp {index : List Uuid} {op : Op} {u : AssetId} :
    u.toUuid ∈ applyOp index op ↔
      if op.assetId = u then op = .addNewId u else u.toUuid ∈ index := by
  by_cases h : op.assetId = u
  · subst h
    cases op with
    | addNewId v => simp [applyOp, mem_addNewId, Op.assetId]
    | removeId v => simp [applyOp, Uuid.parse_text, mem_removeId, Op.assetId]
  · rw [if_neg h]
    cases op with
    | addNewId v =>
      simp only [applyOp, mem_addNewId, AssetId.toUuid_inj]
      exact or_iff_right (Ne.symm h)
    | removeId v =>
      simp only [applyOp, Uuid.parse_text, mem_removeId, ne_eq, AssetId.toUuid_inj]
      exact and_iff_left (Ne.symm h)

lemma lastOn_concat {ops : List Op} {op : Op} {u : AssetId} :
    lastOn u (ops ++ [op]) = if op.assetId = u then some op else lastOn u ops := by
  unfold lastOn
  split_ifs with h <;> simp [h]

/-- After any sequence of operations, an identifier is in the index if the last operation on it
added it, or if there was none and it was there before. -/
lemma mem_foldl_applyOp {index : List Uuid} {ops : List Op} {u : AssetId} :
    u.toUuid ∈ ops.foldl applyOp index ↔
      lastOn u ops = some (.addNewId u) ∨ lastOn u ops = none ∧ u.toUuid ∈ index := by
  induction ops using List.reverseRecOn with
  | nil => simp [lastOn]
  | append_singleton ops op ih =>
    rw [List.foldl_concat, mem_applyOp, lastOn_concat]
    split_ifs with h
    · simp
    · exact ih

/-- On valid identifiers the index is a set of strings: the parser returns, equal octets come from
equal strings only, also in the order of the set, printing undoes parsing, and an identifier exists
if and only if the last operation on it added it. -/
theorem is_set_of_strings :
    (∀ s t : AssetId, ∃ x y, Uuid.parse s.text = .value x ∧ Uuid.parse t.text = .value y ∧
      (x = y ↔ s.text = t.text) ∧ ((x.less y = false ∧ y.less x = false) ↔ s.text = t.text) ∧
      x.put {} = s.text ∧ y.put {} = t.text) ∧
    ∀ (ops : List Op) (s : AssetId),
      assetExists (ops.foldl applyOp []) s.text = true ↔ lastOn s ops = some (.addNewId s) := by
  refine ⟨fun s t => ⟨s.toUuid, t.toUuid, Uuid.parse_text s, Uuid.parse_text t, ?_, ?_,
    Uuid.put_toUuid s, Uuid.put_toUuid t⟩, fun ops s => ?_⟩
  · rw [AssetId.toUuid_inj, AssetId.ext_iff]
  · rw [Uuid.not_less_iff, AssetId.toUuid_inj, AssetId.ext_iff]
  · rw [assetExists_text, mem_foldl_applyOp]
    simp

end ExistenceIndex

end Whip
