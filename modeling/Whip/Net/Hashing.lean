import Whip.Net.CSHA1
import Whip.Storage.IdSet

/-!
# The hash is SHA-1

The unrolled rounds of `Transform` are the rounds of the standard, with the variables in the place
that the number of the round gives them and the last 16 words of the schedule in the block. An
object that has been updated holds what the standard has absorbed of all the bytes so far.
-/

namespace Whip

open SHA1 (Word)

namespace CSHA1

/-! ### Words -/

lemma ROL32_eq (w : Word) {n : ℕ} (h : n < 32) : ROL32 w n = w.rotateLeft n := by
  rw [ROL32, BitVec.rotateLeft_def, Nat.mod_eq_of_lt h]

lemma mix_choose (w x y : Word) : (w &&& (x ^^^ y)) ^^^ y = SHA1.choose w x y := by
  ext i hi
  simp only [SHA1.choose, BitVec.getElem_xor, BitVec.getElem_and, BitVec.getElem_or,
    BitVec.getElem_not]
  cases w[i] <;> cases x[i] <;> cases y[i] <;> rfl

lemma mix_majority (w x y : Word) : ((w ||| x) &&& y) ||| (w &&& x) = SHA1.majority w x y := by
  ext i hi
  simp only [SHA1.majority, BitVec.getElem_and, BitVec.getElem_or]
  cases w[i] <;> cases x[i] <;> cases y[i] <;> rfl

/-- Four bytes in network order, put together. -/
lemma ofBigEndian_append (a b c d : UInt8) :
    BitVec.ofNat 32 (Bytes.ofBigEndian [a, b, c, d]) =
      (a.toBitVec ++ b.toBitVec ++ c.toBitVec ++ d.toBitVec : BitVec 32) := by
  apply BitVec.eq_of_toNat_eq
  have ha := a.toNat_lt
  have hb := b.toNat_lt
  have hc := c.toNat_lt
  have hd := d.toNat_lt
  simp only [BitVec.toNat_append, Bytes.ofBigEndian, List.foldl, BitVec.toNat_ofNat,
    UInt8.toNat_toBitVec]
  rw [← Nat.shiftLeft_add_eq_or_of_lt hd, ← Nat.shiftLeft_add_eq_or_of_lt hc,
    ← Nat.shiftLeft_add_eq_or_of_lt hb]
  simp only [Nat.shiftLeft_eq]
  omega

lemma getLsbD_append_four (a b c d : BitVec 8) (i : ℕ) :
    (a ++ b ++ c ++ d : BitVec 32).getLsbD i =
      if i < 8 then d.getLsbD i
      else if i - 8 < 8 then c.getLsbD (i - 8)
      else if i - 8 - 8 < 8 then b.getLsbD (i - 8 - 8)
      else a.getLsbD (i - 8 - 8 - 8) := by
  rw [BitVec.getLsbD_append, BitVec.getLsbD_append, BitVec.getLsbD_append]

/-- The byte swap of `SHABLK0`. -/
lemma swap_append (a b c d : BitVec 8) :
    (ROL32 (d ++ c ++ b ++ a : BitVec 32) 24 &&& 0xFF00FF00#32) |||
      (ROL32 (d ++ c ++ b ++ a : BitVec 32) 8 &&& 0x00FF00FF#32) =
      (a ++ b ++ c ++ d : BitVec 32) := by
  apply BitVec.eq_of_getLsbD_eq
  intro i hi
  simp only [ROL32, BitVec.getLsbD_or, BitVec.getLsbD_and, BitVec.getLsbD_shiftLeft,
    BitVec.getLsbD_ushiftRight, getLsbD_append_four]
  -- every bit of the result comes from one of the two rotations, the masks say from which
  interval_cases i <;> simp

lemma SHABLK0_load {block : ByteString} (hblock : block.length = 64) {l : Fin 16 → Word} {i : ℕ}
    (hi : i < 16) (hl : l (and15 i) = load block (Fin.ofNat 16 i)) :
    SHABLK0 l i = SHA1.word block i := by
  obtain ⟨a, b, c, d, hbytes⟩ : ∃ a b c d, (block.drop (4 * i)).take 4 = [a, b, c, d] := by
    have hlen : ((block.drop (4 * i)).take 4).length = 4 := by
      rw [List.length_take, List.length_drop]
      omega
    obtain ⟨a, b, c, d, h⟩ := List.length_eq_four.mp hlen
    exact ⟨a, b, c, d, h⟩
  have hload :
      l (and15 i) = (d.toBitVec ++ c.toBitVec ++ b.toBitVec ++ a.toBitVec : BitVec 32) := by
    rw [hl, load, Fin.val_ofNat, Nat.mod_eq_of_lt hi, hbytes, ← ofBigEndian_append]
    rfl
  rw [SHABLK0, hload, swap_append, SHA1.word, hbytes, ofBigEndian_append]

/-! ### Rounds -/

lemma and15_eq (i : ℕ) : and15 i = Fin.ofNat 16 i :=
  Fin.ext (Nat.and_two_pow_sub_one_eq_mod i 4)

lemma and15_eq_iff {i j : ℕ} : and15 i = and15 j ↔ i % 16 = j % 16 := by
  simp [and15_eq, Fin.ext_iff]

def roundAt (i : ℕ) : Round :=
  if i < 16 then .R0 else if i < 20 then .R1 else if i < 40 then .R2 else if i < 60 then .R3
  else .R4

/-- The variable that has role `k` in round `i`: they move on by one place in every round. -/
def place (k i : ℕ) : Fin 5 := ⟨(k + 4 * i) % 5, Nat.mod_lt _ (by decide)⟩

lemma place_succ (k i : ℕ) : place (k + 1) (i + 1) = place k i :=
  Fin.ext (by simp only [place]; omega)

lemma place_zero_succ (i : ℕ) : place 0 (i + 1) = place 4 i :=
  Fin.ext (by simp only [place]; omega)

lemma place_ne {k k' : ℕ} (h : k % 5 ≠ k' % 5) (i : ℕ) : place k i ≠ place k' i := by
  intro heq
  have hval := congrArg Fin.val heq
  simp only [place] at hval
  omega

def callAt (i : ℕ) : Call :=
  ⟨roundAt i, place 0 i, place 1 i, place 2 i, place 3 i, place 4 i, i⟩

lemma calls_eq : calls = (List.range 80).map callAt := by decide

/-- The variables in the roles that they have after `i` rounds. -/
def roles (i : ℕ) (var : Fin 5 → Word) : SHA1.State :=
  ⟨var (place 0 i), var (place 1 i), var (place 2 i), var (place 3 i),
    var (place 4 i)⟩

/-- The state as the standard has it. -/
def toState (var : Fin 5 → Word) : SHA1.State := roles 0 var

lemma mix_roundAt (i : ℕ) : (roundAt i).mix = (SHA1.mix i).1 ∧
    (roundAt i).constant = (SHA1.mix i).2 := by
  have hchoose : (fun w x y : Word => (w &&& (x ^^^ y)) ^^^ y) = SHA1.choose := by
    funext w x y
    exact mix_choose w x y
  have hmajority : (fun w x y : Word => ((w ||| x) &&& y) ||| (w &&& x)) = SHA1.majority := by
    funext w x y
    exact mix_majority w x y
  unfold roundAt SHA1.mix
  split_ifs <;> first | omega | exact ⟨hchoose, rfl⟩ | exact ⟨hmajority, rfl⟩ | exact ⟨rfl, rfl⟩

/-- One round on the variables, in their roles before and after it. -/
lemma roles_update (i : ℕ) (var : Fin 5 → Word) (new rotated : Word) :
    roles (i + 1) (Function.update (Function.update var (place 4 i) new) (place 1 i) rotated) =
      ⟨new, var (place 0 i), rotated, var (place 2 i), var (place 3 i)⟩ := by
  have hother {k : ℕ} (h₁ : k % 5 ≠ 1) (h₄ : k % 5 ≠ 4) :
      Function.update (Function.update var (place 4 i) new) (place 1 i) rotated
        (place k i) = var (place k i) := by
    rw [Function.update_of_ne (place_ne h₁ i), Function.update_of_ne (place_ne h₄ i)]
  rw [roles, place_zero_succ, place_succ, place_succ, place_succ, place_succ,
    Function.update_self, Function.update_of_ne (place_ne (by decide) i), Function.update_self,
    hother (by decide) (by decide), hother (by decide) (by decide), hother (by decide) (by decide)]

/-- The words of the block in the middle of the rounds: the last 16 of the schedule, and those that
have not been swapped yet. -/
structure Scheduled (block : ByteString) (i : ℕ) (l : Fin 16 → Word) : Prop where
  done : ∀ t, t < i → i ≤ t + 16 → l (and15 t) = SHA1.schedule block t
  raw : ∀ t, i ≤ t → t < 16 → l (and15 t) = load block (Fin.ofNat 16 t)

lemma scheduled_load (block : ByteString) : Scheduled block 0 (load block) :=
  ⟨fun t ht => absurd ht (Nat.not_lt_zero t), fun t _ _ => by rw [and15_eq]⟩

lemma Scheduled.word {block : ByteString} {i : ℕ} {l : Fin 16 → Word} (h : Scheduled block i l)
    (hblock : block.length = 64) : (roundAt i).block l i = SHA1.schedule block i := by
  by_cases hi : i < 16
  · rw [roundAt, if_pos hi, SHA1.schedule_of_lt block hi]
    exact SHABLK0_load hblock hi (h.raw i le_rfl hi)
  · obtain ⟨t, rfl⟩ : ∃ t, i = t + 16 := ⟨i - 16, by omega⟩
    have hround : (roundAt (t + 16)).block = SHABLK := by
      unfold roundAt
      rw [if_neg hi]
      split_ifs <;> rfl
    have hold (r t' : ℕ) (hr : (t + 16 + r) % 16 = t' % 16) (hlt : t' < t + 16) (hle : t ≤ t') :
        l (and15 (t + 16 + r)) = SHA1.schedule block t' := by
      rw [and15_eq_iff.mpr hr]
      exact h.done t' hlt (by omega)
    rw [hround, SHABLK, ROL32_eq _ (by decide), hold 13 (t + 13) (by omega) (by omega) (by omega),
      hold 8 (t + 8) (by omega) (by omega) (by omega),
      hold 2 (t + 2) (by omega) (by omega) (by omega),
      hold 0 t (by omega) (by omega) (by omega), SHA1.schedule_add]

lemma Scheduled.update {block : ByteString} {i : ℕ} {l : Fin 16 → Word} (h : Scheduled block i l) :
    Scheduled block (i + 1) (Function.update l (and15 i) (SHA1.schedule block i)) := by
  refine ⟨fun t ht hi => ?_, fun t ht hlt => ?_⟩
  · by_cases heq : t = i
    · rw [heq, Function.update_self]
    · rw [Function.update_of_ne (by rw [Ne, and15_eq_iff]; omega)]
      exact h.done t (by omega) (by omega)
  · rw [Function.update_of_ne (by rw [Ne, and15_eq_iff]; omega)]
    exact h.raw t (by omega) hlt

/-- What is true after `i` rounds. -/
structure AfterRounds (pState : Fin 5 → Word) (block : ByteString) (i : ℕ) (s : Workspace) :
    Prop where
  roles : roles i s.var = SHA1.rounds block i (toState pState)
  scheduled : Scheduled block i s.l

lemma AfterRounds.exec {pState : Fin 5 → Word} {block : ByteString} {i : ℕ} {s : Workspace}
    (hblock : block.length = 64) (h : AfterRounds pState block i s) :
    AfterRounds pState block (i + 1) (Call.exec s (callAt i)) := by
  have hword := h.scheduled.word hblock
  obtain ⟨hmix, hconstant⟩ := mix_roundAt i
  refine ⟨?_, ?_⟩
  · simp only [Call.exec, callAt]
    rw [hword, hmix, hconstant, roles_update, Function.update_of_ne (place_ne (by decide) i),
      ROL32_eq _ (by decide), ROL32_eq _ (by decide), SHA1.rounds, ← h.roles, SHA1.round]
    simp only [CSHA1.roles]
    congr 1
    ac_rfl
  · simp only [Call.exec, callAt]
    rw [hword]
    exact h.scheduled.update

lemma afterRounds_foldl (pState : Fin 5 → Word) {block : ByteString} (hblock : block.length = 64)
    (n : ℕ) :
    AfterRounds pState block n
      (((List.range n).map callAt).foldl Call.exec ⟨pState, load block⟩) := by
  induction n with
  | zero => exact ⟨rfl, scheduled_load block⟩
  | succ n ih =>
    rw [List.range_succ, List.map_append, List.foldl_append]
    exact ih.exec hblock

theorem toState_Transform (pState : Fin 5 → Word) {block : ByteString}
    (hblock : block.length = 64) :
    toState (Transform pState block) = SHA1.compress (toState pState) block := by
  have h := (afterRounds_foldl pState hblock 80).roles
  rw [← calls_eq] at h
  rw [SHA1.compress, ← h]
  rfl

/-! ### Memory -/

lemma bytesAt_eq {p : ByteString} {off n : ℕ} (h : off + n ≤ p.length) :
    bytesAt p off n = some ((p.drop off).take n) := if_pos h

lemma memcpy_spec (dst : HashBuffer) (off : ℕ) (src : ByteString) (h : off + src.length ≤ 64) :
    ∃ buffer, memcpy dst off src = some buffer ∧
      buffer.1.take (off + src.length) = dst.1.take off ++ src := by
  refine ⟨_, dif_pos h, List.take_left' ?_⟩
  rw [List.length_append, List.length_take_of_le (by rw [dst.2]; omega)]

lemma keepRest_spec (buffer : HashBuffer) {pbData : ByteString} {uLen i j : Word}
    (hlen : uLen.toNat = pbData.length) (hi : i.toNat ≤ pbData.length)
    (hfits : j.toNat + (pbData.length - i.toNat) ≤ 64) :
    ∃ buffer', keepRest buffer pbData uLen i j = some buffer' ∧
      buffer'.1.take (j.toNat + (pbData.length - i.toNat)) =
        buffer.1.take j.toNat ++ pbData.drop i.toNat := by
  have hsub : (uLen - i).toNat = pbData.length - i.toNat := by
    rw [BitVec.toNat_sub_of_le (by rw [BitVec.le_def]; omega), hlen]
  have hdrop : (pbData.drop i.toNat).length = pbData.length - i.toNat := List.length_drop
  unfold keepRest
  split_ifs with hne
  · obtain ⟨buffer', hcopy, htake⟩ := memcpy_spec buffer j.toNat (pbData.drop i.toNat) (by omega)
    refine ⟨buffer', ?_, hdrop ▸ htake⟩
    rw [bytesAt_eq (by omega), hsub, ← hdrop, List.take_length]
    exact hcopy
  · have hzero : pbData.length - i.toNat = 0 := by
      rw [← hsub, not_not.mp hne]
      rfl
    refine ⟨buffer, rfl, ?_⟩
    rw [List.eq_nil_of_length_eq_zero (hdrop.trans hzero), hzero, Nat.add_zero, List.append_nil]

/-! ### Counters -/

/-- The two counters are one of 64 bits. -/
lemma count_add {low high uLen : Word} {n k : ℕ} (hlow : low.toNat = 8 * n % 2 ^ 32)
    (hhigh : high.toNat = 8 * n / 2 ^ 32 % 2 ^ 32) (hlen : uLen.toNat = k) :
    (low + (uLen <<< 3)).toNat = 8 * (n + k) % 2 ^ 32 ∧
      ((if low + (uLen <<< 3) < uLen <<< 3 then high + 1#32 else high) + (uLen >>> 29)).toNat =
        8 * (n + k) / 2 ^ 32 % 2 ^ 32 := by
  have hk : k < 2 ^ 32 := hlen ▸ uLen.isLt
  have hshift : (uLen <<< 3).toNat = 8 * k % 2 ^ 32 := by
    rw [BitVec.toNat_shiftLeft, hlen, Nat.shiftLeft_eq, Nat.mul_comm]
  have hcarry : (uLen >>> 29).toNat = k / 2 ^ 29 := by
    rw [BitVec.toNat_ushiftRight, hlen, Nat.shiftRight_eq_div_pow]
  have hsum : (low + (uLen <<< 3)).toNat = 8 * (n + k) % 2 ^ 32 := by
    rw [BitVec.toNat_add, hlow, hshift]
    omega
  refine ⟨hsum, ?_⟩
  rw [BitVec.toNat_add, hcarry]
  split_ifs with hlt
  · rw [BitVec.lt_def, hsum, hshift] at hlt
    rw [BitVec.toNat_add, hhigh, BitVec.toNat_ofNat]
    omega
  · rw [BitVec.lt_def, hsum, hshift] at hlt
    rw [hhigh]
    omega

lemma toNat_offset {low : Word} {n : ℕ} (hlow : low.toNat = 8 * n % 2 ^ 32) :
    ((low >>> 3) &&& 0x3F#32).toNat = n % 64 := by
  have hmask : (low >>> 3).toNat &&& 63 = (low >>> 3).toNat % 64 :=
    Nat.and_two_pow_sub_one_eq_mod _ 6
  rw [BitVec.toNat_and]
  refine hmask.trans ?_
  rw [BitVec.toNat_ushiftRight, hlow, Nat.shiftRight_eq_div_pow]
  omega

/-! ### Update -/

/-- The loop takes all the full blocks, when `i` does not come so close to the end of the 32-bit
numbers that `i + 63` wraps around. -/
lemma transformBlocks_spec {pbData : ByteString} {uLen : Word} (hlen : uLen.toNat = pbData.length)
    (fuel : ℕ) (state : Fin 5 → Word) (i : Word) (hi : i.toNat ≤ pbData.length)
    (hwrap : pbData.length - (pbData.length - i.toNat) % 64 + 63 < 2 ^ 32)
    (hfuel : pbData.length - i.toNat < fuel) :
    ∃ state' i', transformBlocks pbData uLen fuel state i = some (state', i') ∧
      toState state' = SHA1.absorb (toState state) (pbData.drop i.toNat) ∧
      i'.toNat ≤ pbData.length ∧
      pbData.drop i'.toNat = BlockHash.rest 64 (pbData.drop i.toNat) := by
  induction fuel generalizing state i with
  | zero => omega
  | succ fuel ih =>
    have hsum : (i + 63#32).toNat = i.toNat + 63 := by
      rw [BitVec.toNat_add, BitVec.toNat_ofNat]
      omega
    unfold transformBlocks
    by_cases hmore : i.toNat + 63 < pbData.length
    · have hnext : (i + 64#32).toNat = i.toNat + 64 := by
        rw [BitVec.toNat_add, BitVec.toNat_ofNat]
        omega
      have hblock : ((pbData.drop i.toNat).take 64).length = 64 := by
        rw [List.length_take, List.length_drop]
        omega
      rw [if_pos (by rw [BitVec.lt_def]; omega), bytesAt_eq (by omega), Option.bind_some]
      obtain ⟨state', i', hrun, hstate, hi', hrest⟩ :=
        ih (Transform state ((pbData.drop i.toNat).take 64)) (i + 64#32) (by omega)
          (by rw [hnext]; omega) (by omega)
      refine ⟨state', i', hrun, ?_, hi', ?_⟩
      · rw [hstate, toState_Transform state hblock, hnext, ← List.drop_drop,
          ← List.take_append_drop 64 (pbData.drop i.toNat), SHA1.absorb,
          BlockHash.absorb_block (by decide) hblock, List.take_append_drop]
      · rw [hrest, hnext, ← List.drop_drop, ← List.take_append_drop 64 (pbData.drop i.toNat),
          BlockHash.rest_block (by decide) hblock, List.take_append_drop]
    · have hshort : (pbData.drop i.toNat).length < 64 := by
        rw [List.length_drop]
        omega
      rw [if_neg (by rw [BitVec.lt_def]; omega)]
      refine ⟨state, i, rfl, ?_, hi, ?_⟩
      · rw [SHA1.absorb, BlockHash.absorb_of_lt hshort]
      · rw [BlockHash.rest_of_lt hshort]

/-- The object has taken in the bytes `m` since it was reset. -/
structure Absorbed (s : CSHA1) (m : ByteString) : Prop where
  state : toState s.m_state = SHA1.absorb SHA1.initial m
  buffer : s.m_buffer.1.take (m.length % 64) = BlockHash.rest 64 m
  low : (s.m_count 0).toNat = 8 * m.length % 2 ^ 32
  high : (s.m_count 1).toNat = 8 * m.length / 2 ^ 32 % 2 ^ 32

lemma absorbed_Reset (s : CSHA1) : Absorbed s.Reset [] :=
  ⟨rfl, rfl, rfl, rfl⟩

/-- A block is completed when there are enough bytes for it. -/
lemma Absorbed.fillBlocks {s : CSHA1} {m pbData : ByteString} {uLen j : Word} (h : Absorbed s m)
    (hlen : uLen.toNat = pbData.length) (hj : j.toNat = m.length % 64)
    (hfits : m.length % 64 + pbData.length < 2 ^ 32) :
    ∃ state buffer i j', s.fillBlocks pbData uLen j = some (state, buffer, i, j') ∧
      toState state = SHA1.absorb SHA1.initial (m ++ pbData) ∧ i.toNat ≤ pbData.length ∧
      buffer.1.take j'.toNat ++ pbData.drop i.toNat = BlockHash.rest 64 (m ++ pbData) ∧
      j'.toNat ≤ 64 := by
  obtain ⟨habsorb, hrest⟩ :=
    BlockHash.absorb_append (f := SHA1.compress) (by decide : 0 < 64) SHA1.initial m pbData
  have hlength : (BlockHash.rest 64 m).length = m.length % 64 := BlockHash.length_rest m
  have hsum : (j + uLen).toNat = m.length % 64 + pbData.length := by
    rw [BitVec.toNat_add, hj, hlen, Nat.mod_eq_of_lt hfits]
  unfold CSHA1.fillBlocks
  by_cases hfull : 63 < m.length % 64 + pbData.length
  · have hi : (64#32 - j).toNat = 64 - m.length % 64 := by
      rw [BitVec.toNat_sub, hj, BitVec.toNat_ofNat]
      omega
    have htake : (pbData.take (64 - m.length % 64)).length = 64 - m.length % 64 :=
      List.length_take_of_le (by omega)
    have hblock : (BlockHash.rest 64 m ++ pbData.take (64 - m.length % 64)).length = 64 := by
      rw [List.length_append, hlength, htake]
      omega
    obtain ⟨buffer, hcopy, hbuffer⟩ := memcpy_spec s.m_buffer (m.length % 64)
      (pbData.take (64 - m.length % 64)) (by omega)
    have hcontents : buffer.1 = BlockHash.rest 64 m ++ pbData.take (64 - m.length % 64) := by
      rw [← h.buffer, ← hbuffer, htake, List.take_of_length_le (by rw [buffer.2]; omega)]
    obtain ⟨state, i, hrun, hstate, hle, hdrop⟩ := transformBlocks_spec hlen (uLen.toNat + 1)
      (Transform s.m_state buffer) (64#32 - j) (by omega) (by omega) (by omega)
    refine ⟨state, buffer, i, 0#32, ?_, ?_, hle, ?_, by decide⟩
    · rw [if_pos (by rw [gt_iff_lt, BitVec.lt_def, hsum]; exact hfull)]
      simp only [hi, hj, bytesAt_eq (show 0 + (64 - m.length % 64) ≤ pbData.length by omega),
        List.drop_zero, Option.bind_eq_bind, Option.bind_some, hcopy]
      rw [hrun]
      rfl
    · rw [hstate, toState_Transform _ buffer.2, h.state, hcontents, hi, SHA1.absorb, habsorb,
        ← BlockHash.absorb_block (by decide) hblock, List.append_assoc, List.take_append_drop]
    · rw [hdrop, hi, hrest, ← List.take_append_drop (64 - m.length % 64) pbData,
        ← List.append_assoc, BlockHash.rest_block (by decide) hblock, List.take_append_drop]
      rfl
  · have hshort : (BlockHash.rest 64 m ++ pbData).length < 64 := by
      rw [List.length_append, hlength]
      omega
    refine ⟨s.m_state, s.m_buffer, 0#32, j, ?_, ?_, Nat.zero_le _, ?_, by omega⟩
    · rw [if_neg (by rw [gt_iff_lt, BitVec.lt_def, hsum]; exact hfull)]
      rfl
    · rw [h.state, SHA1.absorb, habsorb, BlockHash.absorb_of_lt hshort]
    · rw [hj, h.buffer, hrest, BlockHash.rest_of_lt hshort]
      rfl

/-- `Update` takes in the data, as long as the bytes in the buffer and the data have a length of 32
bits. -/
theorem Absorbed.update {s : CSHA1} {m : ByteString} (h : Absorbed s m) (pbData : ByteString)
    (uLen : Word) (hlen : uLen.toNat = pbData.length)
    (hfits : m.length % 64 + pbData.length < 2 ^ 32) :
    ∃ s', s.Update pbData uLen = some s' ∧ Absorbed s' (m ++ pbData) := by
  have hj := toNat_offset h.low
  obtain ⟨hlow, hhigh⟩ := count_add h.low h.high hlen
  obtain ⟨state, buffer, i, j, hfill, hstate, hi, hrest, hj'⟩ := h.fillBlocks hlen hj hfits
  -- what is kept is less than a block, so it fits into the buffer
  have hkept : j.toNat + (pbData.length - i.toNat) = (m ++ pbData).length % 64 := by
    rw [← BlockHash.length_rest, ← hrest, List.length_append, List.length_drop,
      List.length_take_of_le (by rw [buffer.2]; exact hj')]
  obtain ⟨buffer', hkeep, hbuffer⟩ := keepRest_spec buffer hlen hi
    (hkept.trans_le (Nat.mod_lt _ (by decide)).le)
  have hupdate : s.Update pbData uLen = some { s with
      m_state := state
      m_count := ![s.m_count 0 + (uLen <<< 3),
        (if s.m_count 0 + (uLen <<< 3) < uLen <<< 3 then s.m_count 1 + 1#32 else s.m_count 1) +
          (uLen >>> 29)]
      m_buffer := buffer' } := by
    simp only [Update, hfill, hkeep, Option.bind_eq_bind, Option.bind_some, Option.pure_def]
  refine ⟨_, hupdate, hstate, ?_, ?_, ?_⟩
  · rw [← hkept, ← hrest]
    exact hbuffer
  · rw [List.length_append]
    exact hlow
  · rw [List.length_append]
    exact hhigh

/-- When the length wraps around, the copy into the buffer is out of bounds. -/
lemma Absorbed.update_overflow {s : CSHA1} {m : ByteString} (h : Absorbed s m) (pbData : ByteString)
    (uLen : Word) (hlen : uLen.toNat = pbData.length)
    (hover : 2 ^ 32 ≤ m.length % 64 + pbData.length) : s.Update pbData uLen = none := by
  have hj := toNat_offset h.low
  set j := (s.m_count 0 >>> 3) &&& 0x3F#32
  have hlt := uLen.isLt
  have hsum : (j + uLen).toNat = m.length % 64 + pbData.length - 2 ^ 32 := by
    rw [BitVec.toNat_add, hj, hlen]
    omega
  have hfill : s.fillBlocks pbData uLen j = some (s.m_state, s.m_buffer, 0#32, j) := by
    refine if_neg ?_
    rw [gt_iff_lt, BitVec.lt_def, hsum, BitVec.toNat_ofNat]
    omega
  have hkeep : keepRest s.m_buffer pbData uLen 0#32 j = none := by
    have hne : uLen - 0#32 ≠ 0#32 := by
      rw [BitVec.sub_zero, Ne, ← BitVec.toNat_inj, hlen, BitVec.toNat_ofNat]
      omega
    have hbytes : bytesAt pbData (0#32).toNat pbData.length = some pbData := by
      rw [BitVec.toNat_ofNat, Nat.zero_mod, bytesAt_eq (Nat.zero_add _).le, List.drop_zero,
        List.take_length]
    rw [keepRest, if_pos hne, BitVec.sub_zero, hlen, hbytes]
    refine dif_neg ?_
    rw [hj]
    omega
  simp only [Update, hfill, hkeep, Option.bind_eq_bind, Option.bind_some, Option.bind_none, j]

/-! ### Final -/

/-- The bytes of a word, one by one. -/
lemma word_bytes {w : Word} {k : ℕ} (hw : w.toNat = k % 2 ^ 32) :
    [24, 16, 8, 0].map (fun n => UInt8.ofNat ((w >>> n) &&& 255#32).toNat) =
      Bytes.toBigEndian k := by
  have hbyte (n : ℕ) : ((w >>> n) &&& 255#32).toNat = k % 2 ^ 32 / 2 ^ n % 256 := by
    have hmask : (w >>> n).toNat &&& 255 = (w >>> n).toNat % 256 :=
      Nat.and_two_pow_sub_one_eq_mod _ 8
    rw [BitVec.toNat_and]
    refine hmask.trans ?_
    rw [BitVec.toNat_ushiftRight, hw, Nat.shiftRight_eq_div_pow]
  have hmod {i j : ℕ} (h : i % 256 = j % 256) : UInt8.ofNat i = UInt8.ofNat j :=
    UInt8.toNat_inj.mp (by rw [UInt8.toNat_ofNat', UInt8.toNat_ofNat', h])
  simp only [List.map_cons, List.map_nil, hbyte, Bytes.toBigEndian]
  congr 1
  · exact hmod (by omega)
  congr 1
  · exact hmod (by omega)
  congr 1
  · exact hmod (by omega)
  congr 1
  exact hmod (by omega)

lemma Absorbed.finalcount {s : CSHA1} {m : ByteString} (h : Absorbed s m) :
    s.finalcount = SHA1.lengthField m.length := by
  rw [SHA1.lengthField, ← word_bytes h.high, ← word_bytes h.low]
  rfl

lemma digest_eq (state : Fin 5 → Word) : digest state = (toState state).bytes := by
  have hword (w : Word) := word_bytes (Nat.mod_eq_of_lt w.isLt).symm
  simp only [SHA1.State.bytes, ← hword]
  rfl

/-- The test of the padding loop. -/
lemma Absorbed.full_iff {s : CSHA1} {m : ByteString} (h : Absorbed s m) :
    s.m_count 0 &&& 504#32 = 448#32 ↔ m.length % 64 = 56 := by
  have hshift : s.m_count 0 &&& 504#32 = ((s.m_count 0 >>> 3) &&& 0x3F#32) <<< 3 := by
    apply BitVec.eq_of_getLsbD_eq
    intro i hi
    simp only [BitVec.getLsbD_and, BitVec.getLsbD_shiftLeft, BitVec.getLsbD_ushiftRight]
    interval_cases i <;> simp
  rw [hshift, ← BitVec.toNat_inj, BitVec.toNat_shiftLeft, toNat_offset h.low, Nat.shiftLeft_eq,
    BitVec.toNat_ofNat]
  omega

lemma Absorbed.updateZeros {s : CSHA1} {m : ByteString} (h : Absorbed s m) (k fuel : ℕ)
    (hk : (m.length + k) % 64 = 56) (hlt : k < 64) (hfuel : k < fuel) :
    ∃ s', CSHA1.updateZeros fuel s = some s' ∧ Absorbed s' (m ++ List.replicate k 0) := by
  induction k generalizing s m fuel with
  | zero =>
    obtain ⟨fuel, rfl⟩ : ∃ n, fuel = n + 1 := ⟨fuel - 1, by omega⟩
    refine ⟨s, if_neg (not_not.mpr (h.full_iff.mpr hk)), ?_⟩
    rw [List.replicate_zero, List.append_nil]
    exact h
  | succ k ih =>
    obtain ⟨fuel, rfl⟩ : ∃ n, fuel = n + 1 := ⟨fuel - 1, by omega⟩
    obtain ⟨s₁, hupdate, h₁⟩ := h.update [0] 1#32 rfl (by simp; omega)
    obtain ⟨s', hrest, h'⟩ := ih h₁ fuel (by simp; omega) (by omega) (by omega)
    refine ⟨s', ?_, ?_⟩
    · rw [CSHA1.updateZeros, if_pos (by rw [Ne, h.full_iff]; omega), hupdate, Option.bind_some,
        hrest]
    · rw [List.append_assoc] at h'
      exact h'

theorem Absorbed.final {s : CSHA1} {m : ByteString} (h : Absorbed s m) :
    s.Final = some (wiped (SHA1.hash m)) := by
  obtain ⟨s₁, hone, h₁⟩ := h.update [0x80] 1#32 rfl (by simp; omega)
  obtain ⟨s₂, hzeros, h₂⟩ := h₁.updateZeros ((119 - m.length % 64) % 64) 64
    (by simp; omega) (by omega) (by omega)
  obtain ⟨s₃, hlength, h₃⟩ := h₂.update (SHA1.lengthField m.length) 8#32 rfl
    (by simp [SHA1.lengthField]; omega)
  have hdigest : digest s₃.m_state = SHA1.hash m := by
    rw [digest_eq, h₃.state]
    rfl
  simp only [Final, h.finalcount, hone, hzeros, hlength, hdigest, Option.bind_eq_bind,
    Option.bind_some, Option.pure_def]

/-! ### Messages in parts -/

/-- The data of the calls of `Update`, in order. -/
def updates : CSHA1 → List ByteString → Option CSHA1
  | s, [] => some s
  | s, chunk :: chunks =>
    (s.Update chunk (BitVec.ofNat 32 chunk.length)).bind fun s' => s'.updates chunks

/-- With every call, the bytes in the buffer and the data have a length of 32 bits; `n` bytes have
been taken in before. -/
def fits : ℕ → List ByteString → Bool
  | _, [] => true
  | n, chunk :: chunks => n % 64 + chunk.length < 2 ^ 32 && fits (n + chunk.length) chunks

lemma toNat_length {chunk : ByteString} (h : chunk.length < 2 ^ 32) :
    (BitVec.ofNat 32 chunk.length).toNat = chunk.length :=
  (BitVec.toNat_ofNat ..).trans (Nat.mod_eq_of_lt h)

lemma Absorbed.updates {s : CSHA1} {m : ByteString} (h : Absorbed s m) {chunks : List ByteString}
    (hfits : fits m.length chunks = true) :
    ∃ s', s.updates chunks = some s' ∧ Absorbed s' (m ++ chunks.flatten) := by
  induction chunks generalizing s m with
  | nil => exact ⟨s, rfl, by rwa [List.flatten_nil, List.append_nil]⟩
  | cons chunk chunks ih =>
    simp only [fits, Bool.and_eq_true, decide_eq_true_eq] at hfits
    obtain ⟨hchunk, hchunks⟩ := hfits
    have hlen : chunk.length < 2 ^ 32 := lt_of_le_of_lt (Nat.le_add_left ..) hchunk
    obtain ⟨s₁, hupdate, h₁⟩ := h.update chunk _ (toNat_length hlen) hchunk
    obtain ⟨s', hrest, h'⟩ := ih h₁ (by rwa [List.length_append])
    refine ⟨s', ?_, ?_⟩
    · rw [CSHA1.updates, hupdate, Option.bind_some, hrest]
    · rwa [List.flatten_cons, ← List.append_assoc]

lemma Absorbed.updates_overflow {s : CSHA1} {m : ByteString} (h : Absorbed s m)
    {chunks : List ByteString} (hlen : ∀ chunk ∈ chunks, chunk.length < 2 ^ 32)
    (hover : fits m.length chunks = false) : s.updates chunks = none := by
  induction chunks generalizing s m with
  | nil => cases hover
  | cons chunk chunks ih =>
    obtain ⟨hchunk, hchunks⟩ := List.forall_mem_cons.mp hlen
    rw [CSHA1.updates]
    by_cases hfirst : m.length % 64 + chunk.length < 2 ^ 32
    · obtain ⟨s₁, hupdate, h₁⟩ := h.update chunk _ (toNat_length hchunk) hfirst
      rw [hupdate, Option.bind_some]
      refine ih h₁ hchunks ?_
      rw [List.length_append]
      simpa only [fits, decide_eq_true hfirst, Bool.true_and] using hover
    · rw [h.update_overflow chunk _ (toNat_length hchunk) (not_lt.mp hfirst), Option.bind_none]

/-- However a message is cut up into calls of `Update`, the digest is its SHA-1 as long as no call's
length wraps around with what is in the buffer: no access is out of bounds, no loop runs on, and
what the memory held before does not matter. The first call that wraps around writes past the
buffer. -/
theorem final_eq_sha1 (s : CSHA1) {chunks : List ByteString}
    (hlen : ∀ chunk ∈ chunks, chunk.length < 2 ^ 32) :
    (fits 0 chunks = true →
      (s.Reset.updates chunks).bind Final = some (wiped (SHA1.hash chunks.flatten))) ∧
    (fits 0 chunks = false → s.Reset.updates chunks = none) := by
  refine ⟨fun hfits => ?_, (absorbed_Reset s).updates_overflow hlen⟩
  obtain ⟨s', hupdates, h'⟩ := (absorbed_Reset s).updates hfits
  rw [List.nil_append] at h'
  rw [hupdates, Option.bind_some]
  exact h'.final

/-- A hash can be computed by running the code. -/
lemma hash_of_digest {m digest : ByteString} (hfits : fits 0 [m] = true)
    (h : (((wiped []).Reset.updates [m]).bind Final).map (·.m_digest) = some digest) :
    SHA1.hash m = digest := by
  obtain ⟨s', hupdates, h'⟩ := (absorbed_Reset (wiped [])).updates hfits
  rw [List.nil_append, List.flatten_singleton] at h'
  rw [hupdates, Option.bind_some, h'.final] at h
  exact Option.some.inj h

/-- The first test vector of the header. -/
example : (((wiped []).Reset.updates [[97, 98, 99]]).bind Final).map (·.m_digest) =
    some [0xA9, 0x99, 0x3E, 0x36, 0x47, 0x06, 0x81, 0x6A, 0xBA, 0x3E, 0x25, 0x71, 0x78, 0x50,
      0xC2, 0x6C, 0x9C, 0xD0, 0xD8, 0x9D] := by
  decide +kernel

theorem final_eq_sha1_abc : ((wiped []).Reset.updates [[97], [98, 99]]).bind Final =
    some (wiped (SHA1.hash [97, 98, 99])) :=
  (final_eq_sha1 (wiped []) (by decide)).1 (by decide)

/-! ### Reports -/

lemma length_intercalate_le {n : ℕ} {texts : List ByteString} (h : ∀ t ∈ texts, t.length ≤ n) :
    (List.intercalate [32] texts).length ≤ texts.length * (n + 1) := by
  induction texts with
  | nil => exact Nat.zero_le _
  | cons t texts ih =>
    obtain ⟨ht, htexts⟩ := List.forall_mem_cons.mp h
    have hrest := ih htexts
    cases texts with
    | nil =>
      simp only [List.intercalate_singleton, List.length_cons, List.length_nil]
      omega
    | cons t' texts =>
      rw [List.intercalate_cons_cons, List.length_append, List.length_append, List.length_singleton,
        List.length_cons, Nat.add_mul, Nat.one_mul]
      omega

lemma length_decimal_le (x : UInt8) : (decimal x).length ≤ 3 := by
  have h : ∀ n < 256, (Nat.toDigits 10 n).length ≤ 3 := by decide +kernel
  rw [decimal, List.length_map]
  exact h x.toNat x.toNat_lt

/-- A report of any type fits into the 84 characters of `tszOut` with its end. -/
lemma length_ReportHash_lt {s : CSHA1} (hs : s.m_digest.length = 20) (rtReportType : ReportType) :
    (s.ReportHash rtReportType).length < 84 := by
  have hspaced {f : UInt8 → ByteString} (hf : ∀ x, (f x).length ≤ 3) :
      (List.intercalate [32] (s.m_digest.map f)).length < 84 := by
    have h := length_intercalate_le (show ∀ t ∈ s.m_digest.map f, t.length ≤ 3 by simp [hf])
    rw [List.length_map, hs] at h
    omega
  cases rtReportType with
  | REPORT_HEX => exact hspaced fun x => by simp [hex]
  | REPORT_DIGIT => exact hspaced length_decimal_le
  | REPORT_HEX_SHORT =>
    have h : (s.m_digest.flatMap hex).length = s.m_digest.length * 2 := by
      simp [List.length_flatMap, hex]
    rw [ReportHash, h, hs]
    decide

/-! ### The response to a challenge -/

lemma toLowerChar_upperHexChar {n : ℕ} (h : n < 16) :
    toLowerChar (upperHexChar n) = Uuid.hexChar n := by
  interval_cases n <;> rfl

/-- Two digits for every byte. -/
def lowerHex (l : ByteString) : ByteString :=
  l.flatMap fun x => [Uuid.hexChar (x.toNat / 16), Uuid.hexChar (x.toNat % 16)]

lemma length_lowerHex (l : ByteString) : (lowerHex l).length = 2 * l.length := by
  induction l with
  | nil => rfl
  | cons x l ih =>
    rw [lowerHex, List.flatMap_cons, List.length_append, ← lowerHex, ih, List.length_cons]
    simp only [List.length_cons, List.length_nil]
    omega

lemma isHexChar_lowerHex (l : ByteString) : ∀ ch ∈ lowerHex l, isHexChar ch = true := by
  intro ch hch
  obtain ⟨x, -, hx⟩ := List.mem_flatMap.mp hch
  have hlt := x.toNat_lt
  obtain rfl | hx := List.mem_cons.mp hx
  · exact isHexChar_hexChar (by omega)
  · rw [List.mem_singleton.mp hx]
    exact isHexChar_hexChar (by omega)

/-- The digits are read back by the loop of `uuid_t::get`. -/
lemma getOctets_lowerHex (l : ByteString) : Uuid.getOctets l.length (lowerHex l) = some l := by
  induction l with
  | nil => rfl
  | cons x l ih =>
    have hlt := x.toNat_lt
    have hhi := hexDigit_hexChar (show x.toNat / 16 < 16 by omega)
    have hlo := hexDigit_hexChar (show x.toNat % 16 < 16 by omega)
    have hchar := isHexChar_lowerHex [x] (Uuid.hexChar (x.toNat / 16)) List.mem_cons_self
    have hx : UInt8.ofNat (x.toNat / 16) <<< 4 ||| UInt8.ofNat (x.toNat % 16) = x := by
      apply UInt8.toNat_inj.mp
      rw [toNat_octet (hexDigit_lt hhi) (hexDigit_lt hlo), UInt8.toNat_ofNat',
        UInt8.toNat_ofNat']
      omega
    have hcons : lowerHex (x :: l) =
      Uuid.hexChar (x.toNat / 16) :: Uuid.hexChar (x.toNat % 16) :: lowerHex l := rfl
    rw [List.length_cons, hcons, Uuid.getOctets, toLowerChar_of_isHexChar hchar, hhi, hlo, ih]
    simp only [Option.bind_eq_bind, Option.bind_some, Option.pure_def, hx]

/-- The hash of the handshake. -/
def sha1 : Digest where
  hex m := lowerHex (SHA1.hash m)
  length_hex m := by rw [length_lowerHex, SHA1.length_hash]

lemma ReportHashStl_short (s : CSHA1) :
    s.ReportHashStl .REPORT_HEX_SHORT = lowerHex s.m_digest := by
  rw [ReportHashStl, ReportHash, List.map_flatMap, lowerHex]
  congr 1
  funext x
  have hlt := x.toNat_lt
  simp only [hex, List.map_cons, List.map_nil]
  rw [toLowerChar_upperHexChar (by omega), toLowerChar_upperHexChar (by omega)]

/-- The response that is calculated is the one of the handshake with SHA-1 for its hash, in
lower-case hexadecimal digits from which the hash can be read. -/
theorem calculateChallengeResponse_eq_sha1 (sha : CSHA1) {phrase password : ByteString}
    (hlen : (password ++ phrase).length < 2 ^ 32) :
    sha.calculateChallengeResponse phrase password =
      some (AuthResponseMsg.calculateChallengeResponse sha1 phrase password) ∧
    (∀ ch ∈ AuthResponseMsg.calculateChallengeResponse sha1 phrase password,
      isHexChar ch = true) ∧
    Uuid.getOctets 20 (AuthResponseMsg.calculateChallengeResponse sha1 phrase password) =
      some (SHA1.hash (password ++ phrase)) := by
  have hcast : (BitVec.ofNat 32 (password ++ phrase).length).toNat = (password ++ phrase).length :=
    (BitVec.toNat_ofNat ..).trans (Nat.mod_eq_of_lt hlen)
  obtain ⟨s, hupdate, h⟩ := (absorbed_Reset sha).update (password ++ phrase) _ hcast
    (by simpa using hlen)
  refine ⟨?_, isHexChar_lowerHex _, ?_⟩
  · simp only [CSHA1.calculateChallengeResponse, if_pos hlen, hupdate, h.final, Option.bind_eq_bind,
      Option.bind_some, Option.pure_def, ReportHashStl_short]
    rfl
  · have hread := getOctets_lowerHex (SHA1.hash (password ++ phrase))
    rw [SHA1.length_hash] at hread
    exact hread

theorem calculateChallengeResponse_eq_sha1_seven :
    (wiped []).calculateChallengeResponse (List.replicate 7 48) [112, 119] =
      some (AuthResponseMsg.calculateChallengeResponse sha1 (List.replicate 7 48) [112, 119]) :=
  (calculateChallengeResponse_eq_sha1 (wiped []) (by decide)).1

end CSHA1

end Whip
