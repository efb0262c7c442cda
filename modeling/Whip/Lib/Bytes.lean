import Mathlib.Data.List.Basic
import Mathlib.Data.List.TakeDrop
import Mathlib.Tactic.Ring

/-!
# Byte strings at offsets

The contents of a file or a buffer are a list. `patch f off b` is the file `f` after the bytes `b`
were written at offset `off`, and `OccursAt f p b` says that `f` holds `b` at offset `p`. A file
that is only appended to keeps everything it holds where it is.

`toBigEndian` and `ofBigEndian` are the four-byte network order of a 32-bit number.
-/

namespace Bytes

variable {α : Type*}

/-- The file after `b` was written at offset `off`; a gap before `off` is filled with `zero`. -/
def patch (zero : α) (f : List α) (off : ℕ) (b : List α) : List α :=
  f.take off ++ List.replicate (off - f.length) zero ++ b ++ f.drop (off + b.length)

/-- Writing at the end of a file appends. -/
@[simp] lemma patch_length (zero : α) (f b : List α) : patch zero f f.length b = f ++ b := by
  simp [patch]

/-- `f` holds `b` at offset `p`. -/
def OccursAt (f : List α) (p : ℕ) (b : List α) : Prop :=
  ∃ pre post, f = pre ++ b ++ post ∧ pre.length = p

lemma OccursAt.append {f b : List α} {p : ℕ} (h : OccursAt f p b) (g : List α) :
    OccursAt (f ++ g) p b := by
  obtain ⟨pre, post, rfl, hp⟩ := h
  exact ⟨pre, post ++ g, by simp, hp⟩

lemma OccursAt.of_prefix {f g b : List α} {p : ℕ} (h : OccursAt f p b) (hfg : f <+: g) :
    OccursAt g p b := by
  obtain ⟨t, rfl⟩ := hfg
  exact h.append t

lemma occursAt_append_end (f b : List α) : OccursAt (f ++ b) f.length b :=
  ⟨f, [], by simp, rfl⟩

/-- The two halves of what a file holds. -/
lemma OccursAt.split {f b c : List α} {p : ℕ} (h : OccursAt f p (b ++ c)) :
    OccursAt f p b ∧ OccursAt f (p + b.length) c := by
  obtain ⟨pre, post, rfl, rfl⟩ := h
  exact ⟨⟨pre, c ++ post, by simp, rfl⟩, ⟨pre ++ b, post, by simp, by simp⟩⟩

/-- Reading `b.length` bytes at `p` gives back `b`. -/
lemma OccursAt.take_drop {f b : List α} {p : ℕ} (h : OccursAt f p b) :
    (f.drop p).take b.length = b := by
  obtain ⟨pre, post, rfl, rfl⟩ := h
  simp [List.append_assoc]

lemma OccursAt.le_length {f b : List α} {p : ℕ} (h : OccursAt f p b) :
    p + b.length ≤ f.length := by
  obtain ⟨pre, post, rfl, rfl⟩ := h
  simp

/-! ### Network byte order -/

/-- The four bytes of a number in network order (`htonl` written to memory). -/
def toBigEndian (n : ℕ) : List UInt8 :=
  [UInt8.ofNat (n / 2 ^ 24), UInt8.ofNat (n / 2 ^ 16), UInt8.ofNat (n / 2 ^ 8), UInt8.ofNat n]

/-- The number a byte string in network order stands for (`ntohl` of four bytes). -/
def ofBigEndian (bs : List UInt8) : ℕ := bs.foldl (fun n b => n * 256 + b.toNat) 0

@[simp] lemma length_toBigEndian (n : ℕ) : (toBigEndian n).length = 4 := rfl

lemma ofBigEndian_toBigEndian {n : ℕ} (h : n < 2 ^ 32) : ofBigEndian (toBigEndian n) = n := by
  simp only [ofBigEndian, toBigEndian, List.foldl_cons, List.foldl_nil, UInt8.toNat_ofNat']
  omega

lemma ofBigEndian_lt_pow (bs : List UInt8) : ofBigEndian bs < 256 ^ bs.length := by
  have hfold (n : ℕ) :
      bs.foldl (fun n b => n * 256 + b.toNat) n < (n + 1) * 256 ^ bs.length := by
    induction bs generalizing n with
    | nil => simp
    | cons b bs ih =>
      have hb := b.toNat_lt
      calc bs.foldl (fun n b => n * 256 + b.toNat) (n * 256 + b.toNat)
        _ < (n * 256 + b.toNat + 1) * 256 ^ bs.length := ih _
        _ ≤ (n + 1) * 256 * 256 ^ bs.length := Nat.mul_le_mul_right _ (by omega)
        _ = (n + 1) * 256 ^ (b :: bs).length := by rw [List.length_cons]; ring
  simpa [ofBigEndian] using hfold 0

end Bytes
