import Mathlib.Data.List.Basic
import Mathlib.Data.List.TakeDrop

/-!
# Reliable streams

A stream keeps everything that was ever put into it, and how much of it has been taken out. What is
taken out is what was put in, in the same order; a reader waits until all it asks for is there.
-/

structure Pipe (α : Type*) where
  bytes : List α := []
  taken : ℕ := 0

namespace Pipe

variable {α : Type*}

def write (p : Pipe α) (b : List α) : Pipe α := { p with bytes := p.bytes ++ b }

/-- `none` as long as there is less than `n` to take. -/
def read (p : Pipe α) (n : ℕ) : Option (List α × Pipe α) :=
  if p.taken + n ≤ p.bytes.length then
    some ((p.bytes.drop p.taken).take n, { p with taken := p.taken + n })
  else none

@[simp] lemma bytes_write (p : Pipe α) (b : List α) : (p.write b).bytes = p.bytes ++ b := rfl

@[simp] lemma taken_write (p : Pipe α) (b : List α) : (p.write b).taken = p.taken := rfl

variable {p p' : Pipe α} {n : ℕ} {b : List α}

lemma bytes_of_read (h : p.read n = some (b, p')) : p'.bytes = p.bytes := by
  simp only [read, Option.ite_none_right_eq_some, Option.some.injEq, Prod.mk.injEq] at h
  rw [← h.2.2]

lemma taken_of_read (h : p.read n = some (b, p')) : p'.taken = p.taken + n := by
  simp only [read, Option.ite_none_right_eq_some, Option.some.injEq, Prod.mk.injEq] at h
  rw [← h.2.2]

lemma le_of_read (h : p.read n = some (b, p')) : p.taken + n ≤ p.bytes.length := by
  simp only [read, Option.ite_none_right_eq_some] at h
  exact h.1

/-- What is read is known as soon as it is known what the stream will hold. -/
lemma eq_of_read (h : p.read n = some (b, p')) {rest before mid after : List α}
    (hbytes : p.bytes ++ rest = before ++ (mid ++ after)) (htaken : p.taken = before.length)
    (hmid : mid.length = n) : b = mid := by
  simp only [read, Option.ite_none_right_eq_some, Option.some.injEq, Prod.mk.injEq] at h
  obtain ⟨hle, rfl, -⟩ := h
  calc (p.bytes.drop p.taken).take n
      = ((p.bytes ++ rest).drop p.taken).take n := by
        rw [List.drop_append_of_le_length (by omega), List.take_append_of_le_length]
        rw [List.length_drop]
        omega
    _ = mid := by
        rw [hbytes, htaken, List.drop_left, ← hmid, List.take_left]

/-- A read is possible when what it asks for is there. -/
lemma exists_read {before mid after : List α} (hbytes : p.bytes = before ++ (mid ++ after))
    (htaken : p.taken = before.length) (hmid : mid.length = n) :
    ∃ p', p.read n = some (mid, p') := by
  have hle : p.taken + n ≤ p.bytes.length := by
    rw [hbytes, htaken, ← hmid]
    simp
  have hread : p.read n = some ((p.bytes.drop p.taken).take n, { p with taken := p.taken + n }) :=
    if_pos hle
  have hnil : p.bytes ++ [] = before ++ (mid ++ after) := by rw [List.append_nil, hbytes]
  have heq := eq_of_read hread hnil htaken hmid
  exact ⟨_, heq ▸ hread⟩

end Pipe
