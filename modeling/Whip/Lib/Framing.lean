import Mathlib.Data.List.Basic
import Mathlib.Tactic.Common

/-!
# Streams of frames

A frame is a header of a fixed size and a body whose size the header says. A reader takes a header,
then the body, then the next header, as long as the stream has a whole frame. What was written as a
sequence of frames is read back as the same sequence, and nothing is left over.
-/

namespace Framing

variable {α : Type*}

/-- How frames are delimited. -/
structure Format (α : Type*) where
  headerSize : ℕ
  headerSize_pos : 0 < headerSize
  bodySize : List α → ℕ

structure Frame (α : Type*) where
  header : List α
  body : List α

namespace Format

variable (f : Format α)

/-- The first frame of a stream, and what follows it; `none` if the stream ends before. -/
def read (s : List α) : Option (Frame α × List α) :=
  let header := s.take f.headerSize
  let rest := s.drop f.headerSize
  if f.headerSize ≤ s.length ∧ f.bodySize header ≤ rest.length then
    some (⟨header, rest.take (f.bodySize header)⟩, rest.drop (f.bodySize header))
  else none

/-- At most `n` frames, and what is left over. -/
def readN : ℕ → List α → List (Frame α) × List α
  | 0, s => ([], s)
  | n + 1, s =>
    match f.read s with
    | none               => ([], s)
    | some (frame, rest) => ((frame :: (readN n rest).1), (readN n rest).2)

/-- All whole frames of a stream; there are not more of them than elements. -/
def readAll (s : List α) : List (Frame α) × List α := f.readN s.length s

/-- The header has the right size and says how long the body is. -/
structure Fits (frame : Frame α) : Prop where
  header : frame.header.length = f.headerSize
  body : f.bodySize frame.header = frame.body.length

end Format

/-- A frame on the wire. -/
def Frame.bytes (frame : Frame α) : List α := frame.header ++ frame.body

namespace Format

variable {f : Format α}

lemma Fits.length_pos {frame : Frame α} (h : f.Fits frame) : 0 < frame.bytes.length := by
  have := f.headerSize_pos
  simp only [Frame.bytes, List.length_append, h.header]
  omega

lemma Fits.read {frame : Frame α} (h : f.Fits frame) (rest : List α) :
    f.read (frame.bytes ++ rest) = some (frame, rest) := by
  have htake : (frame.bytes ++ rest).take f.headerSize = frame.header := by
    simp [Frame.bytes, ← h.header]
  have hdrop : (frame.bytes ++ rest).drop f.headerSize = frame.body ++ rest := by
    simp [Frame.bytes, ← h.header]
  have hlen : f.headerSize ≤ (frame.bytes ++ rest).length := by
    simp [Frame.bytes, ← h.header]
  simp only [Format.read, htake, hdrop, h.body, hlen]
  simp

lemma read_nil : f.read [] = none := by
  have := f.headerSize_pos
  simp [read]
  omega

lemma readN_flatMap {frames : List (Frame α)} (h : ∀ frame ∈ frames, f.Fits frame) {n : ℕ}
    (hn : frames.length ≤ n) : f.readN n (frames.flatMap Frame.bytes) = (frames, []) := by
  induction frames generalizing n with
  | nil =>
    cases n with
    | zero => rfl
    | succ n => simp [readN, read_nil]
  | cons frame frames ih =>
    cases n with
    | zero => simp at hn
    | succ n =>
      have hrest := ih (fun frame' hmem => h frame' (List.mem_cons_of_mem frame hmem))
        (Nat.le_of_succ_le_succ hn)
      simp [readN, (h frame List.mem_cons_self).read, hrest]

/-- Nothing is lost in reading. -/
lemma flatMap_readN (n : ℕ) (s : List α) :
    (f.readN n s).1.flatMap Frame.bytes ++ (f.readN n s).2 = s := by
  induction n generalizing s with
  | zero => rfl
  | succ n ih =>
    unfold readN
    cases hread : f.read s with
    | none => rfl
    | some p =>
      obtain ⟨frame, rest⟩ := p
      have hs : frame.bytes ++ rest = s := by
        simp only [read, Option.ite_none_right_eq_some, Option.some.injEq, Prod.mk.injEq] at hread
        obtain ⟨-, rfl, rfl⟩ := hread
        rw [Frame.bytes, List.append_assoc, List.take_append_drop, List.take_append_drop]
      simp [ih rest, hs]

/-- What was written is read back, with nothing left over. -/
theorem readAll_flatMap {frames : List (Frame α)} (h : ∀ frame ∈ frames, f.Fits frame) :
    f.readAll (frames.flatMap Frame.bytes) = (frames, []) := by
  refine readN_flatMap h ?_
  induction frames with
  | nil => simp
  | cons frame frames ih =>
    have hpos := (h frame List.mem_cons_self).length_pos
    have hrest := ih fun frame' hmem => h frame' (List.mem_cons_of_mem frame hmem)
    simp only [List.flatMap_cons, List.length_append, List.length_cons]
    omega

end Format

end Framing
