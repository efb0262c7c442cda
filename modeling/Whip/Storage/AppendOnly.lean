import Whip.Storage.Records

/-!
# The data file is append-only

`writeNewAsset` chooses its offset from an existence test and a size query and writes up to three
pieces, any of which may fail after any of its bytes. Whatever the earlier calls have left behind, a
call only adds bytes at the end; so a record that was written completely stays where it is.
-/

namespace Whip.DataFile

open Bytes Effect

/-- A call of `writeNewAsset`: an asset of 1 to `2 ^ 32 - 1` bytes, and what happens in the calls to
the system. -/
structure WriteCall where
  asset : Asset
  nonempty : 0 < asset.data.length
  size_lt : asset.data.length < 2 ^ 32
  calls : List Call

variable (d : DirName) (b : Base)

/-- What the call returns and leaves; a process that stops in it is started again. -/
def attempt (w : World) (c : WriteCall) : Option ℤ × World :=
  match writeNewAsset d b c.asset { w with calls := c.calls } with
  | .ok position w'    => (some position, w')
  | .error .stopped w' => (none, { disk := w'.disk })
  | .error _ w'        => (none, w')

/-- The world after the calls. -/
def after (w : World) (cs : List WriteCall) : World :=
  cs.foldl (fun w c => (attempt d b w c).2) w

/-- The bytes of the data file. -/
def bytes (w : World) : ByteString := w.disk.contents d b

/-- `getAssetAtPosition` returns the asset, if the system calls do what they should. -/
def ReadsBack (w : World) (position : ℤ) (a : Asset) : Prop :=
  ∃ w', getAssetAtPosition d b position { w with calls := [] } = .ok a w'

variable {d b} {w : World}

lemma bytes_of_setData {k : Disk} {f : ByteString} (h : w.disk = k.setData d b (some f)) :
    bytes d b w = f := by
  simp [bytes, h, Disk.contents]

/-! ### One call -/

/-- A call that returns has put its record at the position it returns, and it is the last thing in
the file. -/
lemma attempt_some {c : WriteCall} {position : ℤ} (h : (attempt d b w c).1 = some position) :
    ∃ p : ℕ, position = p ∧ (bytes d b w).length ≤ p ∧
      OccursAt (bytes d b (attempt d b w c).2) p (recordOf c.asset) ∧
      (bytes d b (attempt d b w c).2).length = p + (recordOf c.asset).length := by
  have htriple := writeNewAsset_triple False d b c.asset w.disk False.elim
  unfold attempt at h ⊢
  split at h
  · next position' w' hok =>
    cases h
    obtain ⟨hpos, -, hdisk, -⟩ := htriple.of_ok (s := { w with calls := c.calls })
      ⟨rfl, False.elim⟩ hok
    refine ⟨newPosition w.disk d b, hpos, ?_⟩
    dsimp only
    rw [bytes_of_setData hdisk, appended, ← List.append_assoc]
    refine ⟨?_, occursAt_append_end _ _, List.length_append⟩
    rw [newPosition, List.length_append]
    exact Nat.le_add_right _ _
  · cases h
  · cases h

/-- However the call ends, the file keeps its bytes. -/
lemma bytes_prefix_attempt (c : WriteCall) : bytes d b w <+: bytes d b (attempt d b w c).2 := by
  have htriple := writeNewAsset_triple False d b c.asset w.disk False.elim
  have herror (e : Exn) (w' : World)
      (h : writeNewAsset d b c.asset { w with calls := c.calls } = .error e w') :
      bytes d b w <+: bytes d b w' := by
    obtain ⟨-, hdisk | ⟨p, -, hdisk⟩⟩ := htriple.of_error (s := { w with calls := c.calls })
      ⟨rfl, False.elim⟩ h
    · rw [bytes, bytes, hdisk]
    · rw [bytes_of_setData hdisk]
      exact List.prefix_append _ _
  unfold attempt
  split
  · next position w' hok =>
    obtain ⟨-, -, hdisk, -⟩ := htriple.of_ok (s := { w with calls := c.calls })
      ⟨rfl, False.elim⟩ hok
    rw [bytes_of_setData hdisk]
    exact List.prefix_append _ _
  · next w' hstopped => exact herror .stopped w' hstopped
  · next e w' _ hthrown => exact herror e w' hthrown

/-! ### Sequences of calls -/

lemma after_append (cs cs' : List WriteCall) :
    after d b w (cs ++ cs') = after d b (after d b w cs) cs' :=
  List.foldl_append

lemma after_concat (cs : List WriteCall) (c : WriteCall) :
    after d b w (cs ++ [c]) = (attempt d b (after d b w cs) c).2 :=
  after_append cs [c]

lemma bytes_prefix_after (w : World) (cs : List WriteCall) :
    bytes d b w <+: bytes d b (after d b w cs) := by
  induction cs generalizing w with
  | nil => exact List.prefix_rfl
  | cons c cs ih => exact (bytes_prefix_attempt c).trans (ih _)

/-- Later calls only add bytes. -/
lemma bytes_mono {cs cs' : List WriteCall} (h : cs <+: cs') :
    bytes d b (after d b w cs) <+: bytes d b (after d b w cs') := by
  obtain ⟨rest, rfl⟩ := h
  rw [after_append]
  exact bytes_prefix_after _ rest

/-- A record that is in the file is read back. -/
lemma readsBack_of_occursAt {a : Asset} {p : ℕ} (ha : a.data.length < 2 ^ 32)
    (h : OccursAt (bytes d b w) p (recordOf a)) : ReadsBack d b w p a := by
  cases hdata : w.disk.data d b with
  | none =>
    have hlen := h.le_length
    simp [bytes, Disk.contents, hdata, recordOf, toBigEndian] at hlen
  | some f =>
    have hf : bytes d b w = f := by simp [bytes, Disk.contents, hdata]
    obtain ⟨r, w', hread, rfl, -⟩ := (getAssetAtPosition_triple True hdata ha (hf ▸ h)).exists_ok
      (s := { w with calls := [] }) ⟨rfl, fun _ => rfl⟩ fun _ _ h => h.2 trivial
    exact ⟨w', hread⟩

/-- From any content of the file and for every sequence of calls, each of which may fail after any
part of its bytes: no call changes a byte that was there; what a call has written under the position
it returned is read back after every later call; and the records of two calls do not overlap. -/
theorem append_only (d : DirName) (b : Base) (w : World) (cs : List WriteCall) :
    (∀ fs c, fs ++ [c] <+: cs →
      bytes d b (after d b w fs) <+: bytes d b (after d b w (fs ++ [c]))) ∧
    (∀ fs c position, fs ++ [c] <+: cs → (attempt d b (after d b w fs) c).1 = some position →
      ∀ gs, fs ++ [c] <+: gs → gs <+: cs → ReadsBack d b (after d b w gs) position c.asset) ∧
    ∀ fs c position fs' c' position', fs ++ [c] <+: fs' → fs' ++ [c'] <+: cs →
      (attempt d b (after d b w fs) c).1 = some position →
      (attempt d b (after d b w fs') c').1 = some position' →
      position + (recordOf c.asset).length ≤ position' := by
  refine ⟨fun fs c _ => bytes_mono (List.prefix_append fs [c]), ?_, ?_⟩
  · intro fs c position _ hpos gs hgs _
    obtain ⟨p, rfl, -, hrec, -⟩ := attempt_some hpos
    rw [← after_concat] at hrec
    exact readsBack_of_occursAt c.size_lt (hrec.of_prefix (bytes_mono hgs))
  · intro fs c position fs' c' position' hfs _ hpos hpos'
    obtain ⟨p, rfl, -, -, hend⟩ := attempt_some hpos
    obtain ⟨p', rfl, hstart, -, -⟩ := attempt_some hpos'
    have hle := (bytes_mono (d := d) (b := b) (w := w) hfs).length_le
    rw [after_concat, hend] at hle
    exact_mod_cast hle.trans hstart

/-- The first write to a new file ends after three bytes of the header. -/
def cutShort : WriteCall := ⟨⟨[1, 2]⟩, by decide, by decide, [{}, {}, { outcome := .short 3 }]⟩

def complete : WriteCall := ⟨⟨[7]⟩, by decide, by decide, []⟩

/-- The next write goes behind the three bytes, and the one after it behind that. -/
theorem append_only_after_cut :
    (attempt [] .globals {} cutShort).1 = none ∧
      (attempt [] .globals (after [] .globals {} [cutShort]) complete).1 = some 3 ∧
      ReadsBack [] .globals (after [] .globals {} [cutShort, complete, complete]) 3 ⟨[7]⟩ := by
  have hpos : (attempt [] .globals (after [] .globals {} [cutShort]) complete).1 = some 3 := rfl
  exact ⟨rfl, hpos, (append_only [] .globals {} [cutShort, complete, complete]).2.1
    [cutShort] complete 3 (by simp) hpos _ (by simp) List.prefix_rfl⟩

end Whip.DataFile
