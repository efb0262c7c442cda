import Whip.Storage.Records
import Whip.Lib.Machine

/-!
# Which descriptors the data-file objects close

The worker thread makes one `DataFile` call after the other while the other threads open and close
descriptors of their own between any two system calls. `World.closes` records every `::close` of a
data-file object together with the owner of the number at that moment.

`close()` keeps `_fd`, so the destructor closes the number a second time. The calls whose closes are
all applied to their own descriptor are exactly those that open the file and then fail before the
explicit `close()`.
-/

namespace Whip

open Effect

/-- Objects are numbered in the order of their construction. -/
def Numbered (w : World) : Prop :=
  ∀ fd obj, w.fds.owner fd = some (.dataFile obj) → obj < w.nextObj

/-- The descriptor behind the object's number is the object's own. -/
def OwnsFd (w : World) : Prop := w.fds.owner w.impl.fd = some (.dataFile w.impl.obj)

lemma FileFrame.ownsFd_iff {w w' : World} (h : FileFrame w w') : OwnsFd w' ↔ OwnsFd w := by
  unfold OwnsFd
  rw [h.fd, h.obj, h.owner]

lemma FileFrame.numbered {w w' : World} (h : FileFrame w w') (hw : Numbered w) : Numbered w' := by
  intro fd obj howner
  rw [h.nextObj]
  exact hw fd obj ((h.owner fd obj).mp howner)

/-! ### Closing -/

/-- One `::close` has been issued: what it hit is on record, and the number is free. -/
structure Closed (w w' : World) : Prop where
  fd : w'.impl.fd = w.impl.fd
  obj : w'.impl.obj = w.impl.obj
  nextObj : w'.nextObj = w.nextObj
  calls : w'.calls <:+ w.calls
  closes : ∃ o, w'.closes = w.closes ++ [⟨w.impl.obj, w.impl.fd, o⟩] ∧
    (o = some (.dataFile w.impl.obj) ↔ OwnsFd w)
  owner : ∀ fd obj, w'.fds.owner fd = some (.dataFile obj) ↔
    fd ≠ w.impl.fd ∧ w.fds.owner fd = some (.dataFile obj)

lemma close_live {w : World} (h : Live w.calls) :
    ∃ w', PosixDataFileImpl.close w = .ok () w' ∧ Closed w w' := by
  obtain ⟨o, w₁, hsys, hframe, hlive⟩ := syscall_spec w
  have hclose : PosixDataFileImpl.close w = .ok ()
      { w₁ with
        closes := w₁.closes ++ [⟨w₁.impl.obj, w₁.impl.fd, w₁.fds.owner w₁.impl.fd⟩]
        fds := w₁.fds.release w₁.impl.fd } := by
    refine (bind_ok hsys).trans ?_
    cases o with
    | stop n => exact absurd rfl (hlive h n)
    | _ => rfl
  refine ⟨_, hclose, hframe.fd, hframe.obj, hframe.nextObj, hframe.calls,
    ⟨w₁.fds.owner w₁.impl.fd, ?_, ?_⟩, ?_⟩
  · rw [hframe.closes, hframe.obj, hframe.fd]
  · rw [hframe.fd, hframe.owner, OwnsFd]
  · intro fd obj
    simp only [FdTable.owner_release, hframe.fd]
    split_ifs with hfd
    · simp [hfd]
    · simp [hfd, hframe.owner]

lemma Closed.numbered {w w' : World} (h : Closed w w') (hw : Numbered w) : Numbered w' := by
  intro fd obj howner
  rw [h.nextObj]
  exact hw fd obj ((h.owner fd obj).mp howner).2

/-- The number a closed object still carries is not its own any more. -/
lemma Closed.not_ownsFd {w w' : World} (h : Closed w w') : ¬ OwnsFd w' := by
  unfold OwnsFd
  rw [h.fd, h.owner]
  exact fun h => h.1 rfl

/-! ### Opening -/

lemma construct_numbered {w : World} (h : Numbered w) : Numbered (PosixDataFileImpl.construct w) :=
  fun fd obj howner => Nat.lt_succ_of_lt (h fd obj howner)

lemma construct_not_owned {w : World} (h : Numbered w) (fd : ℤ) :
    (PosixDataFileImpl.construct w).fds.owner fd ≠ some (.dataFile w.nextObj) :=
  fun howner => absurd (h fd _ howner) (lt_irrefl _)

/-- A freshly opened file is the object's own. -/
lemma Opened.ownsFd {d : DirName} {b : Base} {mode : FileMode} {w w' : World}
    (h : PosixDataFileImpl.Opened d b mode w w') : OwnsFd w' := by
  unfold OwnsFd
  rw [h.owns, h.obj]

/-! ### One call -/

/-- The close was applied to a descriptor the object had opened and not yet closed. -/
def CloseRecord.Owned (r : CloseRecord) : Prop := r.owner = some (.dataFile r.obj)

instance (r : CloseRecord) : Decidable r.Owned := inferInstanceAs (Decidable (_ = _))

/-- The file is opened, and the work on it fails before the explicit `close()`. -/
def OpensThenFails {α : Type} (d : DirName) (b : Base) (mode : FileMode) (work : VfsM α)
    (w : World) : Prop :=
  ∃ w₁ e w₂, PosixDataFileImpl.openFile d b mode (PosixDataFileImpl.construct w) = .ok () w₁ ∧
    work w₁ = .error e w₂

/-- The closes a call adds to the log, all of them owned exactly if `good`. -/
structure CallCloses (w w' : World) (good : Prop) : Prop where
  closes : ∃ rs, w'.closes = w.closes ++ rs ∧ ((∀ r ∈ rs, r.Owned) ↔ good)
  numbered : Numbered w'

lemma Closed.record {w w' : World} (h : Closed w w') :
    ∃ r, w'.closes = w.closes ++ [r] ∧ (r.Owned ↔ OwnsFd w) := by
  obtain ⟨o, hcloses, howned⟩ := h.closes
  exact ⟨_, hcloses, howned⟩

open PosixDataFileImpl

lemma withObject_ok {α : Type} {body : VfsM α} {w w₁ w₂ : World} {r : α}
    (hbody : body (construct w) = .ok r w₁) (hclose : close w₁ = .ok () w₂) :
    withObject body w = .ok r w₂ := by
  rw [withObject_eq, hbody]
  exact bind_ok hclose

lemma withObject_error {α : Type} {body : VfsM α} {w w₁ w₂ : World} {e : Exn}
    (hbody : body (construct w) = .error e w₁) (he : e ≠ .stopped) (hclose : close w₁ = .ok () w₂) :
    withObject body w = .error e w₂ := by
  rw [withObject_eq, hbody]
  cases e with
  | stopped => exact absurd rfl he
  | _ => exact bind_ok hclose

/-- A call whose `open` fails: the destructor closes a number the object never had. -/
lemma withFile_closes_of_error {α : Type} {d : DirName} {b : Base} {mode : FileMode}
    {work : VfsM α} {w w₁ : World} {e : Exn} (hlive : Live w.calls) (hnum : Numbered w)
    (hopen : openFile d b mode (construct w) = .error e w₁)
    (hfailed : OpenFailed d b mode e (construct w) w₁) (he : e ≠ .stopped) :
    CallCloses w (finalState (withFile d b mode work w)) (OpensThenFails d b mode work w) := by
  obtain ⟨w₂, hclose, hclosed⟩ := close_live (hlive.of_suffix hfailed.calls)
  have heq : withFile d b mode work w = .error e w₂ := withObject_error (bind_error hopen) he hclose
  rw [heq]
  have hnot : ¬ OwnsFd w₁ := by
    unfold OwnsFd
    rw [hfailed.owner, hfailed.obj]
    exact construct_not_owned hnum _
  have hnum₁ : Numbered w₁ := fun fd obj howner => by
    rw [hfailed.nextObj]
    exact construct_numbered hnum fd obj ((hfailed.owner fd obj).mp howner)
  obtain ⟨r, hr, howned⟩ := hclosed.record
  refine ⟨⟨[r], by rw [finalState_error, hr, hfailed.closes]; rfl, ?_⟩, hclosed.numbered hnum₁⟩
  simp only [List.mem_singleton, forall_eq, howned, hnot, false_iff]
  rintro ⟨w₁', e', w₂', hopen', -⟩
  simp [hopen] at hopen'

/-- A call that gets as far as its `close()`: the destructor closes the number once more. -/
lemma withFile_closes_of_ok {α : Type} {d : DirName} {b : Base} {mode : FileMode}
    {work : VfsM α} {w w₁ w₂ : World} {r : α} (hlive : Live w₂.calls) (hnum : Numbered w₂)
    (hopen : openFile d b mode (construct w) = .ok () w₁) (hwork : work w₁ = .ok r w₂)
    (hcloses : w₂.closes = w.closes) :
    CallCloses w (finalState (withFile d b mode work w)) (OpensThenFails d b mode work w) := by
  obtain ⟨w₃, hclose₃, hclosed₃⟩ := close_live hlive
  obtain ⟨w₄, hclose₄, hclosed₄⟩ := close_live (hlive.of_suffix hclosed₃.calls)
  have hbody : (openFile d b mode >>= fun _ => work >>= fun r => close >>= fun _ => pure r)
      (construct w) = .ok r w₃ := by
    rw [bind_ok hopen, bind_ok hwork, bind_ok hclose₃]
    rfl
  have heq : withFile d b mode work w = .ok r w₄ := withObject_ok hbody hclose₄
  rw [heq]
  obtain ⟨r₃, hr₃, howned₃⟩ := hclosed₃.record
  obtain ⟨r₄, hr₄, howned₄⟩ := hclosed₄.record
  refine ⟨⟨[r₃, r₄], by rw [finalState_ok, hr₄, hr₃, hcloses]; simp, ?_⟩,
    hclosed₄.numbered (hclosed₃.numbered hnum)⟩
  have hnot : ¬ r₄.Owned := fun h => hclosed₃.not_ownsFd (howned₄.mp h)
  simp only [List.mem_cons, List.not_mem_nil, or_false, forall_eq_or_imp, forall_eq, hnot,
    and_false, false_iff]
  rintro ⟨w₁', e', w₂', hopen', hwork'⟩
  rw [hopen] at hopen'
  cases hopen'
  simp [hwork] at hwork'

/-- A call that fails between `open` and `close()`: the destructor closes the object's own
descriptor. -/
lemma withFile_closes_of_fails {α : Type} {d : DirName} {b : Base} {mode : FileMode}
    {work : VfsM α} {w w₁ w₂ : World} {e : Exn} (hlive : Live w₂.calls) (hnum : Numbered w₂)
    (hopen : openFile d b mode (construct w) = .ok () w₁) (hwork : work w₁ = .error e w₂)
    (hcloses : w₂.closes = w.closes) (howns : OwnsFd w₂) :
    CallCloses w (finalState (withFile d b mode work w)) (OpensThenFails d b mode work w) := by
  have hgood : OpensThenFails d b mode work w := ⟨w₁, e, w₂, hopen, hwork⟩
  have hbody : (openFile d b mode >>= fun _ => work >>= fun r => close >>= fun _ => pure r)
      (construct w) = .error e w₂ := by
    rw [bind_ok hopen, bind_error hwork]
  by_cases he : e = .stopped
  · subst he
    have heq : withFile d b mode work w = .error .stopped w₂ := by
      unfold withFile
      rw [withObject_eq, hbody]
    rw [heq]
    exact ⟨⟨[], by simp [hcloses], by simp [hgood]⟩, hnum⟩
  · obtain ⟨w₃, hclose, hclosed⟩ := close_live hlive
    have heq : withFile d b mode work w = .error e w₃ := withObject_error hbody he hclose
    rw [heq]
    obtain ⟨r, hr, howned⟩ := hclosed.record
    refine ⟨⟨[r], by rw [finalState_error, hr, hcloses], ?_⟩, hclosed.numbered hnum⟩
    simp [howned, howns, hgood]

/-- Exactly the calls that open the file and then fail close only what is theirs. -/
lemma withFile_closes {α : Type} (d : DirName) (b : Base) (mode : FileMode) {work : VfsM α}
    (hwork : Keeps FileFrame work) {w : World} (hlive : Live w.calls) (hnum : Numbered w) :
    CallCloses w (finalState (withFile d b mode work w)) (OpensThenFails d b mode work w) := by
  rcases openFile_spec d b mode (construct w) with
    ⟨w₁, hopen, hopened⟩ | ⟨e, w₁, hopen, hfailed, hstop⟩
  · have hnum₁ : Numbered w₁ := fun fd obj howner => by
      rw [hopened.nextObj]
      rcases hopened.owner fd obj howner with rfl | h
      · exact Nat.lt_succ_self w.nextObj
      · exact construct_numbered hnum fd obj h
    have hlive₁ : Live w₁.calls := hlive.of_suffix hopened.calls
    cases hres : work w₁ with
    | ok r w₂ =>
      have hframe := hwork.of_ok hres
      exact withFile_closes_of_ok (hlive₁.of_suffix hframe.calls) (hframe.numbered hnum₁) hopen
        hres (hframe.closes.trans hopened.closes)
    | error e w₂ =>
      have hframe := hwork.of_error hres
      exact withFile_closes_of_fails (hlive₁.of_suffix hframe.calls) (hframe.numbered hnum₁) hopen
        hres (hframe.closes.trans hopened.closes) (hframe.ownsFd_iff.mpr (Opened.ownsFd hopened))
  · exact withFile_closes_of_error hlive hnum hopen hfailed (hstop hlive)

/-! ### Runs of calls -/

inductive FileCall
  | getAssetAtPosition (d : DirName) (b : Base) (position : ℤ)
  | writeNewAsset (d : DirName) (b : Base) (asset : Asset)

/-- A call on the worker thread: the files as the rest of the program has left them, and what each
system call of it does. -/
structure FileEvent where
  call : FileCall
  disk : Disk
  calls : List Call
  live : Live calls

namespace FileCall

/-- The world after the call, whether it returned or threw. -/
def perform : FileCall → World → World
  | .getAssetAtPosition d b position, w => finalState (DataFile.getAssetAtPosition d b position w)
  | .writeNewAsset d b asset, w         => finalState (DataFile.writeNewAsset d b asset w)

/-- The call opens its file and fails before `close()`, or fails before it constructs an object. -/
def FailsAfterOpen : FileCall → World → Prop
  | .getAssetAtPosition d b position, w => OpensThenFails d b .read (DataFile.readRecord position) w
  | .writeNewAsset d b asset, w =>
    match fsExists (fun k => (k.data d b).isSome) w with
    | .ok fileExisted w₁ => OpensThenFails d b .write (DataFile.appendRecord fileExisted asset) w₁
    | .error _ _         => True

/-- What one call adds to the log. -/
lemma perform_closes (c : FileCall) {w : World} (hlive : Live w.calls) (hnum : Numbered w) :
    CallCloses w (c.perform w) (c.FailsAfterOpen w) := by
  cases c with
  | getAssetAtPosition d b position =>
    exact withFile_closes d b .read (.of_read (ReadFrame.keeps_readRecord position)) hlive hnum
  | writeNewAsset d b asset =>
    have hkeeps := ReadFrame.keeps_fsExists fun k => (k.data d b).isSome
    simp only [perform, FailsAfterOpen, DataFile.writeNewAsset]
    cases hex : fsExists (fun k => (k.data d b).isSome) w with
    | error e w₁ =>
      have hframe := hkeeps.of_error hex
      rw [bind_error hex]
      exact ⟨⟨[], by simp [hframe.closes], by simp⟩, hframe.numbered hnum⟩
    | ok fileExisted w₁ =>
      have hframe := hkeeps.of_ok hex
      rw [bind_ok hex]
      obtain ⟨⟨rs, hrs, howned⟩, hnum'⟩ := withFile_closes d b .write
        (FileFrame.keeps_appendRecord fileExisted asset) (hlive.of_suffix hframe.calls)
        (hframe.numbered hnum)
      exact ⟨⟨rs, by rw [hrs, hframe.closes], howned⟩, hnum'⟩

end FileCall

namespace FileEvent

/-- The world the call starts in. -/
def enter (e : FileEvent) (w : World) : World := { w with disk := e.disk, calls := e.calls }

def step (w : World) (e : FileEvent) : Option World := some (e.call.perform (e.enter w))

/-- The closes of a run are all owned exactly if each of its calls is of the kind that closes only
what is its own. -/
lemma run_closes (es : List FileEvent) {w : World} (hnum : Numbered w) :
    ∃ w' rs, Machine.run step w es = some w' ∧ w'.closes = w.closes ++ rs ∧
      ((∀ r ∈ rs, r.Owned) ↔
        Machine.Guarded step (fun w e => e.call.FailsAfterOpen (e.enter w)) w es) := by
  induction es generalizing w with
  | nil => exact ⟨w, [], rfl, by simp, by simp [Machine.Guarded]⟩
  | cons e es ih =>
    obtain ⟨⟨rs, hrs, howned⟩, hnum'⟩ := e.call.perform_closes (w := e.enter w) e.live hnum
    obtain ⟨w', rs', hrun, hrs', howned'⟩ := ih hnum'
    refine ⟨w', rs ++ rs', hrun, by rw [hrs', hrs, List.append_assoc]; rfl, ?_⟩
    simp only [Machine.Guarded, step, Option.some.injEq, forall_eq', ← howned, ← howned',
      List.mem_append, or_imp, forall_and]

/-- Every close of a run of calls, in any interleaving with the descriptors of the other threads, is
applied to a descriptor which the object had opened and not yet closed, exactly if each call opens
its file and then fails before its explicit `close()` (or throws before it has an object). -/
theorem closes_owned_iff (w : World) (hnum : Numbered w) (hcloses : w.closes = [])
    (es : List FileEvent) :
    (∃ w', Machine.run step w es = some w' ∧ ∀ r ∈ w'.closes, r.Owned) ↔
      Machine.Guarded step (fun w e => e.call.FailsAfterOpen (e.enter w)) w es := by
  obtain ⟨w', rs, hrun, hrs, howned⟩ := run_closes es hnum
  rw [hcloses, List.nil_append] at hrs
  simp [hrun, hrs, howned]

/-- A process with its three standard descriptors open. -/
def startedProcess : World := { fds := [some .other, some .other, some .other] }

lemma startedProcess_numbered : Numbered startedProcess := by
  intro fd obj howner
  simp only [startedProcess, FdTable.owner] at howner
  split_ifs at howner
  match hn : fd.toNat with
  | 0 | 1 | 2 => simp [hn] at howner
  | n + 3 => simp [hn] at howner

/-- `0aa/globals.data` with one record, of a single byte. -/
def oneRecord : Disk :=
  ({} : Disk).setData [48, 97, 97] .globals (some (dataFileHeader ++ [0, 0, 0, 1, 7]))

/-- A read whose third system call, the read of the size, fails. -/
def failingRead : FileEvent where
  call := .getAssetAtPosition [48, 97, 97] .globals 8
  disk := oneRecord
  calls := [{}, {}, { outcome := .err }]
  live := by simp [Live]

theorem failingRead_closes_owned :
    ∃ w', Machine.run step startedProcess [failingRead] = some w' ∧ ∀ r ∈ w'.closes, r.Owned :=
  (closes_owned_iff startedProcess startedProcess_numbered rfl [failingRead]).mpr
    ⟨⟨_, _, _, rfl, rfl⟩, fun _ _ => trivial⟩

/-- A read that succeeds, while another thread accepts a connection between the explicit `close()`
and the destructor. -/
def readDuringAccept : FileEvent where
  call := .getAssetAtPosition [48, 97, 97] .globals 8
  disk := oneRecord
  calls := [{}, {}, {}, {}, {}, { others := [.openFd] }]
  live := by simp [Live]

/-- The destructor closes the connection. -/
theorem readDuringAccept_closes_other :
    ∃ w', Machine.run step startedProcess [readDuringAccept] = some w' ∧
      w'.closes = [⟨1, 3, some (.dataFile 1)⟩, ⟨1, 3, some .other⟩] ∧
      ¬ ∀ r ∈ w'.closes, r.Owned :=
  ⟨_, rfl, by decide, by decide⟩

end FileEvent

end Whip
