import Whip.Storage.DataFile

/-!
# Records of a data file

What the two calls of `DataFile` do to the disk, whichever of their system calls fail. A data file
only grows: `writeNewAsset` that returns has appended the whole record, and one that throws or is
stopped has appended a prefix of it. `getAssetAtPosition` changes nothing and returns a record that
is there.
-/

namespace Whip

open Bytes Effect

/-! ### What the work on an open file leaves alone -/

/-- The object keeps its number and its file, nothing is closed, the descriptors of data-file
objects are the same ones, and of the disk only the data file behind the object may change. -/
structure FileFrame (w w' : World) : Prop where
  fd : w'.impl.fd = w.impl.fd
  obj : w'.impl.obj = w.impl.obj
  target : w'.impl.target = w.impl.target
  closes : w'.closes = w.closes
  nextObj : w'.nextObj = w.nextObj
  owner : ∀ fd obj, w'.fds.owner fd = some (.dataFile obj) ↔ w.fds.owner fd = some (.dataFile obj)
  calls : w'.calls <:+ w.calls
  openFiles : w'.openFiles = w.openFiles
  disk : ∃ f, w'.disk = w.disk.setData w.impl.target.1 w.impl.target.2 f

/-- Of work that only reads. -/
structure ReadFrame (w w' : World) : Prop extends FileFrame w w' where
  sameDisk : w'.disk = w.disk

namespace FileFrame

lemma refl (w : World) : FileFrame w w :=
  ⟨rfl, rfl, rfl, rfl, rfl, fun _ _ => Iff.rfl, List.suffix_refl _, rfl, _,
    (Disk.setData_self ..).symm⟩

lemma trans (w₁ w₂ w₃ : World) (h : FileFrame w₁ w₂) (h' : FileFrame w₂ w₃) :
    FileFrame w₁ w₃ where
  fd := h'.fd.trans h.fd
  obj := h'.obj.trans h.obj
  target := h'.target.trans h.target
  closes := h'.closes.trans h.closes
  nextObj := h'.nextObj.trans h.nextObj
  owner := fun fd obj => (h'.owner fd obj).trans (h.owner fd obj)
  calls := h'.calls.trans h.calls
  openFiles := h'.openFiles.trans h.openFiles
  disk := by
    obtain ⟨f, hf⟩ := h.disk
    obtain ⟨g, hg⟩ := h'.disk
    exact ⟨g, by rw [hg, hf, h.target, Disk.setData_setData]⟩

end FileFrame

namespace ReadFrame

lemma refl (w : World) : ReadFrame w w := ⟨FileFrame.refl w, rfl⟩

lemma trans (w₁ w₂ w₃ : World) (h : ReadFrame w₁ w₂) (h' : ReadFrame w₂ w₃) : ReadFrame w₁ w₃ :=
  ⟨h.toFileFrame.trans _ _ _ h'.toFileFrame, h'.sameDisk.trans h.sameDisk⟩

/-- Moving the offset. -/
lemma of_offset (w : World) (n : ℕ) :
    ReadFrame w { w with impl := { w.impl with offset := n } } :=
  ⟨⟨rfl, rfl, rfl, rfl, rfl, fun _ _ => Iff.rfl, List.suffix_refl _, rfl, _,
    (Disk.setData_self ..).symm⟩, rfl⟩

lemma keeps_syscall : Keeps ReadFrame syscall := by
  intro w
  unfold syscall
  split
  · exact ReadFrame.refl w
  · next c cs hcs =>
    refine ⟨⟨rfl, rfl, rfl, rfl, rfl, fun fd obj => FdTable.owner_foldl_others _ _ _ _, ?_, rfl, _,
      (Disk.setData_self ..).symm⟩, rfl⟩
    rw [hcs]
    exact List.suffix_cons c cs

lemma keeps_posixError (what : String) : Keeps ReadFrame (posixError what) :=
  fun w => ReadFrame.refl w

lemma keeps_fsExists (p : Disk → Bool) : Keeps ReadFrame (fsExists p) := by
  refine keeps_syscall.bind trans fun o => ?_
  cases o with
  | ok => exact .get_bind fun w => ReadFrame.refl w
  | _ => exact .throw refl _

lemma keeps_size : Keeps ReadFrame PosixDataFileImpl.size := by
  refine keeps_syscall.bind trans fun o => ?_
  cases o with
  | ok => exact .get_bind fun w => ReadFrame.refl w
  | raise what => exact .throw refl _
  | stop n => exact .throw refl _
  | _ => exact (keeps_posixError _).bind trans fun _ => .pure refl _

lemma keeps_doSeek (position : ℤ) : Keeps ReadFrame (PosixDataFileImpl.doSeek position) := by
  refine keeps_syscall.bind trans fun o => ?_
  cases o with
  | ok =>
    dsimp only
    split_ifs
    · exact keeps_posixError _
    · exact .modify fun w => .of_offset w _
  | raise what => exact .throw refl _
  | stop n => exact .throw refl _
  | _ => exact keeps_posixError _

lemma keeps_transfer (n m : ℕ) : Keeps ReadFrame (PosixDataFileImpl.transfer n m) := by
  refine .get_bind fun w => ?_
  refine Keeps.bind trans (.modify fun w => .of_offset w _) (fun _ => ?_) w
  dsimp only
  split_ifs
  · exact (keeps_posixError _).bind trans fun _ => .pure refl _
  · exact .pure refl _

lemma keeps_read (n : ℕ) : Keeps ReadFrame (PosixDataFileImpl.read n) := by
  refine keeps_syscall.bind trans fun o => ?_
  cases o with
  | ok => exact keeps_transfer n n
  | short m => exact keeps_transfer n m
  | raise what => exact .throw refl _
  | stop n => exact .throw refl _
  | err => exact (keeps_posixError _).bind trans fun _ => .pure refl _

lemma keeps_readRecord (position : ℤ) : Keeps ReadFrame (DataFile.readRecord position) :=
  (keeps_doSeek position).bind trans fun _ =>
    (keeps_read 4).bind trans fun _ => (keeps_read _).bind trans fun _ => .pure refl _

end ReadFrame

/-- The process keeps running through these calls. -/
def Live (cs : List Call) : Prop := ∀ c ∈ cs, ∀ n, c.outcome ≠ .stop n

lemma Live.of_suffix {cs cs' : List Call} (h : Live cs) (hs : cs' <:+ cs) : Live cs' :=
  fun c hc => h c (hs.subset hc)

/-- A call is entered in every case, and a live one does not stop the process. -/
lemma syscall_spec (w : World) :
    ∃ o w', syscall w = .ok o w' ∧ ReadFrame w w' ∧ (Live w.calls → ∀ n, o ≠ .stop n) := by
  have hframe := ReadFrame.keeps_syscall w
  unfold syscall at hframe ⊢
  split at hframe
  · exact ⟨_, _, rfl, hframe, by simp⟩
  · next c cs hcs => exact ⟨_, _, rfl, hframe, fun h => h c (hcs ▸ List.mem_cons_self)⟩

namespace FileFrame

lemma of_read {α : Type} {x : VfsM α} (h : Keeps ReadFrame x) : Keeps FileFrame x :=
  h.mono fun _ _ h => h.toFileFrame

lemma keeps_putBytes (bytes : ByteString) : Keeps FileFrame (PosixDataFileImpl.putBytes bytes) :=
  .modify fun _ => ⟨rfl, rfl, rfl, rfl, rfl, fun _ _ => Iff.rfl, List.suffix_refl _, rfl, _, rfl⟩

lemma keeps_stopAfter {α : Type} {effect : VfsM Unit} (h : Keeps FileFrame effect) :
    Keeps FileFrame (stopAfter effect : VfsM α) :=
  (h.bind trans fun _ => .throw refl _).tryCatch trans fun _ => .throw refl _

lemma keeps_write (data : ByteString) : Keeps FileFrame (PosixDataFileImpl.write data) := by
  have herror (what : String) := of_read (ReadFrame.keeps_posixError what)
  refine (of_read ReadFrame.keeps_syscall).bind trans fun o => ?_
  cases o with
  | ok => exact keeps_putBytes data
  | short m =>
    refine (keeps_putBytes _).bind trans fun _ => ?_
    split_ifs
    · exact herror _
    · exact .pure refl _
  | raise what => exact .throw refl _
  | stop m => exact keeps_stopAfter (keeps_putBytes _)
  | err => exact herror _

lemma keeps_numericCast32 (n : ℕ) : Keeps FileFrame (numericCast32 n) := by
  unfold numericCast32
  split_ifs
  · exact .pure refl _
  · exact .throw refl _

lemma keeps_seekEnd (fileExisted : Bool) : Keeps FileFrame (DataFile.seekEnd fileExisted) := by
  unfold DataFile.seekEnd
  split_ifs
  · exact (keeps_write _).bind trans fun _ => .pure refl _
  · exact (of_read ReadFrame.keeps_size).bind trans fun pos =>
      (of_read (ReadFrame.keeps_doSeek pos)).bind trans fun _ => .pure refl _

lemma keeps_appendRecord (fileExisted : Bool) (a : Asset) :
    Keeps FileFrame (DataFile.appendRecord fileExisted a) :=
  (keeps_seekEnd fileExisted).bind trans fun _ => (keeps_numericCast32 _).bind trans fun _ =>
    (keeps_write _).bind trans fun _ => (keeps_write _).bind trans fun _ => .pure refl _

end FileFrame

/-! ### The life of an object -/

namespace PosixDataFileImpl

/-- How a scope ends: the destructor closes, unless the process is gone. -/
lemma withObject_eq {α : Type} (body : VfsM α) (w : World) :
    withObject body w = match body (construct w) with
      | .ok r w₁           => (close >>= fun _ => pure r) w₁
      | .error .stopped w₁ => .error .stopped w₁
      | .error e w₁        => (close >>= fun _ => throw e) w₁ := by
  change (tryCatch body _ >>= fun r => close >>= fun _ => pure r) (construct w) = _
  cases hbody : body (construct w) with
  | ok r w₁ => exact bind_ok (tryCatch_ok hbody)
  | error e w₁ =>
    have hrethrow (e : Exn) :
        (((close >>= fun _ => throw e : VfsM α)) >>= fun r => close >>= fun _ => pure r) w₁ =
          (close >>= fun _ => (throw e : VfsM α)) w₁ := by
      obtain ⟨e', w₂, hfirst⟩ :
          ∃ e' w₂, (close >>= fun _ => (throw e : VfsM α)) w₁ = .error e' w₂ := by
        cases hclose : close w₁ with
        | ok u w₂ => exact ⟨e, w₂, bind_ok hclose⟩
        | error e' w₂ => exact ⟨e', w₂, bind_error hclose⟩
      exact (bind_error hfirst).trans hfirst.symm
    rw [tryCatch_bind_error hbody]
    cases e with
    | stopped => rfl
    | _ => exact hrethrow _

/-- What `open` can change: an absent file may have been created, empty. -/
structure OpenFrame (d : DirName) (b : Base) (mode : FileMode) (w w' : World) : Prop where
  obj : w'.impl.obj = w.impl.obj
  closes : w'.closes = w.closes
  nextObj : w'.nextObj = w.nextObj
  calls : w'.calls <:+ w.calls
  openFiles : w'.openFiles = w.openFiles
  disk : w'.disk = w.disk ∨
    mode = .write ∧ w'.disk = w.disk.setData d b (some ((w.disk.data d b).getD []))

/-- The file is open: the number is the object's own. -/
structure Opened (d : DirName) (b : Base) (mode : FileMode) (w w' : World) : Prop
    extends OpenFrame d b mode w w' where
  target : w'.impl.target = (d, b)
  offset : w'.impl.offset = 0
  contents : w'.disk.data d b = some ((w.disk.data d b).getD [])
  owns : w'.fds.owner w'.impl.fd = some (.dataFile w.impl.obj)
  owner : ∀ fd obj, w'.fds.owner fd = some (.dataFile obj) →
    obj = w.impl.obj ∨ w.fds.owner fd = some (.dataFile obj)

/-- The file could not be opened: `_fd` is -1, or what it was if `::open` was not reached. -/
structure OpenFailed (d : DirName) (b : Base) (mode : FileMode) (e : Exn) (w w' : World) : Prop
    extends OpenFrame d b mode w w' where
  fd : e = .stopped ∨ w'.impl.fd = -1 ∨ w'.impl.fd = w.impl.fd
  owner : ∀ fd obj, w'.fds.owner fd = some (.dataFile obj) ↔ w.fds.owner fd = some (.dataFile obj)

lemma OpenFrame.of_read {d : DirName} {b : Base} {mode : FileMode} {w w₁ w' : World}
    (h : ReadFrame w w₁) (h' : OpenFrame d b mode w₁ w') : OpenFrame d b mode w w' where
  obj := h'.obj.trans h.obj
  closes := h'.closes.trans h.closes
  nextObj := h'.nextObj.trans h.nextObj
  calls := h'.calls.trans h.calls
  openFiles := h'.openFiles.trans h.openFiles
  disk := by rw [← h.sameDisk]; exact h'.disk

/-- Of an `open` whose system call has been entered. -/
lemma Opened.of_read {d : DirName} {b : Base} {mode : FileMode} {w w₁ w' : World}
    (h : ReadFrame w w₁) (h' : Opened d b mode w₁ w') : Opened d b mode w w' where
  toOpenFrame := .of_read h h'.toOpenFrame
  target := h'.target
  offset := h'.offset
  contents := by rw [← h.sameDisk]; exact h'.contents
  owns := by rw [← h.obj]; exact h'.owns
  owner := fun fd obj howner => by
    rw [← h.obj, ← h.owner]
    exact h'.owner fd obj howner

lemma OpenFailed.of_read {d : DirName} {b : Base} {mode : FileMode} {e : Exn} {w w₁ w' : World}
    (h : ReadFrame w w₁) (h' : OpenFailed d b mode e w₁ w') : OpenFailed d b mode e w w' where
  toOpenFrame := .of_read h h'.toOpenFrame
  fd := by rw [← h.fd]; exact h'.fd
  owner := fun fd obj => (h'.owner fd obj).trans (h.owner fd obj)

lemma openFailed_spec (d : DirName) (b : Base) (mode : FileMode) (w : World) :
    ∃ e w', openFailed w = .error e w' ∧ OpenFailed d b mode e w w' ∧ e ≠ .stopped :=
  ⟨_, _, rfl, ⟨⟨rfl, rfl, rfl, List.suffix_refl _, rfl, .inl rfl⟩, .inr (.inl rfl),
    fun _ _ => Iff.rfl⟩, by simp⟩

/-- The file is there and gets the lowest free number. -/
lemma assignFd_spec {d : DirName} {b : Base} {f : ByteString} {w : World}
    (hf : w.disk.data d b = some f) (mode : FileMode) :
    ∃ w', assignFd d b w = .ok () w' ∧ Opened d b mode w w' := by
  refine ⟨_, rfl, ⟨rfl, rfl, rfl, List.suffix_refl _, rfl, .inl rfl⟩, rfl, rfl, by simp [hf], ?_,
    ?_⟩
  · simp [FdTable.owner_alloc]
  · intro fd obj howner
    rw [FdTable.owner_alloc] at howner
    split_ifs at howner with h
    · exact .inl (by simpa using howner.symm)
    · exact .inr howner

/-- `O_CREAT` as an update of the disk. -/
lemma createFile_eq (d : DirName) (b : Base) (w : World) :
    createFile d b w =
      .ok () { w with disk := w.disk.setData d b (some ((w.disk.data d b).getD [])) } := by
  change EStateM.Result.ok () _ = _
  dsimp only
  split
  · next h => simp [h]
  · next f h => rw [h, Option.getD_some, ← h, Disk.setData_self]

lemma createFile_frame (d : DirName) (b : Base) (w : World) :
    OpenFrame d b .write w
      { w with disk := w.disk.setData d b (some ((w.disk.data d b).getD [])) } :=
  ⟨rfl, rfl, rfl, List.suffix_refl _, rfl, .inr ⟨rfl, rfl⟩⟩

lemma createFile_assignFd_spec (d : DirName) (b : Base) (w : World) :
    ∃ w', (createFile d b >>= fun _ => assignFd d b) w = .ok () w' ∧ Opened d b .write w w' := by
  rw [bind_ok (createFile_eq d b w)]
  set k := w.disk.setData d b (some ((w.disk.data d b).getD [])) with hk
  have hdata : k.data d b = some ((w.disk.data d b).getD []) := by simp [hk]
  let created : World := { w with disk := k }
  obtain ⟨w', hok, ho⟩ := assignFd_spec (w := created) hdata .write
  have hsame : w'.disk = k := by
    rcases ho.disk with h | ⟨-, h⟩
    · exact h
    · rw [h]
      simp [created, hk]
  exact ⟨w', hok, ⟨ho.obj, ho.closes, ho.nextObj, ho.calls, ho.openFiles, .inr ⟨rfl, hsame⟩⟩,
    ho.target, ho.offset, by rw [hsame, hdata], ho.owns, ho.owner⟩

/-- Either the file is open, or the call threw and said so in `_fd`. -/
lemma openFile_spec (d : DirName) (b : Base) (mode : FileMode) (w : World) :
    (∃ w', openFile d b mode w = .ok () w' ∧ Opened d b mode w w') ∨
      ∃ e w', openFile d b mode w = .error e w' ∧ OpenFailed d b mode e w w' ∧
        (Live w.calls → e ≠ .stopped) := by
  obtain ⟨o, w₁, hsys, hread, hlive⟩ := syscall_spec w
  have hframe : OpenFrame d b mode w₁ w₁ := ⟨rfl, rfl, rfl, List.suffix_refl _, rfl, .inl rfl⟩
  have hsame : ∀ e, OpenFailed d b mode e w₁ w₁ :=
    fun e => ⟨hframe, .inr (.inr rfl), fun _ _ => Iff.rfl⟩
  obtain ⟨e, w', heq, hf, he⟩ := openFailed_spec d b mode w₁
  have hfailed := OpenFailed.of_read hread hf
  unfold openFile
  rw [bind_ok hsys]
  cases o with
  | ok =>
    dsimp only
    rw [get_bind]
    cases mode with
    | read =>
      cases hdata : w₁.disk.data d b with
      | none => exact .inr ⟨e, w', heq, hfailed, fun _ => he⟩
      | some f =>
        obtain ⟨w', heq, ho⟩ := assignFd_spec hdata .read
        exact .inl ⟨w', heq, .of_read hread ho⟩
    | write =>
      obtain ⟨w', heq, ho⟩ := createFile_assignFd_spec d b w₁
      exact .inl ⟨w', heq, .of_read hread ho⟩
  | raise what => exact .inr ⟨_, _, rfl, .of_read hread (hsame _), by simp⟩
  | stop n =>
    have hstop : Live w.calls → Exn.stopped ≠ .stopped := fun h => absurd rfl (hlive h n)
    -- the process may be gone before or after the file came into being
    match n, mode with
    | 0, _ => exact .inr ⟨_, _, rfl, .of_read hread (hsame _), hstop⟩
    | n + 1, .read => exact .inr ⟨_, _, rfl, .of_read hread (hsame _), hstop⟩
    | n + 1, .write =>
      have hcreated : OpenFailed d b .write .stopped w₁ _ :=
        ⟨createFile_frame d b w₁, .inl rfl, fun _ _ => Iff.rfl⟩
      exact .inr ⟨_, _, tryCatch_error (bind_ok (createFile_eq d b w₁)),
        .of_read hread hcreated, hstop⟩
  | _ => exact .inr ⟨e, w', heq, hfailed, fun _ => he⟩

/-- What `close` leaves alone. -/
structure SameDisk (w w' : World) : Prop where
  disk : w'.disk = w.disk
  openFiles : w'.openFiles = w.openFiles
  calls : w'.calls <:+ w.calls

lemma SameDisk.refl (w : World) : SameDisk w w := ⟨rfl, rfl, List.suffix_refl _⟩

lemma SameDisk.trans (w₁ w₂ w₃ : World) (h : SameDisk w₁ w₂) (h' : SameDisk w₂ w₃) :
    SameDisk w₁ w₃ :=
  ⟨h'.disk.trans h.disk, h'.openFiles.trans h.openFiles, h'.calls.trans h.calls⟩

lemma keeps_close : Keeps SameDisk close := by
  refine Keeps.bind SameDisk.trans (ReadFrame.keeps_syscall.mono fun w w' h =>
    ⟨h.sameDisk, h.openFiles, h.calls⟩) fun o => ?_
  cases o with
  | stop n => exact .throw .refl _
  | _ => exact .modify fun w => ⟨rfl, rfl, List.suffix_refl _⟩

/-- Leaving a scope by an exception. -/
lemma close_throw {α : Type} (e : Exn) (w : World) :
    ∃ e' w', (close >>= fun _ => throw e : VfsM α) w = .error e' w' ∧ SameDisk w w' := by
  have hclose := keeps_close w
  cases hc : close w with
  | ok u w₁ => exact ⟨e, w₁, bind_ok hc, by rwa [hc] at hclose⟩
  | error e' w₁ => exact ⟨e', w₁, bind_error hc, by rwa [hc] at hclose⟩

/-- The end of a scope adds nothing to what its body did. -/
lemma withObject_cases {α : Type} (body : VfsM α) (w : World) :
    (∃ r w₁ w', body (construct w) = .ok r w₁ ∧ withObject body w = .ok r w' ∧ SameDisk w₁ w') ∨
      ∃ e w', withObject body w = .error e w' ∧ SameDisk (finalState (body (construct w))) w' := by
  rw [withObject_eq]
  cases hbody : body (construct w) with
  | ok r w₁ =>
    have hclose := keeps_close w₁
    dsimp only
    cases hc : close w₁ with
    | ok u w₂ => exact .inl ⟨r, w₁, w₂, rfl, bind_ok hc, by rwa [hc] at hclose⟩
    | error e w₂ => exact .inr ⟨e, w₂, bind_error hc, by rwa [hc] at hclose⟩
  | error e w₁ =>
    cases e with
    | stopped => exact .inr ⟨_, _, rfl, .refl _⟩
    | _ => exact .inr (close_throw _ w₁)

/-! ### What one call does to the disk -/

/-- The only thing a call on the data file of `(d, b)` changes on the disk is that file. -/
structure DataFrame (d : DirName) (b : Base) (w w' : World) : Prop where
  openFiles : w'.openFiles = w.openFiles
  calls : w'.calls <:+ w.calls
  disk : ∃ f, w'.disk = w.disk.setData d b f

lemma DataFrame.of_sameDisk {d : DirName} {b : Base} {w w₁ w' : World} (h : DataFrame d b w w₁)
    (h' : SameDisk w₁ w') : DataFrame d b w w' :=
  ⟨h'.openFiles.trans h.openFiles, h'.calls.trans h.calls, h'.disk ▸ h.disk⟩

lemma OpenFrame.dataFrame {d : DirName} {b : Base} {mode : FileMode} {w w' : World}
    (h : OpenFrame d b mode (construct w) w') : DataFrame d b w w' := by
  refine ⟨h.openFiles, h.calls, ?_⟩
  rcases h.disk with hd | ⟨-, hd⟩
  · exact ⟨_, hd.trans (Disk.setData_self _ d b).symm⟩
  · exact ⟨_, hd⟩

/-- What the body of a call does up to its explicit `close()`. -/
lemma body_frame {α : Type} (d : DirName) (b : Base) (mode : FileMode) {work : VfsM α}
    (hwork : Keeps FileFrame work) (w : World) :
    DataFrame d b w (finalState ((openFile d b mode >>= fun _ => work) (construct w))) := by
  rcases openFile_spec d b mode (construct w) with ⟨w₁, hopen, ho⟩ | ⟨e, w₁, hopen, hf, -⟩
  · rw [bind_ok hopen]
    have hframe := hwork w₁
    have ho' := ho.toOpenFrame.dataFrame
    obtain ⟨f, hdisk⟩ := ho'.disk
    obtain ⟨g, hdisk'⟩ := hframe.disk
    refine ⟨hframe.openFiles.trans ho'.openFiles, hframe.calls.trans ho'.calls, g, ?_⟩
    rw [hdisk', ho.target, hdisk, Disk.setData_setData]
  · rw [bind_error hopen]
    exact hf.toOpenFrame.dataFrame

/-- A call returns what its work returned; otherwise the disk is what the body left. -/
lemma withFile_cases {α : Type} (d : DirName) (b : Base) (mode : FileMode) (work : VfsM α)
    (w : World) :
    (∃ r w₁ w₂ w', Opened d b mode (construct w) w₁ ∧ work w₁ = .ok r w₂ ∧
        (openFile d b mode >>= fun _ => work) (construct w) = .ok r w₂ ∧
        withFile d b mode work w = .ok r w' ∧ SameDisk w₂ w') ∨
      ∃ e w', withFile d b mode work w = .error e w' ∧
        SameDisk (finalState ((openFile d b mode >>= fun _ => work) (construct w))) w' := by
  set body : VfsM α := openFile d b mode >>= fun _ => work with hbodydef
  have hassoc : (do openFile d b mode; let r ← work; close; return r) =
      body >>= fun r => close >>= fun _ => (pure r : VfsM α) := by
    rw [hbodydef, bind_assoc]
  have hclose : ∀ r : α, Keeps SameDisk (close >>= fun _ => (pure r : VfsM α)) :=
    fun r => keeps_close.bind SameDisk.trans fun _ => .pure .refl _
  unfold withFile
  rw [hassoc]
  rcases withObject_cases (body >>= fun r => close >>= fun _ => (pure r : VfsM α)) w with
    ⟨r, w₃, w', hbody, hw', hsame⟩ | ⟨e, w', hw', hsame⟩
  · obtain ⟨r', w₂, hr, hrest⟩ := bind_eq_ok hbody
    obtain ⟨u, w₁, hopen, hwork⟩ := bind_eq_ok hr
    obtain ⟨u', w₃', hc, hret⟩ := bind_eq_ok hrest
    cases hret
    have hopened : Opened d b mode (construct w) w₁ := by
      rcases openFile_spec d b mode (construct w) with ⟨w₁', hopen', ho⟩ | ⟨e, w₁', hopen', -⟩
      · rw [hopen] at hopen'
        cases hopen'
        exact ho
      · simp [hopen] at hopen'
    exact .inl ⟨r, w₁, w₂, w', hopened, hwork, hr, hw',
      (keeps_close.of_ok hc).trans _ _ _ hsame⟩
  · exact .inr ⟨e, w', hw', (Keeps.finalState_bind .refl body hclose _).trans _ _ _ hsame⟩

/-- What holds of the body of a call, and what `close` cannot spoil, holds of the call. -/
lemma withFile_keeps {α : Type} {d : DirName} {b : Base} {mode : FileMode} {work : VfsM α}
    {T : World → World → Prop} (hT : ∀ w w₁ w', T w w₁ → SameDisk w₁ w' → T w w')
    (hbody : ∀ w, T w (finalState ((openFile d b mode >>= fun _ => work) (construct w)))) :
    Keeps T (withFile d b mode work) := by
  intro w
  have hw := hbody w
  rcases withFile_cases d b mode work w with
    ⟨r, w₁, w₂, w', -, -, hbodyeq, heq, hsame⟩ | ⟨e, w', heq, hsame⟩
  · rw [hbodyeq] at hw
    rw [heq]
    exact hT _ _ _ hw hsame
  · rw [heq]
    exact hT _ _ _ hw hsame

lemma DataFrame.trans {d : DirName} {b : Base} (w₁ w₂ w₃ : World) (h : DataFrame d b w₁ w₂)
    (h' : DataFrame d b w₂ w₃) : DataFrame d b w₁ w₃ := by
  obtain ⟨f, hf⟩ := h.disk
  obtain ⟨g, hg⟩ := h'.disk
  refine ⟨h'.openFiles.trans h.openFiles, h'.calls.trans h.calls, g, ?_⟩
  rw [hg, hf, Disk.setData_setData]

lemma keeps_writeNewAsset (d : DirName) (b : Base) (a : Asset) :
    Keeps (DataFrame d b) (DataFile.writeNewAsset d b a) := by
  have hexists : Keeps (DataFrame d b) (fsExists fun k => (k.data d b).isSome) :=
    (ReadFrame.keeps_fsExists _).mono fun w w' h =>
      ⟨h.openFiles, h.calls, _, h.sameDisk.trans (Disk.setData_self _ d b).symm⟩
  exact hexists.bind DataFrame.trans fun _ => withFile_keeps (fun _ _ _ h h' => h.of_sameDisk h')
    (body_frame d b _ (FileFrame.keeps_appendRecord _ a))

/-- A read leaves the disk as it is, also when there is no record at the position. -/
lemma keeps_getAssetAtPosition (d : DirName) (b : Base) (position : ℤ) :
    Keeps SameDisk (DataFile.getAssetAtPosition d b position) := by
  refine withFile_keeps (fun _ _ _ h h' => h.trans _ _ _ h') fun w => ?_
  have hframe {w' : World} (h : OpenFrame d b .read (construct w) w') : SameDisk w w' :=
    ⟨h.disk.resolve_right (by simp), h.openFiles, h.calls⟩
  rcases openFile_spec d b .read (construct w) with ⟨w₁, hopen, ho⟩ | ⟨e, w₁, hopen, hf, -⟩
  · have hread := ReadFrame.keeps_readRecord position w₁
    rw [bind_ok hopen]
    exact (hframe ho.toOpenFrame).trans _ _ _ ⟨hread.sameDisk, hread.openFiles, hread.calls⟩
  · rw [bind_error hopen]
    exact hframe hf.toOpenFrame

end PosixDataFileImpl

/-! ### The bytes of a record -/

/-- The file behind the object holds `f`. -/
def FileHolds (f : ByteString) (w : World) : Prop :=
  w.disk.data w.impl.target.1 w.impl.target.2 = some f

/-- The file holds `f`, and the offset is at its end. -/
def AtEnd (f : ByteString) (w : World) : Prop := FileHolds f w ∧ w.impl.offset = f.length

/-- The file holds `f` and some of the bytes `g` that were to follow. -/
def HoldsPart (f g : ByteString) (w : World) : Prop := ∃ p, p <+: g ∧ FileHolds (f ++ p) w

lemma AtEnd.holdsPart {f : ByteString} {w : World} (h : AtEnd f w) (g : ByteString) :
    HoldsPart f g w := ⟨[], List.nil_prefix, by simpa using h.1⟩

lemma HoldsPart.mono {f g g' : ByteString} {w : World} (h : HoldsPart f g w) (hg : g <+: g') :
    HoldsPart f g' w := by
  obtain ⟨p, hp, hw⟩ := h
  exact ⟨p, hp.trans hg, hw⟩

/-- A part of what follows `g`, after all of `g`. -/
lemma HoldsPart.append {f g g' : ByteString} {w : World} (h : HoldsPart (f ++ g) g' w) :
    HoldsPart f (g ++ g') w := by
  obtain ⟨p, hp, hw⟩ := h
  exact ⟨g ++ p, (List.prefix_append_right_inj g).mpr hp, by rwa [← List.append_assoc]⟩

/-- If `q`, then no call fails. Specifications take `q` as a parameter: without it they are about
every outcome, and with it they say that the program returns. -/
def Quiet (q : Prop) (w : World) : Prop := q → w.calls = []

lemma Quiet.of_suffix {q : Prop} {w w' : World} (h : Quiet q w) (hs : w'.calls <:+ w.calls) :
    Quiet q w' := fun hq => List.suffix_nil.mp (h hq ▸ hs)

/-- Entering a call: either it succeeds, or not all calls do. -/
lemma syscall_bind {α : Type} {q : Prop} {P : World → Prop} {f : Outcome → VfsM α}
    {Q : α → World → Prop} {R : Exn → World → Prop}
    (hP : ∀ w cs fds, P w → P { w with calls := cs, fds := fds })
    (hok : Triple (fun w => P w ∧ Quiet q w) (f .ok) Q R)
    (hfail : ¬ q → ∀ o, o ≠ .ok → Triple P (f o) Q R) :
    Triple (fun w => P w ∧ Quiet q w) (syscall >>= f) Q R := by
  intro w ⟨hw, hq⟩
  cases hcs : w.calls with
  | nil =>
    have heq : syscall w = .ok .ok w := by simp [syscall, hcs]
    rw [bind_ok heq]
    exact hok w ⟨hw, hq⟩
  | cons c cs =>
    have hnq : ¬ q := fun h => by simp [hq h] at hcs
    have heq : syscall w = .ok c.outcome
        { w with calls := cs, fds := c.others.foldl FdTable.others w.fds } := by
      simp [syscall, hcs]
    rw [bind_ok heq]
    have hw' := hP w cs (c.others.foldl FdTable.others w.fds) hw
    by_cases ho : c.outcome = .ok
    · rw [ho]
      exact hok _ ⟨hw', fun h => absurd h hnq⟩
    · exact hfail hnq _ ho _ hw'

lemma posixError_triple {P : World → Prop} {Q : Unit → World → Prop} {R : Exn → World → Prop}
    (what : String) (h : ∀ e w, P w → R e w) : Triple P (posixError what) Q R :=
  fun w hw => h _ w hw

open PosixDataFileImpl in
lemma putBytes_triple (f bytes : ByteString) (R : Exn → World → Prop) :
    Triple (AtEnd f) (putBytes bytes) (fun _ => AtEnd (f ++ bytes)) R := by
  intro w hw
  have hcontents : contents w = f := by simp [contents, show _ = some f from hw.1]
  refine ⟨?_, ?_⟩
  · simp [FileHolds, hcontents, hw.2]
  · simp [hw.2]

open PosixDataFileImpl in
/-- One `::write` at the end of the file. -/
lemma write_triple (q : Prop) (f data : ByteString) :
    Triple (fun w => AtEnd f w ∧ Quiet q w) (write data)
      (fun _ w => AtEnd (f ++ data) w ∧ Quiet q w) (fun _ w => HoldsPart f data w ∧ ¬ q) := by
  have hpart (p : ByteString) (hp : p <+: data) (w : World) (h : AtEnd (f ++ p) w) :
      HoldsPart f data w := ⟨p, hp, h.1⟩
  refine syscall_bind (fun w cs fds h => h) ?_ fun hq o ho => ?_
  · intro w ⟨hw, hq⟩
    exact ⟨putBytes_triple f data (fun _ _ => False) w hw, hq⟩
  have hquiet (w : World) : Quiet q w := fun h => absurd h hq
  cases o with
  | ok => exact absurd rfl ho
  | short m =>
    refine (putBytes_triple f (data.take m) _).bind fun _ => ?_
    split_ifs with hm
    · exact posixError_triple _ fun _ w h => ⟨hpart _ (List.take_prefix m data) w h, hq⟩
    · refine .pure _ fun w h => ⟨?_, hquiet w⟩
      rwa [List.take_of_length_le (not_lt.mp hm)] at h
  | raise what => exact .throw _ fun w h => ⟨h.holdsPart data, hq⟩
  | stop m =>
    refine Triple.tryCatch (R := fun _ w => HoldsPart f data w ∧ ¬ q) ?_
      fun _ => .throw _ fun w h => h
    refine (putBytes_triple f (data.take m) _).bind fun _ => .throw _ fun w h => ?_
    exact ⟨hpart _ (List.take_prefix m data) w h, hq⟩
  | err => exact posixError_triple _ fun _ w h => ⟨h.holdsPart data, hq⟩

/-! ### Appending a record -/

/-- The bytes of a record: the size in network byte order, then the asset. -/
def recordOf (a : Asset) : ByteString := toBigEndian a.data.length ++ a.data

/-- The header, for a file that was not there. -/
def headerFor (fileExisted : Bool) : ByteString := if fileExisted then [] else dataFileHeader

open PosixDataFileImpl in
lemma size_triple (q : Prop) (f : ByteString) :
    Triple (fun w => FileHolds f w ∧ Quiet q w) size
      (fun n w => n = f.length ∧ FileHolds f w ∧ Quiet q w) (fun _ w => FileHolds f w ∧ ¬ q) := by
  refine syscall_bind (fun w cs fds h => h) ?_ fun hq o ho => ?_
  · intro w hw
    exact ⟨by simp [contents, show _ = some f from hw.1], hw⟩
  cases o with
  | ok => exact absurd rfl ho
  | raise what => exact .throw _ fun w h => ⟨h, hq⟩
  | stop n => exact .throw _ fun w h => ⟨h, hq⟩
  | _ =>
    exact (posixError_triple (Q := fun _ _ => False) _ fun _ w h => ⟨h, hq⟩).bind
      fun _ => .pure _ fun w h => h.elim

open PosixDataFileImpl in
lemma doSeek_triple (q : Prop) (f : ByteString) (n : ℕ) :
    Triple (fun w => FileHolds f w ∧ Quiet q w) (doSeek n)
      (fun _ w => FileHolds f w ∧ w.impl.offset = n ∧ Quiet q w)
      (fun _ w => FileHolds f w ∧ ¬ q) := by
  refine syscall_bind (fun w cs fds h => h) ?_ fun hq o ho => ?_
  · dsimp only
    rw [if_neg (by omega)]
    intro w hw
    exact ⟨hw.1, by simp, hw.2⟩
  cases o with
  | ok => exact absurd rfl ho
  | raise what => exact .throw _ fun w h => ⟨h, hq⟩
  | stop n => exact .throw _ fun w h => ⟨h, hq⟩
  | _ => exact posixError_triple _ fun _ w h => ⟨h, hq⟩

/-- The indexer's position is the end of the file, behind the header of a new one. -/
lemma seekEnd_triple (q : Prop) (f : ByteString) (fileExisted : Bool)
    (hf : fileExisted = false → f = []) :
    Triple (fun w => FileHolds f w ∧ w.impl.offset = 0 ∧ Quiet q w) (DataFile.seekEnd fileExisted)
      (fun pos w => pos = (f ++ headerFor fileExisted).length ∧
        AtEnd (f ++ headerFor fileExisted) w ∧ Quiet q w)
      (fun _ w => HoldsPart f (headerFor fileExisted) w ∧ ¬ q) := by
  cases fileExisted with
  | false =>
    obtain rfl := hf rfl
    refine Triple.bind ((write_triple q [] dataFileHeader).conseq
      (fun w h => ⟨⟨h.1, by simpa using h.2.1⟩, h.2.2⟩) (fun _ _ h => h) fun _ _ h => h) fun _ => ?_
    exact .pure _ fun w h => ⟨rfl, h⟩
  | true =>
    have hpart (w : World) (h : FileHolds f w ∧ ¬ q) : HoldsPart f [] w ∧ ¬ q :=
      ⟨⟨[], List.nil_prefix, by simpa using h.1⟩, h.2⟩
    simp only [headerFor, if_true, List.append_nil]
    refine Triple.bind ((size_triple q f).conseq (fun w h => ⟨h.1, h.2.2⟩) (fun _ _ h => h)
      fun _ w h => hpart w h) fun pos => ?_
    intro w ⟨hpos, hw⟩
    subst hpos
    exact Triple.bind ((doSeek_triple q f f.length).conseq (fun w h => h) (fun _ _ h => h)
      fun _ w h => hpart w h) (fun _ => .pure _ fun w h => ⟨rfl, ⟨h.1, h.2.1⟩, h.2.2⟩) w hw

lemma appendRecord_triple (q : Prop) (f : ByteString) (fileExisted : Bool) (a : Asset)
    (hf : fileExisted = false → f = []) (ha : q → a.data.length < 2 ^ 32) :
    Triple (fun w => FileHolds f w ∧ w.impl.offset = 0 ∧ Quiet q w)
      (DataFile.appendRecord fileExisted a)
      (fun pos w => pos = (f ++ headerFor fileExisted).length ∧ a.data.length < 2 ^ 32 ∧
        FileHolds (f ++ headerFor fileExisted ++ recordOf a) w ∧ Quiet q w)
      (fun _ w => HoldsPart f (headerFor fileExisted ++ recordOf a) w ∧ ¬ q) := by
  set g := f ++ headerFor fileExisted with hg
  have hsplit {w : World} (h : HoldsPart g (recordOf a) w) :
      HoldsPart f (headerFor fileExisted ++ recordOf a) w := h.append
  refine Triple.bind ((seekEnd_triple q f fileExisted hf).conseq (fun _ h => h) (fun _ _ h => h)
    fun _ w h => ⟨h.1.mono (List.prefix_append _ _), h.2⟩) fun pos => ?_
  refine Triple.bind
    (Q := fun n w => n = a.data.length ∧ n < 2 ^ 32 ∧ pos = g.length ∧ AtEnd g w ∧ Quiet q w)
    ?_ fun n => ?_
  · intro w ⟨hpos, hw⟩
    unfold numericCast32
    split_ifs with hlt
    · exact ⟨rfl, hlt, hpos, hw⟩
    · exact ⟨hsplit (hw.1.holdsPart _), fun h => hlt (ha h)⟩
  · intro w ⟨hn, hlt, hpos, hw⟩
    subst hn
    refine Triple.bind ((write_triple q g (toBigEndian a.data.length)).conseq (fun _ h => h)
      (fun _ _ h => h) fun _ w h => ⟨hsplit (h.1.mono (List.prefix_append _ _)), h.2⟩)
      (fun _ => ?_) w hw
    refine Triple.bind ((write_triple q _ a.data).conseq (fun _ h => h)
      (fun _ _ h => h) fun _ w h => ⟨hsplit h.1.append, h.2⟩) fun _ => ?_
    refine .pure _ fun w h => ⟨by rw [hpos], hlt, ?_, h.2⟩
    rw [recordOf, ← List.append_assoc]
    exact h.1.1

/-! ### Whole calls -/

namespace PosixDataFileImpl

lemma syscall_quiet {w : World} (h : w.calls = []) : syscall w = .ok .ok w := by
  simp [syscall, h]

lemma close_quiet {w : World} (h : w.calls = []) : ∃ w', close w = .ok () w' :=
  ⟨_, bind_ok (syscall_quiet h)⟩

lemma openFile_quiet {d : DirName} {b : Base} {mode : FileMode} {w : World} (h : w.calls = [])
    (hmode : mode = .write ∨ (w.disk.data d b).isSome) :
    ∃ w', openFile d b mode w = .ok () w' := by
  unfold openFile
  rw [bind_ok (syscall_quiet h)]
  dsimp only
  rw [get_bind]
  cases mode with
  | write =>
    obtain ⟨w', heq, -⟩ := createFile_assignFd_spec d b w
    exact ⟨w', heq⟩
  | read =>
    obtain ⟨f, hf⟩ := Option.isSome_iff_exists.mp (hmode.resolve_left (by simp))
    rw [hf]
    exact ⟨_, rfl⟩

/-- The file has just been opened. -/
lemma Opened.holds {d : DirName} {b : Base} {mode : FileMode} {w w₁ : World}
    (h : Opened d b mode (construct w) w₁) :
    FileHolds ((w.disk.data d b).getD []) w₁ ∧ w₁.impl.offset = 0 := by
  refine ⟨?_, h.offset⟩
  unfold FileHolds
  rw [h.target]
  exact h.contents

/-- The disk after the work on a file that has just been opened. -/
lemma Opened.disk_after {d : DirName} {b : Base} {mode : FileMode} {w w₁ w₂ : World}
    (h : Opened d b mode (construct w) w₁) (hframe : FileFrame w₁ w₂) {g : ByteString}
    (hg : FileHolds g w₂) : w₂.disk = w.disk.setData d b (some g) := by
  obtain ⟨x, hx⟩ := hframe.disk
  obtain ⟨y, hy⟩ := h.toOpenFrame.dataFrame.disk
  unfold FileHolds at hg
  rw [hframe.target, h.target] at hg
  rw [h.target, hy, Disk.setData_setData] at hx
  rw [hx, Disk.data_setData_self] at hg
  rw [hx, hg]

lemma withFile_quiet {α : Type} {d : DirName} {b : Base} {mode : FileMode} {work : VfsM α}
    {w w₁ w₂ : World} {r : α} (hopen : openFile d b mode (construct w) = .ok () w₁)
    (hwork : work w₁ = .ok r w₂) (hcalls : w₂.calls = []) :
    ∃ w', withFile d b mode work w = .ok r w' := by
  obtain ⟨w₃, hclose⟩ := close_quiet hcalls
  have hcalls₃ : w₃.calls = [] :=
    List.suffix_nil.mp (hcalls ▸ (keeps_close.of_ok hclose).calls)
  obtain ⟨w₄, hclose'⟩ := close_quiet hcalls₃
  refine ⟨w₄, ?_⟩
  unfold withFile
  rw [withObject_eq, bind_ok hopen, bind_ok hwork, bind_ok hclose]
  exact bind_ok hclose'

/-- A call that may fail at any point, and its work: `C r g` says that the work returns `r` with the
file holding `g`, and `D g` that it may leave `g` when it throws. -/
lemma withFile_triple {α : Type} (q : Prop) {d : DirName} {b : Base} {mode : FileMode}
    {work : VfsM α} (hwork : Keeps FileFrame work) {f : ByteString} {C : α → ByteString → Prop}
    {D : ByteString → Prop}
    (htriple : Triple (fun w => FileHolds f w ∧ w.impl.offset = 0 ∧ Quiet q w) work
      (fun r w => ∃ g, C r g ∧ FileHolds g w ∧ Quiet q w)
      (fun _ w => ∃ g, D g ∧ FileHolds g w ∧ ¬ q))
    {k : Disk} (hk : (k.data d b).getD [] = f)
    (hmode : q → mode = .write ∨ (k.data d b).isSome) :
    Triple (fun w => w.disk = k ∧ Quiet q w) (withFile d b mode work)
      (fun r w => ∃ g, C r g ∧ w.disk = k.setData d b (some g) ∧ Quiet q w)
      (fun _ w => ¬ q ∧ (w.disk = k ∨
        ∃ g, (g = f ∨ D g ∨ ∃ r, C r g) ∧ w.disk = k.setData d b (some g))) := by
  intro w ⟨hdisk, hq⟩
  subst hdisk hk
  have hpre {w₁ : World} (ho : Opened d b mode (construct w) w₁) :
      FileHolds ((w.disk.data d b).getD []) w₁ ∧ w₁.impl.offset = 0 ∧ Quiet q w₁ :=
    ⟨ho.holds.1, ho.holds.2, hq.of_suffix ho.calls⟩
  rcases withFile_cases d b mode work w with
    ⟨r, w₁, w₂, w', ho, hr, -, heq, hsame⟩ | ⟨e, w', heq, hsame⟩
  · rw [heq]
    obtain ⟨g, hC, hg, hq₂⟩ := htriple.of_ok (hpre ho) hr
    exact ⟨g, hC, hsame.disk.trans (ho.disk_after (hwork.of_ok hr) hg), hq₂.of_suffix hsame.calls⟩
  · rw [heq]
    rcases openFile_spec d b mode (construct w) with ⟨w₁, hopen, ho⟩ | ⟨e₁, w₁, hopen, hf, -⟩
    · rw [bind_ok hopen] at hsame
      cases hr : work w₁ with
      | ok r w₂ =>
        rw [hr] at hsame
        obtain ⟨g, hC, hg, hq₂⟩ := htriple.of_ok (hpre ho) hr
        refine ⟨fun h => ?_, .inr ⟨g, .inr (.inr ⟨r, hC⟩), ?_⟩⟩
        · obtain ⟨w'', hok⟩ := withFile_quiet hopen hr (hq₂ h)
          simp [heq] at hok
        · exact hsame.disk.trans (ho.disk_after (hwork.of_ok hr) hg)
      | error e₂ w₂ =>
        rw [hr] at hsame
        obtain ⟨g, hD, hg, hnq⟩ := htriple.of_error (hpre ho) hr
        refine ⟨hnq, .inr ⟨g, .inr (.inl hD), ?_⟩⟩
        exact hsame.disk.trans (ho.disk_after (hwork.of_error hr) hg)
    · rw [bind_error hopen] at hsame
      refine ⟨fun h => ?_, ?_⟩
      · obtain ⟨w'', hok⟩ := openFile_quiet (d := d) (b := b) (w := construct w) (hq h) (hmode h)
        simp [hopen] at hok
      · rw [hsame.disk, finalState_error]
        exact hf.disk.imp_right fun h => ⟨_, .inl rfl, h.2⟩

end PosixDataFileImpl

/-- What a data file holds, nothing if it is not there. -/
def Disk.contents (k : Disk) (d : DirName) (b : Base) : ByteString := (k.data d b).getD []

/-- What `writeNewAsset` appends to a file. -/
def appended (k : Disk) (d : DirName) (b : Base) (a : Asset) : ByteString :=
  headerFor (k.data d b).isSome ++ recordOf a

/-- The position `writeNewAsset` reports. -/
def newPosition (k : Disk) (d : DirName) (b : Base) : ℕ :=
  (k.contents d b ++ headerFor (k.data d b).isSome).length

lemma fsExists_triple (q : Prop) (p : Disk → Bool) (k : Disk) :
    Triple (fun w => w.disk = k ∧ Quiet q w) (fsExists p)
      (fun r w => r = p k ∧ w.disk = k ∧ Quiet q w) (fun _ w => w.disk = k ∧ ¬ q) := by
  refine syscall_bind (fun w cs fds h => h) ?_ fun hq o ho => ?_
  · intro w hw
    exact ⟨by rw [← hw.1], hw⟩
  cases o with
  | ok => exact absurd rfl ho
  | _ => exact .throw _ fun w h => ⟨h, hq⟩

/-- `writeNewAsset` that returns has appended the record; otherwise a part of it, or nothing, is
there. -/
lemma writeNewAsset_triple (q : Prop) (d : DirName) (b : Base) (a : Asset) (k : Disk)
    (ha : q → a.data.length < 2 ^ 32) :
    Triple (fun w => w.disk = k ∧ Quiet q w) (DataFile.writeNewAsset d b a)
      (fun pos w => pos = newPosition k d b ∧ a.data.length < 2 ^ 32 ∧
        w.disk = k.setData d b (some (k.contents d b ++ appended k d b a)) ∧ Quiet q w)
      (fun _ w => ¬ q ∧ (w.disk = k ∨ ∃ p, p <+: appended k d b a ∧
        w.disk = k.setData d b (some (k.contents d b ++ p)))) := by
  refine Triple.bind ((fsExists_triple q _ k).conseq (fun _ h => h) (fun _ _ h => h)
    fun _ w h => ⟨h.2, .inl h.1⟩) fun fileExisted => ?_
  intro w ⟨hex, hw⟩
  subst hex
  have hnew : (k.data d b).isSome = false → k.contents d b = [] := by
    intro h
    simp [Disk.contents, Option.not_isSome_iff_eq_none.mp (by simp [h] : ¬ (k.data d b).isSome)]
  have hwork := appendRecord_triple q (k.contents d b) (k.data d b).isSome a hnew ha
  refine (PosixDataFileImpl.withFile_triple q (FileFrame.keeps_appendRecord _ a)
    (C := fun pos g => pos = newPosition k d b ∧ a.data.length < 2 ^ 32 ∧
      g = k.contents d b ++ appended k d b a)
    (D := fun g => ∃ p, p <+: appended k d b a ∧ g = k.contents d b ++ p)
    (hwork.conseq (fun _ h => h) ?_ ?_) rfl (fun _ => .inl rfl)).conseq
      (fun _ h => h) ?_ ?_ w hw
  · exact fun pos w h => ⟨_, ⟨h.1, h.2.1, by simp [appended]⟩, h.2.2⟩
  · rintro _ w ⟨⟨p, hp, hholds⟩, hq⟩
    exact ⟨_, ⟨p, hp, rfl⟩, hholds, hq⟩
  · rintro pos w ⟨g, ⟨hpos, hlt, rfl⟩, hdisk, hq⟩
    exact ⟨hpos, hlt, hdisk, hq⟩
  · rintro _ w ⟨hq, hdisk | ⟨g, rfl | ⟨p, hp, rfl⟩ | ⟨pos, -, -, rfl⟩, hdisk⟩⟩
    · exact ⟨hq, .inl hdisk⟩
    · exact ⟨hq, .inr ⟨[], List.nil_prefix, by simpa using hdisk⟩⟩
    · exact ⟨hq, .inr ⟨p, hp, hdisk⟩⟩
    · exact ⟨hq, .inr ⟨_, List.prefix_refl _, hdisk⟩⟩

/-! ### Reading a record back -/

open PosixDataFileImpl in
lemma transfer_triple (q : Prop) (f bs : ByteString) (p m : ℕ) (hbs : OccursAt f p bs)
    (hm : bs.length ≤ m ∨ ¬ q) :
    Triple (fun w => (FileHolds f w ∧ w.impl.offset = p) ∧ Quiet q w) (transfer bs.length m)
      (fun r w => r = bs ∧ (FileHolds f w ∧ w.impl.offset = p + bs.length) ∧ Quiet q w)
      (fun _ w => FileHolds f w ∧ ¬ q) := by
  intro w ⟨⟨hf, hoff⟩, hq⟩
  have hcontents : contents w = f := by simp [contents, show _ = some f from hf]
  have heq : transfer bs.length m w =
      (if ((f.drop p).take (min m bs.length)).length ≠ bs.length then
        posixError "Short read encountered while reading from data file" >>= fun _ =>
          pure ((f.drop p).take (min m bs.length))
      else pure ((f.drop p).take (min m bs.length)) : VfsM ByteString)
        { w with impl := { w.impl with
          offset := p + ((f.drop p).take (min m bs.length)).length } } := by
    rw [← hcontents, ← hoff]
    rfl
  rw [heq]
  rcases le_or_gt bs.length m with hle | hlt
  · rw [min_eq_right hle, hbs.take_drop, if_neg (by simp)]
    exact ⟨rfl, ⟨hf, rfl⟩, hq⟩
  · have hshort : ((f.drop p).take (min m bs.length)).length ≠ bs.length := by
      rw [min_eq_left hlt.le]
      exact ((List.length_take_le _ _).trans_lt hlt).ne
    rw [if_pos hshort]
    exact ⟨hf, hm.resolve_left (not_le.mpr hlt)⟩

open PosixDataFileImpl in
/-- One `::read` of bytes the file holds at the offset. -/
lemma read_triple (q : Prop) (f bs : ByteString) (p : ℕ) (hbs : OccursAt f p bs) :
    Triple (fun w => (FileHolds f w ∧ w.impl.offset = p) ∧ Quiet q w) (read bs.length)
      (fun r w => r = bs ∧ (FileHolds f w ∧ w.impl.offset = p + bs.length) ∧ Quiet q w)
      (fun _ w => FileHolds f w ∧ ¬ q) := by
  refine syscall_bind (fun w cs fds h => h) (transfer_triple q f bs p _ hbs (.inl le_rfl))
    fun hq o ho => ?_
  have hquiet (w : World) : Quiet q w := fun h => absurd h hq
  cases o with
  | ok => exact absurd rfl ho
  | short m =>
    exact (transfer_triple q f bs p m hbs (.inr hq)).conseq (fun w h => ⟨h, hquiet w⟩)
      (fun _ _ h => h) fun _ _ h => h
  | raise what => exact .throw _ fun w h => ⟨h.1, hq⟩
  | stop n => exact .throw _ fun w h => ⟨h.1, hq⟩
  | err =>
    exact (posixError_triple (Q := fun _ _ => False) _ fun _ w h => ⟨h.1, hq⟩).bind
      fun _ => .pure _ fun w h => h.elim

/-- Reading where the file holds a record gives the asset. -/
lemma readRecord_triple (q : Prop) (f : ByteString) (a : Asset) (p : ℕ)
    (ha : a.data.length < 2 ^ 32) (hrec : OccursAt f p (recordOf a)) :
    Triple (fun w => FileHolds f w ∧ w.impl.offset = 0 ∧ Quiet q w) (DataFile.readRecord p)
      (fun r w => r = a ∧ FileHolds f w ∧ Quiet q w) (fun _ w => FileHolds f w ∧ ¬ q) := by
  obtain ⟨hsize, hdata⟩ := hrec.split
  refine Triple.bind ((doSeek_triple q f p).conseq (fun w h => ⟨h.1, h.2.2⟩)
    (fun _ w h => (⟨⟨h.1, h.2.1⟩, h.2.2⟩ : (FileHolds f w ∧ w.impl.offset = p) ∧ Quiet q w))
    fun _ _ h => h) fun _ => ?_
  refine (read_triple q f (toBigEndian a.data.length) p hsize).bind fun size => ?_
  intro w ⟨hread, hw⟩
  subst hread
  rw [ofBigEndian_toBigEndian ha]
  refine Triple.bind (read_triple q f a.data _ hdata) (fun data => ?_) w hw
  intro w ⟨hread, hw⟩
  subst hread
  exact ⟨rfl, hw.1.1, hw.2⟩

/-- `getAssetAtPosition` changes nothing, and where the file holds a record it returns the asset. -/
lemma getAssetAtPosition_triple (q : Prop) {d : DirName} {b : Base} {k : Disk} {f : ByteString}
    {a : Asset} {p : ℕ} (hf : k.data d b = some f) (ha : a.data.length < 2 ^ 32)
    (hrec : OccursAt f p (recordOf a)) :
    Triple (fun w => w.disk = k ∧ Quiet q w) (DataFile.getAssetAtPosition d b p)
      (fun r w => r = a ∧ w.disk = k ∧ Quiet q w) (fun _ w => w.disk = k ∧ ¬ q) := by
  have hself : k.setData d b (some f) = k := by rw [← hf, Disk.setData_self]
  refine (PosixDataFileImpl.withFile_triple q
    (.of_read (ReadFrame.keeps_readRecord p)) (C := fun r g => r = a ∧ g = f) (D := fun g => g = f)
    ((readRecord_triple q f a p ha hrec).conseq (fun _ h => h) ?_ ?_) (k := k) (by simp [hf])
    (fun _ => .inr (by simp [hf]))).conseq (fun _ h => h) ?_ ?_
  · exact fun r w h => ⟨f, ⟨h.1, rfl⟩, h.2⟩
  · exact fun _ w h => ⟨f, rfl, h⟩
  · rintro r w ⟨g, ⟨hr, rfl⟩, hdisk, hq⟩
    exact ⟨hr, hdisk.trans hself, hq⟩
  · rintro _ w ⟨hq, hdisk | ⟨g, rfl | rfl | ⟨r, -, rfl⟩, hdisk⟩⟩
    · exact ⟨hdisk, hq⟩
    all_goals exact ⟨hdisk.trans hself, hq⟩

end Whip
