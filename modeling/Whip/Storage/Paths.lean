import Whip.Lib.Footprint
import Whip.Storage.Backend

/-!
# The paths the worker touches

Every path the storage layer makes is a directory below the storage root or one of four files in
such a directory. The footprint of a program is a set of paths: on a disk that holds nothing else it
does the same, and everything else on the disk stays as it was. So a path outside its footprint is
neither tested nor opened nor created.
-/

namespace Whip

open Effect

/-! ### Paths -/

/-- A path below the storage root. -/
inductive Path
  | dir (d : DirName)
  | idx (d : DirName) (b : Base)
  | data (d : DirName) (b : Base)
deriving DecidableEq

namespace Path

/-- The component that is cut from an identifier. -/
def head : Path → DirName
  | .dir d    => d
  | .idx d _  => d
  | .data d _ => d

/-- Three characters of `[0-9a-f]`. -/
def isHexHead (head : ByteString) : Bool := head.length == UUID_PATH_CHARS && head.all isHexChar

/-- A path of the store: `storageRoot / hhh`, or one of the four files in it. -/
def inStore (p : Path) : Bool := isHexHead p.head

end Path

namespace Disk

/-- What a set of paths leads to. -/
def only (k : Disk) (S : Path → Bool) : Disk where
  dirs := k.dirs.filter fun d => S (.dir d)
  idx d b := if S (.idx d b) then k.idx d b else .absent
  data d b := if S (.data d b) then k.data d b else none

variable {k : Disk} {S : Path → Bool} {d : DirName} {b : Base}

lemma contains_only (h : S (.dir d) = true) : (k.only S).dirs.contains d = k.dirs.contains d := by
  rw [Bool.eq_iff_iff, List.contains_iff_mem, List.contains_iff_mem]
  simp [only, h]

@[simp] lemma idx_only (h : S (.idx d b) = true) : (k.only S).idx d b = k.idx d b := by
  simp [only, h]

@[simp] lemma data_only (h : S (.data d b) = true) : (k.only S).data d b = k.data d b := by
  simp [only, h]

/-- A new directory. -/
lemma only_cons_dir :
    ({ k with dirs := d :: k.dirs } : Disk).only S =
      if S (.dir d) then { k.only S with dirs := d :: (k.only S).dirs } else k.only S := by
  cases h : S (.dir d) <;> simp [only, h]

lemma only_setIdx (f : IdxFile) : (k.setIdx d b f).only S =
    if S (.idx d b) then (k.only S).setIdx d b f else k.only S := by
  cases h : S (.idx d b) <;>
  · simp only [only, setIdx, Bool.false_eq_true, if_true, if_false, Disk.mk.injEq, true_and,
      and_true]
    funext d' b'
    by_cases hd : d' = d ∧ b' = b
    · simp [hd.1, hd.2, h]
    · simp [hd]

lemma only_setData (f : Option ByteString) : (k.setData d b f).only S =
    if S (.data d b) then (k.only S).setData d b f else k.only S := by
  cases h : S (.data d b) <;>
  · simp only [only, setData, Bool.false_eq_true, if_true, if_false, Disk.mk.injEq, true_and]
    funext d' b'
    by_cases hd : d' = d ∧ b' = b
    · simp [hd.1, hd.2, h]
    · simp [hd]

end Disk

/-! ### Footprints -/

/-- The world with only a set of paths on its disk. -/
def World.only (S : Path → Bool) (w : World) : World := { w with disk := w.disk.only S }

/-- What the disk holds outside a set of paths. -/
def World.outside (S : Path → Bool) (w : World) : Disk := w.disk.only fun p => !S p

/-- The file behind the data-file object, if it matters. -/
def World.On (t : Option (DirName × Base)) (w : World) : Prop := ∀ file ∈ t, w.impl.target = file

lemma World.on_none (w : World) : w.On none := fun _ h => by cases h

/-- The program touches no path outside `S`; before and after it the data-file object is on the
given files. -/
abbrev Touches {α : Type} (S : Path → Bool) (t : Option (DirName × Base)) (x : VfsM α)
    (u : Option (DirName × Base)) : Prop :=
  Within (World.only S) (World.outside S) (World.On t) x (World.On u)

namespace Touches

variable {α : Type} {S : Path → Bool} {t u : Option (DirName × Base)} {d : DirName} {b : Base}

/-- Nothing need be known afterwards. -/
lemma forget {x : VfsM α} (h : Touches S t x u) : Touches S t x none :=
  h.conseq (fun _ hw => hw) fun w _ => w.on_none

lemma syscall : Touches S t syscall t := by
  intro w ht
  unfold Whip.syscall
  have hon (cs : List Call) (fds : FdTable) : World.On t { w with calls := cs, fds := fds } := ht
  cases hc : w.calls <;> simp [hc, ht, hon, World.only, World.outside]

/-- Changes of the disk alone. -/
lemma modifyDisk {f : Disk → Disk} (hpart : ∀ k, f (k.only S) = (f k).only S)
    (hrest : ∀ k, (f k).only (fun p => !S p) = k.only fun p => !S p) :
    Touches S t (modify fun w => { w with disk := f w.disk }) t := by
  refine Within.modify (fun w _ => ?_) (fun w _ => hrest w.disk) fun w ht => ht
  simp [World.only, hpart]

lemma stopAfter {effect : VfsM Unit} (h : Touches S t effect u) {v : Option (DirName × Base)} :
    Touches S t (stopAfter effect : VfsM α) v :=
  Within.tryCatch (Within.bind h fun _ => Within.throw _) (fun _ => Within.throw _) World.on_none

lemma fsExists {p : Disk → Bool} (hp : ∀ k, p (k.only S) = p k) : Touches S t (fsExists p) t := by
  refine Within.bind syscall fun o => ?_
  cases o with
  | ok => exact Within.get_bind (fun w _ => by simp [World.only, hp]) fun w => Within.pure _
  | _ => exact Within.throw _

lemma createDirectory (h : S (.dir d) = true) : Touches S t (createDirectory d) t := by
  have hadd : Touches S t (modify fun w : World =>
      { w with disk := { w.disk with dirs := d :: w.disk.dirs } }) t :=
    modifyDisk (f := fun k => { k with dirs := d :: k.dirs })
      (fun k => by simp [Disk.only_cons_dir, h]) fun k => by simp [Disk.only_cons_dir, h]
  have hcreate : Touches S t (addDirectory d) t :=
    Within.get_bind (fun w _ => by simp only [World.only, Disk.contains_only h]) fun w =>
      Within.ite (Within.pure _) (Within.bind hadd fun _ => Within.pure _)
  refine Within.bind syscall fun o => ?_
  cases o with
  | ok => exact hcreate
  | stop n =>
    cases n with
    | zero => exact Within.throw _
    | succ n => exact Within.bind hcreate fun _ => Within.throw _
  | _ => exact Within.throw _

lemma fsRemove {f : Disk → Disk} (hpart : ∀ k, f (k.only S) = (f k).only S)
    (hrest : ∀ k, (f k).only (fun p => !S p) = k.only fun p => !S p) :
    Touches S t (fsRemove f) t := by
  refine Within.bind syscall fun o => ?_
  cases o with
  | ok => exact modifyDisk hpart hrest
  | stop n =>
    cases n with
    | zero => exact Within.throw _
    | succ n => exact stopAfter (modifyDisk hpart hrest)
  | _ => exact Within.throw _

lemma sqliteCall {what : String} {effect : VfsM α} (h : Touches S t effect t) :
    Touches S t (sqliteCall what effect) t := by
  refine Within.bind syscall fun o => ?_
  cases o with
  | ok => exact h
  | stop n =>
    cases n with
    | zero => exact Within.throw _
    | succ n => exact stopAfter (Within.bind h fun _ => Within.pure _)
  | _ => exact Within.throw _

/-! ### Index files -/

lemma statement (what : String) : Touches S t (SQLiteConnection.statement what) t :=
  sqliteCall (Within.pure _)

lemma setIdx (h : S (.idx d b) = true) (f : IdxFile) :
    Touches S t (modify fun w => { w with disk := w.disk.setIdx d b f }) t :=
  modifyDisk (f := fun k => k.setIdx d b f) (fun k => by simp [Disk.only_setIdx, h])
    fun k => by simp [Disk.only_setIdx, h]

lemma connect (h : S (.idx d b) = true) : Touches S t (SQLiteConnection.connect d b) t := by
  refine sqliteCall (Within.modify (fun w _ => ?_) (fun w _ => ?_) fun w ht => ?_)
  · cases hidx : w.disk.idx d b <;> simp [World.only, h, hidx, Disk.only_setIdx]
  · cases hidx : w.disk.idx d b <;> simp [World.outside, h, Disk.only_setIdx]
  · cases hidx : w.disk.idx d b <;> exact ht

lemma within {body commit : VfsM Unit} (hbody : Touches S t body t)
    (hcommit : Touches S t commit t) :
    Touches S t (SQLiteTransaction.within body commit) none := by
  refine Within.bind (statement _) fun _ => ?_
  refine Within.tryCatch (forget (Within.bind hbody fun _ => hcommit)) ?_ World.on_none
  intro e
  cases e with
  | stopped => exact Within.throw _
  | _ =>
    have hrollback := Within.tryCatch (statement (S := S) (t := none) "ROLLBACK;")
      (fun _ => Within.throw .stopped) World.on_none
    exact Within.bind hrollback fun _ => Within.throw _

lemma initializeDatabase (h : S (.idx d b) = true) :
    Touches S t (SQLiteIndexFile.initializeDatabase d b) none := by
  refine within ?_ (sqliteCall (setIdx h _))
  exact Within.bind (statement _) fun _ => Within.bind (statement _) fun _ => statement _

lemma newIndexFile (h : S (.idx d b) = true) :
    Touches S t (SQLiteIndexFile.new d b) none := by
  refine Within.bind (connect h) fun _ => Within.bind (sqliteCall ?_) fun hasTables => ?_
  · refine Within.get_bind (fun w _ => by simp [World.only, h]) fun w => ?_
    split <;> exact Within.pure _
  · exact Within.ite (initializeDatabase h) (forget (Within.pure _))

/-- The files that are kept open are not on the disk. -/
lemma openFiles (f : World → LRUCache (DirName × Base) Unit)
    (hf : ∀ w, f (w.only S) = f w) :
    Touches S t (modify fun w => { w with openFiles := f w }) t := by
  refine Within.modify (fun w _ => ?_) (fun w _ => rfl) fun w ht => ht
  simp only [World.only] at hf ⊢
  rw [hf]

lemma openIndexFile (h : S (.idx d b) = true) :
    Touches S t (openIndexFile d b) none := by
  refine Within.get_bind (fun w _ => rfl) fun w => ?_
  refine Within.bind (openFiles _ fun _ => rfl) fun _ => Within.ite ?_ ?_
  · exact Within.bind (newIndexFile h) fun _ =>
      openFiles (fun w => w.openFiles.insert (d, b) ()) fun _ => rfl
  · exact forget (Within.pure _)

lemma forceCloseIndexFile : Touches S t (forceCloseIndexFile d b) t := by
  refine Within.get_bind (fun w _ => rfl) fun w => ?_
  refine Within.bind (openFiles _ fun _ => rfl) fun _ => Within.ite ?_ (Within.pure _)
  exact openFiles _ fun _ => rfl

lemma tableRows (h : S (.idx d b) = true) : Touches S t (tableRows d b) t := by
  refine Within.get_bind (fun w _ => by simp [World.only, h]) fun w => ?_
  split
  · exact Within.pure _
  · exact Within.throw _

lemma findAssetPosition (h : S (.idx d b) = true) (uuid : ByteString) :
    Touches S t (IndexFile.findAssetPosition d b uuid) t :=
  sqliteCall (Within.bind (tableRows h) fun _ => Within.pure _)

lemma recordAssetPosition (h : S (.idx d b) = true) (asset : Asset) (position : ℤ) :
    Touches S t (IndexFile.recordAssetPosition d b asset position) t := by
  refine sqliteCall (Within.bind (tableRows h) fun rows => ?_)
  exact Within.ite (Within.throw_bind _ _) (setIdx h _)

lemma getContainedAssetIds (h : S (.idx d b) = true) :
    Touches S t (IndexFile.getContainedAssetIds d b) t := by
  refine sqliteCall (Within.bind (tableRows h) fun rows => ?_)
  induction rows with
  | nil => exact Within.pure _
  | cons row rows ih =>
    rw [List.mapM_cons]
    refine Within.bind ?_ fun _ => Within.bind ih fun _ => Within.pure _
    unfold uuidOfText
    split
    · exact Within.pure _
    · exact Within.throw _

lemma getContainedAssetIdStrings (h : S (.idx d b) = true) :
    Touches S t (IndexFile.getContainedAssetIdStrings d b) t :=
  sqliteCall (Within.bind (tableRows h) fun _ => Within.pure _)

/-! ### Data files -/

lemma posixError (what : String) : Touches S t (posixError what) u :=
  Within.get_bind (fun _ _ => rfl) fun _ => Within.throw _

/-- What the data-file object sees is its file. -/
lemma contents_only (h : S (.data d b) = true) {w : World} (hw : w.On (some (d, b))) :
    PosixDataFileImpl.contents (w.only S) = PosixDataFileImpl.contents w := by
  have htarget : w.impl.target = (d, b) := hw _ rfl
  simp [PosixDataFileImpl.contents, World.only, htarget, h]

lemma createFile (h : S (.data d b) = true) : Touches S t (PosixDataFileImpl.createFile d b) t := by
  refine Within.modify (fun w _ => ?_) (fun w _ => ?_) fun w ht => ?_
  · cases hdata : w.disk.data d b <;> simp [World.only, h, hdata, Disk.only_setData]
  · cases hdata : w.disk.data d b <;> simp [World.outside, h, Disk.only_setData]
  · cases hdata : w.disk.data d b <;> exact ht

lemma assignFd : Touches S t (PosixDataFileImpl.assignFd d b) (some (d, b)) :=
  Within.modify (fun _ _ => rfl) (fun _ _ => rfl) fun _ _ => by simp [World.On]

lemma openFailed : Touches S t PosixDataFileImpl.openFailed u :=
  Within.bind (Within.modify (fun _ _ => rfl) (fun _ _ => rfl) fun _ ht => ht) fun _ =>
    posixError (t := t) _

lemma openFile (h : S (.data d b) = true) (mode : FileMode) :
    Touches S t (PosixDataFileImpl.openFile d b mode) (some (d, b)) := by
  refine Within.bind syscall fun o => ?_
  cases o with
  | ok =>
    refine Within.get_bind (fun w _ => by simp [World.only, h]) fun w => ?_
    split
    · exact openFailed (u := some (d, b))
    · exact assignFd
    · exact Within.bind (createFile h) fun _ => assignFd
  | raise what => exact Within.throw _
  | stop n =>
    cases n with
    | zero => exact Within.throw _
    | succ n => exact stopAfter (Within.ite (createFile h) (Within.pure _))
  | _ => exact openFailed

lemma close : Touches S t PosixDataFileImpl.close t := by
  refine Within.bind syscall fun o => ?_
  split
  · exact Within.throw _
  · exact Within.modify (fun _ _ => rfl) (fun _ _ => rfl) fun _ ht => ht

lemma size (h : S (.data d b) = true) :
    Touches S (some (d, b)) PosixDataFileImpl.size (some (d, b)) := by
  refine Within.bind syscall fun o => ?_
  cases o with
  | ok =>
    refine Within.get_bind (fun w hw => ?_) fun w => Within.pure _
    rw [contents_only h hw]
  | err => exact Within.bind (posixError _) fun _ => Within.pure _
  | short m => exact Within.bind (posixError _) fun _ => Within.pure _
  | _ => exact Within.throw _

/-- The data-file object changes, its file does not. -/
lemma modifyImpl (f : World → PosixDataFileImpl) (hf : ∀ w, f (w.only S) = f w)
    (htarget : ∀ w, (f w).target = w.impl.target) :
    Touches S t (modify fun w => { w with impl := f w }) t := by
  refine Within.modify (fun w _ => ?_) (fun w _ => rfl) fun w ht => ?_
  · simp only [World.only] at hf ⊢
    rw [hf]
  · intro file hfile
    rw [htarget, ht file hfile]

lemma transfer (h : S (.data d b) = true) (n m : ℕ) :
    Touches S (some (d, b)) (PosixDataFileImpl.transfer n m) (some (d, b)) := by
  refine Within.get_bind (fun w hw => ?_) fun w => ?_
  · rw [contents_only h hw]
    rfl
  · refine Within.bind (modifyImpl _ (fun _ => rfl) fun _ => rfl) fun _ => ?_
    exact Within.ite (Within.bind (posixError _) fun _ => Within.pure _) (Within.pure _)

lemma read (h : S (.data d b) = true) (n : ℕ) :
    Touches S (some (d, b)) (PosixDataFileImpl.read n) (some (d, b)) := by
  refine Within.bind syscall fun o => ?_
  cases o with
  | ok => exact transfer h n n
  | short m => exact transfer h n m
  | err => exact Within.bind (posixError _) fun _ => Within.pure _
  | _ => exact Within.throw _

lemma putBytes (h : S (.data d b) = true) (bytes : ByteString) :
    Touches S (some (d, b)) (PosixDataFileImpl.putBytes bytes) (some (d, b)) := by
  refine Within.modify (fun w hw => ?_) (fun w hw => ?_) fun w hw => hw
  · rw [contents_only h hw]
    simp [World.only, hw (d, b) rfl, h, Disk.only_setData]
  · simp [World.outside, hw (d, b) rfl, h, Disk.only_setData]

lemma write (h : S (.data d b) = true) (data : ByteString) :
    Touches S (some (d, b)) (PosixDataFileImpl.write data) (some (d, b)) := by
  refine Within.bind syscall fun o => ?_
  cases o with
  | ok => exact putBytes h data
  | short m =>
    exact Within.bind (putBytes h _) fun _ => Within.ite (posixError _) (Within.pure _)
  | raise what => exact Within.throw _
  | stop m => exact stopAfter (putBytes h _)
  | err => exact posixError _

lemma doSeek (position : ℤ) : Touches S t (PosixDataFileImpl.doSeek position) t := by
  refine Within.bind syscall fun o => ?_
  cases o with
  | ok => exact Within.ite (posixError _) (modifyImpl _ (fun _ => rfl) fun _ => rfl)
  | err => exact posixError _
  | short m => exact posixError _
  | _ => exact Within.throw _

lemma withObject {body : VfsM α} (h : Touches S none body t) :
    Touches S u (PosixDataFileImpl.withObject body) none := by
  refine Within.bind (Within.modify (fun _ _ => rfl) (fun _ _ => rfl) fun _ _ => World.on_none _)
    fun _ => Within.bind (Within.tryCatch (forget h) (fun e => ?_) World.on_none) fun _ => ?_
  · cases e with
    | stopped => exact Within.throw _
    | _ => exact Within.bind close fun _ => Within.throw _
  · exact Within.bind close fun _ => Within.pure _

lemma withFile (h : S (.data d b) = true) {mode : FileMode} {work : VfsM α}
    (hwork : Touches S (some (d, b)) work (some (d, b))) :
    Touches S t (PosixDataFileImpl.withFile d b mode work) none :=
  withObject (Within.bind (openFile h mode) fun _ => Within.bind hwork fun _ =>
    Within.bind close fun _ => Within.pure _)

lemma getAssetAtPosition (h : S (.data d b) = true) (position : ℤ) :
    Touches S t (DataFile.getAssetAtPosition d b position) none :=
  withFile h (Within.bind (doSeek position) fun _ => Within.bind (read h 4) fun _ =>
    Within.bind (read h _) fun _ => Within.pure _)

lemma seekEnd (h : S (.data d b) = true) (fileExisted : Bool) :
    Touches S (some (d, b)) (DataFile.seekEnd fileExisted) (some (d, b)) :=
  Within.ite (Within.bind (write h _) fun _ => Within.pure _)
    (Within.bind (size h) fun _ => Within.bind (doSeek _) fun _ => Within.pure _)

lemma appendRecord (h : S (.data d b) = true) (fileExisted : Bool) (newAsset : Asset) :
    Touches S (some (d, b)) (DataFile.appendRecord fileExisted newAsset) (some (d, b)) :=
  Within.bind (seekEnd h fileExisted) fun _ =>
    Within.bind (Within.ite (Within.pure _) (Within.throw _)) fun _ =>
      Within.bind (write h _) fun _ => Within.bind (write h _) fun _ => Within.pure _

lemma writeNewAsset (h : S (.data d b) = true) (newAsset : Asset) :
    Touches S t (DataFile.writeNewAsset d b newAsset) none :=
  Within.bind (fsExists fun k => by simp [h]) fun _ => withFile h (appendRecord h _ newAsset)

/-! ### Databases -/

lemma mount (hdir : S (.dir d) = true) (h : S (.idx d b) = true) :
    Touches S none (VFSDatabase.mount d b) none := by
  refine Within.bind (fsExists fun k => Disk.contains_only hdir) fun found => ?_
  exact Within.ite (Within.throw_bind _ _) (openIndexFile h)

lemma getAsset (hidx : S (.idx d b) = true) (hdata : S (.data d b) = true) (uuid : ByteString) :
    Touches S none (VFSDatabase.getAsset d b uuid) none := by
  refine Within.bind (findAssetPosition hidx uuid) fun position => Within.ite (Within.pure _) ?_
  exact Within.bind (getAssetAtPosition hdata position) fun _ => Within.pure _

lemma storeAsset (hidx : S (.idx d b) = true) (hdata : S (.data d b) = true) (asset : Asset) :
    Touches S none (VFSDatabase.storeAsset d b asset) none := by
  refine Within.bind (Within.bind (findAssetPosition hidx _) fun _ => Within.pure _) fun found => ?_
  refine Within.ite ?_ (Within.throw _)
  exact Within.bind (writeNewAsset hdata asset) fun position =>
    recordAssetPosition hidx asset position

end Touches

/-! ### Requests -/

/-- The paths of the databases of a directory. -/
def databasePaths (d : DirName) : List Path :=
  [.dir d, .idx d .globals, .data d .globals, .idx d .locals, .data d .locals]

/-- The paths made for a request. -/
def AssetRequest.paths {κ : Type} : AssetRequest κ → List Path
  | .get assetId _                 => databasePaths (getFullPathForUUID assetId)
  | .put asset _                   => databasePaths (getFullPathForUUID asset.getUUID)
  | .purge _ _                     => []
  | .purgeLocals uuidHead          => [.idx uuidHead .locals]
  | .deleteLocalStorage uuidPrefix => [.idx uuidPrefix .locals, .data uuidPrefix .locals]
  | .collectStatus _               => []
  | .getStoredAssetIds head _      => [.idx head .globals]

namespace VFSBackend

variable {κ : Type} {S : Path → Bool}

lemma touches_openSet {uuid : ByteString}
    (h : ∀ p ∈ databasePaths (getFullPathForUUID uuid), S p = true) :
    Touches S none (verifyAndopenSetForUUID uuid) none := by
  simp only [databasePaths, List.forall_mem_cons] at h
  obtain ⟨hdir, hglobals, -, hlocals, -⟩ := h
  refine Within.tryCatch (Within.bind ?_ fun _ => Within.bind (Touches.mount hdir hglobals) fun _ =>
    Touches.mount hdir hlocals) (fun e => ?_) World.on_none
  · refine Within.bind (Touches.fsExists fun k => Disk.contains_only hdir) fun found => ?_
    refine Within.ite (Within.bind (Touches.createDirectory hdir) fun created => ?_) (Within.pure _)
    exact Within.ite (Within.throw _) (Within.pure _)
  · split <;> exact Within.throw _

lemma touches_getAssetSync {uuid : ByteString}
    (h : ∀ p ∈ databasePaths (getFullPathForUUID uuid), S p = true) :
    Touches S none (getAssetSync uuid) none := by
  refine Within.bind (touches_openSet h) fun _ => ?_
  simp only [databasePaths, List.forall_mem_cons] at h
  obtain ⟨-, hglobals, hglobalData, hlocals, hlocalData, -⟩ := h
  refine Within.bind (Touches.getAsset hglobals hglobalData uuid) fun asset => ?_
  split
  · exact Within.pure _
  · exact Touches.getAsset hlocals hlocalData uuid

lemma touches_storeAssetSync {asset : Asset}
    (h : ∀ p ∈ databasePaths (getFullPathForUUID asset.getUUID), S p = true) :
    Touches S none (storeAssetSync asset) none := by
  refine Within.bind (touches_openSet h) fun _ => ?_
  simp only [databasePaths, List.forall_mem_cons] at h
  obtain ⟨-, hglobals, hglobalData, hlocals, hlocalData, -⟩ := h
  exact Within.ite (Touches.storeAsset hlocals hlocalData asset)
    (Touches.storeAsset hglobals hglobalData asset)

/-- A request is processed on its own paths. -/
theorem touches_workLoop {req : AssetRequest κ} (h : ∀ p ∈ req.paths, S p = true) :
    Touches S none (workLoop req) none := by
  refine Within.tryCatch ?_ (fun e => by split <;> [exact Within.throw _; exact Within.pure _])
    World.on_none
  cases req with
  | get assetId callback =>
    refine Within.tryCatch (Within.bind (touches_getAssetSync h) fun asset => ?_) (fun e => ?_)
      World.on_none
    · split <;> exact Within.pure _
    · split <;> [exact Within.pure _; exact Within.throw _; exact Within.pure _]
  | put asset callback =>
    refine Within.tryCatch (Within.bind (touches_storeAssetSync h) fun _ => Within.pure _)
      (fun e => ?_) World.on_none
    split <;> [exact Within.pure _; exact Within.throw _; exact Within.pure _]
  | purge assetId callback => exact Within.pure _
  | collectStatus callback => exact Within.pure _
  | purgeLocals uuidHead =>
    have hidx : S (.idx uuidHead .locals) = true := h _ (by simp [AssetRequest.paths])
    refine Within.bind (Touches.fsExists fun k => by simp [hidx]) fun found => ?_
    refine Within.ite ?_ (Within.pure _)
    exact Within.bind (Touches.openIndexFile hidx) fun _ =>
      Within.bind (Touches.getContainedAssetIds hidx) fun _ => Within.pure _
  | deleteLocalStorage uuidPrefix =>
    have hidx : S (.idx uuidPrefix .locals) = true := h _ (by simp [AssetRequest.paths])
    have hdata : S (.data uuidPrefix .locals) = true := h _ (by simp [AssetRequest.paths])
    have hremoveIdx : Touches S none (fsRemove (·.setIdx uuidPrefix .locals .absent)) none :=
      Touches.fsRemove (fun k => by simp [Disk.only_setIdx, hidx])
        fun k => by simp [Disk.only_setIdx, hidx]
    have hremoveData : Touches S none (fsRemove (·.setData uuidPrefix .locals none)) none :=
      Touches.fsRemove (fun k => by simp [Disk.only_setData, hdata])
        fun k => by simp [Disk.only_setData, hdata]
    exact Within.bind Touches.forceCloseIndexFile fun _ => Within.bind hremoveIdx fun _ =>
      Within.bind hremoveData fun _ => Within.pure _
  | getStoredAssetIds head callback =>
    have hidx : S (.idx head .globals) = true := h _ (by simp [AssetRequest.paths])
    refine Within.bind (Touches.fsExists fun k => by simp [hidx]) fun found => ?_
    refine Within.ite (Within.bind (Touches.openIndexFile hidx) fun _ => ?_) (Within.pure _)
    exact Within.bind (Touches.getContainedAssetIdStrings hidx) fun _ => Within.pure _

end VFSBackend

/-- The request is served on paths of the store alone. -/
def AssetRequest.StaysInStore {κ : Type} (req : AssetRequest κ) : Prop :=
  Touches Path.inStore none (VFSBackend.workLoop req) none

namespace VFSBackend

lemma isHexHead_of_valid {uuid : ByteString} (h : Validator.isValidUUID uuid = true) :
    Path.isHexHead (getFullPathForUUID uuid) = true := by
  simp only [Validator.isValidUUID, Validator.UUID_LEN, Bool.and_eq_true, beq_iff_eq,
    List.all_eq_true] at h
  simp only [Path.isHexHead, getFullPathForUUID, UUID_PATH_CHARS, Bool.and_eq_true, beq_iff_eq,
    List.all_eq_true, List.length_take, h.1]
  exact ⟨rfl, fun ch hch => h.2 ch (List.mem_of_mem_take hch)⟩

lemma inStore_databasePaths {d : DirName} (h : Path.isHexHead d = true) :
    ∀ p ∈ databasePaths d, p.inStore = true := by
  simp [databasePaths, Path.inStore, Path.head, h]

/-- Only the first step of a purge has anything to take out of the index, of its own directory. -/
lemma unindexLocals_of_workLoop {κ : Type} {req : AssetRequest κ} {w w' : World}
    {hs : List (Handler κ)} (h : workLoop req w = .ok hs w') {ids : Option (List Uuid)}
    {head : ByteString} (hmem : .unindexLocals ids head ∈ hs) : req = .purgeLocals head := by
  let Q (hs : List (Handler κ)) (_ : World) : Prop :=
    .unindexLocals ids head ∈ hs → req = .purgeLocals head
  have hany {α : Type} (x : VfsM α) :
      Triple (fun _ => True) x (fun _ _ => True) fun _ _ => True := by
    intro s _
    cases x s <;> trivial
  have hpure {hs : List (Handler κ)} (hhs : ∀ ids head, .unindexLocals ids head ∉ hs) :
      Triple (fun _ => True) (pure hs : VfsM _) Q fun _ _ => True :=
    Triple.pure _ fun _ _ hmem => absurd hmem (hhs ids head)
  have hthrow (e : Exn) : Triple (fun _ => True) (throw e : VfsM _) Q fun _ _ => True :=
    Triple.throw _ fun _ _ => trivial
  suffices hQ : Triple (fun _ => True) (workLoop req) Q fun _ _ => True from
    hQ.of_ok (s := w) trivial h hmem
  refine Triple.tryCatch (R := fun _ _ => True) ?_ fun e => ?_
  · cases req with
    | purge | collectStatus => exact hpure (by simp)
    | get assetId callback =>
      refine Triple.tryCatch ((hany _).bind fun asset => ?_) fun e => ?_
      · split <;> exact hpure (by simp)
      · split <;> first | exact hpure (by simp) | exact hthrow _
    | put asset callback =>
      refine Triple.tryCatch ((hany _).bind fun _ => hpure (by simp)) fun e => ?_
      split <;> first | exact hpure (by simp) | exact hthrow _
    | purgeLocals uuidHead =>
      refine (hany _).bind fun found => Triple.ite (fun _ => ?_) fun _ => ?_
      · refine (hany _).bind fun _ => (hany _).bind fun ids' => Triple.pure _ fun _ _ => ?_
        simp +contextual [Q]
      · exact Triple.pure _ fun _ _ => by simp +contextual [Q]
    | deleteLocalStorage uuidPrefix =>
      exact (hany _).bind fun _ => (hany _).bind fun _ => (hany _).bind fun _ => hpure (by simp)
    | getStoredAssetIds head callback =>
      refine (hany _).bind fun found => Triple.ite (fun _ => ?_) fun _ => hpure (by simp)
      exact (hany _).bind fun _ => (hany _).bind fun _ => hpure (by simp)
  · split <;> first | exact hpure (by simp) | exact hthrow _

/-- A listing opens the index at its prefix, whatever that is: a directory that is not one of the
store's may hold one. -/
lemma staysInStore_getStoredAssetIds {κ : Type} {head : ByteString} {callback : κ} :
    (AssetRequest.getStoredAssetIds head callback).StaysInStore ↔ Path.isHexHead head = true := by
  constructor
  · intro h
    by_contra hhead
    let listed : World := { disk := { idx := fun _ _ => .table [⟨[48], 8, 0, 0⟩] } }
    have hfound : ∃ w, workLoop (.getStoredAssetIds head callback) listed =
      .ok [.callback callback (.completed [48, 44])] w := ⟨_, rfl⟩
    have hidx : (listed.only Path.inStore).disk.idx head .globals = .absent := by
      simp [World.only, Disk.only, Path.inStore, Path.head, hhead]
    have habsent : workLoop (.getStoredAssetIds head callback) (listed.only Path.inStore) =
        .ok [.callback callback (.completed [])] (listed.only Path.inStore) := by
      refine tryCatch_ok ?_
      have hexists : fsExists (fun k => k.idx head .globals ≠ .absent) (listed.only Path.inStore) =
          .ok (decide ((listed.only Path.inStore).disk.idx head .globals ≠ .absent))
            (listed.only Path.inStore) := rfl
      rw [hidx] at hexists
      exact bind_ok hexists
    obtain ⟨w, hw⟩ := hfound
    have h' := h listed (World.on_none _)
    rw [hw] at h'
    have := habsent.symm.trans h'.1
    simp at this
  · intro h
    exact touches_workLoop (by simpa [AssetRequest.paths, Path.inStore, Path.head] using h)

end VFSBackend

end Whip
