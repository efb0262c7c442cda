import Whip.Storage.Durability
import Whip.Storage.Backend

/-!
# What the worker's requests do to the disk

The specifications of the synchronous `storeAsset` and `getAsset` and of the two disk steps of a
locals purge, for any outcome of their calls (`q` false) and for runs without failures (`q` true).
-/

namespace Whip

open Bytes Effect

namespace VFSBackend

/-! ### Opening the set of an identifier -/

/-- A directory that is not there is created. -/
lemma createDirectory_triple (q : Prop) (k : Disk) (d : DirName) :
    Triple (fun w => (PreparedFrom k w ∧ d ∉ w.disk.dirs) ∧ Quiet q w) (createDirectory d)
      (fun r w => r = true ∧ PreparedFrom k w ∧ d ∈ w.disk.dirs ∧ Quiet q w)
      (fun _ w => PreparedFrom k w ∧ ¬ q) := by
  have hcreate (w : World) (h : PreparedFrom k w) : PreparedFrom k
      { w with disk := { w.disk with dirs := d :: w.disk.dirs } } :=
    h.of_prepared ⟨fun _ => List.mem_cons_of_mem d, rfl, rfl, fun _ _ _ h => h⟩ rfl
  refine syscall_bind (fun w cs fds h => ⟨PreparedFrom.calls w cs fds h.1, h.2⟩) ?_
    fun hq o ho => ?_
  · intro w ⟨⟨hw, hd⟩, hq⟩
    simp only [addDirectory_of_not_mem hd]
    exact ⟨trivial, hcreate w hw, List.mem_cons_self, hq⟩
  cases o with
  | ok => exact absurd rfl ho
  | stop n =>
    cases n with
    | zero => exact .throw _ fun w h => ⟨h.1, hq⟩
    | succ n =>
      intro w ⟨hw, hd⟩
      simp only [bind_ok (addDirectory_of_not_mem hd)]
      exact ⟨hcreate w hw, hq⟩
  | _ => exact .throw _ fun w h => ⟨h.1, hq⟩

/-- `fs::exists` on a prepared disk. -/
lemma fsExists_prepared (q : Prop) (k : Disk) (p : Disk → Bool) :
    Triple (fun w => PreparedFrom k w ∧ Quiet q w) (fsExists p)
      (fun r w => PreparedFrom k w ∧ r = p w.disk ∧ Quiet q w)
      (fun _ w => PreparedFrom k w ∧ ¬ q) := by
  refine syscall_bind PreparedFrom.calls ?_ fun hq o ho => ?_
  · intro w hw
    exact ⟨hw.1, rfl, hw.2⟩
  cases o with
  | ok => exact absurd rfl ho
  | _ => exact .throw _ fun w h => ⟨h, hq⟩

lemma verifyDatabaseDirectory_triple (q : Prop) (k : Disk) (uuid : ByteString) :
    Triple (fun w => PreparedFrom k w ∧ Quiet q w) (verifyDatabaseDirectory uuid)
      (fun _ w => PreparedFrom k w ∧ getFullPathForUUID uuid ∈ w.disk.dirs ∧ Quiet q w)
      (fun _ w => PreparedFrom k w ∧ ¬ q) := by
  refine (fsExists_prepared q k _).bind fun found => ?_
  cases found with
  | true =>
    refine .pure _ fun w h => ⟨h.1, ?_, h.2.2⟩
    simpa using h.2.1.symm
  | false =>
    rintro w ⟨hw, habsent, hq⟩
    refine Triple.bind (createDirectory_triple q k _) (fun created => ?_) w
      ⟨⟨hw, by simpa using habsent.symm⟩, hq⟩
    rintro w ⟨rfl, hw⟩
    exact hw

lemma databaseSet_mount_triple (q : Prop) (k : Disk) (d : DirName) :
    Triple (fun w => PreparedFrom k w ∧ d ∈ w.disk.dirs ∧ Quiet q w) (DatabaseSet.mount d)
      (fun _ w => PreparedFrom k w ∧ d ∈ w.disk.dirs ∧ (∀ b, w.disk.HasTable d b) ∧ Quiet q w)
      (fun _ w => PreparedFrom k w ∧ ¬ q) := by
  rintro w ⟨hw, hd, hq⟩
  -- both openings start from the disk as it is now, which the directory is on
  refine Triple.bind ((mount_triple q .globals hd).conseq (fun _ h => h) (fun _ _ h => h)
    fun _ w' h => ⟨.trans hw.prepared h.1, h.2⟩) (fun _ => ?_) w ⟨⟨.refl _, hw.openTables⟩, hq⟩
  rintro w₁ ⟨hw₁, ht, hq⟩
  have hd₁ := hw₁.prepared.dirs d hd
  refine ((mount_triple q .locals hd₁).conseq (fun _ h => h) ?_ ?_) w₁
    ⟨⟨.refl _, hw₁.openTables⟩, hq⟩
  · rintro _ w₂ ⟨hw₂, ht₂, hq⟩
    refine ⟨.trans (hw.prepared.trans hw₁.prepared) hw₂, hw₂.prepared.dirs d hd₁, fun b => ?_, hq⟩
    cases b with
    | globals => exact hw₂.prepared.hasTable ht
    | locals => exact ht₂
  · exact fun _ w₂ h => ⟨.trans (hw.prepared.trans hw₁.prepared) h.1, h.2⟩

/-- The set of an identifier is open: its directory and both tables are there. -/
lemma verifyAndopenSetForUUID_triple (q : Prop) (k : Disk) (uuid : ByteString) :
    Triple (fun w => PreparedFrom k w ∧ Quiet q w) (verifyAndopenSetForUUID uuid)
      (fun _ w => PreparedFrom k w ∧ getFullPathForUUID uuid ∈ w.disk.dirs ∧
        (∀ b, w.disk.HasTable (getFullPathForUUID uuid) b) ∧ Quiet q w)
      (fun _ w => PreparedFrom k w ∧ ¬ q) := by
  refine Triple.tryCatch ((verifyDatabaseDirectory_triple q k uuid).bind fun _ =>
    databaseSet_mount_triple q k _) fun e => ?_
  cases e with
  | _ => exact .throw _ fun w h => h

/-! ### Storing and reading -/

/-- The directory of an asset, and the database it belongs to. -/
def dirOf (a : Asset) : DirName := getFullPathForUUID a.getUUID

def baseOf (a : Asset) : Base := if a.isLocal then .locals else .globals

lemma databaseSet_storeAsset_eq (d : DirName) (a : Asset) :
    DatabaseSet.storeAsset d a = VFSDatabase.storeAsset d (baseOf a) a := by
  unfold DatabaseSet.storeAsset baseOf
  split_ifs <;> rfl

/-- A synchronous store: openings, and then the store into the database of the asset. -/
lemma storeAssetSync_triple (q : Prop) (k : Disk) (a : Asset)
    (hnew : q → NewId k (dirOf a) (baseOf a) a) (ha : q → a.data.length < 2 ^ 32) :
    Triple (fun w => (w.disk = k ∧ OpenTables w) ∧ Quiet q w) (storeAssetSync a)
      (fun _ w => (∃ k₁, Prepared k k₁ ∧ dirOf a ∈ k₁.dirs ∧ NewId k₁ (dirOf a) (baseOf a) a ∧
        a.data.length < 2 ^ 32 ∧ w.disk = k₁.stored (dirOf a) (baseOf a) a) ∧ OpenTables w ∧
        Quiet q w)
      (fun _ w => (OpenTables w ∧ ∃ k₁, Prepared k k₁ ∧
        StoreCut k₁ (dirOf a) (baseOf a) a w.disk) ∧ ¬ q) := by
  refine Triple.bind ((verifyAndopenSetForUUID_triple q k a.getUUID).conseq
    (fun _ h => ⟨⟨h.1.1 ▸ .refl _, h.1.2⟩, h.2⟩) (fun _ _ h => h)
    fun _ w h => ⟨⟨h.1.openTables, w.disk, h.1.prepared, .nothing⟩, h.2⟩) fun _ => ?_
  rintro w ⟨hw, hd, ht, hq⟩
  rw [databaseSet_storeAsset_eq]
  have hnew' : q → NewId w.disk (dirOf a) (baseOf a) a := fun h row hrow =>
    hnew h row (hw.prepared.rows ▸ hrow)
  refine ((VFSDatabase.storeAsset_triple q (ht _) w.openFiles a hnew' ha).conseq
    (fun _ h => h) ?_ ?_) w ⟨⟨rfl, rfl⟩, hq⟩
  · rintro _ w' ⟨⟨hnew, ha⟩, ⟨hdisk, ho⟩, hq⟩
    have hcut : StoreCut w.disk (dirOf a) (baseOf a) a w'.disk := hdisk ▸ .done hnew ha
    exact ⟨⟨w.disk, hw.prepared, hd, hnew, ha, hdisk⟩, hw.openTables.of_store rfl hcut ho, hq⟩
  · rintro _ w' ⟨⟨hcut, ho⟩, hq⟩
    exact ⟨⟨hw.openTables.of_store rfl hcut ho, w.disk, hw.prepared, hcut⟩, hq⟩

/-- A read from an open set, of the global database first. -/
lemma databaseSet_getAsset_triple (q : Prop) (k : Disk) (d : DirName) (uuid : ByteString)
    {rg rl : Option Asset} (hg : Lookup k d .globals uuid rg)
    (hl : rg = none → Lookup k d .locals uuid rl) :
    Triple (fun w => PreparedFrom k w ∧ d ∈ w.disk.dirs ∧ (∀ b, w.disk.HasTable d b) ∧ Quiet q w)
      (DatabaseSet.getAsset d uuid)
      (fun r w => r = (rg <|> rl) ∧ PreparedFrom k w ∧ Quiet q w)
      (fun _ w => PreparedFrom k w ∧ ¬ q) := by
  rintro w ⟨hw, -, ht, hq⟩
  have hat {w' : World} (h : At w.disk w.openFiles w') : PreparedFrom k w' :=
    hw.of_prepared (h.1 ▸ .refl _) h.2
  refine Triple.bind ((VFSDatabase.getAsset_triple q (ht .globals) w.openFiles
    (hg.of_prepared hw.prepared)).conseq (fun _ h => h) (fun _ _ h => h)
    fun _ _ h => ⟨hat h.1, h.2⟩) (fun r => ?_) w ⟨⟨rfl, rfl⟩, hq⟩
  rintro w₁ ⟨rfl, hw₁, hq⟩
  cases r with
  | some a => exact ⟨rfl, hat hw₁, hq⟩
  | none =>
    refine ((VFSDatabase.getAsset_triple q (ht .locals) w.openFiles
      ((hl rfl).of_prepared hw.prepared)).conseq (fun _ h => h) ?_ ?_) w₁ ⟨hw₁, hq⟩
    · rintro r w₂ ⟨rfl, hw₂, hq⟩
      exact ⟨rfl, hat hw₂, hq⟩
    · exact fun _ w₂ h => ⟨hat h.1, h.2⟩

/-- A synchronous read. -/
lemma getAssetSync_triple (q : Prop) (k : Disk) (uuid : ByteString) {rg rl : Option Asset}
    (hg : Lookup k (getFullPathForUUID uuid) .globals uuid rg)
    (hl : rg = none → Lookup k (getFullPathForUUID uuid) .locals uuid rl) :
    Triple (fun w => (w.disk = k ∧ OpenTables w) ∧ Quiet q w) (getAssetSync uuid)
      (fun r w => r = (rg <|> rl) ∧ PreparedFrom k w ∧ Quiet q w)
      (fun _ w => PreparedFrom k w ∧ ¬ q) :=
  Triple.bind ((verifyAndopenSetForUUID_triple q k uuid).conseq
    (fun _ h => ⟨⟨h.1.1 ▸ .refl _, h.1.2⟩, h.2⟩) (fun _ _ h => h) fun _ _ h => h) fun _ =>
    databaseSet_getAsset_triple q k _ uuid hg hl

/-- Whatever a read finds, the rows and the data files stay. -/
lemma getAssetSync_frame (k : Disk) (uuid : ByteString) :
    Triple (PreparedFrom k) (getAssetSync uuid) (fun _ => PreparedFrom k)
      (fun _ => PreparedFrom k) := by
  refine Triple.bind ((verifyAndopenSetForUUID_triple False k uuid).conseq
    (fun w h => ⟨h, False.elim⟩) (fun _ _ h => h) fun _ _ h => h.1) fun _ => ?_
  rintro w ⟨hw, -, ht, -⟩
  have hat {w' : World} (h : At w.disk w.openFiles w') : PreparedFrom k w' :=
    hw.of_prepared (h.1 ▸ .refl _) h.2
  refine Triple.bind ((VFSDatabase.getAsset_frame (ht .globals) w.openFiles uuid).conseq
    (fun _ h => h) (fun _ _ h => h) fun _ _ h => hat h) (fun r => ?_) w ⟨rfl, rfl⟩
  cases r with
  | some a => exact .pure _ fun _ h => hat h
  | none =>
    exact (VFSDatabase.getAsset_frame (ht .locals) w.openFiles uuid).conseq (fun _ h => h)
      (fun _ _ h => hat h) fun _ _ h => hat h

/-! ### Listing and deleting the local assets of a directory -/

lemma mapM_uuidOfText_triple {q : Prop} {P : World → Prop} (rows : List IndexRow)
    (hids : q → ∀ row ∈ rows, ∃ u : AssetId, row.assetId = u.text) :
    Triple (fun w => P w ∧ Quiet q w) (rows.mapM fun row => uuidOfText row.assetId)
      (fun ids w => (∀ x, x ∈ ids ↔ ∃ row ∈ rows, Uuid.parse row.assetId = .value x) ∧ P w ∧
        Quiet q w)
      (fun _ w => P w ∧ ¬ q) := by
  induction rows with
  | nil => exact .pure _ fun w h => ⟨by simp, h⟩
  | cons row rows ih =>
    rw [List.mapM_cons]
    have hrow : Triple (fun w => P w ∧ Quiet q w) (uuidOfText row.assetId)
        (fun x w => Uuid.parse row.assetId = .value x ∧ P w ∧ Quiet q w)
        (fun _ w => P w ∧ ¬ q) := by
      unfold uuidOfText
      cases hp : Uuid.parse row.assetId with
      | value x => exact .pure _ fun w h => ⟨rfl, h⟩
      | _ =>
        refine .throw _ fun w h => ⟨h.1, fun hq => ?_⟩
        obtain ⟨u, hu⟩ := hids hq row List.mem_cons_self
        rw [hu, Uuid.parse_text] at hp
        cases hp
    refine hrow.bind fun x => ?_
    rintro w ⟨hx, hw⟩
    refine Triple.bind (ih fun hq row hrow => hids hq row (List.mem_cons_of_mem _ hrow))
      (fun ids => .pure _ fun w h => ⟨fun y => ?_, h.2⟩) w hw
    simp [h.1 y, hx, eq_comm]

/-- `getContainedAssetIds` parses the identifiers of the rows. -/
lemma getContainedAssetIds_reads (q : Prop) {d : DirName} {b : Base} {P : World → Prop}
    {rows : List IndexRow} (hP : ∀ w cs fds, P w → P { w with calls := cs, fds := fds })
    (hrows : ∀ w, P w → w.disk.HasTable d b ∧ w.disk.rows d b = rows)
    (hids : q → ∀ row ∈ rows, ∃ u : AssetId, row.assetId = u.text) :
    Triple (fun w => P w ∧ Quiet q w) (IndexFile.getContainedAssetIds d b)
      (fun ids w => (∀ x, x ∈ ids ↔ ∃ row ∈ rows, Uuid.parse row.assetId = .value x) ∧ P w ∧
        Quiet q w)
      (fun _ w => P w ∧ ¬ q) := by
  refine sqliteCall_triple _ hP ?_ (fun _ h => h) fun _ _ h => h.2.1
  rintro w ⟨hw, hq⟩
  obtain ⟨ht, hrows⟩ := hrows w hw
  rw [bind_ok (tableRows_eq ht), hrows]
  exact mapM_uuidOfText_triple _ hids w ⟨hw, hq⟩

/-- A call of SQLite on a table of a prepared disk. -/
lemma prepared_calls (k : Disk) (d : DirName) (b : Base) (w : World) (cs : List Call)
    (fds : FdTable) (h : PreparedFrom k w ∧ w.disk.HasTable d b) :
    PreparedFrom k { w with calls := cs, fds := fds } ∧ w.disk.HasTable d b :=
  ⟨h.1.calls w cs fds, h.2⟩

lemma prepared_rows (k : Disk) (d : DirName) (b : Base) (w : World)
    (h : PreparedFrom k w ∧ w.disk.HasTable d b) :
    w.disk.HasTable d b ∧ w.disk.rows d b = k.rows d b :=
  ⟨h.2, by rw [h.1.prepared.rows]⟩

variable {κ : Type}

/-- The first step of a purge posts the local identifiers of the directory. -/
lemma performDiskPurgeLocals_triple (q : Prop) {k : Disk} {head : ByteString}
    (hids : q → ∀ row ∈ k.rows head .locals, ∃ u : AssetId, row.assetId = u.text) :
    Triple (fun w => PreparedFrom k w ∧ Quiet q w)
      (performDiskPurgeLocals head : VfsM (List (Handler κ)))
      (fun hs w => (∃ ids, hs = [.unindexLocals ids head] ∧ ∀ x, x ∈ ids.getD [] ↔
        ∃ row ∈ k.rows head .locals, Uuid.parse row.assetId = .value x) ∧ PreparedFrom k w)
      (fun _ w => PreparedFrom k w ∧ ¬ q) := by
  refine (fsExists_prepared q k _).bind fun found => ?_
  cases found with
  | true =>
    rintro w ⟨hw, -, hq⟩
    refine Triple.bind (openIndexFile_triple q k head .locals) (fun _ => ?_) w ⟨hw, hq⟩
    refine Triple.bind ((getContainedAssetIds_reads q (prepared_calls k head .locals)
      (prepared_rows k head .locals) hids).conseq (fun w h => ⟨⟨h.1, h.2.1⟩, h.2.2⟩)
      (fun _ _ h => h) fun _ _ h => ⟨h.1.1, h.2⟩) fun ids => ?_
    exact .pure _ fun w h => ⟨⟨some ids, rfl, h.1⟩, h.2.1.1⟩
  | false =>
    refine .pure _ fun w h => ⟨⟨none, rfl, fun x => ?_⟩, h.1⟩
    have habsent : w.disk.idx head .locals = .absent := by simpa using h.2.1
    have hrows : k.rows head .locals = [] := by
      rw [← h.1.prepared.rows]
      simp [Disk.rows, habsent]
    simp [hrows]

/-- `getContainedAssetIdStrings` copies the identifiers of the rows. -/
lemma getContainedAssetIdStrings_reads (q : Prop) {d : DirName} {b : Base} {P : World → Prop}
    {rows : List IndexRow} (hP : ∀ w cs fds, P w → P { w with calls := cs, fds := fds })
    (hrows : ∀ w, P w → w.disk.HasTable d b ∧ w.disk.rows d b = rows) :
    Triple (fun w => P w ∧ Quiet q w) (IndexFile.getContainedAssetIdStrings d b)
      (fun ids w => ids = rows.map (·.assetId) ∧ P w ∧ Quiet q w) (fun _ w => P w ∧ ¬ q) := by
  refine sqliteCall_triple _ hP ?_ (fun _ h => h) fun _ _ h => h.2.1
  rintro w ⟨hw, hq⟩
  obtain ⟨ht, hrows⟩ := hrows w hw
  rw [bind_ok (tableRows_eq ht), hrows]
  exact ⟨rfl, hw, hq⟩

/-- The global identifiers of a directory, each followed by a comma. -/
def journalOf (k : Disk) (head : ByteString) : ByteString :=
  ((k.rows head .globals).map (·.assetId)).flatMap (· ++ [44])

/-- The identifiers a peer asks for. -/
lemma performGetStoredAssetIds_triple (q : Prop) (k : Disk) (head : ByteString) (callback : κ) :
    Triple (fun w => PreparedFrom k w ∧ Quiet q w) (performGetStoredAssetIds head callback)
      (fun hs w => hs = [.callback callback (.completed (journalOf k head))] ∧ PreparedFrom k w)
      (fun _ w => PreparedFrom k w ∧ ¬ q) := by
  refine (fsExists_prepared q k _).bind fun found => ?_
  cases found with
  | true =>
    rintro w ⟨hw, -, hq⟩
    refine Triple.bind (openIndexFile_triple q k head .globals) (fun _ => ?_) w ⟨hw, hq⟩
    refine Triple.bind ((getContainedAssetIdStrings_reads q (prepared_calls k head .globals)
      (prepared_rows k head .globals)).conseq (fun w h => ⟨⟨h.1, h.2.1⟩, h.2.2⟩)
      (fun _ _ h => h) fun _ _ h => ⟨h.1.1, h.2⟩) fun ids => ?_
    refine .pure _ fun w h => ⟨?_, h.2.1.1⟩
    rw [h.1, journalOf]
  | false =>
    refine .pure _ fun w h => ⟨?_, h.1⟩
    have habsent : w.disk.idx head .globals = .absent := by simpa using h.2.1
    have hrows : k.rows head .globals = [] := by
      rw [← h.1.prepared.rows]
      simp [Disk.rows, habsent]
    rw [journalOf, hrows]
    rfl

/-- The last step of a purge closes the index and deletes both files; in between, the data file is
there without its index. -/
inductive Deleted (head : ByteString) (k : Disk) : Disk → Prop
  | nothing : Deleted head k k
  | index : Deleted head k (k.setIdx head .locals .absent)
  | both : Deleted head k ((k.setIdx head .locals .absent).setData head .locals none)

lemma fsRemove_triple {q : Prop} {P S : World → Prop} {f : Disk → Disk}
    (hP : ∀ w cs fds, P w → P { w with calls := cs, fds := fds })
    (hf : ∀ w, P w → S { w with disk := f w.disk }) :
    Triple (fun w => P w ∧ Quiet q w) (fsRemove f) (fun _ w => S w ∧ Quiet q w)
      (fun _ w => (P w ∨ S w) ∧ ¬ q) := by
  refine syscall_bind hP ?_ fun hq o ho => ?_
  · intro w ⟨hw, hq⟩
    exact ⟨hf w hw, hq⟩
  cases o with
  | ok => exact absurd rfl ho
  | stop n =>
    cases n with
    | zero => exact .throw _ fun w h => ⟨.inl h, hq⟩
    | succ n => exact fun w hw => ⟨.inr (hf w hw), hq⟩
  | _ => exact .throw _ fun w h => ⟨.inl h, hq⟩

/-- The index of the directory's local database is not among the open ones. -/
def ClosedLocals (head : ByteString) (w : World) : Prop :=
  ∀ n ∈ w.openFiles.list, n.key ≠ (head, Base.locals)

lemma forceCloseIndexFile_eq {w : World} (h : OpenTables w) (head : ByteString) :
    ∃ w', forceCloseIndexFile head .locals w = .ok () w' ∧ w'.disk = w.disk ∧
      w'.calls = w.calls ∧ OpenTables w' ∧ ClosedLocals head w' := by
  have hfetched := h.fetch (head, .locals)
  cases hfetch : (w.openFiles.fetch (head, .locals)).1 with
  | none =>
    refine ⟨{ w with openFiles := (w.openFiles.fetch (head, .locals)).2 }, ?_, rfl, rfl, hfetched,
      fun n hn => ?_⟩
    · unfold forceCloseIndexFile
      rw [get_bind]
      dsimp only
      simp [hfetch]
      rfl
    · exact (LRUCache.fetch_eq_none h.coherent).mp hfetch n ((LRUCache.mem_fetch h.coherent).mp hn)
  | some u =>
    refine ⟨{ w with openFiles := (w.openFiles.fetch (head, .locals)).2.remove (head, .locals) },
      ?_, rfl, rfl, ⟨hfetched.coherent.remove _, fun n hn => ?_⟩, fun n hn => ?_⟩
    · unfold forceCloseIndexFile
      rw [get_bind]
      dsimp only
      simp [hfetch]
      rfl
    · exact hfetched.hasTable n ((LRUCache.mem_remove hfetched.coherent _).mp hn).1
    · exact ((LRUCache.mem_remove hfetched.coherent _).mp hn).2

/-- Files of a closed index may go. -/
lemma openTables_of_deleted {head : ByteString} {w w' : World} (h : OpenTables w)
    (hclosed : ClosedLocals head w) (ho : w'.openFiles = w.openFiles)
    (hdisk : ∀ d b, (d, b) ≠ (head, Base.locals) → w'.disk.idx d b = w.disk.idx d b) :
    OpenTables w' where
  coherent := ho ▸ h.coherent
  hasTable := fun n hn => by
    rw [ho] at hn
    obtain ⟨rows, hrows⟩ := h.hasTable n hn
    exact ⟨rows, (hdisk _ _ (hclosed n hn)).trans hrows⟩

lemma performLocalsPhysicalDeletion_triple (q : Prop) (k : Disk) (head : ByteString) :
    Triple (fun w => (w.disk = k ∧ OpenTables w) ∧ Quiet q w)
      (performLocalsPhysicalDeletion head : VfsM (List (Handler κ)))
      (fun hs w => hs = [] ∧ OpenTables w ∧
        w.disk = (k.setIdx head .locals .absent).setData head .locals none)
      (fun _ w => (Deleted head k w.disk ∧ OpenTables w) ∧ ¬ q) := by
  rintro w ⟨⟨rfl, hw⟩, hq⟩
  obtain ⟨w₁, hclose, hdisk, hcalls, hw₁, hclosed⟩ := forceCloseIndexFile_eq hw head
  have hindex (w₂ : World) (h : w₂.disk = w.disk ∧ w₂.openFiles = w₁.openFiles) :
      OpenTables { w₂ with disk := w₂.disk.setIdx head .locals .absent } := by
    refine openTables_of_deleted hw₁ hclosed h.2 fun d b hne => ?_
    rw [Disk.idx_setIdx, if_neg (by simpa using hne), h.1, hdisk]
  -- the state between the two removals, and after them
  set S₁ : World → Prop := fun w₂ =>
    w₂.disk = w.disk.setIdx head .locals .absent ∧ OpenTables w₂
  set S₂ : World → Prop := fun w₂ =>
    w₂.disk = (w.disk.setIdx head .locals .absent).setData head .locals none ∧ OpenTables w₂
  have hfirst : Triple (fun w₂ => (w₂.disk = w.disk ∧ w₂.openFiles = w₁.openFiles) ∧ Quiet q w₂)
      (fsRemove (·.setIdx head .locals .absent)) (fun _ w₂ => S₁ w₂ ∧ Quiet q w₂)
      (fun _ w₂ => (Deleted head w.disk w₂.disk ∧ OpenTables w₂) ∧ ¬ q) := by
    refine (fsRemove_triple (S := S₁) (fun w₂ cs fds h => h) fun w₂ h =>
      ⟨by rw [h.1], hindex w₂ h⟩).conseq (fun _ h => h) (fun _ _ h => h) ?_
    rintro _ w₂ ⟨h | h, hq⟩
    · refine ⟨⟨h.1 ▸ .nothing, ?_⟩, hq⟩
      exact openTables_of_deleted hw₁ hclosed h.2 fun d b _ => by rw [h.1, hdisk]
    · exact ⟨⟨h.1 ▸ .index, h.2⟩, hq⟩
  have hsecond : Triple (fun w₂ => S₁ w₂ ∧ Quiet q w₂)
      (fsRemove (·.setData head .locals none)) (fun _ w₂ => S₂ w₂ ∧ Quiet q w₂)
      (fun _ w₂ => (Deleted head w.disk w₂.disk ∧ OpenTables w₂) ∧ ¬ q) := by
    refine (fsRemove_triple (S := S₂) (fun w₂ cs fds h => ⟨h.1, h.2.coherent, h.2.hasTable⟩)
      fun w₂ h => ⟨by rw [h.1], h.2.coherent, h.2.hasTable⟩).conseq
      (fun _ h => h) (fun _ _ h => h) ?_
    rintro _ w₂ ⟨h | h, hq⟩
    · exact ⟨⟨h.1 ▸ .index, h.2⟩, hq⟩
    · exact ⟨⟨h.1 ▸ .both, h.2⟩, hq⟩
  unfold performLocalsPhysicalDeletion
  rw [bind_ok hclose]
  exact hfirst.bind (fun _ => hsecond.bind fun _ => .pure _ fun w₂ h => ⟨rfl, h.1.2, h.1.1⟩) w₁
    ⟨⟨hdisk, rfl⟩, fun h => hcalls.trans (hq h)⟩

/-! ### The worker's rounds -/

/-- What a failed write posts: only an exception other than `AssetStorageError` releases the
identifier. -/
def writeFailed (a : Asset) (callback : κ) : Exn → List (Handler κ)
  | .assetStorage error => [.callback callback (.stored false (some error))]
  | e => [.assetWriteFailed a.getUUID (what e),
      .callback callback (.stored false (some ⟨what e, false⟩))]

/-- What a failed read posts. -/
def readFailed (callback : κ) : Exn → List (Handler κ)
  | .assetStorage error => [.callback callback (.got none false (some error))]
  | e => [.callback callback (.got none false (some ⟨what e, false⟩))]

/-- What a read posts that came to an end. -/
def readDone (assetId : ByteString) (callback : κ) : Option Asset → List (Handler κ)
  | some asset => [.callback callback (.got (some asset) true none)]
  | none => [.callback callback (.got none false
      (some ⟨"Asset " ++ showBytes assetId ++ " not found", false⟩))]

lemma performDiskWrite_triple {P : World → Prop} {Q : Unit → World → Prop}
    {R : Exn → World → Prop} {a : Asset} (callback : κ) (h : Triple P (storeAssetSync a) Q R) :
    Triple P (performDiskWrite a callback)
      (fun hs w => (hs = [.callback callback (.stored true none)] ∧ Q () w) ∨
        ∃ e, e ≠ .stopped ∧ hs = writeFailed a callback e ∧ R e w)
      (fun e w => e = .stopped ∧ R e w) := by
  refine Triple.tryCatch (h.bind fun _ => .pure _ fun w hw => .inl ⟨rfl, hw⟩) fun e => ?_
  cases e with
  | stopped => exact .throw _ fun w hw => ⟨rfl, hw⟩
  | _ => exact .pure _ fun w hw => .inr ⟨_, by simp, rfl, hw⟩

lemma performDiskRead_triple {P : World → Prop} {Q : Option Asset → World → Prop}
    {R : Exn → World → Prop} {assetId : ByteString} (callback : κ)
    (h : Triple P (getAssetSync assetId) Q R) :
    Triple P (performDiskRead assetId callback)
      (fun hs w => (∃ r, hs = readDone assetId callback r ∧ Q r w) ∨
        ∃ e, e ≠ .stopped ∧ hs = readFailed callback e ∧ R e w)
      (fun e w => e = .stopped ∧ R e w) := by
  refine Triple.tryCatch (h.bind fun r => ?_) fun e => ?_
  · cases r with
    | some asset => exact .pure _ fun w hw => .inl ⟨_, rfl, hw⟩
    | none => exact .pure _ fun w hw => .inl ⟨_, rfl, hw⟩
  · cases e with
    | stopped => exact .throw _ fun w hw => ⟨rfl, hw⟩
    | _ => exact .pure _ fun w hw => .inr ⟨_, by simp, rfl, hw⟩

/-- An exception that a request lets through is reported and forgotten. -/
lemma workLoop_triple {P : World → Prop} {Q : List (Handler κ) → World → Prop}
    {R : Exn → World → Prop} {req : AssetRequest κ} (h : Triple P (processRequest req) Q R) :
    Triple P (workLoop req)
      (fun hs w => Q hs w ∨ ∃ e, e ≠ .stopped ∧ hs = [.ioLoopFailed (what e)] ∧ R e w)
      (fun e w => e = .stopped ∧ R e w) := by
  refine Triple.tryCatch (h.conseq (fun _ hw => hw) (fun _ _ hw => .inl hw) fun _ _ hw => hw)
    fun e => ?_
  cases e with
  | stopped => exact .throw _ fun w hw => ⟨rfl, hw⟩
  | _ => exact .pure _ fun w hw => .inr ⟨_, by simp, rfl, hw⟩

/-- A round read off a triple. -/
lemma process_of_triple {s s' : VFSBackend κ} {req : AssetRequest κ} {calls : List Call}
    {P : World → Prop} {Q : List (Handler κ) → World → Prop} {R : Exn → World → Prop}
    (hreq : s.current = some req) (h : Triple P (workLoop req) Q R)
    (hP : P { s.world with calls := calls }) (hstep : s.process calls = some s') :
    ∃ hs w, Q hs w ∧ s' = { s with world := w, current := none, posted := s.posted ++ hs } := by
  unfold process at hstep
  rw [hreq] at hstep
  dsimp only at hstep
  cases hres : workLoop req { s.world with calls := calls } with
  | ok hs w =>
    rw [hres] at hstep
    exact ⟨hs, w, h.of_ok hP hres, (Option.some.inj hstep).symm⟩
  | error e w =>
    rw [hres] at hstep
    cases hstep

/-- A round whose request does not stop the process takes place. -/
lemma process_isSome {s : VFSBackend κ} {req : AssetRequest κ} {calls : List Call}
    {P : World → Prop} {Q : List (Handler κ) → World → Prop}
    (hreq : s.current = some req) (h : Triple P (workLoop req) Q (fun _ _ => False))
    (hP : P { s.world with calls := calls }) : (s.process calls).isSome := by
  unfold process
  rw [hreq]
  dsimp only
  cases hres : workLoop req { s.world with calls := calls } with
  | ok hs w => rfl
  | error e w => exact (h.of_error hP hres).elim

end VFSBackend

end Whip
