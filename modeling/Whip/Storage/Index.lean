import Whip.Storage.Records
import Whip.Storage.Database

/-!
# Index files

What opening an index does, and the statements on its table, whichever of the SQLite calls fail.
Opening creates files and empty tables and never changes a row; a statement has its whole effect or
none.
-/

namespace Whip

open Effect

/-! ### Opening leaves the rows alone -/

/-- `k'` is `k` with some directories, databases and empty tables added. -/
structure Prepared (k k' : Disk) : Prop where
  dirs : ∀ d ∈ k.dirs, d ∈ k'.dirs
  data : k'.data = k.data
  rows : k'.rows = k.rows
  table : ∀ d b rows, k.idx d b = .table rows → k'.idx d b = .table rows

lemma Prepared.refl (k : Disk) : Prepared k k := ⟨fun _ h => h, rfl, rfl, fun _ _ _ h => h⟩

lemma Prepared.trans {k₁ k₂ k₃ : Disk} (h : Prepared k₁ k₂) (h' : Prepared k₂ k₃) :
    Prepared k₁ k₃ where
  dirs := fun d hd => h'.dirs d (h.dirs d hd)
  data := h'.data.trans h.data
  rows := h'.rows.trans h.rows
  table := fun d b rows ht => h'.table d b rows (h.table d b rows ht)

lemma Prepared.hasTable {k k' : Disk} (h : Prepared k k') {d : DirName} {b : Base}
    (ht : k.HasTable d b) : k'.HasTable d b := by
  obtain ⟨rows, hrows⟩ := ht
  exact ⟨rows, h.table d b rows hrows⟩

lemma Disk.rows_of_not_hasTable {k : Disk} {d : DirName} {b : Base} (h : ¬ k.HasTable d b) :
    k.rows d b = [] := by
  unfold Disk.rows
  split
  · next rows hrows => exact absurd ⟨rows, hrows⟩ h
  · rfl

lemma Disk.idx_of_hasTable {k : Disk} {d : DirName} {b : Base} (h : k.HasTable d b) :
    k.idx d b = .table (k.rows d b) := by
  obtain ⟨rows, hrows⟩ := h
  simp [Disk.rows, hrows]

/-- An index without its table may be replaced by one without rows. -/
lemma Prepared.setIdx {k : Disk} {d : DirName} {b : Base} (h : ¬ k.HasTable d b) {f : IdxFile}
    (hf : f = .noTables ∨ f = .table []) : Prepared k (k.setIdx d b f) where
  dirs := fun _ h => h
  data := rfl
  rows := by
    funext d' b'
    rw [Disk.rows_setIdx]
    split_ifs with heq
    · rw [heq.1, heq.2, Disk.rows_of_not_hasTable h]
      rcases hf with rfl | rfl <;> rfl
    · rfl
  table := fun d' b' rows ht => by
    rw [Disk.idx_setIdx, if_neg]
    · exact ht
    · rintro ⟨rfl, rfl⟩
      exact h ⟨rows, ht⟩

/-- The open index files are kept coherently, and each has its table. -/
structure OpenTables (w : World) : Prop where
  coherent : w.openFiles.Coherent
  hasTable : ∀ n ∈ w.openFiles.list, w.disk.HasTable n.key.1 n.key.2

/-- The disk is `k` with openings added. -/
structure PreparedFrom (k : Disk) (w : World) : Prop where
  prepared : Prepared k w.disk
  openTables : OpenTables w

/-- Openings on the disk keep the open files in order. -/
lemma PreparedFrom.of_prepared {k : Disk} {w w' : World} (h : PreparedFrom k w)
    (hd : Prepared w.disk w'.disk) (ho : w'.openFiles = w.openFiles) : PreparedFrom k w' where
  prepared := h.prepared.trans hd
  openTables := ⟨ho ▸ h.openTables.coherent,
    fun n hn => hd.hasTable (h.openTables.hasTable n (ho ▸ hn))⟩

lemma PreparedFrom.trans {k k₁ : Disk} {w : World} (h : Prepared k k₁) (h' : PreparedFrom k₁ w) :
    PreparedFrom k w := ⟨h.trans h'.prepared, h'.openTables⟩

/-! ### SQLite calls -/

/-- A call with its whole effect or none; `S` is what holds however it ends. -/
lemma sqliteCall_triple {α : Type} {q : Prop} {P S : World → Prop} {Q : α → World → Prop}
    (what : String) {effect : VfsM α}
    (hP : ∀ w cs fds, P w → P { w with calls := cs, fds := fds })
    (heffect : Triple (fun w => P w ∧ Quiet q w) effect Q (fun _ w => S w ∧ ¬ q))
    (hS : ∀ w, P w → S w) (hQ : ∀ a w, Q a w → S w) :
    Triple (fun w => P w ∧ Quiet q w) (sqliteCall what effect) Q (fun _ w => S w ∧ ¬ q) := by
  refine syscall_bind hP heffect fun hq o ho => ?_
  have hthrow (e : Exn) : Triple P (throw e : VfsM α) Q (fun _ w => S w ∧ ¬ q) :=
    .throw e fun w h => ⟨hS w h, hq⟩
  cases o with
  | ok => exact absurd rfl ho
  | stop n =>
    cases n with
    | zero => exact hthrow _
    | succ n =>
      -- the effect happens, and then the process is gone
      refine Triple.tryCatch (R := fun _ w => S w ∧ ¬ q) ?_ fun _ => .throw _ fun w h => h
      refine Triple.bind (Q := fun _ w => S w) ?_ fun _ => .throw _ fun w h => ⟨h, hq⟩
      refine Triple.bind (Q := Q) ?_ fun a => .pure _ fun w h => hQ a w h
      exact heffect.conseq (fun w h => ⟨h, fun h' => absurd h' hq⟩) (fun _ _ h => h)
        fun _ _ h => h
  | _ => exact hthrow _

lemma statement_triple {q : Prop} {P : World → Prop} (what : String)
    (hP : ∀ w cs fds, P w → P { w with calls := cs, fds := fds }) :
    Triple (fun w => P w ∧ Quiet q w) (SQLiteConnection.statement what)
      (fun _ w => P w ∧ Quiet q w) (fun _ w => P w ∧ ¬ q) :=
  sqliteCall_triple what hP (.pure _ fun _ h => h) (fun _ h => h) fun _ _ h => h.1

/-- A transaction: nothing shows before the commit. -/
lemma within_triple {q : Prop} {P S : World → Prop} {body commit : VfsM Unit}
    {Q : Unit → World → Prop} (hP : ∀ w cs fds, P w → P { w with calls := cs, fds := fds })
    (hS : ∀ w cs fds, S w → S { w with calls := cs, fds := fds }) (hPS : ∀ w, P w → S w)
    (hbody : Triple (fun w => P w ∧ Quiet q w) body (fun _ w => P w ∧ Quiet q w)
      (fun _ w => P w ∧ ¬ q))
    (hcommit : Triple (fun w => P w ∧ Quiet q w) commit Q (fun _ w => S w ∧ ¬ q)) :
    Triple (fun w => P w ∧ Quiet q w) (SQLiteTransaction.within body commit) Q
      (fun _ w => S w ∧ ¬ q) := by
  have hweak {R : Exn → World → Prop} (hR : ∀ e w, R e w → P w ∧ ¬ q) :
      ∀ e w, R e w → S w ∧ ¬ q := fun e w h => ⟨hPS w (hR e w h).1, (hR e w h).2⟩
  refine Triple.bind ((statement_triple _ hP).conseq (fun _ h => h) (fun _ _ h => h)
    (hweak fun _ _ h => h)) fun _ => ?_
  refine Triple.tryCatch (R := fun _ w => S w ∧ ¬ q) ?_ fun e => ?_
  · exact (hbody.conseq (fun _ h => h) (fun _ _ h => h) (hweak fun _ _ h => h)).bind
      fun _ => hcommit
  · -- the roll-back may end the process, but leaves the disk as it is
    have hrollback (e : Exn) : Triple (fun w => S w ∧ ¬ q)
        (tryCatch (SQLiteConnection.statement "ROLLBACK;") (fun _ => throw .stopped) >>=
          fun _ => throw e) Q (fun _ w => S w ∧ ¬ q) := by
      refine Triple.bind (Q := fun _ w => S w ∧ ¬ q) ?_ fun _ => .throw _ fun w h => h
      refine Triple.tryCatch (R := fun _ w => S w ∧ ¬ q) ?_ fun _ => .throw _ fun w h => h
      intro w ⟨hw, hq⟩
      exact ((statement_triple (q := q) _ hS).conseq (fun _ h => h) (fun _ w h => ⟨h.1, hq⟩)
        fun _ _ h => h) w ⟨hw, fun h => absurd h hq⟩
    cases e with
    | stopped => exact .throw _ fun w h => h
    | _ => exact hrollback _

/-! ### Opening an index file -/

lemma PreparedFrom.calls {k : Disk} (w : World) (cs : List Call) (fds : FdTable)
    (h : PreparedFrom k w) : PreparedFrom k { w with calls := cs, fds := fds } :=
  h.of_prepared (.refl _) rfl

lemma connect_triple (q : Prop) (k : Disk) (d : DirName) (b : Base) :
    Triple (fun w => PreparedFrom k w ∧ Quiet q w) (SQLiteConnection.connect d b)
      (fun _ w => PreparedFrom k w ∧ Quiet q w) (fun _ w => PreparedFrom k w ∧ ¬ q) := by
  refine sqliteCall_triple _ PreparedFrom.calls ?_ (fun _ h => h) fun _ _ h => h.1
  intro w ⟨hw, hq⟩
  change PreparedFrom k _ ∧ Quiet q _
  dsimp only
  split
  · next habsent =>
    refine ⟨hw.of_prepared (.setIdx ?_ (.inl rfl)) rfl, hq⟩
    rintro ⟨rows, hrows⟩
    simp [habsent] at hrows
  · exact ⟨hw, hq⟩

lemma initializeDatabase_triple (q : Prop) (k : Disk) (d : DirName) (b : Base) :
    Triple (fun w => (PreparedFrom k w ∧ ¬ w.disk.HasTable d b) ∧ Quiet q w)
      (SQLiteIndexFile.initializeDatabase d b)
      (fun _ w => PreparedFrom k w ∧ w.disk.HasTable d b ∧ Quiet q w)
      (fun _ w => PreparedFrom k w ∧ ¬ q) := by
  have hP (w : World) (cs : List Call) (fds : FdTable)
      (h : PreparedFrom k w ∧ ¬ w.disk.HasTable d b) :
      PreparedFrom k { w with calls := cs, fds := fds } ∧ ¬ w.disk.HasTable d b :=
    ⟨h.1.calls w cs fds, h.2⟩
  refine within_triple hP PreparedFrom.calls (fun _ h => h.1) ?_ ?_
  · exact (statement_triple _ hP).bind fun _ => (statement_triple _ hP).bind fun _ =>
      statement_triple _ hP
  · refine sqliteCall_triple _ hP ?_ (fun _ h => h.1) fun _ _ h => h.1
    intro w ⟨⟨hw, hno⟩, hq⟩
    exact ⟨hw.of_prepared (.setIdx hno (.inr rfl)) rfl, ⟨[], by simp⟩, hq⟩

/-- The query for tables says whether there are any. -/
lemma hasTables_triple (q : Prop) (k : Disk) (what : String) (d : DirName) (b : Base) :
    Triple (fun w => PreparedFrom k w ∧ Quiet q w)
      (sqliteCall what do
        match (← get).disk.idx d b with
        | .table _ => return true
        | _        => return false)
      (fun r w => PreparedFrom k w ∧ (r = true ↔ w.disk.HasTable d b) ∧ Quiet q w)
      (fun _ w => PreparedFrom k w ∧ ¬ q) := by
  refine sqliteCall_triple _ PreparedFrom.calls ?_ (fun _ h => h) fun _ _ h => h.1
  intro w ⟨hw, hq⟩
  rw [get_bind]
  cases hidx : w.disk.idx d b with
  | table rows => exact ⟨hw, ⟨fun _ => ⟨rows, hidx⟩, fun _ => rfl⟩, hq⟩
  | _ => exact ⟨hw, ⟨by simp, fun ⟨rows, h⟩ => by simp [hidx] at h⟩, hq⟩

lemma indexFile_new_triple (q : Prop) (k : Disk) (d : DirName) (b : Base) :
    Triple (fun w => PreparedFrom k w ∧ Quiet q w) (SQLiteIndexFile.new d b)
      (fun _ w => PreparedFrom k w ∧ w.disk.HasTable d b ∧ Quiet q w)
      (fun _ w => PreparedFrom k w ∧ ¬ q) := by
  refine (connect_triple q k d b).bind fun _ => ?_
  refine (hasTables_triple q k _ d b).bind fun hasTables => ?_
  cases hasTables with
  | true => exact .pure _ fun w h => ⟨h.1, h.2.1.mp rfl, h.2.2⟩
  | false =>
    exact (initializeDatabase_triple q k d b).conseq
      (fun w h => ⟨⟨h.1, fun ht => by simpa using h.2.1.mpr ht⟩, h.2.2⟩) (fun _ _ h => h)
      fun _ _ h => h

/-- Looking a file up in the open ones, and adding one, keeps them in order. -/
lemma OpenTables.fetch {w : World} (h : OpenTables w) (key : DirName × Base) :
    OpenTables { w with openFiles := (w.openFiles.fetch key).2 } where
  coherent := h.coherent.fetch key true
  hasTable := fun n hn => h.hasTable n ((LRUCache.mem_fetch h.coherent).mp hn)

lemma OpenTables.insert {w : World} (h : OpenTables w) {d : DirName} {b : Base}
    (ht : w.disk.HasTable d b) :
    OpenTables { w with openFiles := w.openFiles.insert (d, b) () } where
  coherent := h.coherent.insert _ _
  hasTable := fun n hn => by
    rcases LRUCache.mem_insert h.coherent hn with ⟨hkey, -⟩ | ⟨hmem, -⟩
    · rw [hkey]
      exact ht
    · exact h.hasTable n hmem

lemma openIndexFile_eq (d : DirName) (b : Base) (w : World) :
    openIndexFile d b w =
      (if (w.openFiles.fetch (d, b)).1.isNone then
        SQLiteIndexFile.new d b >>= fun _ =>
          modify fun w => { w with openFiles := w.openFiles.insert (d, b) () }
      else pure () : VfsM Unit) { w with openFiles := (w.openFiles.fetch (d, b)).2 } := rfl

/-- Opening an index: it has its table afterwards, and no row has changed. -/
lemma openIndexFile_triple (q : Prop) (k : Disk) (d : DirName) (b : Base) :
    Triple (fun w => PreparedFrom k w ∧ Quiet q w) (openIndexFile d b)
      (fun _ w => PreparedFrom k w ∧ w.disk.HasTable d b ∧ Quiet q w)
      (fun _ w => PreparedFrom k w ∧ ¬ q) := by
  intro w ⟨hw, hq⟩
  have hw' : PreparedFrom k { w with openFiles := (w.openFiles.fetch (d, b)).2 } :=
    ⟨hw.prepared, hw.openTables.fetch _⟩
  rw [openIndexFile_eq]
  cases hfetch : (w.openFiles.fetch (d, b)).1 with
  | some u =>
    obtain ⟨n, hn, hkey, -⟩ := (LRUCache.fetch_eq_some hw.openTables.coherent).mp hfetch
    have ht := hw.openTables.hasTable n hn
    rw [hkey] at ht
    exact ⟨hw', ht, hq⟩
  | none =>
    refine Triple.bind (indexFile_new_triple q k d b) (fun _ => ?_) _ ⟨hw', hq⟩
    intro w ⟨hw, ht, hq⟩
    exact ⟨⟨hw.prepared, hw.openTables.insert ht⟩, ht, hq⟩

/-- The constructor of `VFSDatabase`, in a directory that is there. -/
lemma mount_triple (q : Prop) {k : Disk} {d : DirName} (b : Base) (hd : d ∈ k.dirs) :
    Triple (fun w => PreparedFrom k w ∧ Quiet q w) (VFSDatabase.mount d b)
      (fun _ w => PreparedFrom k w ∧ w.disk.HasTable d b ∧ Quiet q w)
      (fun _ w => PreparedFrom k w ∧ ¬ q) := by
  intro w ⟨hw, hq⟩
  have hex := (fsExists_triple q (·.dirs.contains d) w.disk).frame (G := PreparedFrom k)
    (ReadFrame.keeps_fsExists _)
    (fun s t hst hs => hs.of_prepared (hst.sameDisk ▸ .refl _) hst.openFiles)
  refine Triple.bind (hex.conseq (fun _ h => h) (fun _ _ h => h) fun _ _ h => ⟨h.2, h.1.2⟩)
    (fun found => ?_) w ⟨⟨rfl, hq⟩, hw⟩
  rintro w' ⟨⟨hfound, -, hq⟩, hw'⟩
  have hdir : found = true := by
    rw [hfound]
    simpa using hw.prepared.dirs d hd
  subst hdir
  exact openIndexFile_triple q k d b w' ⟨hw', hq⟩

/-! ### Statements on the table -/

lemma tableRows_eq {d : DirName} {b : Base} {w : World} (h : w.disk.HasTable d b) :
    tableRows d b w = .ok (w.disk.rows d b) w := by
  unfold tableRows
  rw [get_bind, Disk.idx_of_hasTable h]
  rfl

/-- The disk and the open files are these. -/
def At (k : Disk) (o : LRUCache (DirName × Base) Unit) (w : World) : Prop :=
  w.disk = k ∧ w.openFiles = o

/-- `findAssetPosition` reads the table. -/
lemma findAssetPosition_triple (q : Prop) {d : DirName} {b : Base} {k : Disk}
    (hk : k.HasTable d b) (o : LRUCache (DirName × Base) Unit) (uuid : ByteString) :
    Triple (fun w => At k o w ∧ Quiet q w) (IndexFile.findAssetPosition d b uuid)
      (fun r w => r = positionIn (k.rows d b) uuid ∧ At k o w ∧ Quiet q w)
      (fun _ w => At k o w ∧ ¬ q) := by
  refine sqliteCall_triple _ (fun w cs fds h => h) ?_ (fun _ h => h) fun _ _ h => h.2.1
  intro w ⟨⟨hdisk, ho⟩, hq⟩
  subst hdisk
  rw [bind_ok (tableRows_eq hk)]
  exact ⟨rfl, ⟨rfl, ho⟩, hq⟩

/-- No row has the identifier of the asset. -/
def NewId (k : Disk) (d : DirName) (b : Base) (a : Asset) : Prop :=
  ∀ row ∈ k.rows d b, row.assetId ≠ a.getUUID

lemma NewId.positionIn {k : Disk} {d : DirName} {b : Base} {a : Asset} (h : NewId k d b a) :
    Whip.positionIn (k.rows d b) a.getUUID = INVALID_POSITION := by
  have hnone : (k.rows d b).find? (·.assetId == a.getUUID) = none := by
    simpa [NewId] using h
  simp [Whip.positionIn, hnone]

/-- The row `recordAssetPosition` inserts. -/
def rowOf (a : Asset) (position : ℤ) : IndexRow := ⟨a.getUUID, position, a.getType, 0⟩

/-- `recordAssetPosition` adds the row, if the primary key admits it. -/
lemma recordAssetPosition_triple (q : Prop) {d : DirName} {b : Base} {k : Disk}
    (hk : k.HasTable d b) (o : LRUCache (DirName × Base) Unit) (a : Asset) (position : ℤ)
    (hnew : q → NewId k d b a) :
    Triple (fun w => At k o w ∧ Quiet q w) (IndexFile.recordAssetPosition d b a position)
      (fun _ w => NewId k d b a ∧
        At (k.setIdx d b (.table (k.rows d b ++ [rowOf a position]))) o w ∧ Quiet q w)
      (fun _ w => (At k o w ∨ NewId k d b a ∧
        At (k.setIdx d b (.table (k.rows d b ++ [rowOf a position]))) o w) ∧ ¬ q) := by
  refine sqliteCall_triple _ (fun w cs fds h => h) ?_ (fun _ h => .inl h)
    fun _ _ h => .inr ⟨h.1, h.2.1⟩
  intro w ⟨⟨hdisk, ho⟩, hq⟩
  subst hdisk
  rw [bind_ok (tableRows_eq hk)]
  dsimp only
  split_ifs with hany
  · refine ⟨.inl ⟨rfl, ho⟩, fun h => ?_⟩
    simp only [List.any_eq_true, beq_iff_eq] at hany
    obtain ⟨row, hrow, hid⟩ := hany
    exact hnew h row hrow hid
  · refine ⟨fun row hrow hid => hany ?_, ⟨rfl, ho⟩, hq⟩
    simp only [List.any_eq_true, beq_iff_eq]
    exact ⟨row, hrow, hid⟩

end Whip
