import Whip.Asset
import Whip.Cache.LRUCache
import Whip.Lib.Bytes
import Whip.Lib.Effect

/-!
# The disk, and the calls the storage layer makes

The storage root holds one directory for each three-character prefix, and in it two databases,
`globals` and `locals`, each an SQLite index and a data file. `World` is what the worker thread acts
on: the disk, the open index files, the process's descriptor table and the data-file object in use.

Every system call, file-system call and SQLite statement takes the next entry of `World.calls`. The
entry says what the call does (`Outcome`) and what the other threads do to the descriptor table
before it. Once the list is used up every call succeeds, so `calls = []` is a run without failures.
-/

namespace Whip

open Bytes

/-- The `fileNameBase` of a `VFSDatabase`. -/
inductive Base
  | globals
  | locals
deriving DecidableEq

abbrev DirName := ByteString

/-- A row of the table `VFSDataIndex`. -/
structure IndexRow where
  assetId : ByteString
  position : ℤ
  type : UInt8
  deleted : ℤ
deriving DecidableEq

/-- An index file: not there, a database without tables, or with the table and its rows. -/
inductive IdxFile
  | absent
  | noTables
  | table (rows : List IndexRow)
deriving DecidableEq

structure Disk where
  dirs : List DirName := []
  idx : DirName → Base → IdxFile := fun _ _ => .absent
  data : DirName → Base → Option ByteString := fun _ _ => none

def Disk.setIdx (k : Disk) (d : DirName) (b : Base) (f : IdxFile) : Disk :=
  { k with idx := fun d' b' => if d' = d ∧ b' = b then f else k.idx d' b' }

def Disk.setData (k : Disk) (d : DirName) (b : Base) (f : Option ByteString) : Disk :=
  { k with data := fun d' b' => if d' = d ∧ b' = b then f else k.data d' b' }

/-- The rows of an index, none if it has no table. -/
def Disk.rows (k : Disk) (d : DirName) (b : Base) : List IndexRow :=
  match k.idx d b with
  | .table rows => rows
  | _ => []

/-- The index file has its table. -/
def Disk.HasTable (k : Disk) (d : DirName) (b : Base) : Prop := ∃ rows, k.idx d b = .table rows

instance (k : Disk) (d : DirName) (b : Base) : Decidable (k.HasTable d b) :=
  match h : k.idx d b with
  | .table rows         => isTrue ⟨rows, h⟩
  | .absent | .noTables => isFalse fun ⟨_, hrows⟩ => IdxFile.noConfusion (h.symm.trans hrows)

namespace Disk

variable (k : Disk) (d d' : DirName) (b b' : Base)

@[simp] lemma dirs_setIdx (f : IdxFile) : (k.setIdx d b f).dirs = k.dirs := rfl

@[simp] lemma data_setIdx (f : IdxFile) : (k.setIdx d b f).data = k.data := rfl

@[simp] lemma idx_setIdx_self (f : IdxFile) : (k.setIdx d b f).idx d b = f := by simp [setIdx]

lemma idx_setIdx (f : IdxFile) :
    (k.setIdx d b f).idx d' b' = if d' = d ∧ b' = b then f else k.idx d' b' := rfl

@[simp] lemma dirs_setData (f : Option ByteString) : (k.setData d b f).dirs = k.dirs := rfl

@[simp] lemma idx_setData (f : Option ByteString) : (k.setData d b f).idx = k.idx := rfl

@[simp] lemma data_setData_self (f : Option ByteString) : (k.setData d b f).data d b = f := by
  simp [setData]

lemma data_setData (f : Option ByteString) :
    (k.setData d b f).data d' b' = if d' = d ∧ b' = b then f else k.data d' b' := rfl

@[simp] lemma setData_setData (f g : Option ByteString) :
    (k.setData d b f).setData d b g = k.setData d b g := by
  simp only [setData, mk.injEq, true_and]
  funext d' b'
  split_ifs <;> rfl

@[simp] lemma setData_self : k.setData d b (k.data d b) = k := by
  cases k with
  | mk dirs idx data =>
    simp only [setData, mk.injEq, true_and]
    funext d' b'
    split_ifs with h
    · rw [h.1, h.2]
    · rfl

@[simp] lemma rows_setData (f : Option ByteString) : (k.setData d b f).rows = k.rows := rfl

lemma rows_setIdx (f : IdxFile) :
    (k.setIdx d b f).rows d' b' =
      if d' = d ∧ b' = b then (match f with | .table rows => rows | _ => []) else k.rows d' b' := by
  simp only [rows, idx_setIdx]
  split_ifs <;> rfl

end Disk

/-! ### Descriptors -/

/-- Who opened a descriptor: a `PosixDataFileImpl`, or anything else in the process. -/
inductive Owner
  | other
  | dataFile (obj : ℕ)
deriving DecidableEq

/-- The process's descriptors, by number. -/
abbrev FdTable := List (Option Owner)

/-- What another thread does to the table: open a socket or file, or close one of its own. -/
inductive FdEvent
  | openFd
  | closeFd (fd : ℕ)
deriving DecidableEq

def FdTable.lowestFree (t : FdTable) : ℕ := t.findIdx Option.isNone

/-- POSIX allocation: the lowest free number. -/
def FdTable.alloc (t : FdTable) (o : Owner) : FdTable :=
  if t.lowestFree < t.length then t.set t.lowestFree (some o) else t ++ [some o]

/-- The owner of an open descriptor; `none` for a number that is not open. -/
def FdTable.owner (t : FdTable) (fd : ℤ) : Option Owner :=
  if 0 ≤ fd then t.getD fd.toNat none else none

/-- `::close`: nothing happens to a number that is not open (`EBADF`). -/
def FdTable.release (t : FdTable) (fd : ℤ) : FdTable :=
  if 0 ≤ fd then t.set fd.toNat none else t

def FdTable.others (t : FdTable) : FdEvent → FdTable
  | .openFd     => t.alloc .other
  | .closeFd fd => if t.owner fd = some .other then t.release fd else t

lemma FdTable.owner_alloc (t : FdTable) (o : Owner) (fd : ℤ) :
    (t.alloc o).owner fd = if fd = t.lowestFree then some o else t.owner fd := by
  unfold FdTable.owner
  by_cases h0 : 0 ≤ fd
  · obtain ⟨n, rfl⟩ := Int.eq_ofNat_of_zero_le h0
    simp only [Int.natCast_nonneg, if_true, Int.toNat_natCast, Nat.cast_inj]
    unfold FdTable.alloc
    split_ifs with hlt hnl hnl
    · subst hnl
      simp [List.getD, hlt]
    · simp [List.getD, List.getElem?_set_ne (Ne.symm hnl)]
    · have hle : t.length = t.lowestFree :=
        le_antisymm (not_lt.mp hlt) List.findIdx_le_length
      subst hnl
      simp [List.getD, ← hle]
    · have hle : t.length = t.lowestFree :=
        le_antisymm (not_lt.mp hlt) List.findIdx_le_length
      rcases lt_or_ge n t.length with h | h
      · simp [List.getD, List.getElem?_append_left h]
      · have : t.length < n := lt_of_le_of_ne h (fun h' => hnl (by rw [← hle, h']))
        have h1 : (t ++ [some o])[n]? = none := by simp; omega
        have h2 : t[n]? = none := by simp; omega
        simp [List.getD, h1, h2]
  · have hne : fd ≠ t.lowestFree := by omega
    simp [h0, hne]

/-- A free number is not open. -/
lemma FdTable.owner_lowestFree (t : FdTable) : t.owner t.lowestFree = none := by
  unfold FdTable.owner
  simp only [Int.natCast_nonneg, if_true, Int.toNat_natCast]
  rcases lt_or_ge t.lowestFree t.length with h | h
  · have := List.findIdx_getElem (p := Option.isNone) (w := h)
    rw [List.getD_eq_getElem?_getD, List.getElem?_eq_getElem h]
    exact Option.isNone_iff_eq_none.mp this
  · simp [List.getD, List.getElem?_eq_none h]

lemma FdTable.owner_release (t : FdTable) (fd fd' : ℤ) :
    (t.release fd).owner fd' = if fd' = fd then none else t.owner fd' := by
  unfold FdTable.release FdTable.owner
  by_cases h0 : 0 ≤ fd
  · by_cases h0' : 0 ≤ fd'
    · simp only [h0, h0', if_true]
      by_cases h : fd' = fd
      · subst h
        rcases lt_or_ge fd'.toNat t.length with hlt | hge
        · simp [List.getD, hlt]
        · simp [List.getD, hge]
      · have hne : fd.toNat ≠ fd'.toNat := by omega
        simp [List.getD, h, List.getElem?_set_ne hne]
    · simp [h0']
  · by_cases h : fd' = fd
    · subst h
      simp [h0]
    · simp [h0, h]

/-- The other threads neither make nor close a descriptor of a data-file object. -/
lemma FdTable.owner_others (t : FdTable) (ev : FdEvent) (fd : ℤ) (obj : ℕ) :
    (t.others ev).owner fd = some (.dataFile obj) ↔ t.owner fd = some (.dataFile obj) := by
  cases ev with
  | openFd =>
    simp only [FdTable.others, FdTable.owner_alloc]
    split_ifs with h
    · subst h
      simp [FdTable.owner_lowestFree]
    · rfl
  | closeFd n =>
    simp only [FdTable.others]
    split_ifs with hn
    · rw [FdTable.owner_release]
      split_ifs with h
      · subst h
        simp [hn]
      · rfl
    · rfl

lemma FdTable.owner_foldl_others (evs : List FdEvent) (t : FdTable) (fd : ℤ) (obj : ℕ) :
    (evs.foldl FdTable.others t).owner fd = some (.dataFile obj) ↔
      t.owner fd = some (.dataFile obj) := by
  induction evs generalizing t with
  | nil => rfl
  | cons ev evs ih => rw [List.foldl_cons, ih, FdTable.owner_others]

/-- A `::close` issued by a data-file object, and who owned the number at that moment. -/
structure CloseRecord where
  obj : ℕ
  fd : ℤ
  owner : Option Owner
deriving DecidableEq

/-- `PosixDataFileImpl`: its number `_fd`, and the file and offset behind it. -/
structure PosixDataFileImpl where
  obj : ℕ
  fd : ℤ := 0
  target : DirName × Base := ([], .globals)
  offset : ℕ := 0
  filePath : String := ""

/-! ### Calls -/

/-- What one call does. -/
inductive Outcome
  | ok
  | err                    -- it reports an error and has no effect
  | short (n : ℕ)          -- a transfer of only `n` bytes; an error of any other call
  | raise (what : String)  -- it throws some other `std::exception`
  | stop (n : ℕ)           -- the process stops in it, `n` units of its effect done
deriving DecidableEq

structure Call where
  others : List FdEvent := []
  outcome : Outcome := .ok
deriving DecidableEq

structure AssetStorageError where
  what : String
  isCritical : Bool := false
deriving DecidableEq

inductive Exn
  | assetStorage (e : AssetStorageError)
  | sqlite (what : String)
  | std (what : String)
  | stopped                -- not an exception: the process is gone
deriving DecidableEq

structure World where
  disk : Disk := {}
  openFiles : LRUCache (DirName × Base) Unit :=
    { calculator := EntryCountCalculator Unit, maxSize := 512 }
  fds : FdTable := []
  closes : List CloseRecord := []
  impl : PosixDataFileImpl := { obj := 0 }
  nextObj : ℕ := 1
  calls : List Call := []

abbrev VfsM := EStateM Exn World

/-- Bytes as text, for messages and paths. -/
def showBytes (s : ByteString) : String := String.ofList (s.map fun b => Char.ofNat b.toNat)

def Base.name : Base → String
  | .globals => "globals"
  | .locals  => "locals"

/-- Enter a call: the other threads act, then the next outcome is taken. -/
def syscall : VfsM Outcome := fun w =>
  match w.calls with
  | []      => .ok .ok w
  | c :: cs => .ok c.outcome { w with calls := cs, fds := c.others.foldl FdTable.others w.fds }

/-- The process stops once `effect` has happened, whatever the effect reports. -/
def stopAfter {α : Type} (effect : VfsM Unit) : VfsM α :=
  tryCatch (effect >>= fun _ => throw .stopped) fun _ => throw .stopped

/-! ### File-system calls -/

/-- `fs::exists`, of the thing `p` looks for; errors other than absence are thrown. -/
def fsExists (p : Disk → Bool) : VfsM Bool := do
  match ← syscall with
  | .ok         => return p (← get).disk
  | .raise what => throw (.std what)
  | .stop _     => throw .stopped
  | _           => throw (.std "boost::filesystem::exists")

/-- Whether the directory is new. -/
def addDirectory (d : DirName) : VfsM Bool := do
  if (← get).disk.dirs.contains d then return false
  else
    modify fun w => { w with disk := { w.disk with dirs := d :: w.disk.dirs } }
    return true

/-- `fs::create_directory`: `false` if the directory is there already; errors are thrown. -/
def createDirectory (d : DirName) : VfsM Bool := do
  match ← syscall with
  | .ok           => addDirectory d
  | .raise what   => throw (.std what)
  | .stop 0       => throw .stopped
  | .stop (_ + 1) => do let _ ← addDirectory d; throw .stopped
  | _             => throw (.std "boost::filesystem::create_directory")

lemma addDirectory_of_not_mem {d : DirName} {w : World} (hd : d ∉ w.disk.dirs) :
    addDirectory d w = .ok true { w with disk := { w.disk with dirs := d :: w.disk.dirs } } := by
  have hnone : w.disk.dirs.contains d = false := by simpa using hd
  rw [addDirectory, Effect.get_bind, hnone]
  rfl

/-- `fs::remove` of an index or a data file; a missing file is no error. -/
def fsRemove (f : Disk → Disk) : VfsM Unit := do
  let remove : VfsM Unit := modify fun w => { w with disk := f w.disk }
  match ← syscall with
  | .ok           => remove
  | .raise what   => throw (.std what)
  | .stop 0       => throw .stopped
  | .stop (_ + 1) => stopAfter remove
  | _             => throw (.std "boost::filesystem::remove")

/-! ### SQLite -/

/-- One SQLite call: it has its whole effect or none. -/
def sqliteCall {α : Type} (what : String) (effect : VfsM α) : VfsM α := do
  match ← syscall with
  | .ok           => effect
  | .raise what   => throw (.std what)
  | .stop 0       => throw .stopped
  | .stop (_ + 1) => stopAfter (discard effect)
  | _             => throw (.sqlite what)

/-- `SQLiteConnection(path)`: a missing database is created, without tables. -/
def SQLiteConnection.connect (d : DirName) (b : Base) : VfsM Unit :=
  sqliteCall "[SQLiteConnection] Could not open database: " <| modify fun w =>
    match w.disk.idx d b with
    | .absent => { w with disk := w.disk.setIdx d b .noTables }
    | _       => w

/-- A statement without effect of its own: inside a transaction nothing shows before the commit. -/
def SQLiteConnection.statement (what : String) : VfsM Unit := sqliteCall what (pure ())

/-- `SQLiteTransaction` around `body`: an exception rolls back, and one thrown by the roll-back in
the destructor ends the process. -/
def SQLiteTransaction.within (body commit : VfsM Unit) : VfsM Unit := do
  SQLiteConnection.statement "BEGIN TRANSACTION;"
  try
    body
    commit
  catch e =>
    match e with
    | .stopped => throw .stopped
    | e =>
      try SQLiteConnection.statement "ROLLBACK;" catch _ => throw .stopped
      throw e

def SQLiteIndexFile.initializeDatabase (d : DirName) (b : Base) : VfsM Unit :=
  SQLiteTransaction.within
    (do SQLiteConnection.statement "CREATE TABLE VFSVersions"
        SQLiteConnection.statement "CREATE TABLE VFSDataIndex"
        SQLiteConnection.statement "INSERT INTO VFSVersions")
    (sqliteCall "COMMIT;" <| modify fun w => { w with disk := w.disk.setIdx d b (.table []) })

/-- The constructor of `SQLiteIndexFile`: open, and set the tables up if there are none. -/
def SQLiteIndexFile.new (d : DirName) (b : Base) : VfsM Unit := do
  SQLiteConnection.connect d b
  let hasTables ← sqliteCall "SELECT COUNT(*) AS tbl_count FROM sqlite_master" do
    match (← get).disk.idx d b with
    | .table _ => return true
    | _        => return false
  if !hasTables then
    SQLiteIndexFile.initializeDatabase d b

/-- `SQLiteIndexFileManager::openIndexFile`: at most 512 files are kept open. -/
def openIndexFile (d : DirName) (b : Base) : VfsM Unit := do
  let (found, openFiles) := (← get).openFiles.fetch (d, b)
  modify fun w => { w with openFiles := openFiles }
  if found.isNone then
    SQLiteIndexFile.new d b
    modify fun w => { w with openFiles := w.openFiles.insert (d, b) () }

/-- `SQLiteIndexFileManager::forceCloseIndexFile`. -/
def forceCloseIndexFile (d : DirName) (b : Base) : VfsM Unit := do
  let (found, openFiles) := (← get).openFiles.fetch (d, b)
  modify fun w => { w with openFiles := openFiles }
  if found.isSome then
    modify fun w => { w with openFiles := w.openFiles.remove (d, b) }

/-- The rows a statement on the table works on; without the table it cannot be prepared. -/
def tableRows (d : DirName) (b : Base) : VfsM (List IndexRow) := do
  match (← get).disk.idx d b with
  | .table rows => return rows
  | _           => throw (.sqlite "no such table: VFSDataIndex")

/-- The sentinel `INVALID_POSITION`. -/
def INVALID_POSITION : ℤ := 0

/-- What `findAssetPosition` makes of the rows its query returns. -/
def positionIn (rows : List IndexRow) (uuid : ByteString) : ℤ :=
  match rows.find? (·.assetId == uuid) with
  | none     => INVALID_POSITION
  | some row => if row.deleted = 1 then INVALID_POSITION else row.position

def IndexFile.findAssetPosition (d : DirName) (b : Base) (uuid : ByteString) : VfsM ℤ :=
  sqliteCall "SELECT * FROM VFSDataIndex WHERE asset_id" do
    return positionIn (← tableRows d b) uuid

/-- `INSERT INTO VFSDataIndex`; the primary key admits an identifier once. -/
def IndexFile.recordAssetPosition (d : DirName) (b : Base) (asset : Asset) (position : ℤ) :
    VfsM Unit :=
  sqliteCall "INSERT INTO VFSDataIndex" do
    let rows ← tableRows d b
    if rows.any (·.assetId == asset.getUUID) then
      throw (.sqlite "PRIMARY KEY must be unique")
    let row : IndexRow := ⟨asset.getUUID, position, asset.getType, 0⟩
    modify fun w => { w with disk := w.disk.setIdx d b (.table (rows ++ [row])) }

/-- `kashmir::uuid_t` of a column. An empty text leaves the value indeterminate; the model throws
there too. -/
def uuidOfText (s : ByteString) : VfsM Uuid :=
  match Uuid.parse s with
  | .value u => pure u
  | _        => throw (.std "failed to extract valid uuid from stream.")

def IndexFile.getContainedAssetIds (d : DirName) (b : Base) : VfsM (List Uuid) :=
  sqliteCall "SELECT asset_id FROM VFSDataIndex" do
    (← tableRows d b).mapM fun row => uuidOfText row.assetId

def IndexFile.getContainedAssetIdStrings (d : DirName) (b : Base) : VfsM (List ByteString) :=
  sqliteCall "SELECT asset_id FROM VFSDataIndex" do
    return (← tableRows d b).map (·.assetId)

end Whip
