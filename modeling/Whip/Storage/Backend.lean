import Whip.Storage.Database
import Mathlib.Data.List.Perm.Basic

/-!
# The storage backend

`VFSBackend` keeps the set of stored identifiers in memory, queues requests for its worker thread,
and posts completions to the io thread. The asynchronous calls are functions of the state; `dequeue`
and `process` are the two halves of the worker's loop, and `Handler` is what has been posted.

The type `κ` stands for the callbacks a caller binds.
-/

namespace Whip

/-! ### The existence index -/

namespace ExistenceIndex

/-- Does constructing a `uuid_t` from the text give a value? It throws or leaves the identifier
unset for any other text. -/
def parses (assetId : ByteString) : Bool :=
  match Uuid.parse assetId with
  | .value _ => true
  | _        => false

/-- `kashmir::uuid_t(assetId)` in the set, for a text that `parses`. Sessions and the mesh validate
what they look up; pull replication does not, and its model looks at `parses` first. -/
def assetExists (index : List Uuid) (assetId : ByteString) : Bool :=
  match Uuid.parse assetId with
  | .value u => index.contains u
  | _        => false

def addNewId (index : List Uuid) (assetId : ByteString) : List Uuid :=
  match Uuid.parse assetId with
  | .value u => index.insert u
  | _        => index

def removeId (index : List Uuid) (id : Uuid) : List Uuid := index.filter (· ≠ id)

/-- `sqlite3_column_int`: the low 32 bits of an integer column. -/
def columnInt (value : ℤ) : ℤ := value.bmod (2 ^ 32)

@[simp] lemma columnInt_zero : columnInt 0 = 0 := rfl

/-- `rowCallback` on the rows of one file; `none` if an identifier does not parse. -/
def loadRows (index : List Uuid) : List IndexRow → Option (List Uuid)
  | [] => some index
  | row :: rows =>
    if columnInt row.deleted = 0 then
      match Uuid.parse row.assetId with
      | .value u => loadRows (index.insert u) rows
      | _        => none
    else loadRows index rows

/-- `loadIndexFile`; the query fails on a database without its table. -/
def loadIndexFile (k : Disk) (index : List Uuid) (file : DirName × Base) : Option (List Uuid) :=
  match k.idx file.1 file.2 with
  | .absent     => some index
  | .noTables   => none
  | .table rows => loadRows index rows

/-- The constructor: every index file of every directory below the root. -/
def load (k : Disk) : Option (List Uuid) :=
  (k.dirs.flatMap fun d => [(d, Base.globals), (d, Base.locals)]).foldlM (loadIndexFile k) []

lemma assetExists_text (index : List Uuid) (u : AssetId) :
    assetExists index u.text = true ↔ u.toUuid ∈ index := by
  simp [assetExists, Uuid.parse_text]

lemma mem_addNewId {index : List Uuid} {u : AssetId} {x : Uuid} :
    x ∈ addNewId index u.text ↔ x = u.toUuid ∨ x ∈ index := by
  simp [addNewId, Uuid.parse_text]

lemma mem_removeId {index : List Uuid} {id x : Uuid} :
    x ∈ removeId index id ↔ x ∈ index ∧ x ≠ id := by
  simp [removeId]

lemma mem_foldl_removeId {ids index : List Uuid} {x : Uuid} :
    x ∈ ids.foldl removeId index ↔ x ∈ index ∧ x ∉ ids := by
  induction ids generalizing index with
  | nil => simp
  | cons id ids ih => simp [ih, mem_removeId, and_assoc]

/-- The rows of a file add their identifiers, the deleted ones left out. -/
lemma mem_loadRows {rows : List IndexRow} {index index' : List Uuid}
    (h : loadRows index rows = some index') {x : Uuid} :
    x ∈ index' ↔ x ∈ index ∨
      ∃ row ∈ rows, columnInt row.deleted = 0 ∧ Uuid.parse row.assetId = .value x := by
  induction rows generalizing index with
  | nil =>
    cases h
    simp
  | cons row rows ih =>
    rw [loadRows] at h
    split_ifs at h with hdel
    · cases hp : Uuid.parse row.assetId with
      | value u =>
        rw [hp] at h
        rw [ih h]
        simp [hdel, hp, or_assoc, or_left_comm, eq_comm]
      | _ =>
        rw [hp] at h
        cases h
    · rw [ih h]
      simp [hdel]

lemma mem_loadIndexFile {k : Disk} {file : DirName × Base} {index index' : List Uuid}
    (h : loadIndexFile k index file = some index') {x : Uuid} :
    x ∈ index' ↔ x ∈ index ∨
      ∃ row ∈ k.rows file.1 file.2, columnInt row.deleted = 0 ∧
      Uuid.parse row.assetId = .value x := by
  unfold loadIndexFile at h
  unfold Disk.rows
  cases hidx : k.idx file.1 file.2 with
  | absent =>
    rw [hidx] at h
    cases h
    simp
  | noTables =>
    rw [hidx] at h
    cases h
  | table rows =>
    rw [hidx] at h
    exact mem_loadRows h

/-- The index of a fresh process is what the index files of the root say. -/
lemma mem_load {k : Disk} {index : List Uuid} (h : load k = some index) {x : Uuid} :
    x ∈ index ↔ ∃ d ∈ k.dirs, ∃ b, ∃ row ∈ k.rows d b,
      columnInt row.deleted = 0 ∧ Uuid.parse row.assetId = .value x := by
  have hfiles (files : List (DirName × Base)) (index₀ : List Uuid)
      (h : files.foldlM (loadIndexFile k) index₀ = some index) :
      x ∈ index ↔ x ∈ index₀ ∨ ∃ file ∈ files, ∃ row ∈ k.rows file.1 file.2,
        columnInt row.deleted = 0 ∧ Uuid.parse row.assetId = .value x := by
    induction files generalizing index₀ with
    | nil =>
      cases h
      simp
    | cons file files ih =>
      rw [List.foldlM_cons] at h
      obtain ⟨index₁, h₁, h₂⟩ := Option.bind_eq_some_iff.mp h
      rw [ih index₁ h₂, mem_loadIndexFile h₁]
      simp [or_assoc]
  rw [hfiles _ _ h]
  constructor
  · rintro (hx | ⟨file, hfile, row, hrow⟩)
    · simp at hx
    · rw [List.mem_flatMap] at hfile
      obtain ⟨d, hd, hfile⟩ := hfile
      simp only [List.mem_cons, List.not_mem_nil, or_false] at hfile
      rcases hfile with rfl | rfl
      · exact ⟨d, hd, .globals, row, hrow⟩
      · exact ⟨d, hd, .locals, row, hrow⟩
  · rintro ⟨d, hd, b, row, hrow⟩
    refine .inr ⟨(d, b), List.mem_flatMap.mpr ⟨d, hd, ?_⟩, row, hrow⟩
    cases b <;> simp

end ExistenceIndex

/-! ### Requests and completions -/

/-- What a callback is called with. -/
inductive Completion
  | got (asset : Option Asset) (success : Bool) (error : Option AssetStorageError)
  | stored (success : Bool) (error : Option AssetStorageError)
  | completed (journal : ByteString)
deriving DecidableEq

/-- The `AssetRequest`s of the work queue. -/
inductive AssetRequest (κ : Type)
  | get (assetId : ByteString) (callback : κ)
  | put (asset : Asset) (callback : κ)
  | purge (assetId : ByteString) (callback : κ)
  | purgeLocals (uuidHead : ByteString)
  | deleteLocalStorage (uuidPrefix : ByteString)
  | collectStatus (callback : κ)
  | getStoredAssetIds (head : ByteString) (callback : κ)
deriving DecidableEq

/-- What has been posted to the io thread. -/
inductive Handler (κ : Type)
  | callback (callback : κ) (result : Completion)
  | assetWriteFailed (assetId : ByteString) (reason : String)
  | ioLoopFailed (reason : String)
  | unindexLocals (uuidList : Option (List Uuid)) (uuidHead : ByteString)
deriving DecidableEq

structure VFSBackend (κ : Type) where
  world : World := {}
  existenceIndex : List Uuid := []
  workQueue : List (AssetRequest κ) := []
  current : Option (AssetRequest κ) := none
  posted : List (Handler κ) := []
  isPurgingLocals : Bool := false
  currentLocalsPurgeIndex : ℕ := 0

namespace VFSBackend

variable {κ : Type}

def post (s : VFSBackend κ) (hs : List (Handler κ)) : VFSBackend κ :=
  { s with posted := s.posted ++ hs }

def enqueue (s : VFSBackend κ) (req : AssetRequest κ) : VFSBackend κ :=
  { s with workQueue := s.workQueue ++ [req] }

/-! ### Asynchronous calls -/

def notFoundError (uuid : ByteString) : AssetStorageError :=
  ⟨"Could not retrieve asset " ++ showBytes uuid ++ ", asset not found", false⟩

def alreadyExistsError (uuid : ByteString) : AssetStorageError :=
  ⟨"Unable to store asset " ++ showBytes uuid ++ ", asset already exists", false⟩

def getAsset (s : VFSBackend κ) (uuid : ByteString) (callBack : κ) : VFSBackend κ :=
  if !ExistenceIndex.assetExists s.existenceIndex uuid then
    s.post [.callback callBack (.got none false (some (notFoundError uuid)))]
  else
    s.enqueue (.get uuid callBack)

def storeAsset (s : VFSBackend κ) (asset : Asset) (callBack : κ) : VFSBackend κ :=
  if ExistenceIndex.assetExists s.existenceIndex asset.getUUID then
    s.post [.callback callBack (.stored false (some (alreadyExistsError asset.getUUID)))]
  else
    -- the identifier is claimed now, so that a get that follows is queued behind the write
    let index := ExistenceIndex.addNewId s.existenceIndex asset.getUUID
    { s with existenceIndex := index }.enqueue (.put asset callBack)

def purgeAsset (s : VFSBackend κ) (uuid : ByteString) (callBack : κ) : VFSBackend κ :=
  s.enqueue (.purge uuid callBack)

def getStatus (s : VFSBackend κ) (completedCallback : κ) : VFSBackend κ :=
  s.enqueue (.collectStatus completedCallback)

def getStoredAssetIDsWithPrefix (s : VFSBackend κ) (head : ByteString) (completedCallback : κ) :
    VFSBackend κ :=
  s.enqueue (.getStoredAssetIds head completedCallback)

/-- Start the purge timer, unless it is running. -/
def beginPurgeLocals (s : VFSBackend κ) : VFSBackend κ :=
  if !s.isPurgingLocals then { s with isPurgingLocals := true, currentLocalsPurgeIndex := 0 } else s

/-- Three hexadecimal digits, the name of a prefix directory. -/
def hexHead (n : ℕ) : ByteString :=
  [Uuid.hexChar (n / 256 % 16), Uuid.hexChar (n / 16 % 16), Uuid.hexChar (n % 16)]

lemma length_hexHead (n : ℕ) : (hexHead n).length = 3 := rfl

lemma hexHead_injective {i j : ℕ} (hi : i ≤ 0xFFF) (hj : j ≤ 0xFFF) (h : hexHead i = hexHead j) :
    i = j := by
  simp only [hexHead, List.cons.injEq, and_true] at h
  obtain ⟨h₂, h₁, h₀⟩ := h
  have h₂ := Uuid.hexChar_injective (Nat.mod_lt _ (by decide)) (Nat.mod_lt _ (by decide)) h₂
  have h₁ := Uuid.hexChar_injective (Nat.mod_lt _ (by decide)) (Nat.mod_lt _ (by decide)) h₁
  have h₀ := Uuid.hexChar_injective (Nat.mod_lt _ (by decide)) (Nat.mod_lt _ (by decide)) h₀
  omega

/-- The directory of a valid identifier is one of those that a purge and a listing come to. -/
lemma exists_hexHead (u : AssetId) : ∃ i ≤ 0xFFF, getFullPathForUUID u.text = hexHead i := by
  have hlen : (u.text.take UUID_PATH_CHARS).length = 3 := by
    rw [List.length_take, u.length_text]
    rfl
  obtain ⟨a, b, c, habc⟩ := List.length_eq_three.mp hlen
  have hchar (ch : UInt8) (hch : ch ∈ [a, b, c]) : isHexChar ch = true := by
    rw [← habc] at hch
    exact u.isHexChar_of_mem (List.mem_of_mem_take hch)
  obtain ⟨x, hx, rfl⟩ := Uuid.exists_hexChar (hchar a (by simp))
  obtain ⟨y, hy, rfl⟩ := Uuid.exists_hexChar (hchar b (by simp))
  obtain ⟨z, hz, rfl⟩ := Uuid.exists_hexChar (hchar c (by simp))
  refine ⟨256 * x + 16 * y + z, by omega, ?_⟩
  have h₂ : (256 * x + 16 * y + z) / 256 % 16 = x := by omega
  have h₁ : (256 * x + 16 * y + z) / 16 % 16 = y := by omega
  have h₀ : (256 * x + 16 * y + z) % 16 = z := by omega
  rw [getFullPathForUUID, habc, hexHead, h₂, h₁, h₀]

/-- `onPurgeTimer` without an error; the timer is set again up to `0xFFF`. -/
def onPurgeTimer (s : VFSBackend κ) : VFSBackend κ :=
  let head := hexHead s.currentLocalsPurgeIndex
  let next := s.currentLocalsPurgeIndex + 1
  { s with currentLocalsPurgeIndex := next, isPurgingLocals := decide (next ≤ 0xFFF) }.enqueue
    (.purgeLocals head)

/-! ### The worker thread -/

/-- `e.what()` of a caught exception. -/
def what : Exn → String
  | .assetStorage e => e.what
  | .sqlite text    => text
  | .std text       => text
  | .stopped        => ""

def performDiskWrite (asset : Asset) (callback : κ) : VfsM (List (Handler κ)) :=
  tryCatch
    (do storeAssetSync asset
        return [.callback callback (.stored true none)])
    fun e => match e with
      | .assetStorage error => return [.callback callback (.stored false (some error))]
      | .stopped => throw .stopped
      | e =>
        return [.assetWriteFailed asset.getUUID (what e),
          .callback callback (.stored false (some ⟨what e, false⟩))]

def performDiskRead (assetId : ByteString) (callback : κ) : VfsM (List (Handler κ)) :=
  tryCatch
    (do match ← getAssetSync assetId with
        | some asset => return [.callback callback (.got (some asset) true none)]
        | none =>
          let error := ⟨"Asset " ++ showBytes assetId ++ " not found", false⟩
          return [.callback callback (.got none false (some error))])
    fun e => match e with
      | .assetStorage error => return [.callback callback (.got none false (some error))]
      | .stopped => throw .stopped
      | e => return [.callback callback (.got none false (some ⟨what e, false⟩))]

/-- Nothing is done, and nobody is told. -/
def performDiskPurge (_assetId : ByteString) (_callback : κ) : VfsM (List (Handler κ)) := return []

/-- The first step of a purge: list the local identifiers. -/
def performDiskPurgeLocals (uuidHead : ByteString) : VfsM (List (Handler κ)) := do
  let found ← fsExists fun k => k.idx uuidHead .locals ≠ .absent
  if found then
    openIndexFile uuidHead .locals
    let containedIds ← IndexFile.getContainedAssetIds uuidHead .locals
    return [.unindexLocals (some containedIds) uuidHead]
  else
    return [.unindexLocals none uuidHead]

/-- The last step: close the index, then delete the index file and the data file. -/
def performLocalsPhysicalDeletion (uuidHead : ByteString) : VfsM (List (Handler κ)) := do
  forceCloseIndexFile uuidHead .locals
  fsRemove (·.setIdx uuidHead .locals .absent)
  fsRemove (·.setData uuidHead .locals none)
  return []

/-- The journal's text is not modelled. -/
def performGetStatus (completedCallback : κ) : VfsM (List (Handler κ)) :=
  return [.callback completedCallback (.completed [])]

/-- The identifiers of the global assets, each followed by a comma. -/
def performGetStoredAssetIds (head : ByteString) (completedCallback : κ) :
    VfsM (List (Handler κ)) := do
  let found ← fsExists fun k => k.idx head .globals ≠ .absent
  let journal ← if found then do
      openIndexFile head .globals
      let containedIds ← IndexFile.getContainedAssetIdStrings head .globals
      pure (containedIds.flatMap (· ++ [44]))
    else pure []
  return [.callback completedCallback (.completed journal)]

def processRequest : AssetRequest κ → VfsM (List (Handler κ))
  | .get assetId callback          => performDiskRead assetId callback
  | .put asset callback            => performDiskWrite asset callback
  | .purge assetId callback        => performDiskPurge assetId callback
  | .purgeLocals uuidHead          => performDiskPurgeLocals uuidHead
  | .deleteLocalStorage uuidPrefix => performLocalsPhysicalDeletion uuidPrefix
  | .collectStatus callback        => performGetStatus callback
  | .getStoredAssetIds head callback => performGetStoredAssetIds head callback

/-- One round of `workLoop`: an exception that gets this far is reported and forgotten. -/
def workLoop (req : AssetRequest κ) : VfsM (List (Handler κ)) :=
  tryCatch (processRequest req) fun e => match e with
    | .stopped => throw .stopped
    | e        => return [.ioLoopFailed (what e)]

/-- The worker takes the front request. -/
def dequeue (s : VFSBackend κ) : Option (VFSBackend κ) :=
  match s.current, s.workQueue with
  | none, req :: rest => some { s with current := some req, workQueue := rest }
  | _, _              => none

/-- The worker processes its request, and the handlers are posted. -/
def process (s : VFSBackend κ) (calls : List Call) : Option (VFSBackend κ) :=
  match s.current with
  | none => none
  | some req =>
    match workLoop req { s.world with calls := calls } with
    | .ok hs w   => some { s with world := w, current := none, posted := s.posted ++ hs }
    | .error _ _ => none

/-! ### The io thread -/

/-- `unindexLocals`: the second step of a purge. -/
def unindexLocals (s : VFSBackend κ) (uuidList : Option (List Uuid)) (uuidHead : ByteString) :
    VFSBackend κ :=
  let index := (uuidList.getD []).foldl ExistenceIndex.removeId s.existenceIndex
  { s with existenceIndex := index }.enqueue (.deleteLocalStorage uuidHead)

def assetWriteFailed (s : VFSBackend κ) (assetId : ByteString) : VFSBackend κ :=
  match Uuid.parse assetId with
  | .value u => { s with existenceIndex := ExistenceIndex.removeId s.existenceIndex u }
  | _        => s

/-- Run the `i`-th posted handler; a callback is handed to the caller. -/
def runHandler (s : VFSBackend κ) (i : ℕ) : Option (VFSBackend κ × Option (κ × Completion)) :=
  match s.posted[i]? with
  | none => none
  | some h =>
    let s := { s with posted := s.posted.eraseIdx i }
    match h with
    | .callback k r           => some (s, some (k, r))
    | .assetWriteFailed id _  => some (s.assetWriteFailed id, none)
    | .ioLoopFailed _         => some (s, none)
    | .unindexLocals ids head => some (s.unindexLocals ids head, none)

/-! ### The backend as a machine -/

/-- A call of the submitting thread, or a step of the timer, the worker or the io thread. -/
inductive Event (κ : Type)
  | getAsset (uuid : AssetId) (callBack : κ)
  | storeAsset (asset : ValidAsset) (callBack : κ)
  | purgeAsset (uuid : AssetId) (callBack : κ)
  | getStatus (completedCallback : κ)
  | getStoredAssetIDsWithPrefix (head : ByteString) (completedCallback : κ)
  | beginPurgeLocals
  | purgeTimer
  | dequeue
  | process (calls : List Call)
  | runHandler (i : ℕ)

def step (s : VFSBackend κ) : Event κ → Option (VFSBackend κ)
  | .getAsset uuid k   => some (s.getAsset uuid.text k)
  | .storeAsset a k    => some (s.storeAsset a.toAsset k)
  | .purgeAsset uuid k => some (s.purgeAsset uuid.text k)
  | .getStatus k       => some (s.getStatus k)
  | .getStoredAssetIDsWithPrefix head k => some (s.getStoredAssetIDsWithPrefix head k)
  | .beginPurgeLocals  => some s.beginPurgeLocals
  | .purgeTimer        => if s.isPurgingLocals then some s.onPurgeTimer else none
  | .dequeue           => s.dequeue
  | .process calls     => s.process calls
  | .runHandler i      => (s.runHandler i).map (·.1)

/-- Taking a posted handler out. -/
lemma posted_perm {s : VFSBackend κ} {i : ℕ} {h : Handler κ} (hi : s.posted[i]? = some h) :
    (h :: s.posted.eraseIdx i).Perm s.posted := by
  obtain ⟨hlt, rfl⟩ := List.getElem?_eq_some_iff.mp hi
  exact List.getElem_cons_eraseIdx_perm hlt

lemma runHandler_callback {s : VFSBackend κ} {i : ℕ} {k : κ} {r : Completion}
    (hi : s.posted[i]? = some (.callback k r)) :
    s.runHandler i = some ({ s with posted := s.posted.eraseIdx i }, some (k, r)) := by
  simp [runHandler, hi]

end VFSBackend

end Whip
