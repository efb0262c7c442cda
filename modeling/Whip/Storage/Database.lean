import Whip.Storage.DataFile

/-!
# Databases and database sets

A `VFSDatabase` is an index and a data file; a `DatabaseSet` is the global and the local database of
one prefix directory. The synchronous `getAsset` and `storeAsset` of `VFSBackend`, which the worker
thread calls, open the set of an identifier's directory and use it.
-/

namespace Whip

/-- `Settings::UUID_PATH_CHARS`. -/
def UUID_PATH_CHARS : ℕ := 3

/-- The directory of an identifier, below the storage root. -/
def getFullPathForUUID (uuid : ByteString) : DirName := uuid.take UUID_PATH_CHARS

namespace VFSDatabase

/-- The constructor: the directory must be there, and the index is opened. -/
def mount (d : DirName) (b : Base) : VfsM Unit := do
  if !(← fsExists (·.dirs.contains d)) then
    throw (.assetStorage
      ⟨"Could not mount VFS database: " ++ showBytes d ++ " path was not found", true⟩)
  openIndexFile d b

def getAsset (d : DirName) (b : Base) (uuid : ByteString) : VfsM (Option Asset) := do
  let assetPosition ← IndexFile.findAssetPosition d b uuid
  if assetPosition = INVALID_POSITION then
    return none
  -- the position exists in the index: attempt retrieval from the database
  let asset ← DataFile.getAssetAtPosition d b assetPosition
  return some asset

def assetExists (d : DirName) (b : Base) (uuid : ByteString) : VfsM Bool := do
  let assetPosition ← IndexFile.findAssetPosition d b uuid
  return assetPosition ≠ INVALID_POSITION

def storeAsset (d : DirName) (b : Base) (asset : Asset) : VfsM Unit := do
  if !(← assetExists d b asset.getUUID) then
    let position ← DataFile.writeNewAsset d b asset
    IndexFile.recordAssetPosition d b asset position
  else
    throw (.assetStorage
      ⟨"Unable to store asset " ++ showBytes asset.getUUID ++ ", asset already exists", true⟩)

end VFSDatabase

namespace DatabaseSet

def mount (d : DirName) : VfsM Unit := do
  VFSDatabase.mount d .globals
  VFSDatabase.mount d .locals

/-- Global assets come before local ones. -/
def getAsset (d : DirName) (uuid : ByteString) : VfsM (Option Asset) := do
  match ← VFSDatabase.getAsset d .globals uuid with
  | some globalAsset => return some globalAsset
  | none             => VFSDatabase.getAsset d .locals uuid

def storeAsset (d : DirName) (asset : Asset) : VfsM Unit :=
  if asset.isLocal then VFSDatabase.storeAsset d .locals asset
  else VFSDatabase.storeAsset d .globals asset

end DatabaseSet

namespace VFSBackend

def verifyDatabaseDirectory (uuid : ByteString) : VfsM Unit := do
  let subdir := getFullPathForUUID uuid
  if !(← fsExists (·.dirs.contains subdir)) then
    if !(← createDirectory subdir) then
      throw (.assetStorage
        ⟨"Could not create directory for database storage " ++ showBytes subdir, true⟩)

/-- An `SQLiteError` on the way becomes an `AssetStorageError`. -/
def verifyAndopenSetForUUID (uuid : ByteString) : VfsM Unit :=
  tryCatch
    (do verifyDatabaseDirectory uuid
        DatabaseSet.mount (getFullPathForUUID uuid))
    fun e => match e with
      | .sqlite what => throw (.assetStorage ⟨"Index file error: " ++ what, true⟩)
      | e            => throw e

def getAssetSync (uuid : ByteString) : VfsM (Option Asset) := do
  verifyAndopenSetForUUID uuid
  DatabaseSet.getAsset (getFullPathForUUID uuid) uuid

def storeAssetSync (asset : Asset) : VfsM Unit := do
  verifyAndopenSetForUUID asset.getUUID
  DatabaseSet.storeAsset (getFullPathForUUID asset.getUUID) asset

end VFSBackend

end Whip
