import Whip.Storage.Disk

/-!
# Data files

`PosixDataFileImpl` wraps a descriptor; `DataFile` reads and appends records with it. A record is
the asset's size in network byte order followed by the asset. The object lives for one call, and its
destructor runs when the call ends, however it ends (`PosixDataFileImpl.withObject`).
-/

namespace Whip

open Bytes

inductive FileMode
  | read
  | write
deriving DecidableEq

def posixError (what : String) : VfsM Unit := do
  throw (.assetStorage
    ⟨"[IWVFS][POSIX] " ++ what ++ " [" ++ (← get).impl.filePath ++ "]", true⟩)

namespace PosixDataFileImpl

/-- The contents of the file behind the descriptor. -/
def contents (w : World) : ByteString := (w.disk.data w.impl.target.1 w.impl.target.2).getD []

/-- `O_CREAT`: an absent file comes into being empty. -/
def createFile (d : DirName) (b : Base) : VfsM Unit := modify fun w =>
  match w.disk.data d b with
  | none   => { w with disk := w.disk.setData d b (some []) }
  | some _ => w

/-- `_fd = ::open(..)` with the lowest free number. -/
def assignFd (d : DirName) (b : Base) : VfsM Unit := modify fun w =>
  { w with
    fds := w.fds.alloc (.dataFile w.impl.obj)
    impl := { w.impl with
      fd := w.fds.lowestFree, target := (d, b), offset := 0
      filePath := showBytes d ++ "/" ++ b.name ++ ".data" } }

/-- `_fd = -1` and the exception; `_filePath` is not set yet. -/
def openFailed : VfsM Unit := do
  modify fun w => { w with impl := { w.impl with fd := -1 } }
  posixError "Unable to open data file for writing"

def openFile (d : DirName) (b : Base) (mode : FileMode) : VfsM Unit := do
  match ← syscall with
  | .ok =>
    match mode, (← get).disk.data d b with
    | .read, none => openFailed
    | .read, some _ => assignFd d b
    | .write, _ => createFile d b; assignFd d b
  | .raise what   => throw (.std what)
  | .stop 0       => throw .stopped
  | .stop (_ + 1) => stopAfter (if mode = .write then createFile d b else pure ())
  | _             => openFailed

/-- `::close(_fd)`; its result is not looked at, and `_fd` keeps its value. -/
def close : VfsM Unit := do
  match ← syscall with
  | .stop _ => throw .stopped
  | _ => modify fun w =>
    { w with
      closes := w.closes ++ [⟨w.impl.obj, w.impl.fd, w.fds.owner w.impl.fd⟩]
      fds := w.fds.release w.impl.fd }

def size : VfsM ℕ := do
  match ← syscall with
  | .ok         => return (contents (← get)).length
  | .raise what => throw (.std what)
  | .stop _     => throw .stopped
  | _           => posixError "Unable to stat data file to retrieve size"; return 0

/-- A `::read` of `n` bytes that delivers at most `m` of them; fewer than `n` are an error. -/
def transfer (n m : ℕ) : VfsM ByteString := do
  let w ← get
  let bytes := ((contents w).drop w.impl.offset).take (min m n)
  modify fun w => { w with impl := { w.impl with offset := w.impl.offset + bytes.length } }
  if bytes.length ≠ n then
    posixError "Short read encountered while reading from data file"
  return bytes

/-- One `::read`, which must return all the bytes. -/
def read (n : ℕ) : VfsM ByteString := do
  match ← syscall with
  | .ok         => transfer n n
  | .short m    => transfer n m
  | .raise what => throw (.std what)
  | .stop _     => throw .stopped
  | .err        => posixError "Error while reading from data file"; return []

/-- The bytes reach the file at the descriptor's offset, which moves past them. -/
def putBytes (bytes : ByteString) : VfsM Unit := modify fun w =>
  { w with
    disk := w.disk.setData w.impl.target.1 w.impl.target.2
      (some (patch 0 (contents w) w.impl.offset bytes))
    impl := { w.impl with offset := w.impl.offset + bytes.length } }

/-- One `::write`, which must take all the bytes. -/
def write (data : ByteString) : VfsM Unit := do
  match ← syscall with
  | .ok => putBytes data
  | .short m =>
    putBytes (data.take m)
    if m < data.length then
      posixError "Short write encountered while writing to data file"
  | .raise what => throw (.std what)
  | .stop m     => stopAfter (putBytes (data.take m))
  | .err        => posixError "Error while writing to data file"

/-- `lseek` to an absolute position; a negative one is an error. -/
def doSeek (position : ℤ) : VfsM Unit := do
  match ← syscall with
  | .ok =>
    if position < 0 then posixError "Error while seeking file"
    else modify fun w => { w with impl := { w.impl with offset := position.toNat } }
  | .raise what => throw (.std what)
  | .stop _     => throw .stopped
  | _           => posixError "Error while seeking file"

def seekg (position : ℤ) : VfsM Unit := doSeek position

def seekp (position : ℤ) : VfsM Unit := doSeek position

/-- `new DataFileImpl()`, with `_fd` zero. -/
def construct (w : World) : World :=
  { w with impl := { obj := w.nextObj }, nextObj := w.nextObj + 1 }

/-- Construct an object, use it, and run its destructor `close()` at the end of the scope, on the
way out of an exception too. -/
def withObject {α : Type} (body : VfsM α) : VfsM α := do
  modify construct
  let result ← tryCatch body fun e =>
    match e with
    | .stopped => throw .stopped
    | e        => do close; throw e
  close
  return result

/-- The life of the object in both calls of `DataFile`: `open`, the work, the explicit `close()`. -/
def withFile {α : Type} (d : DirName) (b : Base) (mode : FileMode) (work : VfsM α) : VfsM α :=
  withObject do
    openFile d b mode
    let result ← work
    close
    return result

end PosixDataFileImpl

/-- `boost::numeric_cast<boost::uint32_t>`. -/
def numericCast32 (n : ℕ) : VfsM ℕ :=
  if n < 2 ^ 32 then pure n else throw (.std "bad numeric conversion: positive overflow")

open PosixDataFileImpl in
/-- The work of `getAssetAtPosition`: the size comes first, in network byte order. -/
def DataFile.readRecord (position : ℤ) : VfsM Asset := do
  seekg position
  let assetSize ← read 4
  let data ← read (ofBigEndian assetSize)
  return ⟨data⟩

def DataFile.getAssetAtPosition (d : DirName) (b : Base) (position : ℤ) : VfsM Asset :=
  PosixDataFileImpl.withFile d b .read (DataFile.readRecord position)

/-- The magic at the start of a new data file. -/
def dataFileHeader : ByteString := [73, 87, 90, 68, 68, 66, 48, 49]  -- "IWZDDB01"

open PosixDataFileImpl in
/-- The position for the indexer: a new file gets its header, an old one is extended at its end. -/
def DataFile.seekEnd (fileExisted : Bool) : VfsM ℕ :=
  if !fileExisted then do
    write dataFileHeader
    return 8
  else do
    let pos ← size
    seekp pos
    return pos

open PosixDataFileImpl in
/-- The work of `writeNewAsset`: the size in network byte order, then the contents. -/
def DataFile.appendRecord (fileExisted : Bool) (newAsset : Asset) : VfsM ℤ := do
  let pos ← DataFile.seekEnd fileExisted
  let assetSize ← numericCast32 newAsset.data.length
  write (toBigEndian assetSize)
  write newAsset.data
  return (pos : ℤ)

def DataFile.writeNewAsset (d : DirName) (b : Base) (newAsset : Asset) : VfsM ℤ := do
  let fileExisted ← fsExists fun k => (k.data d b).isSome
  PosixDataFileImpl.withFile d b .write (DataFile.appendRecord fileExisted newAsset)

end Whip
