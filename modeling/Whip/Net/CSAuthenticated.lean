import Whip.Net.Messages
import Whip.Storage.Backend

/-!
# The session of an authenticated client

`CSAuthenticated` reads a request header, has the request done by the storage backend or the mesh,
writes the response, and reads the next header. Each handler is a function of the session; besides
the new session it returns the call it makes on the backends, if any.
-/

namespace Whip

namespace CSAuthenticated

/-- An operation on the client's socket that is outstanding. -/
inductive SocketOp
  | readHeader
  | readData
  | writeHeader (response : ServerResponseMsg)
  | writeData (response : ServerResponseMsg)
deriving DecidableEq

/-- A call of `_storage` or `_meshStorage`. -/
inductive BackendCall
  | getAsset (uuid : ByteString) (dontCache : Bool)
  | storeAsset (asset : Asset)
  | purgeAsset (uuid : ByteString)
  | getStatus
  | getStoredAssetIDsWithPrefix (head : ByteString)
  | beginPurgeLocals
  | meshGetAsset (uuid : ByteString)
deriving DecidableEq

/-- A call back, with the handler that was bound to it. -/
inductive Reply
  | storageGet (foundAsset : Option Asset) (success : Bool) (error : Option AssetStorageError)
  | storageWrite (success : Bool) (error : Option AssetStorageError)
  | storagePurge (success : Bool) (error : Option AssetStorageError)
  | status (journal : ByteString)
  | storedAssetIds (journal : ByteString)
  | intrameshGet (uuid : ByteString) (foundAsset : Option Asset)
deriving DecidableEq

end CSAuthenticated

/-- `connected` says that `_client` can be locked. The last two fields record the headers read, and
the responses sent together with the request each was sent for. -/
structure CSAuthenticated where
  isMeshConnection : Bool
  connected : Bool := true
  currentRequest : ClientRequestMsg := ⟨[], none⟩
  socket : List CSAuthenticated.SocketOp := [.readHeader]
  headers : List ByteString := []
  responses : List (ClientRequestMsg × ServerResponseMsg) := []
deriving DecidableEq

namespace CSAuthenticated

/-! ### Socket operations -/

/-- Start an operation, if the client is still there. -/
def start (c : CSAuthenticated) (op : SocketOp) : CSAuthenticated :=
  if c.connected then { c with socket := c.socket ++ [op] } else c

def waitForRequest (c : CSAuthenticated) : CSAuthenticated :=
  { c with currentRequest := ⟨List.replicate ClientRequestMsg.HEADER_SIZE 0, none⟩ }.start
    .readHeader

/-- The client closes its socket and is forgotten by the server. -/
def disconnect (c : CSAuthenticated) : CSAuthenticated := { c with connected := false }

def sendResponse (c : CSAuthenticated) (response : ServerResponseMsg) : CSAuthenticated :=
  if c.connected then
    { c with responses := c.responses ++ [(c.currentRequest, response)] }.start
      (.writeHeader response)
  else c

/-- The text comes from `what()`, so it ends at the first zero byte. -/
def sendError (c : CSAuthenticated) (errorMsg : ByteString) : CSAuthenticated :=
  c.sendResponse (.make .error c.currentRequest.getUUID (some (errorMsg.takeWhile (· ≠ 0))))

section Connected

variable {c : CSAuthenticated}

lemma start_of_connected (h : c.connected = true) (op : SocketOp) :
    c.start op = { c with socket := c.socket ++ [op] } := by
  simp [start, h]

lemma waitForRequest_of_connected (h : c.connected = true) :
    c.waitForRequest = { c with
      currentRequest := ⟨List.replicate ClientRequestMsg.HEADER_SIZE 0, none⟩
      socket := c.socket ++ [.readHeader] } := by
  simp [waitForRequest, start, h]

lemma sendResponse_of_connected (h : c.connected = true) (response : ServerResponseMsg) :
    c.sendResponse response = { c with
      responses := c.responses ++ [(c.currentRequest, response)]
      socket := c.socket ++ [.writeHeader response] } := by
  simp [sendResponse, start, h]

end Connected

def handleResponseHeaderWrite (c : CSAuthenticated) (response : ServerResponseMsg) :
    CSAuthenticated :=
  if response.data.isSome then c.start (.writeData response) else c.waitForRequest

/-- `handleResponseHeaderWrite` also hands the size of the data to the statistics, as an `int`: for
`2 ^ 31` bytes or more `numeric_cast` throws, which ends the io thread. -/
def throws (c : CSAuthenticated) : SocketOp → Bool
  | .writeHeader response => c.connected && response.data.any (2 ^ 31 ≤ ·.length)
  | _                     => false

def handleResponseDataWrite (c : CSAuthenticated) : CSAuthenticated := c.waitForRequest

/-! ### Requests -/

def invalidUUID (uuid : ByteString) : ByteString := textBytes "Invalid asset UUID: " ++ uuid

def zeroUUID : ByteString := List.replicate 32 48

/-- Make a call for a valid identifier, and answer any other with an error. -/
def ifValidUUID (c : CSAuthenticated) (uuid : ByteString) (call : BackendCall) :
    CSAuthenticated × Option BackendCall :=
  if Validator.isValidUUID uuid then (c, some call)
  else (c.sendError (invalidUUID c.currentRequest.getUUID), none)

def handleGetRequest (c : CSAuthenticated) (cacheResult : Bool) :
    CSAuthenticated × Option BackendCall :=
  c.ifValidUUID c.currentRequest.getUUID (.getAsset c.currentRequest.getUUID !cacheResult)

def handlePurgeRequest (c : CSAuthenticated) : CSAuthenticated × Option BackendCall :=
  c.ifValidUUID c.currentRequest.getUUID (.purgeAsset c.currentRequest.getUUID)

def handlePutRequest (c : CSAuthenticated) : CSAuthenticated := c.start .readData

/-- The identifier that is validated is the asset's, the one in the error is the header's. -/
def handleAssetDataRead (c : CSAuthenticated) (data : ByteString) :
    CSAuthenticated × Option BackendCall :=
  let c := { c with currentRequest := { c.currentRequest with data := some data } }
  let newAsset : Asset := ⟨data⟩
  c.ifValidUUID newAsset.getUUID (.storeAsset newAsset)

/-- A response without data, also if the asset exists. -/
def handleTestRequest (c : CSAuthenticated) (assetExists : ByteString → Bool) : CSAuthenticated :=
  let uuid := c.currentRequest.getUUID
  if Validator.isValidUUID uuid then
    c.sendResponse (.make (if assetExists uuid then .found else .notFound) uuid)
  else c.sendError (invalidUUID uuid)

def handlePurgeLocals (c : CSAuthenticated) : CSAuthenticated × Option BackendCall :=
  (c.sendResponse (.make .ok zeroUUID), some .beginPurgeLocals)

def handleStatusGet (c : CSAuthenticated) : CSAuthenticated × Option BackendCall :=
  (c, if c.connected then some .getStatus else none)

/-- Only the first three characters of the prefix count. -/
def handleStoredAssetIdsGet (c : CSAuthenticated) : CSAuthenticated × Option BackendCall :=
  let head := c.currentRequest.getUUID.take 3
  (c, if c.connected then some (.getStoredAssetIDsWithPrefix head) else none)

/-- The switch over the type of the request; `assetExists` is what `_storage->assetExists` returns
at this moment. -/
def dispatch (c : CSAuthenticated) (assetExists : ByteString → Bool) :
    Option RequestType → CSAuthenticated × Option BackendCall
  | some .get               => c.handleGetRequest true
  | some .purge             => c.handlePurgeRequest
  | some .put               => (c.handlePutRequest, none)
  | some .test              => (c.handleTestRequest assetExists, none)
  | some .maintPurgeLocals  => c.handlePurgeLocals
  | some .statusGet         => c.handleStatusGet
  | some .storedAssetIdsGet => c.handleStoredAssetIdsGet
  | some .getDontCache      => c.handleGetRequest false
  | none                    => (c.disconnect, none)

def handleClientRequestHeaderRead (c : CSAuthenticated) (assetExists : ByteString → Bool)
    (header : ByteString) : CSAuthenticated × Option BackendCall :=
  let c := { c with currentRequest := ⟨header, none⟩, headers := c.headers ++ [header] }
  c.dispatch assetExists c.currentRequest.getType

/-! ### Completions -/

/-- A failed lookup goes on in the mesh, unless the client is itself a server of the mesh. -/
def handleStorageGetResponse (c : CSAuthenticated) (foundAsset : Option Asset) (success : Bool) :
    CSAuthenticated × Option BackendCall :=
  match success, foundAsset with
  | true, some asset => (c.sendResponse (.make .found asset.getUUID (some asset.data)), none)
  | _, _ =>
    let uuid := c.currentRequest.getUUID
    if !c.isMeshConnection then (c, some (.meshGetAsset uuid))
    else (c.sendResponse (.make .notFound uuid), none)

def handleIntrameshGetResponse (c : CSAuthenticated) (uuid : ByteString)
    (foundAsset : Option Asset) : CSAuthenticated :=
  match foundAsset with
  | some asset => c.sendResponse (.make .found asset.getUUID (some asset.data))
  | none       => c.sendResponse (.make .notFound uuid)

/-- `handleStorageWriteResponse` and `handleStoragePurgeResponse`. -/
def confirm (c : CSAuthenticated) (success : Bool) (error : Option AssetStorageError) :
    CSAuthenticated :=
  if success then c.sendResponse (.make .ok c.currentRequest.getUUID)
  else c.sendError (textBytes (error.elim "" (·.what)))

/-- `statusGetCompleted` and `storedAssetIdsGetCompleted`. -/
def sendJournal (c : CSAuthenticated) (journal : ByteString) : CSAuthenticated :=
  c.sendResponse (.make .ok zeroUUID (some journal))

def onReply (c : CSAuthenticated) : Reply → CSAuthenticated × Option BackendCall
  | .storageGet foundAsset success _ => c.handleStorageGetResponse foundAsset success
  | .storageWrite success error      => (c.confirm success error, none)
  | .storagePurge success error      => (c.confirm success error, none)
  | .status journal                  => (c.sendJournal journal, none)
  | .storedAssetIds journal          => (c.sendJournal journal, none)
  | .intrameshGet uuid foundAsset    => (c.handleIntrameshGetResponse uuid foundAsset, none)

/-! ### The socket -/

/-- How many bytes an outstanding read asks for. -/
def readSize (c : CSAuthenticated) : SocketOp → Option ℕ
  | .readHeader => some ClientRequestMsg.HEADER_SIZE
  | .readData   => some c.currentRequest.getDataSize
  | _           => none

/-- The bytes an outstanding write is given. -/
def SocketOp.outgoing : SocketOp → ByteString
  | .writeHeader response => response.header
  | .writeData response   => response.data.getD []
  | _                     => []

/-- An operation completes without an error; `bytes` is what was read. -/
def onSocket (c : CSAuthenticated) (assetExists : ByteString → Bool) (op : SocketOp)
    (bytes : ByteString) : CSAuthenticated × Option BackendCall :=
  let c := { c with socket := c.socket.erase op }
  match op with
  | .readHeader           => c.handleClientRequestHeaderRead assetExists bytes
  | .readData             => c.handleAssetDataRead bytes
  | .writeHeader response => (c.handleResponseHeaderWrite response, none)
  | .writeData _          => (c.handleResponseDataWrite, none)

/-- `handleIoFailure`: an operation completes with an error. -/
def onSocketError (c : CSAuthenticated) (op : SocketOp) : CSAuthenticated :=
  { c with socket := c.socket.erase op }.disconnect

/-! ### Whose session it is -/

section IsMeshConnection

variable (c : CSAuthenticated)

@[simp] lemma isMeshConnection_start (op : SocketOp) :
    (c.start op).isMeshConnection = c.isMeshConnection := by
  unfold start
  split <;> rfl

@[simp] lemma isMeshConnection_waitForRequest :
    c.waitForRequest.isMeshConnection = c.isMeshConnection := by
  simp [waitForRequest]

@[simp] lemma isMeshConnection_sendResponse (response : ServerResponseMsg) :
    (c.sendResponse response).isMeshConnection = c.isMeshConnection := by
  unfold sendResponse
  split <;> simp

@[simp] lemma isMeshConnection_sendError (errorMsg : ByteString) :
    (c.sendError errorMsg).isMeshConnection = c.isMeshConnection := by
  simp [sendError]

@[simp] lemma isMeshConnection_ifValidUUID (uuid : ByteString) (call : BackendCall) :
    (c.ifValidUUID uuid call).1.isMeshConnection = c.isMeshConnection := by
  unfold ifValidUUID
  split <;> simp

lemma isMeshConnection_dispatch (assetExists : ByteString → Bool) (type : Option RequestType) :
    (c.dispatch assetExists type).1.isMeshConnection = c.isMeshConnection := by
  rcases type with _ | type
  · rfl
  · cases type with
    | get | getDontCache => simp [dispatch, handleGetRequest]
    | put => simp [dispatch, handlePutRequest]
    | purge => simp [dispatch, handlePurgeRequest]
    | test =>
      simp only [dispatch, handleTestRequest]
      split <;> simp
    | maintPurgeLocals => simp [dispatch, handlePurgeLocals]
    | statusGet => rfl
    | storedAssetIdsGet => rfl

lemma isMeshConnection_onSocket (assetExists : ByteString → Bool) (op : SocketOp)
    (bytes : ByteString) :
    (c.onSocket assetExists op bytes).1.isMeshConnection = c.isMeshConnection := by
  cases op with
  | readHeader => simp [onSocket, handleClientRequestHeaderRead, isMeshConnection_dispatch]
  | readData => simp [onSocket, handleAssetDataRead]
  | writeHeader response =>
    simp only [onSocket, handleResponseHeaderWrite]
    split <;> simp
  | writeData response => simp [onSocket, handleResponseDataWrite]

lemma isMeshConnection_onReply (reply : Reply) :
    (c.onReply reply).1.isMeshConnection = c.isMeshConnection := by
  cases reply with
  | storageGet foundAsset success error =>
    simp only [onReply, handleStorageGetResponse]
    split
    · simp
    · split <;> simp
  | storageWrite success error | storagePurge success error =>
    simp only [onReply, confirm]
    split <;> simp
  | status journal | storedAssetIds journal => simp [onReply, sendJournal]
  | intrameshGet uuid foundAsset =>
    simp only [onReply, handleIntrameshGetResponse]
    split <;> simp

end IsMeshConnection

end CSAuthenticated

end Whip
