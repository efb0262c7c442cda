import Whip.Cache.AssetCache
import Whip.Lib.ClaimOnce
import Whip.Net.CSAuthenticated
import Whip.Mesh.MeshStorageBackend
import Whip.Storage.Durability

/-!
# The server

Sessions of authenticated clients over one storage, which may have a cache in front of it, and one
mesh backend. Sockets, posted handlers, timers and the mesh are served by the io thread, which runs
one handler at a time; the worker of the storage and the pull replication have threads of their own.
The pull replication stores to the disk, past the cache, and its call of `storeAsset` takes the
steps of `Shared.advance`, each of which holds a lock; a call of the io thread is one step.

A session is named by its number. `requesters` are the sessions that started the mesh searches, in
the order of the searches.
-/

namespace Whip

namespace AssetServer

/-- The member functions that a session binds to its calls on the storage. -/
inductive SessionHandler
  | storageGet
  | storageWrite
  | storagePurge
  | statusGet
  | storedAssetIdsGet
deriving DecidableEq

inductive Callback
  | session (id : ℕ) (handler : SessionHandler)
  | replication
deriving DecidableEq

/-- A handler is called with what its call is completed with. -/
def SessionHandler.reply : SessionHandler → Completion → Option CSAuthenticated.Reply
  | .storageGet, .got asset success error    => some (.storageGet asset success error)
  | .storageWrite, .stored success error     => some (.storageWrite success error)
  | .storagePurge, .stored success error     => some (.storagePurge success error)
  | .statusGet, .completed journal           => some (.status journal)
  | .storedAssetIdsGet, .completed journal   => some (.storedAssetIds journal)
  | _, _                                     => none

/-- A call of `storeAsset` that the pull replication has not returned from. -/
structure StoreCall where
  asset : Asset
  stage : ClaimOnce.Stage := .checking

end AssetServer

structure AssetServer where
  storage : AsyncStorage AssetServer.Callback
  mesh : MeshStorageBackend := {}
  sessions : List CSAuthenticated := []
  requesters : List ℕ := []
  replicating : Option AssetServer.StoreCall := none

namespace AssetServer

/-- A server that is started for the first time, with a cache of the given size or without. -/
def new : Option UInt64 → AssetServer
  | none              => { storage := .disk {} }
  | some maxCacheSize => { storage := .cached (.new maxCacheSize {}) }

/-! ### The mesh -/

/-- The mesh calls a session back, or informs the cache. -/
def deliver (s : AssetServer) : MeshOutput → AssetServer
  | .answer k (.asset asset) =>
    match s.requesters[k]?, s.mesh.searches[k]? with
    | some id, some search =>
      { s with
        sessions := s.sessions.modify id (·.handleIntrameshGetResponse search.uuid asset) }
    | _, _ => s
  | .answer _ (.presence _) => s
  | .inform asset => { s with storage := s.storage.inform asset }

/-- A step of the mesh, with the calls it makes. -/
def meshStep (s : AssetServer) (e : MeshStorageBackend.Event) : Option AssetServer :=
  (s.mesh.step e).map fun mesh =>
    (mesh.outputs.drop s.mesh.outputs.length).foldl deliver { s with mesh := mesh }

/-! ### Sessions -/

/-- A session has run a handler and makes a call. The servers `ready` are those a mesh search
asks. -/
def proceed (s : AssetServer) (id : ℕ) (ready : List ℕ)
    (result : CSAuthenticated × Option CSAuthenticated.BackendCall) : Option AssetServer :=
  let s := { s with sessions := s.sessions.set id result.1 }
  match result.2 with
  | none => some s
  | some (.getAsset uuid dontCache) =>
    some { s with storage := s.storage.getAsset uuid dontCache (.session id .storageGet) }
  | some (.storeAsset asset) =>
    some { s with storage := s.storage.storeAsset asset (.session id .storageWrite) }
  | some (.purgeAsset uuid) =>
    some { s with storage := s.storage.purgeAsset uuid (.session id .storagePurge) }
  | some .getStatus => some { s with storage := s.storage.getStatus (.session id .statusGet) }
  | some (.getStoredAssetIDsWithPrefix head) =>
    some { s with
      storage := s.storage.getStoredAssetIDsWithPrefix head (.session id .storedAssetIdsGet) }
  | some .beginPurgeLocals => some { s with storage := s.storage.beginPurgeLocals }
  | some (.meshGetAsset uuid) =>
    { s with requesters := s.requesters ++ [id] }.meshStep (.start uuid false ready)

/-- An operation of a session's socket completes; `none` stands for an error. -/
def onSocket (s : AssetServer) (id : ℕ) (op : CSAuthenticated.SocketOp)
    (bytes : Option ByteString) : Option AssetServer :=
  match s.sessions[id]? with
  | none => none
  | some c =>
    if op ∈ c.socket ∧ bytes.all (·.length = (c.readSize op).getD 0) then
      match bytes with
      | none       => s.proceed id [] (c.onSocketError op, none)
      | some bytes =>
        if c.throws op then none else s.proceed id [] (c.onSocket s.storage.assetExists op bytes)
    else none

/-- The operation was under way, and its session has gone on with the error or with the bytes. -/
lemma exists_proceed_of_onSocket {s s' : AssetServer} {id : ℕ} {op : CSAuthenticated.SocketOp}
    {bytes : Option ByteString} (h : s.onSocket id op bytes = some s') :
    ∃ c, s.sessions[id]? = some c ∧ op ∈ c.socket ∧
      ((bytes = none ∧ s.proceed id [] (c.onSocketError op, none) = some s') ∨
        ∃ data, bytes = some data ∧ data.length = (c.readSize op).getD 0 ∧
          s.proceed id [] (c.onSocket s.storage.assetExists op data) = some s') := by
  unfold onSocket at h
  split at h
  · cases h
  · next c hc =>
    obtain ⟨⟨hop, hsize⟩, h⟩ := Option.ite_none_right_eq_some.mp h
    refine ⟨c, hc, hop, ?_⟩
    cases bytes with
    | none => exact .inl ⟨rfl, h⟩
    | some data =>
      exact .inr ⟨data, rfl, by simpa using hsize, (Option.ite_none_left_eq_some.mp h).2⟩

/-- A posted handler of the storage runs. -/
def onHandler (s : AssetServer) (i : ℕ) (ready : List ℕ) : Option AssetServer :=
  match s.storage.runHandler i with
  | none => none
  | some (storage, call) =>
    let s := { s with storage := storage }
    match call with
    | some (.session id handler, completion) =>
      match s.sessions[id]?, handler.reply completion with
      | some c, some reply => s.proceed id ready (c.onReply reply)
      | _, _               => some s
    | _ => some s

/-- If the handler is for a session that is there, the session may have gone on. -/
lemma exists_runHandler_of_onHandler {s s' : AssetServer} {i : ℕ} {ready : List ℕ}
    (h : s.onHandler i ready = some s') :
    ∃ storage call, s.storage.runHandler i = some (storage, call) ∧
      (s' = { s with storage := storage } ∨ ∃ id handler completion c reply,
        call = some (.session id handler, completion) ∧ s.sessions[id]? = some c ∧
          handler.reply completion = some reply ∧
          proceed { s with storage := storage } id ready (c.onReply reply) = some s') := by
  unfold onHandler at h
  split at h
  · cases h
  · next storage call hrun =>
    refine ⟨storage, call, hrun, ?_⟩
    simp only at h
    split at h
    · next id handler completion =>
      split at h
      · next c reply hc hreply => exact .inr ⟨id, handler, completion, c, reply, rfl, hc, hreply, h⟩
      · exact .inl (Option.some.inj h).symm
    · exact .inl (Option.some.inj h).symm

/-! ### Pull replication -/

/-- The next step of a store of the pull replication. -/
def advance (s : AssetServer) (c : StoreCall) : AssetServer :=
  let index := s.storage.backend.existenceIndex
  let uuid := c.asset.getUUID
  match c.stage with
  | .checking =>
    let found := ExistenceIndex.assetExists index uuid
    { s with replicating := some { c with stage := if found then .refusing else .claiming } }
  | .refusing =>
    let error := VFSBackend.alreadyExistsError uuid
    { s with
      storage := s.storage.mapBackend
        (·.post [.callback (.direct .replication) (.stored false (some error))])
      replicating := none }
  | .claiming =>
    { s with
      storage := s.storage.mapBackend ({ · with
        existenceIndex := ExistenceIndex.addNewId index uuid })
      replicating := some { c with stage := .pushing } }
  | .pushing =>
    { s with
      storage := s.storage.mapBackend (·.enqueue (.put c.asset (.direct .replication)))
      replicating := none }

/-! ### The server as a machine -/

/-- The process is started again on what the disk holds; all clients are gone. -/
def restart (s : AssetServer) (w : World) : Option AssetServer :=
  (ExistenceIndex.load w.disk).map fun index =>
    let backend := { world := VFSDatabase.restarted w, existenceIndex := index }
    { storage := match s.storage with
        | .disk _   => .disk backend
        | .cached c => .cached (.new c.cache.maxSize backend)
      sessions := s.sessions.map fun c => { c with connected := false, socket := [] } }

/-- The process stops while the worker is in the middle of a request. -/
def crash (s : AssetServer) (calls : List Call) : Option AssetServer :=
  match s.storage.backend.current with
  | none => none
  | some req =>
    match VFSBackend.workLoop req { s.storage.backend.world with calls := calls } with
    | .ok _ _    => none
    | .error _ w => s.restart w

lemma exists_restart_of_crash {s s' : AssetServer} {calls : List Call}
    (h : s.crash calls = some s') :
    ∃ req e w, s.storage.backend.current = some req ∧
      VFSBackend.workLoop req { s.storage.backend.world with calls := calls } = .error e w ∧
      s.restart w = some s' := by
  unfold crash at h
  split at h
  · cases h
  · next req hcur =>
    split at h
    · cases h
    · next e w hloop => exact ⟨req, e, w, hcur, hloop, h⟩

inductive Event
  | accept (isMeshConnection : Bool)
  | socket (id : ℕ) (op : CSAuthenticated.SocketOp) (bytes : Option ByteString)
  | handler (i : ℕ) (ready : List ℕ)
  | mesh (event : MeshStorageBackend.Event)
  | replicate (asset : Asset)
  | advance
  | purgeTimer
  | dequeue
  | process (calls : List Call)
  | crash (calls : List Call)
  | restart

/-- A step of the worker. -/
def workerStep (s : AssetServer)
    (b : Option (VFSBackend (CacheCallback Callback))) : Option AssetServer :=
  b.map fun b => { s with storage := s.storage.mapBackend fun _ => b }

def step (s : AssetServer) : Event → Option AssetServer
  | .accept isMeshConnection =>
    if s.mesh.idle then
      some { s with sessions := s.sessions ++ [{ isMeshConnection := isMeshConnection }] }
    else none
  | .socket id op bytes => if s.mesh.idle then s.onSocket id op bytes else none
  | .handler i ready => if s.mesh.idle then s.onHandler i ready else none
  -- searches are started by sessions
  | .mesh (.start _ _ _) => none
  | .mesh event => s.meshStep event
  | .replicate asset =>
    if s.replicating.isNone then some { s with replicating := some { asset := asset } } else none
  | .advance => s.replicating.map s.advance
  | .purgeTimer =>
    if s.mesh.idle && s.storage.backend.isPurgingLocals then
      some { s with storage := s.storage.mapBackend (·.onPurgeTimer) }
    else none
  | .dequeue => s.workerStep s.storage.backend.dequeue
  | .process calls => s.workerStep (s.storage.backend.process calls)
  | .crash calls => s.crash calls
  | .restart => s.restart s.storage.backend.world

end AssetServer

end Whip
