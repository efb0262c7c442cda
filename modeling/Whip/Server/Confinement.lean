import Whip.Server.Tokens
import Whip.Storage.Paths

/-!
# Where clients can steer the file access

The name of a directory is cut from an identifier. A get, a purge and a put validate the identifier
first; the listing of stored identifiers takes the first three bytes of the header's as they come.
This module says which requests a session puts on the work queue, and when all of them are served
inside the store.
-/

namespace Whip

open CSAuthenticated

namespace AssetServer

/-! ### The requests a call makes -/

/-- The requests that a call of a session can put on the work queue. -/
inductive Queued : Option BackendCall → List (AssetRequest (CacheCallback Callback)) → Prop
  | nothing {call : Option BackendCall}
      (listing : ∀ head, call ≠ some (.getStoredAssetIDsWithPrefix head)) : Queued call []
  | get {uuid : ByteString} {dontCache : Bool} (k : CacheCallback Callback) :
      Queued (some (.getAsset uuid dontCache)) [.get uuid k]
  | put {asset : Asset} (k : CacheCallback Callback) : Queued (some (.storeAsset asset))
    [.put asset k]
  | purge {uuid : ByteString} (k : CacheCallback Callback) :
      Queued (some (.purgeAsset uuid)) [.purge uuid k]
  | status (k : CacheCallback Callback) : Queued (some .getStatus) [.collectStatus k]
  | ids {head : ByteString} (k : CacheCallback Callback) :
      Queued (some (.getStoredAssetIDsWithPrefix head)) [.getStoredAssetIds head k]

/-- The backend after requests have been put on its queue. -/
structure Grows (b b' : Backend) (reqs : List (AssetRequest (CacheCallback Callback))) : Prop where
  queue : b'.workQueue = b.workQueue ++ reqs
  current : b'.current = b.current
  posted : ∀ ids head, .unindexLocals ids head ∈ b'.posted → .unindexLocals ids head ∈ b.posted

lemma Grows.refl (b : Backend) : Grows b b [] := ⟨by simp, rfl, fun _ _ h => h⟩

lemma Grows.enqueue (b : Backend) (req : AssetRequest (CacheCallback Callback)) :
    Grows b (b.enqueue req) [req] := ⟨rfl, rfl, fun _ _ h => h⟩

lemma Grows.post (b : Backend) (k : CacheCallback Callback) (r : Completion) :
    Grows b (b.post [.callback k r]) [] :=
  ⟨by simp [VFSBackend.post], rfl, fun _ _ h => by simpa [VFSBackend.post] using h⟩

section Calls

variable {s s' : AssetServer}

lemma queued_getAsset (storage : AsyncStorage Callback) (uuid : ByteString) (dontCache : Bool)
    (k : Callback) :
    ∃ reqs, Queued (some (.getAsset uuid dontCache)) reqs ∧
      Grows storage.backend (storage.getAsset uuid dontCache k).backend reqs := by
  have hdisk (b : Backend) (k : CacheCallback Callback) :
      ∃ reqs, Queued (some (.getAsset uuid dontCache)) reqs ∧ Grows b (b.getAsset uuid k) reqs := by
    unfold VFSBackend.getAsset
    split
    · exact ⟨[], .nothing (by simp), .post _ _ _⟩
    · exact ⟨_, .get k, .enqueue _ _⟩
  cases storage with
  | disk b => exact hdisk b _
  | cached c =>
    change ∃ reqs, _ ∧
      Grows c.persistentStorage (c.getAsset uuid dontCache k).persistentStorage reqs
    unfold AssetCache.getAsset
    split
    · exact ⟨[], .nothing (by simp), .post _ _ _⟩
    · exact hdisk _ _

lemma queued_storeAsset (storage : AsyncStorage Callback) (asset : Asset) (k : Callback) :
    ∃ reqs, Queued (some (.storeAsset asset)) reqs ∧
      Grows storage.backend (storage.storeAsset asset k).backend reqs := by
  have hdisk (b : Backend) (k' : CacheCallback Callback) :
      ∃ reqs, Queued (some (.storeAsset asset)) reqs ∧ Grows b (b.storeAsset asset k') reqs := by
    unfold VFSBackend.storeAsset
    split
    · exact ⟨[], .nothing (by simp), .post _ _ _⟩
    · exact ⟨_, .put k', ⟨rfl, rfl, fun _ _ h => h⟩⟩
  cases storage with
  | disk b => exact hdisk b _
  | cached c => exact hdisk _ _

/-- What the pull replication pushes is its own. -/
lemma queued_advance (s : AssetServer) (c : StoreCall) :
    ∃ reqs, Grows s.storage.backend (s.advance c).storage.backend reqs ∧
      ∀ req ∈ reqs, ∃ k, req = .put c.asset k ∧ k.callBack = .replication := by
  unfold advance
  cases c.stage with
  | checking => exact ⟨[], .refl _, by simp⟩
  | refusing => exact ⟨[], by simpa using .post _ _ _, by simp⟩
  | claiming => exact ⟨[], by simpa using ⟨by simp, rfl, fun _ _ h => h⟩, by simp⟩
  | pushing =>
    refine ⟨[.put c.asset (.direct .replication)], by simpa using .enqueue _ _, ?_⟩
    simp [CacheCallback.callBack]

/-- The mesh leaves the work queue alone. -/
lemma backend_meshStep {e : MeshStorageBackend.Event} (h : s.meshStep e = some s') :
    s'.storage.backend = s.storage.backend := by
  obtain ⟨mesh, -, rfl⟩ := Option.map_eq_some_iff.mp h
  have hdeliver (os : List MeshOutput) (t : AssetServer) :
      (os.foldl deliver t).storage.backend = t.storage.backend := by
    induction os generalizing t with
    | nil => rfl
    | cons o os ih =>
      rw [List.foldl_cons, ih]
      unfold deliver
      split
      · split <;> rfl
      · rfl
      · simp
  exact hdeliver _ _

/-- A session's call. -/
lemma queued_proceed {id : ℕ} {ready : List ℕ} {result : CSAuthenticated × Option BackendCall}
    (h : s.proceed id ready result = some s') :
    ∃ reqs, Queued result.2 reqs ∧ Grows s.storage.backend s'.storage.backend reqs := by
  obtain ⟨c, call⟩ := result
  cases call with
  | none =>
    cases h
    exact ⟨[], .nothing (by simp), .refl _⟩
  | some call =>
    cases call with
    | getAsset uuid dontCache =>
      cases h
      exact queued_getAsset s.storage uuid dontCache _
    | storeAsset asset =>
      cases h
      exact queued_storeAsset s.storage asset (.session id .storageWrite)
    | purgeAsset uuid =>
      cases h
      cases hstorage : s.storage with
      | disk b => exact ⟨_, .purge _, by simpa [hstorage] using .enqueue b _⟩
      | cached c => exact ⟨[], .nothing (by simp), by simpa [hstorage] using .refl _⟩
    | getStatus =>
      cases h
      refine ⟨_, .status (.direct (.session id .statusGet)), ?_⟩
      rw [AsyncStorage.getStatus, AsyncStorage.backend_mapBackend]
      exact .enqueue _ _
    | getStoredAssetIDsWithPrefix head =>
      cases h
      refine ⟨_, .ids (.direct (.session id .storedAssetIdsGet)), ?_⟩
      rw [AsyncStorage.getStoredAssetIDsWithPrefix, AsyncStorage.backend_mapBackend]
      exact .enqueue _ _
    | beginPurgeLocals =>
      cases h
      refine ⟨[], .nothing (by simp), ?_⟩
      simp only [AsyncStorage.beginPurgeLocals, AsyncStorage.backend_mapBackend]
      unfold VFSBackend.beginPurgeLocals
      split <;> exact ⟨by simp, rfl, fun _ _ h => h⟩
    | meshGetAsset uuid =>
      refine ⟨[], .nothing (by simp), ?_⟩
      rw [backend_meshStep h]
      exact .refl _

end Calls

/-! ### Which calls are safe -/

/-- The paths of a request are those of the store. -/
def InStore (req : AssetRequest (CacheCallback Callback)) : Prop :=
  ∀ p ∈ req.paths, p.inStore = true

lemma InStore.stays {req : AssetRequest (CacheCallback Callback)} (h : InStore req) :
    req.StaysInStore := VFSBackend.touches_workLoop h

/-- What the listing takes for a prefix is one, if the header asks for a listing. -/
def checked (c : CSAuthenticated) (op : SocketOp) (bytes : ByteString) : Bool :=
  let header : ClientRequestMsg := ⟨bytes, none⟩
  op != .readHeader || header.getType != some .storedAssetIdsGet || !c.connected ||
    Path.isHexHead (header.getUUID.take 3)

/-- A call whose paths come from a valid identifier, or that makes none. -/
def Validated : BackendCall → Prop
  | .getAsset uuid _                    => Validator.isValidUUID uuid = true
  | .storeAsset asset                   => Validator.isValidUUID asset.getUUID = true
  | .getStoredAssetIDsWithPrefix _      => False
  | _                                   => True

lemma Queued.inStore {call : Option BackendCall}
    {reqs : List (AssetRequest (CacheCallback Callback))} (h : Queued call reqs)
    (hcall : ∀ c ∈ call, Validated c) : ∀ req ∈ reqs, InStore req := by
  cases h with
  | nothing => simp
  | get | put =>
    simpa [InStore, AssetRequest.paths] using
      VFSBackend.inStore_databasePaths (VFSBackend.isHexHead_of_valid (hcall _ rfl))
  | purge | status => simp [InStore, AssetRequest.paths]
  | ids => exact (hcall _ rfl).elim

lemma validated_ifValidUUID {c : CSAuthenticated} {uuid : ByteString} {call : BackendCall}
    (hcall : Validator.isValidUUID uuid = true → Validated call) :
    ∀ call' ∈ (c.ifValidUUID uuid call).2, Validated call' := by
  unfold ifValidUUID
  split
  · simpa using hcall ‹_›
  · simp

/-- Only a listing is not validated. -/
lemma validated_onSocket (c : CSAuthenticated) (assetExists : ByteString → Bool) (op : SocketOp)
    (bytes : ByteString) :
    ((∀ call ∈ (c.onSocket assetExists op bytes).2, Validated call) ∧ checked c op bytes = true) ∨
      (c.onSocket assetExists op bytes).2 =
          some (.getStoredAssetIDsWithPrefix ((⟨bytes, none⟩ : ClientRequestMsg).getUUID.take 3)) ∧
        checked c op bytes = Path.isHexHead
          ((⟨bytes, none⟩ : ClientRequestMsg).getUUID.take 3) := by
  cases op with
  | readData => exact .inl ⟨validated_ifValidUUID id, by simp [checked]⟩
  | writeHeader | writeData =>
    exact .inl ⟨by simp [CSAuthenticated.onSocket], by simp [checked]⟩
  | readHeader =>
    simp only [CSAuthenticated.onSocket, handleClientRequestHeaderRead]
    cases htype : (⟨bytes, none⟩ : ClientRequestMsg).getType with
    | none => exact .inl ⟨by simp [dispatch], by simp [checked, htype]⟩
    | some type =>
      cases type with
      | get | getDontCache => exact .inl ⟨validated_ifValidUUID id, by simp [checked, htype]⟩
      | purge => exact .inl ⟨validated_ifValidUUID fun _ => trivial, by simp [checked, htype]⟩
      | put | test => exact .inl ⟨by simp [dispatch], by simp [checked, htype]⟩
      | maintPurgeLocals =>
        exact .inl ⟨by simp [dispatch, handlePurgeLocals, Validated], by simp [checked, htype]⟩
      | statusGet =>
        refine .inl ⟨?_, by simp [checked, htype]⟩
        simp only [dispatch, handleStatusGet]
        split <;> simp [Validated]
      | storedAssetIdsGet =>
        simp only [dispatch, handleStoredAssetIdsGet]
        split
        · next hconn =>
          exact .inr ⟨rfl, by simp [checked, htype, show c.connected = true from hconn]⟩
        · next hconn =>
          refine .inl ⟨by simp, ?_⟩
          simp [checked, htype, show ¬ c.connected = true from hconn]

/-- A call back leads to a mesh search at most. -/
lemma validated_onReply (c : CSAuthenticated) (reply : Reply) :
    ∀ call ∈ (c.onReply reply).2, Validated call := by
  cases reply with
  | storageGet foundAsset success error =>
    simp only [onReply, handleStorageGetResponse]
    split
    · simp
    · split <;> simp [Validated]
  | _ => simp [onReply]

/-- The requests that an operation of the socket leads to stay in the store if and only if what is
taken for a prefix is one. -/
lemma staysInStore_iff {c : CSAuthenticated} {assetExists : ByteString → Bool} {op : SocketOp}
    {bytes : ByteString} {reqs : List (AssetRequest (CacheCallback Callback))}
    (h : Queued (c.onSocket assetExists op bytes).2 reqs) :
    (∀ req ∈ reqs, req.StaysInStore) ↔ checked c op bytes = true := by
  rcases validated_onSocket c assetExists op bytes with ⟨hvalid, hchecked⟩ | ⟨hcall, hchecked⟩
  · refine iff_of_true (fun req hreq => (h.inStore hvalid req hreq).stays) hchecked
  · rw [hcall] at h
    cases h with
    | nothing hlisting => exact absurd rfl (hlisting _)
    | ids k => simp [hchecked, VFSBackend.staysInStore_getStoredAssetIds]

/-- The same of the paths alone. -/
lemma inStore_of_checked {c : CSAuthenticated} {assetExists : ByteString → Bool} {op : SocketOp}
    {bytes : ByteString} {reqs : List (AssetRequest (CacheCallback Callback))}
    (h : Queued (c.onSocket assetExists op bytes).2 reqs) (hchecked : checked c op bytes = true) :
    ∀ req ∈ reqs, InStore req := by
  rcases validated_onSocket c assetExists op bytes with ⟨hvalid, -⟩ | ⟨hcall, heq⟩
  · exact h.inStore hvalid
  · rw [hcall] at h
    rw [heq] at hchecked
    cases h with
    | nothing hlisting => exact absurd rfl (hlisting _)
    | ids k => simpa [InStore, AssetRequest.paths, Path.inStore, Path.head] using hchecked

/-! ### Runs -/

/-- The request was not made by the pull replication, whose assets come from another server. -/
def ForClient (req : AssetRequest (CacheCallback Callback)) : Prop :=
  ∀ k, req.callback = some k → k.callBack ≠ .replication

/-- Every request made for a client stays in the store, those that a purge will still make
included. -/
structure Confined (b : Backend) : Prop where
  requests : ∀ req ∈ b.pending, ForClient req → InStore req
  heads : ∀ ids head, .unindexLocals ids head ∈ b.posted → Path.isHexHead head = true

namespace Confined

variable {b b' : Backend}

lemma grows (h : Confined b) {reqs : List (AssetRequest (CacheCallback Callback))}
    (hgrows : Grows b b' reqs) (hreqs : ∀ req ∈ reqs, ForClient req → InStore req) :
    Confined b' where
  requests req hreq hclient := by
    rw [VFSBackend.pending, hgrows.current, hgrows.queue, ← List.append_assoc,
      List.mem_append] at hreq
    rcases hreq with hreq | hreq
    · exact h.requests req hreq hclient
    · exact hreqs req hreq hclient
  heads ids head hmem := h.heads ids head (hgrows.posted ids head hmem)

lemma dequeue (h : Confined b) (hstep : b.dequeue = some b') : Confined b' := by
  unfold VFSBackend.dequeue at hstep
  split at hstep
  · next req rest hcur hqueue =>
    cases hstep
    exact ⟨by simpa [VFSBackend.pending, hcur, hqueue] using h.requests, h.heads⟩
  · cases hstep

lemma process (h : Confined b) {calls : List Call} (hstep : b.process calls = some b') :
    Confined b' := by
  unfold VFSBackend.process at hstep
  split at hstep
  · cases hstep
  · next req hcur =>
    split at hstep
    · next hs w hloop =>
      cases hstep
      refine ⟨fun req' hreq' => h.requests req' ?_, fun ids head hmem => ?_⟩
      · simp only [VFSBackend.pending, Option.toList_none, List.nil_append] at hreq'
        exact List.mem_append_right _ hreq'
      · rcases List.mem_append.mp hmem with hmem | hmem
        · exact h.heads ids head hmem
        · have hreq := VFSBackend.unindexLocals_of_workLoop hloop hmem
          have hstore := h.requests req (by simp [VFSBackend.pending, hcur])
            (by simp [hreq, ForClient, AssetRequest.callback])
          simpa [hreq, InStore, AssetRequest.paths, Path.inStore, Path.head] using hstore
    · cases hstep

lemma runHandler (h : Confined b) {i : ℕ} {call : Option (CacheCallback Callback × Completion)}
    (hstep : b.runHandler i = some (b', call)) : Confined b' := by
  unfold VFSBackend.runHandler at hstep
  split at hstep
  · cases hstep
  · next posted hi =>
    have herase : Confined { b with posted := b.posted.eraseIdx i } :=
      ⟨h.requests, fun ids head hmem => h.heads ids head (List.mem_of_mem_eraseIdx hmem)⟩
    cases posted with
    | callback | ioLoopFailed =>
      cases hstep
      exact herase
    | assetWriteFailed id reason =>
      cases hstep
      unfold VFSBackend.assetWriteFailed
      split
      · exact ⟨herase.requests, herase.heads⟩
      · exact herase
    | unindexLocals ids head =>
      cases hstep
      have hgrows : Grows { b with posted := b.posted.eraseIdx i }
        ({ b with posted := b.posted.eraseIdx i }.unindexLocals ids head)
        [.deleteLocalStorage head] := ⟨rfl, rfl, fun _ _ h => h⟩
      refine herase.grows hgrows ?_
      have hhead := h.heads ids head (List.mem_of_getElem? hi)
      simpa [InStore, AssetRequest.paths, Path.inStore, Path.head] using fun _ => hhead

end Confined

lemma isHexHead_hexHead (n : ℕ) : Path.isHexHead (VFSBackend.hexHead n) = true := by
  simp only [Path.isHexHead, UUID_PATH_CHARS, VFSBackend.hexHead, List.all_cons, List.all_nil,
    isHexChar_hexChar (Nat.mod_lt _ (by decide))]
  rfl

lemma backend_runHandler {storage storage' : AsyncStorage Callback} {i : ℕ}
    {call : Option (Callback × Completion)} (h : storage.runHandler i = some (storage', call)) :
    ∃ call', storage.backend.runHandler i = some (storage'.backend, call') := by
  cases storage with
  | disk b =>
    obtain ⟨⟨b', call'⟩, hb, heq⟩ := Option.map_eq_some_iff.mp h
    cases heq
    exact ⟨call', hb⟩
  | cached c =>
    obtain ⟨⟨b', call'⟩, hb, heq⟩ := Option.map_eq_some_iff.mp h
    refine ⟨call', hb.trans ?_⟩
    cases call' with
    | none =>
      cases heq
      rfl
    | some call' =>
      cases heq
      simp only [AsyncStorage.backend, Option.some.injEq, Prod.mk.injEq, and_true]
      unfold AssetCache.completed
      split <;> rfl

/-- Every header that asks for a listing names one of the store's directories. -/
def listingsChecked (s : AssetServer) : Event → Prop
  | .socket id op (some bytes) => ∀ c, s.sessions[id]? = some c → checked c op bytes = true
  | _                          => True

section Step

variable {s s' : AssetServer}

/-- What a session does when an operation of its socket completes. -/
lemma queued_onSocket {id : ℕ} {op : SocketOp} {bytes : ByteString} {c : CSAuthenticated}
    (hc : s.sessions[id]? = some c) (h : s.onSocket id op (some bytes) = some s') :
    ∃ reqs, Queued (c.onSocket s.storage.assetExists op bytes).2 reqs ∧
      Grows s.storage.backend s'.storage.backend reqs := by
  obtain ⟨c', hc', -, ⟨hnone, -⟩ | ⟨data, hsome, -, h⟩⟩ := exists_proceed_of_onSocket h
  · cases hnone
  · cases hsome
    obtain rfl : c' = c := Option.some.inj (hc'.symm.trans hc)
    exact queued_proceed h

lemma Confined.onSocket (h : Confined s.storage.backend) {id : ℕ} {op : SocketOp}
    {bytes : Option ByteString} (hchecked : s.listingsChecked (.socket id op bytes))
    (hstep : s.onSocket id op bytes = some s') : Confined s'.storage.backend := by
  obtain ⟨c, hc, -, ⟨-, hstep⟩ | ⟨data, rfl, -, hstep⟩⟩ := exists_proceed_of_onSocket hstep
  · obtain ⟨reqs, hreqs, hgrows⟩ := queued_proceed hstep
    exact h.grows hgrows fun req hreq _ => hreqs.inStore (by simp) req hreq
  · obtain ⟨reqs, hreqs, hgrows⟩ := queued_proceed hstep
    exact h.grows hgrows fun req hreq _ => inStore_of_checked hreqs (hchecked c hc) req hreq

/-- A handler runs, and its session goes on if it is there and the answer is for it. -/
lemma Confined.onHandler (h : Confined s.storage.backend) {i : ℕ} {ready : List ℕ}
    (hstep : s.onHandler i ready = some s') : Confined s'.storage.backend := by
  obtain ⟨storage, call, hrun, hcase⟩ := exists_runHandler_of_onHandler hstep
  obtain ⟨call', hrun'⟩ := backend_runHandler hrun
  have h' := h.runHandler hrun'
  obtain rfl | ⟨id, handler, completion, c, reply, -, -, -, hstep⟩ := hcase
  · exact h'
  · obtain ⟨reqs, hreqs, hgrows⟩ := queued_proceed hstep
    exact h'.grows hgrows fun req hreq _ => hreqs.inStore (validated_onReply _ _) req hreq

/-- A step leaves only requests that stay within the store to be worked on. -/
lemma Confined.step (h : Confined s.storage.backend) {e : Event} (hchecked : s.listingsChecked e)
    (hstep : s.step e = some s') : Confined s'.storage.backend := by
  have hrestart {w : World} (hw : s.restart w = some s') : Confined s'.storage.backend := by
    obtain ⟨index, -, rfl⟩ := Option.map_eq_some_iff.mp hw
    cases s.storage <;> exact ⟨by simp [AsyncStorage.backend, AssetCache.new, VFSBackend.pending],
      by simp [AsyncStorage.backend, AssetCache.new]⟩
  cases e with
  | accept isMeshConnection =>
    cases (Option.ite_none_right_eq_some.mp hstep).2
    exact h
  | socket id op bytes =>
    exact h.onSocket hchecked (Option.ite_none_right_eq_some.mp hstep).2
  | handler i ready => exact h.onHandler (Option.ite_none_right_eq_some.mp hstep).2
  | mesh event =>
    cases event with
    | start => cases hstep
    | _ => exact backend_meshStep hstep ▸ h
  | replicate asset =>
    obtain rfl := Machine.eq_of_ite hstep
    exact h
  | advance =>
    obtain ⟨c, -, rfl⟩ := Option.map_eq_some_iff.mp hstep
    obtain ⟨reqs, hgrows, hput⟩ := queued_advance s c
    refine h.grows hgrows fun req hreq hclient => ?_
    obtain ⟨k, rfl, hk⟩ := hput req hreq
    exact absurd hk (hclient k rfl)
  | purgeTimer =>
    cases (Option.ite_none_right_eq_some.mp hstep).2
    have hgrows : Grows s.storage.backend (s.storage.mapBackend (·.onPurgeTimer)).backend
        [.purgeLocals (VFSBackend.hexHead s.storage.backend.currentLocalsPurgeIndex)] := by
      rw [AsyncStorage.backend_mapBackend]
      exact ⟨rfl, rfl, fun _ _ h => h⟩
    refine h.grows hgrows ?_
    simp [InStore, AssetRequest.paths, Path.inStore, Path.head, isHexHead_hexHead]
  | dequeue =>
    obtain ⟨b, hb, rfl⟩ := Option.map_eq_some_iff.mp hstep
    simpa using h.dequeue hb
  | process calls =>
    obtain ⟨b, hb, rfl⟩ := Option.map_eq_some_iff.mp hstep
    simpa using h.process hb
  | crash calls =>
    obtain ⟨req, e, w, -, -, hw⟩ := exists_restart_of_crash hstep
    exact hrestart hw
  | restart => exact hrestart hstep

end Step

/-- What a client sends leads to requests that are served inside the store if and only if a header
that asks for a listing names a directory of the store; and as long as this is so, every request
that is waiting or worked on for a client is served inside the store, those of a purge included. -/
theorem served_in_store_iff_checked (cacheSize : Option UInt64) :
    (∀ (s s' : AssetServer) (id : ℕ) (c : CSAuthenticated) (op : SocketOp) (bytes : ByteString),
      s.sessions[id]? = some c → s.step (.socket id op (some bytes)) = some s' →
      ∃ reqs, s'.storage.backend.workQueue = s.storage.backend.workQueue ++ reqs ∧
        ((∀ req ∈ reqs, req.StaysInStore) ↔ checked c op bytes = true)) ∧
    ∀ (es : List Event) (t : AssetServer),
      Machine.Guarded step listingsChecked (new cacheSize) es →
      Machine.run step (new cacheSize) es = some t →
      ∀ req ∈ t.storage.backend.pending, ForClient req → req.StaysInStore := by
  refine ⟨fun s s' id c op bytes hc hstep => ?_, fun es t hchecked hrun => ?_⟩
  · obtain ⟨reqs, hreqs, hgrows⟩ := queued_onSocket hc (Option.ite_none_right_eq_some.mp hstep).2
    exact ⟨reqs, hgrows.queue, staysInStore_iff hreqs⟩
  · have hnew : Confined (new cacheSize).storage.backend := by
      cases cacheSize <;> exact ⟨by simp [new, AsyncStorage.backend, AssetCache.new,
        VFSBackend.pending], by simp [new, AsyncStorage.backend, AssetCache.new]⟩
    have ht : Confined t.storage.backend :=
      Machine.run_invariant (I := fun s : AssetServer => Confined s.storage.backend)
        (fun s e s' h hguard hstep => h.step hguard hstep) hnew hchecked hrun
    exact fun req hreq hclient => (ht.requests req hreq hclient).stays

/-- The header of a listing of one of the store's directories. -/
def storeListing : ByteString :=
  (ClientRequestMsg.ofId .storedAssetIdsGet (List.replicate 32 48)).header

theorem listing_stays_in_store :
    ∃ s t reqs, Machine.run step (new none) [.accept false] = some s ∧
      s.step (.socket 0 .readHeader (some storeListing)) = some t ∧
      t.storage.backend.workQueue = s.storage.backend.workQueue ++ reqs ∧
      (∀ req ∈ reqs, req.StaysInStore) ∧
      ∀ req ∈ t.storage.backend.pending, ForClient req → req.StaysInStore := by
  obtain ⟨s, t, c, hs, hc, ht, hchecked⟩ : ∃ s t c,
      Machine.run step (new none) [.accept false] = some s ∧ s.sessions[0]? = some c ∧
      s.step (.socket 0 .readHeader (some storeListing)) = some t ∧
      checked c .readHeader storeListing = true := ⟨_, _, _, rfl, rfl, rfl, rfl⟩
  obtain ⟨reqs, hqueue, hstays⟩ :=
    (served_in_store_iff_checked none).1 s t 0 c .readHeader _ hc ht
  have hrun : Machine.run step (new none)
      [.accept false, .socket 0 .readHeader (some storeListing)] = some t :=
    Machine.run_concat_eq_some.mpr ⟨s, hs, ht⟩
  refine ⟨s, t, reqs, hs, ht, hqueue, hstays.mpr hchecked,
    (served_in_store_iff_checked none).2 _ t ?_ hrun⟩
  obtain ⟨s', hs', hnil⟩ := Machine.run_cons_eq_some.mp hs
  obtain rfl : s' = s := Option.some.inj hnil
  refine .cons hs' trivial (.cons ht (fun c' hc' => ?_) trivial)
  rw [hc] at hc'
  exact Option.some.inj hc' ▸ hchecked

/-- The header of a listing whose prefix leads out of the storage root. -/
def parentListing : ByteString :=
  (ClientRequestMsg.ofId .storedAssetIdsGet ([46, 46, 47] ++ List.replicate 29 48)).header

/-- A client makes the server open an index in the parent of the storage root. -/
theorem listing_leaves_store :
    parentListing.length = 37 ∧
    ∃ t k, Machine.run step (new none) [.accept false, .socket 0 .readHeader (some parentListing)] =
        some t ∧ t.storage.backend.pending = [.getStoredAssetIds [46, 46, 47] k] ∧
      ForClient (.getStoredAssetIds [46, 46, 47] k) ∧
      ¬ (AssetRequest.getStoredAssetIds [46, 46, 47] k).StaysInStore := by
  refine ⟨rfl, _, .direct (.session 0 .storedAssetIdsGet), rfl, rfl, ?_, ?_⟩
  · simp [ForClient, AssetRequest.callback, CacheCallback.callBack]
  · rw [VFSBackend.staysInStore_getStoredAssetIds]
    decide

end AssetServer

end Whip
