import Whip.Cache.Transparency
import Whip.Server.Tokens

/-!
# What the storage of the server holds

Where no call of the worker fails and no local assets are purged, the storage of the server is a map
that grows: `m` is the map on the disk. A write in the queue has claimed an identifier that `m` does
not have, and the index is what `m` has and what is claimed. The assets that the cache keeps, and
those on the way to the callers, are on the disk or were told by servers of the mesh, the `peers`.
-/

namespace Whip

open Effect VFSBackend

namespace AssetServer

variable {peers : Asset → Prop} {m m' : AssetId → Option ValidAsset} {b b' : Backend}

/-! ### Assets, requests and completions -/

/-- The map `m'` has all that `m` has. -/
def Extends (m m' : AssetId → Option ValidAsset) : Prop := ∀ u a, m u = some a → m' u = some a

/-- The assets that the server may give: those on its disk, and those it was told by peers. -/
def Known (peers : Asset → Prop) (m : AssetId → Option ValidAsset) (asset : Asset) : Prop :=
  peers asset ∨ ∃ a : ValidAsset, m a.id = some a ∧ a.toAsset = asset

lemma Known.mono {asset : Asset} (h : Known peers m asset) (hm : Extends m m') :
    Known peers m' asset :=
  h.imp_right fun ⟨a, ha, hasset⟩ => ⟨a, hm _ _ ha, hasset⟩

/-- A request of a session or of the replication; the cache puts what is written. -/
def Plain : AssetRequest (CacheCallback Callback) → Prop
  | .get uuid _                            => Validator.isValidUUID uuid = true
  | .put asset k                           =>
    (∃ a : ValidAsset, a.toAsset = asset) ∧ ∀ a k', k = .asyncPutCompleted a k' → a = asset
  | .purgeLocals _ | .deleteLocalStorage _ => False
  | _                                      => True

/-- What a callback is called with is known. -/
def Gives (peers : Asset → Prop) (m : AssetId → Option ValidAsset) (k : CacheCallback Callback) :
    Completion → Prop
  | .got asset _ _  => ∀ a, asset = some a → Known peers m a
  | .stored true _  => ∀ a k', k = .asyncPutCompleted a k' → Known peers m a
  | _               => True

/-- A posted handler is a callback with something known; no write has failed. -/
def Calls (peers : Asset → Prop) (m : AssetId → Option ValidAsset)
    (h : Handler (CacheCallback Callback)) : Prop :=
  ∃ k completion, h = .callback k completion ∧ Gives peers m k completion

lemma Calls.mono {h : Handler (CacheCallback Callback)} (hcalls : Calls peers m h)
    (hm : Extends m m') : Calls peers m' h := by
  obtain ⟨k, completion, rfl, hgives⟩ := hcalls
  refine ⟨k, completion, rfl, ?_⟩
  cases completion with
  | got asset success error => exact fun a ha => (hgives a ha).mono hm
  | stored success error =>
    cases success with
    | true => exact fun a k' hk => (hgives a k' hk).mono hm
    | false => trivial
  | completed journal => trivial

/-! ### The backend -/

/-- The backend holds the map `m`. -/
structure Stores (peers : Asset → Prop) (m : AssetId → Option ValidAsset) (b : Backend) : Prop where
  disk : DiskHolds b.world.disk m
  openTables : OpenTables b.world
  notPurging : b.isPurgingLocals = false
  requests : ∀ req ∈ b.pending, Plain req
  claims_nodup : b.claims.Nodup
  claims_new : ∀ u : AssetId, u.text ∈ b.claims → m u = none
  index : ∀ u : AssetId, u.toUuid ∈ b.existenceIndex ↔ (m u).isSome ∨ u.text ∈ b.claims
  posted : ∀ h ∈ b.posted, Calls peers m h

namespace Stores

lemma assetExists (h : Stores peers m b) {a : ValidAsset} (ha : m a.id = some a) :
    ExistenceIndex.assetExists b.existenceIndex a.getUUID = true := by
  rw [← ValidAsset.text_id, ExistenceIndex.assetExists_text, h.index]
  exact .inl (by simp [ha])

lemma post (h : Stores peers m b) {k : CacheCallback Callback} {completion : Completion}
    (hgives : Gives peers m k completion) :
    Stores peers m (b.post [.callback k completion]) := by
  refine { h with posted := fun hd hhd => ?_ }
  rcases List.mem_append.mp hhd with hhd | hhd
  · exact h.posted hd hhd
  · exact ⟨k, completion, List.mem_singleton.mp hhd, hgives⟩

lemma pending_enqueue (req : AssetRequest (CacheCallback Callback)) :
    (b.enqueue req).pending = b.pending ++ [req] := by
  simp [pending, enqueue]

/-- A request that claims nothing. -/
lemma enqueue (h : Stores peers m b) {req : AssetRequest (CacheCallback Callback)}
    (hreq : Plain req) (hclaim : claim req = none) : Stores peers m (b.enqueue req) := by
  have hclaims : (b.enqueue req).claims = b.claims := by
    simp [claims, pending_enqueue, hclaim]
  exact { h with
    requests := fun req' hreq' => by
      rw [pending_enqueue] at hreq'
      rcases List.mem_append.mp hreq' with hreq' | hreq'
      · exact h.requests req' hreq'
      · exact List.mem_singleton.mp hreq' ▸ hreq
    claims_nodup := hclaims ▸ h.claims_nodup
    claims_new := hclaims ▸ h.claims_new
    index := hclaims ▸ h.index }

lemma storeAsset (h : Stores peers m b) (a : ValidAsset) {k : CacheCallback Callback}
    (hk : ∀ a' k', k = .asyncPutCompleted a' k' → a' = a.toAsset) :
    Stores peers m (b.storeAsset a.toAsset k) := by
  unfold VFSBackend.storeAsset
  split_ifs with hexists
  · exact h.post trivial
  · have hnew : a.id.toUuid ∉ b.existenceIndex := fun hmem =>
      hexists ((ExistenceIndex.assetExists_text _ a.id).mpr hmem)
    rw [h.index, not_or] at hnew
    have hpending := pending_enqueue (b := b) (.put a.toAsset k)
    have hclaims : (b.enqueue (.put a.toAsset k)).claims = b.claims ++ [a.id.text] := by
      simp [claims, hpending, claim]
    have hmem (u : AssetId) : u.text ∈ (b.enqueue (.put a.toAsset k)).claims ↔
        u.text ∈ b.claims ∨ u = a.id := by
      rw [hclaims, List.mem_append, List.mem_singleton]
      exact or_congr_right ⟨AssetId.ext, congrArg _⟩
    exact {
      disk := h.disk
      openTables := h.openTables
      notPurging := h.notPurging
      requests := fun req hreq => by
        have hreq : req ∈ b.pending ++ [.put a.toAsset k] := hpending ▸ hreq
        rcases List.mem_append.mp hreq with hreq | hreq
        · exact h.requests req hreq
        · rw [List.mem_singleton.mp hreq]
          exact ⟨⟨a, rfl⟩, hk⟩
      claims_nodup := by
        show (b.enqueue (.put a.toAsset k)).claims.Nodup
        rw [hclaims]
        exact List.nodup_append'.mpr ⟨h.claims_nodup, List.nodup_singleton _, by simpa using hnew.2⟩
      claims_new := fun u hu => by
        rcases (hmem u).mp hu with hu | rfl
        · exact h.claims_new u hu
        · simpa using hnew.1
      index := fun u => by
        show _ ↔ _ ∨ u.text ∈ (b.enqueue (.put a.toAsset k)).claims
        rw [hmem]
        show u.toUuid ∈ ExistenceIndex.addNewId _ a.id.text ↔ _
        rw [ExistenceIndex.mem_addNewId, AssetId.toUuid_inj, h.index]
        tauto
      posted := h.posted }

lemma getAsset (h : Stores peers m b) {uuid : ByteString}
    (huuid : Validator.isValidUUID uuid = true) (k : CacheCallback Callback) :
    Stores peers m (b.getAsset uuid k) := by
  unfold VFSBackend.getAsset
  split_ifs
  · exact h.post nofun
  · exact h.enqueue huuid rfl

lemma dequeue (h : Stores peers m b) (hb : b.dequeue = some b') : Stores peers m b' := by
  unfold VFSBackend.dequeue at hb
  split at hb
  · next req rest hcur hqueue =>
    cases hb
    have hpending : pending { b with current := some req, workQueue := rest } = b.pending := by
      simp [pending, hcur, hqueue]
    have hclaims : claims { b with current := some req, workQueue := rest } = b.claims := by
      rw [claims, hpending, claims]
    exact { h with
      requests := fun req' hreq' => h.requests req' (hpending ▸ hreq')
      claims_nodup := hclaims ▸ h.claims_nodup
      claims_new := fun u hu => h.claims_new u (hclaims ▸ hu)
      index := fun u => by
        rw [hclaims]
        exact h.index u }
  · cases hb

/-- A callback is taken from the io thread's queue. -/
lemma runHandler (h : Stores peers m b) {i : ℕ}
    {call : Option (CacheCallback Callback × Completion)}
    (hrun : b.runHandler i = some (b', call)) :
    Stores peers m b' ∧ ∃ k completion, call = some (k, completion) ∧
      Gives peers m k completion := by
  cases hi : b.posted[i]? with
  | none => simp [VFSBackend.runHandler, hi] at hrun
  | some hd =>
    obtain ⟨k, completion, rfl, hgives⟩ := h.posted hd (List.mem_of_getElem? hi)
    rw [runHandler_callback hi] at hrun
    cases hrun
    refine ⟨?_, k, completion, rfl, hgives⟩
    exact { h with posted := fun hd hhd => h.posted hd (List.mem_of_mem_eraseIdx hhd) }

end Stores

/-! ### The worker -/

/-- What the worker posts for a request, when `m` is on the disk afterwards. -/
inductive Answered (m : AssetId → Option ValidAsset) :
    AssetRequest (CacheCallback Callback) → List (Handler (CacheCallback Callback)) → Prop
  | got {u : AssetId} {k} (error : Option AssetStorageError) :
      Answered m (.get u.text k) [.callback k (.got ((m u).map (·.toAsset)) (m u).isSome error)]
  | stored {a : ValidAsset} {k} (h : m a.id = some a) :
      Answered m (.put a.toAsset k) [.callback k (.stored true none)]
  | purge {uuid k} : Answered m (.purge uuid k) []
  | status {k} : Answered m (.collectStatus k) [.callback k (.completed [])]
  | ids {head k} (journal : ByteString) :
      Answered m (.getStoredAssetIds head k) [.callback k (.completed journal)]

/-- What a request adds to the map. -/
structure Adding (m : AssetId → Option ValidAsset) (req : AssetRequest (CacheCallback Callback))
    (m' : AssetId → Option ValidAsset) : Prop where
  extend : Extends m m'
  claimed : ∀ u, (m' u).isSome ↔ (m u).isSome ∨ claim req = some u.text

lemma Adding.refl {req : AssetRequest (CacheCallback Callback)} (hclaim : claim req = none) :
    Adding m req m :=
  ⟨fun _ _ h => h, by simp [hclaim]⟩

lemma adding_put {a : ValidAsset} (ha : m a.id = none) (k : CacheCallback Callback) :
    Adding m (.put a.toAsset k) (Function.update m a.id (some a)) := by
  refine ⟨fun u a' ha' => ?_, fun u => ?_⟩
  · rw [Function.update_of_ne, ha']
    rintro rfl
    rw [ha] at ha'
    cases ha'
  · by_cases hu : u = a.id
    · simp [hu, claim]
    · have hne : a.id.text ≠ u.text := fun htext => hu (AssetId.ext htext.symm)
      rw [Function.update_of_ne hu, claim, Option.some_inj]
      exact ⟨.inl, fun h => h.resolve_right hne⟩

/-- A round of the worker without failures. -/
lemma round_triple {k : Disk} (hk : DiskHolds k m)
    {req : AssetRequest (CacheCallback Callback)} (hreq : Plain req)
    (hnew : ∀ u : AssetId, claim req = some u.text → m u = none) :
    Triple (fun w => (w.disk = k ∧ OpenTables w) ∧ Quiet True w) (workLoop req)
      (fun hs w => ∃ m', Adding m req m' ∧ Answered m' req hs ∧ DiskHolds w.disk m' ∧ OpenTables w)
      (fun _ _ => False) := by
  -- requests that do nothing but post their handlers
  have hpure {req : AssetRequest (CacheCallback Callback)}
      {hs : List (Handler (CacheCallback Callback))} (hclaim : claim req = none)
      (hprocess : processRequest req = pure hs) (hans : Answered m req hs) :
      Triple (fun w => (w.disk = k ∧ OpenTables w) ∧ Quiet True w) (workLoop req)
        (fun hs w => ∃ m', Adding m req m' ∧ Answered m' req hs ∧ DiskHolds w.disk m' ∧
          OpenTables w)
        (fun _ _ => False) := by
    have hround : Triple (fun w => (w.disk = k ∧ OpenTables w) ∧ Quiet True w)
        (processRequest req)
        (fun hs w => ∃ m', Adding m req m' ∧ Answered m' req hs ∧ DiskHolds w.disk m' ∧
          OpenTables w)
        (fun _ _ => False) := by
      rw [hprocess]
      exact .pure hs fun w hw => ⟨m, .refl hclaim, hans, hw.1.1 ▸ hk, hw.1.2⟩
    refine (workLoop_triple hround).conseq (fun _ h => h) ?_ fun _ _ h => h.2
    rintro hs w (hw | ⟨-, -, -, hfalse⟩)
    · exact hw
    · exact hfalse.elim
  cases req with
  | get uuid callback =>
    refine (Service.lookup_round hk ⟨uuid, hreq⟩ callback).conseq (fun _ h => h) ?_ fun _ _ h => h
    rintro hs w ⟨rfl, hdisk, hopen⟩
    refine ⟨m, .refl rfl, ?_, hdisk, hopen⟩
    have hgot (error : Option AssetStorageError) :
        Answered m (.get uuid callback) _ := .got (u := ⟨uuid, hreq⟩) error
    cases hm : m ⟨uuid, hreq⟩ with
    | none =>
      simp only [hm] at hgot
      exact hgot _
    | some a =>
      simp only [hm] at hgot
      exact hgot _
  | put asset callback =>
    obtain ⟨⟨a, rfl⟩, -⟩ := hreq
    have ha := hnew a.id rfl
    refine (Service.write_round hk ha callback).conseq (fun _ h => h) ?_ fun _ _ h => h
    rintro hs w ⟨rfl, hdisk, hopen⟩
    exact ⟨_, adding_put ha callback, .stored (by simp), hdisk, hopen⟩
  | purge uuid callback => exact hpure rfl rfl .purge
  | purgeLocals head | deleteLocalStorage head => exact absurd hreq id
  | collectStatus callback => exact hpure rfl rfl .status
  | getStoredAssetIds head callback =>
    refine (workLoop_triple (performGetStoredAssetIds_triple True k head callback)).conseq
      (fun w hw => ⟨⟨hw.1.1 ▸ .refl _, hw.1.2⟩, hw.2⟩) ?_ fun _ _ h => absurd trivial h.2.2
    rintro hs w (⟨rfl, hw⟩ | ⟨-, -, -, -, hq⟩)
    · exact ⟨m, .refl rfl, .ids _, hk.of_prepared hw.prepared, hw.openTables⟩
    · exact absurd trivial hq

/-- What is posted is known. -/
lemma Answered.calls {req : AssetRequest (CacheCallback Callback)}
    {hs : List (Handler (CacheCallback Callback))} (h : Answered m req hs) (hreq : Plain req)
    (hkey : ∀ u a, m u = some a → a.id = u) : ∀ hd ∈ hs, Calls peers m hd := by
  intro hd hhd
  cases h with
  | @got u k error =>
    refine ⟨k, _, List.mem_singleton.mp hhd, fun asset hasset => ?_⟩
    obtain ⟨a, ha, rfl⟩ := Option.map_eq_some_iff.mp hasset
    exact .inr ⟨a, (hkey u a ha).symm ▸ ha, rfl⟩
  | @stored a k ha =>
    refine ⟨k, _, List.mem_singleton.mp hhd, fun a' k' hk => ?_⟩
    exact .inr ⟨a, ha, (hreq.2 a' k' hk).symm⟩
  | purge => cases hhd
  | status | ids => exact ⟨_, _, List.mem_singleton.mp hhd, trivial⟩

/-- The worker is through with a request. -/
lemma Stores.process (h : Stores peers m b) (hproc : b.process [] = some b') :
    ∃ m' req hs w, Extends m m' ∧ b.current = some req ∧ Answered m' req hs ∧
      b' = b.finished w hs ∧ Stores peers m' b' := by
  cases hcur : b.current with
  | none => simp [VFSBackend.process, hcur] at hproc
  | some req =>
    have hpending := pending_of_current hcur
    have hreq : Plain req := h.requests req (hpending ▸ List.mem_cons_self)
    have hclaims : b.claims = (claim req).toList ++ b.workQueue.filterMap claim := by
      rw [claims, hpending]
      cases hclaim : claim req <;> simp [hclaim]
    have hnew (u : AssetId) (hu : claim req = some u.text) : m u = none :=
      h.claims_new u (by rw [hclaims, hu]; exact List.mem_cons_self)
    have hnodup : (claim req).toList.Disjoint (b.workQueue.filterMap claim) ∧
        (b.workQueue.filterMap claim).Nodup := by
      have hnodup := h.claims_nodup
      rw [hclaims, List.nodup_append'] at hnodup
      exact ⟨hnodup.2.2, hnodup.2.1⟩
    have hquiet : (({ b.world with calls := [] } : World).disk = b.world.disk ∧
        OpenTables { b.world with calls := [] }) ∧ Quiet True { b.world with calls := [] } :=
      ⟨⟨rfl, h.openTables.coherent, h.openTables.hasTable⟩, fun _ => rfl⟩
    obtain ⟨hs, w, ⟨m', hadding, hans, hdisk, hopen⟩, rfl⟩ :=
      process_of_triple hcur (round_triple h.disk hreq hnew) hquiet hproc
    refine ⟨m', req, hs, w, hadding.extend, rfl, hans, rfl, ?_⟩
    exact {
      disk := hdisk
      openTables := hopen
      notPurging := h.notPurging
      requests := fun req' hreq' => h.requests req' (hpending ▸ List.mem_cons_of_mem _ hreq')
      claims_nodup := hnodup.2
      claims_new := fun u hu => by
        have hold : m u = none := h.claims_new u (hclaims ▸ List.mem_append_right _ hu)
        have hother : claim req ≠ some u.text := fun hclaim =>
          hnodup.1 (by rw [hclaim]; exact List.mem_singleton_self _) hu
        have hnone := (hadding.claimed u).not.mpr (by simp [hold, hother])
        simpa using hnone
      index := fun u => by
        show _ ↔ _ ∨ u.text ∈ b.workQueue.filterMap claim
        rw [h.index, hadding.claimed, hclaims, List.mem_append, Option.mem_toList, or_assoc]
      posted := fun hd hhd => by
        rcases List.mem_append.mp hhd with hhd | hhd
        · exact (h.posted hd hhd).mono hadding.extend
        · exact hans.calls hreq hdisk.key hd hhd }

/-- The process is started again. -/
lemma Stores.restart (h : Stores peers m b) {index : List Uuid}
    (hload : ExistenceIndex.load b.world.disk = some index) :
    Stores peers m { world := VFSDatabase.restarted b.world, existenceIndex := index } where
  disk := h.disk
  openTables := VFSDatabase.openTables_restarted _
  notPurging := rfl
  requests := fun _ hreq => absurd hreq List.not_mem_nil
  claims_nodup := List.nodup_nil
  claims_new := fun _ hu => absurd hu List.not_mem_nil
  index := fun u => by
    rw [h.disk.load hload]
    simp [claims, pending]
  posted := fun _ hhd => absurd hhd List.not_mem_nil

lemma stores_empty : Stores peers (fun _ => none) {} where
  disk := .empty
  openTables := VFSDatabase.openTables_restarted {}
  notPurging := rfl
  requests := fun _ hreq => absurd hreq List.not_mem_nil
  claims_nodup := List.nodup_nil
  claims_new := fun _ _ => rfl
  index := by simp [claims, pending]
  posted := fun _ hhd => absurd hhd List.not_mem_nil

/-! ### The storage, with or without a cache -/

/-- The storage holds the map `m`, and its cache nothing unknown. -/
structure Provides (peers : Asset → Prop) (m : AssetId → Option ValidAsset)
    (s : AsyncStorage Callback) : Prop where
  stores : Stores peers m s.backend
  honest : s.Honest
  cached : ∀ c, s = .cached c → ∀ n ∈ c.cache.list, Known peers m n.data

/-- How far a get of `u` has come that was called when the disk held `m`. -/
inductive Gets (peers : Asset → Prop) (m : AssetId → Option ValidAsset) (u : AssetId) : Work → Prop
  | asked (k : CacheCallback Callback) : Gets peers m u (.asked (.get u.text k))
  | missed (error : Option AssetStorageError) (h : m u = none) :
      Gets peers m u (.answered (.got none false error))
  | hit {a : Asset} (error : Option AssetStorageError) (hid : a.getUUID = u.text)
      (hknown : Known peers m a) : Gets peers m u (.answered (.got (some a) true error))

/-- How far a store of `a` has come that was called when the disk held `m`. -/
inductive Puts (m : AssetId → Option ValidAsset) (a : ValidAsset) : Work → Prop
  | asked (k : CacheCallback Callback) (h : m a.id = none) : Puts m a (.asked (.put a.toAsset k))
  | refused (error : Option AssetStorageError) : Puts m a (.answered (.stored false error))

lemma Stores.adds_getAsset (h : Stores peers m b) (u : AssetId) (k : CacheCallback Callback) :
    Adds b (b.getAsset u.text k) k.callBack (Gets peers m u) := by
  unfold VFSBackend.getAsset
  split_ifs with hexists
  · refine adds_post (.missed _ ?_)
    cases hm : m u with
    | none => rfl
    | some a =>
      have hindex := (h.index u).mpr (.inl (by simp [hm]))
      rw [← ExistenceIndex.assetExists_text] at hindex
      simp [hindex] at hexists
  · exact adds_enqueue rfl (.asked k)

lemma Stores.adds_storeAsset (h : Stores peers m b) (a : ValidAsset) (k : CacheCallback Callback) :
    Adds b (b.storeAsset a.toAsset k) k.callBack (Puts m a) := by
  unfold VFSBackend.storeAsset
  split_ifs with hexists
  · exact adds_post (.refused _)
  · refine adds_enqueue rfl (.asked k ?_)
    cases hm : m a.id with
    | none => rfl
    | some a' =>
      have hindex := (h.index a.id).mpr (.inl (by simp [hm]))
      exact absurd ((ExistenceIndex.assetExists_text _ a.id).mpr hindex) hexists

section Cache

variable {c : AssetCache Callback}

lemma known_inform (h : c.Honest) (hc : ∀ n ∈ c.cache.list, Known peers m n.data) {asset : Asset}
    (hasset : Known peers m asset) : ∀ n ∈ (c.inform asset).cache.list, Known peers m n.data := by
  intro n hn
  obtain ⟨-, hdata⟩ | ⟨hn, -⟩ := LRUCache.mem_insert h.coherent hn
  · exact hdata ▸ hasset
  · exact hc n hn

/-- The cache inserts what is known. -/
lemma known_completed (h : c.Honest) (hc : ∀ n ∈ c.cache.list, Known peers m n.data)
    {k : CacheCallback Callback} {completion : Completion} (hgives : Gives peers m k completion) :
    ∀ n ∈ (c.completed k completion).cache.list, Known peers m n.data := by
  unfold AssetCache.completed
  split
  · exact known_inform h hc (hgives _ rfl)
  · exact known_inform h hc (hgives _ _ rfl)
  · exact hc

end Cache

namespace Provides

variable {s s' : AsyncStorage Callback}

lemma disk (hb : Stores peers m b) : Provides peers m (.disk b) := by
  refine ⟨hb, trivial, fun c hc => ?_⟩
  cases hc

lemma withCache {c : AssetCache Callback} (hb : Stores peers m c.persistentStorage)
    (hhonest : c.Honest) (hc : ∀ n ∈ c.cache.list, Known peers m n.data) :
    Provides peers m (.cached c) := by
  refine ⟨hb, hhonest, fun c' hc' => ?_⟩
  cases hc'
  exact hc

lemma assetExists (h : Provides peers m s) {a : ValidAsset} (ha : m a.id = some a) :
    s.assetExists a.getUUID = true := by
  cases s with
  | disk b => exact h.stores.assetExists ha
  | cached c =>
    show (_ || _) = true
    rw [Bool.or_eq_true]
    exact .inr (h.stores.assetExists ha)

/-- Something is done to the backend. -/
lemma mapBackend (h : Provides peers m s) (hm : Extends m m') {f : Backend → Backend}
    (hb : Stores peers m' (f s.backend)) : Provides peers m' (s.mapBackend f) := by
  have hhonest := h.honest.mapBackend f
  cases s with
  | disk b => exact .disk hb
  | cached c => exact .withCache hb hhonest fun n hn => (h.cached c rfl n hn).mono hm

lemma enqueue (h : Provides peers m s) {req : AssetRequest (CacheCallback Callback)}
    (hreq : Plain req) (hclaim : claim req = none) :
    Provides peers m (s.mapBackend (·.enqueue req)) :=
  h.mapBackend (fun _ _ h => h) (h.stores.enqueue hreq hclaim)

lemma purgeAsset (h : Provides peers m s) (uuid : ByteString) (k : Callback) :
    Provides peers m (s.purgeAsset uuid k) := by
  cases s with
  | disk b =>
    have hplain : Plain (.purge uuid (.direct k)) := trivial
    exact h.enqueue hplain rfl
  | cached c => exact h

lemma inform (h : Provides peers m s) {asset : Asset} (hasset : peers asset) :
    Provides peers m (s.inform asset) := by
  have hhonest := h.honest
  cases s with
  | disk b => exact h
  | cached c =>
    exact .withCache h.stores (hhonest.inform asset)
      (known_inform hhonest (h.cached c rfl) (.inl hasset))

lemma getAsset (h : Provides peers m s) (u : AssetId) (dontCache : Bool) (k : Callback) :
    Provides peers m (s.getAsset u.text dontCache k) ∧
      Called s (s.getAsset u.text dontCache k) k (Gets peers m u) := by
  have hhonest := h.honest
  have hstores := h.stores
  cases s with
  | disk b =>
    exact ⟨.disk (hstores.getAsset u.valid _),
      hstores.adds_getAsset u (.direct k), trivial, world_getAsset _ _ _⟩
  | cached c =>
    have hlist {n : LRUNode ByteString Asset} (hn : n ∈ (c.cache.fetch u.text).2.list) :
        n ∈ c.cache.list := (LRUCache.mem_fetch hhonest.coherent).mp hn
    have hkept (b : Backend) : AssetCache.Honest ⟨(c.cache.fetch u.text).2, b⟩ :=
      ⟨hhonest.coherent.fetch _ _, fun n hn => hhonest.keyed n (hlist hn)⟩
    have hprovides {b : Backend} (hb : Stores peers m b) :
        Provides peers m (.cached ⟨(c.cache.fetch u.text).2, b⟩) :=
      .withCache hb (hkept b) fun n hn => h.cached c rfl n (hlist hn)
    simp only [AsyncStorage.getAsset, AssetCache.getAsset]
    rcases hfetch : c.cache.fetch u.text with ⟨_ | asset, cache⟩
    · simp only [hfetch] at hkept hprovides
      refine ⟨hprovides (hstores.getAsset u.valid _), ?_, hkept _, world_getAsset _ _ _⟩
      exact hstores.adds_getAsset u (.asyncGetCompleted dontCache k)
    · simp only [hfetch] at hkept hprovides
      have hasset : (c.cache.fetch u.text).1 = some asset := congrArg Prod.fst hfetch
      have hknown : Known peers m asset := by
        obtain ⟨n, hn, -, rfl⟩ := (LRUCache.fetch_eq_some hhonest.coherent).mp hasset
        exact h.cached c rfl n hn
      refine ⟨hprovides (hstores.post fun a ha => Option.some.inj ha ▸ hknown), ?_, hkept _, rfl⟩
      exact adds_post (k := .direct k) (.hit _ (hhonest.fetch hasset) hknown)

lemma storeAsset (h : Provides peers m s) (a : ValidAsset) (k : Callback) :
    Provides peers m (s.storeAsset a.toAsset k) ∧
      Called s (s.storeAsset a.toAsset k) k (Puts m a) := by
  have hhonest := h.honest
  have hstores := h.stores
  cases s with
  | disk b =>
    exact ⟨.disk (hstores.storeAsset a nofun),
      hstores.adds_storeAsset a (.direct k), trivial, world_storeAsset _ _ _⟩
  | cached c =>
    have hput (a' : Asset) (k' : Callback) (hk : CacheCallback.asyncPutCompleted a.toAsset k =
        .asyncPutCompleted a' k') : a' = a.toAsset := by
      cases hk
      rfl
    exact ⟨.withCache (hstores.storeAsset a hput) ⟨hhonest.coherent, hhonest.keyed⟩
        (h.cached c rfl),
      hstores.adds_storeAsset a (.asyncPutCompleted a.toAsset k),
      ⟨hhonest.coherent, hhonest.keyed⟩, world_storeAsset _ _ _⟩

/-- A callback is run. -/
lemma runHandler (h : Provides peers m s) {i : ℕ} {call : Option (Callback × Completion)}
    (hrun : s.runHandler i = some (s', call)) : Provides peers m s' := by
  have hhonest := h.honest
  have hstores := h.stores
  cases s with
  | disk b =>
    obtain ⟨⟨b', call'⟩, hb, heq⟩ := Option.map_eq_some_iff.mp hrun
    cases heq
    exact .disk (hstores.runHandler hb).1
  | cached c =>
    obtain ⟨⟨b', call'⟩, hb, heq⟩ := Option.map_eq_some_iff.mp hrun
    obtain ⟨hb', k, completion, rfl, hgives⟩ := hstores.runHandler hb
    cases heq
    have hkept : AssetCache.Honest { c with persistentStorage := b' } :=
      ⟨hhonest.coherent, hhonest.keyed⟩
    refine .withCache ?_ (hkept.completed k completion)
      (known_completed hkept (h.cached c rfl) hgives)
    rwa [AssetCache.persistentStorage_completed]

/-- A server that is started for the first time. -/
lemma new (cacheSize : Option UInt64) :
    Provides peers (fun _ => none) (AssetServer.new cacheSize).storage := by
  cases cacheSize with
  | none => exact .disk stores_empty
  | some n =>
    exact .withCache stores_empty (AssetCache.honest_new _ _) fun _ hn =>
      absurd hn List.not_mem_nil

/-- The process is started again, with an empty cache. -/
lemma restart {t t' : AssetServer} (h : Provides peers m t.storage)
    (hstep : t.restart t.storage.backend.world = some t') : Provides peers m t'.storage := by
  obtain ⟨index, hload, rfl⟩ := Option.map_eq_some_iff.mp hstep
  have hstores := h.stores.restart hload
  cases hstorage : t.storage with
  | disk b =>
    simp only [hstorage] at hstores ⊢
    exact .disk hstores
  | cached c =>
    simp only [hstorage] at hstores ⊢
    exact .withCache hstores (AssetCache.honest_new _ _) fun _ hn => absurd hn List.not_mem_nil

end Provides

end AssetServer

end Whip
