import Whip.Storage.Requests

/-!
# Callbacks are passed through

The backend stores callbacks and hands them back, and never looks at them. `VFSBackend.relabel`
replaces every callback by its image under a function; each operation commutes with it, so that what
is known about callbacks of one kind carries over to any other.
-/

namespace Whip

variable {κ κ' : Type} (f : κ → κ')

def AssetRequest.relabel : AssetRequest κ → AssetRequest κ'
  | .get assetId callback          => .get assetId (f callback)
  | .put asset callback            => .put asset (f callback)
  | .purge assetId callback        => .purge assetId (f callback)
  | .purgeLocals uuidHead          => .purgeLocals uuidHead
  | .deleteLocalStorage uuidPrefix => .deleteLocalStorage uuidPrefix
  | .collectStatus callback        => .collectStatus (f callback)
  | .getStoredAssetIds head callback => .getStoredAssetIds head (f callback)

def Handler.relabel : Handler κ → Handler κ'
  | .callback k result               => .callback (f k) result
  | .assetWriteFailed assetId reason => .assetWriteFailed assetId reason
  | .ioLoopFailed reason             => .ioLoopFailed reason
  | .unindexLocals uuidList uuidHead => .unindexLocals uuidList uuidHead

namespace VFSBackend

def relabel (s : VFSBackend κ) : VFSBackend κ' where
  world := s.world
  existenceIndex := s.existenceIndex
  workQueue := s.workQueue.map (·.relabel f)
  current := s.current.map (·.relabel f)
  posted := s.posted.map (·.relabel f)
  isPurgingLocals := s.isPurgingLocals
  currentLocalsPurgeIndex := s.currentLocalsPurgeIndex

variable (s : VFSBackend κ)

@[simp] lemma relabel_post (hs : List (Handler κ)) :
    (s.post hs).relabel f = (s.relabel f).post (hs.map (·.relabel f)) := by
  simp [relabel, post]

@[simp] lemma relabel_enqueue (req : AssetRequest κ) :
    (s.enqueue req).relabel f = (s.relabel f).enqueue (req.relabel f) := by
  simp [relabel, enqueue]

lemma relabel_getAsset (uuid : ByteString) (callBack : κ) :
    (s.getAsset uuid callBack).relabel f = (s.relabel f).getAsset uuid (f callBack) := by
  unfold getAsset
  split <;> simp_all [relabel, post, enqueue, Handler.relabel, AssetRequest.relabel]

lemma relabel_storeAsset (asset : Asset) (callBack : κ) :
    (s.storeAsset asset callBack).relabel f = (s.relabel f).storeAsset asset (f callBack) := by
  unfold storeAsset
  split <;> simp_all [relabel, post, enqueue, Handler.relabel, AssetRequest.relabel]

lemma map_tryCatch {α β : Type} (g : α → β) (x : VfsM α) (h : Exn → VfsM α) :
    g <$> tryCatch x h = tryCatch (g <$> x) fun e => g <$> h e := by
  funext w
  show EStateM.map g (EStateM.tryCatch x h) w =
    EStateM.tryCatch (EStateM.map g x) (fun e => EStateM.map g (h e)) w
  simp only [EStateM.map, EStateM.tryCatch]
  cases x w <;> rfl

/-- The handlers that are posted carry the callback of the request. -/
lemma processRequest_relabel (req : AssetRequest κ) :
    processRequest (req.relabel f) = (·.map (·.relabel f)) <$> processRequest req := by
  cases req with
  | get assetId callback =>
    simp only [AssetRequest.relabel, processRequest, performDiskRead, map_tryCatch, map_bind]
    congr 1
    · congr 1
      funext found
      cases found <;> rfl
    · funext e
      cases e <;> rfl
  | put asset callback =>
    simp only [AssetRequest.relabel, processRequest, performDiskWrite, map_tryCatch, map_bind]
    congr 1
    funext e
    cases e <;> rfl
  | purge assetId callback => rfl
  | purgeLocals uuidHead =>
    simp only [AssetRequest.relabel, processRequest, performDiskPurgeLocals, map_bind]
    congr 1
    funext found
    cases found <;> simp [Handler.relabel]
  | deleteLocalStorage uuidPrefix =>
    simp [AssetRequest.relabel, processRequest, performLocalsPhysicalDeletion]
  | collectStatus callback => rfl
  | getStoredAssetIds head callback =>
    simp only [AssetRequest.relabel, processRequest, performGetStoredAssetIds, map_bind]
    congr 1
    funext found
    cases found <;> simp [Handler.relabel]

lemma workLoop_relabel (req : AssetRequest κ) :
    workLoop (req.relabel f) = (·.map (·.relabel f)) <$> workLoop req := by
  simp only [workLoop, processRequest_relabel, map_tryCatch]
  congr 1
  funext e
  cases e <;> rfl

lemma relabel_dequeue : s.dequeue.map (·.relabel f) = (s.relabel f).dequeue := by
  unfold dequeue
  cases hcur : s.current <;> cases hqueue : s.workQueue <;> simp [relabel, hcur, hqueue]

lemma relabel_process (calls : List Call) :
    (s.process calls).map (·.relabel f) = (s.relabel f).process calls := by
  unfold process
  cases hcur : s.current with
  | none => simp [relabel, hcur]
  | some req =>
    have hrel : (s.relabel f).current = some (req.relabel f) := by simp [relabel, hcur]
    rw [hrel]
    have hmap (w : World) : ((·.map (·.relabel f)) <$> workLoop req) w =
        EStateM.map (·.map (·.relabel f)) (workLoop req) w := rfl
    simp only [workLoop_relabel, hmap, EStateM.map]
    cases hw : workLoop req { s.world with calls := calls } with
    | ok hs w => simp [relabel, hw]
    | error e w => simp [relabel, hw]

lemma relabel_runHandler (i : ℕ) :
    (s.runHandler i).map (fun (b, call) => (b.relabel f, call.map fun (k, r) => (f k, r))) =
      (s.relabel f).runHandler i := by
  unfold runHandler
  cases hi : s.posted[i]? with
  | none => simp [relabel, hi]
  | some h =>
    have hrel : (s.relabel f).posted[i]? = some (h.relabel f) := by simp [relabel, hi]
    rw [hrel]
    cases h with
    | callback k r => simp [relabel, Handler.relabel, List.eraseIdx_map]
    | assetWriteFailed id reason =>
      simp only [Handler.relabel, assetWriteFailed]
      cases Uuid.parse id <;> simp [relabel, List.eraseIdx_map]
    | ioLoopFailed reason => simp [relabel, Handler.relabel, List.eraseIdx_map]
    | unindexLocals ids head =>
      simp [relabel, Handler.relabel, List.eraseIdx_map, unindexLocals, enqueue,
        AssetRequest.relabel]

/-! ### Callbacks in flight -/

end VFSBackend

def AssetRequest.callback? : AssetRequest κ → Option κ
  | .get _ k | .put _ k | .purge _ k | .collectStatus k | .getStoredAssetIds _ k => some k
  | .purgeLocals _ | .deleteLocalStorage _ => none

def Handler.callback? : Handler κ → Option κ
  | .callback k _ => some k
  | _             => none

/-- A request is one without a callback, with its callback put in. -/
lemma AssetRequest.exists_relabel (req : AssetRequest κ) :
    (∃ k, req.callback? = some k ∧
      req = (req.relabel fun _ => ()).relabel fun _ => k) ∨
    ∃ req' : AssetRequest Empty, req = req'.relabel Empty.elim := by
  cases req with
  | purgeLocals head => exact .inr ⟨.purgeLocals head, rfl⟩
  | deleteLocalStorage head => exact .inr ⟨.deleteLocalStorage head, rfl⟩
  | _ => exact .inl ⟨_, rfl, rfl⟩

lemma Handler.callback?_relabel (h : Handler κ) : (h.relabel f).callback? = h.callback?.map f := by
  cases h <;> rfl

namespace VFSBackend

/-- The callbacks that have not been called yet. -/
def callbacks (s : VFSBackend κ) : List κ :=
  (s.current.toList ++ s.workQueue).filterMap (·.callback?) ++ s.posted.filterMap (·.callback?)

/-- A round of the worker posts no callback but that of its request. -/
lemma callback_of_workLoop {req : AssetRequest κ} {w w' : World} {hs : List (Handler κ)}
    (hok : workLoop req w = .ok hs w') {h : Handler κ} (hh : h ∈ hs) {k : κ}
    (hk : h.callback? = some k) : req.callback? = some k := by
  have hmap {ι : Type} {g : ι → κ} {req' : AssetRequest ι} (hreq : req = req'.relabel g) :
      ∃ hs' : List (Handler ι), hs = hs'.map (·.relabel g) := by
    rw [hreq, workLoop_relabel] at hok
    have hmapped : EStateM.map (·.map (·.relabel g)) (workLoop req') w = .ok hs w' := hok
    rw [EStateM.map] at hmapped
    split at hmapped
    · cases hmapped
      exact ⟨_, rfl⟩
    · cases hmapped
  obtain ⟨k', hk', hreq⟩ | ⟨req', hreq⟩ := req.exists_relabel
  · obtain ⟨hs', rfl⟩ := hmap hreq
    obtain ⟨h', -, rfl⟩ := List.mem_map.mp hh
    obtain ⟨-, -, rfl⟩ := Option.map_eq_some_iff.mp ((Handler.callback?_relabel _ h').symm.trans hk)
    exact hk'
  · obtain ⟨hs', rfl⟩ := hmap hreq
    obtain ⟨h', -, rfl⟩ := List.mem_map.mp hh
    obtain ⟨x, -, -⟩ := Option.map_eq_some_iff.mp ((Handler.callback?_relabel _ h').symm.trans hk)
    exact x.elim

variable {s s' : VFSBackend κ} {k : κ}

lemma mem_callbacks_post {h : Handler κ} :
    k ∈ (s.post [h]).callbacks ↔ k ∈ s.callbacks ∨ h.callback? = some k := by
  simp [callbacks, post, or_assoc]

lemma mem_callbacks_enqueue {req : AssetRequest κ} :
    k ∈ (s.enqueue req).callbacks ↔ k ∈ s.callbacks ∨ req.callback? = some k := by
  simp only [callbacks, enqueue, List.filterMap_append, List.mem_append, List.mem_filterMap,
    List.mem_singleton, exists_eq_left, or_assoc]
  rw [or_comm (a := req.callback? = some k)]

lemma callbacks_getAsset {uuid : ByteString} {callBack : κ}
    (hk : k ∈ (s.getAsset uuid callBack).callbacks) : k ∈ s.callbacks ∨ callBack = k := by
  unfold getAsset at hk
  split at hk
  · exact (mem_callbacks_post.mp hk).imp_right Option.some.inj
  · exact (mem_callbacks_enqueue.mp hk).imp_right Option.some.inj

lemma callbacks_storeAsset {asset : Asset} {callBack : κ}
    (hk : k ∈ (s.storeAsset asset callBack).callbacks) : k ∈ s.callbacks ∨ callBack = k := by
  unfold storeAsset at hk
  split at hk
  · exact (mem_callbacks_post.mp hk).imp_right Option.some.inj
  · exact (mem_callbacks_enqueue.mp hk).imp_right Option.some.inj

lemma callbacks_dequeue (hs : s.dequeue = some s') : s'.callbacks = s.callbacks := by
  unfold dequeue at hs
  split at hs
  · next req rest hcur hqueue =>
    cases hs
    simp [callbacks, hcur, hqueue]
  · cases hs

lemma callbacks_process {calls : List Call} (hs : s.process calls = some s')
    (hk : k ∈ s'.callbacks) : k ∈ s.callbacks := by
  unfold process at hs
  split at hs
  · cases hs
  · next req hcur =>
    split at hs
    · next posted w hok =>
      cases hs
      simp only [callbacks, Option.toList_none, List.nil_append, List.filterMap_append,
        List.mem_append] at hk
      rcases hk with hk | hk | hk
      · exact List.mem_append_left _ (by simp [List.mem_filterMap.mp hk])
      · exact List.mem_append_right _ hk
      · obtain ⟨h, hh, hk⟩ := List.mem_filterMap.mp hk
        have hreq := callback_of_workLoop hok hh hk
        simp [callbacks, hcur, hreq]
    · cases hs

lemma callbacks_runHandler {i : ℕ} {call : Option (κ × Completion)}
    (hs : s.runHandler i = some (s', call)) :
    (∀ k ∈ s'.callbacks, k ∈ s.callbacks) ∧ ∀ p ∈ call, p.1 ∈ s.callbacks := by
  unfold runHandler at hs
  split at hs
  · cases hs
  · next h hi =>
    have hrest {k : κ} (hk : k ∈ callbacks { s with posted := s.posted.eraseIdx i }) :
        k ∈ s.callbacks := by
      refine (List.mem_append.mp hk).elim (List.mem_append_left _) fun hk => ?_
      refine List.mem_append_right _ (List.mem_filterMap.mpr ?_)
      obtain ⟨h', hh', hk⟩ := List.mem_filterMap.mp hk
      exact ⟨h', List.mem_of_mem_eraseIdx hh', hk⟩
    dsimp only at hs
    split at hs <;> cases hs
    · refine ⟨fun k => hrest, fun p hp => ?_⟩
      obtain rfl := Option.some.inj hp
      exact List.mem_append_right _ (List.mem_filterMap.mpr ⟨_, List.mem_of_getElem? hi, rfl⟩)
    · refine ⟨fun k hk => hrest ?_, by simp⟩
      unfold assetWriteFailed at hk
      split at hk <;> exact hk
    · exact ⟨fun k => hrest, by simp⟩
    · refine ⟨fun k hk => hrest ?_, by simp⟩
      exact (mem_callbacks_enqueue.mp hk).resolve_right (by simp [AssetRequest.callback?])

end VFSBackend

end Whip
