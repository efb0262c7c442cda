import Whip.Server.AssetServer
import Whip.Storage.Purge
import Whip.Storage.Rounds

/-!
# Who is waiting for the storage

A call on the storage leaves a token: the callback, with the request that is waiting for the worker
or with the completion that is waiting for the io thread. This module says what each step does to
the tokens. Tokens are kept up to order.
-/

namespace Whip

/-- The callback of a request, if anybody is to be told. -/
def AssetRequest.callback {κ : Type} : AssetRequest κ → Option κ
  | .get _ k | .put _ k | .purge _ k | .collectStatus k | .getStoredAssetIds _ k => some k
  | .purgeLocals _ | .deleteLocalStorage _ => none

namespace AssetServer

abbrev Backend := VFSBackend (CacheCallback Callback)

/-- How far a call has come. -/
inductive Work
  | asked (request : AssetRequest (CacheCallback Callback))
  | answered (completion : Completion)

abbrev Token := Callback × Work

def requestToken (req : AssetRequest (CacheCallback Callback)) : Option Token :=
  req.callback.map fun k => (k.callBack, .asked req)

def handlerToken : Handler (CacheCallback Callback) → Option Token
  | .callback k completion => some (k.callBack, .answered completion)
  | _                      => none

def tokens (b : Backend) : List Token :=
  b.pending.filterMap requestToken ++ b.posted.filterMap handlerToken

/-! ### Calls -/

section Calls

variable {b b' : Backend}

lemma tokens_enqueue (req : AssetRequest (CacheCallback Callback)) :
    (tokens (b.enqueue req)).Perm (tokens b ++ (requestToken req).toList) := by
  have hpending : (b.enqueue req).pending = b.pending ++ [req] := by
    simp [VFSBackend.pending, VFSBackend.enqueue]
  have hreq : [req].filterMap requestToken = (requestToken req).toList := by
    cases h : requestToken req <;> simp [h]
  rw [tokens, hpending, List.filterMap_append, hreq, tokens, List.append_assoc, List.append_assoc]
  exact List.perm_append_comm.append_left _

lemma tokens_enqueue_none {req : AssetRequest (CacheCallback Callback)}
    (hreq : req.callback = none) : (tokens (b.enqueue req)).Perm (tokens b) := by
  have hperm := tokens_enqueue (b := b) req
  rwa [requestToken, hreq, Option.map_none, Option.toList_none, List.append_nil] at hperm

lemma tokens_post (hs : List (Handler (CacheCallback Callback))) :
    tokens (b.post hs) = tokens b ++ hs.filterMap handlerToken := by
  simp [tokens, VFSBackend.post, VFSBackend.pending]

/-- A call that leaves one token. -/
def Adds (b b' : Backend) (k : Callback) (P : Work → Prop) : Prop :=
  ∃ w, (tokens b').Perm (tokens b ++ [(k, w)]) ∧ P w

lemma adds_enqueue {req : AssetRequest (CacheCallback Callback)} {k : CacheCallback Callback}
    (hreq : req.callback = some k) {P : Work → Prop} (hP : P (.asked req)) :
    Adds b (b.enqueue req) k.callBack P := by
  have htoken : requestToken req = some (k.callBack, .asked req) := by simp [requestToken, hreq]
  have hperm := tokens_enqueue (b := b) req
  rw [htoken] at hperm
  exact ⟨_, hperm, hP⟩

lemma adds_post {k : CacheCallback Callback} {completion : Completion} {P : Work → Prop}
    (hP : P (.answered completion)) : Adds b (b.post [.callback k completion]) k.callBack P :=
  ⟨_, by rw [tokens_post]; exact .refl _, hP⟩

lemma adds_getAsset (uuid : ByteString) (k : CacheCallback Callback) {P : Work → Prop}
    (hasked : P (.asked (.get uuid k)))
    (hmissed : ∀ error, P (.answered (.got none false error))) :
    Adds b (b.getAsset uuid k) k.callBack P := by
  unfold VFSBackend.getAsset
  split_ifs
  · exact adds_post (hmissed _)
  · exact adds_enqueue rfl hasked

lemma adds_storeAsset (asset : Asset) (k : CacheCallback Callback) {P : Work → Prop}
    (hasked : P (.asked (.put asset k)))
    (hrefused : ∀ error, P (.answered (.stored false error))) :
    Adds b (b.storeAsset asset k) k.callBack P := by
  unfold VFSBackend.storeAsset
  split_ifs
  · exact adds_post (hrefused _)
  · exact adds_enqueue rfl hasked

end Calls

/-! ### The worker and the io thread -/

section Worker

variable {b b' : Backend}

lemma tokens_dequeue (h : b.dequeue = some b') : tokens b' = tokens b := by
  unfold VFSBackend.dequeue at h
  split at h
  · next req rest hcur hqueue =>
    cases h
    simp [tokens, VFSBackend.pending, hcur, hqueue]
  · cases h

lemma world_dequeue (h : b.dequeue = some b') : b'.world = b.world := by
  unfold VFSBackend.dequeue at h
  split at h
  · cases h
    rfl
  · cases h

/-- The token of the request that the worker is through with is replaced. -/
lemma tokens_processed {req : AssetRequest (CacheCallback Callback)} (hcur : b.current = some req)
    (w : World) (hs : List (Handler (CacheCallback Callback))) :
    ∃ rest, tokens b = (requestToken req).toList ++ rest ∧
      tokens { b with world := w, current := none, posted := b.posted ++ hs } =
        rest ++ hs.filterMap handlerToken := by
  refine ⟨b.workQueue.filterMap requestToken ++ b.posted.filterMap handlerToken, ?_, ?_⟩
  · cases h : requestToken req <;> simp [tokens, VFSBackend.pending, hcur, h]
  · simp [tokens, VFSBackend.pending]

/-- The token of a posted handler is taken out. -/
lemma tokens_handler {i : ℕ} {h : Handler (CacheCallback Callback)} (hi : b.posted[i]? = some h) :
    (tokens b).Perm
      ((handlerToken h).toList ++ tokens { b with posted := b.posted.eraseIdx i }) := by
  have hperm := (VFSBackend.posted_perm hi).symm.filterMap handlerToken
  have hcons : (h :: b.posted.eraseIdx i).filterMap handlerToken =
      (handlerToken h).toList ++ (b.posted.eraseIdx i).filterMap handlerToken := by
    cases htoken : handlerToken h <;> simp [htoken]
  rw [hcons] at hperm
  have hpending : ({ b with posted := b.posted.eraseIdx i } : Backend).pending = b.pending := rfl
  rw [tokens, tokens, hpending]
  refine (hperm.append_left _).trans ?_
  rw [← List.append_assoc, ← List.append_assoc]
  exact List.perm_append_comm.append_right _

/-- A posted handler runs: a callback takes its token with it, the others have none. -/
lemma tokens_runHandler {i : ℕ} {call : Option (CacheCallback Callback × Completion)}
    (hrun : b.runHandler i = some (b', call)) :
    (tokens b).Perm ((call.map fun p => (p.1.callBack, .answered p.2)).toList ++ tokens b') ∧
      b'.world = b.world := by
  unfold VFSBackend.runHandler at hrun
  split at hrun
  · cases hrun
  · next h hi =>
    have hperm := tokens_handler hi
    cases h with
    | callback k r | ioLoopFailed why =>
      cases hrun
      exact ⟨hperm, rfl⟩
    | assetWriteFailed uuid why =>
      cases hrun
      unfold VFSBackend.assetWriteFailed
      split <;> exact ⟨hperm, rfl⟩
    | unindexLocals ids head =>
      cases hrun
      exact ⟨hperm.trans (tokens_enqueue_none rfl).symm, rfl⟩

/-- A tick of the purge timer. -/
lemma tokens_onPurgeTimer (b : Backend) : (tokens b.onPurgeTimer).Perm (tokens b) :=
  tokens_enqueue_none rfl

end Worker

/-! ### The storage, with or without a cache -/

section Storage

variable {s s' : AsyncStorage Callback} {P : Work → Prop}

/-- A call on the storage that leaves one token. -/
structure Called (s s' : AsyncStorage Callback) (k : Callback) (P : Work → Prop) : Prop where
  adds : Adds s.backend s'.backend k P
  honest : s'.Honest
  world : s'.backend.world = s.backend.world

lemma world_getAsset (b : Backend) (uuid : ByteString) (k : CacheCallback Callback) :
    (b.getAsset uuid k).world = b.world := by
  unfold VFSBackend.getAsset
  split_ifs <;> rfl

lemma world_storeAsset (b : Backend) (asset : Asset) (k : CacheCallback Callback) :
    (b.storeAsset asset k).world = b.world := by
  unfold VFSBackend.storeAsset
  split_ifs <;> rfl

/-- A request that is passed on to the worker. -/
lemma called_enqueue (h : s.Honest) {req : AssetRequest (CacheCallback Callback)}
    {k : CacheCallback Callback} (hreq : req.callback = some k) (hP : P (.asked req)) :
    Called s (s.mapBackend (·.enqueue req)) k.callBack P where
  adds := by
    rw [AsyncStorage.backend_mapBackend]
    exact adds_enqueue hreq hP
  honest := h.mapBackend _
  world := by rw [AsyncStorage.backend_mapBackend]; rfl

lemma called_getAsset (h : s.Honest) (uuid : ByteString) (dontCache : Bool) (k : Callback)
    (hasked : ∀ k', P (.asked (.get uuid k')))
    (hgot : ∀ asset success error, (∀ a, asset = some a → a.getUUID = uuid) →
      P (.answered (.got asset success error))) :
    Called s (s.getAsset uuid dontCache k) k P := by
  have hmissed := fun error => hgot none false error nofun
  cases s with
  | disk b =>
    exact ⟨adds_getAsset uuid (.direct k) (hasked _) hmissed, trivial, world_getAsset _ _ _⟩
  | cached c =>
    show Called _ (.cached (c.getAsset uuid dontCache k)) k P
    have hcoherent := h.coherent.fetch uuid true
    have hkeyed : ∀ n ∈ (c.cache.fetch uuid).2.list, n.data.getUUID = n.key := fun n hn =>
      h.keyed n ((LRUCache.mem_fetch h.coherent).mp hn)
    have hhit := fun asset (hasset : (c.cache.fetch uuid).1 = some asset) => h.fetch hasset
    unfold AssetCache.getAsset
    revert hcoherent hkeyed hhit
    rcases c.cache.fetch uuid with ⟨_ | asset, cache⟩
    · intro hcoherent hkeyed _
      exact ⟨adds_getAsset uuid _ (hasked _) hmissed, ⟨hcoherent, hkeyed⟩, world_getAsset _ _ _⟩
    · intro hcoherent hkeyed hhit
      refine ⟨adds_post (k := .direct k) (hgot _ _ _ fun a ha => ?_), ⟨hcoherent, hkeyed⟩, rfl⟩
      exact Option.some.inj ha ▸ hhit asset rfl

lemma called_storeAsset (h : s.Honest) (asset : Asset) (k : Callback)
    (hasked : ∀ k', P (.asked (.put asset k')))
    (hstored : ∀ success error, P (.answered (.stored success error))) :
    Called s (s.storeAsset asset k) k P := by
  cases s with
  | disk b =>
    exact ⟨adds_storeAsset asset (.direct k) (hasked _) fun _ => hstored _ _, trivial,
      world_storeAsset _ _ _⟩
  | cached c =>
    exact ⟨adds_storeAsset asset (.asyncPutCompleted asset k) (hasked _) fun _ => hstored _ _,
      ⟨h.coherent, h.keyed⟩, world_storeAsset _ _ _⟩

/-- A purge is queued, where it is done at all. -/
lemma called_purgeAsset (h : s.Honest) (uuid : ByteString) (k : Callback)
    (hasked : ∀ k', P (.asked (.purge uuid k'))) :
    Called s (s.purgeAsset uuid k) k P ∨ s.purgeAsset uuid k = s := by
  cases s with
  | disk b => exact .inl (called_enqueue (s := .disk b) h (k := .direct k) rfl (hasked _))
  | cached c => exact .inr rfl

lemma storage_runHandler (h : s.Honest) {i : ℕ} {call : Option (Callback × Completion)}
    (hrun : s.runHandler i = some (s', call)) :
    (tokens s.backend).Perm ((call.map fun p => (p.1, .answered p.2)).toList ++ tokens s'.backend) ∧
      s'.backend.world = s.backend.world ∧ s'.Honest := by
  cases s with
  | disk b =>
    obtain ⟨⟨b', call⟩, hb', heq⟩ := Option.map_eq_some_iff.mp hrun
    cases heq
    obtain ⟨hperm, hworld⟩ := tokens_runHandler hb'
    rw [Option.map_map]
    exact ⟨hperm, hworld, trivial⟩
  | cached c =>
    obtain ⟨⟨b', call⟩, hrun, heq⟩ := Option.map_eq_some_iff.mp hrun
    obtain ⟨hperm, hworld⟩ := tokens_runHandler hrun
    have hkept : AssetCache.Honest { c with persistentStorage := b' } := ⟨h.coherent, h.keyed⟩
    cases call with
    | none =>
      cases heq
      exact ⟨hperm, hworld, hkept⟩
    | some p =>
      obtain ⟨k, r⟩ := p
      cases heq
      have hbackend : (AsyncStorage.cached
          (AssetCache.completed { c with persistentStorage := b' } k r)).backend = b' := by
        unfold AssetCache.completed
        split <;> rfl
      rw [hbackend]
      exact ⟨hperm, hworld, hkept.completed k r⟩

end Storage

end AssetServer

end Whip
