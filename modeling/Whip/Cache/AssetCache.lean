import Whip.Cache.LRUCache
import Whip.Storage.Backend

/-!
# The asset cache

`AssetCache` stands in front of the persistent storage and keeps assets in memory. A get that hits
is answered by a posted callback; everything else goes through to the storage, with callbacks that
insert what comes back.

`AsyncStorage` is what the server sees: the backend itself, or the backend behind a cache.
-/

namespace Whip

def AssetSizeCalculator.TOTAL_OVERHEAD : ℕ := 40

/-- Sizes are added in 32 bits, and the sum is kept in 64. -/
def AssetSizeCalculator : SizeCalculator Asset where
  onAdd n item :=
    n + UInt64.ofNat ((item.data.length + AssetSizeCalculator.TOTAL_OVERHEAD) % 2 ^ 32)
  onRemove n item :=
    n - UInt64.ofNat ((item.data.length + AssetSizeCalculator.TOTAL_OVERHEAD) % 2 ^ 32)

/-- The callbacks that the cache binds for the persistent storage. -/
inductive CacheCallback (κ : Type)
  | asyncGetCompleted (dontCache : Bool) (callBack : κ)
  | asyncPutCompleted (asset : Asset) (callBack : κ)
  | direct (callBack : κ)
deriving DecidableEq

/-- The caller's callback. -/
def CacheCallback.callBack {κ : Type} : CacheCallback κ → κ
  | asyncGetCompleted _ k | asyncPutCompleted _ k | direct k => k

/-- The cache and the storage share the io thread, so the handlers that either posts are kept with
the storage. -/
structure AssetCache (κ : Type) where
  cache : LRUCache ByteString Asset
  persistentStorage : VFSBackend (CacheCallback κ)

namespace AssetCache

variable {κ : Type}

/-- An empty cache. -/
def new (maxCacheSize : UInt64) (persistentStorage : VFSBackend (CacheCallback κ)) :
    AssetCache κ where
  cache := { calculator := AssetSizeCalculator, maxSize := maxCacheSize }
  persistentStorage := persistentStorage

def inform (c : AssetCache κ) (asset : Asset) : AssetCache κ :=
  { c with cache := c.cache.insert asset.getUUID asset }

def getAsset (c : AssetCache κ) (uuid : ByteString) (dontCache : Bool) (callBack : κ) :
    AssetCache κ :=
  match c.cache.fetch uuid with
  | (some asset, cache) =>
    { c with
      cache := cache
      persistentStorage :=
        c.persistentStorage.post [.callback (.direct callBack) (.got (some asset) true none)] }
  | (none, cache) =>
    { c with
      cache := cache
      persistentStorage :=
        c.persistentStorage.getAsset uuid (.asyncGetCompleted dontCache callBack) }

def storeAsset (c : AssetCache κ) (asset : Asset) (callBack : κ) : AssetCache κ :=
  { c with persistentStorage :=
    c.persistentStorage.storeAsset asset (.asyncPutCompleted asset callBack) }

/-- Nothing is done, and nobody is told. -/
def purgeAsset (c : AssetCache κ) (_uuid : ByteString) (_callBack : κ) : AssetCache κ := c

def assetExists (c : AssetCache κ) (uuid : ByteString) : Bool :=
  c.cache.existsKey uuid || ExistenceIndex.assetExists c.persistentStorage.existenceIndex uuid

/-- The cache's own callbacks run, and hand over the caller's. -/
def completed (c : AssetCache κ) : CacheCallback κ → Completion → AssetCache κ
  | .asyncGetCompleted false _, .got (some asset) true _ => c.inform asset
  | .asyncPutCompleted asset _, .stored true _           => c.inform asset
  | _, _                                                 => c

/-- Each entry of the cache is kept under its own identifier. -/
structure Honest (c : AssetCache κ) : Prop where
  coherent : c.cache.Coherent
  keyed : ∀ n ∈ c.cache.list, n.data.getUUID = n.key

lemma honest_new (maxCacheSize : UInt64) (b : VFSBackend (CacheCallback κ)) :
    (new maxCacheSize b).Honest :=
  ⟨LRUCache.coherent_empty _ _, nofun⟩

lemma Honest.inform {c : AssetCache κ} (h : c.Honest) (asset : Asset) :
    (c.inform asset).Honest := by
  refine ⟨h.coherent.insert _ _, fun n hn => ?_⟩
  obtain ⟨hkey, hdata⟩ | ⟨hn, -⟩ := LRUCache.mem_insert h.coherent hn
  · rw [hdata, hkey]
  · exact h.keyed n hn

lemma Honest.completed {c : AssetCache κ} (h : c.Honest) (k : CacheCallback κ) (r : Completion) :
    (c.completed k r).Honest := by
  unfold AssetCache.completed
  split
  · exact h.inform _
  · exact h.inform _
  · exact h

/-- What the cache holds for an identifier has this identifier. -/
lemma Honest.fetch {c : AssetCache κ} (h : c.Honest) {uuid : ByteString} {asset : Asset}
    (hasset : (c.cache.fetch uuid).1 = some asset) : asset.getUUID = uuid := by
  obtain ⟨n, hn, hkey, rfl⟩ := (LRUCache.fetch_eq_some h.coherent).mp hasset
  exact (h.keyed n hn).trans hkey

end AssetCache

/-- An `IAsyncStorageBackend`. -/
inductive AsyncStorage (κ : Type)
  | disk (backend : VFSBackend (CacheCallback κ))
  | cached (cache : AssetCache κ)

namespace AsyncStorage

variable {κ : Type}

/-- The backend, with a cache in front of it or not. -/
def backend : AsyncStorage κ → VFSBackend (CacheCallback κ)
  | disk b   => b
  | cached c => c.persistentStorage

/-- The cache, if there is one, keeps its entries under their own identifiers. -/
def Honest : AsyncStorage κ → Prop
  | disk _   => True
  | cached c => c.Honest

/-- Something is done to the backend. -/
def mapBackend (s : AsyncStorage κ)
    (f : VFSBackend (CacheCallback κ) → VFSBackend (CacheCallback κ)) : AsyncStorage κ :=
  match s with
  | disk b   => disk (f b)
  | cached c => cached { c with persistentStorage := f c.persistentStorage }

@[simp] lemma backend_mapBackend (s : AsyncStorage κ)
    (f : VFSBackend (CacheCallback κ) → VFSBackend (CacheCallback κ)) :
    (s.mapBackend f).backend = f s.backend := by
  cases s <;> rfl

lemma Honest.mapBackend {s : AsyncStorage κ} (h : s.Honest)
    (f : VFSBackend (CacheCallback κ) → VFSBackend (CacheCallback κ)) :
    (s.mapBackend f).Honest := by
  cases s with
  | disk b => trivial
  | cached c => exact ⟨h.coherent, h.keyed⟩

def inform : AsyncStorage κ → Asset → AsyncStorage κ
  | disk b, _       => disk b
  | cached c, asset => cached (c.inform asset)

@[simp] lemma backend_inform (s : AsyncStorage κ) (asset : Asset) :
    (s.inform asset).backend = s.backend := by
  cases s <;> rfl

lemma Honest.inform {s : AsyncStorage κ} (h : s.Honest) (asset : Asset) :
    (s.inform asset).Honest := by
  cases s with
  | disk b => trivial
  | cached c => exact AssetCache.Honest.inform h asset

def getAsset (s : AsyncStorage κ) (uuid : ByteString) (dontCache : Bool) (callBack : κ) :
    AsyncStorage κ :=
  match s with
  | disk b   => disk (b.getAsset uuid (.direct callBack))
  | cached c => cached (c.getAsset uuid dontCache callBack)

def storeAsset (s : AsyncStorage κ) (asset : Asset) (callBack : κ) : AsyncStorage κ :=
  match s with
  | disk b   => disk (b.storeAsset asset (.direct callBack))
  | cached c => cached (c.storeAsset asset callBack)

def purgeAsset (s : AsyncStorage κ) (uuid : ByteString) (callBack : κ) : AsyncStorage κ :=
  match s with
  | disk b   => disk (b.purgeAsset uuid (.direct callBack))
  | cached c => cached (c.purgeAsset uuid callBack)

def assetExists : AsyncStorage κ → ByteString → Bool
  | disk b, uuid   => ExistenceIndex.assetExists b.existenceIndex uuid
  | cached c, uuid => c.assetExists uuid

def beginPurgeLocals (s : AsyncStorage κ) : AsyncStorage κ := s.mapBackend (·.beginPurgeLocals)

def getStatus (s : AsyncStorage κ) (completedCallback : κ) : AsyncStorage κ :=
  s.mapBackend (·.getStatus (.direct completedCallback))

def getStoredAssetIDsWithPrefix (s : AsyncStorage κ) (head : ByteString) (completedCallback : κ) :
    AsyncStorage κ :=
  s.mapBackend (·.getStoredAssetIDsWithPrefix head (.direct completedCallback))

/-- Run the `i`-th posted handler; the caller's callback, if it is one, is handed over. -/
def runHandler (s : AsyncStorage κ) (i : ℕ) : Option (AsyncStorage κ × Option (κ × Completion)) :=
  match s with
  | disk b =>
    (b.runHandler i).map fun (b, call) => (disk b, call.map fun (k, r) => (k.callBack, r))
  | cached c =>
    (c.persistentStorage.runHandler i).map fun (b, call) =>
      let c := { c with persistentStorage := b }
      match call with
      | none        => (cached c, none)
      | some (k, r) => (cached (c.completed k r), some (k.callBack, r))

end AsyncStorage

end Whip
