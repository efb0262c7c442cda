import Whip.Cache.AssetCache
import Whip.Storage.Refinement
import Whip.Storage.Relabel

/-!
# The cache is transparent

One thread submits calls to an `AsyncStorage`, a backend with or without a cache in front of it,
while the worker and the io thread go on as they like. Without purges and failures the results are
those of an insert-once map that is given the calls in order; so they do not depend on whether there
is a cache, how large it is, and what it evicts.

The backend's part of the argument is `Service.Refines`. What the cache adds is that its entries are
values of the map: a hit is then a lookup that is answered without being held back.
-/

namespace Whip

open InsertOnce

inductive StorageCall
  | getAsset (uuid : AssetId) (dontCache : Bool)
  | storeAsset (asset : ValidAsset)
  | assetExists (uuid : AssetId)

/-- What a call asks of the map. -/
def StorageCall.op : StorageCall → StorageOp
  | getAsset u _    => .lookup u
  | storeAsset a    => .insert a.id a
  | assetExists u   => .lookup u

/-- What a callback was called with, or what `assetExists` returned. -/
inductive StorageResult
  | called (completion : Completion)
  | returned (value : Bool)

/-- A storage, the calls submitted to it in order, and the results by the number of the call. -/
structure Submission where
  storage : AsyncStorage ℕ
  calls : List StorageCall := []
  results : List (ℕ × StorageResult) := []

namespace Submission

def submit (s : Submission) (call : StorageCall) : Submission :=
  let number := s.calls.length
  let s := { s with calls := s.calls ++ [call] }
  match call with
  | .getAsset u dontCache =>
    { s with storage := s.storage.getAsset u.text dontCache number }
  | .storeAsset a => { s with storage := s.storage.storeAsset a.toAsset number }
  | .assetExists u =>
    { s with results := s.results ++ [(number, .returned (s.storage.assetExists u.text))] }

inductive Event
  | submit (call : StorageCall)
  | dequeue
  | process
  | runHandler (i : ℕ)

def step (s : Submission) : Event → Option Submission
  | .submit call => some (s.submit call)
  | .dequeue =>
    s.storage.backend.dequeue.map fun b => { s with storage := s.storage.mapBackend fun _ => b }
  | .process =>
    (s.storage.backend.process []).map fun b =>
      { s with storage := s.storage.mapBackend fun _ => b }
  | .runHandler i =>
    (s.storage.runHandler i).map fun (storage, call) =>
      { s with
        storage := storage
        results := s.results ++ call.toList.map fun (k, r) => (k, .called r) }

end Submission

/-! ### The map on a disk -/

/-- Nothing is to be done, and disk and index agree on the map `m`. -/
structure VFSBackend.AtRest {κ : Type} (b : VFSBackend κ) (m : AssetId → Option ValidAsset) :
    Prop where
  workQueue : b.workQueue = []
  current : b.current = none
  posted : b.posted = []
  disk : DiskHolds b.world.disk m
  openTables : OpenTables b.world
  index : ∀ u : AssetId, u.toUuid ∈ b.existenceIndex ↔ (m u).isSome

/-- A disk holds finitely many assets, so its map is that of a history. -/
lemma DiskHolds.exists_history {k : Disk} {m : AssetId → Option ValidAsset} (h : DiskHolds k m) :
    ∃ history, Service.mapOf history = m := by
  let rows : List IndexRow := k.dirs.flatMap fun d => k.rows d .globals ++ k.rows d .locals
  let ids : List AssetId := rows.filterMap fun row =>
    if h : Validator.isValidUUID row.assetId = true then some ⟨row.assetId, h⟩ else none
  let history : List StorageOp := ids.filterMap fun u => (m u).map (.insert u)
  have hmem {u : AssetId} {a : ValidAsset} (hins : Op.insert u a ∈ history) : m u = some a := by
    obtain ⟨u', -, hop⟩ := List.mem_filterMap.mp hins
    obtain ⟨a', ha', heq⟩ := Option.map_eq_some_iff.mp hop
    cases heq
    exact ha'
  refine ⟨history, funext fun u => ?_⟩
  cases hm : m u with
  | none =>
    refine run_eq_none_iff.mpr fun a hins => ?_
    simp [hmem hins] at hm
  | some a =>
    obtain ⟨hd, row, hrow, f, -, ⟨hid, -, -⟩, -⟩ := h.row u a hm
    have hu : u ∈ ids := by
      refine List.mem_filterMap.mpr ⟨row, List.mem_flatMap.mpr ⟨_, hd, ?_⟩, ?_⟩
      · cases hb : VFSBackend.baseOf a.toAsset <;> simp [hb] at hrow <;> simp [hrow]
      · have htext : row.assetId = u.text := by rw [hid, ← h.key u a hm]; rfl
        rw [htext, dif_pos u.valid]
    obtain ⟨a', hfirst⟩ := exists_firstInsert (v := a)
      (List.mem_filterMap.mpr ⟨u, hu, by simp [hm]⟩ : Op.insert u a ∈ history)
    rw [Service.mapOf, run_eq_some_iff.mpr (.inr ⟨rfl, hfirst⟩), ← hm, hmem hfirst.mem]

/-! ### What the cache keeps -/

/-- What the cache inserts when this callback is called. -/
def CacheCallback.inserted {κ : Type} : CacheCallback κ → Completion → Option Asset
  | asyncGetCompleted false _, .got (some asset) true _ => some asset
  | asyncPutCompleted asset _, .stored true _           => some asset
  | _, _                                                => none

@[simp] lemma AssetCache.persistentStorage_completed {κ : Type} (c : AssetCache κ)
    (k : CacheCallback κ) (r : Completion) :
    (c.completed k r).persistentStorage = c.persistentStorage := by
  unfold AssetCache.completed
  split <;> rfl

/-- The entries of the cache are values of the map. -/
structure AssetCache.Keeps {κ : Type} (c : AssetCache κ) (m : AssetId → Option ValidAsset) : Prop
    extends c.Honest where
  value : ∀ n ∈ c.cache.list, ∃ a : ValidAsset, m a.id = some a ∧ a.toAsset = n.data

namespace AssetCache.Keeps

variable {κ : Type} {c : AssetCache κ} {m m' : AssetId → Option ValidAsset}

lemma entry (h : c.Keeps m) {n : LRUNode ByteString Asset} (hn : n ∈ c.cache.list) {u : AssetId}
    (hkey : n.key = u.text) : ∃ a, m u = some a ∧ a.toAsset = n.data := by
  obtain ⟨a, ha, hdata⟩ := h.value n hn
  have hid : a.id = u := by
    refine AssetId.ext ?_
    rw [ValidAsset.text_id, hdata, h.keyed n hn, hkey]
  exact ⟨a, hid ▸ ha, hdata⟩

lemma inform (h : c.Keeps m) {a : ValidAsset} (ha : m a.id = some a) :
    (c.inform a.toAsset).Keeps m := by
  refine ⟨h.toHonest.inform _, fun n hn => ?_⟩
  obtain ⟨-, hdata⟩ | ⟨hn, -⟩ := LRUCache.mem_insert h.coherent hn
  · exact ⟨a, ha, hdata.symm⟩
  · exact h.value n hn

lemma completed (h : c.Keeps m) {k : CacheCallback κ} {r : Completion}
    (hm : ∀ asset ∈ k.inserted r, ∃ a : ValidAsset, m a.id = some a ∧ a.toAsset = asset) :
    (c.completed k r).Keeps m := by
  unfold AssetCache.completed
  split
  · obtain ⟨a, ha, rfl⟩ := hm _ rfl
    exact h.inform ha
  · obtain ⟨a, ha, rfl⟩ := hm _ rfl
    exact h.inform ha
  · exact h

lemma of_backend (h : c.Keeps m) (b : VFSBackend (CacheCallback κ)) :
    AssetCache.Keeps { c with persistentStorage := b } m :=
  ⟨⟨h.coherent, h.keyed⟩, h.value⟩

end AssetCache.Keeps

namespace AsyncStorage

variable {κ : Type} {s s' : AsyncStorage κ} {m m' : AssetId → Option ValidAsset}

def Keeps : AsyncStorage κ → (AssetId → Option ValidAsset) → Prop
  | disk _, _   => True
  | cached c, m => c.Keeps m

lemma Keeps.mono (h : s.Keeps m) (hm : ∀ u a, m u = some a → m' u = some a) : s.Keeps m' := by
  cases s with
  | disk b => trivial
  | cached c =>
    refine ⟨h.toHonest, fun n hn => ?_⟩
    obtain ⟨a, ha, hdata⟩ := h.value n hn
    exact ⟨a, hm _ _ ha, hdata⟩

lemma Keeps.mapBackend (h : s.Keeps m)
    (f : VFSBackend (CacheCallback κ) → VFSBackend (CacheCallback κ)) :
    (s.mapBackend f).Keeps m := by
  cases s with
  | disk b => trivial
  | cached c => exact ⟨⟨h.coherent, h.keyed⟩, h.value⟩

/-- A get goes through to the backend, unless the cache has what the map says. -/
lemma Keeps.getAsset (h : s.Keeps m) (u : AssetId) (dontCache : Bool) (k : κ) :
    (s.getAsset u.text dontCache k).Keeps m ∧
    ((∃ k', (k' = .direct k ∨ k' = .asyncGetCompleted dontCache k) ∧
        (s.getAsset u.text dontCache k).backend = s.backend.getAsset u.text k') ∨
      ∃ a, m u = some a ∧ (s.getAsset u.text dontCache k).backend =
        s.backend.post [.callback (.direct k) (.got (some a.toAsset) true none)]) := by
  cases s with
  | disk b => exact ⟨trivial, .inl ⟨_, .inl rfl, rfl⟩⟩
  | cached c =>
    have hkept (b : VFSBackend (CacheCallback κ)) :
        AssetCache.Keeps ⟨(c.cache.fetch u.text).2, b⟩ m := by
      refine ⟨⟨h.coherent.fetch _ _, fun n hn => ?_⟩, fun n hn => ?_⟩
      · exact h.keyed n ((LRUCache.mem_fetch h.coherent).mp hn)
      · exact h.value n ((LRUCache.mem_fetch h.coherent).mp hn)
    simp only [AsyncStorage.getAsset, AssetCache.getAsset]
    rcases hfetch : c.cache.fetch u.text with ⟨_ | asset, cache⟩
    · rw [hfetch] at hkept
      exact ⟨hkept _, .inl ⟨_, .inr rfl, rfl⟩⟩
    · rw [hfetch] at hkept
      obtain ⟨n, hn, hkey, hdata⟩ :=
        (LRUCache.fetch_eq_some h.coherent).mp (congrArg Prod.fst hfetch)
      obtain ⟨a, ha, hasset⟩ := h.entry hn hkey
      obtain rfl : a.toAsset = asset := hasset.trans hdata
      exact ⟨hkept _, .inr ⟨a, ha, rfl⟩⟩

lemma Keeps.storeAsset (h : s.Keeps m) (asset : Asset) (k : κ) :
    (s.storeAsset asset k).Keeps m ∧
    ∃ k', (k' = .direct k ∨ k' = .asyncPutCompleted asset k) ∧
      (s.storeAsset asset k).backend = s.backend.storeAsset asset k' := by
  cases s with
  | disk b => exact ⟨trivial, _, .inl rfl, rfl⟩
  | cached c => exact ⟨⟨⟨h.coherent, h.keyed⟩, h.value⟩, _, .inr rfl, rfl⟩

/-- The cache adds nothing to what the index says. -/
lemma Keeps.assetExists (h : s.Keeps m) {u : AssetId}
    (hindex : u.toUuid ∈ s.backend.existenceIndex ↔ (m u).isSome) :
    s.assetExists u.text = (m u).isSome := by
  have hexists := (ExistenceIndex.assetExists_text s.backend.existenceIndex u).trans hindex
  rw [Bool.eq_iff_iff]
  cases s with
  | disk b => exact hexists
  | cached c =>
    simp only [AsyncStorage.assetExists, AssetCache.assetExists, Bool.or_eq_true]
    refine ⟨fun hor => hor.elim (fun hkey => ?_) hexists.mp, fun hm => .inr (hexists.mpr hm)⟩
    obtain ⟨n, hn, hkey⟩ := (LRUCache.existsKey_iff h.coherent).mp hkey
    obtain ⟨a, ha, -⟩ := h.entry hn hkey
    simp [ha]

/-- The backend hands the callback over; the cache keeps to the map if what it inserts does. -/
lemma Keeps.runHandler (h : s.Keeps m) {i : ℕ} {call : Option (κ × Completion)}
    (hs : s.runHandler i = some (s', call)) :
    ∃ call', s.backend.runHandler i = some (s'.backend, call') ∧
      call = call'.map (fun (k, r) => (k.callBack, r)) ∧
      ((∀ k r, call' = some (k, r) → ∀ asset ∈ k.inserted r,
        ∃ a : ValidAsset, m a.id = some a ∧ a.toAsset = asset) → s'.Keeps m) := by
  cases s with
  | disk b =>
    obtain ⟨⟨b', call'⟩, hb, heq⟩ := Option.map_eq_some_iff.mp hs
    cases heq
    exact ⟨call', hb, rfl, fun _ => trivial⟩
  | cached c =>
    obtain ⟨⟨b', call'⟩, hb, heq⟩ := Option.map_eq_some_iff.mp hs
    cases call' with
    | none =>
      cases heq
      exact ⟨none, hb, rfl, fun _ => h.of_backend b'⟩
    | some p =>
      obtain ⟨k, r⟩ := p
      cases heq
      refine ⟨some (k, r), ?_, rfl, fun hm => (h.of_backend b').completed (hm k r rfl)⟩
      simpa [AsyncStorage.backend] using hb

lemma runHandler_of_backend (s : AsyncStorage κ) {i : ℕ} {b : VFSBackend (CacheCallback κ)}
    {call : Option (CacheCallback κ × Completion)} (hb : s.backend.runHandler i = some (b, call)) :
    ∃ s' call', s.runHandler i = some (s', call') ∧ s'.backend = b := by
  cases s with
  | disk b₀ => exact ⟨_, _, Option.map_eq_some_iff.mpr ⟨_, hb, rfl⟩, rfl⟩
  | cached c =>
    rcases call with _ | ⟨k, r⟩
    · exact ⟨_, _, Option.map_eq_some_iff.mpr ⟨_, hb, rfl⟩, rfl⟩
    · exact ⟨_, _, Option.map_eq_some_iff.mpr ⟨_, hb, rfl⟩, by simp [AsyncStorage.backend]⟩

end AsyncStorage

/-! ### The storage as a service -/

/-- A lookup whose answer nobody waits for. -/
lemma Service.Refines.submit_lost {s : Service} {m : AssetId → Option ValidAsset}
    {q : List (ℕ × StorageOp)} (h : s.Refines m q) (u : AssetId) :
    Refines { s with
      history := s.history ++ [.lookup u]
      lost := s.lost ++ [s.history.length] } m q where
  queue := h.queue
  letThrough := fun e he => (h.letThrough e he).append _
  replays := by
    rw [mapOf_concat]
    exact h.replays.append_ops _
  disk := h.disk
  openTables := h.openTables
  index := fun u => by
    rw [mapOf_concat]
    exact h.index u
  posted := fun hd hhd => by
    obtain ⟨i, c, rfl, hdue⟩ := h.posted hd hhd
    exact ⟨i, c, rfl, hdue.append _⟩
  answers := fun p hp => (h.answers p hp).append _
  conserved := by
    rw [List.length_append, List.length_singleton, List.range_succ, ← List.append_assoc]
    exact h.conserved.append_right _

namespace Submission

variable (past : List StorageOp) {s s' : Submission}

/-- The number of a call when the disk's own history is counted in. -/
def label (k : CacheCallback ℕ) : ℕ := past.length + k.callBack

def history (s : Submission) : List StorageOp := past ++ s.calls.map (·.op)

def answer? : ℕ × StorageResult → Option (ℕ × Completion)
  | (i, .called c)   => some (past.length + i, c)
  | (_, .returned _) => none

def returned? : ℕ × StorageResult → Option ℕ
  | (_, .called _)   => none
  | (i, .returned _) => some (past.length + i)

/-- The backend with the numbers of the calls for callbacks. Nobody waits for a callback of a call
that was made before, or that returned its result. -/
def service (s : Submission) : Service where
  backend := s.storage.backend.relabel (label past)
  history := s.history past
  answers := s.results.filterMap (answer? past)
  lost := List.range past.length ++ s.results.filterMap (returned? past)

/-- The callback of a store knows the asset of its call. -/
def Bound (calls : List StorageCall) : CacheCallback ℕ → Prop
  | .asyncPutCompleted asset k => ∃ a : ValidAsset, a.toAsset = asset ∧
      calls[k]? = some (.storeAsset a)
  | _ => True

structure Correct (s : Submission) : Prop where
  refines : ∃ m q, (s.service past).Refines m q
  key : ∀ u a, Service.mapOf (s.history past) u = some a → a.id = u
  returned : ∀ i v, (i, .returned v) ∈ s.results → ∃ u, s.calls[i]? = some (.assetExists u) ∧
    v = (Service.mapOf (past ++ (s.calls.take i).map (·.op)) u).isSome
  returns : ∀ i u, s.calls[i]? = some (.assetExists u) → ∃ v, (i, .returned v) ∈ s.results
  keeps : s.storage.Keeps (Service.mapOf (s.history past))
  bound : ∀ k ∈ s.storage.backend.callbacks, Bound s.calls k

variable {past}

@[simp] lemma length_history : (s.history past).length = past.length + s.calls.length := by
  simp [history]

@[simp] lemma calls_submit (call : StorageCall) : (s.submit call).calls = s.calls ++ [call] := by
  cases call <;> rfl

lemma history_submit (call : StorageCall) :
    (s.submit call).history past = s.history past ++ [call.op] := by
  simp [history]

lemma mapOf_append {history ops : List StorageOp} {u : AssetId} {a : ValidAsset}
    (h : Service.mapOf history u = some a) : Service.mapOf (history ++ ops) u = some a := by
  rw [Service.mapOf, run_append]
  exact run_eq_some_iff.mpr (.inl h)

lemma Bound.append {calls : List StorageCall} {k : CacheCallback ℕ} (h : Bound calls k)
    (later : List StorageCall) : Bound (calls ++ later) k := by
  cases k with
  | asyncPutCompleted asset k =>
    obtain ⟨a, ha, hk⟩ := h
    refine ⟨a, ha, ?_⟩
    rw [List.getElem?_append_left (List.getElem?_eq_some_iff.mp hk).1, hk]
  | _ => trivial

namespace Correct

lemma returned_concat (h : s.Correct past) (call : StorageCall) {i : ℕ} {v : Bool}
    (hv : (i, .returned v) ∈ s.results) : ∃ u, (s.calls ++ [call])[i]? = some (.assetExists u) ∧
      v = (Service.mapOf (past ++ ((s.calls ++ [call]).take i).map (·.op)) u).isSome := by
  obtain ⟨u, hu, hv⟩ := h.returned i v hv
  have hi := (List.getElem?_eq_some_iff.mp hu).1
  refine ⟨u, ?_, ?_⟩
  · rw [List.getElem?_append_left hi, hu]
  · rw [List.take_append_of_le_length hi.le, hv]

lemma returns_concat (h : s.Correct past) {call : StorageCall}
    (hcall : ∀ u, call ≠ .assetExists u) {i : ℕ} {u : AssetId}
    (hu : (s.calls ++ [call])[i]? = some (.assetExists u)) : ∃ v, (i, .returned v) ∈ s.results := by
  refine h.returns i u ?_
  rw [List.getElem?_append] at hu
  split_ifs at hu with hi
  · exact hu
  · have := List.mem_of_getElem? hu
    exact absurd (List.mem_singleton.mp this).symm (hcall u)

lemma key_submit (h : s.Correct past) (call : StorageCall) (u : AssetId) (a : ValidAsset)
    (ha : Service.mapOf ((s.submit call).history past) u = some a) : a.id = u := by
  rw [history_submit, Service.mapOf_concat] at ha
  cases call with
  | storeAsset a' =>
    cases hm : Service.mapOf (s.history past) a'.id with
    | some a₀ =>
      rw [StorageCall.op, apply_insert_some hm] at ha
      exact h.key u a ha
    | none =>
      rw [StorageCall.op, apply_insert_none hm] at ha
      simp only [Function.update_apply] at ha
      split_ifs at ha with hu
      · cases ha
        exact hu.symm
      · exact h.key u a ha
  | _ => exact h.key u a ha

lemma getAsset (h : s.Correct past) (u : AssetId) (dontCache : Bool) :
    (s.submit (.getAsset u dontCache)).Correct past := by
  obtain ⟨m, q, href⟩ := h.refines
  obtain ⟨hkeeps, hback⟩ := h.keeps.getAsset u dontCache s.calls.length
  refine ⟨?_, h.key_submit _, fun i v => h.returned_concat _,
    fun i u' hu => h.returns_concat (by simp) hu, ?_, ?_⟩
  · obtain ⟨k, hk, hback⟩ | ⟨a, ha, hback⟩ := hback
    · have hlabel : label past k = (s.history past).length := by
        rcases hk with rfl | rfl <;> simp [label, CacheCallback.callBack]
      have hservice : (s.submit (.getAsset u dontCache)).service past =
          { s.service past with
            backend := (s.service past).backend.getAsset u.text (s.service past).history.length
            history := (s.service past).history ++ [.lookup u] } := by
        simp only [service, submit, hback, VFSBackend.relabel_getAsset, hlabel]
        simp [history, StorageCall.op]
      exact hservice ▸ ⟨m, href.getAsset u⟩
    · have hservice : (s.submit (.getAsset u dontCache)).service past =
          { s.service past with
            backend := (s.service past).backend.post
              [.callback (s.service past).history.length (.got (some a.toAsset) true none)]
            history := (s.service past).history ++ [.lookup u] } := by
        simp only [service, submit, hback, VFSBackend.relabel_post]
        simp [history, StorageCall.op, Handler.relabel, label, CacheCallback.callBack]
      refine hservice ▸ ⟨m, q, href.submit_posted rfl ?_⟩
      rw [apply_lookup, show Service.mapOf (s.service past).history u = some a from ha]
      rfl
  · exact hkeeps.mono fun u a ha => history_submit _ ▸ mapOf_append ha
  · intro k hk
    have hk : k ∈ s.storage.backend.callbacks ∨ k = .direct s.calls.length ∨
        k = .asyncGetCompleted dontCache s.calls.length := by
      obtain ⟨k', hk', hback⟩ | ⟨a, -, hback⟩ := hback
      · rw [show (s.submit (.getAsset u dontCache)).storage.backend = _ from hback] at hk
        obtain hk | rfl := VFSBackend.callbacks_getAsset hk
        · exact .inl hk
        · exact .inr hk'
      · rw [show (s.submit (.getAsset u dontCache)).storage.backend = _ from hback] at hk
        exact (VFSBackend.mem_callbacks_post.mp hk).imp_right fun h => .inl (Option.some.inj h).symm
    rcases hk with hk | rfl | rfl
    · exact (h.bound k hk).append _
    · trivial
    · trivial

lemma storeAsset (h : s.Correct past) (a : ValidAsset) :
    (s.submit (.storeAsset a)).Correct past := by
  obtain ⟨m, q, href⟩ := h.refines
  obtain ⟨hkeeps, k, hk, hback⟩ := h.keeps.storeAsset a.toAsset s.calls.length
  refine ⟨?_, h.key_submit _, fun i v => h.returned_concat _,
    fun i u' hu => h.returns_concat (by simp) hu, ?_, ?_⟩
  · have hlabel : label past k = (s.history past).length := by
      rcases hk with rfl | rfl <;> simp [label, CacheCallback.callBack]
    have hservice : (s.submit (.storeAsset a)).service past =
        { s.service past with
          backend := (s.service past).backend.storeAsset a.toAsset (s.service past).history.length
          history := (s.service past).history ++ [.insert a.id a] } := by
      simp only [service, submit, hback, VFSBackend.relabel_storeAsset, hlabel]
      simp [history, StorageCall.op]
    exact hservice ▸ ⟨m, href.storeAsset a⟩
  · exact hkeeps.mono fun u a ha => history_submit _ ▸ mapOf_append ha
  · intro k' hk'
    rw [show (s.submit (.storeAsset a)).storage.backend = _ from hback] at hk'
    obtain hk' | rfl := VFSBackend.callbacks_storeAsset hk'
    · exact (h.bound k' hk').append _
    · rcases hk with rfl | rfl
      · trivial
      · exact ⟨a, rfl, by simp⟩

/-- A call that returns at once takes a number, and waits for nothing. -/
lemma assetExists (h : s.Correct past) (u : AssetId) :
    (s.submit (.assetExists u)).Correct past := by
  obtain ⟨m, q, href⟩ := h.refines
  refine ⟨⟨m, q, ?_⟩, h.key_submit _, fun i v hv => ?_, fun i u' hu => ?_, ?_,
    fun k hk => (h.bound k hk).append _⟩
  · have hservice : (s.submit (.assetExists u)).service past =
        { s.service past with
          history := (s.service past).history ++ [.lookup u]
          lost := (s.service past).lost ++ [(s.service past).history.length] } := by
      simp [service, submit, history, StorageCall.op, answer?, returned?]
    exact hservice ▸ href.submit_lost u
  · obtain hv | hv := List.mem_append.mp hv
    · exact h.returned_concat _ hv
    · cases List.mem_singleton.mp hv
      refine ⟨u, by simp, ?_⟩
      rw [h.keeps.assetExists (href.index u)]
      simp [submit, history]
  · rw [calls_submit, List.getElem?_append] at hu
    split_ifs at hu with hi
    · obtain ⟨v, hv⟩ := h.returns i u' hu
      exact ⟨v, List.mem_append_left _ hv⟩
    · obtain rfl : i = s.calls.length := by
        have := (List.getElem?_eq_some_iff.mp hu).1
        simp at this
        omega
      exact ⟨_, List.mem_append_right _ List.mem_cons_self⟩
  · exact h.keeps.mono fun u a ha => history_submit _ ▸ mapOf_append ha

/-- The worker takes a step. -/
lemma worked (h : s.Correct past) {b : VFSBackend (CacheCallback ℕ)}
    (href : ∃ m q, Service.Refines { s.service past with backend := b.relabel (label past) } m q)
    (hcallbacks : ∀ k ∈ b.callbacks, k ∈ s.storage.backend.callbacks) :
    Correct past { s with storage := s.storage.mapBackend fun _ => b } := by
  have hservice : service past { s with storage := s.storage.mapBackend fun _ => b } =
      { s.service past with backend := b.relabel (label past) } := by
    simp [service, history]
  refine ⟨hservice ▸ href, h.key, h.returned, h.returns, h.keeps.mapBackend _,
    fun k hk => h.bound k ?_⟩
  exact hcallbacks k (by simpa using hk)

/-- What a callback makes the cache insert is a value of the map. -/
lemma inserted (h : s.Correct past) {k : CacheCallback ℕ} {r : Completion} (hk : Bound s.calls k)
    (hdue : Service.Due (s.history past) (label past k) r) {asset : Asset}
    (hasset : asset ∈ k.inserted r) :
    ∃ a : ValidAsset, Service.mapOf (s.history past) a.id = some a ∧ a.toAsset = asset := by
  have hanswers := hdue.answersCall
  unfold Service.AnswersCall at hanswers
  have hlater {n : ℕ} {u : AssetId} {a : ValidAsset}
      (ha : Service.mapOf ((s.history past).take n) u = some a) :
      Service.mapOf (s.history past) u = some a :=
    List.take_append_drop n (s.history past) ▸ mapOf_append ha
  unfold CacheCallback.inserted at hasset
  split at hasset
  · -- a get hands over what the map said when it was submitted
    cases hasset
    split at hanswers
    · simp at hanswers
    · obtain ⟨a, hfirst, hc⟩ | ⟨-, hc⟩ := hanswers
      · cases hc
        have ha := hlater (run_eq_some_iff.mpr (.inr ⟨rfl, hfirst⟩))
        exact ⟨a, h.key _ a ha ▸ ha, rfl⟩
      · cases hc
    · exact hanswers.elim
  · next asset k error =>
    -- a store that succeeds is the first of its identifier
    cases hasset
    obtain ⟨a, rfl, hcall⟩ := hk
    have hop : (s.history past)[label past (.asyncPutCompleted a.toAsset k)]? =
        some (.insert a.id a) := by
      rw [history, label, CacheCallback.callBack, List.getElem?_append_right (by omega)]
      rw [Nat.add_sub_cancel_left, List.getElem?_map, hcall]
      rfl
    rw [hop] at hanswers
    obtain ⟨-, hno⟩ | ⟨hc, -⟩ := hanswers
    · refine ⟨a, hlater (n := label past (.asyncPutCompleted a.toAsset k) + 1) ?_, rfl⟩
      have hnone : Service.mapOf _ a.id = none := run_eq_none_iff.mpr hno
      rw [List.take_add_one, hop, Option.toList_some, Service.mapOf_concat, apply_insert_none hnone]
      simp
    · cases hc
  · cases hasset

lemma runHandler (h : s.Correct past) {i : ℕ} {storage : AsyncStorage ℕ}
    {call : Option (ℕ × Completion)} (hs : s.storage.runHandler i = some (storage, call)) :
    Correct past { s with
      storage := storage
      results := s.results ++ call.toList.map fun (k, r) => (k, .called r) } := by
  obtain ⟨m, q, href⟩ := h.refines
  obtain ⟨call', hback, rfl, hkeeps⟩ := h.keeps.runHandler hs
  have hrelabel := VFSBackend.relabel_runHandler (label past) s.storage.backend i
  obtain ⟨hrest, hhanded⟩ := VFSBackend.callbacks_runHandler hback
  rw [hback] at hrelabel
  cases hi : (s.service past).backend.posted[i]? with
  | none =>
    have hnone : (s.storage.backend.relabel (label past)).runHandler i = none := by
      simp only [VFSBackend.runHandler]
      rw [show (s.storage.backend.relabel (label past)).posted[i]? = none from hi]
    rw [hnone] at hrelabel
    cases hrelabel
  | some hd =>
    obtain ⟨j, c, hrun, href'⟩ := href.runHandler hi
    have hpair := Option.some.inj (hrelabel.trans hrun)
    obtain ⟨hback', hcall⟩ := Prod.mk.inj hpair
    obtain ⟨⟨k, r⟩, rfl, hkr⟩ := Option.map_eq_some_iff.mp hcall
    obtain ⟨rfl, rfl⟩ := Prod.mk.inj hkr
    have hservice : service past { s with
        storage := storage
        results := s.results ++ [(k.callBack, .called r)] } =
        { s.service past with
          backend := storage.backend.relabel (label past)
          answers := (s.service past).answers ++ [(label past k, r)] } := by
      simp [service, history, answer?, returned?, label]
    refine ⟨⟨m, q, ?_⟩, h.key, fun i v hv => ?_, fun i u hu => ?_,
      hkeeps fun k' r' hkr => ?_, fun k hk => ?_⟩
    · rw [← hback'] at href'
      exact hservice ▸ href'
    · refine h.returned i v ?_
      simpa using hv
    · exact (h.returns i u hu).imp fun _ => List.mem_append_left _
    · cases hkr
      refine fun asset => h.inserted (h.bound k (hhanded _ rfl)) ?_
      exact href'.answers (label past k, r) (List.mem_append_right _ List.mem_cons_self)
    · exact h.bound k (hrest k hk)

lemma step (h : s.Correct past) {e : Event} (hs : s.step e = some s') : s'.Correct past := by
  obtain ⟨m, q, href⟩ := h.refines
  cases e with
  | submit call =>
    obtain rfl := Option.some.inj hs
    cases call with
    | getAsset u dontCache => exact h.getAsset u dontCache
    | storeAsset a => exact h.storeAsset a
    | assetExists u => exact h.assetExists u
  | dequeue =>
    obtain ⟨b, hb, rfl⟩ := Option.map_eq_some_iff.mp hs
    have hrelabel := VFSBackend.relabel_dequeue (label past) s.storage.backend
    rw [hb] at hrelabel
    refine h.worked ⟨m, q, href.dequeue hrelabel.symm⟩ fun k hk => ?_
    exact VFSBackend.callbacks_dequeue hb ▸ hk
  | process =>
    obtain ⟨b, hb, rfl⟩ := Option.map_eq_some_iff.mp hs
    have hrelabel := VFSBackend.relabel_process (label past) s.storage.backend []
    rw [hb] at hrelabel
    exact h.worked (href.process hrelabel.symm).1 fun k => VFSBackend.callbacks_process hb
  | runHandler i =>
    obtain ⟨⟨storage, call⟩, hrun, rfl⟩ := Option.map_eq_some_iff.mp hs
    exact h.runHandler hrun

lemma work_of_backend {b : VFSBackend (CacheCallback ℕ)} (hb : s.storage.backend = b) :
    (s.service past).work = 3 * (b.relabel (label past)).workQueue.length +
      2 * (b.relabel (label past)).current.toList.length +
        (b.relabel (label past)).posted.length := by
  rw [← hb]
  rfl

/-- As long as there is work, one of the two threads can do a part of it. -/
lemma progress (h : s.Correct past) (hwork : 0 < (s.service past).work) :
    ∃ e s', s.step e = some s' ∧ s'.calls = s.calls ∧ s.results <+: s'.results ∧
      (s'.service past).work < (s.service past).work := by
  obtain ⟨m, q, href⟩ := h.refines
  cases hposted : s.storage.backend.posted with
  | cons hd rest =>
    have hfirst : (s.service past).backend.posted[0]? = some (hd.relabel (label past)) := by
      simp [service, VFSBackend.relabel, hposted]
    obtain ⟨j, c, hrun, -⟩ := href.runHandler hfirst
    have hrelabel := VFSBackend.relabel_runHandler (label past) s.storage.backend 0
    obtain ⟨⟨b, call⟩, hb, hpair⟩ := Option.map_eq_some_iff.mp (hrelabel.trans hrun)
    obtain ⟨storage, call', hs, hback⟩ := s.storage.runHandler_of_backend hb
    refine ⟨.runHandler 0, _, Option.map_eq_some_iff.mpr ⟨_, hs, rfl⟩, rfl,
      List.prefix_append _ _, ?_⟩
    rw [work_of_backend hback, (Prod.mk.inj hpair).1]
    have hlen : ((s.service past).backend.posted.eraseIdx 0).length + 1 =
        (s.service past).backend.posted.length := by simp [service, VFSBackend.relabel, hposted]
    simp only [Service.work]
    omega
  | nil =>
    cases hcur : s.storage.backend.current with
    | some req =>
      have hcur' : (s.service past).backend.current = some (req.relabel (label past)) := by
        simp [service, VFSBackend.relabel, hcur]
      obtain ⟨e, q', rfl, hreq, -⟩ := href.current hcur'
      have hsome := VFSBackend.process_isSome hcur' (hreq ▸ href.round) href.quietWorld
      obtain ⟨b', hb'⟩ := Option.isSome_iff_exists.mp hsome
      obtain ⟨-, -, hnone, hqueue, hlen⟩ := href.process hb'
      have hrelabel := VFSBackend.relabel_process (label past) s.storage.backend []
      obtain ⟨b, hb, rfl⟩ := Option.map_eq_some_iff.mp (hrelabel.trans hb')
      refine ⟨.process, _, Option.map_eq_some_iff.mpr ⟨b, hb, rfl⟩, rfl, List.prefix_refl _, ?_⟩
      rw [work_of_backend (AsyncStorage.backend_mapBackend _ _)]
      simp only [Service.work, hnone, hqueue, hlen, hcur', Option.toList_none, Option.toList_some,
        List.length_nil, List.length_singleton]
      omega
    | none =>
      cases hqueue : s.storage.backend.workQueue with
      | nil => simp [Service.work, service, VFSBackend.relabel, hposted, hcur, hqueue] at hwork
      | cons req rest =>
        refine ⟨.dequeue, _, Option.map_eq_some_iff.mpr ⟨{ s.storage.backend with
          current := some req, workQueue := rest }, by simp [VFSBackend.dequeue, hcur, hqueue],
            rfl⟩,
          rfl, List.prefix_refl _, ?_⟩
        simp [Service.work, service, VFSBackend.relabel, hcur, hqueue]
        omega

lemma drain (h : s.Correct past) :
    ∃ es s', Machine.run Submission.step s es = some s' ∧ s'.Correct past ∧ s'.calls = s.calls ∧
      s.results <+: s'.results ∧ (s'.service past).work = 0 := by
  obtain ⟨es, s', hrun, h', ⟨hcalls, hresults⟩, hwork⟩ := Machine.exists_run_to_zero
    (I := Correct past) (w := fun s => (s.service past).work)
    (R := fun s s' => s'.calls = s.calls ∧ s.results <+: s'.results)
    (fun s => ⟨rfl, List.prefix_refl _⟩)
    (fun _ _ _ h h' => ⟨h'.1.trans h.1, h.2.trans h'.2⟩)
    (fun s h hpos => by
      obtain ⟨e, s', hstep, hcalls, hresults, hlt⟩ := h.progress hpos
      exact ⟨e, s', hstep, h.step hstep, ⟨hcalls, hresults⟩, hlt⟩)
    h
  exact ⟨es, s', hrun, h', hcalls, hresults, hwork⟩

lemma all_answered (h : s.Correct past) (hwork : (s.service past).work = 0) {i : ℕ}
    (hi : i < s.calls.length) : ∃ r, (i, r) ∈ s.results := by
  obtain ⟨m, q, href⟩ := h.refines
  have hlt : past.length + i < (s.service past).history.length := by
    simpa [service] using hi
  obtain hans | hlost := href.all_answered hwork hlt
  · obtain ⟨⟨j, c⟩, hmem, hj⟩ := List.mem_map.mp hans
    obtain ⟨⟨i', r⟩, hr, hans⟩ := List.mem_filterMap.mp hmem
    cases r <;> cases hans
    exact ⟨_, (show i' = i by simpa using hj) ▸ hr⟩
  · obtain hlost | hlost := List.mem_append.mp hlost
    · simp at hlost
    · obtain ⟨⟨i', r⟩, hr, hans⟩ := List.mem_filterMap.mp hlost
      cases r with
      | called c => cases hans
      | returned v =>
        exact ⟨_, (show i' = i by simpa using Option.some.inj hans) ▸ hr⟩

lemma perm_results (results : List (ℕ × StorageResult)) :
    ((results.filterMap (answer? past)).map (·.1) ++ results.filterMap (returned? past)).Perm
      (results.map fun p => past.length + p.1) := by
  induction results with
  | nil => exact .refl _
  | cons p results ih =>
    obtain ⟨i, c | v⟩ := p
    · exact ih.cons _
    · exact List.perm_middle.trans (ih.cons _)

/-- No call has two results. -/
lemma nodup_results (h : s.Correct past) : (s.results.map Prod.fst).Nodup := by
  obtain ⟨m, q, href⟩ := h.refines
  have hnodup := href.conserved.nodup_iff.mpr List.nodup_range
  rw [List.append_assoc] at hnodup
  have hsub := hnodup.of_append_right
  have hresults : ((s.results.filterMap (answer? past)).map (·.1) ++
      s.results.filterMap (returned? past)).Nodup :=
    hsub.sublist (.append (.refl _) (List.sublist_append_right _ _))
  rw [(perm_results s.results).nodup_iff] at hresults
  refine .of_map (past.length + ·) ?_
  rwa [List.map_map]

lemma due_of_called (h : s.Correct past) {i : ℕ} {c : Completion}
    (hc : (i, .called c) ∈ s.results) : Service.Due (s.history past) (past.length + i) c := by
  obtain ⟨m, q, href⟩ := h.refines
  exact href.answers (past.length + i, c) (List.mem_filterMap.mpr ⟨_, hc, rfl⟩)

/-- What `assetExists` answers is not handed to a callback. -/
lemma not_called (h : s.Correct past) {i : ℕ} {u : AssetId}
    (hu : s.calls[i]? = some (.assetExists u)) (c : Completion) : (i, .called c) ∉ s.results := by
  intro hc
  obtain ⟨v, hv⟩ := h.returns i u hu
  have heq := List.inj_on_of_nodup_map h.nodup_results hc hv rfl
  cases heq

/-- The results of two storages with the same history are the same. -/
lemma result_unique {t : Submission} (hs : s.Correct past) (ht : t.Correct past)
    (hcalls : s.calls = t.calls) {i : ℕ} {r r' : StorageResult} (hr : (i, r) ∈ s.results)
    (hr' : (i, r') ∈ t.results) : r = r' := by
  have hhistory : s.history past = t.history past := by rw [history, history, hcalls]
  cases r with
  | called c =>
    cases r' with
    | called c' =>
      obtain ⟨op, answer, hop, hans, rfl⟩ := hs.due_of_called hr
      obtain ⟨op', answer', hop', hans', rfl⟩ := ht.due_of_called hr'
      rw [← hhistory] at hop' hans'
      cases hop.symm.trans hop'
      cases hans.symm.trans hans'
      rfl
    | returned v' =>
      obtain ⟨u, hu, -⟩ := ht.returned i v' hr'
      exact absurd hr (hs.not_called (hcalls ▸ hu) c)
  | returned v =>
    obtain ⟨u, hu, rfl⟩ := hs.returned i v hr
    cases r' with
    | called c' => exact absurd hr' (ht.not_called (hcalls ▸ hu) c')
    | returned v' =>
      obtain ⟨u', hu', rfl⟩ := ht.returned i v' hr'
      rw [← hcalls] at hu' ⊢
      cases hu.symm.trans hu'
      rfl

end Correct

lemma correct_of_atRest {storage : AsyncStorage ℕ}
    (hrest : storage.backend.AtRest (Service.mapOf past))
    (hkeeps : storage.Keeps (Service.mapOf past)) :
    Correct past { storage := storage } := by
  have hmap : past ++ List.map StorageCall.op [] = past := by simp
  refine ⟨⟨Service.mapOf past, [], ?_⟩, ?_, by simp, by simp, ?_, ?_⟩
  · exact {
      queue := by
        simp [Service.pending, service, VFSBackend.relabel, hrest.current, hrest.workQueue]
      letThrough := by simp
      replays := (congrArg Service.mapOf hmap).symm
      disk := hrest.disk
      openTables := hrest.openTables
      index := fun u => by simpa [service, history, VFSBackend.relabel] using hrest.index u
      posted := by simp [service, VFSBackend.relabel, hrest.posted]
      answers := by simp [service]
      conserved := by simp [service, history, VFSBackend.relabel, hrest.posted] }
  · simpa [history] using hrest.disk.key
  · simpa [history] using hkeeps
  · simp [VFSBackend.callbacks, hrest.current, hrest.workQueue, hrest.posted]

/-- Every call of the run so far gets a result in the end, if the two threads go on. -/
def Completes (s : Submission) : Prop :=
  ∃ es s', Machine.run step s es = some s' ∧ s'.calls = s.calls ∧ s.results <+: s'.results ∧
    ∀ i < s.calls.length, ∃ r, (i, r) ∈ s'.results

lemma Correct.completes (h : s.Correct past) : s.Completes := by
  obtain ⟨es, s', hrun, h', hcalls, hresults, hwork⟩ := h.drain
  exact ⟨es, s', hrun, hcalls, hresults, fun i hi => h'.all_answered hwork (hcalls ▸ hi)⟩

lemma correct_of_run (storage : AsyncStorage ℕ)
    (hrest : storage.backend.AtRest (Service.mapOf past))
    (hkeeps : storage.Keeps (Service.mapOf past)) {es : List Event}
    (hrun : Machine.run step { storage := storage } es = some s) : s.Correct past :=
  Machine.run_invariant' (fun _ _ _ h hs => h.step hs) (correct_of_atRest hrest hkeeps) hrun

/-- The cache is transparent. The same calls are submitted to a backend through a cache of any size
and to the backend itself, and the threads go on as they like: no call has two results, none has
different results in the two runs, and in both every call gets its result. -/
theorem cache_transparent {b : VFSBackend (CacheCallback ℕ)} {m : AssetId → Option ValidAsset}
    (hrest : b.AtRest m) (maxCacheSize : UInt64) {es es' : List Event} {s t : Submission}
    (hcached : Machine.run step { storage := .cached (.new maxCacheSize b) } es = some s)
    (hdirect : Machine.run step { storage := .disk b } es' = some t) (hcalls : s.calls = t.calls) :
    (∀ i r r', (i, r) ∈ s.results → (i, r') ∈ t.results → r = r') ∧
      (s.results.map Prod.fst).Nodup ∧ (t.results.map Prod.fst).Nodup ∧
      s.Completes ∧ t.Completes := by
  obtain ⟨past, rfl⟩ := hrest.disk.exists_history
  have hempty : (AssetCache.new maxCacheSize b).Keeps (Service.mapOf past) :=
    ⟨AssetCache.honest_new maxCacheSize b, by simp [AssetCache.new]⟩
  have hs := correct_of_run (.cached (.new maxCacheSize b)) hrest hempty hcached
  have ht := correct_of_run (.disk b) hrest trivial hdirect
  exact ⟨fun i r r' hr hr' => hs.result_unique ht hcalls hr hr', hs.nodup_results,
    ht.nodup_results, hs.completes, ht.completes⟩

lemma atRest_empty : ({} : VFSBackend (CacheCallback ℕ)).AtRest fun _ => none where
  workQueue := rfl
  current := rfl
  posted := rfl
  disk := .empty
  openTables := ⟨LRUCache.coherent_empty _ _, by simp⟩
  index := by simp

/-- A store, a get when the store is done, and a question for the asset. -/
def storeAndGet (completions : List Event) : List Event :=
  [.submit (.storeAsset VFSDatabase.zeroAsset), .dequeue, .process, .runHandler 0,
    .submit (.getAsset VFSDatabase.zeroAsset.id false)] ++ completions ++
    [.submit (.assetExists VFSDatabase.zeroAsset.id)]

/-- The cache answers the get at once; without it, the worker reads the disk. -/
theorem storeAndGet_transparent :
    ∃ s t, Machine.run step { storage := .cached (.new 1000 {}) } (storeAndGet [.runHandler 0]) =
        some s ∧
      Machine.run step { storage := .disk {} }
        (storeAndGet [.dequeue, .process, .runHandler 0]) = some t ∧
      s.results.length = 3 ∧ t.results.length = 3 ∧
      ∀ i r r', (i, r) ∈ s.results → (i, r') ∈ t.results → r = r' := by
  obtain ⟨s, hs, hlen, hcalls⟩ : ∃ s, Machine.run step { storage := .cached (.new 1000 {}) }
      (storeAndGet [.runHandler 0]) = some s ∧ s.results.length = 3 ∧
      s.calls = [.storeAsset VFSDatabase.zeroAsset, .getAsset VFSDatabase.zeroAsset.id false,
        .assetExists VFSDatabase.zeroAsset.id] := ⟨_, rfl, rfl, rfl⟩
  obtain ⟨t, ht, hlen', hcalls'⟩ : ∃ t, Machine.run step { storage := .disk {} }
      (storeAndGet [.dequeue, .process, .runHandler 0]) = some t ∧ t.results.length = 3 ∧
      t.calls = [.storeAsset VFSDatabase.zeroAsset, .getAsset VFSDatabase.zeroAsset.id false,
        .assetExists VFSDatabase.zeroAsset.id] := ⟨_, rfl, rfl, rfl⟩
  exact ⟨s, t, hs, ht, hlen, hlen',
    (cache_transparent atRest_empty 1000 hs ht (hcalls.trans hcalls'.symm)).1⟩

end Submission

end Whip
