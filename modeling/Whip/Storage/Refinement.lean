import Whip.Storage.Requests
import Whip.Lib.InsertOnce
import Whip.Lib.Machine

/-!
# The backend is an insert-once map

Without purges and failures, `VFSBackend` answers every store and every get as an insert-once map
does that is given the calls in the order in which they were submitted, under any interleaving of
the submitting thread, the worker and the io thread, and through restarts.

`DiskHolds k m` is the abstraction of the disk: the assets of the map `m` are stored, and nothing
else. The queue holds back operations that the existence index has already decided; carrying them
out on `m` gives the map of the whole history (`InsertOnce.Replays`).
-/

namespace Whip

open Bytes Effect InsertOnce

/-! ### The disk as a map -/

/-- The disk holds exactly the assets of `m`. -/
structure DiskHolds (k : Disk) (m : AssetId → Option ValidAsset) : Prop where
  rowsPoint : ∀ d b, RowsPoint k d b
  noEmpty : ∀ d b, k.data d b ≠ some []
  key : ∀ u a, m u = some a → a.id = u
  of_row : ∀ d b, ∀ row ∈ k.rows d b, ∃ a, m a.id = some a ∧ row.assetId = a.getUUID ∧
    VFSBackend.dirOf a.toAsset = d ∧ VFSBackend.baseOf a.toAsset = b
  row : ∀ u a, m u = some a → VFSBackend.dirOf a.toAsset ∈ k.dirs ∧
    ∃ row ∈ k.rows (VFSBackend.dirOf a.toAsset) (VFSBackend.baseOf a.toAsset), ∃ f,
      k.data (VFSBackend.dirOf a.toAsset) (VFSBackend.baseOf a.toAsset) = some f ∧
      PointsAt f row a.toAsset ∧ row.position ≠ INVALID_POSITION

namespace DiskHolds

open VFSBackend (dirOf baseOf)

variable {k k' : Disk} {m : AssetId → Option ValidAsset}

lemma empty : DiskHolds {} fun _ => none where
  rowsPoint := fun d b => ⟨by simp [Disk.rows], by simp [Disk.rows]⟩
  noEmpty := by simp
  key := by simp
  of_row := by simp [Disk.rows]
  row := by simp

lemma of_prepared (h : DiskHolds k m) (hk : Prepared k k') : DiskHolds k' m where
  rowsPoint := fun d b => (h.rowsPoint d b).of_grows (.of_prepared hk) (by rw [hk.rows])
  noEmpty := hk.data ▸ h.noEmpty
  key := h.key
  of_row := hk.rows ▸ h.of_row
  row := fun u a ha => by
    obtain ⟨hd, hrow⟩ := h.row u a ha
    exact ⟨hk.dirs _ hd, hk.rows ▸ hk.data ▸ hrow⟩

/-- An asset that is not in the map has no row. -/
lemma newId (h : DiskHolds k m) {a : ValidAsset} (ha : m a.id = none) (d : DirName) (b : Base) :
    NewId k d b a.toAsset := by
  intro row hrow hid
  obtain ⟨a', ha', hid', -, -⟩ := h.of_row d b row hrow
  have : a'.id = a.id := AssetId.ext (hid'.symm.trans hid)
  rw [this, ha] at ha'
  cases ha'

/-- A complete store adds the asset to the map. -/
lemma stored (h : DiskHolds k m) {a : ValidAsset} (ha : m a.id = none)
    (hd : dirOf a.toAsset ∈ k.dirs) :
    DiskHolds (k.stored (dirOf a.toAsset) (baseOf a.toAsset) a.toAsset)
      (Function.update m a.id (some a)) := by
  have hnew := h.newId ha (dirOf a.toAsset) (baseOf a.toAsset)
  have hold {u : AssetId} {a' : ValidAsset} (ha' : m u = some a') :
      Function.update m a.id (some a) u = some a' := by
    rw [Function.update_of_ne, ha']
    rintro rfl
    rw [ha] at ha'
    cases ha'
  constructor
  · intro d b
    by_cases hdb : d = dirOf a.toAsset ∧ b = baseOf a.toAsset
    · obtain ⟨rfl, rfl⟩ := hdb
      exact (h.rowsPoint _ _).stored hnew a.size_lt
    · exact (h.rowsPoint d b).congr (Disk.rows_stored_of_ne hdb) (Disk.data_stored_of_ne hdb)
  · intro d b
    by_cases hdb : d = dirOf a.toAsset ∧ b = baseOf a.toAsset
    · obtain ⟨rfl, rfl⟩ := hdb
      simp [appended_ne_nil]
    · rw [Disk.data_stored_of_ne hdb]
      exact h.noEmpty d b
  · intro u a' ha'
    by_cases hu : u = a.id
    · subst hu
      rw [Function.update_self] at ha'
      cases ha'
      rfl
    · rw [Function.update_of_ne hu] at ha'
      exact h.key u a' ha'
  · intro d b row hrow
    by_cases hdb : d = dirOf a.toAsset ∧ b = baseOf a.toAsset
    · obtain ⟨rfl, rfl⟩ := hdb
      rw [Disk.rows_stored, List.mem_append, List.mem_singleton] at hrow
      rcases hrow with hrow | rfl
      · obtain ⟨a', ha', hrest⟩ := h.of_row _ _ row hrow
        exact ⟨a', hold ha', hrest⟩
      · exact ⟨a, Function.update_self .., rfl, rfl, rfl⟩
    · rw [Disk.rows_stored_of_ne hdb] at hrow
      obtain ⟨a', ha', hrest⟩ := h.of_row d b row hrow
      exact ⟨a', hold ha', hrest⟩
  · intro u a' ha'
    by_cases hu : u = a.id
    · subst hu
      rw [Function.update_self] at ha'
      cases ha'
      refine ⟨hd, rowOf a.toAsset (newPosition k _ _), by simp, _, Disk.data_stored,
        pointsAt_stored a.size_lt, fun hpos => ?_⟩
      refine h.noEmpty _ _ (newPosition_eq_zero_iff.mp (Int.ofNat_eq_zero.mp hpos))
    · rw [Function.update_of_ne hu] at ha'
      obtain ⟨hd', row, hrow, f, hf, hpoint, hpos⟩ := h.row u a' ha'
      refine ⟨hd', row, ?_⟩
      by_cases hdb : dirOf a'.toAsset = dirOf a.toAsset ∧ baseOf a'.toAsset = baseOf a.toAsset
      · rw [hdb.1, hdb.2] at hrow hf ⊢
        have hgrows : Grows (dirOf a.toAsset) (baseOf a.toAsset) k _ :=
          grows_stored (a := a.toAsset)
        obtain ⟨g, hg, hpoint'⟩ := hgrows.pointsAt hf hpoint
        exact ⟨hgrows.rows.subset hrow, g, hg, hpoint', hpos⟩
      · rw [Disk.rows_stored_of_ne hdb, Disk.data_stored_of_ne hdb]
        exact ⟨hrow, f, hf, hpoint, hpos⟩

/-- What the map says about an identifier, one database at a time. -/
lemma lookup (h : DiskHolds k m) (u : AssetId) (b : Base) :
    Lookup k (getFullPathForUUID u.text) b u.text
      (((m u).filter (baseOf ·.toAsset = b)).map (·.toAsset)) := by
  have habsent (hno : ∀ a, m u = some a → baseOf a.toAsset ≠ b) :
      positionIn (k.rows (getFullPathForUUID u.text) b) u.text = INVALID_POSITION := by
    have hnone : (k.rows (getFullPathForUUID u.text) b).find? (·.assetId == u.text) = none := by
      rw [List.find?_eq_none]
      intro row hrow hid
      obtain ⟨a, ha, hid', -, hb⟩ := h.of_row _ _ row hrow
      have hu : a.id = u := AssetId.ext (hid'.symm.trans (by simpa using hid))
      exact hno a (hu ▸ ha) hb
    simp [positionIn, hnone]
  cases hm : m u with
  | none => exact .absent (habsent (by simp [hm]))
  | some a =>
    by_cases hb : baseOf a.toAsset = b
    · subst hb
      obtain ⟨-, row, hrow, f, hf, hpoint, hpos⟩ := h.row u a hm
      have hl := (h.rowsPoint _ _).lookup hrow hf hpoint
      rw [if_neg hpos] at hl
      obtain rfl := h.key u a hm
      rw [Option.filter_some_pos (by simp)]
      exact hl
    · have hno : ∀ a', m u = some a' → baseOf a'.toAsset ≠ b := by
        intro a' ha'
        rw [hm] at ha'
        cases ha'
        exact hb
      rw [Option.filter_some_neg (by simpa using hb)]
      exact .absent (habsent hno)

/-- The index a new process builds is the map on the disk. -/
lemma load (h : DiskHolds k m) {index : List Uuid} (hload : ExistenceIndex.load k = some index)
    (u : AssetId) : u.toUuid ∈ index ↔ (m u).isSome := by
  rw [ExistenceIndex.mem_load hload]
  constructor
  · rintro ⟨d, -, b, row, hrow, -, hparse⟩
    obtain ⟨a, ha, hid, -, -⟩ := h.of_row d b row hrow
    rw [hid, ← ValidAsset.text_id, Uuid.parse_text] at hparse
    obtain rfl : a.id = u := AssetId.toUuid_injective (by simpa using hparse)
    simp [ha]
  · intro hm
    obtain ⟨a, ha⟩ := Option.isSome_iff_exists.mp hm
    obtain ⟨hd, row, hrow, f, -, ⟨hid, hdel, -⟩, -⟩ := h.row u a ha
    refine ⟨_, hd, _, row, hrow, by simp [hdel], ?_⟩
    rw [hid, ← h.key u a ha, ← ValidAsset.text_id, Uuid.parse_text]

end DiskHolds

/-! ### Runs -/

abbrev StorageOp := Op AssetId ValidAsset

/-- The backend, the calls submitted to it so far in order, the answers given, by the number of the
call, and the calls whose posted answers a restart dropped. -/
structure Service where
  backend : VFSBackend ℕ := {}
  history : List StorageOp := []
  answers : List (ℕ × Completion) := []
  lost : List ℕ := []

inductive ServiceEvent
  | storeAsset (a : ValidAsset)
  | getAsset (u : AssetId)
  | dequeue
  | process
  | runHandler (i : ℕ)
  | restart

/-- The call a posted handler answers. -/
def callbackId : Handler ℕ → Option ℕ
  | .callback i _ => some i
  | _             => none

namespace Service

/-- Shut down and start again: the worker has finished, and the index is built from the disk. -/
def restart (s : Service) : Option Service :=
  if s.backend.workQueue.isEmpty && s.backend.current.isNone then
    (ExistenceIndex.load s.backend.world.disk).map fun index =>
      { s with
        backend := { world := VFSDatabase.restarted s.backend.world, existenceIndex := index }
        lost := s.lost ++ s.backend.posted.filterMap callbackId }
  else none

def step (s : Service) : ServiceEvent → Option Service
  | .storeAsset a =>
    some { s with
      backend := s.backend.storeAsset a.toAsset s.history.length
      history := s.history ++ [.insert a.id a] }
  | .getAsset u =>
    some { s with
      backend := s.backend.getAsset u.text s.history.length
      history := s.history ++ [.lookup u] }
  | .dequeue => s.backend.dequeue.map fun b => { s with backend := b }
  | .process => (s.backend.process []).map fun b => { s with backend := b }
  | .runHandler i => (s.backend.runHandler i).map fun (b, answer) =>
    { s with backend := b, answers := s.answers ++ answer.toList }
  | .restart => s.restart

/-- The requests the worker has not processed yet, in order. -/
def pending (s : Service) : List (AssetRequest ℕ) :=
  s.backend.current.toList ++ s.backend.workQueue

/-- How an operation waits in the queue. -/
def requestOf : ℕ × StorageOp → AssetRequest ℕ
  | (i, .insert _ a) => .put a.toAsset i
  | (i, .lookup u)   => .get u.text i

/-- The callback an answer of the map stands for. -/
def completionOf : StorageOp → Answer ValidAsset → Completion
  | .insert _ _, .inserted true => .stored true none
  | .insert _ a, _ => .stored false (some (VFSBackend.alreadyExistsError a.getUUID))
  | .lookup _, .found (some a) => .got (some a.toAsset) true none
  | .lookup u, _ => .got none false (some (VFSBackend.notFoundError u.text))

/-- The callback the `i`-th call is due. -/
def Due (history : List StorageOp) (i : ℕ) (c : Completion) : Prop :=
  ∃ op answer, history[i]? = some op ∧ answerAt history i = some answer ∧ c = completionOf op answer

/-- The map of the whole history. -/
def mapOf (history : List StorageOp) : AssetId → Option ValidAsset :=
  InsertOnce.run (fun _ => none) history

/-- An operation is queued only if the existence index let it through. -/
def LetThrough (history : List StorageOp) : ℕ × StorageOp → Prop
  | (i, .insert k a) => history[i]? = some (.insert k a) ∧ k = a.id ∧
    answerAt history i = some (.inserted true)
  | (i, .lookup u) => history[i]? = some (.lookup u) ∧
    ∃ a, answerAt history i = some (.found (some a))

/-- The service refines the insert-once map: `m` is on the disk and the operations `q` are held
back. -/
structure Refines (s : Service) (m : AssetId → Option ValidAsset) (q : List (ℕ × StorageOp)) :
    Prop where
  queue : s.pending = q.map requestOf
  letThrough : ∀ e ∈ q, LetThrough s.history e
  replays : Replays s.history m q (mapOf s.history)
  disk : DiskHolds s.backend.world.disk m
  openTables : OpenTables s.backend.world
  index : ∀ u : AssetId, u.toUuid ∈ s.backend.existenceIndex ↔ (mapOf s.history u).isSome
  posted : ∀ h ∈ s.backend.posted, ∃ i c, h = .callback i c ∧ Due s.history i c
  answers : ∀ p ∈ s.answers, Due s.history p.1 p.2
  conserved : (q.map (·.1) ++ s.backend.posted.filterMap callbackId ++ s.answers.map (·.1) ++
    s.lost).Perm (List.range s.history.length)

lemma Due.append {history : List StorageOp} {i : ℕ} {c : Completion} (h : Due history i c)
    (ops : List StorageOp) : Due (history ++ ops) i c := by
  obtain ⟨op, answer, hop, hans, hc⟩ := h
  refine ⟨op, answer, ?_, answerAt_append hans ops, hc⟩
  obtain ⟨hi, -⟩ := List.getElem?_eq_some_iff.mp hop
  rw [List.getElem?_append_left hi, hop]

lemma LetThrough.append {history : List StorageOp} {e : ℕ × StorageOp} (h : LetThrough history e)
    (ops : List StorageOp) : LetThrough (history ++ ops) e := by
  have hget {i : ℕ} {op : StorageOp} (hop : history[i]? = some op) :
      (history ++ ops)[i]? = some op := by
    obtain ⟨hi, -⟩ := List.getElem?_eq_some_iff.mp hop
    rw [List.getElem?_append_left hi, hop]
  match e, h with
  | (i, .insert k a), ⟨hop, hk, hans⟩ => exact ⟨hget hop, hk, answerAt_append hans ops⟩
  | (i, .lookup u), ⟨hop, a, hans⟩ => exact ⟨hget hop, a, answerAt_append hans ops⟩

lemma refines_init : Refines {} (fun _ => none) [] where
  queue := rfl
  letThrough := by simp
  replays := rfl
  disk := .empty
  openTables := ⟨LRUCache.coherent_empty _ _, by simp⟩
  index := by simp [mapOf, InsertOnce.run]
  posted := by simp
  answers := by simp
  conserved := .refl _

/-! ### Submitting -/

lemma mapOf_concat (history : List StorageOp) (op : StorageOp) :
    mapOf (history ++ [op]) = (apply (mapOf history) op).1 := by
  rw [mapOf, run_append]
  rfl

lemma answerAt_concat (history : List StorageOp) (op : StorageOp) :
    answerAt (history ++ [op]) history.length = some (apply (mapOf history) op).2 :=
  answerAt_length history op

/-- A number is accounted for once: the new call waits in the queue, or its answer is posted. -/
lemma conserved_concat {as bs cs ds : List ℕ} {n : ℕ}
    (h : (as ++ bs ++ cs ++ ds).Perm (List.range n)) :
    ((as ++ [n]) ++ bs ++ cs ++ ds).Perm (List.range (n + 1)) ∧
      (as ++ (bs ++ [n]) ++ cs ++ ds).Perm (List.range (n + 1)) := by
  rw [List.range_succ]
  constructor
  all_goals
    rw [List.perm_iff_count] at h ⊢
    intro x
    have hx := h x
    simp only [List.count_append] at hx ⊢
    omega

/-- A call that the existence index answers at once. -/
lemma Refines.submit_posted {s : Service} {m : AssetId → Option ValidAsset}
    {q : List (ℕ × StorageOp)} (h : Refines s m q) {op : StorageOp} {c : Completion}
    (hmap : (apply (mapOf s.history) op).1 = mapOf s.history)
    (hc : c = completionOf op (apply (mapOf s.history) op).2) :
    Refines { s with
      backend := s.backend.post [.callback s.history.length c]
      history := s.history ++ [op] } m q where
  queue := h.queue
  letThrough := fun e he => (h.letThrough e he).append _
  replays := by
    rw [mapOf_concat, hmap]
    exact h.replays.append_ops _
  disk := h.disk
  openTables := h.openTables
  index := fun u => by
    rw [mapOf_concat, hmap]
    exact h.index u
  posted := fun hd hhd => by
    rcases List.mem_append.mp hhd with hhd | hhd
    · obtain ⟨i, c, rfl, hdue⟩ := h.posted hd hhd
      exact ⟨i, c, rfl, hdue.append _⟩
    · rw [List.mem_singleton] at hhd
      exact ⟨_, c, hhd, op, _, by simp, answerAt_concat _ _, hc⟩
  answers := fun p hp => (h.answers p hp).append _
  conserved := by
    simp only [VFSBackend.post, List.filterMap_append, List.length_append, List.length_singleton]
    exact (conserved_concat h.conserved).2

/-- A call that is queued. -/
lemma Refines.submit_queued {s : Service} {m : AssetId → Option ValidAsset}
    {q : List (ℕ × StorageOp)} (h : Refines s m q) (op : StorageOp) {index : List Uuid}
    (hop : LetThrough (s.history ++ [op]) (s.history.length, op))
    (hindex : ∀ u : AssetId, u.toUuid ∈ index ↔ ((apply (mapOf s.history) op).1 u).isSome) :
    Refines { s with
      backend := { s.backend with
        existenceIndex := index
        workQueue := s.backend.workQueue ++ [requestOf (s.history.length, op)] }
      history := s.history ++ [op] } m (q ++ [(s.history.length, op)]) where
  queue := by
    have := h.queue
    simp only [pending] at this ⊢
    rw [← List.append_assoc, this, List.map_append]
    rfl
  letThrough := fun e he => by
    rcases List.mem_append.mp he with he | he
    · exact (h.letThrough e he).append _
    · rw [List.mem_singleton] at he
      exact he ▸ hop
  replays := by
    rw [mapOf_concat]
    exact (h.replays.append_ops _).concat (answerAt_concat _ _)
  disk := h.disk
  openTables := h.openTables
  index := fun u => by
    rw [mapOf_concat]
    exact hindex u
  posted := fun hd hhd => by
    obtain ⟨i, c, rfl, hdue⟩ := h.posted hd hhd
    exact ⟨i, c, rfl, hdue.append _⟩
  answers := fun p hp => (h.answers p hp).append _
  conserved := by
    simp only [List.map_append, List.map_cons, List.map_nil, List.length_append,
      List.length_singleton]
    exact (conserved_concat h.conserved).1

lemma Refines.storeAsset {s : Service} {m : AssetId → Option ValidAsset}
    {q : List (ℕ × StorageOp)} (h : Refines s m q) (a : ValidAsset) :
    ∃ q', Refines { s with
      backend := s.backend.storeAsset a.toAsset s.history.length
      history := s.history ++ [.insert a.id a] } m q' := by
  have hexists := ExistenceIndex.assetExists_text s.backend.existenceIndex a.id
  rw [h.index a.id, ValidAsset.text_id] at hexists
  simp only [VFSBackend.storeAsset]
  cases hm : mapOf s.history a.id with
  | some a₀ =>
    have happly := apply_insert_some hm a
    rw [if_pos (hexists.mpr (by simp [hm]))]
    exact ⟨q, h.submit_posted (by rw [happly]) (by rw [happly]; rfl)⟩
  | none =>
    have happly := apply_insert_none hm a
    rw [if_neg (fun hex => by simpa [hm] using hexists.mp hex)]
    refine ⟨_, h.submit_queued (.insert a.id a) ?_ fun u => ?_⟩
    · exact ⟨by simp, rfl, by rw [answerAt_concat, happly]⟩
    · rw [happly, ← ValidAsset.text_id, ExistenceIndex.mem_addNewId, AssetId.toUuid_inj, h.index u]
      by_cases hu : u = a.id
      · simp [hu]
      · simp [hu]

lemma Refines.getAsset {s : Service} {m : AssetId → Option ValidAsset}
    {q : List (ℕ × StorageOp)} (h : Refines s m q) (u : AssetId) :
    ∃ q', Refines { s with
      backend := s.backend.getAsset u.text s.history.length
      history := s.history ++ [.lookup u] } m q' := by
  have hexists := ExistenceIndex.assetExists_text s.backend.existenceIndex u
  rw [h.index u] at hexists
  simp only [VFSBackend.getAsset]
  cases hm : mapOf s.history u with
  | none =>
    have hno : ExistenceIndex.assetExists s.backend.existenceIndex u.text = false := by
      rw [← Bool.not_eq_true, hexists]
      simp [hm]
    rw [if_pos (by simp [hno])]
    exact ⟨q, h.submit_posted rfl (by rw [apply_lookup, hm]; rfl)⟩
  | some a =>
    rw [if_neg (by simp [hexists.mpr (by simp [hm])])]
    refine ⟨_, h.submit_queued (.lookup u) ?_ fun u => h.index u⟩
    exact ⟨by simp, a, by rw [answerAt_concat, apply_lookup, hm]⟩

/-! ### The worker and the io thread -/

lemma Refines.dequeue {s : Service} {m : AssetId → Option ValidAsset}
    {q : List (ℕ × StorageOp)} (h : Refines s m q) {b : VFSBackend ℕ}
    (hb : s.backend.dequeue = some b) : Refines { s with backend := b } m q := by
  unfold VFSBackend.dequeue at hb
  split at hb
  · next req rest hcur hqueue =>
    cases hb
    have hpending := h.queue
    simp only [pending, hcur, hqueue, Option.toList_none, List.nil_append] at hpending
    exact { h with queue := by simpa [pending] using hpending }
  · cases hb

/-- A round of the worker on a write whose asset is not on the disk. -/
lemma write_round {κ : Type} {k : Disk} {m : AssetId → Option ValidAsset} (hk : DiskHolds k m)
    {a : ValidAsset} (ha : m a.id = none) (i : κ) :
    Triple (fun w => (w.disk = k ∧ OpenTables w) ∧ Quiet True w)
      (VFSBackend.workLoop (.put a.toAsset i))
      (fun hs w => hs = [.callback i (.stored true none)] ∧
        DiskHolds w.disk (Function.update m a.id (some a)) ∧ OpenTables w)
      (fun _ _ => False) := by
  have hstore := VFSBackend.storeAssetSync_triple True k a.toAsset
    (fun _ => hk.newId ha _ _) (fun _ => a.size_lt)
  refine (VFSBackend.workLoop_triple (VFSBackend.performDiskWrite_triple i hstore)).conseq
    (fun _ h => h) ?_ ?_
  · rintro hs w ((⟨rfl, ⟨k₁, hprep, hd, -, -, hdisk⟩, ho, -⟩ | ⟨e, -, -, -, hq⟩) |
      ⟨e, -, -, -, -, hq⟩)
    · exact ⟨rfl, hdisk ▸ (hk.of_prepared hprep).stored ha hd, ho⟩
    · exact absurd trivial hq
    · exact absurd trivial hq
  · rintro e w ⟨-, -, -, hq⟩
    exact absurd trivial hq

/-- A round of the worker on a read: what the map says is posted. -/
lemma lookup_round {κ : Type} {k : Disk} {m : AssetId → Option ValidAsset} (hk : DiskHolds k m)
    (u : AssetId) (i : κ) :
    Triple (fun w => (w.disk = k ∧ OpenTables w) ∧ Quiet True w)
      (VFSBackend.workLoop (.get u.text i))
      (fun hs w => hs = VFSBackend.readDone u.text i ((m u).map (·.toAsset)) ∧
        DiskHolds w.disk m ∧ OpenTables w)
      (fun _ _ => False) := by
  have hget := VFSBackend.getAssetSync_triple True k u.text (hk.lookup u .globals)
    (fun _ => hk.lookup u .locals)
  have hfound : ((((m u).filter (VFSBackend.baseOf ·.toAsset = .globals)).map (·.toAsset)) <|>
      ((m u).filter (VFSBackend.baseOf ·.toAsset = .locals)).map (·.toAsset)) =
        (m u).map (·.toAsset) := by
    cases m u with
    | none => rfl
    | some a => cases hb : VFSBackend.baseOf a.toAsset <;> simp [Option.filter_some, hb]
  rw [hfound] at hget
  refine (VFSBackend.workLoop_triple (VFSBackend.performDiskRead_triple i hget)).conseq
    (fun _ h => h) ?_ ?_
  · rintro hs w ((⟨r, rfl, rfl, hprep, -⟩ | ⟨e, -, -, -, hq⟩) | ⟨e, -, -, -, -, hq⟩)
    · exact ⟨rfl, hk.of_prepared hprep.prepared, hprep.openTables⟩
    · exact absurd trivial hq
    · exact absurd trivial hq
  · rintro e w ⟨-, -, -, hq⟩
    exact absurd trivial hq

/-- A round of the worker on a read whose asset is on the disk. -/
lemma read_round {κ : Type} {k : Disk} {m : AssetId → Option ValidAsset} (hk : DiskHolds k m)
    {u : AssetId} {a : ValidAsset} (ha : m u = some a) (i : κ) :
    Triple (fun w => (w.disk = k ∧ OpenTables w) ∧ Quiet True w)
      (VFSBackend.workLoop (.get u.text i))
      (fun hs w => hs = [.callback i (.got (some a.toAsset) true none)] ∧
        DiskHolds w.disk m ∧ OpenTables w)
      (fun _ _ => False) := by
  have hround := lookup_round hk u i
  rw [ha] at hround
  exact hround

/-- The front of the queue and what the map says about it. -/
lemma Refines.current {s : Service} {m : AssetId → Option ValidAsset} {q : List (ℕ × StorageOp)}
    (h : Refines s m q) {req : AssetRequest ℕ} (hcur : s.backend.current = some req) :
    ∃ e q', q = e :: q' ∧ req = requestOf e ∧ s.backend.workQueue = q'.map requestOf := by
  have hpending := h.queue
  simp only [pending, hcur, Option.toList_some, List.singleton_append] at hpending
  cases q with
  | nil => simp at hpending
  | cons e q' =>
    obtain ⟨h₁, h₂⟩ := List.cons.inj hpending
    exact ⟨e, q', rfl, h₁, h₂⟩

/-- The round on the front of the queue: the answer that is due is posted, and the disk holds the
map after the operation. -/
lemma Refines.round {s : Service} {m : AssetId → Option ValidAsset} {e : ℕ × StorageOp}
    {q : List (ℕ × StorageOp)} (h : Refines s m (e :: q)) :
    Triple (fun w => (w.disk = s.backend.world.disk ∧ OpenTables w) ∧ Quiet True w)
      (VFSBackend.workLoop (requestOf e))
      (fun hs w => ∃ c, hs = [.callback e.1 c] ∧ Due s.history e.1 c ∧
        DiskHolds w.disk (apply m e.2).1 ∧ OpenTables w)
      (fun _ _ => False) := by
  have hthrough := h.letThrough e List.mem_cons_self
  obtain ⟨hans, -⟩ := h.replays
  match e, hthrough with
  | (i, .insert k a), ⟨hop, hk, hfresh⟩ =>
    subst hk
    have hm : m a.id = none := by
      cases hm : m a.id with
      | none => rfl
      | some a₀ => simp [hfresh, apply_insert_some hm] at hans
    rw [apply_insert_none hm]
    exact (write_round h.disk hm i).conseq (fun _ h => h)
      (fun hs w hw => ⟨_, hw.1, ⟨_, _, hop, hfresh, rfl⟩, hw.2⟩) fun _ _ h => h
  | (i, .lookup u), ⟨hop, a, hfound⟩ =>
    have hm : m u = some a := by
      rw [hfound, apply_lookup] at hans
      simpa using hans.symm
    exact (read_round h.disk hm i).conseq (fun _ h => h)
      (fun hs w hw => ⟨_, hw.1, ⟨_, _, hop, hfound, rfl⟩, hw.2⟩) fun _ _ h => h

lemma Refines.quietWorld {s : Service} {m : AssetId → Option ValidAsset}
    {q : List (ℕ × StorageOp)} (h : Refines s m q) :
    (({ s.backend.world with calls := [] } : World).disk = s.backend.world.disk ∧
      OpenTables { s.backend.world with calls := [] }) ∧
      Quiet True { s.backend.world with calls := [] } :=
  ⟨⟨rfl, h.openTables.coherent, h.openTables.hasTable⟩, fun _ => rfl⟩

/-- The worker's round: its one answer is posted. -/
lemma Refines.process {s : Service} {m : AssetId → Option ValidAsset} {q : List (ℕ × StorageOp)}
    (h : Refines s m q) {b : VFSBackend ℕ} (hb : s.backend.process [] = some b) :
    (∃ m' q', Refines { s with backend := b } m' q') ∧ s.backend.current.isSome ∧
      b.current = none ∧ b.workQueue = s.backend.workQueue ∧
      b.posted.length = s.backend.posted.length + 1 := by
  cases hcur : s.backend.current with
  | none => simp [VFSBackend.process, hcur] at hb
  | some req =>
    obtain ⟨e, q', rfl, rfl, hqueue⟩ := h.current hcur
    obtain ⟨hs, w, ⟨c, rfl, hdue, hdisk, ho⟩, rfl⟩ :=
      VFSBackend.process_of_triple hcur h.round h.quietWorld hb
    refine ⟨⟨(apply m e.2).1, q', ?_⟩, rfl, rfl, rfl, by simp⟩
    exact {
      queue := hqueue
      letThrough := fun e he => h.letThrough e (List.mem_cons_of_mem _ he)
      replays := h.replays.2
      disk := hdisk
      openTables := ho
      index := h.index
      posted := fun hd hhd => by
        rcases List.mem_append.mp hhd with hhd | hhd
        · exact h.posted hd hhd
        · rw [List.mem_singleton] at hhd
          exact ⟨_, c, hhd, hdue⟩
      answers := h.answers
      conserved := by
        refine List.Perm.trans ?_ h.conserved
        rw [List.perm_iff_count]
        intro x
        simp only [List.filterMap_append, List.filterMap_cons, callbackId, List.filterMap_nil,
          List.map_cons, List.count_append, List.count_cons, List.count_nil]
        omega }

lemma Refines.runHandler {s : Service} {m : AssetId → Option ValidAsset}
    {q : List (ℕ × StorageOp)} (h : Refines s m q) {i : ℕ} {hd : Handler ℕ}
    (hi : s.backend.posted[i]? = some hd) :
    ∃ j c, s.backend.runHandler i =
        some ({ s.backend with posted := s.backend.posted.eraseIdx i }, some (j, c)) ∧
      Refines { s with
        backend := { s.backend with posted := s.backend.posted.eraseIdx i }
        answers := s.answers ++ [(j, c)] } m q := by
  obtain ⟨j, c, rfl, hdue⟩ := h.posted hd (List.mem_of_getElem? hi)
  refine ⟨j, c, VFSBackend.runHandler_callback hi, ?_⟩
  exact { h with
    posted := fun hd hhd => h.posted hd (List.mem_of_mem_eraseIdx hhd)
    answers := fun p hp => by
      rcases List.mem_append.mp hp with hp | hp
      · exact h.answers p hp
      · obtain rfl := List.mem_singleton.mp hp
        exact hdue
    conserved := by
      refine List.Perm.trans ?_ h.conserved
      have hperm := (VFSBackend.posted_perm hi).filterMap callbackId
      rw [List.perm_iff_count] at hperm ⊢
      intro x
      have hx := hperm x
      simp only [List.filterMap_cons, callbackId, List.count_cons] at hx
      simp only [List.map_append, List.map_cons, List.map_nil, List.count_append, List.count_cons,
        List.count_nil]
      omega }

lemma Refines.restart {s s' : Service} {m : AssetId → Option ValidAsset}
    {q : List (ℕ × StorageOp)} (h : Refines s m q) (hs : s.restart = some s') :
    Refines s' m q := by
  unfold Service.restart at hs
  split_ifs at hs with hidle
  obtain ⟨index, hload, rfl⟩ := Option.map_eq_some_iff.mp hs
  simp only [Bool.and_eq_true, List.isEmpty_iff, Option.isNone_iff_eq_none] at hidle
  -- nothing is held back, so the map of the history is the map on the disk
  have hnil : q = [] := by simpa [pending, hidle] using h.queue.symm
  subst hnil
  have hmap : m = mapOf s.history := h.replays
  exact {
    queue := rfl
    letThrough := by simp
    replays := h.replays
    disk := h.disk
    openTables := VFSDatabase.openTables_restarted _
    index := fun u => by rw [← hmap]; exact h.disk.load hload u
    posted := by simp
    answers := h.answers
    conserved := by
      refine List.Perm.trans ?_ h.conserved
      rw [List.perm_iff_count]
      intro x
      simp only [List.filterMap_nil, List.count_append, List.count_nil]
      omega }

/-- Whatever a step does to the service, an insert-once map and a queue of operations follow it. -/
lemma Refines.step {s s' : Service} {m : AssetId → Option ValidAsset} {q : List (ℕ × StorageOp)}
    (h : Refines s m q) {ev : ServiceEvent} (hstep : s.step ev = some s') :
    ∃ m' q', Refines s' m' q' := by
  cases ev with
  | storeAsset a =>
    cases hstep
    exact ⟨m, h.storeAsset a⟩
  | getAsset u =>
    cases hstep
    exact ⟨m, h.getAsset u⟩
  | dequeue =>
    obtain ⟨b, hb, rfl⟩ := Option.map_eq_some_iff.mp hstep
    exact ⟨m, q, h.dequeue hb⟩
  | process =>
    obtain ⟨b, hb, rfl⟩ := Option.map_eq_some_iff.mp hstep
    exact (h.process hb).1
  | runHandler i =>
    obtain ⟨⟨b, answer⟩, hb, rfl⟩ := Option.map_eq_some_iff.mp hstep
    cases hi : s.backend.posted[i]? with
    | none => simp [VFSBackend.runHandler, hi] at hb
    | some hd =>
      obtain ⟨j, c, hrun, href⟩ := h.runHandler hi
      rw [hrun] at hb
      cases hb
      exact ⟨m, q, href⟩
  | restart => exact ⟨m, q, h.restart hstep⟩

/-- Every state that the service gets into stands for such a map and queue. -/
lemma refines_of_run {s : Service} {es : List ServiceEvent}
    (hrun : Machine.run Service.step {} es = some s) : ∃ m q, Refines s m q :=
  Machine.run_invariant' (I := fun s => ∃ m q, Refines s m q)
    (fun _ _ _ ⟨_, _, h⟩ hstep => h.step hstep) ⟨_, _, refines_init⟩ hrun

/-! ### Every call is answered -/

/-- The work ahead of the two threads. -/
def work (s : Service) : ℕ :=
  3 * s.backend.workQueue.length + 2 * s.backend.current.toList.length + s.backend.posted.length

/-- As long as there is work, some step does a part of it. -/
lemma Refines.progress {s : Service} {m : AssetId → Option ValidAsset} {q : List (ℕ × StorageOp)}
    (h : Refines s m q) (hwork : 0 < s.work) :
    ∃ ev s', s.step ev = some s' ∧ s'.history = s.history ∧ s'.lost = s.lost ∧
      s.answers <+: s'.answers ∧ s'.work < s.work := by
  cases hposted : s.backend.posted with
  | cons hd rest =>
    have hfirst : s.backend.posted[0]? = some hd := by simp [hposted]
    obtain ⟨j, c, hrun, -⟩ := h.runHandler hfirst
    refine ⟨.runHandler 0, { s with
      backend := { s.backend with posted := s.backend.posted.eraseIdx 0 }
      answers := s.answers ++ [(j, c)] }, by rw [Service.step, hrun]; rfl, rfl, rfl,
      List.prefix_append _ _, ?_⟩
    simp [work, hposted]
  | nil =>
    cases hcur : s.backend.current with
    | some req =>
      obtain ⟨e, q', rfl, rfl, -⟩ := h.current hcur
      have hsome := VFSBackend.process_isSome hcur h.round h.quietWorld
      obtain ⟨b, hb⟩ := Option.isSome_iff_exists.mp hsome
      obtain ⟨-, -, hcur', hqueue, hlen⟩ := h.process hb
      refine ⟨.process, { s with backend := b }, by rw [Service.step, hb]; rfl, rfl, rfl,
        List.prefix_refl _, ?_⟩
      simp [work, hcur, hcur', hqueue, hlen, hposted]
    | none =>
      cases hqueue : s.backend.workQueue with
      | nil => simp [work, hposted, hcur, hqueue] at hwork
      | cons req rest =>
        refine ⟨.dequeue, { s with backend := { s.backend with
          current := some req, workQueue := rest } }, ?_, rfl, rfl, List.prefix_refl _, ?_⟩
        · simp [Service.step, VFSBackend.dequeue, hcur, hqueue]
        · simp only [work, hcur, hqueue, Option.toList_none, Option.toList_some, List.length_cons,
            List.length_nil]
          omega

/-- The worker and the io thread can go on until nothing is left to do. -/
lemma Refines.drain {s : Service} {m : AssetId → Option ValidAsset} {q : List (ℕ × StorageOp)}
    (h : Refines s m q) :
    ∃ es s', Machine.run Service.step s es = some s' ∧ s'.history = s.history ∧
      s'.lost = s.lost ∧ s.answers <+: s'.answers ∧ s'.work = 0 := by
  obtain ⟨es, s', hrun, -, ⟨hhist, hlost, hans⟩, hwork⟩ := Machine.exists_run_to_zero
    (I := fun s => ∃ m q, Refines s m q) (w := work)
    (R := fun s s' => s'.history = s.history ∧ s'.lost = s.lost ∧ s.answers <+: s'.answers)
    (fun s => ⟨rfl, rfl, List.prefix_refl _⟩)
    (fun _ _ _ h h' => ⟨h'.1.trans h.1, h'.2.1.trans h.2.1, h.2.2.trans h'.2.2⟩)
    (fun s ⟨m, q, h⟩ hpos => by
      obtain ⟨ev, s', hstep, hhist, hlost, hans, hlt⟩ := h.progress hpos
      exact ⟨ev, s', hstep, h.step hstep, ⟨hhist, hlost, hans⟩, hlt⟩)
    ⟨m, q, h⟩
  exact ⟨es, s', hrun, hhist, hlost, hans, hwork⟩

/-- When no work is left, every call has its answer, apart from those a restart dropped. -/
lemma Refines.all_answered {s : Service} {m : AssetId → Option ValidAsset}
    {q : List (ℕ × StorageOp)} (h : Refines s m q) (hwork : s.work = 0) {i : ℕ}
    (hi : i < s.history.length) : i ∈ s.answers.map (·.1) ∨ i ∈ s.lost := by
  simp only [work, Nat.add_eq_zero_iff, Nat.mul_eq_zero, List.length_eq_zero_iff] at hwork
  have hnil : q = [] := by
    have := h.queue
    simp only [pending, hwork.1.1.resolve_left (by omega),
      hwork.1.2.resolve_left (by omega)] at this
    simpa using this.symm
  have hmem := h.conserved.mem_iff.mpr (List.mem_range.mpr hi)
  simpa [hnil, hwork.2] using hmem

/-! ### The refinement -/

/-- The answer to the `i`-th call is that of an insert-once map: a store succeeds if no earlier
store had its identifier, and a get gives the asset of the first earlier store with its
identifier. -/
def AnswersCall (history : List StorageOp) (i : ℕ) (c : Completion) : Prop :=
  match history[i]? with
  | some (.insert k a) =>
    (c = .stored true none ∧ ∀ a', Op.insert k a' ∉ history.take i) ∨
      (c = .stored false (some (VFSBackend.alreadyExistsError a.getUUID)) ∧
        ∃ a', Op.insert k a' ∈ history.take i)
  | some (.lookup u) =>
    (∃ a, FirstInsert (history.take i) u a ∧ c = .got (some a.toAsset) true none) ∨
      ((∀ a, Op.insert u a ∉ history.take i) ∧
        c = .got none false (some (VFSBackend.notFoundError u.text)))
  | none => False

lemma Due.answersCall {history : List StorageOp} {i : ℕ} {c : Completion} (h : Due history i c) :
    AnswersCall history i c := by
  obtain ⟨op, answer, hop, hans, rfl⟩ := h
  rw [answerAt, hop, Option.map_some, Option.some_inj] at hans
  subst hans
  unfold AnswersCall
  rw [hop]
  cases op with
  | insert k a =>
    cases hm : InsertOnce.run (fun _ => none) (history.take i) k with
    | none =>
      rw [apply_insert_none hm]
      exact .inl ⟨rfl, run_eq_none_iff.mp hm⟩
    | some a₀ =>
      rw [apply_insert_some hm]
      have hfirst := (run_eq_some_iff.mp hm).resolve_left (by simp)
      exact .inr ⟨rfl, a₀, hfirst.2.mem⟩
  | lookup u =>
    rw [apply_lookup]
    cases hm : InsertOnce.run (fun _ => none) (history.take i) u with
    | none => exact .inr ⟨run_eq_none_iff.mp hm, rfl⟩
    | some a =>
      have hfirst := (run_eq_some_iff.mp hm).resolve_left (by simp)
      exact .inl ⟨a, hfirst.2, rfl⟩

/-- The backend refines an insert-once map. In every run from an empty storage root, every answer is
the one an insert-once map gives to the call, no call is answered twice, and the two threads can
always go on to a state in which every call has been answered that no restart dropped. -/
theorem refines_insertOnce {es : List ServiceEvent} {s : Service}
    (hrun : Machine.run Service.step {} es = some s) :
    (∀ i c, (i, c) ∈ s.answers → AnswersCall s.history i c) ∧
      (s.answers.map (·.1) ++ s.lost).Nodup ∧
      ∃ es' s', Machine.run Service.step s es' = some s' ∧ s'.history = s.history ∧
        s'.lost = s.lost ∧ s.answers <+: s'.answers ∧
        ∀ i < s.history.length, i ∈ s'.answers.map (·.1) ∨ i ∈ s'.lost := by
  obtain ⟨m, q, h⟩ := refines_of_run hrun
  refine ⟨fun i c hc => (h.answers (i, c) hc).answersCall, ?_, ?_⟩
  · have hnodup := h.conserved.nodup_iff.mpr List.nodup_range
    rw [List.append_assoc] at hnodup
    exact hnodup.of_append_right
  · obtain ⟨es', s', hrun', hhist, hlost, hans, hwork⟩ := h.drain
    obtain ⟨m', q', h'⟩ := refines_of_run (Machine.run_append_eq_some.mpr ⟨s, hrun, hrun'⟩)
    exact ⟨es', s', hrun', hhist, hlost, hans, fun i hi => h'.all_answered hwork (hhist ▸ hi)⟩

/-- A store, a get of its asset, a second store and a restart. -/
def sampleRun : List ServiceEvent :=
  [.storeAsset VFSDatabase.zeroAsset, .getAsset VFSDatabase.zeroAsset.id, .dequeue, .process,
    .dequeue, .process, .storeAsset VFSDatabase.zeroAsset, .runHandler 1, .restart]

theorem sampleRun_refines :
    ∃ s, Machine.run Service.step {} sampleRun = some s ∧
      s.answers = [(1, .got (some VFSDatabase.zeroAsset.toAsset) true none)] ∧ s.lost = [0, 2] ∧
      ∀ i c, (i, c) ∈ s.answers → AnswersCall s.history i c := by
  obtain ⟨s, hrun, hans, hlost⟩ : ∃ s, Machine.run Service.step {} sampleRun = some s ∧
      s.answers = [(1, .got (some VFSDatabase.zeroAsset.toAsset) true none)] ∧ s.lost = [0, 2] :=
    ⟨_, rfl, rfl, rfl⟩
  exact ⟨s, hrun, hans, hlost, (refines_insertOnce hrun).1⟩

end Service

end Whip
