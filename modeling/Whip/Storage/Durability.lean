import Whip.Storage.Index
import Whip.Lib.Machine

/-!
# Acknowledged stores

One `VFSDatabase`, an index and a data file, under any sequence of stores, each of which may fail or
be stopped at any point of its effects. The invariant is that every row of the index points at a
whole record of its asset: data files only grow, and the row is inserted after the record is there.

The sentinel `INVALID_POSITION` is the offset of the first byte, so an asset recorded there is lost.
That happens exactly when the data file was there and empty as the store began, which is what a
store leaves that was cut between the creation of the file and the first byte of its header.
-/

namespace Whip

open Bytes Effect

/-! ### One store -/

/-- The disk after a complete `storeAsset`. -/
def Disk.stored (k : Disk) (d : DirName) (b : Base) (a : Asset) : Disk :=
  (k.setData d b (some (k.contents d b ++ appended k d b a))).setIdx d b
    (.table (k.rows d b ++ [rowOf a (newPosition k d b)]))

/-- What a store can leave behind that did not return: nothing, a part of the record, or all of its
effects. -/
inductive StoreCut (k : Disk) (d : DirName) (b : Base) (a : Asset) : Disk → Prop
  | nothing : StoreCut k d b a k
  | part (p : ByteString) (hp : p <+: appended k d b a) :
    StoreCut k d b a (k.setData d b (some (k.contents d b ++ p)))
  | done (hnew : NewId k d b a) (ha : a.data.length < 2 ^ 32) :
    StoreCut k d b a (k.stored d b a)

/-- What the rows and the bytes of a database say about an identifier. -/
inductive Lookup (k : Disk) (d : DirName) (b : Base) (uuid : ByteString) : Option Asset → Prop
  | absent (hpos : positionIn (k.rows d b) uuid = INVALID_POSITION) : Lookup k d b uuid none
  | found {a : Asset} (p : ℕ) (f : ByteString) (hpos : positionIn (k.rows d b) uuid = p)
    (hne : p ≠ 0) (hf : k.data d b = some f) (ha : a.data.length < 2 ^ 32)
    (hrec : OccursAt f p (recordOf a)) : Lookup k d b uuid (some a)

lemma Lookup.of_prepared {k k' : Disk} {d : DirName} {b : Base} {uuid : ByteString}
    {r : Option Asset} (h : Lookup k d b uuid r) (hk : Prepared k k') : Lookup k' d b uuid r := by
  cases h with
  | absent hpos => exact .absent (hk.rows ▸ hpos)
  | found p f hpos hne hf ha hrec => exact .found p f (hk.rows ▸ hpos) hne (hk.data ▸ hf) ha hrec

namespace VFSDatabase

lemma assetExists_triple (q : Prop) {d : DirName} {b : Base} {k : Disk}
    (hk : k.HasTable d b) (o : LRUCache (DirName × Base) Unit) (uuid : ByteString) :
    Triple (fun w => At k o w ∧ Quiet q w) (assetExists d b uuid)
      (fun r w => (r = true ↔ positionIn (k.rows d b) uuid ≠ INVALID_POSITION) ∧
        At k o w ∧ Quiet q w)
      (fun _ w => At k o w ∧ ¬ q) := by
  refine (findAssetPosition_triple q hk o uuid).bind fun position => .pure _ fun w h => ⟨?_, h.2⟩
  rw [h.1]
  simp

/-- `writeNewAsset`, and the open index files beside it. -/
lemma writeNewAsset_at (q : Prop) {d : DirName} {b : Base} {k : Disk}
    (o : LRUCache (DirName × Base) Unit) (a : Asset) (ha : q → a.data.length < 2 ^ 32) :
    Triple (fun w => At k o w ∧ Quiet q w) (DataFile.writeNewAsset d b a)
      (fun pos w => pos = newPosition k d b ∧ a.data.length < 2 ^ 32 ∧
        At (k.setData d b (some (k.contents d b ++ appended k d b a))) o w ∧ Quiet q w)
      (fun _ w => (StoreCut k d b a w.disk ∧ w.openFiles = o) ∧ ¬ q) := by
  have hframe := PosixDataFileImpl.keeps_writeNewAsset d b a
  refine ((writeNewAsset_triple q d b a k ha).frame (G := fun w => w.openFiles = o) hframe
    fun s t hst hs => hst.openFiles.trans hs).conseq (fun w h => ⟨⟨h.1.1, h.2⟩, h.1.2⟩) ?_ ?_
  · rintro pos w ⟨⟨hpos, hlt, hdisk, hq⟩, ho⟩
    exact ⟨hpos, hlt, ⟨hdisk, ho⟩, hq⟩
  · rintro _ w ⟨⟨hq, hdisk | ⟨p, hp, hdisk⟩⟩, ho⟩
    · exact ⟨⟨hdisk ▸ .nothing, ho⟩, hq⟩
    · exact ⟨⟨hdisk ▸ .part p hp, ho⟩, hq⟩

/-- A store that returns has recorded the position of a whole record; one that does not has cut its
effects short. -/
lemma storeAsset_triple (q : Prop) {d : DirName} {b : Base} {k : Disk} (hk : k.HasTable d b)
    (o : LRUCache (DirName × Base) Unit) (a : Asset) (hnew : q → NewId k d b a)
    (ha : q → a.data.length < 2 ^ 32) :
    Triple (fun w => At k o w ∧ Quiet q w) (storeAsset d b a)
      (fun _ w => (NewId k d b a ∧ a.data.length < 2 ^ 32) ∧ At (k.stored d b a) o w ∧ Quiet q w)
      (fun _ w => (StoreCut k d b a w.disk ∧ w.openFiles = o) ∧ ¬ q) := by
  have hnothing {w : World} (h : At k o w) : StoreCut k d b a w.disk ∧ w.openFiles = o :=
    ⟨h.1 ▸ .nothing, h.2⟩
  refine Triple.bind ((assetExists_triple q hk o a.getUUID).conseq (fun _ h => h) (fun _ _ h => h)
    fun _ w h => ⟨hnothing h.1, h.2⟩) fun found => ?_
  cases found with
  | true =>
    refine .throw _ fun w h => ⟨hnothing h.2.1, fun hq => ?_⟩
    exact h.1.mp rfl (hnew hq).positionIn
  | false =>
    rintro w ⟨-, hw⟩
    refine Triple.bind (writeNewAsset_at q o a ha) (fun position => ?_) w hw
    intro w ⟨hpos, hlt, hw⟩
    subst hpos
    set k₁ := k.setData d b (some (k.contents d b ++ appended k d b a)) with hk₁
    refine ((recordAssetPosition_triple q (k := k₁) hk o a (newPosition k d b) hnew).conseq
      (fun _ h => h) ?_ ?_) w hw
    · rintro _ w ⟨hn, hw, hq⟩
      exact ⟨⟨hn, hlt⟩, hw, hq⟩
    · rintro _ w ⟨⟨hdisk, ho⟩ | ⟨hn, hdisk, ho⟩, hq⟩
      · exact ⟨⟨hdisk ▸ .part _ (List.prefix_refl _), ho⟩, hq⟩
      · refine ⟨⟨?_, ho⟩, hq⟩
        rw [hdisk]
        exact .done hn hlt

/-- What a get returns for an identifier whose rows and bytes are as `Lookup` says. -/
lemma getAsset_triple (q : Prop) {d : DirName} {b : Base} {k : Disk} (hk : k.HasTable d b)
    (o : LRUCache (DirName × Base) Unit) {uuid : ByteString} {r : Option Asset}
    (hr : Lookup k d b uuid r) :
    Triple (fun w => At k o w ∧ Quiet q w) (getAsset d b uuid)
      (fun r' w => r' = r ∧ At k o w ∧ Quiet q w) (fun _ w => At k o w ∧ ¬ q) := by
  refine (findAssetPosition_triple q hk o uuid).bind fun position => ?_
  rintro w ⟨rfl, hw⟩
  cases hr with
  | absent hpos =>
    rw [if_pos hpos]
    exact ⟨rfl, hw⟩
  | found p f hpos hne hf ha hrec =>
    rw [hpos, if_neg (by simpa [INVALID_POSITION] using hne)]
    have hread := (getAssetAtPosition_triple q hf ha hrec).frame (G := fun w => w.openFiles = o)
      (PosixDataFileImpl.keeps_getAssetAtPosition d b p) fun s t hst hs => hst.openFiles.trans hs
    refine Triple.bind (hread.conseq (fun _ h => h) (fun _ _ h => h)
      fun _ w h => ⟨⟨h.1.1, h.2⟩, h.1.2⟩) (fun asset => ?_) w ⟨⟨hw.1.1, hw.2⟩, hw.1.2⟩
    rintro w ⟨⟨rfl, hdisk, hq⟩, ho⟩
    exact ⟨rfl, ⟨hdisk, ho⟩, hq⟩

/-- Whatever a get finds, it leaves the disk as it is. -/
lemma getAsset_frame {d : DirName} {b : Base} {k : Disk} (hk : k.HasTable d b)
    (o : LRUCache (DirName × Base) Unit) (uuid : ByteString) :
    Triple (At k o) (getAsset d b uuid) (fun _ => At k o) (fun _ => At k o) := by
  refine Triple.bind ((findAssetPosition_triple False hk o uuid).conseq
    (fun w h => ⟨h, False.elim⟩) (fun _ _ h => h.2.1) fun _ _ h => h.1) fun position => ?_
  have hread : Triple (At k o) (DataFile.getAssetAtPosition d b position)
      (fun _ => At k o) (fun _ => At k o) := by
    intro w hw
    have hsame := PosixDataFileImpl.keeps_getAssetAtPosition d b position w
    have hat {w' : World} (h : PosixDataFileImpl.SameDisk w w') : At k o w' :=
      ⟨h.disk.trans hw.1, h.openFiles.trans hw.2⟩
    cases hres : DataFile.getAssetAtPosition d b position w with
    | ok a w' =>
      rw [hres] at hsame
      exact hat hsame
    | error e w' =>
      rw [hres] at hsame
      exact hat hsame
  apply Triple.ite
  · exact fun _ => .pure _ fun w h => h
  · exact fun _ => hread.bind fun asset => .pure _ fun w h => h

end VFSDatabase

/-! ### Every row points at a record -/

/-- The row points at a whole record of an asset with the row's identifier. -/
def PointsAt (f : ByteString) (row : IndexRow) (a : Asset) : Prop :=
  row.assetId = a.getUUID ∧ row.deleted = 0 ∧ a.data.length < 2 ^ 32 ∧
    ∃ p : ℕ, row.position = p ∧ OccursAt f p (recordOf a)

/-- The rows of a database have distinct identifiers, and each points at its record. -/
structure RowsPoint (k : Disk) (d : DirName) (b : Base) : Prop where
  nodup : ((k.rows d b).map (·.assetId)).Nodup
  points : ∀ row ∈ k.rows d b, ∃ f a, k.data d b = some f ∧ PointsAt f row a

/-- The position of a row, by its identifier. -/
lemma positionIn_of_mem {rows : List IndexRow} (hnodup : (rows.map (·.assetId)).Nodup)
    {row : IndexRow} (hrow : row ∈ rows) (hdel : row.deleted = 0) :
    positionIn rows row.assetId = row.position := by
  have hfind : rows.find? (·.assetId == row.assetId) = some row := by
    induction rows with
    | nil => simp at hrow
    | cons r rows ih =>
      rw [List.map_cons, List.nodup_cons] at hnodup
      rcases List.mem_cons.mp hrow with rfl | hrow
      · simp
      · have hne : r.assetId ≠ row.assetId :=
          fun h => hnodup.1 (h ▸ List.mem_map_of_mem hrow)
        rw [List.find?_cons_of_neg (by simpa using hne)]
        exact ih hnodup.2 hrow
  simp [positionIn, hfind, hdel]

/-- What a row says about its identifier. -/
lemma RowsPoint.lookup {k : Disk} {d : DirName} {b : Base} (h : RowsPoint k d b) {f : ByteString}
    {row : IndexRow} {a : Asset} (hrow : row ∈ k.rows d b) (hf : k.data d b = some f)
    (hpoint : PointsAt f row a) :
    Lookup k d b a.getUUID (if row.position = INVALID_POSITION then none else some a) := by
  obtain ⟨hid, hdel, ha, p, hp, hocc⟩ := hpoint
  have hpos : positionIn (k.rows d b) a.getUUID = row.position := by
    rw [← hid]
    exact positionIn_of_mem h.nodup hrow hdel
  split_ifs with hzero
  · exact .absent (hpos.trans hzero)
  · refine .found p f (hpos.trans hp) ?_ hf ha hocc
    rintro rfl
    exact hzero hp

/-- Rows and bytes are only added. -/
structure Grows (d : DirName) (b : Base) (k k' : Disk) : Prop where
  rows : k.rows d b <+: k'.rows d b
  data : ∀ f, k.data d b = some f → ∃ g, k'.data d b = some (f ++ g)

namespace Grows

variable {d : DirName} {b : Base} {k k₁ k₂ k₃ : Disk}

lemma refl (k : Disk) : Grows d b k k :=
  ⟨List.prefix_refl _, fun f hf => ⟨[], by rw [hf, List.append_nil]⟩⟩

lemma trans (h : Grows d b k₁ k₂) (h' : Grows d b k₂ k₃) : Grows d b k₁ k₃ := by
  refine ⟨h.rows.trans h'.rows, fun f hf => ?_⟩
  obtain ⟨g, hg⟩ := h.data f hf
  obtain ⟨g', hg'⟩ := h'.data _ hg
  exact ⟨g ++ g', by rw [hg', List.append_assoc]⟩

lemma of_prepared (h : Prepared k₁ k₂) : Grows d b k₁ k₂ := by
  refine ⟨by rw [h.rows], fun f hf => ⟨[], ?_⟩⟩
  rw [h.data, hf, List.append_nil]

/-- A record that is there stays there. -/
lemma pointsAt (h : Grows d b k₁ k₂) {f : ByteString} (hf : k₁.data d b = some f) {row : IndexRow}
    {a : Asset} (hrow : PointsAt f row a) : ∃ g, k₂.data d b = some g ∧ PointsAt g row a := by
  obtain ⟨g, hg⟩ := h.data f hf
  obtain ⟨hid, hdel, ha, p, hp, hocc⟩ := hrow
  exact ⟨_, hg, hid, hdel, ha, p, hp, hocc.append g⟩

end Grows

section Store

variable {k k' : Disk} {d : DirName} {b : Base} {a : Asset}

@[simp] lemma Disk.rows_stored :
    (k.stored d b a).rows d b = k.rows d b ++ [rowOf a (newPosition k d b)] := by
  simp [Disk.stored, Disk.rows_setIdx]

@[simp] lemma Disk.data_stored :
    (k.stored d b a).data d b = some (k.contents d b ++ appended k d b a) := by
  simp [Disk.stored]

lemma Disk.rows_stored_of_ne {d' : DirName} {b' : Base} (h : ¬ (d' = d ∧ b' = b)) :
    (k.stored d b a).rows d' b' = k.rows d' b' := by
  rw [Disk.stored, Disk.rows_setIdx, if_neg h, Disk.rows_setData]

lemma Disk.data_stored_of_ne {d' : DirName} {b' : Base} (h : ¬ (d' = d ∧ b' = b)) :
    (k.stored d b a).data d' b' = k.data d' b' := by
  rw [Disk.stored, Disk.data_setIdx, Disk.data_setData, if_neg h]

lemma appended_ne_nil : appended k d b a ≠ [] := by
  simp [appended, recordOf, toBigEndian]

lemma newPosition_eq_zero_iff :
    newPosition k d b = 0 ↔ k.data d b = some [] := by
  unfold newPosition Disk.contents headerFor
  cases hdata : k.data d b with
  | none => simp [dataFileHeader]
  | some f => simp

/-- The row of a store points at its record. -/
lemma pointsAt_stored (ha : a.data.length < 2 ^ 32) :
    PointsAt (k.contents d b ++ appended k d b a) (rowOf a (newPosition k d b)) a := by
  refine ⟨rfl, rfl, ha, newPosition k d b, rfl, ?_⟩
  rw [appended, ← List.append_assoc]
  exact occursAt_append_end _ _

lemma grows_setData (p : ByteString) :
    Grows d b k (k.setData d b (some (k.contents d b ++ p))) := by
  refine ⟨List.prefix_refl _, fun f hf => ⟨p, ?_⟩⟩
  simp [Disk.contents, hf]

lemma grows_stored : Grows d b k (k.stored d b a) := by
  refine ⟨by simp, fun f hf => ⟨appended k d b a, ?_⟩⟩
  simp [Disk.contents, hf]

lemma StoreCut.grows (h : StoreCut k d b a k') : Grows d b k k' := by
  cases h with
  | nothing => exact .refl k
  | part p hp => exact grows_setData p
  | done => exact grows_stored

/-- A disk that only grew without new rows. -/
lemma RowsPoint.of_grows (h : RowsPoint k d b) (hg : Grows d b k k')
    (hrows : k'.rows d b = k.rows d b) : RowsPoint k' d b := by
  refine ⟨hrows ▸ h.nodup, fun row hrow => ?_⟩
  obtain ⟨f, a, hf, hpoint⟩ := h.points row (hrows ▸ hrow)
  obtain ⟨g, hg, hpoint'⟩ := hg.pointsAt hf hpoint
  exact ⟨g, a, hg, hpoint'⟩

/-- The property is about one database only. -/
lemma RowsPoint.congr (h : RowsPoint k d b) (hrows : k'.rows d b = k.rows d b)
    (hdata : k'.data d b = k.data d b) : RowsPoint k' d b :=
  ⟨hrows ▸ h.nodup, by rw [hrows, hdata]; exact h.points⟩

lemma RowsPoint.stored (h : RowsPoint k d b) (hnew : NewId k d b a) (ha : a.data.length < 2 ^ 32) :
    RowsPoint (k.stored d b a) d b := by
  constructor
  · rw [Disk.rows_stored, List.map_append, List.nodup_append]
    refine ⟨h.nodup, by simp, ?_⟩
    simp only [List.mem_map, List.map_cons, List.map_nil, List.mem_singleton]
    rintro id ⟨row, hrow, rfl⟩ _ rfl
    exact hnew row hrow
  · intro row hrow
    rw [Disk.rows_stored, List.mem_append, List.mem_singleton] at hrow
    rcases hrow with hrow | rfl
    · obtain ⟨f, a', hf, hpoint⟩ := h.points row hrow
      obtain ⟨g, hg, hpoint'⟩ := (grows_stored (a := a)).pointsAt hf hpoint
      exact ⟨g, a', hg, hpoint'⟩
    · exact ⟨_, a, Disk.data_stored, pointsAt_stored ha⟩

lemma StoreCut.rowsPoint (h : StoreCut k d b a k') (hk : RowsPoint k d b) : RowsPoint k' d b := by
  cases h with
  | nothing => exact hk
  | part p hp => exact hk.of_grows (grows_setData p) rfl
  | done hnew ha => exact hk.stored hnew ha

lemma Disk.HasTable.stored {d' : DirName} {b' : Base} (h : k.HasTable d' b') :
    (k.stored d b a).HasTable d' b' := by
  obtain ⟨rows, hrows⟩ := h
  unfold Disk.HasTable Disk.stored
  rw [Disk.idx_setIdx]
  split_ifs
  · exact ⟨_, rfl⟩
  · exact ⟨rows, hrows⟩

lemma StoreCut.hasTable (h : StoreCut k d b a k') {d' : DirName} {b' : Base}
    (ht : k.HasTable d' b') : k'.HasTable d' b' := by
  cases h with
  | nothing => exact ht
  | part p hp => exact ht
  | done hnew ha => exact ht.stored

lemma StoreCut.dirs (h : StoreCut k d b a k') : k'.dirs = k.dirs := by
  cases h <;> rfl

end Store

/-- The index files that are open stay in order under a store. -/
lemma OpenTables.of_store {k : Disk} {d : DirName} {b : Base} {a : Asset} {w w' : World}
    (h : OpenTables w) (hk : w.disk = k) (hcut : StoreCut k d b a w'.disk)
    (ho : w'.openFiles = w.openFiles) : OpenTables w' where
  coherent := ho ▸ h.coherent
  hasTable := fun n hn => hcut.hasTable (hk ▸ h.hasTable n (ho ▸ hn))

/-! ### Runs of stores -/

namespace VFSDatabase

/-- Open the database, as for every request, and store. -/
def openAndStore (d : DirName) (b : Base) (a : Asset) : VfsM Unit := do
  mount d b
  storeAsset d b a

/-- Open the database and read. -/
def openAndGet (d : DirName) (b : Base) (uuid : ByteString) : VfsM (Option Asset) := do
  mount d b
  getAsset d b uuid

lemma openAndStore_triple {k : Disk} {d : DirName} (b : Base) (hd : d ∈ k.dirs) (a : Asset) :
    Triple (fun w => w.disk = k ∧ OpenTables w) (openAndStore d b a)
      (fun _ w => OpenTables w ∧ ∃ k₁, Prepared k k₁ ∧ NewId k₁ d b a ∧ a.data.length < 2 ^ 32 ∧
        w.disk = k₁.stored d b a)
      (fun _ w => OpenTables w ∧ ∃ k₁, Prepared k k₁ ∧ StoreCut k₁ d b a w.disk) := by
  refine Triple.bind ((mount_triple False b hd).conseq
    (fun w h => ⟨⟨h.1 ▸ .refl _, h.2⟩, False.elim⟩) (fun _ _ h => h)
    fun _ w h => ⟨h.1.openTables, w.disk, h.1.prepared, .nothing⟩) fun _ => ?_
  rintro w ⟨hw, ht, -⟩
  refine ((storeAsset_triple False ht w.openFiles a False.elim False.elim).conseq
    (fun _ h => h) ?_ ?_) w ⟨⟨rfl, rfl⟩, False.elim⟩
  · rintro _ w' ⟨⟨hnew, ha⟩, ⟨hdisk, ho⟩, -⟩
    have hcut : StoreCut w.disk d b a w'.disk := hdisk ▸ .done hnew ha
    exact ⟨hw.openTables.of_store rfl hcut ho, w.disk, hw.prepared, hnew, ha, hdisk⟩
  · rintro _ w' ⟨⟨hcut, ho⟩, -⟩
    exact ⟨hw.openTables.of_store rfl hcut ho, w.disk, hw.prepared, hcut⟩

/-- A store, and what each of its calls does. -/
structure StoreEvent where
  asset : ValidAsset
  calls : List Call

/-- A new process on the same disk. -/
def restarted (w : World) : World := { disk := w.disk }

/-- One store. A failed one is reported to its caller; after a stop the program is started again. -/
def step (d : DirName) (b : Base) (w : World) (e : StoreEvent) : Option World :=
  match openAndStore d b e.asset.toAsset { w with calls := e.calls } with
  | .ok _ w'           => some w'
  | .error .stopped w' => some (restarted w')
  | .error _ w'        => some w'

/-- What holds between two stores. -/
structure Invariant (d : DirName) (b : Base) (w : World) : Prop where
  dir : d ∈ w.disk.dirs
  openTables : OpenTables w
  rowsPoint : RowsPoint w.disk d b

lemma openTables_restarted (w : World) : OpenTables (restarted w) :=
  ⟨LRUCache.coherent_empty _ _, by simp [restarted]⟩

/-- A store that returns has written its record and its row on a prepared disk. -/
lemma Invariant.of_ok {d : DirName} {b : Base} {w w' : World} {a : Asset} {cs : List Call}
    (h : Invariant d b w) (hok : openAndStore d b a { w with calls := cs } = .ok () w') :
    Invariant d b w' ∧ ∃ k₁, Prepared w.disk k₁ ∧ a.data.length < 2 ^ 32 ∧
      w'.disk = k₁.stored d b a := by
  obtain ⟨ho, k₁, hprep, hnew, ha, hdisk⟩ :=
    (openAndStore_triple b h.dir a).of_ok (s := { w with calls := cs })
      ⟨rfl, h.openTables.coherent, h.openTables.hasTable⟩ hok
  have hk₁ := h.rowsPoint.of_grows (.of_prepared hprep) (by rw [hprep.rows])
  refine ⟨⟨?_, ho, hdisk ▸ hk₁.stored hnew ha⟩, k₁, hprep, ha, hdisk⟩
  rw [hdisk]
  exact hprep.dirs d h.dir

/-- A store that returns, fails or is cut short adds rows and bytes, and removes none. -/
lemma Invariant.step {d : DirName} {b : Base} {w w' : World} {e : StoreEvent}
    (h : Invariant d b w) (hstep : VFSDatabase.step d b w e = some w') :
    Invariant d b w' ∧ Grows d b w.disk w'.disk := by
  have hgrows {k₁ : Disk} (hprep : Prepared w.disk k₁) : Grows d b w.disk k₁ := .of_prepared hprep
  unfold VFSDatabase.step at hstep
  cases hres : openAndStore d b e.asset.toAsset { w with calls := e.calls } with
  | ok u w₁ =>
    obtain ⟨hinv, k₁, hprep, -, hdisk⟩ := h.of_ok hres
    rw [hres] at hstep
    cases hstep
    exact ⟨hinv, hdisk ▸ (hgrows hprep).trans grows_stored⟩
  | error x w₁ =>
    obtain ⟨ho, k₁, hprep, hcut⟩ := (openAndStore_triple b h.dir e.asset.toAsset).of_error
      (s := { w with calls := e.calls }) ⟨rfl, h.openTables.coherent, h.openTables.hasTable⟩ hres
    have hk₁ := h.rowsPoint.of_grows (hgrows hprep) (by rw [hprep.rows])
    have hinv : Invariant d b w₁ :=
      ⟨hcut.dirs ▸ hprep.dirs d h.dir, ho, hcut.rowsPoint hk₁⟩
    have hgr : Grows d b w.disk w₁.disk := (hgrows hprep).trans hcut.grows
    rw [hres] at hstep
    cases x with
    | stopped =>
      cases hstep
      exact ⟨⟨hinv.dir, openTables_restarted w₁, hinv.rowsPoint⟩, hgr⟩
    | _ =>
      cases hstep
      exact ⟨hinv, hgr⟩

/-- So does any number of stores. -/
lemma Invariant.run {d : DirName} {b : Base} {w w' : World} {es : List StoreEvent}
    (h : Invariant d b w) (hrun : Machine.run (VFSDatabase.step d b) w es = some w') :
    Invariant d b w' ∧ Grows d b w.disk w'.disk := by
  refine Machine.run_invariant' (I := fun w' => Invariant d b w' ∧ Grows d b w.disk w'.disk)
    (fun s e s' hs hstep => ?_) ⟨h, .refl _⟩ hrun
  obtain ⟨hinv, hgrows⟩ := hs.1.step hstep
  exact ⟨hinv, hs.2.trans hgrows⟩

/-- Every get of the asset that returns gives it back, and a get without failures returns. -/
def Retrieves (d : DirName) (b : Base) (w : World) (a : Asset) : Prop :=
  (∀ cs r w', openAndGet d b a.getUUID { w with calls := cs } = .ok r w' → r = some a) ∧
    ∃ w', openAndGet d b a.getUUID { w with calls := [] } = .ok (some a) w'

/-- What a get returns for an identifier whose row points at a record. -/
lemma openAndGet_triple (q : Prop) {d : DirName} {b : Base} {k : Disk} (hdir : d ∈ k.dirs)
    (hk : RowsPoint k d b) {f : ByteString} {row : IndexRow} {a : Asset} (hrow : row ∈ k.rows d b)
    (hf : k.data d b = some f) (hpoint : PointsAt f row a) :
    Triple (fun w => (w.disk = k ∧ OpenTables w) ∧ Quiet q w) (openAndGet d b a.getUUID)
      (fun r _ => r = if row.position = INVALID_POSITION then none else some a)
      (fun _ _ => ¬ q) := by
  have hlookup := hk.lookup hrow hf hpoint
  refine Triple.bind ((mount_triple q b hdir).conseq (fun _ h => ⟨⟨h.1.1 ▸ .refl _, h.1.2⟩, h.2⟩)
    (fun _ _ h => h) fun _ _ h => h.2) fun _ => ?_
  rintro w ⟨hw, ht, hq⟩
  exact ((getAsset_triple q ht w.openFiles (hlookup.of_prepared hw.prepared)).conseq
    (fun _ h => h) (fun _ _ h => h.1) fun _ _ h => h.2) w ⟨⟨rfl, rfl⟩, hq⟩

/-- Reading back what a row points at works exactly if the position is not the sentinel. -/
lemma retrieves_iff {d : DirName} {b : Base} {w : World} (h : Invariant d b w) {f : ByteString}
    {row : IndexRow} {a : Asset} (hrow : row ∈ w.disk.rows d b) (hf : w.disk.data d b = some f)
    (hpoint : PointsAt f row a) : Retrieves d b w a ↔ row.position ≠ INVALID_POSITION := by
  have hget (q : Prop) := openAndGet_triple q h.dir h.rowsPoint hrow hf hpoint
  have hpre (q : Prop) (cs : List Call) (hcs : q → cs = []) :
      (({ w with calls := cs } : World).disk = w.disk ∧ OpenTables { w with calls := cs }) ∧
        Quiet q { w with calls := cs } :=
    ⟨⟨rfl, h.openTables.coherent, h.openTables.hasTable⟩, hcs⟩
  constructor
  · rintro ⟨-, w', hok⟩ hzero
    have := (hget True).of_ok (hpre True [] fun _ => rfl) hok
    simp [hzero] at this
  · intro hne
    refine ⟨fun cs r w' hok => ?_, ?_⟩
    · have := (hget False).of_ok (hpre False cs False.elim) hok
      simpa [hne] using this
    · cases hres : openAndGet d b a.getUUID { w with calls := [] } with
      | ok r w' =>
        have := (hget True).of_ok (hpre True [] fun _ => rfl) hres
        rw [if_neg hne] at this
        exact ⟨w', by rw [this]⟩
      | error e w' => exact absurd trivial ((hget True).of_error (hpre True [] fun _ => rfl) hres)

/-- An acknowledged store stays retrievable through all further stores, whatever fails before and
after it, exactly if the data file was not there with no bytes in it when the store began. -/
theorem acknowledged_retrievable_iff {d : DirName} {b : Base} {w₀ w₁ w₂ w₃ : World}
    (hdir : d ∈ w₀.disk.dirs) (hopen : OpenTables w₀) (hidx : w₀.disk.idx d b = .absent)
    {es₁ es₂ : List StoreEvent} (hbefore : Machine.run (VFSDatabase.step d b) w₀ es₁ = some w₁)
    {a : ValidAsset} {cs : List Call}
    (hack : openAndStore d b a.toAsset { w₁ with calls := cs } = .ok () w₂)
    (hafter : Machine.run (VFSDatabase.step d b) w₂ es₂ = some w₃) :
    (Retrieves d b w₃ a.toAsset ∧
        positionIn (w₃.disk.rows d b) a.getUUID ≠ INVALID_POSITION) ↔
      w₁.disk.data d b ≠ some [] := by
  have hrows₀ : w₀.disk.rows d b = [] := by simp [Disk.rows, hidx]
  have hinv₀ : Invariant d b w₀ := ⟨hdir, hopen, by simp [hrows₀], by simp [hrows₀]⟩
  obtain ⟨hinv₁, -⟩ := hinv₀.run hbefore
  obtain ⟨hinv₂, k₁, hprep, ha, hdisk⟩ := hinv₁.of_ok hack
  obtain ⟨hinv₃, hgrows⟩ := hinv₂.run hafter
  -- the row of the store, and the record it points at, are still there
  set row := rowOf a.toAsset (newPosition k₁ d b) with hrowdef
  have hrow : row ∈ w₃.disk.rows d b := hgrows.rows.subset (by simp [hdisk, hrowdef])
  have hdata₂ : w₂.disk.data d b = some (k₁.contents d b ++ appended k₁ d b a.toAsset) := by
    rw [hdisk, Disk.data_stored]
  obtain ⟨f, hf, hpoint⟩ := hgrows.pointsAt hdata₂ (pointsAt_stored ha)
  have hpos : positionIn (w₃.disk.rows d b) a.getUUID = row.position :=
    positionIn_of_mem hinv₃.rowsPoint.nodup hrow rfl
  have hzero : row.position = INVALID_POSITION ↔ w₁.disk.data d b = some [] := by
    rw [← hprep.data, ← newPosition_eq_zero_iff]
    simp [hrowdef, rowOf, INVALID_POSITION]
  rw [retrieves_iff hinv₃ hrow hf hpoint, hpos, and_self, ne_eq, hzero]

/-- An asset of the smallest size, with the identifier of all zeros. -/
def zeroAsset : ValidAsset where
  data := List.replicate 34 48
  size_ge := by decide
  size_lt := by decide
  valid := by decide

/-- The directory of `zeroAsset`, with nothing in it. -/
def emptyRoot : World := { disk := { dirs := [[48, 48, 48]] } }

lemma emptyRoot_openTables : OpenTables emptyRoot := openTables_restarted emptyRoot

/-- A store of another asset of the directory, that the process stops in after `n` calls and a part
of the next one. -/
def cutRecord (n : ℕ) : StoreEvent where
  asset :=
    { data := (sampleAsset 1).data
      size_ge := by decide
      size_lt := by decide
      valid := by decide }
  calls := List.replicate n ({} : Call) ++ [{ outcome := .stop 5 }]

/-- A store that follows one cut in the middle of its record, and that another one, cut before its
row, follows. -/
theorem zeroAsset_retrievable :
    ∃ w₁ w₂ w₃, Machine.run (VFSDatabase.step [48, 48, 48] .globals) emptyRoot [cutRecord 13] =
        some w₁ ∧ (w₁.disk.data [48, 48, 48] .globals).map List.length = some 17 ∧
      openAndStore [48, 48, 48] .globals zeroAsset.toAsset { w₁ with calls := [] } = .ok () w₂ ∧
      Machine.run (VFSDatabase.step [48, 48, 48] .globals) w₂ [cutRecord 14] = some w₃ ∧
      Retrieves [48, 48, 48] .globals w₃ zeroAsset.toAsset := by
  obtain ⟨w₁, w₂, w₃, hbefore, hlen, hack, hafter⟩ : ∃ w₁ w₂ w₃,
      Machine.run (VFSDatabase.step [48, 48, 48] .globals) emptyRoot [cutRecord 13] = some w₁ ∧
      (w₁.disk.data [48, 48, 48] .globals).map List.length = some 17 ∧
      openAndStore [48, 48, 48] .globals zeroAsset.toAsset { w₁ with calls := [] } = .ok () w₂ ∧
      Machine.run (VFSDatabase.step [48, 48, 48] .globals) w₂ [cutRecord 14] = some w₃ :=
    ⟨_, _, _, rfl, rfl, rfl, rfl⟩
  have hne : w₁.disk.data [48, 48, 48] .globals ≠ some [] := fun h => by simp [h] at hlen
  exact ⟨w₁, w₂, w₃, hbefore, hlen, hack, hafter, ((acknowledged_retrievable_iff (by decide)
    emptyRoot_openTables rfl hbefore hack hafter).mpr hne).1⟩

/-- A store that the process stops in, after its eleventh call has created the data file. -/
def cutStore : StoreEvent where
  asset := zeroAsset
  calls := List.replicate 10 {} ++ [{ outcome := .stop 1 }]

/-- The next store of the asset is acknowledged and the asset is not found. -/
theorem cutStore_not_retrievable :
    ∃ w₁ w₂, Machine.run (VFSDatabase.step [48, 48, 48] .globals) emptyRoot [cutStore] = some w₁ ∧
      openAndStore [48, 48, 48] .globals zeroAsset.toAsset { w₁ with calls := [] } = .ok () w₂ ∧
      ¬ Retrieves [48, 48, 48] .globals w₂ zeroAsset.toAsset ∧
      positionIn (w₂.disk.rows [48, 48, 48] .globals) zeroAsset.getUUID = INVALID_POSITION := by
  refine ⟨_, _, rfl, rfl, ?_, rfl⟩
  rintro ⟨-, w', hget⟩
  cases hget

end VFSDatabase

end Whip
