import Whip.Storage.Restart

/-!
# The readers of an index file

Four queries read the table of an index file: the existence index at start-up, the look-up of a
position, and the two listings. Each has its own test on the `deleted` column and on the position.
-/

namespace Whip

open Effect

/-- A content of the table `VFSDataIndex` that its schema admits: the primary key is an asset
identifier, and the integer columns hold anything. -/
structure IndexTable where
  rows : List IndexRow
  key : (rows.map (·.assetId)).Nodup
  ids : ∀ row ∈ rows, ∃ u : AssetId, row.assetId = u.text

namespace IndexTable

/-- The index file holds the table. -/
def StoredAt (t : IndexTable) (d : DirName) (b : Base) (w : World) : Prop :=
  w.disk.idx d b = .table t.rows

/-- What `ExistenceIndex::loadIndexFile` adds to an empty index. -/
def loadedIds (d : DirName) (b : Base) (w : World) : Set AssetId :=
  {u | ∃ index, ExistenceIndex.loadIndexFile w.disk [] (d, b) = some index ∧ u.toUuid ∈ index}

/-- Where `findAssetPosition` returns a valid position. -/
def retrievableIds (d : DirName) (b : Base) (w : World) : Set AssetId :=
  {u | ∃ position w', IndexFile.findAssetPosition d b u.text w = .ok position w' ∧
    position ≠ INVALID_POSITION}

def containedIdStrings (d : DirName) (b : Base) (w : World) : Set AssetId :=
  {u | ∃ ids w', IndexFile.getContainedAssetIdStrings d b w = .ok ids w' ∧ u.text ∈ ids}

def containedIds (d : DirName) (b : Base) (w : World) : Set AssetId :=
  {u | ∃ ids w', IndexFile.getContainedAssetIds d b w = .ok ids w' ∧ u.toUuid ∈ ids}

variable {t : IndexTable} {d : DirName} {b : Base} {w : World} {u : AssetId}

namespace StoredAt

lemma rows_eq (h : t.StoredAt d b w) : w.disk.rows d b = t.rows := by
  unfold StoredAt at h
  simp [Disk.rows, h]

lemma hasTable (h : t.StoredAt d b w) : w.disk.HasTable d b := ⟨t.rows, h⟩

end StoredAt

/-- The parser takes an identifier of a row to `u` if it is the text of `u`. -/
lemma parse_eq_iff {row : IndexRow} (hrow : row ∈ t.rows) :
    Uuid.parse row.assetId = .value u.toUuid ↔ row.assetId = u.text := by
  obtain ⟨v, hv⟩ := t.ids row hrow
  rw [hv, Uuid.parse_text, UuidResult.value.injEq, AssetId.toUuid_inj]
  exact ⟨fun h => by rw [h], fun h => AssetId.ext h⟩

/-! ### What each reader sees -/

lemma mem_loadedIds (h : t.StoredAt d b w) :
    u ∈ loadedIds d b w ↔
      ∃ row ∈ t.rows, row.assetId = u.text ∧ ExistenceIndex.columnInt row.deleted = 0 := by
  obtain ⟨index, hload⟩ := StorageRoot.loadRows_isSome t.ids []
  have hfile : ExistenceIndex.loadIndexFile w.disk [] (d, b) = some index := by
    unfold StoredAt at h
    rw [ExistenceIndex.loadIndexFile, h]
    exact hload
  have hmem : u ∈ loadedIds d b w ↔ u.toUuid ∈ index := by
    simp [loadedIds, hfile]
  rw [hmem, ExistenceIndex.mem_loadRows hload]
  constructor
  · rintro (hnil | ⟨row, hrow, hdel, hparse⟩)
    · exact absurd hnil List.not_mem_nil
    · exact ⟨row, hrow, (parse_eq_iff hrow).mp hparse, hdel⟩
  · rintro ⟨row, hrow, hid, hdel⟩
    exact .inr ⟨row, hrow, hdel, (parse_eq_iff hrow).mpr hid⟩

lemma positionIn_ne_iff :
    positionIn t.rows u.text ≠ INVALID_POSITION ↔
      ∃ row ∈ t.rows, row.assetId = u.text ∧ row.deleted ≠ 1 ∧
        row.position ≠ INVALID_POSITION := by
  cases hfind : t.rows.find? (·.assetId == u.text) with
  | none =>
    have hnone : ∀ row ∈ t.rows, row.assetId ≠ u.text := by simpa using hfind
    refine iff_of_false (by simp [positionIn, hfind]) ?_
    rintro ⟨row, hrow, hid, -⟩
    exact hnone row hrow hid
  | some row =>
    have hrow := List.mem_of_find?_eq_some hfind
    have hid : row.assetId = u.text := by simpa using List.find?_some hfind
    have hpos : positionIn t.rows u.text ≠ INVALID_POSITION ↔
        row.deleted ≠ 1 ∧ row.position ≠ INVALID_POSITION := by
      simp only [positionIn, hfind]
      split_ifs with hdel <;> simp [hdel]
    rw [hpos]
    refine ⟨fun h => ⟨row, hrow, hid, h⟩, ?_⟩
    -- the primary key leaves one row with this identifier
    rintro ⟨row', hrow', hid', h⟩
    obtain rfl := List.inj_on_of_nodup_map t.key hrow' hrow (hid'.trans hid.symm)
    exact h

lemma mem_retrievableIds (h : t.StoredAt d b w) (hw : w.calls = []) :
    u ∈ retrievableIds d b w ↔
      ∃ row ∈ t.rows, row.assetId = u.text ∧ row.deleted ≠ 1 ∧
        row.position ≠ INVALID_POSITION := by
  obtain ⟨position, w', hfind, rfl, -⟩ :=
    (findAssetPosition_triple True h.hasTable w.openFiles u.text).exists_ok
      ⟨⟨rfl, rfl⟩, fun _ => hw⟩ fun _ _ h => h.2 trivial
  rw [← positionIn_ne_iff, ← h.rows_eq]
  simp [retrievableIds, hfind]

lemma mem_containedIdStrings (h : t.StoredAt d b w) (hw : w.calls = []) :
    u ∈ containedIdStrings d b w ↔ ∃ row ∈ t.rows, row.assetId = u.text := by
  obtain ⟨ids, w', hids, rfl, -⟩ :=
    (VFSBackend.getContainedAssetIdStrings_reads True (P := t.StoredAt d b) (fun _ _ _ h => h)
      fun _ h => ⟨h.hasTable, h.rows_eq⟩).exists_ok ⟨h, fun _ => hw⟩ fun _ _ h => h.2 trivial
  simp [containedIdStrings, hids]

lemma mem_containedIds (h : t.StoredAt d b w) (hw : w.calls = []) :
    u ∈ containedIds d b w ↔ ∃ row ∈ t.rows, row.assetId = u.text := by
  obtain ⟨ids, w', hids, hmem, -⟩ :=
    (VFSBackend.getContainedAssetIds_reads True (P := t.StoredAt d b) (fun _ _ _ h => h)
      (fun _ h => ⟨h.hasTable, h.rows_eq⟩) fun _ => t.ids).exists_ok ⟨h, fun _ => hw⟩
      fun _ _ h => h.2 trivial
  have hids : u ∈ containedIds d b w ↔ u.toUuid ∈ ids := by
    simp [containedIds, hids]
  rw [hids, hmem]
  exact exists_congr fun row => and_congr_right fun hrow => parse_eq_iff hrow

/-! ### When they agree -/

/-- The four readers see the same assets if and only if every row is live for each of them: its
`deleted` column reads as zero in 32 bits, and its position is not the sentinel. -/
theorem readers_agree_iff (t : IndexTable) (d : DirName) (b : Base) (w : World)
    (h : t.StoredAt d b w) (hw : w.calls = []) :
    (loadedIds d b w = containedIdStrings d b w ∧ retrievableIds d b w = containedIdStrings d b w ∧
        containedIds d b w = containedIdStrings d b w) ↔
      ∀ row ∈ t.rows, ExistenceIndex.columnInt row.deleted = 0 ∧
        row.position ≠ INVALID_POSITION := by
  constructor
  · rintro ⟨hloaded, hfound, -⟩ row hrow
    obtain ⟨u, hu⟩ := t.ids row hrow
    have hlisted : u ∈ containedIdStrings d b w :=
      (mem_containedIdStrings h hw).mpr ⟨row, hrow, hu⟩
    have hkey {row' : IndexRow} (hrow' : row' ∈ t.rows) (hid : row'.assetId = u.text) :
        row' = row :=
      List.inj_on_of_nodup_map t.key hrow' hrow (hid.trans hu.symm)
    constructor
    · obtain ⟨row', hrow', hid, hdel⟩ := (mem_loadedIds h).mp (hloaded ▸ hlisted)
      exact hkey hrow' hid ▸ hdel
    · obtain ⟨row', hrow', hid, -, hpos⟩ := (mem_retrievableIds h hw).mp (hfound ▸ hlisted)
      exact hkey hrow' hid ▸ hpos
  · intro hlive
    have hone (row : IndexRow) (hdel : ExistenceIndex.columnInt row.deleted = 0) :
        row.deleted ≠ 1 := by
      rintro hdel'
      rw [hdel'] at hdel
      exact absurd hdel (by decide)
    refine ⟨Set.ext fun u => ?_, Set.ext fun u => ?_, Set.ext fun u => ?_⟩
    · rw [mem_loadedIds h, mem_containedIdStrings h hw]
      exact exists_congr fun row => and_congr_right fun hrow =>
        and_iff_left (hlive row hrow).1
    · rw [mem_retrievableIds h hw, mem_containedIdStrings h hw]
      exact exists_congr fun row => and_congr_right fun hrow =>
        and_iff_left ⟨hone row (hlive row hrow).1, (hlive row hrow).2⟩
    · rw [mem_containedIds h hw, mem_containedIdStrings h hw]

/-- The identifier of 32 times the digit `n`. -/
def digitId (n : Fin 10) : AssetId :=
  ⟨List.replicate 32 (UInt8.ofNat (48 + n)), by revert n; decide⟩

/-- Three rows on which the readers differ. -/
def sample : IndexTable where
  rows := [⟨(digitId 1).text, 64, 0, 1⟩, ⟨(digitId 2).text, 64, 0, 2⟩, ⟨(digitId 3).text, 0, 0, 0⟩]
  key := by decide
  ids := by
    intro row hrow
    simp only [List.mem_cons, List.not_mem_nil, or_false] at hrow
    rcases hrow with rfl | rfl | rfl
    · exact ⟨digitId 1, rfl⟩
    · exact ⟨digitId 2, rfl⟩
    · exact ⟨digitId 3, rfl⟩

/-- The world with the table in the index of the directory `000`. -/
def world (t : IndexTable) : World :=
  { disk := ({} : Disk).setIdx [48, 48, 48] .globals (.table t.rows) }

lemma storedAt_world (t : IndexTable) : t.StoredAt [48, 48, 48] .globals t.world := by
  simp [StoredAt, world]

/-- A row flagged 1 is listed and neither loaded nor found; one flagged 2 is listed and found, and
not loaded; one at position 0 is listed and loaded, and not found. -/
theorem readers_disagree :
    sample.StoredAt [48, 48, 48] .globals sample.world ∧ sample.world.calls = [] ∧
      (digitId 1 ∈ containedIdStrings [48, 48, 48] .globals sample.world ∧
        digitId 1 ∉ loadedIds [48, 48, 48] .globals sample.world ∧
        digitId 1 ∉ retrievableIds [48, 48, 48] .globals sample.world) ∧
      (digitId 2 ∈ retrievableIds [48, 48, 48] .globals sample.world ∧
        digitId 2 ∉ loadedIds [48, 48, 48] .globals sample.world) ∧
      digitId 3 ∈ loadedIds [48, 48, 48] .globals sample.world ∧
      digitId 3 ∉ retrievableIds [48, 48, 48] .globals sample.world := by
  have h := storedAt_world sample
  refine ⟨h, rfl, ?_⟩
  simp only [mem_containedIdStrings h rfl, mem_loadedIds h, mem_retrievableIds h rfl]
  decide

/-- Three live rows. -/
def live : IndexTable where
  rows := [⟨(digitId 1).text, 64, 0, 0⟩, ⟨(digitId 2).text, 192, 0, 0⟩,
    ⟨(digitId 3).text, 320, 0, 0⟩]
  key := by decide
  ids := by simp

theorem live_readers_agree :
    live.StoredAt [48, 48, 48] .globals live.world ∧ live.world.calls = [] ∧
      loadedIds [48, 48, 48] .globals live.world =
        containedIdStrings [48, 48, 48] .globals live.world ∧
      retrievableIds [48, 48, 48] .globals live.world =
        containedIdStrings [48, 48, 48] .globals live.world := by
  obtain ⟨hloaded, hfound, -⟩ :=
    (readers_agree_iff live _ _ _ (storedAt_world live) rfl).mpr (by decide)
  exact ⟨storedAt_world live, rfl, hloaded, hfound⟩

end IndexTable

end Whip
