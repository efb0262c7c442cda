import Whip.Storage.Rounds
import Whip.Storage.Writes

/-!
# Starting again after an interruption

The storage root goes through gets, stores and purges, and the process may stop in any of their
calls. When it is started again the constructor of `ExistenceIndex` reads every index file. This
module says on which of the roots that can come about it succeeds, and whether the identifiers it
finds are those that can be retrieved.
-/

namespace Whip

open Effect

/-! ### The storage root through requests and interruptions -/

/-- A request that the worker carries out. A purge of a directory is two of them. -/
inductive RootOp
  | get (uuid : AssetId)
  | store (asset : ValidAsset)
  | purgeLocals (head : DirName)
  | deleteLocalStorage (head : DirName)

def RootOp.request : RootOp → AssetRequest Unit
  | .get uuid                => .get uuid.text ()
  | .store asset             => .put asset.toAsset ()
  | .purgeLocals head        => .purgeLocals head
  | .deleteLocalStorage head => .deleteLocalStorage head

/-- A request with what its calls do, or a stop between two requests. -/
inductive RootEvent
  | request (op : RootOp) (calls : List Call)
  | stop

namespace StorageRoot

/-- After a stop there is a new process on the same disk. -/
def step (w : World) : RootEvent → Option World
  | .request op calls =>
    match VFSBackend.workLoop op.request { w with calls := calls } with
    | .ok _ w'    => some w'
    | .error _ w' => some (VFSDatabase.restarted w')
  | .stop => some (VFSDatabase.restarted w)

/-- Every row points at a record, and stands in the index of its identifier's directory. -/
structure Filed (w : World) : Prop extends w.Intact where
  placed : ∀ d b, ∀ row ∈ w.disk.rows d b, ∃ u : AssetId, row.assetId = u.text ∧ u.dir = d

lemma Filed.restarted {w : World} (hintact : w.disk.Intact)
    (hplaced : ∀ d b, ∀ row ∈ w.disk.rows d b, ∃ u : AssetId, row.assetId = u.text ∧ u.dir = d) :
    Filed (VFSDatabase.restarted w) :=
  ⟨⟨VFSDatabase.openTables_restarted w, hintact⟩, hplaced⟩

lemma filed_empty : Filed {} := .restarted (w := {}) .empty (by simp [Disk.rows])

/-- A request, whatever fails in it, and a restart leave every row in its identifier's directory. -/
lemma Filed.step {w w' : World} (h : Filed w) {e : RootEvent} (hstep : step w e = some w') :
    Filed w' := by
  cases e with
  | stop =>
    cases hstep
    exact .restarted h.disk h.placed
  | request op calls =>
    have hstart : ({ w with calls := calls } : World).disk = w.disk ∧
        OpenTables { w with calls := calls } :=
      ⟨rfl, h.openTables.coherent, h.openTables.hasTable⟩
    have hspec := VFSBackend.workLoop_spec h.toIntact op.request
    have haffects := VFSBackend.workLoop_affects w.disk op.request
    have hplaced {hs : List (Handler Unit)} {k' : Disk}
        (haff : VFSBackend.Affects w.disk op.request hs k') :
        ∀ d b, ∀ row ∈ k'.rows d b, ∃ u : AssetId, row.assetId = u.text ∧ u.dir = d := by
      intro d b row hrow
      rcases haff.mem_rows hrow with hrow | ⟨a, c, hreq, hid, rfl, -⟩
      · exact h.placed d b row hrow
      · cases op with
        | store asset =>
          cases hreq
          exact ⟨asset.id, hid, rfl⟩
        | _ => cases hreq
    simp only [StorageRoot.step] at hstep
    cases hloop : VFSBackend.workLoop op.request { w with calls := calls } with
    | ok hs w₁ =>
      rw [hloop] at hstep
      cases hstep
      exact ⟨(hspec.of_ok hstart hloop).2, hplaced (haffects.of_ok hstart hloop).1⟩
    | error e w₁ =>
      rw [hloop] at hstep
      cases hstep
      obtain ⟨hs, haff⟩ := haffects.of_error hstart hloop
      exact .restarted (hspec.of_error hstart hloop) (hplaced haff)

/-! ### What can be retrieved -/

/-- `DatabaseSet(path).getAsset(uuid)` on the identifier's directory, in a process that has just
been started, returns an asset. -/
def Retrievable (k : Disk) (u : AssetId) : Prop :=
  ∃ a w', (do DatabaseSet.mount u.dir; DatabaseSet.getAsset u.dir u.text) { disk := k } =
    .ok (some a) w'

/-- The identifier has a row whose position is not the sentinel. -/
def HasPosition (k : Disk) (d : DirName) (assetId : ByteString) : Prop :=
  ∃ b, ∃ row ∈ k.rows d b, row.assetId = assetId ∧ row.position ≠ INVALID_POSITION

/-- What one database says. -/
lemma exists_lookup_isSome {k : Disk} {d : DirName} {b : Base} (h : RowsPoint k d b)
    (uuid : ByteString) : ∃ r, Lookup k d b uuid r ∧
      (r.isSome ↔ ∃ row ∈ k.rows d b, row.assetId = uuid ∧ row.position ≠ INVALID_POSITION) := by
  by_cases hrow : ∃ row ∈ k.rows d b, row.assetId = uuid
  · obtain ⟨row, hrow, hid⟩ := hrow
    obtain ⟨f, a, hf, hpoint⟩ := h.points row hrow
    refine ⟨_, hid ▸ hpoint.1 ▸ h.lookup hrow hf hpoint, ?_⟩
    -- the identifier has no other row
    have hunique (row' : IndexRow) (hrow' : row' ∈ k.rows d b) (hid' : row'.assetId = uuid) :
        row' = row := List.inj_on_of_nodup_map h.nodup hrow' hrow (hid'.trans hid.symm)
    split_ifs with hzero
    · simp only [Option.isSome_none, Bool.false_eq_true, false_iff]
      rintro ⟨row', hrow', hid', hne⟩
      exact hne (hunique row' hrow' hid' ▸ hzero)
    · simp only [Option.isSome_some, true_iff]
      exact ⟨row, hrow, hid, hzero⟩
  · refine ⟨none, .absent ?_, by simpa using fun row hmem hid => absurd ⟨row, hmem, hid⟩ hrow⟩
    have hfind : (k.rows d b).find? (·.assetId == uuid) = none := by
      simpa using fun row hmem hid => hrow ⟨row, hmem, hid⟩
    simp [positionIn, hfind]

/-- The directory must be there, or the set cannot be mounted. -/
lemma dir_of_mount {k : Disk} {d : DirName} {w' : World}
    (h : DatabaseSet.mount d { disk := k } = .ok () w') : d ∈ k.dirs := by
  by_contra hd
  have hexists : fsExists (·.dirs.contains d) { disk := k } =
      .ok (k.dirs.contains d) ({ disk := k } : World) := rfl
  obtain ⟨_, w₁, hglobals, -⟩ := bind_eq_ok h
  unfold VFSDatabase.mount at hglobals
  rw [bind_ok hexists, if_pos (by simpa using hd)] at hglobals
  cases hglobals

lemma retrievable_iff {k : Disk} (h : k.Intact) (u : AssetId) :
    Retrievable k u ↔ u.dir ∈ k.dirs ∧ HasPosition k u.dir u.text := by
  obtain ⟨rg, hg, hgsome⟩ := exists_lookup_isSome (h u.dir .globals) u.text
  obtain ⟨rl, hl, hlsome⟩ := exists_lookup_isSome (h u.dir .locals) u.text
  have hsome : (rg <|> rl).isSome ↔ HasPosition k u.dir u.text := by
    have hor : (rg <|> rl).isSome ↔ rg.isSome ∨ rl.isSome := by
      cases rg <;> simp
    rw [hor, hgsome, hlsome]
    constructor
    · rintro (hrow | hrow)
      · exact ⟨.globals, hrow⟩
      · exact ⟨.locals, hrow⟩
    · rintro ⟨b, hrow⟩
      cases b with
      | globals => exact .inl hrow
      | locals => exact .inr hrow
  by_cases hd : u.dir ∈ k.dirs
  · have htriple := ((VFSBackend.databaseSet_mount_triple True k u.dir).bind fun _ =>
      VFSBackend.databaseSet_getAsset_triple True k u.dir u.text hg fun _ => hl)
    have hstart : PreparedFrom k { disk := k } ∧ u.dir ∈ ({ disk := k } : World).disk.dirs ∧
        Quiet True { disk := k } :=
      ⟨⟨.refl _, VFSDatabase.openTables_restarted { disk := k }⟩, hd, fun _ => rfl⟩
    simp only [hd, true_and]
    constructor
    · rintro ⟨a, w', hok⟩
      rw [← hsome, ← (htriple.of_ok hstart hok).1]
      rfl
    · intro hpos
      obtain ⟨r, w', hres, hr, -⟩ := htriple.exists_ok hstart fun _ _ h => h.2 trivial
      obtain ⟨a, ha⟩ := Option.isSome_iff_exists.mp (hsome.mpr hpos)
      exact ⟨a, w', by rw [hres, hr, ha]⟩
  · refine iff_of_false (fun ⟨a, w', hok⟩ => ?_) fun h => hd h.1
    obtain ⟨_, w₁, hmount, -⟩ := bind_eq_ok hok
    exact hd (dir_of_mount hmount)

/-! ### What the constructor reads -/

lemma loadRows_isSome {rows : List IndexRow}
    (h : ∀ row ∈ rows, ∃ u : AssetId, row.assetId = u.text) (index : List Uuid) :
    ∃ index', ExistenceIndex.loadRows index rows = some index' := by
  induction rows generalizing index with
  | nil => exact ⟨index, rfl⟩
  | cons row rows ih =>
    obtain ⟨u, hu⟩ := h row List.mem_cons_self
    rw [ExistenceIndex.loadRows, hu, Uuid.parse_text]
    have hrest := ih fun row' hrow' => h row' (List.mem_cons_of_mem row hrow')
    split_ifs
    · exact hrest _
    · exact hrest _

/-- The constructor throws if and only if it comes to an index file without tables. -/
lemma load_isSome_iff {k : Disk}
    (h : ∀ d b, ∀ row ∈ k.rows d b, ∃ u : AssetId, row.assetId = u.text) :
    (∃ index, ExistenceIndex.load k = some index) ↔ ∀ d ∈ k.dirs, ∀ b, k.idx d b ≠ .noTables := by
  have hfile (index : List Uuid) (file : DirName × Base) :
      (∃ index', ExistenceIndex.loadIndexFile k index file = some index') ↔
        k.idx file.1 file.2 ≠ .noTables := by
    unfold ExistenceIndex.loadIndexFile
    cases hidx : k.idx file.1 file.2 with
    | absent | noTables => simp
    | table rows =>
      have hrows := h file.1 file.2
      rw [Disk.rows, hidx] at hrows
      simpa using loadRows_isSome hrows index
  have hfiles (files : List (DirName × Base)) (index : List Uuid) :
      (∃ index', files.foldlM (ExistenceIndex.loadIndexFile k) index = some index') ↔
        ∀ file ∈ files, k.idx file.1 file.2 ≠ .noTables := by
    induction files generalizing index with
    | nil => simp
    | cons file files ih =>
      rw [List.forall_mem_cons, ← hfile index file]
      constructor
      · rintro ⟨index', hfold⟩
        rw [List.foldlM_cons] at hfold
        obtain ⟨index₁, h₁, h₂⟩ := Option.bind_eq_some_iff.mp hfold
        exact ⟨⟨index₁, h₁⟩, (ih index₁).mp ⟨index', h₂⟩⟩
      · rintro ⟨⟨index₁, h₁⟩, hrest⟩
        obtain ⟨index', h₂⟩ := (ih index₁).mpr hrest
        exact ⟨index', by rw [List.foldlM_cons]; exact Option.bind_eq_some_iff.mpr ⟨_, h₁, h₂⟩⟩
  unfold ExistenceIndex.load
  rw [hfiles]
  simp only [List.mem_flatMap, List.mem_cons, List.not_mem_nil, or_false]
  constructor
  · intro hall d hd b
    exact hall (d, b) ⟨d, hd, by cases b <;> simp⟩
  · rintro hall _ ⟨d, hd, rfl | rfl⟩
    · exact hall d hd .globals
    · exact hall d hd .locals

/-- The process can be started on this disk: the constructor returns, and the identifiers it has
found are those that can be retrieved. -/
def Restarts (k : Disk) : Prop :=
  ∃ index, ExistenceIndex.load k = some index ∧
    ∀ x, x ∈ index ↔ ∃ u : AssetId, u.toUuid = x ∧ Retrievable k u

/-- No index file is without its tables, and every identifier that has a row has a row with a
position. -/
structure Complete (k : Disk) : Prop where
  tables : ∀ d ∈ k.dirs, ∀ b, k.idx d b ≠ .noTables
  positions : ∀ d ∈ k.dirs, ∀ b, ∀ row ∈ k.rows d b, HasPosition k d row.assetId

/-- What the constructor finds are the identifiers with a row. -/
lemma Filed.mem_load {w : World} (h : Filed w) {index : List Uuid}
    (hload : ExistenceIndex.load w.disk = some index) (u : AssetId) :
    u.toUuid ∈ index ↔
      u.dir ∈ w.disk.dirs ∧ ∃ b, ∃ row ∈ w.disk.rows u.dir b, row.assetId = u.text := by
  rw [ExistenceIndex.mem_load hload]
  constructor
  · rintro ⟨d, hd, b, row, hrow, -, hparse⟩
    obtain ⟨u', hid, rfl⟩ := h.placed d b row hrow
    rw [hid, Uuid.parse_text, UuidResult.value.injEq, AssetId.toUuid_inj] at hparse
    subst hparse
    exact ⟨hd, b, row, hrow, hid⟩
  · rintro ⟨hd, b, row, hrow, hid⟩
    obtain ⟨f, a, -, hpoint⟩ := (h.disk u.dir b).points row hrow
    exact ⟨u.dir, hd, b, row, hrow, by simp [hpoint.2.1], by rw [hid, Uuid.parse_text]⟩

lemma Filed.restarts_iff {w : World} (h : Filed w) : Restarts w.disk ↔ Complete w.disk := by
  have hids : ∀ d b, ∀ row ∈ w.disk.rows d b, ∃ u : AssetId, row.assetId = u.text :=
    fun d b row hrow => (h.placed d b row hrow).imp fun _ hu => hu.1
  constructor
  · rintro ⟨index, hload, hexact⟩
    refine ⟨(load_isSome_iff hids).mp ⟨index, hload⟩, fun d hd b row hrow => ?_⟩
    obtain ⟨u, hid, rfl⟩ := h.placed d b row hrow
    obtain ⟨u', heq, hret⟩ := (hexact _).mp ((h.mem_load hload u).mpr ⟨hd, b, row, hrow, hid⟩)
    rw [AssetId.toUuid_inj] at heq
    subst heq
    rw [hid]
    exact ((retrievable_iff h.disk u').mp hret).2
  · intro hc
    obtain ⟨index, hload⟩ := (load_isSome_iff hids).mpr hc.tables
    refine ⟨index, hload, fun x => ⟨fun hx => ?_, ?_⟩⟩
    · obtain ⟨d, hd, b, row, hrow, -, hparse⟩ := (ExistenceIndex.mem_load hload).mp hx
      obtain ⟨u, hid, rfl⟩ := h.placed d b row hrow
      rw [hid, Uuid.parse_text, UuidResult.value.injEq] at hparse
      exact ⟨u, hparse, (retrievable_iff h.disk u).mpr ⟨hd, hid ▸ hc.positions _ hd b row hrow⟩⟩
    · rintro ⟨u, rfl, hret⟩
      obtain ⟨hd, b, row, hrow, hid, -⟩ := (retrievable_iff h.disk u).mp hret
      exact (h.mem_load hload u).mpr ⟨hd, b, row, hrow, hid⟩

/-- The process can be started again on a root that gets, stores, purges and interruptions have led
to if and only if no index file was left without its tables, and no identifier has only rows that
point at the start of a data file. -/
theorem restarts_iff_complete {es : List RootEvent} {w : World}
    (hrun : Machine.run step {} es = some w) : Restarts w.disk ↔ Complete w.disk :=
  (Machine.run_invariant' (fun _ _ _ h hstep => h.step hstep) filed_empty hrun).restarts_iff

/-- A store without failures. -/
def storedRoot : List RootEvent := [.request (.store VFSDatabase.zeroAsset) []]

theorem storedRoot_restarts :
    ∃ w, Machine.run step {} storedRoot = some w ∧ Restarts w.disk := by
  obtain ⟨w, hrun, hdirs, hglobals, hlocals⟩ : ∃ w, Machine.run step {} storedRoot = some w ∧
      w.disk.dirs = [[48, 48, 48]] ∧
      w.disk.idx [48, 48, 48] .globals = .table [⟨List.replicate 32 48, 8, 48, 0⟩] ∧
      w.disk.idx [48, 48, 48] .locals = .table [] := ⟨_, rfl, rfl, rfl, rfl⟩
  refine ⟨w, hrun, (restarts_iff_complete hrun).mpr ⟨?_, ?_⟩⟩
  · rw [hdirs]
    intro d hd b
    rw [List.mem_singleton.mp hd]
    cases b <;> simp [hglobals, hlocals]
  · rw [hdirs]
    intro d hd b row hrow
    rw [List.mem_singleton.mp hd] at hrow ⊢
    cases b with
    | locals => simp [Disk.rows, hlocals] at hrow
    | globals => exact ⟨.globals, row, hrow, rfl, by simp_all [Disk.rows, INVALID_POSITION]⟩

/-- The process stops before its next call after `n`. -/
def stopAfterCalls (n : ℕ) : List Call :=
  List.replicate n { outcome := .ok } ++ [{ outcome := .stop 0 }]

/-- The process stops when the first store has created its index file. -/
def cutIndex : List RootEvent := [.request (.store VFSDatabase.zeroAsset) (stopAfterCalls 4)]

/-- The process stops when the first store has created its data file; the asset is stored again. -/
def cutData : List RootEvent :=
  [.request (.store VFSDatabase.zeroAsset) (stopAfterCalls 21),
    .request (.store VFSDatabase.zeroAsset) []]

/-- On the first root the constructor throws, on the second it finds an identifier that cannot be
retrieved. -/
theorem interrupted_roots_not_restarted :
    (∃ w, Machine.run step {} cutIndex = some w ∧ ExistenceIndex.load w.disk = none) ∧
    ∃ w index, Machine.run step {} cutData = some w ∧ ExistenceIndex.load w.disk = some index ∧
      VFSDatabase.zeroAsset.id.toUuid ∈ index ∧ ¬ Retrievable w.disk VFSDatabase.zeroAsset.id := by
  obtain ⟨w, index, hrun, hload, hdirs, hglobals, hlocals⟩ : ∃ w index,
      Machine.run step {} cutData = some w ∧ ExistenceIndex.load w.disk = some index ∧
      w.disk.dirs = [[48, 48, 48]] ∧
      w.disk.rows [48, 48, 48] .globals = [⟨List.replicate 32 48, 0, 48, 0⟩] ∧
      w.disk.rows [48, 48, 48] .locals = [] := ⟨_, _, rfl, rfl, rfl, rfl, rfl⟩
  have hfiled : Filed w :=
    Machine.run_invariant' (fun _ _ _ h hstep => h.step hstep) filed_empty hrun
  refine ⟨⟨_, rfl, rfl⟩, w, index, hrun, hload, ?_, fun hret => ?_⟩
  · refine (hfiled.mem_load hload _).mpr ⟨?_, .globals, ⟨List.replicate 32 48, 0, 48, 0⟩, ?_, rfl⟩
    · rw [hdirs]
      exact List.mem_singleton.mpr rfl
    · change _ ∈ w.disk.rows [48, 48, 48] .globals
      simp [hglobals]
  · obtain ⟨-, b, row, hrow, -, hne⟩ := (retrievable_iff hfiled.disk _).mp hret
    change row ∈ w.disk.rows [48, 48, 48] b at hrow
    cases b with
    | globals =>
      rw [hglobals, List.mem_singleton] at hrow
      exact hne (hrow ▸ rfl)
    | locals => simp [hlocals] at hrow

end StorageRoot

end Whip
