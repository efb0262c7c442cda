import Whip.Storage.PurgeCycle

/-!
# What a purge leaves

Nothing the backend does takes anything from the global databases. Purges that do not overlap leave
the global assets in the existence index as well, and each of them removes every local asset that
was there when it began.
-/

namespace Whip

open Effect VFSBackend

/-! ### The global databases -/

lemma Grows.of_eq {k k' : Disk} {d : DirName} {b : Base} (hrows : k'.rows d b = k.rows d b)
    (hdata : k'.data d b = k.data d b) : Grows d b k k' :=
  ⟨by rw [hrows], fun f hf => ⟨[], by rw [hdata, hf, List.append_nil]⟩⟩

lemma grows_stored_at (k : Disk) (a : Asset) (d : DirName) (b : Base) :
    Grows d b k (k.stored (dirOf a) (baseOf a) a) := by
  by_cases hplace : d = dirOf a ∧ b = baseOf a
  · obtain ⟨rfl, rfl⟩ := hplace
    exact grows_stored
  · exact .of_eq (Disk.rows_stored_of_ne hplace) (Disk.data_stored_of_ne hplace)

namespace VFSBackend

variable {κ : Type} {s s' t : VFSBackend κ}

/-- Wherever it fails, a round on anything but a deletion only adds to the databases. -/
lemma Affects.grows {k k' : Disk} {req : AssetRequest κ} {hs : List (Handler κ)}
    (h : Affects k req hs k') (hreq : ∀ head, req ≠ .deleteLocalStorage head) (d : DirName)
    (b : Base) : Grows d b k k' := by
  cases h with
  | opened quiet prepared => exact .of_prepared prepared
  | stored prepared new => exact (Grows.of_prepared prepared).trans (grows_stored_at ..)
  | @failed a c e k₁ k' prepared cut =>
    refine (Grows.of_prepared prepared).trans ?_
    cases cut with
    | nothing => exact .refl _
    | part p hp =>
      by_cases hplace : d = dirOf a ∧ b = baseOf a
      · obtain ⟨rfl, rfl⟩ := hplace
        exact grows_setData p
      · refine .of_eq (by rw [Disk.rows_setData]) ?_
        rw [Disk.data_setData, if_neg hplace]
    | done hnew ha => exact grows_stored_at ..
  | deleted deleted => exact absurd rfl (hreq _)

/-- A deletion leaves the global databases alone. -/
lemma Affects.grows_globals {k k' : Disk} {req : AssetRequest κ} {hs : List (Handler κ)}
    (h : Affects k req hs k') (d : DirName) : Grows d .globals k k' := by
  by_cases hreq : ∀ head, req ≠ .deleteLocalStorage head
  · exact h.grows hreq d .globals
  · cases h with
    | deleted deleted =>
      cases deleted with
      | nothing => exact .refl _
      | index => exact .of_eq (by simp [Disk.rows_setIdx]) (by simp)
      | both => exact .of_eq (by simp [Disk.rows_setIdx]) (by simp [Disk.data_setData])
    | opened quiet prepared => exact .of_prepared prepared
    | stored prepared new => simp at hreq
    | failed prepared cut => simp at hreq

/-- Only the worker changes the disk. -/
lemma world_eq_of_step {e : Event κ} (he : ∀ calls, e ≠ .process calls)
    (hstep : VFSBackend.step s e = some s') : s'.world = s.world := by
  cases e with
  | process calls => exact absurd rfl (he calls)
  | getAsset uuid k =>
    cases hstep
    unfold VFSBackend.getAsset
    split_ifs <;> rfl
  | storeAsset v k =>
    cases hstep
    unfold VFSBackend.storeAsset
    split_ifs <;> rfl
  | beginPurgeLocals =>
    cases hstep
    unfold VFSBackend.beginPurgeLocals
    split_ifs <;> rfl
  | purgeTimer =>
    obtain rfl := Machine.eq_of_ite hstep
    rfl
  | dequeue =>
    simp only [VFSBackend.step, VFSBackend.dequeue] at hstep
    split at hstep
    · cases hstep
      rfl
    · cases hstep
  | runHandler i =>
    obtain ⟨⟨b, r⟩, hb, rfl⟩ := Option.map_eq_some_iff.mp hstep
    unfold VFSBackend.runHandler at hb
    split at hb
    · cases hb
    · split at hb <;> cases hb
      · rfl
      · unfold VFSBackend.assetWriteFailed
        split <;> rfl
      · rfl
      · rfl
  | _ =>
    cases hstep
    rfl

lemma world_of_step {e : Event κ} (hopen : OpenTables s.world)
    (hstep : VFSBackend.step s e = some s') : OpenTables s'.world ∧
      ∀ d, Grows d .globals s.world.disk s'.world.disk := by
  by_cases he : ∀ calls, e ≠ .process calls
  · rw [world_eq_of_step he hstep]
    exact ⟨hopen, fun d => .refl _⟩
  · simp only [not_forall, not_not] at he
    obtain ⟨calls, rfl⟩ := he
    obtain ⟨req, hs, w, -, haffects, hw, rfl⟩ := process_affects hopen hstep
    exact ⟨hw, haffects.grows_globals⟩

lemma world_of_run {es : List (Event κ)} (hopen : OpenTables s.world)
    (hrun : Machine.run VFSBackend.step s es = some t) :
    OpenTables t.world ∧ ∀ d, Grows d .globals s.world.disk t.world.disk := by
  refine Machine.run_invariant' (I := fun m : VFSBackend κ =>
    OpenTables m.world ∧ ∀ d, Grows d .globals s.world.disk m.world.disk) ?_
    ⟨hopen, fun d => .refl _⟩ hrun
  rintro m e m' ⟨hm, hgrows⟩ hstep
  obtain ⟨hm', hgrows'⟩ := world_of_step hm hstep
  exact ⟨hm', fun d => (hgrows d).trans (hgrows' d)⟩

lemma Staged.run {es : List (Event κ)} (h : Staged s)
    (hspaced : Machine.Guarded VFSBackend.step Spaced s es)
    (hrun : Machine.run VFSBackend.step s es = some t) : Staged t :=
  Machine.run_invariant (fun _ _ _ hm hspaced hstep => hm.step hspaced hstep) h hspaced hrun

/-! ### The local assets -/

/-- Where a purge has got to with a local asset. -/
inductive Leaving (u : AssetId) (s : VFSBackend κ) : Prop
  | waiting (i : ℕ) (limit : i ≤ 0xFFF) (dir : u.dir = hexHead i)
      (purging : s.isPurgingLocals = true) (later : s.currentLocalsPurgeIndex ≤ i)
      (row : s.world.disk.HasRow .locals u)
  | queued (job : .purgeLocals u.dir ∈ s.jobs) (row : s.world.disk.HasRow .locals u)
  | listed (ids : Option (List Uuid)) (list : (ids, u.dir) ∈ s.lists) (mem : u.toUuid ∈ ids.getD [])
  | unindexed (job : .deleteLocalStorage u.dir ∈ s.jobs) (index : u.toUuid ∉ s.existenceIndex)
  | gone (row : ¬ s.world.disk.HasRow .locals u) (index : u.toUuid ∉ s.existenceIndex)

/-- The identifier is not stored again once it has been taken out of the index. -/
def NotStored (u : AssetId) (s : VFSBackend κ) : Event κ → Prop
  | .storeAsset v _ => v.id = u → u.toUuid ∈ s.existenceIndex
  | _ => True

variable {u : AssetId}

lemma Staged.stages_eq_zero (h : Staged s) {i : ℕ} (hi : i ≤ 0xFFF)
    (hpurging : s.isPurgingLocals = true) (hlater : s.currentLocalsPurgeIndex ≤ i) :
    s.stages (hexHead i) = 0 := by
  by_contra hne
  obtain ⟨j, hj, heq⟩ := (h.timer hpurging).2 _ (Nat.pos_of_ne_zero hne)
  have := hexHead_injective hi (by omega) heq
  omega

/-- A directory that is yet to be listed is not about to be deleted. -/
lemma Staged.not_deleting_of_queued (h : Staged s) {d : DirName} (hjob : .purgeLocals d ∈ s.jobs) :
    .deleteLocalStorage d ∉ s.jobs := by
  intro hdel
  have honce : s.jobs.countP (purges d) ≤ 1 := (Nat.le_add_right ..).trans (h.once d)
  obtain ⟨l, l', hsplit⟩ := List.append_of_mem hjob
  have hpurges : purges d (.purgeLocals d : AssetRequest κ) = true := by simp [purges]
  have hpurges' : purges d (.deleteLocalStorage d : AssetRequest κ) = true := by simp [purges]
  rw [hsplit, List.countP_append, List.countP_cons_of_pos hpurges] at honce
  rw [hsplit, List.mem_append, List.mem_cons] at hdel
  rcases hdel with hdel | hdel | hdel
  · have : 0 < l.countP (purges d) := List.countP_pos_iff.mpr ⟨_, hdel, hpurges'⟩
    omega
  · cases hdel
  · have : 0 < l'.countP (purges d) := List.countP_pos_iff.mpr ⟨_, hdel, hpurges'⟩
    omega

/-- What a deletion finds of a directory. -/
lemma Leaving.of_deleting (h : Staged s) (hu : Leaving u s)
    (hjob : .deleteLocalStorage u.dir ∈ s.jobs) : u.toUuid ∉ s.existenceIndex := by
  cases hu with
  | waiting i limit dir purging later row =>
    have hpos := countP_purges_pos (d := u.dir) hjob (by simp [purges])
    have hzero := h.stages_eq_zero limit purging later
    rw [← dir, stages] at hzero
    omega
  | queued job row => exact absurd hjob (h.not_deleting_of_queued job)
  | listed ids list mem => exact absurd hjob (h.not_deleting list)
  | unindexed job index => exact index
  | gone row index => exact index

lemma Leaving.not_claimed (h : Staged s) (hu : Leaving u s) : u.text ∉ s.jobs.filterMap claim := by
  intro hclaim
  have hindex := h.claimed u hclaim
  have hrow (hrow : s.world.disk.HasRow .locals u) : False :=
    hu.of_deleting h (h.deleting_of_claimed hclaim hrow) hindex
  cases hu with
  | waiting i limit dir purging later row => exact hrow row
  | queued job row => exact hrow row
  | listed ids list mem => exact (h.not_claimed list mem).1 hclaim
  | unindexed job index => exact index hindex
  | gone row index => exact index hindex

/-- With nothing of a purge left, the asset is gone. -/
lemma Leaving.of_clear (hu : Leaving u s) (hidle : s.isPurgingLocals = false)
    (hclear : s.stages u.dir = 0) :
    ¬ s.world.disk.HasRow .locals u ∧ u.toUuid ∉ s.existenceIndex := by
  rw [stages] at hclear
  cases hu with
  | waiting i limit dir purging later row =>
    rw [hidle] at purging
    cases purging
  | queued job row =>
    have := countP_purges_pos (d := u.dir) job (by simp [purges])
    omega
  | listed ids list mem =>
    have := countP_lists_pos list
    omega
  | unindexed job index =>
    have := countP_purges_pos (d := u.dir) job (by simp [purges])
    omega
  | gone row index => exact ⟨row, index⟩

/-- Steps that do nothing about the directory. -/
lemma Leaving.of_same (hu : Leaving u s)
    (hrow : s'.world.disk.HasRow .locals u ↔ s.world.disk.HasRow .locals u)
    (hindex : u.toUuid ∈ s'.existenceIndex → u.toUuid ∈ s.existenceIndex)
    (hjobs : ∀ req, purges u.dir req = true → req ∈ s.jobs → req ∈ s'.jobs)
    (hlists : ∀ ids, (ids, u.dir) ∈ s.lists → (ids, u.dir) ∈ s'.lists)
    (htimer : SameTimer s s') : Leaving u s' := by
  cases hu with
  | waiting i limit dir purging later row =>
    exact .waiting i limit dir (htimer.isPurging.trans purging) (htimer.purgeIndex.trans_le later)
      (hrow.mpr row)
  | queued job row => exact .queued (hjobs _ (by simp [purges]) job) (hrow.mpr row)
  | listed ids list mem => exact .listed ids (hlists ids list) mem
  | unindexed job index => exact .unindexed (hjobs _ (by simp [purges]) job) (mt hindex index)
  | gone row index => exact .gone (mt hrow.mp row) (mt hindex index)

lemma Leaving.ticked (hu : Leaving u s) : Leaving u s.onPurgeTimer := by
  have hjobs : s.onPurgeTimer.jobs = s.jobs ++ [.purgeLocals (hexHead s.currentLocalsPurgeIndex)] :=
    jobs_enqueue ..
  cases hu with
  | waiting i limit dir purging later row =>
    rcases later.eq_or_lt with heq | hlt
    · refine .queued ?_ row
      simp [hjobs, heq, dir]
    · exact .waiting i limit dir (decide_eq_true (by omega)) hlt row
  | queued job row => exact .queued (by simp [hjobs, job]) row
  | listed ids list mem => exact .listed ids list mem
  | unindexed job index => exact .unindexed (by simp [hjobs, job]) index
  | gone row index => exact .gone row index

lemma Leaving.list (hu : Leaving u s) {d : DirName} {ids : Option (List Uuid)}
    (hworld : PreparedFrom s.world.disk s'.world)
    (hjobs : s.jobs = .purgeLocals d :: s'.jobs) (hlists : s'.lists = s.lists ++ [(ids, d)])
    (hindex : s'.existenceIndex = s.existenceIndex) (htimer : SameTimer s s')
    (hcontents : ∀ u : AssetId, u.toUuid ∈ ids.getD [] ↔
      u.dir = d ∧ s.world.disk.HasRow .locals u) : Leaving u s' := by
  have hrow : s'.world.disk.HasRow .locals u ↔ s.world.disk.HasRow .locals u :=
    Disk.HasRow.congr hworld.prepared.rows
  cases hu with
  | waiting i limit dir purging later row =>
    exact .waiting i limit dir (htimer.isPurging.trans purging) (htimer.purgeIndex.trans_le later)
      (hrow.mpr row)
  | queued job row =>
    by_cases hd : u.dir = d
    · exact .listed ids (by simp [hlists, hd]) ((hcontents u).mpr ⟨hd, row⟩)
    · exact .queued (by simpa [hjobs, hd] using job) (hrow.mpr row)
  | listed ids' list mem => exact .listed ids' (by simp [hlists, list]) mem
  | unindexed job index => exact .unindexed (by simpa [hjobs] using job) (hindex ▸ index)
  | gone row index => exact .gone (mt hrow.mp row) (hindex ▸ index)

lemma Leaving.unindex (hu : Leaving u s) {d : DirName} {ids : Option (List Uuid)}
    (hworld : s'.world = s.world) (hjobs : s'.jobs = s.jobs ++ [.deleteLocalStorage d])
    (hlists : ((ids, d) :: s'.lists).Perm s.lists)
    (hindex : s'.existenceIndex = (ids.getD []).foldl ExistenceIndex.removeId s.existenceIndex)
    (htimer : SameTimer s s') : Leaving u s' := by
  have hmem : u.toUuid ∈ s'.existenceIndex ↔
      u.toUuid ∈ s.existenceIndex ∧ u.toUuid ∉ ids.getD [] := by
    rw [hindex, ExistenceIndex.mem_foldl_removeId]
  cases hu with
  | waiting i limit dir purging later row =>
    exact .waiting i limit dir (htimer.isPurging.trans purging) (htimer.purgeIndex.trans_le later)
      (hworld ▸ row)
  | queued job row => exact .queued (by simp [hjobs, job]) (hworld ▸ row)
  | listed ids' list mem =>
    rcases List.mem_cons.mp (hlists.mem_iff.mpr list) with heq | list
    · cases heq
      exact .unindexed (by simp [hjobs]) fun hin => (hmem.mp hin).2 mem
    · exact .listed ids' list mem
  | unindexed job index => exact .unindexed (by simp [hjobs, job]) fun hin => index (hmem.mp hin).1
  | gone row index => exact .gone (hworld ▸ row) fun hin => index (hmem.mp hin).1

lemma Leaving.step {e : Event κ} (h : Staged s) (hu : Leaving u s) (hspaced : Spaced s e)
    (hnot : NotStored u s e) (hstep : VFSBackend.step s e = some s') : Leaving u s' := by
  obtain ⟨hmove, -⟩ := h.ready.move hspaced.1 hstep
  cases hmove with
  | quiet world jobs lists index timer =>
    refine hu.of_same (Disk.HasRow.congr world.prepared.rows) (by rw [index]; exact id) ?_ ?_ timer
    · rw [jobs]
      exact fun _ _ hin => hin
    · exact fun _ hin => lists.mem_iff.mpr hin
  | began event idle state =>
    obtain ⟨hrow, hindex⟩ := hu.of_clear idle (hspaced.2 event idle u.dir)
    subst state
    exact .gone hrow hindex
  | ticked purging state => exact state ▸ hu.ticked
  | accepted v k event new world jobs lists index timer =>
    subst event
    refine hu.of_same (by rw [world]) (fun hin => ?_) (fun req _ hin => by simp [jobs, hin])
      (fun _ hin => lists ▸ hin) timer
    rw [index, ExistenceIndex.mem_addNewId, AssetId.toUuid_inj] at hin
    refine hin.resolve_left fun heq => ?_
    exact new (heq ▸ hnot heq.symm)
  | listed d ids world jobs lists index timer contents =>
    exact hu.list world jobs lists index timer contents
  | unindexed d ids world jobs lists index timer =>
    exact hu.unindex world jobs lists index timer
  | written v k k₁ prepared disk openTables jobs lists index timer =>
    have hne : u ≠ v.id := by
      rintro rfl
      refine hu.not_claimed h ?_
      rw [jobs]
      exact List.mem_cons_self
    refine hu.of_same ?_ (by rw [index]; exact id) (fun req hreq hin => ?_)
      (fun _ hin => lists ▸ hin) timer
    · rw [disk, hasRow_stored, Disk.HasRow.congr prepared.rows]
      simp [hne]
    · rw [jobs] at hin
      refine (List.mem_cons.mp hin).resolve_left ?_
      rintro rfl
      cases hreq
  | deleted d disk openTables jobs lists index timer =>
    have hlocal := (hasRow_deleted disk u).2
    by_cases hd : u.dir = d
    · have hjob : .deleteLocalStorage u.dir ∈ s.jobs := by
        rw [jobs, hd]
        exact List.mem_cons_self
      refine .gone (fun hrow => (hlocal.mp hrow).2 hd) ?_
      rw [index]
      exact hu.of_deleting h hjob
    · refine hu.of_same (by simp [hlocal, hd]) (by rw [index]; exact id) (fun req hreq hin => ?_)
        (fun _ hin => lists ▸ hin) timer
      rw [jobs] at hin
      refine (List.mem_cons.mp hin).resolve_left ?_
      rintro rfl
      exact hd (by simpa [purges, eq_comm] using hreq)

/-! ### A purge with nothing in between -/

lemma exists_process {req : AssetRequest κ} {P : World → Prop} {Q : List (Handler κ) → World → Prop}
    {R : Exn → World → Prop} (hcur : s.current = some req) (h : Triple P (processRequest req) Q R)
    (hR : ∀ e w, ¬ R e w) (hP : P { s.world with calls := [] }) :
    ∃ hs w, Q hs w ∧ VFSBackend.step s (.process []) = some (s.finished w hs) := by
  have hloop := workLoop_triple h
  have hsome := process_isSome hcur
    (hloop.conseq (fun _ h => h) (fun _ _ h => h) fun e w he => hR e w he.2) hP
  obtain ⟨s', hs'⟩ := Option.isSome_iff_exists.mp hsome
  obtain ⟨hs, w, hpost, rfl⟩ := process_of_triple hcur hloop hP hs'
  rcases hpost with hQ | ⟨e, -, -, he⟩
  · exact ⟨hs, w, hQ, hs'⟩
  · exact absurd he (hR e w)

lemma step_dequeue {req : AssetRequest κ} (hcur : s.current = none) (hqueue : s.workQueue = [req]) :
    VFSBackend.step s .dequeue = some { s with current := some req, workQueue := [] } := by
  simp [VFSBackend.step, VFSBackend.dequeue, hcur, hqueue]

/-- A tick of the timer and the three stages of its directory. -/
def purgeRound : List (Event κ) :=
  [.purgeTimer, .dequeue, .process [], .runHandler 0, .dequeue, .process []]

lemma Coherent.round (h : Coherent s) (hpurging : s.isPurgingLocals = true)
    (hdisjoint : ∀ u : AssetId, s.world.disk.HasRow .globals u → ¬ s.world.disk.HasRow .locals u) :
    ∃ t, Machine.run VFSBackend.step s purgeRound = some t ∧ Coherent t ∧
      t.currentLocalsPurgeIndex = s.currentLocalsPurgeIndex + 1 ∧
      t.isPurgingLocals = decide (s.currentLocalsPurgeIndex + 1 ≤ 0xFFF) ∧
      ∀ u : AssetId, (t.world.disk.HasRow .globals u ↔ s.world.disk.HasRow .globals u) ∧
        (t.world.disk.HasRow .locals u ↔ s.world.disk.HasRow .locals u ∧
          u.dir ≠ hexHead s.currentLocalsPurgeIndex) := by
  obtain ⟨hqueue, hcur, hposted⟩ := h.atRest
  set head := hexHead s.currentLocalsPurgeIndex
  -- the directory is listed
  set s₂ : VFSBackend κ :=
    { s.onPurgeTimer with current := some (.purgeLocals head), workQueue := [] }
  have htick : VFSBackend.step s .purgeTimer = some s.onPurgeTimer := if_pos hpurging
  have hdequeue : VFSBackend.step s.onPurgeTimer .dequeue = some s₂ :=
    step_dequeue hcur (by simp [VFSBackend.onPurgeTimer, VFSBackend.enqueue, hqueue, head])
  have hids : ∀ row ∈ s.world.disk.rows head .locals, ∃ u : AssetId, row.assetId = u.text :=
    fun row hrow => (h.rowIds _ _ row hrow).imp fun u hu => hu.1
  have hopen : OpenTables { s.world with calls := [] } :=
    ⟨h.openTables.coherent, h.openTables.hasTable⟩
  obtain ⟨_, w, ⟨⟨ids, rfl, hmem⟩, hw⟩, hlist⟩ := exists_process (s := s₂) (Q := _) rfl
    (performDiskPurgeLocals_triple True fun _ => hids) (fun _ _ h => h.2 trivial)
    ⟨⟨.refl _, hopen⟩, fun _ => rfl⟩
  -- its identifiers leave the index
  set s₄ := ({ s₂.finished w [] with posted := [] } : VFSBackend κ).unindexLocals ids head with hs₄
  have hunindex : VFSBackend.step (s₂.finished w [.unindexLocals ids head]) (.runHandler 0) =
      some s₄ := by
    simp [VFSBackend.step, VFSBackend.runHandler, finished, s₂, hs₄, VFSBackend.onPurgeTimer,
      VFSBackend.enqueue, hposted]
  have hdequeue' : VFSBackend.step s₄ .dequeue =
      some { s₄ with current := some (.deleteLocalStorage head), workQueue := [] } :=
    step_dequeue rfl rfl
  -- and its files are deleted
  obtain ⟨_, w', ⟨rfl, hw', hdisk⟩, hdelete⟩ := exists_process (Q := _)
    (s := { s₄ with current := some (.deleteLocalStorage head), workQueue := [] }) rfl
    (performLocalsPhysicalDeletion_triple True w.disk head) (fun _ _ h => h.2 trivial)
    ⟨⟨rfl, ⟨hw.openTables.coherent, hw.openTables.hasTable⟩⟩, fun _ => rfl⟩
  have hrow (b : Base) (u : AssetId) : w.disk.HasRow b u ↔ s.world.disk.HasRow b u :=
    Disk.HasRow.congr hw.prepared.rows
  have hrows (u : AssetId) : (w'.disk.HasRow .globals u ↔ s.world.disk.HasRow .globals u) ∧
      (w'.disk.HasRow .locals u ↔ s.world.disk.HasRow .locals u ∧ u.dir ≠ head) := by
    rw [← hrow, ← hrow]
    exact hasRow_deleted hdisk u
  have hrun : Machine.run VFSBackend.step s purgeRound = some (finished { s₄ with
      current := some (.deleteLocalStorage head), workQueue := [] } w' []) := by
    simp only [purgeRound, Machine.run_cons, htick, hdequeue, hlist, hunindex, hdequeue', hdelete,
      Option.bind_some, Machine.run_nil]
  refine ⟨_, hrun, ⟨hw', fun d b row hin => ?_, ⟨rfl, rfl, rfl⟩, fun u => ?_⟩, rfl, rfl, hrows⟩
  · change row ∈ w'.disk.rows d b at hin
    rw [hdisk, Disk.rows_setData, Disk.rows_setIdx, hw.prepared.rows] at hin
    split_ifs at hin
    · cases hin
    · exact h.rowIds d b row hin
  · change u.toUuid ∈ (ids.getD []).foldl ExistenceIndex.removeId s.existenceIndex ↔
      w'.disk.HasRow .globals u ∨ w'.disk.HasRow .locals u
    rw [ExistenceIndex.mem_foldl_removeId, h.indexed, mem_listed (h.rowIds head .locals) hmem,
      (hrows u).1, (hrows u).2]
    have := hdisjoint u
    tauto

lemma Coherent.rounds (h : Coherent s) (hpurging : s.isPurgingLocals = true)
    (hdisjoint : ∀ u : AssetId, s.world.disk.HasRow .globals u → ¬ s.world.disk.HasRow .locals u)
    (n : ℕ) (hn : s.currentLocalsPurgeIndex + n = 0xFFF) :
    ∃ t, Machine.run VFSBackend.step s (List.replicate (n + 1) purgeRound).flatten = some t ∧
      Coherent t ∧ t.isPurgingLocals = false ∧
      ∀ u : AssetId, (t.world.disk.HasRow .globals u ↔ s.world.disk.HasRow .globals u) ∧
        (t.world.disk.HasRow .locals u ↔ s.world.disk.HasRow .locals u ∧
          ∀ i, s.currentLocalsPurgeIndex ≤ i → i ≤ 0xFFF → u.dir ≠ hexHead i) := by
  obtain ⟨t, hrun, ht, hidx, hp, hrows⟩ := h.round hpurging hdisjoint
  induction n generalizing s t with
  | zero =>
    refine ⟨t, by simpa using hrun, ht, hp.trans (decide_eq_false (by omega)),
      fun u => ⟨(hrows u).1, ?_⟩⟩
    rw [(hrows u).2]
    refine and_congr_right fun _ => ⟨fun hne i hi hle => ?_, fun hne => hne _ le_rfl (by omega)⟩
    obtain rfl : i = s.currentLocalsPurgeIndex := by omega
    exact hne
  | succ n ih =>
    have hdisjoint' (u : AssetId) (hu : t.world.disk.HasRow .globals u) :
        ¬ t.world.disk.HasRow .locals u :=
      fun hu' => hdisjoint u ((hrows u).1.mp hu) ((hrows u).2.mp hu').1
    have hp : t.isPurgingLocals = true := hp.trans (decide_eq_true (by omega))
    obtain ⟨t', hrun', ht', hidx', hp', hrows'⟩ := ht.round hp hdisjoint'
    obtain ⟨u, hu, hcoherent, hidle, hall⟩ :=
      ih ht hp hdisjoint' (by omega) t' hrun' ht' hidx' hp' hrows'
    refine ⟨u, ?_, hcoherent, hidle, fun v => ⟨(hall v).1.trans (hrows v).1, ?_⟩⟩
    · rw [List.replicate_succ, List.flatten_cons]
      exact Machine.run_append_eq_some.mpr ⟨t, hrun, hu⟩
    · rw [(hall v).2, (hrows v).2, and_assoc, hidx]
      refine and_congr_right fun _ => ⟨fun ⟨hne, hlater⟩ i hi hle => ?_, fun hne => ?_⟩
      · rcases hi.eq_or_lt with rfl | hlt
        · exact hne
        · exact hlater i hlt hle
      · exact ⟨hne _ le_rfl (by omega), fun i hi hle => hne i (by omega) hle⟩

/-- The events of a purge on a backend that is left alone. -/
def purgeEvents : List (Event κ) :=
  .beginPurgeLocals :: (List.replicate 0x1000 purgeRound).flatten

lemma Coherent.purge (hs : Coherent s) (hidle : s.isPurgingLocals = false)
    (hdisjoint : ∀ u : AssetId, s.world.disk.HasRow .globals u → ¬ s.world.disk.HasRow .locals u) :
    ∃ t, Machine.run VFSBackend.step s purgeEvents = some t ∧ Coherent t ∧
      t.isPurgingLocals = false ∧
      ∀ u : AssetId, (t.world.disk.HasRow .globals u ↔ s.world.disk.HasRow .globals u) ∧
        (t.world.disk.HasRow .locals u ↔ s.world.disk.HasRow .locals u ∧
          ∀ i, 0 ≤ i → i ≤ 0xFFF → u.dir ≠ hexHead i) := by
  have hbegin : VFSBackend.step s .beginPurgeLocals =
      some { s with isPurgingLocals := true, currentLocalsPurgeIndex := 0 } := by
    simp [VFSBackend.step, VFSBackend.beginPurgeLocals, hidle]
  have hbegun : Coherent { s with isPurgingLocals := true, currentLocalsPurgeIndex := 0 } :=
    ⟨hs.openTables, hs.rowIds, hs.atRest, hs.indexed⟩
  obtain ⟨t, hrun, ht⟩ := hbegun.rounds rfl hdisjoint 0xFFF rfl
  exact ⟨t, Machine.run_cons_eq_some.mpr ⟨_, hbegin, hrun⟩, ht⟩

lemma Coherent.clear (hs : Coherent s) : s.Clear := by
  obtain ⟨hqueue, hcur, hposted⟩ := hs.atRest
  intro d
  simp [stages, jobs, lists, pending, hqueue, hcur, hposted]

lemma spaced_of_forall {es : List (Event κ)} (h : ∀ e ∈ es, Succeeds e ∧ e ≠ .beginPurgeLocals) :
    Machine.Guarded VFSBackend.step Spaced s es :=
  (Machine.guarded_of_forall h).mono fun _ _ he => ⟨he.1, fun hbegin => absurd hbegin he.2⟩

/-- The guards of a purge on a backend that is left alone. -/
lemma guarded_purgeEvents (hs : Coherent s) :
    Machine.Guarded VFSBackend.step (fun m e => Spaced m e ∧ NotStored u m e) s purgeEvents := by
  refine ⟨⟨⟨trivial, fun _ _ => hs.clear⟩, trivial⟩, fun s' _ => ?_⟩
  have hround (e : Event κ) (he : e ∈ (List.replicate 0x1000 purgeRound).flatten) :
      e ∈ purgeRound := by
    obtain ⟨l, hl, he⟩ := List.mem_flatten.mp he
    exact List.eq_of_mem_replicate hl ▸ he
  refine (Machine.guarded_of_forall hround).mono fun m e he => ?_
  simp only [purgeRound, List.mem_cons, List.not_mem_nil, or_false] at he
  rcases he with rfl | rfl | rfl | rfl | rfl | rfl <;>
    exact ⟨⟨by trivial, by simp⟩, trivial⟩

/-! ### Whole runs -/

/-- A global asset. -/
def globalAsset : ValidAsset where
  data := 49 :: (List.replicate 32 48 ++ [0])
  size_ge := by decide
  size_lt := by decide
  valid := by decide

/-- A global and a local asset are stored. -/
def twoStores : List (Event ℕ) :=
  [.storeAsset globalAsset 0, .dequeue, .process [], .runHandler 0,
    .storeAsset localAsset 1, .dequeue, .process [], .runHandler 0]

lemma spaced_twoStores : Machine.Guarded VFSBackend.step Spaced {} twoStores :=
  spaced_of_forall (by simp [twoStores, Succeeds])

lemma disjoint_empty (u : AssetId) (_ : ({} : VFSBackend ℕ).world.disk.HasRow .globals u) :
    ¬ ({} : VFSBackend ℕ).world.disk.HasRow .locals u := by
  simp [Disk.HasRow, Disk.rows]

lemma disjoint_twoStores {m : VFSBackend ℕ}
    (hm : Machine.run VFSBackend.step {} twoStores = some m) (u : AssetId)
    (hu : m.world.disk.HasRow .globals u) : ¬ m.world.disk.HasRow .locals u :=
  ((coherent_empty.staged rfl disjoint_empty).run spaced_twoStores hm).disjoint u hu

lemma exists_twoStores : ∃ m, Machine.run VFSBackend.step {} twoStores = some m ∧ Coherent m ∧
    m.isPurgingLocals = false ∧ m.world.disk.HasRow .globals globalAsset.id ∧
    m.world.disk.HasRow .locals localAsset.id := by
  have horder : Machine.Guarded VFSBackend.step Orderly {} twoStores := by
    refine .cons rfl trivial (.cons rfl trivial (.cons rfl ?_ (.cons rfl ?_ (.cons rfl trivial
      (.cons rfl trivial (.cons rfl ?_ (.cons rfl ?_ trivial)))))))
    · refine ⟨rfl, fun v k _ _ hpurge => ?_⟩
      rcases hpurge with hqueue | ⟨ids, hposted⟩
      · cases hqueue
      · cases hposted
    · intro ids head hi
      cases hi
    · refine ⟨rfl, fun v k _ _ hpurge => ?_⟩
      rcases hpurge with hqueue | ⟨ids, hposted⟩
      · cases hqueue
      · cases hposted
    · intro ids head hi
      cases hi
  obtain ⟨m, hrun, hqueue, hcur, hposted, hidle, hrows⟩ :
      ∃ m, Machine.run VFSBackend.step {} twoStores = some m ∧ m.workQueue = [] ∧
        m.current = none ∧ m.posted = [] ∧ m.isPurgingLocals = false ∧
        m.world.disk.HasRow .globals globalAsset.id ∧
        m.world.disk.HasRow .locals localAsset.id :=
    ⟨_, rfl, rfl, rfl, rfl, rfl, ⟨_, List.mem_cons_self, rfl⟩, ⟨_, List.mem_cons_self, rfl⟩⟩
  have htracked : Tracked m := Machine.run_invariant (fun _ _ _ h ho hstep => h.step ho hstep)
    coherent_empty.tracked horder hrun
  exact ⟨m, hrun, htracked.coherent hqueue hcur hposted, hidle, hrows⟩

/-- Over every run, whatever fails and however purges and stores overlap, the global index files
lose no row and the global data files no byte. -/
theorem globals_only_grow {es : List (Event κ)} (hopen : OpenTables s.world)
    (hrun : Machine.run VFSBackend.step s es = some t) (d : DirName) :
    Grows d .globals s.world.disk t.world.disk :=
  (world_of_run hopen hrun).2 d

/-- The first directory is purged, and a store that comes after it fails. -/
def purgeThenFail : List (Event ℕ) :=
  [.beginPurgeLocals, .purgeTimer, .dequeue, .process [], .runHandler 0,
    .storeAsset VFSDatabase.zeroAsset 2, .dequeue, .process [], .dequeue,
    .process [{}, { outcome := .err }]]

theorem globals_only_grow_purgeThenFail : ∃ m t, Machine.run VFSBackend.step {} twoStores = some m ∧
    m.world.disk.HasRow .globals globalAsset.id ∧
    Machine.run VFSBackend.step m purgeThenFail = some t ∧
    Grows globalAsset.id.dir .globals m.world.disk t.world.disk := by
  obtain ⟨m, hm, hs, -, hrow, -⟩ := exists_twoStores
  obtain ⟨t, ht⟩ : ∃ t, Machine.run VFSBackend.step {} (twoStores ++ purgeThenFail) = some t :=
    Option.isSome_iff_exists.mp (by decide +kernel)
  obtain ⟨m', hm', ht⟩ := Machine.run_append_eq_some.mp ht
  obtain rfl : m' = m := Option.some.inj (hm'.symm.trans hm)
  exact ⟨m', t, hm, hrow, ht, globals_only_grow hs.openTables ht _⟩

/-- Purges that do not overlap take no global asset out of the index, and no identifier becomes
a local one as well. -/
theorem purges_spare_globals {m : VFSBackend κ} {before after : List (Event κ)} (hs : Coherent s)
    (hidle : s.isPurgingLocals = false)
    (hdisjoint : ∀ u : AssetId, s.world.disk.HasRow .globals u → ¬ s.world.disk.HasRow .locals u)
    (hspaced : Machine.Guarded VFSBackend.step Spaced s (before ++ after))
    (hbefore : Machine.run VFSBackend.step s before = some m)
    (hafter : Machine.run VFSBackend.step m after = some t) {u : AssetId}
    (hu : m.world.disk.HasRow .globals u) :
    t.world.disk.HasRow .globals u ∧ ¬ t.world.disk.HasRow .locals u ∧
      u.toUuid ∈ t.existenceIndex := by
  have hm : Staged m := (hs.staged hidle hdisjoint).run hspaced.append.1 hbefore
  have ht : Staged t := hm.run (hspaced.append.2 m hbefore) hafter
  obtain ⟨row, hrow, hid⟩ := hu
  have hu : t.world.disk.HasRow .globals u :=
    ⟨row, ((world_of_run hm.openTables hafter).2 u.dir).rows.subset hrow, hid⟩
  exact ⟨hu, ht.disjoint u hu, ht.global u hu⟩

theorem purges_spare_globals_purge : ∃ m t, Machine.run VFSBackend.step {} twoStores = some m ∧
    Machine.run VFSBackend.step m purgeEvents = some t ∧
    t.world.disk.HasRow .globals globalAsset.id ∧ ¬ t.world.disk.HasRow .locals globalAsset.id ∧
      globalAsset.id.toUuid ∈ t.existenceIndex := by
  obtain ⟨m, hm, hs, hidle, hrow, -⟩ := exists_twoStores
  obtain ⟨t, ht, -⟩ := hs.purge hidle (disjoint_twoStores hm)
  have hspaced := (Machine.Guarded.append_run ⟨spaced_twoStores, hm⟩
    ⟨(guarded_purgeEvents (u := globalAsset.id) hs).mono fun _ _ h => h.1, ht⟩).1
  exact ⟨m, t, hm, ht, purges_spare_globals coherent_empty rfl disjoint_empty hspaced hm ht hrow⟩

/-- A purge that has come to its end has removed every local asset that was there when it began,
from the disk and from the index, unless the asset was stored again meanwhile. -/
theorem purge_removes_locals {m : VFSBackend κ} {before cycle : List (Event κ)} (hs : Coherent s)
    (hidle : s.isPurgingLocals = false)
    (hdisjoint : ∀ u : AssetId, s.world.disk.HasRow .globals u → ¬ s.world.disk.HasRow .locals u)
    (hspaced : Machine.Guarded VFSBackend.step Spaced s before)
    (hbefore : Machine.run VFSBackend.step s before = some m) (hm : m.isPurgingLocals = false)
    {u : AssetId} (hu : m.world.disk.HasRow .locals u)
    (hcycle : Machine.Guarded VFSBackend.step (fun m e => Spaced m e ∧ NotStored u m e) m
      (.beginPurgeLocals :: cycle))
    (hrun : Machine.run VFSBackend.step m (.beginPurgeLocals :: cycle) = some t)
    (hended : t.isPurgingLocals = false) (hclear : t.Clear) :
    ¬ t.world.disk.HasRow .locals u ∧ u.toUuid ∉ t.existenceIndex := by
  have hstaged : Staged m := (hs.staged hidle hdisjoint).run hspaced hbefore
  obtain ⟨m', hbegin, hrun⟩ := Machine.run_cons_eq_some.mp hrun
  have hstaged' : Staged m' := hstaged.step hcycle.1.1 hbegin
  obtain ⟨i, hi, hdir⟩ := exists_hexHead u
  have hleaving : Leaving u m' := by
    have hm' : m' = { m with isPurgingLocals := true, currentLocalsPurgeIndex := 0 } := by
      simpa [VFSBackend.step, VFSBackend.beginPurgeLocals, hm, eq_comm] using hbegin
    subst hm'
    exact .waiting i hi hdir rfl (Nat.zero_le i) hu
  obtain ⟨-, hleaving⟩ : Staged t ∧ Leaving u t :=
    Machine.run_invariant (I := fun m => Staged m ∧ Leaving u m)
      (fun _ _ _ h hG hstep => ⟨h.1.step hG.1 hstep, h.2.step h.1 hG.1 hG.2 hstep⟩)
      ⟨hstaged', hleaving⟩ (hcycle.2 m' hbegin) hrun
  exact hleaving.of_clear hended (hclear u.dir)

theorem purge_removes_locals_purge : ∃ m t, Machine.run VFSBackend.step {} twoStores = some m ∧
    Machine.run VFSBackend.step m purgeEvents = some t ∧
    m.world.disk.HasRow .locals localAsset.id ∧
    ¬ t.world.disk.HasRow .locals localAsset.id ∧ localAsset.id.toUuid ∉ t.existenceIndex := by
  obtain ⟨m, hm, hs, hidle, -, hrow⟩ := exists_twoStores
  obtain ⟨t, ht, hcoherent, hended, -⟩ := hs.purge hidle (disjoint_twoStores hm)
  exact ⟨m, t, hm, ht, hrow, purge_removes_locals coherent_empty rfl disjoint_empty spaced_twoStores
    hm hidle hrow (guarded_purgeEvents hs) ht hended hcoherent.clear⟩

/-- On a backend that is left alone a purge comes to its end after 4096 ticks of its timer. No local
asset is left, the global ones are as before, and the index holds what the disk holds. -/
theorem purge_completes (hs : Coherent s) (hidle : s.isPurgingLocals = false)
    (hdisjoint : ∀ u : AssetId, s.world.disk.HasRow .globals u → ¬ s.world.disk.HasRow .locals u) :
    ∃ t, Machine.run VFSBackend.step s purgeEvents = some t ∧ Coherent t ∧
      t.isPurgingLocals = false ∧
      ∀ u : AssetId, (t.world.disk.HasRow .globals u ↔ s.world.disk.HasRow .globals u) ∧
        ¬ t.world.disk.HasRow .locals u := by
  obtain ⟨t, hrun, ht, hp, hrows⟩ := hs.purge hidle hdisjoint
  refine ⟨t, hrun, ht, hp, fun u => ⟨(hrows u).1, fun hu => ?_⟩⟩
  obtain ⟨i, hi, hdir⟩ := exists_hexHead u
  exact ((hrows u).2.mp hu).2 i (Nat.zero_le i) hi hdir

theorem purge_completes_twoStores : ∃ m t, Machine.run VFSBackend.step {} twoStores = some m ∧
    m.world.disk.HasRow .locals localAsset.id ∧ Machine.run VFSBackend.step m purgeEvents = some t ∧
    ¬ t.world.disk.HasRow .locals localAsset.id ∧
    t.world.disk.HasRow .globals globalAsset.id := by
  obtain ⟨m, hm, hs, hidle, hglobal, hlocal⟩ := exists_twoStores
  obtain ⟨t, ht, -, -, hrows⟩ := purge_completes hs hidle (disjoint_twoStores hm)
  exact ⟨m, t, hm, hlocal, ht, (hrows _).2, (hrows _).1.mpr hglobal⟩

end VFSBackend

end Whip
