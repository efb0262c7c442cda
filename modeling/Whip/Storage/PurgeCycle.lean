import Whip.Storage.Writes

/-!
# A whole purge

A purge goes through the 4096 directories, one for each tick of its timer, and every directory
through three stages: its local identifiers are listed, taken out of the existence index, and its
local files deleted. Stores and gets come in between. A new purge may not begin before the last one
is through with every directory; then the local assets go and the global ones stay.
-/

namespace Whip

open Effect

namespace VFSBackend

variable {κ : Type}

/-! ### What a purge looks at -/

/-- The relevant requests, in the order in which the worker takes them. -/
def jobs (s : VFSBackend κ) : List (AssetRequest κ) := s.pending.filter relevant

def listOf : Handler κ → Option (Option (List Uuid) × ByteString)
  | .unindexLocals ids head => some (ids, head)
  | _ => none

/-- The lists of local identifiers that have been posted. -/
def lists (s : VFSBackend κ) : List (Option (List Uuid) × ByteString) := s.posted.filterMap listOf

def purges (d : DirName) : AssetRequest κ → Bool
  | .purgeLocals head | .deleteLocalStorage head => head = d
  | _ => false

/-- The number of stages in which the directory is. -/
def stages (s : VFSBackend κ) (d : DirName) : ℕ :=
  s.jobs.countP (purges d) + s.lists.countP (·.2 = d)

/-- No write has failed. -/
def Unfailed (s : VFSBackend κ) : Prop := ∀ id reason, .assetWriteFailed id reason ∉ s.posted

/-! ### What a step can do -/

/-- The parts of the state that a step may leave alone. -/
structure SameTimer (s s' : VFSBackend κ) : Prop where
  isPurging : s'.isPurgingLocals = s.isPurgingLocals
  purgeIndex : s'.currentLocalsPurgeIndex = s.currentLocalsPurgeIndex

/-- Everything that a step does without failures. -/
inductive Move (s s' : VFSBackend κ) (e : Event κ) : Prop
  | quiet (world : PreparedFrom s.world.disk s'.world) (jobs : s'.jobs = s.jobs)
      (lists : s'.lists.Perm s.lists) (index : s'.existenceIndex = s.existenceIndex)
      (timer : SameTimer s s')
  | began (event : e = .beginPurgeLocals) (idle : s.isPurgingLocals = false)
      (state : s' = { s with isPurgingLocals := true, currentLocalsPurgeIndex := 0 })
  | ticked (purging : s.isPurgingLocals = true) (state : s' = s.onPurgeTimer)
  | accepted (v : ValidAsset) (k : κ) (event : e = .storeAsset v k)
      (new : v.id.toUuid ∉ s.existenceIndex) (world : s'.world = s.world)
      (jobs : s'.jobs = s.jobs ++ [.put v.toAsset k])
      (lists : s'.lists = s.lists)
      (index : s'.existenceIndex = ExistenceIndex.addNewId s.existenceIndex v.id.text)
      (timer : SameTimer s s')
  | listed (d : DirName) (ids : Option (List Uuid)) (world : PreparedFrom s.world.disk s'.world)
      (jobs : s.jobs = .purgeLocals d :: s'.jobs) (lists : s'.lists = s.lists ++ [(ids, d)])
      (index : s'.existenceIndex = s.existenceIndex) (timer : SameTimer s s')
      (contents : ∀ u : AssetId, u.toUuid ∈ ids.getD [] ↔
        u.dir = d ∧ s.world.disk.HasRow .locals u)
  | unindexed (d : DirName) (ids : Option (List Uuid)) (world : s'.world = s.world)
      (jobs : s'.jobs = s.jobs ++ [.deleteLocalStorage d])
      (lists : ((ids, d) :: s'.lists).Perm s.lists)
      (index : s'.existenceIndex = (ids.getD []).foldl ExistenceIndex.removeId s.existenceIndex)
      (timer : SameTimer s s')
  | written (v : ValidAsset) (k : κ) (k₁ : Disk) (prepared : Prepared s.world.disk k₁)
      (disk : s'.world.disk = k₁.stored (dirOf v.toAsset) (baseOf v.toAsset) v.toAsset)
      (openTables : OpenTables s'.world) (jobs : s.jobs = .put v.toAsset k :: s'.jobs)
      (lists : s'.lists = s.lists) (index : s'.existenceIndex = s.existenceIndex)
      (timer : SameTimer s s')
  | deleted (d : DirName)
      (disk : s'.world.disk = (s.world.disk.setIdx d .locals .absent).setData d .locals none)
      (openTables : OpenTables s'.world) (jobs : s.jobs = .deleteLocalStorage d :: s'.jobs)
      (lists : s'.lists = s.lists) (index : s'.existenceIndex = s.existenceIndex)
      (timer : SameTimer s s')

/-- What a worker's round needs to know of the state it begins in. -/
structure Ready (s : VFSBackend κ) : Prop where
  openTables : OpenTables s.world
  rowIds : ∀ d b, ∀ row ∈ s.world.disk.rows d b, ∃ u : AssetId, row.assetId = u.text ∧ u.dir = d
  puts : ∀ a k, .put a k ∈ s.jobs → ∃ v : ValidAsset, v.toAsset = a
  newId : ∀ (v : ValidAsset) k rest, s.jobs = .put v.toAsset k :: rest →
    NewId s.world.disk (dirOf v.toAsset) (baseOf v.toAsset) v.toAsset
  unfailed : s.Unfailed

section

variable {s s' : VFSBackend κ}

lemma jobs_of_current {req : AssetRequest κ} (hcur : s.current = some req) :
    s.jobs = (req :: s.workQueue).filter relevant := by
  rw [jobs, pending_of_current hcur]

lemma jobs_enqueue (s : VFSBackend κ) (req : AssetRequest κ) :
    (s.enqueue req).jobs = s.jobs ++ [req].filter relevant := by
  simp [jobs, pending, VFSBackend.enqueue]

lemma lists_append (posted hs : List (Handler κ)) :
    (posted ++ hs).filterMap listOf = posted.filterMap listOf ++ hs.filterMap listOf :=
  List.filterMap_append

/-- The end of a round on an irrelevant request that answers its caller. -/
lemma move_finished {e : Event κ} {req : AssetRequest κ} {w : World} {hs : List (Handler κ)}
    (hcur : s.current = some req) (hreq : relevant req = false)
    (hw : PreparedFrom s.world.disk w) (hs' : hs.filterMap listOf = []) :
    Move s (s.finished w hs) e := by
  refine .quiet hw ?_ ?_ rfl ⟨rfl, rfl⟩
  · rw [jobs_of_current hcur, List.filter_cons_of_neg (by simp [hreq]), jobs, pending_finished]
  · rw [lists, finished, lists_append, hs', List.append_nil]
    exact .refl _

lemma unfailed_finished {w : World} {hs : List (Handler κ)} (h : s.Unfailed)
    (hs' : ∀ id reason, .assetWriteFailed id reason ∉ hs) : (s.finished w hs).Unfailed :=
  fun id reason hin => (List.mem_append.mp hin).elim (h id reason) (hs' id reason)

/-- One round of the worker, without failures. -/
lemma Ready.process {e : Event κ} (h : Ready s) (hproc : s.process [] = some s') :
    Move s s' e ∧ s'.Unfailed := by
  cases hcur : s.current with
  | none => simp [VFSBackend.process, hcur] at hproc
  | some req =>
    have hjobs := jobs_of_current hcur
    obtain ⟨hs, w, hworked, rfl⟩ := process_worked hcur h.openTables h.rowIds (fun a c hreq => by
      subst hreq
      obtain ⟨v, rfl⟩ := h.puts a c (hjobs ▸ List.mem_cons_self)
      exact ⟨v, rfl, h.newId v c _ hjobs⟩) hproc
    cases hworked with
    | answered irrelevant world handlers =>
      refine ⟨move_finished hcur irrelevant world ?_, unfailed_finished h.unfailed ?_⟩
      · refine List.filterMap_eq_nil_iff.mpr fun hd hin => ?_
        rcases handlers hd hin with ⟨c, r, rfl⟩ | ⟨what, rfl⟩ <;> rfl
      · exact fun id reason hin => by simpa using handlers _ hin
    | written v c k₁ prepared disk openTables =>
      exact ⟨.written v c k₁ prepared disk openTables hjobs (by simp [lists, finished, listOf]) rfl
        ⟨rfl, rfl⟩, unfailed_finished h.unfailed (by simp)⟩
    | listed head ids world contents =>
      exact ⟨.listed head ids world hjobs (by simp [lists, finished, listOf]) rfl ⟨rfl, rfl⟩
        contents, unfailed_finished h.unfailed (by simp)⟩
    | deleted d disk openTables =>
      exact ⟨.deleted d disk openTables hjobs (by simp [lists, finished]) rfl ⟨rfl, rfl⟩,
        unfailed_finished h.unfailed (by simp)⟩

/-- A request that is irrelevant is queued, or its caller is answered at once. -/
lemma Ready.quiet {e : Event κ} (h : Ready s) (hworld : s'.world = s.world)
    (hjobs : s'.jobs = s.jobs) (hlists : s'.lists.Perm s.lists)
    (hindex : s'.existenceIndex = s.existenceIndex) (htimer : SameTimer s s') : Move s s' e :=
  .quiet (by rw [hworld]; exact ⟨.refl _, h.openTables⟩) hjobs hlists hindex htimer

/-- No operation fails. -/
def Succeeds : Event κ → Prop
  | .process calls => calls = []
  | _ => True

lemma Ready.move {e : Event κ} (h : Ready s) (hsucc : Succeeds e)
    (hstep : VFSBackend.step s e = some s') : Move s s' e ∧ s'.Unfailed := by
  have hqueued {req : AssetRequest κ} (hreq : relevant req = false) :
      Move s (s.enqueue req) e ∧ (s.enqueue req).Unfailed := by
    refine ⟨h.quiet rfl ?_ (.refl _) rfl ⟨rfl, rfl⟩, h.unfailed⟩
    rw [jobs_enqueue, List.filter_cons_of_neg (by simp [hreq]), List.filter_nil, List.append_nil]
  have hposted (k : κ) (r : Completion) :
      Move s (s.post [.callback k r]) e ∧ (s.post [.callback k r]).Unfailed := by
    refine ⟨h.quiet rfl rfl ?_ rfl ⟨rfl, rfl⟩, fun id reason hin => ?_⟩
    · rw [lists, VFSBackend.post, lists_append]
      exact (List.append_nil _).symm ▸ .refl _
    · exact (List.mem_append.mp hin).elim (h.unfailed id reason) (by simp)
  cases e with
  | getAsset uuid k =>
    cases hstep
    unfold VFSBackend.getAsset
    split_ifs
    · exact hposted _ _
    · exact hqueued rfl
  | storeAsset v k =>
    cases hstep
    unfold VFSBackend.storeAsset
    split_ifs with hexists
    · exact hposted _ _
    · refine ⟨.accepted v k rfl (fun hin => ?_) rfl ?_ rfl rfl ⟨rfl, rfl⟩, h.unfailed⟩
      · exact hexists ((ExistenceIndex.assetExists_text _ v.id).mpr hin)
      · exact jobs_enqueue ..
  | purgeAsset uuid k =>
    cases hstep
    exact hqueued rfl
  | getStatus k =>
    cases hstep
    exact hqueued rfl
  | getStoredAssetIDsWithPrefix head k =>
    cases hstep
    exact hqueued rfl
  | beginPurgeLocals =>
    cases hstep
    unfold VFSBackend.beginPurgeLocals
    split_ifs with hidle
    · exact ⟨.began rfl (by simpa using hidle) rfl, h.unfailed⟩
    · exact ⟨h.quiet rfl rfl (.refl _) rfl ⟨rfl, rfl⟩, h.unfailed⟩
  | purgeTimer =>
    obtain ⟨hpurging, hstep⟩ := Option.ite_none_right_eq_some.mp hstep
    cases hstep
    exact ⟨.ticked hpurging rfl, h.unfailed⟩
  | dequeue =>
    simp only [VFSBackend.step, VFSBackend.dequeue] at hstep
    split at hstep
    · next req rest hcur hqueue =>
      cases hstep
      refine ⟨h.quiet rfl ?_ (.refl _) rfl ⟨rfl, rfl⟩, h.unfailed⟩
      simp [jobs, pending, hcur, hqueue]
    · cases hstep
  | process calls =>
    cases hsucc
    exact h.process hstep
  | runHandler i =>
    obtain ⟨⟨b, r⟩, hb, rfl⟩ := Option.map_eq_some_iff.mp hstep
    unfold VFSBackend.runHandler at hb
    cases hi : s.posted[i]? with
    | none => simp [hi] at hb
    | some hd =>
      have hlists := (posted_perm hi).filterMap listOf
      have hunfailed : Unfailed { s with posted := s.posted.eraseIdx i } := fun id reason hin =>
        h.unfailed id reason (List.mem_of_mem_eraseIdx hin)
      rw [hi] at hb
      cases hd with
      | unindexLocals ids head =>
        cases hb
        exact ⟨.unindexed head ids rfl (jobs_enqueue ..) hlists rfl ⟨rfl, rfl⟩, hunfailed⟩
      | assetWriteFailed id reason =>
        exact absurd (List.mem_of_getElem? hi) (h.unfailed id reason)
      | callback k c =>
        cases hb
        exact ⟨h.quiet rfl rfl hlists rfl ⟨rfl, rfl⟩, hunfailed⟩
      | ioLoopFailed reason =>
        cases hb
        exact ⟨h.quiet rfl rfl hlists rfl ⟨rfl, rfl⟩, hunfailed⟩

end

/-! ### What holds while a purge is under way -/

/-- Nothing of an earlier purge is left. -/
def Clear (s : VFSBackend κ) : Prop := ∀ d, s.stages d = 0

/-- A write of an identifier that is on the disk as a local one comes after the deletion of its
directory. -/
def Ordered (k : Disk) (jobs : List (AssetRequest κ)) : Prop :=
  ∀ (i : ℕ) (req : AssetRequest κ) (u : AssetId), jobs[i]? = some req → claim req = some u.text →
    k.HasRow .locals u → ∃ j < i, jobs[j]? = some (AssetRequest.deleteLocalStorage u.dir)

lemma Ordered.concat {k : Disk} {jobs : List (AssetRequest κ)} (h : Ordered k jobs)
    {req : AssetRequest κ} (hreq : ∀ u : AssetId, claim req = some u.text → k.HasRow .locals u →
      .deleteLocalStorage u.dir ∈ jobs) : Ordered k (jobs ++ [req]) := by
  intro i req' u hi hid hrow
  by_cases hlt : i < jobs.length
  · rw [List.getElem?_append_left hlt] at hi
    obtain ⟨j, hj, hdel⟩ := h i req' u hi hid hrow
    exact ⟨j, hj, by rw [List.getElem?_append_left (by omega), hdel]⟩
  · rw [List.getElem?_append_right (by omega)] at hi
    rw [← List.mem_singleton.mp (List.mem_of_getElem? hi)] at hreq
    obtain ⟨j, hdel⟩ := List.mem_iff_getElem?.mp (hreq u hid hrow)
    have hj : j < jobs.length := (List.getElem?_eq_some_iff.mp hdel).1
    exact ⟨j, by omega, by rw [List.getElem?_append_left hj, hdel]⟩

lemma Ordered.tail {k k' : Disk} {req : AssetRequest κ} {jobs : List (AssetRequest κ)}
    (h : Ordered k (req :: jobs))
    (hrow : ∀ u : AssetId, u.text ∈ jobs.filterMap claim → k'.HasRow .locals u →
      k.HasRow .locals u ∧ req ≠ .deleteLocalStorage u.dir) : Ordered k' jobs := by
  intro i req' u hi hid hu
  obtain ⟨hold, hne⟩ := hrow u (List.mem_filterMap.mpr ⟨req', List.mem_of_getElem? hi, hid⟩) hu
  obtain ⟨j, hj, hdel⟩ := h (i + 1) req' u hi hid hold
  cases j with
  | zero => exact absurd (Option.some.inj hdel) hne
  | succ j => exact ⟨j, by omega, hdel⟩

structure Staged (s : VFSBackend κ) : Prop where
  openTables : OpenTables s.world
  rowIds : ∀ d b, ∀ row ∈ s.world.disk.rows d b, ∃ u : AssetId, row.assetId = u.text ∧ u.dir = d
  puts : ∀ a k, .put a k ∈ s.jobs → ∃ v : ValidAsset, v.toAsset = a
  unfailed : s.Unfailed
  claims_nodup : (s.jobs.filterMap claim).Nodup
  once : ∀ d, s.stages d ≤ 1
  claimed : ∀ u : AssetId, u.text ∈ s.jobs.filterMap claim → u.toUuid ∈ s.existenceIndex
  global : ∀ u : AssetId, s.world.disk.HasRow .globals u → u.toUuid ∈ s.existenceIndex
  onDisk : ∀ u : AssetId, s.world.disk.HasRow .locals u →
    u.toUuid ∈ s.existenceIndex ∨ .deleteLocalStorage u.dir ∈ s.jobs
  newGlobal : ∀ u : AssetId, u.text ∈ s.jobs.filterMap claim → ¬ s.world.disk.HasRow .globals u
  newLocal : Ordered s.world.disk s.jobs
  disjoint : ∀ u : AssetId, s.world.disk.HasRow .globals u → ¬ s.world.disk.HasRow .locals u
  listed : ∀ ids d, (ids, d) ∈ s.lists → ∀ u : AssetId, u.toUuid ∈ ids.getD [] →
    u.dir = d ∧ s.world.disk.HasRow .locals u
  timer : s.isPurgingLocals = true → s.currentLocalsPurgeIndex ≤ 0xFFF ∧
    ∀ d, 0 < s.stages d → ∃ j < s.currentLocalsPurgeIndex, d = hexHead j

section

variable {s s' : VFSBackend κ}

lemma Staged.ready (h : Staged s) : Ready s where
  openTables := h.openTables
  rowIds := h.rowIds
  puts := h.puts
  unfailed := h.unfailed
  newId := fun v k rest hjobs row hrow hid => by
    have hrow : s.world.disk.HasRow (baseOf v.toAsset) v.id := ⟨row, hrow, hid⟩
    have hclaim : v.id.text ∈ s.jobs.filterMap claim := by
      rw [hjobs]
      exact List.mem_cons_self
    unfold baseOf at hrow
    split_ifs at hrow
    · obtain ⟨j, hj, -⟩ := h.newLocal 0 _ v.id (by rw [hjobs]; rfl) rfl hrow
      exact Nat.not_lt_zero j hj
    · exact h.newGlobal v.id hclaim hrow

lemma countP_purges_pos {req : AssetRequest κ} {d : DirName} (hin : req ∈ s.jobs)
    (hpurges : purges d req = true) : 0 < s.jobs.countP (purges d) :=
  List.countP_pos_iff.mpr ⟨req, hin, hpurges⟩

lemma countP_lists_pos {ids : Option (List Uuid)} {d : DirName} (hin : (ids, d) ∈ s.lists) :
    0 < s.lists.countP (·.2 = d) :=
  List.countP_pos_iff.mpr ⟨_, hin, by simp⟩

/-- A directory whose list has been posted is not about to be deleted. -/
lemma Staged.not_deleting (h : Staged s) {ids : Option (List Uuid)} {d : DirName}
    (hin : (ids, d) ∈ s.lists) : .deleteLocalStorage d ∉ s.jobs := by
  intro hdel
  have hjob := countP_purges_pos (d := d) hdel (by simp [purges])
  have hlist := countP_lists_pos hin
  have honce := h.once d
  unfold stages at honce
  omega

/-- The identifiers to be written that are on the disk as local ones. -/
lemma Staged.deleting_of_claimed (h : Staged s) {u : AssetId}
    (hclaim : u.text ∈ s.jobs.filterMap claim) (hrow : s.world.disk.HasRow .locals u) :
    .deleteLocalStorage u.dir ∈ s.jobs := by
  obtain ⟨req, hreq, hid⟩ := List.mem_filterMap.mp hclaim
  obtain ⟨i, hi⟩ := List.mem_iff_getElem?.mp hreq
  obtain ⟨j, -, hj⟩ := h.newLocal i req u hi hid hrow
  exact List.mem_of_getElem? hj

/-- A listed identifier has not been stored again. -/
lemma Staged.not_claimed (h : Staged s) {ids : Option (List Uuid)} {d : DirName}
    (hin : (ids, d) ∈ s.lists) {u : AssetId} (hu : u.toUuid ∈ ids.getD []) :
    u.text ∉ s.jobs.filterMap claim ∧ ¬ s.world.disk.HasRow .globals u := by
  obtain ⟨rfl, hrow⟩ := h.listed ids d hin u hu
  exact ⟨fun hclaim => h.not_deleting hin (h.deleting_of_claimed hclaim hrow),
    fun hglobal => h.disjoint u hglobal hrow⟩

/-- Coherent states in which no identifier is both local and global. -/
lemma Coherent.staged (h : Coherent s) (hidle : s.isPurgingLocals = false)
    (hdisjoint : ∀ u : AssetId, s.world.disk.HasRow .globals u → ¬ s.world.disk.HasRow .locals u) :
    Staged s := by
  obtain ⟨hqueue, hcur, hposted⟩ := h.atRest
  have hjobs : s.jobs = [] := by simp [jobs, pending, hqueue, hcur]
  have hlists : s.lists = [] := by simp [lists, hposted]
  exact {
    openTables := h.openTables
    rowIds := h.rowIds
    puts := by simp [hjobs]
    unfailed := by simp [Unfailed, hposted]
    claims_nodup := by simp [hjobs]
    once := by simp [stages, hjobs, hlists]
    claimed := by simp [hjobs]
    global := fun u hu => (h.indexed u).mpr (.inl hu)
    onDisk := fun u hu => .inl ((h.indexed u).mpr (.inr hu))
    newGlobal := by simp [hjobs]
    newLocal := by simp [Ordered, hjobs]
    disjoint := hdisjoint
    listed := by simp [hlists]
    timer := by simp [hidle] }

/-! ### One step -/

lemma stages_eq (hjobs : s'.jobs = s.jobs) (hlists : s'.lists.Perm s.lists) (d : DirName) :
    s'.stages d = s.stages d := by
  rw [stages, stages, hjobs, hlists.countP_eq]

lemma stages_onPurgeTimer (s : VFSBackend κ) (d : DirName) : s.onPurgeTimer.stages d =
    s.stages d + if hexHead s.currentLocalsPurgeIndex = d then 1 else 0 := by
  have hjobs : s.onPurgeTimer.jobs = s.jobs ++ [.purgeLocals (hexHead s.currentLocalsPurgeIndex)] :=
    jobs_enqueue ..
  have hlists : s.onPurgeTimer.lists = s.lists := rfl
  rw [stages, stages, hjobs, hlists, List.countP_append, List.countP_singleton]
  simp only [purges, decide_eq_true_eq]
  omega

lemma stages_accepted {a : Asset} {k : κ} (hjobs : s'.jobs = s.jobs ++ [.put a k])
    (hlists : s'.lists = s.lists) (d : DirName) : s'.stages d = s.stages d := by
  simp [stages, hjobs, hlists, purges]

/-- Listing a directory and taking its list out of the index bring it to the next stage. -/
lemma stages_listed {d : DirName} {ids : Option (List Uuid)}
    (hjobs : s.jobs = .purgeLocals d :: s'.jobs) (hlists : s'.lists = s.lists ++ [(ids, d)])
    (d' : DirName) : s'.stages d' = s.stages d' := by
  simp only [stages, hjobs, hlists, List.countP_append, List.countP_cons, List.countP_nil, purges,
    decide_eq_true_eq]
  split_ifs <;> omega

lemma stages_unindexed {d : DirName} {ids : Option (List Uuid)}
    (hjobs : s'.jobs = s.jobs ++ [.deleteLocalStorage d])
    (hlists : ((ids, d) :: s'.lists).Perm s.lists) (d' : DirName) :
    s'.stages d' = s.stages d' := by
  rw [stages, stages, hjobs, ← hlists.countP_eq]
  simp only [List.countP_append, List.countP_cons, List.countP_nil, purges, decide_eq_true_eq]
  split_ifs <;> omega

lemma stages_written {a : Asset} {k : κ} (hjobs : s.jobs = .put a k :: s'.jobs)
    (hlists : s'.lists = s.lists) (d : DirName) : s'.stages d = s.stages d := by
  rw [stages, stages, hjobs, hlists, List.countP_cons]
  rfl

lemma stages_deleted {d : DirName} (hjobs : s.jobs = .deleteLocalStorage d :: s'.jobs)
    (hlists : s'.lists = s.lists) (d' : DirName) :
    s.stages d' = s'.stages d' + if d = d' then 1 else 0 := by
  simp only [stages, hjobs, hlists, List.countP_cons, purges, decide_eq_true_eq]
  omega

/-- A step that changes neither rows, jobs, lists nor the index. -/
lemma Staged.of_same (h : Staged s) (hworld : PreparedFrom s.world.disk s'.world)
    (hunfailed : s'.Unfailed) (hjobs : s'.jobs = s.jobs) (hlists : s'.lists.Perm s.lists)
    (hindex : s'.existenceIndex = s.existenceIndex)
    (htimer : s'.isPurgingLocals = true → s'.currentLocalsPurgeIndex ≤ 0xFFF ∧
      ∀ d, 0 < s.stages d → ∃ j < s'.currentLocalsPurgeIndex, d = hexHead j) : Staged s' := by
  have hrow (b : Base) (u : AssetId) : s'.world.disk.HasRow b u ↔ s.world.disk.HasRow b u :=
    Disk.HasRow.congr hworld.prepared.rows
  exact {
    openTables := hworld.openTables
    rowIds := hworld.prepared.rows ▸ h.rowIds
    puts := hjobs ▸ h.puts
    unfailed := hunfailed
    claims_nodup := hjobs ▸ h.claims_nodup
    once := fun d => (stages_eq hjobs hlists d).trans_le (h.once d)
    claimed := fun u hu => by rw [hindex]; exact h.claimed u (hjobs ▸ hu)
    global := fun u hu => by rw [hindex]; exact h.global u ((hrow _ u).mp hu)
    onDisk := fun u hu => by rw [hindex, hjobs]; exact h.onDisk u ((hrow _ u).mp hu)
    newGlobal := fun u hu => by rw [hrow]; exact h.newGlobal u (hjobs ▸ hu)
    newLocal := fun i req u hi hid hu => by
      rw [hjobs] at hi ⊢
      exact h.newLocal i req u hi hid ((hrow _ u).mp hu)
    disjoint := fun u hu => by rw [hrow]; exact h.disjoint u ((hrow _ u).mp hu)
    listed := fun ids d hin u hu => by rw [hrow]; exact h.listed ids d (hlists.mem_iff.mp hin) u hu
    timer := fun hp => by
      obtain ⟨hidx, hahead⟩ := htimer hp
      exact ⟨hidx, fun d hd => hahead d (stages_eq hjobs hlists d ▸ hd)⟩ }

lemma Staged.ticked (h : Staged s) (hpurging : s.isPurgingLocals = true) :
    Staged s.onPurgeTimer := by
  obtain ⟨hidx, hahead⟩ := h.timer hpurging
  set head := hexHead s.currentLocalsPurgeIndex with hhead
  have hjobs : s.onPurgeTimer.jobs = s.jobs ++ [.purgeLocals head] := jobs_enqueue ..
  have hclaims : s.onPurgeTimer.jobs.filterMap claim = s.jobs.filterMap claim := by
    simp [hjobs, claim]
  have hstages := stages_onPurgeTimer s
  -- the directory is new to this purge
  have hnew : s.stages head = 0 := by
    by_contra hne
    obtain ⟨j, hj, heq⟩ := hahead head (Nat.pos_of_ne_zero hne)
    have := hexHead_injective hidx (by omega) heq
    omega
  exact {
    openTables := h.openTables
    rowIds := h.rowIds
    puts := fun a k hin => h.puts a k (by simpa [hjobs] using hin)
    unfailed := h.unfailed
    claims_nodup := hclaims ▸ h.claims_nodup
    once := fun d => by
      rw [hstages]
      split_ifs with hd
      · rw [← hd, hnew]
      · exact h.once d
    claimed := hclaims ▸ h.claimed
    global := h.global
    onDisk := fun u hu => (h.onDisk u hu).imp_right fun hin => by simp [hjobs, hin]
    newGlobal := hclaims ▸ h.newGlobal
    newLocal := by
      rw [hjobs]
      exact Ordered.concat h.newLocal fun u hu => by cases hu
    disjoint := h.disjoint
    listed := h.listed
    timer := fun hp => by
      refine ⟨of_decide_eq_true hp, fun d hd => ?_⟩
      rw [hstages] at hd
      split_ifs at hd with heq
      · exact ⟨s.currentLocalsPurgeIndex, Nat.lt_succ_self _, heq.symm⟩
      · obtain ⟨j, hj, hd⟩ := hahead d hd
        exact ⟨j, Nat.lt_succ_of_lt hj, hd⟩ }

lemma Staged.accepted (h : Staged s) {v : ValidAsset} {k : κ}
    (hnew : v.id.toUuid ∉ s.existenceIndex) (hworld : s'.world = s.world) (hunfailed : s'.Unfailed)
    (hjobs : s'.jobs = s.jobs ++ [.put v.toAsset k]) (hlists : s'.lists = s.lists)
    (hindex : s'.existenceIndex = ExistenceIndex.addNewId s.existenceIndex v.id.text)
    (htimer : SameTimer s s') : Staged s' := by
  have hmem (u : AssetId) :
      u.toUuid ∈ s'.existenceIndex ↔ u = v.id ∨ u.toUuid ∈ s.existenceIndex := by
    rw [hindex, ExistenceIndex.mem_addNewId, AssetId.toUuid_inj]
  have hclaims (u : AssetId) :
      u.text ∈ s'.jobs.filterMap claim ↔ u.text ∈ s.jobs.filterMap claim ∨ u = v.id := by
    rw [hjobs, List.filterMap_append, List.mem_append, AssetId.ext_iff]
    simp [claim]
  have hstages := stages_accepted hjobs hlists
  exact {
    openTables := hworld ▸ h.openTables
    rowIds := hworld ▸ h.rowIds
    puts := fun a k' hin => by
      rw [hjobs] at hin
      rcases List.mem_append.mp hin with hin | hin
      · exact h.puts a k' hin
      · cases List.mem_singleton.mp hin
        exact ⟨v, rfl⟩
    unfailed := hunfailed
    claims_nodup := by
      rw [hjobs, List.filterMap_append, List.nodup_append]
      refine ⟨h.claims_nodup, List.nodup_singleton _, ?_⟩
      rintro x hx y hy rfl
      obtain rfl : x = v.id.text := List.mem_singleton.mp hy
      exact hnew (h.claimed v.id hx)
    once := fun d => (hstages d).trans_le (h.once d)
    claimed := fun u hu => (hmem u).mpr (((hclaims u).mp hu).symm.imp_right (h.claimed u))
    global := fun u hu => (hmem u).mpr (.inr (h.global u (hworld ▸ hu)))
    onDisk := fun u hu => by
      refine (h.onDisk u (hworld ▸ hu)).imp (fun hin => (hmem u).mpr (.inr hin)) fun hin => ?_
      simp [hjobs, hin]
    newGlobal := fun u hu hglobal => by
      rw [hworld] at hglobal
      rcases (hclaims u).mp hu with hu | rfl
      · exact h.newGlobal u hu hglobal
      · exact hnew (h.global _ hglobal)
    newLocal := by
      rw [hworld, hjobs]
      refine Ordered.concat h.newLocal fun u hu hrow => ?_
      obtain rfl : v.id = u := AssetId.ext (Option.some.inj hu)
      exact (h.onDisk _ hrow).resolve_left hnew
    disjoint := hworld ▸ h.disjoint
    listed := fun ids d hin => by
      rw [hworld]
      exact h.listed ids d (hlists ▸ hin)
    timer := fun hp => by
      rw [htimer.purgeIndex]
      refine ⟨(h.timer (htimer.isPurging ▸ hp)).1, fun d hd => ?_⟩
      exact (h.timer (htimer.isPurging ▸ hp)).2 d (hstages d ▸ hd) }

lemma Staged.timer_of_le (h : Staged s) (htimer : SameTimer s s')
    (hstages : ∀ d, s'.stages d ≤ s.stages d) :
    s'.isPurgingLocals = true → s'.currentLocalsPurgeIndex ≤ 0xFFF ∧
      ∀ d, 0 < s'.stages d → ∃ j < s'.currentLocalsPurgeIndex, d = hexHead j := by
  intro hp
  obtain ⟨hidx, hahead⟩ := h.timer (htimer.isPurging ▸ hp)
  rw [htimer.purgeIndex]
  exact ⟨hidx, fun d hd => hahead d (hd.trans_le (hstages d))⟩

lemma Staged.list (h : Staged s) {d : DirName} {ids : Option (List Uuid)}
    (hworld : PreparedFrom s.world.disk s'.world) (hunfailed : s'.Unfailed)
    (hjobs : s.jobs = .purgeLocals d :: s'.jobs) (hlists : s'.lists = s.lists ++ [(ids, d)])
    (hindex : s'.existenceIndex = s.existenceIndex) (htimer : SameTimer s s')
    (hcontents : ∀ u : AssetId, u.toUuid ∈ ids.getD [] ↔
      u.dir = d ∧ s.world.disk.HasRow .locals u) : Staged s' := by
  have hrow (b : Base) (u : AssetId) : s'.world.disk.HasRow b u ↔ s.world.disk.HasRow b u :=
    Disk.HasRow.congr hworld.prepared.rows
  have hclaims : s.jobs.filterMap claim = s'.jobs.filterMap claim := by
    rw [hjobs, List.filterMap_cons_none rfl]
  have hstages := stages_listed hjobs hlists
  exact {
    openTables := hworld.openTables
    rowIds := hworld.prepared.rows ▸ h.rowIds
    puts := fun a k hin => h.puts a k (hjobs ▸ List.mem_cons_of_mem _ hin)
    unfailed := hunfailed
    claims_nodup := hclaims ▸ h.claims_nodup
    once := fun d' => (hstages d').trans_le (h.once d')
    claimed := fun u hu => by rw [hindex]; exact h.claimed u (hclaims ▸ hu)
    global := fun u hu => by rw [hindex]; exact h.global u ((hrow _ u).mp hu)
    onDisk := fun u hu => by
      rw [hindex]
      exact (h.onDisk u ((hrow _ u).mp hu)).imp_right fun hin => by simpa [hjobs] using hin
    newGlobal := fun u hu => by rw [hrow]; exact h.newGlobal u (hclaims ▸ hu)
    newLocal := (hjobs ▸ h.newLocal).tail fun u _ hu =>
      ⟨(hrow _ u).mp hu, fun heq => by cases heq⟩
    disjoint := fun u hu => by rw [hrow]; exact h.disjoint u ((hrow _ u).mp hu)
    listed := fun ids' d' hin u hu => by
      rw [hrow]
      rw [hlists] at hin
      rcases List.mem_append.mp hin with hin | hin
      · exact h.listed ids' d' hin u hu
      · cases List.mem_singleton.mp hin
        exact (hcontents u).mp hu
    timer := h.timer_of_le htimer fun d' => (hstages d').le }

lemma Staged.unindex (h : Staged s) {d : DirName} {ids : Option (List Uuid)}
    (hworld : s'.world = s.world) (hunfailed : s'.Unfailed)
    (hjobs : s'.jobs = s.jobs ++ [.deleteLocalStorage d])
    (hlists : ((ids, d) :: s'.lists).Perm s.lists)
    (hindex : s'.existenceIndex = (ids.getD []).foldl ExistenceIndex.removeId s.existenceIndex)
    (htimer : SameTimer s s') : Staged s' := by
  have hin : (ids, d) ∈ s.lists := hlists.mem_iff.mp List.mem_cons_self
  have hclaims : s'.jobs.filterMap claim = s.jobs.filterMap claim := by simp [hjobs, claim]
  have hmem (u : AssetId) :
      u.toUuid ∈ s'.existenceIndex ↔ u.toUuid ∈ s.existenceIndex ∧ u.toUuid ∉ ids.getD [] := by
    rw [hindex, ExistenceIndex.mem_foldl_removeId]
  have hstages := stages_unindexed hjobs hlists
  exact {
    openTables := hworld ▸ h.openTables
    rowIds := hworld ▸ h.rowIds
    puts := fun a k hin => h.puts a k (by simpa [hjobs] using hin)
    unfailed := hunfailed
    claims_nodup := hclaims ▸ h.claims_nodup
    once := fun d' => (hstages d').trans_le (h.once d')
    claimed := fun u hu => by
      rw [hclaims] at hu
      exact (hmem u).mpr ⟨h.claimed u hu, fun hids => (h.not_claimed hin hids).1 hu⟩
    global := fun u hu => by
      rw [hworld] at hu
      exact (hmem u).mpr ⟨h.global u hu, fun hids => (h.not_claimed hin hids).2 hu⟩
    onDisk := fun u hu => by
      rw [hworld] at hu
      by_cases hids : u.toUuid ∈ ids.getD []
      · exact .inr (by simp [hjobs, (h.listed ids d hin u hids).1])
      · exact (h.onDisk u hu).imp (fun hold => (hmem u).mpr ⟨hold, hids⟩) fun hdel => by
          simp [hjobs, hdel]
    newGlobal := fun u hu => by rw [hworld]; exact h.newGlobal u (hclaims ▸ hu)
    newLocal := by
      rw [hworld, hjobs]
      exact Ordered.concat h.newLocal fun u hu => by cases hu
    disjoint := hworld ▸ h.disjoint
    listed := fun ids' d' hin' => by
      rw [hworld]
      exact h.listed ids' d' (hlists.mem_iff.mp (List.mem_cons_of_mem _ hin'))
    timer := h.timer_of_le htimer fun d' => (hstages d').le }

lemma Staged.write (h : Staged s) {v : ValidAsset} {k : κ} {k₁ : Disk}
    (hprep : Prepared s.world.disk k₁)
    (hdisk : s'.world.disk = k₁.stored (dirOf v.toAsset) (baseOf v.toAsset) v.toAsset)
    (hopen : OpenTables s'.world) (hunfailed : s'.Unfailed)
    (hjobs : s.jobs = .put v.toAsset k :: s'.jobs) (hlists : s'.lists = s.lists)
    (hindex : s'.existenceIndex = s.existenceIndex) (htimer : SameTimer s s') : Staged s' := by
  have hrow (b : Base) (u : AssetId) : s'.world.disk.HasRow b u ↔
      s.world.disk.HasRow b u ∨ b = baseOf v.toAsset ∧ u = v.id := by
    rw [hdisk, hasRow_stored, Disk.HasRow.congr hprep.rows]
  have hclaims : s.jobs.filterMap claim = v.id.text :: s'.jobs.filterMap claim := by
    rw [hjobs]
    rfl
  have hclaim : v.id.text ∈ s.jobs.filterMap claim := hclaims ▸ List.mem_cons_self
  have hnodup := h.claims_nodup
  rw [hclaims, List.nodup_cons] at hnodup
  have hstages := stages_written hjobs hlists
  -- the identifier is on the disk neither as a local nor as a global one
  have hnotLocal : ¬ s.world.disk.HasRow .locals v.id := fun hlocal => by
    obtain ⟨j, hj, -⟩ := h.newLocal 0 _ v.id (by rw [hjobs]; rfl) rfl hlocal
    exact Nat.not_lt_zero j hj
  exact {
    openTables := hopen
    rowIds := fun d b row hin => by
      rw [hdisk] at hin
      by_cases hplace : d = dirOf v.toAsset ∧ b = baseOf v.toAsset
      · obtain ⟨rfl, rfl⟩ := hplace
        rw [Disk.rows_stored, hprep.rows] at hin
        rcases List.mem_append.mp hin with hin | hin
        · exact h.rowIds _ _ row hin
        · rw [List.mem_singleton.mp hin]
          exact ⟨v.id, rfl, rfl⟩
      · rw [Disk.rows_stored_of_ne hplace, hprep.rows] at hin
        exact h.rowIds _ _ row hin
    puts := fun a k' hin => h.puts a k' (hjobs ▸ List.mem_cons_of_mem _ hin)
    unfailed := hunfailed
    claims_nodup := hnodup.2
    once := fun d => (hstages d).trans_le (h.once d)
    claimed := fun u hu => by
      rw [hindex]
      exact h.claimed u (hclaims ▸ List.mem_cons_of_mem _ hu)
    global := fun u hu => by
      rw [hindex]
      rcases (hrow _ u).mp hu with hu | ⟨-, rfl⟩
      · exact h.global u hu
      · exact h.claimed _ hclaim
    onDisk := fun u hu => by
      rw [hindex]
      rcases (hrow _ u).mp hu with hu | ⟨-, rfl⟩
      · exact (h.onDisk u hu).imp_right fun hdel => by simpa [hjobs] using hdel
      · exact .inl (h.claimed _ hclaim)
    newGlobal := fun u hu hglobal => by
      rcases (hrow _ u).mp hglobal with hglobal | ⟨-, rfl⟩
      · exact h.newGlobal u (hclaims ▸ List.mem_cons_of_mem _ hu) hglobal
      · exact hnodup.1 hu
    newLocal := (hjobs ▸ h.newLocal).tail fun u hu hlocal => by
      refine ⟨((hrow _ u).mp hlocal).resolve_right ?_, fun heq => by cases heq⟩
      rintro ⟨-, rfl⟩
      exact hnodup.1 hu
    disjoint := fun u hglobal hlocal => by
      rcases (hrow _ u).mp hglobal with hglobal | ⟨hbase, rfl⟩
      · rcases (hrow _ u).mp hlocal with hlocal | ⟨-, rfl⟩
        · exact h.disjoint u hglobal hlocal
        · exact h.newGlobal _ hclaim hglobal
      · rcases (hrow _ _).mp hlocal with hlocal | ⟨hbase', -⟩
        · exact hnotLocal hlocal
        · rw [← hbase] at hbase'
          cases hbase'
    listed := fun ids d hin u hu => by
      obtain ⟨hdir, hlocal⟩ := h.listed ids d (hlists ▸ hin) u hu
      exact ⟨hdir, (hrow _ u).mpr (.inl hlocal)⟩
    timer := h.timer_of_le htimer fun d => (hstages d).le }

lemma hasRow_deleted {k k' : Disk} {d : DirName}
    (hdisk : k' = (k.setIdx d .locals .absent).setData d .locals none) (u : AssetId) :
    (k'.HasRow .globals u ↔ k.HasRow .globals u) ∧
      (k'.HasRow .locals u ↔ k.HasRow .locals u ∧ u.dir ≠ d) := by
  have hrows (b : Base) :
      k'.rows u.dir b = if u.dir = d ∧ b = .locals then [] else k.rows u.dir b := by
    rw [hdisk, Disk.rows_setData, Disk.rows_setIdx]
  unfold Disk.HasRow
  rw [hrows, hrows]
  by_cases hd : u.dir = d
  · simp [hd]
  · simp [hd]

lemma Staged.delete (h : Staged s) {d : DirName}
    (hdisk : s'.world.disk = (s.world.disk.setIdx d .locals .absent).setData d .locals none)
    (hopen : OpenTables s'.world) (hunfailed : s'.Unfailed)
    (hjobs : s.jobs = .deleteLocalStorage d :: s'.jobs) (hlists : s'.lists = s.lists)
    (hindex : s'.existenceIndex = s.existenceIndex) (htimer : SameTimer s s') : Staged s' := by
  have hglobal (u : AssetId) := (hasRow_deleted hdisk u).1
  have hlocal (u : AssetId) := (hasRow_deleted hdisk u).2
  have hclaims : s.jobs.filterMap claim = s'.jobs.filterMap claim := by
    rw [hjobs, List.filterMap_cons_none rfl]
  have hstages (d' : DirName) : s'.stages d' ≤ s.stages d' :=
    (stages_deleted hjobs hlists d').symm ▸ Nat.le_add_right ..
  exact {
    openTables := hopen
    rowIds := fun d' b row hin => by
      rw [hdisk, Disk.rows_setData, Disk.rows_setIdx] at hin
      split_ifs at hin
      · cases hin
      · exact h.rowIds d' b row hin
    puts := fun a k hin => h.puts a k (hjobs ▸ List.mem_cons_of_mem _ hin)
    unfailed := hunfailed
    claims_nodup := hclaims ▸ h.claims_nodup
    once := fun d' => (hstages d').trans (h.once d')
    claimed := fun u hu => by rw [hindex]; exact h.claimed u (hclaims ▸ hu)
    global := fun u hu => by rw [hindex]; exact h.global u ((hglobal u).mp hu)
    onDisk := fun u hu => by
      rw [hindex]
      obtain ⟨hu, hne⟩ := (hlocal u).mp hu
      exact (h.onDisk u hu).imp_right fun hdel => by simpa [hjobs, hne] using hdel
    newGlobal := fun u hu => by rw [hglobal]; exact h.newGlobal u (hclaims ▸ hu)
    newLocal := (hjobs ▸ h.newLocal).tail fun u _ hu => by
      obtain ⟨hu, hne⟩ := (hlocal u).mp hu
      exact ⟨hu, fun heq => hne (by cases heq; rfl)⟩
    disjoint := fun u hu hu' => h.disjoint u ((hglobal u).mp hu) ((hlocal u).mp hu').1
    listed := fun ids d' hin u hu => by
      rw [hlists] at hin
      obtain ⟨rfl, hrow⟩ := h.listed ids d' hin u hu
      refine ⟨rfl, (hlocal u).mpr ⟨hrow, fun hd => ?_⟩⟩
      exact h.not_deleting hin (hjobs ▸ hd ▸ List.mem_cons_self)
    timer := h.timer_of_le htimer hstages }

/-- No operation fails, and a purge begins only when nothing is left of the one before. -/
def Spaced (s : VFSBackend κ) (e : Event κ) : Prop :=
  Succeeds e ∧ (e = .beginPurgeLocals → s.isPurgingLocals = false → s.Clear)

lemma Staged.step {e : Event κ} (h : Staged s) (hspaced : Spaced s e)
    (hstep : VFSBackend.step s e = some s') : Staged s' := by
  obtain ⟨hmove, hunfailed⟩ := h.ready.move hspaced.1 hstep
  cases hmove with
  | quiet world jobs lists index timer =>
    refine h.of_same world hunfailed jobs lists index fun hp => ?_
    rw [timer.purgeIndex]
    exact h.timer (timer.isPurging ▸ hp)
  | began event idle state =>
    subst state
    refine h.of_same ⟨.refl _, h.openTables⟩ hunfailed rfl (.refl _) rfl fun _ =>
      ⟨Nat.zero_le _, fun d hd => ?_⟩
    rw [hspaced.2 event idle d] at hd
    exact absurd hd (Nat.lt_irrefl 0)
  | ticked purging state => exact state ▸ h.ticked purging
  | accepted v k event new world jobs lists index timer =>
    exact h.accepted new world hunfailed jobs lists index timer
  | listed d ids world jobs lists index timer contents =>
    exact h.list world hunfailed jobs lists index timer contents
  | unindexed d ids world jobs lists index timer =>
    exact h.unindex world hunfailed jobs lists index timer
  | written v k k₁ prepared disk openTables jobs lists index timer =>
    exact h.write prepared disk openTables hunfailed jobs lists index timer
  | deleted d disk openTables jobs lists index timer =>
    exact h.delete disk openTables hunfailed jobs lists index timer

end

end VFSBackend

end Whip
