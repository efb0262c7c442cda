import Whip.Storage.Requests
import Whip.Lib.Machine

/-!
# Purging the local assets

A purge of a directory's local assets is handed over twice: the worker lists the identifiers, the io
thread takes them out of the existence index, and the worker deletes the files. This module says
what ties the index to the disk while purges and stores are under way, and under which condition on
their interleaving the two agree once everything has come to rest.
-/

namespace Whip

open Effect

/-- The directory of an identifier. -/
def AssetId.dir (u : AssetId) : DirName := getFullPathForUUID u.text

/-- The index file of the identifier's directory holds a row for it. -/
def Disk.HasRow (k : Disk) (b : Base) (u : AssetId) : Prop :=
  ∃ row ∈ k.rows u.dir b, row.assetId = u.text

lemma Disk.HasRow.congr {k k' : Disk} (h : k'.rows = k.rows) {b : Base} {u : AssetId} :
    k'.HasRow b u ↔ k.HasRow b u := by
  unfold Disk.HasRow
  rw [h]

namespace VFSBackend

variable {κ : Type}

/-- The requests the worker has not finished. -/
def pending (s : VFSBackend κ) : List (AssetRequest κ) := s.current.toList ++ s.workQueue

/-- The identifier a write has claimed in the index. -/
def claim : AssetRequest κ → Option ByteString
  | .put asset _ => some asset.getUUID
  | _            => none

def claims (s : VFSBackend κ) : List ByteString := s.pending.filterMap claim

/-- The files of the directory's local assets are about to be deleted. -/
def Deleting (s : VFSBackend κ) (d : DirName) : Prop := .deleteLocalStorage d ∈ s.pending

/-- A posted list of local identifiers is complete, and names nothing outside the directory; no
write has failed. -/
def Sound (k : Disk) : Handler κ → Prop
  | .unindexLocals ids head => ∀ u : AssetId, (u.toUuid ∈ ids.getD [] → u.dir = head) ∧
      (u.dir = head → k.HasRow .locals u → u.toUuid ∈ ids.getD [])
  | .assetWriteFailed _ _   => False
  | _                       => True

/-- What ties the index to the disk while requests and handlers are under way. -/
structure Tracked (s : VFSBackend κ) : Prop where
  openTables : OpenTables s.world
  rowIds : ∀ d b, ∀ row ∈ s.world.disk.rows d b, ∃ u : AssetId, row.assetId = u.text ∧ u.dir = d
  puts : ∀ a k, .put a k ∈ s.pending → ∃ v : ValidAsset, v.toAsset = a
  claims_nodup : s.claims.Nodup
  indexed : ∀ u : AssetId, u.toUuid ∈ s.existenceIndex ↔ u.text ∈ s.claims ∨
    s.world.disk.HasRow .globals u ∨ s.world.disk.HasRow .locals u ∧ ¬ s.Deleting u.dir
  newGlobal : ∀ u : AssetId, u.text ∈ s.claims → ¬ s.world.disk.HasRow .globals u
  newLocal : ∀ u : AssetId, u.text ∈ s.claims → s.world.disk.HasRow .locals u → s.Deleting u.dir
  handlers : ∀ h ∈ s.posted, Sound s.world.disk h

/-- Nothing is under way, and the index holds what the disk holds. -/
structure Coherent (s : VFSBackend κ) : Prop where
  openTables : OpenTables s.world
  rowIds : ∀ d b, ∀ row ∈ s.world.disk.rows d b, ∃ u : AssetId, row.assetId = u.text ∧ u.dir = d
  atRest : s.workQueue = [] ∧ s.current = none ∧ s.posted = []
  indexed : ∀ u : AssetId, u.toUuid ∈ s.existenceIndex ↔
    s.world.disk.HasRow .globals u ∨ s.world.disk.HasRow .locals u

lemma Coherent.tracked {s : VFSBackend κ} (h : Coherent s) : Tracked s := by
  obtain ⟨hqueue, hcur, hposted⟩ := h.atRest
  have hpending : s.pending = [] := by simp [pending, hqueue, hcur]
  exact {
    openTables := h.openTables
    rowIds := h.rowIds
    puts := by simp [hpending]
    claims_nodup := by simp [claims, hpending]
    indexed := by simpa [claims, Deleting, hpending] using h.indexed
    newGlobal := by simp [claims, hpending]
    newLocal := by simp [claims, hpending]
    handlers := by simp [hposted] }

/-- A tracked backend that has come to rest. -/
lemma Tracked.coherent {s : VFSBackend κ} (h : Tracked s) (hqueue : s.workQueue = [])
    (hcur : s.current = none) (hposted : s.posted = []) : Coherent s where
  openTables := h.openTables
  rowIds := h.rowIds
  atRest := ⟨hqueue, hcur, hposted⟩
  indexed := fun u => by simpa [claims, Deleting, pending, hqueue, hcur] using h.indexed u

/-! ### Requests that claim and delete nothing -/

def Neutral (req : AssetRequest κ) : Prop :=
  claim req = none ∧ ∀ d, req ≠ .deleteLocalStorage d

lemma Neutral.ne_put {req : AssetRequest κ} (h : Neutral req) (a : Asset) (k : κ) :
    req ≠ .put a k := by
  rintro rfl
  cases h.1

lemma Sound.congr {k k' : Disk} (hrows : k'.rows = k.rows) {h : Handler κ} (hs : Sound k h) :
    Sound k' h := by
  cases h with
  | unindexLocals ids head => simpa [Sound, Disk.HasRow.congr hrows] using hs
  | _ => exact hs

/-- Openings, neutral requests and sound handlers change nothing. -/
lemma Tracked.of_same {s s' : VFSBackend κ} (h : Tracked s)
    (hw : PreparedFrom s.world.disk s'.world) (hindex : s'.existenceIndex = s.existenceIndex)
    (hclaims : s'.claims = s.claims) (hput : ∀ a k, .put a k ∈ s'.pending → .put a k ∈ s.pending)
    (hdel : ∀ d, s'.Deleting d ↔ s.Deleting d)
    (hposted : ∀ h ∈ s'.posted, h ∈ s.posted ∨ Sound s.world.disk h) : Tracked s' := by
  have hrow (b : Base) (u : AssetId) := Disk.HasRow.congr hw.prepared.rows (b := b) (u := u)
  exact {
    openTables := hw.openTables
    rowIds := hw.prepared.rows ▸ h.rowIds
    puts := fun a k hin => h.puts a k (hput a k hin)
    claims_nodup := hclaims ▸ h.claims_nodup
    indexed := fun u => by rw [hindex, hclaims, hrow, hrow, hdel]; exact h.indexed u
    newGlobal := fun u hu => by rw [hrow]; exact h.newGlobal u (hclaims ▸ hu)
    newLocal := fun u hu => by rw [hrow, hdel]; exact h.newLocal u (hclaims ▸ hu)
    handlers := fun hd hin => .congr hw.prepared.rows ((hposted hd hin).elim (h.handlers hd) id) }

lemma Tracked.enqueue {s : VFSBackend κ} (h : Tracked s) {req : AssetRequest κ}
    (hreq : Neutral req) : Tracked (s.enqueue req) := by
  have hpending : (s.enqueue req).pending = s.pending ++ [req] := by
    simp [pending, VFSBackend.enqueue]
  refine h.of_same ⟨.refl _, h.openTables⟩ rfl ?_ (fun a k hin => ?_) (fun d => ?_) fun _ => .inl
  · simp [claims, hpending, hreq.1]
  · rw [hpending] at hin
    simpa [(hreq.ne_put a k).symm] using hin
  · simp [Deleting, hpending, (hreq.2 d).symm]

lemma Tracked.post {s : VFSBackend κ} (h : Tracked s) {k : κ} {r : Completion} :
    Tracked (s.post [.callback k r]) := by
  refine h.of_same ⟨.refl _, h.openTables⟩ rfl rfl (fun _ _ => id) (fun _ => Iff.rfl) ?_
  intro hd hin
  rcases List.mem_append.mp hin with hin | hin
  · exact .inl hin
  · rw [List.mem_singleton.mp hin]
    exact .inr trivial

/-! ### The worker -/

lemma pending_of_current {s : VFSBackend κ} {req : AssetRequest κ} (hcur : s.current = some req) :
    s.pending = req :: s.workQueue := by
  simp [pending, hcur]

/-- The worker is through with its request. -/
def finished (s : VFSBackend κ) (w : World) (hs : List (Handler κ)) : VFSBackend κ :=
  { s with world := w, current := none, posted := s.posted ++ hs }

@[simp] lemma pending_finished (s : VFSBackend κ) (w : World) (hs : List (Handler κ)) :
    (s.finished w hs).pending = s.workQueue := rfl

@[simp] lemma claims_finished (s : VFSBackend κ) (w : World) (hs : List (Handler κ)) :
    (s.finished w hs).claims = s.workQueue.filterMap claim := rfl

/-- A neutral request, processed. -/
lemma Tracked.finish {s : VFSBackend κ} (h : Tracked s) {req : AssetRequest κ}
    (hcur : s.current = some req) (hreq : Neutral req) {w : World} {hs : List (Handler κ)}
    (hw : PreparedFrom s.world.disk w) (hsound : ∀ h ∈ hs, Sound s.world.disk h) :
    Tracked (s.finished w hs) := by
  have hpending := pending_of_current hcur
  refine h.of_same hw rfl ?_ (fun a k hin => ?_) (fun d => ?_) fun hd hin => ?_
  · simp [claims, hpending, hreq.1]
  · rw [hpending]
    exact List.mem_cons_of_mem _ hin
  · simp [Deleting, hpending, (hreq.2 d).symm]
  · exact (List.mem_append.mp hin).imp id (hsound hd)

lemma hasRow_stored_iff {k : Disk} {a : Asset} {b : Base} {u : AssetId} :
    (k.stored (dirOf a) (baseOf a) a).HasRow b u ↔
      k.HasRow b u ∨ b = baseOf a ∧ a.getUUID = u.text := by
  by_cases hplace : u.dir = dirOf a ∧ b = baseOf a
  · unfold Disk.HasRow
    rw [hplace.1, hplace.2, Disk.rows_stored]
    simp [or_and_right, exists_or, rowOf]
  · unfold Disk.HasRow
    rw [Disk.rows_stored_of_ne hplace]
    constructor
    · exact .inl
    · rintro (hrow | ⟨rfl, hid⟩)
      · exact hrow
      · exact absurd ⟨congrArg getFullPathForUUID hid.symm, rfl⟩ hplace

lemma hasRow_stored {k : Disk} {v : ValidAsset} {b : Base} {u : AssetId} :
    (k.stored (dirOf v.toAsset) (baseOf v.toAsset) v.toAsset).HasRow b u ↔
      k.HasRow b u ∨ b = baseOf v.toAsset ∧ u = v.id := by
  rw [hasRow_stored_iff, ← v.text_id, AssetId.ext_iff, eq_comm (a := v.id.text)]

/-- A purge of the directory has been listed and its files are still to be deleted. -/
def PurgeUnderway (s : VFSBackend κ) (d : DirName) : Prop :=
  .deleteLocalStorage d ∈ s.workQueue ∨ ∃ ids, .unindexLocals ids d ∈ s.posted

/-- The asset a tracked backend is about to write is new to its database. -/
lemma Tracked.newId {s : VFSBackend κ} (h : Tracked s) {v : ValidAsset} {k : κ}
    (hcur : s.current = some (.put v.toAsset k))
    (hlocal : v.isLocal = true → ¬ s.PurgeUnderway v.id.dir) :
    NewId s.world.disk (dirOf v.toAsset) (baseOf v.toAsset) v.toAsset := by
  intro row hrow hid
  have hpending := pending_of_current hcur
  have hclaim : v.id.text ∈ s.claims := by simp [claims, hpending, claim]
  have hrow : s.world.disk.HasRow (baseOf v.toAsset) v.id := ⟨row, hrow, hid⟩
  unfold baseOf at hrow
  split_ifs at hrow with hl
  · have hdel := h.newLocal v.id hclaim hrow
    rw [Deleting, hpending] at hdel
    exact hlocal hl (.inl (by simpa using hdel))
  · exact h.newGlobal v.id hclaim hrow

/-- A write, processed: its claim becomes a row. -/
lemma Tracked.write {s : VFSBackend κ} (h : Tracked s) {v : ValidAsset} {k : κ}
    (hcur : s.current = some (.put v.toAsset k))
    (hlocal : v.isLocal = true → ¬ s.PurgeUnderway v.id.dir) {w : World} {k₁ : Disk}
    (hprep : Prepared s.world.disk k₁)
    (hdisk : w.disk = k₁.stored (dirOf v.toAsset) (baseOf v.toAsset) v.toAsset)
    (hopen : OpenTables w) (r : Completion) : Tracked (s.finished w [.callback k r]) := by
  have hpending := pending_of_current hcur
  have hclaims : s.claims = v.id.text :: s.workQueue.filterMap claim := by
    simp [claims, hpending, claim]
  have hnodup := h.claims_nodup
  rw [hclaims, List.nodup_cons] at hnodup
  have hdel (d : DirName) : (s.finished w [.callback k r]).Deleting d ↔ s.Deleting d := by
    simp [Deleting, hpending]
  have hrow (b : Base) (u : AssetId) :
      w.disk.HasRow b u ↔ s.world.disk.HasRow b u ∨ b = baseOf v.toAsset ∧ u = v.id := by
    rw [hdisk, hasRow_stored, Disk.HasRow.congr hprep.rows]
  have hother {u : AssetId} (hu : u.text ∈ s.workQueue.filterMap claim) : u ≠ v.id := by
    rintro rfl
    exact hnodup.1 hu
  have hnotDeleting (hbase : baseOf v.toAsset = .locals) : ¬ s.Deleting v.id.dir := by
    intro hd
    rw [Deleting, hpending] at hd
    have hl : v.isLocal = true := by
      by_contra hl
      simp [baseOf, hl] at hbase
    exact hlocal hl (.inl (by simpa using hd))
  refine ⟨hopen, ?_, ?_, hnodup.2, ?_, ?_, ?_, ?_⟩
  · intro d b row hin
    change row ∈ w.disk.rows d b at hin
    rw [hdisk] at hin
    by_cases hplace : d = dirOf v.toAsset ∧ b = baseOf v.toAsset
    · obtain ⟨rfl, rfl⟩ := hplace
      rw [Disk.rows_stored, hprep.rows] at hin
      rcases List.mem_append.mp hin with hin | hin
      · exact h.rowIds _ _ row hin
      · rw [List.mem_singleton.mp hin]
        exact ⟨v.id, rfl, rfl⟩
    · rw [Disk.rows_stored_of_ne hplace, hprep.rows] at hin
      exact h.rowIds _ _ row hin
  · intro a k' hin
    exact h.puts a k' (hpending ▸ List.mem_cons_of_mem _ hin)
  · intro u
    change _ ∈ s.existenceIndex ↔ u.text ∈ s.workQueue.filterMap claim ∨ w.disk.HasRow .globals u ∨
      w.disk.HasRow .locals u ∧ ¬ (s.finished w [.callback k r]).Deleting u.dir
    rw [h.indexed u, hclaims, hrow, hrow, hdel]
    by_cases hu : u = v.id
    · subst hu
      cases hbase : baseOf v.toAsset with
      | globals => simp
      | locals => simp [hnotDeleting hbase]
    · have htext : u.text ≠ v.getUUID := fun he => hu (AssetId.ext he)
      simp [hu, htext]
  · intro u hu
    change ¬ w.disk.HasRow .globals u
    rw [hrow]
    rintro (hin | ⟨-, rfl⟩)
    · exact h.newGlobal u (hclaims ▸ List.mem_cons_of_mem _ hu) hin
    · exact hother hu rfl
  · intro u hu hin
    rw [hdel]
    rcases (hrow _ _).mp hin with hin | ⟨-, rfl⟩
    · exact h.newLocal u (hclaims ▸ List.mem_cons_of_mem _ hu) hin
    · exact absurd rfl (hother hu)
  · intro hd hin
    rcases List.mem_append.mp hin with hin | hin
    · have hsound := h.handlers hd hin
      cases hd with
      | unindexLocals ids head =>
        refine fun u => ⟨(hsound u).1, fun hdir hu => ?_⟩
        rcases (hrow _ _).mp hu with hu | ⟨hbase, rfl⟩
        · exact (hsound u).2 hdir hu
        · -- the list of this directory has been made, and the write goes there
          have hl : v.isLocal = true := by
            by_contra hl
            simp [baseOf, hl] at hbase
          exact absurd (.inr ⟨ids, hdir ▸ hin⟩) (hlocal hl)
      | _ => exact hsound
    · rw [List.mem_singleton.mp hin]
      trivial

/-- A deletion, processed: the rows that go had left the index before. -/
lemma Tracked.delete {s : VFSBackend κ} (h : Tracked s) {d : DirName}
    (hcur : s.current = some (.deleteLocalStorage d)) {w : World}
    (hdisk : w.disk = (s.world.disk.setIdx d .locals .absent).setData d .locals none)
    (hopen : OpenTables w) : Tracked (s.finished w []) := by
  have hpending := pending_of_current hcur
  have hclaims : (s.finished w []).claims = s.claims := by
    rw [claims_finished, claims, hpending, List.filterMap_cons_none rfl]
  have hrows (d' : DirName) (b : Base) : w.disk.rows d' b =
      if d' = d ∧ b = .locals then [] else s.world.disk.rows d' b := by
    rw [hdisk, Disk.rows_setData, Disk.rows_setIdx]
  have hglobal (u : AssetId) : w.disk.HasRow .globals u ↔ s.world.disk.HasRow .globals u := by
    simp [Disk.HasRow, hrows]
  have hlocal (u : AssetId) :
      w.disk.HasRow .locals u ↔ s.world.disk.HasRow .locals u ∧ u.dir ≠ d := by
    unfold Disk.HasRow
    rw [hrows]
    split_ifs with hd
    · simp [hd.1]
    · simp [show u.dir ≠ d by simpa using hd]
  have hdeleting : s.Deleting d := by simp [Deleting, hpending]
  have hdel {d' : DirName} (hne : d' ≠ d) : (s.finished w []).Deleting d' ↔ s.Deleting d' := by
    simp [Deleting, hpending, hne]
  refine ⟨hopen, ?_, ?_, hclaims ▸ h.claims_nodup, ?_, ?_, ?_, ?_⟩
  · intro d' b row hin
    change row ∈ w.disk.rows d' b at hin
    rw [hrows] at hin
    split_ifs at hin
    · simp at hin
    · exact h.rowIds d' b row hin
  · intro a k hin
    exact h.puts a k (hpending ▸ List.mem_cons_of_mem _ hin)
  · intro u
    change _ ∈ s.existenceIndex ↔ _ ∨ w.disk.HasRow .globals u ∨ w.disk.HasRow .locals u ∧ _
    rw [h.indexed u, hclaims, hglobal, hlocal]
    by_cases hu : u.dir = d
    · simp [hu, hdeleting]
    · simp [hu, hdel hu]
  · intro u hu
    change ¬ w.disk.HasRow .globals u
    rw [hglobal]
    exact h.newGlobal u (hclaims ▸ hu)
  · intro u hu hin
    obtain ⟨hin, hne⟩ := (hlocal u).mp hin
    exact (hdel hne).mpr (h.newLocal u (hclaims ▸ hu) hin)
  · intro hd hin
    have hsound := h.handlers hd (by simpa [finished] using hin)
    cases hd with
    | unindexLocals ids head =>
      exact fun u => ⟨(hsound u).1, fun hdir hu => (hsound u).2 hdir ((hlocal u).mp hu).1⟩
    | _ => exact hsound

/-! ### The submitting thread and the io thread -/

lemma Tracked.storeAsset {s : VFSBackend κ} (h : Tracked s) (v : ValidAsset) (k : κ) :
    Tracked (s.storeAsset v.toAsset k) := by
  unfold VFSBackend.storeAsset
  split_ifs with hexists
  · exact h.post
  have hnew : v.id.toUuid ∉ s.existenceIndex := fun hin =>
    hexists ((ExistenceIndex.assetExists_text _ v.id).mpr hin)
  rw [h.indexed, not_or, not_or, not_and, not_not] at hnew
  obtain ⟨hclaim, hglobal, hlocal⟩ := hnew
  set s' : VFSBackend κ := { s with
    existenceIndex := ExistenceIndex.addNewId s.existenceIndex v.getUUID }.enqueue
    (.put v.toAsset k) with hs'
  have hpending : s'.pending = s.pending ++ [.put v.toAsset k] := by
    simp [hs', pending, VFSBackend.enqueue]
  have hclaims : s'.claims = s.claims ++ [v.id.text] := by
    simp [claims, hpending, claim]
  have hdel (d : DirName) : s'.Deleting d ↔ s.Deleting d := by simp [Deleting, hpending]
  refine ⟨h.openTables, h.rowIds, ?_, ?_, ?_, ?_, ?_, h.handlers⟩
  · intro a k' hin
    rw [hpending] at hin
    rcases List.mem_append.mp hin with hin | hin
    · exact h.puts a k' hin
    · cases List.mem_singleton.mp hin
      exact ⟨v, rfl⟩
  · rw [hclaims, List.nodup_append]
    refine ⟨h.claims_nodup, List.nodup_singleton _, ?_⟩
    rintro x hx y hy rfl
    exact hclaim (List.mem_singleton.mp hy ▸ hx)
  · intro u
    have hmem : u.toUuid ∈ s'.existenceIndex ↔ u = v.id ∨ u.toUuid ∈ s.existenceIndex := by
      rw [← AssetId.toUuid_inj]
      exact ExistenceIndex.mem_addNewId (u := v.id)
    rw [hmem, h.indexed u, hclaims, hdel, List.mem_append, List.mem_singleton, AssetId.ext_iff,
      or_assoc]
    exact or_left_comm
  · intro u hu
    rw [hclaims, List.mem_append, List.mem_singleton, ← AssetId.ext_iff] at hu
    rcases hu with hu | rfl
    · exact h.newGlobal u hu
    · exact hglobal
  · intro u hu hin
    rw [hclaims, List.mem_append, List.mem_singleton, ← AssetId.ext_iff] at hu
    rw [hdel]
    rcases hu with hu | rfl
    · exact h.newLocal u hu hin
    · exact hlocal hin

/-- A purge takes its list out of the index: nothing in it may have come back since. -/
lemma Tracked.unindex {s : VFSBackend κ} (h : Tracked s) {i : ℕ} {ids : Option (List Uuid)}
    {head : ByteString} (hi : s.posted[i]? = some (.unindexLocals ids head))
    (hstale : ∀ u : AssetId, u.toUuid ∈ ids.getD [] →
      u.text ∉ s.claims ∧ ¬ s.world.disk.HasRow .globals u) :
    Tracked ({ s with posted := s.posted.eraseIdx i }.unindexLocals ids head) := by
  have hsound := h.handlers _ (List.mem_of_getElem? hi)
  set s' := { s with posted := s.posted.eraseIdx i }.unindexLocals ids head with hs'
  have hpending : s'.pending = s.pending ++ [.deleteLocalStorage head] := by
    simp [hs', pending, unindexLocals, VFSBackend.enqueue]
  have hclaims : s'.claims = s.claims := by simp [claims, hpending, claim]
  have hdel (d : DirName) : s'.Deleting d ↔ s.Deleting d ∨ d = head := by
    simp [Deleting, hpending]
  refine ⟨h.openTables, h.rowIds, ?_, hclaims ▸ h.claims_nodup, ?_, ?_, ?_, ?_⟩
  · intro a k hin
    rw [hpending] at hin
    exact h.puts a k (by simpa using hin)
  · intro u
    have hmem : u.toUuid ∈ s'.existenceIndex ↔
        u.toUuid ∈ s.existenceIndex ∧ u.toUuid ∉ ids.getD [] := by
      simp [hs', unindexLocals, VFSBackend.enqueue, ExistenceIndex.mem_foldl_removeId]
    rw [hmem, h.indexed u, hclaims, hdel]
    change _ ↔ _ ∨ s.world.disk.HasRow .globals u ∨ s.world.disk.HasRow .locals u ∧ _
    obtain ⟨hlisted, hcomplete⟩ := hsound u
    constructor
    · rintro ⟨hclaim | hglobal | ⟨hrow, hnot⟩, hout⟩
      · exact .inl hclaim
      · exact .inr (.inl hglobal)
      · exact .inr (.inr ⟨hrow, not_or.mpr ⟨hnot, fun hdir => hout (hcomplete hdir hrow)⟩⟩)
    · rintro (hclaim | hglobal | ⟨hrow, hnot⟩)
      · exact ⟨.inl hclaim, fun hin => (hstale u hin).1 hclaim⟩
      · exact ⟨.inr (.inl hglobal), fun hin => (hstale u hin).2 hglobal⟩
      · obtain ⟨hdeleting, hdir⟩ := not_or.mp hnot
        exact ⟨.inr (.inr ⟨hrow, hdeleting⟩), fun hin => hdir (hlisted hin)⟩
  · intro u hu
    exact h.newGlobal u (hclaims ▸ hu)
  · intro u hu hin
    exact (hdel _).mpr (.inl (h.newLocal u (hclaims ▸ hu) hin))
  · intro hd hin
    exact h.handlers hd (List.mem_of_mem_eraseIdx hin)

/-! ### Runs -/

/-- No operation fails. A local asset is written only while no purge of its directory is under way,
and a listed identifier that leaves the index has not been stored again since it was listed. -/
def Orderly (s : VFSBackend κ) : Event κ → Prop
  | .process calls => calls = [] ∧ ∀ (v : ValidAsset) (k : κ),
      s.current = some (.put v.toAsset k) → v.isLocal = true → ¬ s.PurgeUnderway v.id.dir
  | .runHandler i => ∀ ids head, s.posted[i]? = some (.unindexLocals ids head) →
      ∀ u : AssetId, u.toUuid ∈ ids.getD [] →
        u.text ∉ s.claims ∧ ¬ s.world.disk.HasRow .globals u
  | _ => True

/-! ### The worker, without failures -/

/-- The requests that change the disk or list a directory. -/
def relevant : AssetRequest κ → Bool
  | .put _ _ | .purgeLocals _ | .deleteLocalStorage _ => true
  | _ => false

lemma neutral_of_irrelevant {req : AssetRequest κ} (h : relevant req = false) : Neutral req := by
  cases req with
  | put | purgeLocals | deleteLocalStorage => cases h
  | _ => exact ⟨rfl, by simp⟩

/-- A request has been worked on, on the disk `k`: the handlers that are to be posted, and what the
world `w` has become. -/
inductive Worked (k : Disk) (w : World) : AssetRequest κ → List (Handler κ) → Prop
  | answered {req : AssetRequest κ} {hs : List (Handler κ)} (irrelevant : relevant req = false)
      (world : PreparedFrom k w)
      (handlers : ∀ h ∈ hs, (∃ c r, h = .callback c r) ∨ ∃ what, h = .ioLoopFailed what) :
      Worked k w req hs
  | written (v : ValidAsset) (c : κ) (k₁ : Disk) (prepared : Prepared k k₁)
      (disk : w.disk = k₁.stored (dirOf v.toAsset) (baseOf v.toAsset) v.toAsset)
      (openTables : OpenTables w) :
      Worked k w (.put v.toAsset c) [.callback c (.stored true none)]
  | listed (head : DirName) (ids : Option (List Uuid)) (world : PreparedFrom k w)
      (contents : ∀ u : AssetId, u.toUuid ∈ ids.getD [] ↔ u.dir = head ∧ k.HasRow .locals u) :
      Worked k w (.purgeLocals head) [.unindexLocals ids head]
  | deleted (d : DirName) (disk : w.disk = (k.setIdx d .locals .absent).setData d .locals none)
      (openTables : OpenTables w) : Worked k w (.deleteLocalStorage d) []

/-- The list of a directory holds the identifiers of its local rows. -/
lemma mem_listed {k : Disk} {head : DirName} {ids : List Uuid}
    (hrowIds : ∀ row ∈ k.rows head .locals, ∃ u : AssetId, row.assetId = u.text ∧ u.dir = head)
    (hmem : ∀ x, x ∈ ids ↔ ∃ row ∈ k.rows head .locals, Uuid.parse row.assetId = .value x)
    (u : AssetId) : u.toUuid ∈ ids ↔ u.dir = head ∧ k.HasRow .locals u := by
  refine (hmem _).trans ⟨?_, ?_⟩
  · rintro ⟨row, hrow, hparse⟩
    obtain ⟨u', hid, hdir⟩ := hrowIds row hrow
    rw [hid, Uuid.parse_text] at hparse
    obtain rfl : u' = u := AssetId.toUuid_injective (by simpa using hparse)
    exact ⟨hdir, row, hdir ▸ hrow, hid⟩
  · rintro ⟨rfl, row, hrow, hid⟩
    exact ⟨row, hrow, by rw [hid, Uuid.parse_text]⟩

/-- One round of the worker. -/
lemma process_worked {s s' : VFSBackend κ} {req : AssetRequest κ} (hcur : s.current = some req)
    (hopen : OpenTables s.world)
    (hrowIds : ∀ d b, ∀ row ∈ s.world.disk.rows d b,
      ∃ u : AssetId, row.assetId = u.text ∧ u.dir = d)
    (hput : ∀ a c, req = .put a c → ∃ v : ValidAsset, v.toAsset = a ∧
      NewId s.world.disk (dirOf a) (baseOf a) a)
    (hproc : s.process [] = some s') :
    ∃ hs w, Worked s.world.disk w req hs ∧ s' = s.finished w hs := by
  have hquiet : Quiet True { s.world with calls := [] } := fun _ => rfl
  have hopen : OpenTables { s.world with calls := [] } := ⟨hopen.coherent, hopen.hasTable⟩
  have hprep : PreparedFrom s.world.disk { s.world with calls := [] } := ⟨.refl _, hopen⟩
  have hat : (({ s.world with calls := [] } : World).disk = s.world.disk ∧
      OpenTables { s.world with calls := [] }) ∧ Quiet True { s.world with calls := [] } :=
    ⟨⟨rfl, hopen⟩, hquiet⟩
  -- it suffices that the round cannot fail and does its work
  have hround {P : World → Prop} {Q : List (Handler κ) → World → Prop} {R : Exn → World → Prop}
      (h : Triple P (workLoop req) Q R) (hP : P { s.world with calls := [] })
      (hQ : ∀ hs w, Q hs w → Worked s.world.disk w req hs) :
      ∃ hs w, Worked s.world.disk w req hs ∧ s' = s.finished w hs := by
    obtain ⟨hs, w, hpost, rfl⟩ := process_of_triple hcur h hP hproc
    exact ⟨hs, w, hQ hs w hpost, rfl⟩
  cases req with
  | get uuid c =>
    refine hround (workLoop_triple (performDiskRead_triple c
      (getAssetSync_frame s.world.disk uuid))) hprep ?_
    rintro hs w ((⟨r, rfl, hw⟩ | ⟨e, -, rfl, hw⟩) | ⟨e, -, rfl, -, hw⟩)
    · cases r <;> exact .answered rfl hw (List.forall_mem_singleton.mpr (.inl ⟨_, _, rfl⟩))
    · cases e <;> exact .answered rfl hw (List.forall_mem_singleton.mpr (.inl ⟨_, _, rfl⟩))
    · exact .answered rfl hw (List.forall_mem_singleton.mpr (.inr ⟨_, rfl⟩))
  | put a c =>
    obtain ⟨v, rfl, hnew⟩ := hput a c rfl
    refine hround (workLoop_triple (performDiskWrite_triple c (storeAssetSync_triple True
      s.world.disk v.toAsset (fun _ => hnew) fun _ => v.size_lt))) hat ?_
    rintro hs w ((⟨rfl, ⟨k₁, hk₁, -, -, -, hdisk⟩, hw, -⟩ | ⟨-, -, -, -, hq⟩) | ⟨-, -, -, -, -, hq⟩)
    · exact .written v c k₁ hk₁ hdisk hw
    · exact absurd trivial hq
    · exact absurd trivial hq
  | purge uuid c =>
    have hpurge : Triple (PreparedFrom s.world.disk) (performDiskPurge uuid c)
        (fun hs w => hs = [] ∧ PreparedFrom s.world.disk w) (fun _ _ => False) :=
      .pure _ fun w hw => ⟨rfl, hw⟩
    refine hround (workLoop_triple hpurge) hprep ?_
    rintro hs w (⟨rfl, hw⟩ | ⟨-, -, -, hfalse⟩)
    · exact .answered rfl hw (by simp)
    · exact hfalse.elim
  | purgeLocals head =>
    refine hround (workLoop_triple (performDiskPurgeLocals_triple True fun _ row hrow =>
      (hrowIds _ _ row hrow).imp fun u hu => hu.1)) ⟨hprep, hquiet⟩ ?_
    rintro hs w (⟨⟨ids, rfl, hmem⟩, hw⟩ | ⟨-, -, -, -, hq⟩)
    · exact .listed head ids hw (mem_listed (hrowIds head .locals) hmem)
    · exact absurd trivial hq
  | deleteLocalStorage d =>
    refine hround
      (workLoop_triple (performLocalsPhysicalDeletion_triple True s.world.disk d)) hat ?_
    rintro hs w (⟨rfl, hw, hdisk⟩ | ⟨-, -, -, -, hq⟩)
    · exact .deleted d hdisk hw
    · exact absurd trivial hq
  | collectStatus c =>
    have hstatus : Triple (PreparedFrom s.world.disk) (performGetStatus c)
        (fun hs w => hs = [.callback c (.completed [])] ∧ PreparedFrom s.world.disk w)
        (fun _ _ => False) := .pure _ fun w hw => ⟨rfl, hw⟩
    refine hround (workLoop_triple hstatus) hprep ?_
    rintro hs w (⟨rfl, hw⟩ | ⟨-, -, -, hfalse⟩)
    · exact .answered rfl hw (List.forall_mem_singleton.mpr (.inl ⟨_, _, rfl⟩))
    · exact hfalse.elim
  | getStoredAssetIds head c =>
    refine hround (workLoop_triple (performGetStoredAssetIds_triple True s.world.disk head c))
      ⟨hprep, hquiet⟩ ?_
    rintro hs w (⟨rfl, hw⟩ | ⟨-, -, -, -, hq⟩)
    · exact .answered rfl hw (List.forall_mem_singleton.mpr (.inl ⟨_, _, rfl⟩))
    · exact absurd trivial hq

lemma Tracked.process {s s' : VFSBackend κ} (h : Tracked s)
    (horder : ∀ (v : ValidAsset) (k : κ), s.current = some (.put v.toAsset k) →
      v.isLocal = true → ¬ s.PurgeUnderway v.id.dir)
    (hproc : s.process [] = some s') : Tracked s' := by
  cases hcur : s.current with
  | none => simp [VFSBackend.process, hcur] at hproc
  | some req =>
    obtain ⟨hs, w, hworked, rfl⟩ := process_worked hcur h.openTables h.rowIds (fun a c hreq => by
      subst hreq
      obtain ⟨v, rfl⟩ := h.puts a c (by simp [pending_of_current hcur])
      exact ⟨v, rfl, h.newId hcur (horder v c hcur)⟩) hproc
    cases hworked with
    | answered irrelevant world handlers =>
      refine h.finish hcur (neutral_of_irrelevant irrelevant) world fun hd hin => ?_
      rcases handlers hd hin with ⟨c, r, rfl⟩ | ⟨what, rfl⟩ <;> trivial
    | written v c k₁ prepared disk openTables =>
      exact h.write hcur (horder v c hcur) prepared disk openTables _
    | listed head ids world contents =>
      refine h.finish hcur ⟨rfl, by simp⟩ world fun hd hin => ?_
      rw [List.mem_singleton.mp hin]
      exact fun u => ⟨fun hu => ((contents u).mp hu).1,
        fun hdir hrow => (contents u).mpr ⟨hdir, hrow⟩⟩
    | deleted d disk openTables => exact h.delete hcur disk openTables

lemma Tracked.step {s s' : VFSBackend κ} {e : Event κ} (h : Tracked s) (horder : Orderly s e)
    (hstep : VFSBackend.step s e = some s') : Tracked s' := by
  cases e with
  | getAsset uuid k =>
    cases hstep
    unfold VFSBackend.getAsset
    split_ifs
    · exact h.post
    · exact h.enqueue ⟨rfl, by simp⟩
  | storeAsset a k =>
    cases hstep
    exact h.storeAsset a k
  | purgeAsset uuid k =>
    cases hstep
    exact h.enqueue ⟨rfl, by simp⟩
  | getStatus k =>
    cases hstep
    exact h.enqueue ⟨rfl, by simp⟩
  | getStoredAssetIDsWithPrefix head k =>
    cases hstep
    exact h.enqueue ⟨rfl, by simp⟩
  | beginPurgeLocals =>
    cases hstep
    unfold VFSBackend.beginPurgeLocals
    split_ifs
    · exact ⟨h.1, h.2, h.3, h.4, h.5, h.6, h.7, h.8⟩
    · exact h
  | purgeTimer =>
    simp only [VFSBackend.step] at hstep
    split_ifs at hstep
    cases hstep
    have h' : Tracked { s with
        currentLocalsPurgeIndex := s.currentLocalsPurgeIndex + 1
        isPurgingLocals := decide (s.currentLocalsPurgeIndex + 1 ≤ 0xFFF) } :=
      ⟨h.1, h.2, h.3, h.4, h.5, h.6, h.7, h.8⟩
    exact h'.enqueue ⟨rfl, by simp⟩
  | dequeue =>
    simp only [VFSBackend.step, VFSBackend.dequeue] at hstep
    split at hstep
    · next req rest hcur hqueue =>
      cases hstep
      have hpending : ({ s with current := some req, workQueue := rest } : VFSBackend κ).pending =
          s.pending := by simp [pending, hcur, hqueue]
      refine h.of_same ⟨.refl _, h.openTables⟩ rfl ?_ (fun a k hin => hpending ▸ hin) ?_
        fun _ => .inl
      · rw [claims, hpending, claims]
      · intro d
        rw [Deleting, hpending, Deleting]
    · cases hstep
  | process calls =>
    obtain ⟨rfl, horder⟩ := horder
    exact h.process horder hstep
  | runHandler i =>
    obtain ⟨⟨b, r⟩, hb, rfl⟩ := Option.map_eq_some_iff.mp hstep
    unfold VFSBackend.runHandler at hb
    cases hi : s.posted[i]? with
    | none => simp [hi] at hb
    | some hd =>
      have herase : Tracked { s with posted := s.posted.eraseIdx i } :=
        h.of_same ⟨.refl _, h.openTables⟩ rfl rfl (fun _ _ => id) (fun _ => Iff.rfl) fun hd hin =>
          .inl (List.mem_of_mem_eraseIdx hin)
      rw [hi] at hb
      cases hd with
      | unindexLocals ids head =>
        cases hb
        exact h.unindex hi (horder ids head hi)
      | assetWriteFailed id reason => exact (h.handlers _ (List.mem_of_getElem? hi)).elim
      | _ =>
        cases hb
        exact herase

/-- From a coherent state, along every orderly run: once nothing is queued, being processed or
posted, an identifier is in the index exactly if one of the two index files of its directory holds a
row for it. -/
theorem orderly_run_coherent {s t : VFSBackend κ} {es : List (Event κ)} (hs : Coherent s)
    (horder : Machine.Guarded step Orderly s es) (hrun : Machine.run step s es = some t)
    (hqueue : t.workQueue = []) (hcur : t.current = none) (hposted : t.posted = []) (u : AssetId) :
    u.toUuid ∈ t.existenceIndex ↔
      t.world.disk.HasRow .globals u ∨ t.world.disk.HasRow .locals u := by
  have htracked : Tracked t :=
    Machine.run_invariant (fun _ _ _ h ho hstep => h.step ho hstep) hs.tracked horder hrun
  exact (htracked.coherent hqueue hcur hposted).indexed u

/-- A local asset. -/
def localAsset : ValidAsset where
  data := List.replicate 33 48 ++ [1]
  size_ge := by decide
  size_lt := by decide
  valid := by decide

/-- The local assets of directory `000` are purged, and then one is stored there. -/
def purgeThenStore : List (Event ℕ) :=
  [.beginPurgeLocals, .purgeTimer, .dequeue, .process [], .runHandler 0, .dequeue, .process [],
    .storeAsset localAsset 0, .dequeue, .process [], .runHandler 0]

lemma coherent_empty : Coherent ({} : VFSBackend ℕ) where
  openTables := VFSDatabase.openTables_restarted {}
  rowIds := fun d b row hrow => by simp [Disk.rows] at hrow
  atRest := ⟨rfl, rfl, rfl⟩
  indexed := fun u => by simp [Disk.HasRow, Disk.rows]

theorem purgeThenStore_coherent :
    ∃ t, Machine.run step {} purgeThenStore = some t ∧ t.posted = [] ∧
      (localAsset.id.toUuid ∈ t.existenceIndex ↔
        t.world.disk.HasRow .globals localAsset.id ∨
        t.world.disk.HasRow .locals localAsset.id) := by
  have horder : Machine.Guarded step Orderly {} purgeThenStore := by
    refine .cons rfl trivial (.cons rfl trivial (.cons rfl trivial (.cons rfl ?_ (.cons rfl ?_
      (.cons rfl trivial (.cons rfl ?_ (.cons rfl trivial (.cons rfl trivial (.cons rfl ?_
      (.cons rfl ?_ trivial))))))))))
    · exact ⟨rfl, fun v k hcur => by cases hcur⟩
    · intro ids head hi u hu
      cases hi
      cases hu
    · exact ⟨rfl, fun v k hcur => by cases hcur⟩
    · refine ⟨rfl, fun v k _ _ hpurge => ?_⟩
      rcases hpurge with hqueue | ⟨ids, hposted⟩
      · cases hqueue
      · cases hposted
    · intro ids head hi
      cases hi
  obtain ⟨t, hrun, hqueue, hcur, hposted⟩ : ∃ t, Machine.run step {} purgeThenStore = some t ∧
      t.workQueue = [] ∧ t.current = none ∧ t.posted = [] := ⟨_, rfl, rfl, rfl, rfl⟩
  exact ⟨t, hrun, hposted,
    orderly_run_coherent coherent_empty horder hrun hqueue hcur hposted localAsset.id⟩

/-- The same purge, with the store accepted after the identifiers were listed. -/
def storeDuringPurge : List (Event ℕ) :=
  [.beginPurgeLocals, .purgeTimer, .storeAsset localAsset 0, .dequeue, .process [], .dequeue,
    .process [], .runHandler 0, .runHandler 0, .dequeue, .process []]

/-- Nothing is left to do, the asset is in the index, and neither index file knows it. -/
theorem storeDuringPurge_stale :
    ∃ t, Machine.run step {} storeDuringPurge = some t ∧
      t.workQueue = [] ∧ t.current = none ∧ t.posted = [] ∧
      localAsset.id.toUuid ∈ t.existenceIndex ∧
      ¬ (t.world.disk.HasRow .globals localAsset.id ∨
        t.world.disk.HasRow .locals localAsset.id) := by
  refine ⟨_, rfl, rfl, rfl, rfl, by decide, ?_⟩
  rintro (⟨row, hrow, -⟩ | ⟨row, hrow, -⟩)
  · cases hrow
  · cases hrow

end VFSBackend

end Whip
