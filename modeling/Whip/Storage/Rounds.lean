import Whip.Storage.Requests

/-!
# Rounds of the worker, whatever fails

One round of the worker for each kind of request, with any outcome of its calls: which handlers it
posts, and that the rows of all databases go on to point at records of their assets. A read never
gives back another asset than the one asked for.
-/

namespace Whip

open Bytes Effect

/-- Every row of every database points at a record of its asset. -/
def Disk.Intact (k : Disk) : Prop := ∀ d b, RowsPoint k d b

/-- The state of the disk between two rounds. -/
structure World.Intact (w : World) : Prop where
  openTables : OpenTables w
  disk : w.disk.Intact

namespace Disk.Intact

variable {k k' : Disk}

lemma empty : Disk.Intact {} := fun d b => ⟨by simp [Disk.rows], by simp [Disk.rows]⟩

lemma of_prepared (h : k.Intact) (hk : Prepared k k') : k'.Intact := fun d b =>
  (h d b).of_grows (.of_prepared hk) (by rw [hk.rows])

lemma storeCut (h : k.Intact) {d : DirName} {b : Base} {a : Asset} (hcut : StoreCut k d b a k') :
    k'.Intact := by
  intro d' b'
  by_cases hdb : d' = d ∧ b' = b
  · obtain ⟨rfl, rfl⟩ := hdb
    exact hcut.rowsPoint (h d' b')
  · cases hcut with
    | nothing => exact h d' b'
    | part p hp =>
      exact (h d' b').congr rfl (by rw [Disk.data_setData, if_neg hdb])
    | done hnew ha =>
      exact (h d' b').congr (Disk.rows_stored_of_ne hdb) (Disk.data_stored_of_ne hdb)

/-- Without its index file a database has no rows. -/
lemma deleted (h : k.Intact) {head : DirName} (hdel : VFSBackend.Deleted head k k') :
    k'.Intact := by
  have hindex : (k.setIdx head .locals .absent).Intact := by
    intro d b
    by_cases hdb : d = head ∧ b = .locals
    · have hnone : (k.setIdx head .locals .absent).rows d b = [] := by
        rw [Disk.rows_setIdx, if_pos hdb]
      exact ⟨by simp [hnone], by simp [hnone]⟩
    · exact (h d b).congr (by rw [Disk.rows_setIdx, if_neg hdb]) rfl
  cases hdel with
  | nothing => exact h
  | index => exact hindex
  | both =>
    intro d b
    by_cases hdb : d = head ∧ b = .locals
    · have hnone : ((k.setIdx head .locals .absent).setData head .locals none).rows d b = [] := by
        rw [Disk.rows_setData, Disk.rows_setIdx, if_pos hdb]
      exact ⟨by simp [hnone], by simp [hnone]⟩
    · exact (hindex d b).congr rfl (by rw [Disk.data_setData, if_neg hdb])

/-- What a database says about an identifier is nothing, or an asset with this identifier. -/
lemma exists_lookup (h : k.Intact) (d : DirName) (b : Base) (uuid : ByteString) :
    ∃ r, Lookup k d b uuid r ∧ ∀ a, r = some a → a.getUUID = uuid := by
  cases hfind : (k.rows d b).find? (·.assetId == uuid) with
  | none => exact ⟨none, .absent (by simp [positionIn, hfind]), nofun⟩
  | some row =>
    have hrow := List.mem_of_find?_eq_some hfind
    obtain ⟨f, a, hf, hpoint⟩ := (h d b).points row hrow
    have hid : a.getUUID = uuid := hpoint.1.symm.trans (by simpa using List.find?_some hfind)
    refine ⟨_, hid ▸ (h d b).lookup hrow hf hpoint, fun a' ha' => ?_⟩
    split_ifs at ha'
    rwa [← Option.some.inj ha']

end Disk.Intact

namespace VFSBackend

variable {κ : Type}

/-- The handlers that a round on a request posts. -/
inductive Answers : AssetRequest κ → List (Handler κ) → Prop
  | got {uuid : ByteString} {k : κ} (r : Option Asset) (error : Option AssetStorageError)
      (same : ∀ a, r = some a → a.getUUID = uuid) :
      Answers (.get uuid k) [.callback k (.got r r.isSome error)]
  | stored {a : Asset} {k : κ} (success : Bool) (error : Option AssetStorageError) :
      Answers (.put a k) [.callback k (.stored success error)]
  | writeFailed {a : Asset} {k : κ} (why : String) (error : AssetStorageError) :
      Answers (.put a k) [.assetWriteFailed a.getUUID why, .callback k (.stored false (some error))]
  | purge {uuid : ByteString} {k : κ} : Answers (.purge uuid k) []
  | listed {head : ByteString} (ids : Option (List Uuid)) :
      Answers (.purgeLocals head) [.unindexLocals ids head]
  | deleted {head : ByteString} : Answers (.deleteLocalStorage head) []
  | status {k : κ} : Answers (.collectStatus k) [.callback k (.completed [])]
  | ids {head : ByteString} {k : κ} (journal : ByteString) :
      Answers (.getStoredAssetIds head k) [.callback k (.completed journal)]
  | listingFailed {head : ByteString} (why : String) :
      Answers (.purgeLocals head) [.ioLoopFailed why]
  | deletionFailed {head : ByteString} (why : String) :
      Answers (.deleteLocalStorage head) [.ioLoopFailed why]
  | idsFailed {head : ByteString} {k : κ} (why : String) :
      Answers (.getStoredAssetIds head k) [.ioLoopFailed why]

/-- A read. -/
lemma read_spec (w₀ : World) (h₀ : w₀.Intact) (uuid : ByteString) (k : κ) :
    Triple (fun w => w.disk = w₀.disk ∧ OpenTables w) (performDiskRead uuid k)
      (fun hs w => Answers (.get uuid k) hs ∧ w.Intact)
      (fun e w => e = .stopped ∧ w.disk.Intact) := by
  obtain ⟨rg, hg, hgid⟩ := h₀.disk.exists_lookup (getFullPathForUUID uuid) .globals uuid
  obtain ⟨rl, hl, hlid⟩ := h₀.disk.exists_lookup (getFullPathForUUID uuid) .locals uuid
  have hintact {w : World} (hw : PreparedFrom w₀.disk w) : w.Intact :=
    ⟨hw.openTables, h₀.disk.of_prepared hw.prepared⟩
  refine (performDiskRead_triple k (getAssetSync_triple False w₀.disk uuid hg fun _ => hl)).conseq
    (fun w hw => ⟨hw, False.elim⟩) ?_ fun _ w hw => ⟨hw.1, (hintact hw.2.1).disk⟩
  rintro hs w (⟨r, rfl, rfl, hw, -⟩ | ⟨e, -, rfl, hw, -⟩)
  · have hid : ∀ a, (rg <|> rl) = some a → a.getUUID = uuid := by
      intro a ha
      cases rg with
      | some a' => exact hgid a ha
      | none => exact hlid a ha
    refine ⟨?_, hintact hw⟩
    cases hr : (rg <|> rl) with
    | some a =>
      rw [hr] at hid
      exact .got (some a) none hid
    | none => exact .got none _ nofun
  · refine ⟨?_, hintact hw⟩
    cases e <;> exact .got none _ nofun

/-- A write. -/
lemma write_spec (w₀ : World) (h₀ : w₀.Intact) (a : Asset) (k : κ) :
    Triple (fun w => w.disk = w₀.disk ∧ OpenTables w) (performDiskWrite a k)
      (fun hs w => Answers (.put a k) hs ∧ w.Intact) (fun e w => e = .stopped ∧ w.disk.Intact) := by
  refine (performDiskWrite_triple k (storeAssetSync_triple False w₀.disk a False.elim
    False.elim)).conseq (fun w hw => ⟨hw, False.elim⟩) ?_ ?_
  · rintro hs w (⟨rfl, ⟨k₁, hprep, -, hnew, ha, hdisk⟩, hw, -⟩ |
      ⟨e, -, rfl, ⟨hw, k₁, hprep, hcut⟩, -⟩)
    · refine ⟨.stored true none, hw, hdisk ▸ ?_⟩
      exact (h₀.disk.of_prepared hprep).storeCut (.done hnew ha)
    · refine ⟨?_, hw, (h₀.disk.of_prepared hprep).storeCut hcut⟩
      cases e with
      | assetStorage error => exact .stored false _
      | _ => exact .writeFailed _ _
  · rintro _ w ⟨he, ⟨-, k₁, hprep, hcut⟩, -⟩
    exact ⟨he, (h₀.disk.of_prepared hprep).storeCut hcut⟩

/-- The first step of a purge. -/
lemma listing_spec (w₀ : World) (h₀ : w₀.Intact) (head : ByteString) :
    Triple (fun w => w.disk = w₀.disk ∧ OpenTables w)
      (performDiskPurgeLocals head : VfsM (List (Handler κ)))
      (fun hs w => Answers (.purgeLocals head) hs ∧ w.Intact) (fun _ w => w.Intact) := by
  have hintact {w : World} (hw : PreparedFrom w₀.disk w) : w.Intact :=
    ⟨hw.openTables, h₀.disk.of_prepared hw.prepared⟩
  refine (performDiskPurgeLocals_triple False False.elim).conseq
    (fun w hw => ⟨⟨hw.1 ▸ .refl _, hw.2⟩, False.elim⟩) ?_ fun _ w hw => hintact hw.1
  rintro hs w ⟨⟨ids, rfl, -⟩, hw⟩
  exact ⟨.listed ids, hintact hw⟩

/-- The last step of a purge. -/
lemma deletion_spec (w₀ : World) (h₀ : w₀.Intact) (head : ByteString) :
    Triple (fun w => w.disk = w₀.disk ∧ OpenTables w)
      (performLocalsPhysicalDeletion head : VfsM (List (Handler κ)))
      (fun hs w => Answers (.deleteLocalStorage head) hs ∧ w.Intact) (fun _ w => w.Intact) := by
  refine (performLocalsPhysicalDeletion_triple False w₀.disk head).conseq
    (fun w hw => ⟨hw, False.elim⟩) ?_ ?_
  · rintro hs w ⟨rfl, hw, hdisk⟩
    exact ⟨.deleted, hw, hdisk ▸ h₀.disk.deleted .both⟩
  · rintro _ w ⟨⟨hdel, hw⟩, -⟩
    exact ⟨hw, h₀.disk.deleted hdel⟩

lemma ids_spec (w₀ : World) (h₀ : w₀.Intact) (head : ByteString) (k : κ) :
    Triple (fun w => w.disk = w₀.disk ∧ OpenTables w) (performGetStoredAssetIds head k)
      (fun hs w => Answers (.getStoredAssetIds head k) hs ∧ w.Intact) (fun _ w => w.Intact) := by
  have hintact {w : World} (hw : PreparedFrom w₀.disk w) : w.Intact :=
    ⟨hw.openTables, h₀.disk.of_prepared hw.prepared⟩
  refine (performGetStoredAssetIds_triple False w₀.disk head k).conseq
    (fun w hw => ⟨⟨hw.1 ▸ .refl _, hw.2⟩, False.elim⟩) ?_ fun _ w hw => hintact hw.1
  rintro hs w ⟨rfl, hw⟩
  exact ⟨.ids _, hintact hw⟩

/-- Exceptions that a request lets through are reported. -/
lemma loop_spec {P : World → Prop} {req : AssetRequest κ}
    (hfailed : ∀ why, Answers req [.ioLoopFailed why])
    (h : Triple P (processRequest req) (fun hs w => Answers req hs ∧ w.Intact)
      (fun _ w => w.Intact)) :
    Triple P (workLoop req) (fun hs w => Answers req hs ∧ w.Intact) (fun _ w => w.disk.Intact) := by
  refine (workLoop_triple h).conseq (fun _ hw => hw) ?_ fun _ w hw => hw.2.disk
  rintro hs w (hw | ⟨e, -, rfl, hw⟩)
  · exact hw
  · exact ⟨hfailed _, hw⟩

/-- Requests that let no exception through. -/
lemma caught_spec {P : World → Prop} {req : AssetRequest κ}
    (h : Triple P (processRequest req) (fun hs w => Answers req hs ∧ w.Intact)
      (fun e w => e = .stopped ∧ w.disk.Intact)) :
    Triple P (workLoop req) (fun hs w => Answers req hs ∧ w.Intact) (fun _ w => w.disk.Intact) := by
  refine (workLoop_triple h).conseq (fun _ hw => hw) ?_ fun _ w hw => hw.2.2
  rintro hs w (hw | ⟨e, hne, -, he, -⟩)
  · exact hw
  · exact absurd he hne

/-- One round of the worker. -/
theorem workLoop_spec {w₀ : World} (h₀ : w₀.Intact) (req : AssetRequest κ) :
    Triple (fun w => w.disk = w₀.disk ∧ OpenTables w) (workLoop req)
      (fun hs w => Answers req hs ∧ w.Intact) (fun _ w => w.disk.Intact) := by
  have hsame {w : World} (hw : w.disk = w₀.disk ∧ OpenTables w) : w.Intact :=
    ⟨hw.2, hw.1 ▸ h₀.disk⟩
  cases req with
  | get uuid k => exact caught_spec (read_spec w₀ h₀ uuid k)
  | put a k => exact caught_spec (write_spec w₀ h₀ a k)
  | purge uuid k => exact caught_spec (.pure _ fun w hw => ⟨.purge, hsame hw⟩)
  | purgeLocals head => exact loop_spec .listingFailed (listing_spec w₀ h₀ head)
  | deleteLocalStorage head => exact loop_spec .deletionFailed (deletion_spec w₀ h₀ head)
  | collectStatus k => exact caught_spec (.pure _ fun w hw => ⟨.status, hsame hw⟩)
  | getStoredAssetIds head k => exact loop_spec .idsFailed (ids_spec w₀ h₀ head k)

lemma process_spec {s s' : VFSBackend κ} {calls : List Call} (h : s.world.Intact)
    (hproc : s.process calls = some s') :
    ∃ req hs w, s.current = some req ∧ Answers req hs ∧ w.Intact ∧
      s' = { s with world := w, current := none, posted := s.posted ++ hs } := by
  cases hcur : s.current with
  | none => simp [process, hcur] at hproc
  | some req =>
    have hstart : ({ s.world with calls := calls } : World).disk = s.world.disk ∧
        OpenTables { s.world with calls := calls } :=
      ⟨rfl, h.openTables.coherent, h.openTables.hasTable⟩
    obtain ⟨hs, w, ⟨hans, hw⟩, rfl⟩ := process_of_triple hcur (workLoop_spec h req) hstart hproc
    exact ⟨req, hs, w, rfl, hans, hw, rfl⟩

/-- A listing of identifiers for a peer fails only if one of its calls does. -/
lemma process_ids_spec {s s' : VFSBackend κ} (h : s.world.Intact) {head : ByteString} {k : κ}
    (hcur : s.current = some (.getStoredAssetIds head k)) (hproc : s.process [] = some s') :
    ∃ w, s' = { s with
      world := w, current := none
      posted := s.posted ++ [.callback k (.completed (journalOf s.world.disk head))] } := by
  have hstart : PreparedFrom s.world.disk { s.world with calls := [] } ∧
      Quiet True { s.world with calls := [] } :=
    ⟨⟨.refl _, h.openTables.coherent, h.openTables.hasTable⟩, fun _ => rfl⟩
  obtain ⟨hs, w, hpost, rfl⟩ := process_of_triple hcur (workLoop_triple
    (performGetStoredAssetIds_triple True s.world.disk head k)) hstart hproc
  rcases hpost with ⟨rfl, -⟩ | ⟨-, -, -, -, hq⟩
  · exact ⟨w, rfl⟩
  · exact absurd trivial hq

end VFSBackend

end Whip
