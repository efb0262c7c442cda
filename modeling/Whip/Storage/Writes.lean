import Whip.Storage.Purge

/-!
# What a round of the worker does to the disk

Whatever fails, a round on a request opens files, carries out its store or a part of it, or deletes
the files of a purged directory. `Affects` says which, together with the handlers that are posted.
-/

namespace Whip

open Effect

namespace VFSBackend

variable {κ : Type}

/-- The effect of a round on the disk, whatever fails. -/
inductive Affects (k : Disk) : AssetRequest κ → List (Handler κ) → Disk → Prop
  | opened {req : AssetRequest κ} {hs : List (Handler κ)} {k' : Disk} (quiet : Neutral req)
      (prepared : Prepared k k') : Affects k req hs k'
  | stored {a : Asset} {c : κ} {k₁ : Disk} (prepared : Prepared k k₁)
      (new : NewId k₁ (dirOf a) (baseOf a) a) :
      Affects k (.put a c) [.callback c (.stored true none)] (k₁.stored (dirOf a) (baseOf a) a)
  | failed {a : Asset} {c : κ} {e : Exn} {k₁ k' : Disk} (prepared : Prepared k k₁)
      (cut : StoreCut k₁ (dirOf a) (baseOf a) a k') :
      Affects k (.put a c) (writeFailed a c e) k'
  | deleted {head : ByteString} {hs : List (Handler κ)} {k' : Disk} (deleted : Deleted head k k') :
      Affects k (.deleteLocalStorage head) hs k'

namespace Affects

variable {k k' : Disk} {req : AssetRequest κ} {hs : List (Handler κ)} {b : Base} {u : AssetId}

/-- A row that was not there is that of the asset that is stored. -/
lemma mem_rows (h : Affects k req hs k') {d : DirName} {row : IndexRow} (hrow : row ∈ k'.rows d b) :
    row ∈ k.rows d b ∨ ∃ a c, req = .put a c ∧ row.assetId = a.getUUID ∧ d = dirOf a ∧
      b = baseOf a := by
  have hstored {k₁ : Disk} {a : Asset} {c : κ} (prepared : Prepared k k₁)
      (hrow : row ∈ (k₁.stored (dirOf a) (baseOf a) a).rows d b) :
      row ∈ k.rows d b ∨ ∃ a' c', AssetRequest.put a c = .put a' c' ∧ row.assetId = a'.getUUID ∧
        d = dirOf a' ∧ b = baseOf a' := by
    by_cases hdb : d = dirOf a ∧ b = baseOf a
    · obtain ⟨rfl, rfl⟩ := hdb
      rw [Disk.rows_stored, prepared.rows, List.mem_append] at hrow
      refine hrow.imp_right fun hrow => ⟨a, c, rfl, ?_, rfl, rfl⟩
      rw [List.mem_singleton.mp hrow]
      rfl
    · rw [Disk.rows_stored_of_ne hdb, prepared.rows] at hrow
      exact .inl hrow
  cases h with
  | opened quiet prepared => exact .inl (prepared.rows ▸ hrow)
  | stored prepared new => exact hstored prepared hrow
  | failed prepared cut =>
    cases cut with
    | nothing => exact .inl (prepared.rows ▸ hrow)
    | part p hp => exact .inl (prepared.rows ▸ hrow)
    | done hnew ha => exact hstored prepared hrow
  | deleted deleted =>
    refine .inl ?_
    cases deleted with
    | nothing => exact hrow
    | index =>
      rw [Disk.rows_setIdx] at hrow
      split_ifs at hrow
      · cases hrow
      · exact hrow
    | both =>
      rw [Disk.rows_setData, Disk.rows_setIdx] at hrow
      split_ifs at hrow
      · cases hrow
      · exact hrow

lemma hasRow_of (h : Affects k req hs k') (hrow : k'.HasRow b u) :
    k.HasRow b u ∨ ∃ a c, req = .put a c ∧ a.getUUID = u.text ∧ baseOf a = b := by
  obtain ⟨row, hrow, hid⟩ := hrow
  rcases h.mem_rows hrow with hrow | ⟨a, c, hreq, ha, -, hbase⟩
  · exact .inl ⟨row, hrow, hid⟩
  · exact .inr ⟨a, c, hreq, ha.symm.trans hid, hbase.symm⟩

end Affects

lemma Neutral.of_frame {k : Disk} {req : AssetRequest κ} (hreq : Neutral req)
    {P : World → Prop} {Q : List (Handler κ) → World → Prop} {R : Exn → World → Prop}
    (h : Triple P (processRequest req) Q R) (hQ : ∀ hs w, Q hs w → PreparedFrom k w)
    (hR : ∀ e w, R e w → PreparedFrom k w) :
    Triple P (workLoop req) (fun hs w => Affects k req hs w.disk ∧ OpenTables w)
      (fun _ w => ∃ hs, Affects k req hs w.disk) := by
  refine (workLoop_triple h).conseq (fun _ hw => hw) ?_
    fun e w hw => ⟨[], .opened hreq (hR e w hw.2).prepared⟩
  rintro hs w (hw | ⟨e, -, -, hw⟩)
  · exact ⟨.opened hreq (hQ hs w hw).prepared, (hQ hs w hw).openTables⟩
  · exact ⟨.opened hreq (hR e w hw).prepared, (hR e w hw).openTables⟩

/-- One round of the worker, to its end or to the point where the process stops. -/
lemma workLoop_affects (k : Disk) (req : AssetRequest κ) :
    Triple (fun w => w.disk = k ∧ OpenTables w) (workLoop req)
      (fun hs w => Affects k req hs w.disk ∧ OpenTables w)
      (fun _ w => ∃ hs, Affects k req hs w.disk) := by
  have hprep {w : World} (hw : w.disk = k ∧ OpenTables w) : PreparedFrom k w :=
    ⟨hw.1 ▸ .refl _, hw.2⟩
  cases req with
  | get uuid c =>
    refine ((Neutral.of_frame ⟨rfl, by simp⟩
      (performDiskRead_triple c (getAssetSync_frame k uuid)) ?_ ?_).conseq (fun _ => hprep)
      (fun _ _ h => h) fun _ _ h => h)
    · rintro hs w (⟨r, -, hw⟩ | ⟨e, -, -, hw⟩) <;> exact hw
    · rintro e w ⟨-, hw⟩
      exact hw
  | put a c =>
    have hwrite := performDiskWrite_triple c (storeAssetSync_triple False k a False.elim False.elim)
    refine (workLoop_triple hwrite).conseq (fun w hw => ⟨hw, False.elim⟩) ?_ ?_
    · rintro hs w ((⟨rfl, ⟨k₁, hk₁, -, hnew, -, hdisk⟩, hw, -⟩ |
        ⟨e, -, rfl, ⟨hw, k₁, hk₁, hcut⟩, -⟩) |
        ⟨e, hne, -, he, -⟩)
      · exact ⟨hdisk ▸ .stored hk₁ hnew, hw⟩
      · exact ⟨.failed hk₁ hcut, hw⟩
      · exact absurd he hne
    · rintro e w ⟨-, -, ⟨-, k₁, hk₁, hcut⟩, -⟩
      exact ⟨_, .failed (e := .stopped) hk₁ hcut⟩
  | purge uuid c =>
    refine Neutral.of_frame (R := fun _ _ => False) ⟨rfl, by simp⟩
      (.pure _ fun w hw => hprep hw) (fun _ _ hw => hw) (by simp)
  | purgeLocals head =>
    refine ((Neutral.of_frame ⟨rfl, by simp⟩
      (performDiskPurgeLocals_triple False False.elim) ?_ ?_).conseq
      (fun w hw => ⟨hprep hw, False.elim⟩) (fun _ _ h => h) fun _ _ h => h)
    · exact fun hs w hw => hw.2
    · exact fun e w hw => hw.1
  | deleteLocalStorage head =>
    refine (workLoop_triple (performLocalsPhysicalDeletion_triple False k head)).conseq
      (fun w hw => ⟨hw, False.elim⟩) ?_ fun _ _ h => ⟨[], .deleted h.2.1.1⟩
    rintro hs w (⟨rfl, hw, hdisk⟩ | ⟨e, -, rfl, ⟨hdel, hw⟩, -⟩)
    · exact ⟨.deleted (hdisk ▸ .both), hw⟩
    · exact ⟨.deleted hdel, hw⟩
  | collectStatus c =>
    refine Neutral.of_frame (R := fun _ _ => False) ⟨rfl, by simp⟩
      (.pure _ fun w hw => hprep hw) (fun _ _ hw => hw) (by simp)
  | getStoredAssetIds head c =>
    refine ((Neutral.of_frame ⟨rfl, by simp⟩
      (performGetStoredAssetIds_triple False k head c) ?_ ?_).conseq
      (fun w hw => ⟨hprep hw, False.elim⟩) (fun _ _ h => h) fun _ _ h => h)
    · exact fun hs w hw => hw.2
    · exact fun e w hw => hw.1

lemma process_affects {s s' : VFSBackend κ} {calls : List Call} (h : OpenTables s.world)
    (hproc : s.process calls = some s') :
    ∃ req hs w, s.current = some req ∧ Affects s.world.disk req hs w.disk ∧ OpenTables w ∧
      s' = s.finished w hs := by
  cases hcur : s.current with
  | none => simp [process, hcur] at hproc
  | some req =>
    have hstart : ({ s.world with calls := calls } : World).disk = s.world.disk ∧
        OpenTables { s.world with calls := calls } := ⟨rfl, h.coherent, h.hasTable⟩
    obtain ⟨hs, w, ⟨haff, hw⟩, rfl⟩ :=
      process_of_triple hcur (workLoop_affects s.world.disk req) hstart hproc
    exact ⟨req, hs, w, rfl, haff, hw, rfl⟩

end VFSBackend

end Whip
