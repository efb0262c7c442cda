import Whip.Storage.Requests
import Whip.Lib.Machine

/-!
# The existence index against the disk

A store claims its identifier in the existence index before the write is queued. When the write
fails, the claim has to be given up on the io thread; when local assets are purged, their
identifiers have to leave the index before the files go. This module says exactly when a failed
write gives its claim up, and under which interleavings of stores and purges the index and the disk
agree once everything has come to rest.
-/

namespace Whip

open Effect

namespace VFSBackend

variable {κ : Type}

/-! ### What the posted handlers take out of the index -/

/-- Running the handler takes the identifier out of the index. -/
def Releases (x : Uuid) : Handler κ → Prop
  | .assetWriteFailed id _    => Uuid.parse id = .value x
  | .unindexLocals uuidList _ => x ∈ uuidList.getD []
  | _                         => False

instance (x : Uuid) : DecidablePred (Releases x : Handler κ → Prop)
  | .assetWriteFailed id _    => inferInstanceAs (Decidable (Uuid.parse id = .value x))
  | .unindexLocals uuidList _ => inferInstanceAs (Decidable (x ∈ uuidList.getD []))
  | .callback _ _             => isFalse id
  | .ioLoopFailed _           => isFalse id

/-- One handler: its identifiers leave the index, and nothing else does. -/
lemma mem_index_runHandler {s s' : VFSBackend κ} {i : ℕ} {r : Option (κ × Completion)}
    {h : Handler κ} (hi : s.posted[i]? = some h) (hrun : s.runHandler i = some (s', r)) {x : Uuid} :
    (x ∈ s'.existenceIndex ↔ x ∈ s.existenceIndex ∧ ¬ Releases x h) ∧
      s'.posted = s.posted.eraseIdx i := by
  unfold runHandler at hrun
  rw [hi] at hrun
  cases h with
  | callback k r =>
    cases hrun
    simp [Releases]
  | ioLoopFailed reason =>
    cases hrun
    simp [Releases]
  | assetWriteFailed id reason =>
    cases hrun
    unfold assetWriteFailed
    cases hp : Uuid.parse id with
    | value u => simp [Releases, hp, ExistenceIndex.mem_removeId, eq_comm]
    | _ => simp [Releases, hp]
  | unindexLocals ids head =>
    cases hrun
    simp [unindexLocals, enqueue, Releases, ExistenceIndex.mem_foldl_removeId]

/-- What will be in the index once every posted handler has run. -/
def Remains (s : VFSBackend κ) (x : Uuid) : Prop :=
  x ∈ s.existenceIndex ∧ ∀ h ∈ s.posted, ¬ Releases x h

/-- In whatever order the handlers run, what remains in the end is the same. -/
lemma remains_run {s s' : VFSBackend κ} {is : List ℕ}
    (hrun : Machine.run step s (is.map .runHandler) = some s') (x : Uuid) :
    Remains s' x ↔ Remains s x := by
  induction is generalizing s with
  | nil =>
    cases hrun
    rfl
  | cons i is ih =>
    obtain ⟨s₁, hstep, hrest⟩ := Machine.run_cons_eq_some.mp hrun
    obtain ⟨⟨b, r⟩, hb, rfl⟩ := Option.map_eq_some_iff.mp hstep
    rw [ih hrest]
    cases hi : s.posted[i]? with
    | none => simp [runHandler, hi] at hb
    | some h =>
      obtain ⟨hmem, hposted⟩ := mem_index_runHandler hi hb (x := x)
      have hperm := posted_perm hi
      simp only [Remains, hmem, hposted, ← hperm.mem_iff, List.mem_cons, forall_eq_or_imp,
        and_assoc]

/-! ### Failed writes -/

lemma process_failedWrite {s s' : VFSBackend κ} {a : Asset} {k : κ} {calls : List Call} {e : Exn}
    {w : World} (hcur : s.current = some (.put a k))
    (hfail : storeAssetSync a { s.world with calls := calls } = .error e w)
    (hproc : s.process calls = some s') :
    s' = { s with world := w, current := none, posted := s.posted ++ writeFailed a k e } := by
  have hwrite : Triple (· = { s.world with calls := calls }) (storeAssetSync a)
      (fun _ _ => False) (fun e' w' => e' = e ∧ w' = w) := by
    rintro _ rfl
    rw [hfail]
    exact ⟨rfl, rfl⟩
  obtain ⟨hs, w', hpost, rfl⟩ := process_of_triple hcur
    (workLoop_triple (performDiskWrite_triple k hwrite)) rfl hproc
  rcases hpost with (⟨-, h⟩ | ⟨e', -, rfl, rfl, rfl⟩) | ⟨e', he', -, h, -⟩
  · exact h.elim
  · rfl
  · exact absurd h he'

/-- The handlers of a failed write release its identifier, unless it failed with
`AssetStorageError`. -/
lemma releases_writeFailed {a : ValidAsset} {k : κ} {e : Exn} {x : Uuid} :
    (∃ h ∈ writeFailed a.toAsset k e, Releases x h) ↔
      x = a.id.toUuid ∧ ∀ error, e ≠ .assetStorage error := by
  cases e <;> simp [writeFailed, Releases, ← ValidAsset.text_id, Uuid.parse_text, eq_comm]

/-- A write fails with exception `e` in any state of the backend, and then the posted handlers run
in any order until none is left. The identifier of the asset is out of the index, and every other
entry is as the handlers that were posted before leave it, exactly if `e` is not an
`AssetStorageError`, or something else takes the identifier out. -/
theorem failedWrite_leaves_no_trace_iff {s s' t : VFSBackend κ} {a : ValidAsset} {k : κ}
    {calls : List Call} {e : Exn} {w : World} {is : List ℕ}
    (hcur : s.current = some (.put a.toAsset k))
    (hfail : storeAssetSync a.toAsset { s.world with calls := calls } = .error e w)
    (hproc : s.process calls = some s')
    (hrun : Machine.run step s' (is.map .runHandler) = some t) (hidle : t.posted = []) :
    (a.id.toUuid ∉ t.existenceIndex ∧
        ∀ x, x ≠ a.id.toUuid → (x ∈ t.existenceIndex ↔ Remains s x)) ↔
      (∀ error, e ≠ .assetStorage error) ∨ ¬ Remains s a.id.toUuid := by
  have hend (x : Uuid) : x ∈ t.existenceIndex ↔
      Remains s x ∧ ¬ (x = a.id.toUuid ∧ ∀ error, e ≠ .assetStorage error) := by
    have hx : x ∈ t.existenceIndex ↔ Remains t x := by simp [Remains, hidle]
    rw [hx, remains_run hrun, process_failedWrite hcur hfail hproc, ← releases_writeFailed (k := k)]
    simp only [Remains, List.mem_append, or_imp, forall_and, and_assoc, not_exists, not_and]
  constructor
  · rintro ⟨habsent, -⟩
    rw [hend, not_and_or, not_not] at habsent
    exact habsent.symm.imp And.right id
  · intro h
    refine ⟨fun hin => ?_, fun x hx => by simp [hend, hx]⟩
    obtain ⟨hkept, hnot⟩ := (hend _).mp hin
    exact h.elim (fun he => hnot ⟨rfl, he⟩) fun hgone => hgone hkept

/-- The worker is about to write an asset to an empty root. -/
def writingFirst : VFSBackend Unit where
  existenceIndex := [VFSDatabase.zeroAsset.id.toUuid]
  current := some (.put VFSDatabase.zeroAsset.toAsset ())

theorem writingFirst_raise_no_trace :
    ∃ s' t, writingFirst.process [{ outcome := .raise "disk gone" }] = some s' ∧
      Machine.run step s' [.runHandler 0, .runHandler 0] = some t ∧
      VFSDatabase.zeroAsset.id.toUuid ∉ t.existenceIndex := by
  obtain ⟨w, hfail⟩ : ∃ w, storeAssetSync VFSDatabase.zeroAsset.toAsset
      { writingFirst.world with calls := [{ outcome := .raise "disk gone" }] } =
        .error (.std "disk gone") w := ⟨_, rfl⟩
  obtain ⟨s', t, hproc, hrun, hidle⟩ : ∃ s' t,
      writingFirst.process [{ outcome := .raise "disk gone" }] = some s' ∧
      Machine.run step s' ([0, 0].map .runHandler) = some t ∧ t.posted = [] :=
    ⟨_, _, rfl, rfl, rfl⟩
  exact ⟨s', t, hproc, hrun,
    ((failedWrite_leaves_no_trace_iff rfl hfail hproc hrun hidle).mpr (.inl (by simp))).1⟩

/-- The data file cannot be opened, which is the twenty-first call: the store is refused, its
identifier stays in the index when nothing is left to run, and a second store of the asset is
answered `already exists`. -/
theorem failedWrite_keeps_id :
    ∃ s t : VFSBackend ℕ,
      Machine.run step {} [.storeAsset VFSDatabase.zeroAsset 0, .dequeue,
        .process (List.replicate 20 ({} : Call) ++ [{ outcome := .err }])] = some s ∧
      s.posted = [.callback 0 (.stored false (some
        ⟨"[IWVFS][POSIX] Unable to open data file for writing []", true⟩))] ∧
      Machine.run step s [.runHandler 0] = some t ∧
      t.workQueue = [] ∧ t.current = none ∧ t.posted = [] ∧
      VFSDatabase.zeroAsset.id.toUuid ∈ t.existenceIndex ∧
      (t.storeAsset VFSDatabase.zeroAsset.toAsset 1).posted =
        [.callback 1 (.stored false (some (alreadyExistsError VFSDatabase.zeroAsset.getUUID)))] :=
  ⟨_, _, rfl, rfl, rfl, rfl, rfl, rfl, by decide, rfl⟩

end VFSBackend

end Whip
