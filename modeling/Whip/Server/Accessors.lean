import Whip.Lib.Logged
import Whip.Storage.Requests
import Whip.Net.CSAuthenticated
import Whip.Net.RemoteAssetService
import Whip.Mesh.MeshServer

/-!
# Where the accessors of an asset read

An asset is made of whatever a client or a peer sent, and its accessors index the array without a
check. This module logs each accessor that is called on a new asset until it is stored, cached or
rejected, and says which arrays are long enough for all of them.
-/

namespace Whip

open Effect

/-! ### Accessors -/

inductive Accessor
  | getUUID
  | getType
  | isLocal
deriving DecidableEq

namespace Accessor

/-- The offsets that are read. -/
def offsets : Accessor → List ℕ
  | getUUID => List.range 32
  | getType => [32]
  | isLocal => [33]

/-- Each byte that is read lies within the array. -/
def Within (asset : Asset) (a : Accessor) : Prop := ∀ i ∈ a.offsets, i < asset.data.length

instance (asset : Asset) (a : Accessor) : Decidable (a.Within asset) :=
  inferInstanceAs (Decidable (∀ i ∈ a.offsets, i < asset.data.length))

variable {asset : Asset}

lemma within_getUUID_iff : getUUID.Within asset ↔ 32 ≤ asset.data.length := by
  simp only [Within, offsets, List.mem_range]
  refine ⟨fun h => h 31 (by omega), fun h i hi => by omega⟩

lemma within_isLocal_iff : isLocal.Within asset ↔ 34 ≤ asset.data.length := by
  simp [Within, offsets, Nat.succ_le_iff]

lemma within_of_le (h : 34 ≤ asset.data.length) (a : Accessor) : a.Within asset := by
  cases a with
  | getUUID => exact within_getUUID_iff.mpr (by omega)
  | getType =>
    simp only [Within, offsets, List.mem_singleton, forall_eq]
    omega
  | isLocal => exact within_isLocal_iff.mpr h

end Accessor

/-- All accessors that were called read within the array. -/
def Inside (asset : Asset) (calls : List Accessor) : Prop := ∀ a ∈ calls, a.Within asset

section Inside

variable {asset : Asset} {calls calls' : List Accessor}

instance : Decidable (Inside asset calls) :=
  inferInstanceAs (Decidable (∀ a ∈ calls, a.Within asset))

lemma inside_append : Inside asset (calls ++ calls') ↔ Inside asset calls ∧ Inside asset calls' :=
  List.forall_mem_append

lemma inside_of_le (h : 34 ≤ asset.data.length) : Inside asset calls :=
  fun a _ => a.within_of_le h

/-- The identifier needs 32 bytes, however often it is read. -/
lemma inside_of_getUUID (h : 32 ≤ asset.data.length) (hcalls : ∀ a ∈ calls, a = .getUUID) :
    Inside asset calls := by
  intro a ha
  rw [hcalls a ha]
  exact Accessor.within_getUUID_iff.mpr h

end Inside

/-! ### The worker thread, with a log -/

namespace Accessed

variable {κ : Type}

abbrev AccessM := EStateM Exn (World × List Accessor)

def getUUID (asset : Asset) : AccessM ByteString := noting .getUUID asset.getUUID

def isLocal (asset : Asset) : AccessM Bool := noting .isLocal asset.isLocal

/-- The statement is put together before it is executed. -/
def recordAssetPosition (d : DirName) (b : Base) (asset : Asset) (position : ℤ) : AccessM Unit := do
  note .getUUID
  note .getType
  quietly (IndexFile.recordAssetPosition d b asset position)

def VFSDatabase.storeAsset (d : DirName) (b : Base) (asset : Asset) : AccessM Unit := do
  let uuid ← getUUID asset
  if !(← quietly (Whip.VFSDatabase.assetExists d b uuid)) then
    let position ← quietly (DataFile.writeNewAsset d b asset)
    recordAssetPosition d b asset position
  else
    let uuid ← getUUID asset
    throw (.assetStorage
      ⟨"Unable to store asset " ++ showBytes uuid ++ ", asset already exists", true⟩)

def DatabaseSet.storeAsset (d : DirName) (asset : Asset) : AccessM Unit := do
  if ← isLocal asset then VFSDatabase.storeAsset d .locals asset
  else VFSDatabase.storeAsset d .globals asset

def storeAssetSync (asset : Asset) : AccessM Unit := do
  let uuid ← getUUID asset
  quietly (VFSBackend.verifyAndopenSetForUUID uuid)
  DatabaseSet.storeAsset (getFullPathForUUID uuid) asset

def performDiskWrite (asset : Asset) (callback : κ) : AccessM (List (Handler κ)) :=
  tryCatch
    (do storeAssetSync asset
        return [.callback callback (.stored true none)])
    fun e => match e with
      | .assetStorage error => return [.callback callback (.stored false (some error))]
      | .stopped => throw .stopped
      | e => do
        let uuid ← getUUID asset
        return [.assetWriteFailed uuid (VFSBackend.what e),
          .callback callback (.stored false (some ⟨VFSBackend.what e, false⟩))]

/-! Without the log, this is what the worker does -/

lemma erases_recordAssetPosition (d : DirName) (b : Base) (asset : Asset) (position : ℤ) :
    Erases (recordAssetPosition d b asset position)
      (IndexFile.recordAssetPosition d b asset position) :=
  .note_bind (.note_bind (.quietly _))

lemma erases_storeAsset (d : DirName) (b : Base) (asset : Asset) :
    Erases (VFSDatabase.storeAsset d b asset) (Whip.VFSDatabase.storeAsset d b asset) := by
  refine .noting_bind (.bind (.quietly _) fun found => .ite ?_ ?_)
  · exact .bind (.quietly _) fun position => erases_recordAssetPosition d b asset position
  · exact .noting_bind (.throw _)

lemma erases_performDiskWrite (asset : Asset) (callback : κ) :
    Erases (performDiskWrite asset callback) (VFSBackend.performDiskWrite asset callback) := by
  refine .tryCatch (.bind ?_ fun _ => .pure _) fun e => ?_
  · refine .noting_bind (.bind (.quietly _) fun _ => ?_)
    unfold Whip.DatabaseSet.storeAsset
    exact .noting_bind (.ite (erases_storeAsset _ _ _) (erases_storeAsset _ _ _))
  · cases e with
    | assetStorage error => exact .pure _
    | stopped => exact .throw _
    | _ => exact .noting_bind (.pure _)

lemma logs_storeAsset (d : DirName) (b : Base) (asset : Asset) :
    Logs (VFSDatabase.storeAsset d b asset) := by
  refine .bind (.noting _ _) fun uuid => .bind (.quietly _) fun found => .ite ?_ ?_
  · exact .bind (.quietly _) fun position => .bind (.note _) fun _ => .bind (.note _) fun _ =>
      .quietly _
  · exact .bind (.noting _ _) fun uuid => .throw _

/-- Once its databases are open, the asset is asked whether it is local. -/
lemma isLocal_mem_storeAssetSync {asset : Asset} {w w' : World} (l : List Accessor)
    (hopen : VFSBackend.verifyAndopenSetForUUID asset.getUUID w = .ok () w') :
    .isLocal ∈ logged (storeAssetSync asset (w, l)) := by
  unfold storeAssetSync getUUID
  rw [noting_bind, bind_ok (quietly_ok hopen)]
  unfold DatabaseSet.storeAsset isLocal
  rw [noting_bind]
  have hlogs : Logs (if asset.isLocal = true
      then VFSDatabase.storeAsset (getFullPathForUUID asset.getUUID) .locals asset
      else VFSDatabase.storeAsset (getFullPathForUUID asset.getUUID) .globals asset) :=
    .ite (logs_storeAsset _ _ _) (logs_storeAsset _ _ _)
  exact (hlogs _).subset (by simp)

lemma isLocal_mem_performDiskWrite {asset : Asset} {w w' : World} (l : List Accessor) (callback : κ)
    (hopen : VFSBackend.verifyAndopenSetForUUID asset.getUUID w = .ok () w') :
    .isLocal ∈ logged (performDiskWrite asset callback (w, l)) := by
  have hsync := isLocal_mem_storeAssetSync l hopen
  refine (Logs.logged_tryCatch _ (fun e => ?_) _).subset
    ((Logs.logged_bind _ (fun _ => .pure _) _).subset hsync)
  cases e with
  | assetStorage error => exact .pure _
  | stopped => exact .throw _
  | _ => exact .bind (.noting _ _) fun uuid => .pure _

end Accessed

/-! ### What becomes of a new asset -/

/-- What may be the case when an asset is to be stored: there is a cache or not, the index holds
what it holds, so many status requests describe the queued request, and the worker finds the disk as
it is then. -/
structure Circumstances where
  cached : Bool := false
  index : List Uuid := []
  described : ℕ := 0
  world : World := {}

/-- The cache takes the asset of a put that succeeded. -/
def informed (r : EStateM.Result Exn (World × List Accessor) (List (Handler Unit))) :
    List Accessor :=
  match r with
  | .ok hs _   => hs.filterMap fun h => match h with
    | .callback _ (.stored true _) => some .getUUID
    | _                            => none
  | .error _ _ => []

/-- The accessors `storeAsset` and what follows it call. An identifier that does not parse makes the
lookup throw. -/
def storeAccesses (k : Circumstances) (asset : Asset) : List Accessor :=
  if Uuid.parse asset.getUUID = .thrown then [.getUUID]
  -- the lookup, and then the text of the error or the entry in the index
  else [.getUUID, .getUUID] ++
    if ExistenceIndex.assetExists k.index asset.getUUID then []
    else
      let r := Accessed.performDiskWrite asset () (k.world, [])
      List.replicate k.described .getUUID ++ logged r ++ if k.cached then informed r else []

/-- A client puts an asset. -/
def putAccesses (c : CSAuthenticated) (k : Circumstances) (data : ByteString) : List Accessor :=
  [.getUUID] ++
    match (c.handleAssetDataRead data).2 with
    | some (.storeAsset asset) => storeAccesses k asset
    | _                        => []

/-- The identifier an asset is to have, if the service makes an asset of the data that it reads. -/
def RemoteAssetService.awaitedId {κ : Type} (s : RemoteAssetService κ) : Option ByteString :=
  if s.established then
    s.sent.head?.bind fun req => match req.type with
      | .get | .getDontCache => some req.id
      | _                    => none
  else none

/-- The asset is handed over if it has that identifier, and else the connection is closed. -/
lemma RemoteAssetService.onReadResponseData_of_awaitedId {κ : Type} {s : RemoteAssetService κ}
    {id : ByteString} (h : s.awaitedId = some id) (data : ByteString) :
    s.onReadResponseData data =
      if (⟨data⟩ : Asset).getUUID = id then
        s.answer ⟨some ⟨data⟩, false, false, []⟩ [.other .listen, .dropSent]
      else some s.close := by
  unfold RemoteAssetService.awaitedId at h
  split at h
  · rename_i hest
    cases hsent : s.sent with
    | nil => simp [hsent] at h
    | cons req rest =>
      simp only [hsent, List.head?_cons, Option.bind_some] at h
      cases htype : req.type <;> simp [htype] at h <;>
        simp [RemoteAssetService.onReadResponseData, hest, hsent, htype, h]
  · cases h

/-- `handleAssetReturned`, for a request of the pull replication, which stores the asset unless it
has been disconnected. -/
def RemoteAssetService.returnedAccesses {κ : Type} (s : RemoteAssetService κ) (k : Circumstances)
    (connected : Bool) (data : ByteString) : List Accessor :=
  let asset : Asset := ⟨data⟩
  match s.awaitedId with
  | none    => []
  | some id =>
    [.getUUID] ++
      if asset.getUUID = id then (if connected then storeAccesses k asset else [])
      -- the text of the log message
      else [.getUUID]

/-- The identifier an asset is to have, if the server makes an asset of the data that it reads. -/
def MeshServer.awaitedId {κ : Type} (s : MeshServer κ) (data : ByteString) : Option ByteString :=
  if !data.isEmpty && s.established then s.sent.head?.map (·.uuid) else none

lemma MeshServer.onReadResponseData_of_awaitedId {κ : Type} {s : MeshServer κ}
    {uuid data : ByteString} (h : s.awaitedId data = some uuid) :
    s.onReadResponseData data =
      if (⟨data⟩ : Asset).getUUID = uuid then
        s.answer (some ⟨data⟩) [.dropSent, .other .listenForAssetData]
      else some s.close := by
  unfold MeshServer.awaitedId at h
  split at h
  · rename_i hest
    cases hsent : s.sent with
    | nil => simp [hsent] at h
    | cons req rest =>
      simp only [hsent, List.head?_cons, Option.map_some, Option.some.injEq] at h
      simp [MeshServer.onReadResponseData, hest, hsent, h]
  · cases h

/-- `onReadResponseData`, for a search: the asset is sent to the client that asked for it, and the
cache is informed. -/
def MeshServer.foundAccesses {κ : Type} (s : MeshServer κ) (cached : Bool) (data : ByteString) :
    List Accessor :=
  let meshAsset : Asset := ⟨data⟩
  match s.awaitedId data with
  | none      => []
  | some uuid =>
    [.getUUID] ++
      if meshAsset.getUUID = uuid then [.getUUID] ++ (if cached then [.getUUID] else [])
      else [.getUUID]

/-! ### Which arrays are long enough -/

section Sizes

variable {asset : Asset} {data : ByteString}

/-- On an empty disk on which nothing fails the databases are opened. -/
lemma exists_open (uuid : ByteString) :
    ∃ w, VFSBackend.verifyAndopenSetForUUID uuid {} = .ok () w := by
  have hprepared : PreparedFrom {} ({} : World) := ⟨.refl _, ⟨LRUCache.coherent_empty _ _, by simp⟩⟩
  have h := VFSBackend.verifyAndopenSetForUUID_triple True {} uuid {} ⟨hprepared, fun _ => rfl⟩
  cases hrun : VFSBackend.verifyAndopenSetForUUID uuid {} with
  | ok a w => exact ⟨w, rfl⟩
  | error e w =>
    rw [hrun] at h
    exact absurd trivial h.2

/-- An asset that may be stored is asked whether it is local. -/
lemma isLocal_mem_storeAccesses (hparse : Uuid.parse asset.getUUID ≠ .thrown) :
    .isLocal ∈ storeAccesses {} asset := by
  obtain ⟨w, hopen⟩ := exists_open asset.getUUID
  have hmem := Accessed.isLocal_mem_performDiskWrite [] () hopen
  have hnew : ExistenceIndex.assetExists [] asset.getUUID = false := by
    unfold ExistenceIndex.assetExists
    split <;> simp
  simp only [storeAccesses, hparse, if_false, hnew, Bool.false_eq_true]
  simp [hmem]

/-- Storing an asset needs its whole metadata, unless its identifier does not even parse. -/
lemma inside_storeAccesses_iff :
    (∀ k, Inside asset (storeAccesses k asset)) ↔
      34 ≤ asset.data.length ∨ 32 ≤ asset.data.length ∧ Uuid.parse asset.getUUID = .thrown := by
  constructor
  · intro h
    by_cases hparse : Uuid.parse asset.getUUID = .thrown
    · have hone := h {} .getUUID (by simp [storeAccesses, hparse])
      exact .inr ⟨Accessor.within_getUUID_iff.mp hone, hparse⟩
    · exact .inl (Accessor.within_isLocal_iff.mp (h {} _ (isLocal_mem_storeAccesses hparse)))
  · rintro (hle | ⟨hle, hparse⟩) k
    · exact inside_of_le hle
    · refine inside_of_getUUID hle ?_
      simp [storeAccesses, hparse]

/-- A valid identifier parses. -/
lemma parse_of_valid {uuid : ByteString} (h : Validator.isValidUUID uuid = true) :
    Uuid.parse uuid ≠ .thrown := by
  have hparse := Uuid.parse_text ⟨uuid, h⟩
  simp only at hparse
  rw [hparse]
  simp

/-- A new asset is asked for its identifier first. -/
lemma inside_getUUID_append_iff {ι : Type} [Nonempty ι] {f : ι → List Accessor} :
    (∀ i, Inside asset ([.getUUID] ++ f i)) ↔
      32 ≤ asset.data.length ∧ ∀ i, Inside asset (f i) := by
  simp only [inside_append, forall_and, forall_const]
  refine and_congr_left fun _ => ?_
  simp [Inside, Accessor.within_getUUID_iff]

instance : Nonempty Circumstances := ⟨{}⟩

lemma inside_nil : Inside asset [] := fun a ha => by cases ha

lemma inside_putAccesses_iff (c : CSAuthenticated) :
    (∀ k, Inside ⟨data⟩ (putAccesses c k data)) ↔
      34 ≤ data.length ∨ 32 ≤ data.length ∧ Validator.isValidUUID (data.take 32) = false := by
  unfold putAccesses
  rw [inside_getUUID_append_iff]
  cases hvalid : Validator.isValidUUID (data.take 32) with
  | true =>
    have hstore : (c.handleAssetDataRead data).2 = some (.storeAsset ⟨data⟩) := by
      simp [CSAuthenticated.handleAssetDataRead, CSAuthenticated.ifValidUUID, Asset.getUUID, hvalid]
    have hparse : Uuid.parse (⟨data⟩ : Asset).getUUID ≠ .thrown := parse_of_valid hvalid
    simp only [hstore, inside_storeAccesses_iff, hparse]
    grind
  | false =>
    have hreject : (c.handleAssetDataRead data).2 = none := by
      simp [CSAuthenticated.handleAssetDataRead, CSAuthenticated.ifValidUUID, Asset.getUUID, hvalid]
    simp only [hreject, inside_nil]
    grind

/-- The data a remote service makes an asset of. -/
lemma inside_returnedAccesses_iff {κ : Type} (s : RemoteAssetService κ) :
    (∀ k connected, Inside ⟨data⟩ (s.returnedAccesses k connected data)) ↔
      ∀ id ∈ s.awaitedId, 34 ≤ data.length ∨
        32 ≤ data.length ∧ (data.take 32 ≠ id ∨ Uuid.parse id = .thrown) := by
  cases hid : s.awaitedId with
  | none => simp [RemoteAssetService.returnedAccesses, hid, inside_nil]
  | some id =>
    simp only [Option.mem_some_iff, forall_eq', RemoteAssetService.returnedAccesses, hid,
      Asset.getUUID]
    rw [forall_comm]
    by_cases hmatch : data.take 32 = id
    · have hstore : (∀ k, Inside ⟨data⟩ (storeAccesses k ⟨data⟩)) ↔ _ := inside_storeAccesses_iff
      simp only [Asset.getUUID, hmatch] at hstore
      simp only [hmatch, if_true, inside_getUUID_append_iff, forall_and, Bool.forall_bool,
        Bool.false_eq_true, if_false, inside_nil, hstore]
      grind
    · have hagain : Inside ⟨data⟩ [.getUUID] ↔ 32 ≤ data.length := by
        simp [Inside, Accessor.within_getUUID_iff]
      simp only [hmatch, if_false, inside_getUUID_append_iff, hagain, forall_const]
      grind

/-- The data a server of the mesh makes an asset of. -/
lemma inside_foundAccesses_iff {κ : Type} (s : MeshServer κ) :
    (∀ cached, Inside ⟨data⟩ (s.foundAccesses cached data)) ↔
      ((s.awaitedId data).isSome = true → 32 ≤ data.length) := by
  cases hid : s.awaitedId data with
  | none => simp [MeshServer.foundAccesses, hid, inside_nil]
  | some uuid =>
    simp only [MeshServer.foundAccesses, hid, inside_getUUID_append_iff, Option.isSome_some,
      forall_const]
    refine ⟨fun h => h.1, fun h => ⟨h, fun cached => inside_of_getUUID h ?_⟩⟩
    split_ifs <;> simp

end Sizes

/-- The accessors read within the array exactly if it holds all the metadata, or holds an identifier
for which the asset is rejected; a server of the mesh never needs more than the identifier. -/
theorem accessors_inside_iff (data : ByteString) :
    (∀ c, (∀ k, Inside ⟨data⟩ (putAccesses c k data)) ↔
      34 ≤ data.length ∨ 32 ≤ data.length ∧ Validator.isValidUUID (data.take 32) = false) ∧
    (∀ (κ : Type) (s : RemoteAssetService κ),
      (∀ k connected, Inside ⟨data⟩ (s.returnedAccesses k connected data)) ↔
        ∀ id ∈ s.awaitedId, 34 ≤ data.length ∨
          32 ≤ data.length ∧ (data.take 32 ≠ id ∨ Uuid.parse id = .thrown)) ∧
    (∀ (κ : Type) (s : MeshServer κ),
      (∀ cached, Inside ⟨data⟩ (s.foundAccesses cached data)) ↔
        ((s.awaitedId data).isSome = true → 32 ≤ data.length)) :=
  ⟨inside_putAccesses_iff, fun _ => inside_returnedAccesses_iff, fun _ => inside_foundAccesses_iff⟩

theorem accessors_inside_of_put :
    Inside ⟨List.replicate 34 48⟩
        (putAccesses { isMeshConnection := false } {} (List.replicate 34 48)) ∧
      Inside ⟨List.replicate 32 48⟩
        (({ established := true, sent := [⟨List.replicate 32 48, ()⟩] } :
          MeshServer Unit).foundAccesses
          true (List.replicate 32 48)) :=
  ⟨((accessors_inside_iff _).1 _).mpr (.inl (by decide)) {},
    ((accessors_inside_iff _).2.2 Unit _).mpr (fun _ => by decide) true⟩

/-- Ten bytes are too few for an identifier, thirty-three for the local flag; one byte from a peer
is too few to be compared with what was asked for. -/
theorem short_assets_read_outside :
    ¬ Inside ⟨List.replicate 10 48⟩
        (putAccesses { isMeshConnection := false } {} (List.replicate 10 48)) ∧
    ¬ Inside ⟨List.replicate 33 48⟩
        (putAccesses { isMeshConnection := false } {} (List.replicate 33 48)) ∧
    ¬ Inside ⟨[48]⟩
        (({ established := true, sent := [⟨List.replicate 32 48, (), .get, none⟩] } :
          RemoteAssetService Unit).returnedAccesses {} true [48]) ∧
    ¬ Inside ⟨[48]⟩
        (({ established := true, sent := [⟨List.replicate 32 48, ()⟩] } :
          MeshServer Unit).foundAccesses
          false [48]) := by
  have hid {asset : Asset} {calls : List Accessor} (hmem : .getUUID ∈ calls)
      (hlt : asset.data.length < 32) : ¬ Inside asset calls := fun h =>
    absurd (Accessor.within_getUUID_iff.mp (h _ hmem)) (Nat.not_le.mpr hlt)
  refine ⟨hid ?_ (by decide), fun h => ?_, hid ?_ (by decide), hid ?_ (by decide)⟩
  · simp [putAccesses]
  · have hmem : .isLocal ∈ storeAccesses {} ⟨List.replicate 33 48⟩ :=
      isLocal_mem_storeAccesses (by decide)
    exact absurd (Accessor.within_isLocal_iff.mp (h .isLocal (List.mem_append_right _ hmem)))
      (by decide)
  · simp [RemoteAssetService.returnedAccesses, RemoteAssetService.awaitedId]
  · simp [MeshServer.foundAccesses, MeshServer.awaitedId]

end Whip
