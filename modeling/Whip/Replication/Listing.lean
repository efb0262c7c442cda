import Whip.Net.CSAuthenticated
import Whip.Storage.Rounds
import Whip.Replication.PullReplicationService

/-!
# The identifiers of a prefix, from the master's index to the slave

The slave writes the counter of the round as three hexadecimal digits, fills them up to the length
of an identifier, and the master takes the first three characters as the name of a directory. What
comes back is a list of identifiers, each followed by a comma.
-/

namespace Whip

open RemoteAssetService

namespace Disk

/-- The identifiers in the globals index of a directory. -/
def globalIds (k : Disk) (head : DirName) : List ByteString :=
  (k.rows head .globals).map (·.assetId)

/-- The identifiers of the global assets are valid; they are the primary key of their table. -/
structure GlobalsValid (k : Disk) : Prop where
  valid : ∀ head, ∀ id ∈ k.globalIds head, Validator.isValidUUID id = true
  nodup : ∀ head, (k.globalIds head).Nodup

end Disk

namespace PullReplicationService

/-- The request for the identifiers with a prefix. -/
def listingOf (n : ℕ) : PendingTransferRequest Callback :=
  ⟨VFSBackend.hexHead n, .onGetStoredAssetIds, .storedAssetIdsGet, none⟩

/-- The request for an asset. -/
def getOf (assetId : ByteString) : PendingTransferRequest Callback :=
  ⟨assetId, .onAssetRetrieved assetId, .getDontCache, none⟩

/-! ### Lists -/

/-- What the master sends in answer to a listing. -/
def listFor (k : Disk) (req : PendingTransferRequest Callback) : ByteString :=
  VFSBackend.journalOf k ((messageOf req).getUUID.take 3)

/-- The session passes the prefix on to the storage, and sends what the storage lists. -/
lemma listFor_served {κ : Type} {c : CSAuthenticated} {req : PendingTransferRequest Callback}
    (hreq : c.currentRequest.header = (messageOf req).header) (hconn : c.connected = true)
    {b b' : VFSBackend κ} (hb : b.world.Intact) {head : ByteString} {callback : κ}
    (hcall : c.handleStoredAssetIdsGet.2 = some (.getStoredAssetIDsWithPrefix head))
    (hcurrent : b.current = some (.getStoredAssetIds head callback))
    (hprocess : b.process [] = some b') :
    .callback callback (.completed (listFor b.world.disk req)) ∈ b'.posted ∧
      c.onReply (.storedAssetIds (listFor b.world.disk req)) =
        (c.sendResponse (.make .ok CSAuthenticated.zeroUUID (some (listFor b.world.disk req))),
          none) := by
  refine ⟨?_, rfl⟩
  have hhead : head = (messageOf req).getUUID.take 3 := by
    simp only [CSAuthenticated.handleStoredAssetIdsGet, hconn, if_true, Option.some.injEq,
      CSAuthenticated.BackendCall.getStoredAssetIDsWithPrefix.injEq, ClientRequestMsg.getUUID,
      hreq] at hcall
    exact hcall.symm
  obtain ⟨w, rfl⟩ := VFSBackend.process_ids_spec hb hcurrent hprocess
  simp [listFor, hhead]

lemma listFor_listingOf (k : Disk) (n : ℕ) :
    listFor k (listingOf n) = VFSBackend.journalOf k (VFSBackend.hexHead n) := by
  have hlen : (fixedPfx (VFSBackend.hexHead n)).length = 32 := by
    simp [fixedPfx, VFSBackend.length_hexHead]
  simp only [listFor, listingOf, messageOf, ClientRequestMsg.getUUID_ofId hlen]
  rfl

lemma splitIds_journal {ids : List ByteString} (hids : ∀ id ∈ ids, 44 ∉ id) :
    splitIds (ids.flatMap (· ++ [44])) = ids ++ [[]] := by
  induction ids with
  | nil => rfl
  | cons id ids ih =>
    have hid : 44 ∉ id := hids id (by simp)
    rw [List.flatMap_cons, List.append_assoc, List.singleton_append, splitIds,
      List.splitOn_append_cons_self_of_not_mem hid]
    exact congrArg (id :: ·) (ih fun x hx => hids x (by simp [hx]))

/-- The identifiers survive being joined and split. -/
lemma splitIds_listFor {k : Disk} (hk : k.GlobalsValid) (n : ℕ) :
    (splitIds (listFor k (listingOf n))).filter (· ≠ []) =
      k.globalIds (VFSBackend.hexHead n) := by
  have hvalid := hk.valid (VFSBackend.hexHead n)
  have hcomma : ∀ id ∈ k.globalIds (VFSBackend.hexHead n), 44 ∉ id := by
    intro id hid hmem
    have hhex := AssetId.isHexChar_of_mem ⟨id, hvalid id hid⟩ hmem
    exact absurd hhex (by decide)
  have hne : ∀ id ∈ k.globalIds (VFSBackend.hexHead n), id ≠ [] := by
    rintro _ hid rfl
    exact absurd (hvalid _ hid) (by decide)
  rw [listFor_listingOf]
  have hsplit := splitIds_journal hcomma
  rw [show VFSBackend.journalOf k (VFSBackend.hexHead n) =
    (k.globalIds (VFSBackend.hexHead n)).flatMap (· ++ [44]) from rfl, hsplit, List.filter_append,
    List.filter_eq_self.mpr fun id hid => by simpa using hne id hid]
  simp

end PullReplicationService

end Whip
