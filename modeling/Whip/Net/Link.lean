import Whip.Net.RemoteAssetService
import Whip.Net.CSAuthenticated

/-!
# A remote asset service and its server

A `RemoteAssetService` and the `CSAuthenticated` session of a mesh connection at its other end, with
a byte stream in each direction. A write hands its bytes over in parts of any size, and is complete
when all have been handed over; a read is complete when as many bytes as it asks for have arrived.
The backends of the server are left open: each call is replied to once, in any admissible way.
-/

namespace Whip

open Pipelined Pipelined.Client CSAuthenticated

variable {κ : Type}

/-- The bytes of the write that is outstanding. -/
def RemoteAssetService.outgoing (s : RemoteAssetService κ) : ByteString :=
  s.writing.elim [] fun r => (messageOf r).bytes

/-- `up` and `down` are the bytes on their way, `upDone` and `downDone` count the bytes of the
outstanding writes that have been handed over. -/
structure Link (κ : Type) where
  service : RemoteAssetService κ := { established := true, reading := some .header }
  session : CSAuthenticated := { isMeshConnection := true }
  calls : List BackendCall := []
  up : ByteString := []
  upDone : ℕ := 0
  down : ByteString := []
  downDone : ℕ := 0

namespace Link

/-- The handler that is bound to a call. -/
def answers : BackendCall → Reply → Bool
  | .getAsset _ _, .storageGet _ _ _                  => true
  | .storeAsset _, .storageWrite _ _                  => true
  | .purgeAsset _, .storagePurge _ _                  => true
  | .getStatus, .status _                             => true
  | .getStoredAssetIDsWithPrefix _, .storedAssetIds _ => true
  | .meshGetAsset uuid, .intrameshGet uuid' _         => uuid == uuid'
  | _, _                                              => false

inductive Event (κ : Type)
  | issue (call : RemoteAssetService.Event κ)
  | resume
  | transmit (n : ℕ)
  | written
  | read
  | serverRead (assetExists : ByteString → Bool)
  | serverTransmit (n : ℕ)
  | serverWritten
  | reply (call : BackendCall) (reply : Reply)

/-- The session goes on, and a call it makes is outstanding. -/
def serve (l : Link κ) (out : CSAuthenticated × Option BackendCall) : Link κ :=
  { l with session := out.1, calls := l.calls ++ out.2.toList }

def step (l : Link κ) : Event κ → Option (Link κ)
  | .issue call =>
    if call.request.isSome then (l.service.step call).map fun s => { l with service := s } else none
  | .resume => (l.service.step .resume).map fun s => { l with service := s }
  | .transmit n =>
    let rest := l.service.outgoing.drop l.upDone
    if n ≤ rest.length then some { l with up := l.up ++ rest.take n, upDone := l.upDone + n }
    else none
  | .written =>
    if l.upDone = l.service.outgoing.length then
      (l.service.step (.written true)).map fun s => { l with service := s, upDone := 0 }
    else none
  | .read =>
    match l.service.reading with
    | none    => none
    | some op =>
      if op.size ≤ l.down.length then
        (l.service.step (.read (some (l.down.take op.size)))).map fun s =>
          { l with service := s, down := l.down.drop op.size }
      else none
  | .serverRead assetExists =>
    match l.session.socket with
    | []      => none
    | op :: _ =>
      match l.session.readSize op with
      | none   => none
      | some n =>
        if n ≤ l.up.length then
          some ({ l with up := l.up.drop n }.serve
            (l.session.onSocket assetExists op (l.up.take n)))
        else none
  | .serverTransmit n =>
    match l.session.socket with
    | []      => none
    | op :: _ =>
      let rest := op.outgoing.drop l.downDone
      if (l.session.readSize op).isNone ∧ n ≤ rest.length then
        some { l with down := l.down ++ rest.take n, downDone := l.downDone + n }
      else none
  | .serverWritten =>
    match l.session.socket with
    | []      => none
    | op :: _ =>
      if (l.session.readSize op).isNone ∧ l.downDone = op.outgoing.length ∧
        !l.session.throws op then
        some ({ l with downDone := 0 }.serve (l.session.onSocket (fun _ => false) op []))
      else none
  | .reply call reply =>
    if call ∈ l.calls ∧ answers call reply then
      some ({ l with calls := l.calls.erase call }.serve (l.session.onReply reply))
    else none

/-! ### Requests and responses that fit each other -/

/-- The requests the two ends are made for. -/
inductive Proper : PendingTransferRequest κ → Prop
  | get (id : ByteString) (k : κ) (length : id.length = 32) : Proper ⟨id, k, .get, none⟩
  | getDontCache (id : ByteString) (k : κ) (length : id.length = 32) :
    Proper ⟨id, k, .getDontCache, none⟩
  | put (asset : Asset) (k : κ) (ge : 34 ≤ asset.data.length) (lt : asset.data.length < 2 ^ 32) :
    Proper ⟨asset.getUUID, k, .put, some asset⟩
  | storedAssetIds (head : ByteString) (k : κ) (length : head.length ≤ 32) :
    Proper ⟨head, k, .storedAssetIdsGet, none⟩

variable {r : PendingTransferRequest κ}

def bytesOf (r : PendingTransferRequest κ) : ByteString := (RemoteAssetService.messageOf r).bytes

lemma length_fixedPfx {head : ByteString} (h : head.length ≤ 32) :
    (RemoteAssetService.fixedPfx head).length = 32 := by
  simp [RemoteAssetService.fixedPfx, Nat.add_sub_cancel' h]

lemma Proper.length_header (h : Proper r) :
    (RemoteAssetService.messageOf r).header.length = ClientRequestMsg.HEADER_SIZE := by
  cases h with
  | get id k length => exact ClientRequestMsg.length_ofId length
  | getDontCache id k length => exact ClientRequestMsg.length_ofId length
  | put asset k ge lt => exact ClientRequestMsg.length_ofAsset (Nat.le_trans (by decide) ge)
  | storedAssetIds head k length => exact ClientRequestMsg.length_ofId (length_fixedPfx length)

lemma Proper.getType (h : Proper r) :
    ClientRequestMsg.getType ⟨(RemoteAssetService.messageOf r).header, none⟩ = some r.type := by
  cases h with
  | get id k length => exact ClientRequestMsg.getType_ofId
  | getDontCache id k length => exact ClientRequestMsg.getType_ofId
  | put asset k ge lt => exact ClientRequestMsg.getType_ofAsset
  | storedAssetIds head k length => exact ClientRequestMsg.getType_ofId

lemma Proper.length_getUUID (h : Proper r) :
    (RemoteAssetService.messageOf r).getUUID.length = 32 := by
  rw [ClientRequestMsg.getUUID, List.length_take, List.length_drop, h.length_header]
  rfl

/-- A response that a session gives to the request `r`. -/
structure Fits (r : PendingTransferRequest κ) (msg : ServerResponseMsg) : Prop where
  length : msg.header.length = ServerResponseMsg.HEADER_SIZE
  size : msg.getDataSize = (msg.data.getD []).length
  code : ∃ code, msg.getResponseCode = some code ∧
    (code = .found → (r.type = .get ∨ r.type = .getDontCache) ∧ (msg.data.getD []).take 32 = r.id) ∧
    (code = .ok → r.type = .put ∧ msg.data.getD [] = [] ∨ r.type = .storedAssetIdsGet)

/-- What the server says with a response, as the caller is to see it. -/
def outcome (msg : ServerResponseMsg) : RASResponse :=
  let data := msg.data.getD []
  match msg.getResponseCode with
  | some .found => ⟨some ⟨data⟩, false, false, []⟩
  | some .ok    => ⟨none, false, false, data⟩
  | _           => ⟨none, true, false, data⟩

lemma fits_make {code : ResponseCode} {uuid : ByteString} {data : Option ByteString}
    (huuid : uuid.length = 32) (hdata : (data.getD []).length < 2 ^ 32)
    (hfound : code = .found →
      (r.type = .get ∨ r.type = .getDontCache) ∧ (data.getD []).take 32 = r.id)
    (hok : code = .ok → r.type = .put ∧ data.getD [] = [] ∨ r.type = .storedAssetIdsGet) :
    Fits r (.make code uuid data) where
  length := ServerResponseMsg.length_make huuid
  size := ServerResponseMsg.getDataSize_make huuid hdata
  code := ⟨code, ServerResponseMsg.getResponseCode_make huuid, hfound, hok⟩

/-- The calls a session makes for the request `r`. -/
def CallFor (r : PendingTransferRequest κ) : BackendCall → Prop
  | .getAsset uuid _               => (r.type = .get ∨ r.type = .getDontCache) ∧ uuid = r.id
  | .storeAsset _                  => r.type = .put
  | .getStoredAssetIDsWithPrefix _ => r.type = .storedAssetIdsGet
  | _                              => False

end Link

end Whip
