import Whip.Net.Messages
import Whip.Lib.Pipelined
import Whip.Lib.Machine

/-!
# The asset service of another server

`RemoteAssetService` pipelines gets, puts and listings of identifiers over one connection. All its
handlers run on the io thread; the callbacks they call are foreign code and may call the service
again.
-/

namespace Whip

open Pipelined

/-- `PendingTransferRequest`. -/
structure PendingTransferRequest (κ : Type) where
  id : ByteString
  callback : κ
  type : RequestType
  asset : Option Asset := none

/-- The arguments of a `RASResponseCallback`: asset, `RASError` and message. -/
structure RASResponse where
  asset : Option Asset
  isError : Bool
  isFatal : Bool
  message : ByteString
deriving DecidableEq

namespace RemoteAssetService

/-- What the handlers of the service do after a callback. -/
inductive Own
  | listenIfConnected
  | listen
  | checkSafeKill
deriving DecidableEq

end RemoteAssetService

/-- The flags `_sendActive` and `_recvActive` say that a write and a read are outstanding,
`connecting` that a connect is. A second connect while one is outstanding is not counted; the
callers in the repository connect a service once. -/
structure RemoteAssetService (κ : Type) extends
    Client (PendingTransferRequest κ) RASResponse RemoteAssetService.Own where
  connecting : Bool := false
  reading : Option ReadOp := none
  hasSafeKillCallback : Bool := false
  safeKills : ℕ := 0

namespace RemoteAssetService

variable {κ : Type}

def notEstablished : RASResponse := ⟨none, true, false, textBytes "Connection not established"⟩

def terminated : RASResponse := ⟨none, true, true, textBytes "Connection was terminated"⟩

/-! ### Requests -/

/-- Without a connection the error is posted, and the request goes out or waits all the same. -/
def issue (s : RemoteAssetService κ) (req : PendingTransferRequest κ) : RemoteAssetService κ :=
  { s with toClient := s.toClient.request notEstablished req }

def getAsset (s : RemoteAssetService κ) (assetId : ByteString) (cache : Bool)
    (getAssetCallback : κ) : RemoteAssetService κ :=
  s.issue ⟨assetId, getAssetCallback, if cache then .get else .getDontCache, none⟩

def putAsset (s : RemoteAssetService κ) (asset : Asset) (putAssetCallback : κ) :
    RemoteAssetService κ :=
  s.issue ⟨asset.getUUID, putAssetCallback, .put, some asset⟩

def getStoredAssetIDsWithPrefix (s : RemoteAssetService κ) (head : ByteString)
    (getStoredAssetIDsCallback : κ) : RemoteAssetService κ :=
  s.issue ⟨head, getStoredAssetIDsCallback, .storedAssetIdsGet, none⟩

/-- `sendAssetIdsRequest` fills the prefix up with `'0'`. -/
def fixedPfx (head : ByteString) : ByteString := head ++ List.replicate (32 - head.length) 48

/-- The message `sendGetRequest`, `sendPutRequest` or `sendAssetIdsRequest` writes. -/
def messageOf (req : PendingTransferRequest κ) : ClientRequestMsg :=
  match req.type, req.asset with
  | .put, some asset      => .ofAsset asset
  | .storedAssetIdsGet, _ => .ofId .storedAssetIdsGet (fixedPfx req.id)
  | type, _               => .ofId type req.id

/-! ### Handlers -/

def close (s : RemoteAssetService κ) : RemoteAssetService κ :=
  { s with toClient := s.toClient.close [.other .checkSafeKill] }

def checkSafeKill (s : RemoteAssetService κ) : RemoteAssetService κ :=
  if !s.established && s.hasSafeKillCallback && s.reading.isNone && s.writing.isNone then
    { s with safeKills := s.safeKills + 1 }
  else s

lemma checkSafeKill_of_established {s : RemoteAssetService κ} (h : s.established = true) :
    s.checkSafeKill = s := by
  simp [checkSafeKill, h]

def listenForServerResponses (s : RemoteAssetService κ) : RemoteAssetService κ :=
  { s with reading := some .header }

/-- The result of connecting and authenticating: the connect callback is called first. -/
def onConnectionResult (s : RemoteAssetService κ) (success : Bool) : RemoteAssetService κ :=
  { s with
    connecting := false
    established := success
    running := [.callback, .other .listenIfConnected] }

def onAfterWriteAssetRequest (s : RemoteAssetService κ) (success : Bool) : RemoteAssetService κ :=
  let s := { s with writing := none }
  if success then
    -- `doNextQueuedRequest` issues the front request again, and pops it
    let s := if s.established then { s with toClient := s.toClient.next notEstablished } else s
    s.checkSafeKill
  else s.close

/-- Call the callback of the request in front; `none` where the queue is asserted not to be
empty. -/
def answer (s : RemoteAssetService κ) (response : RASResponse) (rest : List (Frame Own)) :
    Option (RemoteAssetService κ) :=
  (s.toClient.answer response rest).map fun c => { s with toClient := c }

def onReadResponseHeader (s : RemoteAssetService κ) (header : ByteString) :
    Option (RemoteAssetService κ) :=
  let response : ServerResponseMsg := ⟨header, none⟩
  match response.getResponseCode with
  | some .found | some .ok => some { s with reading := some (.data response) }
  | none                   => some s.close
  | _ =>
    if response.getDataSize > 0 then some { s with reading := some (.errorData response) }
    else s.answer ⟨none, true, false, []⟩ [.dropSent, .other .listen]

def onReadResponseData (s : RemoteAssetService κ) (data : ByteString) :
    Option (RemoteAssetService κ) :=
  if s.established then
    match s.sent with
    | [] => none
    | req :: _ =>
      match req.type with
      | .get | .getDontCache =>
        let asset : Asset := ⟨data⟩
        if asset.getUUID = req.id then
          s.answer ⟨some asset, false, false, []⟩ [.other .listen, .dropSent]
        else
          -- the `pop` that follows finds the queue empty
          some s.close
      | .maintPurgeLocals | .purge | .put =>
        s.answer ⟨none, false, false, []⟩ [.other .listen, .dropSent]
      | .statusGet | .storedAssetIdsGet =>
        s.answer ⟨none, false, false, data⟩ [.other .listen, .dropSent]
      | .test => some s.close
  else some s.close

def onHandleRequestErrorData (s : RemoteAssetService κ) (data : ByteString) :
    Option (RemoteAssetService κ) :=
  s.answer ⟨none, true, false, data⟩ [.dropSent, .other .listen]

/-- The outstanding read completes; `none` stands for an error. -/
def onRead (s : RemoteAssetService κ) (op : ReadOp) (bytes : Option ByteString) :
    Option (RemoteAssetService κ) :=
  let s := { s with reading := none }
  match op, bytes with
  | _, none                    => some s.close
  | .header, some header       => s.onReadResponseHeader header
  | .data _, some data         => s.onReadResponseData data
  | .errorData _, some data    => s.onHandleRequestErrorData data

/-- A completed read closes the connection, goes on to the rest of a response, or answers the
request in front. -/
lemma onRead_cases {s s' : RemoteAssetService κ} {op : ReadOp} {bytes : Option ByteString}
    (hs : s.onRead op bytes = some s') :
    s' = { s with reading := none }.close ∨
    (op = .header ∧ bytes.isSome ∧
      ∃ body, body ≠ .header ∧ s' = { s with reading := some body }) ∨
    (bytes.isSome ∧ ∃ response rest,
      (rest = [.dropSent, .other .listen] ∨ rest = [.other .listen, .dropSent]) ∧
      { s with reading := none }.answer response rest = some s') := by
  unfold onRead at hs
  cases bytes with
  | none => cases op <;> exact .inl (Option.some.inj hs).symm
  | some bytes =>
    cases op with
    | header =>
      simp only [onReadResponseHeader] at hs
      split at hs
      · exact .inr (.inl ⟨rfl, rfl, _, by simp, (Option.some.inj hs).symm⟩)
      · exact .inr (.inl ⟨rfl, rfl, _, by simp, (Option.some.inj hs).symm⟩)
      · exact .inl (Option.some.inj hs).symm
      · split_ifs at hs
        · exact .inr (.inl ⟨rfl, rfl, _, by simp, (Option.some.inj hs).symm⟩)
        · exact .inr (.inr ⟨rfl, _, _, .inl rfl, hs⟩)
    | data response =>
      simp only [onReadResponseData] at hs
      split_ifs at hs
      · split at hs
        · cases hs
        · next req rest hsent =>
          cases htype : req.type with
          | get | getDontCache =>
            simp only [htype] at hs
            split_ifs at hs
            · exact .inr (.inr ⟨rfl, _, _, .inr rfl, hs⟩)
            · exact .inl (Option.some.inj hs).symm
          | test =>
            simp only [htype] at hs
            exact .inl (Option.some.inj hs).symm
          | _ =>
            simp only [htype] at hs
            exact .inr (.inr ⟨rfl, _, _, .inr rfl, hs⟩)
      · exact .inl (Option.some.inj hs).symm
    | errorData response => exact .inr (.inr ⟨rfl, _, _, .inl rfl, hs⟩)

/-- The running callback returns, or what is to be done next is done. -/
def resume (s : RemoteAssetService κ) : Option (RemoteAssetService κ) :=
  match s.running with
  | .other .listenIfConnected :: fs =>
    let s := { s with running := fs }
    some (if s.established then s.listenForServerResponses else s)
  | .other .listen :: fs        => some { s with running := fs }.listenForServerResponses
  | .other .checkSafeKill :: fs => some { s with running := fs }.checkSafeKill
  | _ => (s.toClient.resume terminated).map fun c => { s with toClient := c }

/-! ### The service as a machine -/

inductive Event (κ : Type)
  | setSafekillCallback
  | connect
  | getAsset (assetId : ByteString) (cache : Bool) (getAssetCallback : κ)
  | putAsset (asset : Asset) (putAssetCallback : κ)
  | getStoredAssetIDsWithPrefix (head : ByteString) (getStoredAssetIDsCallback : κ)
  | close
  | resume
  | connected (success : Bool)
  | written (success : Bool)
  | read (bytes : Option ByteString)
  | runPosted (i : ℕ)

/-- Calls come from foreign code; everything else is run by the io thread when nothing else runs. A
read that succeeds delivers as many bytes as it asked for. -/
def step (s : RemoteAssetService κ) : Event κ → Option (RemoteAssetService κ)
  | .setSafekillCallback => if s.foreign then some { s with hasSafeKillCallback := true } else none
  | .connect             => if s.foreign then some { s with connecting := true } else none
  | .getAsset id cache k => if s.foreign then some (s.getAsset id cache k) else none
  | .putAsset asset k    => if s.foreign then some (s.putAsset asset k) else none
  | .getStoredAssetIDsWithPrefix head k =>
    if s.foreign then some (s.getStoredAssetIDsWithPrefix head k) else none
  | .close               => if s.foreign then some s.close else none
  | .resume              => s.resume
  | .connected success   =>
    if s.running.isEmpty && s.connecting then some (s.onConnectionResult success) else none
  | .written success     =>
    if s.running.isEmpty && s.writing.isSome then some (s.onAfterWriteAssetRequest success)
    else none
  | .read bytes =>
    match s.reading with
    | none    => none
    | some op =>
      if s.running.isEmpty && bytes.all (·.length == op.size) then s.onRead op bytes else none
  | .runPosted i =>
    if s.running.isEmpty then (s.toClient.runPosted i).map fun c => { s with toClient := c }
    else none

/-- The request a call passes in. -/
def Event.request : Event κ → Option (PendingTransferRequest κ)
  | .getAsset id cache k => some ⟨id, k, if cache then .get else .getDontCache, none⟩
  | .putAsset asset k    => some ⟨asset.getUUID, k, .put, some asset⟩
  | .getStoredAssetIDsWithPrefix head k => some ⟨head, k, .storedAssetIdsGet, none⟩
  | _ => none

lemma issue_of_request {s s' : RemoteAssetService κ} {e : Event κ}
    {r : PendingTransferRequest κ} (he : e.request = some r) (hstep : s.step e = some s') :
    s' = s.issue r := by
  cases e with
  | getAsset id cache k | putAsset asset k | getStoredAssetIDsWithPrefix head k =>
    obtain rfl := Option.some.inj he
    simp only [step, Option.ite_none_right_eq_some, Option.some.injEq] at hstep
    exact hstep.2.symm
  | _ => cases he

end RemoteAssetService

end Whip
