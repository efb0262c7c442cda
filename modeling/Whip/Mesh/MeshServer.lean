import Whip.Net.Messages
import Whip.Lib.Pipelined
import Whip.Lib.Machine

/-!
# A peer server of the mesh

A `MeshServer` has two connections to a peer. On the query connection it asks whether the peer has
an asset, and tells the searches that are registered for the identifier; on the asset connection it
pipelines gets. Both run on the io thread; searches and the callbacks of gets are foreign code here.
-/

namespace Whip

open Pipelined

/-- An `IntraMeshMsg` as `onQueryAnswerRcvd` tells them apart. -/
inductive IntraMeshMsg
  | invalid
  | heartbeat (flags : ℕ)
  | response (uuid : ByteString) (found : Bool)
  | query (uuid : ByteString)
deriving DecidableEq

structure MeshQueryConnection where
  isConnected : Bool := false
  recvActive : Bool := false
  sendActive : Bool := false
  disconnectCallbackFired : Bool := false
  sendQueue : List ByteString := []
deriving DecidableEq

namespace MeshQueryConnection

def listenForMessage (q : MeshQueryConnection) : MeshQueryConnection :=
  { q with recvActive := true }

/-- Write a query, or let it wait for the one being written. -/
def search (q : MeshQueryConnection) (uuid : ByteString) : MeshQueryConnection :=
  if !q.isConnected then q
  else if !q.sendActive then { q with sendActive := true }
  else { q with sendQueue := q.sendQueue ++ [uuid] }

def writeNextMessage (q : MeshQueryConnection) : MeshQueryConnection :=
  match q.sendQueue with
  | []        => q
  | _ :: rest => { q with sendActive := true, sendQueue := rest }

/-- `close` calls the disconnect callback once, when no operation is outstanding. -/
def fires (q : MeshQueryConnection) : Bool :=
  !q.recvActive && !q.sendActive && !q.disconnectCallbackFired

end MeshQueryConnection

/-- `PendingTransferRequest` of a mesh server. -/
structure MeshRequest (κ : Type) where
  uuid : ByteString
  callback : κ

namespace MeshServer

/-- What the handlers of a mesh server do besides calling back. Telling the searches is foreign
code. -/
inductive Own
  | listenForAssetData
  | readErrorData (response : ServerResponseMsg)
  | postResponse (uuid : ByteString) (found : Bool)
  | eraseSearches (uuid : ByteString)
  | killSearches
  | checkSafeKill
  | listenForMessage
deriving DecidableEq

/-- The frames that start the next read of the asset connection. -/
def listens : Frame Own → Bool
  | .other .listenForAssetData | .other (.readErrorData _) => true
  | _ => false

end MeshServer

/-- The flags `_sendActive` and `_recvActive` say that a write and a read of the asset connection
are outstanding. -/
structure MeshServer (κ : Type) extends Client (MeshRequest κ) (Option Asset) MeshServer.Own where
  reading : Option ReadOp := none
  query : MeshQueryConnection := {}
  queryConnectionEstablished : Bool := false
  assetConnecting : Bool := false
  queryConnecting : Bool := false
  numConnectResultsRcvd : ℕ := 0
  lastHeartbeatFlags : ℕ := 0
  currentSearches : List (ByteString × List κ) := []
  hasSafeKillCallback : Bool := false
  safeKills : ℕ := 0

namespace MeshServer

variable {κ : Type}

/-! ### Searches -/

/-- The searches registered for an identifier. -/
def searchesFor (s : MeshServer κ) (uuid : ByteString) : List κ :=
  (s.currentSearches.lookup uuid).getD []

/-- Register a search; only the first one for an identifier is sent to the peer. -/
def search (s : MeshServer κ) (uuid : ByteString) (search : κ) : MeshServer κ :=
  if s.currentSearches.any (·.1 == uuid) then
    { s with
      currentSearches := s.currentSearches.map fun e =>
        if e.1 == uuid then (e.1, e.2 ++ [search]) else e }
  else
    { s with
      currentSearches := s.currentSearches ++ [(uuid, [search])]
      query := s.query.search uuid }

def eraseSearches (s : MeshServer κ) (uuid : ByteString) : MeshServer κ :=
  { s with currentSearches := s.currentSearches.filter (·.1 != uuid) }

def cancelSearch [DecidableEq κ] (s : MeshServer κ) (uuid : ByteString) (search : κ) :
    MeshServer κ :=
  { s with
    currentSearches := (s.currentSearches.map fun e =>
      if e.1 == uuid then (e.1, e.2.filter (· ≠ search)) else e).filter fun e =>
        !(e.1 == uuid && e.2.isEmpty) }

/-! ### Gets and closing -/

/-- Without a connection a null asset is posted, and the request goes out or waits all the same. -/
def getAsset (s : MeshServer κ) (uuid : ByteString) (callBack : κ) : MeshServer κ :=
  { s with toClient := s.toClient.request none ⟨uuid, callBack⟩ }

/-- What `close` does when the queues are empty. -/
def closeRest : List (Frame Own) := [.other .killSearches, .other .checkSafeKill]

/-- Closing the query connection may call `close` again, before the rest of the outer one. -/
def close (s : MeshServer κ) : MeshServer κ :=
  let s := { s with query := { s.query with isConnected := false } }
  if s.query.fires then
    { s with
      query := { s.query with disconnectCallbackFired := true }
      queryConnectionEstablished := false
      toClient := s.toClient.close (closeRest ++ [.drainWaiting, .drainSent] ++ closeRest) }
  else
    { s with toClient := s.toClient.close closeRest }

def checkSafeKill (s : MeshServer κ) : MeshServer κ :=
  if !s.established && s.hasSafeKillCallback && s.reading.isNone && s.writing.isNone &&
      !s.queryConnectionEstablished then
    { s with safeKills := s.safeKills + 1 }
  else s

/-- `MeshQueryConnection::close` after an error on the query connection. -/
def closeQuery (s : MeshServer κ) : MeshServer κ :=
  let s := { s with query := { s.query with isConnected := false } }
  if s.query.fires then
    { s with
      query := { s.query with disconnectCallbackFired := true }
      queryConnectionEstablished := false }.close
  else s

/-! ### Handlers of the asset connection -/

def TOTAL_CONNECTION_COUNT : ℕ := 2

def listenForAssetData (s : MeshServer κ) : MeshServer κ := { s with reading := some .header }

/-- With the second result, start listening and call the connect callback. -/
def onConnectionResult (s : MeshServer κ) : MeshServer κ :=
  let s := { s with numConnectResultsRcvd := s.numConnectResultsRcvd + 1 }
  if s.numConnectResultsRcvd = TOTAL_CONNECTION_COUNT then
    let s := if s.queryConnectionEstablished && s.established then s.listenForAssetData else s
    { s with running := [.callback] }
  else s

/-- The result of connecting and authenticating on the asset connection. -/
def onConnect (s : MeshServer κ) (success : Bool) : MeshServer κ :=
  { s with assetConnecting := false, established := success }.onConnectionResult

def onAfterWriteAssetRequest (s : MeshServer κ) (success : Bool) : MeshServer κ :=
  let s := { s with writing := none }
  if success then
    let s := if s.established then { s with toClient := s.toClient.next none } else s
    s.checkSafeKill
  else s.close

/-- Call the callback of the request in front; `none` where the queue is asserted not to be
empty. -/
def answer (s : MeshServer κ) (asset : Option Asset) (rest : List (Frame Own)) :
    Option (MeshServer κ) :=
  (s.toClient.answer asset rest).map fun c => { s with toClient := c }

def onReadResponseHeader (s : MeshServer κ) (header : ByteString) : Option (MeshServer κ) :=
  let response : ServerResponseMsg := ⟨header, none⟩
  match response.getResponseCode with
  | some .found => some { s with reading := some (.data response) }
  | none        => some s.close
  | _ =>
    match s.sent with
    | [] => none
    | req :: _ =>
      if req.uuid ≠ response.getUUID then some s.close
      else if response.getDataSize > 0 then
        s.answer none [.dropSent, .other (.readErrorData response)]
      else s.answer none [.dropSent, .other .listenForAssetData]

def onReadResponseData (s : MeshServer κ) (data : ByteString) : Option (MeshServer κ) :=
  if !data.isEmpty && s.established then
    match s.sent with
    | [] => none
    | req :: _ =>
      let meshAsset : Asset := ⟨data⟩
      if meshAsset.getUUID = req.uuid then
        s.answer (some meshAsset) [.dropSent, .other .listenForAssetData]
      else some s.close
  else some s.close

/-- The outstanding read completes; `none` stands for an error. -/
def onRead (s : MeshServer κ) (op : ReadOp) (bytes : Option ByteString) : Option (MeshServer κ) :=
  let s := { s with reading := none }
  match op, bytes with
  | _, none              => some s.close
  | .header, some header => s.onReadResponseHeader header
  | .data _, some data   => s.onReadResponseData data
  | .errorData _, some _ => some s.listenForAssetData

/-- A completed read closes the connection, goes on to the data, is done with the text of an error,
or answers the get in front. -/
lemma onRead_cases {s s' : MeshServer κ} {op : ReadOp} {bytes : Option ByteString}
    (hs : s.onRead op bytes = some s') :
    s' = { s with reading := none }.close ∨
    (op = .header ∧ bytes.isSome ∧ ∃ response, s' = { s with reading := some (.data response) }) ∨
    ((∃ response, op = .errorData response) ∧ s' = { s with reading := some .header }) ∨
    ((∀ response, op ≠ .errorData response) ∧ bytes.isSome ∧ ∃ asset own, listens (.other own) ∧
      { s with reading := none }.answer asset [.dropSent, .other own] = some s') := by
  unfold onRead at hs
  cases bytes with
  | none => cases op <;> exact .inl (Option.some.inj hs).symm
  | some bytes =>
    cases op with
    | header =>
      simp only [onReadResponseHeader] at hs
      split at hs
      · exact .inr (.inl ⟨rfl, rfl, _, (Option.some.inj hs).symm⟩)
      · exact .inl (Option.some.inj hs).symm
      · split at hs
        · cases hs
        · split_ifs at hs
          · exact .inl (Option.some.inj hs).symm
          · exact .inr (.inr (.inr ⟨by simp, rfl, _, _, rfl, hs⟩))
          · exact .inr (.inr (.inr ⟨by simp, rfl, _, _, rfl, hs⟩))
    | data response =>
      simp only [onReadResponseData] at hs
      split_ifs at hs
      · split at hs
        · cases hs
        · split_ifs at hs
          · exact .inr (.inr (.inr ⟨by simp, rfl, _, _, rfl, hs⟩))
          · exact .inl (Option.some.inj hs).symm
      · exact .inl (Option.some.inj hs).symm
    | errorData response => exact .inr (.inr (.inl ⟨⟨_, rfl⟩, (Option.some.inj hs).symm⟩))

/-! ### Handlers of the query connection -/

/-- `MeshQueryConnection::onAfterMeshServiceConnect`. -/
def onQueryConnect (s : MeshServer κ) (success : Bool) : MeshServer κ :=
  let s := { s with queryConnecting := false }
  if success then
    { s with
      query := { s.query with isConnected := true }.listenForMessage
      queryConnectionEstablished := true }.onConnectionResult
  else { s with query := { s.query with isConnected := false } }.onConnectionResult

def onQueryWritten (s : MeshServer κ) (success : Bool) : MeshServer κ :=
  let s := { s with query := { s.query with sendActive := false } }
  if success then { s with query := s.query.writeNextMessage } else s.closeQuery

/-- An answer is passed on to the searches for its identifier, which are then erased. -/
def onQueryRead (s : MeshServer κ) (msg : Option IntraMeshMsg) : MeshServer κ :=
  let s := { s with query := { s.query with recvActive := false } }
  match msg with
  | none                   => s.closeQuery
  | some .invalid          => { s with query := s.query.listenForMessage }
  | some (.heartbeat fs)   => { s with lastHeartbeatFlags := fs, query := s.query.listenForMessage }
  | some (.response uuid found) =>
    { s with running :=
        [.other (.postResponse uuid found), .other (.eraseSearches uuid),
          .other .listenForMessage] }
  | some (.query uuid) =>
    { s with running :=
        [.other (.postResponse uuid false), .other (.eraseSearches uuid),
          .other .listenForMessage] }

/-! ### The server as a machine -/

/-- Foreign code runs: a callback, a search that is told, or whatever the io thread runs next. -/
def foreign (s : MeshServer κ) : Bool :=
  match s.running with
  | .other (.postResponse _ _) :: _ => true
  | .other .killSearches :: _       => true
  | _                               => s.toClient.foreign

/-- The running callback returns, or what is to be done next is done. -/
def resume (s : MeshServer κ) : Option (MeshServer κ) :=
  match s.running with
  | .other .listenForAssetData :: fs   => some { s with running := fs }.listenForAssetData
  | .other (.readErrorData response) :: fs =>
    some { s with running := fs, reading := some (.errorData response) }
  | .other (.postResponse _ _) :: fs   => some { s with running := fs }
  | .other .killSearches :: fs         => some { s with running := fs }
  | .other (.eraseSearches uuid) :: fs => some ({ s with running := fs }.eraseSearches uuid)
  | .other .checkSafeKill :: fs        => some { s with running := fs }.checkSafeKill
  | .other .listenForMessage :: fs     =>
    some { s with running := fs, query := s.query.listenForMessage }
  | _ => (s.toClient.resume none).map fun c => { s with toClient := c }

inductive Event (κ : Type)
  | registerSafeKillCallback
  | connect
  | getAsset (uuid : ByteString) (callBack : κ)
  | search (uuid : ByteString) (search : κ)
  | cancelSearch (uuid : ByteString) (search : κ)
  | close
  | resume
  | assetConnected (success : Bool)
  | queryConnected (success : Bool)
  | written (success : Bool)
  | read (bytes : Option ByteString)
  | queryWritten (success : Bool)
  | queryRead (msg : Option IntraMeshMsg)
  | runPosted (i : ℕ)

/-- Calls come from foreign code; everything else is run by the io thread when nothing else runs. A
search on a server without asset connection is answered at once and not registered. -/
def step [DecidableEq κ] (s : MeshServer κ) : Event κ → Option (MeshServer κ)
  | .registerSafeKillCallback =>
    if s.foreign then some { s with hasSafeKillCallback := true } else none
  | .connect =>
    if s.foreign then some { s with assetConnecting := true, queryConnecting := true } else none
  | .getAsset uuid k => if s.foreign then some (s.getAsset uuid k) else none
  | .search uuid k =>
    if s.foreign then some (if s.established then s.search uuid k else s) else none
  | .cancelSearch uuid k => if s.foreign then some (s.cancelSearch uuid k) else none
  | .close           => if s.foreign then some s.close else none
  | .resume          => s.resume
  | .assetConnected success =>
    if s.running.isEmpty && s.assetConnecting then some (s.onConnect success) else none
  | .queryConnected success =>
    if s.running.isEmpty && s.queryConnecting then some (s.onQueryConnect success) else none
  | .written success =>
    if s.running.isEmpty && s.writing.isSome then some (s.onAfterWriteAssetRequest success)
    else none
  | .read bytes =>
    match s.reading with
    | none    => none
    | some op =>
      if s.running.isEmpty && bytes.all (·.length == op.size) then s.onRead op bytes else none
  | .queryWritten success =>
    if s.running.isEmpty && s.query.sendActive then some (s.onQueryWritten success) else none
  | .queryRead msg =>
    if s.running.isEmpty && s.query.recvActive then some (s.onQueryRead msg) else none
  | .runPosted i =>
    if s.running.isEmpty then (s.toClient.runPosted i).map fun c => { s with toClient := c }
    else none

end MeshServer

end Whip
