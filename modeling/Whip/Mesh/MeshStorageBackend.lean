import Whip.Mesh.MeshServer
import Mathlib.Logic.Function.Basic

/-!
# Searches in the mesh

`MeshStorageBackend` starts an `AssetSearch` for each asset that is asked for. The search asks the
connected servers, sets a timer, and gets the asset from the first server that says it has it. All
of this runs on the io thread, so at any time at most one server is in the middle of a handler;
`running` is that server, and `telling` the searches it has yet to tell.

Searches are named by their position. A search that is complete has been destroyed; handlers bound
to it with a plain `this` (the timeout, the completion of a transfer) still find its last contents.
-/

namespace Whip

/-- The timeout timer; cancelling it does not recall a handler that is queued already. -/
inductive TimeoutTimer
  | unset
  | waiting
  | queued
  | cancelled
  | ran
deriving DecidableEq

/-- `isTest` says that `_testCallBack` is set and not `_fullCallBack`, `isActive` that the search is
among the `_activeSearches`. -/
structure AssetSearch where
  uuid : ByteString
  isTest : Bool
  isActive : Bool := true
  wasFound : Bool := false
  timeoutTimer : TimeoutTimer := .unset
  queriedServers : List ℕ := []
  foundAsset : Option Asset := none
deriving DecidableEq

/-- What a search tells its requester. -/
inductive SearchAnswer
  | asset (asset : Option Asset)
  | presence (found : Bool)
deriving DecidableEq

/-- The calls the mesh makes: a requester is called back, or the cache is informed. -/
inductive MeshOutput
  | answer (search : ℕ) (answer : SearchAnswer)
  | inform (asset : Asset)
deriving DecidableEq

structure MeshStorageBackend where
  servers : ℕ → MeshServer ℕ := fun _ => {}
  running : Option ℕ := none
  telling : List (ℕ × Bool) := []
  searches : List AssetSearch := []
  outputs : List MeshOutput := []

namespace MeshStorageBackend

/-! ### Searches -/

def setServer (b : MeshStorageBackend) (m : ℕ) (server : MeshServer ℕ) : MeshStorageBackend :=
  { b with servers := Function.update b.servers m server }

def modifySearch (b : MeshStorageBackend) (k : ℕ) (f : AssetSearch → AssetSearch) :
    MeshStorageBackend :=
  { b with searches := b.searches.modify k f }

def call (b : MeshStorageBackend) (output : MeshOutput) : MeshStorageBackend :=
  { b with outputs := b.outputs ++ [output] }

/-- `markSearchComplete`: the cache is told of what was found. -/
def searchComplete (b : MeshStorageBackend) (k : ℕ) : MeshStorageBackend :=
  let b := match b.searches[k]?.bind (·.foundAsset) with
    | some asset => b.call (.inform asset)
    | none       => b
  b.modifySearch k fun search => { search with isActive := false }

def generateNegativeResponse (b : MeshStorageBackend) (k : ℕ) (search : AssetSearch) :
    MeshStorageBackend :=
  b.call (.answer k (if search.isTest then .presence false else .asset none))

def cancelTimeoutTimer (b : MeshStorageBackend) (k : ℕ) : MeshStorageBackend :=
  b.modifySearch k fun search =>
    { search with timeoutTimer :=
        if search.timeoutTimer = .waiting then .cancelled else search.timeoutTimer }

def cancelRemainingServers (b : MeshStorageBackend) (k : ℕ) (uuid : ByteString)
    (queriedServers : List ℕ) : MeshStorageBackend :=
  let b := queriedServers.foldl
    (fun b m => b.setServer m ((b.servers m).cancelSearch uuid k)) b
  b.modifySearch k fun search => { search with queriedServers := [] }

/-- `onSearchResult`, called by the server `m`. -/
def onSearchResult (b : MeshStorageBackend) (k m : ℕ) (found : Bool) : MeshStorageBackend :=
  match b.searches[k]? with
  | none => b
  | some search =>
    let remaining := search.queriedServers.filter (· ≠ m)
    let b := b.modifySearch k fun search => { search with queriedServers := remaining }
    if found then
      let b := (b.cancelTimeoutTimer k).cancelRemainingServers k search.uuid remaining
      if search.isTest then (b.call (.answer k (.presence true))).searchComplete k
      else
        let b := b.modifySearch k fun search => { search with wasFound := true }
        b.setServer m ((b.servers m).getAsset search.uuid k)
    else if remaining.isEmpty then
      ((b.cancelTimeoutTimer k).generateNegativeResponse k search).searchComplete k
    else b

/-- `onTimeout` without an error. -/
def onTimeout (b : MeshStorageBackend) (k : ℕ) : MeshStorageBackend :=
  match b.searches[k]? with
  | none => b
  | some search =>
    if !search.wasFound then
      ((b.cancelRemainingServers k search.uuid search.queriedServers).generateNegativeResponse k
        search).searchComplete k
    else b

def onFullAssetRcvd (b : MeshStorageBackend) (k : ℕ) (asset : Option Asset) : MeshStorageBackend :=
  match b.searches[k]? with
  | none => b
  | some search =>
    let b := if search.isTest then b else
      (b.modifySearch k fun search => { search with foundAsset := asset }).call
        (.answer k (.asset asset))
    b.searchComplete k

/-- `performSearch` over the servers that are neither timed out nor unreadable. -/
def performSearch (b : MeshStorageBackend) (k : ℕ) (search : AssetSearch) (ready : List ℕ) :
    MeshStorageBackend :=
  let b := ready.foldl (fun b m => b.setServer m ((b.servers m).search search.uuid k)) b
  if ready.isEmpty then (b.generateNegativeResponse k search).searchComplete k
  else b.modifySearch k fun search =>
    { search with queriedServers := ready, timeoutTimer := .waiting }

/-- `getAsset` and `assetExists`. -/
def startSearch (b : MeshStorageBackend) (uuid : ByteString) (isTest : Bool) (ready : List ℕ) :
    MeshStorageBackend :=
  let search : AssetSearch := { uuid := uuid, isTest := isTest }
  { b with searches := b.searches ++ [search] }.performSearch b.searches.length search ready

/-! ### The io thread -/

/-- The server `m` has made a step; a callback of a get that it ran is `onFullAssetRcvd`. -/
def advance (b : MeshStorageBackend) (m : ℕ) (server : MeshServer ℕ) : MeshStorageBackend :=
  let called := server.invoked.drop (b.servers m).invoked.length
  let b := { b.setServer m server with running := if server.running.isEmpty then none else some m }
  called.foldl (fun b p => b.onFullAssetRcvd p.1.callback p.2) b

/-- The searches that the next frame of a server tells, and what. -/
def toTell (server : MeshServer ℕ) : List (ℕ × Bool) :=
  match server.running with
  | .other (.postResponse uuid found) :: _ => (server.searchesFor uuid).map (·, found)
  | .other .killSearches :: _ => server.currentSearches.flatMap fun e => e.2.map (·, false)
  | _ => []

/-- The io thread is between two handlers. -/
def idle (b : MeshStorageBackend) : Bool := b.running.isNone && b.telling.isEmpty

/-- What may happen to a server apart from searches: they alone get, search and cancel. It is
connected once. -/
def allows (server : MeshServer ℕ) : MeshServer.Event ℕ → Bool
  | .getAsset _ _ | .search _ _ | .cancelSearch _ _ | .resume => false
  | .connect =>
    server.numConnectResultsRcvd = 0 && !server.assetConnecting && !server.queryConnecting
  | _ => true

/-- The server is among the `_remoteServers` and has its asset connection, without which it counts
as timed out. -/
def isConnected (server : MeshServer ℕ) : Bool :=
  server.numConnectResultsRcvd = MeshServer.TOTAL_CONNECTION_COUNT && server.established &&
    server.queryConnectionEstablished

inductive Event
  | start (uuid : ByteString) (isTest : Bool) (ready : List ℕ)
  | server (m : ℕ) (event : MeshServer.Event ℕ)
  | resume
  | tell
  | expire (k : ℕ)
  | timeout (k : ℕ)

def step (b : MeshStorageBackend) : Event → Option MeshStorageBackend
  | .start uuid isTest ready =>
    if b.idle ∧ ready.Nodup ∧ ∀ m ∈ ready, isConnected (b.servers m) then
      some (b.startSearch uuid isTest ready)
    else none
  | .server m event =>
    if b.idle && allows (b.servers m) event then ((b.servers m).step event).map (b.advance m)
    else none
  | .resume =>
    match b.running, b.telling with
    | some m, [] =>
      ((b.servers m).step .resume).map
        ({ b with telling := toTell (b.servers m) }.advance m)
    | _, _ => none
  | .tell =>
    match b.running, b.telling with
    | some m, (k, found) :: rest =>
      let b := { b with telling := rest }
      -- the server keeps a weak pointer
      some (if b.searches[k]?.any (·.isActive) then b.onSearchResult k m found else b)
    | _, _ => none
  | .expire k =>
    if b.searches[k]?.any (·.timeoutTimer = .waiting) then
      some (b.modifySearch k fun search => { search with timeoutTimer := .queued })
    else none
  | .timeout k =>
    if b.idle && b.searches[k]?.any (·.timeoutTimer = .queued) then
      some ((b.modifySearch k fun search => { search with timeoutTimer := .ran }).onTimeout k)
    else none

variable {b b' : MeshStorageBackend}

lemma step_server {m : ℕ} {e : MeshServer.Event ℕ} (h : b.step (.server m e) = some b') :
    b.running = none ∧ b.telling = [] ∧ allows (b.servers m) e = true ∧
      ∃ server, (b.servers m).step e = some server ∧ b' = b.advance m server := by
  obtain ⟨hcond, h⟩ := Option.ite_none_right_eq_some.mp h
  obtain ⟨server, hserver, hb'⟩ := Option.map_eq_some_iff.mp h
  simp only [idle, Bool.and_eq_true, Option.isNone_iff_eq_none, List.isEmpty_iff] at hcond
  exact ⟨hcond.1.1, hcond.1.2, hcond.2, server, hserver, hb'.symm⟩

lemma step_resume (h : b.step .resume = some b') :
    ∃ m server, b.running = some m ∧ b.telling = [] ∧
      (b.servers m).step .resume = some server ∧
      b' = { b with telling := toTell (b.servers m) }.advance m server := by
  simp only [step] at h
  split at h
  case h_1 m hrunning htelling =>
    obtain ⟨server, hserver, hb'⟩ := Option.map_eq_some_iff.mp h
    exact ⟨m, server, hrunning, htelling, hserver, hb'.symm⟩
  case h_2 => cases h

lemma step_tell (h : b.step .tell = some b') :
    ∃ m k found rest, b.running = some m ∧ b.telling = (k, found) :: rest ∧
      b' = if b.searches[k]?.any (·.isActive) then
        { b with telling := rest }.onSearchResult k m found else { b with telling := rest } := by
  simp only [step] at h
  split at h
  case h_1 m k found rest hrunning htelling =>
    exact ⟨m, k, found, rest, hrunning, htelling, (Option.some.inj h).symm⟩
  case h_2 => cases h

end MeshStorageBackend

end Whip
