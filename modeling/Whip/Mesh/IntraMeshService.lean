import Whip.Mesh.SafeKill
import Whip.Replication.PullReplicationService
import Whip.Server.Settings

/-!
# The servers of the mesh service

`IntraMeshService` connects to the peers in its settings. A server is pending while it connects, and
then among the remote servers until it can be destroyed, or among those that failed to connect. Both
maps have the query endpoint as their key, and entries are removed by key. Every server is in here
from its creation on, under its position, also after the service has let go of it: a search may hold
it still.

All handlers run on one io thread, so at any time at most one server is in the middle of a handler.
-/

namespace Whip

open Pipelined

/-- The two functions of the service that a server may be told to call when it is idle. -/
inductive SafeKillCallback
  | onSafeToKill
  | onConnectFailedSafekill
deriving DecidableEq

/-- A `MeshServer` with its endpoints, its sockets and its callback. -/
structure MeshPeer where
  queryEndpoint : Endpoint
  assetEndpoint : Endpoint
  session : MeshSession ℕ := {}
  safeKillCallback : Option SafeKillCallback := none

namespace MeshPeer

/-- `connect`, right after the construction. -/
def connect (p : MeshPeer) : MeshPeer :=
  { p with session.server.assetConnecting := true, session.server.queryConnecting := true }

def registerSafeKillCallback (p : MeshPeer) (callback : SafeKillCallback) : MeshPeer :=
  { p with
    safeKillCallback := some callback
    session.server.hasSafeKillCallback := true }

def close (p : MeshPeer) : MeshPeer := { p with session.server := p.session.server.close }

/-- Both connections have been tried. -/
def attempted (t : MeshSession ℕ) : Bool :=
  t.server.numConnectResultsRcvd = MeshServer.TOTAL_CONNECTION_COUNT

/-- What the connect callback is told. -/
def connectSuccess (t : MeshSession ℕ) : Bool :=
  t.server.queryConnectionEstablished && t.server.established

end MeshPeer

/-- `completing` says that `onConnectAttemptCompleted` has called `close` on the running server and
has yet to go on. -/
structure IntraMeshService where
  servers : List MeshPeer := []
  remoteServers : Endpoint → Option ℕ := fun _ => none
  pendingServerConnections : Endpoint → Option ℕ := fun _ => none
  connectFailedServers : List ℕ := []
  running : Option ℕ := none
  completing : Bool := false

namespace IntraMeshService

/-- The server `m` has been created, and `p` is what has become of it. -/
def Has (v : IntraMeshService) (m : ℕ) (p : MeshPeer) : Prop := v.servers[m]? = some p

/-! ### Heartbeats -/

def connectionIsPending (v : IntraMeshService) (ep : Endpoint) : Bool :=
  (v.pendingServerConnections ep).isSome

def connectToMeshServer (v : IntraMeshService) (queryEndPoint : Endpoint)
    (peer : IntraMeshPeerEntry) : IntraMeshService :=
  if !v.connectionIsPending queryEndPoint then
    let assetEndPoint : Endpoint := { queryEndPoint with port := peer.assetServicePort }
    let newMeshServer : MeshPeer :=
      { queryEndpoint := queryEndPoint, assetEndpoint := assetEndPoint }
    { v with
      servers := v.servers ++ [newMeshServer.connect]
      pendingServerConnections :=
        Function.update v.pendingServerConnections queryEndPoint (some v.servers.length) }
  else v

/-- One round of the loop of `doHeartBeat`. -/
def visitPeer (v : IntraMeshService) (queryEndPoint : Endpoint) (peer : IntraMeshPeerEntry) :
    IntraMeshService :=
  if (v.remoteServers queryEndPoint).isNone then v.connectToMeshServer queryEndPoint peer else v

/-- `doHeartBeat` over the peers in the settings, where `fromString` is `address::from_string`. A
host that is not an address throws, and `onHeartBeat` gives up. -/
def doHeartBeat (fromString : String → Option UInt32) (v : IntraMeshService) :
    List IntraMeshPeerEntry → IntraMeshService
  | [] => v
  | peer :: peers =>
    match fromString peer.host with
    | none         => v
    | some address => doHeartBeat fromString (v.visitPeer ⟨address, peer.intraMeshPort⟩ peer) peers

/-! ### Callbacks of the servers -/

def setServer (v : IntraMeshService) (m : ℕ) (p : MeshPeer) : IntraMeshService :=
  { v with servers := v.servers.set m p }

def onSafeToKill (v : IntraMeshService) (p : MeshPeer) : IntraMeshService :=
  { v with remoteServers := Function.update v.remoteServers p.queryEndpoint none }

def onConnectFailedSafekill (v : IntraMeshService) (m : ℕ) : IntraMeshService :=
  { v with connectFailedServers := v.connectFailedServers.filter (· ≠ m) }

/-- `_safeKillCallback(shared_from_this())`. -/
def safeKill (v : IntraMeshService) (m : ℕ) (p : MeshPeer) : IntraMeshService :=
  match p.safeKillCallback with
  | some .onSafeToKill            => v.onSafeToKill p
  | some .onConnectFailedSafekill => v.onConnectFailedSafekill m
  | none                          => v

def erasePending (v : IntraMeshService) (ep : Endpoint) : IntraMeshService :=
  { v with pendingServerConnections := Function.update v.pendingServerConnections ep none }

/-- `onConnectAttemptCompleted`; after a failure it goes on when `close` returns. -/
def onConnectAttemptCompleted (v : IntraMeshService) (m : ℕ) (p : MeshPeer) (success : Bool) :
    IntraMeshService :=
  if success then
    let v := { v with remoteServers := Function.update v.remoteServers p.queryEndpoint (some m) }
    (v.setServer m (p.registerSafeKillCallback .onSafeToKill)).erasePending p.queryEndpoint
  else
    let v := { v with connectFailedServers := v.connectFailedServers ++ [m], completing := true }
    v.setServer m (p.registerSafeKillCallback .onConnectFailedSafekill).close

/-! ### The service as a machine -/

/-- A search is told that the asset was found: only then does it get the asset, from the server that
tells it. -/
def tellsFound (s : MeshServer ℕ) : Bool :=
  match s.running with
  | .other (.postResponse _ true) :: _ => true
  | _ => false

/-- Searches are begun and cancelled by code that runs elsewhere, too. A handler of a server begins
between handlers and goes on until it is done. -/
def allows (v : IntraMeshService) (m : ℕ) (s : MeshServer ℕ) : MeshSession.Event ℕ → Bool
  | .call (.search _ _) | .call (.cancelSearch _ _) => true
  | .call (.getAsset _ _) => tellsFound s
  | .call .resume => v.running = some m
  | .call .connect | .call .registerSafeKillCallback | .call .close => false
  | _ => v.running.isNone

/-- The server `m` has made a step. When its stack is empty, the connect callback that closed it has
returned to `onConnectAttemptCompleted`, which goes on. -/
def resumed (v : IntraMeshService) (m : ℕ) (p : MeshPeer) (t : MeshSession ℕ) : IntraMeshService :=
  let v' := v.setServer m { p with session := t }
  if !t.server.running.isEmpty then { v' with running := some m }
  else if v.running = some m then
    let v' := { v' with running := none }
    if v.completing then { v'.erasePending p.queryEndpoint with completing := false } else v'
  else v'

/-- In the step the server may have called its safe-kill callback or its connect callback. -/
def advance (v : IntraMeshService) (m : ℕ) (p : MeshPeer) (t : MeshSession ℕ) : IntraMeshService :=
  let p' := { p with session := t }
  if t.server.safeKills ≠ p.session.server.safeKills then (v.resumed m p t).safeKill m p'
  else if !MeshPeer.attempted p.session && MeshPeer.attempted t then
    (v.resumed m p t).onConnectAttemptCompleted m p' (MeshPeer.connectSuccess t)
  else v.resumed m p t

inductive Event
  | heartBeat (peers : List IntraMeshPeerEntry)
  | server (m : ℕ) (event : MeshSession.Event ℕ)

def step (fromString : String → Option UInt32) (v : IntraMeshService) :
    Event → Option IntraMeshService
  | .heartBeat peers => if v.running.isNone then some (v.doHeartBeat fromString peers) else none
  | .server m event =>
    match v.servers[m]? with
    | none   => none
    | some p =>
      if v.allows m p.session.server event then (p.session.step event).map (v.advance m p) else none

end IntraMeshService

end Whip
