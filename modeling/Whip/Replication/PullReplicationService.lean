import Whip.Net.RemoteAssetService
import Whip.Storage.Backend

/-!
# Pull replication

`PullReplicationService` copies the global assets of its master: it asks for the identifiers of one
prefix after the other, and gets the assets that it has not got in batches. Between two rounds, and
while it has no master, it waits.

All handlers run on the thread of the service. They hand over to each other by calling `runStep`, by
setting a timer, or by returning while a request is unanswered.
-/

namespace Whip

/-- An address and a port. Addresses are those of IPv4; `from_string` takes those of IPv6 too. -/
structure Endpoint where
  address : UInt32
  port : UInt16
deriving DecidableEq

/-- A `deadline_timer` with a handler that does not look at the error. A wait that is cancelled, by
setting the timer again, queues its handler all the same. -/
structure DeadlineTimer where
  armed : Bool := false
  queued : ℕ := 0
deriving DecidableEq

namespace DeadlineTimer

/-- `expires_from_now` and `async_wait`. -/
def set (t : DeadlineTimer) : DeadlineTimer where
  armed := true
  queued := if t.armed then t.queued + 1 else t.queued

def expire (t : DeadlineTimer) : Option DeadlineTimer :=
  if t.armed then some { armed := false, queued := t.queued + 1 } else none

/-- A queued handler is taken out. -/
def run (t : DeadlineTimer) : Option DeadlineTimer :=
  if 0 < t.queued then some { t with queued := t.queued - 1 } else none

/-- The waits that have yet to run their handler. -/
def waits (t : DeadlineTimer) : ℕ := t.queued + if t.armed then 1 else 0

end DeadlineTimer

namespace PullReplicationService

inductive ReplicateStep
  | none
  | idList
  | retrieve
  | wait
  | noMaster
deriving DecidableEq

/-- The callbacks that are bound to requests. -/
inductive Callback
  | onGetStoredAssetIds
  | onAssetRetrieved (assetId : ByteString)
deriving DecidableEq

/-- The service that `_assetSvc` points to. -/
structure AssetSvc where
  endpoint : Endpoint
  service : RemoteAssetService Callback

end PullReplicationService

open PullReplicationService in
/-- The first three fields are settings, `due` says that `_nextReplStart` has been reached. `stores`
are the identifiers of the assets whose store has not been completed, `orphans` the callbacks that
were posted by services that are gone, and `dials` the calls of `connect`, each with the endpoint
that is connected to and the master at the time. -/
structure PullReplicationService where
  replicationMaster : Option Endpoint
  startAt : Fin 4096
  batchSize : ℕ
  due : Bool := false
  existenceIndex : List Uuid := []
  replicationMasterEndpoint : Endpoint
  assetSvc : Option AssetSvc := none
  connected : Bool := false
  reconnectTimer : DeadlineTimer := {}
  replRestartTimer : DeadlineTimer := {}
  currentStep : ReplicateStep := .none
  currentAssetPrefix : ℕ := 0
  pendingAssets : List ByteString := []
  inProgressAssets : List ByteString := []
  stores : List ByteString := []
  orphans : List (PendingTransferRequest Callback × RASResponse) := []
  dials : List (Endpoint × Endpoint) := []

namespace PullReplicationService

/-! ### The connection -/

def setReplicationRestartTimer (s : PullReplicationService) : PullReplicationService :=
  { s with replRestartTimer := s.replRestartTimer.set }

/-- Something is done to the asset service; `none` where there is none. -/
def callSvc (s : PullReplicationService)
    (f : RemoteAssetService Callback → RemoteAssetService Callback) :
    Option PullReplicationService :=
  s.assetSvc.map fun svc => { s with assetSvc := some { svc with service := f svc.service } }

/-- The last part of `verifyConnection`: create the service and connect it, where this is needed. -/
def ensureConnection (s : PullReplicationService) : PullReplicationService × Bool :=
  let svc := s.assetSvc.getD ⟨s.replicationMasterEndpoint, { hasSafeKillCallback := true }⟩
  if s.connected then ({ s with assetSvc := some svc }, true)
  else
    ({ s with
      assetSvc := some { svc with service := { svc.service with connecting := true } }
      dials := s.dials ++ [(svc.endpoint, s.replicationMasterEndpoint)] }, false)

/-- The steps in which the settings are looked at. -/
def ReplicateStep.readsMaster : ReplicateStep → Bool
  | none | wait | noMaster => true
  | idList | retrieve      => false

/-- A new master is taken from the settings. -/
def adopt (s : PullReplicationService) (ep : Endpoint) : PullReplicationService :=
  { s with currentStep := .none, replicationMasterEndpoint := ep }

/-- What `close` calls back comes after this; it does not look at the timers, which are all that is
touched meanwhile. -/
def verifyConnection (s : PullReplicationService) : Option (PullReplicationService × Bool) :=
  if s.currentStep.readsMaster then
    match s.replicationMaster with
    | some ep =>
      if ep ≠ s.replicationMasterEndpoint then
        if s.assetSvc.isSome && s.connected then ((s.adopt ep).callSvc (·.close)).map (·, false)
        else some (s.adopt ep).ensureConnection
      else some s.ensureConnection
    | none =>
      if s.currentStep ≠ .noMaster then
        ({ s with currentStep := .noMaster }.callSvc (·.close)).map (·, true)
      else some (s, true)
  else some s.ensureConnection

/-! ### Steps

`again` stands for `runStep`. -/

section Steps

variable (again : PullReplicationService → Option PullReplicationService)

def checkResumeNextReplRound (s : PullReplicationService) : Option PullReplicationService :=
  if s.due then again { s with currentStep := .none } else some s.setReplicationRestartTimer

def getStringPrefixForIndex (s : PullReplicationService) : ByteString :=
  VFSBackend.hexHead s.currentAssetPrefix

def retrieveIdListForPrefix (s : PullReplicationService) : Option PullReplicationService :=
  s.callSvc (·.getStoredAssetIDsWithPrefix s.getStringPrefixForIndex .onGetStoredAssetIds)

def retrieveNextIdList (s : PullReplicationService) : Option PullReplicationService :=
  if s.currentAssetPrefix + 1 ≤ 0xfff then
    again { s with currentStep := .idList, currentAssetPrefix := s.currentAssetPrefix + 1 }
  else
    some { s with currentAssetPrefix := 0, currentStep := .wait }.setReplicationRestartTimer

/-- The loop over the pending assets, when `sent` requests have been sent: the assets to request,
and the ones that remain pending. -/
def nextBatch (index : List Uuid) (batchSize : ℕ) :
    ℕ → List ByteString → List ByteString × List ByteString
  | _, [] => ([], [])
  | sent, nextAsset :: rest =>
    if ExistenceIndex.assetExists index nextAsset then nextBatch index batchSize sent rest
    else if sent + 1 = batchSize then ([nextAsset], rest)
    else
      let batch := nextBatch index batchSize (sent + 1) rest
      (nextAsset :: batch.1, batch.2)

def retrieveNextMissingAssetBatch (s : PullReplicationService) : Option PullReplicationService :=
  let batch := nextBatch s.existenceIndex s.batchSize 0 s.pendingAssets
  let s := { s with pendingAssets := batch.2 }
  if batch.1.isEmpty then s.retrieveNextIdList again
  else
    { s with inProgressAssets :=
      batch.1.foldl (fun ids id => ids.insert id) s.inProgressAssets }.callSvc
      fun service => batch.1.foldl
        (fun service id => service.getAsset id false (.onAssetRetrieved id))
        service

def replicateStep (s : PullReplicationService) : Option PullReplicationService :=
  match s.currentStep with
  | .none     => { s with currentAssetPrefix := s.startAt }.retrieveIdListForPrefix
  | .idList   => s.retrieveIdListForPrefix
  | .retrieve => s.retrieveNextMissingAssetBatch again
  | .wait     => s.checkResumeNextReplRound again
  | .noMaster => some s.setReplicationRestartTimer

end Steps

/-- `runStep`, with a bound on how deep its calls are nested. -/
def runStepWithin : ℕ → PullReplicationService → Option PullReplicationService
  | 0, _         => none
  | depth + 1, s =>
    match s.verifyConnection with
    | none            => none
    | some (s, false) => some s
    | some (s, true)  => s.replicateStep (runStepWithin depth)

/-- A step calls `runStep` at most once more, for a listing. -/
def runStep (s : PullReplicationService) : Option PullReplicationService := s.runStepWithin 2

/-! ### Handlers -/

def onServiceConnectionStatus (s : PullReplicationService) (success : Bool) :
    Option PullReplicationService :=
  if !success then some { s with reconnectTimer := s.reconnectTimer.set }
  else { s with connected := true }.runStep

/-- `boost::split` at commas. -/
def splitIds (ids : ByteString) : List ByteString := ids.splitOn 44

def onGetStoredAssetIds (s : PullReplicationService) (response : RASResponse) :
    Option PullReplicationService :=
  if !s.connected then some s
  else if !response.isError then
    if response.message = [] then s.retrieveNextIdList runStep
    else if (splitIds response.message).any fun id => id ≠ [] ∧ ¬ ExistenceIndex.parses id then
      -- the constructor of `uuid_t` throws in `assetExists`, and the exception leaves `run`
      none
    else
      let pending := (splitIds response.message).filter fun id =>
        id ≠ [] ∧ ¬ ExistenceIndex.assetExists s.existenceIndex id
      let s := { s with pendingAssets := pending }
      if pending.isEmpty then s.retrieveNextIdList runStep
      else { s with currentStep := .retrieve }.runStep
  else if !response.isFatal then s.runStep
  else some s

/-- The storage claims the identifier of a new asset at once; `none` for a null asset. -/
def onAssetRetrieved (s : PullReplicationService) (response : RASResponse) (assetId : ByteString) :
    Option PullReplicationService :=
  if !s.connected then some s
  else if response.isError then
    let s := { s with inProgressAssets := s.inProgressAssets.erase assetId }
    if !response.isFatal && s.inProgressAssets.isEmpty then s.runStep else some s
  else
    match response.asset with
    | none => none
    | some asset =>
      some { s with
        existenceIndex :=
          if ExistenceIndex.assetExists s.existenceIndex asset.getUUID then s.existenceIndex
          else ExistenceIndex.addNewId s.existenceIndex asset.getUUID
        stores := s.stores ++ [assetId] }

def onAfterAssetStored (s : PullReplicationService) (assetId : ByteString) :
    Option PullReplicationService :=
  let s := { s with inProgressAssets := s.inProgressAssets.erase assetId }
  if s.inProgressAssets.isEmpty then s.runStep else some s

/-- `onServerConnectionFailed`. -/
def onServerConnectionFailed (s : PullReplicationService) : Option PullReplicationService :=
  if s.connected then
    let s := { s with
      connected := false
      orphans := s.orphans ++ s.assetSvc.elim [] (·.service.posted)
      assetSvc := none }
    if s.inProgressAssets.isEmpty && s.currentStep ≠ .noMaster && s.currentStep ≠ .wait then
      s.runStep
    else if s.currentStep = .noMaster then some s.setReplicationRestartTimer
    else some s
  else some s

/-- A callback of a request. -/
def onResponse (s : PullReplicationService)
    (p : PendingTransferRequest Callback × RASResponse) : Option PullReplicationService :=
  match p.1.callback with
  | .onGetStoredAssetIds      => s.onGetStoredAssetIds p.2
  | .onAssetRetrieved assetId => s.onAssetRetrieved p.2 assetId

/-! ### The service as a machine -/

/-- The asset service is destroyed when its safe-kill callback returns, so nothing of it may be left
to be done; what follows a connect callback does nothing without a connection. -/
def isThrough (service : RemoteAssetService Callback) : Bool :=
  service.running = [] || service.running = [.callback, .other .listenIfConnected]

/-- The asset service has made a step. -/
def advance (s : PullReplicationService) (svc : AssetSvc) (service : RemoteAssetService Callback) :
    Option PullReplicationService :=
  let called := service.invoked.drop svc.service.invoked.length
  let s := { s with assetSvc := some { svc with service := service } }
  if svc.service.safeKills < service.safeKills then
    if !s.connected || isThrough service then s.onServerConnectionFailed else none
  else called.foldlM onResponse s

/-- What may happen to the asset service apart from calls of the replication. -/
def serviceStep (s : PullReplicationService) (e : RemoteAssetService.Event Callback) :
    Option PullReplicationService :=
  match s.assetSvc with
  | none => none
  | some svc =>
    match e, svc.service.step e with
    | .connected success, some service =>
      { s with assetSvc := some { svc with service := service } }.onServiceConnectionStatus success
    | .written _, some service | .read _, some service | .runPosted _, some service
    | .resume, some service => s.advance svc service
    | _, _ => none

/-- The thread is between two handlers. -/
def idle (s : PullReplicationService) : Bool := s.assetSvc.all (·.service.running.isEmpty)

inductive Event
  | setMaster (replicationMaster : Option Endpoint)
  | setIndex (existenceIndex : List Uuid)
  | clock (due : Bool)
  | expireReconnect
  | expireRestart
  | reconnect
  | restart
  | service (event : RemoteAssetService.Event Callback)
  | orphan (i : ℕ)
  | stored (i : ℕ)

def step (s : PullReplicationService) : Event → Option PullReplicationService
  | .setMaster master => some { s with replicationMaster := master }
  | .setIndex index   => some { s with existenceIndex := index }
  | .clock due        => some { s with due := due }
  | .expireReconnect  => s.reconnectTimer.expire.map fun t => { s with reconnectTimer := t }
  | .expireRestart    => s.replRestartTimer.expire.map fun t => { s with replRestartTimer := t }
  | .reconnect =>
    if s.idle then
      s.reconnectTimer.run.bind fun t =>
        (verifyConnection { s with reconnectTimer := t }).map Prod.fst
    else none
  | .restart =>
    if s.idle then s.replRestartTimer.run.bind fun t => { s with replRestartTimer := t }.runStep
    else none
  | .service e => s.serviceStep e
  | .orphan i =>
    match s.orphans[i]? with
    | none   => none
    | some p => if s.idle then { s with orphans := s.orphans.eraseIdx i }.onResponse p else none
  | .stored i =>
    match s.stores[i]? with
    | none         => none
    | some assetId =>
      if s.idle then { s with stores := s.stores.eraseIdx i }.onAfterAssetStored assetId else none

/-! ### What verifying the connection does -/

inductive Verified (s : PullReplicationService) : PullReplicationService → Bool → Prop
  | checked (same : s.currentStep.readsMaster = true →
      s.replicationMaster = some s.replicationMasterEndpoint) :
      Verified s s.ensureConnection.1 s.ensureConnection.2
  | adopted (ep : Endpoint) (reads : s.currentStep.readsMaster = true)
      (master : s.replicationMaster = some ep) (changed : ep ≠ s.replicationMasterEndpoint)
      (unconnected : (s.assetSvc.isSome && s.connected) = false) :
      Verified s (s.adopt ep).ensureConnection.1 (s.adopt ep).ensureConnection.2
  | closed {s' : PullReplicationService} (ep : Endpoint) (reads : s.currentStep.readsMaster = true)
      (master : s.replicationMaster = some ep) (changed : ep ≠ s.replicationMasterEndpoint)
      (connected : s.connected = true) (call : (s.adopt ep).callSvc (·.close) = some s') :
      Verified s s' false
  | lost {s' : PullReplicationService} (reads : s.currentStep.readsMaster = true)
      (master : s.replicationMaster = none) (step : s.currentStep ≠ .noMaster)
      (call : { s with currentStep := .noMaster }.callSvc (·.close) = some s') : Verified s s' true
  | masterless (master : s.replicationMaster = none) (step : s.currentStep = .noMaster) :
      Verified s s true

lemma verified {s s' : PullReplicationService} {ok : Bool}
    (h : s.verifyConnection = some (s', ok)) : Verified s s' ok := by
  have hensure {s₁ : PullReplicationService} (h : some s₁.ensureConnection = some (s', ok)) :
      s' = s₁.ensureConnection.1 ∧ ok = s₁.ensureConnection.2 := by
    rw [Option.some.inj h]
    exact ⟨rfl, rfl⟩
  unfold verifyConnection at h
  split at h
  · next hreads =>
    split at h
    · next ep hmaster =>
      split at h
      · next hne =>
        split at h
        · next hclose =>
          obtain ⟨s₁, hs₁, heq⟩ := Option.map_eq_some_iff.mp h
          cases heq
          exact .closed ep hreads hmaster hne (Bool.and_eq_true_iff.mp hclose).2 hs₁
        · next hopen =>
          obtain ⟨rfl, rfl⟩ := hensure h
          exact .adopted ep hreads hmaster hne (Bool.eq_false_iff.mpr hopen)
      · next hsame =>
        obtain ⟨rfl, rfl⟩ := hensure h
        exact .checked fun _ => by rw [hmaster, not_not.mp hsame]
    · next hmaster =>
      split at h
      · next hstep =>
        obtain ⟨s₁, hs₁, heq⟩ := Option.map_eq_some_iff.mp h
        cases heq
        exact .lost hreads hmaster hstep hs₁
      · next hstep =>
        cases h
        exact .masterless hmaster (not_not.mp hstep)
  · next hreads =>
    obtain ⟨rfl, rfl⟩ := hensure h
    exact .checked fun hr => absurd hr hreads

/-- The step is the one before, unless the master has changed. -/
lemma Verified.currentStep {s s' : PullReplicationService} {ok : Bool} (h : Verified s s' ok) :
    s'.currentStep = s.currentStep ∨ s'.currentStep = .none ∨ s'.currentStep = .noMaster := by
  have hensure (s₁ : PullReplicationService) :
      s₁.ensureConnection.1.currentStep = s₁.currentStep := by
    simp only [ensureConnection]
    split_ifs <;> rfl
  cases h with
  | checked same => exact .inl (hensure s)
  | adopted ep reads master changed unconnected => exact .inr (.inl (hensure _))
  | closed ep reads master changed connected call =>
    obtain ⟨svc, -, rfl⟩ := Option.map_eq_some_iff.mp call
    exact .inr (.inl rfl)
  | lost reads master step call =>
    obtain ⟨svc, -, rfl⟩ := Option.map_eq_some_iff.mp call
    exact .inr (.inr rfl)
  | masterless master step => exact .inl rfl

/-- A listing is asked for without another call of `runStep`. -/
lemma runStepWithin_of_listing {s : PullReplicationService}
    (hs : s.currentStep = .none ∨ s.currentStep = .idList) (depth : ℕ) :
    s.runStepWithin (depth + 1) = s.runStepWithin 1 := by
  simp only [runStepWithin]
  split
  · rfl
  · rfl
  · next s' hverify =>
    have hstep : s'.currentStep = .none ∨ s'.currentStep = .idList ∨
        s'.currentStep = .noMaster := by
      rcases (verified hverify).currentStep with h | h | h
      · exact (h ▸ hs).imp_right .inl
      · exact .inl h
      · exact .inr (.inr h)
    rcases hstep with h | h | h <;> simp only [replicateStep, h]

/-- The bound on the depth is never reached. -/
lemma runStepWithin_eq_runStep (s : PullReplicationService) (depth : ℕ) :
    s.runStepWithin (depth + 2) = s.runStep := by
  have hnext (s : PullReplicationService) : s.retrieveNextIdList (runStepWithin (depth + 1)) =
      s.retrieveNextIdList (runStepWithin 1) := by
    simp only [retrieveNextIdList]
    split_ifs
    · exact runStepWithin_of_listing (.inr rfl) depth
    · rfl
  rw [runStep, runStepWithin, runStepWithin]
  split
  · rfl
  · rfl
  · next s' _ =>
    unfold replicateStep
    split
    · rfl
    · rfl
    · simp only [retrieveNextMissingAssetBatch, hnext]
    · unfold checkResumeNextReplRound
      split_ifs
      · exact runStepWithin_of_listing (.inl rfl) depth
      · rfl
    · rfl

/-- The state when the service's thread is started. -/
def new (replicationMaster : Option Endpoint) (startAt : Fin 4096) (batchSize : ℕ)
    (existenceIndex : List Uuid) (master : Endpoint) : PullReplicationService where
  replicationMaster := replicationMaster
  startAt := startAt
  batchSize := batchSize
  existenceIndex := existenceIndex
  replicationMasterEndpoint := master

end PullReplicationService

end Whip
