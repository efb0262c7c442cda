import Whip.Replication.PullReplicationService
import Whip.Lib.SendQueue

/-!
# Push replication

`PushReplicationService` passes the assets that its server has written on to a slave. One asset is
put at a time; those that come meanwhile wait in a queue, and when more than `MAX_QUEUE_SIZE` wait
they are left to pull replication. All handlers run on the thread of the service. Of the remote
asset service only the calls it gets, which are noted, and its callbacks, which are events, appear
here.
-/

namespace Whip

namespace PushReplicationService

/-- A call of the `RemoteAssetService` that `_replSlave` points to. -/
inductive SlaveCall
  | connect (endpoint : Endpoint)
  | putAsset (asset : Asset)
  | close
deriving DecidableEq

/-- The safety net: with more assets than this waiting, new ones are rejected. -/
def MAX_QUEUE_SIZE : ℕ := 250

end PushReplicationService

open PushReplicationService in
/-- The flag `_sending`, the puts that have not been called back and `_waitingAssets` are the send
queue. -/
structure PushReplicationService extends SendQueue Asset where
  stop : Bool := false
  connected : Bool := false
  connectionMonitor : DeadlineTimer := {}
  replicationSlaveEndpoint : Endpoint := ⟨0, 0⟩
  slaveCalls : List SlaveCall := []

namespace PushReplicationService

/-! ### The connection -/

def callSlave (s : PushReplicationService) (call : SlaveCall) : PushReplicationService :=
  { s with slaveCalls := s.slaveCalls ++ [call] }

def resetConnectionMonitor (s : PushReplicationService) : PushReplicationService :=
  if s.stop then s else { s with connectionMonitor := s.connectionMonitor.set }

def makeConnection (s : PushReplicationService) : PushReplicationService :=
  s.callSlave (.connect s.replicationSlaveEndpoint)

def endpointChanged (s : PushReplicationService) (newEp : Endpoint) : PushReplicationService :=
  let s := { s with replicationSlaveEndpoint := newEp }
  if s.connected then (s.callSlave .close).resetConnectionMonitor else s.makeConnection

/-- The slave in the settings, `none` for the empty text. -/
def onCheckConnection (s : PushReplicationService) (replicationSlave : Option Endpoint) :
    PushReplicationService :=
  if s.stop then s
  else match replicationSlave with
    | some ep =>
      if ep ≠ s.replicationSlaveEndpoint then s.endpointChanged ep
      else if !s.connected then s.makeConnection
      else s.resetConnectionMonitor
    | none =>
      let s := if s.connected then s.callSlave .close else s
      s.resetConnectionMonitor

def onServiceConnectionStatus (s : PushReplicationService) (success : Bool) :
    PushReplicationService :=
  let s := if success then { s with connected := true } else s
  s.resetConnectionMonitor

/-- The connection is gone, and with it everything that waits. -/
def onSafeKillConnection (s : PushReplicationService) : PushReplicationService :=
  { s with connected := false, sendActive := false, pendingSends := [] }

def doStop (s : PushReplicationService) : PushReplicationService :=
  let s := { s with stop := true }
  if s.connected then s.callSlave .close else s

/-! ### Putting assets -/

def doPutAsset (s : PushReplicationService) (asset : Asset) : PushReplicationService :=
  if s.stop then s
  else { s.callSlave (.putAsset asset) with sendActive := true, sends := s.sends ++ [asset] }

/-- The test in front of the queue: more than `MAX_QUEUE_SIZE` assets wait already. -/
def full (s : PushReplicationService) : Bool := MAX_QUEUE_SIZE < s.pendingSends.length

def doQueueAssetForPush (s : PushReplicationService) (asset : Asset) : PushReplicationService :=
  if !s.connected || s.stop then s
  else if s.sendActive then
    if s.full then s else { s with pendingSends := s.pendingSends ++ [asset] }
  else s.doPutAsset asset

def pushNextWaitingAsset (s : PushReplicationService) : PushReplicationService :=
  if s.connected && !s.stop then
    match s.pendingSends with
    | []            => s
    | asset :: rest => { s with pendingSends := rest }.doPutAsset asset
  else s

/-- An error is logged only. -/
def onAfterAssetPut (s : PushReplicationService) : PushReplicationService :=
  { s with sendActive := false }.pushNextWaitingAsset

/-! ### The service as a machine -/

/-- The handlers of the service thread. The remote asset service calls a put back, with success or
an error, and may do so again when it is closed. -/
inductive Event
  | queueAssetForPush (asset : Asset)
  | assetPut (i : ℕ) (error : Bool)
  | assetPutAgain
  | connectionMonitorExpires
  | checkConnection (replicationSlave : Option Endpoint)
  | serviceConnectionStatus (success : Bool)
  | safeKillConnection
  | stop
deriving DecidableEq

def step (s : PushReplicationService) : Event → Option PushReplicationService
  | .queueAssetForPush asset => some (s.doQueueAssetForPush asset)
  | .assetPut i _ =>
    if i < s.sends.length then some { s with sends := s.sends.eraseIdx i }.onAfterAssetPut else none
  | .assetPutAgain => some s.onAfterAssetPut
  | .connectionMonitorExpires =>
    s.connectionMonitor.expire.map fun t => { s with connectionMonitor := t }
  | .checkConnection slave =>
    s.connectionMonitor.run.map fun t => { s with connectionMonitor := t }.onCheckConnection slave
  | .serviceConnectionStatus success => some (s.onServiceConnectionStatus success)
  | .safeKillConnection => some s.onSafeKillConnection
  | .stop => some s.doStop

/-- `start()` and the first lines of `run()`. -/
def start : PushReplicationService := resetConnectionMonitor {}

/-! ### The order of the puts -/

/-- Connected, not stopped, and nothing is put or waits. -/
structure Idle (s : PushReplicationService) : Prop where
  connected : s.connected = true
  stop : s.stop = false
  sendActive : s.sendActive = false
  sends : s.sends = []
  pendingSends : s.pendingSends = []

/-- Assets are queued and puts completed while the connection stays up. -/
def Event.pushes : Event → Bool
  | .queueAssetForPush _ | .assetPut _ _ => true
  | _ => false

/-- The asset that an event adds to those that are pushed: one that comes when the queue is full is
left out. -/
def admits (s : PushReplicationService) : Event → Option Asset
  | .queueAssetForPush asset => if s.full then none else some asset
  | _ => none

/-- The assets queued in a run, without those that came when the queue was full. -/
def admitted (s : PushReplicationService) (es : List Event) : List Asset :=
  Machine.trace step admits s es

/-- While it is connected, the service has handed over `handed` since the calls `past`, and what was
admitted since is handed over or waits. -/
structure Pushing (past : List SlaveCall) (taken : List Asset) (s : PushReplicationService) :
    Prop where
  connected : s.connected = true
  stop : s.stop = false
  single : s.toSendQueue.Single
  order : ∃ handed, s.slaveCalls = past ++ handed.map .putAsset ∧ taken = handed ++ s.pendingSends

variable {s t : PushReplicationService} {past : List SlaveCall} {taken : List Asset}

lemma Idle.pushing (h : Idle s) : Pushing s.slaveCalls [] s where
  connected := h.connected
  stop := h.stop
  single := ⟨by simp [h.sends, h.sendActive], fun _ => h.pendingSends⟩
  order := ⟨[], by simp, by simp [h.pendingSends]⟩

/-- A queue that is full has a put on its way. -/
lemma Pushing.sendActive_of_full (h : Pushing past taken s) (hfull : s.full = true) :
    s.sendActive = true := by
  by_contra hactive
  have hempty := h.single.pending (by simpa using hactive)
  simp [full, hempty] at hfull

section Queueing

variable (hup : s.connected = true) (hstop : s.stop = false) (asset : Asset)
include hup hstop

lemma doQueueAssetForPush_of_idle (hsend : s.sendActive = false) :
    s.doQueueAssetForPush asset =
      { s.callSlave (.putAsset asset) with sendActive := true, sends := s.sends ++ [asset] } := by
  unfold doQueueAssetForPush doPutAsset
  rw [if_neg (by simp [hup, hstop]), if_neg (by simp [hsend]), if_neg (by simp [hstop])]

lemma doQueueAssetForPush_of_full (hsend : s.sendActive = true) (hfull : s.full = true) :
    s.doQueueAssetForPush asset = s := by
  unfold doQueueAssetForPush
  rw [if_neg (by simp [hup, hstop]), if_pos hsend, if_pos hfull]

lemma doQueueAssetForPush_of_room (hsend : s.sendActive = true) (hfull : s.full = false) :
    s.doQueueAssetForPush asset = { s with pendingSends := s.pendingSends ++ [asset] } := by
  unfold doQueueAssetForPush
  rw [if_neg (by simp [hup, hstop]), if_pos hsend, if_neg (by simp [hfull])]

end Queueing

lemma Pushing.queue (h : Pushing past taken s) (asset : Asset) :
    Pushing past (taken ++ (s.admits (.queueAssetForPush asset)).toList)
      (s.doQueueAssetForPush asset) := by
  obtain ⟨handed, hcalls, htaken⟩ := h.order
  have hsingle := h.single.send asset
  unfold SendQueue.send at hsingle
  cases hsend : s.sendActive with
  | false =>
    have hfull : s.full = false := by
      by_contra hfull
      exact absurd (h.sendActive_of_full (by simpa using hfull)) (by simp [hsend])
    rw [if_pos (by simp [hsend])] at hsingle
    rw [doQueueAssetForPush_of_idle h.connected h.stop asset hsend]
    refine ⟨h.connected, h.stop, hsingle, handed ++ [asset], ?_, ?_⟩
    · simp [callSlave, hcalls]
    · simp [admits, hfull, htaken, callSlave, h.single.pending hsend]
  | true =>
    rw [if_neg (by simp [hsend])] at hsingle
    cases hfull : s.full with
    | true =>
      rw [doQueueAssetForPush_of_full h.connected h.stop asset hsend hfull]
      simpa [admits, hfull] using h
    | false =>
      rw [doQueueAssetForPush_of_room h.connected h.stop asset hsend hfull]
      exact ⟨h.connected, h.stop, hsingle, handed, hcalls, by simp [admits, hfull, htaken]⟩

/-- A put that is called back makes room for the next asset. -/
lemma Pushing.assetPut (h : Pushing past taken s) {i : ℕ} (hi : i < s.sends.length) :
    Pushing past taken { s with sends := s.sends.eraseIdx i }.onAfterAssetPut := by
  obtain ⟨handed, hcalls, htaken⟩ := h.order
  have hsingle := (h.single.next (List.getElem?_eq_getElem hi)).1
  unfold SendQueue.complete SendQueue.processQueuedSend at hsingle
  unfold onAfterAssetPut pushNextWaitingAsset
  rw [if_pos (by simp [h.connected, h.stop])]
  cases hpending : s.pendingSends with
  | nil =>
    simp only [hpending] at hsingle ⊢
    exact ⟨h.connected, h.stop, hsingle, handed, hcalls, by simpa [hpending] using htaken⟩
  | cons asset rest =>
    simp only [hpending] at hsingle ⊢
    unfold doPutAsset
    rw [if_neg (by simp [h.stop])]
    refine ⟨h.connected, h.stop, hsingle, handed ++ [asset], ?_, ?_⟩
    · simp [callSlave, hcalls]
    · simp [callSlave, htaken, hpending]

lemma pushing_step {e : Event} (h : Pushing past taken s) (he : e.pushes = true)
    (hstep : step s e = some t) : Pushing past (taken ++ (s.admits e).toList) t := by
  cases e with
  | queueAssetForPush asset =>
    obtain rfl := Option.some.inj hstep
    exact h.queue asset
  | assetPut i error =>
    obtain ⟨hi, hs⟩ := Option.ite_none_right_eq_some.mp hstep
    obtain rfl := Option.some.inj hs
    simpa [admits] using h.assetPut hi
  | _ => cases he

/-- What a run admits, and what it has handed over. -/
lemma pushing_run {es : List Event} (h : Pushing past taken s) (hes : ∀ e ∈ es, e.pushes = true)
    (hrun : Machine.run step s es = some t) : Pushing past (taken ++ s.admitted es) t := by
  induction es generalizing s taken with
  | nil =>
    obtain rfl := Option.some.inj hrun
    simpa [admitted, Machine.trace] using h
  | cons e es ih =>
    obtain ⟨s', hs', hrest⟩ := Machine.run_cons_eq_some.mp hrun
    have htrace : s.admitted (e :: es) = (s.admits e).toList ++ s'.admitted es :=
      Machine.trace_cons hs' es
    rw [htrace, ← List.append_assoc]
    exact ih (pushing_step h (hes e List.mem_cons_self) hs')
      (fun e' he' => hes e' (List.mem_cons_of_mem e he')) hrest

/-- From an idle service that stays connected, the assets are handed to the remote asset service one
at a time and in the order in which they were queued, without those that came when the queue was
full: what was admitted is what was handed over, followed by what still waits. -/
theorem pushed_in_order {es : List Event} (hidle : Idle s) (hes : ∀ e ∈ es, e.pushes = true)
    (hrun : Machine.run step s es = some t) :
    (∃ handed, t.slaveCalls = s.slaveCalls ++ handed.map .putAsset ∧
      s.admitted es = handed ++ t.pendingSends) ∧
    t.sends.length ≤ 1 ∧ (t.sendActive = true ↔ t.sends.length = 1) ∧
    (t.pendingSends ≠ [] → t.sends ≠ []) := by
  have h := pushing_run hidle.pushing hes hrun
  rw [List.nil_append] at h
  have hactive := h.single.active
  refine ⟨h.order, h.single.length_le, ?_, ?_⟩
  · rw [hactive]
    cases t.sendActive <;> simp
  · intro hpending hsends
    rw [hsends, List.length_nil] at hactive
    exact hpending (h.single.pending (by simpa using hactive.symm))

/-- Two assets are queued, and the put of the first is called back with an error. -/
def firstFails : List Event :=
  [.queueAssetForPush (sampleAsset 1), .queueAssetForPush (sampleAsset 2), .assetPut 0 true]

theorem firstFails_in_order : ∃ t,
    Machine.run step { connected := true } firstFails = some t ∧
    t.slaveCalls = [.putAsset (sampleAsset 1), .putAsset (sampleAsset 2)] ∧ t.pendingSends = [] ∧
    t.sends.length ≤ 1 := by
  obtain ⟨t, hrun, hcalls, hpending⟩ : ∃ t,
      Machine.run step { connected := true } firstFails = some t ∧
      t.slaveCalls = [.putAsset (sampleAsset 1), .putAsset (sampleAsset 2)] ∧ t.pendingSends = [] :=
    Machine.exists_run_of_any (by decide +kernel)
  exact ⟨t, hrun, hcalls, hpending,
    (pushed_in_order ⟨rfl, rfl, rfl, rfl, rfl⟩ (by decide) hrun).2.1⟩

/-! ### The backlog -/

/-- An asset is queued while one is put and as many wait as are allowed. -/
def overflows (s : PushReplicationService) : Event → Bool
  | .queueAssetForPush _ =>
    s.connected && !s.stop && s.sendActive && s.pendingSends.length == MAX_QUEUE_SIZE
  | _ => false

lemma pendingSends_resetConnectionMonitor (s : PushReplicationService) :
    s.resetConnectionMonitor.pendingSends = s.pendingSends := by
  unfold resetConnectionMonitor
  split_ifs <;> rfl

lemma pendingSends_onCheckConnection (s : PushReplicationService) (slave : Option Endpoint) :
    (s.onCheckConnection slave).pendingSends = s.pendingSends := by
  unfold onCheckConnection endpointChanged
  cases slave with
  | none =>
    dsimp only
    split_ifs <;> simp [pendingSends_resetConnectionMonitor, callSlave]
  | some ep =>
    dsimp only
    split_ifs <;> simp [pendingSends_resetConnectionMonitor, makeConnection, callSlave]

lemma pendingSends_doPutAsset (s : PushReplicationService) (asset : Asset) :
    (s.doPutAsset asset).pendingSends = s.pendingSends := by
  unfold doPutAsset
  split_ifs <;> rfl

lemma length_pendingSends_onAfterAssetPut (s : PushReplicationService) :
    s.onAfterAssetPut.pendingSends.length ≤ s.pendingSends.length := by
  unfold onAfterAssetPut pushNextWaitingAsset
  dsimp only
  split_ifs
  · split
    · exact le_rfl
    · next asset rest hpending => simp [pendingSends_doPutAsset, hpending]
  · exact le_rfl

/-- An asset that is queued joins those that wait, or they stay as they are. -/
lemma pendingSends_doQueueAssetForPush (s : PushReplicationService) (asset : Asset) :
    (s.doQueueAssetForPush asset).pendingSends = s.pendingSends ∨
    (s.connected = true ∧ s.stop = false ∧ s.sendActive = true ∧ s.full = false ∧
      (s.doQueueAssetForPush asset).pendingSends = s.pendingSends ++ [asset]) := by
  unfold doQueueAssetForPush
  split_ifs with hdown hsend hfull
  · exact .inl rfl
  · exact .inl rfl
  · simp only [Bool.or_eq_true, Bool.not_eq_true', not_or, Bool.not_eq_false,
      Bool.not_eq_true] at hdown
    exact .inr ⟨hdown.1, hdown.2, hsend, by simpa using hfull, rfl⟩
  · exact .inl (s.pendingSends_doPutAsset asset)

/-- Only an asset that is queued lengthens the backlog. -/
lemma length_pendingSends_step {e : Event} (hstep : step s e = some t)
    (he : ∀ asset, e ≠ .queueAssetForPush asset) :
    t.pendingSends.length ≤ s.pendingSends.length := by
  cases e with
  | queueAssetForPush asset => exact absurd rfl (he asset)
  | assetPut i error =>
    obtain ⟨-, hs⟩ := Option.ite_none_right_eq_some.mp hstep
    obtain rfl := Option.some.inj hs
    exact length_pendingSends_onAfterAssetPut { s with sends := s.sends.eraseIdx i }
  | assetPutAgain =>
    obtain rfl := Option.some.inj hstep
    exact s.length_pendingSends_onAfterAssetPut
  | connectionMonitorExpires =>
    obtain ⟨t, -, rfl⟩ := Option.map_eq_some_iff.mp hstep
    exact le_rfl
  | checkConnection slave =>
    obtain ⟨t, -, rfl⟩ := Option.map_eq_some_iff.mp hstep
    rw [pendingSends_onCheckConnection]
  | serviceConnectionStatus success =>
    obtain rfl := Option.some.inj hstep
    cases success <;> simp [onServiceConnectionStatus, pendingSends_resetConnectionMonitor]
  | safeKillConnection =>
    obtain rfl := Option.some.inj hstep
    exact Nat.zero_le _
  | stop =>
    obtain rfl := Option.some.inj hstep
    unfold doStop
    dsimp only
    split_ifs <;> exact le_rfl

lemma backlog_step {e : Event} (h : s.pendingSends.length ≤ MAX_QUEUE_SIZE)
    (hstep : step s e = some t) :
    t.pendingSends.length ≤ MAX_QUEUE_SIZE ↔ s.overflows e = false := by
  cases e with
  | queueAssetForPush asset =>
    obtain rfl := Option.some.inj hstep
    have hfull : s.full = false := by simpa [full] using h
    simp only [overflows]
    by_cases hsend : s.connected = true ∧ s.stop = false ∧ s.sendActive = true
    · obtain ⟨hup, hstop, hsend⟩ := hsend
      rw [doQueueAssetForPush_of_room hup hstop asset hsend hfull]
      simp only [List.length_append, List.length_singleton, hup, hstop, hsend, Bool.not_false,
        Bool.and_self, Bool.true_and, beq_eq_false_iff_ne]
      omega
    · have hsame := (s.pendingSends_doQueueAssetForPush asset).resolve_right
        fun h => hsend ⟨h.1, h.2.1, h.2.2.1⟩
      rw [hsame]
      simp only [h, true_iff]
      by_contra hover
      simp only [Bool.not_eq_false, Bool.and_eq_true, Bool.not_eq_true'] at hover
      exact hsend ⟨hover.1.1.1, hover.1.1.2, hover.1.2⟩
  | _ =>
    refine ⟨fun _ => rfl, fun _ => (length_pendingSends_step hstep ?_).trans h⟩
    simp

/-- In every run of the service the backlog stays within its declared limit exactly if no asset is
queued while as many wait as the limit says. -/
theorem backlog_bounded_iff {es : List Event} (hrun : Machine.run step start es = some t) :
    Machine.Guarded step (fun s e => s.overflows e = false) start es ↔
      ∀ fs u, fs <+: es → Machine.run step start fs = some u →
        u.pendingSends.length ≤ MAX_QUEUE_SIZE :=
  Machine.guarded_iff_reaches (I := fun s => s.pendingSends.length ≤ MAX_QUEUE_SIZE)
    (fun _ h => h) (fun _ _ _ h he hstep => (backlog_step h hstep).mpr he)
    (fun _ _ _ h he hstep hle => he ((backlog_step h hstep).mp hle)) (by decide) hrun

/-- The slave is connected to, and assets are queued while the first of them is put. -/
def burst (n : ℕ) : List Event :=
  [.connectionMonitorExpires, .checkConnection (some ⟨1, 1⟩), .serviceConnectionStatus true].append
    ((List.range n).map fun i => .queueAssetForPush (sampleAsset (i % 16)))

theorem burst_exceeds_limit : ∃ t, Machine.run step start (burst 252) = some t ∧
    t.pendingSends.length = MAX_QUEUE_SIZE + 1 :=
  Machine.exists_run_of_any (by decide +kernel)

theorem small_burst_bounded : ∃ t, Machine.run step start (burst 2) = some t ∧
    t.pendingSends.length ≤ MAX_QUEUE_SIZE := by
  obtain ⟨t, hrun, -⟩ : ∃ t, Machine.run step start (burst 2) = some t ∧ True :=
    Machine.exists_run_of_any (by decide +kernel)
  refine ⟨t, hrun, (backlog_bounded_iff hrun).mp ?_ _ t (List.prefix_refl _) hrun⟩
  exact (Machine.guarded_of_checks (g := fun s e => !s.overflows e) (by decide +kernel)).mono
    fun _ _ h => by simpa using h

end PushReplicationService

end Whip
