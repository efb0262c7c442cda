import Whip.Net.Closing
import Whip.Replication.PullReplicationService

/-!
# The chain of steps of pull replication

Each handler of `PullReplicationService` ends with something that will call the next one: a timer, a
connect, a listing, a batch of assets or the end of the connection. While the settings name a master
and nothing is asked of a connection that has been closed, there is always exactly one of them.
-/

namespace Whip

open Pipelined Pipelined.Client RemoteAssetService

namespace DeadlineTimer

variable {t t' : DeadlineTimer}

lemma waits_set (t : DeadlineTimer) : t.set.waits = t.waits + 1 := by
  cases h : t.armed <;> simp [set, waits, h]

lemma waits_expire (h : t.expire = some t') : t'.waits = t.waits := by
  unfold expire at h
  split_ifs at h with harmed
  cases h
  simp [waits, harmed]

lemma waits_run (h : t.run = some t') : t.waits = t'.waits + 1 := by
  unfold run at h
  split_ifs at h with hqueued
  cases h
  simp only [waits]
  omega

end DeadlineTimer

namespace PullReplicationService

variable {s s' : PullReplicationService}

/-! ### Continuations -/

/-- The requests that have not been called back. -/
def requests (s : PullReplicationService) : List (PendingTransferRequest Callback) :=
  s.assetSvc.elim [] (·.service.outstanding)

def connecting (s : PullReplicationService) : Bool := s.assetSvc.any (·.service.connecting)

/-- The timers and connects that are waited for. -/
def waits (s : PullReplicationService) : ℕ :=
  s.replRestartTimer.waits + s.reconnectTimer.waits + s.connecting.toNat

/-- The connection is closed, and the asset service is not gone yet. -/
def closed (s : PullReplicationService) : Bool :=
  s.connected && s.assetSvc.any fun svc => !svc.service.established

/-- The assets that have been asked for. -/
def getsOf (requests : List (PendingTransferRequest Callback)) : List ByteString :=
  requests.filterMap fun r =>
    match r.callback with
    | .onAssetRetrieved assetId => some assetId
    | .onGetStoredAssetIds      => none

def isListing (r : PendingTransferRequest Callback) : Bool := r.callback = .onGetStoredAssetIds

/-- What holds throughout. The assets in progress are those asked for and those being stored. -/
structure Orderly (s : PullReplicationService) : Prop where
  master : s.replicationMaster.isSome = true
  orphans : s.orphans = []
  hasMaster : s.currentStep ≠ .noMaster
  pending : s.pendingAssets.Nodup
  distinct : s.inProgressAssets.Nodup
  held : s.inProgressAssets.Perm (getsOf s.requests ++ s.stores)
  live : s.connected = true → ∃ svc, s.assetSvc = some svc ∧ Live svc.service
  fresh : s.connected = false → ∀ svc, s.assetSvc = some svc → Fresh svc.service

/-- What is being waited for. -/
inductive Phase (s : PullReplicationService) : Prop
  | waiting (waits : s.waits = 1) (requests : s.requests = [])
    (inProgress : s.inProgressAssets = [])
      (resting : 0 < s.replRestartTimer.waits → s.currentStep = .wait)
      (unconnected : s.replRestartTimer.waits = 0 → s.connected = false)
  | listing (r : PendingTransferRequest Callback) (waits : s.waits = 0)
    (requests : s.requests = [r])
      (isListing : isListing r = true) (inProgress : s.inProgressAssets = [])
      (connected : s.connected = true) (step : s.currentStep = .none ∨ s.currentStep = .idList)
  | batch (waits : s.waits = 0) (requests : ∀ r ∈ s.requests, isListing r = false)
      (inProgress : s.inProgressAssets ≠ []) (step : s.currentStep = .retrieve)
      (unconnected : s.connected = false → s.assetSvc = none)
  | closing (waits : s.waits = 0) (requests : s.requests = [])
    (inProgress : s.inProgressAssets = [])
      (closed : s.closed = true) (step : s.currentStep ≠ .wait)

structure Settled (s : PullReplicationService) : Prop extends Orderly s where
  phase : Phase s

/-- Nothing is being waited for. -/
structure Free (s : PullReplicationService) : Prop extends Orderly s where
  waits : s.waits = 0
  requests : s.requests = []
  inProgress : s.inProgressAssets = []

/-- And `runStep` may be called: a listing can be asked for, or will not be, because it is too early
for that. The frames matter when the master has changed. -/
structure Ready (s : PullReplicationService) : Prop extends Free s where
  usable : s.closed = false ∨ s.currentStep = .wait ∧ s.due = false
  calm : (s.currentStep.readsMaster = true →
      s.replicationMaster = some s.replicationMasterEndpoint) ∨
    ∀ svc, s.assetSvc = some svc → DropsNothing svc.service.running

/-! ### Dialling -/

lemma ensureConnection_of_connected (hyes : s.connected = true) {svc : AssetSvc}
    (hsvc : s.assetSvc = some svc) : s.ensureConnection = (s, true) := by
  cases s
  simp only at hyes hsvc
  subst hyes hsvc
  rfl

lemma Orderly.ensureConnection_eq (h : Orderly s) (hno : s.connected = false) :
    ∃ svc dials, Fresh svc.service ∧ svc.service.connecting = true ∧
      s.ensureConnection = ({ s with assetSvc := some svc, dials := dials }, false) := by
  obtain ⟨svc, hsvc⟩ : ∃ svc, s.assetSvc.getD
      ⟨s.replicationMasterEndpoint, { hasSafeKillCallback := true }⟩ = svc := ⟨_, rfl⟩
  have hfresh : Fresh svc.service := by
    cases hold : s.assetSvc with
    | none =>
      rw [← hsvc, hold]
      exact fresh_new
    | some old =>
      rw [← hsvc, hold]
      exact h.fresh hno old hold
  obtain ⟨hclosed, hidle, hqueues, hinvoked, hrunning, hsafeKill⟩ := hfresh
  refine ⟨{ svc with service := { svc.service with connecting := true } },
    s.dials ++ [(svc.endpoint, s.replicationMasterEndpoint)],
    ⟨hclosed, hidle, hqueues, hinvoked, hrunning, hsafeKill⟩, rfl, ?_⟩
  simp only [ensureConnection, hno, hsvc, Bool.false_eq_true, if_false]

/-- The service that is not connected yet is replaced by another one. -/
lemma Orderly.replaceFresh (h : Orderly s) (hno : s.connected = false) (hrequests : s.requests = [])
    {svc : AssetSvc} (hfresh : Fresh svc.service) : Orderly { s with assetSvc := some svc } := by
  refine ⟨h.master, h.orphans, h.hasMaster, h.pending, h.distinct, ?_, fun hyes => ?_,
    fun _ svc' hsvc' => ?_⟩
  · have hheld := h.held
    rw [hrequests] at hheld
    rwa [show requests { s with assetSvc := some svc } = [] from hfresh.outstanding]
  · simp [hno] at hyes
  · cases hsvc'
    exact hfresh

lemma Free.dial (h : Free s) (hno : s.connected = false) :
    Settled s.ensureConnection.1 ∧ s.ensureConnection.2 = false := by
  obtain ⟨svc, dials, hfresh, hconnecting, heq⟩ := h.ensureConnection_eq hno
  have horderly := h.toOrderly.replaceFresh hno h.requests hfresh
  have hwaits := h.waits
  simp only [PullReplicationService.waits, Nat.add_eq_zero_iff] at hwaits
  obtain ⟨⟨hrestart, hreconnect⟩, -⟩ := hwaits
  rw [heq]
  refine ⟨⟨⟨h.master, h.orphans, h.hasMaster, h.pending, h.distinct, horderly.held, horderly.live,
    horderly.fresh⟩, .waiting ?_ hfresh.outstanding h.inProgress (fun hpos => ?_) fun _ => hno⟩,
    rfl⟩
  · simp [PullReplicationService.waits, connecting, hrestart, hreconnect, hconnecting]
  · exact absurd hrestart hpos.ne'

/-! ### Asking the asset service -/

/-- The asset service of a connected replication is at work for it. -/
lemma Orderly.replaceLive (h : Orderly s) (hyes : s.connected = true) {svc : AssetSvc}
    (hlive : Live svc.service)
    (hheld : s.inProgressAssets.Perm (getsOf svc.service.outstanding ++ s.stores)) :
    Orderly { s with assetSvc := some svc } := by
  refine ⟨h.master, h.orphans, h.hasMaster, h.pending, h.distinct, hheld,
    fun _ => ⟨svc, rfl, hlive⟩,
    fun hno => ?_⟩
  simp [hyes] at hno

/-- Where nothing is waited for, the assets being stored are none. -/
lemma Free.stores (h : Free s) : s.stores = [] := by
  have hheld := h.held
  rw [h.inProgress] at hheld
  exact (List.append_eq_nil_iff.mp hheld.nil_eq.symm).2

lemma waits_of_live {svc : AssetSvc} (hlive : Live svc.service) :
    waits { s with assetSvc := some svc } = s.replRestartTimer.waits + s.reconnectTimer.waits := by
  simp [waits, connecting, hlive.connecting]

lemma Free.timers (h : Free s) : s.replRestartTimer.waits + s.reconnectTimer.waits = 0 := by
  have hwaits := h.waits
  unfold PullReplicationService.waits at hwaits
  omega

lemma Free.retrieveIdListForPrefix (h : Free s) (hyes : s.connected = true)
    (hopen : s.closed = false) (hstep : s.currentStep = .none ∨ s.currentStep = .idList)
    (hs : s.retrieveIdListForPrefix = some s') : Settled s' := by
  obtain ⟨svc, hsvc, hlive⟩ := h.live hyes
  obtain ⟨svc', hsvc', rfl⟩ := Option.map_eq_some_iff.mp hs
  rw [hsvc] at hsvc'
  cases hsvc'
  have hconn : svc.service.established = true := by
    simpa [PullReplicationService.closed, hyes, hsvc] using hopen
  have hnone : svc.service.outstanding = [] := by
    simpa [PullReplicationService.requests, hsvc] using h.requests
  obtain ⟨hlive', hperm⟩ := hlive.issue hconn
    ⟨s.getStringPrefixForIndex, .onGetStoredAssetIds, .storedAssetIdsGet, none⟩
  rw [hnone, List.nil_append, List.perm_singleton] at hperm
  have hheld : s.inProgressAssets.Perm (getsOf (svc.service.issue ⟨s.getStringPrefixForIndex,
      .onGetStoredAssetIds, .storedAssetIdsGet, none⟩).outstanding ++ s.stores) := by
    rw [hperm, h.inProgress, h.stores]
    rfl
  exact ⟨h.toOrderly.replaceLive hyes hlive' hheld,
    .listing _ ((waits_of_live hlive').trans h.timers) hperm rfl h.inProgress hyes hstep⟩

/-! ### A batch of assets -/

lemma live_getAssets {service : RemoteAssetService Callback} (h : Live service)
    (hconn : service.established = true) (ids : List ByteString) :
    Live (ids.foldl (fun service id => service.getAsset id false (.onAssetRetrieved id)) service) ∧
      (ids.foldl (fun service id => service.getAsset id false (.onAssetRetrieved id))
        service).outstanding.Perm (service.outstanding ++
          ids.map fun id => ⟨id, .onAssetRetrieved id, .getDontCache, none⟩) := by
  induction ids generalizing service with
  | nil => exact ⟨h, by simp⟩
  | cons id ids ih =>
    obtain ⟨hlive, hperm⟩ := h.issue hconn ⟨id, .onAssetRetrieved id, .getDontCache, none⟩
    obtain ⟨hlive', hperm'⟩ :=
      ih hlive (by rw [RemoteAssetService.issue, established_request, hconn])
    refine ⟨hlive', hperm'.trans ?_⟩
    simpa using hperm.append_right _

lemma nextBatch_sublist (index : List Uuid) (batchSize sent : ℕ) (pending : List ByteString) :
    ((nextBatch index batchSize sent pending).1 ++
      (nextBatch index batchSize sent pending).2).Sublist
      pending := by
  fun_induction nextBatch index batchSize sent pending with
  | case1 => simp
  | case2 sent nextAsset rest hexists ih => exact ih.trans (List.sublist_cons_self _ _)
  | case3 sent nextAsset rest hnot hlast => simp
  | case4 sent nextAsset rest hnot hmore batch ih => exact ih.cons_cons _

lemma foldl_insert_perm {ids acc : List ByteString} (hids : ids.Nodup)
    (hdisjoint : ∀ id ∈ ids, id ∉ acc) :
    (ids.foldl (fun acc id => acc.insert id) acc).Perm (acc ++ ids) := by
  induction ids generalizing acc with
  | nil => simp
  | cons id ids ih =>
    obtain ⟨hid, hids⟩ := List.nodup_cons.mp hids
    have hnew : id ∉ acc := hdisjoint id (by simp)
    refine (ih hids fun x hx => ?_).trans ?_
    · simp only [List.insert_of_not_mem hnew, List.mem_cons, not_or]
      exact ⟨fun heq => hid (heq ▸ hx), hdisjoint x (by simp [hx])⟩
    · simp only [List.insert_of_not_mem hnew]
      exact List.perm_middle.symm

lemma getsOf_perm {l l' : List (PendingTransferRequest Callback)} (h : l.Perm l') :
    (getsOf l).Perm (getsOf l') :=
  h.filterMap _

lemma getsOf_cons_of_listing {r : PendingTransferRequest Callback}
    (hr : r.callback = .onGetStoredAssetIds) (l : List (PendingTransferRequest Callback)) :
    getsOf (r :: l) = getsOf l := by
  simp [getsOf, hr]

lemma getsOf_cons_of_get {r : PendingTransferRequest Callback} {assetId : ByteString}
    (hr : r.callback = .onAssetRetrieved assetId) (l : List (PendingTransferRequest Callback)) :
    getsOf (r :: l) = assetId :: getsOf l := by
  simp [getsOf, hr]

/-- Requests that are neither for assets nor listings are none. -/
lemma nil_of_getsOf {l : List (PendingTransferRequest Callback)} (hgets : getsOf l = [])
    (hlistings : ∀ r ∈ l, isListing r = false) : l = [] := by
  cases l with
  | nil => rfl
  | cons r l =>
    cases hr : r.callback with
    | onGetStoredAssetIds => simpa [isListing, hr] using hlistings r (by simp)
    | onAssetRetrieved assetId => simp [getsOf_cons_of_get hr] at hgets

lemma getsOf_gets (ids : List ByteString) :
    getsOf (ids.map fun id => ⟨id, .onAssetRetrieved id, .getDontCache, none⟩) = ids := by
  simp [getsOf, List.filterMap_map]

/-- There is nothing to do but wait. -/
lemma Free.rest (h : Free s) (hstep : s.currentStep = .wait) :
    Settled s.setReplicationRestartTimer := by
  have hwaits := h.waits
  refine ⟨⟨h.master, h.orphans, h.hasMaster, h.pending, h.distinct, h.held, h.live, h.fresh⟩,
    .waiting ?_ h.requests h.inProgress (fun _ => hstep) fun hno => ?_⟩
  · simp only [PullReplicationService.waits, setReplicationRestartTimer, connecting,
      DeadlineTimer.waits_set] at hwaits ⊢
    omega
  · simp [setReplicationRestartTimer, DeadlineTimer.waits_set] at hno

/-- Only the place in the round has changed. -/
lemma Free.move (h : Free s) (step : ReplicateStep) (hstep : step ≠ .noMaster) (n : ℕ)
    {pending : List ByteString} (hpending : pending.Nodup) :
    Free { s with currentStep := step, currentAssetPrefix := n, pendingAssets := pending } :=
  ⟨⟨h.master, h.orphans, hstep, hpending, h.distinct, h.held, h.live, h.fresh⟩, h.waits, h.requests,
    h.inProgress⟩

section Steps

variable {again : PullReplicationService → Option PullReplicationService}
  (hagain : ∀ s s', Ready s → again s = some s' → Settled s')

include hagain

lemma Free.retrieveNextIdList (h : Free s) (hopen : s.closed = false)
    (hs : s.retrieveNextIdList again = some s') : Settled s' := by
  unfold PullReplicationService.retrieveNextIdList at hs
  split_ifs at hs
  · have hmoved := h.move .idList (by simp) (s.currentAssetPrefix + 1) h.pending
    exact hagain _ _ ⟨hmoved, .inl hopen, .inl (by simp [ReplicateStep.readsMaster])⟩ hs
  · cases hs
    exact (h.move .wait (by simp) 0 h.pending).rest rfl

lemma Free.retrieveNextMissingAssetBatch (h : Free s) (hyes : s.connected = true)
    (hopen : s.closed = false) (hstep : s.currentStep = .retrieve)
    (hs : s.retrieveNextMissingAssetBatch again = some s') : Settled s' := by
  obtain ⟨svc, hsvc, hlive⟩ := h.live hyes
  have hconn : svc.service.established = true := by
    simpa [PullReplicationService.closed, hyes, hsvc] using hopen
  have hnone : svc.service.outstanding = [] := by
    simpa [PullReplicationService.requests, hsvc] using h.requests
  have hnodup := h.pending.sublist (nextBatch_sublist s.existenceIndex s.batchSize 0
    s.pendingAssets)
  simp only [PullReplicationService.retrieveNextMissingAssetBatch] at hs
  generalize nextBatch s.existenceIndex s.batchSize 0 s.pendingAssets = batch at hs hnodup
  obtain ⟨hids, hrest, -⟩ := List.nodup_append.mp hnodup
  have hpending := h.move _ h.hasMaster s.currentAssetPrefix hrest
  split_ifs at hs with hempty
  · exact hpending.retrieveNextIdList hagain hopen hs
  · obtain ⟨svc', hsvc', rfl⟩ := Option.map_eq_some_iff.mp hs
    have hsame : s.assetSvc = some svc' := hsvc'
    rw [hsvc] at hsame
    cases hsame
    obtain ⟨hlive', hperm⟩ := live_getAssets hlive hconn batch.1
    rw [hnone, List.nil_append] at hperm
    have hinserted : (batch.1.foldl (fun ids id => ids.insert id) s.inProgressAssets).Perm
      batch.1 := by
      rw [h.inProgress]
      exact foldl_insert_perm hids (by simp)
    refine ⟨⟨h.master, h.orphans, h.hasMaster, hrest, hinserted.nodup_iff.mpr hids, ?_,
      fun _ => ⟨_, rfl, hlive'⟩, fun hno => ?_⟩,
      .batch ((waits_of_live hlive').trans h.timers) ?_ ?_
        hstep fun hno => ?_⟩
    · have hgets := (getsOf_perm hperm).symm
      rw [getsOf_gets, ← List.append_nil (getsOf _), ← h.stores] at hgets
      exact hinserted.trans hgets
    · simp [hyes] at hno
    · intro r hr
      have hr := hperm.mem_iff.mp hr
      obtain ⟨id, -, rfl⟩ := List.mem_map.mp hr
      rfl
    · intro hnil
      have hnil : batch.1.foldl (fun ids id => ids.insert id) s.inProgressAssets = [] := hnil
      rw [hnil] at hinserted
      simp [hinserted.nil_eq.symm] at hempty
    · simp [hyes] at hno

lemma Ready.replicateStep (h : Ready s) (hyes : s.connected = true)
    (hsame : s.currentStep.readsMaster = true →
      s.replicationMaster = some s.replicationMasterEndpoint)
    (hs : s.replicateStep again = some s') : Settled s' := by
  have hopen (hstep : s.currentStep ≠ .wait) : s.closed = false :=
    h.usable.resolve_right fun hwait => hstep hwait.1
  unfold PullReplicationService.replicateStep at hs
  split at hs
  · next hstep =>
    exact (h.toFree.move _ h.hasMaster s.startAt h.pending).retrieveIdListForPrefix hyes
      (hopen (by simp [hstep])) (.inl hstep) hs
  · next hstep => exact h.retrieveIdListForPrefix hyes (hopen (by simp [hstep])) (.inr hstep) hs
  · next hstep =>
    exact h.retrieveNextMissingAssetBatch hagain hyes (hopen (by simp [hstep])) hstep hs
  · next hstep =>
    unfold checkResumeNextReplRound at hs
    split_ifs at hs with hdue
    · have hcalm := hsame (by simp [hstep, ReplicateStep.readsMaster])
      have hopen := h.usable.resolve_right fun hwait => by simp [hdue] at hwait
      have hmoved := h.toFree.move .none (by simp) s.currentAssetPrefix h.pending
      exact hagain _ _ ⟨hmoved, .inl hopen, .inl fun _ => hcalm⟩ hs
    · cases hs
      exact h.toFree.rest hstep
  · next hstep => exact absurd hstep h.hasMaster

end Steps

/-- The connection is closed because the master has changed. -/
lemma Free.close (h : Free s) (hyes : s.connected = true) {ep : Endpoint}
    (hmaster : s.replicationMaster = some ep)
    (hdrops : ∀ svc, s.assetSvc = some svc → DropsNothing svc.service.running)
    (hs : (s.adopt ep).callSvc (·.close) = some s') : Settled s' := by
  obtain ⟨svc, hsvc, rfl⟩ := Option.map_eq_some_iff.mp hs
  have hsvc : s.assetSvc = some svc := hsvc
  obtain ⟨svc', hsvc', hlive⟩ := h.live hyes
  rw [hsvc] at hsvc'
  cases hsvc'
  have hnone : svc.service.outstanding = [] := by
    simpa [PullReplicationService.requests, hsvc] using h.requests
  obtain ⟨hlive', hperm⟩ := hlive.toUsed.close (hdrops svc hsvc)
  rw [hnone] at hperm
  have hnone' : svc.service.close.outstanding = [] := hperm.nil_eq.symm
  refine ⟨⟨by simp [adopt, hmaster], h.orphans, by simp [adopt], h.pending, h.distinct, ?_,
    fun _ => ⟨_, rfl, hlive'⟩, fun hno => ?_⟩,
    .closing ((waits_of_live hlive').trans h.timers) hnone'
      h.inProgress ?_ (by simp [adopt])⟩
  · show s.inProgressAssets.Perm (getsOf svc.service.close.outstanding ++ s.stores)
    rw [hnone', h.inProgress, h.stores]
    rfl
  · simp [adopt, hyes] at hno
  · simp [PullReplicationService.closed, adopt, hyes, RemoteAssetService.close, Client.close]

lemma Ready.verifyConnection (h : Ready s) {ok : Bool} (hs : s.verifyConnection = some (s', ok)) :
    ok = false ∧ Settled s' ∨ ok = true ∧ s' = s ∧ s.connected = true ∧
      (s.currentStep.readsMaster = true →
        s.replicationMaster = some s.replicationMasterEndpoint) := by
  cases verified hs with
  | checked same =>
    cases hconn : s.connected with
    | false => exact .inl ((h.dial hconn).symm)
    | true =>
      obtain ⟨svc, hsvc, -⟩ := h.live hconn
      rw [ensureConnection_of_connected hconn hsvc]
      exact .inr ⟨rfl, rfl, rfl, same⟩
  | adopted ep reads master changed unconnected =>
    have hno : s.connected = false := by
      by_contra hyes
      obtain ⟨svc, hsvc, -⟩ := h.live (by simpa using hyes)
      simp [hsvc, hyes] at unconnected
    have hfree : Free (s.adopt ep) :=
      ⟨⟨h.master, h.orphans, by simp [adopt], h.pending, h.distinct, h.held, h.live, h.fresh⟩,
        h.waits,
        h.requests, h.inProgress⟩
    exact .inl (hfree.dial hno).symm
  | closed ep reads master changed connected call =>
    refine .inl ⟨rfl, h.close connected master (h.calm.resolve_left fun hsame => ?_) call⟩
    rw [hsame reads] at master
    exact changed (Option.some.inj master).symm
  | lost reads master step call => simpa [master] using h.master
  | masterless master step => simpa [master] using h.master

/-- Where nothing is waited for, a call of `runStep` leads to something. -/
lemma Ready.runStepWithin (depth : ℕ) (h : Ready s) (hs : s.runStepWithin depth = some s') :
    Settled s' := by
  induction depth generalizing s s' with
  | zero => cases hs
  | succ depth ih =>
    simp only [PullReplicationService.runStepWithin] at hs
    split at hs
    · cases hs
    · next hverify =>
      obtain ⟨-, hsettled⟩ | ⟨hno, -⟩ := h.verifyConnection hverify
      · cases hs
        exact hsettled
      · cases hno
    · next hverify =>
      obtain ⟨hno, -⟩ | ⟨-, rfl, hyes, hsame⟩ := h.verifyConnection hverify
      · cases hno
      · exact h.replicateStep (fun s s' hready hs => ih hready hs) hyes hsame hs

lemma Ready.runStep (h : Ready s) (hs : s.runStep = some s') : Settled s' := h.runStepWithin 2 hs

/-! ### What the asset service calls -/

/-- The steps that keep to one chain: the settings keep a master, nothing is asked of a connection
that is closed, the identifiers of a listing are distinct, and a listing that fails has not been
asked of a master that is to be left. -/
def steady (s : PullReplicationService) : Event → Bool
  | .setMaster replicationMaster => replicationMaster.isSome
  | .restart => !(s.closed && s.due)
  | .stored i =>
    !(s.closed && s.stores[i]?.any fun assetId => (s.inProgressAssets.erase assetId).isEmpty)
  | .service e =>
    s.assetSvc.all fun svc =>
      (!(svc.service.fails e && s.currentStep.readsMaster) ||
        s.replicationMaster = some s.replicationMasterEndpoint) &&
      match e, svc.service.reading with
      | .read (some ids), some (.data _) =>
        !s.requests.any isListing || ((splitIds ids).filter (· ≠ [])).Nodup
      | _, _ => true
  | _ => true

variable {svc : AssetSvc} {service : RemoteAssetService Callback}

lemma waits_of_assetSvc (hsvc : s.assetSvc = some svc) (hlive : Live svc.service) :
    s.waits = s.replRestartTimer.waits + s.reconnectTimer.waits := by
  simp [waits, connecting, hsvc, hlive.connecting]

/-- The listing has been called back. -/
lemma Settled.listed (h : Settled s) (hyes : s.connected = true) (hsvc : s.assetSvc = some svc)
    (hlive : Live svc.service) (hlive' : Live service) {req : PendingTransferRequest Callback}
    (hreq : req.callback = .onGetStoredAssetIds)
    (hdropped : svc.service.outstanding.Perm (req :: service.outstanding)) :
    Free { s with assetSvc := some { svc with service := service } } ∧
      (s.currentStep = .none ∨ s.currentStep = .idList) ∧ s.requests.any isListing = true := by
  have hrequests : s.requests = svc.service.outstanding := by simp [requests, hsvc]
  have hmem : req ∈ s.requests := hrequests ▸ hdropped.mem_iff.mpr (by simp)
  have hlisting : isListing req = true := by simp [isListing, hreq]
  cases h.phase with
  | waiting waits requests inProgress resting unconnected => simp [requests] at hmem
  | closing waits requests inProgress closed step => simp [requests] at hmem
  | batch waits requests inProgress step unconnected => simp [requests req hmem] at hlisting
  | listing r waits requests listing inProgress connected step =>
    have hgets := getsOf_perm hdropped
    rw [getsOf_cons_of_listing hreq, ← hrequests] at hgets
    rw [← hrequests, requests, List.singleton_perm] at hdropped
    have hnone : service.outstanding = [] := (List.cons.inj hdropped).2.symm
    refine ⟨⟨h.toOrderly.replaceLive hyes hlive' (h.held.trans (hgets.append_right _)), ?_, hnone,
      inProgress⟩, step, by simp [requests, listing]⟩
    rw [waits_of_live hlive', ← waits_of_assetSvc hsvc hlive, waits]

/-- An asset has been called back. -/
lemma Settled.retrieved (h : Settled s) (hsvc : s.assetSvc = some svc)
    {req : PendingTransferRequest Callback} {assetId : ByteString}
    (hreq : req.callback = .onAssetRetrieved assetId)
    (hdropped : svc.service.outstanding.Perm (req :: service.outstanding)) :
    s.currentStep = .retrieve ∧ s.waits = 0 ∧ (∀ r ∈ service.outstanding, isListing r = false) ∧
      s.inProgressAssets.Perm (assetId :: (getsOf service.outstanding ++ s.stores)) := by
  have hrequests : s.requests = svc.service.outstanding := by simp [requests, hsvc]
  have hmem : req ∈ s.requests := hrequests ▸ hdropped.mem_iff.mpr (by simp)
  cases h.phase with
  | waiting waits requests inProgress resting unconnected => simp [requests] at hmem
  | closing waits requests inProgress closed step => simp [requests] at hmem
  | listing r waits requests listing inProgress connected step =>
    rw [requests, List.mem_singleton] at hmem
    simp [isListing, ← hmem, hreq] at listing
  | batch waits requests inProgress step unconnected =>
    have hgets := getsOf_perm hdropped
    rw [getsOf_cons_of_get hreq, ← hrequests] at hgets
    refine ⟨step, waits, fun r hr => requests r ?_, h.held.trans (hgets.append_right _)⟩
    exact hrequests ▸ hdropped.mem_iff.mpr (by simp [hr])

/-- The state once an asset is no longer in progress. It may have been the last one. -/
lemma Settled.erase (h : Settled s) (hyes : s.connected = true) (hsvc : s.assetSvc = some svc)
    (hlive : Live svc.service) (hlive' : Live service) {req : PendingTransferRequest Callback}
    {assetId : ByteString} (hreq : req.callback = .onAssetRetrieved assetId)
    (hdropped : svc.service.outstanding.Perm (req :: service.outstanding))
    {t : PullReplicationService}
    (ht : t = { s with
      assetSvc := some { svc with service := service }
      inProgressAssets := s.inProgressAssets.erase assetId }) :
    (t.inProgressAssets = [] → Free t) ∧ (t.inProgressAssets ≠ [] → Settled t) := by
  obtain ⟨hstep, hwaits, hlistings, hheld⟩ := h.retrieved hsvc hreq hdropped
  have herased : (s.inProgressAssets.erase assetId).Perm
    (getsOf service.outstanding ++ s.stores) := by
    simpa using hheld.erase assetId
  have horderly : Orderly t := by
    rw [ht]
    refine ⟨h.master, h.orphans, h.hasMaster, h.pending, h.distinct.erase assetId, herased,
      fun _ => ⟨_, rfl, hlive'⟩, fun hno => ?_⟩
    simp [hyes] at hno
  have hwaits' : t.waits = 0 := by
    rw [← hwaits, waits_of_assetSvc hsvc hlive, ht]
    exact waits_of_live hlive'
  constructor
  · intro hnone
    refine ⟨horderly, hwaits', ?_, hnone⟩
    rw [ht] at hnone ⊢
    rw [show s.inProgressAssets.erase assetId = [] from hnone] at herased
    exact nil_of_getsOf (List.append_eq_nil_iff.mp herased.nil_eq.symm).1 hlistings
  · intro hsome
    refine ⟨horderly, .batch hwaits' ?_ hsome ?_ fun hno => ?_⟩
    · rw [ht]
      exact hlistings
    · rw [ht]
      exact hstep
    · simp [ht, hyes] at hno

lemma onGetStoredAssetIds_fatal (hyes : s.connected = true) {response : RASResponse}
    (herror : response.isError = true) (hfatal : response.isFatal = true) :
    s.onGetStoredAssetIds response = some s := by
  simp [onGetStoredAssetIds, hyes, herror, hfatal]

lemma onAssetRetrieved_error (hyes : s.connected = true) {response : RASResponse}
    (herror : response.isError = true) (assetId : ByteString) :
    s.onAssetRetrieved response assetId =
      if !response.isFatal && (s.inProgressAssets.erase assetId).isEmpty then
        { s with inProgressAssets := s.inProgressAssets.erase assetId }.runStep
      else some { s with inProgressAssets := s.inProgressAssets.erase assetId } := by
  simp [onAssetRetrieved, hyes, herror]

/-- A request is cancelled by the end of the connection. -/
lemma Settled.cancelled (h : Settled s) (hyes : s.connected = true) (hsvc : s.assetSvc = some svc)
    (hlive : Live svc.service) (hlive' : Live service) {req : PendingTransferRequest Callback}
    (hdropped : svc.service.outstanding.Perm (req :: service.outstanding))
    (hclosed : service.established = false)
    (hs : { s with assetSvc := some { svc with service := service } }.onResponse (req, terminated) =
      some s') : Settled s' := by
  unfold onResponse at hs
  split at hs
  · next hreq =>
    obtain ⟨hfree, hstep, -⟩ := h.listed hyes hsvc hlive hlive' hreq hdropped
    rw [onGetStoredAssetIds_fatal (by exact hyes) rfl rfl] at hs
    cases hs
    refine ⟨hfree.toOrderly, .closing hfree.waits hfree.requests hfree.inProgress ?_ ?_⟩
    · simp [closed, hyes, hclosed]
    · rcases hstep with hstep | hstep <;> simp [hstep]
  · next assetId hreq =>
    obtain ⟨hlast, hmore⟩ := h.erase hyes hsvc hlive hlive' hreq hdropped rfl
    rw [onAssetRetrieved_error (by exact hyes) rfl] at hs
    cases hs
    by_cases hnone : s.inProgressAssets.erase assetId = []
    · have hfree := hlast hnone
      obtain ⟨hstep, -⟩ := h.retrieved hsvc hreq hdropped
      refine ⟨hfree.toOrderly, .closing hfree.waits hfree.requests hnone ?_ (by simp [hstep])⟩
      simp [closed, hyes, hclosed]
    · exact hmore hnone

/-- The identifiers of a list that are pending are distinct if those of the list are. -/
lemma nodup_pending {ids : ByteString} (h : ((splitIds ids).filter (· ≠ [])).Nodup)
    (index : List Uuid) :
    ((splitIds ids).filter fun id => id ≠ [] ∧ ¬ ExistenceIndex.assetExists index id).Nodup := by
  refine h.sublist (List.monotone_filter_right _ fun id hid => ?_)
  simp only [decide_eq_true_eq] at hid ⊢
  exact hid.1

/-- A listing is answered. -/
lemma Free.onGetStoredAssetIds (h : Free s) (hyes : s.connected = true) (hopen : s.closed = false)
    {response : RASResponse} (hnonfatal : response.isFatal = false)
    (hcalm : response.isError = true → s.currentStep.readsMaster = true →
      s.replicationMaster = some s.replicationMasterEndpoint)
    (hdistinct : response.isError = false → response.message = [] ∨
      ((splitIds response.message).filter (· ≠ [])).Nodup)
    (hs : s.onGetStoredAssetIds response = some s') : Settled s' := by
  have hstep (s s' : PullReplicationService) (hready : Ready s) (hs : s.runStep = some s') :
      Settled s' := hready.runStep hs
  have hlisted (hok : response.isError = false) (hsome : response.message ≠ [])
      (step : ReplicateStep) (hstep : step ≠ .noMaster) :=
    h.move step hstep s.currentAssetPrefix
      (nodup_pending ((hdistinct hok).resolve_left hsome) s.existenceIndex)
  simp only [PullReplicationService.onGetStoredAssetIds] at hs
  split_ifs at hs with hno hok hempty hparse hnone hfatal
  · simp [hyes] at hno
  · exact h.retrieveNextIdList hstep hopen hs
  · exact (hlisted (by simpa using hok) hempty _ h.hasMaster).retrieveNextIdList hstep hopen hs
  · have hretrieve := hlisted (by simpa using hok) hempty .retrieve (by simp)
    exact hstep _ _ ⟨hretrieve, .inl hopen, .inl (by simp [ReplicateStep.readsMaster])⟩ hs
  · exact hstep _ _ ⟨h, .inl hopen, .inl (hcalm (by simpa using hok))⟩ hs
  · simp [hnonfatal] at hfatal

/-- An asset is answered. -/
lemma Settled.onAssetRetrieved (h : Settled s) (hyes : s.connected = true)
    (hsvc : s.assetSvc = some svc) (hlive : Live svc.service) (hlive' : Live service)
    {req : PendingTransferRequest Callback} {assetId : ByteString}
    (hreq : req.callback = .onAssetRetrieved assetId)
    (hdropped : svc.service.outstanding.Perm (req :: service.outstanding))
    (hopen : service.established = true) {response : RASResponse}
    (hnonfatal : response.isFatal = false)
    (hs : { s with assetSvc := some { svc with service := service } }.onAssetRetrieved response
      assetId = some s') : Settled s' := by
  obtain ⟨hstep, hwaits, hlistings, hheld⟩ := h.retrieved hsvc hreq hdropped
  cases herror : response.isError with
  | true =>
    obtain ⟨hlast, hmore⟩ := h.erase hyes hsvc hlive hlive' hreq hdropped rfl
    rw [onAssetRetrieved_error (by exact hyes) herror] at hs
    simp only [hnonfatal, Bool.not_false, Bool.true_and, List.isEmpty_iff] at hs
    split_ifs at hs with hnone
    · have hready := Ready.mk (hlast hnone) (.inl (by simp [closed, hopen]))
        (.inl (by simp [hstep, ReplicateStep.readsMaster]))
      exact hready.runStep hs
    · cases hs
      exact hmore hnone
  | false =>
    unfold PullReplicationService.onAssetRetrieved at hs
    split_ifs at hs with hno herror'
    · simp [hyes] at hno
    · simp [herror] at herror'
    · split at hs
      · cases hs
      · cases hs
        -- the asset moves from those asked for to those being stored
        have hmoved : s.inProgressAssets.Perm
            (getsOf service.outstanding ++ (s.stores ++ [assetId])) := by
          refine hheld.trans ?_
          rw [← List.append_assoc]
          exact (List.perm_append_singleton _ _).symm
        refine ⟨⟨h.master, h.orphans, h.hasMaster, h.pending, h.distinct, hmoved,
          fun _ => ⟨_, rfl, hlive'⟩,
          fun hno => ?_⟩, .batch ?_ hlistings ?_ hstep fun hno => ?_⟩
        · simp [hyes] at hno
        · rw [← hwaits, waits_of_assetSvc hsvc hlive]
          exact waits_of_live hlive'
        · intro hnone
          have hnone : s.inProgressAssets = [] := hnone
          simp [hnone] at hheld
        · simp [hyes] at hno

/-- The asset service goes on without calling anybody. -/
lemma Settled.quiet (h : Settled s) (hyes : s.connected = true) (hsvc : s.assetSvc = some svc)
    (hlive : Live svc.service) (hlive' : Live service)
    (hsame : svc.service.outstanding.Perm service.outstanding)
    (hclosed : svc.service.established = false → service.established = false) :
    Settled { s with assetSvc := some { svc with service := service } } := by
  have hrequests : s.requests = svc.service.outstanding := by simp [requests, hsvc]
  have hwaits : waits { s with assetSvc := some { svc with service := service } } = s.waits := by
    rw [waits_of_assetSvc hsvc hlive]
    exact waits_of_live hlive'
  have hheld : s.inProgressAssets.Perm (getsOf service.outstanding ++ s.stores) :=
    h.held.trans ((getsOf_perm (hrequests ▸ hsame)).append_right _)
  refine ⟨h.toOrderly.replaceLive hyes hlive' hheld, ?_⟩
  rw [← hrequests] at hsame
  cases h.phase with
  | waiting waits requests inProgress resting unconnected =>
    rw [requests] at hsame
    exact .waiting (hwaits.trans waits) hsame.nil_eq.symm inProgress resting unconnected
  | closing waits requests inProgress closed step =>
    rw [requests] at hsame
    refine .closing (hwaits.trans waits) hsame.nil_eq.symm inProgress ?_ step
    have hno : svc.service.established = false := by
      simpa [PullReplicationService.closed, hyes, hsvc] using closed
    simp [PullReplicationService.closed, hyes, hclosed hno]
  | listing r waits requests listing inProgress connected step =>
    rw [requests, List.singleton_perm] at hsame
    exact .listing r (hwaits.trans waits) hsame.symm listing inProgress connected step
  | batch waits requests inProgress step unconnected =>
    refine .batch (hwaits.trans waits) (fun r hr => requests r ?_) inProgress step fun hno => ?_
    · exact hsame.mem_iff.mpr hr
    · simp [hyes] at hno

/-- The asset service is gone. -/
lemma Settled.onServerConnectionFailed (h : Settled s) (hyes : s.connected = true)
    (hsvc : s.assetSvc = some svc) (hlive : Live svc.service) (hused : Used service)
    (hnone : svc.service.outstanding = [])
    (hs : { s with assetSvc := some { svc with service := service } }.onServerConnectionFailed =
      some s') : Settled s' := by
  have hrequests : s.requests = [] := by simp [requests, hsvc, hnone]
  have hheld := h.held
  rw [hrequests] at hheld
  have horderly : Orderly { s with assetSvc := none, connected := false } :=
    ⟨h.master, h.orphans, h.hasMaster, h.pending, h.distinct, hheld, by simp, by simp⟩
  have hwaits : waits { s with assetSvc := none, connected := false } = s.waits := by
    rw [waits_of_assetSvc hsvc hlive]
    simp [waits, connecting]
  simp only [PullReplicationService.onServerConnectionFailed, hyes, if_true, Option.elim_some,
    hused.posted, List.append_nil, Bool.and_eq_true, List.isEmpty_iff, decide_eq_true_eq] at hs
  cases h.phase with
  | waiting waits requests inProgress resting unconnected =>
    have hresting : 0 < s.replRestartTimer.waits :=
      Nat.pos_of_ne_zero fun hzero => by simp [hyes] at unconnected; exact unconnected hzero
    have hstep := resting hresting
    rw [if_neg (by simp [hstep]), if_neg h.hasMaster] at hs
    cases hs
    exact ⟨horderly, .waiting (hwaits.trans waits) rfl inProgress resting fun _ => rfl⟩
  | closing waits requests inProgress closed step =>
    rw [if_pos ⟨⟨inProgress, h.hasMaster⟩, step⟩] at hs
    have hready : Ready { s with assetSvc := none, connected := false } :=
      ⟨⟨horderly, hwaits.trans waits, rfl, inProgress⟩, .inl rfl, .inr (by simp)⟩
    exact hready.runStep hs
  | listing r waits requests listing inProgress connected step => simp [requests] at hrequests
  | batch waits requests inProgress step unconnected =>
    rw [if_neg fun hgo => inProgress hgo.1.1, if_neg h.hasMaster] at hs
    cases hs
    exact ⟨horderly, .batch (hwaits.trans waits) (by simp [PullReplicationService.requests])
      inProgress step fun _ => rfl⟩

/-- The asset service makes a step of its own. -/
lemma Settled.advance (h : Settled s) (hyes : s.connected = true) (hsvc : s.assetSvc = some svc)
    {e : RemoteAssetService.Event Callback} (hsteady : s.steady (.service e) = true)
    (hlive : Live svc.service) (hprogress : Progress svc.service e service)
    (hs : s.advance svc service = some s') : Settled s' := by
  unfold PullReplicationService.advance at hs
  cases hprogress with
  | killed more closed invoked used drained =>
    rw [if_pos more] at hs
    split_ifs at hs with hthrough
    refine h.onServerConnectionFailed hyes hsvc hlive used (drained ?_) hs
    simp only [hyes, Bool.not_true, Bool.false_or, isThrough, Bool.or_eq_true,
      decide_eq_true_eq] at hthrough
    rcases hthrough with hrun | hrun <;> simp [hrun]
  | quiet kills invoked live same closed =>
    simp only [kills, lt_irrefl, if_false, invoked, List.drop_length, List.foldlM_nil] at hs
    cases hs
    exact h.quiet hyes hsvc hlive live same closed
  | cancelled req kills invoked live dropped closed =>
    simp only [kills, lt_irrefl, if_false, invoked, List.drop_left, List.foldlM_cons,
      List.foldlM_nil,
      bind_pure] at hs
    exact h.cancelled hyes hsvc hlive live dropped closed hs
  | answered req response kills invoked live dropped isOpen nonfatal failed content =>
    simp only [kills, lt_irrefl, if_false, invoked, List.drop_left, List.foldlM_cons,
      List.foldlM_nil,
      bind_pure] at hs
    unfold onResponse at hs
    split at hs
    · next hreq =>
      obtain ⟨hfree, hstep, hlisting⟩ := h.listed hyes hsvc hlive live hreq dropped
      simp only [steady, hsvc, Option.all_some, Bool.and_eq_true, Bool.or_eq_true,
        Bool.not_eq_true', Bool.and_eq_false_imp, decide_eq_true_eq] at hsteady
      refine hfree.onGetStoredAssetIds hyes ?_ nonfatal (fun herror hreads => ?_) (fun hok => ?_) hs
      · simp [PullReplicationService.closed, isOpen]
      · exact hsteady.1.resolve_left fun hno => by simp [hno (failed herror)] at hreads
      · refine (content hok).imp_right ?_
        rintro ⟨rfl, header, hreading⟩
        simpa [hreading, hlisting] using hsteady.2
    · next assetId hreq =>
      exact h.onAssetRetrieved hyes hsvc hlive live hreq dropped isOpen nonfatal hs

/-! ### Before the connection -/

/-- An asset service that is not connected is there because it is waited for. -/
lemma Settled.unconnected (h : Settled s) (hno : s.connected = false)
    (hsvc : s.assetSvc = some svc) :
    s.waits = 1 ∧ s.requests = [] ∧ s.inProgressAssets = [] ∧
      (0 < s.replRestartTimer.waits → s.currentStep = .wait) := by
  cases h.phase with
  | waiting waits requests inProgress resting unconnected =>
    exact ⟨waits, requests, inProgress, resting⟩
  | closing waits requests inProgress closed step =>
    simp [PullReplicationService.closed, hno] at closed
  | listing r waits requests listing inProgress connected step => simp [hno] at connected
  | batch waits requests inProgress step unconnected => simp [unconnected hno] at hsvc

lemma Settled.advance_fresh (h : Settled s) (hno : s.connected = false)
    (hsvc : s.assetSvc = some svc)
    (hfresh : Fresh svc.service) (hfresh' : Fresh service)
    (hsame : service.connecting = svc.service.connecting)
    (hkills : service.safeKills = svc.service.safeKills)
    (hs : s.advance svc service = some s') : Settled s' := by
  obtain ⟨hwaits, hrequests, hinProgress, hresting⟩ := h.unconnected hno hsvc
  simp only [PullReplicationService.advance, hkills, lt_irrefl, if_false, hfresh.invoked,
    hfresh'.invoked, List.drop_nil, List.foldlM_nil] at hs
  cases hs
  refine ⟨h.toOrderly.replaceFresh hno hrequests hfresh',
    .waiting ?_ hfresh'.outstanding hinProgress
    hresting fun _ => hno⟩
  simpa [waits, connecting, hsame, hsvc] using hwaits

/-- A connection that is waited for is all that is waited for. -/
lemma Settled.dialing (h : Settled s) (hsvc : s.assetSvc = some svc)
    (hconnecting : svc.service.connecting = true) :
    s.connected = false ∧ s.requests = [] ∧ s.inProgressAssets = [] ∧
      s.replRestartTimer.waits = 0 ∧ s.reconnectTimer.waits = 0 := by
  have hno : s.connected = false := by
    by_contra hyes
    obtain ⟨svc', hsvc', hlive⟩ := h.live (by simpa using hyes)
    rw [hsvc] at hsvc'
    cases hsvc'
    simp [hlive.connecting] at hconnecting
  obtain ⟨hwaits, hrequests, hinProgress, -⟩ := h.unconnected hno hsvc
  simp only [waits, connecting, hsvc, Option.any_some, hconnecting, Bool.toNat_true] at hwaits
  exact ⟨hno, hrequests, hinProgress, by omega, by omega⟩

/-- The connection is there. -/
lemma Settled.connected (h : Settled s) (hsvc : s.assetSvc = some svc)
    (hconnecting : svc.service.connecting = true) :
    Ready { s with
      connected := true
      assetSvc := some { svc with service := svc.service.onConnectionResult true } } := by
  obtain ⟨hno, hrequests, hinProgress, hrestart, hreconnect⟩ := h.dialing hsvc hconnecting
  obtain ⟨-, hlive, hnone⟩ := (h.fresh hno svc hsvc).connected
  have hheld := h.held
  rw [hrequests] at hheld
  refine ⟨⟨⟨h.master, h.orphans, h.hasMaster, h.pending, h.distinct, ?_, fun _ => ⟨_, rfl, hlive⟩,
    by simp⟩, (waits_of_live hlive).trans (by simp [hrestart, hreconnect]), hnone, hinProgress⟩,
    .inl ?_, .inr ?_⟩
  · show s.inProgressAssets.Perm (getsOf (svc.service.onConnectionResult true).outstanding ++ _)
    rwa [hnone]
  · simp [closed, onConnectionResult]
  · rintro svc' ⟨⟩
    simp [onConnectionResult, DropsNothing]

lemma Settled.onServiceConnectionStatus (h : Settled s) (hsvc : s.assetSvc = some svc)
    (hconnecting : svc.service.connecting = true) {success : Bool}
    (hs : { s with assetSvc := some { svc with service := svc.service.onConnectionResult success }
      }.onServiceConnectionStatus success = some s') : Settled s' := by
  unfold PullReplicationService.onServiceConnectionStatus at hs
  cases success with
  | false =>
    cases hs
    obtain ⟨hno, hrequests, hinProgress, hrestart, hreconnect⟩ := h.dialing hsvc hconnecting
    obtain ⟨hfresh, -⟩ := (h.fresh hno svc hsvc).connected
    have horderly : Orderly { s with assetSvc := some { svc with
        service := svc.service.onConnectionResult false } } :=
      h.toOrderly.replaceFresh hno hrequests hfresh
    refine ⟨⟨h.master, h.orphans, h.hasMaster, h.pending, h.distinct, horderly.held, horderly.live,
      horderly.fresh⟩, .waiting ?_ hfresh.outstanding hinProgress (fun hpos => ?_) fun _ => hno⟩
    · simp [waits, connecting, onConnectionResult, DeadlineTimer.waits_set, hrestart, hreconnect]
    · exact absurd hrestart hpos.ne'
  | true => exact (h.connected hsvc hconnecting).runStep hs

lemma advance_of_serviceStep (hsvc : s.assetSvc = some svc) {e : RemoteAssetService.Event Callback}
    (hio : e.isIo = true) (hs : s.serviceStep e = some s') :
    ∃ service, svc.service.step e = some service ∧ s.advance svc service = some s' := by
  simp only [PullReplicationService.serviceStep, hsvc] at hs
  split at hs
  · cases hio
  · next hstep => exact ⟨_, hstep, hs⟩
  · next hstep => exact ⟨_, hstep, hs⟩
  · next hstep => exact ⟨_, hstep, hs⟩
  · next hstep => exact ⟨_, hstep, hs⟩
  · cases hs

lemma connected_of_serviceStep (hsvc : s.assetSvc = some svc) {success : Bool}
    (hs : s.serviceStep (.connected success) = some s') :
    svc.service.connecting = true ∧
      { s with assetSvc := some { svc with service := svc.service.onConnectionResult success }
        }.onServiceConnectionStatus success = some s' := by
  simp only [PullReplicationService.serviceStep, hsvc] at hs
  cases hstep : svc.service.step (.connected success) with
  | none => simp [hstep] at hs
  | some service =>
    simp only [hstep] at hs
    simp only [RemoteAssetService.step, Option.ite_none_right_eq_some, Bool.and_eq_true,
      Option.some.injEq] at hstep
    obtain ⟨⟨-, hconnecting⟩, rfl⟩ := hstep
    exact ⟨hconnecting, hs⟩

/-- Nothing else is done to the asset service from outside. -/
lemma serviceStep_cases {e : RemoteAssetService.Event Callback} (hs : s.serviceStep e = some s') :
    ∃ svc, s.assetSvc = some svc ∧ (e.isIo = true ∨ ∃ success, e = .connected success) := by
  unfold PullReplicationService.serviceStep at hs
  split at hs
  · cases hs
  · next svc hsvc =>
    refine ⟨svc, hsvc, ?_⟩
    split at hs
    · exact .inr ⟨_, rfl⟩
    all_goals first | exact .inl rfl | cases hs

lemma Settled.serviceStep (h : Settled s) {e : RemoteAssetService.Event Callback}
    (hsteady : s.steady (.service e) = true) (hs : s.serviceStep e = some s') : Settled s' := by
  obtain ⟨svc, hsvc, hio | ⟨success, rfl⟩⟩ := serviceStep_cases hs
  · obtain ⟨service, hstep, hs⟩ := advance_of_serviceStep hsvc hio hs
    cases hconn : s.connected with
    | false =>
      have hfresh := h.fresh hconn svc hsvc
      obtain ⟨hfresh', hsame, hkills⟩ := hfresh.step hio hstep
      exact h.advance_fresh hconn hsvc hfresh hfresh' hsame hkills hs
    | true =>
      obtain ⟨svc', hsvc', hlive⟩ := h.live hconn
      rw [hsvc] at hsvc'
      cases hsvc'
      exact h.advance hconn hsvc hsteady hlive (hlive.step hio hstep) hs
  · obtain ⟨hconnecting, hs⟩ := connected_of_serviceStep hsvc hs
    exact h.onServiceConnectionStatus hsvc hconnecting hs

/-! ### Timers and stores -/

/-- The settings and the clock have no part in the phase. -/
lemma Phase.of_eq (h : Phase s) (hrestart : s'.replRestartTimer.waits = s.replRestartTimer.waits)
    (hreconnect : s'.reconnectTimer.waits = s.reconnectTimer.waits)
    (hsvc : s'.assetSvc = s.assetSvc) (hconn : s'.connected = s.connected)
    (hstep : s'.currentStep = s.currentStep)
    (hinProgress : s'.inProgressAssets = s.inProgressAssets) : Phase s' := by
  have hwaits : s'.waits = s.waits := by simp [waits, connecting, hrestart, hreconnect, hsvc]
  have hrequests : s'.requests = s.requests := by simp [requests, hsvc]
  have hclosed : s'.closed = s.closed := by simp [closed, hconn, hsvc]
  cases h with
  | waiting waits requests inProgress resting unconnected =>
    exact .waiting (hwaits.trans waits) (hrequests.trans requests) (hinProgress.trans inProgress)
      (by rwa [hrestart, hstep]) (by rwa [hrestart, hconn])
  | closing waits requests inProgress closed step =>
    exact .closing (hwaits.trans waits) (hrequests.trans requests) (hinProgress.trans inProgress)
      (hclosed.trans closed) (by rwa [hstep])
  | listing r waits requests listing inProgress connected step =>
    exact .listing r (hwaits.trans waits) (hrequests.trans requests) listing
      (hinProgress.trans inProgress) (hconn.trans connected) (by rwa [hstep])
  | batch waits requests inProgress step unconnected =>
    exact .batch (hwaits.trans waits) (by rwa [hrequests]) (by rwa [hinProgress])
      (hstep.trans step) (by rwa [hconn, hsvc])

lemma dropsNothing_of_idle (hidle : s.idle = true) (svc : AssetSvc) (hsvc : s.assetSvc = some svc) :
    DropsNothing svc.service.running := by
  refine Client.dropsNothing_of_idle ?_
  simpa [idle, hsvc] using hidle

/-- The handler of a timer runs. -/
lemma Settled.timer (h : Settled s) (hpos : 0 < s.replRestartTimer.waits + s.reconnectTimer.waits) :
    s.waits = 1 ∧ s.requests = [] ∧ s.inProgressAssets = [] ∧
      (0 < s.replRestartTimer.waits → s.currentStep = .wait) ∧
      (s.replRestartTimer.waits = 0 → s.connected = false) := by
  have hsome : s.waits ≠ 0 := by
    unfold waits
    omega
  cases h.phase with
  | waiting waits requests inProgress resting unconnected =>
    exact ⟨waits, requests, inProgress, resting, unconnected⟩
  | closing waits requests inProgress closed step => exact absurd waits hsome
  | listing r waits requests listing inProgress connected step => exact absurd waits hsome
  | batch waits requests inProgress step unconnected => exact absurd waits hsome

/-- The restart timer was all that was waited for. -/
lemma Settled.restarting (h : Settled s) {t : DeadlineTimer}
    (ht : s.replRestartTimer.run = some t) :
    Free { s with replRestartTimer := t } ∧ s.currentStep = .wait := by
  have hrun := DeadlineTimer.waits_run ht
  obtain ⟨hwaits, hrequests, hinProgress, hresting, -⟩ := h.timer (by omega)
  refine ⟨⟨⟨h.master, h.orphans, h.hasMaster, h.pending, h.distinct, h.held, h.live, h.fresh⟩, ?_,
    hrequests, hinProgress⟩, hresting (by omega)⟩
  simp only [waits, connecting] at hwaits ⊢
  omega

lemma Settled.restart (h : Settled s) (hidle : s.idle = true) (hsteady : s.steady .restart = true)
    {t : DeadlineTimer} (ht : s.replRestartTimer.run = some t)
    (hs : { s with replRestartTimer := t }.runStep = some s') : Settled s' := by
  obtain ⟨hfree, hstep⟩ := h.restarting ht
  have husable : s.closed = false ∨ s.currentStep = .wait ∧ s.due = false := by
    simp only [steady, Bool.not_eq_true', Bool.and_eq_false_iff] at hsteady
    exact hsteady.imp_right fun hdue => ⟨hstep, hdue⟩
  exact (Ready.mk hfree husable (.inr (dropsNothing_of_idle hidle))).runStep hs

lemma Settled.reconnect (h : Settled s) (hidle : s.idle = true)
    {t : DeadlineTimer} (ht : s.reconnectTimer.run = some t) {ok : Bool}
    (hs : verifyConnection { s with reconnectTimer := t } = some (s', ok)) : Settled s' := by
  have hrun := DeadlineTimer.waits_run ht
  obtain ⟨hwaits, hrequests, hinProgress, -, hunconnected⟩ := h.timer (by omega)
  have hno : s.connected = false := by
    simp only [waits] at hwaits
    exact hunconnected (by omega)
  have hfree : Free { s with reconnectTimer := t } := by
    refine ⟨⟨h.master, h.orphans, h.hasMaster, h.pending, h.distinct, h.held, h.live, h.fresh⟩, ?_,
      hrequests, hinProgress⟩
    simp only [waits, connecting] at hwaits ⊢
    omega
  have hready : Ready { s with reconnectTimer := t } :=
    ⟨hfree, .inl (by simp [closed, hno]), .inr (dropsNothing_of_idle hidle)⟩
  obtain ⟨-, hsettled⟩ | ⟨-, -, hyes, -⟩ := hready.verifyConnection hs
  · exact hsettled
  · simp [hno] at hyes

/-- A store has been completed. It may have been the last one of the batch. -/
lemma Settled.storing (h : Settled s) {i : ℕ} {assetId : ByteString}
    (hi : s.stores[i]? = some assetId) {t : PullReplicationService}
    (ht : t = { s with
      stores := s.stores.eraseIdx i
      inProgressAssets := s.inProgressAssets.erase assetId }) :
    s.currentStep = .retrieve ∧ (t.inProgressAssets = [] → Free t) ∧
      (t.inProgressAssets ≠ [] → Settled t) := by
  obtain ⟨hlt, hget⟩ := List.getElem?_eq_some_iff.mp hi
  have hstores : s.stores.Perm (assetId :: s.stores.eraseIdx i) := by
    rw [← hget]
    exact (List.getElem_cons_eraseIdx_perm hlt).symm
  have hheld : s.inProgressAssets.Perm
      (assetId :: (getsOf s.requests ++ s.stores.eraseIdx i)) :=
    h.held.trans ((hstores.append_left _).trans List.perm_middle)
  have herased : (s.inProgressAssets.erase assetId).Perm
      (getsOf s.requests ++ s.stores.eraseIdx i) := by
    simpa using hheld.erase assetId
  have hsome : s.inProgressAssets ≠ [] := fun hnone => by simp [hnone] at hheld
  have horderly : Orderly { s with
      stores := s.stores.eraseIdx i
      inProgressAssets := s.inProgressAssets.erase assetId } :=
    ⟨h.master, h.orphans, h.hasMaster, h.pending, h.distinct.erase assetId, herased, h.live,
      h.fresh⟩
  subst ht
  cases h.phase with
  | waiting waits requests inProgress resting unconnected => exact absurd inProgress hsome
  | closing waits requests inProgress closed step => exact absurd inProgress hsome
  | listing r waits requests listing inProgress connected step => exact absurd inProgress hsome
  | batch waits requests inProgress step unconnected =>
    refine ⟨step, fun hlast => ?_, fun hmore => ?_⟩
    · rw [show s.inProgressAssets.erase assetId = [] from hlast] at herased
      have hnone := nil_of_getsOf (List.append_eq_nil_iff.mp herased.nil_eq.symm).1 requests
      exact ⟨horderly, waits, hnone, hlast⟩
    · exact ⟨horderly, .batch waits requests hmore step unconnected⟩

lemma Settled.stored (h : Settled s) {i : ℕ} {assetId : ByteString}
    (hi : s.stores[i]? = some assetId) (hsteady : s.steady (.stored i) = true)
    (hs : { s with stores := s.stores.eraseIdx i }.onAfterAssetStored assetId = some s') :
    Settled s' := by
  obtain ⟨hstep, hlast, hmore⟩ := h.storing hi rfl
  simp only [onAfterAssetStored, List.isEmpty_iff] at hs
  split_ifs at hs with hnone
  · have hopen : s.closed = false := by simpa [steady, hi, hnone] using hsteady
    have hready := Ready.mk (hlast hnone) (.inl hopen)
      (.inl (by simp [hstep, ReplicateStep.readsMaster]))
    exact hready.runStep hs
  · cases hs
    exact hmore hnone

/-! ### Runs -/

lemma Settled.step (h : Settled s) {e : Event} (hsteady : s.steady e = true)
    (hs : s.step e = some s') : Settled s' := by
  cases e with
  | setMaster master =>
    cases hs
    exact ⟨⟨hsteady, h.orphans, h.hasMaster, h.pending, h.distinct, h.held, h.live, h.fresh⟩,
      h.phase.of_eq rfl rfl rfl rfl rfl rfl⟩
  | setIndex | clock =>
    cases hs
    exact ⟨⟨h.master, h.orphans, h.hasMaster, h.pending, h.distinct, h.held, h.live, h.fresh⟩,
      h.phase.of_eq rfl rfl rfl rfl rfl rfl⟩
  | expireReconnect =>
    obtain ⟨t, ht, rfl⟩ := Option.map_eq_some_iff.mp hs
    exact ⟨⟨h.master, h.orphans, h.hasMaster, h.pending, h.distinct, h.held, h.live, h.fresh⟩,
      h.phase.of_eq rfl (DeadlineTimer.waits_expire ht) rfl rfl rfl rfl⟩
  | expireRestart =>
    obtain ⟨t, ht, rfl⟩ := Option.map_eq_some_iff.mp hs
    exact ⟨⟨h.master, h.orphans, h.hasMaster, h.pending, h.distinct, h.held, h.live, h.fresh⟩,
      h.phase.of_eq (DeadlineTimer.waits_expire ht) rfl rfl rfl rfl rfl⟩
  | reconnect =>
    obtain ⟨hidle, hs⟩ := Option.ite_none_right_eq_some.mp hs
    obtain ⟨t, ht, hs⟩ := Option.bind_eq_some_iff.mp hs
    obtain ⟨⟨s₁, ok⟩, hverified, rfl⟩ := Option.map_eq_some_iff.mp hs
    exact h.reconnect hidle ht hverified
  | restart =>
    obtain ⟨hidle, hs⟩ := Option.ite_none_right_eq_some.mp hs
    obtain ⟨t, ht, hs⟩ := Option.bind_eq_some_iff.mp hs
    exact h.restart hidle hsteady ht hs
  | service e => exact h.serviceStep hsteady hs
  | orphan i => simp [PullReplicationService.step, h.orphans] at hs
  | stored i =>
    simp only [PullReplicationService.step] at hs
    split at hs
    · cases hs
    · next assetId hi =>
      exact h.stored hi hsteady (Option.ite_none_right_eq_some.mp hs).2

lemma settled_of_start {replicationMaster : Option Endpoint} {startAt : Fin 4096} {batchSize : ℕ}
    {existenceIndex : List Uuid} {master : Endpoint}
    (hs : (new replicationMaster startAt batchSize existenceIndex master).runStep = some s) :
    Settled s := by
  cases replicationMaster with
  | none => cases hs
  | some ep =>
    have hready : Ready (new (some ep) startAt batchSize existenceIndex master) :=
      ⟨⟨⟨rfl, rfl, by simp [new], .nil, .nil, .nil, by simp [new], by simp [new]⟩, rfl, rfl, rfl⟩,
        .inl rfl, .inr (by simp [new])⟩
    exact hready.runStep hs

lemma settled_run {t : PullReplicationService} {es : List Event} (h : Settled s)
    (hsteady : Machine.Guarded step (fun s e => s.steady e = true) s es)
    (hrun : Machine.run step s es = some t) : Settled t :=
  Machine.run_invariant (fun _ _ _ h hsteady hstep => h.step hsteady hstep) h hsteady hrun

/-- Something is outstanding that will go on: a connect, a timer, a listing, a batch of assets each
of which is asked for or being stored, or the safe-kill callback of a closed asset service. -/
def Continues (s : PullReplicationService) : Prop :=
  s.connecting = true ∨ 0 < s.reconnectTimer.waits ∨ 0 < s.replRestartTimer.waits ∨
    (∃ r ∈ s.requests, isListing r = true) ∨
    (s.inProgressAssets ≠ [] ∧ ∀ id ∈ s.inProgressAssets, id ∈ getsOf s.requests ∨ id ∈ s.stores) ∨
    (s.closed = true ∧ ∃ svc ∈ s.assetSvc, svc.service.hasSafeKillCallback = true ∧
      (svc.service.reading.isSome = true ∨ svc.service.writing.isSome = true))

/-- The first listing names an asset, and the connection is lost while the asset is asked for. -/
def disconnected : List Event :=
  [.service (.connected true), .service .resume, .service .resume, .service (.written true),
    .service (.read (some (ServerResponseMsg.make .ok (List.replicate 32 48)
      (some (sampleUUID 1 ++ [44]))).header)),
    .service (.read (some (sampleUUID 1 ++ [44]))), .service .resume, .service .resume,
    .service .resume, .service (.written true), .service (.read none), .service .resume,
    .service .resume, .service .resume, .service .resume, .service .resume, .service .resume]

/-- What leads to `runStep`, with the batch as one. -/
def continuations (s : PullReplicationService) : ℕ :=
  s.waits + (s.requests ++ s.orphans.map Prod.fst).countP isListing +
    if s.inProgressAssets = [] then 0 else 1

lemma Settled.continuations_le (h : Settled s) : s.continuations ≤ 1 := by
  simp only [continuations, h.orphans, List.map_nil, List.append_nil]
  cases h.phase with
  | waiting waits requests inProgress resting unconnected => simp [waits, requests, inProgress]
  | closing waits requests inProgress closed step => simp [waits, requests, inProgress]
  | listing r waits requests listing inProgress connected step =>
    simp [waits, requests, inProgress, listing]
  | batch waits requests inProgress step unconnected =>
    have hnone : s.requests.countP isListing = 0 :=
      List.countP_eq_zero.mpr fun r hr => by simp [requests r hr]
    simp [waits, hnone, inProgress]

/-- Pull replication runs a single chain of steps. -/
theorem single_chain {replicationMaster : Option Endpoint} {startAt : Fin 4096} {batchSize : ℕ}
    {existenceIndex : List Uuid} {master : Endpoint} {s t : PullReplicationService}
    {es : List Event}
    (hstart : (new replicationMaster startAt batchSize existenceIndex master).runStep = some s)
    (hsteady : Machine.Guarded step (fun s e => s.steady e = true) s es)
    (hrun : Machine.run step s es = some t) : t.continuations ≤ 1 :=
  (settled_run (settled_of_start hstart) hsteady hrun).continuations_le

/-- A round over the last prefix, and the start of the next one. -/
def lastPrefix : List Event :=
  [.service (.connected true), .service .resume, .service .resume, .service (.written true),
    .service (.read (some (ServerResponseMsg.make .ok (List.replicate 32 48) none).header)),
    .service (.read (some [])), .service .resume, .service .resume, .service .resume, .clock true,
    .expireRestart, .restart]

theorem lastPrefix_single_chain :
    ∃ s t, (new (some ⟨1, 80⟩) 0xfff 1 [] ⟨1, 80⟩).runStep = some s ∧
      Machine.run step s lastPrefix = some t ∧ t.requests.length = 1 ∧ t.continuations ≤ 1 := by
  obtain ⟨s, t, hs, hsteady, hrun, ht⟩ := Machine.exists_run step
    (new (some ⟨1, 80⟩) 0xfff 1 [] ⟨1, 80⟩).runStep steady lastPrefix
    (fun t => t.requests.length == 1) (by decide +kernel)
  exact ⟨s, t, hs, hrun, beq_iff_eq.mp ht, single_chain hs hsteady hrun⟩

/-- The settings lose the master while the connection is being made: the restart timer is set when
the connection is closed, and again when the asset service is gone. -/
def masterLost : List Event :=
  [.setMaster none, .service (.connected true), .service .resume, .service .resume,
    .service .resume]

theorem two_chains :
    ∃ s t, (new (some ⟨1, 80⟩) 0 1 [] ⟨1, 80⟩).runStep = some s ∧
      Machine.run step s masterLost = some t ∧ t.continuations = 2 := by
  obtain ⟨s, t, hs, -, hrun, ht⟩ := Machine.exists_run step
    (new (some ⟨1, 80⟩) 0 1 [] ⟨1, 80⟩).runStep (fun _ _ => true) masterLost
    (fun t => t.continuations == 2) (by decide +kernel)
  exact ⟨s, t, hs, hrun, beq_iff_eq.mp ht⟩

end PullReplicationService

end Whip
