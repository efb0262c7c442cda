import Whip.Replication.PullReplicationService

/-!
# Which server pull replication connects to

The endpoint of the master is kept twice: by the replication, which takes it from the settings, and
by the asset service, which keeps the one it was created with. The two agree when a connection is
dialled unless a new master is adopted while an asset service that is not connected is there.
-/

namespace Whip

namespace PullReplicationService

/-- All connections were dialled to the master, and so is the next one. -/
structure Dialed (s : PullReplicationService) : Prop where
  dials : ∀ p ∈ s.dials, p.1 = p.2
  next : s.connected = false → ∀ svc, s.assetSvc = some svc →
    svc.endpoint = s.replicationMasterEndpoint

/-- A new master would be adopted without a new asset service. -/
def adoptsStale (s : PullReplicationService) : Bool :=
  s.currentStep.readsMaster && s.assetSvc.isSome && !s.connected &&
    s.replicationMaster.any (· ≠ s.replicationMasterEndpoint)

variable {s s' : PullReplicationService}

lemma Dialed.callSvc (h : Dialed s) {f : RemoteAssetService Callback → RemoteAssetService Callback}
    (hs : s.callSvc f = some s') : Dialed s' := by
  obtain ⟨svc, hsvc, rfl⟩ := Option.map_eq_some_iff.mp hs
  refine ⟨h.dials, fun hconn svc' hsvc' => ?_⟩
  cases hsvc'
  exact h.next hconn svc hsvc

lemma Dialed.ensureConnection (h : Dialed s) : Dialed s.ensureConnection.1 := by
  have hsvc : s.connected = false →
      (s.assetSvc.getD ⟨s.replicationMasterEndpoint, { hasSafeKillCallback := true }⟩).endpoint =
        s.replicationMasterEndpoint := by
    intro hconn
    cases hsvc : s.assetSvc with
    | none => rfl
    | some svc => exact h.next hconn svc hsvc
  simp only [PullReplicationService.ensureConnection]
  split_ifs with hconn
  · refine ⟨h.dials, fun hno => ?_⟩
    exact absurd hconn (by simpa using hno)
  · have hno : s.connected = false := by simpa using hconn
    refine ⟨fun p hp => ?_, fun _ svc' hsvc' => ?_⟩
    · obtain hp | hp := List.mem_append.mp hp
      · exact h.dials p hp
      · rw [List.mem_singleton.mp hp]
        exact hsvc hno
    · cases hsvc'
      exact hsvc hno

lemma connected_callSvc {f : RemoteAssetService Callback → RemoteAssetService Callback}
    (hs : s.callSvc f = some s') :
    s'.connected = s.connected ∧ s'.replicationMaster = s.replicationMaster := by
  obtain ⟨svc, -, rfl⟩ := Option.map_eq_some_iff.mp hs
  exact ⟨rfl, rfl⟩

/-- Where replication goes on, it is connected, or has no master. -/
lemma Dialed.verifyConnection (h : Dialed s) (hstale : s.adoptsStale = false) {ok : Bool}
    (hs : s.verifyConnection = some (s', ok)) :
    Dialed s' ∧ (ok = true → s'.connected = true ∨ s'.replicationMaster = none) := by
  have hready (s₁ : PullReplicationService) (hok : s₁.ensureConnection.2 = true) :
      s₁.ensureConnection.1.connected = true := by
    simp only [PullReplicationService.ensureConnection] at hok ⊢
    split_ifs at hok ⊢ with hconn
    exact hconn
  cases verified hs with
  | checked same => exact ⟨h.ensureConnection, fun hok => .inl (hready s hok)⟩
  | adopted ep reads master changed unconnected =>
    have hnew : Dialed (s.adopt ep) := by
      refine ⟨h.dials, fun hconn svc hsvc => ?_⟩
      -- there is no asset service that could be stale
      have hconn : s.connected = false := hconn
      have hsvc : s.assetSvc = some svc := hsvc
      simp [adoptsStale, reads, master, hconn, hsvc, changed] at hstale
    exact ⟨hnew.ensureConnection, fun hok => .inl (hready _ hok)⟩
  | closed ep reads master changed connected call =>
    have hnew : Dialed (s.adopt ep) :=
      ⟨h.dials, fun hconn => absurd (show s.connected = false from hconn) (by simp [connected])⟩
    exact ⟨hnew.callSvc call, by simp⟩
  | lost reads master step call =>
    have hnew : Dialed { s with currentStep := .noMaster } := ⟨h.dials, h.next⟩
    exact ⟨hnew.callSvc call, fun _ => .inr ((connected_callSvc call).2.trans master)⟩
  | masterless master step => exact ⟨h, fun _ => .inr master⟩

lemma not_adoptsStale (h : s.connected = true ∨ s.replicationMaster = none) :
    s.adoptsStale = false := by
  rcases h with h | h <;> simp [adoptsStale, h]

lemma Dialed.retrieveNextIdList (h : Dialed s)
    (hconn : s.connected = true ∨ s.replicationMaster = none)
    {again : PullReplicationService → Option PullReplicationService}
    (hagain : ∀ s s', Dialed s → s.adoptsStale = false → again s = some s' → Dialed s')
    (hs : s.retrieveNextIdList again = some s') : Dialed s' := by
  unfold PullReplicationService.retrieveNextIdList at hs
  split_ifs at hs
  · exact hagain { s with currentStep := .idList, currentAssetPrefix := _ } _ ⟨h.dials, h.next⟩
      (not_adoptsStale hconn) hs
  · cases hs
    exact ⟨h.dials, h.next⟩

lemma Dialed.replicateStep (h : Dialed s) (hconn : s.connected = true ∨ s.replicationMaster = none)
    {again : PullReplicationService → Option PullReplicationService}
    (hagain : ∀ s s', Dialed s → s.adoptsStale = false → again s = some s' → Dialed s')
    (hs : s.replicateStep again = some s') : Dialed s' := by
  unfold PullReplicationService.replicateStep at hs
  split at hs
  · refine Dialed.callSvc ?_ hs
    exact ⟨h.dials, h.next⟩
  · exact h.callSvc hs
  · simp only [retrieveNextMissingAssetBatch] at hs
    split_ifs at hs
    · refine Dialed.retrieveNextIdList ?_ ?_ hagain hs
      · exact ⟨h.dials, h.next⟩
      · exact hconn
    · refine Dialed.callSvc ?_ hs
      exact ⟨h.dials, h.next⟩
  · unfold checkResumeNextReplRound at hs
    split_ifs at hs
    · exact hagain { s with currentStep := .none } _ ⟨h.dials, h.next⟩ (not_adoptsStale hconn) hs
    · cases hs
      exact ⟨h.dials, h.next⟩
  · cases hs
    exact ⟨h.dials, h.next⟩

lemma Dialed.runStepWithin (depth : ℕ) (s s' : PullReplicationService) (h : Dialed s)
    (hstale : s.adoptsStale = false) (hs : s.runStepWithin depth = some s') : Dialed s' := by
  induction depth generalizing s s' with
  | zero => cases hs
  | succ depth ih =>
    rw [PullReplicationService.runStepWithin] at hs
    split at hs
    · cases hs
    · next s₁ hverified =>
      cases hs
      exact (h.verifyConnection hstale hverified).1
    · next s₁ hverified =>
      obtain ⟨h₁, hconn⟩ := h.verifyConnection hstale hverified
      exact h₁.replicateStep (hconn rfl) ih hs

lemma Dialed.runStep (h : Dialed s) (hstale : s.adoptsStale = false) (hs : s.runStep = some s') :
    Dialed s' := Dialed.runStepWithin 2 s s' h hstale hs

/-! ### Runs -/

/-- The handlers leave the connection alone before they call `runStep`. -/
lemma Dialed.frame (h : Dialed s) (hdials : s'.dials = s.dials) (hconn : s'.connected = s.connected)
    (hsvc : s'.assetSvc = s.assetSvc)
    (hmaster : s'.replicationMasterEndpoint = s.replicationMasterEndpoint) : Dialed s' := by
  refine ⟨hdials ▸ h.dials, fun hno svc hsvc' => ?_⟩
  rw [hmaster]
  exact h.next (hconn ▸ hno) svc (hsvc ▸ hsvc')

lemma Dialed.onGetStoredAssetIds (h : Dialed s) {response : RASResponse}
    (hs : s.onGetStoredAssetIds response = some s') : Dialed s' := by
  simp only [PullReplicationService.onGetStoredAssetIds, Bool.not_eq_eq_eq_not, Bool.not_true] at hs
  split_ifs at hs with hno
  · cases hs
    exact h
  all_goals have hconn : s.connected = true := by simpa using hno
  · exact h.retrieveNextIdList (.inl hconn) (Dialed.runStepWithin 2) hs
  · refine Dialed.retrieveNextIdList (h.frame ?_ ?_ ?_ ?_) (.inl ?_) (Dialed.runStepWithin 2) hs
    all_goals first | rfl | exact hconn
  · refine Dialed.runStep (h.frame ?_ ?_ ?_ ?_) (not_adoptsStale (.inl ?_)) hs
    all_goals first | rfl | exact hconn
  · exact h.runStep (not_adoptsStale (.inl hconn)) hs
  · cases hs
    exact h

lemma Dialed.onAssetRetrieved (h : Dialed s) {response : RASResponse} {assetId : ByteString}
    (hs : s.onAssetRetrieved response assetId = some s') : Dialed s' := by
  simp only [PullReplicationService.onAssetRetrieved, Bool.not_eq_eq_eq_not, Bool.not_true] at hs
  split_ifs at hs with hno
  · cases hs
    exact h
  all_goals have hconn : s.connected = true := by simpa using hno
  · refine Dialed.runStep (h.frame ?_ ?_ ?_ ?_) (not_adoptsStale (.inl ?_)) hs
    all_goals first | rfl | exact hconn
  · cases hs
    exact h.frame rfl rfl rfl rfl
  · split at hs
    · cases hs
    · cases hs
      exact h.frame rfl rfl rfl rfl

lemma Dialed.onResponse (h : Dialed s) {p : PendingTransferRequest Callback × RASResponse}
    (hs : s.onResponse p = some s') : Dialed s' := by
  unfold PullReplicationService.onResponse at hs
  split at hs
  · exact h.onGetStoredAssetIds hs
  · exact h.onAssetRetrieved hs

/-- The next service is a new one. -/
lemma Dialed.onServerConnectionFailed (h : Dialed s)
    (hs : s.onServerConnectionFailed = some s') : Dialed s' := by
  have hnew {s₁ : PullReplicationService} (hsvc : s₁.assetSvc = none)
      (hdials : s₁.dials = s.dials) :
      Dialed s₁ := ⟨hdials ▸ h.dials, fun _ svc hsvc' => by simp [hsvc] at hsvc'⟩
  simp only [PullReplicationService.onServerConnectionFailed] at hs
  split_ifs at hs
  · refine Dialed.runStep (hnew ?_ ?_) ?_ hs
    · rfl
    · rfl
    · simp [adoptsStale]
  · cases hs
    exact hnew rfl rfl
  · cases hs
    exact hnew rfl rfl
  · cases hs
    exact h

lemma Dialed.advance (h : Dialed s) {svc : AssetSvc} (hsvc : s.assetSvc = some svc)
    {service : RemoteAssetService Callback} (hs : s.advance svc service = some s') : Dialed s' := by
  have hset : Dialed { s with assetSvc := some { svc with service := service } } := by
    refine ⟨h.dials, fun hno svc' hsvc' => ?_⟩
    cases hsvc'
    exact h.next hno svc hsvc
  simp only [PullReplicationService.advance] at hs
  split_ifs at hs
  · exact hset.onServerConnectionFailed hs
  · revert hs
    generalize service.invoked.drop svc.service.invoked.length = called
    revert hset
    generalize ({ s with assetSvc := _ } : PullReplicationService) = s₁
    intro hset hs
    induction called generalizing s₁ with
    | nil =>
      cases hs
      exact hset
    | cons p called ih =>
      rw [List.foldlM_cons] at hs
      obtain ⟨s₂, hs₂, hs⟩ := Option.bind_eq_some_iff.mp hs
      exact ih s₂ (hset.onResponse hs₂) hs

lemma Dialed.serviceStep (h : Dialed s) {e : RemoteAssetService.Event Callback}
    (hs : s.serviceStep e = some s') : Dialed s' := by
  unfold PullReplicationService.serviceStep at hs
  cases hsvc : s.assetSvc with
  | none => simp [hsvc] at hs
  | some svc =>
    simp only [hsvc] at hs
    split at hs
    · next success service _ =>
      unfold onServiceConnectionStatus at hs
      split_ifs at hs
      · cases hs
        refine ⟨h.dials, fun hno svc' hsvc' => ?_⟩
        cases hsvc'
        exact h.next hno svc hsvc
      · refine Dialed.runStep ?_ (not_adoptsStale (.inl ?_)) hs
        · exact ⟨h.dials, by simp⟩
        · rfl
    · exact h.advance hsvc hs
    · exact h.advance hsvc hs
    · exact h.advance hsvc hs
    · exact h.advance hsvc hs
    · cases hs

/-- No stale service is kept when a handler looks at the settings. -/
def renews (s : PullReplicationService) : Event → Bool
  | .reconnect | .restart | .stored _ => !s.adoptsStale
  | _ => true

lemma Dialed.step (h : Dialed s) {e : Event} (hrenews : s.renews e = true)
    (hs : s.step e = some s') :
    Dialed s' := by
  cases e with
  | setMaster | setIndex | clock =>
    cases hs
    exact h.frame rfl rfl rfl rfl
  | expireReconnect | expireRestart =>
    obtain ⟨t, -, rfl⟩ := Option.map_eq_some_iff.mp hs
    exact h.frame rfl rfl rfl rfl
  | reconnect =>
    obtain ⟨-, hs⟩ := Option.ite_none_right_eq_some.mp hs
    obtain ⟨t, -, hs⟩ := Option.bind_eq_some_iff.mp hs
    obtain ⟨⟨s₁, ok⟩, hverified, rfl⟩ := Option.map_eq_some_iff.mp hs
    refine (Dialed.verifyConnection (h.frame ?_ ?_ ?_ ?_) ?_ hverified).1
    all_goals first | rfl | exact (Bool.not_eq_eq_eq_not ..).mp hrenews
  | restart =>
    obtain ⟨-, hs⟩ := Option.ite_none_right_eq_some.mp hs
    obtain ⟨t, -, hs⟩ := Option.bind_eq_some_iff.mp hs
    refine Dialed.runStep (h.frame ?_ ?_ ?_ ?_) ?_ hs
    all_goals first | rfl | exact (Bool.not_eq_eq_eq_not ..).mp hrenews
  | service e => exact h.serviceStep hs
  | orphan i =>
    simp only [PullReplicationService.step] at hs
    split at hs
    · cases hs
    · obtain ⟨-, hs⟩ := Option.ite_none_right_eq_some.mp hs
      refine Dialed.onResponse (h.frame ?_ ?_ ?_ ?_) hs
      all_goals rfl
  | stored i =>
    simp only [PullReplicationService.step] at hs
    split at hs
    · cases hs
    · obtain ⟨-, hs⟩ := Option.ite_none_right_eq_some.mp hs
      simp only [onAfterAssetStored] at hs
      split_ifs at hs
      · refine Dialed.runStep (h.frame ?_ ?_ ?_ ?_) ?_ hs
        all_goals first | rfl | exact (Bool.not_eq_eq_eq_not ..).mp hrenews
      · cases hs
        exact h.frame rfl rfl rfl rfl

lemma dialed_new (replicationMaster : Option Endpoint) (startAt : Fin 4096) (batchSize : ℕ)
    (existenceIndex : List Uuid) (master : Endpoint) :
    Dialed (new replicationMaster startAt batchSize existenceIndex master) :=
      ⟨by simp [new], by simp [new]⟩

/-- Every connection is dialled to the master that was adopted last. -/
theorem dials_adopted_master {replicationMaster : Option Endpoint} {startAt : Fin 4096}
    {batchSize : ℕ} {existenceIndex : List Uuid} {master : Endpoint} {s t : PullReplicationService}
    {es : List Event}
    (hstart : (new replicationMaster startAt batchSize existenceIndex master).runStep = some s)
    (hrenews : Machine.Guarded step (fun s e => s.renews e = true) s es)
    (hrun : Machine.run step s es = some t) : ∀ p ∈ t.dials, p.1 = p.2 := by
  have hs : Dialed s := (dialed_new ..).runStep (by simp [adoptsStale, new]) hstart
  have ht : Dialed t := Machine.run_invariant (fun _ _ _ h hrenews hstep => h.step hrenews hstep) hs
    hrenews hrun
  exact ht.dials

/-- The master changes while the first connection is being made. -/
def masterChanged : List Event :=
  [.setMaster (some ⟨2, 80⟩), .service (.connected true), .service .resume, .service .resume,
    .service .resume]

theorem changed_master_dialed :
    ∃ s t, (new (some ⟨1, 80⟩) 0 1 [] ⟨1, 80⟩).runStep = some s ∧
      Machine.run step s masterChanged = some t ∧ t.dials.length = 2 ∧
      ∀ p ∈ t.dials, p.1 = p.2 := by
  obtain ⟨s, t, hs, hrenews, hrun, hlen⟩ : ∃ s t,
      (new (some ⟨1, 80⟩) 0 1 [] ⟨1, 80⟩).runStep = some s ∧
      Machine.Guarded step (fun s e => s.renews e = true) s masterChanged ∧
      Machine.run step s masterChanged = some t ∧ t.dials.length = 2 := by
    refine ⟨_, _, rfl, ?_, rfl, rfl⟩
    repeat' refine .cons rfl rfl ?_
    trivial
  exact ⟨s, t, hs, hrun, hlen, dials_adopted_master hs hrenews hrun⟩

/-- The master changes while an attempt to connect has failed. -/
def masterChangedUnconnected : List Event :=
  [.service (.connected false), .service .resume, .service .resume, .setMaster (some ⟨2, 80⟩),
    .expireReconnect, .reconnect]

theorem old_master_dialed :
    ∃ s t, (new (some ⟨1, 80⟩) 0 1 [] ⟨1, 80⟩).runStep = some s ∧
      Machine.run step s masterChangedUnconnected = some t ∧
      t.dials.getLast? = some (⟨1, 80⟩, ⟨2, 80⟩) := ⟨_, _, rfl, rfl, rfl⟩

end PullReplicationService

end Whip
