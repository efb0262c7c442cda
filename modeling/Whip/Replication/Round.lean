import Whip.Replication.Chain
import Whip.Replication.Listing

/-!
# A round of pull replication

Over a connection that stays up, a round asks for the identifiers of the prefixes `000` to `fff`,
one after the other, and goes on to the next when it has got every asset that it had not. At its end
the slave has all the assets that were listed.
-/

namespace Whip

open Pipelined Pipelined.Client RemoteAssetService

namespace PullReplicationService

variable {s s' : PullReplicationService} {masters : ℕ → Disk}
  {base : List (PendingTransferRequest Callback × RASResponse)}

/-! ### Where a round stands -/

/-- The callbacks that the asset service has called. -/
def called (s : PullReplicationService) : List (PendingTransferRequest Callback × RASResponse) :=
  s.assetSvc.elim [] (·.service.invoked)

/-- The connection is up, and is that of the master in the settings. -/
structure Up (s : PullReplicationService) : Prop where
  connected : s.connected = true
  isOpen : s.closed = false
  master : s.replicationMaster = some s.replicationMasterEndpoint
  startAt : s.startAt = 0

/-- The first `n` prefixes have been listed, in order, since `base`. -/
def Listed (base : List (PendingTransferRequest Callback × RASResponse))
    (s : PullReplicationService)
    (n : ℕ) : Prop :=
  ∃ later, s.called = base ++ later ∧
    ((later.map Prod.fst).filter isListing).map (·.id) = (List.range n).map VFSBackend.hexHead

/-- The assets with the first `n` prefixes are there. -/
def Covered (masters : ℕ → Disk) (s : PullReplicationService) (n : ℕ) : Prop :=
  ∀ m < n, ∀ id ∈ (masters m).globalIds (VFSBackend.hexHead m),
    ExistenceIndex.assetExists s.existenceIndex id = true

/-- Where a round that has begun at `base` stands. -/
inductive Position (masters : ℕ → Disk)
    (base : List (PendingTransferRequest Callback × RASResponse)) (s : PullReplicationService) :
    Prop
  | listing (lt : s.currentAssetPrefix < 4096)
      (step : s.currentStep = .none ∧ s.currentAssetPrefix = 0 ∨ s.currentStep = .idList)
      (requests : s.requests = [listingOf s.currentAssetPrefix])
      (listed : Listed base s s.currentAssetPrefix)
      (covered : Covered masters s s.currentAssetPrefix)
  | batch (lt : s.currentAssetPrefix < 4096) (step : s.currentStep = .retrieve)
      (requests : ∀ r ∈ s.requests, r = getOf r.id)
      (valid : (masters s.currentAssetPrefix).GlobalsValid)
      (listed : Listed base s (s.currentAssetPrefix + 1))
      (covered : Covered masters s s.currentAssetPrefix)
      (rest : ∀ id ∈ (masters s.currentAssetPrefix).globalIds
        (VFSBackend.hexHead s.currentAssetPrefix),
        ExistenceIndex.assetExists s.existenceIndex id = true ∨ id ∈ s.pendingAssets ∨
          getOf id ∈ s.requests)
  | rested (step : s.currentStep = .wait) (requests : s.requests = []) (listed : Listed base s 4096)
      (covered : Covered masters s 4096)

/-- No asset is asked for that is there. -/
def AsksMissing (s s' : PullReplicationService) : Prop :=
  ∀ r ∈ s'.requests, r ∉ s.requests → ∀ id, r.callback = .onAssetRetrieved id →
    ExistenceIndex.assetExists s.existenceIndex id = false

/-! ### Asking -/

lemma Up.verifyConnection (h : Up s) (hsettled : Orderly s) :
    s.verifyConnection = some (s, true) := by
  obtain ⟨svc, hsvc, -⟩ := hsettled.live h.connected
  have hensure := ensureConnection_of_connected h.connected hsvc
  unfold PullReplicationService.verifyConnection
  split
  · split
    · next ep hep =>
      obtain rfl := Option.some.inj (h.master.symm.trans hep)
      rw [if_neg (by simp), hensure]
    · next hnone => simp [h.master] at hnone
  · rw [hensure]

lemma Up.runStepWithin (h : Up s) (hs : Orderly s) (depth : ℕ) :
    s.runStepWithin (depth + 1) = s.replicateStep (runStepWithin depth) := by
  rw [PullReplicationService.runStepWithin, h.verifyConnection hs]

lemma Up.established (h : Up s) {svc : AssetSvc} (hsvc : s.assetSvc = some svc) :
    svc.service.established = true := by
  simpa [closed, h.connected, hsvc] using h.isOpen

lemma Free.ask (h : Free s) (hup : Up s) (hlt : s.currentAssetPrefix < 4096)
    (hstep : s.currentStep = .none ∧ s.currentAssetPrefix = 0 ∨ s.currentStep = .idList)
    (hlisted : Listed base s s.currentAssetPrefix)
    (hcovered : Covered masters s s.currentAssetPrefix)
    (hs : s.retrieveIdListForPrefix = some s') :
    Up s' ∧ Position masters base s' ∧ AsksMissing s s' := by
  obtain ⟨svc, hsvc, hlive⟩ := h.live hup.connected
  obtain ⟨svc', hsvc', rfl⟩ := Option.map_eq_some_iff.mp hs
  rw [hsvc] at hsvc'
  cases hsvc'
  have hopen := hup.established hsvc
  have hnone : svc.service.outstanding = [] := by
    simpa [PullReplicationService.requests, hsvc] using h.requests
  obtain ⟨-, hperm⟩ := hlive.issue hopen (listingOf s.currentAssetPrefix)
  rw [hnone, List.nil_append, List.perm_singleton] at hperm
  have hup' : Up { s with assetSvc := some { svc with
      service := svc.service.issue (listingOf s.currentAssetPrefix) } } := by
    refine ⟨hup.connected, ?_, hup.master, hup.startAt⟩
    simp [closed, RemoteAssetService.issue, hopen]
  refine ⟨hup', .listing hlt hstep hperm ?_ hcovered, ?_⟩
  · obtain ⟨later, hcalled, hlater⟩ := hlisted
    refine ⟨later, ?_, hlater⟩
    rw [← hcalled, called, called, hsvc]
    exact invoked_request ..
  · intro r hr _ id hid
    have hr : r ∈ (svc.service.issue (listingOf s.currentAssetPrefix)).outstanding := hr
    rw [hperm, List.mem_singleton] at hr
    simp [hr, listingOf] at hid

lemma Listed.of_called {n : ℕ} (h : Listed base s n) (hcalled : s'.called = s.called) :
    Listed base s' n := by
  obtain ⟨later, hbase, hlater⟩ := h
  exact ⟨later, hcalled.trans hbase, hlater⟩

lemma Free.askNext (h : Free s) (hup : Up s) (hlt : s.currentAssetPrefix < 4096)
    (hlisted : Listed base s (s.currentAssetPrefix + 1))
    (hcovered : Covered masters s (s.currentAssetPrefix + 1)) (depth : ℕ)
    (hs : s.retrieveNextIdList (runStepWithin (depth + 1)) = some s') :
    Up s' ∧ Position masters base s' ∧ AsksMissing s s' := by
  unfold PullReplicationService.retrieveNextIdList at hs
  split_ifs at hs with hmore
  · have hmoved := h.move .idList (by simp) (s.currentAssetPrefix + 1) h.pending
    have hup' : Up
        { s with currentStep := .idList, currentAssetPrefix := s.currentAssetPrefix + 1 } :=
      ⟨hup.connected, hup.isOpen, hup.master, hup.startAt⟩
    rw [hup'.runStepWithin hmoved.toOrderly] at hs
    exact hmoved.ask hup' (Nat.lt_succ_of_le hmore) (.inr rfl) hlisted hcovered hs
  · cases hs
    have hlast : s.currentAssetPrefix + 1 = 4096 := by omega
    rw [hlast] at hlisted hcovered
    refine ⟨⟨hup.connected, hup.isOpen, hup.master, hup.startAt⟩,
      .rested rfl h.requests hlisted hcovered, ?_⟩
    intro r hr
    have hr : r ∈ s.requests := hr
    simp [h.requests] at hr

lemma nextBatch_spec (index : List Uuid) (batchSize sent : ℕ) (pending : List ByteString) :
    (∀ id ∈ pending, ExistenceIndex.assetExists index id = true ∨
      id ∈ (nextBatch index batchSize sent pending).1 ∨
      id ∈ (nextBatch index batchSize sent pending).2) ∧
    (∀ id ∈ (nextBatch index batchSize sent pending).1,
      ExistenceIndex.assetExists index id = false) ∧
    ((nextBatch index batchSize sent pending).1 = [] →
      (nextBatch index batchSize sent pending).2 = []) := by
  fun_induction nextBatch index batchSize sent pending with
  | case1 => simp
  | case2 sent nextAsset rest hexists ih =>
    refine ⟨fun id hid => ?_, ih.2⟩
    rcases List.mem_cons.mp hid with rfl | hid
    · exact .inl hexists
    · exact ih.1 id hid
  | case3 sent nextAsset rest hnot hlast =>
    refine ⟨fun id hid => .inr ?_, fun id hid => ?_, fun h => by cases h⟩
    · simpa using hid
    · rw [List.mem_singleton.mp hid]
      simpa using hnot
  | case4 sent nextAsset rest hnot hmore batch ih =>
    refine ⟨fun id hid => ?_, fun id hid => ?_, fun h => by cases h⟩
    · rcases List.mem_cons.mp hid with rfl | hid
      · exact .inr (.inl (by simp))
      · exact (ih.1 id hid).imp_right (Or.imp_left (List.mem_cons_of_mem _))
    · rcases List.mem_cons.mp hid with rfl | hid
      · simpa using hnot
      · exact ih.2.1 id hid

lemma kept_getAssets (service : RemoteAssetService Callback) (ids : List ByteString) :
    (ids.foldl (fun service id => service.getAsset id false (.onAssetRetrieved id))
      service).established = service.established ∧
    (ids.foldl (fun service id => service.getAsset id false (.onAssetRetrieved id))
      service).invoked = service.invoked := by
  induction ids generalizing service with
  | nil => exact ⟨rfl, rfl⟩
  | cons id ids ih =>
    obtain ⟨hopen, hinvoked⟩ := ih (service.getAsset id false (.onAssetRetrieved id))
    exact ⟨hopen.trans (established_request ..), hinvoked.trans (invoked_request ..)⟩

/-- The next batch: what is left of the prefix is asked for, or still pending. -/
lemma Free.askBatch (h : Free s) (hup : Up s) (hlt : s.currentAssetPrefix < 4096)
    (hstep : s.currentStep = .retrieve) (hvalid : (masters s.currentAssetPrefix).GlobalsValid)
    (hlisted : Listed base s (s.currentAssetPrefix + 1))
    (hcovered : Covered masters s s.currentAssetPrefix)
    (hrest : ∀ id ∈ (masters s.currentAssetPrefix).globalIds
      (VFSBackend.hexHead s.currentAssetPrefix),
      ExistenceIndex.assetExists s.existenceIndex id = true ∨ id ∈ s.pendingAssets) (depth : ℕ)
    (hs : s.retrieveNextMissingAssetBatch (runStepWithin (depth + 1)) = some s') :
    Up s' ∧ Position masters base s' ∧ AsksMissing s s' := by
  obtain ⟨svc, hsvc, hlive⟩ := h.live hup.connected
  have hopen := hup.established hsvc
  have hnone : svc.service.outstanding = [] := by
    simpa [PullReplicationService.requests, hsvc] using h.requests
  have hnodup := h.pending.sublist (nextBatch_sublist s.existenceIndex s.batchSize 0
    s.pendingAssets)
  obtain ⟨hsplit, hmissing, hend⟩ := nextBatch_spec s.existenceIndex s.batchSize 0 s.pendingAssets
  simp only [PullReplicationService.retrieveNextMissingAssetBatch] at hs
  generalize nextBatch s.existenceIndex s.batchSize 0 s.pendingAssets = batch
    at hs hnodup hsplit hmissing hend
  obtain ⟨hids, hlater, -⟩ := List.nodup_append.mp hnodup
  split_ifs at hs with hempty
  · -- nothing is missing, so the prefix is covered
    rw [List.isEmpty_iff] at hempty
    have hall : Covered masters s (s.currentAssetPrefix + 1) := by
      intro m hm id hid
      rcases Nat.lt_succ_iff_lt_or_eq.mp hm with hm | rfl
      · exact hcovered m hm id hid
      · refine (hrest id hid).elim (·) fun hpending => ?_
        simpa [hempty, hend hempty] using hsplit id hpending
    have hup' : Up { s with pendingAssets := batch.2 } :=
      ⟨hup.connected, hup.isOpen, hup.master, hup.startAt⟩
    exact (h.move _ h.hasMaster s.currentAssetPrefix hlater).askNext hup' hlt hlisted hall depth hs
  · obtain ⟨svc', hsvc', rfl⟩ := Option.map_eq_some_iff.mp hs
    have hsame : s.assetSvc = some svc' := hsvc'
    rw [hsvc] at hsame
    cases hsame
    obtain ⟨-, hperm⟩ := live_getAssets hlive hopen batch.1
    obtain ⟨hopen', hinvoked⟩ := kept_getAssets svc.service batch.1
    rw [hnone, List.nil_append] at hperm
    refine ⟨⟨hup.connected, ?_, hup.master, hup.startAt⟩,
      .batch hlt hstep (fun r hr => ?_) hvalid ?_
      hcovered (fun id hid => ?_), fun r hr _ id hid => ?_⟩
    · simp [closed, hopen', hopen]
    · obtain ⟨id, -, rfl⟩ := List.mem_map.mp (hperm.mem_iff.mp hr)
      rfl
    · refine hlisted.of_called ?_
      simp only [called, hsvc]
      exact hinvoked
    · rcases hrest id hid with hexists | hpending
      · exact .inl hexists
      · refine (hsplit id hpending).imp_right (Or.symm ∘ Or.imp_left fun hnow => ?_)
        exact hperm.mem_iff.mpr (List.mem_map.mpr ⟨id, hnow, rfl⟩)
    · obtain ⟨id', hid', rfl⟩ := List.mem_map.mp (hperm.mem_iff.mp hr)
      cases hid
      exact hmissing _ hid'

/-! ### Answers -/

/-- The list of a prefix arrives. -/
lemma Free.list (h : Free s) (hup : Up s) (hlt : s.currentAssetPrefix < 4096)
    (hlisted : Listed base s (s.currentAssetPrefix + 1))
    (hcovered : Covered masters s s.currentAssetPrefix)
    (hvalid : (masters s.currentAssetPrefix).GlobalsValid) {response : RASResponse}
    (hok : response.isError = false)
    (hmessage : response.message =
      listFor (masters s.currentAssetPrefix) (listingOf s.currentAssetPrefix))
    (hs : s.onGetStoredAssetIds response = some s') :
    Up s' ∧ Position masters base s' ∧ AsksMissing s s' := by
  have hids := splitIds_listFor hvalid s.currentAssetPrefix
  rw [← hmessage] at hids
  -- an identifier of the list is there already, or becomes pending
  have hsplit : ∀ id ∈ (masters s.currentAssetPrefix).globalIds
      (VFSBackend.hexHead s.currentAssetPrefix),
      ExistenceIndex.assetExists s.existenceIndex id = true ∨
      id ∈ (splitIds response.message).filter fun id =>
        id ≠ [] ∧ ¬ ExistenceIndex.assetExists s.existenceIndex id := by
    intro id hid
    rw [← hids, List.mem_filter, decide_eq_true_eq] at hid
    by_cases hexists : ExistenceIndex.assetExists s.existenceIndex id = true
    · exact .inl hexists
    · exact .inr (List.mem_filter.mpr ⟨hid.1, decide_eq_true ⟨hid.2, hexists⟩⟩)
  have hall (hnone : ((splitIds response.message).filter fun id =>
      id ≠ [] ∧ ¬ ExistenceIndex.assetExists s.existenceIndex id) = []) :
      Covered masters s (s.currentAssetPrefix + 1) := by
    intro m hm id hid
    rcases Nat.lt_succ_iff_lt_or_eq.mp hm with hm | rfl
    · exact hcovered m hm id hid
    · refine (hsplit id hid).resolve_right ?_
      rw [hnone]
      exact List.not_mem_nil
  have hnodup : ((splitIds response.message).filter fun id =>
      id ≠ [] ∧ ¬ ExistenceIndex.assetExists s.existenceIndex id).Nodup := by
    refine nodup_pending ?_ s.existenceIndex
    rw [hids]
    exact hvalid.nodup _
  simp only [PullReplicationService.onGetStoredAssetIds] at hs
  split_ifs at hs with hno herror hempty hparse hnone
  · simp [hup.connected] at hno
  · refine h.askNext hup hlt hlisted (hall ?_) 1 hs
    rw [hempty]
    rfl
  · rw [List.isEmpty_iff] at hnone
    have hmoved := h.move _ h.hasMaster s.currentAssetPrefix hnodup
    refine hmoved.askNext ⟨hup.connected, hup.isOpen, hup.master, hup.startAt⟩ hlt hlisted
      (hall hnone)
      1 hs
  · have hmoved := h.move .retrieve (by simp) s.currentAssetPrefix hnodup
    have hup' : Up { s with
        currentStep := .retrieve
        pendingAssets := (splitIds response.message).filter fun id =>
          id ≠ [] ∧ ¬ ExistenceIndex.assetExists s.existenceIndex id } :=
      ⟨hup.connected, hup.isOpen, hup.master, hup.startAt⟩
    rw [runStep, hup'.runStepWithin hmoved.toOrderly] at hs
    exact hmoved.askBatch hup' hlt rfl hvalid hlisted hcovered hsplit 0 hs
  · simp [hok] at herror
  · simp [hok] at herror

/-! ### A clean round -/

/-- The steps of a round in which nothing goes wrong: the master stays the same, identifiers are
only added to the index, the connection stays up, and a listing is answered from a disk that meets
`P`. -/
def Clean (P : ℕ → Disk → Prop) (s : PullReplicationService) : Event → Prop
  | .setMaster replicationMaster => replicationMaster = s.replicationMaster
  | .setIndex existenceIndex     => s.existenceIndex ⊆ existenceIndex
  | .service (.connected success) => success = true
  | .service e => ∀ svc ∈ s.assetSvc, svc.service.Delivers e ∧
      ∀ data header req, e = .read (some data) → svc.service.reading = some (.data header) →
        svc.service.sent.head? = some req → req.type = .storedAssetIdsGet →
        ∃ k, P s.currentAssetPrefix k ∧ k.GlobalsValid ∧ data = listFor k req
  | _ => True

/-- A round that has begun at `base` goes on. -/
structure Round (masters : ℕ → Disk)
    (base : List (PendingTransferRequest Callback × RASResponse)) (s : PullReplicationService) :
    Prop
    extends Settled s where
  up : Up s
  position : Position masters base s

lemma assetExists_mono {index index' : List Uuid} (h : index ⊆ index') {id : ByteString}
    (hid : ExistenceIndex.assetExists index id = true) :
    ExistenceIndex.assetExists index' id = true := by
  unfold ExistenceIndex.assetExists at hid ⊢
  split at hid
  · simpa using h (by simpa using hid)
  · cases hid

/-- What a store claims. -/
lemma assetExists_claimed (index : List Uuid) {id : ByteString}
    (hid : Validator.isValidUUID id = true) :
    ExistenceIndex.assetExists (if ExistenceIndex.assetExists index id then index
      else ExistenceIndex.addNewId index id) id = true := by
  split_ifs with hexists
  · exact hexists
  · have hparse := Uuid.parse_text ⟨id, hid⟩
    simp only at hparse
    simp [ExistenceIndex.assetExists, ExistenceIndex.addNewId, hparse]

lemma subset_claimed (index : List Uuid) (id : ByteString) :
    index ⊆ if ExistenceIndex.assetExists index id then index
      else ExistenceIndex.addNewId index id := by
  split_ifs
  · exact List.Subset.refl _
  · unfold ExistenceIndex.addNewId
    split
    · exact List.subset_insert _ _
    · exact List.Subset.refl _

lemma Covered.mono {n : ℕ} (h : Covered masters s n)
    (hindex : s.existenceIndex ⊆ s'.existenceIndex) : Covered masters s' n :=
  fun m hm id hid => assetExists_mono hindex (h m hm id hid)

variable {svc : AssetSvc} {service : RemoteAssetService Callback}

/-- One more callback has been called. -/
lemma Listed.answered {n : ℕ} (h : Listed base s n) (hsvc : s.assetSvc = some svc)
    {req : PendingTransferRequest Callback} {response : RASResponse}
    (hinvoked : service.invoked = svc.service.invoked ++ [(req, response)]) :
    (isListing req = false →
      Listed base { s with assetSvc := some { svc with service := service } } n) ∧
    (req = listingOf n →
      Listed base { s with assetSvc := some { svc with service := service } } (n + 1)) := by
  obtain ⟨later, hcalled, hlater⟩ := h
  simp only [called, hsvc, Option.elim_some] at hcalled
  have hcalled' : called { s with assetSvc := some { svc with service := service } } =
      base ++ (later ++ [(req, response)]) := by
    rw [← List.append_assoc, ← hcalled]
    exact hinvoked
  constructor
  · intro hreq
    refine ⟨_, hcalled', ?_⟩
    simpa [hreq] using hlater
  · rintro rfl
    refine ⟨_, hcalled', ?_⟩
    rw [List.range_succ, List.map_append, List.map_append, List.filter_append, List.map_append,
      hlater]
    rfl

/-- The steps of a clean round keep to one chain. -/
lemma Round.steady_service (h : Round masters base s) {P : ℕ → Disk → Prop}
    {e : RemoteAssetService.Event Callback} (hio : e.isIo = true) (hclean : s.Clean P (.service e))
    (hs : s.serviceStep e = some s') : s.steady (.service e) = true := by
  obtain ⟨svc, hsvc, hlive⟩ := h.live h.up.connected
  obtain ⟨service, hstep, -⟩ := advance_of_serviceStep hsvc hio hs
  have hopen := h.up.established hsvc
  cases e with
  | written success | resume | runPosted i =>
    simp [steady, hsvc, not_fails (hclean svc hsvc).1]
  | read bytes =>
    obtain ⟨hdelivers, hlist⟩ := hclean svc hsvc
    simp only [steady, hsvc, Option.all_some, not_fails hdelivers, Bool.false_and, Bool.not_false,
      Bool.true_or, Bool.true_and]
    split
    · next ids header hread hop =>
      cases hread
      rw [Bool.or_eq_true, Bool.not_eq_true', decide_eq_true_eq, or_iff_not_imp_left,
        Bool.not_eq_false, List.any_eq_true]
      rintro ⟨r, hr, hlisting⟩
      obtain ⟨req, hreq, hfront⟩ := front_of_data hopen hop hstep
      have hrequests : s.requests = svc.service.outstanding := by simp [requests, hsvc]
      cases h.position with
      | rested step requests listed covered => simp [requests] at hr
      | batch lt step requests valid listed covered rest =>
        rw [requests r hr] at hlisting
        cases hlisting
      | listing lt step requests listed covered =>
        rw [← hrequests, requests, List.mem_singleton] at hreq
        rw [hreq] at hfront
        obtain ⟨k, -, hvalid, rfl⟩ := hlist _ _ _ rfl hop hfront rfl
        rw [splitIds_listFor hvalid]
        exact hvalid.nodup _
    · rfl
  | _ => cases hio

/-- The asset service calls nobody. -/
lemma Position.quiet (h : Position masters base s) (hsvc : s.assetSvc = some svc)
    (hsame : svc.service.outstanding.Perm service.outstanding)
    (hinvoked : service.invoked = svc.service.invoked) :
    Position masters base { s with assetSvc := some { svc with service := service } } ∧
      AsksMissing s { s with assetSvc := some { svc with service := service } } := by
  have hrequests : s.requests = svc.service.outstanding := by simp [requests, hsvc]
  rw [← hrequests] at hsame
  have hcalled : called { s with assetSvc := some { svc with service := service } } = s.called := by
    simp [called, hsvc, hinvoked]
  refine ⟨?_, fun r hr hnew => absurd (hsame.mem_iff.mpr hr) hnew⟩
  cases h with
  | rested step requests listed covered =>
    rw [requests] at hsame
    exact .rested step hsame.nil_eq.symm (listed.of_called hcalled) covered
  | listing lt step requests listed covered =>
    rw [requests, List.singleton_perm] at hsame
    exact .listing lt step hsame.symm (listed.of_called hcalled) covered
  | batch lt step requests valid listed covered rest =>
    refine .batch lt step (fun r hr => requests r (hsame.mem_iff.mpr hr)) valid
      (listed.of_called hcalled) covered fun id hid => ?_
    exact (rest id hid).imp_right (Or.imp_right fun hget => hsame.mem_iff.mp hget)

lemma onAssetRetrieved_asset (hyes : s.connected = true) {response : RASResponse}
    (hok : response.isError = false) {asset : Asset} (hasset : response.asset = some asset)
    (assetId : ByteString) :
    s.onAssetRetrieved response assetId = some { s with
      existenceIndex :=
        if ExistenceIndex.assetExists s.existenceIndex asset.getUUID then s.existenceIndex
        else ExistenceIndex.addNewId s.existenceIndex asset.getUUID
      stores := s.stores ++ [assetId] } := by
  simp [onAssetRetrieved, hyes, hok, hasset]

/-- The asset service answers a request. -/
lemma Round.answered (h : Round masters base s) (hsvc : s.assetSvc = some svc)
    (hlive : svc.service.Live) (hlive' : service.Live)
    (hup : Up { s with assetSvc := some { svc with service := service } })
    {req : PendingTransferRequest Callback} {data : ByteString}
    (hdropped : svc.service.outstanding.Perm (req :: service.outstanding))
    (hinvoked : service.invoked = svc.service.invoked ++ [(req, responseOf req data)])
    (hasset : req.type = .get ∨ req.type = .getDontCache → (⟨data⟩ : Asset).getUUID = req.id)
    (hlist : req.type = .storedAssetIdsGet → ∃ k, k = masters s.currentAssetPrefix ∧
      k.GlobalsValid ∧ data = listFor k req)
    (hs : { s with assetSvc := some { svc with service := service } }.onResponse
      (req, responseOf req data) = some s') :
    Up s' ∧ Position masters base s' ∧ AsksMissing s s' := by
  have hrequests : s.requests = svc.service.outstanding := by simp [requests, hsvc]
  rw [← hrequests] at hdropped
  have hmem : req ∈ s.requests := hdropped.mem_iff.mpr (by simp)
  cases h.position with
  | rested step requests listed covered => simp [requests] at hmem
  | listing lt step requests listed covered =>
    rw [requests, List.mem_singleton] at hmem
    subst hmem
    obtain ⟨hfree, -⟩ := h.toSettled.listed h.up.connected hsvc hlive hlive' rfl
      (hrequests ▸ hdropped)
    obtain ⟨k, rfl, hvalid, rfl⟩ := hlist rfl
    obtain ⟨hup', hposition, hasks⟩ := hfree.list hup lt ((listed.answered hsvc hinvoked).2 rfl)
      covered hvalid rfl rfl hs
    refine ⟨hup', hposition, fun r hr _ => hasks r hr ?_⟩
    rw [hfree.requests]
    exact List.not_mem_nil
  | batch lt step requests valid listed covered rest =>
    have hreq := requests req hmem
    obtain ⟨id, rfl⟩ : ∃ id, req = getOf id := ⟨_, hreq⟩
    have huuid : (⟨data⟩ : Asset).getUUID = id := hasset (.inr rfl)
    have hs : { s with assetSvc := some { svc with service := service } }.onAssetRetrieved
        ⟨some ⟨data⟩, false, false, []⟩ id = some s' := hs
    rw [onAssetRetrieved_asset (by exact h.up.connected) rfl rfl, huuid] at hs
    cases hs
    have hless (r : PendingTransferRequest Callback) (hr : r ∈ service.outstanding) :
        r ∈ s.requests := hdropped.mem_iff.mpr (by simp [hr])
    have hclaimed := subset_claimed s.existenceIndex id
    refine ⟨⟨hup.connected, hup.isOpen, hup.master, hup.startAt⟩, .batch lt step
      (fun r hr => requests r (hless r hr)) valid ?_ (covered.mono hclaimed) fun id' hid' => ?_,
      fun r hr hnew => absurd (hless r hr) hnew⟩
    · exact ((listed.answered hsvc hinvoked).1 rfl).of_called rfl
    · rcases rest id' hid' with hexists | hpending | hget
      · exact .inl (assetExists_mono hclaimed hexists)
      · exact .inr (.inl hpending)
      · rcases List.mem_cons.mp (hdropped.mem_iff.mp hget) with heq | hget
        · cases heq
          exact .inl (assetExists_claimed _ (valid.valid _ _ hid'))
        · exact .inr (.inr hget)

/-- The asset service makes a step on its own account. -/
lemma Round.advance (h : Round masters base s) {e : RemoteAssetService.Event Callback}
    (hio : e.isIo = true) (hclean : s.Clean (fun n k => k = masters n) (.service e))
    (hs : s.serviceStep e = some s') : Round masters base s' ∧ AsksMissing s s' := by
  have hsettled := h.toSettled.serviceStep (h.steady_service hio hclean hs) hs
  obtain ⟨svc, hsvc, hlive⟩ := h.live h.up.connected
  obtain ⟨service, hstep, hs⟩ := advance_of_serviceStep hsvc hio hs
  have hopen := h.up.established hsvc
  obtain ⟨hdelivers, hlist⟩ : svc.service.Delivers e ∧ ∀ data header req, e = .read (some data) →
      svc.service.reading = some (.data header) → svc.service.sent.head? = some req →
      req.type = .storedAssetIdsGet → ∃ k, k = masters s.currentAssetPrefix ∧ k.GlobalsValid ∧
        data = listFor k req := by
    cases e with
    | connected success => cases hio
    | _ => exact hclean svc hsvc
  obtain ⟨hopen', hcalled⟩ := hlive.delivers hopen hio hdelivers hstep
  have hup : Up { s with assetSvc := some { svc with service := service } } := by
    refine ⟨h.up.connected, ?_, h.up.master, h.up.startAt⟩
    simp [closed, hopen']
  have hrequests : s.requests = svc.service.outstanding := by simp [requests, hsvc]
  unfold PullReplicationService.advance at hs
  cases hlive.step hio hstep with
  | killed more closed invoked used drained => simp [hopen] at closed
  | cancelled req kills invoked live dropped closed => simp [hopen'] at closed
  | quiet kills invoked live same closed =>
    simp only [kills, lt_irrefl, if_false, invoked, List.drop_length, List.foldlM_nil] at hs
    cases hs
    obtain ⟨hposition, hasks⟩ := h.position.quiet hsvc same invoked
    exact ⟨⟨hsettled, hup, hposition⟩, hasks⟩
  | answered req response kills invoked live dropped isOpen nonfatal failed content =>
    simp only [kills, lt_irrefl, if_false, invoked, List.drop_left, List.foldlM_cons,
      List.foldlM_nil,
      bind_pure] at hs
    obtain hsame | ⟨req', data, header, rfl, hop, hfront, hinvoked⟩ := hcalled
    · simp [invoked] at hsame
    · rw [invoked, List.append_cancel_left_eq, List.cons.injEq, Prod.mk.injEq] at hinvoked
      obtain ⟨⟨rfl, rfl⟩, -⟩ := hinvoked
      simp only [Delivers, hop] at hdelivers
      obtain ⟨hup', hposition, hasks⟩ := h.answered hsvc hlive live hup dropped invoked
        (hdelivers req hfront).2 (hlist _ _ _ rfl hop hfront) hs
      exact ⟨⟨hsettled, hup', hposition⟩, hasks⟩

lemma replicateStep_of_retrieve (hstep : s.currentStep = .retrieve)
    (again : PullReplicationService → Option PullReplicationService) :
    s.replicateStep again = s.retrieveNextMissingAssetBatch again := by
  unfold replicateStep
  rw [hstep]

/-- A store has been completed. -/
lemma Round.stored (h : Round masters base s) {i : ℕ} {assetId : ByteString}
    (hi : s.stores[i]? = some assetId)
    (hs : { s with stores := s.stores.eraseIdx i }.onAfterAssetStored assetId = some s') :
    Round masters base s' ∧ AsksMissing s s' := by
  have hsettled := h.toSettled.stored hi (by simp [steady, h.up.isOpen]) hs
  obtain ⟨hretrieve, hlast, -⟩ := h.toSettled.storing hi rfl
  cases h.position with
  | rested step requests listed covered => simp [step] at hretrieve
  | listing lt step requests listed covered => simp [hretrieve] at step
  | batch lt step requests valid listed covered rest =>
    simp only [onAfterAssetStored, List.isEmpty_iff] at hs
    split_ifs at hs with hnone
    · have hfree := hlast hnone
      have hup : Up { s with
          stores := s.stores.eraseIdx i
          inProgressAssets := s.inProgressAssets.erase assetId } :=
        ⟨h.up.connected, h.up.isOpen, h.up.master, h.up.startAt⟩
      have hrequests : s.requests = [] := hfree.requests
      rw [runStep, hup.runStepWithin hfree.toOrderly,
        replicateStep_of_retrieve (by exact step)] at hs
      have hrest : ∀ id ∈ (masters s.currentAssetPrefix).globalIds
          (VFSBackend.hexHead s.currentAssetPrefix),
          ExistenceIndex.assetExists s.existenceIndex id = true ∨ id ∈ s.pendingAssets := by
        intro id hid
        simpa [hrequests] using rest id hid
      obtain ⟨hup', hposition, hasks⟩ :=
        hfree.askBatch hup lt step valid listed covered hrest 0 hs
      exact ⟨⟨hsettled, hup', hposition⟩, hasks⟩
    · cases hs
      exact ⟨⟨hsettled, ⟨h.up.connected, h.up.isOpen, h.up.master, h.up.startAt⟩,
        .batch lt step requests valid listed covered rest⟩, fun r hr hnew => absurd hr hnew⟩

/-- The settings, the clock and the timers have no part in a round, and the index may grow. -/
lemma Round.keep (h : Round masters base s) (hsettled : Settled s')
    (hconn : s'.connected = s.connected) (hsvc : s'.assetSvc = s.assetSvc)
    (hmaster : s'.replicationMaster = s.replicationMaster ∧
      s'.replicationMasterEndpoint = s.replicationMasterEndpoint)
    (hstart : s'.startAt = s.startAt) (hindex : s.existenceIndex ⊆ s'.existenceIndex)
    (hstep : s'.currentStep = s.currentStep) (hhead : s'.currentAssetPrefix = s.currentAssetPrefix)
    (hpending : s'.pendingAssets = s.pendingAssets) : Round masters base s' ∧ AsksMissing s s' := by
  have hrequests : s'.requests = s.requests := by simp [requests, hsvc]
  have hcalled : s'.called = s.called := by simp [called, hsvc]
  refine ⟨⟨hsettled, ⟨hconn.trans h.up.connected, ?_, ?_, hstart.trans h.up.startAt⟩, ?_⟩,
    fun r hr hnew => absurd (hrequests ▸ hr) hnew⟩
  · rw [← h.up.isOpen, closed, closed, hconn, hsvc]
  · rw [hmaster.1, hmaster.2, h.up.master]
  · cases h.position with
    | rested step requests listed covered =>
      exact .rested (hstep.trans step) (hrequests.trans requests) (listed.of_called hcalled)
        (covered.mono hindex)
    | listing lt step requests listed covered =>
      rw [← hhead] at lt requests listed covered
      exact .listing lt (by rwa [hstep, hhead]) (hrequests.trans requests)
        (listed.of_called hcalled) (covered.mono hindex)
    | batch lt step requests valid listed covered rest =>
      rw [← hhead] at lt valid listed covered rest
      refine .batch lt (hstep.trans step) (by rwa [hrequests]) valid (listed.of_called hcalled)
        (covered.mono hindex) fun id hid => ?_
      rw [hpending, hrequests]
      exact (rest id hid).imp_left (assetExists_mono hindex)

/-- A connection is not waited for during a round. -/
lemma Round.not_connecting (h : Round masters base s) {success : Bool} :
    s.serviceStep (.connected success) = none := by
  obtain ⟨svc, hsvc, hlive⟩ := h.live h.up.connected
  simp [PullReplicationService.serviceStep, hsvc, RemoteAssetService.step, hlive.connecting]

/-- The round goes on as long as the restart timer does not begin another one. -/
lemma Round.step (h : Round masters base s) {e : Event}
    (hclean : s.Clean (fun n k => k = masters n) e) (he : e ≠ .restart) (hs : s.step e = some s') :
    Round masters base s' ∧ AsksMissing s s' := by
  cases e with
  | setMaster master =>
    obtain rfl : master = s.replicationMaster := hclean
    have hsettled := h.toSettled.step (by exact h.master) hs
    cases hs
    exact h.keep hsettled rfl rfl ⟨rfl, rfl⟩ rfl (List.Subset.refl _) rfl rfl rfl
  | setIndex index =>
    have hsettled := h.toSettled.step rfl hs
    cases hs
    exact h.keep hsettled rfl rfl ⟨rfl, rfl⟩ rfl hclean rfl rfl rfl
  | clock due =>
    have hsettled := h.toSettled.step rfl hs
    cases hs
    exact h.keep hsettled rfl rfl ⟨rfl, rfl⟩ rfl (List.Subset.refl _) rfl rfl rfl
  | expireReconnect | expireRestart =>
    have hsettled := h.toSettled.step rfl hs
    obtain ⟨t, -, rfl⟩ := Option.map_eq_some_iff.mp hs
    exact h.keep hsettled rfl rfl ⟨rfl, rfl⟩ rfl (List.Subset.refl _) rfl rfl rfl
  | reconnect =>
    obtain ⟨-, hs⟩ := Option.ite_none_right_eq_some.mp hs
    obtain ⟨t, ht, -⟩ := Option.bind_eq_some_iff.mp hs
    have hrun := DeadlineTimer.waits_run ht
    obtain ⟨hwaits, -, -, -, hunconnected⟩ := h.toSettled.timer (by omega)
    have hno := hunconnected (by unfold waits at hwaits; omega)
    simp [h.up.connected] at hno
  | restart => exact absurd rfl he
  | service e =>
    obtain ⟨svc, -, hio | ⟨success, rfl⟩⟩ := serviceStep_cases hs
    · exact h.advance hio hclean hs
    · exact absurd hs (by simp [PullReplicationService.step, h.not_connecting])
  | orphan i => simp [PullReplicationService.step, h.orphans] at hs
  | stored i =>
    simp only [PullReplicationService.step] at hs
    split at hs
    · cases hs
    · next assetId hi => exact h.stored hi (Option.ite_none_right_eq_some.mp hs).2

/-! ### The beginning of a round -/

/-- The first connection is waited for. -/
structure Dialing (s : PullReplicationService) : Prop extends Settled s where
  unconnected : s.connected = false
  connecting : s.connecting = true
  first : s.currentStep = .none
  adopted : s.replicationMaster = some s.replicationMasterEndpoint
  startAt : s.startAt = 0

lemma replicateStep_of_none (hstep : s.currentStep = .none)
    (again : PullReplicationService → Option PullReplicationService) :
    s.replicateStep again = { s with currentAssetPrefix := s.startAt }.retrieveIdListForPrefix := by
  unfold replicateStep
  split
  · rfl
  all_goals next hother => simp [hstep] at hother

lemma replicateStep_of_wait (hstep : s.currentStep = .wait)
    (again : PullReplicationService → Option PullReplicationService) :
    s.replicateStep again = s.checkResumeNextReplRound again := by
  unfold replicateStep
  rw [hstep]

lemma Free.begin (h : Free s) (hup : Up s) (hstep : s.currentStep = .none) (depth : ℕ)
    (masters : ℕ → Disk) (hs : s.runStepWithin (depth + 1) = some s') :
    Up s' ∧ Position masters s.called s' := by
  rw [hup.runStepWithin h.toOrderly, replicateStep_of_none hstep] at hs
  have hzero : (s.startAt : ℕ) = 0 := by rw [hup.startAt]; rfl
  have hmoved := h.move _ h.hasMaster s.startAt h.pending
  have hlisted : Listed s.called { s with currentAssetPrefix := s.startAt } s.startAt :=
    ⟨[], by simp [called], by simp [hzero]⟩
  have hcovered : Covered masters { s with currentAssetPrefix := s.startAt } s.startAt := by
    intro m hm
    omega
  obtain ⟨hup', hposition, -⟩ := hmoved.ask ⟨hup.connected, hup.isOpen, hup.master, hup.startAt⟩
    s.startAt.isLt (.inl ⟨hstep, hzero⟩) hlisted hcovered hs
  exact ⟨hup', hposition⟩

lemma Dialing.connected (h : Dialing s) (hsvc : s.assetSvc = some svc)
    (hs : { s with assetSvc := some { svc with service := svc.service.onConnectionResult true }
      }.onServiceConnectionStatus true = some s') : ∃ masters base, Round masters base s' := by
  have hconnecting : svc.service.connecting = true := by
    simpa [PullReplicationService.connecting, hsvc] using h.connecting
  have hready := h.toSettled.connected hsvc hconnecting
  have hsettled := h.toSettled.onServiceConnectionStatus hsvc hconnecting hs
  have hup : Up { s with
      connected := true
      assetSvc := some { svc with service := svc.service.onConnectionResult true } } :=
    ⟨rfl, hready.usable.resolve_right fun hwait => by simp [h.first] at hwait, h.adopted, h.startAt⟩
  obtain ⟨hup', hposition⟩ := hready.toFree.begin hup h.first 1 (fun _ => {}) hs
  exact ⟨_, _, hsettled, hup', hposition⟩

/-- The restart timer begins another round, or is set again. -/
lemma Round.restart (h : Round masters base s) (hs : s.step .restart = some s') :
    ∃ base', Round masters base' s' := by
  have hsettled := h.toSettled.step (by simp [steady, h.up.isOpen]) hs
  obtain ⟨-, hs⟩ := Option.ite_none_right_eq_some.mp hs
  obtain ⟨t, ht, hs⟩ := Option.bind_eq_some_iff.mp hs
  obtain ⟨hfree, hstep⟩ := h.toSettled.restarting ht
  have hup : Up { s with replRestartTimer := t } :=
    ⟨h.up.connected, h.up.isOpen, h.up.master, h.up.startAt⟩
  rw [runStep, hup.runStepWithin hfree.toOrderly, replicateStep_of_wait (by exact hstep)] at hs
  unfold checkResumeNextReplRound at hs
  split_ifs at hs with hdue
  · have hmoved := hfree.move .none (by simp) s.currentAssetPrefix h.pending
    have hup' : Up { s with replRestartTimer := t, currentStep := .none } :=
      ⟨h.up.connected, h.up.isOpen, h.up.master, h.up.startAt⟩
    obtain ⟨hup', hposition⟩ := hmoved.begin hup' rfl 0 masters hs
    exact ⟨_, hsettled, hup', hposition⟩
  · cases hs
    exact ⟨base, (h.keep hsettled rfl rfl ⟨rfl, rfl⟩ rfl (List.Subset.refl _) rfl rfl rfl).1⟩

lemma Dialing.keep (h : Dialing s) (hsettled : Settled s') (hconn : s'.connected = s.connected)
    (hconnecting : s'.connecting = s.connecting)
    (hmaster : s'.replicationMaster = s.replicationMaster ∧
      s'.replicationMasterEndpoint = s.replicationMasterEndpoint)
    (hstart : s'.startAt = s.startAt) (hstep : s'.currentStep = s.currentStep) : Dialing s' := by
  refine ⟨hsettled, hconn.trans h.unconnected, hconnecting.trans h.connecting, hstep.trans h.first,
    ?_, hstart.trans h.startAt⟩
  rw [hmaster.1, hmaster.2, h.adopted]

lemma Dialing.step (h : Dialing s) {P : ℕ → Disk → Prop} {e : Event} (hclean : s.Clean P e)
    (hs : s.step e = some s') : Dialing s' ∨ ∃ masters base, Round masters base s' := by
  obtain ⟨svc, hsvc, hconnecting⟩ :
      ∃ svc, s.assetSvc = some svc ∧ svc.service.connecting = true := by
    simpa [PullReplicationService.connecting, Option.any_eq_true] using h.connecting
  obtain ⟨hno, -, -, hrestart, hreconnect⟩ := h.toSettled.dialing hsvc hconnecting
  have hfresh := h.fresh hno svc hsvc
  cases e with
  | setMaster master =>
    obtain rfl : master = s.replicationMaster := hclean
    have hsettled := h.toSettled.step (by exact h.master) hs
    cases hs
    exact .inl (h.keep hsettled rfl rfl ⟨rfl, rfl⟩ rfl rfl)
  | setIndex | clock =>
    have hsettled := h.toSettled.step rfl hs
    cases hs
    exact .inl (h.keep hsettled rfl rfl ⟨rfl, rfl⟩ rfl rfl)
  | expireReconnect | expireRestart =>
    have hsettled := h.toSettled.step rfl hs
    obtain ⟨t, -, rfl⟩ := Option.map_eq_some_iff.mp hs
    exact .inl (h.keep hsettled rfl rfl ⟨rfl, rfl⟩ rfl rfl)
  | reconnect =>
    obtain ⟨-, hs⟩ := Option.ite_none_right_eq_some.mp hs
    obtain ⟨t, ht, -⟩ := Option.bind_eq_some_iff.mp hs
    have hrun := DeadlineTimer.waits_run ht
    omega
  | restart =>
    obtain ⟨-, hs⟩ := Option.ite_none_right_eq_some.mp hs
    obtain ⟨t, ht, -⟩ := Option.bind_eq_some_iff.mp hs
    have hrun := DeadlineTimer.waits_run ht
    omega
  | orphan i => simp [PullReplicationService.step, h.orphans] at hs
  | stored i =>
    simp only [PullReplicationService.step] at hs
    split at hs
    · cases hs
    · next assetId hi =>
      have hstep := (h.toSettled.storing hi rfl).1
      simp [h.first] at hstep
  | service e =>
    have hs : s.serviceStep e = some s' := hs
    obtain ⟨svc', hsvc', hio | ⟨success, rfl⟩⟩ := serviceStep_cases hs
    · have hfails : svc.service.fails e = false := by
        unfold RemoteAssetService.fails
        split <;> simp [hfresh.idle.1]
      have hsteady : s.steady (.service e) = true := by
        simp [steady, hsvc, hfails, hfresh.idle.1]
      have hsettled := h.toSettled.serviceStep hsteady hs
      obtain ⟨service, hstep, hs⟩ := advance_of_serviceStep hsvc hio hs
      obtain ⟨hfresh', hsame, hkills⟩ := hfresh.step hio hstep
      simp only [PullReplicationService.advance, hkills, lt_irrefl, if_false, hfresh.invoked,
        hfresh'.invoked, List.drop_nil, List.foldlM_nil] at hs
      cases hs
      refine .inl (h.keep hsettled rfl ?_ ⟨rfl, rfl⟩ rfl rfl)
      simp [PullReplicationService.connecting, hsvc, hsame]
    · obtain rfl : success = true := hclean
      exact .inr (h.connected hsvc (connected_of_serviceStep hsvc hs).2)

lemma dialing_of_start {batchSize : ℕ} {existenceIndex : List Uuid} {master : Endpoint}
    (hs : (new (some master) 0 batchSize existenceIndex master).runStep = some s) : Dialing s := by
  have hsettled := settled_of_start hs
  have hverify : (new (some master) 0 batchSize existenceIndex master).verifyConnection =
      some (new (some master) 0 batchSize existenceIndex master).ensureConnection := by
    simp [PullReplicationService.verifyConnection, new, ReplicateStep.readsMaster]
  rw [runStep, PullReplicationService.runStepWithin, hverify] at hs
  cases hs
  exact ⟨hsettled, rfl, rfl, rfl, rfl, rfl⟩

/-- The disk that a listing is answered from is that of the master. -/
lemma Round.answeredFrom (h : Round masters base s) {e : Event}
    (hclean : s.Clean (fun _ _ => True) e) (hs : s.step e = some s') :
    ∃ masters', Round masters' base s ∧ s.Clean (fun n k => k = masters' n) e := by
  obtain ⟨svc, hsvc, hlive⟩ := h.live h.up.connected
  by_cases hread : ∃ data header req, e = .service (.read (some data)) ∧
      svc.service.reading = some (.data header) ∧ svc.service.sent.head? = some req ∧
      req.type = .storedAssetIdsGet
  · obtain ⟨data, header, req, rfl, hop, hfront, htype⟩ := hread
    obtain ⟨hdelivers, hlist⟩ := hclean svc hsvc
    obtain ⟨k, -, hvalid, hdata⟩ := hlist data header req rfl hop hfront htype
    obtain ⟨service, hstep, -⟩ := advance_of_serviceStep hsvc rfl hs
    obtain ⟨req', hreq, hfront'⟩ := front_of_data (h.up.established hsvc) hop hstep
    obtain rfl : req = req' := Option.some.inj (hfront.symm.trans hfront')
    have hmem : req ∈ s.requests := by simpa [requests, hsvc] using hreq
    cases h.position with
    | rested step requests listed covered => simp [requests] at hmem
    | batch lt step requests valid listed covered rest =>
      rw [requests req hmem] at htype
      cases htype
    | listing lt step requests listed covered =>
      refine ⟨Function.update masters s.currentAssetPrefix k, ⟨h.toSettled, h.up, .listing lt step
        requests listed fun m hm id hid => covered m hm id ?_⟩, fun svc' hsvc' => ?_⟩
      · rwa [Function.update_of_ne hm.ne] at hid
      · rw [hsvc] at hsvc'
        cases hsvc'
        refine ⟨hdelivers, fun data' header' req' he _ hfront' _ => ⟨k, by simp, hvalid, ?_⟩⟩
        cases he
        cases hfront.symm.trans hfront'
        exact hdata
  · refine ⟨masters, h, ?_⟩
    cases e with
    | service e =>
      cases e with
      | connected success => exact hclean
      | _ =>
        intro svc' hsvc'
        refine ⟨(hclean svc' hsvc').1, fun data header req he hop hfront htype => ?_⟩
        rw [hsvc] at hsvc'
        cases hsvc'
        exact absurd ⟨data, header, req, congrArg _ he, hop, hfront, htype⟩ hread
    | _ => exact hclean

/-- From the start, over a connection that stays up. -/
lemma round_of_start {u : PullReplicationService} {batchSize : ℕ} {existenceIndex : List Uuid}
    {master : Endpoint} {es : List Event}
    (hstart : (new (some master) 0 batchSize existenceIndex master).runStep = some s)
    (hclean : Machine.Guarded step (Clean fun _ _ => True) s es)
    (hrun : Machine.run step s es = some u) (hconn : u.connected = true) :
    ∃ masters base, Round masters base u := by
  have hu : Dialing u ∨ ∃ masters base, Round masters base u := by
    refine Machine.run_invariant (I := fun u => Dialing u ∨ ∃ masters base, Round masters base u) ?_
      (.inl (dialing_of_start hstart)) hclean hrun
    rintro s e s' (h | ⟨masters, base, h⟩) hclean hs
    · exact h.step hclean hs
    · by_cases he : e = .restart
      · subst he
        obtain ⟨base', h'⟩ := h.restart hs
        exact .inr ⟨masters, base', h'⟩
      · obtain ⟨masters', h', hclean'⟩ := h.answeredFrom hclean hs
        exact .inr ⟨masters', base, (h'.step hclean' he hs).1⟩
  refine hu.resolve_left fun h => ?_
  simp [h.unconnected] at hconn

/-- A round that has begun begins with the first prefix. -/
lemma Round.first (h : Round masters base s) (hnone : s.currentStep = .none) (masters' : ℕ → Disk) :
    Round masters' s.called s := by
  refine ⟨h.toSettled, h.up, ?_⟩
  cases h.position with
  | rested step requests listed covered => simp [hnone] at step
  | batch lt step requests valid listed covered rest => simp [hnone] at step
  | listing lt step requests listed covered =>
    obtain ⟨-, hzero⟩ : s.currentStep = .none ∧ s.currentAssetPrefix = 0 := by
      simpa [hnone] using step
    refine .listing lt step requests ⟨[], by simp, by simp [hzero]⟩ fun m hm => ?_
    omega

/-- A clean round copies every global asset of the master. -/
theorem clean_round_copies {s u t : PullReplicationService} {batchSize : ℕ}
    {existenceIndex : List Uuid} {master : Endpoint} {masters : ℕ → Disk} {es₀ es : List Event}
    (hstart : (new (some master) 0 batchSize existenceIndex master).runStep = some s)
    (hbefore : Machine.Guarded step (Clean fun _ _ => True) s es₀)
    (hbegun : Machine.run step s es₀ = some u) (hconn : u.connected = true)
    (hnone : u.currentStep = .none)
    (hclean : Machine.Guarded step (Clean fun n k => k = masters n) u es)
    (hone : ∀ e ∈ es, e ≠ .restart) (hrun : Machine.run step u es = some t)
    (hwait : t.currentStep = .wait) :
    (∀ id, Validator.isValidUUID id = true → ∃ n < 4096, VFSBackend.hexHead n = id.take 3 ∧
      (id ∈ (masters n).globalIds (id.take 3) →
        ExistenceIndex.assetExists t.existenceIndex id = true)) ∧
    (t.requests = [] ∧ ∃ later, t.called = u.called ++ later ∧
      ((later.map Prod.fst).filter isListing).map (·.id) =
        (List.range 4096).map VFSBackend.hexHead) ∧
    ∀ es₁ e es₂ v w, es = es₁ ++ e :: es₂ → Machine.run step u es₁ = some v → v.step e = some w →
      AsksMissing v w := by
  obtain ⟨masters₀, base₀, hround₀⟩ := round_of_start hstart hbefore hbegun hconn
  have hround := hround₀.first hnone masters
  have hguarded := hclean.and_forall hone
  have hrounds {v : PullReplicationService} {es : List Event}
      (hguarded : Machine.Guarded step
        (fun s e => s.Clean (fun n k => k = masters n) e ∧ e ≠ .restart) u es)
      (hrun : Machine.run step u es = some v) : Round masters u.called v :=
    Machine.run_invariant (fun _ _ _ h hclean hs => (h.step hclean.1 hclean.2 hs).1) hround
      hguarded hrun
  refine ⟨?_, ?_, fun es₁ e es₂ v w hes hv hw => ?_⟩
  · intro id hid
    obtain ⟨n, hle, hdir⟩ := VFSBackend.exists_hexHead ⟨id, hid⟩
    have hhead : VFSBackend.hexHead n = id.take 3 := hdir.symm
    have hn : n < 4096 := by omega
    refine ⟨n, hn, hhead, fun hmem => ?_⟩
    cases (hrounds hguarded hrun).position with
    | listing lt step requests listed covered => simp [hwait] at step
    | batch lt step requests valid listed covered rest => simp [hwait] at step
    | rested step requests listed covered => exact covered n hn id (hhead ▸ hmem)
  · cases (hrounds hguarded hrun).position with
    | listing lt step requests listed covered => simp [hwait] at step
    | batch lt step requests valid listed covered rest => simp [hwait] at step
    | rested step requests listed covered => exact ⟨requests, listed⟩
  · subst hes
    obtain ⟨hbefore, hafter⟩ := hguarded.append
    have hnext := hafter v hv
    exact ((hrounds hbefore hv).step hnext.1.1 hnext.1.2 hw).2

/-! ### A round with a master that has some assets -/

lemma step_of_isIo {e : RemoteAssetService.Event Callback} (hsvc : s.assetSvc = some svc)
    (hio : e.isIo = true) (hstep : svc.service.step e = some service) :
    s.step (.service e) = s.advance svc service := by
  cases e <;> simp [RemoteAssetService.Event.isIo] at hio <;>
    simp [PullReplicationService.step, serviceStep, hsvc, hstep]

/-- The master sends what is asked for: the list, or an asset with the identifier. -/
def sendsFrom (k : Disk) (service : RemoteAssetService Callback) :
    RemoteAssetService.Event Callback → Bool
  | .written success => success
  | .read (some bytes) =>
    match service.reading with
    | some .header =>
      let code := (⟨bytes, none⟩ : ServerResponseMsg).getResponseCode
      code = some .found ∨ code = some .ok
    | some (.data _) => service.sent.head?.all fun req =>
        (req.type = .storedAssetIdsGet ∧ bytes = listFor k req) ∨
          (req.type = .getDontCache ∧ (⟨bytes⟩ : Asset).getUUID = req.id)
    | _ => false
  | .resume => true
  | _ => false

lemma delivers_of_sendsFrom {k : Disk} {e : RemoteAssetService.Event Callback}
    (h : sendsFrom k service e = true) : service.Delivers e ∧
      ∀ data header req, e = .read (some data) → service.reading = some (.data header) →
        service.sent.head? = some req → req.type = .storedAssetIdsGet → data = listFor k req := by
  unfold sendsFrom at h
  split at h
  · exact ⟨h, by simp⟩
  · next bytes =>
    split at h
    · next hreading =>
      have hcode := of_decide_eq_true h
      exact ⟨by simpa [Delivers, hreading] using hcode, by simp [hreading]⟩
    · next header hreading =>
      refine ⟨?_, ?_⟩
      · simp only [Delivers, hreading]
        intro req hreq
        rw [Option.mem_def.mp hreq] at h
        rcases of_decide_eq_true h with ⟨htype, -⟩ | ⟨htype, hid⟩
        · simp [htype]
        · simp [htype, hid]
      · rintro data header' req ⟨⟩ - hreq htype
        simpa [hreq, htype] using h
    · cases h
  · exact ⟨trivial, by simp⟩
  · cases h

/-- The steps of a clean round with the master `k`. -/
def goesOn (k : Disk) (s : PullReplicationService) : Event → Bool
  | .service e => s.assetSvc.any fun svc => sendsFrom k svc.service e
  | .stored _ => true
  | _ => false

lemma clean_of_goesOn {k : Disk} (hk : k.GlobalsValid) {e : Event} (h : goesOn k s e = true) :
    Clean (fun _ k' => k' = k) s e := by
  cases e with
  | stored i => trivial
  | service e =>
    obtain ⟨svc, hsvc, hsends⟩ := Option.any_eq_true _ _ |>.mp h
    have hclean : ∀ svc ∈ s.assetSvc, svc.service.Delivers e ∧
        ∀ data header req, e = .read (some data) → svc.service.reading = some (.data header) →
          svc.service.sent.head? = some req → req.type = .storedAssetIdsGet →
          ∃ k', k' = k ∧ k'.GlobalsValid ∧ data = listFor k' req := by
      intro svc' hsvc'
      obtain rfl : svc = svc' := Option.some.inj (hsvc.symm.trans hsvc')
      obtain ⟨hdelivers, hlist⟩ := delivers_of_sendsFrom hsends
      exact ⟨hdelivers, fun data header req he hreading hreq htype =>
        ⟨k, rfl, hk, hlist data header req he hreading hreq htype⟩⟩
    cases e with
    | connected success => cases hsends
    | _ => exact hclean
  | _ => cases h

/-- The identifiers with prefix `n` are numbered. -/
def sampleId (n j : ℕ) : ByteString :=
  VFSBackend.hexHead n ++ List.replicate 28 48 ++ [Uuid.hexChar j]

def sampleRow (n j : ℕ) : IndexRow := ⟨sampleId n j, 42 * (j + 1), 0, 0⟩

/-- The indexes of a master that has three assets with prefix `000` and one with prefix `001`. -/
def sampleMaster : Disk :=
  (({ dirs := [VFSBackend.hexHead 0, VFSBackend.hexHead 1] } : Disk).setIdx (VFSBackend.hexHead 0)
    .globals (.table [sampleRow 0 0, sampleRow 0 1, sampleRow 0 2])).setIdx (VFSBackend.hexHead 1)
    .globals (.table [sampleRow 1 0])

lemma globalIds_sampleMaster (head : DirName) : sampleMaster.globalIds head =
    if head = VFSBackend.hexHead 1 then [sampleId 1 0]
    else if head = VFSBackend.hexHead 0 then [sampleId 0 0, sampleId 0 1, sampleId 0 2]
    else [] := by
  simp only [Disk.globalIds, sampleMaster, Disk.rows_setIdx, and_true]
  split_ifs <;> rfl

lemma globalsValid_sampleMaster : sampleMaster.GlobalsValid := by
  constructor
  · intro head
    rw [globalIds_sampleMaster]
    split_ifs <;> decide
  · intro head
    rw [globalIds_sampleMaster]
    split_ifs <;> decide

lemma listFor_sampleMaster {n : ℕ} (hlt : 1 < n) (hle : n ≤ 0xfff) :
    listFor sampleMaster (listingOf n) = [] := by
  have hne {m : ℕ} (hm : m ≤ 1) : VFSBackend.hexHead n ≠ VFSBackend.hexHead m := fun h => by
    have := VFSBackend.hexHead_injective hle (by omega) h
    omega
  have hnone : sampleMaster.globalIds (VFSBackend.hexHead n) = [] := by
    rw [globalIds_sampleMaster, if_neg (hne (Nat.le_refl 1)), if_neg (hne (Nat.zero_le 1))]
  rw [listFor_listingOf]
  exact congrArg (List.flatMap (· ++ [44])) hnone

def assetWith (id : ByteString) : Asset := ⟨id ++ [0, 0, 65, 66]⟩

/-- The slave has the first of the assets. -/
def sampleSlave : List Uuid := ExistenceIndex.addNewId [] (sampleId 0 0)

/-- The index when it has the others too. -/
def sampleIndex : List Uuid :=
  [sampleId 0 1, sampleId 0 2, sampleId 1 0].foldl ExistenceIndex.addNewId sampleSlave

/-- What has been answered when the empty lists of `n` prefixes have come. -/
def sampleCalled : ℕ → List (PendingTransferRequest Callback × RASResponse)
  | 0 =>
    [(listingOf 0, ⟨none, false, false, listFor sampleMaster (listingOf 0)⟩),
      (getOf (sampleId 0 1), ⟨some (assetWith (sampleId 0 1)), false, false, []⟩),
      (getOf (sampleId 0 2), ⟨some (assetWith (sampleId 0 2)), false, false, []⟩),
      (listingOf 1, ⟨none, false, false, listFor sampleMaster (listingOf 1)⟩),
      (getOf (sampleId 1 0), ⟨some (assetWith (sampleId 1 0)), false, false, []⟩)]
  | n + 1 => sampleCalled n ++ [(listingOf (n + 2), ⟨none, false, false, []⟩)]

/-- The connection to the master. -/
def sampleService (invoked : List (PendingTransferRequest Callback × RASResponse))
    (writing : Option (PendingTransferRequest Callback))
    (sent : List (PendingTransferRequest Callback)) (reading : Option ReadOp)
    (running : List (Frame RemoteAssetService.Own)) : RemoteAssetService Callback :=
  { established := true, writing := writing, sent := sent, reading := reading, running := running,
    invoked := invoked, hasSafeKillCallback := true }

/-- A replication that is at the prefix after those. -/
def sampleRound (n : ℕ) (service : RemoteAssetService Callback) : PullReplicationService :=
  { new (some ⟨1, 80⟩) 0 2 sampleIndex ⟨1, 80⟩ with
    assetSvc := some ⟨⟨1, 80⟩, service⟩
    connected := true
    currentStep := .idList
    currentAssetPrefix := n + 2
    dials := [(⟨1, 80⟩, ⟨1, 80⟩)] }

/-- The list of that prefix is being asked for. -/
def sampleAsked (n : ℕ) : PullReplicationService :=
  sampleRound n (sampleService (sampleCalled n) (some (listingOf (n + 2))) [listingOf (n + 2)]
    (some .header) [])

/-- An answer of the master, and the end of the handlers that it leads to. -/
def sampleAnswer (code : ResponseCode) (uuid data : ByteString) : List Event :=
  [.service (.read (some (ServerResponseMsg.make code uuid (some data)).header)),
    .service (.read (some data))]

def resumed : List Event := [.service .resume, .service .resume, .service .resume]

/-- The first two prefixes: two of the three listed assets are got in one batch, and are stored in
the other order; then the one of the second list. -/
def samplePrefixes : List Event :=
  .service (.written true) ::
    sampleAnswer .ok CSAuthenticated.zeroUUID (listFor sampleMaster (listingOf 0)) ++ resumed ++
  [.service (.written true), .service (.written true)] ++
    sampleAnswer .found (sampleId 0 1) (assetWith (sampleId 0 1)).data ++ resumed ++
    sampleAnswer .found (sampleId 0 2) (assetWith (sampleId 0 2)).data ++ resumed ++
  [.stored 1, .stored 0, .service (.written true)] ++
    sampleAnswer .ok CSAuthenticated.zeroUUID (listFor sampleMaster (listingOf 1)) ++ resumed ++
  .service (.written true) ::
    sampleAnswer .found (sampleId 1 0) (assetWith (sampleId 1 0)).data ++ resumed ++ [.stored 0]

/-- The connection has been made, and the first list is being asked for. -/
def sampleBegun : PullReplicationService :=
  { new (some ⟨1, 80⟩) 0 2 sampleSlave ⟨1, 80⟩ with
    assetSvc := some ⟨⟨1, 80⟩,
      sampleService [] (some (listingOf 0)) [listingOf 0] (some .header) []⟩
    connected := true
    dials := [(⟨1, 80⟩, ⟨1, 80⟩)] }

/-- A part of a clean round with the master. -/
def SampleRun (s : PullReplicationService) (es : List Event) (t : PullReplicationService) : Prop :=
  Machine.Guarded step (fun s e => goesOn sampleMaster s e = true) s es ∧
    Machine.run step s es = some t

lemma sampleRun_prefixes : SampleRun sampleBegun samplePrefixes (sampleAsked 0) :=
  ⟨Machine.guarded_of_checks (by decide +kernel), rfl⟩

lemma SampleRun.cons {service' : RemoteAssetService Callback}
    {e : RemoteAssetService.Event Callback} {n : ℕ} {es : List Event} (hio : e.isIo = true)
    (hstep : service.step e = some service') (hkills : service'.safeKills = service.safeKills)
    (hinvoked : service'.invoked = service.invoked)
    (hsends : sendsFrom sampleMaster service e = true)
    (hes : SampleRun (sampleRound n service') es t) :
    SampleRun (sampleRound n service) (.service e :: es) t := by
  refine Machine.Guarded.cons_run ?_ hsends hes
  rw [step_of_isIo rfl hio hstep]
  simp [advance, hkills, hinvoked, sampleRound]

lemma sampleRound_answered {service' : RemoteAssetService Callback}
    {e : RemoteAssetService.Event Callback} {n : ℕ} (hio : e.isIo = true)
    (hstep : service.step e = some service') (hkills : service'.safeKills = service.safeKills)
    {p : PendingTransferRequest Callback × RASResponse}
    (hinvoked : service'.invoked = service.invoked ++ [p]) :
    (sampleRound n service).step (.service e) = (sampleRound n service').onResponse p := by
  rw [step_of_isIo rfl hio hstep]
  simp [advance, hkills, hinvoked, sampleRound]

/-- Up to the answer for an empty prefix. -/
lemma sampleRun_answer {n : ℕ} (hn : n + 2 ≤ 0xfff) (hnext : onResponse
      (sampleRound n (sampleService (sampleCalled (n + 1)) none [listingOf (n + 2)] none
        [.callback, .other .listen, .dropSent]))
      (listingOf (n + 2), ⟨none, false, false, []⟩) = some t) :
    SampleRun (sampleAsked n)
      (.service (.written true) :: sampleAnswer .ok CSAuthenticated.zeroUUID []) t := by
  let req := listingOf (n + 2)
  let header := (ServerResponseMsg.make .ok CSAuthenticated.zeroUUID (some [])).header
  let wrote := sampleService (sampleCalled n) none [req] (some .header) []
  let found := sampleService (sampleCalled n) none [req] (some (.data ⟨header, none⟩)) []
  let answered := sampleService (sampleCalled (n + 1)) none [req] none
    [.callback, .other .listen, .dropSent]
  have hwrote : (sampleService (sampleCalled n) (some req) [req] (some .header) []).step
      (.written true) = some wrote := rfl
  have hfound : wrote.step (.read (some header)) = some found := rfl
  have hread : found.step (.read (some [])) = some answered := rfl
  refine .cons rfl hwrote rfl rfl rfl (.cons rfl hfound rfl rfl rfl ?_)
  have hlist := listFor_sampleMaster (by omega) hn
  have hsends : sendsFrom sampleMaster found (.read (some [])) = true :=
    decide_eq_true (.inl ⟨rfl, hlist.symm⟩)
  exact Machine.Guarded.cons_run ((sampleRound_answered rfl hread rfl rfl).trans hnext) hsends
    ⟨trivial, rfl⟩

lemma sampleRun_next {n : ℕ} (hn : n + 3 ≤ 0xfff) :
    SampleRun (sampleAsked n)
      (.service (.written true) :: sampleAnswer .ok CSAuthenticated.zeroUUID [] ++ resumed)
      (sampleAsked (n + 1)) := by
  let next := some (listingOf (n + 3))
  let both := [listingOf (n + 2), listingOf (n + 3)]
  let called := sampleService (sampleCalled (n + 1)) next both none
    [.callback, .other .listen, .dropSent]
  let returned := sampleService (sampleCalled (n + 1)) next both none [.other .listen, .dropSent]
  let listening := sampleService (sampleCalled (n + 1)) next both (some .header) [.dropSent]
  have hreturned : called.step .resume = some returned := rfl
  have hlistening : returned.step .resume = some listening := rfl
  have hcalled : SampleRun (sampleAsked n)
      (.service (.written true) :: sampleAnswer .ok CSAuthenticated.zeroUUID [])
      (sampleRound (n + 1) called) :=
    sampleRun_answer (by omega) ((if_pos hn).trans rfl)
  have hrest : SampleRun (sampleRound (n + 1) called) resumed (sampleAsked (n + 1)) := by
    refine .cons rfl hreturned rfl rfl rfl (.cons rfl hlistening rfl rfl rfl ?_)
    exact .cons (e := .resume) rfl rfl rfl rfl rfl ⟨trivial, rfl⟩
  exact Machine.Guarded.append_run hcalled hrest

lemma sampleRun_last {n : ℕ} (hn : n + 2 = 0xfff) :
    ∃ t, SampleRun (sampleAsked n)
      (.service (.written true) :: sampleAnswer .ok CSAuthenticated.zeroUUID []) t ∧
      t.currentStep = .wait := by
  have hlast : ¬ n + 2 + 1 ≤ 0xfff := by omega
  exact ⟨_, sampleRun_answer hn.le ((if_neg hlast).trans rfl), rfl⟩

lemma exists_sampleRun {n : ℕ} (hn : n + 2 ≤ 0xfff) :
    ∃ es, (∀ e ∈ es, e ≠ .restart) ∧ SampleRun sampleBegun es (sampleAsked n) := by
  induction n with
  | zero => exact ⟨_, by simp [samplePrefixes, sampleAnswer, resumed], sampleRun_prefixes⟩
  | succ n ih =>
    obtain ⟨es, hone, hrun⟩ := ih (by omega)
    refine ⟨_, ?_, Machine.Guarded.append_run hrun (sampleRun_next hn)⟩
    simpa [sampleAnswer, resumed, or_imp, forall_and] using hone

theorem sample_round_copies :
    ∃ s u t es₀ es,
      (new (some ⟨1, 80⟩) 0 2 sampleSlave ⟨1, 80⟩).runStep = some s ∧
      Machine.run step s es₀ = some u ∧ Machine.run step u es = some t ∧ t.currentStep = .wait ∧
      (∀ id ∈ [sampleId 0 0, sampleId 0 1, sampleId 0 2, sampleId 1 0],
        ExistenceIndex.assetExists t.existenceIndex id = true) ∧
      (t.requests = [] ∧ ∃ later, t.called = u.called ++ later ∧
        ((later.map Prod.fst).filter isListing).map (·.id) =
          (List.range 4096).map VFSBackend.hexHead) ∧
      ∀ es₁ e es₂ v w, es = es₁ ++ e :: es₂ → Machine.run step u es₁ = some v →
        v.step e = some w → AsksMissing v w := by
  obtain ⟨es, hone, hround⟩ := exists_sampleRun (n := 0xffd) (Nat.le_refl 0xfff)
  obtain ⟨t, hlast, hwait⟩ := sampleRun_last (n := 0xffd) rfl
  obtain ⟨hgoes, hrun⟩ := Machine.Guarded.append_run hround hlast
  let dialled : PullReplicationService := { new (some ⟨1, 80⟩) 0 2 sampleSlave ⟨1, 80⟩ with
    assetSvc := some ⟨⟨1, 80⟩, { connecting := true, hasSafeKillCallback := true }⟩
    dials := [(⟨1, 80⟩, ⟨1, 80⟩)] }
  have hstart : (new (some ⟨1, 80⟩) 0 2 sampleSlave ⟨1, 80⟩).runStep = some dialled := rfl
  let es₀ : List Event := [.service (.connected true), .service .resume, .service .resume]
  have hbefore : Machine.Guarded step (Clean fun _ _ => True) dialled es₀ := by
    refine ⟨rfl, fun _ _ => ⟨?_, fun _ _ => ⟨?_, fun _ _ => trivial⟩⟩⟩ <;>
      exact fun _ _ => ⟨trivial, by simp⟩
  have hbegun : Machine.run step dialled es₀ = some sampleBegun := rfl
  have hclean := hgoes.mono fun _ _ h => clean_of_goesOn globalsValid_sampleMaster h
  obtain ⟨hcopied, hlisted, hasks⟩ := clean_round_copies hstart hbefore hbegun rfl rfl hclean
    (by simpa [sampleAnswer, or_imp, forall_and] using hone) hrun hwait
  refine ⟨dialled, sampleBegun, t, es₀, _, hstart, hbegun, hrun, hwait, fun id hid => ?_, hlisted,
    hasks⟩
  obtain ⟨hvalid, hmem⟩ : Validator.isValidUUID id = true ∧
      id ∈ sampleMaster.globalIds (id.take 3) := by
    revert id
    decide
  obtain ⟨-, -, -, hexists⟩ := hcopied id hvalid
  exact hexists hmem

end PullReplicationService

end Whip
