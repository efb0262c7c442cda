import Whip.Mesh.MeshServer

/-!
# When a mesh server may be destroyed

The handlers of a `MeshServer` are bound to a plain pointer, so it may be destroyed only when no
operation of its two sockets is outstanding. Here the server stands together with its sockets: the
reads and writes that were started and have not completed. They complete in any order, with success
or with an error, also after their socket was closed. What completes is taken from the sockets; the
flags `_sendActive` and `_recvActive` are only what the code of the server makes of them.
-/

namespace Whip

open Pipelined Pipelined.Client

/-- The operations that are outstanding on the asset socket and on the query socket. -/
structure Sockets where
  assetReads : List ReadOp := []
  assetWrites : ℕ := 0
  queryReads : ℕ := 0
  queryWrites : ℕ := 0
deriving DecidableEq

def Sockets.add (k started : Sockets) : Sockets where
  assetReads := k.assetReads ++ started.assetReads
  assetWrites := k.assetWrites + started.assetWrites
  queryReads := k.queryReads + started.queryReads
  queryWrites := k.queryWrites + started.queryWrites

lemma Sockets.add_nothing (k : Sockets) : k.add {} = k := by
  simp [Sockets.add]

namespace MeshServer

variable {κ : Type}

/-! ### What the handlers start -/

def sendActive (s : MeshServer κ) : Bool := s.writing.isSome

def recvActive (s : MeshServer κ) : Bool := s.reading.isSome

/-- One of the two connection results is still missing. -/
def awaitsLastResult (s : MeshServer κ) : Bool :=
  s.numConnectResultsRcvd + 1 = TOTAL_CONNECTION_COUNT

/-- The `async_read` that `onReadResponseHeader` and `onHandleRequestErrorData` start themselves;
where a callback is run first, the read is a frame of its own. -/
def onReadStarts : ReadOp → Option ByteString → Sockets
  | .header, some header =>
    let response : ServerResponseMsg := ⟨header, none⟩
    if response.getResponseCode = some .found then { assetReads := [.data response] } else {}
  | .errorData _, some _ => { assetReads := [.header] }
  | _, _ => {}

/-- The calls of `async_read` and `async_write` that any other step makes. -/
def starts (s : MeshServer κ) : Event κ → Sockets
  | .getAsset _ _ => if s.writing.isNone then { assetWrites := 1 } else {}
  | .written success =>
    if success && s.established && !s.waiting.isEmpty then { assetWrites := 1 } else {}
  | .search uuid _ =>
    if s.established && !s.currentSearches.any (·.1 == uuid) && s.query.isConnected &&
        !s.query.sendActive then
      { queryWrites := 1 }
    else {}
  | .queryWritten success =>
    if success && !s.query.sendQueue.isEmpty then { queryWrites := 1 } else {}
  | .queryRead (some .invalid) | .queryRead (some (.heartbeat _)) => { queryReads := 1 }
  | .assetConnected success =>
    if s.awaitsLastResult && s.queryConnectionEstablished && success then
      { assetReads := [.header] }
    else {}
  | .queryConnected success =>
    { queryReads := success.toNat
      assetReads :=
        if s.awaitsLastResult && (success || s.queryConnectionEstablished) && s.established then
          [.header]
        else [] }
  | .resume =>
    match s.running with
    | .other .listenForAssetData :: _       => { assetReads := [.header] }
    | .other (.readErrorData response) :: _ => { assetReads := [.errorData response] }
    | .other .listenForMessage :: _         => { queryReads := 1 }
    | _ => {}
  | _ => {}

/-- The frame that starts the next read of the query connection. -/
def hears : Frame Own → Bool
  | .other .listenForMessage => true
  | _ => false

@[simp] lemma listens_queueing : listens .callback = false ∧ listens .dropWaiting = false ∧
    listens .dropSent = false ∧ listens .drainWaiting = false ∧ listens .drainSent = false :=
  ⟨rfl, rfl, rfl, rfl, rfl⟩

@[simp] lemma hears_queueing : hears .callback = false ∧ hears .dropWaiting = false ∧
    hears .dropSent = false ∧ hears .drainWaiting = false ∧ hears .drainSent = false :=
  ⟨rfl, rfl, rfl, rfl, rfl⟩

lemma hears_of_listens {f : Frame Own} (h : listens f = true) : hears f = false := by
  unfold listens at h
  split at h
  · rfl
  · rfl
  · cases h

end MeshServer

/-! ### The server with its sockets -/

structure MeshSession (κ : Type) where
  server : MeshServer κ := {}
  sockets : Sockets := {}

namespace MeshSession

open MeshServer

variable {κ : Type}

/-- What others do with the server: it is connected once, `IntraMeshService` registers its callback
when the attempt is over and closes a server in that callback only. No search closes a server, so it
is not closed while an answer is being passed on. Completions are not among the calls. -/
def permits (s : MeshServer κ) : MeshServer.Event κ → Bool
  | .connect => s.numConnectResultsRcvd = 0 && !s.assetConnecting && !s.queryConnecting
  | .registerSafeKillCallback => s.numConnectResultsRcvd = TOTAL_CONNECTION_COUNT
  | .close => !s.running.any hears
  | .read _ | .written _ | .queryRead _ | .queryWritten _ => false
  | _ => true

inductive Event (κ : Type)
  | call (event : MeshServer.Event κ)
  | assetRead (i : ℕ) (bytes : Option ByteString)
  | assetWritten (success : Bool)
  | queryRead (msg : Option IntraMeshMsg)
  | queryWritten (success : Bool)

/-- A completion needs an operation of the socket, whatever the flags say. -/
def step [DecidableEq κ] (t : MeshSession κ) : Event κ → Option (MeshSession κ)
  | .call event =>
    if permits t.server event then
      (t.server.step event).map fun s => ⟨s, t.sockets.add (t.server.starts event)⟩
    else none
  | .assetRead i bytes =>
    match t.sockets.assetReads[i]? with
    | none => none
    | some op =>
      if t.server.running.isEmpty && bytes.all (·.length == op.size) then
        (t.server.onRead op bytes).map fun s =>
          ⟨s, { t.sockets with assetReads := t.sockets.assetReads.eraseIdx i }.add
            (onReadStarts op bytes)⟩
      else none
  | .assetWritten success =>
    if t.server.running.isEmpty && t.sockets.assetWrites ≠ 0 then
      some ⟨t.server.onAfterWriteAssetRequest success,
        { t.sockets with assetWrites := t.sockets.assetWrites - 1 }.add
          (t.server.starts (.written success))⟩
    else none
  | .queryRead msg =>
    if t.server.running.isEmpty && t.sockets.queryReads ≠ 0 then
      some ⟨t.server.onQueryRead msg,
        { t.sockets with queryReads := t.sockets.queryReads - 1 }.add
          (t.server.starts (.queryRead msg))⟩
    else none
  | .queryWritten success =>
    if t.server.running.isEmpty && t.sockets.queryWrites ≠ 0 then
      some ⟨t.server.onQueryWritten success,
        { t.sockets with queryWrites := t.sockets.queryWrites - 1 }.add
          (t.server.starts (.queryWritten success))⟩
    else none

/-! ### The flags follow the sockets -/

/-- The asset socket: `listening` counts the frames that are about to start a read. -/
structure AssetTracked (k : Sockets) (reading : Option ReadOp) (sending : Bool)
    (listening results : ℕ) : Prop where
  reads : k.assetReads = reading.toList
  writes : k.assetWrites = sending.toNat
  single : reading.isSome.toNat + listening ≤ 1
  unheard : results < TOTAL_CONNECTION_COUNT → reading = none ∧ listening = 0

/-- The query socket. A connection that has been reported as lost, or was never made, is idle. -/
structure QueryTracked (k : Sockets) (q : MeshQueryConnection) (up connecting : Bool)
    (hearing results : ℕ) : Prop where
  reads : k.queryReads = q.recvActive.toNat
  writes : k.queryWrites = q.sendActive.toNat
  single : q.recvActive.toNat + connecting.toNat + hearing ≤ 1
  unheard : results = 0 → q.recvActive = false ∧ hearing = 0
  down : up = false →
    q.recvActive = false ∧ q.sendActive = false ∧ q.isConnected = false ∧ hearing = 0

structure Tracked (t : MeshSession κ) : Prop where
  asset : AssetTracked t.sockets t.server.reading t.server.writing.isSome
    (t.server.running.countP listens) t.server.numConnectResultsRcvd
  query : QueryTracked t.sockets t.server.query t.server.queryConnectionEstablished
    t.server.queryConnecting (t.server.running.countP hears) t.server.numConnectResultsRcvd
  connects : t.server.numConnectResultsRcvd + t.server.assetConnecting.toNat +
    t.server.queryConnecting.toNat ≤ TOTAL_CONNECTION_COUNT
  registered : t.server.hasSafeKillCallback = true →
    t.server.numConnectResultsRcvd = TOTAL_CONNECTION_COUNT

lemma tracked_new : Tracked ({} : MeshSession κ) where
  asset := ⟨rfl, rfl, Nat.zero_le _, fun _ => ⟨rfl, rfl⟩⟩
  query := ⟨rfl, rfl, Nat.zero_le _, fun _ => ⟨rfl, rfl⟩, fun _ => ⟨rfl, rfl, rfl, rfl⟩⟩
  connects := Nat.zero_le _
  registered h := by cases h

/-- Operations of the other socket do not matter. -/
lemma AssetTracked.congr {k k' : Sockets} {reading : Option ReadOp} {sending : Bool}
    {listening results : ℕ} (h : AssetTracked k reading sending listening results)
    (hreads : k'.assetReads = k.assetReads) (hwrites : k'.assetWrites = k.assetWrites) :
    AssetTracked k' reading sending listening results :=
  ⟨hreads.trans h.reads, hwrites.trans h.writes, h.single, h.unheard⟩

lemma QueryTracked.congr {k k' : Sockets} {q : MeshQueryConnection} {up connecting : Bool}
    {hearing results : ℕ} (h : QueryTracked k q up connecting hearing results)
    (hreads : k'.queryReads = k.queryReads) (hwrites : k'.queryWrites = k.queryWrites) :
    QueryTracked k' q up connecting hearing results :=
  ⟨hreads.trans h.reads, hwrites.trans h.writes, h.single, h.unheard, h.down⟩

variable {t t' : MeshSession κ} {s s' : MeshServer κ} {k : Sockets}

/-! ### Closing -/

/-- What closing does to what is tracked. -/
structure Closes (s s' : MeshServer κ) : Prop where
  reading : s'.reading = s.reading
  writing : s'.writing = s.writing
  recvActive : s'.query.recvActive = s.query.recvActive
  sendActive : s'.query.sendActive = s.query.sendActive
  isConnected : s'.query.isConnected = false
  up : s'.queryConnectionEstablished = false → s.queryConnectionEstablished = false ∨
    s.query.recvActive = false ∧ s.query.sendActive = false
  running : s'.running.countP listens = s.running.countP listens ∧
    s'.running.countP hears = s.running.countP hears
  attempt : s'.numConnectResultsRcvd = s.numConnectResultsRcvd ∧
    s'.assetConnecting = s.assetConnecting ∧ s'.queryConnecting = s.queryConnecting ∧
    s'.hasSafeKillCallback = s.hasSafeKillCallback ∧ s'.safeKills = s.safeKills

lemma closes_close (s : MeshServer κ) : Closes s s.close := by
  simp only [MeshServer.close]
  split_ifs with hfires
  · simp only [MeshQueryConnection.fires, Bool.and_eq_true, Bool.not_eq_true'] at hfires
    exact ⟨rfl, rfl, rfl, rfl, rfl, fun _ => .inr hfires.1, ⟨rfl, rfl⟩, rfl, rfl, rfl, rfl, rfl⟩
  · exact ⟨rfl, rfl, rfl, rfl, rfl, .inl, ⟨rfl, rfl⟩, rfl, rfl, rfl, rfl, rfl⟩

lemma closes_closeQuery (s : MeshServer κ) : Closes s s.closeQuery := by
  simp only [MeshServer.closeQuery]
  split_ifs with hfires
  · simp only [MeshQueryConnection.fires, Bool.and_eq_true, Bool.not_eq_true'] at hfires
    have hclose := closes_close { s with
      query := { s.query with isConnected := false, disconnectCallbackFired := true }
      queryConnectionEstablished := false }
    exact ⟨hclose.reading, hclose.writing, hclose.recvActive, hclose.sendActive,
      hclose.isConnected, fun _ => .inr hfires.1, hclose.running, hclose.attempt⟩
  · exact ⟨rfl, rfl, rfl, rfl, rfl, .inl, ⟨rfl, rfl⟩, rfl, rfl, rfl, rfl, rfl⟩

/-- Closing, unless it is done while an answer is passed on. -/
lemma Tracked.closes (h : Tracked ⟨s, k⟩) (hhears : s.running.countP hears = 0)
    (hs : Closes s s') : Tracked ⟨s', k⟩ := by
  obtain ⟨hreading, hwriting, hrecv, hsend, hconn, hup, ⟨hlistens, hhears'⟩, hresults, hasset,
    hquery, hregistered, -⟩ := hs
  refine ⟨?_, ⟨?_, ?_, ?_, ?_, fun hdown => ?_⟩, ?_, ?_⟩
  · simpa only [hreading, hwriting, hlistens, hresults] using h.asset
  · exact h.query.reads.trans (congrArg _ hrecv.symm)
  · exact h.query.writes.trans (congrArg _ hsend.symm)
  · simpa only [hrecv, hquery, hhears'] using h.query.single
  · simpa only [hrecv, hresults, hhears'] using h.query.unheard
  · have hidle : s.query.recvActive = false ∧ s.query.sendActive = false :=
      (hup hdown).elim (fun hno => ⟨(h.query.down hno).1, (h.query.down hno).2.1⟩) id
    exact ⟨hrecv.trans hidle.1, hsend.trans hidle.2, hconn, hhears'.trans hhears⟩
  · simpa only [hresults, hasset, hquery] using h.connects
  · simpa only [hresults, hregistered] using h.registered

/-! ### Connecting -/

/-- A connection result; with the second one the first read may be started. -/
lemma tracked_onConnectionResult (hrunning : s.running = [])
    (hconnects : s.numConnectResultsRcvd + 1 + s.assetConnecting.toNat + s.queryConnecting.toNat ≤
      TOTAL_CONNECTION_COUNT)
    (hasset : AssetTracked k s.reading s.writing.isSome 0 s.numConnectResultsRcvd)
    (hquery : QueryTracked k s.query s.queryConnectionEstablished s.queryConnecting 0
      (s.numConnectResultsRcvd + 1))
    (hregistered : s.hasSafeKillCallback = false) :
    Tracked ⟨s.onConnectionResult, { k with
      assetReads := k.assetReads ++
        if s.awaitsLastResult && s.queryConnectionEstablished && s.established then [.header]
        else [] }⟩ := by
  obtain ⟨hreading, -⟩ := hasset.unheard (by omega)
  have hreads : k.assetReads = [] := by rw [hasset.reads, hreading, Option.toList_none]
  have hnever (n : ℕ) : s.hasSafeKillCallback = true → n = TOTAL_CONNECTION_COUNT := fun h => by
    simp [hregistered] at h
  by_cases hlast : s.numConnectResultsRcvd + 1 = TOTAL_CONNECTION_COUNT
  · by_cases hboth : (s.queryConnectionEstablished && s.established) = true
    · rw [if_pos (by simpa [awaitsLastResult, hlast] using hboth)]
      simp only [onConnectionResult, listenForAssetData, if_pos hlast, if_pos hboth]
      exact ⟨⟨by simp [hreads], hasset.writes, Nat.le_refl 1, fun hlt => absurd hlast hlt.ne⟩,
        hquery.congr rfl rfl, hconnects, hnever _⟩
    · rw [if_neg (by simpa [awaitsLastResult, hlast] using hboth), List.append_nil]
      simp only [onConnectionResult, if_pos hlast, if_neg hboth]
      exact ⟨⟨hasset.reads, hasset.writes, hasset.single, fun _ => ⟨hreading, rfl⟩⟩,
        hquery.congr rfl rfl, hconnects, hnever _⟩
  · rw [if_neg (by simp [awaitsLastResult, hlast]), List.append_nil]
    simp only [onConnectionResult, if_neg hlast]
    refine ⟨?_, ?_, hconnects, hnever _⟩
    · simp only [hrunning]
      exact ⟨hasset.reads, hasset.writes, hasset.single, fun _ => ⟨hreading, rfl⟩⟩
    · simp only [hrunning]
      exact hquery.congr rfl rfl

lemma Tracked.running_nil (h : Tracked t) (hrunning : t.server.running = []) :
    AssetTracked t.sockets t.server.reading t.server.writing.isSome 0
        t.server.numConnectResultsRcvd ∧
      QueryTracked t.sockets t.server.query t.server.queryConnectionEstablished
        t.server.queryConnecting 0 t.server.numConnectResultsRcvd := by
  have hasset := h.asset
  have hquery := h.query
  rw [hrunning] at hasset hquery
  exact ⟨hasset, hquery⟩

/-- Nobody has registered before the attempt is over. -/
lemma Tracked.unregistered (h : Tracked t)
    (hresults : t.server.numConnectResultsRcvd < TOTAL_CONNECTION_COUNT) :
    t.server.hasSafeKillCallback = false :=
  Bool.not_eq_true _ ▸ fun hreg => hresults.ne (h.registered hreg)

lemma Tracked.assetConnected (h : Tracked t) (hrunning : t.server.running = [])
    (hconnecting : t.server.assetConnecting = true) (success : Bool) :
    Tracked ⟨t.server.onConnect success,
      t.sockets.add (t.server.starts (.assetConnected success))⟩ := by
  have hconnects := h.connects
  rw [hconnecting, Bool.toNat_true] at hconnects
  obtain ⟨hasset, hquery⟩ := h.running_nil hrunning
  have hresult := tracked_onConnectionResult
    (s := { t.server with assetConnecting := false, established := success }) hrunning
    (by simpa using by omega) hasset
    ⟨hquery.reads, hquery.writes, hquery.single, fun hzero => by simp at hzero, hquery.down⟩
    (h.unregistered (by omega))
  have hadd : t.sockets.add (t.server.starts (.assetConnected success)) = { t.sockets with
      assetReads := t.sockets.assetReads ++
        if t.server.awaitsLastResult && t.server.queryConnectionEstablished && success then
          [.header]
        else [] } := by
    simp only [starts, Sockets.add]
    split_ifs <;> rfl
  rw [hadd]
  exact hresult

lemma Tracked.queryConnected (h : Tracked t) (hrunning : t.server.running = [])
    (hconnecting : t.server.queryConnecting = true) (success : Bool) :
    Tracked ⟨t.server.onQueryConnect success,
      t.sockets.add (t.server.starts (.queryConnected success))⟩ := by
  have hconnects := h.connects
  rw [hconnecting, Bool.toNat_true] at hconnects
  obtain ⟨hasset, hquery⟩ := h.running_nil hrunning
  have hrecv : t.server.query.recvActive = false := by
    have hsingle := hquery.single
    rw [hconnecting, Bool.toNat_true] at hsingle
    exact Bool.toNat_eq_zero.mp (by omega)
  cases success with
  | true =>
    have hresult := tracked_onConnectionResult
      (s := { t.server with
        queryConnecting := false
        query := { t.server.query with isConnected := true }.listenForMessage
        queryConnectionEstablished := true })
      (k := { t.sockets with queryReads := t.sockets.queryReads + 1 }) hrunning
      (by simpa using by omega) (hasset.congr rfl rfl)
      ⟨by simp [hquery.reads, hrecv, MeshQueryConnection.listenForMessage], hquery.writes,
        by simp [MeshQueryConnection.listenForMessage], fun hzero => by simp at hzero,
        fun hno => by cases hno⟩
      (h.unregistered (by omega))
    have hadd : t.sockets.add (t.server.starts (.queryConnected true)) = { t.sockets with
        queryReads := t.sockets.queryReads + 1
        assetReads := t.sockets.assetReads ++
          if t.server.awaitsLastResult && true && t.server.established then [.header] else [] } :=
      rfl
    rw [hadd]
    exact hresult
  | false =>
    have hresult := tracked_onConnectionResult
      (s := { t.server with
        queryConnecting := false
        query := { t.server.query with isConnected := false } }) hrunning
      (by simpa using by omega) hasset
      ⟨hquery.reads, hquery.writes, by simp [hrecv], fun hzero => by simp at hzero,
        fun hno => ⟨(hquery.down hno).1, (hquery.down hno).2.1, rfl, rfl⟩⟩
      (h.unregistered (by omega))
    have hadd : t.sockets.add (t.server.starts (.queryConnected false)) = { t.sockets with
        assetReads := t.sockets.assetReads ++
          if t.server.awaitsLastResult && t.server.queryConnectionEstablished &&
            t.server.established then [.header] else [] } := rfl
    rw [hadd]
    exact hresult

/-! ### The asset connection -/

lemma request_writing {ρ α ι : Type} (c : Client ρ α ι) (a : α) (r : ρ) :
    (c.request a r).writing.isSome = true ∧ (c.request a r).running = c.running := by
  unfold request send
  cases hw : c.writing <;> cases he : c.established <;> simp [hw]

lemma Tracked.getAsset (h : Tracked t) (uuid : ByteString) (c : κ) :
    Tracked ⟨t.server.getAsset uuid c, t.sockets.add (t.server.starts (.getAsset uuid c))⟩ := by
  obtain ⟨hwriting, hrunning⟩ := request_writing t.server.toClient none ⟨uuid, c⟩
  have hwrites : t.sockets.assetWrites + (if t.server.writing.isNone then 1 else 0) = 1 := by
    rw [h.asset.writes]
    cases t.server.writing <;> rfl
  have hadd : t.sockets.add (t.server.starts (.getAsset uuid c)) =
      { t.sockets with assetWrites := 1 } := by
    rw [← hwrites]
    simp only [starts, Sockets.add]
    split_ifs <;> simp
  rw [hadd]
  refine ⟨⟨h.asset.reads, ?_, ?_, ?_⟩, ?_, h.connects, h.registered⟩
  · simp [MeshServer.getAsset, hwriting]
  · simpa [MeshServer.getAsset, hrunning] using h.asset.single
  · simpa [MeshServer.getAsset, hrunning] using h.asset.unheard
  · simp only [MeshServer.getAsset, hrunning]
    exact h.query.congr rfl rfl

/-- A read has completed, and a callback has to run before the next read. -/
lemma Tracked.answer (h : Tracked ⟨s, k⟩) (hrunning : s.running = []) (hreading : s.reading = none)
    (hresults : s.numConnectResultsRcvd = TOTAL_CONNECTION_COUNT) {asset : Option Asset} {own : Own}
    (hown : listens (.other own) = true)
    (hs : s.answer asset [.dropSent, .other own] = some s') : Tracked ⟨s', k⟩ := by
  obtain ⟨c, hc, rfl⟩ := Option.map_eq_some_iff.mp hs
  obtain ⟨hasset, hquery⟩ := h.running_nil hrunning
  simp only [Client.answer] at hc
  split at hc
  · cases hc
  · cases hc
    refine ⟨⟨hasset.reads, hasset.writes, ?_, fun hlt => absurd hresults hlt.ne⟩, ?_, h.connects,
      h.registered⟩
    · simp [hrunning, hreading, hown]
    · simpa [hrunning, List.countP_cons, hears_of_listens hown] using hquery

/-- The completed read was the only one. -/
lemma Tracked.completed (h : Tracked t) {i : ℕ} {op : ReadOp}
    (hop : t.sockets.assetReads[i]? = some op) :
    t.server.reading = some op ∧ t.sockets.assetReads.eraseIdx i = [] ∧
      t.server.numConnectResultsRcvd = TOTAL_CONNECTION_COUNT := by
  rw [h.asset.reads] at hop ⊢
  cases hreading : t.server.reading with
  | none => simp [hreading] at hop
  | some op' =>
    have hunheard : ¬ t.server.numConnectResultsRcvd < TOTAL_CONNECTION_COUNT := fun hlt => by
      simpa [hreading] using (h.asset.unheard hlt).1
    have hconnects := h.connects
    rw [hreading, Option.toList_some] at hop
    obtain ⟨hi, rfl⟩ := List.getElem?_eq_some_iff.mp hop
    obtain rfl : i = 0 := by simpa using hi
    exact ⟨rfl, rfl, by omega⟩

lemma Tracked.assetRead (h : Tracked t) (hrunning : t.server.running = []) {i : ℕ} {op : ReadOp}
    {bytes : Option ByteString} (hop : t.sockets.assetReads[i]? = some op)
    (hs : t.server.onRead op bytes = some s') :
    Tracked ⟨s', { t.sockets with assetReads := t.sockets.assetReads.eraseIdx i }.add
      (onReadStarts op bytes)⟩ := by
  obtain ⟨-, herase, hresults⟩ := h.completed hop
  obtain ⟨hasset, hquery⟩ := h.running_nil hrunning
  rw [herase]
  have hdone : Tracked
      ⟨{ t.server with reading := none }, { t.sockets with assetReads := [] }⟩ := by
    refine ⟨⟨rfl, hasset.writes, ?_, fun hlt => absurd hresults hlt.ne⟩, h.query.congr rfl rfl,
      h.connects, h.registered⟩
    simp [hrunning]
  have hclosed : Tracked ⟨{ t.server with reading := none }.close,
      { t.sockets with assetReads := [] }⟩ :=
    hdone.closes (by simp [hrunning]) (closes_close _)
  have hstarted (op : ReadOp) : Tracked ⟨{ t.server with reading := some op },
      { t.sockets with assetReads := [op] }⟩ := by
    refine ⟨⟨rfl, hasset.writes, ?_, fun hlt => absurd hresults hlt.ne⟩, h.query.congr rfl rfl,
      h.connects, h.registered⟩
    simp [hrunning]
  have hanswer {asset : Option Asset} {own : Own} (hown : listens (.other own) = true)
      (hs : { t.server with reading := none }.answer asset [.dropSent, .other own] = some s') :
      Tracked ⟨s', { t.sockets with assetReads := [] }⟩ :=
    hdone.answer hrunning rfl hresults hown hs
  unfold onRead at hs
  cases bytes with
  | none =>
    have hstarts : onReadStarts op none = {} := by cases op <;> rfl
    rw [hstarts, Sockets.add_nothing]
    cases op <;> exact Option.some.inj hs ▸ hclosed
  | some bytes =>
    cases op with
    | header =>
      simp only [onReadResponseHeader] at hs
      simp only [onReadStarts]
      split at hs
      case h_1 hcode =>
        rw [if_pos hcode]
        cases hs
        exact hstarted _
      case h_2 hcode =>
        rw [if_neg (by simp [hcode]), Sockets.add_nothing]
        cases hs
        exact hclosed
      case h_3 hfound _ =>
        rw [if_neg hfound, Sockets.add_nothing]
        split at hs
        · cases hs
        · split_ifs at hs
          · cases hs
            exact hclosed
          · exact hanswer rfl hs
          · exact hanswer rfl hs
    | data response =>
      have hstarts : onReadStarts (.data response) (some bytes) = {} := rfl
      rw [hstarts, Sockets.add_nothing]
      simp only [onReadResponseData] at hs
      split_ifs at hs
      · split at hs
        · cases hs
        · split_ifs at hs
          · exact hanswer rfl hs
          · cases hs
            exact hclosed
      · cases hs
        exact hclosed
    | errorData response =>
      cases hs
      exact hstarted _

lemma Tracked.checkSafeKill (h : Tracked ⟨s, k⟩) : Tracked ⟨s.checkSafeKill, k⟩ := by
  unfold MeshServer.checkSafeKill
  split_ifs
  · exact ⟨h.asset, h.query, h.connects, h.registered⟩
  · exact h

lemma Tracked.assetWritten (h : Tracked t) (hrunning : t.server.running = []) (success : Bool) :
    Tracked ⟨t.server.onAfterWriteAssetRequest success,
      { t.sockets with assetWrites := t.sockets.assetWrites - 1 }.add
        (t.server.starts (.written success))⟩ := by
  have hone : t.sockets.assetWrites - 1 = 0 := by
    have hle := h.asset.writes ▸ Bool.toNat_le t.server.writing.isSome
    omega
  rw [hone]
  have hwritten : Tracked
      ⟨{ t.server with writing := none }, { t.sockets with assetWrites := 0 }⟩ :=
    ⟨⟨h.asset.reads, rfl, h.asset.single, h.asset.unheard⟩, h.query.congr rfl rfl, h.connects,
      h.registered⟩
  cases success with
  | false =>
    have hstarts : t.server.starts (.written false) = {} := rfl
    rw [hstarts, Sockets.add_nothing]
    exact hwritten.closes (by simp [hrunning]) (closes_close _)
  | true =>
    simp only [onAfterWriteAssetRequest, if_true]
    apply Tracked.checkSafeKill
    by_cases hconn : t.server.established = true
    · rw [if_pos hconn]
      by_cases hwaiting : t.server.waiting = []
      · have hstarts : t.server.starts (.written true) = {} := by simp [starts, hwaiting]
        rw [hstarts, Sockets.add_nothing, next_of_nil (by exact hwaiting)]
        exact hwritten
      · have hstarts : t.server.starts (.written true) = { assetWrites := 1 } := by
          simp [starts, hconn, hwaiting]
        obtain ⟨r, rest, hcons⟩ := List.exists_cons_of_ne_nil hwaiting
        rw [hstarts, next_of_cons (by exact hconn) rfl (by exact hcons)]
        exact ⟨⟨by simpa [Sockets.add] using h.asset.reads, rfl, h.asset.single, h.asset.unheard⟩,
          h.query.congr rfl rfl, h.connects, h.registered⟩
    · have hstarts : t.server.starts (.written true) = {} := by simp [starts, hconn]
      rw [hstarts, Sockets.add_nothing, if_neg hconn]
      exact hwritten

/-! ### The query connection -/

lemma Tracked.queryRead (h : Tracked t) (hrunning : t.server.running = [])
    (hreads : t.sockets.queryReads ≠ 0) (msg : Option IntraMeshMsg) :
    Tracked ⟨t.server.onQueryRead msg,
      { t.sockets with queryReads := t.sockets.queryReads - 1 }.add
        (t.server.starts (.queryRead msg))⟩ := by
  obtain ⟨hasset, hquery⟩ := h.running_nil hrunning
  have hrecv : t.server.query.recvActive = true := by
    rw [hquery.reads] at hreads
    exact Bool.not_eq_false _ ▸ fun hno => hreads (by rw [hno]; rfl)
  have hone : t.sockets.queryReads - 1 = 0 := by rw [hquery.reads, hrecv]; rfl
  have hup : t.server.queryConnectionEstablished = true :=
    Bool.not_eq_false _ ▸ fun hno => by simpa [hrecv] using (hquery.down hno).1
  have hresults : t.server.numConnectResultsRcvd ≠ 0 := fun hzero => by
    simpa [hrecv] using (hquery.unheard hzero).1
  have hconnecting : t.server.queryConnecting = false := by
    have hsingle := hquery.single
    rw [hrecv, Bool.toNat_true] at hsingle
    exact Bool.toNat_eq_zero.mp (by omega)
  rw [hone]
  have hdone : Tracked ⟨{ t.server with query := { t.server.query with recvActive := false } },
      { t.sockets with queryReads := 0 }⟩ := by
    refine ⟨h.asset.congr rfl rfl, ⟨rfl, hquery.writes, ?_, fun hzero => absurd hzero hresults,
      fun hno => ?_⟩, h.connects, h.registered⟩
    · simp [hrunning, hconnecting]
    · simp [hup] at hno
  -- the next read is started, at once or after the searches have been told
  have hheard (flags : ℕ) : Tracked ⟨{ t.server with
      lastHeartbeatFlags := flags
      query := { t.server.query with recvActive := true } },
      { t.sockets with queryReads := 1 }⟩ := by
    refine ⟨h.asset.congr rfl rfl, ⟨rfl, hquery.writes, ?_, fun hzero => absurd hzero hresults,
      fun hno => ?_⟩, h.connects, h.registered⟩
    · simp [hrunning, hconnecting]
    · simp [hup] at hno
  have htelling (uuid : ByteString) (found : Bool) : Tracked ⟨{ t.server with
      query := { t.server.query with recvActive := false }
      running := [.other (.postResponse uuid found), .other (.eraseSearches uuid),
        .other .listenForMessage] }, { t.sockets with queryReads := 0 }⟩ := by
    refine ⟨⟨hasset.reads, hasset.writes, hasset.single, hasset.unheard⟩, ⟨rfl, hquery.writes, ?_,
      fun hzero => absurd hzero hresults, fun hno => ?_⟩, h.connects, h.registered⟩
    · simp [hconnecting, hears]
    · simp [hup] at hno
  have hstarted : { t.sockets with queryReads := 0 }.add { queryReads := 1 } =
      { t.sockets with queryReads := 1 } := by simp [Sockets.add]
  cases msg with
  | none =>
    have hstarts : t.server.starts (.queryRead none) = {} := rfl
    rw [hstarts, Sockets.add_nothing]
    exact hdone.closes (by simp [hrunning]) (closes_closeQuery _)
  | some msg =>
    cases msg with
    | invalid =>
      have hstarts : t.server.starts (.queryRead (some .invalid)) = { queryReads := 1 } := rfl
      rw [hstarts, hstarted]
      exact hheard t.server.lastHeartbeatFlags
    | heartbeat flags =>
      have hstarts : t.server.starts (.queryRead (some (.heartbeat flags))) =
        { queryReads := 1 } := rfl
      rw [hstarts, hstarted]
      exact hheard flags
    | response uuid found =>
      have hstarts : t.server.starts (.queryRead (some (.response uuid found))) = {} := rfl
      rw [hstarts, Sockets.add_nothing]
      exact htelling uuid found
    | query uuid =>
      have hstarts : t.server.starts (.queryRead (some (.query uuid))) = {} := rfl
      rw [hstarts, Sockets.add_nothing]
      exact htelling uuid false

/-- The query connection changes, and a write may be started on its socket. -/
lemma Tracked.with_query (h : Tracked ⟨s, k⟩) (q : MeshQueryConnection) (n : ℕ)
    (searches : List (ByteString × List κ)) (hrecv : q.recvActive = s.query.recvActive)
    (hwrites : n = q.sendActive.toNat)
    (hdown : s.queryConnectionEstablished = false → q.sendActive = false ∧ q.isConnected = false) :
    Tracked ⟨{ s with query := q, currentSearches := searches }, { k with queryWrites := n }⟩ := by
  refine ⟨h.asset.congr rfl rfl, ⟨?_, hwrites, ?_, ?_, fun hno => ?_⟩, h.connects, h.registered⟩
  · exact h.query.reads.trans (congrArg _ hrecv.symm)
  · simpa only [hrecv] using h.query.single
  · simpa only [hrecv] using h.query.unheard
  · obtain ⟨hidle, -, -, hhears⟩ := h.query.down hno
    exact ⟨hrecv.trans hidle, (hdown hno).1, (hdown hno).2, hhears⟩

lemma Tracked.queryWritten (h : Tracked t) (hrunning : t.server.running = [])
    (hwrites : t.sockets.queryWrites ≠ 0) (success : Bool) :
    Tracked ⟨t.server.onQueryWritten success,
      { t.sockets with queryWrites := t.sockets.queryWrites - 1 }.add
        (t.server.starts (.queryWritten success))⟩ := by
  have hsend : t.server.query.sendActive = true := by
    rw [h.query.writes] at hwrites
    exact Bool.not_eq_false _ ▸ fun hno => hwrites (by rw [hno]; rfl)
  have hone : t.sockets.queryWrites - 1 = 0 := by rw [h.query.writes, hsend]; rfl
  have hup : t.server.queryConnectionEstablished ≠ false := fun hno => by
    simpa [hsend] using (h.query.down hno).2.1
  have hdone : Tracked ⟨{ t.server with query := { t.server.query with sendActive := false } },
      { t.sockets with queryWrites := 0 }⟩ :=
    h.with_query { t.server.query with sendActive := false } 0 t.server.currentSearches rfl rfl
      fun hno => absurd hno hup
  rw [hone]
  cases success with
  | false =>
    have hstarts : t.server.starts (.queryWritten false) = {} := rfl
    rw [hstarts, Sockets.add_nothing]
    exact hdone.closes (by simp [hrunning]) (closes_closeQuery _)
  | true =>
    simp only [onQueryWritten, MeshQueryConnection.writeNextMessage, starts]
    cases hqueue : t.server.query.sendQueue with
    | nil => simpa [Sockets.add, hqueue] using hdone
    | cons uuid rest =>
      have hnext := h.with_query { t.server.query with sendActive := true, sendQueue := rest } 1
        t.server.currentSearches rfl rfl fun hno => absurd hno hup
      simpa [Sockets.add] using hnext

lemma Tracked.search (h : Tracked t) (uuid : ByteString) (c : κ)
    (hconn : t.server.established = true) :
    Tracked ⟨t.server.search uuid c, t.sockets.add (t.server.starts (.search uuid c))⟩ := by
  have hdown := fun hno => (h.query.down hno).2.imp_right And.left
  by_cases hany : t.server.currentSearches.any (·.1 == uuid) = true
  · have hstarts : t.server.starts (.search uuid c) = {} := by simp [starts, hany]
    rw [hstarts, Sockets.add_nothing, MeshServer.search, if_pos hany]
    exact ⟨h.asset, h.query, h.connects, h.registered⟩
  · rw [MeshServer.search, if_neg hany]
    by_cases hup : t.server.query.isConnected = true
    · by_cases hsend : t.server.query.sendActive = true
      · have hstarts : t.server.starts (.search uuid c) = {} := by simp [starts, hsend]
        rw [hstarts, Sockets.add_nothing, MeshQueryConnection.search, if_neg (by simp [hup]),
          if_neg (by simp [hsend])]
        exact h.with_query { t.server.query with sendQueue := t.server.query.sendQueue ++ [uuid] }
          t.sockets.queryWrites _ rfl h.query.writes hdown
      · have hstarts : t.server.starts (.search uuid c) = { queryWrites := 1 } := by
          simp [starts, hconn, hany, hup, hsend]
        have hadd : t.sockets.add { queryWrites := 1 } = { t.sockets with queryWrites := 1 } := by
          simp [Sockets.add, h.query.writes, hsend]
        rw [hstarts, hadd, MeshQueryConnection.search, if_neg (by simp [hup]),
          if_pos (by simp [hsend])]
        exact h.with_query { t.server.query with sendActive := true } 1 _ rfl rfl
          fun hno => by simpa [hup] using (hdown hno).2
    · have hstarts : t.server.starts (.search uuid c) = {} := by simp [starts, hup]
      rw [hstarts, Sockets.add_nothing, MeshQueryConnection.search, if_pos (by simp [hup])]
      exact ⟨h.asset, h.query, h.connects, h.registered⟩

/-! ### Returning -/

/-- The frames of the library neither listen nor write. -/
lemma resume_keeps {ρ α ι : Type} {c c' : Client ρ α ι} {cancelled : α}
    (hs : c.resume cancelled = some c') {p : Frame ι → Bool}
    (hp : p .callback = false ∧ p .dropWaiting = false ∧ p .dropSent = false ∧
      p .drainWaiting = false ∧ p .drainSent = false) :
    c'.writing = c.writing ∧ c'.running.countP p = c.running.countP p := by
  obtain ⟨hcallback, hdropWaiting, hdropSent, hdrainWaiting, hdrainSent⟩ := hp
  unfold Client.resume at hs
  split at hs
  case h_4 hrunning =>
    split at hs <;> cases hs <;> simp [*]
  case h_5 hrunning =>
    split at hs <;> cases hs <;> simp [*]
  case h_6 => cases hs
  all_goals cases hs; simp [*]

lemma Tracked.with_client (h : Tracked ⟨s, k⟩) {c : Client (MeshRequest κ) (Option Asset) Own}
    (hwriting : c.writing = s.writing)
    (hlistens : c.running.countP listens = s.running.countP listens)
    (hhears : c.running.countP hears = s.running.countP hears) :
    Tracked ⟨{ s with toClient := c }, k⟩ := by
  refine ⟨?_, ?_, h.connects, h.registered⟩
  · simpa only [hwriting, hlistens] using h.asset
  · simpa only [hhears] using h.query

lemma Tracked.pop (h : Tracked ⟨s, k⟩) {f : Frame Own} {fs : List (Frame Own)}
    (hrunning : s.running = f :: fs) (hlistens : listens f = false) (hhears : hears f = false) :
    Tracked ⟨{ s with running := fs }, k⟩ :=
  h.with_client (c := { s.toClient with running := fs }) rfl (by simp [hrunning, hlistens])
    (by simp [hrunning, hhears])

/-- A frame starts a read of the asset connection. -/
lemma Tracked.listen (h : Tracked ⟨s, k⟩) {f : Frame Own} {fs : List (Frame Own)}
    (hrunning : s.running = f :: fs) (hlistens : listens f = true) (op : ReadOp) :
    Tracked ⟨{ s with running := fs, reading := some op },
      { k with assetReads := k.assetReads ++ [op] }⟩ := by
  have hasset := h.asset
  have hquery := h.query
  simp only [hrunning, List.countP_cons, hlistens, hears_of_listens hlistens, if_true]
    at hasset hquery
  obtain ⟨hreading, hfs⟩ : s.reading = none ∧ fs.countP listens = 0 := by
    have hsingle := hasset.single
    cases hop : s.reading with
    | none =>
      rw [hop, Option.isSome_none, Bool.toNat_false] at hsingle
      exact ⟨rfl, by omega⟩
    | some op => simp [hop] at hsingle
  refine ⟨⟨?_, hasset.writes, ?_, fun hlt => ?_⟩, hquery.congr rfl rfl, h.connects, h.registered⟩
  · simp [hasset.reads, hreading]
  · simp [hfs]
  · simpa using (hasset.unheard hlt).2

/-- The frame that starts a read of the query connection. -/
lemma Tracked.hear (h : Tracked ⟨s, k⟩) {fs : List (Frame Own)}
    (hrunning : s.running = .other .listenForMessage :: fs) :
    Tracked ⟨{ s with running := fs, query := s.query.listenForMessage },
      { k with queryReads := k.queryReads + 1 }⟩ := by
  have hasset := h.asset
  have hquery := h.query
  have hlistens : listens (.other .listenForMessage) = false := rfl
  have hhears : hears (.other .listenForMessage) = true := rfl
  simp only [hrunning, List.countP_cons, hlistens, hhears, if_true] at hasset hquery
  have hsingle := hquery.single
  have hrecv : s.query.recvActive = false := Bool.toNat_eq_zero.mp (by omega)
  refine ⟨hasset.congr rfl rfl, ⟨?_, hquery.writes, ?_, fun hzero => ?_, fun hno => ?_⟩, h.connects,
    h.registered⟩
  · simp [hquery.reads, hrecv, MeshQueryConnection.listenForMessage]
  · change 1 + s.queryConnecting.toNat + fs.countP hears ≤ 1
    omega
  · simpa using (hquery.unheard hzero).2
  · simpa using (hquery.down hno).2.2.2

lemma Tracked.resume (h : Tracked t) (hs : t.server.resume = some s') :
    Tracked ⟨s', t.sockets.add (t.server.starts .resume)⟩ := by
  have hclient (hstarts : t.server.starts .resume = {})
      (hs : (t.server.toClient.resume none).map (fun c => { t.server with toClient := c }) =
        some s') : Tracked ⟨s', t.sockets.add (t.server.starts .resume)⟩ := by
    obtain ⟨c, hc, rfl⟩ := Option.map_eq_some_iff.mp hs
    obtain ⟨hwriting, hlistens⟩ := resume_keeps hc listens_queueing
    rw [hstarts, Sockets.add_nothing]
    exact h.with_client hwriting hlistens (resume_keeps hc hears_queueing).2
  cases hrunning : t.server.running with
  | nil =>
    simp only [MeshServer.resume, hrunning] at hs
    exact hclient (by simp [starts, hrunning]) hs
  | cons f fs =>
    cases f with
    | other own =>
      simp only [MeshServer.resume, hrunning] at hs
      simp only [starts, hrunning]
      cases own with
      | listenForAssetData =>
        cases hs
        exact h.listen hrunning rfl .header
      | readErrorData response =>
        cases hs
        exact h.listen hrunning rfl (.errorData response)
      | listenForMessage =>
        cases hs
        simpa [Sockets.add] using h.hear hrunning
      | checkSafeKill =>
        cases hs
        rw [Sockets.add_nothing]
        exact (h.pop hrunning rfl rfl).checkSafeKill
      | postResponse uuid found =>
        cases hs
        rw [Sockets.add_nothing]
        exact h.pop hrunning rfl rfl
      | killSearches =>
        cases hs
        rw [Sockets.add_nothing]
        exact h.pop hrunning rfl rfl
      | eraseSearches uuid =>
        cases hs
        rw [Sockets.add_nothing]
        obtain ⟨hasset, hquery, hconnects, hregistered⟩ := h.pop hrunning rfl rfl
        exact ⟨hasset, hquery, hconnects, hregistered⟩
    | _ =>
      simp only [MeshServer.resume, hrunning] at hs
      exact hclient (by simp [starts, hrunning]) hs

/-! ### Whole runs -/

lemma Tracked.call [DecidableEq κ] {event : MeshServer.Event κ} (h : Tracked t)
    (hpermits : permits t.server event = true) (hs : t.server.step event = some s') :
    Tracked ⟨s', t.sockets.add (t.server.starts event)⟩ := by
  have hsame {s : MeshServer κ} (hstarts : t.server.starts event = {}) (hs : some s = some s')
      (h : Tracked ⟨s, t.sockets⟩) : Tracked ⟨s', t.sockets.add (t.server.starts event)⟩ := by
    rw [hstarts, Sockets.add_nothing]
    exact Option.some.inj hs ▸ h
  cases event with
  | registerSafeKillCallback =>
    obtain ⟨-, hs⟩ := Option.ite_none_right_eq_some.mp hs
    exact hsame rfl hs ⟨h.asset, h.query, h.connects, fun _ => by simpa [permits] using hpermits⟩
  | connect =>
    obtain ⟨-, hs⟩ := Option.ite_none_right_eq_some.mp hs
    have hresults : t.server.numConnectResultsRcvd = 0 := by
      simp only [permits, Bool.and_eq_true, decide_eq_true_eq] at hpermits
      exact hpermits.1.1
    obtain ⟨hrecv, hhears⟩ := h.query.unheard hresults
    refine hsame rfl hs ⟨h.asset, ⟨h.query.reads, h.query.writes, ?_, h.query.unheard,
      h.query.down⟩, ?_, h.registered⟩
    · simp [hrecv, hhears]
    · simp [hresults, TOTAL_CONNECTION_COUNT]
  | getAsset uuid c =>
    obtain rfl := Machine.eq_of_ite hs
    exact h.getAsset uuid c
  | search uuid c =>
    obtain ⟨-, hs⟩ := Option.ite_none_right_eq_some.mp hs
    split_ifs at hs with hconn
    · cases hs
      exact h.search uuid c hconn
    · exact hsame (by simp [starts, hconn]) hs h
  | cancelSearch uuid c =>
    obtain ⟨-, hs⟩ := Option.ite_none_right_eq_some.mp hs
    exact hsame rfl hs ⟨h.asset, h.query, h.connects, h.registered⟩
  | close =>
    obtain ⟨-, hs⟩ := Option.ite_none_right_eq_some.mp hs
    refine hsame rfl hs (h.closes ?_ (closes_close _))
    simpa [permits, List.countP_eq_zero] using hpermits
  | resume => exact h.resume hs
  | assetConnected success =>
    obtain ⟨hcond, hs⟩ := Option.ite_none_right_eq_some.mp hs
    rw [Bool.and_eq_true, List.isEmpty_iff] at hcond
    cases hs
    exact h.assetConnected hcond.1 hcond.2 success
  | queryConnected success =>
    obtain ⟨hcond, hs⟩ := Option.ite_none_right_eq_some.mp hs
    rw [Bool.and_eq_true, List.isEmpty_iff] at hcond
    cases hs
    exact h.queryConnected hcond.1 hcond.2 success
  | runPosted i =>
    obtain ⟨-, hs⟩ := Option.ite_none_right_eq_some.mp hs
    obtain ⟨c, hc, rfl⟩ := Option.map_eq_some_iff.mp hs
    refine hsame rfl rfl ?_
    unfold Client.runPosted at hc
    split at hc
    · cases hc
    · cases hc
      exact h.with_client rfl (by simp) (by simp)
  | written | read | queryWritten | queryRead => cases hpermits

/-- The flags go on saying what is outstanding on the sockets. -/
lemma Tracked.step [DecidableEq κ] {e : Event κ} (h : Tracked t) (hs : step t e = some t') :
    Tracked t' := by
  cases e with
  | call event =>
    obtain ⟨hpermits, hs⟩ := Option.ite_none_right_eq_some.mp hs
    obtain ⟨s, hserver, rfl⟩ := Option.map_eq_some_iff.mp hs
    exact h.call hpermits hserver
  | assetRead i bytes =>
    simp only [MeshSession.step] at hs
    split at hs
    · cases hs
    case h_2 op hop =>
      obtain ⟨hcond, hs⟩ := Option.ite_none_right_eq_some.mp hs
      rw [Bool.and_eq_true, List.isEmpty_iff] at hcond
      obtain ⟨s, hread, rfl⟩ := Option.map_eq_some_iff.mp hs
      exact h.assetRead hcond.1 hop hread
  | assetWritten success =>
    obtain ⟨hcond, hs⟩ := Option.ite_none_right_eq_some.mp hs
    rw [Bool.and_eq_true, List.isEmpty_iff] at hcond
    cases hs
    exact h.assetWritten hcond.1 success
  | queryRead msg =>
    obtain ⟨hcond, hs⟩ := Option.ite_none_right_eq_some.mp hs
    rw [Bool.and_eq_true, List.isEmpty_iff, decide_eq_true_eq] at hcond
    cases hs
    exact h.queryRead hcond.1 hcond.2 msg
  | queryWritten success =>
    obtain ⟨hcond, hs⟩ := Option.ite_none_right_eq_some.mp hs
    rw [Bool.and_eq_true, List.isEmpty_iff, decide_eq_true_eq] at hcond
    cases hs
    exact h.queryWritten hcond.1 hcond.2 success

/-- What the sockets let happen is what the flags let happen: the server alone makes that step. -/
theorem Tracked.server_step [DecidableEq κ] {e : Event κ} (h : Tracked t)
    (hs : MeshSession.step t e = some t') : ∃ event, t.server.step event = some t'.server := by
  cases e with
  | call event =>
    obtain ⟨-, hs⟩ := Option.ite_none_right_eq_some.mp hs
    obtain ⟨s, hserver, rfl⟩ := Option.map_eq_some_iff.mp hs
    exact ⟨event, hserver⟩
  | assetRead i bytes =>
    simp only [MeshSession.step] at hs
    split at hs
    · cases hs
    case h_2 op hop =>
      obtain ⟨hcond, hs⟩ := Option.ite_none_right_eq_some.mp hs
      obtain ⟨s, hread, rfl⟩ := Option.map_eq_some_iff.mp hs
      refine ⟨.read bytes, ?_⟩
      simp only [MeshServer.step, (h.completed hop).1]
      rw [if_pos hcond]
      exact hread
  | assetWritten success =>
    obtain ⟨hcond, hs⟩ := Option.ite_none_right_eq_some.mp hs
    cases hs
    exact ⟨.written success,
      if_pos (by simpa [h.asset.writes, Option.isSome_iff_ne_none] using hcond)⟩
  | queryRead msg =>
    obtain ⟨hcond, hs⟩ := Option.ite_none_right_eq_some.mp hs
    cases hs
    exact ⟨.queryRead msg, if_pos (by simpa [h.query.reads] using hcond)⟩
  | queryWritten success =>
    obtain ⟨hcond, hs⟩ := Option.ite_none_right_eq_some.mp hs
    cases hs
    exact ⟨.queryWritten success, if_pos (by simpa [h.query.writes] using hcond)⟩

/-! ### The callback -/

/-- The callback is not called, or its test has just been passed. -/
def Passes (s s' : MeshServer κ) : Prop :=
  s'.safeKills = s.safeKills ∨
    s'.reading = none ∧ s'.writing = none ∧ s'.queryConnectionEstablished = false ∧
      s'.hasSafeKillCallback = true

lemma passes_checkSafeKill (s : MeshServer κ) : Passes s s.checkSafeKill := by
  unfold MeshServer.checkSafeKill
  split_ifs with htest
  · simp only [Bool.and_eq_true, Bool.not_eq_true', Option.isNone_iff_eq_none] at htest
    exact .inr ⟨htest.1.1.2, htest.1.2, htest.2, htest.1.1.1.2⟩
  · exact .inl rfl

lemma passes_onConnectionResult (s : MeshServer κ) : Passes s s.onConnectionResult := by
  simp only [onConnectionResult, listenForAssetData]
  split_ifs <;> exact .inl rfl

lemma passes_resume (hs : s.resume = some s') : Passes s s' := by
  unfold MeshServer.resume at hs
  split at hs
  case h_6 fs _ =>
    cases hs
    exact passes_checkSafeKill { s with running := fs }
  case h_8 =>
    obtain ⟨c, -, rfl⟩ := Option.map_eq_some_iff.mp hs
    exact .inl rfl
  all_goals
    cases hs
    exact .inl rfl

lemma passes_onRead {op : ReadOp} {bytes : Option ByteString} (hs : s.onRead op bytes = some s') :
    Passes s s' := by
  obtain rfl | ⟨-, -, response, rfl⟩ | ⟨-, rfl⟩ | ⟨-, -, asset, own, -, hs⟩ := onRead_cases hs
  · exact .inl (closes_close { s with reading := none }).attempt.2.2.2.2
  · exact .inl rfl
  · exact .inl rfl
  · obtain ⟨c, -, rfl⟩ := Option.map_eq_some_iff.mp hs
    exact .inl rfl

lemma passes_onQueryRead (s : MeshServer κ) (msg : Option IntraMeshMsg) :
    Passes s (s.onQueryRead msg) := by
  unfold MeshServer.onQueryRead
  dsimp only
  split
  · exact .inl (closes_closeQuery { s with query := _ }).attempt.2.2.2.2
  all_goals exact .inl rfl

lemma passes_onAfterWriteAssetRequest (s : MeshServer κ) (success : Bool) :
    Passes s (s.onAfterWriteAssetRequest success) := by
  simp only [onAfterWriteAssetRequest]
  split_ifs
  · exact passes_checkSafeKill
      { s with toClient := ({ s with writing := none }).toClient.next none }
  · exact passes_checkSafeKill { s with writing := none }
  · exact .inl (closes_close { s with writing := none }).attempt.2.2.2.2

lemma passes_call [DecidableEq κ] {event : MeshServer.Event κ}
    (hpermits : permits s event = true) (hs : s.step event = some s') : Passes s s' := by
  cases event with
  | resume => exact passes_resume hs
  | written | read | queryWritten | queryRead => cases hpermits
  | runPosted i =>
    obtain ⟨-, hs⟩ := Option.ite_none_right_eq_some.mp hs
    obtain ⟨c, -, rfl⟩ := Option.map_eq_some_iff.mp hs
    exact .inl rfl
  | close =>
    obtain rfl := Machine.eq_of_ite hs
    exact .inl (closes_close s).attempt.2.2.2.2
  | search uuid c =>
    obtain rfl := Machine.eq_of_ite hs
    simp only [MeshServer.search]
    split_ifs <;> exact .inl rfl
  | assetConnected success =>
    obtain rfl := Machine.eq_of_ite hs
    exact passes_onConnectionResult { s with assetConnecting := false, established := success }
  | queryConnected success =>
    obtain rfl := Machine.eq_of_ite hs
    simp only [onQueryConnect]
    split_ifs
    · exact passes_onConnectionResult { s with
        queryConnecting := false
        query := { s.query with isConnected := true }.listenForMessage
        queryConnectionEstablished := true }
    · exact passes_onConnectionResult { s with
        queryConnecting := false
        query := { s.query with isConnected := false } }
  | _ =>
    obtain rfl := Machine.eq_of_ite hs
    exact .inl rfl

lemma passes_step [DecidableEq κ] {e : Event κ} (hs : step t e = some t') :
    Passes t.server t'.server := by
  cases e with
  | call event =>
    obtain ⟨hpermits, hs⟩ := Option.ite_none_right_eq_some.mp hs
    obtain ⟨s, hserver, rfl⟩ := Option.map_eq_some_iff.mp hs
    exact passes_call hpermits hserver
  | assetRead i bytes =>
    simp only [step] at hs
    split at hs
    · cases hs
    · obtain ⟨-, hs⟩ := Option.ite_none_right_eq_some.mp hs
      obtain ⟨s, hread, rfl⟩ := Option.map_eq_some_iff.mp hs
      exact passes_onRead hread
  | assetWritten success =>
    obtain rfl := Machine.eq_of_ite hs
    exact passes_onAfterWriteAssetRequest t.server success
  | queryRead msg =>
    obtain rfl := Machine.eq_of_ite hs
    exact passes_onQueryRead t.server msg
  | queryWritten success =>
    obtain rfl := Machine.eq_of_ite hs
    simp only [onQueryWritten]
    split_ifs
    · exact .inl rfl
    · exact .inl (closes_closeQuery { t.server with query := _ }).attempt.2.2.2.2

/-- With the test passed, nothing is outstanding, not even a connection attempt. -/
lemma Tracked.idle (h : Tracked t) (hreading : t.server.reading = none)
    (hwriting : t.server.writing = none) (hdown : t.server.queryConnectionEstablished = false)
    (hregistered : t.server.hasSafeKillCallback = true) :
    t.sockets = {} ∧ t.server.assetConnecting = false ∧ t.server.queryConnecting = false := by
  obtain ⟨hrecv, hsend, -, -⟩ := h.query.down hdown
  have hreads : t.sockets.assetReads = [] := by rw [h.asset.reads, hreading]; rfl
  have hwrites : t.sockets.assetWrites = 0 := by rw [h.asset.writes, hwriting]; rfl
  have hqueryReads : t.sockets.queryReads = 0 := by rw [h.query.reads, hrecv]; rfl
  have hqueryWrites : t.sockets.queryWrites = 0 := by rw [h.query.writes, hsend]; rfl
  have hconnects := h.connects
  rw [h.registered hregistered] at hconnects
  refine ⟨?_, Bool.toNat_eq_zero.mp (by omega), Bool.toNat_eq_zero.mp (by omega)⟩
  calc t.sockets
      = ⟨t.sockets.assetReads, t.sockets.assetWrites, t.sockets.queryReads,
          t.sockets.queryWrites⟩ := rfl
    _ = {} := by rw [hreads, hwrites, hqueryReads, hqueryWrites]

/-- The flags say exactly what is outstanding on the asset socket, and when the safe-kill callback
is called nothing is outstanding on either socket. -/
theorem killed_only_when_idle [DecidableEq κ] {t : MeshSession κ} {es : List (Event κ)}
    (hrun : Machine.run step {} es = some t) :
    (t.server.sendActive = true ↔ t.sockets.assetWrites = 1) ∧
    (t.server.recvActive = true ↔ t.sockets.assetReads.length = 1) ∧
    t.sockets.assetWrites ≤ 1 ∧ t.sockets.assetReads.length ≤ 1 ∧
    ∀ e t', step t e = some t' → t'.server.safeKills ≠ t.server.safeKills →
      t'.sockets = {} ∧ t'.server.assetConnecting = false ∧ t'.server.queryConnecting = false := by
  have h : Tracked t := Machine.run_invariant' (fun _ _ _ h hs => h.step hs) tracked_new hrun
  refine ⟨?_, ?_, ?_, ?_, fun e t' hs hkill => ?_⟩
  · rw [h.asset.writes, sendActive]
    exact Bool.toNat_eq_one.symm
  · rw [h.asset.reads, recvActive]
    cases t.server.reading <;> simp
  · rw [h.asset.writes]
    exact Bool.toNat_le _
  · rw [h.asset.reads]
    cases t.server.reading <;> simp
  · obtain hsame | ⟨hreading, hwriting, hdown, hregistered⟩ := passes_step hs
    · exact absurd hsame hkill
    · exact (h.step hs).idle hreading hwriting hdown hregistered

/-- A peer is lost with a get on its way: the read fails, then the write, then the query read. -/
def lostPeer : List (Event ℕ) :=
  [.call .connect, .call (.assetConnected true), .call (.queryConnected true),
    .call .registerSafeKillCallback, .call .resume, .call (.getAsset (sampleUUID 1) 7),
    .assetRead 0 none] ++
  List.replicate 7 (.call .resume) ++ [.assetWritten false] ++ List.replicate 4 (.call .resume) ++
  [.queryRead none] ++ List.replicate 3 (.call .resume)

theorem lostPeer_killed : ∃ t t', Machine.run step {} lostPeer = some t ∧
    step t (.call .resume) = some t' ∧ t'.server.safeKills = 1 ∧ t'.sockets = {} := by
  obtain ⟨t, hrun, hkills, hnext⟩ : ∃ t, Machine.run step {} lostPeer = some t ∧
      t.server.safeKills = 0 ∧
      ((step t (.call .resume)).any fun t' => t'.server.safeKills = 1) = true :=
    Machine.exists_run_of_any (by decide +kernel)
  obtain ⟨t', hs, hkilled⟩ := Option.any_eq_true _ _ |>.mp hnext
  have hone : t'.server.safeKills = 1 := of_decide_eq_true hkilled
  obtain ⟨-, -, -, -, hidle⟩ := killed_only_when_idle hrun
  exact ⟨t, t', hrun, hs, hone, (hidle _ t' hs (by omega)).1⟩

end MeshSession

end Whip
