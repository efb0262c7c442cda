import Whip.Mesh.MeshStorageBackend

/-!
# Transfers are attended to

A peer that has been connected reads its asset connection as long as it has it, and empties its
queues when it loses it. So if searches issue gets on connected servers only, then a server that has
a get in its queues is in the middle of a handler or waits for a read: the get is not forgotten.
-/

namespace Whip

open Pipelined Pipelined.Client

namespace MeshServer

variable {κ : Type} {s s' : MeshServer κ}

/-- Both connections have been made, and the asset connection was not kept longer than the other. -/
def Remote (s : MeshServer κ) : Prop :=
  s.numConnectResultsRcvd = TOTAL_CONNECTION_COUNT ∧
    (s.established = true → s.queryConnectionEstablished = true)

structure Tended (s : MeshServer κ) : Prop where
  connects : s.numConnectResultsRcvd + s.assetConnecting.toNat + s.queryConnecting.toNat ≤
    TOTAL_CONNECTION_COUNT
  connected : s.established = true → s.assetConnecting = false ∧ 0 < s.numConnectResultsRcvd
  listening : s.numConnectResultsRcvd = TOTAL_CONNECTION_COUNT → s.established = true →
    s.queryConnectionEstablished = true → s.reading.isSome = true ∨ ∃ f ∈ s.running, listens f
  waiting : s.waiting ≠ [] → s.Remote ∧ (s.established = false → .drainWaiting ∈ s.running)
  sent : s.sent ≠ [] → s.Remote ∧ (s.established = false → .drainSent ∈ s.running)
  searches : s.currentSearches ≠ [] → s.Remote
  posted : s.posted = []

lemma tended_new : Tended ({} : MeshServer κ) := by
  constructor <;> simp [TOTAL_CONNECTION_COUNT]

/-- Between two handlers, a server that has a get in its queues is reading. -/
lemma Tended.reading (h : Tended s) (hidle : s.running = [])
    (hqueued : s.waiting ≠ [] ∨ s.sent ≠ []) : s.reading.isSome = true := by
  obtain ⟨⟨hresults, hquery⟩, hestablished⟩ : s.Remote ∧ s.established = true := by
    rcases hqueued with hwaiting | hsent
    · obtain ⟨hremote, hdrained⟩ := h.waiting hwaiting
      refine ⟨hremote, Bool.not_eq_false _ ▸ fun hno => ?_⟩
      simpa [hidle] using hdrained hno
    · obtain ⟨hremote, hdrained⟩ := h.sent hsent
      refine ⟨hremote, Bool.not_eq_false _ ▸ fun hno => ?_⟩
      simpa [hidle] using hdrained hno
  rcases h.listening hresults hestablished (hquery hestablished) with hreading | ⟨f, hf, _⟩
  · exact hreading
  · simp [hidle] at hf

/-! ### Steps -/

lemma Tended.with_query (h : Tended s) (q : MeshQueryConnection) : Tended { s with query := q } :=
  ⟨h.connects, h.connected, h.listening, h.waiting, h.sent, h.searches, h.posted⟩

/-- Without the asset connection, nothing is asked of reads and of the query connection. -/
lemma Tended.closed (h : Tended s) (op : Option ReadOp) (q : MeshQueryConnection) (up : Bool)
    (rest : List (Frame Own)) :
    Tended { s with
      reading := op, query := q, queryConnectionEstablished := up
      toClient := s.toClient.close rest } where
  connects := h.connects
  connected := nofun
  listening := nofun
  waiting hw := ⟨⟨(h.waiting hw).1.1, nofun⟩, fun _ => by simp [Client.close]⟩
  sent hs := ⟨⟨(h.sent hs).1.1, nofun⟩, fun _ => by simp [Client.close]⟩
  searches hc := ⟨(h.searches hc).1, nofun⟩
  posted := h.posted

lemma Tended.close (h : Tended s) (op : Option ReadOp) :
    Tended (MeshServer.close { s with reading := op }) := by
  simp only [MeshServer.close]
  split_ifs
  · exact h.closed ..
  · exact h.closed ..

lemma Tended.closeQuery (h : Tended s) : Tended s.closeQuery := by
  simp only [MeshServer.closeQuery]
  split_ifs
  · simp only [MeshServer.close]
    split_ifs
    · exact h.closed ..
    · exact h.closed ..
  · exact h.with_query _

lemma Tended.checkSafeKill (h : Tended s) : Tended s.checkSafeKill := by
  unfold MeshServer.checkSafeKill
  split_ifs
  · exact ⟨h.connects, h.connected, h.listening, h.waiting, h.sent, h.searches, h.posted⟩
  · exact h

/-- A get on a server that is connected. -/
lemma Tended.getAsset (h : Tended s) (hconn : s.established = true) (hremote : s.Remote)
    (uuid : ByteString) (k : κ) : Tended (s.getAsset uuid k) := by
  have hne {p : Prop} : s.established = false → p := fun hno => by simp [hconn] at hno
  by_cases hw : s.writing = none
  · rw [MeshServer.getAsset, request_of_idle hconn hw]
    exact ⟨h.connects, h.connected, h.listening, h.waiting, fun _ => ⟨hremote, hne⟩, h.searches,
      h.posted⟩
  · obtain ⟨r, hr⟩ := Option.ne_none_iff_exists'.mp hw
    rw [MeshServer.getAsset, request_of_writing hconn hr]
    exact ⟨h.connects, h.connected, h.listening, fun _ => ⟨hremote, hne⟩, h.sent, h.searches,
      h.posted⟩

/-- Before both connections have been made, nobody uses the server. -/
lemma Tended.unused (h : Tended s) (hresults : s.numConnectResultsRcvd < TOTAL_CONNECTION_COUNT) :
    s.waiting = [] ∧ s.sent = [] ∧ s.currentSearches = [] := by
  have hremote : ¬ s.Remote := fun hremote => Nat.ne_of_lt hresults hremote.1
  refine ⟨?_, ?_, ?_⟩
  · exact Classical.not_not.mp fun hw => hremote (h.waiting hw).1
  · exact Classical.not_not.mp fun hs => hremote (h.sent hs).1
  · exact Classical.not_not.mp fun hc => hremote (h.searches hc)

/-- The second result starts the first read. -/
lemma tended_onConnectionResult
    (hconnects : s.numConnectResultsRcvd + 1 + s.assetConnecting.toNat + s.queryConnecting.toNat ≤
      TOTAL_CONNECTION_COUNT)
    (hconnected : s.established = true → s.assetConnecting = false)
    (hwaiting : s.waiting = []) (hsent : s.sent = []) (hsearches : s.currentSearches = [])
    (hposted : s.posted = []) : Tended s.onConnectionResult := by
  simp only [onConnectionResult, listenForAssetData]
  split_ifs with hresults hboth
  · exact ⟨hconnects, fun hconn => ⟨hconnected hconn, Nat.succ_pos _⟩, fun _ _ _ => .inl rfl,
      fun hw => absurd hwaiting hw, fun hs => absurd hsent hs, fun hc => absurd hsearches hc,
      hposted⟩
  · refine ⟨hconnects, fun hconn => ⟨hconnected hconn, Nat.succ_pos _⟩, fun _ hconn hquery => ?_,
      fun hw => absurd hwaiting hw, fun hs => absurd hsent hs, fun hc => absurd hsearches hc,
      hposted⟩
    exact absurd (by simp_all) hboth
  · exact ⟨hconnects, fun hconn => ⟨hconnected hconn, Nat.succ_pos _⟩,
      fun htwo => absurd htwo hresults, fun hw => absurd hwaiting hw, fun hs => absurd hsent hs,
      fun hc => absurd hsearches hc, hposted⟩

lemma Tended.onConnect (h : Tended s) (hconnecting : s.assetConnecting = true) (success : Bool) :
    Tended (s.onConnect success) := by
  have hconnects := h.connects
  rw [hconnecting, Bool.toNat_true] at hconnects
  obtain ⟨hwaiting, hsent, hsearches⟩ := h.unused (by omega)
  refine tended_onConnectionResult ?_ (fun _ => rfl) hwaiting hsent hsearches h.posted
  simpa using hconnects

lemma Tended.onQueryConnect (h : Tended s) (hconnecting : s.queryConnecting = true)
    (success : Bool) : Tended (s.onQueryConnect success) := by
  have hconnects := h.connects
  rw [hconnecting, Bool.toNat_true] at hconnects
  obtain ⟨hwaiting, hsent, hsearches⟩ := h.unused (by omega)
  have hresults : s.numConnectResultsRcvd + 1 + s.assetConnecting.toNat + 0 ≤
      TOTAL_CONNECTION_COUNT := by omega
  simp only [MeshServer.onQueryConnect]
  split_ifs
  · exact tended_onConnectionResult hresults (fun hconn => (h.connected hconn).1) hwaiting hsent
      hsearches h.posted
  · exact tended_onConnectionResult hresults (fun hconn => (h.connected hconn).1) hwaiting hsent
      hsearches h.posted

lemma Tended.connect (h : Tended s) (hresults : s.numConnectResultsRcvd = 0) :
    Tended { s with assetConnecting := true, queryConnecting := true } := by
  obtain ⟨hwaiting, hsent, hsearches⟩ := h.unused (by rw [hresults]; decide)
  have hlost : s.established ≠ true := fun hconn => by simpa [hresults] using (h.connected hconn).2
  refine ⟨by simp [hresults, TOTAL_CONNECTION_COUNT], fun hconn => absurd hconn hlost,
    fun _ hconn => absurd hconn hlost, fun hw => absurd hwaiting hw, fun hs => absurd hsent hs,
    fun hc => absurd hsearches hc, h.posted⟩

lemma Tended.written (h : Tended s) (success : Bool) :
    Tended (s.onAfterWriteAssetRequest success) := by
  have hwritten : Tended { s with writing := none } :=
    ⟨h.connects, h.connected, h.listening, h.waiting, h.sent, h.searches, h.posted⟩
  simp only [onAfterWriteAssetRequest]
  split_ifs with hsuccess hconn
  · apply Tended.checkSafeKill
    by_cases hwaiting : s.waiting = []
    · rw [next_of_nil (by exact hwaiting)]
      exact hwritten
    · obtain ⟨r, rs, hrs⟩ := List.exists_cons_of_ne_nil hwaiting
      obtain ⟨hremote, -⟩ := h.waiting hwaiting
      rw [next_of_cons (by exact hconn) rfl (by exact hrs)]
      have hne {p : Prop} : s.established = false → p := fun hno => by simp [hconn] at hno
      exact ⟨h.connects, h.connected, h.listening, fun _ => ⟨hremote, hne⟩,
        fun _ => ⟨hremote, hne⟩, h.searches, h.posted⟩
  · exact hwritten.checkSafeKill
  · exact hwritten.close _

/-- A callback runs, and then the next read is started. -/
lemma Tended.answer (h : Tended s) (hidle : s.running = []) {asset : Option Asset}
    {rest : List (Frame Own)} {f : Frame Own} (hf : f ∈ rest) (hlistens : listens f)
    (hs : { s with reading := none }.answer asset rest = some s') : Tended s' := by
  obtain ⟨c, hc, rfl⟩ := Option.map_eq_some_iff.mp hs
  cases hsent : s.sent with
  | nil => simp [Client.answer, hsent] at hc
  | cons r rs =>
    simp only [Client.answer, hsent, Option.some.injEq] at hc
    subst hc
    refine ⟨h.connects, h.connected, fun _ _ _ => .inr ⟨f, ?_, hlistens⟩, fun hw => ?_,
      fun hs => ?_,
      h.searches, h.posted⟩
    · simp [hf]
    · obtain ⟨hremote, hdrain⟩ := h.waiting hw
      exact ⟨hremote, fun hno => by simpa [hidle] using hdrain hno⟩
    · obtain ⟨hremote, hdrain⟩ := h.sent (hsent ▸ List.cons_ne_nil r rs)
      exact ⟨hremote, fun hno => by simpa [hidle] using hdrain hno⟩

/-- A new read is started. -/
lemma Tended.with_reading (h : Tended s) (op : ReadOp) : Tended { s with reading := some op } :=
  ⟨h.connects, h.connected, fun _ _ _ => .inl rfl, h.waiting, h.sent, h.searches, h.posted⟩

lemma Tended.onReadResponseHeader (h : Tended s) (hidle : s.running = []) {header : ByteString}
    (hs : onReadResponseHeader { s with reading := none } header = some s') : Tended s' := by
  unfold MeshServer.onReadResponseHeader at hs
  dsimp only at hs
  split at hs
  · cases hs
    exact h.with_reading _
  · cases hs
    exact h.close none
  · split at hs
    · cases hs
    · split_ifs at hs
      · cases hs
        exact h.close none
      · exact h.answer hidle (List.mem_cons_of_mem _ (List.mem_singleton_self _)) rfl hs
      · exact h.answer hidle (List.mem_cons_of_mem _ (List.mem_singleton_self _)) rfl hs

lemma Tended.onReadResponseData (h : Tended s) (hidle : s.running = []) {data : ByteString}
    (hs : onReadResponseData { s with reading := none } data = some s') : Tended s' := by
  unfold MeshServer.onReadResponseData at hs
  split_ifs at hs
  · split at hs
    · cases hs
    · dsimp only at hs
      split_ifs at hs
      · exact h.answer hidle (List.mem_cons_of_mem _ (List.mem_singleton_self _)) rfl hs
      · cases hs
        exact h.close none
  · cases hs
    exact h.close none

lemma Tended.onRead (h : Tended s) (hidle : s.running = []) {op : ReadOp}
    {bytes : Option ByteString} (hs : s.onRead op bytes = some s') : Tended s' := by
  unfold MeshServer.onRead at hs
  dsimp only at hs
  split at hs
  · cases hs
    exact h.close none
  · exact h.onReadResponseHeader hidle hs
  · exact h.onReadResponseData hidle hs
  · cases hs
    exact h.with_reading _

lemma Tended.onQueryWritten (h : Tended s) (success : Bool) :
    Tended (s.onQueryWritten success) := by
  simp only [MeshServer.onQueryWritten]
  split_ifs
  · exact h.with_query _
  · exact (h.with_query _).closeQuery

/-- A handler of the query connection leaves the asset connection alone. -/
lemma Tended.with_running (h : Tended s) (hidle : s.running = []) (fs : List (Frame Own)) :
    Tended { s with running := fs } where
  connects := h.connects
  connected := h.connected
  listening hresults hconn hquery :=
    .inl (by simpa [hidle] using h.listening hresults hconn hquery)
  waiting hw := ⟨(h.waiting hw).1, fun hno => by simpa [hidle] using (h.waiting hw).2 hno⟩
  sent hs := ⟨(h.sent hs).1, fun hno => by simpa [hidle] using (h.sent hs).2 hno⟩
  searches := h.searches
  posted := h.posted

lemma Tended.onQueryRead (h : Tended s) (hidle : s.running = []) (msg : Option IntraMeshMsg) :
    Tended (s.onQueryRead msg) := by
  unfold MeshServer.onQueryRead
  dsimp only
  split
  · exact (h.with_query _).closeQuery
  · exact h.with_query _
  · exact ⟨h.connects, h.connected, h.listening, h.waiting, h.sent, h.searches, h.posted⟩
  · exact (h.with_running hidle _).with_query _
  · exact (h.with_running hidle _).with_query _

/-- A frame is done; one that starts a read or drains a queue has done so. -/
lemma Tended.pop (h : Tended s) {f : Frame Own} {fs : List (Frame Own)}
    (hrunning : s.running = f :: fs) {op : Option ReadOp}
    (hop : op.isSome = true ∨ op = s.reading ∧ listens f = false)
    (hw : f = .drainWaiting → s.waiting = []) (hs : f = .drainSent → s.sent = []) :
    Tended { s with running := fs, reading := op } where
  connects := h.connects
  connected := h.connected
  listening hresults hconn hquery := by
    rcases hop with hsome | ⟨rfl, hlistens⟩
    · exact .inl hsome
    · refine (h.listening hresults hconn hquery).imp_right ?_
      rintro ⟨g, hg, hlistens'⟩
      rw [hrunning, List.mem_cons] at hg
      rcases hg with rfl | hg
      · simp [hlistens] at hlistens'
      · exact ⟨g, hg, hlistens'⟩
  waiting hne := by
    obtain ⟨hremote, hdrain⟩ := h.waiting hne
    refine ⟨hremote, fun hno => ?_⟩
    have hmem := hdrain hno
    rw [hrunning, List.mem_cons] at hmem
    exact hmem.resolve_left fun hf => hne (hw hf.symm)
  sent hne := by
    obtain ⟨hremote, hdrain⟩ := h.sent hne
    refine ⟨hremote, fun hno => ?_⟩
    have hmem := hdrain hno
    rw [hrunning, List.mem_cons] at hmem
    exact hmem.resolve_left fun hf => hne (hs hf.symm)
  searches := h.searches
  posted := h.posted

/-- Requests are dropped. -/
lemma Tended.drop (h : Tended s) {waiting sent : List (MeshRequest κ)}
    (hw : waiting ≠ [] → s.waiting ≠ []) (hs : sent ≠ [] → s.sent ≠ []) :
    Tended { s with waiting := waiting, sent := sent } :=
  ⟨h.connects, h.connected, h.listening, fun hne => h.waiting (hw hne), fun hne => h.sent (hs hne),
    h.searches, h.posted⟩

lemma Tended.with_searches (h : Tended s) {searches : List (ByteString × List κ)}
    (hsearches : searches ≠ [] → s.Remote) : Tended { s with currentSearches := searches } :=
  ⟨h.connects, h.connected, h.listening, h.waiting, h.sent, hsearches, h.posted⟩

/-- A callback of a request that is being drained runs on top of the frames. -/
lemma Tended.push (h : Tended s) {fs : List (Frame Own)} (hfs : ∀ f ∈ s.running, f ∈ fs)
    (invoked : List (MeshRequest κ × Option Asset)) :
    Tended { s with running := fs, invoked := invoked } where
  connects := h.connects
  connected := h.connected
  listening hresults hconn hquery :=
    (h.listening hresults hconn hquery).imp_right fun ⟨f, hf, hl⟩ => ⟨f, hfs f hf, hl⟩
  waiting hne := ⟨(h.waiting hne).1, fun hno => hfs _ ((h.waiting hne).2 hno)⟩
  sent hne := ⟨(h.sent hne).1, fun hno => hfs _ ((h.sent hne).2 hno)⟩
  searches := h.searches
  posted := h.posted

lemma Tended.resume (h : Tended s) (hs : s.resume = some s') : Tended s' := by
  unfold MeshServer.resume at hs
  split at hs
  case h_1 fs hrunning =>
    cases hs
    exact h.pop hrunning (.inl rfl) nofun nofun
  case h_2 response fs hrunning =>
    cases hs
    exact h.pop hrunning (.inl rfl) nofun nofun
  case h_3 hrunning | h_4 hrunning =>
    cases hs
    exact h.pop hrunning (.inr ⟨rfl, rfl⟩) nofun nofun
  case h_5 uuid fs hrunning =>
    cases hs
    refine (h.pop hrunning (.inr ⟨rfl, rfl⟩) nofun nofun).with_searches fun hne => h.searches ?_
    rintro hnil
    simp [hnil] at hne
  case h_6 fs hrunning =>
    cases hs
    exact (h.pop hrunning (.inr ⟨rfl, rfl⟩) nofun nofun).checkSafeKill
  case h_7 fs hrunning =>
    cases hs
    exact (h.pop hrunning (.inr ⟨rfl, rfl⟩) nofun nofun).with_query _
  case h_8 =>
    obtain ⟨c, hc, rfl⟩ := Option.map_eq_some_iff.mp hs
    unfold Client.resume at hc
    split at hc
    case h_1 fs hrunning =>
      cases hc
      exact h.pop hrunning (.inr ⟨rfl, rfl⟩) nofun nofun
    case h_2 fs hrunning =>
      cases hc
      have hdropped : Tended { s with waiting := s.waiting.tail } :=
        h.drop (fun hne hnil => hne (by rw [hnil, List.tail_nil])) id
      exact hdropped.pop hrunning (.inr ⟨rfl, rfl⟩) nofun nofun
    case h_3 fs hrunning =>
      cases hc
      have hdropped : Tended { s with sent := s.sent.tail } :=
        h.drop id fun hne hnil => hne (by rw [hnil, List.tail_nil])
      exact hdropped.pop hrunning (.inr ⟨rfl, rfl⟩) nofun nofun
    case h_4 fs hrunning =>
      split at hc
      case h_1 hwaiting =>
        cases hc
        exact h.pop hrunning (.inr ⟨rfl, rfl⟩) (fun _ => hwaiting) nofun
      case h_2 =>
        cases hc
        refine h.push (fun f hf => ?_) _
        rw [hrunning] at hf
        exact List.mem_cons_of_mem _ (List.mem_cons_of_mem _ hf)
    case h_5 fs hrunning =>
      split at hc
      case h_1 hsent =>
        cases hc
        exact h.pop hrunning (.inr ⟨rfl, rfl⟩) nofun fun _ => hsent
      case h_2 =>
        cases hc
        refine h.push (fun f hf => ?_) _
        rw [hrunning] at hf
        exact List.mem_cons_of_mem _ (List.mem_cons_of_mem _ hf)
    case h_6 => cases hc

/-- Whatever happens to a server between two handlers, apart from what searches do. -/
lemma Tended.step [DecidableEq κ] (h : Tended s) (hidle : s.running = []) {e : Event κ}
    (hfirst : ∀ uuid k, e ≠ .getAsset uuid k ∧ e ≠ .search uuid k ∧ e ≠ .cancelSearch uuid k)
    (hconnect : e = .connect → s.numConnectResultsRcvd = 0)
    (hs : s.step e = some s') : Tended s' := by
  have hforeign : s.foreign = true := by simp [MeshServer.foreign, Client.foreign, hidle]
  cases e with
  | getAsset uuid k => exact absurd rfl (hfirst uuid k).1
  | search uuid k => exact absurd rfl (hfirst uuid k).2.1
  | cancelSearch uuid k => exact absurd rfl (hfirst uuid k).2.2
  | resume => exact h.resume hs
  | registerSafeKillCallback =>
    rw [MeshServer.step, if_pos hforeign] at hs
    cases hs
    exact ⟨h.connects, h.connected, h.listening, h.waiting, h.sent, h.searches, h.posted⟩
  | connect =>
    rw [MeshServer.step, if_pos hforeign] at hs
    cases hs
    exact h.connect (hconnect rfl)
  | close =>
    rw [MeshServer.step, if_pos hforeign] at hs
    cases hs
    exact h.close _
  | assetConnected success =>
    obtain ⟨hcond, hs⟩ := Option.ite_none_right_eq_some.mp hs
    cases hs
    exact h.onConnect (by simpa [hidle] using hcond) success
  | queryConnected success =>
    obtain ⟨hcond, hs⟩ := Option.ite_none_right_eq_some.mp hs
    cases hs
    exact h.onQueryConnect (by simpa [hidle] using hcond) success
  | written success =>
    obtain rfl := Machine.eq_of_ite hs
    exact h.written success
  | read bytes =>
    rw [MeshServer.step] at hs
    split at hs
    · cases hs
    · obtain ⟨-, hs⟩ := Option.ite_none_right_eq_some.mp hs
      exact h.onRead hidle hs
  | queryWritten success =>
    obtain rfl := Machine.eq_of_ite hs
    exact h.onQueryWritten success
  | queryRead msg =>
    obtain rfl := Machine.eq_of_ite hs
    exact h.onQueryRead hidle msg
  | runPosted i =>
    obtain ⟨-, hs⟩ := Option.ite_none_right_eq_some.mp hs
    simp [Client.runPosted, h.posted] at hs

/-! ### What searches do -/

lemma Tended.cancelSearch [DecidableEq κ] (h : Tended s) (uuid : ByteString) (k : κ) :
    Tended (s.cancelSearch uuid k) := by
  refine h.with_searches fun hne => h.searches ?_
  rintro hnil
  simp [hnil] at hne

lemma Tended.search (h : Tended s) (hremote : s.Remote) (uuid : ByteString) (k : κ) :
    Tended (s.search uuid k) := by
  unfold MeshServer.search
  split_ifs
  · exact h.with_searches fun _ => hremote
  · exact (h.with_query (s.query.search uuid)).with_searches fun _ => hremote

lemma Remote.search (h : s.Remote) (uuid : ByteString) (k : κ) : (s.search uuid k).Remote := by
  unfold MeshServer.search
  split_ifs
  · exact h
  · exact h

end MeshServer

namespace MeshStorageBackend

open MeshServer

variable {b b' : MeshStorageBackend} {k : ℕ}

/-- Every server is attended to, and only connected servers tell searches. -/
structure Attended (b : MeshStorageBackend) : Prop where
  tended : ∀ m, (b.servers m).Tended
  told : b.telling ≠ [] → ∀ m, b.running = some m → (b.servers m).Remote

lemma Attended.setServer (h : Attended b) {m : ℕ} {server : MeshServer ℕ} (ht : server.Tended)
    (hremote : (b.servers m).Remote → server.Remote) : Attended (b.setServer m server) where
  tended i := by
    by_cases hi : i = m
    · subst hi
      simpa [MeshStorageBackend.setServer] using ht
    · simpa [MeshStorageBackend.setServer, Function.update_of_ne hi] using h.tended i
  told htelling i hrunning := by
    have hi := h.told htelling i hrunning
    by_cases him : i = m
    · subst him
      simpa [MeshStorageBackend.setServer] using hremote hi
    · simpa [MeshStorageBackend.setServer, Function.update_of_ne him] using hi

/-- Something that keeps `P` is done to servers that have `P`. -/
lemma Attended.foldl (f : MeshServer ℕ → MeshServer ℕ) {P : MeshServer ℕ → Prop}
    (hf : ∀ s, s.Tended → P s → (f s).Tended) (hremote : ∀ s, s.Remote → (f s).Remote)
    (hP : ∀ s, P s → P (f s)) (ms : List ℕ) (h : Attended b) (hms : ∀ m ∈ ms, P (b.servers m)) :
    Attended (ms.foldl (fun b m => b.setServer m (f (b.servers m))) b) := by
  induction ms generalizing b with
  | nil => exact h
  | cons m ms ih =>
    have hm := hms m List.mem_cons_self
    refine ih (h.setServer (hf _ (h.tended m) hm) (hremote _)) fun i hi => ?_
    by_cases him : i = m
    · subst him
      simpa [MeshStorageBackend.setServer] using hP _ hm
    · have hPi := hms i (List.mem_cons_of_mem m hi)
      simpa [MeshStorageBackend.setServer, Function.update_of_ne him] using hPi

/-- Searches and answers are of no concern to the servers. -/
lemma Attended.with_searches (h : Attended b) (searches : List AssetSearch)
    (outputs : List MeshOutput) : Attended { b with searches := searches, outputs := outputs } :=
  ⟨h.tended, h.told⟩

lemma Attended.searchComplete (h : Attended b) : Attended (b.searchComplete k) := by
  unfold MeshStorageBackend.searchComplete
  cases b.searches[k]?.bind (·.foundAsset) with
  | none => exact h.with_searches _ _
  | some asset => exact h.with_searches _ _

lemma Attended.cancelRemainingServers (h : Attended b) (uuid : ByteString) (queried : List ℕ) :
    Attended (b.cancelRemainingServers k uuid queried) := by
  have hcancelled := h.foldl (·.cancelSearch uuid k) (P := fun _ => True)
    (fun s hs _ => hs.cancelSearch uuid k) (fun _ hs => hs) (fun _ => id) queried fun _ _ => trivial
  exact hcancelled.with_searches _ _

/-- Cancelling leaves the connections as they are. -/
lemma cancelRemainingServers_connections {P : MeshServer ℕ → Prop}
    (hP : ∀ s uuid, P s → P (s.cancelSearch uuid k)) (uuid : ByteString) (queried : List ℕ) {m : ℕ}
    (hm : P (b.servers m)) : P ((b.cancelRemainingServers k uuid queried).servers m) := by
  change P
    ((queried.foldl (fun b i => b.setServer i ((b.servers i).cancelSearch uuid k)) b).servers m)
  induction queried generalizing b with
  | nil => exact hm
  | cons i queried ih =>
    apply ih
    by_cases hi : m = i
    · subst hi
      simpa [MeshStorageBackend.setServer] using hP _ uuid hm
    · simpa [MeshStorageBackend.setServer, Function.update_of_ne hi] using hm

lemma Attended.getAsset (h : Attended b) {m : ℕ} (hremote : (b.servers m).Remote)
    (hconn : (b.servers m).established = true) (uuid : ByteString) :
    Attended (b.setServer m ((b.servers m).getAsset uuid k)) := by
  refine h.setServer ((h.tended m).getAsset hconn hremote uuid k) fun _ => ⟨hremote.1, fun _ => ?_⟩
  exact hremote.2 hconn

/-- The server that tells a search has its connections. -/
lemma Attended.onSearchResult (h : Attended b) {m : ℕ} (hremote : (b.servers m).Remote)
    {found : Bool} (hconn : found = true → (b.servers m).established = true) :
    Attended (b.onSearchResult k m found) := by
  unfold MeshStorageBackend.onSearchResult
  cases hsearch : b.searches[k]? with
  | none => exact h
  | some search =>
    let b₁ := (b.modifySearch k fun search' =>
      { search' with queriedServers := search.queriedServers.filter (· ≠ m) }).cancelTimeoutTimer k
    have hb₁ : Attended b₁ := h.with_searches _ _
    have hstopped : Attended (b₁.cancelRemainingServers k search.uuid _) :=
      hb₁.cancelRemainingServers search.uuid (search.queriedServers.filter (· ≠ m))
    dsimp only
    split_ifs with hyes htest
    · exact Attended.searchComplete (hstopped.with_searches _ _)
    · have hserver := cancelRemainingServers_connections (b := b₁) (k := k)
        (fun (s : MeshServer ℕ) _ (hs : s.Remote ∧ s.established = true) => hs) search.uuid
        (search.queriedServers.filter (· ≠ m)) ⟨hremote, hconn hyes⟩
      have hmarked : Attended ((b₁.cancelRemainingServers k search.uuid _).modifySearch k
          fun search => { search with wasFound := true }) := hstopped.with_searches _ _
      exact hmarked.getAsset hserver.1 hserver.2 search.uuid
    · exact Attended.searchComplete (h.with_searches _ _)
    · exact h.with_searches _ _

lemma Attended.onTimeout (h : Attended b) : Attended (b.onTimeout k) := by
  unfold MeshStorageBackend.onTimeout
  cases b.searches[k]? with
  | none => exact h
  | some search =>
    dsimp only
    split_ifs
    · exact Attended.searchComplete ((h.cancelRemainingServers _ _).with_searches _ _)
    · exact h

lemma Attended.startSearch (h : Attended b) (uuid : ByteString) (isTest : Bool) {ready : List ℕ}
    (hready : ∀ m ∈ ready, isConnected (b.servers m) = true) :
    Attended (b.startSearch uuid isTest ready) := by
  have hremote (m : ℕ) (hm : m ∈ ready) : (b.servers m).Remote := by
    have hconn := hready m hm
    simp only [isConnected, Bool.and_eq_true, decide_eq_true_eq] at hconn
    exact ⟨hconn.1.1, fun _ => hconn.2⟩
  have hasked := Attended.foldl (·.search uuid b.searches.length)
    (fun s hs hremote => hs.search hremote uuid _) (fun s hs => hs.search uuid _)
    (fun s hs => hs.search uuid _) ready
    (h.with_searches (b.searches ++ [{ uuid := uuid, isTest := isTest }]) b.outputs) hremote
  simp only [MeshStorageBackend.startSearch, performSearch]
  split_ifs
  · exact Attended.searchComplete (hasked.with_searches _ _)
  · exact hasked.with_searches _ _

lemma Attended.onFullAssetRcvd (h : Attended b) (asset : Option Asset) :
    Attended (b.onFullAssetRcvd k asset) := by
  unfold MeshStorageBackend.onFullAssetRcvd
  cases b.searches[k]? with
  | none => exact h
  | some search =>
    apply Attended.searchComplete
    by_cases htest : search.isTest = true
    · rwa [if_pos htest]
    · rw [if_neg htest]
      exact h.with_searches _ _

/-- Callbacks of gets run; the servers are as they were. -/
lemma Attended.foldl_onFullAssetRcvd (called : List (MeshRequest ℕ × Option Asset))
    (h : Attended b) :
    Attended (called.foldl (fun b p => b.onFullAssetRcvd p.1.callback p.2) b) := by
  induction called generalizing b with
  | nil => exact h
  | cons p called ih => exact ih (h.onFullAssetRcvd p.2)

lemma attended_advance (h : ∀ i, (b.servers i).Tended) {m : ℕ} {server : MeshServer ℕ}
    (ht : server.Tended) (htold : b.telling ≠ [] → server.Remote) :
    Attended (b.advance m server) := by
  refine .foldl_onFullAssetRcvd _ ⟨fun i => ?_, fun htelling i hrunning => ?_⟩
  · by_cases hi : i = m
    · subst hi
      simpa [MeshStorageBackend.setServer] using ht
    · simpa [MeshStorageBackend.setServer, Function.update_of_ne hi] using h i
  · have hi : m = i := by
      by_contra hne
      by_cases hempty : server.running.isEmpty <;> simp [hempty, hne] at hrunning
    subst hi
    simpa [MeshStorageBackend.setServer] using htold htelling

/-- A server that resumes a frame which tells searches has its connections. -/
lemma remote_of_toTell {s s' : MeshServer ℕ} (h : s.Tended) (hs : s.resume = some s')
    (htell : toTell s ≠ []) : s'.Remote := by
  unfold toTell at htell
  split at htell
  case h_1 uuid found fs hrunning =>
    simp only [MeshServer.resume, hrunning, Option.some.injEq] at hs
    subst hs
    apply h.searches
    rintro hnil
    simp [searchesFor, hnil] at htell
  case h_2 fs hrunning =>
    simp only [MeshServer.resume, hrunning, Option.some.injEq] at hs
    subst hs
    apply h.searches
    rintro hnil
    simp [hnil] at htell
  case h_3 => exact absurd rfl htell

end MeshStorageBackend

end Whip
