import Whip.Mesh.MeshStorageBackend

/-!
# A search finds the asset it searches for

A mesh server checks the identifier of an asset it receives against the oldest get it has sent, and
calls back with a null asset in all other cases. So the requester of a search is given the asset
that was searched for or none, whatever bytes the peers send.
-/

namespace Whip

open Pipelined Pipelined.Client

namespace MeshServer

variable {κ : Type} {P : MeshRequest κ → Prop} {s s' : MeshServer κ}

/-- A result of a get is null, or has the identifier that was asked for. -/
def Same (r : MeshRequest κ) (asset : Option Asset) : Prop :=
  ∀ a, asset = some a → a.getUUID = r.uuid

lemma same_none (r : MeshRequest κ) : Same r none := nofun

/-- All gets satisfy `P`, and all results are the same as what was asked for. -/
abbrev Honest (P : MeshRequest κ → Prop) (s : MeshServer κ) : Prop := Carries P Same s.toClient

lemma Honest.with_running (h : Honest P s) (fs : List (Frame Own)) :
    Honest P { s with running := fs } := ⟨h.waiting, h.sent, h.posted, h.invoked⟩

lemma Honest.close (h : Honest P s) : Honest P s.close := by
  simp only [MeshServer.close]
  split_ifs
  · exact ⟨h.waiting, h.sent, h.posted, h.invoked⟩
  · exact ⟨h.waiting, h.sent, h.posted, h.invoked⟩

lemma Honest.closeQuery (h : Honest P s) : Honest P s.closeQuery := by
  simp only [MeshServer.closeQuery]
  split_ifs
  · exact Honest.close (s := { s with query := _, queryConnectionEstablished := false }) h
  · exact h

lemma Honest.checkSafeKill (h : Honest P s) : Honest P s.checkSafeKill := by
  unfold MeshServer.checkSafeKill
  split_ifs
  · exact h
  · exact h

lemma Honest.onConnectionResult (h : Honest P s) : Honest P s.onConnectionResult := by
  simp only [MeshServer.onConnectionResult, MeshServer.listenForAssetData]
  split_ifs
  · exact h.with_running _
  · exact h.with_running _
  · exact h

lemma Honest.written (h : Honest P s) (success : Bool) :
    Honest P (s.onAfterWriteAssetRequest success) := by
  have hwritten : Honest P { s with writing := none } :=
    ⟨h.waiting, h.sent, h.posted, h.invoked⟩
  simp only [MeshServer.onAfterWriteAssetRequest]
  split_ifs
  · apply Honest.checkSafeKill
    exact hwritten.next same_none
  · exact hwritten.checkSafeKill
  · exact hwritten.close

lemma Honest.answer (h : Honest P s) {asset : Option Asset}
    (hsame : ∀ r ∈ s.sent.head?, Same r asset)
    {rest : List (Frame Own)} (hs : s.answer asset rest = some s') : Honest P s' := by
  obtain ⟨c, hc, rfl⟩ := Option.map_eq_some_iff.mp hs
  exact Carries.answer h hsame hc

lemma Honest.onRead (h : Honest P s) {op : ReadOp} {bytes : Option ByteString}
    (hs : s.onRead op bytes = some s') : Honest P s' := by
  have hread : Honest P { s with reading := none } := h
  have hnull {rest : List (Frame Own)}
      (hs : MeshServer.answer { s with reading := none } none rest = some s') : Honest P s' :=
    hread.answer (fun r _ => same_none r) hs
  unfold MeshServer.onRead at hs
  dsimp only at hs
  split at hs
  · cases hs
    exact hread.close
  · unfold MeshServer.onReadResponseHeader at hs
    dsimp only at hs
    split at hs
    · cases hs
      exact h
    · cases hs
      exact hread.close
    · split at hs
      · cases hs
      · split_ifs at hs
        · cases hs
          exact hread.close
        · exact hnull hs
        · exact hnull hs
  · unfold MeshServer.onReadResponseData at hs
    split_ifs at hs
    · split at hs
      · cases hs
      · next req rest hsent =>
        dsimp only at hs
        split_ifs at hs with hid
        · refine hread.answer (fun r hr a ha => ?_) hs
          rw [show s.sent = req :: rest from hsent, List.head?_cons, Option.mem_some_iff] at hr
          rw [← hr, ← Option.some.inj ha, hid]
        · cases hs
          exact hread.close
    · cases hs
      exact hread.close
  · cases hs
    exact h

lemma Honest.onQueryRead (h : Honest P s) (msg : Option IntraMeshMsg) :
    Honest P (s.onQueryRead msg) := by
  unfold MeshServer.onQueryRead
  dsimp only
  split
  · exact Honest.closeQuery (s := { s with query := _ }) h
  · exact h
  · exact h
  · exact h.with_running _
  · exact h.with_running _

lemma Honest.resume (h : Honest P s) (hs : s.resume = some s') : Honest P s' := by
  unfold MeshServer.resume at hs
  split at hs
  case h_6 fs hrun =>
    cases hs
    exact (h.with_running fs).checkSafeKill
  case h_8 =>
    obtain ⟨c, hc, rfl⟩ := Option.map_eq_some_iff.mp hs
    exact Carries.resume h same_none hc
  all_goals
    cases hs
    exact h.with_running _

/-- Whatever happens to a server, apart from a new get. -/
lemma Honest.step [DecidableEq κ] (h : Honest P s) {e : Event κ}
    (hget : ∀ uuid k, e ≠ .getAsset uuid k) (hs : s.step e = some s') : Honest P s' := by
  cases e with
  | getAsset uuid k => exact absurd rfl (hget uuid k)
  | resume => exact h.resume hs
  | registerSafeKillCallback | connect | cancelSearch =>
    obtain rfl := Machine.eq_of_ite hs
    exact h
  | search uuid k =>
    obtain rfl := Machine.eq_of_ite hs
    split_ifs
    · unfold MeshServer.search
      split_ifs
      · exact h
      · exact h
    · exact h
  | close =>
    obtain rfl := Machine.eq_of_ite hs
    exact h.close
  | assetConnected success =>
    obtain rfl := Machine.eq_of_ite hs
    have hset : Honest P { s with assetConnecting := false, established := success } :=
      ⟨h.waiting, h.sent, h.posted, h.invoked⟩
    exact hset.onConnectionResult
  | queryConnected success =>
    obtain rfl := Machine.eq_of_ite hs
    simp only [MeshServer.onQueryConnect]
    split_ifs
    · exact Honest.onConnectionResult (s := { s with
        queryConnecting := false, query := _, queryConnectionEstablished := true }) h
    · exact Honest.onConnectionResult (s := { s with queryConnecting := false, query := _ }) h
  | written success =>
    obtain rfl := Machine.eq_of_ite hs
    exact h.written success
  | read bytes =>
    rw [MeshServer.step] at hs
    split at hs
    · cases hs
    · obtain ⟨-, hs⟩ := Option.ite_none_right_eq_some.mp hs
      exact h.onRead hs
  | queryWritten success =>
    obtain rfl := Machine.eq_of_ite hs
    simp only [MeshServer.onQueryWritten]
    split_ifs
    · exact h
    · exact Honest.closeQuery (s := { s with query := _ }) h
  | queryRead msg =>
    obtain rfl := Machine.eq_of_ite hs
    exact h.onQueryRead msg
  | runPosted i =>
    obtain ⟨-, hs⟩ := Option.ite_none_right_eq_some.mp hs
    obtain ⟨c, hc, rfl⟩ := Option.map_eq_some_iff.mp hs
    exact Carries.runPosted h hc

end MeshServer

namespace MeshStorageBackend

variable {b b' : MeshStorageBackend} {uuids : List ByteString} {past : List MeshOutput} {k : ℕ}

/-- The get is for what its search is for. -/
def Wants (uuids : List ByteString) (r : MeshRequest ℕ) : Prop := uuids[r.callback]? = some r.uuid

/-- An answer to a search is null, or has the identifier that was searched for. -/
def Fair (uuids : List ByteString) : MeshOutput → Prop
  | .answer k (.asset asset) =>
    ∃ uuid, uuids[k]? = some uuid ∧ ∀ a, asset = some a → a.getUUID = uuid
  | .answer _ (.presence _)  => False
  | .inform _                => True

/-- The searches are for the assets with the given identifiers; all gets are for what their search
is for, and so are all answers. The calls in `past` have been made before. -/
structure Faithful (uuids : List ByteString) (past : List MeshOutput) (b : MeshStorageBackend) :
    Prop where
  searches : b.searches.map (fun search => (search.uuid, search.isTest)) = uuids.map (·, false)
  servers : ∀ m, MeshServer.Honest (Wants uuids) (b.servers m)
  outputs : ∀ o ∈ b.outputs, Fair uuids o
  past : past <+: b.outputs

lemma faithful_new : Faithful [] [] {} := by
  refine ⟨rfl, fun m => ⟨?_, ?_, ?_, ?_⟩, ?_, List.nil_prefix⟩ <;> exact nofun

lemma Faithful.rebase (h : Faithful uuids past b) : Faithful uuids b.outputs b :=
  ⟨h.searches, h.servers, h.outputs, List.prefix_rfl⟩

lemma Faithful.search (h : Faithful uuids past b) {search : AssetSearch}
    (hsearch : b.searches[k]? = some search) :
    uuids[k]? = some search.uuid ∧ search.isTest = false := by
  have hk := congrArg (·[k]?) h.searches
  simp only [List.getElem?_map, hsearch, Option.map_some] at hk
  obtain ⟨uuid, huuid, heq⟩ := Option.map_eq_some_iff.mp hk.symm
  obtain ⟨rfl, htest⟩ := Prod.mk.inj heq
  exact ⟨huuid, htest.symm⟩

lemma Faithful.modifySearch (h : Faithful uuids past b) {f : AssetSearch → AssetSearch}
    (hf : ∀ search, (f search).uuid = search.uuid ∧ (f search).isTest = search.isTest) :
    Faithful uuids past (b.modifySearch k f) := by
  refine ⟨?_, h.servers, h.outputs, h.past⟩
  rw [← h.searches]
  apply List.ext_getElem?
  intro i
  simp only [MeshStorageBackend.modifySearch, List.getElem?_map, List.getElem?_modify]
  cases b.searches[i]? with
  | none => rfl
  | some search => by_cases hi : k = i <;> simp [hi, hf]

lemma Faithful.setServer (h : Faithful uuids past b) {m : ℕ} {server : MeshServer ℕ}
    (hserver : MeshServer.Honest (Wants uuids) server) :
    Faithful uuids past (b.setServer m server) := by
  refine ⟨h.searches, fun i => ?_, h.outputs, h.past⟩
  by_cases hi : i = m
  · subst hi
    simpa [MeshStorageBackend.setServer] using hserver
  · simpa [MeshStorageBackend.setServer, Function.update_of_ne hi] using h.servers i

lemma Faithful.call (h : Faithful uuids past b) {o : MeshOutput} (ho : Fair uuids o) :
    Faithful uuids past (b.call o) := by
  refine ⟨h.searches, h.servers, fun o' ho' => ?_, h.past.trans (List.prefix_append _ _)⟩
  obtain ho' | ho' := List.mem_append.mp ho'
  · exact h.outputs o' ho'
  · rw [List.mem_singleton.mp ho']
    exact ho

lemma Faithful.foldl (f : MeshServer ℕ → MeshServer ℕ)
    (hf : ∀ s, MeshServer.Honest (Wants uuids) s → MeshServer.Honest (Wants uuids) (f s))
    (ms : List ℕ) (h : Faithful uuids past b) :
    Faithful uuids past (ms.foldl (fun b m => b.setServer m (f (b.servers m))) b) := by
  induction ms generalizing b with
  | nil => exact h
  | cons m ms ih => exact ih (h.setServer (hf _ (h.servers m)))

lemma Faithful.searchComplete (h : Faithful uuids past b) :
    Faithful uuids past (b.searchComplete k) := by
  unfold MeshStorageBackend.searchComplete
  split
  · next asset _ =>
    have hcall : Faithful uuids past (b.call (.inform asset)) := h.call trivial
    exact hcall.modifySearch fun _ => ⟨rfl, rfl⟩
  · exact h.modifySearch fun _ => ⟨rfl, rfl⟩

lemma Faithful.generateNegativeResponse (h : Faithful uuids past b) {search : AssetSearch}
    (hk : uuids[k]? = some search.uuid) (htest : search.isTest = false) :
    Faithful uuids past (b.generateNegativeResponse k search) := by
  rw [MeshStorageBackend.generateNegativeResponse, htest]
  exact h.call ⟨search.uuid, hk, nofun⟩

lemma Faithful.cancelTimeoutTimer (h : Faithful uuids past b) :
    Faithful uuids past (b.cancelTimeoutTimer k) :=
  h.modifySearch fun _ => ⟨rfl, rfl⟩

lemma Faithful.cancelRemainingServers (h : Faithful uuids past b) (uuid : ByteString)
    (queried : List ℕ) : Faithful uuids past (b.cancelRemainingServers k uuid queried) :=
  (h.foldl (·.cancelSearch uuid k) (fun _ hs => hs) queried).modifySearch fun _ => ⟨rfl, rfl⟩

lemma Faithful.onSearchResult (h : Faithful uuids past b) (m : ℕ) (found : Bool) :
    Faithful uuids past (b.onSearchResult k m found) := by
  unfold MeshStorageBackend.onSearchResult
  cases hsearch : b.searches[k]? with
  | none => exact h
  | some search =>
    obtain ⟨huuid, htest⟩ := h.search hsearch
    have hasked := h.modifySearch (k := k) (f := fun search' =>
      { search' with queriedServers := search.queriedServers.filter (· ≠ m) }) fun _ => ⟨rfl, rfl⟩
    simp only
    split_ifs with hyes hisTest
    · exact absurd hisTest (by simp [htest])
    · have hstopped := hasked.cancelTimeoutTimer (k := k) |>.cancelRemainingServers (k := k)
        search.uuid (search.queriedServers.filter (· ≠ m))
      have hfound := hstopped.modifySearch (k := k)
        (f := fun search => { search with wasFound := true }) fun _ => ⟨rfl, rfl⟩
      have hr : Wants uuids ⟨search.uuid, k⟩ := huuid
      exact hfound.setServer ((hfound.servers m).request hr (MeshServer.same_none _))
    · exact (hasked.cancelTimeoutTimer.generateNegativeResponse huuid htest).searchComplete
    · exact hasked

lemma Faithful.onTimeout (h : Faithful uuids past b) : Faithful uuids past (b.onTimeout k) := by
  unfold MeshStorageBackend.onTimeout
  cases hsearch : b.searches[k]? with
  | none => exact h
  | some search =>
    obtain ⟨huuid, htest⟩ := h.search hsearch
    simp only
    split_ifs
    · exact ((h.cancelRemainingServers _ _).generateNegativeResponse huuid htest).searchComplete
    · exact h

/-- A transfer is through. -/
lemma Faithful.onFullAssetRcvd (h : Faithful uuids past b) {asset : Option Asset}
    (ho : Fair uuids (.answer k (.asset asset))) :
    Faithful uuids past (b.onFullAssetRcvd k asset) := by
  unfold MeshStorageBackend.onFullAssetRcvd
  cases hsearch : b.searches[k]? with
  | none => exact h
  | some search =>
    have hkept := h.modifySearch (k := k)
      (f := fun search => { search with foundAsset := asset }) fun _ => ⟨rfl, rfl⟩
    simp only
    split_ifs
    · exact h.searchComplete
    · exact (hkept.call ho).searchComplete

lemma Faithful.advance (h : Faithful uuids past b) {m : ℕ} {server : MeshServer ℕ}
    (hserver : MeshServer.Honest (Wants uuids) server) :
    Faithful uuids past (b.advance m server) := by
  have hcalled : ∀ p ∈ server.invoked.drop (b.servers m).invoked.length,
      Fair uuids (.answer p.1.callback (.asset p.2)) := fun p hp =>
    have hp := hserver.invoked p (List.mem_of_mem_drop hp)
    ⟨p.1.uuid, hp.1, hp.2⟩
  have hset := h.setServer (m := m) hserver
  have hb : Faithful uuids past { b.setServer m server with
      running := if server.running.isEmpty then none else some m } :=
    ⟨hset.searches, hset.servers, hset.outputs, hset.past⟩
  rw [MeshStorageBackend.advance]
  generalize server.invoked.drop (b.servers m).invoked.length = called at hcalled
  revert hb
  generalize ({ b.setServer m server with running := _ } : MeshStorageBackend) = b₁
  intro hb
  induction called generalizing b₁ with
  | nil => exact hb
  | cons p called ih =>
    obtain ⟨hp, hcalled⟩ := List.forall_mem_cons.mp hcalled
    exact ih hcalled _ (hb.onFullAssetRcvd hp)

/-- A search is added to those there are. -/
lemma Faithful.startSearch (h : Faithful uuids past b) (uuid : ByteString) (ready : List ℕ) :
    Faithful (uuids ++ [uuid]) past (b.startSearch uuid false ready) := by
  have hmono {k : ℕ} {u : ByteString} (hk : uuids[k]? = some u) :
      (uuids ++ [uuid])[k]? = some u := by
    rw [List.getElem?_append_left (List.getElem?_eq_some_iff.mp hk).1, hk]
  have hlen : b.searches.length = uuids.length := by simpa using congrArg List.length h.searches
  have hnew : (uuids ++ [uuid])[b.searches.length]? = some uuid := by rw [hlen]; simp
  have hadded : Faithful (uuids ++ [uuid]) past
      { b with searches := b.searches ++ [{ uuid := uuid, isTest := false }] } := by
    refine ⟨by simp [h.searches], fun m => (h.servers m).mono fun r hr => hmono hr, fun o ho => ?_,
      h.past⟩
    have hfair := h.outputs o ho
    cases o with
    | inform asset => trivial
    | answer k answer =>
      cases answer with
      | presence found => exact hfair
      | asset asset =>
        obtain ⟨u, hu, hsame⟩ := hfair
        exact ⟨u, hmono hu, hsame⟩
  have hasked := hadded.foldl (·.search uuid b.searches.length)
    (fun s hs => by unfold MeshServer.search; split_ifs <;> exact hs) ready
  simp only [MeshStorageBackend.startSearch, performSearch]
  split_ifs
  · exact (hasked.generateNegativeResponse hnew rfl).searchComplete
  · exact hasked.modifySearch fun _ => ⟨rfl, rfl⟩

/-- Whatever happens to the mesh, apart from new searches. -/
lemma Faithful.step (h : Faithful uuids past b) {e : Event}
    (hstart : ∀ uuid isTest ready, e ≠ .start uuid isTest ready) (hstep : b.step e = some b') :
    Faithful uuids past b' := by
  cases e with
  | start uuid isTest ready => exact absurd rfl (hstart uuid isTest ready)
  | server m e =>
    obtain ⟨-, -, hallows, server, hserver, rfl⟩ := step_server hstep
    refine h.advance ((h.servers m).step (fun uuid k he => ?_) hserver)
    rw [he] at hallows
    exact absurd hallows (by simp [allows])
  | resume =>
    obtain ⟨m, server, -, -, hserver, rfl⟩ := step_resume hstep
    have htelling : Faithful uuids past { b with telling := toTell (b.servers m) } :=
      ⟨h.searches, h.servers, h.outputs, h.past⟩
    exact htelling.advance ((h.servers m).step (fun _ _ => by simp) hserver)
  | tell =>
    obtain ⟨m, k, found, rest, -, -, rfl⟩ := step_tell hstep
    have htelling : Faithful uuids past { b with telling := rest } :=
      ⟨h.searches, h.servers, h.outputs, h.past⟩
    split_ifs
    · exact htelling.onSearchResult m found
    · exact htelling
  | expire k =>
    obtain ⟨-, hb'⟩ := Option.ite_none_right_eq_some.mp hstep
    cases hb'
    exact h.modifySearch fun _ => ⟨rfl, rfl⟩
  | timeout k =>
    obtain ⟨-, hb'⟩ := Option.ite_none_right_eq_some.mp hstep
    cases hb'
    have hran := h.modifySearch (k := k)
      (f := fun search => { search with timeoutTimer := .ran }) fun _ => ⟨rfl, rfl⟩
    exact hran.onTimeout

end MeshStorageBackend

end Whip
