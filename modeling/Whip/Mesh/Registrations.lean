import Whip.Mesh.Searches
import Whip.Lib.Answering
import Whip.Lib.MultiMap

/-!
# Searches and the servers they wait for

A search keeps the servers it has asked, and a server the searches that wait for its answer. Both
are updated by the handlers of either side. Here it is shown that they agree between any two
handlers, as long as a server is not closed before a search that waits for other servers as well.
-/

namespace Whip

open Pipelined Pipelined.Client
open MultiMap (Lists Indexed entry)

namespace MeshServer

variable {κ : Type} {s s' : MeshServer κ}

/-! ### The list of a server -/

lemma searchesFor_eq (s : MeshServer κ) (uuid : ByteString) :
    s.searchesFor uuid = entry s.currentSearches uuid := rfl

lemma currentSearches_search (s : MeshServer κ) (uuid : ByteString) (k : κ) :
    (s.search uuid k).currentSearches = MultiMap.insert s.currentSearches uuid k := by
  unfold search MultiMap.insert
  split_ifs <;> rfl

lemma currentSearches_cancelSearch [DecidableEq κ] (s : MeshServer κ) (uuid : ByteString) (k : κ) :
    (s.cancelSearch uuid k).currentSearches = MultiMap.remove s.currentSearches uuid k := rfl

/-! ### Frames that deal with the list -/

/-- The frames that pass an answer on. -/
def posts : Frame Own → Bool
  | .other (.postResponse _ _) | .other (.eraseSearches _) => true
  | _ => false

/-- An answer is passed on by itself: nothing comes between telling the searches and erasing
them. -/
def Shaped (s : MeshServer κ) : Prop :=
  (∃ uuid found, s.running =
    [.other (.postResponse uuid found), .other (.eraseSearches uuid), .other .listenForMessage]) ∨
  (∃ uuid, s.running = [.other (.eraseSearches uuid), .other .listenForMessage]) ∨
  ∀ f ∈ s.running, posts f = false

lemma Shaped.post (h : s.Shaped) {uuid : ByteString} {found : Bool} {fs : List (Frame Own)}
    (hrun : s.running = .other (.postResponse uuid found) :: fs) :
    fs = [.other (.eraseSearches uuid), .other .listenForMessage] := by
  obtain ⟨uuid', found', hshape⟩ | ⟨uuid', hshape⟩ | hmute := h
  · simp only [hrun, List.cons.injEq, Frame.other.injEq, Own.postResponse.injEq] at hshape
    obtain ⟨⟨rfl, -⟩, rfl⟩ := hshape
    rfl
  · simp [hrun] at hshape
  · cases hmute _ (hrun ▸ List.mem_cons_self)

lemma Shaped.erase (h : s.Shaped) {uuid : ByteString} {fs : List (Frame Own)}
    (hrun : s.running = .other (.eraseSearches uuid) :: fs) : fs = [.other .listenForMessage] := by
  obtain ⟨uuid', found', hshape⟩ | ⟨uuid', hshape⟩ | hmute := h
  · simp [hrun] at hshape
  · simp only [hrun, List.cons.injEq] at hshape
    exact hshape.2
  · cases hmute _ (hrun ▸ List.mem_cons_self)

/-- What a handler does to the searches it has yet to tell or to erase. -/
lemma resume_cases (hs : s.resume = some s') :
    (∃ uuid found fs, s.running = .other (.postResponse uuid found) :: fs ∧
      s' = { s with running := fs }) ∨
    (∃ uuid fs, s.running = .other (.eraseSearches uuid) :: fs ∧
      s' = { s with running := fs }.eraseSearches uuid) ∨
    (∃ f fs, s.running = f :: fs ∧ posts f = false ∧ s'.currentSearches = s.currentSearches ∧
      ∀ own, .other own ∈ s'.running → .other own ∈ s.running) := by
  have hpop {own : Own} {fs : List (Frame Own)} (hrun : s.running = .other own :: fs) (i : Own)
      (hi : .other i ∈ fs) : .other i ∈ s.running := hrun ▸ List.mem_cons_of_mem _ hi
  unfold resume at hs
  split at hs
  case h_3 uuid found fs hrun =>
    cases hs
    exact .inl ⟨uuid, found, fs, hrun, rfl⟩
  case h_5 uuid fs hrun =>
    cases hs
    exact .inr (.inl ⟨uuid, fs, hrun, rfl⟩)
  case h_6 fs hrun =>
    cases hs
    refine .inr (.inr ⟨_, fs, hrun, rfl, ?_, ?_⟩)
    · unfold checkSafeKill
      split_ifs <;> rfl
    · unfold checkSafeKill
      split_ifs <;> exact hpop hrun
  case h_8 hrest =>
    obtain ⟨c, hc, rfl⟩ := Option.map_eq_some_iff.mp hs
    cases hrun : s.running with
    | nil => simp [Client.resume, hrun] at hc
    | cons f fs =>
      refine .inr (.inr ⟨f, fs, rfl, ?_, rfl, fun own hi => hrun ▸ other_mem_of_resume hc hi⟩)
      cases f with
      | other own => simp [Client.resume, hrun] at hc
      | _ => rfl
  all_goals
    next hrun =>
    cases hs
    exact .inr (.inr ⟨_, _, hrun, rfl, rfl, hpop hrun⟩)

/-! ### Handlers and the list -/

/-- The server keeps its list, and tells none of its searches. -/
structure Mute (s s' : MeshServer κ) : Prop where
  currentSearches : s'.currentSearches = s.currentSearches
  running : ∀ f ∈ s'.running, posts f = false

variable {t : MeshServer κ}

lemma mute_of_running (hlist : t.currentSearches = s.currentSearches) (hidle : t.running = []) :
    Mute s t :=
  ⟨hlist, by simp [hidle]⟩

lemma mute_close (hlist : t.currentSearches = s.currentSearches) (hidle : t.running = []) :
    Mute s t.close := by
  unfold close
  dsimp only
  split_ifs
  · exact ⟨hlist, by simp [Client.close, closeRest, hidle, posts]⟩
  · exact ⟨hlist, by simp [Client.close, closeRest, hidle, posts]⟩

lemma mute_closeQuery (hlist : t.currentSearches = s.currentSearches) (hidle : t.running = []) :
    Mute s t.closeQuery := by
  unfold closeQuery
  dsimp only
  split_ifs
  · exact mute_close hlist hidle
  · exact mute_of_running hlist hidle

lemma mute_checkSafeKill (h : Mute s t) : Mute s t.checkSafeKill := by
  unfold checkSafeKill
  split_ifs
  · exact ⟨h.currentSearches, h.running⟩
  · exact h

lemma mute_onConnectionResult (hlist : t.currentSearches = s.currentSearches)
    (hidle : t.running = []) : Mute s t.onConnectionResult := by
  unfold onConnectionResult
  dsimp only
  split_ifs
  · exact ⟨hlist, by simp [posts]⟩
  · exact ⟨hlist, by simp [posts]⟩
  · exact mute_of_running hlist hidle

lemma mute_written (hidle : s.running = []) (success : Bool) :
    Mute s (s.onAfterWriteAssetRequest success) := by
  unfold onAfterWriteAssetRequest
  cases success with
  | false => exact mute_close rfl hidle
  | true =>
    apply mute_checkSafeKill
    dsimp only
    split_ifs
    · exact mute_of_running rfl ((running_next ..).trans hidle)
    · exact mute_of_running rfl hidle

lemma mute_onRead (hidle : s.running = []) {op : ReadOp} {bytes : Option ByteString}
    (hs : s.onRead op bytes = some s') : Mute s s' := by
  obtain rfl | ⟨-, -, response, rfl⟩ | ⟨-, rfl⟩ | ⟨-, -, asset, own, hown, hanswer⟩ :=
    onRead_cases hs
  · exact mute_close rfl hidle
  · exact mute_of_running rfl hidle
  · exact mute_of_running rfl hidle
  · obtain ⟨c, hc, rfl⟩ := Option.map_eq_some_iff.mp hanswer
    have hposts : posts (.other own) = false := by
      cases own with
      | listenForAssetData | readErrorData => rfl
      | _ => cases hown
    unfold Client.answer at hc
    split at hc <;> cases hc
    refine ⟨rfl, fun f hf => ?_⟩
    simp only [hidle, List.cons_append, List.nil_append, List.mem_cons, List.not_mem_nil,
      or_false] at hf
    rcases hf with rfl | rfl | rfl
    · rfl
    · rfl
    · exact hposts

/-- What happens to an idle server apart from searches leaves its list alone, and at most an answer
is passed on. -/
lemma step_of_idle [DecidableEq κ] {e : Event κ} (hidle : s.running = [])
    (hfirst : ∀ uuid k, e ≠ .search uuid k ∧ e ≠ .cancelSearch uuid k) (hresume : e ≠ .resume)
    (hs : s.step e = some s') :
    Mute s s' ∨ s'.currentSearches = s.currentSearches ∧ ∃ uuid found, s'.running =
      [.other (.postResponse uuid found), .other (.eraseSearches uuid),
        .other .listenForMessage] := by
  have hforeign : s.foreign = true := by simp [MeshServer.foreign, Client.foreign, hidle]
  cases e with
  | search uuid k => exact absurd rfl (hfirst uuid k).1
  | cancelSearch uuid k => exact absurd rfl (hfirst uuid k).2
  | resume => exact absurd rfl hresume
  | registerSafeKillCallback | connect =>
    rw [step, if_pos hforeign] at hs
    cases hs
    exact .inl (mute_of_running rfl hidle)
  | getAsset uuid k =>
    rw [step, if_pos hforeign] at hs
    cases hs
    exact .inl (mute_of_running rfl ((running_request ..).trans hidle))
  | close =>
    rw [step, if_pos hforeign] at hs
    cases hs
    exact .inl (mute_close rfl hidle)
  | assetConnected success =>
    obtain rfl := Machine.eq_of_ite hs
    exact .inl (mute_onConnectionResult rfl hidle)
  | queryConnected success =>
    obtain rfl := Machine.eq_of_ite hs
    cases success with
    | false | true => exact .inl (mute_onConnectionResult rfl hidle)
  | written success =>
    obtain rfl := Machine.eq_of_ite hs
    exact .inl (mute_written hidle success)
  | read bytes =>
    simp only [step] at hs
    split at hs
    · cases hs
    · split_ifs at hs
      exact .inl (mute_onRead hidle hs)
  | queryWritten success =>
    obtain rfl := Machine.eq_of_ite hs
    cases success with
    | false => exact .inl (mute_closeQuery rfl hidle)
    | true => exact .inl (mute_of_running rfl hidle)
  | queryRead msg =>
    obtain rfl := Machine.eq_of_ite hs
    cases msg with
    | none => exact .inl (mute_closeQuery rfl hidle)
    | some msg =>
      cases msg with
      | invalid | heartbeat => exact .inl (mute_of_running rfl hidle)
      | response uuid found => exact .inr ⟨rfl, uuid, found, rfl⟩
      | query uuid => exact .inr ⟨rfl, uuid, false, rfl⟩
  | runPosted i =>
    obtain ⟨-, hs⟩ := Option.ite_none_right_eq_some.mp hs
    obtain ⟨c, hc, rfl⟩ := Option.map_eq_some_iff.mp hs
    exact .inl ⟨rfl, by simp [running_runPosted hc, hidle, posts]⟩

end MeshServer

namespace MeshStorageBackend

variable {b b' : MeshStorageBackend} {k : ℕ}

/-- The server has told, or is telling, the searches for an identifier, and will erase them. -/
def Posting (b : MeshStorageBackend) (m : ℕ) (uuid : ByteString) : Prop :=
  b.running = some m ∧ (b.servers m).running.head? = some (.other (.eraseSearches uuid))

/-- The server has told the search, and will erase it. -/
def Told (b : MeshStorageBackend) (m : ℕ) (uuid : ByteString) (k : ℕ) : Prop :=
  b.Posting m uuid ∧ k ∉ b.telling.map Prod.fst

/-- The search is known, and is one for the identifier. -/
def Seeks (b : MeshStorageBackend) (k : ℕ) (uuid : ByteString) : Prop :=
  ∃ search, b.searches[k]? = some search ∧ search.uuid = uuid

/-- A live search waits for a server exactly if the server lists it and has not told it. -/
structure Agreed (b : MeshStorageBackend) : Prop where
  indexed : ∀ m, Indexed (b.servers m).currentSearches
  quiet : ∀ m, b.running ≠ some m → (b.servers m).running = []
  shaped : ∀ m, (b.servers m).Shaped
  seeks : ∀ m uuid j, Lists (b.servers m).currentSearches uuid j → b.Seeks j uuid
  agree : ∀ j search, b.searches[j]? = some search → search.isActive = true → ∀ m,
    m ∈ search.queriedServers ↔
      Lists (b.servers m).currentSearches search.uuid j ∧ ¬ b.Told m search.uuid j
  posting : ∀ m uuid, b.Posting m uuid →
    (b.telling.map Prod.fst).Nodup ∧ ∀ j ∈ b.telling.map Prod.fst, b.Seeks j uuid
  closing : ∀ m, b.running = some m → (∀ uuid, ¬ b.Posting m uuid) → ∀ p ∈ b.telling, p.2 = false

/-! ### Operations on one search -/

/-- The servers `ms` no longer list the search `k`, and its record is edited. -/
structure Strikes (k : ℕ) (uuid : ByteString) (ms : List ℕ) (f : AssetSearch → AssetSearch)
    (b b' : MeshStorageBackend) : Prop where
  search : b'.searches[k]? = b.searches[k]?.map f
  searches : ∀ j, j ≠ k → b'.searches[j]? = b.searches[j]?
  frames : ∀ m, (b'.servers m).running = (b.servers m).running
  running : b'.running = b.running
  telling : b'.telling = b.telling
  indexed : ∀ m, Indexed (b.servers m).currentSearches → Indexed (b'.servers m).currentSearches
  lists : ∀ m u j, Lists (b'.servers m).currentSearches u j ↔
    Lists (b.servers m).currentSearches u j ∧ ¬ (m ∈ ms ∧ u = uuid ∧ j = k)

variable {uuid : ByteString} {ms ms' : List ℕ} {f g : AssetSearch → AssetSearch}

lemma Strikes.trans {b'' : MeshStorageBackend} (h : Strikes k uuid ms f b b')
    (h' : Strikes k uuid ms' g b' b'') : Strikes k uuid (ms ++ ms') (g ∘ f) b b'' where
  search := by rw [h'.search, h.search, Option.map_map]
  searches j hj := (h'.searches j hj).trans (h.searches j hj)
  frames m := (h'.frames m).trans (h.frames m)
  running := h'.running.trans h.running
  telling := h'.telling.trans h.telling
  indexed m hm := h'.indexed m (h.indexed m hm)
  lists m u j := by
    rw [h'.lists, h.lists, List.mem_append]
    tauto

/-- A further operation that no server takes part in. -/
lemma Strikes.then {b'' : MeshStorageBackend} (h : Strikes k uuid ms f b b')
    (h' : Strikes k uuid [] g b' b'') : Strikes k uuid ms (g ∘ f) b b'' := by
  have htrans := h.trans h'
  rwa [List.append_nil] at htrans

/-- Nothing happens to the servers. -/
lemma strikes_of_servers (hsearch : b'.searches[k]? = b.searches[k]?.map f)
    (hsearches : ∀ j, j ≠ k → b'.searches[j]? = b.searches[j]?)
    (hservers : b'.servers = b.servers) (hrunning : b'.running = b.running)
    (htelling : b'.telling = b.telling) : Strikes k uuid [] f b b' :=
  ⟨hsearch, hsearches, by simp [hservers], hrunning, htelling, by simp [hservers],
    by simp [hservers]⟩

lemma strikes_modifySearch (f : AssetSearch → AssetSearch) :
    Strikes k uuid [] f b (b.modifySearch k f) :=
  strikes_of_servers (search_modifySearch f) (affects_modifySearch f).searches rfl rfl rfl

lemma strikes_call (output : MeshOutput) : Strikes k uuid [] id b (b.call output) :=
  strikes_of_servers (Option.map_id_apply ..).symm (fun _ _ => rfl) rfl rfl rfl

lemma strikes_searchComplete :
    Strikes k uuid [] (fun search => { search with isActive := false }) b (b.searchComplete k) := by
  unfold searchComplete
  cases b.searches[k]?.bind (·.foundAsset) with
  | none => exact strikes_modifySearch _
  | some asset =>
    exact (strikes_call _).trans
      (strikes_modifySearch fun search => { search with isActive := false })

/-- One server is changed. -/
lemma strikes_setServer {m : ℕ} {server : MeshServer ℕ} (hms : ∀ i ∈ ms, i = m)
    (hframes : server.running = (b.servers m).running)
    (hindexed : Indexed (b.servers m).currentSearches → Indexed server.currentSearches)
    (hlists : ∀ u j, Lists server.currentSearches u j ↔
      Lists (b.servers m).currentSearches u j ∧ ¬ (m ∈ ms ∧ u = uuid ∧ j = k)) :
    Strikes k uuid ms id b (b.setServer m server) := by
  refine ⟨(Option.map_id_apply ..).symm, fun _ _ => rfl, fun i => ?_, rfl, rfl, fun i => ?_,
    fun i u j => ?_⟩
  all_goals
    by_cases hi : i = m
    · subst hi
      simp only [setServer, Function.update_self]
      first | exact hframes | exact hindexed | exact hlists u j
    · have hno : i ∉ ms := fun hmem => hi (hms i hmem)
      simp [setServer, Function.update_of_ne hi, hno]

lemma strikes_getAsset (m : ℕ) :
    Strikes k uuid [] id b (b.setServer m ((b.servers m).getAsset uuid k)) :=
  strikes_setServer (by simp) (running_request ..) id (by simp [MeshServer.getAsset])

lemma strikes_cancelSearch (m : ℕ) :
    Strikes k uuid [m] id b (b.setServer m ((b.servers m).cancelSearch uuid k)) := by
  refine strikes_setServer (by simp) rfl ?_ fun u j => ?_
  · rw [MeshServer.currentSearches_cancelSearch]
    exact Indexed.remove
  · rw [MeshServer.currentSearches_cancelSearch, MultiMap.lists_remove]
    simp

lemma strikes_cancelRemainingServers (queried : List ℕ) :
    Strikes k uuid queried (fun search => { search with queriedServers := [] }) b
      (b.cancelRemainingServers k uuid queried) := by
  have hfold : Strikes k uuid queried id b
      (queried.foldl (fun b m => b.setServer m ((b.servers m).cancelSearch uuid k)) b) := by
    induction queried generalizing b with
    | nil => exact strikes_of_servers (Option.map_id_apply ..).symm (fun _ _ => rfl) rfl rfl rfl
    | cons m queried ih => exact (strikes_cancelSearch m).trans ih
  exact hfold.then (strikes_modifySearch fun search => { search with queriedServers := [] })

/-- `onSearchResult`: the search no longer waits for the server that tells it, and with the first
positive answer for none. -/
lemma onSearchResult_spec {search : AssetSearch} (hsearch : b.searches[k]? = some search) (m : ℕ)
    (found : Bool) {remaining : List ℕ}
    (hremaining : remaining = search.queriedServers.filter (· ≠ m)) :
    ∃ f, Strikes k search.uuid (if found then remaining else []) f b (b.onSearchResult k m found) ∧
      (f search).uuid = search.uuid ∧ ((f search).isActive = true →
        (found = false → remaining ≠ []) ∧
        (f search).queriedServers = if found then [] else remaining) := by
  have hasked : Strikes k search.uuid [] _ b _ := strikes_modifySearch fun search =>
    { search with queriedServers := remaining }
  have hcancelled := hasked.then (strikes_modifySearch fun search => { search with timeoutTimer :=
    if search.timeoutTimer = .waiting then .cancelled else search.timeoutTimer })
  have hstopped := hcancelled.trans (strikes_cancelRemainingServers remaining)
  simp only [onSearchResult, hsearch, ← hremaining]
  cases found with
  | false =>
    simp only [Bool.false_eq_true, if_false]
    split_ifs with hempty
    · exact ⟨_, (hcancelled.then (strikes_call _)).then strikes_searchComplete, rfl,
        fun h => by cases h⟩
    · exact ⟨_, hasked, rfl, fun _ => ⟨fun _ => by simpa using hempty, rfl⟩⟩
  | true =>
    simp only [if_true]
    split_ifs with htest
    · exact ⟨_, (hstopped.then (strikes_call _)).then strikes_searchComplete, rfl,
        fun h => by cases h⟩
    · exact ⟨_, (hstopped.then (strikes_modifySearch _)).then (strikes_getAsset m), rfl,
        fun _ => ⟨fun h => absurd h (by decide), rfl⟩⟩

/-! ### Searches change -/

lemma Strikes.told (h : Strikes k uuid ms f b b') (m : ℕ) (u : ByteString) (j : ℕ) :
    b'.Told m u j ↔ b.Told m u j := by
  unfold Told Posting
  rw [h.running, h.frames, h.telling]

lemma Strikes.seeks (h : Strikes k uuid ms f b b')
    (huuid : ∀ search, b.searches[k]? = some search → (f search).uuid = search.uuid) {j : ℕ}
    {u : ByteString} (hseeks : b.Seeks j u) : b'.Seeks j u := by
  obtain ⟨search, hsearch, rfl⟩ := hseeks
  by_cases hj : j = k
  · subst hj
    exact ⟨f search, by rw [h.search, hsearch, Option.map_some], huuid search hsearch⟩
  · exact ⟨search, (h.searches j hj).trans hsearch, rfl⟩

/-- An operation on one search, which may have been told before. -/
lemma Agreed.strike (h : Agreed b) {rest : List (ℕ × Bool)} (hrest : rest.Sublist b.telling)
    (hothers : ∀ j, j ≠ k → j ∈ b.telling.map Prod.fst → j ∈ rest.map Prod.fst)
    (hs : Strikes k uuid ms f { b with telling := rest } b')
    (huuid : ∀ search, b.searches[k]? = some search → (f search).uuid = search.uuid)
    (hagree : ∀ search, b.searches[k]? = some search → (f search).isActive = true → ∀ m,
      m ∈ (f search).queriedServers ↔ Lists (b'.servers m).currentSearches search.uuid k ∧
        ¬ Told { b with telling := rest } m search.uuid k) : Agreed b' := by
  have hseeks {j : ℕ} {u : ByteString} (hj : b.Seeks j u) : b'.Seeks j u := hs.seeks huuid hj
  have hposting (m : ℕ) (u : ByteString) : b'.Posting m u ↔ b.Posting m u := by
    unfold Posting
    rw [hs.running, hs.frames]
  have htold {j : ℕ} (hj : j ≠ k) (m : ℕ) (u : ByteString) : b'.Told m u j ↔ b.Told m u j := by
    have hmem : j ∈ rest.map Prod.fst ↔ j ∈ b.telling.map Prod.fst :=
      ⟨fun hj => (hrest.map _).mem hj, hothers j hj⟩
    unfold Told
    rw [hposting, hs.telling, hmem]
  refine ⟨fun m => hs.indexed m (h.indexed m), fun m hm => ?_, fun m => ?_, fun m u j hj => ?_,
    fun j search hsearch hactive m => ?_, fun m u hp => ?_, fun m hm hp => ?_⟩
  · rw [hs.frames]
    exact h.quiet m (hs.running ▸ hm)
  · unfold MeshServer.Shaped
    rw [hs.frames]
    exact h.shaped m
  · exact hseeks (h.seeks m u j ((hs.lists m u j).mp hj).1)
  · by_cases hj : j = k
    · subst hj
      rw [hs.search] at hsearch
      obtain ⟨old, hold, rfl⟩ := Option.map_eq_some_iff.mp hsearch
      rw [huuid old hold, hs.told]
      exact hagree old hold hactive m
    · rw [hs.searches j hj] at hsearch
      rw [h.agree j search hsearch hactive m, htold hj, hs.lists]
      simp [hj]
  · obtain ⟨hnodup, hall⟩ := h.posting m u ((hposting m u).mp hp)
    rw [hs.telling]
    exact ⟨hnodup.sublist (hrest.map _), fun j hj => hseeks (hall j ((hrest.map _).mem hj))⟩
  · rw [hs.telling]
    intro p hpmem
    refine h.closing m (hs.running ▸ hm) (fun u hu => hp u ((hposting m u).mpr hu)) p ?_
    exact hrest.mem hpmem

/-- An operation on one search after which it waits for the same servers, or is over. -/
lemma Agreed.fade (h : Agreed b) (hs : Strikes k uuid [] f b b')
    (hf : ∀ search, (f search).uuid = search.uuid ∧
      (f search).queriedServers = search.queriedServers ∧
      ((f search).isActive = true → search.isActive = true)) : Agreed b' := by
  refine h.strike (.refl _) (fun _ _ hj => hj) hs (fun search _ => (hf search).1)
    fun search hsearch hactive m => ?_
  obtain ⟨-, hqueried, hlive⟩ := hf search
  rw [hqueried, hs.lists]
  simpa using h.agree k search hsearch (hlive hactive) m

lemma Agreed.onFullAssetRcvd (h : Agreed b) (asset : Option Asset) :
    Agreed (b.onFullAssetRcvd k asset) := by
  unfold MeshStorageBackend.onFullAssetRcvd
  cases hsearch : b.searches[k]? with
  | none => exact h
  | some search =>
    dsimp only
    split_ifs
    · have hcomplete : Strikes k search.uuid [] _ b _ := strikes_searchComplete
      exact h.fade hcomplete fun _ => ⟨rfl, rfl, nofun⟩
    · have hrcvd : Strikes k search.uuid [] _ b _ := strikes_modifySearch fun search =>
        { search with foundAsset := asset }
      have hcomplete := (hrcvd.then (strikes_call (.answer k (.asset asset)))).then
        strikes_searchComplete
      exact h.fade hcomplete fun _ => ⟨rfl, rfl, nofun⟩

lemma Agreed.foldl_onFullAssetRcvd (h : Agreed b)
    (called : List (MeshRequest ℕ × Option Asset)) :
    Agreed (called.foldl (fun b p => b.onFullAssetRcvd p.1.callback p.2) b) := by
  induction called generalizing b with
  | nil => exact h
  | cons p called ih => exact ih (h.onFullAssetRcvd p.2)

lemma Agreed.onTimeout (h : Agreed b) : Agreed (b.onTimeout k) := by
  unfold MeshStorageBackend.onTimeout
  cases hsearch : b.searches[k]? with
  | none => exact h
  | some search =>
    dsimp only
    split_ifs
    · have hstopped : Strikes k search.uuid _ _ b _ :=
        strikes_cancelRemainingServers search.queriedServers
      have hcomplete := (hstopped.then (strikes_call
        (.answer k (if search.isTest then .presence false else .asset none)))).then
        strikes_searchComplete
      exact h.strike (.refl _) (fun _ _ hj => hj) hcomplete (fun _ _ => rfl) nofun
    · exact h

/-! ### Searches are told -/

/-- When a server that is closed tells a live search, the search waits for no other server. -/
def spares (b : MeshStorageBackend) : Event → Bool
  | .tell =>
    match b.running, b.telling with
    | some m, (k, _) :: _ =>
      match (b.servers m).running.head? with
      | some (.other (.eraseSearches _)) => true
      | _ => b.searches[k]?.all fun search =>
          !search.isActive || search.queriedServers.all (· == m)
    | _, _ => true
  | _ => true

def Spared (b : MeshStorageBackend) (e : Event) : Prop := b.spares e = true

instance (b : MeshStorageBackend) (e : Event) : Decidable (Spared b e) :=
  inferInstanceAs (Decidable (_ = true))

/-- A server that is closed leaves no search to wait for others. -/
lemma Spared.remaining (h : Spared b .tell) {m : ℕ} {found : Bool} {rest : List (ℕ × Bool)}
    (hrunning : b.running = some m) (htelling : b.telling = (k, found) :: rest)
    (hclosing : ∀ uuid, ¬ b.Posting m uuid) {search : AssetSearch}
    (hsearch : b.searches[k]? = some search) (hactive : search.isActive = true) :
    search.queriedServers.filter (· ≠ m) = [] := by
  simp only [Spared, spares, hrunning, htelling] at h
  split at h
  · next uuid hhead => exact absurd ⟨hrunning, hhead⟩ (hclosing uuid)
  · simpa [hsearch, hactive] using h

/-- A server passes an answer on to a search. -/
lemma Agreed.posted (h : Agreed b) {m : ℕ} {found : Bool} {rest : List (ℕ × Bool)}
    (hposting : b.Posting m uuid) (htelling : b.telling = (k, found) :: rest)
    {search : AssetSearch} (hsearch : b.searches[k]? = some search)
    (hactive : search.isActive = true) :
    Agreed (onSearchResult { b with telling := rest } k m found) := by
  obtain ⟨hnodup, hseeks⟩ := h.posting m uuid hposting
  obtain ⟨_, hsearch', huuid⟩ := hseeks k (by simp [htelling])
  obtain rfl := Option.some.inj (hsearch.symm.trans hsearch')
  have hold : k ∉ rest.map Prod.fst := by
    rw [htelling, List.map_cons, List.nodup_cons] at hnodup
    exact hnodup.1
  obtain ⟨f, hs, hsame, hf⟩ :=
    onSearchResult_spec (b := { b with telling := rest }) hsearch m found rfl
  refine h.strike (by simp [htelling]) ?_ hs ?_ ?_
  · intro j hj hmem
    simpa [htelling, hj] using hmem
  · intro search' hsearch'
    obtain rfl := Option.some.inj (hsearch.symm.trans hsearch')
    exact hsame
  · intro search' hsearch' hlive i
    obtain rfl := Option.some.inj (hsearch.symm.trans hsearch')
    obtain ⟨-, hqueried⟩ := hf hlive
    rw [hqueried, hs.lists]
    have hagree := h.agree k search hsearch hactive i
    by_cases hi : i = m
    · subst hi
      have htold : Told { b with telling := rest } i search.uuid k := ⟨huuid ▸ hposting, hold⟩
      cases found <;> simp [htold]
    · have hother : ∀ rest', ¬ Told { b with telling := rest' } i search.uuid k := by
        rintro rest' ⟨⟨hrunning, -⟩, -⟩
        exact hi (Option.some.inj (hrunning.symm.trans hposting.1))
      have hhere : ¬ b.Told i search.uuid k := hother b.telling
      have hlists : i ∈ search.queriedServers ↔
          Lists (b.servers i).currentSearches search.uuid k := by simpa [hhere] using hagree
      cases found with
      | false => simp [hother rest, hlists, hi]
      | true => simp [hother rest, ← hlists, hi]

/-- A server tells the next of its searches. -/
lemma Agreed.tell (h : Agreed b) (hspared : Spared b .tell) (hs : b.step .tell = some b') :
    Agreed b' := by
  obtain ⟨m, k, found, rest, hrunning, htelling, rfl⟩ := step_tell hs
  have hsub : rest.Sublist b.telling := by simp [htelling]
  have hothers (j : ℕ) (hj : j ≠ k) (hmem : j ∈ b.telling.map Prod.fst) :
      j ∈ rest.map Prod.fst := by
    simpa [htelling, hj] using hmem
  split_ifs with hlive
  · obtain ⟨search, hsearch, hactive⟩ := (Option.any_eq_true ..).mp hlive
    by_cases hposting : ∃ uuid, b.Posting m uuid
    · exact h.posted hposting.choose_spec htelling hsearch hactive
    · -- the server is being closed, so the search is over
      have hclosing : ∀ uuid, ¬ b.Posting m uuid := not_exists.mp hposting
      have hfound : found = false := h.closing m hrunning hclosing (k, found) (by simp [htelling])
      have hnone := hspared.remaining hrunning htelling hclosing hsearch hactive
      obtain ⟨f, hs, hsame, hf⟩ :=
        onSearchResult_spec (b := { b with telling := rest }) hsearch m found rfl
      refine h.strike hsub hothers hs ?_ ?_
      · intro search' hsearch'
        obtain rfl := Option.some.inj (hsearch.symm.trans hsearch')
        exact hsame
      · intro search' hsearch' hlive
        obtain rfl := Option.some.inj (hsearch.symm.trans hsearch')
        exact absurd hnone ((hf hlive).1 hfound)
  · -- the weak pointer to the search is dead
    have hid : Strikes k [] [] id { b with telling := rest } { b with telling := rest } :=
      strikes_of_servers (Option.map_id_apply ..).symm (fun _ _ => rfl) rfl rfl rfl
    refine h.strike hsub hothers hid (fun _ _ => rfl) fun search hsearch hactive => ?_
    simp [hsearch, show search.isActive = true from hactive] at hlive

/-! ### Searches are started -/

/-- The servers list a new search. -/
lemma foldl_search (uuid : ByteString) (k : ℕ) {ready : List ℕ} (hready : ready.Nodup)
    (b : MeshStorageBackend) :
    let b' := ready.foldl (fun b m => b.setServer m ((b.servers m).search uuid k)) b
    b'.searches = b.searches ∧ b'.running = b.running ∧
    ∀ m, (b'.servers m).running = (b.servers m).running ∧
      (b'.servers m).currentSearches = if m ∈ ready then
        MultiMap.insert (b.servers m).currentSearches uuid k
        else (b.servers m).currentSearches := by
  induction ready generalizing b with
  | nil => simp
  | cons i ready ih =>
    obtain ⟨hi, hready⟩ := List.nodup_cons.mp hready
    obtain ⟨hsearches, hrunning, hservers⟩ :=
      ih hready (b.setServer i ((b.servers i).search uuid k))
    refine ⟨hsearches, hrunning, fun m => ?_⟩
    obtain ⟨hframes, hlist⟩ := hservers m
    rw [List.foldl_cons, hframes, hlist]
    by_cases hm : m = i
    · subst hm
      simp [setServer, hi, MeshServer.currentSearches_search]
    · simp [setServer, hm]

/-- A new search is listed by the servers it waits for. -/
lemma Agreed.enlist (h : Agreed b) (hidle : b.running = none) (search : AssetSearch)
    {ready : List ℕ} (hsearch : b'.searches[b.searches.length]? = some search)
    (hsearches : ∀ j, j ≠ b.searches.length → b'.searches[j]? = b.searches[j]?)
    (hqueried : search.isActive = true → search.queriedServers = ready)
    (hrunning : b'.running = b.running)
    (hservers : ∀ m, (b'.servers m).running = (b.servers m).running ∧
      (b'.servers m).currentSearches = if m ∈ ready then
        MultiMap.insert (b.servers m).currentSearches search.uuid b.searches.length
      else (b.servers m).currentSearches) : Agreed b' := by
  have hnew (m : ℕ) (u : ByteString) :
      ¬ Lists (b.servers m).currentSearches u b.searches.length := by
    intro hlists
    obtain ⟨_, hold, -⟩ := h.seeks m u _ hlists
    simp at hold
  have hlists (m : ℕ) (u : ByteString) (j : ℕ) : Lists (b'.servers m).currentSearches u j ↔
      Lists (b.servers m).currentSearches u j ∨
        (m ∈ ready ∧ u = search.uuid ∧ j = b.searches.length) := by
    rw [(hservers m).2]
    split_ifs with hm
    · simp [MultiMap.lists_insert, hm]
    · simp [hm]
  have hnobody (m : ℕ) (u : ByteString) : ¬ b'.Posting m u := by
    rintro ⟨hsome, -⟩
    simp [hrunning, hidle] at hsome
  have hseeks {j : ℕ} {u : ByteString} (hj : b.Seeks j u) : b'.Seeks j u := by
    obtain ⟨old, hold, rfl⟩ := hj
    refine ⟨old, (hsearches j ?_).trans hold, rfl⟩
    rintro rfl
    simp at hold
  refine ⟨fun m => ?_, fun m hm => ?_, fun m => ?_, fun m u j hj => ?_,
    fun j old hold hactive m => ?_, fun m u hp => absurd hp (hnobody m u), fun m hm => ?_⟩
  · rw [(hservers m).2]
    split_ifs
    · exact (h.indexed m).insert (hnew m _)
    · exact h.indexed m
  · rw [(hservers m).1]
    exact h.quiet m (hrunning ▸ hm)
  · unfold MeshServer.Shaped
    rw [(hservers m).1]
    exact h.shaped m
  · rcases (hlists m u j).mp hj with hj | ⟨-, rfl, rfl⟩
    · exact hseeks (h.seeks m u j hj)
    · exact ⟨search, hsearch, rfl⟩
  · have htold : ¬ b'.Told m old.uuid j := fun htold => hnobody m _ htold.1
    by_cases hj : j = b.searches.length
    · subst hj
      obtain rfl := Option.some.inj (hsearch.symm.trans hold)
      simp [hlists, hnew, hqueried hactive, htold]
    · rw [hsearches j hj] at hold
      have hbefore : ¬ b.Told m old.uuid j := by
        rintro ⟨⟨hsome, -⟩, -⟩
        simp [hidle] at hsome
      simp [h.agree j old hold hactive m, hlists, hj, htold, hbefore]
  · simp [hrunning, hidle] at hm

lemma Agreed.startSearch (h : Agreed b) (hidle : b.running = none) (uuid : ByteString)
    (isTest : Bool) {ready : List ℕ} (hready : ready.Nodup) :
    Agreed (b.startSearch uuid isTest ready) := by
  have hold (j : ℕ) (hj : j ≠ b.searches.length) (search : AssetSearch) :
      (b.searches ++ [search])[j]? = b.searches[j]? := by
    rcases Nat.lt_or_gt_of_ne hj with hlt | hgt
    · exact List.getElem?_append_left hlt
    · rw [List.getElem?_eq_none (by simpa using Nat.succ_le_of_lt hgt),
        List.getElem?_eq_none (by omega)]
  unfold MeshStorageBackend.startSearch performSearch
  dsimp only
  split_ifs with hempty
  · obtain rfl := List.isEmpty_iff.mp hempty
    have hlisted :
        Agreed { b with searches := b.searches ++ [{ uuid := uuid, isTest := isTest }] } :=
      h.enlist hidle { uuid := uuid, isTest := isTest } (by simp) (fun j hj => hold j hj _)
        (fun _ => rfl) rfl fun m => ⟨rfl, rfl⟩
    have hcomplete : Strikes b.searches.length uuid [] _
        { b with searches := b.searches ++ [{ uuid := uuid, isTest := isTest }] } _ :=
      (strikes_call (.answer b.searches.length
        (if isTest then .presence false else .asset none))).then strikes_searchComplete
    exact hlisted.fade hcomplete fun _ => ⟨rfl, rfl, nofun⟩
  · obtain ⟨hsearches, hrunning, hservers⟩ := foldl_search uuid b.searches.length hready
      { b with searches := b.searches ++ [{ uuid := uuid, isTest := isTest }] }
    let search : AssetSearch :=
      { uuid := uuid, isTest := isTest, queriedServers := ready, timeoutTimer := .waiting }
    refine h.enlist hidle search ((search_modifySearch _).trans ?_) (fun j hj => ?_) (fun _ => rfl)
      hrunning hservers
    · rw [hsearches]
      simp [search]
    · rw [(affects_modifySearch _).searches j hj, hsearches]
      exact hold j hj _

/-! ### Servers make steps -/

/-- The server `m` has made a step, and has `telling` to tell. -/
def after (b : MeshStorageBackend) (m : ℕ) (server : MeshServer ℕ) (telling : List (ℕ × Bool)) :
    MeshStorageBackend :=
  { b.setServer m server with
    running := if server.running.isEmpty then none else some m
    telling := telling }

lemma posting_after {m : ℕ} {server : MeshServer ℕ} {telling : List (ℕ × Bool)}
    {uuid : ByteString} : (b.after m server telling).Posting m uuid ↔
      server.running.head? = some (.other (.eraseSearches uuid)) := by
  have hserver : (b.after m server telling).servers m = server := Function.update_self ..
  unfold Posting
  rw [hserver]
  refine ⟨And.right, fun hhead => ⟨?_, hhead⟩⟩
  cases hrunning : server.running with
  | nil => simp [hrunning] at hhead
  | cons f fs => simp [after, hrunning]

lemma Agreed.after (h : Agreed b) {m : ℕ} (hrunning : b.running = none ∨ b.running = some m)
    {server : MeshServer ℕ} {telling : List (ℕ × Bool)}
    (hindexed : Indexed server.currentSearches) (hshaped : server.Shaped)
    (hlists : ∀ u j, Lists server.currentSearches u j → Lists (b.servers m).currentSearches u j)
    (hagree : ∀ u j, (Lists server.currentSearches u j ∧ ¬ (b.after m server telling).Told m u j) ↔
      (Lists (b.servers m).currentSearches u j ∧ ¬ b.Told m u j))
    (hposting : ∀ u, server.running.head? = some (.other (.eraseSearches u)) →
      (telling.map Prod.fst).Nodup ∧ ∀ j ∈ telling.map Prod.fst, b.Seeks j u)
    (hclosing : (∀ u, server.running.head? ≠ some (.other (.eraseSearches u))) →
      ∀ p ∈ telling, p.2 = false) : Agreed (b.after m server telling) := by
  have hm : (b.after m server telling).servers m = server := Function.update_self ..
  have hothers {i : ℕ} (hi : i ≠ m) : (b.after m server telling).servers i = b.servers i :=
    Function.update_of_ne hi ..
  have hquiet {i : ℕ} (hi : i ≠ m) : b.running ≠ some i := by
    rintro hsome
    rcases hrunning with hnone | hrunning
    · simp [hnone] at hsome
    · exact hi (Option.some.inj (hsome.symm.trans hrunning))
  have hrun {i : ℕ} (hi : (b.after m server telling).running = some i) : i = m := by
    simp only [MeshStorageBackend.after] at hi
    split_ifs at hi
    exact (Option.some.inj hi).symm
  refine ⟨fun i => ?_, fun i hne => ?_, fun i => ?_, fun i u j hj => ?_,
    fun j search hsearch hactive i => ?_, fun i u hp => ?_, fun i hi hp => ?_⟩
  · by_cases hi : i = m
    · subst hi
      rwa [hm]
    · rw [hothers hi]
      exact h.indexed i
  · by_cases hi : i = m
    · subst hi
      rw [hm]
      by_contra hbusy
      simp [MeshStorageBackend.after, hbusy] at hne
    · rw [hothers hi]
      exact h.quiet i (hquiet hi)
  · by_cases hi : i = m
    · subst hi
      rwa [hm]
    · rw [hothers hi]
      exact h.shaped i
  · by_cases hi : i = m
    · subst hi
      rw [hm] at hj
      exact h.seeks i u j (hlists u j hj)
    · rw [hothers hi] at hj
      exact h.seeks i u j hj
  · rw [h.agree j search hsearch hactive i]
    by_cases hi : i = m
    · subst hi
      rw [hm, hagree]
    · have hbefore : ¬ b.Told i search.uuid j := by
        rintro ⟨⟨hsome, -⟩, -⟩
        exact hquiet hi hsome
      have hafter : ¬ (b.after m server telling).Told i search.uuid j :=
        fun htold => hi (hrun htold.1.1)
      simp only [hbefore, hafter, hothers hi]
  · obtain rfl := hrun hp.1
    exact hposting u (posting_after.mp hp)
  · obtain rfl := hrun hi
    exact hclosing fun u hhead => hp u (posting_after.mpr hhead)

/-- Something happens to a server apart from searches. -/
lemma Agreed.server (h : Agreed b) {m : ℕ} {e : MeshServer.Event ℕ}
    (hs : b.step (.server m e) = some b') : Agreed b' := by
  obtain ⟨hnone, htelling, hallows, server, hserver, rfl⟩ := step_server hs
  have hquiet := h.quiet m (by simp [hnone])
  have hstep := MeshServer.step_of_idle hquiet ?_ ?_ hserver
  rotate_left
  · rintro uuid k
    refine ⟨?_, ?_⟩ <;> rintro rfl <;> cases hallows
  · rintro rfl
    cases hallows
  obtain ⟨hlist, hshaped, hhead⟩ : server.currentSearches = (b.servers m).currentSearches ∧
      server.Shaped ∧ ∀ uuid, server.running.head? ≠ some (.other (.eraseSearches uuid)) := by
    rcases hstep with hmute | ⟨hlist, uuid, found, hpost⟩
    · refine ⟨hmute.currentSearches, .inr (.inr hmute.running), fun uuid hhead => ?_⟩
      have hposts := hmute.running _ (List.mem_of_mem_head? hhead)
      cases hposts
    · exact ⟨hlist, .inl ⟨uuid, found, hpost⟩, by simp [hpost]⟩
  have hbefore (u : ByteString) (j : ℕ) : ¬ b.Told m u j := by
    rintro ⟨⟨hsome, -⟩, -⟩
    simp [hnone] at hsome
  have hafter (u : ByteString) (j : ℕ) : ¬ (b.after m server b.telling).Told m u j :=
    fun htold => hhead u (posting_after.mp htold.1)
  have hagreed : Agreed (b.after m server b.telling) := by
    refine h.after (.inl hnone) (hlist ▸ h.indexed m) hshaped ?_ ?_ ?_ ?_
    · simp [hlist]
    · simp [hlist, hafter, hbefore]
    · exact fun u hp => absurd hp (hhead u)
    · simp [htelling]
  exact hagreed.foldl_onFullAssetRcvd _

/-- A server starts to pass an answer on. -/
lemma Agreed.post (h : Agreed b) {m : ℕ} (hrunning : b.running = some m) {uuid : ByteString}
    {found : Bool} (hframes : (b.servers m).running =
      [.other (.postResponse uuid found), .other (.eraseSearches uuid), .other .listenForMessage]) :
    Agreed (b.after m { b.servers m with
      running := [.other (.eraseSearches uuid), .other .listenForMessage] }
      (((b.servers m).searchesFor uuid).map (·, found))) := by
  have htell : (((b.servers m).searchesFor uuid).map (·, found)).map Prod.fst =
      (b.servers m).searchesFor uuid := by
    rw [List.map_map]
    exact List.map_id _
  have hbefore (u : ByteString) (j : ℕ) : ¬ b.Told m u j := by
    rintro ⟨⟨-, hhead⟩, -⟩
    simp [hframes] at hhead
  refine h.after (.inr hrunning) (h.indexed m) (.inr (.inl ⟨uuid, rfl⟩)) (fun _ _ => id) ?_ ?_ ?_
  · intro u j
    refine and_congr_right fun hlists => ?_
    refine iff_of_true ?_ (hbefore u j)
    rintro ⟨hposting, hnot⟩
    obtain rfl : uuid = u := by simpa using posting_after.mp hposting
    refine hnot ?_
    rw [MeshStorageBackend.after, htell, MeshServer.searchesFor_eq, (h.indexed m).mem_entry]
    exact hlists
  · intro u hhead
    obtain rfl : uuid = u := by simpa using hhead
    rw [htell, MeshServer.searchesFor_eq]
    exact ⟨(h.indexed m).nodup_entry,
      fun j hj => h.seeks m uuid j ((h.indexed m).mem_entry.mp hj)⟩
  · exact fun hno => absurd rfl (hno uuid)

/-- A server erases the searches it has told. -/
lemma Agreed.erase (h : Agreed b) {m : ℕ} (hrunning : b.running = some m)
    (htelling : b.telling = [])
    {uuid : ByteString} (hframes : (b.servers m).running =
      [.other (.eraseSearches uuid), .other .listenForMessage]) :
    Agreed (b.after m
      ({ b.servers m with running := [.other .listenForMessage] }.eraseSearches uuid)
      []) := by
  have hlists (u : ByteString) (j : ℕ) :
      Lists (MeshServer.eraseSearches { b.servers m with running := [.other .listenForMessage] }
        uuid).currentSearches u j ↔ Lists (b.servers m).currentSearches u j ∧ u ≠ uuid :=
    MultiMap.lists_erase
  have hbefore (u : ByteString) (j : ℕ) : b.Told m u j ↔ u = uuid := by
    simp [Told, Posting, hrunning, hframes, htelling, eq_comm]
  have hhead (u : ByteString) : (MeshServer.eraseSearches
      { b.servers m with running := [.other .listenForMessage] } uuid).running.head? ≠
        some (.other (.eraseSearches u)) := by
    simp [MeshServer.eraseSearches]
  refine h.after (.inr hrunning) (h.indexed m).erase (.inr (.inr ?_)) ?_ ?_ ?_ ?_
  · simp [MeshServer.eraseSearches, MeshServer.posts]
  · exact fun u j hj => ((hlists u j).mp hj).1
  · intro u j
    have hafter : ¬ Told (b.after m _ []) m u j := fun htold =>
      hhead u (posting_after.mp htold.1)
    simp only [hlists, hbefore, hafter, not_false_eq_true, and_true, ne_eq]
  · exact fun u hp => absurd hp (hhead u)
  · simp

/-- Any other frame of a server. -/
lemma Agreed.other (h : Agreed b) {m : ℕ} (hrunning : b.running = some m) {f : Frame MeshServer.Own}
    {fs : List (Frame MeshServer.Own)} (hframes : (b.servers m).running = f :: fs)
    (hf : MeshServer.posts f = false) {server : MeshServer ℕ}
    (hlist : server.currentSearches = (b.servers m).currentSearches)
    (hown : ∀ own, .other own ∈ server.running → .other own ∈ (b.servers m).running) :
    Agreed (b.after m server (toTell (b.servers m))) := by
  have hmute : ∀ g ∈ (b.servers m).running, MeshServer.posts g = false := by
    obtain ⟨uuid, found, hpost⟩ | ⟨uuid, hpost⟩ | hmute := h.shaped m
    · obtain ⟨rfl, -⟩ := List.cons.inj (hframes.symm.trans hpost)
      cases hf
    · obtain ⟨rfl, -⟩ := List.cons.inj (hframes.symm.trans hpost)
      cases hf
    · exact hmute
  have hmute' : ∀ g ∈ server.running, MeshServer.posts g = false := by
    intro g hg
    cases g with
    | other own => exact hmute _ (hown own hg)
    | _ => rfl
  have hhead {s : MeshServer ℕ} (hs : ∀ g ∈ s.running, MeshServer.posts g = false)
      (u : ByteString) : s.running.head? ≠ some (.other (.eraseSearches u)) := by
    intro hhead
    have hposts := hs _ (List.mem_of_mem_head? hhead)
    cases hposts
  refine h.after (.inr hrunning) (hlist ▸ h.indexed m) (.inr (.inr hmute')) ?_ ?_ ?_ ?_
  · simp [hlist]
  · intro u j
    have hbefore : ¬ b.Told m u j := fun htold => hhead hmute u htold.1.2
    have hafter : ¬ (b.after m server (toTell (b.servers m))).Told m u j :=
      fun htold => hhead hmute' u (posting_after.mp htold.1)
    simp [hlist, hbefore, hafter]
  · exact fun u hp => absurd hp (hhead hmute' u)
  · intro _ p hp
    unfold toTell at hp
    split at hp
    · next hpost =>
      obtain ⟨rfl, -⟩ := List.cons.inj (hframes.symm.trans hpost)
      cases hf
    · obtain ⟨e, -, hp⟩ := List.mem_flatMap.mp hp
      obtain ⟨j, -, rfl⟩ := List.mem_map.mp hp
      rfl
    · cases hp

lemma Agreed.resume (h : Agreed b) (hs : b.step .resume = some b') : Agreed b' := by
  obtain ⟨m, server, hrunning, htelling, hserver, rfl⟩ := step_resume hs
  have hagreed : Agreed (b.after m server (toTell (b.servers m))) := by
    obtain ⟨uuid, found, fs, hframes, rfl⟩ | ⟨uuid, fs, hframes, rfl⟩ |
      ⟨f, fs, hframes, hf, hlist, hown⟩ := MeshServer.resume_cases hserver
    · obtain rfl := (h.shaped m).post hframes
      have htell : toTell (b.servers m) = ((b.servers m).searchesFor uuid).map (·, found) := by
        simp [toTell, hframes]
      rw [htell]
      exact h.post hrunning hframes
    · obtain rfl := (h.shaped m).erase hframes
      have htell : toTell (b.servers m) = [] := by simp [toTell, hframes]
      rw [htell]
      exact h.erase hrunning htelling hframes
    · exact h.other hrunning hframes hf hlist hown
  exact hagreed.foldl_onFullAssetRcvd _

lemma Agreed.step {e : Event} (h : Agreed b) (hspared : Spared b e) (hs : b.step e = some b') :
    Agreed b' := by
  cases e with
  | start uuid isTest ready =>
    obtain ⟨⟨hidle, hready, -⟩, hs⟩ := Option.ite_none_right_eq_some.mp hs
    cases hs
    simp only [idle, Bool.and_eq_true, Option.isNone_iff_eq_none] at hidle
    exact h.startSearch hidle.1 uuid isTest hready
  | server m event => exact h.server hs
  | resume => exact h.resume hs
  | tell => exact h.tell hspared hs
  | expire k =>
    obtain rfl := Machine.eq_of_ite hs
    have hexpired : Strikes k [] [] _ b _ := strikes_modifySearch fun search =>
      { search with timeoutTimer := .queued }
    exact h.fade hexpired fun _ => ⟨rfl, rfl, id⟩
  | timeout k =>
    obtain rfl := Machine.eq_of_ite hs
    have hran : Strikes k [] [] _ b _ := strikes_modifySearch fun search =>
      { search with timeoutTimer := .ran }
    exact (h.fade hran fun _ => ⟨rfl, rfl, id⟩).onTimeout

lemma agreed_new : Agreed {} := by
  refine ⟨fun _ => MultiMap.indexed_nil, fun _ _ => rfl, fun _ => .inr (.inr nofun), ?_, nofun, ?_,
    nofun⟩
  · rintro m uuid j ⟨e, he, -⟩
    cases he
  · rintro m uuid ⟨hnone, -⟩
    cases hnone

/-- Between two handlers, a search that is not complete waits for a server exactly if the server
lists it, and no server lists an empty set, in every run in which a server that is closed tells only
searches that wait for no other server. -/
theorem searches_agree {es : List Event} {t : MeshStorageBackend}
    (hguard : Machine.Guarded step Spared {} es) (hrun : Machine.run step {} es = some t)
    (hidle : t.idle = true) :
    (∀ k search, t.searches[k]? = some search → search.isActive = true → ∀ m,
      m ∈ search.queriedServers ↔ k ∈ (t.servers m).searchesFor search.uuid) ∧
    ∀ m, ∀ e ∈ (t.servers m).currentSearches, e.2 ≠ [] := by
  have hagreed : Agreed t := Machine.run_invariant (fun _ _ _ h hg hs => h.step hg hs) agreed_new
    hguard hrun
  refine ⟨fun k search hsearch hactive m => ?_, fun m => (hagreed.indexed m).nonempty⟩
  have htold : ¬ t.Told m search.uuid k := by
    rintro ⟨⟨hsome, -⟩, -⟩
    simp [idle, hsome] at hidle
  rw [hagreed.agree k search hsearch hactive m, MeshServer.searchesFor_eq,
    (hagreed.indexed m).mem_entry]
  simp [htold]

/-- Two servers are asked, and the first one does not have the asset. -/
def answeredByOne : List Event :=
  connecting 0 ++ connecting 1 ++
    [.start (sampleUUID 1) false [0, 1],
      .server 0 (.queryRead (some (.response (sampleUUID 1) false))), .resume, .tell, .resume,
      .resume]

theorem answeredByOne_agrees :
    ∃ t search, Machine.run step {} answeredByOne = some t ∧ t.searches[0]? = some search ∧
      search.isActive = true ∧ search.queriedServers = [1] ∧
      ∀ m, m ∈ search.queriedServers ↔ 0 ∈ (t.servers m).searchesFor search.uuid := by
  have hguard : Machine.Guarded step Spared {} answeredByOne := by
    repeat' refine .cons rfl (by decide) ?_
    trivial
  obtain ⟨t, search, hrun, hidle, hsearch, hactive, hqueried⟩ : ∃ t search,
      Machine.run step {} answeredByOne = some t ∧ t.idle = true ∧
      t.searches[0]? = some search ∧ search.isActive = true ∧ search.queriedServers = [1] :=
    ⟨_, _, rfl, rfl, rfl, rfl, rfl⟩
  exact ⟨t, search, hrun, hsearch, hactive, hqueried,
    (searches_agree hguard hrun hidle).1 0 search hsearch hactive⟩

/-- Two servers are asked, and the first one loses its asset connection. -/
def closedWhileSearched : List Event :=
  connecting 0 ++ connecting 1 ++
    [.start (sampleUUID 1) false [0, 1], .server 0 (.read none), .resume, .resume, .resume, .tell,
      .resume]

/-- A server that is closed tells its searches but goes on listing them. -/
theorem closed_server_lists_search :
    ∃ t search, Machine.run step {} closedWhileSearched = some t ∧ t.idle = true ∧
      t.searches[0]? = some search ∧ search.isActive = true ∧ 0 ∉ search.queriedServers ∧
      0 ∈ (t.servers 0).searchesFor search.uuid :=
  ⟨_, _, rfl, rfl, rfl, rfl, by decide, by decide⟩

end MeshStorageBackend

end Whip
