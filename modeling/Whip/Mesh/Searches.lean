import Whip.Mesh.Transfers
import Whip.Net.Callbacks

/-!
# Each search answers its requester once

A search that has been started is searching, waiting for a transfer, or done; it has called its
requester back in the last case only, and exactly one server owes it a callback in the second. The
three ways out of this order are a timeout handler that is still queued when the search is done, a
closed server that still lists a search, and a get on a server that has lost its connection.
-/

namespace Whip

open Pipelined Pipelined.Client

/-- The search whose requester is called back. -/
def MeshOutput.search : MeshOutput → Option ℕ
  | .answer k _ => some k
  | .inform _   => none

namespace MeshStorageBackend

/-- How often the requester of the search `k` has been called back. -/
def answers (b : MeshStorageBackend) (k : ℕ) : ℕ := (b.outputs.filterMap MeshOutput.search).count k

/-- The searches that wait for a transfer from the server `m`. -/
def due (b : MeshStorageBackend) (m : ℕ) : List ℕ := (b.servers m).outstanding.map (·.callback)

variable {b b' : MeshStorageBackend} {k : ℕ}

/-! ### What operations on one search leave alone -/

/-- Only the search `k` and its requester are affected; the servers owe what they owed. -/
structure Affects (k : ℕ) (b b' : MeshStorageBackend) : Prop where
  searches : ∀ j, j ≠ k → b'.searches[j]? = b.searches[j]?
  answers : ∀ j, j ≠ k → b'.answers j = b.answers j
  clients : ∀ m, (b'.servers m).toClient = (b.servers m).toClient
  running : b'.running = b.running

lemma Affects.refl (k : ℕ) (b : MeshStorageBackend) : Affects k b b :=
  ⟨fun _ _ => rfl, fun _ _ => rfl, fun _ => rfl, rfl⟩

lemma Affects.trans {b'' : MeshStorageBackend} (h : Affects k b b') (h' : Affects k b' b'') :
    Affects k b b'' where
  searches j hj := (h'.searches j hj).trans (h.searches j hj)
  answers j hj := (h'.answers j hj).trans (h.answers j hj)
  clients m := (h'.clients m).trans (h.clients m)
  running := h'.running.trans h.running

lemma affects_modifySearch (f : AssetSearch → AssetSearch) : Affects k b (b.modifySearch k f) where
  searches j hj := by
    simp [modifySearch, Ne.symm hj]
  answers _ _ := rfl
  clients _ := rfl
  running := rfl

@[simp] lemma search_modifySearch (f : AssetSearch → AssetSearch) :
    (b.modifySearch k f).searches[k]? = b.searches[k]?.map f := by
  simp [modifySearch]

@[simp] lemma answers_modifySearch (f : AssetSearch → AssetSearch) (j : ℕ) :
    (b.modifySearch k f).answers j = b.answers j := rfl

lemma answers_call_answer (a : SearchAnswer) (j : ℕ) :
    (b.call (.answer k a)).answers j = b.answers j + if j = k then 1 else 0 := by
  have houtput : [MeshOutput.answer k a].filterMap MeshOutput.search = [k] := rfl
  rw [answers, call, List.filterMap_append, List.count_append, houtput]
  by_cases hj : j = k
  · subst hj
    simp [answers]
  · simp [answers, hj, Ne.symm hj]

lemma affects_answer (a : SearchAnswer) : Affects k b (b.call (.answer k a)) where
  searches _ _ := rfl
  answers j hj := by rw [answers_call_answer, if_neg hj, Nat.add_zero]
  clients _ := rfl
  running := rfl

lemma answers_inform (asset : Asset) (j : ℕ) :
    (b.call (.inform asset)).answers j = b.answers j := by
  have houtput : [MeshOutput.inform asset].filterMap MeshOutput.search = [] := rfl
  rw [answers, call, List.filterMap_append, houtput, List.append_nil, answers]

@[simp] lemma answers_searchComplete (j : ℕ) : (b.searchComplete k).answers j = b.answers j := by
  unfold searchComplete
  cases b.searches[k]?.bind (·.foundAsset) with
  | none => rfl
  | some asset => exact answers_inform asset j

@[simp] lemma search_searchComplete :
    (b.searchComplete k).searches[k]? = b.searches[k]?.map fun search =>
      { search with isActive := false } := by
  unfold searchComplete
  cases b.searches[k]?.bind (·.foundAsset) with
  | none => exact search_modifySearch _
  | some asset => exact search_modifySearch _

lemma affects_searchComplete : Affects k b (b.searchComplete k) := by
  unfold searchComplete
  cases b.searches[k]?.bind (·.foundAsset) with
  | none => exact affects_modifySearch _
  | some asset =>
    have hinform : Affects k b (b.call (.inform asset)) :=
      ⟨fun _ _ => rfl, fun j _ => answers_inform asset j, fun _ => rfl, rfl⟩
    exact hinform.trans (affects_modifySearch _)

lemma affects_setServer {m : ℕ} {server : MeshServer ℕ}
    (h : server.toClient = (b.servers m).toClient) : Affects k b (b.setServer m server) where
  searches _ _ := rfl
  answers _ _ := rfl
  clients j := by
    by_cases hj : j = m
    · subst hj
      simpa [setServer] using h
    · simp [setServer, Function.update_of_ne hj]
  running := rfl

/-- Servers change, but not what they owe. -/
lemma affects_foldl (f : MeshServer ℕ → MeshServer ℕ) (hf : ∀ s, (f s).toClient = s.toClient)
    (ms : List ℕ) (b : MeshStorageBackend) :
    Affects k b (ms.foldl (fun b m => b.setServer m (f (b.servers m))) b) ∧
      (ms.foldl (fun b m => b.setServer m (f (b.servers m))) b).searches = b.searches ∧
      (ms.foldl (fun b m => b.setServer m (f (b.servers m))) b).outputs = b.outputs := by
  induction ms generalizing b with
  | nil => exact ⟨.refl k b, rfl, rfl⟩
  | cons m ms ih =>
    obtain ⟨haffects, hsearches, houtputs⟩ := ih (b.setServer m (f (b.servers m)))
    exact ⟨(affects_setServer (hf _)).trans haffects, hsearches, houtputs⟩

/-- The operation only edits the record of the search `k`, and calls nobody back. -/
structure Edits (k : ℕ) (f : AssetSearch → AssetSearch) (b b' : MeshStorageBackend) : Prop
    extends Affects k b b' where
  search : b'.searches[k]? = b.searches[k]?.map f
  silent : b'.answers k = b.answers k

lemma Edits.comp {f g : AssetSearch → AssetSearch} {b'' : MeshStorageBackend} (h : Edits k f b b')
    (h' : Edits k g b' b'') : Edits k (g ∘ f) b b'' where
  toAffects := h.toAffects.trans h'.toAffects
  search := by rw [h'.search, h.search, Option.map_map]
  silent := h'.silent.trans h.silent

lemma Edits.some {f : AssetSearch → AssetSearch} (h : Edits k f b b') {search : AssetSearch}
    (hsearch : b.searches[k]? = some search) : b'.searches[k]? = some (f search) := by
  rw [h.search, hsearch, Option.map_some]

lemma edits_modifySearch (f : AssetSearch → AssetSearch) : Edits k f b (b.modifySearch k f) :=
  ⟨affects_modifySearch f, search_modifySearch f, rfl⟩

lemma edits_cancelRemainingServers (uuid : ByteString) (queried : List ℕ) :
    Edits k (fun search => { search with queriedServers := [] }) b
      (b.cancelRemainingServers k uuid queried) := by
  obtain ⟨haffects, hsearches, houtputs⟩ :=
    affects_foldl (k := k) (·.cancelSearch uuid k) (fun _ => rfl) queried b
  refine ⟨haffects.trans (affects_modifySearch _), ?_, ?_⟩
  · rw [cancelRemainingServers, search_modifySearch, hsearches]
  · rw [cancelRemainingServers, answers_modifySearch, answers, houtputs, answers]

/-! ### Phases of a search -/

/-- Where a search is, when each server `m` owes callbacks to the searches `D m` and the requester
has been called back `n` times. -/
inductive Phase (D : ℕ → List ℕ) (n k : ℕ) (search : AssetSearch) : Prop
  | searching (active : search.isActive = true) (found : search.wasFound = false)
      (timer : search.timeoutTimer = .waiting ∨ search.timeoutTimer = .queued) (answers : n = 0)
      (due : ∀ m, (D m).count k = 0)
  | transferring (m : ℕ) (active : search.isActive = true) (full : search.isTest = false)
      (found : search.wasFound = true) (answers : n = 0) (one : (D m).count k = 1)
      (others : ∀ j, j ≠ m → (D j).count k = 0)
  | done (inactive : search.isActive = false) (answers : n = 1) (due : ∀ m, (D m).count k = 0)

lemma Phase.congr {D D' : ℕ → List ℕ} {n : ℕ} {search : AssetSearch} (h : Phase D n k search)
    (hD : ∀ m, (D' m).count k = (D m).count k) : Phase D' n k search := by
  cases h with
  | searching active found timer answers due =>
    exact .searching active found timer answers fun m => (hD m).trans (due m)
  | transferring m active full found answers one others =>
    exact .transferring m active full found answers ((hD m).trans one)
      fun j hj => (hD j).trans (others j hj)
  | done inactive answers due => exact .done inactive answers fun m => (hD m).trans (due m)

/-- Every search is in one of its phases, and nobody owes anything to a search that was not
started. -/
structure Sound (D : ℕ → List ℕ) (b : MeshStorageBackend) : Prop where
  phase : ∀ j search, b.searches[j]? = some search → Phase D (b.answers j) j search
  unstarted : ∀ j, b.searches[j]? = none → b.answers j = 0 ∧ ∀ m, (D m).count j = 0

/-- A step that affects one search, which is in a phase again. -/
lemma Sound.change {D D' : ℕ → List ℕ} (h : Sound D b) (haffects : Affects k b b')
    {search : AssetSearch} (hsearch : b'.searches[k]? = some search)
    (hD : ∀ j, j ≠ k → ∀ m, (D' m).count j = (D m).count j)
    (hphase : Phase D' (b'.answers k) k search) : Sound D' b' := by
  constructor
  · intro j search' hj
    by_cases hjk : j = k
    · subst hjk
      rw [hsearch, Option.some.injEq] at hj
      exact hj ▸ hphase
    · rw [haffects.searches j hjk] at hj
      rw [haffects.answers j hjk]
      exact (h.phase j search' hj).congr (hD j hjk)
  · intro j hj
    by_cases hjk : j = k
    · subst hjk
      rw [hsearch] at hj
      cases hj
    · rw [haffects.searches j hjk] at hj
      obtain ⟨hanswers, hdue⟩ := h.unstarted j hj
      exact ⟨(haffects.answers j hjk).trans hanswers, fun m => (hD j hjk m).trans (hdue m)⟩

lemma Sound.congr {D D' : ℕ → List ℕ} (h : Sound D b)
    (hD : ∀ j m, (D' m).count j = (D m).count j) (hsearches : b'.searches = b.searches)
    (houtputs : b'.outputs = b.outputs) : Sound D' b' := by
  have hanswers (j : ℕ) : b'.answers j = b.answers j := by rw [answers, houtputs, answers]
  constructor
  · intro j search hj
    rw [hsearches] at hj
    exact hanswers j ▸ (h.phase j search hj).congr (hD j)
  · intro j hj
    rw [hsearches] at hj
    obtain ⟨hzero, hdue⟩ := h.unstarted j hj
    exact ⟨(hanswers j).trans hzero, fun m => (hD j m).trans (hdue m)⟩

/-- The search is called back by a server that owes it a callback. -/
lemma Sound.onFullAssetRcvd {D : ℕ → List ℕ} (h : Sound D b) {m : ℕ} {ds : List ℕ}
    (hD : D m = k :: ds) (asset : Option Asset) :
    Sound (Function.update D m ds) (b.onFullAssetRcvd k asset) ∧
      Affects k b (b.onFullAssetRcvd k asset) := by
  have howed : (D m).count k = ds.count k + 1 := by rw [hD, List.count_cons_self]
  cases hsearch : b.searches[k]? with
  | none =>
    have hnone := (h.unstarted k hsearch).2 m
    rw [howed] at hnone
    cases hnone
  | some search =>
    have hcount : ∀ j, j ≠ k → ∀ i, (Function.update D m ds i).count j = (D i).count j := by
      intro j hj i
      by_cases hi : i = m
      · subst hi
        rw [Function.update_self, hD, List.count_cons_of_ne (Ne.symm hj)]
      · rw [Function.update_of_ne hi]
    cases h.phase k search hsearch with
    | searching _ _ _ _ hdue | done _ _ hdue =>
      have hzero := hdue m
      rw [howed] at hzero
      cases hzero
    | transferring m' active full found hanswers one others =>
      have hm : m = m' := by
        by_contra hne
        have hzero := others m hne
        rw [howed] at hzero
        cases hzero
      subst hm
      rw [howed, Nat.add_eq_right] at one
      have hrcvd : b.onFullAssetRcvd k asset =
          ((b.modifySearch k fun search => { search with foundAsset := asset }).call
            (.answer k (.asset asset))).searchComplete k := by
        simp [MeshStorageBackend.onFullAssetRcvd, hsearch, full]
      have haffects : Affects k b (b.onFullAssetRcvd k asset) := by
        rw [hrcvd]
        exact ((affects_modifySearch _).trans (affects_answer _)).trans affects_searchComplete
      have hnew : (b.onFullAssetRcvd k asset).searches[k]? =
          some { search with foundAsset := asset, isActive := false } := by
        rw [hrcvd, search_searchComplete]
        change ((b.modifySearch k fun search =>
          { search with foundAsset := asset }).searches[k]?).map
          _ = _
        rw [search_modifySearch, hsearch]
        rfl
      refine ⟨h.change haffects hnew hcount (.done rfl ?_ fun i => ?_), haffects⟩
      · rw [hrcvd, answers_searchComplete, answers_call_answer, if_pos rfl, answers_modifySearch,
          hanswers]
      · by_cases hi : i = m
        · subst hi
          rwa [Function.update_self]
        · rw [Function.update_of_ne hi]
          exact others i hi

/-! ### Steps -/

/-- Besides the phases: every server accounts for its gets, and only the running one is in the
middle of a handler. -/
structure Invariant (b : MeshStorageBackend) : Prop where
  sound : Sound b.due b
  accounted : ∀ m, ∃ issued, Accounted [] issued (b.servers m).toClient
  quiet : ∀ m, b.running ≠ some m → (b.servers m).running = []

lemma Affects.due (h : Affects k b b') (m : ℕ) : b'.due m = b.due m := by
  rw [MeshStorageBackend.due, h.clients, MeshStorageBackend.due]

lemma Invariant.change (h : Invariant b) (haffects : Affects k b b') {search : AssetSearch}
    (hsearch : b'.searches[k]? = some search) (hphase : Phase b.due (b'.answers k) k search) :
    Invariant b' where
  sound := by
    have hcount (j m : ℕ) : (b'.due m).count j = (b.due m).count j := by rw [haffects.due]
    exact h.sound.change haffects hsearch (fun j _ => hcount j) (hphase.congr (hcount k))
  accounted m := by
    rw [haffects.clients]
    exact h.accounted m
  quiet m hm := by
    rw [haffects.running] at hm
    rw [haffects.clients]
    exact h.quiet m hm

lemma Invariant.with_telling (h : Invariant b) (telling : List (ℕ × Bool)) :
    Invariant { b with telling := telling } :=
  ⟨h.sound.congr (fun _ _ => rfl) rfl rfl, h.accounted, h.quiet⟩

/-- The callbacks that a server has run reach their searches. -/
lemma sound_foldl {m : ℕ} (called : List (MeshRequest ℕ × Option Asset)) (b : MeshStorageBackend)
    {D : ℕ → List ℕ} {ds : List ℕ} (h : Sound D b)
    (hD : D m = called.map (·.1.callback) ++ ds) :
    Sound (Function.update D m ds)
        (called.foldl (fun b p => b.onFullAssetRcvd p.1.callback p.2) b) ∧
      (∀ j, ((called.foldl (fun b p => b.onFullAssetRcvd p.1.callback p.2) b).servers j).toClient =
        (b.servers j).toClient) ∧
      (called.foldl (fun b p => b.onFullAssetRcvd p.1.callback p.2) b).running = b.running := by
  induction called generalizing b D with
  | nil =>
    rw [List.map_nil, List.nil_append] at hD
    rw [← hD, Function.update_eq_self]
    exact ⟨h, fun _ => rfl, rfl⟩
  | cons p called ih =>
    obtain ⟨hsound, haffects⟩ := h.onFullAssetRcvd hD p.2
    obtain ⟨hend, hclients, hrunning⟩ := ih _ hsound (Function.update_self ..)
    rw [Function.update_idem] at hend
    exact ⟨hend, fun j => (hclients j).trans (haffects.clients j),
      hrunning.trans haffects.running⟩

/-- A server makes a step that passes in no get. -/
lemma Invariant.advance (h : Invariant b) {m : ℕ} {e : MeshServer.Event ℕ} {s : MeshServer ℕ}
    (hrunning : b.running = none ∨ b.running = some m) (hreq : e.request = none)
    (hclose : e.isClose → DropsNothing (b.servers m).running)
    (hs : (b.servers m).step e = some s) : Invariant (b.advance m s) := by
  obtain ⟨issued, haccounted⟩ := h.accounted m
  have hself := haccounted.self
  have hnext := MeshServer.accounted_step hself hreq hclose hs
  obtain ⟨called, hcalled⟩ := hnext.ran
  have hperm := (hself.outstanding_perm hnext hcalled.symm).map (·.callback)
  have hdrop : s.invoked.drop (b.servers m).invoked.length = called := by
    rw [← hcalled, List.drop_left]
  have hcounts (j i : ℕ) : (Function.update b.due m
      (called.map (·.1.callback) ++ s.outstanding.map (·.callback)) i).count j =
      (b.due i).count j := by
    by_cases hi : i = m
    · subst hi
      rw [Function.update_self, due, hperm.count_eq, List.map_append, List.map_map]
      rfl
    · rw [Function.update_of_ne hi]
  let b₁ : MeshStorageBackend :=
    { b.setServer m s with running := if s.running.isEmpty then none else some m }
  obtain ⟨hsound, hclients, hrun⟩ :=
    sound_foldl called b₁ (h.sound.congr hcounts rfl rfl) (Function.update_self ..)
  have hadvance : b.advance m s =
      called.foldl (fun b p => b.onFullAssetRcvd p.1.callback p.2) b₁ := by
    rw [MeshStorageBackend.advance, hdrop]
  have hserver (i : ℕ) : ((b.advance m s).servers i).toClient =
      (Function.update b.servers m s i).toClient := by
    rw [hadvance]
    exact hclients i
  refine ⟨?_, fun i => ?_, fun i hi => ?_⟩
  · rw [hadvance]
    refine hsound.congr (fun j i => ?_) rfl rfl
    rw [Function.update_idem, due, hclients]
    by_cases hi : i = m
    · subst hi
      simp [b₁, setServer]
    · simp [b₁, setServer, Function.update_of_ne hi, due]
  · rw [hserver]
    by_cases hi : i = m
    · subst hi
      rw [Function.update_self]
      exact ⟨_, ⟨List.nil_prefix, hnext.perm, hnext.waiting_le, hnext.sent_le, hnext.tame⟩⟩
    · rw [Function.update_of_ne hi]
      exact h.accounted i
  · rw [hserver]
    have hrun' : (b.advance m s).running = if s.running.isEmpty then none else some m := by
      rw [hadvance]
      exact hrun
    rw [hrun'] at hi
    by_cases him : i = m
    · subst him
      rw [Function.update_self]
      by_contra hne
      exact hi (if_neg (by simpa using hne))
    · rw [Function.update_of_ne him]
      apply h.quiet
      rcases hrunning with hnone | hsome
      · simp [hnone]
      · simpa [hsome] using Ne.symm him

/-- The requester is called back, and the search is complete. -/
lemma Invariant.finish (h : Invariant b) (haffects : Affects k b b') {search : AssetSearch}
    (hsearch : b'.searches[k]? = some search) (hanswers : b'.answers k = 0)
    (hdue : ∀ m, (b.due m).count k = 0) (a : SearchAnswer) :
    Invariant ((b'.call (.answer k a)).searchComplete k) := by
  have hnew : ((b'.call (.answer k a)).searchComplete k).searches[k]? =
      some { search with isActive := false } := by
    rw [search_searchComplete]
    exact congrArg (Option.map _) hsearch
  apply h.change ((haffects.trans (affects_answer a)).trans affects_searchComplete) hnew
  refine .done rfl ?_ hdue
  rw [answers_searchComplete, answers_call_answer, if_pos rfl, hanswers]

lemma Invariant.startSearch (h : Invariant b) (uuid : ByteString) (isTest : Bool)
    (ready : List ℕ) : Invariant (b.startSearch uuid isTest ready) := by
  let search : AssetSearch := { uuid := uuid, isTest := isTest }
  let b₀ : MeshStorageBackend := { b with searches := b.searches ++ [search] }
  obtain ⟨hanswers, hdue⟩ := h.sound.unstarted b.searches.length (List.getElem?_length _)
  have hnew : b₀.searches[b.searches.length]? = some search := List.getElem?_concat_length
  have hadd : Affects b.searches.length b b₀ := by
    refine ⟨fun j hj => ?_, fun _ _ => rfl, fun _ => rfl, rfl⟩
    rcases Nat.lt_or_gt_of_ne hj with hlt | hgt
    · exact List.getElem?_append_left hlt
    · rw [List.getElem?_eq_none (Nat.le_of_lt hgt), List.getElem?_eq_none]
      simpa [b₀] using Nat.succ_le_of_lt hgt
  by_cases hready : ready = []
  · subst hready
    exact h.finish hadd hnew hanswers hdue _
  · obtain ⟨hasked, hsearches, houtputs⟩ := affects_foldl (k := b.searches.length)
      (·.search uuid b.searches.length) (fun _ => MeshServer.toClient_search ..) ready b₀
    have hstart : b.startSearch uuid isTest ready = (ready.foldl (fun b' m =>
        b'.setServer m ((b'.servers m).search uuid b.searches.length)) b₀).modifySearch
          b.searches.length fun search =>
            { search with queriedServers := ready, timeoutTimer := .waiting } :=
      if_neg (by simpa using hready)
    have hasking : (b.startSearch uuid isTest ready).searches[b.searches.length]? =
        some { search with queriedServers := ready, timeoutTimer := .waiting } := by
      rw [hstart, search_modifySearch, hsearches, hnew]
      rfl
    rw [hstart] at hasking ⊢
    apply h.change ((hadd.trans hasked).trans (affects_modifySearch _)) hasking
    refine .searching rfl rfl (.inl rfl) ?_ hdue
    rw [answers_modifySearch, answers, houtputs]
    exact hanswers

/-- A search that nobody has found, found on a server that is connected, turns into a transfer from
that server. -/
lemma Invariant.getAsset (h : Invariant b) (haffects : Affects k b b') {search : AssetSearch}
    (hsearch : b'.searches[k]? = some search) (hanswers : b'.answers k = 0)
    (hdue : ∀ m, (b.due m).count k = 0) (hactive : search.isActive = true)
    (hfull : search.isTest = false) (hfound : search.wasFound = true) {m : ℕ}
    (hconn : (b.servers m).established = true) (uuid : ByteString) :
    Invariant (b'.setServer m ((b'.servers m).getAsset uuid k)) := by
  have hclient := haffects.clients m
  obtain ⟨issued, haccounted⟩ := h.accounted m
  let b'' := b'.setServer m ((b'.servers m).getAsset uuid k)
  have hm : (b''.servers m).toClient = (b.servers m).toClient.request none ⟨uuid, k⟩ := by
    simp [b'', setServer, MeshServer.getAsset, hclient]
  have hothers {i : ℕ} (hi : i ≠ m) : (b''.servers i).toClient = (b.servers i).toClient := by
    simp [b'', setServer, Function.update_of_ne hi, haffects.clients]
  have hperm := (haccounted.outstanding_request hconn none ⟨uuid, k⟩).map (·.callback)
  have hcount (j : ℕ) : (b''.due m).count j = (b.due m).count j + [k].count j := by
    rw [due, hm, hperm.count_eq, List.map_append, List.count_append]
    rfl
  have hcount' {i : ℕ} (hi : i ≠ m) (j : ℕ) : (b''.due i).count j = (b.due i).count j := by
    rw [due, hothers hi, due]
  refine ⟨?_, fun i => ?_, fun i hi => ?_⟩
  · have hsound : Sound b''.due b' := by
      refine h.sound.change haffects hsearch (fun j hj i => ?_)
        (.transferring m hactive hfull hfound hanswers ?_ fun i hi => ?_)
      · by_cases hi : i = m
        · rw [hi, hcount, List.count_singleton, if_neg (by simpa using Ne.symm hj), Nat.add_zero]
        · exact hcount' hi j
      · rw [hcount, hdue, List.count_singleton_self]
      · rw [hcount' hi, hdue]
    exact hsound.congr (fun _ _ => rfl) rfl rfl
  · by_cases hi : i = m
    · subst hi
      exact ⟨_, hm ▸ haccounted.request hconn none ⟨uuid, k⟩⟩
    · exact hothers hi ▸ h.accounted i
  · have hquiet := h.quiet i (haffects.running ▸ hi)
    by_cases him : i = m
    · subst him
      exact (congrArg Client.running hm).trans ((running_request ..).trans hquiet)
    · exact (congrArg Client.running (hothers him)).trans hquiet

/-- A server tells a live search that has not been found yet. -/
lemma Invariant.onSearchResult (h : Invariant b) {search : AssetSearch}
    (hsearch : b.searches[k]? = some search) (hactive : search.isActive = true)
    (hfound : search.wasFound = false) {m : ℕ} {found : Bool}
    (hconn : found = true → (b.servers m).established = true) :
    Invariant (b.onSearchResult k m found) := by
  obtain ⟨htimer, hanswers, hdue⟩ : (search.timeoutTimer = .waiting ∨
      search.timeoutTimer = .queued) ∧ b.answers k = 0 ∧ ∀ m, (b.due m).count k = 0 := by
    cases h.sound.phase k search hsearch with
    | searching _ _ htimer hanswers hdue => exact ⟨htimer, hanswers, hdue⟩
    | transferring _ _ _ hfound' => simp [hfound] at hfound'
    | done hinactive => simp [hactive] at hinactive
  have hasked : Edits k _ b _ := edits_modifySearch fun search' =>
    { search' with queriedServers := search.queriedServers.filter (· ≠ m) }
  have hcancelled : Edits k _ b (cancelTimeoutTimer _ k) := hasked.comp (edits_modifySearch _)
  have hstopped := hcancelled.comp
    (edits_cancelRemainingServers search.uuid (search.queriedServers.filter (· ≠ m)))
  simp only [MeshStorageBackend.onSearchResult, hsearch]
  split_ifs with hyes htest hempty
  · exact h.finish hstopped.toAffects (hstopped.some hsearch) (hstopped.silent.trans hanswers)
      hdue _
  · have hmarked := hstopped.comp
      (edits_modifySearch fun search => { search with wasFound := true })
    exact h.getAsset hmarked.toAffects (hmarked.some hsearch) (hmarked.silent.trans hanswers) hdue
      hactive (Bool.eq_false_iff.mpr htest) rfl (hconn hyes) search.uuid
  · exact h.finish hcancelled.toAffects (hcancelled.some hsearch)
      (hcancelled.silent.trans hanswers) hdue _
  · exact h.change hasked.toAffects (hasked.some hsearch)
      (.searching hactive hfound htimer (hasked.silent.trans hanswers) hdue)

lemma Invariant.expire (h : Invariant b) {search : AssetSearch}
    (hsearch : b.searches[k]? = some search) :
    Invariant (b.modifySearch k fun search => { search with timeoutTimer := .queued }) := by
  have hexpired : Edits k _ b _ :=
    edits_modifySearch fun search => { search with timeoutTimer := .queued }
  apply h.change hexpired.toAffects (hexpired.some hsearch)
  rw [hexpired.silent]
  cases h.sound.phase k search hsearch with
  | searching active found _ answers due => exact .searching active found (.inr rfl) answers due
  | transferring m active full found answers one others =>
    exact .transferring m active full found answers one others
  | done inactive answers due => exact .done inactive answers due

/-- The timeout of a search that is live, or was found. -/
lemma Invariant.onTimeout (h : Invariant b) {search : AssetSearch}
    (hsearch : b.searches[k]? = some search)
    (hlive : search.isActive = true ∨ search.wasFound = true) :
    Invariant
      ((b.modifySearch k fun search => { search with timeoutTimer := .ran }).onTimeout k) := by
  have hran : Edits k _ b _ :=
    edits_modifySearch fun search => { search with timeoutTimer := .ran }
  have hstopped := hran.comp (edits_cancelRemainingServers search.uuid search.queriedServers)
  have htimeout :
      (b.modifySearch k fun search => { search with timeoutTimer := .ran }).onTimeout k =
      if !search.wasFound then
        ((((b.modifySearch k fun search => { search with timeoutTimer := .ran
          }).cancelRemainingServers k search.uuid search.queriedServers).generateNegativeResponse k
            { search with timeoutTimer := .ran }).searchComplete k)
      else b.modifySearch k fun search => { search with timeoutTimer := .ran } := by
    simp only [MeshStorageBackend.onTimeout, hran.some hsearch]
  rw [htimeout]
  cases h.sound.phase k search hsearch with
  | searching active found timer answers due =>
    rw [if_pos (by simp [found])]
    exact h.finish hstopped.toAffects (hstopped.some hsearch) (hstopped.silent.trans answers) due _
  | transferring m active full found answers one others =>
    rw [if_neg (by simp [found])]
    exact h.change hran.toAffects (hran.some hsearch)
      (.transferring m active full found (hran.silent.trans answers) one others)
  | done inactive answers due =>
    rw [if_neg (by simpa [inactive] using hlive)]
    exact h.change hran.toAffects (hran.some hsearch)
      (.done inactive (hran.silent.trans answers) due)

/-! ### Runs -/

/-- A timeout finds its search live or found; a server that tells a live search tells one that has
not been found yet, and has its asset connection if it says that it has the asset. -/
def shelters (b : MeshStorageBackend) : Event → Bool
  | .timeout k => b.searches[k]?.all fun search => search.isActive || search.wasFound
  | .tell =>
    match b.running, b.telling with
    | some m, (k, found) :: _ =>
      b.searches[k]?.all fun search => !search.isActive ||
        (!search.wasFound && (!found || (b.servers m).established))
    | _, _ => true
  | _ => true

def Sheltered (b : MeshStorageBackend) (e : Event) : Prop := b.shelters e = true

instance (b : MeshStorageBackend) (e : Event) : Decidable (Sheltered b e) :=
  inferInstanceAs (Decidable (_ = true))

lemma Sheltered.tell (h : Sheltered b .tell) {m : ℕ} {found : Bool} {rest : List (ℕ × Bool)}
    (hrunning : b.running = some m) (htelling : b.telling = (k, found) :: rest)
    {search : AssetSearch} (hsearch : b.searches[k]? = some search)
    (hactive : search.isActive = true) :
    search.wasFound = false ∧ (found = true → (b.servers m).established = true) := by
  have hsafe : search.wasFound = false ∧ (found = false ∨ (b.servers m).established = true) := by
    simpa [Sheltered, shelters, hrunning, htelling, hsearch, hactive] using h
  refine ⟨hsafe.1, fun hfound => hsafe.2.resolve_left ?_⟩
  simp [hfound]

/-- A server tells the next of its searches. -/
lemma Invariant.tell (h : Invariant b) (hsheltered : Sheltered b .tell)
    (hs : b.step .tell = some b') : Invariant b' := by
  obtain ⟨m, k, found, rest, hrunning, htelling, rfl⟩ := step_tell hs
  have hrest := h.with_telling rest
  by_cases hlive : b.searches[k]?.any (·.isActive) = true
  · rw [if_pos hlive]
    obtain ⟨search, hsearch, hactive⟩ := (Option.any_eq_true ..).mp hlive
    obtain ⟨hfound, hconn⟩ := hsheltered.tell hrunning htelling hsearch hactive
    exact hrest.onSearchResult hsearch hactive hfound hconn
  · rwa [if_neg hlive]

lemma Invariant.step {e : Event} (h : Invariant b) (hsheltered : Sheltered b e)
    (hs : b.step e = some b') : Invariant b' := by
  cases e with
  | start uuid isTest ready =>
    obtain rfl := Machine.eq_of_ite hs
    exact h.startSearch uuid isTest ready
  | server m event =>
    obtain ⟨hnone, -, hallows, server, hserver, rfl⟩ := step_server hs
    have hrunning := h.quiet m (by simp [hnone])
    refine h.advance (.inl hnone) ?_ (fun _ => dropsNothing_of_idle hrunning) hserver
    cases event <;> first | rfl | simp [allows] at hallows
  | resume =>
    obtain ⟨m, server, hrunning, -, hserver, rfl⟩ := step_resume hs
    exact (h.with_telling (toTell (b.servers m))).advance (.inr hrunning) rfl
      (fun hclose => by cases hclose) hserver
  | tell => exact h.tell hsheltered hs
  | expire k =>
    obtain ⟨hcond, hs⟩ := Option.ite_none_right_eq_some.mp hs
    cases hs
    obtain ⟨search, hsearch, -⟩ := (Option.any_eq_true ..).mp hcond
    exact h.expire hsearch
  | timeout k =>
    obtain ⟨hcond, hs⟩ := Option.ite_none_right_eq_some.mp hs
    cases hs
    obtain ⟨search, hsearch, -⟩ := (Option.any_eq_true ..).mp (Bool.and_eq_true_iff.mp hcond).2
    refine h.onTimeout hsearch ?_
    simpa [Sheltered, shelters, hsearch] using hsheltered

lemma Attended.step {e : Event} (h : Attended b) (hinv : Invariant b)
    (hsheltered : Sheltered b e) (hs : b.step e = some b') : Attended b' := by
  cases e with
  | start uuid isTest ready =>
    obtain ⟨hcond, hs⟩ := Option.ite_none_right_eq_some.mp hs
    cases hs
    exact h.startSearch uuid isTest hcond.2.2
  | server m event =>
    obtain ⟨hnone, hnothing, hallows, server, hserver, rfl⟩ := step_server hs
    refine attended_advance h.tended ((h.tended m).step (hinv.quiet m (by simp [hnone])) ?_ ?_
      hserver) fun htelling => absurd hnothing htelling
    · rintro uuid k
      refine ⟨?_, ?_, ?_⟩ <;> rintro rfl <;> cases hallows
    · rintro rfl
      simp only [allows, Bool.and_eq_true, decide_eq_true_eq] at hallows
      exact hallows.1.1
  | resume =>
    obtain ⟨m, server, hrunning, -, hserver, rfl⟩ := step_resume hs
    exact attended_advance (b := { b with telling := toTell (b.servers m) }) h.tended
      ((h.tended m).resume hserver) fun htell => remote_of_toTell (h.tended m) hserver htell
  | tell =>
    obtain ⟨m, k, found, rest, hrunning, htelling, rfl⟩ := step_tell hs
    have hremote := h.told (by simp [htelling]) m hrunning
    have hrest : Attended { b with telling := rest } := by
      refine ⟨h.tended, fun _ i hi => ?_⟩
      rw [hrunning] at hi
      exact Option.some.inj hi ▸ hremote
    by_cases hlive : b.searches[k]?.any (·.isActive) = true
    · rw [if_pos hlive]
      obtain ⟨search, hsearch, hactive⟩ := (Option.any_eq_true ..).mp hlive
      exact hrest.onSearchResult hremote (hsheltered.tell hrunning htelling hsearch hactive).2
    · rwa [if_neg hlive]
  | expire k =>
    obtain rfl := Machine.eq_of_ite hs
    exact h.with_searches _ _
  | timeout k =>
    obtain rfl := Machine.eq_of_ite hs
    exact Attended.onTimeout (h.with_searches _ _)

/-- An event for the search is pending: its timer is running or its timeout queued, or a server with
a get for it in a queue is in the middle of a handler, or has a handler posted or an operation of
the asset connection outstanding. -/
def Pending (b : MeshStorageBackend) (k : ℕ) : Prop :=
  (∃ search, b.searches[k]? = some search ∧
    (search.timeoutTimer = .waiting ∨ search.timeoutTimer = .queued)) ∨
  ∃ m, k ∈ ((b.servers m).posted.map Prod.fst ++
      ((b.servers m).sent ++ (b.servers m).waiting)).map (·.callback) ∧
    ((b.servers m).running ≠ [] ∨ (b.servers m).posted ≠ [] ∨ (b.servers m).writing.isSome = true ∨
      (b.servers m).reading.isSome = true)

/-- A server that owes a search a callback is at work. -/
lemma Attended.pending (h : Attended b) {m : ℕ} (hdue : k ∈ b.due m) : Pending b k := by
  have hqueued : k ∈ ((b.servers m).posted.map Prod.fst ++
      ((b.servers m).sent ++ (b.servers m).waiting)).map (·.callback) := by
    obtain ⟨r, hr, hk⟩ := List.mem_map.mp hdue
    refine List.mem_map.mpr ⟨r, ?_, hk⟩
    simp only [outstanding, List.mem_append] at hr ⊢
    exact hr.imp_right (Or.imp List.mem_of_mem_drop List.mem_of_mem_drop)
  refine .inr ⟨m, hqueued, ?_⟩
  by_cases hidle : (b.servers m).running = []
  · refine .inr (.inr (.inr ((h.tended m).reading hidle ?_)))
    rw [(h.tended m).posted, List.map_nil, List.nil_append, List.map_append,
      List.mem_append] at hqueued
    refine hqueued.symm.imp ?_ ?_
    · exact fun hwaiting => List.ne_nil_of_mem (List.mem_map.mp hwaiting).choose_spec.1
    · exact fun hsent => List.ne_nil_of_mem (List.mem_map.mp hsent).choose_spec.1
  · exact .inl hidle

/-- No search calls back twice. -/
lemma Invariant.answers_le_one (h : Invariant b) (k : ℕ) : b.answers k ≤ 1 := by
  cases hsearch : b.searches[k]? with
  | none => exact (h.sound.unstarted k hsearch).1.trans_le (Nat.zero_le 1)
  | some search =>
    cases h.sound.phase k search hsearch with
    | searching _ _ _ answers => omega
    | transferring _ _ _ _ answers => omega
    | done _ answers => omega

lemma invariant_new : Invariant {} := by
  refine ⟨⟨nofun, fun j _ => ⟨rfl, fun m => rfl⟩⟩, fun m => ⟨[], ?_⟩, fun _ _ => rfl⟩
  exact ⟨List.nil_prefix, .refl _, Nat.le_refl _, Nat.le_refl _, trivial⟩

lemma attended_new : Attended {} := ⟨fun _ => MeshServer.tended_new, nofun⟩

lemma invariant_run {es : List Event} {t : MeshStorageBackend}
    (hguard : Machine.Guarded step Sheltered {} es) (hrun : Machine.run step {} es = some t) :
    Invariant t ∧ Attended t := by
  refine Machine.run_invariant (I := fun b => Invariant b ∧ Attended b) ?_
    ⟨invariant_new, attended_new⟩ hguard hrun
  rintro b e b' ⟨hinv, hatt⟩ hsheltered hs
  exact ⟨hinv.step hsheltered hs, hatt.step hinv hsheltered hs⟩

/-- In a sheltered run, the requester of a search is called back at most once, and exactly once when
no event for the search is pending. -/
theorem answered_once {es : List Event} {t : MeshStorageBackend}
    (hguard : Machine.Guarded step Sheltered {} es) (hrun : Machine.run step {} es = some t)
    {k : ℕ} (hk : k < t.searches.length) :
    t.answers k ≤ 1 ∧ (¬ t.Pending k → t.answers k = 1) := by
  obtain ⟨hinv, hatt⟩ := invariant_run hguard hrun
  cases hinv.sound.phase k _ (List.getElem?_eq_getElem hk) with
  | searching _ _ htimer hanswers =>
    exact ⟨by omega, fun hnone => absurd (.inl ⟨_, List.getElem?_eq_getElem hk, htimer⟩) hnone⟩
  | transferring m _ _ _ hanswers hone =>
    have hdue : k ∈ t.due m := List.count_pos_iff.mp (by omega)
    exact ⟨by omega, fun hnone => absurd (hatt.pending hdue) hnone⟩
  | done _ hanswers => exact ⟨by omega, fun _ => hanswers⟩

/-- Connect a server. -/
def connecting (m : ℕ) : List Event :=
  [.server m .connect, .server m (.assetConnected true), .server m (.queryConnected true), .resume]

/-- A server says that it has the asset, and sends it. -/
def transferred : List Event :=
  let id : ByteString := List.replicate 32 48
  let response := ServerResponseMsg.make .found id (some (id ++ [0, 0]))
  connecting 0 ++
    [.start id false [0], .server 0 (.queryRead (some (.response id true))), .resume, .tell,
      .resume, .resume, .server 0 (.written true), .server 0 (.read response.header),
      .server 0 (.read response.data), .resume, .resume, .resume]

lemma transferred_run : ∃ t, Machine.run step {} transferred = some t ∧
    t.searches.map (·.timeoutTimer) = [.cancelled] ∧
    ∀ m, (t.servers m).posted.map Prod.fst ++ ((t.servers m).sent ++ (t.servers m).waiting) =
      [] := by
  refine ⟨_, rfl, rfl, fun m => ?_⟩
  cases m with
  | zero => rfl
  | succ m => rfl

theorem transferred_answered_once :
    ∃ t, Machine.run step {} transferred = some t ∧ ¬ t.Pending 0 ∧ t.answers 0 = 1 := by
  have hguard : Machine.Guarded step Sheltered {} transferred := by
    repeat' refine .cons rfl (by decide) ?_
    trivial
  obtain ⟨t, hrun, htimer, hempty⟩ := transferred_run
  obtain ⟨search, hsearch, hcancelled⟩ := List.map_eq_singleton_iff.mp htimer
  have hnone : ¬ t.Pending 0 := by
    rintro (⟨search', hsearch', hpending⟩ | ⟨m, hmem, -⟩)
    · rw [hsearch, List.getElem?_cons_zero, Option.some.injEq] at hsearch'
      simp [← hsearch', hcancelled] at hpending
    · simp [hempty m] at hmem
  exact ⟨t, hrun, hnone, (answered_once hguard hrun (by simp [hsearch])).2 hnone⟩

/-- The timer expires, then the only server says that it does not have the asset. -/
def expiredThenTold : List Event :=
  connecting 0 ++
    [.start (sampleUUID 1) false [0], .expire 0,
      .server 0 (.queryRead (some (.response (sampleUUID 1) false))), .resume, .tell, .resume,
      .resume, .timeout 0]

/-- A server is closed, the other one says that it has the asset, and the first one is closed
again by its query connection. -/
def closedTwice : List Event :=
  connecting 0 ++ connecting 1 ++
    [.start (sampleUUID 1) false [0, 1], .server 0 (.queryWritten true), .server 0 (.read none),
      .resume, .resume, .resume, .tell, .resume,
      .server 1 (.queryRead (some (.response (sampleUUID 1) true))), .resume, .tell, .resume,
      .resume, .server 0 (.queryRead none), .resume, .resume, .resume, .tell, .resume,
      .server 1 (.written false), .resume, .resume]

/-- A server is closed, and then its answer arrives. -/
def foundOnClosed : List Event :=
  connecting 0 ++ connecting 1 ++
    [.start (sampleUUID 1) false [0, 1], .server 0 (.read none), .resume, .resume, .resume, .tell,
      .resume, .server 0 (.queryRead (some (.response (sampleUUID 1) true))), .resume, .tell,
      .resume, .resume, .server 0 (.runPosted 0), .resume, .server 0 (.written false), .resume,
      .resume]

theorem requester_called_back_twice :
    (∃ t, Machine.run step {} expiredThenTold = some t ∧ t.answers 0 = 2) ∧
    (∃ t, Machine.run step {} closedTwice = some t ∧ t.answers 0 = 2) ∧
    ∃ t, Machine.run step {} foundOnClosed = some t ∧ t.answers 0 = 2 :=
  ⟨⟨_, rfl, rfl⟩, ⟨_, rfl, rfl⟩, ⟨_, rfl, rfl⟩⟩

end MeshStorageBackend

end Whip
