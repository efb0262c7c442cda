import Whip.Server.Sessions

/-!
# Runs of the server

What holds of all sessions, of the storage and of the mesh between two steps of the server, and the
two results about every run: a get is never answered with another asset, and, where nothing is lost,
each request is answered once.
-/

namespace Whip

open CSAuthenticated

namespace AssetServer

/-! ### What a session waits for -/

/-- The call that a token stands for, if the session `id` made it. -/
def callOf (id : ℕ) : Token → Option (SessionHandler × Work)
  | (.session id' handler, work) => if id' = id then some (handler, work) else none
  | (.replication, _)            => none

/-- The calls of a session on the storage that have not been completed. -/
def calls (s : AssetServer) (id : ℕ) : List (SessionHandler × Work) :=
  (tokens s.storage.backend).filterMap (callOf id)

/-- What the search `k` is for, if the session `id` started it. -/
def searchOf (requesters : List ℕ) (uuids : List ByteString) (id k : ℕ) : Option ByteString :=
  if requesters[k]? = some id then uuids[k]? else none

/-- The storage, the mesh and what the sessions have sent so far are in order; the mesh searches for
the assets `uuids`. -/
structure Sound (uuids : List ByteString) (s : AssetServer) : Prop where
  world : s.storage.backend.world.Intact
  honest : s.storage.Honest
  mesh : s.mesh.Faithful uuids s.mesh.outputs
  requesters : s.requesters.length = uuids.length
  truthful : ∀ c ∈ s.sessions, Truthful c

/-- The session `id` is in order, when the searches `W` have yet to call back. -/
def Stands (well : Prop) (uuids : List ByteString) (W : List ℕ) (s : AssetServer) (id : ℕ) : Prop :=
  Standing well s.sessions[id]? (s.calls id) (W.filterMap (searchOf s.requesters uuids id))

/-- `W` are the searches that have not called back. -/
def Unanswered (W : List ℕ) (s : AssetServer) : Prop :=
  W.Nodup ∧ ∀ k, k ∈ W ↔ k < s.requesters.length ∧ s.mesh.answers k = 0

/-- What holds between two steps. -/
def Holds (well : Prop) (s : AssetServer) : Prop :=
  ∃ uuids W, Sound uuids s ∧ Unanswered W s ∧ ∀ id, Stands well uuids W s id

variable {well : Prop} {uuids : List ByteString} {W : List ℕ} {s s' : AssetServer} {id : ℕ}
  {c : CSAuthenticated}

lemma Standing.perm {o : Option CSAuthenticated} {T T' : List (SessionHandler × Work)}
    {U U' : List ByteString} (h : Standing well o T U) (hT : T'.Perm T) (hU : U'.Perm U) :
    Standing well o T' U' := by
  cases h with
  | gone h => exact .gone h
  | storing working fits safe =>
    rw [List.perm_singleton.mp hT, List.perm_nil.mp hU]
    exact .storing working fits safe
  | searching working =>
    rw [List.perm_nil.mp hT, List.perm_singleton.mp hU]
    exact .searching working
  | unborn =>
    rw [List.perm_nil.mp hT, List.perm_nil.mp hU]
    exact .unborn
  | reading socket even =>
    rw [List.perm_nil.mp hT, List.perm_nil.mp hU]
    exact .reading socket even
  | body socket owes sized =>
    rw [List.perm_nil.mp hT, List.perm_nil.mp hU]
    exact .body socket owes sized
  | writingHeader socket even =>
    rw [List.perm_nil.mp hT, List.perm_nil.mp hU]
    exact .writingHeader socket even
  | writingData socket even =>
    rw [List.perm_nil.mp hT, List.perm_nil.mp hU]
    exact .writingData socket even
  | lost ill socket =>
    rw [List.perm_nil.mp hT, List.perm_nil.mp hU]
    exact .lost ill socket

/-- One session is changed, and the storage; the new tokens are this session's. -/
lemma Sound.update (h : Sound uuids s) (hothers : ∀ j, j ≠ id → Stands well uuids W s j)
    (hid : id < s.sessions.length) (htrue : Truthful c) {storage : AsyncStorage Callback}
    (hhonest : storage.Honest) (hworld : storage.backend.world = s.storage.backend.world)
    (extra : List Token)
    (htokens : (tokens storage.backend).Perm (tokens s.storage.backend ++ extra))
    (hextra : ∀ j, j ≠ id → extra.filterMap (callOf j) = [])
    (hstand : Standing well (some c) (s.calls id ++ extra.filterMap (callOf id))
      (W.filterMap (searchOf s.requesters uuids id))) :
    Sound uuids { s with sessions := s.sessions.set id c, storage := storage } ∧
      ∀ j, Stands well uuids W
        { s with sessions := s.sessions.set id c, storage := storage } j := by
  have hcalls (j : ℕ) : ((tokens storage.backend).filterMap (callOf j)).Perm
      (s.calls j ++ extra.filterMap (callOf j)) := by
    rw [calls, ← List.filterMap_append]
    exact htokens.filterMap _
  refine ⟨⟨hworld ▸ h.world, hhonest, h.mesh, h.requesters, fun c' hc' => ?_⟩, fun j => ?_⟩
  · obtain hc' | rfl := List.mem_or_eq_of_mem_set hc'
    · exact h.truthful c' hc'
    · exact htrue
  · by_cases hj : j = id
    · subst hj
      have hset : (s.sessions.set j c)[j]? = some c := by simp [hid]
      rw [Stands, hset]
      exact hstand.perm (hcalls j) (.refl _)
    · have hset : (s.sessions.set id c)[j]? = s.sessions[j]? := by simp [Ne.symm hj]
      rw [Stands, hset]
      refine (hothers j hj).perm ?_ (.refl _)
      have hj := hcalls j
      rwa [hextra j ‹_›, List.append_nil] at hj

/-! ### Calls from the mesh -/

/-- A search is no longer waited for. -/
lemma perm_filterMap_erase {α β : Type} [DecidableEq α] (f : α → Option β) {l : List α} {a : α}
    (ha : a ∈ l) : (l.filterMap f).Perm ((f a).toList ++ (l.erase a).filterMap f) := by
  have hperm := (List.perm_cons_erase ha).filterMap f
  rw [List.filterMap_cons] at hperm
  cases hf : f a <;> simpa [hf] using hperm

/-- A search calls back. -/
lemma deliver_answer (h : Sound uuids s) (hstands : ∀ id, Stands well uuids W s id) {k : ℕ}
    (hk : k ∈ W) {asset : Option Asset}
    (hfair : MeshStorageBackend.Fair uuids (.answer k (.asset asset))) :
    Sound uuids (s.deliver (.answer k (.asset asset))) ∧
      ∀ id, Stands well uuids (W.erase k) (s.deliver (.answer k (.asset asset))) id := by
  obtain ⟨uuid, huuid, hsame⟩ := hfair
  have hlt : k < s.requesters.length := by
    rw [h.requesters]
    exact (List.getElem?_eq_some_iff.mp huuid).1
  obtain ⟨id, hreq⟩ : ∃ id, s.requesters[k]? = some id := ⟨_, List.getElem?_eq_getElem hlt⟩
  obtain ⟨search, hsearch⟩ : ∃ search, s.mesh.searches[k]? = some search := by
    have hlen : s.mesh.searches.length = uuids.length := by
      simpa using congrArg List.length h.mesh.searches
    exact ⟨_, List.getElem?_eq_getElem (hlen ▸ (List.getElem?_eq_some_iff.mp huuid).1)⟩
  have hdeliver : s.deliver (.answer k (.asset asset)) = { s with
      sessions := s.sessions.modify id (·.handleIntrameshGetResponse search.uuid asset) } := by
    simp [deliver, hreq, hsearch]
  have hperm (j : ℕ) := perm_filterMap_erase (searchOf s.requesters uuids j) hk
  have hid := hstands id
  have hfound : (W.filterMap (searchOf s.requesters uuids id)).Perm
      (uuid :: (W.erase k).filterMap (searchOf s.requesters uuids id)) := by
    have hk := hperm id
    rwa [searchOf, if_pos hreq, huuid] at hk
  -- the session, unless it is gone, is waiting for this search and nothing else
  obtain ⟨c, hc, hcase⟩ := hid.of_search fun hnil => by simp [hnil] at hfound
  have hsession : Standing well (some (c.handleIntrameshGetResponse search.uuid asset)) (s.calls id)
        ((W.erase k).filterMap (searchOf s.requesters uuids id)) ∧
      Truthful (c.handleIntrameshGetResponse search.uuid asset) := by
    have htrue := h.truthful c (List.mem_of_getElem? hc)
    rcases hcase with hgone | ⟨working, hcalls, honly⟩
    · have hgone := gone_intrameshGet hgone search.uuid asset
      exact ⟨.gone hgone.1, fun p hp => htrue p (hgone.2 ▸ hp)⟩
    · rw [honly] at hfound
      obtain ⟨heq, hrest⟩ := List.cons.inj (List.singleton_perm.mp hfound).symm
      rw [hcalls, hrest]
      exact settled_intrameshGet working htrue (fun a ha => (hsame a ha).trans heq) _
  have hlen := (List.getElem?_eq_some_iff.mp hc).1
  have hmodify : s.sessions.modify id (·.handleIntrameshGetResponse search.uuid asset) =
      s.sessions.set id (c.handleIntrameshGetResponse search.uuid asset) := by
    rw [List.modify_eq_set_getElem?, hc]; rfl
  rw [hdeliver, hmodify]
  refine Sound.update h (fun j hj => ?_) hlen hsession.2 h.honest rfl [] (by simp) (fun _ _ => rfl)
    (by simpa using hsession.1)
  have hother := hperm j
  rw [searchOf, hreq, if_neg fun heq => hj (Option.some.inj heq).symm] at hother
  exact (hstands j).perm (.refl _) hother.symm

lemma deliver_frame (s : AssetServer) (o : MeshOutput) :
    (s.deliver o).mesh = s.mesh ∧ (s.deliver o).requesters = s.requesters := by
  unfold deliver
  split
  · split <;> exact ⟨rfl, rfl⟩
  · exact ⟨rfl, rfl⟩
  · exact ⟨rfl, rfl⟩

lemma foldl_deliver_frame (os : List MeshOutput) (s : AssetServer) :
    (os.foldl deliver s).mesh = s.mesh ∧ (os.foldl deliver s).requesters = s.requesters := by
  induction os generalizing s with
  | nil => exact ⟨rfl, rfl⟩
  | cons o os ih =>
    rw [List.foldl_cons, (ih _).1, (ih _).2]
    exact deliver_frame s o

lemma deliver_spec (h : Sound uuids s) (hstands : ∀ id, Stands well uuids W s id) {o : MeshOutput}
    (hfair : MeshStorageBackend.Fair uuids o) (ho : ∀ k, o.search = some k → k ∈ W) :
    Sound uuids (s.deliver o) ∧
      ∀ id, Stands well uuids (W.diff o.search.toList) (s.deliver o) id := by
  cases o with
  | inform asset =>
    refine ⟨⟨?_, h.honest.inform asset, h.mesh, h.requesters, h.truthful⟩, fun id => ?_⟩
    · show (s.storage.inform asset).backend.world.Intact
      rw [AsyncStorage.backend_inform]
      exact h.world
    · show Standing well _ ((tokens (s.storage.inform asset).backend).filterMap _) _
      rw [AsyncStorage.backend_inform]
      exact hstands id
  | answer k answer =>
    cases answer with
    | presence found => exact absurd hfair id
    | asset asset =>
      obtain ⟨hsound, hstands⟩ := deliver_answer h hstands (ho k rfl) hfair
      have hdiff : W.diff [k] = W.erase k := by rw [List.diff_cons, List.diff_nil]
      exact ⟨hsound, hdiff ▸ hstands⟩

/-- All the calls of a step of the mesh. -/
lemma foldl_deliver_spec (os : List MeshOutput) (h : Sound uuids s)
    (hstands : ∀ id, Stands well uuids W s id)
    (hfair : ∀ o ∈ os, MeshStorageBackend.Fair uuids o) (hW : W.Nodup)
    (hos : (os.filterMap MeshOutput.search).Nodup)
    (hsub : ∀ k ∈ os.filterMap MeshOutput.search, k ∈ W) :
    Sound uuids (os.foldl deliver s) ∧
      ∀ id,
        Stands well uuids (W.diff (os.filterMap MeshOutput.search)) (os.foldl deliver s) id := by
  induction os generalizing s W with
  | nil => exact ⟨h, hstands⟩
  | cons o os ih =>
    obtain ⟨ho, hfair⟩ := List.forall_mem_cons.mp hfair
    have hcons : (o :: os).filterMap MeshOutput.search =
        o.search.toList ++ os.filterMap MeshOutput.search := by
      cases hsearch : o.search <;> simp [hsearch]
    rw [hcons] at hos hsub ⊢
    obtain ⟨-, hos, hdisjoint⟩ := List.nodup_append'.mp hos
    obtain ⟨hsound, hstands⟩ := deliver_spec h hstands ho fun k hk =>
      hsub k (List.mem_append_left _ (by simp [hk]))
    rw [List.diff_append]
    exact ih hsound hstands hfair hW.diff hos fun k hk => hW.mem_sdiff_iff.mpr
      ⟨hsub k (List.mem_append_right _ hk), fun hmem => hdisjoint hmem hk⟩

/-- A step of the mesh that calls nobody back twice. The searches `W` had not called back before. -/
lemma holds_deliver {past os : List MeshOutput} (h : Sound uuids s) (hW : W.Nodup)
    (hpast : ∀ k, k ∈ W ↔ k < s.requesters.length ∧ (past.filterMap MeshOutput.search).count k = 0)
    (hstands : ∀ id, Stands well uuids W s id) (houtputs : s.mesh.outputs = past ++ os)
    (honce : ∀ k, s.mesh.answers k ≤ 1) : Holds well (os.foldl deliver s) := by
  have hfair : ∀ o ∈ os, MeshStorageBackend.Fair uuids o := fun o ho =>
    h.mesh.outputs o (houtputs ▸ List.mem_append_right _ ho)
  have hanswers (k : ℕ) : s.mesh.answers k = (past.filterMap MeshOutput.search).count k +
      (os.filterMap MeshOutput.search).count k := by
    rw [MeshStorageBackend.answers, houtputs, List.filterMap_append, List.count_append]
  have hos : (os.filterMap MeshOutput.search).Nodup := List.nodup_iff_count_le_one.mpr fun k => by
    have := honce k
    have := hanswers k
    omega
  have hbound : ∀ k ∈ os.filterMap MeshOutput.search, k < s.requesters.length := by
    intro k hk
    obtain ⟨o, ho, hsearch⟩ := List.mem_filterMap.mp hk
    cases o with
    | inform asset => cases hsearch
    | answer k' answer =>
      cases hsearch
      cases answer with
      | presence found => exact absurd (hfair _ ho) id
      | asset asset =>
        obtain ⟨uuid, huuid, -⟩ := hfair _ ho
        rw [h.requesters]
        exact (List.getElem?_eq_some_iff.mp huuid).1
  have hsub : ∀ k ∈ os.filterMap MeshOutput.search, k ∈ W := by
    intro k hk
    refine (hpast k).mpr ⟨hbound k hk, ?_⟩
    have hpos := List.count_pos_iff.mpr hk
    have := honce k
    have := hanswers k
    omega
  obtain ⟨hsound, hstands⟩ := foldl_deliver_spec os h hstands hfair hW hos hsub
  obtain ⟨hmesh, hreq⟩ := foldl_deliver_frame os s
  refine ⟨uuids, _, hsound, ⟨hW.diff, fun k => ?_⟩, hstands⟩
  rw [hW.mem_sdiff_iff, hpast, hmesh, hreq, hanswers, and_assoc, ← List.count_eq_zero]
  omega

/-- A step of the mesh, from a state in which the sessions are in order already. -/
lemma holds_meshStep (uuids : List ByteString) (W : List ℕ) {e : MeshStorageBackend.Event}
    (hstep : s.meshStep e = some s')
    (hsound : ∀ mesh, s.mesh.step e = some mesh →
      mesh.Faithful uuids s.mesh.outputs ∧ Sound uuids { s with mesh := mesh })
    (hW : Unanswered W s) (hstands : ∀ id, Stands well uuids W s id)
    (honce : ∀ k, s'.mesh.answers k ≤ 1) : Holds well s' := by
  obtain ⟨mesh, hmesh, rfl⟩ := Option.map_eq_some_iff.mp hstep
  rw [(foldl_deliver_frame _ _).1] at honce
  obtain ⟨hfaithful, hsound⟩ := hsound mesh hmesh
  obtain ⟨os, hos⟩ := hfaithful.past
  rw [← hos, List.drop_left]
  exact holds_deliver hsound hW.1 hW.2 hstands hos.symm honce

lemma Holds.meshStep (h : Holds well s) {e : MeshStorageBackend.Event}
    (hstart : ∀ uuid isTest ready, e ≠ .start uuid isTest ready) (hstep : s.meshStep e = some s')
    (honce : ∀ k, s'.mesh.answers k ≤ 1) : Holds well s' := by
  obtain ⟨uuids, W, hsound, hW, hstands⟩ := h
  refine holds_meshStep uuids W hstep (fun mesh hmesh => ?_) hW hstands honce
  have hfaithful := hsound.mesh.step hstart hmesh
  exact ⟨hfaithful, hsound.world, hsound.honest, hfaithful.rebase, hsound.requesters,
    hsound.truthful⟩

/-! ### Sessions -/

/-- The session waits for a call with this work, or is gone. -/
def Awaits (well : Prop) (c : CSAuthenticated) (handler : SessionHandler) (work : Work) : Prop :=
  c.connected = false ∨
    Working c ∧ Fits c.currentRequest handler work ∧ (well → handler ≠ .storagePurge)

/-- A session makes a call on the storage. -/
lemma Sound.called (h : Sound uuids s) (hothers : ∀ j, j ≠ id → Stands well uuids W s j)
    (hid : id < s.sessions.length) (htrue : Truthful c)
    (hfree : c.connected = false ∨
      s.calls id = [] ∧ W.filterMap (searchOf s.requesters uuids id) = [])
    {handler : SessionHandler} {storage : AsyncStorage Callback}
    (hcalled : Called s.storage storage (.session id handler) (Awaits well c handler)) :
    Sound uuids { s with sessions := s.sessions.set id c, storage := storage } ∧
      ∀ j, Stands well uuids W
        { s with sessions := s.sessions.set id c, storage := storage } j := by
  obtain ⟨work, htokens, hawaits⟩ := hcalled.adds
  refine h.update hothers hid htrue hcalled.honest hcalled.world _ htokens (fun j hj => ?_) ?_
  · simp [callOf, Ne.symm hj]
  · have hcall : [((Callback.session id handler, work) : Token)].filterMap (callOf id) =
        [(handler, work)] := by simp [callOf]
    rw [hcall]
    rcases hawaits with hgone | ⟨working, fits, safe⟩
    · exact .gone hgone
    · rcases hfree with hgone | ⟨hcalls, hsearches⟩
      · exact .gone hgone
      · rw [hcalls, hsearches]
        exact .storing working fits safe

/-- The mesh has called back searches that were started only. -/
lemma Sound.answers_eq_zero (h : Sound uuids s) {k : ℕ} (hk : s.requesters.length ≤ k) :
    s.mesh.answers k = 0 := by
  rw [MeshStorageBackend.answers, List.count_eq_zero]
  intro hmem
  obtain ⟨o, ho, hsearch⟩ := List.mem_filterMap.mp hmem
  have hfair := h.mesh.outputs o ho
  cases o with
  | inform asset => cases hsearch
  | answer k' answer =>
    cases hsearch
    cases answer with
    | presence found => exact hfair
    | asset asset =>
      obtain ⟨uuid, huuid, -⟩ := hfair
      exact absurd (List.getElem?_eq_some_iff.mp huuid).1 (by rw [← h.requesters]; omega)

/-- A session starts a search. -/
lemma Sound.meshGetAsset (h : Sound uuids s) (hW : Unanswered W s)
    (hothers : ∀ j, j ≠ id → Stands well uuids W s j) (hid : id < s.sessions.length)
    (htrue : Truthful c)
    (hfree : c.connected = false ∨
      s.calls id = [] ∧ W.filterMap (searchOf s.requesters uuids id) = [])
    {uuid : ByteString}
    (hwaits : c.connected = false ∨ Working c ∧ uuid = c.currentRequest.getUUID) {ready : List ℕ}
    (hstep : { s with
        sessions := s.sessions.set id c, requesters := s.requesters ++ [id] }.meshStep
      (.start uuid false ready) = some s')
    (honce : ∀ k, s'.mesh.answers k ≤ 1) : Holds well s' := by
  have hnew : s.requesters.length ∉ W := fun hmem => absurd ((hW.2 _).mp hmem).1 (Nat.lt_irrefl _)
  have hold {k : ℕ} (hk : k ∈ W) (j : ℕ) :
      searchOf (s.requesters ++ [id]) (uuids ++ [uuid]) j k = searchOf s.requesters uuids j k := by
    have hlt := ((hW.2 k).mp hk).1
    rw [searchOf, List.getElem?_append_left hlt, List.getElem?_append_left (h.requesters ▸ hlt),
      searchOf]
  have hsearches (j : ℕ) : (s.requesters.length :: W).filterMap
      (searchOf (s.requesters ++ [id]) (uuids ++ [uuid]) j) =
      (if j = id then [uuid] else []) ++ W.filterMap (searchOf s.requesters uuids j) := by
    have hfirst : searchOf (s.requesters ++ [id]) (uuids ++ [uuid]) j s.requesters.length =
        if j = id then some uuid else none := by
      rw [searchOf, List.getElem?_concat_length, h.requesters, List.getElem?_concat_length]
      simp [eq_comm]
    rw [List.filterMap_cons, hfirst, List.filterMap_congr fun k hk => hold hk j]
    split_ifs <;> rfl
  refine holds_meshStep (uuids ++ [uuid]) (s.requesters.length :: W) hstep
    (fun mesh hmesh => ?_) ⟨List.nodup_cons.mpr ⟨hnew, hW.1⟩, fun k => ?_⟩ (fun j => ?_) honce
  · obtain rfl := Machine.eq_of_ite hmesh
    have hfaithful := h.mesh.startSearch uuid ready
    refine ⟨hfaithful, h.world, h.honest, hfaithful.rebase, by simp [h.requesters],
      fun c' hc' => ?_⟩
    obtain hc' | rfl := List.mem_or_eq_of_mem_set hc'
    · exact h.truthful c' hc'
    · exact htrue
  · show _ ↔ k < (s.requesters ++ [id]).length ∧ s.mesh.answers k = 0
    rw [List.mem_cons, hW.2, List.length_append, List.length_singleton]
    constructor
    · rintro (rfl | ⟨hlt, hzero⟩)
      · exact ⟨Nat.lt_succ_self _, h.answers_eq_zero (Nat.le_refl _)⟩
      · exact ⟨Nat.lt_succ_of_lt hlt, hzero⟩
    · rintro ⟨hlt, hzero⟩
      exact (Nat.lt_succ_iff_lt_or_eq.mp hlt).symm.imp_right fun hlt => ⟨hlt, hzero⟩
  · by_cases hj : j = id
    · subst hj
      have hset : (s.sessions.set j c)[j]? = some c := by simp [hid]
      show Standing well (s.sessions.set j c)[j]? (s.calls j) _
      rw [hset, hsearches, if_pos rfl]
      rcases hwaits with hgone | ⟨working, rfl⟩
      · exact .gone hgone
      · rcases hfree with hgone | ⟨hcalls, hnone⟩
        · exact .gone hgone
        · rw [hcalls, hnone]
          exact .searching working
    · have hset : (s.sessions.set id c)[j]? = s.sessions[j]? := by simp [Ne.symm hj]
      show Standing well (s.sessions.set id c)[j]? (s.calls j) _
      rw [hset, hsearches, if_neg hj]
      exact hothers j hj

/-- Nothing but the session changes, as far as anybody waits for it. -/
lemma Sound.stand (h : Sound uuids s) (hW : Unanswered W s)
    (hothers : ∀ j, j ≠ id → Stands well uuids W s j) (hid : id < s.sessions.length)
    (htrue : Truthful c)
    (hfree : c.connected = false ∨
      s.calls id = [] ∧ W.filterMap (searchOf s.requesters uuids id) = [])
    (hstand : c.connected = false ∨ Standing well (some c) [] [])
    {storage : AsyncStorage Callback} (hhonest : storage.Honest)
    (hworld : storage.backend.world = s.storage.backend.world)
    (htokens : tokens storage.backend = tokens s.storage.backend) :
    Holds well { s with sessions := s.sessions.set id c, storage := storage } := by
  have hupdate := h.update hothers hid htrue hhonest hworld [] (by simp [htokens])
    (fun _ _ => rfl) (by
      rcases hstand with hgone | hstand
      · exact .gone hgone
      · rcases hfree with hgone | ⟨hcalls, hsearches⟩
        · exact .gone hgone
        · rw [hcalls, hsearches]
          exact hstand)
  exact ⟨uuids, W, hupdate.1, hW, hupdate.2⟩

/-- A session has run a handler. -/
lemma Sound.proceed (h : Sound uuids s) (hW : Unanswered W s)
    (hothers : ∀ j, j ≠ id → Stands well uuids W s j) (hid : id < s.sessions.length)
    {result : CSAuthenticated × Option BackendCall} (hproper : Proper well result)
    (hfree : result.1.connected = false ∨
      s.calls id = [] ∧ W.filterMap (searchOf s.requesters uuids id) = [])
    {ready : List ℕ} (hproc : s.proceed id ready result = some s')
    (honce : ∀ k, s'.mesh.answers k ≤ 1) : Holds well s' := by
  obtain ⟨c, call⟩ := result
  obtain ⟨houtcome, htrue⟩ := hproper
  have hcalled {handler : SessionHandler} {storage : AsyncStorage Callback}
      (hcalled : Called s.storage storage (.session id handler) (Awaits well c handler)) :
      Holds well { s with sessions := s.sessions.set id c, storage := storage } := by
    obtain ⟨hsound, hstands⟩ := h.called hothers hid htrue hfree hcalled
    exact ⟨uuids, W, hsound, hW, hstands⟩
  cases call with
  | none =>
    cases hproc
    exact h.stand hW hothers hid htrue hfree (houtcome.stand (.inl rfl)) h.honest rfl rfl
  | some call =>
    cases call with
    | beginPurgeLocals =>
      cases hproc
      refine h.stand hW hothers hid htrue hfree (houtcome.stand (.inr rfl)) (h.honest.mapBackend _)
        ?_ ?_
      · rw [AsyncStorage.beginPurgeLocals, AsyncStorage.backend_mapBackend,
          VFSBackend.beginPurgeLocals]
        split_ifs <;> rfl
      · rw [AsyncStorage.beginPurgeLocals, AsyncStorage.backend_mapBackend,
          VFSBackend.beginPurgeLocals]
        split_ifs <;> rfl
    | meshGetAsset uuid =>
      have hcall := houtcome.call nofun
      exact h.meshGetAsset hW hothers hid htrue hfree
        (hcall.imp_right fun hcall => ⟨hcall.1, hcall.2.1⟩) hproc honce
    | getAsset uuid dontCache =>
      cases hproc
      have hcall := houtcome.call nofun
      refine hcalled (called_getAsset h.honest uuid dontCache _ (fun k' => ?_) ?_)
      · exact hcall.imp_right fun ⟨working, suits, _⟩ => ⟨working, suits, fun _ => nofun⟩
      · intro asset success error hasset
        refine hcall.imp_right fun ⟨working, suits, _⟩ => ⟨working, fun a ha => ?_, fun _ => nofun⟩
        exact (hasset a ha).trans suits
    | storeAsset asset =>
      cases hproc
      have hcall := houtcome.call nofun
      refine hcalled (called_storeAsset h.honest asset _ (fun k' => ?_) fun success error => ?_)
      · exact hcall.imp_right fun ⟨working, _⟩ => ⟨working, trivial, fun _ => nofun⟩
      · exact hcall.imp_right fun ⟨working, _⟩ => ⟨working, trivial, fun _ => nofun⟩
    | purgeAsset uuid =>
      cases hproc
      have hcall := houtcome.call nofun
      have hasked (k' : CacheCallback Callback) :
          Awaits well c .storagePurge (.asked (.purge uuid k')) :=
        hcall.imp_right fun ⟨working, _, safe⟩ =>
          ⟨working, trivial, fun hwell => absurd rfl (safe hwell uuid)⟩
      rcases called_purgeAsset h.honest uuid (.session id .storagePurge) hasked with hc | hsame
      · exact hcalled hc
      · rw [hsame]
        refine h.stand hW hothers hid htrue hfree ?_ h.honest rfl rfl
        -- the cache drops the request
        exact hcall.imp_right fun ⟨working, _, safe⟩ =>
          .lost (fun hwell => safe hwell uuid rfl) working.socket
    | getStatus =>
      cases hproc
      have hcall := houtcome.call nofun
      refine hcalled (called_enqueue h.honest (k := .direct _) rfl ?_)
      exact hcall.imp_right fun ⟨working, _⟩ => ⟨working, trivial, fun _ => nofun⟩
    | getStoredAssetIDsWithPrefix head =>
      cases hproc
      have hcall := houtcome.call nofun
      refine hcalled (called_enqueue h.honest (k := .direct _) rfl ?_)
      exact hcall.imp_right fun ⟨working, _⟩ => ⟨working, trivial, fun _ => nofun⟩

/-! ### Steps -/

/-- A new session. -/
lemma Holds.accept (h : Holds well s) (isMeshConnection : Bool) :
    Holds well { s with sessions := s.sessions ++ [{ isMeshConnection := isMeshConnection }] } := by
  obtain ⟨uuids, W, hsound, hW, hstands⟩ := h
  refine ⟨uuids, W, ⟨hsound.world, hsound.honest, hsound.mesh, hsound.requesters, fun c hc => ?_⟩,
    hW,
    fun j => ?_⟩
  · obtain hc | hc := List.mem_append.mp hc
    · exact hsound.truthful c hc
    · rw [List.mem_singleton.mp hc]
      exact nofun
  · have hj := hstands j
    rw [Stands] at hj ⊢
    rcases Nat.lt_trichotomy j s.sessions.length with hlt | rfl | hgt
    · rwa [List.getElem?_append_left hlt]
    · rw [List.getElem?_eq_none (Nat.le_refl _)] at hj
      obtain ⟨hcalls, hsearches⟩ := hj.of_none
      rw [List.getElem?_concat_length]
      show Standing well _ (s.calls _) (W.filterMap (searchOf s.requesters uuids _))
      rw [hcalls, hsearches]
      exact .reading rfl rfl
    · rw [List.getElem?_eq_none (Nat.le_of_lt hgt)] at hj
      rw [List.getElem?_eq_none (by simpa using Nat.succ_le_of_lt hgt)]
      exact hj

/-- The storage and the store of the pull replication alone change, with the tokens of all sessions
kept. -/
lemma Holds.storage (h : Holds well s) {storage : AsyncStorage Callback}
    {replicating : Option StoreCall} (hhonest : storage.Honest)
    (hworld : storage.backend.world.Intact)
    (htokens : ∀ j, ((tokens storage.backend).filterMap (callOf j)).Perm (s.calls j)) :
    Holds well { s with storage := storage, replicating := replicating } := by
  obtain ⟨uuids, W, hsound, hW, hstands⟩ := h
  exact ⟨uuids, W, ⟨hworld, hhonest, hsound.mesh, hsound.requesters, hsound.truthful⟩, hW,
    fun j => (hstands j).perm (htokens j) (.refl _)⟩

lemma Holds.socket (h : Holds well s) {op : SocketOp} {bytes : Option ByteString}
    (hsafe : well → op = .readHeader → ∀ header, bytes = some header →
      (⟨header, none⟩ : ClientRequestMsg).getType = some .purge →
      Validator.isValidUUID (⟨header, none⟩ : ClientRequestMsg).getUUID = false)
    (hstep : s.onSocket id op bytes = some s') (honce : ∀ k, s'.mesh.answers k ≤ 1) :
    Holds well s' := by
  obtain ⟨uuids, W, hsound, hW, hstands⟩ := h
  obtain ⟨c, hc, hop, hcase⟩ := exists_proceed_of_onSocket hstep
  have hlen := (List.getElem?_eq_some_iff.mp hc).1
  have htrue := hsound.truthful c (List.mem_of_getElem? hc)
  obtain ⟨-, hstep⟩ | ⟨data, rfl, hsize, hstep⟩ := hcase
  · exact hsound.proceed hW (fun j _ => hstands j) hlen (proper_onSocketError htrue op) (.inl rfl)
      hstep honce
  · have hid := hstands id
    rw [Stands, hc] at hid
    obtain ⟨hproper, hfree⟩ := proper_onSocket hid htrue s.storage.assetExists hop hsize
      fun hwell hread => hsafe hwell hread data rfl
    exact hsound.proceed hW (fun j _ => hstands j) hlen hproper hfree hstep honce

lemma Holds.handler (h : Holds well s) {i : ℕ} {ready : List ℕ}
    (hstep : s.onHandler i ready = some s') (honce : ∀ k, s'.mesh.answers k ≤ 1) :
    Holds well s' := by
  obtain ⟨uuids, W, hsound, hW, hstands⟩ := h
  unfold onHandler at hstep
  split at hstep
  · cases hstep
  · next storage call hrun =>
    obtain ⟨hperm, hworld, hhonest⟩ := storage_runHandler hsound.honest hrun
    have hsound' : Sound uuids { s with storage := storage } :=
      ⟨hworld ▸ hsound.world, hhonest, hsound.mesh, hsound.requesters, hsound.truthful⟩
    have hkept {j : ℕ} (hnone : (call.map fun p => ((p.1, .answered p.2) : Token)).toList.filterMap
        (callOf j) = []) : Stands well uuids W { s with storage := storage } j := by
      refine (hstands j).perm ?_ (.refl _)
      have hj := hperm.filterMap (callOf j)
      rw [List.filterMap_append, hnone] at hj
      exact hj.symm
    split at hstep
    · next id handler completion =>
      have hothers {j : ℕ} (hj : j ≠ id) : Stands well uuids W { s with storage := storage } j :=
        hkept (by simp [callOf, Ne.symm hj])
      have hcalls : (s.calls id).Perm ((handler, .answered completion) ::
          AssetServer.calls { s with storage := storage } id) := by
        have hid := hperm.filterMap (callOf id)
        simpa [calls, callOf] using hid
      obtain ⟨c, hc, hcase⟩ := (hstands id).of_call (hcalls.mem_iff.mpr List.mem_cons_self)
      have hlen := (List.getElem?_eq_some_iff.mp hc).1
      have htrue := hsound.truthful c (List.mem_of_getElem? hc)
      simp only [hc] at hstep
      cases hreply : handler.reply completion with
      | none =>
        rw [hreply] at hstep
        cases hstep
        refine ⟨uuids, W, hsound', hW, fun j => ?_⟩
        by_cases hj : j = id
        · subst hj
          rcases hcase with hgone | ⟨-, -, -, fits, -⟩
          · rw [Stands, hc]
            exact .gone hgone
          · simpa [hreply] using reply_of_fits fits
        · exact hothers hj
      | some reply =>
        rw [hreply] at hstep
        rcases hcase with hgone | ⟨working, honly, hnone, fits, -⟩
        · have hgone := gone_onReply hgone reply
          exact hsound'.proceed hW (fun j => hothers) hlen
            ⟨.gone hgone.1, fun p hp => htrue p (hgone.2 ▸ hp)⟩ (.inl hgone.1) hstep honce
        · rw [honly] at hcalls
          exact hsound'.proceed hW (fun j => hothers) hlen
            (proper_onReply working htrue fits hreply)
            (.inr ⟨(List.cons.inj (List.singleton_perm.mp hcalls).symm).2, hnone⟩) hstep honce
    · next hcall =>
      cases hstep
      refine ⟨uuids, W, hsound', hW, fun j => hkept ?_⟩
      rcases call with _ | ⟨_ | _, completion⟩
      · rfl
      · exact absurd rfl (hcall _ _ _)
      · rfl

section Work

variable {o : Option CSAuthenticated} {T : List (SessionHandler × Work)} {U : List ByteString}
  {k : Callback} {work work' : Work}

/-- The call of a session, or of nobody it waits for. -/
lemma callOf_cases (j : ℕ) (k : Callback) :
    (∃ handler, ∀ work, callOf j (k, work) = some (handler, work)) ∨
      ∀ work, callOf j (k, work) = none := by
  cases k with
  | replication => exact .inr fun _ => rfl
  | session id handler =>
    by_cases hid : id = j
    · exact .inl ⟨handler, fun work => by simp [callOf, hid]⟩
    · exact .inr fun work => by simp [callOf, hid]

lemma Standing.answer {j : ℕ} (h : Standing well o ((callOf j (k, work)).toList ++ T) U)
    (hfits : ∀ request handler, Fits request handler work → Fits request handler work') :
    Standing well o (T ++ (callOf j (k, work')).toList) U := by
  rcases callOf_cases j k with ⟨handler, hcall⟩ | hcall
  · rw [hcall] at h ⊢
    exact h.replace fun request => hfits request handler
  · rw [hcall] at h ⊢
    simpa using h

lemma Standing.forget {j : ℕ} (h : Standing well o ((callOf j (k, work)).toList ++ T) U)
    (hill : ∀ request handler, Fits request handler work → (well → handler ≠ .storagePurge) →
      ¬ well) : Standing well o T U := by
  rcases callOf_cases j k with ⟨handler, hcall⟩ | hcall
  · rw [hcall] at h
    exact h.drop fun request => hill request handler
  · rwa [hcall] at h

end Work

/-- The worker is through with a request. Only purges and failed listings leave the caller
waiting. -/
lemma Holds.process (h : Holds well s) {calls : List Call}
    (hsafe : well → ∀ head k, s.storage.backend.current = some (.getStoredAssetIds head k) →
      calls = [])
    (hstep : s.workerStep (s.storage.backend.process calls) = some s') : Holds well s' := by
  obtain ⟨b, hproc, rfl⟩ := Option.map_eq_some_iff.mp hstep
  obtain ⟨uuids, W, hsound, hW, hstands⟩ := h
  obtain ⟨req, hs, w, hcur, hans, hw, rfl⟩ := VFSBackend.process_spec hsound.world hproc
  obtain ⟨rest, hbefore, hafter⟩ := tokens_processed hcur w hs
  have hdone (j : ℕ) : Standing well s.sessions[j]?
      (rest.filterMap (callOf j) ++ (hs.filterMap handlerToken).filterMap (callOf j))
      (W.filterMap (searchOf s.requesters uuids j)) := by
    have hj := hstands j
    rw [Stands, AssetServer.calls, hbefore, List.filterMap_append] at hj
    have hone (k : Callback) (work : Work) :
        [((k, work) : Token)].filterMap (callOf j) = (callOf j (k, work)).toList := by
      cases hcall : callOf j (k, work) <;> simp [hcall]
    have hasked {k : CacheCallback Callback} (hreq : req.callback = some k) :
        (requestToken req).toList.filterMap (callOf j) =
          (callOf j (k.callBack, .asked req)).toList := by
      rw [requestToken, hreq]
      exact hone _ _
    have hanswer {k : CacheCallback Callback} {completion : Completion}
        (hreq : req.callback = some k)
        (hhs : hs.filterMap handlerToken = [(k.callBack, .answered completion)])
        (hfits : ∀ request handler, Fits request handler (.asked req) →
          Fits request handler (.answered completion)) : Standing well s.sessions[j]?
          (rest.filterMap (callOf j) ++ (hs.filterMap handlerToken).filterMap (callOf j))
          (W.filterMap (searchOf s.requesters uuids j)) := by
      rw [hasked hreq] at hj
      rw [hhs, hone]
      exact hj.answer hfits
    have hforget {k : CacheCallback Callback} (hreq : req.callback = some k)
        (hhs : hs.filterMap handlerToken = [])
        (hill : ∀ request handler, Fits request handler (.asked req) →
          (well → handler ≠ .storagePurge) → ¬ well) : Standing well s.sessions[j]?
          (rest.filterMap (callOf j) ++ (hs.filterMap handlerToken).filterMap (callOf j))
          (W.filterMap (searchOf s.requesters uuids j)) := by
      rw [hasked hreq] at hj
      rw [hhs, List.filterMap_nil, List.append_nil]
      exact hj.forget hill
    cases hans with
    | got r error same =>
      refine hanswer rfl rfl fun request handler hfits => ?_
      cases handler with
      | storageGet => exact fun a ha => (same a ha).trans hfits
      | _ => exact absurd hfits id
    | stored | writeFailed | status | ids =>
      refine hanswer rfl rfl fun request handler hfits => ?_
      cases handler <;> trivial
    | purge =>
      refine hforget rfl rfl fun request handler hfits hne hwell => ?_
      cases handler with
      | storagePurge => exact hne hwell rfl
      | _ => exact hfits
    | listed | deleted | listingFailed | deletionFailed =>
      -- nobody is waiting
      refine hj.perm (.of_eq ?_) (.refl _)
      exact List.append_nil _
    | idsFailed why =>
      refine hforget rfl rfl fun _ _ _ _ hwell => ?_
      rw [hsafe hwell _ _ hcur] at hproc
      obtain ⟨w', hw'⟩ := VFSBackend.process_ids_spec hsound.world hcur hproc
      have hposted := congrArg (fun b => b.posted.getLast?) hw'
      simp at hposted
  refine ⟨uuids, W, ⟨?_, hsound.honest.mapBackend _, hsound.mesh, hsound.requesters,
    hsound.truthful⟩, hW, fun j => ?_⟩
  · show (s.storage.mapBackend _).backend.world.Intact
    rw [AsyncStorage.backend_mapBackend]
    exact hw
  · show Standing well _ ((tokens (s.storage.mapBackend _).backend).filterMap _) _
    rw [AsyncStorage.backend_mapBackend, hafter, List.filterMap_append]
    exact hdone j

/-- All clients are gone after a restart. -/
lemma holds_restart {w : World} (hw : w.disk.Intact) (hsessions : ∀ c ∈ s.sessions, Truthful c)
    (hstep : s.restart w = some s') : Holds well s' := by
  obtain ⟨index, -, rfl⟩ := Option.map_eq_some_iff.mp hstep
  have hworld : (VFSDatabase.restarted w).Intact := ⟨VFSDatabase.openTables_restarted w, hw⟩
  refine ⟨[], [], ⟨?_, ?_, MeshStorageBackend.faithful_new, rfl, fun c hc => ?_⟩,
    ⟨List.nodup_nil, fun k => by simp⟩, fun j => ?_⟩
  · cases s.storage <;> exact hworld
  · cases s.storage with
    | disk b => trivial
    | cached c => exact AssetCache.honest_new _ _
  · obtain ⟨c', hc', rfl⟩ := List.mem_map.mp hc
    exact hsessions c' hc'
  · have hnone : (s.sessions.map fun c => { c with connected := false, socket := [] })[j]? =
        s.sessions[j]?.map fun c => { c with connected := false, socket := [] } :=
      List.getElem?_map
    rw [Stands]
    show Standing well (s.sessions.map _)[j]? _ []
    rw [hnone]
    cases s.sessions[j]? with
    | some c => exact .gone rfl
    | none =>
      cases s.storage <;> exact .unborn

/-- The process stops in the middle of a request. -/
lemma Holds.crash (h : Holds well s) {calls : List Call} (hstep : s.crash calls = some s') :
    Holds well s' := by
  obtain ⟨uuids, W, hsound, -, -⟩ := h
  obtain ⟨req, e, w, -, hloop, hstep⟩ := exists_restart_of_crash hstep
  have hstart : ({ s.storage.backend.world with calls := calls } : World).disk =
        s.storage.backend.world.disk ∧
      OpenTables { s.storage.backend.world with calls := calls } :=
    ⟨rfl, hsound.world.openTables.coherent, hsound.world.openTables.hasTable⟩
  have hdisk := (VFSBackend.workLoop_spec hsound.world req).of_error hstart hloop
  exact holds_restart hdisk hsound.truthful hstep

/-- What each step has to meet: no header asks for a purge of an asset, the calls of a listing of
identifiers have the script `[]`, with which every one of them succeeds, and the mesh is
sheltered. -/
def keeps (s : AssetServer) : Event → Bool
  | .socket _ .readHeader (some header) =>
    (⟨header, none⟩ : ClientRequestMsg).getType ≠ some .purge ||
      !Validator.isValidUUID (⟨header, none⟩ : ClientRequestMsg).getUUID
  | .process calls =>
    match s.storage.backend.current with
    | some (.getStoredAssetIds _ _) => calls.isEmpty
    | _                             => true
  | .mesh e => s.mesh.shelters e
  | _ => true

/-- The pull replication has no session's token. -/
lemma Holds.advance (h : Holds well s) (c : StoreCall) : Holds well (s.advance c) := by
  obtain ⟨uuids, W, hsound, hW, hstands⟩ := id h
  have hfresh {f : VFSBackend (CacheCallback Callback) → VFSBackend (CacheCallback Callback)}
      {replicating : Option StoreCall}
      (hworld : (f s.storage.backend).world = s.storage.backend.world)
      (htokens : ∀ j, ((tokens (f s.storage.backend)).filterMap (callOf j)).Perm (s.calls j)) :
      Holds well { s with storage := s.storage.mapBackend f, replicating := replicating } := by
    refine h.storage (hsound.honest.mapBackend _) ?_ fun j => ?_
    · rw [AsyncStorage.backend_mapBackend, hworld]
      exact hsound.world
    · rw [AsyncStorage.backend_mapBackend]
      exact htokens j
  have hadds {b : VFSBackend (CacheCallback Callback)}
      (hb : Adds s.storage.backend b .replication fun _ => True) (j : ℕ) :
      ((tokens b).filterMap (callOf j)).Perm (s.calls j) := by
    obtain ⟨work, htokens, -⟩ := hb
    have hj := htokens.filterMap (callOf j)
    rw [List.filterMap_append] at hj
    exact hj.trans (.of_eq (List.append_nil _))
  unfold AssetServer.advance
  cases c.stage with
  | checking => exact h.storage hsound.honest hsound.world fun _ => .refl _
  | claiming => exact hfresh rfl fun _ => .refl _
  | refusing => exact hfresh rfl (hadds (adds_post trivial))
  | pushing => exact hfresh rfl (hadds (adds_enqueue (k := .direct .replication) rfl trivial))

/-- No request is lost, none is answered twice. -/
lemma Holds.step (h : Holds well s) {e : Event} (hkeeps : well → s.keeps e = true)
    (hstep : s.step e = some s') (honce : ∀ k, s'.mesh.answers k ≤ 1) : Holds well s' := by
  cases e with
  | accept isMeshConnection =>
    obtain rfl := Machine.eq_of_ite hstep
    exact h.accept isMeshConnection
  | socket id op bytes =>
    obtain ⟨-, hstep⟩ := Option.ite_none_right_eq_some.mp hstep
    refine h.socket (fun hwell hop header hbytes htype => ?_) hstep honce
    have hkeeps := hkeeps hwell
    simpa [keeps, hop, hbytes, htype] using hkeeps
  | handler i ready =>
    obtain ⟨-, hstep⟩ := Option.ite_none_right_eq_some.mp hstep
    exact h.handler hstep honce
  | mesh e =>
    cases e with
    | start => cases hstep
    | _ =>
      refine h.meshStep ?_ hstep honce
      exact fun _ _ _ => by simp
  | replicate asset =>
    obtain rfl := Machine.eq_of_ite hstep
    obtain ⟨uuids, W, hsound, hW, hstands⟩ := h
    exact Holds.storage ⟨uuids, W, hsound, hW, hstands⟩ hsound.honest hsound.world fun _ => .refl _
  | advance =>
    obtain ⟨c, -, rfl⟩ := Option.map_eq_some_iff.mp hstep
    exact h.advance c
  | purgeTimer =>
    obtain rfl := Machine.eq_of_ite hstep
    obtain ⟨uuids, W, hsound, hW, hstands⟩ := h
    refine Holds.storage ⟨uuids, W, hsound, hW, hstands⟩ (hsound.honest.mapBackend _) ?_ fun j => ?_
    · rw [AsyncStorage.backend_mapBackend]
      exact hsound.world
    · rw [AsyncStorage.backend_mapBackend]
      exact (tokens_onPurgeTimer _).filterMap _
  | dequeue =>
    obtain ⟨b, hb, rfl⟩ := Option.map_eq_some_iff.mp hstep
    obtain ⟨uuids, W, hsound, hW, hstands⟩ := h
    refine Holds.storage ⟨uuids, W, hsound, hW, hstands⟩ (hsound.honest.mapBackend _) ?_ fun j => ?_
    · rw [AsyncStorage.backend_mapBackend, world_dequeue hb]
      exact hsound.world
    · rw [AsyncStorage.backend_mapBackend, tokens_dequeue hb]
      exact .refl _
  | process calls =>
    refine h.process (fun hwell head k hcur => ?_) hstep
    have hkeeps := hkeeps hwell
    simpa [keeps, hcur] using hkeeps
  | crash calls => exact h.crash hstep
  | restart =>
    obtain ⟨uuids, W, hsound, -, -⟩ := h
    exact holds_restart hsound.world.disk hsound.truthful hstep

lemma holds_new (cacheSize : Option UInt64) : Holds well (new cacheSize) := by
  have hworld : ({} : World).Intact :=
    ⟨VFSDatabase.openTables_restarted {}, Disk.Intact.empty⟩
  refine ⟨[], [], ⟨?_, ?_, ?_, ?_, ?_⟩, ⟨List.nodup_nil, fun k => ?_⟩, fun j => ?_⟩
  · cases cacheSize <;> exact hworld
  · cases cacheSize with
    | none => trivial
    | some n => exact AssetCache.honest_new _ _
  · cases cacheSize <;> exact MeshStorageBackend.faithful_new
  · cases cacheSize <;> rfl
  · cases cacheSize <;> exact nofun
  · cases cacheSize <;> simp [new]
  · cases cacheSize <;> exact .unborn

/-- A get is never answered with another asset. -/
theorem get_answered_with_asset {cacheSize : Option UInt64} {es : List Event} {t : AssetServer}
    (honce : Machine.Guarded step
      (fun s e => ∀ s', s.step e = some s' → ∀ k, s'.mesh.answers k ≤ 1) (new cacheSize) es)
    (hrun : Machine.run step (new cacheSize) es = some t) {c : CSAuthenticated}
    (hc : c ∈ t.sessions) {request : ClientRequestMsg} {response : ServerResponseMsg}
    (hsent : (request, response) ∈ c.responses)
    (hget : request.getType = some .get ∨ request.getType = some .getDontCache)
    (hfound : response.header.head? = some ResponseCode.found.code) :
    response.getUUID = request.getUUID ∧ (response.data.getD []).take 32 = request.getUUID := by
  have hholds : Holds False t := by
    refine Machine.run_invariant (fun s e s' h honce hstep => ?_) (holds_new cacheSize) honce hrun
    exact h.step nofun hstep (honce s' hstep)
  obtain ⟨uuids, W, hsound, -, -⟩ := hholds
  exact hsound.truthful c hc _ hsent hget hfound

def zeroId : ByteString := List.replicate 32 48

/-- A client stores an asset. -/
def storedOne : List Event :=
  let asset : Asset := ⟨zeroId ++ [0, 0]⟩
  [.accept false,
    .socket 0 .readHeader (some (ClientRequestMsg.ofAsset asset).header),
    .socket 0 .readData (some asset.data), .dequeue, .process [], .handler 0 [],
    .socket 0 (.writeHeader (.make .ok zeroId)) (some [])]

/-- The client gets the asset from the cache, then one that another server has, and this one again,
from the cache, which the mesh has informed. -/
def gotThree : List Event :=
  let response (uuid : ByteString) := ServerResponseMsg.make .found uuid (some (uuid ++ [0, 0]))
  let get (uuid : ByteString) (ready : List ℕ) : List Event :=
    [.socket 0 .readHeader (some (ClientRequestMsg.ofId .get uuid).header), .handler 0 ready]
  let sent (uuid : ByteString) : List Event :=
    [.socket 0 (.writeHeader (response uuid)) (some []),
      .socket 0 (.writeData (response uuid)) (some [])]
  storedOne ++ (MeshStorageBackend.connecting 0).map .mesh ++ get zeroId [] ++ sent zeroId ++
    get (sampleUUID 1) [0] ++
    [.server 0 (.queryRead (some (.response (sampleUUID 1) true))), .resume, .tell, .resume,
      .resume, .server 0 (.written true), .server 0 (.read (response (sampleUUID 1)).header),
      .server 0 (.read (response (sampleUUID 1)).data), .resume, .resume, .resume].map .mesh ++
    sent (sampleUUID 1) ++ get (sampleUUID 1) []

/-- No search has called back twice after the step. -/
def answersOnce (s : AssetServer) (e : Event) : Bool :=
  (s.step e).all fun s' => decide (s'.mesh.outputs.filterMap MeshOutput.search).Nodup

lemma answers_le_one_of_answersOnce {e : Event} (h : s.answersOnce e = true) :
    ∀ s', s.step e = some s' → ∀ k, s'.mesh.answers k ≤ 1 := by
  intro s' hstep k
  rw [answersOnce, hstep, Option.all_some, decide_eq_true_eq] at h
  exact List.nodup_iff_count_le_one.mp h k

theorem stored_then_got_with_asset :
    ∃ t c, Machine.run step (new (some 1000)) gotThree = some t ∧ c ∈ t.sessions ∧
      c.responses.map (·.1.getUUID) = [zeroId, zeroId, sampleUUID 1, sampleUUID 1] ∧
      ∀ p ∈ c.responses.drop 1, p.2.header.head? = some ResponseCode.found.code ∧
        p.2.getUUID = p.1.getUUID ∧ (p.2.data.getD []).take 32 = p.1.getUUID := by
  obtain ⟨s, t, hs, honce, hrun, hend⟩ := Machine.exists_run step (some (new (some 1000)))
    answersOnce gotThree (fun t => t.sessions.any fun c =>
      decide (c.responses.map (·.1.getUUID) = [zeroId, zeroId, sampleUUID 1, sampleUUID 1]) &&
        (c.responses.drop 1).all fun p => decide (p.1.getType = some .get) &&
          decide (p.2.header.head? = some ResponseCode.found.code)) (by decide +kernel)
  obtain rfl := Option.some.inj hs
  simp only [List.any_eq_true, Bool.and_eq_true, decide_eq_true_eq, List.all_eq_true] at hend
  obtain ⟨c, hc, huuids, hgets⟩ := hend
  refine ⟨t, c, hrun, hc, huuids, fun p hp => ⟨(hgets p hp).2, ?_⟩⟩
  exact get_answered_with_asset (honce.mono fun _ _ h => answers_le_one_of_answersOnce h) hrun hc
    (List.mem_of_mem_drop hp) (.inl (hgets p hp).1) (hgets p hp).2

/-! ### One response for each request -/

lemma mesh_meshStep {e : MeshStorageBackend.Event} (h : s.meshStep e = some s') :
    s.mesh.step e = some s'.mesh := by
  obtain ⟨mesh, hmesh, rfl⟩ := Option.map_eq_some_iff.mp h
  rw [(foldl_deliver_frame _ _).1]
  exact hmesh

/-- A session does nothing to the mesh but start searches. -/
lemma mesh_proceed {ready : List ℕ} {result : CSAuthenticated × Option BackendCall}
    (h : s.proceed id ready result = some s') :
    s'.mesh = s.mesh ∨ ∃ uuid, s.mesh.step (.start uuid false ready) = some s'.mesh := by
  obtain ⟨c, call⟩ := result
  rcases call with _ | (_ | _ | _ | _ | _ | _ | uuid)
  all_goals try exact .inl (Option.some.inj h ▸ rfl)
  have hstart : ({ s with sessions := s.sessions.set id c, requesters := s.requesters ++ [id] } :
    AssetServer).meshStep (.start uuid false ready) = some s' := h
  have hmesh := mesh_meshStep hstart
  exact .inr ⟨uuid, hmesh⟩

lemma mesh_advance (s : AssetServer) (c : StoreCall) : (s.advance c).mesh = s.mesh := by
  unfold advance
  cases c.stage <;> rfl

/-- What a step of the server does to the mesh. -/
lemma mesh_step {e : Event} (h : s.step e = some s') :
    s'.mesh = s.mesh ∨ s'.mesh = {} ∨
      ∃ e', s.mesh.step e' = some s'.mesh ∧
      (e = .mesh e' ∨ ∃ uuid ready, e' = .start uuid false ready) := by
  have hproceed {id : ℕ} {ready : List ℕ} {s₁ : AssetServer}
      {result : CSAuthenticated × Option BackendCall} (hmesh : s₁.mesh = s.mesh)
      (hproc : s₁.proceed id ready result = some s') :
      s'.mesh = s.mesh ∨ s'.mesh = {} ∨ ∃ e', s.mesh.step e' = some s'.mesh ∧
        (e = .mesh e' ∨ ∃ uuid ready, e' = .start uuid false ready) := by
    rw [← hmesh]
    refine (mesh_proceed hproc).imp_right fun ⟨uuid, hstart⟩ =>
      .inr ⟨_, hstart, .inr ⟨uuid, ready, rfl⟩⟩
  have hrestart {w : World} (hw : s.restart w = some s') : s'.mesh = {} := by
    obtain ⟨index, -, rfl⟩ := Option.map_eq_some_iff.mp hw
    rfl
  cases e with
  | accept | purgeTimer =>
    obtain rfl := Machine.eq_of_ite h
    exact .inl rfl
  | socket id op bytes =>
    obtain ⟨-, h⟩ := Option.ite_none_right_eq_some.mp h
    obtain ⟨c, -, -, ⟨-, h⟩ | ⟨data, -, -, h⟩⟩ := exists_proceed_of_onSocket h
    · exact hproceed rfl h
    · exact hproceed rfl h
  | handler i ready =>
    obtain ⟨-, h⟩ := Option.ite_none_right_eq_some.mp h
    obtain ⟨storage, call, -, rfl | ⟨id, handler, completion, c, reply, -, -, -, h⟩⟩ :=
      exists_runHandler_of_onHandler h
    · exact .inl rfl
    · have hmesh : ({ s with storage := storage } : AssetServer).mesh = s.mesh := rfl
      exact hproceed hmesh h
  | mesh e =>
    cases e with
    | start => cases h
    | _ => exact .inr (.inr ⟨_, mesh_meshStep h, .inl rfl⟩)
  | replicate asset =>
    obtain rfl := Machine.eq_of_ite h
    exact .inl rfl
  | advance =>
    obtain ⟨c, -, rfl⟩ := Option.map_eq_some_iff.mp h
    exact .inl (mesh_advance s c)
  | dequeue | process calls =>
    obtain ⟨b, -, rfl⟩ := Option.map_eq_some_iff.mp h
    exact .inl rfl
  | crash calls =>
    obtain ⟨req, e, w, -, -, hw⟩ := exists_restart_of_crash h
    exact .inr (.inl (hrestart hw))
  | restart => exact .inr (.inl (hrestart h))

/-- What holds between two steps when nothing is lost. -/
def Healthy (s : AssetServer) : Prop := Holds True s ∧ s.mesh.Invariant ∧ s.mesh.Attended

lemma healthy_new (cacheSize : Option UInt64) : Healthy (new cacheSize) := by
  have hmesh : (new cacheSize).mesh = {} := by cases cacheSize <;> rfl
  rw [Healthy, hmesh]
  exact ⟨holds_new cacheSize, MeshStorageBackend.invariant_new, MeshStorageBackend.attended_new⟩

lemma Healthy.step (h : Healthy s) {e : Event} (hkeeps : s.keeps e = true)
    (hstep : s.step e = some s') : Healthy s' := by
  obtain ⟨hholds, hinv, hatt⟩ := h
  have hmesh : s'.mesh.Invariant ∧ s'.mesh.Attended := by
    rcases mesh_step hstep with heq | heq | ⟨e', hmesh, he'⟩
    · rw [heq]
      exact ⟨hinv, hatt⟩
    · rw [heq]
      exact ⟨MeshStorageBackend.invariant_new, MeshStorageBackend.attended_new⟩
    · have hsheltered : s.mesh.Sheltered e' := by
        rcases he' with rfl | ⟨uuid, ready, rfl⟩
        · exact hkeeps
        · rfl
      exact ⟨hinv.step hsheltered hmesh, hatt.step hinv hsheltered hmesh⟩
  exact ⟨hholds.step (fun _ => hkeeps) hstep hmesh.1.answers_le_one, hmesh⟩

/-- The search is among the active ones, and an event for it is pending. -/
def SearchPending (s : AssetServer) (k : ℕ) : Prop :=
  s.mesh.searches[k]?.any (·.isActive) = true ∧ s.mesh.Pending k

/-- Nothing is pending for the session but the read of the next header. -/
structure Quiescent (s : AssetServer) (id : ℕ) : Prop where
  calls : s.calls id = []
  searches : ∀ k, s.requesters[k]? = some id → ¬ s.SearchPending k
  socket : ∀ c, s.sessions[id]? = some c → ∀ op ∈ c.socket, op = .readHeader

/-- A session without pending searches waits for none. -/
lemma Healthy.no_search (h : Healthy s) (hW : Unanswered W s)
    (huuids : s.requesters.length = uuids.length)
    (hlen : s.mesh.searches.length = uuids.length)
    (hnone : ∀ k, s.requesters[k]? = some id → ¬ s.SearchPending k) :
    W.filterMap (searchOf s.requesters uuids id) = [] := by
  rw [List.filterMap_eq_nil_iff]
  intro k hk
  rw [searchOf, ite_eq_right_iff]
  intro hreq
  obtain ⟨hlt, hzero⟩ := (hW.2 k).mp hk
  obtain ⟨search, hsearch⟩ : ∃ search, s.mesh.searches[k]? = some search :=
    ⟨_, List.getElem?_eq_getElem (by omega)⟩
  cases h.2.1.sound.phase k search hsearch with
  | searching active _ timer =>
    exact absurd ⟨by simp [hsearch, active], .inl ⟨search, hsearch, timer⟩⟩ (hnone k hreq)
  | transferring m active _ _ _ one =>
    have hdue : k ∈ s.mesh.due m := List.count_pos_iff.mp (by omega)
    exact absurd ⟨by simp [hsearch, active], h.2.2.pending hdue⟩ (hnone k hreq)
  | done _ answers => omega

/-- In a run in which nothing is lost, a session that waits for nothing but the next header has
answered all requests. -/
theorem each_request_answered_once {cacheSize : Option UInt64} {es : List Event} {t : AssetServer}
    (hguard : Machine.Guarded step (fun s e => s.keeps e = true) (new cacheSize) es)
    (hrun : Machine.run step (new cacheSize) es = some t) {id : ℕ} {c : CSAuthenticated}
    (hc : t.sessions[id]? = some c) (hquiet : t.Quiescent id) :
    c.connected = false ∨ c.responses.length = c.headers.length ∧ c.socket = [.readHeader] := by
  have hhealthy : Healthy t :=
    Machine.run_invariant (fun s e s' h hkeeps hstep => h.step hkeeps hstep)
    (healthy_new cacheSize) hguard hrun
  obtain ⟨uuids, W, hsound, hW, hstands⟩ := hhealthy.1
  have hlen : t.mesh.searches.length = uuids.length := by
    simpa using congrArg List.length hsound.mesh.searches
  have hid := hstands id
  rw [Stands, hc, hquiet.calls,
    hhealthy.no_search hW hsound.requesters hlen hquiet.searches] at hid
  have hsocket := hquiet.socket c hc
  cases hid with
  | gone h => exact .inl h
  | reading socket even => exact .inr ⟨even.symm, socket⟩
  | body socket | writingHeader socket | writingData socket => simp [socket] at hsocket
  | lost ill => exact absurd trivial ill

/-- A session of a server without active searches. -/
lemma quiescent_of_all {id : ℕ} (hc : s.sessions[id]? = some c) (hcalls : s.calls id = [])
    (hsearches : s.mesh.searches.all (!·.isActive) = true)
    (hsocket : c.socket.all (· = .readHeader) = true) : s.Quiescent id := by
  refine ⟨hcalls, fun k _ hpending => ?_, fun c' hc' op hop => ?_⟩
  · obtain ⟨search, hsearch, hactive⟩ := (Option.any_eq_true ..).mp hpending.1
    have hinactive := List.all_eq_true.mp hsearches search (List.mem_of_getElem? hsearch)
    simp [hactive] at hinactive
  · rw [hc] at hc'
    cases hc'
    exact of_decide_eq_true (List.all_eq_true.mp hsocket op hop)

theorem stored_answered_once :
    ∃ t c, Machine.run step (new none) storedOne = some t ∧ t.sessions[0]? = some c ∧
      c.headers.length = 1 ∧ c.responses.length = c.headers.length ∧ c.socket = [.readHeader] := by
  have hguard : Machine.Guarded step (fun s e => s.keeps e = true) (new none)
      storedOne := by
    repeat' refine .cons rfl rfl ?_
    trivial
  obtain ⟨t, c, hrun, hc, hquiet, hconn, hheaders⟩ :
      ∃ t c, Machine.run step (new none) storedOne = some t ∧
        t.sessions[0]? = some c ∧ t.Quiescent 0 ∧ c.connected = true ∧ c.headers.length = 1 :=
    ⟨_, _, rfl, rfl, quiescent_of_all rfl rfl rfl rfl, rfl, rfl⟩
  refine ⟨t, c, hrun, hc, hheaders,
    (each_request_answered_once hguard hrun hc hquiet).resolve_left ?_⟩
  simp [hconn]

/-- A client purges an asset. -/
def purged : List Event :=
  [.accept false, .socket 0 .readHeader (some (ClientRequestMsg.ofId .purge zeroId).header)]

/-- A client asks for identifiers, and the check for the index file fails. -/
def listingFails : List Event :=
  [.accept false,
    .socket 0 .readHeader (some (ClientRequestMsg.ofId .storedAssetIdsGet zeroId).header),
    .dequeue, .process [{ outcome := .err }], .handler 0 []]

/-- A search answers in time, and its timeout, queued before, answers again. -/
def answeredTwice : List Event :=
  [.accept false] ++ (MeshStorageBackend.connecting 0).map .mesh ++
    [.socket 0 .readHeader (some (ClientRequestMsg.ofId .get zeroId).header), .handler 0 [0]] ++
    [.expire 0, .server 0 (.queryRead (some (.response zeroId false))), .resume, .tell, .resume,
      .resume, .timeout 0].map .mesh ++
    List.replicate 2 (.socket 0 (.writeHeader (.make .notFound zeroId)) (some []))

/-- The run ends with nothing to be done for the first session, which is connected, has sent one
request and has been sent `n` responses. -/
def EndsWith (cacheSize : Option UInt64) (es : List Event) (n : ℕ) : Prop :=
  ∃ t c, Machine.run step (new cacheSize) es = some t ∧ t.sessions[0]? = some c ∧
    t.Quiescent 0 ∧ c.connected = true ∧ c.headers.length = 1 ∧ c.responses.length = n

/-- With a cache and without, sessions are left with no response, or have sent two. -/
theorem requests_not_answered_once :
    EndsWith none (purged ++ [.dequeue, .process []]) 0 ∧ EndsWith (some 1000) purged 0 ∧
    EndsWith none listingFails 0 ∧ EndsWith (some 1000) listingFails 0 ∧
    EndsWith none answeredTwice 2 := by
  refine ⟨?_, ?_, ?_, ?_, ?_⟩
  all_goals exact ⟨_, _, rfl, rfl, quiescent_of_all rfl rfl rfl rfl, rfl, rfl, rfl⟩

end AssetServer

end Whip
