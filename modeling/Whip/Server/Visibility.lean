import Whip.Server.Responses

/-!
# Stored assets are visible

A client that has been told that its asset is stored can rely on it: whoever asks for the asset
afterwards, over any connection, is given it byte for byte, whoever tests for it is told that it is
there, and nobody can store another asset under its identifier. This holds with a cache and without
one, under all interleavings of the clients, the worker and the mesh, and through restarts of the
process, as long as no assets are replicated from a master, no call of the worker fails, no local
assets are purged and no peer holds another asset with this identifier.
-/

namespace Whip

open CSAuthenticated VFSBackend

namespace AssetServer

/-! ### The server -/

/-- What a peer holds under the identifier of `v` is `v`. -/
def Agree (v : ValidAsset) (asset : Asset) : Prop := asset.getUUID = v.getUUID → asset = v.toAsset

/-- The search has not called back. -/
def Waiting (s : AssetServer) (k : ℕ) : Prop := s.mesh.answers k = 0

/-- The disk holds `m`, with `v` if there are late responses; what the sessions have sent is right,
and so is what they wait for. The searches that have yet to call back are `waiting`. -/
structure Visible (v : ValidAsset) (late : ℕ → ℕ → Prop) (m : AssetId → Option ValidAsset)
    (waiting : ℕ → Prop) (s : AssetServer) : Prop where
  provides : Provides (Agree v) m s.storage
  stored : ∀ id i, late id i → m v.id = some v
  kept : ∀ id c, s.sessions[id]? = some c → Kept v (late id) m c
  backed : ∀ id handler work, (.session id handler, work) ∈ tokens s.storage.backend →
    ∀ c, s.sessions[id]? = some c → c.connected = true →
      Backed v (late id c.responses.length) m c.currentRequest handler work
  sought : ∀ k id, waiting k → s.requesters[k]? = some id →
    ∀ c, s.sessions[id]? = some c → c.connected = true →
      Sought v (late id c.responses.length) c.currentRequest

/-- The session waits for nothing. -/
structure Free (waiting : ℕ → Prop) (s : AssetServer) (id : ℕ) : Prop where
  calls : ∀ handler work, (.session id handler, work) ∉ tokens s.storage.backend
  searches : ∀ k, waiting k → s.requesters[k]? ≠ some id

/-- A session that waits for a search owes a response, and waits for nothing else. -/
def Apart (waiting : ℕ → Prop) (s : AssetServer) : Prop :=
  ∀ k id c, waiting k → s.requesters[k]? = some id → s.sessions[id]? = some c →
    c.connected = true → c.responses.length < c.headers.length ∧
      Free (fun k' => waiting k' ∧ k' ≠ k) s id

section Server

variable {v : ValidAsset} {late : ℕ → ℕ → Prop} {m m' : AssetId → Option ValidAsset}
  {waiting waiting' : ℕ → Prop} {s s' : AssetServer} {id : ℕ} {c : CSAuthenticated}

lemma mem_calls {handler : SessionHandler} {work : Work} :
    (handler, work) ∈ s.calls id ↔ (.session id handler, work) ∈ tokens s.storage.backend := by
  rw [calls, List.mem_filterMap]
  constructor
  · rintro ⟨⟨k, work'⟩, hmem, hcall⟩
    cases k with
    | replication => cases hcall
    | session id' handler' =>
      rw [callOf, Option.ite_none_right_eq_some] at hcall
      obtain ⟨rfl, hcall⟩ := hcall
      cases hcall
      exact hmem
  · exact fun hmem => ⟨_, hmem, by simp [callOf]⟩

/-- Searches that wait, among those that are known by their identifiers. -/
lemma mem_searches {uuids : List ByteString} {W : List ℕ} (hsound : Sound uuids s)
    (hW : Unanswered W s) {k : ℕ} (hk : s.Waiting k) (hreq : s.requesters[k]? = some id) :
    k ∈ W ∧ ∃ uuid, searchOf s.requesters uuids id k = some uuid := by
  have hlt := (List.getElem?_eq_some_iff.mp hreq).1
  refine ⟨(hW.2 k).mpr ⟨hlt, hk⟩, ?_⟩
  rw [searchOf, if_pos hreq]
  exact ⟨_, List.getElem?_eq_getElem (hsound.requesters ▸ hlt)⟩

lemma free_of_nil {uuids : List ByteString} {W : List ℕ} (hsound : Sound uuids s)
    (hW : Unanswered W s) (hcalls : s.calls id = [])
    (hsearches : W.filterMap (searchOf s.requesters uuids id) = []) : Free s.Waiting s id := by
  refine ⟨fun handler work hmem => ?_, fun k hk hreq => ?_⟩
  · rw [← mem_calls, hcalls] at hmem
    cases hmem
  · obtain ⟨hmem, uuid, huuid⟩ := mem_searches hsound hW hk hreq
    rw [List.filterMap_eq_nil_iff] at hsearches
    rw [hsearches k hmem] at huuid
    cases huuid

lemma Holds.free_of_none {well : Prop} (h : Holds well s) (hnone : s.sessions[id]? = none) :
    Free s.Waiting s id := by
  obtain ⟨uuids, W, hsound, hW, hstands⟩ := h
  have hid := hstands id
  rw [Stands, hnone] at hid
  exact free_of_nil hsound hW hid.of_none.1 hid.of_none.2

lemma Holds.apart {well : Prop} (h : Holds well s) : Apart s.Waiting s := by
  intro k id c hk hreq hc hconn
  obtain ⟨uuids, W, hsound, hW, hstands⟩ := h
  obtain ⟨hmem, uuid, huuid⟩ := mem_searches hsound hW hk hreq
  have hid := hstands id
  rw [Stands, hc] at hid
  have hperm := perm_filterMap_erase (searchOf s.requesters uuids id) hmem
  rw [huuid] at hperm
  obtain ⟨c', hc', hcase⟩ := hid.of_search fun hnil => by simp [hnil] at hperm
  cases hc'
  obtain ⟨working, hcalls, honly⟩ := hcase.resolve_left (by simp [hconn])
  refine ⟨working.owes ▸ Nat.lt_succ_self _, fun handler work hmem => ?_, fun k' hk' hreq' => ?_⟩
  · rw [← mem_calls, hcalls] at hmem
    cases hmem
  · -- two searches would be two entries
    obtain ⟨hmem', uuid', huuid'⟩ := mem_searches hsound hW hk'.1 hreq'
    have hrest : (W.erase k).filterMap (searchOf s.requesters uuids id) = [] := by
      rw [honly] at hperm
      exact (List.cons.inj (List.singleton_perm.mp hperm)).2.symm
    rw [List.filterMap_eq_nil_iff] at hrest
    rw [hrest k' ((List.mem_erase_of_ne hk'.2).mpr hmem')] at huuid'
    cases huuid'

lemma Visible.weaken (h : Visible v late m waiting s) (hw : ∀ k, waiting' k → waiting k) :
    Visible v late m waiting' s :=
  { h with sought := fun k id hk => h.sought k id (hw k hk) }

lemma Free.weaken (h : Free waiting s id) (hw : ∀ k, waiting' k → waiting k) :
    Free waiting' s id :=
  ⟨h.calls, fun k hk => h.searches k (hw k hk)⟩

lemma Apart.weaken (h : Apart waiting s) (hw : ∀ k, waiting' k → waiting k) : Apart waiting' s :=
  fun k id c hk hreq hc hconn =>
    ⟨(h k id c (hw k hk) hreq hc hconn).1, (h k id c (hw k hk) hreq hc hconn).2.weaken
      fun k' hk' => ⟨hw k' hk'.1, hk'.2⟩⟩

/-! ### Calls from the mesh -/

lemma connected_sendResponse (c : CSAuthenticated) (r : ServerResponseMsg) :
    (c.sendResponse r).connected = c.connected := by
  cases hconn : c.connected with
  | false => rw [sendResponse_of_gone hconn, hconn]
  | true => rw [sendResponse_of_connected hconn, hconn]

lemma connected_intrameshGet (c : CSAuthenticated) (uuid : ByteString) (asset : Option Asset) :
    (c.handleIntrameshGetResponse uuid asset).connected = c.connected := by
  cases asset <;> exact connected_sendResponse c _

/-- The mesh calls the requester of the search `k` back. -/
lemma Visible.answer (h : Visible v late m waiting s) (hapart : Apart waiting s) {k : ℕ}
    (hk : waiting k) (hreq : s.requesters[k]? = some id) (uuid : ByteString)
    (asset : Option Asset) :
    let t := { s with sessions := s.sessions.modify id (·.handleIntrameshGetResponse uuid asset) }
    Visible v late m (fun k' => waiting k' ∧ k' ≠ k) t ∧
      Apart (fun k' => waiting k' ∧ k' ≠ k) t := by
  intro t
  have hother {j : ℕ} (hj : j ≠ id) : t.sessions[j]? = s.sessions[j]? := by
    simp [t, Ne.symm hj]
  -- the session is free, if it is still there
  have hself {c' : CSAuthenticated} (hc' : t.sessions[id]? = some c') :
      ∃ c, s.sessions[id]? = some c ∧ c' = c.handleIntrameshGetResponse uuid asset ∧
        (c'.connected = true → Free (fun k' => waiting k' ∧ k' ≠ k) s id) := by
    simp only [t, List.getElem?_modify, if_true] at hc'
    obtain ⟨c, hc, rfl⟩ := Option.map_eq_some_iff.mp hc'
    refine ⟨c, hc, rfl, fun hconn => ?_⟩
    rw [connected_intrameshGet] at hconn
    exact (hapart k id c hk hreq hc hconn).2
  refine ⟨⟨h.provides, h.stored, fun j c' hc' => ?_, fun j handler work hmem c' hc' hconn => ?_,
    fun k' j hk' hreq' c' hc' hconn => ?_⟩, fun k' j c' hk' hreq' hc' hconn => ?_⟩
  · by_cases hj : j = id
    · subst hj
      obtain ⟨c, hc, rfl, -⟩ := hself hc'
      exact (h.kept j c hc).intrameshGet (fun hconn => (hapart k j c hk hreq hc hconn).1)
        (fun hconn => h.sought k j hk hreq c hc hconn) uuid asset
    · exact h.kept j c' (hother hj ▸ hc')
  · by_cases hj : j = id
    · subst hj
      obtain ⟨c, -, -, hfree⟩ := hself hc'
      exact absurd hmem ((hfree hconn).calls handler work)
    · exact h.backed j handler work hmem c' (hother hj ▸ hc') hconn
  · by_cases hj : j = id
    · subst hj
      obtain ⟨c, -, -, hfree⟩ := hself hc'
      exact absurd hreq' ((hfree hconn).searches k' hk')
    · exact h.sought k' j hk'.1 hreq' c' (hother hj ▸ hc') hconn
  · by_cases hj : j = id
    · subst hj
      obtain ⟨c, -, -, hfree⟩ := hself hc'
      exact absurd hreq' ((hfree hconn).searches k' hk')
    · obtain ⟨howes, hfree⟩ := hapart k' j c' hk'.1 hreq' (hother hj ▸ hc') hconn
      exact ⟨howes, hfree.calls, fun k'' hk'' => hfree.searches k'' ⟨hk''.1.1, hk''.2⟩⟩

lemma Visible.deliver (h : Visible v late m waiting s) (hapart : Apart waiting s) {o : MeshOutput}
    (ho : ∀ k, o.search = some k → waiting k)
    (hinform : ∀ asset, o = .inform asset → Agree v asset) :
    Visible v late m (fun k => waiting k ∧ o.search ≠ some k) (s.deliver o) ∧
      Apart (fun k => waiting k ∧ o.search ≠ some k) (s.deliver o) := by
  have hsame : Visible v late m (fun k => waiting k ∧ o.search ≠ some k) s ∧
      Apart (fun k => waiting k ∧ o.search ≠ some k) s :=
    ⟨h.weaken fun _ hk => hk.1, hapart.weaken fun _ hk => hk.1⟩
  cases o with
  | inform asset =>
    obtain ⟨hvisible, hapart⟩ := hsame
    have hback : (s.storage.inform asset).backend = s.storage.backend :=
      AsyncStorage.backend_inform _ _
    refine ⟨{ hvisible with
      provides := h.provides.inform (hinform asset rfl)
      backed := fun j handler work hmem => h.backed j handler work (hback ▸ hmem) }, ?_⟩
    intro k j c hk hreq hc hconn
    obtain ⟨howes, hfree⟩ := hapart k j c hk hreq hc hconn
    refine ⟨howes, fun handler work hmem => hfree.calls handler work ?_, hfree.searches⟩
    exact hback ▸ hmem
  | answer k answer =>
    cases answer with
    | presence found => exact hsame
    | asset asset =>
      cases hreq : s.requesters[k]? with
      | none =>
        simp only [AssetServer.deliver, hreq]
        exact hsame
      | some id =>
        cases hsearch : s.mesh.searches[k]? with
        | none =>
          simp only [AssetServer.deliver, hreq, hsearch]
          exact hsame
        | some search =>
          simp only [AssetServer.deliver, hreq, hsearch]
          obtain ⟨hvisible, hapart⟩ := h.answer hapart (ho k rfl) hreq search.uuid asset
          have hne (k' : ℕ) (hk' : waiting k' ∧ MeshOutput.search (.answer k (.asset asset)) ≠
              some k') : waiting k' ∧ k' ≠ k :=
            ⟨hk'.1, fun heq => hk'.2 (by rw [heq]; rfl)⟩
          exact ⟨hvisible.weaken hne, hapart.weaken hne⟩

/-- All the calls of a step of the mesh. -/
lemma Visible.foldl_deliver (os : List MeshOutput) (h : Visible v late m waiting s)
    (hapart : Apart waiting s) (hnodup : (os.filterMap MeshOutput.search).Nodup)
    (hos : ∀ k ∈ os.filterMap MeshOutput.search, waiting k)
    (hinform : ∀ asset, .inform asset ∈ os → Agree v asset) :
    Visible v late m (fun k => waiting k ∧ k ∉ os.filterMap MeshOutput.search)
      (os.foldl AssetServer.deliver s) := by
  induction os generalizing s waiting with
  | nil => exact h.weaken fun k hk => hk.1
  | cons o os ih =>
    have hcons : (o :: os).filterMap MeshOutput.search =
        o.search.toList ++ os.filterMap MeshOutput.search := by
      cases hsearch : o.search <;> simp [hsearch]
    rw [hcons] at hnodup hos ⊢
    obtain ⟨-, hnodup, hdisjoint⟩ := List.nodup_append'.mp hnodup
    obtain ⟨hvisible, hapart⟩ := h.deliver hapart
      (fun k hk => hos k (List.mem_append_left _ (by simp [hk])))
      fun asset hasset => hinform asset (hasset ▸ List.mem_cons_self)
    refine (ih hvisible hapart hnodup (fun k hk => ⟨?_, fun hsearch => ?_⟩)
      fun asset hasset => hinform asset (List.mem_cons_of_mem _ hasset)).weaken fun k hk => ?_
    · exact hos k (List.mem_append_right _ hk)
    · exact hdisjoint (by rw [hsearch]; exact List.mem_singleton_self k) hk
    · rw [List.mem_append, not_or, Option.mem_toList] at hk
      exact ⟨⟨hk.1, hk.2.1⟩, hk.2.2⟩

/-- The mesh calls nobody back twice, and is told of no other asset with the identifier of `v`. -/
structure Agreeing (v : ValidAsset) (mesh : MeshStorageBackend) : Prop where
  once : ∀ k, mesh.answers k ≤ 1
  agree : ∀ asset, .inform asset ∈ mesh.outputs → Agree v asset

/-- A step of the mesh. -/
lemma Visible.meshStep (h : Visible v late m s.Waiting s) (hapart : Apart s.Waiting s)
    {e : MeshStorageBackend.Event} (hstep : s.meshStep e = some s')
    (hpast : ∀ mesh, s.mesh.step e = some mesh → s.mesh.outputs <+: mesh.outputs)
    (hagreeing : Agreeing v s'.mesh) : Visible v late m s'.Waiting s' := by
  obtain ⟨mesh, hmesh, rfl⟩ := Option.map_eq_some_iff.mp hstep
  have hagreeing : Agreeing v mesh := by rwa [(foldl_deliver_frame _ _).1] at hagreeing
  obtain ⟨os, hos⟩ := hpast mesh hmesh
  rw [← hos, List.drop_left]
  have hanswers (k : ℕ) : mesh.answers k =
      s.mesh.answers k + (os.filterMap MeshOutput.search).count k := by
    rw [MeshStorageBackend.answers, ← hos, List.filterMap_append, List.count_append]
    rfl
  have hvisible : Visible v late m s.Waiting { s with mesh := mesh } := { h with }
  have hapart : Apart s.Waiting { s with mesh := mesh } := fun k id c hk hreq hc hconn =>
    (hapart k id c hk hreq hc hconn).imp_right fun hfree => ⟨hfree.calls, hfree.searches⟩
  refine (hvisible.foldl_deliver os hapart ?_ (fun k hk => ?_) fun asset hasset => ?_).weaken
    fun k hk => ?_
  · refine List.nodup_iff_count_le_one.mpr fun k => ?_
    have := hagreeing.once k
    have := hanswers k
    omega
  · have hpos := List.count_pos_iff.mpr hk
    have := hagreeing.once k
    have := hanswers k
    show s.mesh.answers k = 0
    omega
  · exact hagreeing.agree asset (hos ▸ List.mem_append_right _ hasset)
  · rw [Waiting, (foldl_deliver_frame _ _).1] at hk
    have hk : mesh.answers k = 0 := hk
    rw [hanswers, Nat.add_eq_zero_iff, List.count_eq_zero] at hk
    exact hk

/-! ### Calls of a session -/

/-- A session is changed that waits for nothing, or is gone; the new tokens are its own. -/
lemma Visible.update (h : Visible v late m waiting s) (hid : id < s.sessions.length)
    (hkept : Kept v (late id) m c) (hfree : c.connected = true → Free waiting s id)
    {storage : AsyncStorage Callback} (hprovides : Provides (Agree v) m storage)
    (htokens : ∀ j handler work, (.session j handler, work) ∈ tokens storage.backend →
      (.session j handler, work) ∈ tokens s.storage.backend ∨ j = id ∧
        (c.connected = true →
          Backed v (late id c.responses.length) m c.currentRequest handler work)) :
    Visible v late m waiting { s with sessions := s.sessions.set id c, storage := storage } := by
  have hself : (s.sessions.set id c)[id]? = some c := by simp [hid]
  have hother {j : ℕ} (hj : j ≠ id) : (s.sessions.set id c)[j]? = s.sessions[j]? := by
    simp [Ne.symm hj]
  refine ⟨hprovides, h.stored, fun j c' hc' => ?_, fun j handler work hmem c' hc' hconn => ?_,
    fun k j hk hreq c' hc' hconn => ?_⟩
  · by_cases hj : j = id
    · subst hj
      cases hself.symm.trans hc'
      exact hkept
    · exact h.kept j c' (hother hj ▸ hc')
  · by_cases hj : j = id
    · subst hj
      cases hself.symm.trans hc'
      rcases htokens j handler work hmem with hold | ⟨-, hnew⟩
      · exact absurd hold ((hfree hconn).calls handler work)
      · exact hnew hconn
    · have hold := (htokens j handler work hmem).resolve_right fun hnew => hj hnew.1
      exact h.backed j handler work hold c' (hother hj ▸ hc') hconn
  · by_cases hj : j = id
    · subst hj
      cases hself.symm.trans hc'
      exact absurd hreq ((hfree hconn).searches k hk)
    · exact h.sought k j hk hreq c' (hother hj ▸ hc') hconn

/-- A session makes a call on the storage. -/
lemma Visible.called (h : Visible v late m waiting s) (hid : id < s.sessions.length)
    (hkept : Kept v (late id) m c) (hfree : c.connected = true → Free waiting s id)
    {storage : AsyncStorage Callback} (hprovides : Provides (Agree v) m storage)
    {handler : SessionHandler} {P : Work → Prop}
    (hcalled : Called s.storage storage (.session id handler) P)
    (hP : c.connected = true → ∀ work, P work →
      Backed v (late id c.responses.length) m c.currentRequest handler work) :
    Visible v late m waiting { s with sessions := s.sessions.set id c, storage := storage } := by
  obtain ⟨work, hperm, hwork⟩ := hcalled.adds
  refine h.update hid hkept hfree hprovides fun j handler' work' hmem => ?_
  rw [hperm.mem_iff, List.mem_append, List.mem_singleton] at hmem
  refine hmem.imp_right fun hnew => ?_
  cases hnew
  exact ⟨rfl, fun hconn => hP hconn work hwork⟩

/-- Work on a get that has just been called. -/
lemma Gets.backed {late : Prop} (hstored : late → m v.id = some v) {request : ClientRequestMsg}
    (hget : IsGet request) {u : AssetId} (hu : u.text = request.getUUID) {work : Work}
    (h : Gets (Agree v) m u work) : Backed v late m request .storageGet work := by
  cases h with
  | asked k => exact ⟨hget, hu⟩
  | missed error hnone =>
    refine ⟨hget, fun hlate huuid => ?_⟩
    have hv : u = v.id := AssetId.ext (hu.trans huuid)
    rw [hv, hstored hlate] at hnone
    cases hnone
  | hit error hid hknown =>
    refine ⟨hget, fun hlate huuid => ⟨?_, rfl⟩⟩
    have huuid := hid.trans (hu.trans huuid)
    rcases hknown with hagree | ⟨a, ha, rfl⟩
    · rw [hagree huuid]
    · have hv : a.id = v.id := AssetId.ext huuid
      rw [hv, hstored hlate] at ha
      rw [Option.some.inj ha]

/-- Work on a store that has just been called. -/
lemma Puts.backed {late : Prop} (hstored : late → m v.id = some v) {request : ClientRequestMsg}
    (hput : request.getType = some .put) {a : ValidAsset} (hdata : request.data = some a.data)
    {work : Work} (h : Puts m a work) : Backed v late m request .storageWrite work := by
  cases h with
  | asked k hnone =>
    refine ⟨hput, hdata, fun hlate huuid => ?_⟩
    have hv : a.id = v.id := AssetId.ext huuid
    rw [hv, hstored hlate] at hnone
    cases hnone
  | refused error => exact ⟨hput, nofun⟩

lemma getElem?_concat_eq_some {α : Type} {l : List α} {a b : α} {k : ℕ}
    (h : (l ++ [a])[k]? = some b) : l[k]? = some b ∨ k = l.length ∧ a = b := by
  rcases Nat.lt_trichotomy k l.length with hlt | rfl | hgt
  · rw [List.getElem?_append_left hlt] at h
    exact .inl h
  · rw [List.getElem?_concat_length] at h
    exact .inr ⟨rfl, Option.some.inj h⟩
  · rw [List.getElem?_eq_none (by simpa using Nat.succ_le_of_lt hgt)] at h
    cases h

/-- A session starts a search. -/
lemma Visible.meshGetAsset (h : Visible v late m s.Waiting s) (hapart : Apart s.Waiting s)
    (hid : id < s.sessions.length) (hkept : Kept v (late id) m c)
    (hfree : c.connected = true → Free s.Waiting s id)
    (howes : c.connected = true → c.responses.length < c.headers.length)
    (hsought : c.connected = true → Sought v (late id c.responses.length) c.currentRequest)
    {uuids : List ByteString} (hfaithful : s.mesh.Faithful uuids s.mesh.outputs)
    {uuid : ByteString} {ready : List ℕ}
    (hstep : { s with
        sessions := s.sessions.set id c, requesters := s.requesters ++ [id] }.meshStep
      (.start uuid false ready) = some s')
    (hagreeing : Agreeing v s'.mesh) : Visible v late m s'.Waiting s' := by
  have hset := h.update hid hkept hfree h.provides fun _ _ _ hmem => .inl hmem
  have hself : (s.sessions.set id c)[id]? = some c := by simp [hid]
  have hother {j : ℕ} (hj : j ≠ id) : (s.sessions.set id c)[j]? = s.sessions[j]? := by
    simp [Ne.symm hj]
  refine Visible.meshStep ?_ ?_ hstep (fun mesh hmesh => ?_) hagreeing
  · refine { hset with sought := fun k j hk hreq c' hc' hconn => ?_ }
    rcases getElem?_concat_eq_some hreq with hold | ⟨-, rfl⟩
    · exact hset.sought k j hk hold c' hc' hconn
    · cases hself.symm.trans hc'
      exact hsought hconn
  · intro k j c' hk hreq hc' hconn
    by_cases hj : j = id
    · subst hj
      cases hself.symm.trans hc'
      obtain ⟨hcalls, hsearches⟩ := hfree hconn
      refine ⟨howes hconn, hcalls, fun k' hk' hreq' => ?_⟩
      obtain ⟨hk, -⟩ := (getElem?_concat_eq_some hreq).resolve_left (hsearches k hk)
      obtain ⟨hk'', -⟩ := (getElem?_concat_eq_some hreq').resolve_left (hsearches k' hk'.1)
      exact hk'.2 (hk''.trans hk.symm)
    · have hold {k : ℕ} (hreq : (s.requesters ++ [id])[k]? = some j) :
          s.requesters[k]? = some j :=
        (getElem?_concat_eq_some hreq).resolve_right fun hnew => hj hnew.2.symm
      obtain ⟨howes, hcalls, hsearches⟩ := hapart k j c' hk (hold hreq) (hother hj ▸ hc') hconn
      exact ⟨howes, hcalls, fun k' hk' hreq' => hsearches k' hk' (hold hreq')⟩
  · obtain rfl := Machine.eq_of_ite hmesh
    exact (hfaithful.startSearch uuid ready).past

/-- A session has run a handler. -/
lemma Visible.proceed (h : Visible v late m s.Waiting s) (hapart : Apart s.Waiting s)
    (hid : id < s.sessions.length) {result : CSAuthenticated × Option BackendCall}
    (hdelivers : Delivers v (late id) m result)
    (hfree : result.1.connected = true → Free s.Waiting s id) (houtcome : Outcome False result)
    {uuids : List ByteString} (hfaithful : s.mesh.Faithful uuids s.mesh.outputs)
    {ready : List ℕ} (hproc : s.proceed id ready result = some s')
    (hagreeing : Agreeing v s'.mesh) : Visible v late m s'.Waiting s' := by
  obtain ⟨c, call⟩ := result
  obtain ⟨hkept, hsane, hserves⟩ := hdelivers
  have hstored : late id c.responses.length → m v.id = some v := h.stored _ _
  cases call with
  | none =>
    cases hproc
    exact h.update hid hkept hfree h.provides fun _ _ _ hmem => .inl hmem
  | some call =>
    have hsane := hsane call rfl
    have hserves := fun hconn => hserves hconn call rfl
    cases call with
    | beginPurgeLocals => exact hsane.elim
    | meshGetAsset uuid =>
      refine h.meshGetAsset hapart hid hkept hfree (fun hconn => ?_) hserves hfaithful hproc
        hagreeing
      have hconn : c.connected = true := hconn
      obtain ⟨working, -⟩ := (houtcome.call nofun).resolve_left (by simp [hconn])
      exact working.owes ▸ Nat.lt_succ_self _
    | getAsset uuid dontCache =>
      cases hproc
      obtain ⟨hprovides, hcalled⟩ := h.provides.getAsset ⟨uuid, hsane⟩ dontCache
        (.session id .storageGet)
      exact h.called hid hkept hfree hprovides hcalled fun hconn work hwork =>
        hwork.backed hstored (hserves hconn).1 (hserves hconn).2
    | storeAsset asset =>
      cases hproc
      obtain ⟨a, rfl⟩ := hsane
      obtain ⟨hprovides, hcalled⟩ := h.provides.storeAsset a (.session id .storageWrite)
      exact h.called hid hkept hfree hprovides hcalled fun hconn work hwork =>
        hwork.backed hstored (hserves hconn).1 (hserves hconn).2
    | purgeAsset uuid =>
      cases hproc
      have hprovides := h.provides.purgeAsset uuid (.session id .storagePurge)
      rcases called_purgeAsset (P := fun _ => True) h.provides.honest uuid
        (.session id .storagePurge) (fun _ => trivial) with hcalled | hsame
      · exact h.called hid hkept hfree hprovides hcalled fun hconn _ _ => hserves hconn
      · rw [hsame] at hprovides ⊢
        exact h.update hid hkept hfree hprovides fun _ _ _ hmem => .inl hmem
    | getStatus =>
      cases hproc
      refine h.called hid hkept hfree (h.provides.enqueue trivial rfl)
        (called_enqueue h.provides.honest (P := fun _ => True) (k := .direct _) rfl trivial) ?_
      exact fun hconn _ _ => hserves hconn
    | getStoredAssetIDsWithPrefix head =>
      cases hproc
      refine h.called hid hkept hfree (h.provides.enqueue trivial rfl)
        (called_enqueue h.provides.honest (P := fun _ => True) (k := .direct _) rfl trivial) ?_
      exact fun hconn _ _ => hserves hconn

/-! ### Steps -/

/-- A new session. -/
lemma Visible.accept (h : Visible v late m waiting s) (hfree : Free waiting s s.sessions.length)
    (isMeshConnection : Bool) : Visible v late m waiting
      { s with sessions := s.sessions ++ [{ isMeshConnection := isMeshConnection }] } := by
  refine ⟨h.provides, h.stored, fun id c hc => ?_, fun id handler work hmem c hc hconn => ?_,
    fun k id hk hreq c hc hconn => ?_⟩
  · rcases getElem?_concat_eq_some hc with hc | ⟨-, rfl⟩
    · exact h.kept id c hc
    · exact ⟨by simp, Nat.le_refl _, by simp⟩
  · rcases getElem?_concat_eq_some hc with hc | ⟨rfl, -⟩
    · exact h.backed id handler work hmem c hc hconn
    · exact absurd hmem (hfree.calls handler work)
  · rcases getElem?_concat_eq_some hc with hc | ⟨rfl, -⟩
    · exact h.sought k id hk hreq c hc hconn
    · exact absurd hreq (hfree.searches k hk)

/-- The storage alone changes, and the calls of all sessions are as before. -/
lemma Visible.storage (h : Visible v late m waiting s) {storage : AsyncStorage Callback}
    (hprovides : Provides (Agree v) m storage)
    (htokens : ∀ id handler work, (.session id handler, work) ∈ tokens storage.backend →
      (.session id handler, work) ∈ tokens s.storage.backend) :
    Visible v late m waiting { s with storage := storage } :=
  { h with
    provides := hprovides
    backed := fun id handler work hmem => h.backed id handler work (htokens id handler work hmem) }

/-- An operation of a socket completes. -/
lemma Visible.socket (h : Visible v late m s.Waiting s) (hholds : Holds False s) {op : SocketOp}
    {bytes : Option ByteString}
    (hspared : ∀ header, op = .readHeader → bytes = some header →
      (⟨header, none⟩ : ClientRequestMsg).getType ≠ some .maintPurgeLocals)
    (hwhole : ∀ data, op = .readData → bytes = some data → 34 ≤ data.length)
    (hstep : s.onSocket id op bytes = some s') (hagreeing : Agreeing v s'.mesh) :
    Visible v late m s'.Waiting s' := by
  have hapart := hholds.apart
  obtain ⟨uuids, W, hsound, hW, hstands⟩ := hholds
  obtain ⟨c, hc, hop, hcase⟩ := exists_proceed_of_onSocket hstep
  have hlen := (List.getElem?_eq_some_iff.mp hc).1
  have htrue := hsound.truthful c (List.mem_of_getElem? hc)
  have hkept := h.kept id c hc
  obtain ⟨-, hstep⟩ | ⟨data, rfl, hsize, hstep⟩ := hcase
  · exact h.proceed hapart hlen (delivers_onSocketError hkept op) nofun
      (proper_onSocketError htrue op).1 hsound.mesh hstep hagreeing
  · have hid := hstands id
    rw [Stands, hc] at hid
    obtain ⟨hproper, hfree⟩ := proper_onSocket hid htrue s.storage.assetExists hop hsize
      fun hwell => hwell.elim
    refine h.proceed hapart hlen (delivers_onSocket hkept hid hop hsize
      (fun hread => hspared data hread rfl) (fun hread => hwhole data hread rfl)
      fun i hlate => h.provides.assetExists (h.stored id i hlate)) (fun hconn => ?_) hproper.1
      hsound.mesh hstep hagreeing
    obtain ⟨hcalls, hsearches⟩ := hfree.resolve_left (by simp [hconn])
    exact free_of_nil hsound hW hcalls hsearches

/-- A posted handler of the storage runs. -/
lemma Visible.handler (h : Visible v late m s.Waiting s) (hholds : Holds False s) {i : ℕ}
    {ready : List ℕ} (hstep : s.onHandler i ready = some s') (hagreeing : Agreeing v s'.mesh) :
    Visible v late m s'.Waiting s' := by
  have hapart := hholds.apart
  obtain ⟨uuids, W, hsound, hW, hstands⟩ := hholds
  obtain ⟨storage, call, hrun, hcase⟩ := exists_runHandler_of_onHandler hstep
  have hprovides := h.provides.runHandler hrun
  obtain ⟨hperm, hworld, hhonest⟩ := storage_runHandler hsound.honest hrun
  have hsub (t : Token) (ht : t ∈ tokens storage.backend) : t ∈ tokens s.storage.backend :=
    hperm.mem_iff.mpr (List.mem_append_right _ ht)
  have hkept := h.storage hprovides fun id handler work => hsub _
  obtain rfl | ⟨id, handler, completion, c, reply, rfl, hc, hreply, hstep⟩ := hcase
  · exact hkept
  · have hmem : (.session id handler, .answered completion) ∈ tokens s.storage.backend :=
      hperm.mem_iff.mpr List.mem_cons_self
    have hlen := (List.getElem?_eq_some_iff.mp hc).1
    have htrue := hsound.truthful c (List.mem_of_getElem? hc)
    have hid := hstands id
    rw [Stands, hc] at hid
    obtain ⟨c', hc', hcase⟩ := hid.of_call (mem_calls.mpr hmem)
    cases hc'
    have hsound' : Sound uuids { s with storage := storage } :=
      ⟨hworld ▸ hsound.world, hhonest, hsound.mesh, hsound.requesters, hsound.truthful⟩
    have hapart' : Apart s.Waiting { s with storage := storage } :=
      fun k j c hk hreq hc hconn => (hapart k j c hk hreq hc hconn).imp_right fun hfree =>
        ⟨fun handler work hmem => hfree.calls handler work (hsub _ hmem), hfree.searches⟩
    have hdelivers : Delivers v (late id) m (c.onReply reply) := by
      refine delivers_onReply (h.kept id c hc) (fun hconn => ?_)
        (fun hconn => h.backed id handler _ hmem c hc hconn) hreply
      obtain ⟨working, -⟩ := hcase.resolve_left (by simp [hconn])
      exact working.owes ▸ Nat.lt_succ_self _
    rcases hcase with hgone | ⟨working, honly, hnone, fits, -⟩
    · have hgone := (gone_onReply hgone reply).1
      exact Visible.proceed (s := { s with storage := storage }) hkept hapart' hlen hdelivers
        (by simp [hgone]) (.gone hgone) hsound'.mesh hstep hagreeing
    · refine Visible.proceed (s := { s with storage := storage }) hkept hapart' hlen hdelivers
        (fun _ => ?_) (proper_onReply working htrue fits hreply).1 hsound'.mesh hstep hagreeing
      refine free_of_nil hsound' hW ?_ hnone
      have hcalls : (s.calls id).Perm ((handler, .answered completion) ::
          AssetServer.calls { s with storage := storage } id) := by
        simpa [calls, callOf] using hperm.filterMap (callOf id)
      rw [honly] at hcalls
      exact (List.cons.inj (List.singleton_perm.mp hcalls).symm).2

lemma Backed.mono {late : Prop} {request : ClientRequestMsg} {handler : SessionHandler}
    {work : Work} (h : Backed v late m request handler work) (hm : Extends m m') :
    Backed v late m' request handler work := by
  cases handler with
  | storageGet =>
    cases work with
    | asked req => cases req <;> exact h
    | answered completion => cases completion <;> exact h
  | storageWrite =>
    cases work with
    | asked req => cases req <;> exact h
    | answered completion =>
      cases completion with
      | stored success error =>
        refine ⟨h.1, fun hsuccess => ?_⟩
        obtain ⟨a, hdata, ha, hother⟩ := h.2 hsuccess
        exact ⟨a, hdata, hm _ _ ha, hother⟩
      | _ => trivial
  | _ => exact h

/-- The worker is through with a call. -/
lemma Answered.backed {req : AssetRequest (CacheCallback Callback)}
    {hs : List (Handler (CacheCallback Callback))} (hans : Answered m' req hs)
    {k : Callback} {work : Work} (hmem : (k, work) ∈ hs.filterMap handlerToken) :
    requestToken req = some (k, .asked req) ∧ ∀ {late : Prop} {request : ClientRequestMsg}
      {handler : SessionHandler}, (late → m' v.id = some v) →
        Backed v late m request handler (.asked req) → Backed v late m' request handler work := by
  cases hans with
  | got error =>
    cases List.mem_singleton.mp hmem
    refine ⟨rfl, fun {late request handler} hstored h => ?_⟩
    cases handler with
    | storageGet =>
      refine ⟨h.1, fun hlate huuid => ?_⟩
      have hu : _ = v.id := AssetId.ext (h.2.trans huuid)
      rw [hu, hstored hlate]
      exact ⟨rfl, rfl⟩
    | storageWrite => trivial
    | _ => exact h
  | stored ha =>
    cases List.mem_singleton.mp hmem
    refine ⟨rfl, fun {late request handler} hstored h => ?_⟩
    cases handler with
    | storageGet => trivial
    | storageWrite => exact ⟨h.1, fun _ => ⟨_, h.2.1, ha, h.2.2⟩⟩
    | _ => exact h
  | purge => cases hmem
  | status | ids =>
    cases List.mem_singleton.mp hmem
    refine ⟨rfl, fun {late request handler} hstored h => ?_⟩
    cases handler with
    | storageGet | storageWrite => trivial
    | _ => exact h

/-- The worker is through with a request. -/
lemma Visible.process (h : Visible v late m waiting s) {b : Backend}
    (hproc : s.storage.backend.process [] = some b) :
    ∃ m', Extends m m' ∧
      Visible v late m' waiting { s with storage := s.storage.mapBackend fun _ => b } := by
  obtain ⟨m', req, hs, w, hm, hcur, hans, rfl, hstores⟩ := h.provides.stores.process hproc
  obtain ⟨rest, hbefore, hafter⟩ := tokens_processed hcur w hs
  refine ⟨m', hm, h.provides.mapBackend hm hstores, fun id i hlate => hm _ _ (h.stored id i hlate),
    fun id c hc => (h.kept id c hc).mono hm, fun id handler work hmem c hc hconn => ?_, h.sought⟩
  have hmem : (.session id handler, work) ∈ tokens (s.storage.backend.finished w hs) := by
    simpa using hmem
  rw [finished, hafter, List.mem_append] at hmem
  rcases hmem with hmem | hmem
  · refine (h.backed id handler work ?_ c hc hconn).mono hm
    rw [hbefore]
    exact List.mem_append_right _ hmem
  · obtain ⟨htoken, hbacked⟩ := hans.backed hmem
    refine hbacked (fun hlate => hm _ _ (h.stored id _ hlate))
      (h.backed id handler (.asked req) ?_ c hc hconn)
    rw [hbefore, htoken]
    exact List.mem_cons_self

/-- All clients are gone after a restart. -/
lemma Visible.restart (h : Visible v late m waiting s)
    (hstep : s.restart s.storage.backend.world = some s') : Visible v late m waiting' s' := by
  have hprovides := h.provides.restart hstep
  obtain ⟨index, -, rfl⟩ := Option.map_eq_some_iff.mp hstep
  have hgone {id : ℕ} {c : CSAuthenticated}
      (hc : (s.sessions.map fun c => { c with connected := false, socket := [] })[id]? = some c) :
      ∃ c', s.sessions[id]? = some c' ∧ c = { c' with connected := false, socket := [] } := by
    rw [List.getElem?_map] at hc
    obtain ⟨c', hc', rfl⟩ := Option.map_eq_some_iff.mp hc
    exact ⟨c', hc', rfl⟩
  refine ⟨hprovides, h.stored, fun id c hc => ?_, fun id handler work _ c hc hconn => ?_,
    fun k id _ hreq => by cases hreq⟩
  · obtain ⟨c', hc', rfl⟩ := hgone hc
    exact ⟨(h.kept id c' hc').right, (h.kept id c' hc').owed, nofun⟩
  · obtain ⟨c', -, rfl⟩ := hgone hc
    cases hconn

/-- Nothing fails, nobody purges local assets, assets come whole, and there is no pull replication,
whose stores may race with those of the clients. -/
def Event.calm : Event → Bool
  | .socket _ .readHeader (some header) =>
    (⟨header, none⟩ : ClientRequestMsg).getType ≠ some .maintPurgeLocals
  | .socket _ .readData (some data)     => 34 ≤ data.length
  | .process calls                      => calls.isEmpty
  | .replicate _ | .advance | .crash _  => false
  | _                                   => true

/-- The mesh calls nobody back twice, and knows of no other asset with the identifier of `v`. -/
def agreeing (v : ValidAsset) (mesh : MeshStorageBackend) : Bool :=
  decide (mesh.outputs.filterMap MeshOutput.search).Nodup &&
    mesh.outputs.all fun
      | .inform asset => asset.getUUID ≠ v.getUUID || asset = v.toAsset
      | .answer _ _   => true

/-- The step is one on which `v` can be relied. -/
def undisturbed (v : ValidAsset) (s : AssetServer) (e : Event) : Bool :=
  e.calm && (s.step e).all fun s' => agreeing v s'.mesh

lemma agreeing_of_true {mesh : MeshStorageBackend} (h : agreeing v mesh = true) :
    Agreeing v mesh := by
  rw [agreeing, Bool.and_eq_true, decide_eq_true_eq, List.all_eq_true] at h
  refine ⟨fun k => List.nodup_iff_count_le_one.mp h.1 k, fun asset hasset huuid => ?_⟩
  simpa [huuid] using h.2 _ hasset

lemma Visible.step (h : Visible v late m s.Waiting s) (hholds : Holds False s) {e : Event}
    (hcalm : undisturbed v s e = true) (hstep : s.step e = some s') :
    ∃ m', Extends m m' ∧ Visible v late m' s'.Waiting s' := by
  rw [undisturbed, hstep, Bool.and_eq_true] at hcalm
  obtain ⟨hcalm, hagreeing⟩ := hcalm
  have hagreeing : Agreeing v s'.mesh := agreeing_of_true hagreeing
  have hsame (h : Visible v late m s'.Waiting s') :
      ∃ m', Extends m m' ∧ Visible v late m' s'.Waiting s' := ⟨m, fun _ _ h => h, h⟩
  cases e with
  | accept isMeshConnection =>
    obtain rfl := Machine.eq_of_ite hstep
    exact hsame (h.accept (hholds.free_of_none (List.getElem?_eq_none (Nat.le_refl _))) _)
  | socket id op bytes =>
    obtain ⟨-, hstep⟩ := Option.ite_none_right_eq_some.mp hstep
    refine hsame (h.socket hholds (fun header hop hbytes => ?_) (fun data hop hbytes => ?_) hstep
      hagreeing)
    · simpa [Event.calm, hop, hbytes] using hcalm
    · simpa [Event.calm, hop, hbytes] using hcalm
  | handler i ready =>
    obtain ⟨-, hstep⟩ := Option.ite_none_right_eq_some.mp hstep
    exact hsame (h.handler hholds hstep hagreeing)
  | mesh e =>
    cases e with
    | start => cases hstep
    | _ =>
      refine hsame (h.meshStep hholds.apart hstep (fun mesh hmesh => ?_) hagreeing)
      obtain ⟨uuids, W, hsound, -, -⟩ := hholds
      exact (hsound.mesh.step (fun _ _ _ => by simp) hmesh).past
  | replicate asset => cases hcalm
  | advance => cases hcalm
  | purgeTimer =>
    obtain ⟨hpurging, -⟩ := Option.ite_none_right_eq_some.mp hstep
    simp [h.provides.stores.notPurging] at hpurging
  | dequeue =>
    obtain ⟨b, hb, rfl⟩ := Option.map_eq_some_iff.mp hstep
    have hprovides := h.provides.mapBackend (f := fun _ => b) (fun _ _ h => h)
      (h.provides.stores.dequeue hb)
    refine hsame (h.storage hprovides fun id handler work hmem => ?_)
    rwa [AsyncStorage.backend_mapBackend, tokens_dequeue hb] at hmem
  | process calls =>
    obtain rfl : calls = [] := by simpa [Event.calm] using hcalm
    obtain ⟨b, hb, rfl⟩ := Option.map_eq_some_iff.mp hstep
    exact h.process hb
  | crash calls => cases hcalm
  | restart => exact hsame (h.restart hstep)

/-! ### Runs -/

/-- The storage and the sessions are in order, and `v` is visible. -/
def Relied (v : ValidAsset) (late : ℕ → ℕ → Prop) (s : AssetServer) : Prop :=
  Holds False s ∧ ∃ m, Visible v late m s.Waiting s

lemma Relied.step (h : Relied v late s) {e : Event} (hcalm : undisturbed v s e = true)
    (hstep : s.step e = some s') : Relied v late s' := by
  obtain ⟨hholds, m, hvisible⟩ := h
  have hagreeing := hcalm
  rw [undisturbed, hstep, Bool.and_eq_true] at hagreeing
  obtain ⟨m', -, hvisible'⟩ := hvisible.step hholds hcalm hstep
  exact ⟨hholds.step nofun hstep (agreeing_of_true hagreeing.2).once, m', hvisible'⟩

end Server

end AssetServer

end Whip
