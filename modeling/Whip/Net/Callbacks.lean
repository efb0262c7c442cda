import Whip.Net.RemoteAssetService
import Whip.Mesh.MeshServer

/-!
# Callbacks of remote requests

A request that is passed to a `RemoteAssetService` or a `MeshServer` moves between the posted
errors, the queue of waiting requests and the queue of sent ones, and its callback is run while it
is still in front of its queue. Here it is shown under which use of the two classes no callback is
run twice.
-/

namespace Whip

open Pipelined Pipelined.Client

variable {κ : Type}

namespace RemoteAssetService

def Event.isClose : Event κ → Bool
  | .close => true
  | _      => false

/-- Requests are made on an established connection, and `close` is not called from the callback of a
queued request. -/
def Careful (s : RemoteAssetService κ) (e : Event κ) : Prop :=
  (e.request.isSome → s.established = true) ∧ (e.isClose → DropsNothing s.running)

instance (s : RemoteAssetService κ) (e : Event κ) : Decidable (Careful s e) :=
  inferInstanceAs (Decidable (_ ∧ _))

/-- The requests issued so far are accounted for. -/
def Consistent (past : List (Event κ)) (s : RemoteAssetService κ) : Prop :=
  Accounted [] (past.filterMap Event.request) s.toClient

/-! ### Handlers keep the account -/

variable {past : List (PendingTransferRequest κ × RASResponse)}
  {issued : List (PendingTransferRequest κ)} {s s' : RemoteAssetService κ}

lemma accounted_close (h : Accounted past issued s.toClient) (hs : DropsNothing s.running) :
    Accounted past issued s.close.toClient := by
  apply h.close hs
  simp [DropsNothing]

lemma accounted_checkSafeKill (h : Accounted past issued s.toClient) :
    Accounted past issued s.checkSafeKill.toClient := by
  unfold checkSafeKill
  split_ifs
  · exact h
  · exact h

/-- A handler that answers the request in front. -/
lemma accounted_answer (h : Accounted past issued s.toClient) (hidle : s.running = [])
    {response : RASResponse} {rest : List (Frame Own)}
    (hrest : rest = [.dropSent, .other .listen] ∨ rest = [.other .listen, .dropSent])
    (hs : s.answer response rest = some s') : Accounted past issued s'.toClient := by
  obtain ⟨c, hc, rfl⟩ := Option.map_eq_some_iff.mp hs
  apply h.answer hidle hc
  · rcases hrest with rfl | rfl <;> rfl
  · rcases hrest with rfl | rfl <;> rfl
  · rcases hrest with rfl | rfl <;> simp [Tame, DropsNothing, Frame.isQueueing]

lemma accounted_onAfterWriteAssetRequest (h : Accounted past issued s.toClient)
    (hidle : s.running = []) (success : Bool) :
    Accounted past issued (s.onAfterWriteAssetRequest success).toClient := by
  have hwritten : Accounted past issued { s with writing := none }.toClient :=
    h.of_eq rfl rfl rfl rfl rfl
  unfold onAfterWriteAssetRequest
  cases success with
  | false => exact accounted_close hwritten (dropsNothing_of_idle hidle)
  | true =>
    apply accounted_checkSafeKill
    dsimp only
    split_ifs with hconn
    · exact hwritten.next hidle hconn rfl _
    · exact hwritten

lemma accounted_onRead (h : Accounted past issued s.toClient) (hidle : s.running = []) {op : ReadOp}
    {bytes : Option ByteString} (hs : s.onRead op bytes = some s') :
    Accounted past issued s'.toClient := by
  have hread : Accounted past issued { s with reading := none }.toClient := h
  obtain rfl | ⟨-, -, body, -, rfl⟩ | ⟨-, response, rest, hrest, hanswer⟩ := onRead_cases hs
  · exact accounted_close hread (dropsNothing_of_idle hidle)
  · exact h
  · exact accounted_answer hread hidle hrest hanswer

lemma accounted_resume (h : Accounted past issued s.toClient) (hs : s.resume = some s') :
    Accounted past issued s'.toClient := by
  unfold resume at hs
  split at hs
  · next fs hrun =>
    cases hs
    dsimp only
    split_ifs <;> exact h.own hrun
  · next fs hrun =>
    cases hs
    exact h.own hrun
  · next fs hrun =>
    cases hs
    exact accounted_checkSafeKill (h.own hrun)
  · obtain ⟨c, hc, rfl⟩ := Option.map_eq_some_iff.mp hs
    exact h.resume hc

lemma Consistent.step {past : List (Event κ)} {e : Event κ} (h : Consistent past s)
    (hcareful : Careful s e) (hstep : s.step e = some s') : Consistent (past ++ [e]) s' := by
  obtain ⟨hconn, hclose⟩ := hcareful
  unfold Consistent at h ⊢
  cases hreq : e.request with
  | some r =>
    obtain rfl := issue_of_request hreq hstep
    rw [List.filterMap_append, List.filterMap_cons_some hreq]
    exact h.request (hconn (by simp [hreq])) _ r
  | none =>
    rw [List.filterMap_append, List.filterMap_cons_none hreq, List.filterMap_nil, List.append_nil]
    cases e with
    | getAsset | putAsset | getStoredAssetIDsWithPrefix => cases hreq
    | resume => exact accounted_resume h hstep
    | read bytes =>
      simp only [RemoteAssetService.step] at hstep
      split at hstep
      · cases hstep
      · split_ifs at hstep with hidle
        simp only [Bool.and_eq_true, List.isEmpty_iff] at hidle
        exact accounted_onRead h hidle.1 hstep
    | setSafekillCallback | connect =>
      obtain rfl := Machine.eq_of_ite hstep
      exact h
    | close =>
      obtain rfl := Machine.eq_of_ite hstep
      exact accounted_close h (hclose rfl)
    | connected success =>
      simp only [RemoteAssetService.step, Option.ite_none_right_eq_some, Option.some.injEq,
        Bool.and_eq_true, List.isEmpty_iff] at hstep
      obtain ⟨⟨hidle, -⟩, rfl⟩ := hstep
      have hstart : DropsNothing [Frame.callback, .other Own.listenIfConnected] := by decide
      exact (h.start (dropsNothing_of_idle hidle) hstart).of_eq rfl rfl rfl rfl rfl
    | written success =>
      simp only [RemoteAssetService.step, Option.ite_none_right_eq_some, Option.some.injEq,
        Bool.and_eq_true, List.isEmpty_iff] at hstep
      obtain ⟨⟨hidle, -⟩, rfl⟩ := hstep
      exact accounted_onAfterWriteAssetRequest h hidle success
    | runPosted i =>
      simp only [RemoteAssetService.step, Option.ite_none_right_eq_some] at hstep
      obtain ⟨c, hc, rfl⟩ := Option.map_eq_some_iff.mp hstep.2
      exact h.runPosted hc

/-- A careful run accounts for its requests. -/
lemma consistent_run {es : List (Event κ)} {t : RemoteAssetService κ}
    (hcareful : Machine.Guarded step Careful {} es) (hrun : Machine.run step {} es = some t) :
    Consistent es t := by
  have hinit : Consistent [] ({} : RemoteAssetService κ) :=
    (accounted_iff (dropsNothing_of_idle rfl)).mpr ⟨List.nil_prefix, .nil⟩
  exact Machine.run_invariant_past (fun _ _ _ _ h hg hs => h.step hg hs) hinit hcareful hrun

end RemoteAssetService

namespace MeshServer

/-- The request a call passes in. -/
def Event.request : Event κ → Option (MeshRequest κ)
  | .getAsset uuid k => some ⟨uuid, k⟩
  | _                => none

def Event.isClose : Event κ → Bool
  | .close => true
  | _      => false

/-- Gets are made on an established connection, and `close` is not called from the callback of a
queued get. -/
def Careful (s : MeshServer κ) (e : Event κ) : Prop :=
  (e.request.isSome → s.established = true) ∧ (e.isClose → DropsNothing s.running)

instance (s : MeshServer κ) (e : Event κ) : Decidable (Careful s e) :=
  inferInstanceAs (Decidable (_ ∧ _))

def Consistent (past : List (Event κ)) (s : MeshServer κ) : Prop :=
  Accounted [] (past.filterMap Event.request) s.toClient

/-! ### Handlers keep the account -/

variable {past : List (MeshRequest κ × Option Asset)} {issued : List (MeshRequest κ)}
  {s s' : MeshServer κ}

lemma accounted_close (h : Accounted past issued s.toClient) (hs : DropsNothing s.running) :
    Accounted past issued s.close.toClient := by
  unfold close
  dsimp only
  split_ifs
  · apply h.close hs
    simp [DropsNothing, closeRest]
  · apply h.close hs
    simp [DropsNothing, closeRest]

lemma accounted_closeQuery (h : Accounted past issued s.toClient) (hidle : s.running = []) :
    Accounted past issued s.closeQuery.toClient := by
  unfold closeQuery
  dsimp only
  split_ifs
  · exact accounted_close h (dropsNothing_of_idle hidle)
  · exact h

lemma accounted_checkSafeKill (h : Accounted past issued s.toClient) :
    Accounted past issued s.checkSafeKill.toClient := by
  unfold checkSafeKill
  split_ifs
  · exact h
  · exact h

lemma accounted_answer (h : Accounted past issued s.toClient) (hidle : s.running = [])
    {asset : Option Asset} {own : Own} (hs : s.answer asset [.dropSent, .other own] = some s') :
    Accounted past issued s'.toClient := by
  obtain ⟨c, hc, rfl⟩ := Option.map_eq_some_iff.mp hs
  apply h.answer hidle hc
  · rfl
  · rfl
  · simp [Tame, DropsNothing, Frame.isQueueing]

lemma accounted_onConnectionResult (h : Accounted past issued s.toClient) (hidle : s.running = []) :
    Accounted past issued s.onConnectionResult.toClient := by
  have hstart : DropsNothing [(Frame.callback : Frame Own)] := by decide
  unfold onConnectionResult
  dsimp only
  split_ifs
  · exact h.start (dropsNothing_of_idle hidle) hstart
  · exact h.start (dropsNothing_of_idle hidle) hstart
  · exact h

lemma accounted_onAfterWriteAssetRequest (h : Accounted past issued s.toClient)
    (hidle : s.running = []) (success : Bool) :
    Accounted past issued (s.onAfterWriteAssetRequest success).toClient := by
  have hwritten : Accounted past issued { s with writing := none }.toClient :=
    h.of_eq rfl rfl rfl rfl rfl
  unfold onAfterWriteAssetRequest
  cases success with
  | false => exact accounted_close hwritten (dropsNothing_of_idle hidle)
  | true =>
    apply accounted_checkSafeKill
    dsimp only
    split_ifs with hconn
    · exact hwritten.next hidle hconn rfl _
    · exact hwritten

lemma accounted_onRead (h : Accounted past issued s.toClient) (hidle : s.running = []) {op : ReadOp}
    {bytes : Option ByteString} (hs : s.onRead op bytes = some s') :
    Accounted past issued s'.toClient := by
  have hread : Accounted past issued { s with reading := none }.toClient := h
  obtain rfl | ⟨-, -, response, rfl⟩ | ⟨-, rfl⟩ | ⟨-, -, asset, own, -, hanswer⟩ := onRead_cases hs
  · exact accounted_close hread (dropsNothing_of_idle hidle)
  · exact h
  · exact h
  · exact accounted_answer hread hidle hanswer

lemma accounted_onQueryRead (h : Accounted past issued s.toClient) (hidle : s.running = [])
    (msg : Option IntraMeshMsg) : Accounted past issued (s.onQueryRead msg).toClient := by
  have hpost (uuid : ByteString) (found : Bool) :
      DropsNothing [Frame.other (Own.postResponse uuid found), .other (.eraseSearches uuid),
        .other .listenForMessage] := by simp [DropsNothing]
  unfold onQueryRead
  cases msg with
  | none => exact accounted_closeQuery h hidle
  | some msg =>
    cases msg with
    | invalid | heartbeat => exact h
    | response uuid found => exact h.start (dropsNothing_of_idle hidle) (hpost uuid found)
    | query uuid => exact h.start (dropsNothing_of_idle hidle) (hpost uuid false)

lemma accounted_resume (h : Accounted past issued s.toClient) (hs : s.resume = some s') :
    Accounted past issued s'.toClient := by
  unfold resume at hs
  split at hs
  case h_6 fs hrun =>
    cases hs
    exact accounted_checkSafeKill (h.own hrun)
  case h_8 =>
    obtain ⟨c, hc, rfl⟩ := Option.map_eq_some_iff.mp hs
    exact h.resume hc
  all_goals
    next fs hrun =>
    cases hs
    exact h.own hrun

lemma accounted_onQueryWritten (h : Accounted past issued s.toClient) (hidle : s.running = [])
    (success : Bool) : Accounted past issued (s.onQueryWritten success).toClient := by
  unfold onQueryWritten
  cases success with
  | false => exact accounted_closeQuery h hidle
  | true => exact h

lemma accounted_onQueryConnect (h : Accounted past issued s.toClient) (hidle : s.running = [])
    (success : Bool) : Accounted past issued (s.onQueryConnect success).toClient := by
  unfold onQueryConnect
  cases success with
  | false => exact accounted_onConnectionResult h hidle
  | true => exact accounted_onConnectionResult h hidle

@[simp] lemma toClient_search (uuid : ByteString) (k : κ) :
    (s.search uuid k).toClient = s.toClient := by
  unfold search
  split_ifs <;> rfl

/-- A completion is handled when nothing runs and the operation is outstanding. -/
lemma of_ioStep {s t : MeshServer κ} {b : Bool}
    (h : (if s.running.isEmpty && b then some t else none) = some s') :
    s.running = [] ∧ t = s' := by
  simp only [Option.ite_none_right_eq_some, Option.some.injEq, Bool.and_eq_true,
    List.isEmpty_iff] at h
  exact ⟨h.1.1, h.2⟩

/-- A step that passes in no request keeps the account. -/
lemma accounted_step [DecidableEq κ] {e : Event κ} (h : Accounted past issued s.toClient)
    (hreq : e.request = none) (hclose : e.isClose → DropsNothing s.running)
    (hstep : s.step e = some s') : Accounted past issued s'.toClient := by
  cases e with
  | getAsset => cases hreq
  | resume => exact accounted_resume h hstep
  | read bytes =>
    simp only [MeshServer.step] at hstep
    split at hstep
    · cases hstep
    · split_ifs at hstep with hidle
      simp only [Bool.and_eq_true, List.isEmpty_iff] at hidle
      exact accounted_onRead h hidle.1 hstep
  | runPosted i =>
    simp only [MeshServer.step, Option.ite_none_right_eq_some] at hstep
    obtain ⟨c, hc, rfl⟩ := Option.map_eq_some_iff.mp hstep.2
    exact h.runPosted hc
  | registerSafeKillCallback | connect | cancelSearch uuid k =>
    obtain rfl := Machine.eq_of_ite hstep
    exact h
  | search uuid k =>
    obtain rfl := Machine.eq_of_ite hstep
    split_ifs <;> simpa using h
  | close =>
    obtain rfl := Machine.eq_of_ite hstep
    exact accounted_close h (hclose rfl)
  | assetConnected success =>
    obtain ⟨hidle, rfl⟩ := of_ioStep hstep
    exact accounted_onConnectionResult (h.of_eq rfl rfl rfl rfl rfl) hidle
  | queryConnected success =>
    obtain ⟨hidle, rfl⟩ := of_ioStep hstep
    exact accounted_onQueryConnect h hidle success
  | written success =>
    obtain ⟨hidle, rfl⟩ := of_ioStep hstep
    exact accounted_onAfterWriteAssetRequest h hidle success
  | queryWritten success =>
    obtain ⟨hidle, rfl⟩ := of_ioStep hstep
    exact accounted_onQueryWritten h hidle success
  | queryRead msg =>
    obtain ⟨hidle, rfl⟩ := of_ioStep hstep
    exact accounted_onQueryRead h hidle msg

lemma Consistent.step [DecidableEq κ] {past : List (Event κ)} {e : Event κ}
    (h : Consistent past s) (hcareful : Careful s e) (hstep : s.step e = some s') :
    Consistent (past ++ [e]) s' := by
  obtain ⟨hconn, hclose⟩ := hcareful
  unfold Consistent at h ⊢
  cases hreq : e.request with
  | some r =>
    rw [List.filterMap_append, List.filterMap_cons_some hreq]
    cases e with
    | getAsset uuid k =>
      obtain rfl := Option.some.inj hreq
      obtain rfl := Machine.eq_of_ite hstep
      exact h.request (hconn rfl) _ _
    | _ => cases hreq
  | none =>
    rw [List.filterMap_append, List.filterMap_cons_none hreq, List.filterMap_nil, List.append_nil]
    exact accounted_step h hreq hclose hstep

/-- A careful run accounts for its requests. -/
lemma consistent_run [DecidableEq κ] {es : List (Event κ)} {t : MeshServer κ}
    (hcareful : Machine.Guarded step Careful {} es) (hrun : Machine.run step {} es = some t) :
    Consistent es t := by
  have hinit : Consistent [] ({} : MeshServer κ) :=
    (accounted_iff (dropsNothing_of_idle rfl)).mpr ⟨List.nil_prefix, .nil⟩
  exact Machine.run_invariant_past (fun _ _ _ _ h hg hs => h.step hg hs) hinit hcareful hrun

end MeshServer

/-! ### At most once -/

/-- The callback a call passes in. -/
def RemoteAssetService.Event.callback (e : RemoteAssetService.Event κ) : Option κ :=
  e.request.map (·.callback)

def MeshServer.Event.callback (e : MeshServer.Event κ) : Option κ := e.request.map (·.callback)

/-- Where every request finds the connection established and no callback closes its service, no
callback is run more often than it was passed in, in whatever order reads, writes and errors
come. -/
theorem careful_callbacks_subperm [DecidableEq κ] :
    (∀ (es : List (RemoteAssetService.Event κ)) (t : RemoteAssetService κ),
      Machine.Guarded RemoteAssetService.step RemoteAssetService.Careful {} es →
      Machine.run RemoteAssetService.step {} es = some t →
      (t.invoked.map (·.1.callback)).Subperm (es.filterMap (·.callback))) ∧
    (∀ (es : List (MeshServer.Event κ)) (t : MeshServer κ),
      Machine.Guarded MeshServer.step MeshServer.Careful {} es →
      Machine.run MeshServer.step {} es = some t →
      (t.invoked.map (·.1.callback)).Subperm (es.filterMap (·.callback))) := by
  constructor
  · intro es t hcareful hrun
    have hsub := (RemoteAssetService.consistent_run hcareful hrun).invoked_subperm (·.callback)
    rwa [List.map_filterMap] at hsub
  · intro es t hcareful hrun
    have hsub := (MeshServer.consistent_run hcareful hrun).invoked_subperm (·.callback)
    rwa [List.map_filterMap] at hsub

/-- Connect, get two assets, and lose the connection while the first is written. -/
def RemoteAssetService.lostWhileWriting : List (RemoteAssetService.Event ℕ) :=
  [.connect, .connected true, .resume, .resume, .getAsset (sampleUUID 1) true 0,
    .getAsset (sampleUUID 2) true 1, .written false, .resume, .resume, .resume, .resume, .resume,
    .resume, .resume]

def MeshServer.lostWhileWriting : List (MeshServer.Event ℕ) :=
  [.connect, .assetConnected true, .queryConnected true, .resume, .getAsset (sampleUUID 1) 0,
    .getAsset (sampleUUID 2) 1, .written false, .resume, .resume, .resume, .resume, .resume,
    .resume, .resume]

theorem lostWhileWriting_subperm :
    (∃ t, Machine.run RemoteAssetService.step {} RemoteAssetService.lostWhileWriting = some t ∧
      t.invoked.map (·.1.callback) = [1, 0] ∧
      (t.invoked.map (·.1.callback)).Subperm
        (RemoteAssetService.lostWhileWriting.filterMap (·.callback))) ∧
    (∃ t, Machine.run MeshServer.step {} MeshServer.lostWhileWriting = some t ∧
      t.invoked.map (·.1.callback) = [1, 0] ∧
      (t.invoked.map (·.1.callback)).Subperm
        (MeshServer.lostWhileWriting.filterMap (·.callback))) := by
  have hremote : Machine.Guarded RemoteAssetService.step RemoteAssetService.Careful {}
      RemoteAssetService.lostWhileWriting := by
    repeat' refine .cons rfl (by decide) ?_
    trivial
  have hmesh : Machine.Guarded MeshServer.step MeshServer.Careful {}
      MeshServer.lostWhileWriting := by
    repeat' refine .cons rfl (by decide) ?_
    trivial
  exact ⟨⟨_, rfl, rfl, careful_callbacks_subperm.1 _ _ hremote rfl⟩,
    ⟨_, rfl, rfl, careful_callbacks_subperm.2 _ _ hmesh rfl⟩⟩

/-- A get before any connection: the posted error calls back, and so does the failed write of the
request that goes out all the same. -/
theorem get_before_connect_called_back_twice :
    (∃ t, Machine.run RemoteAssetService.step ({} : RemoteAssetService ℕ)
        [.getAsset (sampleUUID 1) true 0, .runPosted 0, .resume, .written false, .resume, .resume] =
          some t ∧
      t.invoked.map (·.1.callback) = [0, 0]) ∧
    (∃ t, Machine.run MeshServer.step ({} : MeshServer ℕ)
        [.getAsset (sampleUUID 1) 0, .runPosted 0, .resume, .written false, .resume, .resume] =
          some t ∧
      t.invoked.map (·.1.callback) = [0, 0]) :=
  ⟨⟨_, rfl, rfl⟩, ⟨_, rfl, rfl⟩⟩

end Whip
