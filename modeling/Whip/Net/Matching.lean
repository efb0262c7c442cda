import Whip.Net.Callbacks
import Whip.Lib.Answering

/-!
# Responses and the requests they are matched with

A response is matched with the request in front of the queue of sent requests. What the peer sends
is up to the peer, and a connection may be closed while a read that has succeeded waits for its
handler, so nothing in the handlers makes sure that there is a request. Here it is shown which peers
and which uses of the two classes do.
-/

namespace Whip

open Pipelined Pipelined.Client

variable {κ : Type}

/-- A service along with the number of requests it has sent and of response headers it has read. -/
structure Exchange (σ : Type) where
  service : σ
  asked : ℕ := 0
  answered : ℕ := 0

namespace RemoteAssetService

/-- The handler takes the front of the queue. -/
def fronts (s : RemoteAssetService κ) : Event κ → Bool
  | .read (some bytes) =>
    s.running.isEmpty &&
      match s.reading with
      | none => false
      | some .header =>
        match ServerResponseMsg.getResponseCode ⟨bytes, none⟩ with
        | some .found | some .ok | none => false
        | _ => ServerResponseMsg.getDataSize ⟨bytes, none⟩ == 0
      | some (.data _)      => s.established
      | some (.errorData _) => true
  | _ => false

/-- A request is popped. The `pop` at the end of `onReadResponseData` comes last, and is made only
if the queue is not empty. -/
def pops (s : RemoteAssetService κ) : Event κ → Bool
  | .resume =>
    match s.running with
    | .dropSent :: _ :: _ => true
    | _                   => false
  | _ => false

/-- The queue is not empty where its front is taken or popped. -/
def Matched (s : RemoteAssetService κ) (e : Event κ) : Prop :=
  (s.fronts e = true → s.sent ≠ []) ∧ (s.pops e = true → s.sent ≠ [])

instance (s : RemoteAssetService κ) (e : Event κ) : Decidable (Matched s e) :=
  inferInstanceAs (Decidable (_ ∧ _))

/-- How many requests are handed to the socket. -/
def sends (s : RemoteAssetService κ) : Event κ → ℕ
  | .written true => if s.established then (!s.waiting.isEmpty).toNat else 0
  | e             => if e.request.isSome then s.writing.isNone.toNat else 0

/-- The header of a response has been read. -/
def heads (s : RemoteAssetService κ) : Event κ → Bool
  | .read (some _) => s.reading == some .header
  | _              => false

/-- A step of the service, with what is sent and read. -/
def exchange (x : Exchange (RemoteAssetService κ)) (e : Event κ) :
    Option (Exchange (RemoteAssetService κ)) :=
  (x.service.step e).map fun s =>
    ⟨s, x.asked + x.service.sends e, x.answered + (x.service.heads e).toNat⟩

def Event.isConnect : Event κ → Bool
  | .connect => true
  | _        => false

/-- The connection is not opened again, and not closed from the callback of a queued request; a
response that is complete is handled before the connection is closed; and the peer has been asked
for each response it sends. -/
def Orderly (x : Exchange (RemoteAssetService κ)) (e : Event κ) : Prop :=
  e.isConnect = false ∧
  (e.isClose → DropsNothing x.service.running) ∧
  (x.service.fronts e → x.service.established) ∧
  (x.service.heads e → x.service.established → x.answered < x.asked)

instance (x : Exchange (RemoteAssetService κ)) (e : Event κ) : Decidable (Orderly x e) :=
  inferInstanceAs (Decidable (_ ∧ _ ∧ _ ∧ _))

/-- The connection has been established, and nothing has been asked yet. -/
structure Opened (s : RemoteAssetService κ) : Prop where
  established : s.established = true
  connecting : s.connecting = false
  reading : s.reading = some .header
  sent : s.sent = []
  running : s.running = []

/-! ### The balance of requests and responses -/

/-- The rest of a response is awaited. -/
def unread : Option ReadOp → ℕ
  | some (.data _) | some (.errorData _) => 1
  | _                                    => 0

def listens : Frame Own → Bool
  | .other .listen | .other .listenIfConnected => true
  | _                                          => false

/-- Each response that is begun has a request of its own in the queue. -/
structure Kept (x : Exchange (RemoteAssetService κ)) : Prop where
  poised : Poised x.service.toClient
  balanced : Balanced x.service.toClient (unread x.service.reading) x.asked x.answered
  connecting : x.service.connecting = false
  listening : ∀ f ∈ x.service.running, listens f → unread x.service.reading = 0

variable {s s' : RemoteAssetService κ} {asked answered : ℕ}

lemma Opened.kept (h : Opened s) : Kept ⟨s, 0, 0⟩ := by
  refine ⟨.of_dropsNothing (dropsNothing_of_idle h.running), ⟨?_, by simp, ?_⟩, h.connecting, ?_⟩
  · simp [h.sent, h.running, h.reading, unread]
  · simp [h.running]
  · simp [h.running]

/-- A read that succeeds is part of a response: its header begins one, and what follows belongs to
one that has begun. -/
lemma Kept.reads {x : Exchange (RemoteAssetService κ)} (h : Kept x) {bytes : ByteString}
    (hpeer : x.service.heads (.read (some bytes)) → x.service.established → x.answered < x.asked)
    (hreading : x.service.reading.isSome) :
    Balanced x.service.toClient 1 x.asked
      (x.answered + (x.service.heads (.read (some bytes))).toNat) := by
  have hbalanced := h.balanced
  unfold heads at hpeer ⊢
  cases hop : x.service.reading with
  | none => simp [hop] at hreading
  | some op =>
    rw [hop] at hbalanced hpeer
    cases op with
    | header => exact hbalanced.begin_answer (hpeer rfl)
    | data response | errorData response => exact hbalanced

lemma Kept.matched {x : Exchange (RemoteAssetService κ)} (h : Kept x) {e : Event κ}
    (horderly : Orderly x e) : Matched x.service e := by
  obtain ⟨-, -, hopen, hpeer⟩ := horderly
  refine ⟨fun hfronts => ?_, fun hpops => ?_⟩
  · have hestablished := hopen hfronts
    unfold fronts at hfronts
    split at hfronts
    · next bytes =>
      refine (h.reads hpeer ?_).sent_ne_nil hestablished
      cases hop : x.service.reading with
      | none => simp [hop] at hfronts
      | some op => rfl
    · cases hfronts
  · unfold pops at hpops
    split at hpops
    · split at hpops
      · next hrun => exact h.poised.sent_ne_nil hrun
      · cases hpops
    · cases hpops

/-! ### Steps keep the balance -/

/-- Closing settles every account. -/
lemma kept_close (hs : DropsNothing s.running) (hconnecting : s.connecting = false)
    (hlistening : ∀ f ∈ s.running, listens f → unread s.reading = 0) :
    Kept ⟨s.close, asked, answered⟩ := by
  refine ⟨.close hs (by simp [DropsNothing]), .of_closed rfl .., hconnecting, fun f hf => ?_⟩
  simp only [close, Client.close, List.mem_cons, List.mem_append, List.not_mem_nil, or_false] at hf
  rcases hf with (rfl | rfl | rfl) | hf
  · simp [listens]
  · simp [listens]
  · simp [listens]
  · exact hlistening f hf

lemma kept_close_of_idle (hidle : s.running = []) (hconnecting : s.connecting = false) :
    Kept ⟨s.close, asked, answered⟩ :=
  kept_close (dropsNothing_of_idle hidle) hconnecting (by simp [hidle])

lemma Kept.checkSafeKill (h : Kept ⟨s, asked, answered⟩) :
    Kept ⟨s.checkSafeKill, asked, answered⟩ := by
  unfold RemoteAssetService.checkSafeKill
  split_ifs
  · exact ⟨h.poised, h.balanced, h.connecting, h.listening⟩
  · exact h

lemma Kept.issue (h : Kept ⟨s, asked, answered⟩) (r : PendingTransferRequest κ) :
    Kept ⟨s.issue r, asked + s.writing.isNone.toNat, answered⟩ := by
  refine ⟨h.poised.request .., h.balanced.request .., h.connecting, fun f hf => ?_⟩
  rw [RemoteAssetService.issue, running_request] at hf
  exact h.listening f hf

lemma Kept.written (h : Kept ⟨s, asked, answered⟩) (hidle : s.running = []) (success : Bool) :
    Kept ⟨s.onAfterWriteAssetRequest success, asked + s.sends (.written success), answered⟩ := by
  have hwritten : Kept ⟨{ s with writing := none }, asked, answered⟩ :=
    ⟨⟨h.poised.sent_le, h.poised.tame⟩, ⟨h.balanced.eq, h.balanced.le, h.balanced.calm⟩,
      h.connecting, h.listening⟩
  unfold onAfterWriteAssetRequest
  cases success with
  | false => exact kept_close_of_idle hidle h.connecting
  | true =>
    apply Kept.checkSafeKill
    simp only [sends]
    split_ifs with hopen
    · refine ⟨hwritten.poised.next rfl _, hwritten.balanced.next rfl _, h.connecting, ?_⟩
      simp [running_next, hidle]
    · exact hwritten

lemma Kept.read (h : Kept ⟨s, asked, answered⟩) (hidle : s.running = []) {op : ReadOp}
    (hop : s.reading = some op) {bytes : Option ByteString}
    (hpeer : s.heads (.read bytes) → s.established → answered < asked)
    (hs : s.onRead op bytes = some s') :
    Kept ⟨s', asked, answered + (s.heads (.read bytes)).toNat⟩ := by
  obtain rfl | ⟨rfl, hbytes, body, hbody, rfl⟩ | ⟨hbytes, response, rest, hrest, hanswer⟩ :=
    onRead_cases hs
  · exact kept_close_of_idle hidle h.connecting
  · obtain ⟨bytes, rfl⟩ := Option.isSome_iff_exists.mp hbytes
    have hreads := h.reads hpeer (by simp [hop])
    have hunread : unread (some body) = 1 := by
      cases body with
      | header => exact absurd rfl hbody
      | data response | errorData response => rfl
    refine ⟨h.poised, ?_, h.connecting, by simp [hidle]⟩
    simp only [hunread]
    exact hreads
  · obtain ⟨bytes, rfl⟩ := Option.isSome_iff_exists.mp hbytes
    have hreads := h.reads hpeer (by simp [hop])
    obtain ⟨c, hc, rfl⟩ := Option.map_eq_some_iff.mp hanswer
    refine ⟨.answer hidle hc ?_ ?_, hreads.answer hidle hc ?_ ?_, h.connecting, fun _ _ _ => rfl⟩
    · rcases hrest with rfl | rfl <;> rfl
    · rcases hrest with rfl | rfl <;> simp [Tame, DropsNothing, Frame.isQueueing]
    · rcases hrest with rfl | rfl <;> rfl
    · rcases hrest with rfl | rfl <;> simp

/-- One of the service's own frames is done. -/
lemma Kept.own (h : Kept ⟨s, asked, answered⟩) {own : Own} {fs : List (Frame Own)}
    (hrun : s.running = .other own :: fs) : Kept ⟨{ s with running := fs }, asked, answered⟩ :=
  ⟨h.poised.own hrun, h.balanced.own hrun, h.connecting,
    fun f hf => h.listening f (hrun ▸ List.mem_cons_of_mem _ hf)⟩

/-- A frame that listens finds no read of a response outstanding. -/
lemma Kept.listen (h : Kept ⟨s, asked, answered⟩) {own : Own} {fs : List (Frame Own)}
    (hrun : s.running = .other own :: fs) (hlistens : listens (.other own)) :
    Kept ⟨{ s with running := fs }.listenForServerResponses, asked, answered⟩ := by
  have hunread := h.listening _ (hrun ▸ List.mem_cons_self) hlistens
  have hdone := h.own hrun
  refine ⟨hdone.poised, ?_, h.connecting, fun _ _ _ => rfl⟩
  have hbalanced := hdone.balanced
  rw [hunread] at hbalanced
  exact hbalanced

lemma Kept.resume (h : Kept ⟨s, asked, answered⟩) (hs : s.resume = some s') :
    Kept ⟨s', asked, answered⟩ := by
  unfold RemoteAssetService.resume at hs
  split at hs
  · next fs hrun =>
    cases hs
    dsimp only
    split_ifs
    · exact h.listen hrun rfl
    · exact h.own hrun
  · next fs hrun =>
    cases hs
    exact h.listen hrun rfl
  · next fs hrun =>
    cases hs
    exact (h.own hrun).checkSafeKill
  · obtain ⟨c, hc, rfl⟩ := Option.map_eq_some_iff.mp hs
    refine ⟨h.poised.resume hc, h.balanced.resume h.poised hc, h.connecting, fun f hf hf' => ?_⟩
    cases f with
    | other own => exact h.listening _ (other_mem_of_resume hc hf) hf'
    | _ => cases hf'

lemma Kept.step {x y : Exchange (RemoteAssetService κ)} {e : Event κ} (h : Kept x)
    (horderly : Orderly x e) (hstep : exchange x e = some y) : Kept y := by
  obtain ⟨s, asked, answered⟩ := x
  obtain ⟨hconnect, hclose, -, hpeer⟩ := horderly
  obtain ⟨s', hs, rfl⟩ := Option.map_eq_some_iff.mp hstep
  dsimp only at hclose hpeer hs ⊢
  cases hreq : e.request with
  | some r =>
    obtain rfl := issue_of_request hreq hs
    cases e <;> simp only [Event.request, reduceCtorEq] at hreq <;> exact h.issue _
  | none =>
    cases e with
    | getAsset | putAsset | getStoredAssetIDsWithPrefix => cases hreq
    | connect => cases hconnect
    | setSafekillCallback =>
      obtain rfl := Machine.eq_of_ite hs
      exact ⟨h.poised, h.balanced, h.connecting, h.listening⟩
    | close =>
      obtain rfl := Machine.eq_of_ite hs
      exact kept_close (hclose rfl) h.connecting h.listening
    | resume => exact h.resume hs
    | connected success =>
      have hconnecting : s.connecting = false := h.connecting
      simp [RemoteAssetService.step, hconnecting] at hs
    | written success =>
      simp only [RemoteAssetService.step, Option.ite_none_right_eq_some, Option.some.injEq,
        Bool.and_eq_true, List.isEmpty_iff] at hs
      obtain ⟨⟨hidle, -⟩, rfl⟩ := hs
      exact h.written hidle success
    | read bytes =>
      simp only [RemoteAssetService.step] at hs
      split at hs
      · cases hs
      · next op hop =>
        split_ifs at hs with hidle
        simp only [Bool.and_eq_true, List.isEmpty_iff] at hidle
        exact h.read hidle.1 hop hpeer hs
    | runPosted i =>
      simp only [RemoteAssetService.step, Option.ite_none_right_eq_some, List.isEmpty_iff] at hs
      obtain ⟨hidle, hs⟩ := hs
      obtain ⟨c, hc, rfl⟩ := Option.map_eq_some_iff.mp hs
      refine ⟨h.poised.runPosted hc, h.balanced.runPosted hc, h.connecting, ?_⟩
      simp [running_runPosted hc, hidle, listens]

end RemoteAssetService

namespace MeshServer

def fronts (s : MeshServer κ) : Event κ → Bool
  | .read (some bytes) =>
    s.running.isEmpty &&
      match s.reading with
      | some .header =>
        match ServerResponseMsg.getResponseCode ⟨bytes, none⟩ with
        | some .found | none => false
        | _                  => true
      | some (.data _) => !bytes.isEmpty && s.established
      | _              => false
  | _ => false

def pops (s : MeshServer κ) : Event κ → Bool
  | .resume =>
    match s.running with
    | .dropSent :: _ => true
    | _              => false
  | _ => false

/-- The queue is not empty where its front is taken or popped. -/
def Matched (s : MeshServer κ) (e : Event κ) : Prop :=
  (s.fronts e = true → s.sent ≠ []) ∧ (s.pops e = true → s.sent ≠ [])

instance (s : MeshServer κ) (e : Event κ) : Decidable (Matched s e) :=
  inferInstanceAs (Decidable (_ ∧ _))

/-- How many requests are handed to the socket. -/
def sends (s : MeshServer κ) : Event κ → ℕ
  | .written true => if s.established then (!s.waiting.isEmpty).toNat else 0
  | .getAsset _ _ => s.writing.isNone.toNat
  | _             => 0

def heads (s : MeshServer κ) : Event κ → Bool
  | .read (some _) => s.reading == some .header
  | _              => false

def exchange [DecidableEq κ] (x : Exchange (MeshServer κ)) (e : Event κ) :
    Option (Exchange (MeshServer κ)) :=
  (x.service.step e).map fun s =>
    ⟨s, x.asked + x.service.sends e, x.answered + (x.service.heads e).toNat⟩

def Event.isConnect : Event κ → Bool
  | .connect => true
  | _        => false

/-- As for a `RemoteAssetService`. -/
def Orderly (x : Exchange (MeshServer κ)) (e : Event κ) : Prop :=
  e.isConnect = false ∧
  (e.isClose → DropsNothing x.service.running) ∧
  (x.service.fronts e → x.service.established) ∧
  (x.service.heads e → x.service.established → x.answered < x.asked)

instance (x : Exchange (MeshServer κ)) (e : Event κ) : Decidable (Orderly x e) :=
  inferInstanceAs (Decidable (_ ∧ _ ∧ _ ∧ _))

/-- Both connections have been made, and nothing has been asked yet. -/
structure Opened (s : MeshServer κ) : Prop where
  established : s.established = true
  connecting : s.assetConnecting = false ∧ s.queryConnecting = false
  reading : s.reading = some .header
  sent : s.sent = []
  running : s.running = []

/-! ### The balance of gets and responses -/

/-- The data of a response is awaited; the text of an error is not for anyone. -/
def unread : Option ReadOp → ℕ
  | some (.data _) => 1
  | _              => 0

structure Kept (x : Exchange (MeshServer κ)) : Prop where
  poised : Poised x.service.toClient
  balanced : Balanced x.service.toClient (unread x.service.reading) x.asked x.answered
  connecting : x.service.assetConnecting = false ∧ x.service.queryConnecting = false
  listening : ∀ f ∈ x.service.running, listens f → unread x.service.reading = 0

variable {s s' : MeshServer κ} {asked answered : ℕ}

lemma Opened.kept (h : Opened s) : Kept ⟨s, 0, 0⟩ := by
  refine ⟨.of_dropsNothing (dropsNothing_of_idle h.running), ⟨?_, by simp, ?_⟩, h.connecting, ?_⟩
  · simp [h.sent, h.running, h.reading, unread]
  · simp [h.running]
  · simp [h.running]

/-- A read that succeeds is part of a response, but for the text of an error. -/
lemma Kept.reads {x : Exchange (MeshServer κ)} (h : Kept x) {bytes : ByteString}
    (hpeer : x.service.heads (.read (some bytes)) → x.service.established → x.answered < x.asked)
    {op : ReadOp} (hop : x.service.reading = some op)
    (herror : ∀ response, op ≠ .errorData response) :
    Balanced x.service.toClient 1 x.asked
      (x.answered + (x.service.heads (.read (some bytes))).toNat) := by
  have hbalanced := h.balanced
  unfold heads at hpeer ⊢
  rw [hop] at hbalanced hpeer ⊢
  cases op with
  | header => exact hbalanced.begin_answer (hpeer rfl)
  | data response => exact hbalanced
  | errorData response => exact absurd rfl (herror response)

lemma Kept.matched {x : Exchange (MeshServer κ)} (h : Kept x) {e : Event κ}
    (horderly : Orderly x e) : Matched x.service e := by
  obtain ⟨-, -, hopen, hpeer⟩ := horderly
  refine ⟨fun hfronts => ?_, fun hpops => ?_⟩
  · have hestablished := hopen hfronts
    unfold fronts at hfronts
    split at hfronts
    · next bytes =>
      cases hop : x.service.reading with
      | none => simp [hop] at hfronts
      | some op =>
        refine (h.reads hpeer hop ?_).sent_ne_nil hestablished
        rintro response rfl
        simp [hop] at hfronts
    · cases hfronts
  · unfold pops at hpops
    split at hpops
    · split at hpops
      · next hrun => exact h.poised.sent_ne_nil hrun
      · cases hpops
    · cases hpops

/-! ### Steps keep the balance -/

/-- What happens to the searches and to the query connection. -/
lemma Kept.of_eq (h : Kept ⟨s, asked, answered⟩) (hclient : s'.toClient = s.toClient)
    (hreading : s'.reading = s.reading) (hasset : s'.assetConnecting = s.assetConnecting)
    (hquery : s'.queryConnecting = s.queryConnecting) : Kept ⟨s', asked, answered⟩ := by
  refine ⟨?_, ?_, ?_, ?_⟩
  · exact hclient ▸ h.poised
  · rw [hclient, hreading]
    exact h.balanced
  · rw [hasset, hquery]
    exact h.connecting
  · rw [hclient, hreading]
    exact h.listening

/-- Closing settles every account. -/
lemma kept_close (hs : DropsNothing s.running)
    (hconnecting : s.assetConnecting = false ∧ s.queryConnecting = false)
    (hlistening : ∀ f ∈ s.running, listens f → unread s.reading = 0) :
    Kept ⟨s.close, asked, answered⟩ := by
  have hpush {fs : List (Frame Own)} (hfs : ∀ f ∈ fs, listens f = false) :
      ∀ f ∈ (s.toClient.close fs).running, listens f → unread s.reading = 0 := by
    intro f hf hlistens
    simp only [Client.close, List.cons_append, List.mem_cons, List.mem_append] at hf
    rcases hf with rfl | rfl | hf | hf
    · cases hlistens
    · cases hlistens
    · simp [hfs f hf] at hlistens
    · exact hlistening f hf hlistens
  unfold close
  dsimp only
  split_ifs
  · refine ⟨.close hs ?_, .of_closed rfl .., hconnecting, hpush ?_⟩
    · simp [DropsNothing, closeRest]
    · simp [closeRest, listens]
  · refine ⟨.close hs ?_, .of_closed rfl .., hconnecting, hpush ?_⟩
    · simp [DropsNothing, closeRest]
    · simp [closeRest, listens]

lemma Kept.close_of_idle (h : Kept ⟨s, asked, answered⟩) (hidle : s.running = [])
    (op : Option ReadOp) (n m : ℕ) : Kept ⟨close { s with reading := op }, n, m⟩ :=
  kept_close (dropsNothing_of_idle hidle) h.connecting (by simp [hidle])

lemma Kept.closeQuery (h : Kept ⟨s, asked, answered⟩) (hidle : s.running = []) :
    Kept ⟨s.closeQuery, asked, answered⟩ := by
  unfold MeshServer.closeQuery
  dsimp only
  split_ifs
  · exact kept_close (dropsNothing_of_idle hidle) h.connecting (by simp [hidle])
  · exact h.of_eq rfl rfl rfl rfl

lemma Kept.checkSafeKill (h : Kept ⟨s, asked, answered⟩) :
    Kept ⟨s.checkSafeKill, asked, answered⟩ := by
  unfold MeshServer.checkSafeKill
  split_ifs
  · exact h.of_eq rfl rfl rfl rfl
  · exact h

lemma Kept.getAsset (h : Kept ⟨s, asked, answered⟩) (uuid : ByteString) (k : κ) :
    Kept ⟨s.getAsset uuid k, asked + s.writing.isNone.toNat, answered⟩ := by
  refine ⟨h.poised.request .., h.balanced.request .., h.connecting, fun f hf => ?_⟩
  rw [MeshServer.getAsset, running_request] at hf
  exact h.listening f hf

lemma Kept.written (h : Kept ⟨s, asked, answered⟩) (hidle : s.running = []) (success : Bool) :
    Kept ⟨s.onAfterWriteAssetRequest success, asked + s.sends (.written success), answered⟩ := by
  have hwritten : Kept ⟨{ s with writing := none }, asked, answered⟩ :=
    ⟨⟨h.poised.sent_le, h.poised.tame⟩, ⟨h.balanced.eq, h.balanced.le, h.balanced.calm⟩,
      h.connecting, h.listening⟩
  unfold onAfterWriteAssetRequest
  cases success with
  | false => exact hwritten.close_of_idle hidle ..
  | true =>
    apply Kept.checkSafeKill
    simp only [sends]
    split_ifs with hopen
    · refine ⟨hwritten.poised.next rfl _, hwritten.balanced.next rfl _, h.connecting, ?_⟩
      simp [running_next, hidle]
    · exact hwritten

lemma Kept.read (h : Kept ⟨s, asked, answered⟩) (hidle : s.running = []) {op : ReadOp}
    (hop : s.reading = some op) {bytes : Option ByteString}
    (hpeer : s.heads (.read bytes) → s.established → answered < asked)
    (hs : s.onRead op bytes = some s') :
    Kept ⟨s', asked, answered + (s.heads (.read bytes)).toNat⟩ := by
  obtain rfl | ⟨rfl, hbytes, response, rfl⟩ | ⟨⟨response, rfl⟩, rfl⟩ |
    ⟨herror, hbytes, asset, own, -, hanswer⟩ := onRead_cases hs
  · exact h.close_of_idle hidle ..
  · obtain ⟨bytes, rfl⟩ := Option.isSome_iff_exists.mp hbytes
    have hreads := h.reads hpeer hop (by simp)
    exact ⟨h.poised, hreads, h.connecting, by simp [hidle]⟩
  · have hheads : s.heads (.read bytes) = false := by
      unfold heads
      split
      · simp [hop]
      · rfl
    rw [hheads]
    have hbalanced := h.balanced
    rw [hop] at hbalanced
    exact ⟨h.poised, hbalanced, h.connecting, fun _ _ _ => rfl⟩
  · obtain ⟨bytes, rfl⟩ := Option.isSome_iff_exists.mp hbytes
    have hreads := h.reads hpeer hop herror
    obtain ⟨c, hc, rfl⟩ := Option.map_eq_some_iff.mp hanswer
    refine ⟨.answer hidle hc rfl ?_, hreads.answer hidle hc rfl ?_, h.connecting, fun _ _ _ => rfl⟩
    · simp [Tame, DropsNothing, Frame.isQueueing]
    · simp

/-- Handlers of the query connection run frames that have nothing to do with the queues. -/
lemma Kept.start (h : Kept ⟨s, asked, answered⟩) (hidle : s.running = []) (fs : List (Frame Own))
    (hfs : ∀ f ∈ fs, ∃ own, f = .other own ∧ listens f = false) :
    Kept ⟨{ s with running := fs }, asked, answered⟩ := by
  have hdrops : DropsNothing fs := by
    intro f hf
    obtain ⟨own, rfl, -⟩ := hfs f hf
    exact ⟨rfl, rfl⟩
  refine ⟨.of_dropsNothing hdrops, ⟨fun hopen => ?_, h.balanced.le, fun _ hmem => ?_⟩, h.connecting,
    fun f hf hlistens => ?_⟩
  · have heq := h.balanced.eq hopen
    simp only [hidle] at heq
    simpa [hdrops.countP.2] using heq
  · obtain ⟨own, hne, -⟩ := hfs _ hmem
    cases hne
  · obtain ⟨own, -, hno⟩ := hfs f hf
    simp [hno] at hlistens

lemma Kept.queryRead (h : Kept ⟨s, asked, answered⟩) (hidle : s.running = [])
    (msg : Option IntraMeshMsg) : Kept ⟨s.onQueryRead msg, asked, answered⟩ := by
  have hread (q : MeshQueryConnection) : Kept ⟨{ s with query := q }, asked, answered⟩ :=
    h.of_eq rfl rfl rfl rfl
  have hpost (uuid : ByteString) (found : Bool) :=
    h.start hidle [.other (.postResponse uuid found), .other (.eraseSearches uuid),
      .other .listenForMessage] (by simp [listens])
  unfold onQueryRead
  cases msg with
  | none => exact (hread _).closeQuery hidle
  | some msg =>
    cases msg with
    | invalid | heartbeat => exact h.of_eq rfl rfl rfl rfl
    | response uuid found => exact (hpost uuid found).of_eq rfl rfl rfl rfl
    | query uuid => exact (hpost uuid false).of_eq rfl rfl rfl rfl

lemma Kept.queryWritten (h : Kept ⟨s, asked, answered⟩) (hidle : s.running = [])
    (success : Bool) : Kept ⟨s.onQueryWritten success, asked, answered⟩ := by
  have hwritten (q : MeshQueryConnection) : Kept ⟨{ s with query := q }, asked, answered⟩ :=
    h.of_eq rfl rfl rfl rfl
  unfold onQueryWritten
  cases success with
  | false => exact (hwritten _).closeQuery hidle
  | true => exact hwritten _

/-- One of the server's own frames is done. -/
lemma Kept.own (h : Kept ⟨s, asked, answered⟩) {own : Own} {fs : List (Frame Own)}
    (hrun : s.running = .other own :: fs) : Kept ⟨{ s with running := fs }, asked, answered⟩ :=
  ⟨h.poised.own hrun, h.balanced.own hrun, h.connecting,
    fun f hf => h.listening f (hrun ▸ List.mem_cons_of_mem _ hf)⟩

/-- A frame that listens finds no read of a response outstanding, and starts none. -/
lemma Kept.listen (h : Kept ⟨s, asked, answered⟩) {own : Own} {fs : List (Frame Own)}
    (hrun : s.running = .other own :: fs) (hlistens : listens (.other own)) {op : Option ReadOp}
    (hop : unread op = 0) : Kept ⟨{ s with running := fs, reading := op }, asked, answered⟩ := by
  have hunread := h.listening _ (hrun ▸ List.mem_cons_self) hlistens
  have hdone := h.own hrun
  have hbalanced := hdone.balanced
  rw [hunread, ← hop] at hbalanced
  exact ⟨hdone.poised, hbalanced, h.connecting, fun _ _ _ => hop⟩

lemma Kept.resume (h : Kept ⟨s, asked, answered⟩) (hs : s.resume = some s') :
    Kept ⟨s', asked, answered⟩ := by
  unfold MeshServer.resume at hs
  split at hs
  case h_1 fs hrun | h_2 response fs hrun =>
    cases hs
    exact h.listen hrun rfl rfl
  case h_6 fs hrun =>
    cases hs
    exact (h.own hrun).checkSafeKill
  case h_8 =>
    obtain ⟨c, hc, rfl⟩ := Option.map_eq_some_iff.mp hs
    refine ⟨h.poised.resume hc, h.balanced.resume h.poised hc, h.connecting, fun f hf hf' => ?_⟩
    cases f with
    | other own => exact h.listening _ (other_mem_of_resume hc hf) hf'
    | _ => cases hf'
  all_goals
    next hrun =>
    cases hs
    exact (h.own hrun).of_eq rfl rfl rfl rfl

lemma Kept.step [DecidableEq κ] {x y : Exchange (MeshServer κ)} {e : Event κ} (h : Kept x)
    (horderly : Orderly x e) (hstep : exchange x e = some y) : Kept y := by
  obtain ⟨s, asked, answered⟩ := x
  obtain ⟨hconnect, hclose, -, hpeer⟩ := horderly
  obtain ⟨s', hs, rfl⟩ := Option.map_eq_some_iff.mp hstep
  dsimp only at hclose hpeer hs ⊢
  cases e with
  | connect => cases hconnect
  | resume => exact h.resume hs
  | getAsset uuid k =>
    obtain rfl := Machine.eq_of_ite hs
    exact h.getAsset uuid k
  | registerSafeKillCallback | cancelSearch uuid k =>
    obtain rfl := Machine.eq_of_ite hs
    exact h.of_eq rfl rfl rfl rfl
  | search uuid k =>
    obtain rfl := Machine.eq_of_ite hs
    unfold MeshServer.search
    split_ifs <;> exact h.of_eq rfl rfl rfl rfl
  | close =>
    obtain rfl := Machine.eq_of_ite hs
    exact kept_close (hclose rfl) h.connecting h.listening
  | assetConnected success =>
    have hno : s.assetConnecting = false := h.connecting.1
    simp [MeshServer.step, hno] at hs
  | queryConnected success =>
    have hno : s.queryConnecting = false := h.connecting.2
    simp [MeshServer.step, hno] at hs
  | written success =>
    obtain ⟨hidle, rfl⟩ := of_ioStep hs
    exact h.written hidle success
  | read bytes =>
    simp only [MeshServer.step] at hs
    split at hs
    · cases hs
    · next op hop =>
      split_ifs at hs with hidle
      simp only [Bool.and_eq_true, List.isEmpty_iff] at hidle
      exact h.read hidle.1 hop hpeer hs
  | queryWritten success =>
    obtain ⟨hidle, rfl⟩ := of_ioStep hs
    exact h.queryWritten hidle success
  | queryRead msg =>
    obtain ⟨hidle, rfl⟩ := of_ioStep hs
    exact h.queryRead hidle msg
  | runPosted i =>
    simp only [MeshServer.step, Option.ite_none_right_eq_some, List.isEmpty_iff] at hs
    obtain ⟨hidle, hs⟩ := hs
    obtain ⟨c, hc, rfl⟩ := Option.map_eq_some_iff.mp hs
    refine ⟨h.poised.runPosted hc, h.balanced.runPosted hc, h.connecting, ?_⟩
    simp [running_runPosted hc, hidle, listens]

end MeshServer

/-! ### Responses find their requests -/

/-- Where the peer answers what it has been asked, responses are handled before the connection is
closed, and no callback of a request closes it, every response finds a request and every request
that is popped is there, in whatever order reads, writes and errors come. -/
theorem orderly_matched [DecidableEq κ] :
    (∀ (s : RemoteAssetService κ) (es : List (RemoteAssetService.Event κ))
      (x : Exchange (RemoteAssetService κ)) (e : RemoteAssetService.Event κ), s.Opened →
      Machine.Guarded RemoteAssetService.exchange RemoteAssetService.Orderly ⟨s, 0, 0⟩ es →
      Machine.run RemoteAssetService.exchange ⟨s, 0, 0⟩ es = some x →
      RemoteAssetService.Orderly x e → x.service.Matched e) ∧
    (∀ (s : MeshServer κ) (es : List (MeshServer.Event κ)) (x : Exchange (MeshServer κ))
      (e : MeshServer.Event κ), s.Opened →
      Machine.Guarded MeshServer.exchange MeshServer.Orderly ⟨s, 0, 0⟩ es →
      Machine.run MeshServer.exchange ⟨s, 0, 0⟩ es = some x →
      MeshServer.Orderly x e → x.service.Matched e) := by
  constructor
  · intro s es x e hopened hguarded hrun horderly
    have hkept := Machine.run_invariant (fun _ _ _ h hg hs => RemoteAssetService.Kept.step h hg hs)
      hopened.kept hguarded hrun
    exact hkept.matched horderly
  · intro s es x e hopened hguarded hrun horderly
    have hkept := Machine.run_invariant (fun _ _ _ h hg hs => MeshServer.Kept.step h hg hs)
      hopened.kept hguarded hrun
    exact hkept.matched horderly

/-- The header of a response that nothing was found. -/
def notFoundHeader : ByteString := 11 :: List.replicate 36 0

def RemoteAssetService.opened : RemoteAssetService ℕ :=
  { established := true, reading := some .header }

def MeshServer.opened : MeshServer ℕ :=
  { established := true, queryConnectionEstablished := true, numConnectResultsRcvd := 2
    reading := some .header, query := { isConnected := true, recvActive := true } }

/-- One get, and the response that nothing was found. -/
theorem not_found_matched :
    (∃ x, Machine.run RemoteAssetService.exchange ⟨RemoteAssetService.opened, 0, 0⟩
        [.getAsset (sampleUUID 1) true 0, .written true] = some x ∧
      x.service.fronts (.read (some notFoundHeader)) = true ∧
      x.service.Matched (.read (some notFoundHeader))) ∧
    (∃ x, Machine.run MeshServer.exchange ⟨MeshServer.opened, 0, 0⟩
        [.getAsset (sampleUUID 1) 0, .written true] = some x ∧
      x.service.fronts (.read (some notFoundHeader)) = true ∧
      x.service.Matched (.read (some notFoundHeader))) := by
  have hremote : Machine.Guarded RemoteAssetService.exchange RemoteAssetService.Orderly
      ⟨RemoteAssetService.opened, 0, 0⟩ [.getAsset (sampleUUID 1) true 0, .written true] :=
    .cons rfl (by decide) (.cons rfl (by decide) trivial)
  have hmesh : Machine.Guarded MeshServer.exchange MeshServer.Orderly ⟨MeshServer.opened, 0, 0⟩
      [.getAsset (sampleUUID 1) 0, .written true] :=
    .cons rfl (by decide) (.cons rfl (by decide) trivial)
  constructor
  · obtain ⟨x, hrun, hfronts, horderly⟩ : ∃ x,
        Machine.run RemoteAssetService.exchange ⟨RemoteAssetService.opened, 0, 0⟩
          [.getAsset (sampleUUID 1) true 0, .written true] = some x ∧
        x.service.fronts (.read (some notFoundHeader)) = true ∧
        RemoteAssetService.Orderly x (.read (some notFoundHeader)) :=
      ⟨_, rfl, by decide, by decide⟩
    have hopened : RemoteAssetService.opened.Opened := ⟨rfl, rfl, rfl, rfl, rfl⟩
    exact ⟨x, hrun, hfronts, orderly_matched.1 _ _ _ _ hopened hremote hrun horderly⟩
  · obtain ⟨x, hrun, hfronts, horderly⟩ : ∃ x,
        Machine.run MeshServer.exchange ⟨MeshServer.opened, 0, 0⟩
          [.getAsset (sampleUUID 1) 0, .written true] = some x ∧
        x.service.fronts (.read (some notFoundHeader)) = true ∧
        MeshServer.Orderly x (.read (some notFoundHeader)) :=
      ⟨_, rfl, by decide, by decide⟩
    have hopened : MeshServer.opened.Opened := ⟨rfl, ⟨rfl, rfl⟩, rfl, rfl, rfl⟩
    exact ⟨x, hrun, hfronts, orderly_matched.2 _ _ _ _ hopened hmesh hrun horderly⟩

def RemoteAssetService.connects : List (RemoteAssetService.Event ℕ) :=
  [.connect, .connected true, .resume, .resume]

/-- The connection is closed and the queue drained; a read may have succeeded before. -/
def RemoteAssetService.drains : List (RemoteAssetService.Event ℕ) :=
  connects.append [.getAsset (sampleUUID 1) true 0, .written true, .close, .resume, .resume,
    .resume, .resume, .resume, .resume]

/-- The callback of a request closes the connection. -/
def RemoteAssetService.closesInCallback : List (RemoteAssetService.Event ℕ) :=
  connects.append [.getAsset (sampleUUID 1) true 0, .written true, .read (some notFoundHeader),
    .close, .resume, .resume, .resume, .resume, .resume, .resume, .resume]

def MeshServer.connects : List (MeshServer.Event ℕ) :=
  [.connect, .assetConnected true, .queryConnected true, .resume]

def MeshServer.drains : List (MeshServer.Event ℕ) :=
  connects.append [.getAsset (sampleUUID 1) 0, .written true, .close, .resume, .resume, .resume,
    .resume, .resume, .resume, .resume]

def MeshServer.closesInCallback : List (MeshServer.Event ℕ) :=
  connects.append [.getAsset (sampleUUID 1) 0, .written true, .close, .resume, .resume, .close,
    .resume, .resume, .resume, .resume, .resume, .resume, .resume, .resume]

/-- A response to nothing; a response whose handler is queued when the connection is closed and the
queue drained; and a callback that closes the connection, so that the queue is empty when the
request it was called for is popped. -/
theorem responses_to_nothing :
    ((∃ t, Machine.run RemoteAssetService.step {} RemoteAssetService.connects = some t ∧
        ¬ t.Matched (.read (some notFoundHeader))) ∧
      (∃ t, Machine.run RemoteAssetService.step {} RemoteAssetService.drains = some t ∧
        ¬ t.Matched (.read (some notFoundHeader))) ∧
      (∃ t, Machine.run RemoteAssetService.step {} RemoteAssetService.closesInCallback = some t ∧
        ¬ t.Matched .resume)) ∧
    ((∃ t, Machine.run MeshServer.step {} MeshServer.connects = some t ∧
        ¬ t.Matched (.read (some notFoundHeader))) ∧
      (∃ t, Machine.run MeshServer.step {} MeshServer.drains = some t ∧
        ¬ t.Matched (.read (some notFoundHeader))) ∧
      (∃ t, Machine.run MeshServer.step {} MeshServer.closesInCallback = some t ∧
        ¬ t.Matched .resume)) := by
  refine ⟨⟨?_, ?_, ?_⟩, ?_, ?_, ?_⟩
  all_goals exact Machine.exists_run_of_any (by decide +kernel)

end Whip
