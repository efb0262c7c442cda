import Whip.Server.Tokens
import Whip.Mesh.Faithful
import Whip.Mesh.Searches

/-!
# Sessions of the server

A session that is connected does one thing at a time: it reads, it waits for the storage or for the
mesh, or it writes. This module says what each handler of a session makes of it, and follows the
sessions through the runs of the server.
-/

namespace Whip

open CSAuthenticated

namespace AssetServer

/-! ### A session and what it waits for -/

/-- A get that is answered with an asset is answered with the one it asked for. -/
def Genuine (request : ClientRequestMsg) (response : ServerResponseMsg) : Prop :=
  request.getType = some .get ∨ request.getType = some .getDontCache →
    response.header.head? = some ResponseCode.found.code →
      response.getUUID = request.getUUID ∧ (response.data.getD []).take 32 = request.getUUID

def Truthful (c : CSAuthenticated) : Prop := ∀ p ∈ c.responses, Genuine p.1 p.2

/-- The work on a call that a session makes for a request. -/
def Fits (request : ClientRequestMsg) : SessionHandler → Work → Prop
  | .storageGet, .asked (.get uuid _)                         => uuid = request.getUUID
  | .storageGet, .answered (.got asset _ _)                   =>
    ∀ a, asset = some a → a.getUUID = request.getUUID
  | .storageWrite, .asked (.put _ _)                          => True
  | .storageWrite, .answered (.stored _ _)                    => True
  | .storagePurge, .asked (.purge _ _)                        => True
  | .statusGet, .asked (.collectStatus _)                     => True
  | .statusGet, .answered (.completed _)                      => True
  | .storedAssetIdsGet, .asked (.getStoredAssetIds _ _)       => True
  | .storedAssetIdsGet, .answered (.completed _)              => True
  | _, _                                                      => False

/-- Each completion fits the handler it was bound to. -/
lemma reply_of_fits {request : ClientRequestMsg} {handler : SessionHandler}
    {completion : Completion}
    (h : Fits request handler (.answered completion)) :
    (handler.reply completion).isSome = true := by
  cases handler <;> cases completion <;> first | rfl | exact absurd h id

/-- The session is at work on a request. -/
structure Working (c : CSAuthenticated) : Prop where
  socket : c.socket = []
  owes : c.headers.length = c.responses.length + 1
  sized : c.currentRequest.getUUID.length = 32

/-- What a session is doing, with its calls on the storage and its searches. A request is `lost`
only if not all is well. -/
inductive Standing (well : Prop) :
    Option CSAuthenticated → List (SessionHandler × Work) → List ByteString → Prop
  | unborn : Standing well none [] []
  | gone {c T W} (h : c.connected = false) : Standing well (some c) T W
  | reading {c} (socket : c.socket = [.readHeader])
      (even : c.headers.length = c.responses.length) : Standing well (some c) [] []
  | body {c} (socket : c.socket = [.readData]) (owes : c.headers.length = c.responses.length + 1)
      (sized : c.currentRequest.getUUID.length = 32) : Standing well (some c) [] []
  | storing {c handler work} (working : Working c) (fits : Fits c.currentRequest handler work)
      (safe : well → handler ≠ .storagePurge) : Standing well (some c) [(handler, work)] []
  | searching {c} (working : Working c) : Standing well (some c) [] [c.currentRequest.getUUID]
  | writingHeader {c response} (socket : c.socket = [.writeHeader response])
      (even : c.headers.length = c.responses.length) : Standing well (some c) [] []
  | writingData {c response} (socket : c.socket = [.writeData response])
      (even : c.headers.length = c.responses.length) : Standing well (some c) [] []
  | lost {c} (ill : ¬ well) (socket : c.socket = []) : Standing well (some c) [] []

section Standing

variable {well : Prop} {o : Option CSAuthenticated} {T : List (SessionHandler × Work)}
  {U : List ByteString}

lemma Standing.of_none (h : Standing well none T U) : T = [] ∧ U = [] := by
  cases h
  exact ⟨rfl, rfl⟩

/-- A session with a search waits for nothing else. -/
lemma Standing.of_search (h : Standing well o T U) (hU : U ≠ []) :
    ∃ c, o = some c ∧
      (c.connected = false ∨ Working c ∧ T = [] ∧ U = [c.currentRequest.getUUID]) := by
  cases h with
  | gone h => exact ⟨_, rfl, .inl h⟩
  | searching working => exact ⟨_, rfl, .inr ⟨working, rfl, rfl⟩⟩
  | _ => exact absurd rfl hU

/-- A session with a call waits for nothing else. -/
lemma Standing.of_call (h : Standing well o T U) {handler : SessionHandler} {work : Work}
    (hT : (handler, work) ∈ T) :
    ∃ c, o = some c ∧ (c.connected = false ∨ Working c ∧ T = [(handler, work)] ∧ U = [] ∧
      Fits c.currentRequest handler work ∧ (well → handler ≠ .storagePurge)) := by
  cases h with
  | gone h => exact ⟨_, rfl, .inl h⟩
  | storing working fits safe =>
    cases List.mem_singleton.mp hT
    exact ⟨_, rfl, .inr ⟨working, rfl, rfl, fits, safe⟩⟩
  | _ => exact absurd hT List.not_mem_nil

/-- Another stage of the work on a call. -/
lemma Standing.replace {handler : SessionHandler} {work work' : Work}
    (h : Standing well o ((handler, work) :: T) U)
    (hfits : ∀ request, Fits request handler work → Fits request handler work') :
    Standing well o (T ++ [(handler, work')]) U := by
  obtain ⟨c, rfl, hgone | ⟨working, hT, rfl, fits, safe⟩⟩ := h.of_call List.mem_cons_self
  · exact .gone hgone
  · rw [(List.cons.inj hT).2]
    exact .storing working (hfits _ fits) safe

/-- A call is forgotten. -/
lemma Standing.drop {handler : SessionHandler} {work : Work}
    (h : Standing well o ((handler, work) :: T) U)
    (hill : ∀ request, Fits request handler work → (well → handler ≠ .storagePurge) → ¬ well) :
    Standing well o T U := by
  obtain ⟨c, rfl, hgone | ⟨working, hT, rfl, fits, safe⟩⟩ := h.of_call List.mem_cons_self
  · exact .gone hgone
  · rw [(List.cons.inj hT).2]
    exact .lost (hill _ fits safe) working.socket

end Standing

/-- The calls that a session makes for a request and then waits for. -/
def Suits (request : ClientRequestMsg) : BackendCall → Prop
  | .getAsset uuid _ | .meshGetAsset uuid => uuid = request.getUUID
  | .beginPurgeLocals                     => False
  | _                                     => True

/-- What a handler makes of a session. -/
inductive Outcome (well : Prop) : CSAuthenticated × Option BackendCall → Prop
  | gone {c call} (h : c.connected = false) : Outcome well (c, call)
  | stands {c} (h : Standing well (some c) [] []) : Outcome well (c, none)
  | purges {c} (h : Standing well (some c) [] []) : Outcome well (c, some .beginPurgeLocals)
  | calls {c call} (working : Working c) (suits : Suits c.currentRequest call)
      (safe : well → ∀ uuid, call ≠ .purgeAsset uuid) : Outcome well (c, some call)

variable {well : Prop} {c : CSAuthenticated}

lemma Outcome.stand {call : Option BackendCall} (h : Outcome well (c, call))
    (hcall : call = none ∨ call = some .beginPurgeLocals) :
    c.connected = false ∨ Standing well (some c) [] [] := by
  cases h with
  | gone h => exact .inl h
  | stands h | purges h => exact .inr h
  | calls _ suits =>
    obtain hcall | hcall := hcall <;> cases hcall
    exact absurd suits id

lemma Outcome.call {call : BackendCall} (h : Outcome well (c, some call))
    (hcall : call ≠ .beginPurgeLocals) :
    c.connected = false ∨ Working c ∧ Suits c.currentRequest call ∧
      (well → ∀ uuid, call ≠ .purgeAsset uuid) := by
  cases h with
  | gone h => exact .inl h
  | purges h => exact absurd rfl hcall
  | calls working suits safe => exact .inr ⟨working, suits, safe⟩

/-! ### Clients that are gone -/

section Gone

lemma start_of_gone (h : c.connected = false) (op : SocketOp) : c.start op = c := by
  simp [start, h]

lemma sendResponse_of_gone (h : c.connected = false) (r : ServerResponseMsg) :
    c.sendResponse r = c := by
  simp [sendResponse, h]

/-- Nothing more is sent. -/
def Gone (c : CSAuthenticated) (c' : CSAuthenticated) : Prop :=
  c'.connected = false ∧ c'.responses = c.responses

lemma gone_waitForRequest (h : c.connected = false) : Gone c c.waitForRequest := by
  rw [waitForRequest, start_of_gone (by exact h)]
  exact ⟨h, rfl⟩

lemma gone_sendResponse (h : c.connected = false) (r : ServerResponseMsg) :
    Gone c (c.sendResponse r) := by
  rw [sendResponse_of_gone h]
  exact ⟨h, rfl⟩

lemma gone_ifValidUUID (h : c.connected = false) (uuid : ByteString) (call : BackendCall) :
    Gone c (c.ifValidUUID uuid call).1 := by
  unfold ifValidUUID
  split_ifs
  · exact ⟨h, rfl⟩
  · exact gone_sendResponse h _

lemma gone_dispatch (h : c.connected = false) (assetExists : ByteString → Bool)
    (type : Option RequestType) : Gone c (c.dispatch assetExists type).1 := by
  cases type with
  | none => exact ⟨rfl, rfl⟩
  | some type =>
    cases type with
    | get | getDontCache | purge => exact gone_ifValidUUID h _ _
    | put =>
      show Gone c (c.start _)
      rw [start_of_gone h]
      exact ⟨h, rfl⟩
    | test =>
      show Gone c (c.handleTestRequest assetExists)
      simp only [handleTestRequest]
      split_ifs <;> exact gone_sendResponse h _
    | maintPurgeLocals => exact gone_sendResponse h _
    | statusGet | storedAssetIdsGet => exact ⟨h, rfl⟩

lemma gone_onSocket (h : c.connected = false) (assetExists : ByteString → Bool) (op : SocketOp)
    (bytes : ByteString) : Gone c (c.onSocket assetExists op bytes).1 := by
  cases op with
  | readHeader =>
    exact gone_dispatch (c := { c with
      socket := _, currentRequest := ⟨bytes, none⟩, headers := c.headers ++ [bytes] }) h _ _
  | readData =>
    exact gone_ifValidUUID (c := { c with
      socket := _, currentRequest := { c.currentRequest with data := some bytes } }) h _ _
  | writeHeader response =>
    have hc : ({ c with socket := c.socket.erase (.writeHeader response) } :
      CSAuthenticated).connected = false := h
    show Gone c (handleResponseHeaderWrite _ response)
    unfold handleResponseHeaderWrite
    split_ifs
    · rw [start_of_gone hc]
      exact ⟨h, rfl⟩
    · exact gone_waitForRequest hc
  | writeData response =>
    exact gone_waitForRequest
      (c := { c with socket := c.socket.erase (.writeData response) }) h

lemma gone_intrameshGet (h : c.connected = false) (uuid : ByteString) (asset : Option Asset) :
    Gone c (c.handleIntrameshGetResponse uuid asset) := by
  cases asset <;> exact gone_sendResponse h _

lemma gone_onReply (h : c.connected = false) (reply : Reply) : Gone c (c.onReply reply).1 := by
  cases reply with
  | storageGet asset success error =>
    show Gone c (c.handleStorageGetResponse asset success).1
    unfold handleStorageGetResponse
    split
    · exact gone_sendResponse h _
    · simp only
      split_ifs
      · exact ⟨h, rfl⟩
      · exact gone_sendResponse h _
  | storageWrite success error | storagePurge success error =>
    show Gone c (c.confirm success error)
    unfold confirm
    split_ifs <;> exact gone_sendResponse h _
  | status journal | storedAssetIds journal => exact gone_sendResponse h _
  | intrameshGet uuid asset => exact gone_intrameshGet h uuid asset

end Gone

/-! ### Clients that are there -/

section Handlers

/-- A session that is through with a request. -/
def Settled (well : Prop) (c : CSAuthenticated) : Prop := Standing well (some c) [] [] ∧ Truthful c

/-- What a handler makes of a session that has given true responses. -/
def Proper (well : Prop) (result : CSAuthenticated × Option BackendCall) : Prop :=
  Outcome well result ∧ Truthful result.1

lemma Settled.proper (h : Settled well c) : Proper well (c, none) := ⟨.stands h.1, h.2⟩

lemma genuine_make {request : ClientRequestMsg} {code : ResponseCode} (hcode : code ≠ .found)
    (uuid : ByteString) (data : Option ByteString) :
    Genuine request (.make code uuid data) := by
  intro _ hfound
  cases code with
  | found => exact absurd rfl hcode
  | _ => simp [ServerResponseMsg.make, ResponseCode.code] at hfound

/-- An asset with the identifier that was asked for. -/
lemma genuine_found {request : ClientRequestMsg} (hsized : request.getUUID.length = 32)
    {asset : Asset} (hasset : asset.getUUID = request.getUUID) :
    Genuine request (.make .found asset.getUUID (some asset.data)) := by
  intro _ _
  rw [ServerResponseMsg.getUUID_make (hasset ▸ hsized)]
  exact ⟨hasset, hasset⟩

lemma settled_sendResponse (h : Working c) (htrue : Truthful c) {r : ServerResponseMsg}
    (hr : Genuine c.currentRequest r) : Settled well (c.sendResponse r) := by
  cases hconn : c.connected with
  | false =>
    rw [sendResponse_of_gone hconn]
    exact ⟨.gone hconn, htrue⟩
  | true =>
    rw [sendResponse_of_connected hconn]
    refine ⟨.writingHeader (by simp [h.socket]; rfl) (by simp [h.owes]), fun p hp => ?_⟩
    obtain hp | hp := List.mem_append.mp hp
    · exact htrue p hp
    · rw [List.mem_singleton.mp hp]
      exact hr

lemma settled_sendError (h : Working c) (htrue : Truthful c) (errorMsg : ByteString) :
    Settled well (c.sendError errorMsg) :=
  settled_sendResponse h htrue (genuine_make (by decide) _ _)

lemma settled_waitForRequest (hsocket : c.socket = [])
    (heven : c.headers.length = c.responses.length) (htrue : Truthful c) :
    Settled well c.waitForRequest := by
  cases hconn : c.connected with
  | false =>
    have hgone := gone_waitForRequest hconn
    exact ⟨.gone hgone.1, fun p hp => htrue p (hgone.2 ▸ hp)⟩
  | true =>
    rw [waitForRequest_of_connected hconn]
    exact ⟨.reading (by simp [hsocket]) heven, htrue⟩

lemma proper_ifValidUUID (h : Working c) (htrue : Truthful c) {uuid : ByteString}
    {call : BackendCall} (hsuits : Suits c.currentRequest call)
    (hsafe : well → Validator.isValidUUID uuid = true → ∀ u, call ≠ .purgeAsset u) :
    Proper well (c.ifValidUUID uuid call) := by
  unfold ifValidUUID
  split_ifs with hvalid
  · exact ⟨.calls h hsuits fun hwell => hsafe hwell hvalid, htrue⟩
  · exact (settled_sendError h htrue _).proper

/-- The request of a header that has just been read. -/
lemma proper_dispatch (h : Working c) (htrue : Truthful c) (assetExists : ByteString → Bool)
    {type : Option RequestType} (htype : c.currentRequest.getType = type)
    (hsafe : well → type = some .purge → Validator.isValidUUID c.currentRequest.getUUID = false) :
    Proper well (c.dispatch assetExists type) := by
  cases type with
  | none => exact ⟨.gone rfl, htrue⟩
  | some type =>
    cases type with
    | get | getDontCache => exact proper_ifValidUUID h htrue rfl fun _ _ _ h => by cases h
    | purge =>
      refine proper_ifValidUUID h htrue trivial fun hwell hvalid => ?_
      simp [hsafe hwell rfl] at hvalid
    | put =>
      show Proper well (c.start _, none)
      cases hconn : c.connected with
      | false =>
        rw [start_of_gone hconn]
        exact ⟨.gone hconn, htrue⟩
      | true =>
        rw [start_of_connected hconn]
        exact ⟨.stands (.body (by simp [h.socket]) h.owes h.sized), htrue⟩
    | test =>
      apply Settled.proper
      simp only [handleTestRequest]
      split_ifs
      · refine settled_sendResponse h htrue fun hget => ?_
        simp [htype] at hget
      · refine settled_sendResponse h htrue fun hget => ?_
        simp [htype] at hget
      · exact settled_sendError h htrue _
    | maintPurgeLocals =>
      have hsettled : Settled well (c.sendResponse (.make .ok zeroUUID)) :=
        settled_sendResponse h htrue (genuine_make (by decide) _ _)
      exact ⟨.purges hsettled.1, hsettled.2⟩
    | statusGet | storedAssetIdsGet =>
      cases hconn : c.connected with
      | false => exact ⟨.gone hconn, htrue⟩
      | true =>
        simp only [dispatch, handleStatusGet, handleStoredAssetIdsGet, hconn]
        exact ⟨.calls h trivial (fun _ _ h => by cases h), htrue⟩

/-- An operation of the socket completes. A session whose socket is in use waits for nothing
else. -/
lemma proper_onSocket {T : List (SessionHandler × Work)} {W : List ByteString}
    (h : Standing well (some c) T W) (htrue : Truthful c) (assetExists : ByteString → Bool)
    {op : SocketOp} (hop : op ∈ c.socket) {bytes : ByteString}
    (hsize : bytes.length = (c.readSize op).getD 0)
    (hsafe : well → op = .readHeader → (⟨bytes, none⟩ : ClientRequestMsg).getType = some .purge →
      Validator.isValidUUID (⟨bytes, none⟩ : ClientRequestMsg).getUUID = false) :
    Proper well (c.onSocket assetExists op bytes) ∧
      ((c.onSocket assetExists op bytes).1.connected = false ∨ T = [] ∧ W = []) := by
  cases h with
  | gone h =>
    have hgone := gone_onSocket h assetExists op bytes
    exact ⟨⟨.gone hgone.1, fun p hp => htrue p (hgone.2 ▸ hp)⟩, .inl hgone.1⟩
  | reading socket even =>
    obtain rfl : op = .readHeader := by simpa [socket] using hop
    refine ⟨?_, .inr ⟨rfl, rfl⟩⟩
    refine proper_dispatch (c := { c with
      socket := _, currentRequest := ⟨bytes, none⟩, headers := c.headers ++ [bytes] })
      ⟨by simp [socket], by simp [even], ?_⟩ htrue assetExists rfl fun hwell => hsafe hwell rfl
    have hbytes : bytes.length = 37 := hsize
    simp [ClientRequestMsg.getUUID, hbytes]
  | body socket owes sized =>
    obtain rfl : op = .readData := by simpa [socket] using hop
    refine ⟨?_, .inr ⟨rfl, rfl⟩⟩
    exact proper_ifValidUUID (c := { c with
      socket := _, currentRequest := { c.currentRequest with data := some bytes } })
      ⟨by simp [socket], owes, sized⟩ htrue trivial fun _ _ _ h => by cases h
  | storing working => simp [working.socket] at hop
  | searching working => simp [working.socket] at hop
  | lost ill socket => simp [socket] at hop
  | @writingHeader _ response socket even =>
    obtain rfl : op = .writeHeader response := by simpa [socket] using hop
    refine ⟨?_, .inr ⟨rfl, rfl⟩⟩
    show Proper well (handleResponseHeaderWrite _ response, none)
    have hsocket : c.socket.erase (.writeHeader response) = [] := by simp [socket]
    rw [handleResponseHeaderWrite, hsocket]
    split_ifs
    · cases hconn : c.connected with
      | false =>
        rw [start_of_gone rfl]
        exact ⟨.gone rfl, htrue⟩
      | true =>
        rw [start_of_connected rfl]
        exact ⟨.stands (.writingData rfl even), htrue⟩
    · have hsettled : Settled well (waitForRequest { c with socket := [] }) :=
        settled_waitForRequest rfl even htrue
      exact hsettled.proper
  | @writingData _ response socket even =>
    obtain rfl : op = .writeData response := by simpa [socket] using hop
    have hsettled : Settled well (waitForRequest { c with socket := _ }) :=
      settled_waitForRequest (c := { c with socket := c.socket.erase (.writeData response) })
        (by simp [socket]) even htrue
    exact ⟨hsettled.proper, .inr ⟨rfl, rfl⟩⟩

/-- An operation of the socket fails. -/
lemma proper_onSocketError (htrue : Truthful c) (op : SocketOp) :
    Proper well (c.onSocketError op, none) :=
  ⟨.gone rfl, htrue⟩

/-- The mesh answers. -/
lemma settled_intrameshGet (h : Working c) (htrue : Truthful c) {asset : Option Asset}
    (hasset : ∀ a, asset = some a → a.getUUID = c.currentRequest.getUUID) (uuid : ByteString) :
    Settled well (c.handleIntrameshGetResponse uuid asset) := by
  cases asset with
  | none => exact settled_sendResponse h htrue (genuine_make (by decide) _ _)
  | some asset => exact settled_sendResponse h htrue (genuine_found h.sized (hasset asset rfl))

/-- The storage answers. -/
lemma proper_onReply (h : Working c) (htrue : Truthful c) {handler : SessionHandler}
    {completion : Completion} (hfits : Fits c.currentRequest handler (.answered completion))
    {reply : Reply} (hreply : handler.reply completion = some reply) :
    Proper well (c.onReply reply) := by
  cases handler with
  | storageGet =>
    cases completion with
    | got asset success error =>
      cases hreply
      show Proper well (c.handleStorageGetResponse asset success)
      unfold handleStorageGetResponse
      split
      · exact (settled_sendResponse h htrue (genuine_found h.sized (hfits _ rfl))).proper
      · simp only
        split_ifs
        · exact ⟨.calls h rfl fun _ _ => nofun, htrue⟩
        · exact Settled.proper (settled_sendResponse h htrue (genuine_make (by decide) _ _))
    | _ => cases hreply
  | storageWrite | storagePurge =>
    cases completion with
    | stored success error =>
      cases hreply
      apply Settled.proper
      unfold confirm
      split_ifs
      · exact settled_sendResponse h htrue (genuine_make (by decide) _ _)
      · exact settled_sendError h htrue _
    | _ => cases hreply
  | statusGet | storedAssetIdsGet =>
    cases completion with
    | completed journal =>
      cases hreply
      exact Settled.proper (settled_sendResponse h htrue (genuine_make (by decide) _ _))
    | _ => cases hreply

end Handlers

end AssetServer

end Whip
