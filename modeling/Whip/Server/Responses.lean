import Whip.Server.Service
import Whip.Server.Holdings

/-!
# What a session may answer

An asset `v`, and the responses of one session. A response is `late` if its request was read when
`v` was on the disk already: it has to show that `v` is stored. A put may be confirmed when its
asset is on the disk. This module says of each handler of a session which responses it sends and
which calls it makes.
-/

namespace Whip

open CSAuthenticated VFSBackend

namespace AssetServer

/-! ### Responses -/

def IsGet (request : ClientRequestMsg) : Prop :=
  request.getType = some .get ∨ request.getType = some .getDontCache

/-- The response to a request shows that `v` is stored. -/
structure Shows (v : ValidAsset) (request : ClientRequestMsg) (response : ServerResponseMsg) :
    Prop where
  get : IsGet request → request.getUUID = v.getUUID →
    response = .make .found v.getUUID (some v.data)
  test : request.getType = some .test → request.getUUID = v.getUUID →
    response = .make .found v.getUUID
  put : request.getType = some .put → (request.data.getD []).take 32 = v.getUUID →
    response.header.head? ≠ some ResponseCode.ok.code

/-- A put is confirmed when its asset is on the disk, and late responses show `v`. -/
structure Right (v : ValidAsset) (late : Prop) (m : AssetId → Option ValidAsset)
    (request : ClientRequestMsg) (response : ServerResponseMsg) : Prop where
  stored : request.getType = some .put → response.header.head? = some ResponseCode.ok.code →
    ∃ a : ValidAsset, request.data = some a.data ∧ m a.id = some a
  shown : late → Shows v request response

section Right

variable {v : ValidAsset} {late : Prop} {m m' : AssetId → Option ValidAsset}
  {request : ClientRequestMsg} {response : ServerResponseMsg}

lemma Right.mono (h : Right v late m request response) (hm : Extends m m') :
    Right v late m' request response :=
  ⟨fun hput hok => (h.stored hput hok).imp fun _ ⟨hdata, ha⟩ => ⟨hdata, hm _ _ ha⟩, h.shown⟩

/-- Responses that say nothing about assets that are stored. -/
lemma right_make {code : ResponseCode} (hput : request.getType = some .put → code ≠ .ok)
    (hother : late → request.getUUID = v.getUUID →
      ¬ IsGet request ∧ request.getType ≠ some .test) (uuid : ByteString)
    (data : Option ByteString) : Right v late m request (.make code uuid data) := by
  have hcode (htype : request.getType = some .put) :
      (ServerResponseMsg.make code uuid data).header.head? ≠ some ResponseCode.ok.code := by
    have hne := hput htype
    cases code with
    | ok => exact absurd rfl hne
    | _ => simp [ServerResponseMsg.make, ResponseCode.code]
  refine ⟨fun htype hok => absurd hok (hcode htype), fun hlate => ⟨?_, ?_, ?_⟩⟩
  · exact fun hget huuid => absurd hget (hother hlate huuid).1
  · exact fun htest huuid => absurd htest (hother hlate huuid).2
  · exact fun htype _ => hcode htype

end Right

/-! ### Sessions -/

/-- A search of the mesh is for a get, and not for a late one of `v`. -/
def Sought (v : ValidAsset) (late : Prop) (request : ClientRequestMsg) : Prop :=
  IsGet request ∧ ¬ (late ∧ request.getUUID = v.getUUID)

/-- The responses of a session are right, there are no more of them than requests, and the data that
it reads is that of a put. -/
structure Kept (v : ValidAsset) (late : ℕ → Prop) (m : AssetId → Option ValidAsset)
    (c : CSAuthenticated) : Prop where
  right : ∀ i request response, c.responses[i]? = some (request, response) →
    Right v (late i) m request response
  owed : c.responses.length ≤ c.headers.length
  body : c.connected = true → .readData ∈ c.socket → c.currentRequest.getType = some .put

/-- The work on a call that a session made for a request: a put is completed when its asset is on
the disk, a late get of `v` with it, and a late put of its identifier not at all. -/
def Backed (v : ValidAsset) (late : Prop) (m : AssetId → Option ValidAsset)
    (request : ClientRequestMsg) : SessionHandler → Work → Prop
  | .storageGet, .asked (.get uuid _)                => IsGet request ∧ uuid = request.getUUID
  | .storageGet, .answered (.got asset success _)    => IsGet request ∧
    (late → request.getUUID = v.getUUID → asset = some v.toAsset ∧ success = true)
  | .storageWrite, .asked (.put asset _)             => request.getType = some .put ∧
    request.data = some asset.data ∧ (late → asset.getUUID ≠ v.getUUID)
  | .storageWrite, .answered (.stored success _)     => request.getType = some .put ∧
    (success = true → ∃ a : ValidAsset, request.data = some a.data ∧ m a.id = some a ∧
      (late → a.getUUID ≠ v.getUUID))
  | .storagePurge, _                                 => request.getType = some .purge
  | .statusGet, _                                    => request.getType = some .statusGet
  | .storedAssetIdsGet, _                            => request.getType = some .storedAssetIdsGet
  | _, _                                             => True

/-- Identifiers and assets are checked before the storage is called, and nobody purges. -/
def Sane : BackendCall → Prop
  | .getAsset uuid _   => Validator.isValidUUID uuid = true
  | .storeAsset asset  => ∃ a : ValidAsset, a.toAsset = asset
  | .beginPurgeLocals  => False
  | _                  => True

/-- The call is the one for the request. -/
def Serves (v : ValidAsset) (late : Prop) (request : ClientRequestMsg) : BackendCall → Prop
  | .getAsset uuid _               => IsGet request ∧ uuid = request.getUUID
  | .storeAsset asset              => request.getType = some .put ∧ request.data = some asset.data
  | .purgeAsset _                  => request.getType = some .purge
  | .getStatus                     => request.getType = some .statusGet
  | .getStoredAssetIDsWithPrefix _ => request.getType = some .storedAssetIdsGet
  | .meshGetAsset _                => Sought v late request
  | .beginPurgeLocals              => False

/-- What a handler makes of a session. -/
structure Delivers (v : ValidAsset) (late : ℕ → Prop) (m : AssetId → Option ValidAsset)
    (result : CSAuthenticated × Option BackendCall) : Prop where
  kept : Kept v late m result.1
  sane : ∀ call, result.2 = some call → Sane call
  serves : result.1.connected = true → ∀ call, result.2 = some call →
    Serves v (late result.1.responses.length) result.1.currentRequest call

section Sessions

variable {v : ValidAsset} {late : ℕ → Prop} {m m' : AssetId → Option ValidAsset}
  {c : CSAuthenticated}

lemma Kept.mono (h : Kept v late m c) (hm : Extends m m') : Kept v late m' c :=
  { h with right := fun i request response hi => (h.right i request response hi).mono hm }

lemma Kept.delivers (h : Kept v late m c) : Delivers v late m (c, none) := ⟨h, nofun, nofun⟩

lemma Kept.start (h : Kept v late m c) {op : SocketOp}
    (hop : op = .readData → c.currentRequest.getType = some .put) : Kept v late m (c.start op) := by
  cases hconn : c.connected with
  | false => rwa [start_of_gone hconn]
  | true =>
    rw [start_of_connected hconn]
    refine { h with body := fun _ hmem => ?_ }
    obtain hmem | hmem := List.mem_append.mp hmem
    · exact h.body hconn hmem
    · exact hop (List.mem_singleton.mp hmem).symm

lemma Kept.waitForRequest (h : Kept v late m c) (hsocket : c.connected = true → c.socket = []) :
    Kept v late m c.waitForRequest := by
  have hop : SocketOp.readHeader ≠ .readData := nofun
  refine Kept.start (c := { c with
      currentRequest := ⟨List.replicate ClientRequestMsg.HEADER_SIZE 0, none⟩ })
    ⟨h.right, h.owed, fun hconn hmem => ?_⟩ fun heq => absurd heq hop
  have hnil : c.socket = [] := hsocket hconn
  exact absurd (hnil ▸ hmem) List.not_mem_nil

/-- The response to the request that the session is at work on. -/
lemma Kept.sendResponse (h : Kept v late m c)
    (howes : c.connected = true → c.responses.length < c.headers.length) {r : ServerResponseMsg}
    (hr : c.connected = true → Right v (late c.responses.length) m c.currentRequest r) :
    Kept v late m (c.sendResponse r) := by
  cases hconn : c.connected with
  | false => rwa [sendResponse_of_gone hconn]
  | true =>
    rw [sendResponse_of_connected hconn]
    refine ⟨fun i request response hi => ?_, ?_, fun _ hmem => ?_⟩
    · rcases Nat.lt_trichotomy i c.responses.length with hlt | rfl | hgt
      · rw [List.getElem?_append_left hlt] at hi
        exact h.right i request response hi
      · rw [List.getElem?_concat_length] at hi
        cases hi
        exact hr hconn
      · rw [List.getElem?_eq_none (by simpa using Nat.succ_le_of_lt hgt)] at hi
        cases hi
    · simpa using Nat.succ_le_of_lt (howes hconn)
    · obtain hmem | hmem := List.mem_append.mp hmem
      · exact h.body hconn hmem
      · cases List.mem_singleton.mp hmem

lemma delivers_ifValidUUID (h : Kept v late m c)
    (howes : c.connected = true → c.responses.length < c.headers.length) {uuid : ByteString}
    {call : BackendCall} (hsane : Validator.isValidUUID uuid = true → Sane call)
    (hserves : c.connected = true → Serves v (late c.responses.length) c.currentRequest call)
    (hinvalid : c.connected = true → Validator.isValidUUID uuid = false →
      c.currentRequest.getUUID = v.getUUID →
        ¬ IsGet c.currentRequest ∧ c.currentRequest.getType ≠ some .test) :
    Delivers v late m (c.ifValidUUID uuid call) := by
  unfold ifValidUUID
  split_ifs with hvalid
  · refine ⟨h, fun call' hcall => ?_, fun hconn call' hcall => ?_⟩
    · exact Option.some.inj hcall ▸ hsane hvalid
    · exact Option.some.inj hcall ▸ hserves hconn
  · refine Kept.delivers (h.sendResponse howes fun hconn => right_make (fun _ => by decide) ?_ _ _)
    exact fun _ huuid => hinvalid hconn (by simpa using hvalid) huuid

/-- The request of a header that has just been read. -/
lemma delivers_dispatch (h : Kept v late m c) (howes : c.responses.length < c.headers.length)
    {assetExists : ByteString → Bool} {type : Option RequestType}
    (htype : c.currentRequest.getType = type) (hspared : type ≠ some .maintPurgeLocals)
    (hexists : late c.responses.length → assetExists v.getUUID = true) :
    Delivers v late m (c.dispatch assetExists type) := by
  have hinvalid (hvalid : Validator.isValidUUID c.currentRequest.getUUID = false)
      (huuid : c.currentRequest.getUUID = v.getUUID) :
      ¬ IsGet c.currentRequest ∧ c.currentRequest.getType ≠ some .test := by
    rw [huuid] at hvalid
    have hv := v.valid
    simp [Asset.getUUID, hv] at hvalid
  rcases type with _ | type
  · exact Kept.delivers (c := c.disconnect)
      ⟨h.right, h.owed, fun hconn => absurd hconn Bool.false_ne_true⟩
  · cases type with
    | get | getDontCache =>
      refine delivers_ifValidUUID h (fun _ => howes) id (fun _ => ⟨?_, rfl⟩) fun _ => hinvalid
      simp [IsGet, htype]
    | purge =>
      exact delivers_ifValidUUID h (fun _ => howes) (fun _ => trivial) (fun _ => htype)
        fun _ => hinvalid
    | put => exact Kept.delivers (h.start fun _ => htype)
    | test =>
      refine Kept.delivers ?_
      show Kept v late m (c.handleTestRequest assetExists)
      simp only [handleTestRequest]
      split_ifs with hvalid hthere
      · refine h.sendResponse (fun _ => howes) fun _ => ⟨?_, fun hlate => ⟨?_, ?_, ?_⟩⟩
        · simp [htype]
        · simp [IsGet, htype]
        · exact fun _ huuid => by rw [huuid]
        · simp [htype]
      · refine h.sendResponse (fun _ => howes) fun _ => right_make (by simp [htype]) ?_ _ _
        intro hlate huuid
        rw [huuid] at hthere
        exact absurd (hexists hlate) hthere
      · exact h.sendResponse (fun _ => howes) fun _ =>
          right_make (by simp [htype]) (fun _ => hinvalid (by simpa using hvalid)) _ _
    | maintPurgeLocals => exact absurd rfl hspared
    | statusGet | storedAssetIdsGet =>
      simp only [dispatch, handleStatusGet, handleStoredAssetIdsGet]
      refine ⟨h, fun call hcall => ?_, fun hconn call hcall => ?_⟩
      · split_ifs at hcall
        cases hcall
        trivial
      · rw [if_pos hconn] at hcall
        cases hcall
        exact htype

/-- An operation of the socket completes. -/
lemma delivers_onSocket (h : Kept v late m c) {T : List (SessionHandler × Work)}
    {U : List ByteString} (hstand : Standing False (some c) T U) {assetExists : ByteString → Bool}
    {op : SocketOp} (hop : op ∈ c.socket) {bytes : ByteString}
    (hsize : bytes.length = (c.readSize op).getD 0)
    (hspared : op = .readHeader →
      (⟨bytes, none⟩ : ClientRequestMsg).getType ≠ some .maintPurgeLocals)
    (hwhole : op = .readData → 34 ≤ bytes.length)
    (hexists : ∀ i, late i → assetExists v.getUUID = true) :
    Delivers v late m (c.onSocket assetExists op bytes) := by
  have honly (hconn : c.connected = true) :
      c.socket = [op] ∧ (op = .readData → c.responses.length < c.headers.length) := by
    cases hstand with
    | gone h => simp [hconn] at h
    | storing working | searching working => simp [working.socket] at hop
    | lost _ socket => simp [socket] at hop
    | body socket owes =>
      obtain rfl : op = .readData := by simpa [socket] using hop
      exact ⟨socket, fun _ => owes ▸ Nat.lt_succ_self _⟩
    | reading socket | writingHeader socket | writingData socket =>
      rw [socket, List.mem_singleton] at hop
      exact ⟨hop ▸ socket, fun hread => by simp [hread] at hop⟩
  have hsocket (hconn : c.connected = true) : c.socket.erase op = [] := by simp [(honly hconn).1]
  have herased : Kept v late m { c with socket := c.socket.erase op } :=
    { h with body := fun hconn hmem => h.body hconn (List.mem_of_mem_erase hmem) }
  cases op with
  | readHeader =>
    refine delivers_dispatch (c := { c with
        socket := _, currentRequest := ⟨bytes, none⟩, headers := c.headers ++ [bytes] })
      ⟨h.right, ?_, fun hconn hmem => ?_⟩ ?_ rfl (hspared rfl) (hexists _)
    · exact h.owed.trans (by simp)
    · have hnil : c.socket.erase .readHeader = [] := hsocket hconn
      exact absurd (hnil ▸ hmem) List.not_mem_nil
    · have := h.owed
      simp only [List.length_append, List.length_singleton]
      omega
  | readData =>
    have hput (hconn : c.connected = true) := h.body hconn hop
    refine delivers_ifValidUUID (c := { c with
        socket := _, currentRequest := { c.currentRequest with data := some bytes } })
      ⟨h.right, h.owed, fun hconn _ => hput hconn⟩ (fun hconn => (honly hconn).2 rfl)
      (fun hvalid => ?_) (fun hconn => ⟨hput hconn, rfl⟩) fun hconn _ _ => ?_
    · have hlt : bytes.length < 2 ^ 32 := hsize.trans_lt c.currentRequest.getDataSize_lt
      exact ⟨⟨⟨bytes⟩, hwhole rfl, hlt, hvalid⟩, rfl⟩
    · have htype : ClientRequestMsg.getType { c.currentRequest with data := some bytes } =
          some .put := hput hconn
      simp [IsGet, htype]
  | writeHeader response =>
    refine Kept.delivers ?_
    show Kept v late m (handleResponseHeaderWrite _ response)
    unfold handleResponseHeaderWrite
    split_ifs
    · exact herased.start nofun
    · exact herased.waitForRequest hsocket
  | writeData response => exact Kept.delivers (herased.waitForRequest hsocket)

lemma delivers_onSocketError (h : Kept v late m c) (op : SocketOp) :
    Delivers v late m (c.onSocketError op, none) :=
  Kept.delivers ⟨h.right, h.owed, nofun⟩

/-- The storage answers. -/
lemma delivers_onReply (h : Kept v late m c)
    (howes : c.connected = true → c.responses.length < c.headers.length)
    {handler : SessionHandler} {completion : Completion}
    (hbacked : c.connected = true →
      Backed v (late c.responses.length) m c.currentRequest handler (.answered completion))
    {reply : Reply} (hreply : handler.reply completion = some reply) :
    Delivers v late m (c.onReply reply) := by
  cases handler with
  | storageGet =>
    cases completion with
    | got asset success error =>
      cases hreply
      show Delivers v late m (c.handleStorageGetResponse asset success)
      unfold handleStorageGetResponse
      split
      · next asset =>
        refine Kept.delivers (h.sendResponse howes fun hconn => ?_)
        obtain ⟨hget, hlate⟩ := hbacked hconn
        refine ⟨fun hput _ => ?_, fun hl => ⟨fun _ huuid => ?_, fun htest => ?_, fun hput => ?_⟩⟩
        · simp [IsGet, hput] at hget
        · obtain ⟨hasset, -⟩ := hlate hl huuid
          rw [Option.some.inj hasset]
        · simp [IsGet, htest] at hget
        · simp [IsGet, hput] at hget
      · next hmissed =>
        have hsought (hconn : c.connected = true) :
            Sought v (late c.responses.length) c.currentRequest := by
          obtain ⟨hget, hlate⟩ := hbacked hconn
          refine ⟨hget, fun ⟨hl, huuid⟩ => ?_⟩
          obtain ⟨hasset, hsuccess⟩ := hlate hl huuid
          exact hmissed _ hsuccess hasset
        simp only
        split_ifs
        · refine ⟨h, fun call hcall => ?_, fun hconn call hcall => ?_⟩
          · exact Option.some.inj hcall ▸ trivial
          · exact Option.some.inj hcall ▸ hsought hconn
        · refine Kept.delivers (h.sendResponse howes fun hconn => ?_)
          exact right_make (fun _ => by decide)
            (fun hl huuid => absurd ⟨hl, huuid⟩ (hsought hconn).2) _ _
    | _ => cases hreply
  | storageWrite =>
    cases completion with
    | stored success error =>
      cases hreply
      refine Kept.delivers ?_
      show Kept v late m (c.confirm success error)
      unfold confirm
      split_ifs with hsuccess
      · refine h.sendResponse howes fun hconn => ?_
        obtain ⟨hput, hstored⟩ := hbacked hconn
        obtain ⟨a, hdata, ha, hother⟩ := hstored hsuccess
        refine ⟨fun _ _ => ⟨a, hdata, ha⟩, fun hl => ⟨?_, ?_, fun _ huuid => ?_⟩⟩
        · simp [IsGet, hput]
        · simp [hput]
        · rw [hdata] at huuid
          exact absurd huuid (hother hl)
      · refine h.sendResponse howes fun hconn => ?_
        obtain ⟨hput, -⟩ := hbacked hconn
        exact right_make (fun _ => by decide) (by simp [IsGet, hput]) _ _
    | _ => cases hreply
  | storagePurge =>
    cases completion with
    | stored success error =>
      cases hreply
      have hright (hconn : c.connected = true) (code : ResponseCode) (uuid : ByteString)
          (data : Option ByteString) : Right v (late c.responses.length) m c.currentRequest
            (.make code uuid data) := by
        have hpurge : c.currentRequest.getType = some .purge := hbacked hconn
        exact right_make (by simp [hpurge]) (by simp [IsGet, hpurge]) _ _
      refine Kept.delivers ?_
      show Kept v late m (c.confirm success error)
      unfold confirm
      split_ifs
      · exact h.sendResponse howes fun hconn => hright hconn _ _ _
      · exact h.sendResponse howes fun hconn => hright hconn _ _ _
    | _ => cases hreply
  | statusGet | storedAssetIdsGet =>
    cases completion with
    | completed journal =>
      cases hreply
      refine Kept.delivers (h.sendResponse howes fun hconn => ?_)
      have htype := hbacked hconn
      simp only [Backed] at htype
      exact right_make (by simp [htype]) (by simp [IsGet, htype]) _ _
    | _ => cases hreply

/-- The mesh answers. -/
lemma Kept.intrameshGet (h : Kept v late m c)
    (howes : c.connected = true → c.responses.length < c.headers.length)
    (hsought : c.connected = true → Sought v (late c.responses.length) c.currentRequest)
    (uuid : ByteString) (asset : Option Asset) :
    Kept v late m (c.handleIntrameshGetResponse uuid asset) := by
  have hright (hconn : c.connected = true) {code : ResponseCode} (hcode : code ≠ .ok)
      (uuid : ByteString) (data : Option ByteString) :
      Right v (late c.responses.length) m c.currentRequest (.make code uuid data) :=
    right_make (fun _ => hcode) (fun hl huuid => absurd ⟨hl, huuid⟩ (hsought hconn).2) _ _
  cases asset with
  | none => exact h.sendResponse howes fun hconn => hright hconn (by decide) _ _
  | some asset => exact h.sendResponse howes fun hconn => hright hconn (by decide) _ _

end Sessions

end AssetServer

end Whip
