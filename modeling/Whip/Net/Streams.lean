import Whip.Lib.Framing
import Whip.Net.CSAuthenticated
import Whip.Net.RemoteAssetService

/-!
# Streams of requests and responses

Requests and responses are written one after the other. The session takes a header and, for a put,
as many bytes as the header says; the service takes a header and then as many bytes as it says,
whatever the code. Both read back what was written.
-/

namespace Whip

open Framing Bytes

/-! ### Requests -/

/-- How a session reads requests. -/
def requestFormat : Format UInt8 where
  headerSize := ClientRequestMsg.HEADER_SIZE
  headerSize_pos := by decide
  bodySize header :=
    let msg : ClientRequestMsg := ⟨header, none⟩
    if msg.getType = some .put then msg.getDataSize else 0

/-- What the constructors of `ClientRequestMsg` are given. -/
inductive OutgoingRequest
  | ofId (type : RequestType) (notPut : type ≠ .put) (uuid : ByteString) (size : uuid.length = 32)
  | ofAsset (asset : Asset) (size_ge : 34 ≤ asset.data.length)
    (size_lt : asset.data.length < 2 ^ 32)

namespace OutgoingRequest

def message : OutgoingRequest → ClientRequestMsg
  | .ofId type _ uuid _  => .ofId type uuid
  | .ofAsset asset _ _   => .ofAsset asset

def type : OutgoingRequest → RequestType
  | .ofId type _ _ _ => type
  | .ofAsset _ _ _   => .put

def uuid : OutgoingRequest → ByteString
  | .ofId _ _ uuid _   => uuid
  | .ofAsset asset _ _ => asset.getUUID

def data : OutgoingRequest → ByteString
  | .ofId _ _ _ _      => []
  | .ofAsset asset _ _ => asset.data

def frame (r : OutgoingRequest) : Frame UInt8 := ⟨r.message.header, r.data⟩

lemma bytes_frame (r : OutgoingRequest) : r.frame.bytes = r.message.bytes := by
  cases r <;> rfl

lemma fits_frame (r : OutgoingRequest) : requestFormat.Fits r.frame := by
  cases r with
  | ofId type notPut uuid size =>
    refine ⟨ClientRequestMsg.length_ofId size, ?_⟩
    change (if (ClientRequestMsg.ofId type uuid).getType = some .put then _ else _) = _
    simp [notPut, frame, data]
  | ofAsset asset size_ge size_lt =>
    have hge : 32 ≤ asset.data.length := by omega
    refine ⟨ClientRequestMsg.length_ofAsset hge, ?_⟩
    have hsize : (⟨(ClientRequestMsg.ofAsset asset).header, none⟩ : ClientRequestMsg).getDataSize =
        asset.data.length := ClientRequestMsg.getDataSize_ofAsset hge size_lt
    have htype : (⟨(ClientRequestMsg.ofAsset asset).header, none⟩ : ClientRequestMsg).getType =
        some .put := ClientRequestMsg.getType_ofAsset
    simp only [requestFormat, frame, message, data, htype, hsize, if_true]

end OutgoingRequest

/-- The type, the identifier and the data of a request that was read. -/
def readRequest (frame : Frame UInt8) : Option RequestType × ByteString × ByteString :=
  let msg : ClientRequestMsg := ⟨frame.header, none⟩
  (msg.getType, msg.getUUID, frame.body)

lemma readRequest_frame (r : OutgoingRequest) :
    readRequest r.frame = (some r.type, r.uuid, r.data) := by
  cases r with
  | ofId type notPut uuid size =>
    have htype : (ClientRequestMsg.ofId type uuid).getType = some type := by simp
    exact Prod.ext htype (Prod.ext (ClientRequestMsg.getUUID_ofId size) rfl)
  | ofAsset asset size_ge size_lt =>
    have htype : (ClientRequestMsg.ofAsset asset).getType = some .put := by simp
    exact Prod.ext htype (Prod.ext (ClientRequestMsg.getUUID_ofAsset (by omega)) rfl)

/-- All requests of a stream, and what is left over. -/
def readRequests (s : ByteString) :
    List (Option RequestType × ByteString × ByteString) × ByteString :=
  ((requestFormat.readAll s).1.map readRequest, (requestFormat.readAll s).2)

open CSAuthenticated in
/-- The body of the format is what a session reads after a header. -/
lemma bodySize_eq_session {c : CSAuthenticated} (hsocket : c.socket = [.readHeader])
    (hconn : c.connected = true) (assetExists : ByteString → Bool) (header : ByteString) :
    requestFormat.bodySize header =
      let c' := (c.onSocket assetExists .readHeader header).1
      (c'.socket.filterMap c'.readSize).sum := by
  simp only [onSocket, hsocket, handleClientRequestHeaderRead, List.erase_cons_head, requestFormat]
  cases htype : (⟨header, none⟩ : ClientRequestMsg).getType with
  | none => simp [dispatch, disconnect]
  | some type =>
    cases type with
    | put => simp [dispatch, handlePutRequest, start, hconn, readSize]
    | get | getDontCache | purge =>
      cases hvalid : Validator.isValidUUID (⟨header, none⟩ : ClientRequestMsg).getUUID <;>
        simp [dispatch, handleGetRequest, handlePurgeRequest, ifValidUUID, hvalid, sendError,
          sendResponse, start, hconn, readSize]
    | test =>
      cases hvalid : Validator.isValidUUID (⟨header, none⟩ : ClientRequestMsg).getUUID <;>
        simp [dispatch, handleTestRequest, hvalid, sendError, sendResponse, start, hconn, readSize]
    | maintPurgeLocals => simp [dispatch, handlePurgeLocals, sendResponse, start, hconn, readSize]
    | statusGet => simp [dispatch, handleStatusGet]
    | storedAssetIdsGet => simp [dispatch, handleStoredAssetIdsGet]

/-! ### Responses -/

/-- How a service reads responses. -/
def responseFormat : Format UInt8 where
  headerSize := ServerResponseMsg.HEADER_SIZE
  headerSize_pos := by decide
  bodySize header := (⟨header, none⟩ : ServerResponseMsg).getDataSize

/-- What the constructors of `ServerResponseMsg` are given: no data, an array or a text. -/
structure OutgoingResponse where
  code : ResponseCode
  uuid : ByteString
  data : Option ByteString
  size : uuid.length = 32
  size_lt : (data.getD []).length < 2 ^ 32

namespace OutgoingResponse

def message (r : OutgoingResponse) : ServerResponseMsg := .make r.code r.uuid r.data

def frame (r : OutgoingResponse) : Frame UInt8 := ⟨r.message.header, r.data.getD []⟩

lemma fits_frame (r : OutgoingResponse) : responseFormat.Fits r.frame where
  header := ServerResponseMsg.length_make r.size
  body := ServerResponseMsg.getDataSize_make r.size r.size_lt

end OutgoingResponse

/-- The code, the identifier and the data of a response that was read. -/
def readResponse (frame : Frame UInt8) : Option ResponseCode × ByteString × ByteString :=
  let msg : ServerResponseMsg := ⟨frame.header, none⟩
  (msg.getResponseCode, msg.getUUID, frame.body)

lemma readResponse_frame (r : OutgoingResponse) :
    readResponse r.frame = (some r.code, r.uuid, r.data.getD []) :=
  Prod.ext (ServerResponseMsg.getResponseCode_make r.size)
    (Prod.ext (ServerResponseMsg.getUUID_make r.size) rfl)

/-- All responses of a stream, and what is left over. -/
def readResponses (s : ByteString) :
    List (Option ResponseCode × ByteString × ByteString) × ByteString :=
  ((responseFormat.readAll s).1.map readResponse, (responseFormat.readAll s).2)

/-- The body of the format is what a service reads after a valid header: the data, the text of an
error, or nothing. -/
lemma bodySize_eq_service {κ : Type} {s s' : RemoteAssetService κ} {header : ByteString}
    (hreading : s.reading = none) {code : ResponseCode}
    (hcode : (⟨header, none⟩ : ServerResponseMsg).getResponseCode = some code)
    (h : s.onReadResponseHeader header = some s') :
    responseFormat.bodySize header = s'.reading.elim 0 ReadOp.size := by
  simp only [RemoteAssetService.onReadResponseHeader, hcode] at h
  cases code with
  | found | ok =>
    cases h
    rfl
  | notFound | error =>
    simp only at h
    split_ifs at h with hsize
    · cases h
      rfl
    · obtain ⟨c, -, rfl⟩ := Option.map_eq_some_iff.mp h
      simp only [responseFormat, hreading, Option.elim_none]
      omega

/-! ### Round trips -/

/-- Streams of requests and of responses decode to what was encoded, with no byte left over. -/
theorem streams_decode (requests : List OutgoingRequest) (responses : List OutgoingResponse) :
    readRequests (requests.flatMap (·.message.bytes)) =
        (requests.map fun r => (some r.type, r.uuid, r.data), []) ∧
      readResponses (responses.flatMap (·.message.bytes)) =
        (responses.map fun r => (some r.code, r.uuid, r.data.getD []), []) := by
  constructor
  · have hbytes : requests.flatMap (·.message.bytes) =
      (requests.map (·.frame)).flatMap Frame.bytes := by
      simp [List.flatMap_map, OutgoingRequest.bytes_frame]
    have hread := Format.readAll_flatMap (f := requestFormat)
      (List.forall_mem_map.mpr fun r (_ : r ∈ requests) => r.fits_frame)
    simp [readRequests, hbytes, hread, readRequest_frame]
  · have hbytes : responses.flatMap (·.message.bytes) =
        (responses.map (·.frame)).flatMap Frame.bytes := by
      simp only [List.flatMap_map]
      rfl
    have hread := Format.readAll_flatMap (f := responseFormat)
      (List.forall_mem_map.mpr fun r (_ : r ∈ responses) => r.fits_frame)
    simp [readResponses, hbytes, hread, readResponse_frame]

end Whip
