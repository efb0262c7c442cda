import Whip.Asset
import Whip.Lib.Bytes

/-!
# Requests and responses on the wire

A request is a header of 37 bytes (type, identifier, size of what follows) and, for a put, the
asset. A response has a header of the same shape, with a response code, and possibly data.
-/

namespace Whip

open Bytes

/-- The bytes of a text, one for each of its characters. -/
def textBytes (s : String) : ByteString := s.toList.map fun ch => UInt8.ofNat ch.toNat

/-! ### Client requests -/

inductive RequestType
  | get
  | put
  | purge
  | test
  | maintPurgeLocals
  | statusGet
  | storedAssetIdsGet
  | getDontCache
deriving DecidableEq

namespace RequestType

def code : RequestType → UInt8
  | get               => 10
  | put               => 11
  | purge             => 12
  | test              => 13
  | maintPurgeLocals  => 14
  | statusGet         => 15
  | storedAssetIdsGet => 16
  | getDontCache      => 17

def ofCode (b : UInt8) : Option RequestType :=
  [get, put, purge, test, maintPurgeLocals, statusGet, storedAssetIdsGet, getDontCache].find?
    (·.code == b)

@[simp] lemma ofCode_code (t : RequestType) : ofCode t.code = some t := by
  cases t <;> rfl

end RequestType

structure ClientRequestMsg where
  header : ByteString
  data : Option ByteString := none
deriving DecidableEq

namespace ClientRequestMsg

def HEADER_SIZE : ℕ := 37

def DATA_SIZE_MARKER_LOC : ℕ := 33

/-- The constructor for everything but a put. -/
def ofId (type : RequestType) (uuid : ByteString) : ClientRequestMsg where
  header := type.code :: uuid ++ List.replicate 4 0

/-- The constructor for a put. -/
def ofAsset (asset : Asset) : ClientRequestMsg where
  header := RequestType.put.code :: asset.getUUID ++ toBigEndian asset.data.length
  data := some asset.data

/-- `none` is `RequestError`. -/
def getType (msg : ClientRequestMsg) : Option RequestType :=
  msg.header.head?.bind RequestType.ofCode

def getUUID (msg : ClientRequestMsg) : ByteString := (msg.header.drop 1).take 32

def getDataSize (msg : ClientRequestMsg) : ℕ :=
  ofBigEndian ((msg.header.drop DATA_SIZE_MARKER_LOC).take 4)

/-- What is written to the connection. -/
def bytes (msg : ClientRequestMsg) : ByteString := msg.header ++ msg.data.getD []

lemma getDataSize_lt (msg : ClientRequestMsg) : msg.getDataSize < 2 ^ 32 :=
  calc msg.getDataSize
    _ < 256 ^ ((msg.header.drop DATA_SIZE_MARKER_LOC).take 4).length := ofBigEndian_lt_pow _
    _ ≤ 256 ^ 4 := Nat.pow_le_pow_right (by decide) (List.length_take_le _ _)

variable {type : RequestType} {uuid : ByteString} {asset : Asset}

lemma length_ofId (h : uuid.length = 32) : (ofId type uuid).header.length = HEADER_SIZE := by
  simp [ofId, h, HEADER_SIZE]

@[simp] lemma getType_ofId : (ofId type uuid).getType = some type := by
  simp [ofId, getType]

lemma getUUID_ofId (h : uuid.length = 32) : (ofId type uuid).getUUID = uuid := by
  simp [ofId, getUUID, ← h]

lemma length_ofAsset (h : 32 ≤ asset.data.length) :
    (ofAsset asset).header.length = HEADER_SIZE := by
  simp [ofAsset, Asset.getUUID, HEADER_SIZE, h]

@[simp] lemma getType_ofAsset : (ofAsset asset).getType = some .put := by
  simp [ofAsset, getType]

lemma getUUID_ofAsset (h : 32 ≤ asset.data.length) :
    (ofAsset asset).getUUID = asset.getUUID := by
  have hid : asset.getUUID.length = 32 := by simp [Asset.getUUID, h]
  simp [ofAsset, getUUID, ← hid]

lemma getDataSize_ofAsset (h : 32 ≤ asset.data.length) (hlt : asset.data.length < 2 ^ 32) :
    (ofAsset asset).getDataSize = asset.data.length := by
  have hid : asset.getUUID.length = 32 := by simp [Asset.getUUID, h]
  have hsize : ((ofAsset asset).header.drop DATA_SIZE_MARKER_LOC).take 4 =
      toBigEndian asset.data.length := by
    simp [ofAsset, DATA_SIZE_MARKER_LOC, hid]
  rw [getDataSize, hsize, ofBigEndian_toBigEndian hlt]

end ClientRequestMsg

/-! ### Server responses -/

inductive ResponseCode
  | found
  | notFound
  | error
  | ok
deriving DecidableEq

namespace ResponseCode

def code : ResponseCode → UInt8
  | found    => 10
  | notFound => 11
  | error    => 12
  | ok       => 13

def ofCode (b : UInt8) : Option ResponseCode := [found, notFound, error, ok].find? (·.code == b)

@[simp] lemma ofCode_code (c : ResponseCode) : ofCode c.code = some c := by
  cases c <;> rfl

end ResponseCode

structure ServerResponseMsg where
  header : ByteString
  data : Option ByteString := none
deriving DecidableEq

namespace ServerResponseMsg

def HEADER_SIZE : ℕ := 37

def DATA_LEN_MARKER_LOC : ℕ := 33

/-- The constructors: without data, or with an array or a text. -/
def make (code : ResponseCode) (assetUUID : ByteString) (data : Option ByteString := none) :
    ServerResponseMsg where
  header := code.code :: assetUUID ++ toBigEndian (data.getD []).length
  data := data

/-- `none` where `validateHeader` fails. -/
def getResponseCode (msg : ServerResponseMsg) : Option ResponseCode :=
  if msg.header.length = HEADER_SIZE then msg.header.head?.bind ResponseCode.ofCode else none

def getUUID (msg : ServerResponseMsg) : ByteString := (msg.header.drop 1).take 32

def getDataSize (msg : ServerResponseMsg) : ℕ :=
  ofBigEndian ((msg.header.drop DATA_LEN_MARKER_LOC).take 4)

/-- What is written to the connection, the header first. -/
def bytes (msg : ServerResponseMsg) : ByteString := msg.header ++ msg.data.getD []

variable {code : ResponseCode} {uuid : ByteString} {data : Option ByteString}

lemma length_make (h : uuid.length = 32) : (make code uuid data).header.length = HEADER_SIZE := by
  simp [make, h, HEADER_SIZE]

lemma getResponseCode_make (h : uuid.length = 32) :
    (make code uuid data).getResponseCode = some code := by
  rw [getResponseCode, if_pos (length_make h)]
  simp [make]

lemma getUUID_make (h : uuid.length = 32) : (make code uuid data).getUUID = uuid := by
  simp [make, getUUID, ← h]

lemma getDataSize_make (h : uuid.length = 32) (hlt : (data.getD []).length < 2 ^ 32) :
    (make code uuid data).getDataSize = (data.getD []).length := by
  have hsize : ((make code uuid data).header.drop DATA_LEN_MARKER_LOC).take 4 =
      toBigEndian (data.getD []).length := by
    simp [make, DATA_LEN_MARKER_LOC, h]
  rw [getDataSize, hsize, ofBigEndian_toBigEndian hlt]

end ServerResponseMsg

/-- The read of a response that is outstanding. -/
inductive ReadOp
  | header
  | data (response : ServerResponseMsg)
  | errorData (response : ServerResponseMsg)
deriving DecidableEq

/-- How many bytes an outstanding read asks for. -/
def ReadOp.size : ReadOp → ℕ
  | header             => ServerResponseMsg.HEADER_SIZE
  | data response      => response.getDataSize
  | errorData response => response.getDataSize

end Whip
