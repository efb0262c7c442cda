import Whip.Mesh.MeshServer

/-!
# The packets of the query connections

A packet has 38 bytes. The first says what it is; an identifier or the flags of a heartbeat follow,
and after the identifier of a response its result. What is left is zero.
-/

namespace Whip

open Bytes

/-- `IntraMeshMsg::_data`. -/
structure IntraMeshPacket where
  data : ByteString
deriving DecidableEq

namespace IntraMeshPacket

inductive RequestType
  | meshQuery
  | meshResponse
  | statusHeartbeat
deriving DecidableEq

def RequestType.code : RequestType → UInt8
  | meshQuery       => 0
  | meshResponse    => 1
  | statusHeartbeat => 2

/-- `none` for a byte that is not one of the enumeration's values. -/
def RequestType.ofCode (b : UInt8) : Option RequestType :=
  [meshQuery, meshResponse, statusHeartbeat].find? (·.code == b)

inductive QueryResult
  | notFound
  | found
  | error
deriving DecidableEq

def QueryResult.code : QueryResult → UInt8
  | notFound => 0
  | found    => 1
  | error    => 2

def QueryResult.ofCode (b : UInt8) : Option QueryResult :=
  [notFound, found, error].find? (·.code == b)

def MAX_PACKET : ℕ := 38

def MESH_RESPONSE_CODE_LOC : ℕ := 33

def HEARTBEAT_FLAGS_LOC : ℕ := 1

/-- `std::vector::resize`. -/
def resize (data : ByteString) (n : ℕ) : ByteString :=
  data.take n ++ List.replicate (n - data.length) 0

/-! ### Constructors -/

def ofQuery (assetUUID : ByteString) : IntraMeshPacket :=
  ⟨resize (RequestType.meshQuery.code :: assetUUID) MAX_PACKET⟩

def ofResponse (assetUUID : ByteString) (result : QueryResult) : IntraMeshPacket :=
  ⟨resize (RequestType.meshResponse.code :: assetUUID ++ [result.code]) MAX_PACKET⟩

/-- The mask is an `int`, of which the bits are written. -/
def ofHeartbeat (heartBeatMask : UInt32) : IntraMeshPacket :=
  ⟨resize (RequestType.statusHeartbeat.code :: toBigEndian heartBeatMask.toNat) MAX_PACKET⟩

lemma data_ofQuery {uuid : ByteString} (h : uuid.length = 32) :
    (ofQuery uuid).data = 0 :: (uuid ++ List.replicate 5 0) := by
  simp [ofQuery, resize, MAX_PACKET, RequestType.code, List.take_of_length_le, h]

lemma data_ofResponse {uuid : ByteString} (h : uuid.length = 32) (result : QueryResult) :
    (ofResponse uuid result).data = 1 :: (uuid ++ result.code :: List.replicate 4 0) := by
  simp [ofResponse, resize, MAX_PACKET, RequestType.code, List.take_of_length_le, h]

lemma data_ofHeartbeat (mask : UInt32) :
    (ofHeartbeat mask).data = 2 :: (toBigEndian mask.toNat ++ List.replicate 33 0) := by
  simp [ofHeartbeat, resize, MAX_PACKET, RequestType.code, toBigEndian]

/-! ### Accessors -/

def getRequestType (p : IntraMeshPacket) : Option RequestType :=
  p.data.head?.bind RequestType.ofCode

def getQueryResult (p : IntraMeshPacket) : Option QueryResult :=
  p.data[MESH_RESPONSE_CODE_LOC]?.bind QueryResult.ofCode

def getHeartbeatFlags (p : IntraMeshPacket) : UInt32 :=
  UInt32.ofNat (ofBigEndian ((p.data.drop HEARTBEAT_FLAGS_LOC).take 4))

/-- The identifier begins where the flags of a heartbeat do. -/
def getAssetUUID (p : IntraMeshPacket) : ByteString :=
  (p.data.drop HEARTBEAT_FLAGS_LOC).take Validator.UUID_LEN

def validate (p : IntraMeshPacket) : Bool :=
  match p.getRequestType with
  | some .meshQuery | some .meshResponse =>
    p.data.length == MAX_PACKET && Validator.isValidUUID p.getAssetUUID
  | some .statusHeartbeat => p.data.length == MAX_PACKET
  | none => false

end IntraMeshPacket

/-! ### Round trips -/

/-- What a packet is built from. -/
inductive IntraMeshValue
  | query (uuid : AssetId)
  | response (uuid : AssetId) (result : IntraMeshPacket.QueryResult)
  | heartbeat (mask : UInt32)

namespace IntraMeshValue

def packet : IntraMeshValue → IntraMeshPacket
  | .query uuid           => .ofQuery uuid.text
  | .response uuid result => .ofResponse uuid.text result
  | .heartbeat mask       => .ofHeartbeat mask

/-- The accessors give back what the packet was built from. -/
def ReadFrom (p : IntraMeshPacket) : IntraMeshValue → Prop
  | .query uuid => p.getRequestType = some .meshQuery ∧ p.getAssetUUID = uuid.text
  | .response uuid result =>
    p.getRequestType = some .meshResponse ∧ p.getAssetUUID = uuid.text ∧
      p.getQueryResult = some result
  | .heartbeat mask => p.getRequestType = some .statusHeartbeat ∧ p.getHeartbeatFlags = mask

lemma ReadFrom.unique {p : IntraMeshPacket} {v v' : IntraMeshValue} (h : ReadFrom p v)
    (h' : ReadFrom p v') : v = v' := by
  cases v <;> cases v' <;> simp_all [ReadFrom, AssetId.ext_iff]

lemma readFrom_packet (v : IntraMeshValue) : ReadFrom v.packet v := by
  cases v with
  | query uuid =>
    have hdata := IntraMeshPacket.data_ofQuery uuid.length_text
    refine ⟨?_, ?_⟩
    · simp [packet, IntraMeshPacket.getRequestType, hdata]
      rfl
    · simp [packet, IntraMeshPacket.getAssetUUID, hdata, IntraMeshPacket.HEARTBEAT_FLAGS_LOC,
        Validator.UUID_LEN, ← uuid.length_text]
  | response uuid result =>
    have hdata := IntraMeshPacket.data_ofResponse uuid.length_text result
    refine ⟨?_, ?_, ?_⟩
    · simp [packet, IntraMeshPacket.getRequestType, hdata]
      rfl
    · simp [packet, IntraMeshPacket.getAssetUUID, hdata, IntraMeshPacket.HEARTBEAT_FLAGS_LOC,
        Validator.UUID_LEN, ← uuid.length_text]
    · have hcode : (IntraMeshPacket.ofResponse uuid.text result).data[33]? = some result.code := by
        simp [hdata, uuid.length_text]
      simp only [packet, IntraMeshPacket.getQueryResult, IntraMeshPacket.MESH_RESPONSE_CODE_LOC,
        hcode]
      cases result <;> rfl
  | heartbeat mask =>
    have hdata := IntraMeshPacket.data_ofHeartbeat mask
    refine ⟨?_, ?_⟩
    · simp [packet, IntraMeshPacket.getRequestType, hdata]
      rfl
    · have hbytes : ((IntraMeshPacket.ofHeartbeat mask).data.drop 1).take 4 =
          toBigEndian mask.toNat := by
        rw [hdata]
        exact List.take_left' (length_toBigEndian _)
      simp only [packet, IntraMeshPacket.getHeartbeatFlags, IntraMeshPacket.HEARTBEAT_FLAGS_LOC]
      rw [hbytes, ofBigEndian_toBigEndian mask.toNat_lt, UInt32.ofNat_toNat]

lemma length_packet (v : IntraMeshValue) : v.packet.data.length = IntraMeshPacket.MAX_PACKET := by
  cases v with
  | query uuid =>
    simp [packet, IntraMeshPacket.data_ofQuery, IntraMeshPacket.MAX_PACKET, uuid.length_text]
  | response uuid result =>
    simp [packet, IntraMeshPacket.data_ofResponse, IntraMeshPacket.MAX_PACKET, uuid.length_text]
  | heartbeat mask => simp [packet, IntraMeshPacket.data_ofHeartbeat, IntraMeshPacket.MAX_PACKET]

lemma validate_packet (v : IntraMeshValue) : v.packet.validate = true := by
  have hlength := v.length_packet
  have hread := v.readFrom_packet
  cases v with
  | query uuid => simp [IntraMeshPacket.validate, hread.1, hread.2, hlength, uuid.valid]
  | response uuid result => simp [IntraMeshPacket.validate, hread.1, hread.2.1, hlength, uuid.valid]
  | heartbeat mask => simp [IntraMeshPacket.validate, hread.1, hlength]

end IntraMeshValue

namespace IntraMeshPacket

lemma RequestType.ofCode_eq_some {b : UInt8} {t : RequestType} :
    RequestType.ofCode b = some t ↔ b = t.code := by
  constructor
  · intro h
    have := List.find?_some h
    simpa using (beq_iff_eq.mp this).symm
  · rintro rfl
    cases t <;> rfl

lemma RequestType.ofCode_eq_none {b : UInt8} :
    RequestType.ofCode b = none ↔ b ≠ 0 ∧ b ≠ 1 ∧ b ≠ 2 := by
  simp [RequestType.ofCode, RequestType.code, @eq_comm _ _ b]

/-- The identifier of a whole packet, byte by byte. -/
lemma isValidUUID_iff {b : UInt8} {rest : ByteString} (h : 32 ≤ rest.length) :
    Validator.isValidUUID (⟨b :: rest⟩ : IntraMeshPacket).getAssetUUID = true ↔
      ∀ i : Fin 32, ∃ ch, rest[i.val]? = some ch ∧ isHexChar ch = true := by
  have hid : (⟨b :: rest⟩ : IntraMeshPacket).getAssetUUID = rest.take 32 := rfl
  simp only [hid, Validator.isValidUUID, Validator.UUID_LEN, List.length_take, Nat.min_eq_left h,
    BEq.rfl, Bool.true_and, List.all_eq_true]
  constructor
  · intro hall i
    have hi : i.val < rest.length := by omega
    refine ⟨rest[i.val], List.getElem?_eq_getElem hi, hall _ ?_⟩
    exact List.mem_take_iff_getElem.mpr ⟨i, by omega, rfl⟩
  · intro hall ch hch
    obtain ⟨i, hi, rfl⟩ := List.mem_take_iff_getElem.mp hch
    obtain ⟨ch, hget, hhex⟩ := hall ⟨i, by omega⟩
    rw [List.getElem?_eq_getElem (by omega)] at hget
    exact Option.some.inj hget ▸ hhex

/-- On 38 bytes, the packets that are accepted are heartbeats of any content, and queries and
responses with a valid identifier. -/
lemma validate_iff {s : ByteString} (h : s.length = 38) :
    (⟨s⟩ : IntraMeshPacket).validate = true ↔
      s[0]? = some 2 ∨ (s[0]? = some 0 ∨ s[0]? = some 1) ∧
        ∀ i : Fin 32, ∃ ch, s[i.val + 1]? = some ch ∧ isHexChar ch = true := by
  match s, h with
  | b :: rest, h =>
    have hrest : rest.length = 37 := by simpa using h
    have hvalid := isValidUUID_iff (b := b) (show 32 ≤ rest.length by omega)
    simp only [List.getElem?_cons_zero, List.getElem?_cons_succ, Option.some.injEq, ← hvalid]
    have htype : (⟨b :: rest⟩ : IntraMeshPacket).getRequestType = RequestType.ofCode b := rfl
    have hlen : (b :: rest).length = MAX_PACKET := h
    simp only [validate, htype, hlen, BEq.rfl, Bool.true_and]
    cases hcode : RequestType.ofCode b with
    | none =>
      obtain ⟨h0, h1, h2⟩ := RequestType.ofCode_eq_none.mp hcode
      simp [h0, h1, h2]
    | some t =>
      rw [RequestType.ofCode_eq_some.mp hcode]
      cases t <;> simp [RequestType.code]

end IntraMeshPacket

/-- Packets are read back as what they were built from, different ones differ, and exactly the well
formed byte strings are accepted. -/
theorem packets_round_trip :
    (∀ v : IntraMeshValue, v.packet.data.length = 38 ∧ v.packet.validate = true ∧
      IntraMeshValue.ReadFrom v.packet v) ∧
    Function.Injective (fun v : IntraMeshValue => v.packet.data) ∧
    ∀ s : { s : ByteString // s.length = 38 }, (⟨s.1⟩ : IntraMeshPacket).validate = true ↔
      s.1[0]? = some 2 ∨ (s.1[0]? = some 0 ∨ s.1[0]? = some 1) ∧
        ∀ i : Fin 32, ∃ ch, s.1[i.val + 1]? = some ch ∧ isHexChar ch = true := by
  refine ⟨fun v => ⟨v.length_packet, v.validate_packet, v.readFrom_packet⟩, fun v v' h => ?_,
    fun s => IntraMeshPacket.validate_iff s.2⟩
  have hpacket : v.packet = v'.packet := congrArg IntraMeshPacket.mk h
  exact v.readFrom_packet.unique (hpacket ▸ v'.readFrom_packet)

end Whip
