import Whip.Net.CSAuthenticated
import Whip.Lib.Machine

/-!
# Authentication of a client

A new client is sent a challenge, and its response is compared with a hash of the password and the
phrase of the challenge. `CSUnauthenticated` is the state of the connection until then; a client
that passes gets a `CSAuthenticated` session in its place.
-/

namespace Whip

/-- The hash in hexadecimal, of which nothing is known but the length. -/
@[ext] structure Digest where
  hex : ByteString → ByteString
  length_hex : ∀ b, (hex b).length = 40

/-! ### Messages -/

structure AuthChallengeMsg where
  data : ByteString
deriving DecidableEq

namespace AuthChallengeMsg

def PHRASE_SIZE : ℕ := 7

def MESSAGE_SIZE : ℕ := 8

def PACKET_IDENTIFIER : UInt8 := 0

/-- The outbound constructor, after `generatePhrase`. -/
def ofPhrase (phrase : ByteString) : AuthChallengeMsg := ⟨PACKET_IDENTIFIER :: phrase⟩

def getPhrase (msg : AuthChallengeMsg) : ByteString := (msg.data.drop 1).take PHRASE_SIZE

lemma getPhrase_ofPhrase {phrase : ByteString} (h : phrase.length = PHRASE_SIZE) :
    (ofPhrase phrase).getPhrase = phrase := by
  simp [ofPhrase, getPhrase, ← h]

lemma length_ofPhrase {phrase : ByteString} (h : phrase.length = PHRASE_SIZE) :
    (ofPhrase phrase).data.length = MESSAGE_SIZE := by
  simp [ofPhrase, h, PHRASE_SIZE, MESSAGE_SIZE]

end AuthChallengeMsg

structure AuthResponseMsg where
  data : ByteString
deriving DecidableEq

namespace AuthResponseMsg

def PACKET_IDENTIFIER : UInt8 := 0

def SERVER_IDENTIFIER : UInt8 := 100

def RESPONSE_SIZE : ℕ := 40

def MESSAGE_SIZE : ℕ := 41

def calculateChallengeResponse (H : Digest) (phrase password : ByteString) : ByteString :=
  H.hex (password ++ phrase)

/-- The constructor for a response from a server. -/
def ofChallenge (H : Digest) (challenge password : ByteString) : AuthResponseMsg :=
  ⟨SERVER_IDENTIFIER :: calculateChallengeResponse H challenge password⟩

def getChallengeResponse (msg : AuthResponseMsg) : ByteString :=
  (msg.data.drop 1).take RESPONSE_SIZE

def isServerResponse (msg : AuthResponseMsg) : Bool := msg.data.head? == some SERVER_IDENTIFIER

def isValid (H : Digest) (password : ByteString) (msg : AuthResponseMsg)
    (authChallenge : AuthChallengeMsg) : Bool :=
  if msg.data.head? != some PACKET_IDENTIFIER && msg.data.head? != some SERVER_IDENTIFIER then false
  else calculateChallengeResponse H authChallenge.getPhrase password == msg.getChallengeResponse

section

variable {H : Digest} {password : ByteString} {msg : AuthResponseMsg} {challenge : AuthChallengeMsg}

lemma isValid_iff : msg.isValid H password challenge = true ↔
    (msg.data.head? = some PACKET_IDENTIFIER ∨ msg.data.head? = some SERVER_IDENTIFIER) ∧
      H.hex (password ++ challenge.getPhrase) = msg.getChallengeResponse := by
  unfold isValid calculateChallengeResponse
  split <;> rename_i h <;> simp only [Bool.and_eq_true, bne_iff_ne, ne_eq] at h
  · simp [h]
  · simp only [beq_iff_eq]
    tauto

lemma length_ofChallenge (phrase : ByteString) :
    (ofChallenge H phrase password).data.length = MESSAGE_SIZE := by
  simp [ofChallenge, calculateChallengeResponse, H.length_hex, MESSAGE_SIZE]

variable (H password challenge) in
/-- A server that knows the password passes. -/
lemma isValid_ofChallenge :
    (ofChallenge H challenge.getPhrase password).isValid H password challenge = true := by
  refine isValid_iff.mpr ⟨.inr rfl, ?_⟩
  have hlen := H.length_hex (password ++ challenge.getPhrase)
  simp [ofChallenge, getChallengeResponse, calculateChallengeResponse, RESPONSE_SIZE, ← hlen]

end

end AuthResponseMsg

inductive AuthStatus
  | success
  | failure
deriving DecidableEq

def AuthStatus.code : AuthStatus → UInt8
  | success => 0
  | failure => 1

structure AuthStatusMsg where
  messageData : ByteString
deriving DecidableEq

namespace AuthStatusMsg

def PACKET_IDENTIFIER : UInt8 := 1

def MESSAGE_SIZE : ℕ := 2

def ofStatus (authStatus : AuthStatus) : AuthStatusMsg := ⟨[PACKET_IDENTIFIER, authStatus.code]⟩

def validate (msg : AuthStatusMsg) : Bool :=
  msg.messageData.length == MESSAGE_SIZE && msg.messageData[0]? == some PACKET_IDENTIFIER &&
    (msg.messageData[1]? == some AuthStatus.success.code ||
      msg.messageData[1]? == some AuthStatus.failure.code)

/-- `none` is a byte that is no status. -/
def getAuthStatus (msg : AuthStatusMsg) : Option AuthStatus :=
  [AuthStatus.success, AuthStatus.failure].find? fun s => msg.messageData[1]? == some s.code

end AuthStatusMsg

/-! ### The connection of a client -/

namespace CSUnauthenticated

/-- The operation on the client's socket that is outstanding. -/
inductive SocketOp
  | writeChallenge
  | readChallengeResponse
  | writeAuthSuccess
  | writeAuthFailure
deriving DecidableEq

end CSUnauthenticated

/-- `response` is what was read as the response to the challenge. -/
structure CSUnauthenticated where
  challenge : AuthChallengeMsg
  response : Option AuthResponseMsg := none
  isMeshConnection : Bool := false
  pending : Option CSUnauthenticated.SocketOp := none

/-- The bytes an outstanding write is given. -/
def CSUnauthenticated.outgoing (c : CSUnauthenticated) : ByteString :=
  match c.pending with
  | some .writeChallenge   => c.challenge.data
  | some .writeAuthSuccess => (AuthStatusMsg.ofStatus .success).messageData
  | some .writeAuthFailure => (AuthStatusMsg.ofStatus .failure).messageData
  | _                      => []

/-- The state of the connection is the `session` once there is one, and `handshake` until then.
`connected` says that the server has not forgotten the client. -/
structure AssetClient where
  handshake : CSUnauthenticated
  session : Option CSAuthenticated := none
  connected : Bool := true

namespace AssetClient

open CSUnauthenticated (SocketOp)

/-- A handler starts the next operation, if `_client` can be locked. -/
def begin (c : AssetClient) (op : SocketOp) : AssetClient :=
  { c with handshake.pending := if c.connected then some op else none }

def disconnect (c : AssetClient) : AssetClient := { c with connected := false }

/-- `start` of the initial state sends the challenge. -/
def sendAuthChallenge (phrase : ByteString) : AssetClient :=
  begin { handshake := { challenge := .ofPhrase phrase } } .writeChallenge

def handleWriteChallenge (c : AssetClient) (error : Bool) : AssetClient :=
  if !error then c.begin .readChallengeResponse else c.disconnect

/-- `none` stands for an error. -/
def handleReadChallengeResponse (H : Digest) (password : ByteString) (c : AssetClient)
    (bytes : Option ByteString) : AssetClient :=
  match bytes with
  | none => c.disconnect
  | some data =>
    let response : AuthResponseMsg := ⟨data⟩
    let c := { c with handshake.response := some response }
    if response.isValid H password c.handshake.challenge then
      let c := if c.connected && response.isServerResponse then
          { c with handshake.isMeshConnection := true } else c
      c.begin .writeAuthSuccess
    else c.begin .writeAuthFailure

def handleWriteAuthFailure (c : AssetClient) : AssetClient := c.disconnect

/-- The outcome of the write is not looked at. -/
def handleWriteAuthSuccess (c : AssetClient) : AssetClient :=
  if c.connected then
    { c with session := some { isMeshConnection := c.handshake.isMeshConnection } }
  else c

/-- What an authenticated session does next. -/
inductive SessionEvent
  | socket (assetExists : ByteString → Bool) (op : CSAuthenticated.SocketOp) (bytes : ByteString)
  | socketError (op : CSAuthenticated.SocketOp)
  | reply (reply : CSAuthenticated.Reply)

def onSession (s : CSAuthenticated) : SessionEvent → CSAuthenticated
  | .socket assetExists op bytes => (s.onSocket assetExists op bytes).1
  | .socketError op              => s.onSocketError op
  | .reply reply                 => (s.onReply reply).1

inductive Event
  | written (error : Bool)
  | read (bytes : Option ByteString)
  | forget
  | session (e : SessionEvent)

/-- The connection as seen by the server: what the peer sends is up to the peer. -/
def step (H : Digest) (password : ByteString) (c : AssetClient) : Event → Option AssetClient
  | .written error =>
    let c' := { c with handshake.pending := none }
    match c.handshake.pending with
    | some .writeChallenge   => some (c'.handleWriteChallenge error)
    | some .writeAuthSuccess => some c'.handleWriteAuthSuccess
    | some .writeAuthFailure => some c'.handleWriteAuthFailure
    | _                      => none
  | .read bytes =>
    if c.handshake.pending = some .readChallengeResponse ∧
        bytes.all (·.length == AuthResponseMsg.MESSAGE_SIZE) then
      some ({ c with handshake.pending := none }.handleReadChallengeResponse H password bytes)
    else none
  | .forget    => some c.disconnect
  | .session e => c.session.map fun s => { c with session := some (onSession s e) }

/-- The bytes a read delivers. -/
def Event.received : Event → Option ByteString
  | .read bytes => bytes
  | _           => none

/-! ### The only way in -/

variable {H : Digest} {password : ByteString} {c c' : AssetClient}

/-- A session keeps the flag it was made with. -/
lemma isMeshConnection_onSession (s : CSAuthenticated) (e : SessionEvent) :
    (onSession s e).isMeshConnection = s.isMeshConnection := by
  cases e with
  | socket assetExists op bytes => exact s.isMeshConnection_onSocket assetExists op bytes
  | socketError op => rfl
  | reply reply => exact s.isMeshConnection_onReply reply

lemma handleReadChallengeResponse_of_valid {data : ByteString}
    (h : (⟨data⟩ : AuthResponseMsg).isValid H password c.handshake.challenge = true) :
    c.handleReadChallengeResponse H password (some data) =
      begin { c with
        handshake.response := some ⟨data⟩
        handshake.isMeshConnection := c.handshake.isMeshConnection ||
          c.connected && (⟨data⟩ : AuthResponseMsg).isServerResponse } .writeAuthSuccess := by
  simp only [handleReadChallengeResponse, h, if_true]
  split <;> rename_i hserver
  · simp only [hserver, Bool.or_true]
  · simp only [hserver, Bool.or_false]

lemma handleReadChallengeResponse_of_invalid {data : ByteString}
    (h : ¬ (⟨data⟩ : AuthResponseMsg).isValid H password c.handshake.challenge = true) :
    c.handleReadChallengeResponse H password (some data) =
      begin { c with handshake.response := some ⟨data⟩ } .writeAuthFailure := by
  simp [handleReadChallengeResponse, h]

/-- The server has read a response and found it valid. -/
def Accepted (H : Digest) (password : ByteString) (c : AssetClient) : Prop :=
  ∃ r, c.handshake.response = some r ∧ r.isValid H password c.handshake.challenge = true

/-- Where a client stands, given what was read from it. -/
structure Authentic (H : Digest) (password : ByteString) (challenge : AuthChallengeMsg)
    (received : List ByteString) (c : AssetClient) : Prop where
  asked : c.handshake.challenge = challenge
  response : received = (c.handshake.response.map (·.data)).toList
  sized : ∀ r ∈ c.handshake.response, r.data.length = AuthResponseMsg.MESSAGE_SIZE
  unread : c.handshake.pending = some .writeChallenge ∨
    c.handshake.pending = some .readChallengeResponse → c.handshake.response = none
  accepted : c.handshake.pending = some .writeAuthSuccess ∨ c.session.isSome = true →
    ∃ r ∈ c.handshake.response, r.isValid H password challenge = true ∧
      c.handshake.isMeshConnection = r.isServerResponse
  unasked : c.handshake.response = none → c.handshake.isMeshConnection = false
  flag : ∀ s ∈ c.session, s.isMeshConnection = c.handshake.isMeshConnection

namespace Authentic

variable {challenge : AuthChallengeMsg} {received : List ByteString}

/-- A client that has only been disconnected, or waits for nothing any more. -/
lemma idle (h : Authentic H password challenge received c) (b : Bool) :
    Authentic H password challenge received
      { c with handshake.pending := none, connected := b } where
  asked := h.asked
  response := h.response
  sized := h.sized
  unread := by simp
  accepted hs := h.accepted (.inr (by simpa using hs))
  unasked := h.unasked
  flag := h.flag

lemma forget (h : Authentic H password challenge received c) :
    Authentic H password challenge received c.disconnect :=
  ⟨h.asked, h.response, h.sized, h.unread, h.accepted, h.unasked, h.flag⟩

/-- The next operation, when nothing has been read or a response was refused. -/
lemma begin (h : Authentic H password challenge received c) {op : SocketOp}
    (hunread : op = .writeChallenge ∨ op = .readChallengeResponse → c.handshake.response = none)
    (hfail : op ≠ .writeAuthSuccess) :
    Authentic H password challenge received (c.begin op) where
  asked := h.asked
  response := h.response
  sized := h.sized
  unread hop := by
    cases hc : c.connected with
    | true => exact hunread (by simpa [AssetClient.begin, hc] using hop)
    | false => simp [AssetClient.begin, hc] at hop
  accepted hs := by
    refine h.accepted (.inr ?_)
    cases hc : c.connected <;> simpa [AssetClient.begin, hc, hfail] using hs
  unasked := h.unasked
  flag := h.flag

/-- A response is read while there is none, and no session. -/
lemma read (h : Authentic H password challenge [] c) (hnone : c.handshake.response = none)
    {data : ByteString} (hlen : data.length = AuthResponseMsg.MESSAGE_SIZE) :
    Authentic H password challenge [data]
      (c.handleReadChallengeResponse H password (some data)) := by
  have hsession : c.session = none := by
    cases hs : c.session with
    | none => rfl
    | some s =>
      obtain ⟨r, hr, -⟩ := h.accepted (.inr (by simp [hs]))
      simp [hnone] at hr
  have hmesh := h.unasked hnone
  have hasked := h.asked
  by_cases hvalid : (⟨data⟩ : AuthResponseMsg).isValid H password c.handshake.challenge = true
  · rw [handleReadChallengeResponse_of_valid hvalid]
    rw [hasked] at hvalid
    constructor <;> cases c.connected <;>
      simp [AssetClient.begin, hasked, hvalid, hlen, hsession, hmesh]
  · rw [handleReadChallengeResponse_of_invalid hvalid]
    constructor <;> cases c.connected <;>
      simp [AssetClient.begin, hasked, hlen, hsession]

/-- The session begins after a valid response. -/
lemma welcome (h : Authentic H password challenge received c)
    (hop : c.handshake.pending = some .writeAuthSuccess) :
    Authentic H password challenge received
      (handleWriteAuthSuccess { c with handshake.pending := none }) := by
  have haccepted := h.accepted (.inl hop)
  unfold handleWriteAuthSuccess
  split
  · exact ⟨h.asked, h.response, h.sized, by simp, fun _ => haccepted, h.unasked, by simp⟩
  · exact h.idle c.connected

lemma step (h : Authentic H password challenge received c) {e : Event}
    (hstep : c.step H password e = some c') :
    Authentic H password challenge (received ++ e.received.toList) c' := by
  cases e with
  | written error =>
    simp only [Event.received, Option.toList_none, List.append_nil]
    simp only [AssetClient.step] at hstep
    split at hstep <;> rename_i hop <;> cases hstep
    · unfold handleWriteChallenge
      split
      · exact (h.idle c.connected).begin (fun _ => h.unread (.inl hop)) (by simp)
      · exact h.idle false
    · exact h.welcome hop
    · exact h.idle false
  | read bytes =>
    simp only [AssetClient.step, Option.ite_none_right_eq_some, Option.some.injEq] at hstep
    obtain ⟨⟨hop, hlen⟩, rfl⟩ := hstep
    have hnone := h.unread (.inr hop)
    cases bytes with
    | none => exact (List.append_nil received).symm ▸ h.idle false
    | some data =>
      have hempty : received = [] := by simpa [hnone] using h.response
      subst hempty
      exact (h.idle c.connected).read hnone (by simpa using hlen)
  | forget =>
    cases hstep
    simpa [Event.received] using h.forget
  | session e =>
    obtain ⟨s, hs, rfl⟩ := Option.map_eq_some_iff.mp hstep
    simp only [Event.received, Option.toList_none, List.append_nil]
    exact ⟨h.asked, h.response, h.sized, h.unread, fun _ => h.accepted (.inr (by simp [hs])),
      h.unasked, by simpa [isMeshConnection_onSession] using h.flag s hs⟩

end Authentic

/-- What was accepted stays accepted. -/
lemma Accepted.step {challenge : AuthChallengeMsg} {received : List ByteString}
    (h : Authentic H password challenge received c) {e : Event}
    (hstep : c.step H password e = some c') (ha : Accepted H password c) :
    Accepted H password c' := by
  obtain ⟨r, hr, hvalid⟩ := ha
  cases e with
  | written error =>
    simp only [AssetClient.step] at hstep
    split at hstep <;> cases hstep
    · unfold handleWriteChallenge
      split <;> exact ⟨r, hr, hvalid⟩
    · unfold handleWriteAuthSuccess
      split <;> exact ⟨r, hr, hvalid⟩
    · exact ⟨r, hr, hvalid⟩
  | read bytes =>
    simp only [AssetClient.step, Option.ite_none_right_eq_some] at hstep
    rw [h.unread (.inr hstep.1.1)] at hr
    cases hr
  | forget =>
    cases hstep
    exact ⟨r, hr, hvalid⟩
  | session e =>
    obtain ⟨s, hs, rfl⟩ := Option.map_eq_some_iff.mp hstep
    exact ⟨r, hr, hvalid⟩

lemma authentic_sendAuthChallenge (H : Digest) (password phrase : ByteString) :
    Authentic H password (.ofPhrase phrase) [] (sendAuthChallenge phrase) := by
  constructor <;> simp [sendAuthChallenge, AssetClient.begin]

/-- What was read from a client, in every run of its connection. -/
lemma authentic_of_run {phrase : ByteString} {es : List Event}
    (hrun : Machine.run (step H password) (sendAuthChallenge phrase) es = some c) :
    Authentic H password (.ofPhrase phrase) (es.filterMap Event.received) c := by
  have hstart : Authentic H password (.ofPhrase phrase)
      (([] : List Event).filterMap Event.received) (sendAuthChallenge phrase) :=
    authentic_sendAuthChallenge H password phrase
  have h := Machine.run_invariant_past
    (I := fun past c => Authentic H password (.ofPhrase phrase) (past.filterMap Event.received) c)
    (G := fun _ _ => True)
    (fun past c e c' hc _ hstep => by
      have hone : [e].filterMap Event.received = e.received.toList := by
        cases he : e.received <;> simp [he]
      simpa [List.filterMap_append, hone] using hc.step hstep)
    hstart (Machine.guarded_of_forall (fun _ _ => trivial)) hrun
  simpa using h

/-- A session is begun for a client that answered its challenge, and is told apart by the answer. -/
lemma answer_of_session {phrase : ByteString} {es : List Event} {s : CSAuthenticated}
    (hphrase : phrase.length = AuthChallengeMsg.PHRASE_SIZE)
    (hrun : Machine.run (step H password) (sendAuthChallenge phrase) es = some c)
    (hs : c.session = some s) :
    ∃ r, es.filterMap Event.received = [r] ∧ r.length = 41 ∧
      (r.head? = some 0 ∨ r.head? = some 100) ∧ r.drop 1 = H.hex (password ++ phrase) ∧
      (s.isMeshConnection = true ↔ r.head? = some 100) := by
  have h := authentic_of_run hrun
  obtain ⟨r, hr, hvalid, hmesh⟩ := h.accepted (.inr (by simp [hs]))
  obtain ⟨hhead, hhash⟩ := AuthResponseMsg.isValid_iff.mp hvalid
  have hlen : r.data.length = 41 := h.sized r hr
  refine ⟨r.data, ?_, hlen, hhead, ?_, ?_⟩
  · rw [h.response, Option.mem_def.mp hr]
    rfl
  · have htake : (r.data.drop 1).take AuthResponseMsg.RESPONSE_SIZE = r.data.drop 1 :=
      List.take_of_length_le (by simp [hlen, AuthResponseMsg.RESPONSE_SIZE])
    calc r.data.drop 1 = r.getChallengeResponse := htake.symm
      _ = H.hex (password ++ (AuthChallengeMsg.ofPhrase phrase).getPhrase) := hhash.symm
      _ = H.hex (password ++ phrase) := by rw [AuthChallengeMsg.getPhrase_ofPhrase hphrase]
  · rw [h.flag s hs, hmesh]
    exact beq_iff_eq

end AssetClient

end Whip
