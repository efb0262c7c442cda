import Whip.Lib.Pipe
import Whip.Net.CSUnauthenticated

/-!
# The handshake

A `RemoteAssetService` and a `MeshServer` authenticate to another server in the same way: they read
the challenge, write the response, read the status, and take the connection for established if the
status says so. This module puts such a party at one end of a reliable connection, and the
`AssetClient` of the server at the other.
-/

namespace Whip

/-! ### The connecting party -/

/-- What a connecting party waits for. -/
inductive Dialing
  | connecting
  | recvChallenge
  | writeResponse (response : AuthResponseMsg)
  | recvStatus
  | finished
deriving DecidableEq

namespace Dialing

/-- A handler of the handshake starts the next operation, or sets `_assetConnectionEstablished` and
calls `onConnectionResult`. -/
inductive Outcome
  | next (stage : Dialing)
  | result (success : Bool)
deriving DecidableEq

def onConnect (error : Bool) : Outcome :=
  if !error then .next .recvChallenge else .result false

def sendChallengeResponse (H : Digest) (password : ByteString) (challenge : AuthChallengeMsg) :
    Outcome :=
  .next (.writeResponse (.ofChallenge H challenge.getPhrase password))

/-- `none` stands for an error. -/
def onRecvChallenge (H : Digest) (password : ByteString) : Option ByteString → Outcome
  | some data => sendChallengeResponse H password ⟨data⟩
  | none      => .result false

def onChallengeResponseWrite (error : Bool) : Outcome :=
  if !error then .next .recvStatus else .result false

def onAuthenticationStatus : Option ByteString → Outcome
  | some data =>
    let authStatus : AuthStatusMsg := ⟨data⟩
    if !authStatus.validate then .result false
    else if authStatus.getAuthStatus ≠ some .success then .result false
    else .result true
  | none => .result false

/-- The bytes an outstanding write is given. -/
def outgoing : Dialing → ByteString
  | writeResponse response => response.data
  | _                      => []

/-- How many bytes from the server have been read. -/
def consumed : Dialing → ℕ
  | connecting | recvChallenge   => 0
  | writeResponse _ | recvStatus => AuthChallengeMsg.MESSAGE_SIZE
  | finished                     => AuthChallengeMsg.MESSAGE_SIZE + AuthStatusMsg.MESSAGE_SIZE

end Dialing

/-- What the handshake needs to know of the party that makes it: when a handler may run, what
becomes of the flag `_assetConnectionEstablished`, and which of its events are not those of
connecting. -/
structure Party (σ ε : Type) where
  step : σ → ε → Option σ
  result : Bool → ε
  isOwn : ε → Bool
  idle : σ → Bool
  connecting : σ → Bool
  established : σ → Bool
  exists_result : ∀ s b, idle s = true → connecting s = true → ∃ s', step s (result b) = some s'
  established_result : ∀ s b s', step s (result b) = some s' → established s' = b
  connecting_own : ∀ s e s', isOwn e = true → step s e = some s' → connecting s' = connecting s
  established_own : ∀ s e s', isOwn e = true → step s e = some s' →
    established s' = true → established s = true

/-! ### Both ends -/

/-- `upDone` and `downDone` count the bytes of the outstanding writes that have been handed over. -/
structure Handshake (σ : Type) where
  party : σ
  stage : Dialing := .connecting
  up : Pipe UInt8 := {}
  upDone : ℕ := 0
  client : AssetClient
  down : Pipe UInt8 := {}
  downDone : ℕ := 0

namespace Handshake

/-- `request` and `respond` are other bytes that the ends write: an end of this connection may write
whatever it likes, but the server does so only in a session. -/
inductive Event (ε : Type)
  | transmit (n : ℕ)
  | completed (error : Bool)
  | own (e : ε)
  | request (bytes : ByteString)
  | serverTransmit (n : ℕ)
  | serverCompleted (error : Bool)
  | forget
  | session (e : AssetClient.SessionEvent)
  | respond (bytes : ByteString)

variable {σ ε : Type} (P : Party σ ε) (H : Digest) (serverPassword password : ByteString)

def proceed (s : Handshake σ) : Dialing.Outcome → Option (Handshake σ)
  | .next stage     => some { s with stage := stage }
  | .result success =>
    (P.step s.party (P.result success)).map fun p => { s with party := p, stage := .finished }

/-- A read of `n` bytes completes, with or without an error. -/
def completeRead (s : Handshake σ) (n : ℕ) (handler : Option ByteString → Dialing.Outcome)
    (error : Bool) : Option (Handshake σ) :=
  if error then s.proceed P (handler none)
  else (s.down.read n).bind fun r => { s with down := r.2 }.proceed P (handler (some r.1))

/-- The operation the party waits for completes. -/
def complete (s : Handshake σ) (error : Bool) : Option (Handshake σ) :=
  match s.stage with
  | .connecting => s.proceed P (Dialing.onConnect error)
  | .recvChallenge =>
    s.completeRead P AuthChallengeMsg.MESSAGE_SIZE (Dialing.onRecvChallenge H password) error
  | .writeResponse response =>
    if error || s.upDone == response.data.length then
      { s with upDone := 0 }.proceed P (Dialing.onChallengeResponseWrite error)
    else none
  | .recvStatus =>
    s.completeRead P AuthStatusMsg.MESSAGE_SIZE Dialing.onAuthenticationStatus error
  | .finished => none

/-- The operation the server waits for completes. -/
def serverComplete (s : Handshake σ) (error : Bool) : Option (Handshake σ) :=
  if s.client.handshake.pending = some .readChallengeResponse then
    if error then
      (s.client.step H serverPassword (.read none)).map fun c => { s with client := c }
    else
      (s.up.read AuthResponseMsg.MESSAGE_SIZE).bind fun r =>
        (s.client.step H serverPassword (.read (some r.1))).map fun c =>
          { s with client := c, up := r.2 }
  else if error || s.downDone == s.client.handshake.outgoing.length then
    (s.client.step H serverPassword (.written error)).map fun c =>
      { s with client := c, downDone := 0 }
  else none

def step (s : Handshake σ) : Event ε → Option (Handshake σ)
  | .transmit n =>
    let rest := s.stage.outgoing.drop s.upDone
    if 0 < n ∧ n ≤ rest.length then
      some { s with up := s.up.write (rest.take n), upDone := s.upDone + n }
    else none
  | .completed error => if P.idle s.party then s.complete P H password error else none
  | .own e =>
    if P.isOwn e then (P.step s.party e).map fun p => { s with party := p } else none
  | .request bytes => some { s with up := s.up.write bytes }
  | .serverTransmit n =>
    let rest := s.client.handshake.outgoing.drop s.downDone
    if 0 < n ∧ n ≤ rest.length then
      some { s with down := s.down.write (rest.take n), downDone := s.downDone + n }
    else none
  | .serverCompleted error => s.serverComplete H serverPassword error
  | .forget =>
    (s.client.step H serverPassword .forget).map fun c => { s with client := c }
  | .session e =>
    (s.client.step H serverPassword (.session e)).map fun c => { s with client := c }
  | .respond bytes =>
    if s.client.session.isSome then some { s with down := s.down.write bytes } else none

/-- The part of a write that is handed over goes from what is left to what is sent. -/
lemma append_take_drop (sent out : ByteString) (done n : ℕ) :
    sent ++ (out.drop done).take n ++ out.drop (done + n) = sent ++ out.drop done := by
  rw [List.append_assoc, ← List.drop_drop, List.take_append_drop]

/-! ### Nobody is let in without being accepted -/

section Safety

variable {P H serverPassword password} {phrase : ByteString} {s s' : Handshake σ}

/-- All that the server sends to a client it does not accept. -/
def refusal (phrase : ByteString) : ByteString :=
  (AuthChallengeMsg.ofPhrase phrase).data ++ (AuthStatusMsg.ofStatus .failure).messageData

/-- Before a response has been accepted, the client has been sent the beginning of a refusal. -/
structure Barred (phrase : ByteString) (client : AssetClient) (sent : ByteString) (done : ℕ) :
    Prop where
  sent_prefix : sent <+: refusal phrase
  challenging : client.handshake.pending = some .writeChallenge →
    sent ++ client.handshake.outgoing.drop done = (AuthChallengeMsg.ofPhrase phrase).data
  challenged : client.handshake.pending = some .readChallengeResponse →
    sent = (AuthChallengeMsg.ofPhrase phrase).data ∧ done = 0
  refusing : client.handshake.pending = some .writeAuthFailure →
    sent ++ client.handshake.outgoing.drop done = refusal phrase

namespace Barred

variable {client client' : AssetClient} {sent : ByteString} {done n : ℕ}

/-- A write goes on. -/
lemma transmit (h : Barred phrase client sent done)
    (hsuccess : client.handshake.pending ≠ some .writeAuthSuccess) (hpos : 0 < n)
    (hn : n ≤ (client.handshake.outgoing.drop done).length) :
    Barred phrase client (sent ++ (client.handshake.outgoing.drop done).take n) (done + n) := by
  have hsplit := append_take_drop sent client.handshake.outgoing done n
  have hpre : sent ++ (client.handshake.outgoing.drop done).take n <+:
      sent ++ client.handshake.outgoing.drop done := ⟨_, hsplit⟩
  rcases hop : client.handshake.pending with _ | op
  · simp only [CSUnauthenticated.outgoing, hop, List.drop_nil, List.length_nil] at hn
    omega
  · cases op with
    | writeChallenge =>
      refine ⟨?_, fun _ => hsplit.trans (h.challenging hop), by simp [hop], by simp [hop]⟩
      exact (h.challenging hop ▸ hpre).trans (List.prefix_append _ _)
    | readChallengeResponse =>
      simp only [CSUnauthenticated.outgoing, hop, List.drop_nil, List.length_nil] at hn
      omega
    | writeAuthSuccess => exact absurd hop hsuccess
    | writeAuthFailure =>
      exact ⟨h.refusing hop ▸ hpre, by simp [hop], by simp [hop],
        fun _ => hsplit.trans (h.refusing hop)⟩

/-- Nothing more is sent. -/
lemma ended (h : Barred phrase client sent done) (hnone : client'.handshake.pending = none)
    (m : ℕ) : Barred phrase client' sent m :=
  ⟨h.sent_prefix, by simp [hnone], by simp [hnone], by simp [hnone]⟩

/-- The server completes a write. -/
lemma written (h : Barred phrase client sent done)
    (hsuccess : client.handshake.pending ≠ some .writeAuthSuccess) {error : Bool}
    (hdone : error = true ∨ done = client.handshake.outgoing.length)
    (hstep : client.step H serverPassword (.written error) = some client') :
    Barred phrase client' sent 0 := by
  simp only [AssetClient.step] at hstep
  split at hstep <;> rename_i hop <;> cases hstep
  · unfold AssetClient.handleWriteChallenge AssetClient.begin
    cases error with
    | true => exact h.ended rfl 0
    | false =>
      have hsent : sent = (AuthChallengeMsg.ofPhrase phrase).data := by
        simpa [hdone.resolve_left (by simp)] using h.challenging hop
      refine ⟨h.sent_prefix, ?_, fun _ => ⟨hsent, rfl⟩, ?_⟩ <;>
        cases client.connected <;> simp
  · exact absurd hop hsuccess
  · exact h.ended rfl 0

/-- The server reads a response, and accepts or refuses it. -/
lemma read (h : Barred phrase client sent done) {bytes : Option ByteString}
    (hstep : client.step H serverPassword (.read bytes) = some client') :
    client'.Accepted H serverPassword ∨ Barred phrase client' sent done := by
  simp only [AssetClient.step, Option.ite_none_right_eq_some, Option.some.injEq] at hstep
  obtain ⟨⟨hop, -⟩, rfl⟩ := hstep
  obtain ⟨rfl, rfl⟩ := h.challenged hop
  cases bytes with
  | none => exact .inr (h.ended rfl 0)
  | some data =>
    by_cases hvalid : (⟨data⟩ : AuthResponseMsg).isValid H serverPassword
        client.handshake.challenge = true
    · rw [AssetClient.handleReadChallengeResponse_of_valid
        (c := { client with handshake.pending := none }) hvalid]
      exact .inl ⟨⟨data⟩, rfl, hvalid⟩
    · rw [AssetClient.handleReadChallengeResponse_of_invalid
        (c := { client with handshake.pending := none }) hvalid]
      refine .inr ⟨h.sent_prefix, ?_, ?_, ?_⟩ <;> cases client.connected <;>
        simp [AssetClient.begin, CSUnauthenticated.outgoing, refusal]

end Barred

/-- The party has been told nothing that would make it take the connection for established. -/
structure Outside (P : Party σ ε) (phrase : ByteString) (s : Handshake σ) : Prop where
  barred : Barred phrase s.client s.down.bytes s.downDone
  closed : P.established s.party = false
  taken : s.stage ≠ .finished → s.down.taken = s.stage.consumed

namespace Outside

/-- A handler of the party that does not report success. -/
lemma proceed (hbarred : Barred phrase s.client s.down.bytes s.downDone)
    (hclosed : P.established s.party = false) {out : Dialing.Outcome}
    (hnext : ∀ stage, out = .next stage → s.down.taken = stage.consumed)
    (hresult : out ≠ .result true) (hstep : s.proceed P out = some s') : Outside P phrase s' := by
  cases out with
  | next stage =>
    cases hstep
    exact ⟨hbarred, hclosed, fun _ => hnext stage rfl⟩
  | result success =>
    obtain ⟨p, hp, rfl⟩ := Option.map_eq_some_iff.mp hstep
    cases success with
    | true => exact absurd rfl hresult
    | false => exact ⟨hbarred, P.established_result _ _ _ hp, fun hne => absurd rfl hne⟩

lemma completeRead (h : Outside P phrase s) {n : ℕ}
    {handler : Option ByteString → Dialing.Outcome} {error : Bool}
    (herror : handler none = .result false)
    (hnext : ∀ b stage, handler (some b) = .next stage → s.down.taken + n = stage.consumed)
    (hresult : ∀ b p, s.down.read n = some (b, p) → handler (some b) ≠ .result true)
    (hstep : s.completeRead P n handler error = some s') : Outside P phrase s' := by
  unfold Handshake.completeRead at hstep
  split at hstep
  · exact proceed h.barred h.closed (by simp [herror]) (by simp [herror]) hstep
  · obtain ⟨⟨b, p⟩, hread, hstep⟩ := Option.bind_eq_some_iff.mp hstep
    have hbytes := Pipe.bytes_of_read hread
    have htaken := Pipe.taken_of_read hread
    refine proceed (s := { s with down := p }) (hbytes ▸ h.barred) h.closed ?_
      (hresult b p hread) hstep
    intro stage hstage
    exact htaken.trans (hnext b stage hstage)

lemma complete (h : Outside P phrase s) (hphrase : phrase.length = AuthChallengeMsg.PHRASE_SIZE)
    {error : Bool} (hstep : s.complete P H password error = some s') : Outside P phrase s' := by
  unfold Handshake.complete at hstep
  have htaken := h.taken
  split at hstep <;> rename_i hstage <;> rw [hstage] at htaken
  · refine proceed h.barred h.closed ?_ ?_ hstep <;> cases error <;> simp [Dialing.onConnect]
    exact htaken (by simp)
  · refine h.completeRead rfl ?_ (fun b p _ => by simp [Dialing.onRecvChallenge,
      Dialing.sendChallengeResponse]) hstep
    rintro b stage hnext
    cases hnext
    rw [htaken (by simp)]
    rfl
  · split at hstep
    · refine proceed (s := { s with upDone := 0 }) h.barred h.closed ?_ ?_ hstep <;>
        cases error <;> simp [Dialing.onChallengeResponseWrite]
      exact htaken (by simp)
    · cases hstep
  · refine h.completeRead rfl ?_ ?_ hstep
    · intro b stage hnext
      unfold Dialing.onAuthenticationStatus at hnext
      grind
    · intro b p hread
      obtain ⟨rest, hrest⟩ := h.barred.sent_prefix
      -- what the status is read from is the rest of a refusal
      have hfill : s.down.bytes ++ rest = (AuthChallengeMsg.ofPhrase phrase).data ++
          ((AuthStatusMsg.ofStatus .failure).messageData ++ []) := by
        rw [hrest, refusal, List.append_nil]
      have htaken : s.down.taken = (AuthChallengeMsg.ofPhrase phrase).data.length := by
        rw [htaken (by simp), AuthChallengeMsg.length_ofPhrase hphrase]
        rfl
      rw [Pipe.eq_of_read hread hfill htaken rfl]
      decide
  · cases hstep

/-- The server's next step, or the client is accepted. -/
lemma serverComplete (h : Outside P phrase s)
    (hsuccess : s.client.handshake.pending ≠ some .writeAuthSuccess) {error : Bool}
    (hstep : s.serverComplete H serverPassword error = some s') :
    s'.client.Accepted H serverPassword ∨ Outside P phrase s' := by
  unfold Handshake.serverComplete at hstep
  split at hstep
  · split at hstep
    · obtain ⟨c, hc, rfl⟩ := Option.map_eq_some_iff.mp hstep
      exact (h.barred.read hc).imp_right fun hb => ⟨hb, h.closed, h.taken⟩
    · obtain ⟨⟨b, p⟩, hread, hstep⟩ := Option.bind_eq_some_iff.mp hstep
      obtain ⟨c, hc, rfl⟩ := Option.map_eq_some_iff.mp hstep
      exact (h.barred.read hc).imp_right fun hb => ⟨hb, h.closed, h.taken⟩
  · split at hstep <;> rename_i hdone
    · obtain ⟨c, hc, rfl⟩ := Option.map_eq_some_iff.mp hstep
      rw [Bool.or_eq_true, beq_iff_eq] at hdone
      exact .inr ⟨h.barred.written hsuccess hdone hc, h.closed, h.taken⟩
    · cases hstep

end Outside

lemma client_of_proceed {out : Dialing.Outcome} (hstep : s.proceed P out = some s') :
    s'.client = s.client := by
  cases out with
  | next stage =>
    cases hstep
    rfl
  | result success =>
    obtain ⟨p, -, rfl⟩ := Option.map_eq_some_iff.mp hstep
    rfl

lemma client_of_completeRead {n : ℕ} {handler : Option ByteString → Dialing.Outcome} {error : Bool}
    (hstep : s.completeRead P n handler error = some s') : s'.client = s.client := by
  unfold Handshake.completeRead at hstep
  split at hstep
  · exact client_of_proceed hstep
  · obtain ⟨r, -, hstep⟩ := Option.bind_eq_some_iff.mp hstep
    exact client_of_proceed (s := { s with down := r.2 }) hstep

lemma client_of_complete {error : Bool} (hstep : s.complete P H password error = some s') :
    s'.client = s.client := by
  unfold complete at hstep
  split at hstep
  · exact client_of_proceed hstep
  · exact client_of_completeRead hstep
  · split at hstep
    · exact client_of_proceed (s := { s with upDone := 0 }) hstep
    · cases hstep
  · exact client_of_completeRead hstep
  · cases hstep

lemma client_of_serverComplete {error : Bool}
    (hstep : s.serverComplete H serverPassword error = some s') :
    ∃ a, s.client.step H serverPassword a = some s'.client := by
  unfold serverComplete at hstep
  split at hstep
  · split at hstep
    · obtain ⟨c, hc, rfl⟩ := Option.map_eq_some_iff.mp hstep
      exact ⟨_, hc⟩
    · obtain ⟨r, -, hstep⟩ := Option.bind_eq_some_iff.mp hstep
      obtain ⟨c, hc, rfl⟩ := Option.map_eq_some_iff.mp hstep
      exact ⟨_, hc⟩
  · split at hstep
    · obtain ⟨c, hc, rfl⟩ := Option.map_eq_some_iff.mp hstep
      exact ⟨_, hc⟩
    · cases hstep

/-- What a step does to the client is a step of the client, or nothing. -/
lemma client_of_step {e : Event ε} (hstep : s.step P H serverPassword password e = some s') :
    s'.client = s.client ∨ ∃ a, s.client.step H serverPassword a = some s'.client := by
  cases e with
  | transmit n | serverTransmit n | respond bytes =>
    simp only [step, Option.ite_none_right_eq_some, Option.some.injEq] at hstep
    exact .inl (hstep.2 ▸ rfl)
  | completed error =>
    simp only [step, Option.ite_none_right_eq_some] at hstep
    exact .inl (client_of_complete hstep.2)
  | own e =>
    simp only [step, Option.ite_none_right_eq_some, Option.map_eq_some_iff] at hstep
    obtain ⟨-, p, -, rfl⟩ := hstep
    exact .inl rfl
  | request bytes =>
    cases hstep
    exact .inl rfl
  | serverCompleted error => exact .inr (client_of_serverComplete hstep)
  | forget =>
    cases hstep
    exact .inr ⟨.forget, rfl⟩
  | session e =>
    obtain ⟨c, hc, rfl⟩ := Option.map_eq_some_iff.mp hstep
    exact .inr ⟨_, hc⟩

/-- The invariant of all runs. -/
structure Safe (P : Party σ ε) (H : Digest) (serverPassword phrase : ByteString) (s : Handshake σ) :
    Prop where
  authentic : ∃ received, s.client.Authentic H serverPassword (.ofPhrase phrase) received
  outside : ¬ s.client.Accepted H serverPassword → Outside P phrase s

/-- A step of a client that is not accepted. -/
lemma Outside.step (h : Outside P phrase s) (hphrase : phrase.length = AuthChallengeMsg.PHRASE_SIZE)
    (hsuccess : s.client.handshake.pending ≠ some .writeAuthSuccess)
    (hsession : s.client.session = none) {e : Event ε}
    (hstep : s.step P H serverPassword password e = some s') :
    s'.client.Accepted H serverPassword ∨ Outside P phrase s' := by
  cases e with
  | transmit n =>
    obtain rfl := Machine.eq_of_ite hstep
    exact .inr ⟨h.barred, h.closed, h.taken⟩
  | completed error =>
    simp only [Handshake.step, Option.ite_none_right_eq_some] at hstep
    exact .inr (h.complete hphrase hstep.2)
  | own e =>
    simp only [Handshake.step, Option.ite_none_right_eq_some, Option.map_eq_some_iff] at hstep
    obtain ⟨hown, p, hp, rfl⟩ := hstep
    have hclosed : P.established p = false := by
      have hup := P.established_own _ _ _ hown hp
      rw [h.closed] at hup
      exact Bool.eq_false_iff.mpr fun ht => Bool.false_ne_true (hup ht)
    exact .inr ⟨h.barred, hclosed, h.taken⟩
  | request bytes =>
    cases hstep
    exact .inr ⟨h.barred, h.closed, h.taken⟩
  | serverTransmit n =>
    simp only [Handshake.step, Option.ite_none_right_eq_some, Option.some.injEq] at hstep
    obtain ⟨⟨hpos, hn⟩, rfl⟩ := hstep
    exact .inr ⟨h.barred.transmit hsuccess hpos hn, h.closed, h.taken⟩
  | serverCompleted error => exact h.serverComplete hsuccess hstep
  | forget =>
    cases hstep
    exact .inr ⟨⟨h.barred.1, h.barred.2, h.barred.3, h.barred.4⟩, h.closed, h.taken⟩
  | session e => simp [Handshake.step, AssetClient.step, hsession] at hstep
  | respond bytes => simp [Handshake.step, hsession] at hstep

lemma Safe.step (h : Safe P H serverPassword phrase s)
    (hphrase : phrase.length = AuthChallengeMsg.PHRASE_SIZE) {e : Event ε}
    (hstep : s.step P H serverPassword password e = some s') :
    Safe P H serverPassword phrase s' := by
  obtain ⟨received, hauth⟩ := h.authentic
  have hclient := client_of_step hstep
  refine ⟨?_, fun ha' => ?_⟩
  · rcases hclient with heq | ⟨a, ha⟩
    · exact ⟨received, heq ▸ hauth⟩
    · exact ⟨_, hauth.step ha⟩
  · have ha : ¬ s.client.Accepted H serverPassword := by
      intro ha
      rcases hclient with heq | ⟨a, hstep⟩
      · exact ha' (heq ▸ ha)
      · exact ha' (ha.step hauth hstep)
    have hno : ¬ (s.client.handshake.pending = some .writeAuthSuccess ∨
        s.client.session.isSome = true) := by
      intro hyes
      obtain ⟨r, hr, hvalid, -⟩ := hauth.accepted hyes
      exact ha ⟨r, hr, hauth.asked ▸ hvalid⟩
    rw [not_or] at hno
    refine ((h.outside ha).step hphrase hno.1 ?_ hstep).resolve_left ha'
    simpa using hno.2

end Safety

/-! ### A party that knows the password -/

/-- Nothing fails, nobody closes the connection, and the party makes no request before it has been
told that the connection is established. -/
def ErrorFree (P : Party σ ε) (s : Handshake σ) : Event ε → Prop
  | .completed error | .serverCompleted error => error = false
  | .forget    => False
  | .own e     => ∀ p, P.step s.party e = some p → P.established s.party = true →
      P.established p = true
  | .request _ => P.established s.party = true
  | _          => True

/-- The events of the handshake itself, without errors. -/
def Event.isHandshake : Event ε → Bool
  | .transmit _ | .serverTransmit _           => true
  | .completed error | .serverCompleted error => !error
  | _                                         => false

/-- Nothing is running, and nothing of the handshake is left to do. -/
def Completed (s : Handshake σ) : Prop :=
  P.idle s.party = true ∧ ∀ e : Event ε, e.isHandshake = true →
    s.step P H serverPassword password e = none

/-- The handshake is over when neither end waits for anything. -/
lemma completed_of_finished {P : Party σ ε} {H : Digest} {serverPassword password : ByteString}
    {s : Handshake σ} (hidle : P.idle s.party = true) (hstage : s.stage = .finished)
    (hop : s.client.handshake.pending = none) : Completed P H serverPassword password s := by
  have hnothing : ∀ n, ¬ (0 < n ∧ n ≤ 0) := by omega
  refine ⟨hidle, fun e he => ?_⟩
  cases e with
  | transmit n => simp only [step, hstage, Dialing.outgoing, List.drop_nil, List.length_nil,
      hnothing, if_false]
  | serverTransmit n => simp only [step, hop, CSUnauthenticated.outgoing, List.drop_nil,
      List.length_nil, hnothing, if_false]
  | completed error => simp [step, complete, hstage]
  | serverCompleted error => simp [step, serverComplete, hop, AssetClient.step]
  | _ => cases he

section Liveness

variable {P H password} {phrase : ByteString} {s s' : Handshake σ}

/-- All that the party sends in the handshake. -/
def answer (H : Digest) (password phrase : ByteString) : AuthResponseMsg :=
  .ofChallenge H phrase password

/-- What the party has sent when its outstanding operation is complete. -/
def sentBy (H : Digest) (password phrase : ByteString) : Dialing → ByteString
  | .connecting | .recvChallenge => []
  | _                            => (answer H password phrase).data

/-- The party's end: `sent` are the bytes it has sent, `done` those of the outstanding write, and
`taken` is how many it has read. -/
structure Dials (P : Party σ ε) (H : Digest) (password phrase : ByteString) (party : σ)
    (stage : Dialing) (sent : ByteString) (done taken : ℕ) : Prop where
  stream : ∃ more, sent ++ stage.outgoing.drop done = sentBy H password phrase stage ++ more ∧
    (stage ≠ .finished → more = [])
  response : ∀ r, stage = .writeResponse r → r = answer H password phrase
  bound : done ≤ stage.outgoing.length
  taken_eq : taken = stage.consumed
  established : P.established party = true ↔ stage = .finished
  connecting : stage ≠ .finished → P.connecting party = true

/-- What the server has sent when its outstanding operation is complete. -/
def sentTo (phrase : ByteString) (client : AssetClient) : ByteString :=
  match client.handshake.pending with
  | some .writeChallenge | some .readChallengeResponse => (AuthChallengeMsg.ofPhrase phrase).data
  | _ => (AuthChallengeMsg.ofPhrase phrase).data ++ (AuthStatusMsg.ofStatus .success).messageData

/-- The server's end; here `taken` is how much of what the party sent has been read. -/
structure Serves (H : Digest) (password phrase : ByteString) (client : AssetClient)
    (sent : ByteString) (done taken : ℕ) : Prop where
  authentic : ∃ received, client.Authentic H password (.ofPhrase phrase) received
  connected : client.connected = true
  stream : ∃ more, sent ++ client.handshake.outgoing.drop done = sentTo phrase client ++ more ∧
    (client.session = none → more = [])
  bound : done ≤ client.handshake.outgoing.length
  untaken : client.handshake.response = none → taken = 0
  answered : ∀ r ∈ client.handshake.response, r = answer H password phrase
  going : client.session.isSome = true ↔ client.handshake.pending = none
  unrefused : client.handshake.pending ≠ some .writeAuthFailure

namespace Dials

variable {party p : σ} {stage : Dialing} {sent : ByteString} {done taken n : ℕ}

lemma transmit (h : Dials P H password phrase party stage sent done taken) (hpos : 0 < n)
    (hn : n ≤ (stage.outgoing.drop done).length) :
    Dials P H password phrase party stage (sent ++ (stage.outgoing.drop done).take n) (done + n)
      taken where
  stream := by
    rw [append_take_drop]
    exact h.stream
  response := h.response
  bound := by
    rw [List.length_drop] at hn
    omega
  taken_eq := h.taken_eq
  established := h.established
  connecting := h.connecting

lemma own (h : Dials P H password phrase party stage sent done taken) {e : ε}
    (hown : P.isOwn e = true) (hp : P.step party e = some p)
    (hkeep : P.established party = true → P.established p = true) :
    Dials P H password phrase p stage sent done taken where
  stream := h.stream
  response := h.response
  bound := h.bound
  taken_eq := h.taken_eq
  established := by
    rw [← h.established]
    exact ⟨P.established_own _ _ _ hown hp, hkeep⟩
  connecting hne := by
    rw [P.connecting_own _ _ _ hown hp]
    exact h.connecting hne

/-- Requests are sent when the handshake is over. -/
lemma request (h : Dials P H password phrase party stage sent done taken)
    (hest : P.established party = true) (bytes : ByteString) :
    Dials P H password phrase party stage (sent ++ bytes) done taken := by
  obtain rfl := h.established.mp hest
  obtain ⟨more, hmore, -⟩ := h.stream
  refine ⟨⟨more ++ bytes, ?_, by simp⟩, h.response, h.bound, h.taken_eq, h.established,
    h.connecting⟩
  simp only [Dialing.outgoing, List.drop_nil, List.append_nil] at hmore ⊢
  rw [hmore, List.append_assoc]

/-- What the server finds when it can read a response. -/
lemma answer_of_le (h : Dials P H password phrase party stage sent done taken)
    (hle : AuthResponseMsg.MESSAGE_SIZE ≤ sent.length) :
    ∃ rest after, sent ++ rest = [] ++ ((answer H password phrase).data ++ after) := by
  obtain ⟨more, hmore, hnil⟩ := h.stream
  cases stage with
  | connecting | recvChallenge =>
    rw [hnil (by simp)] at hmore
    simp only [Dialing.outgoing, sentBy, List.drop_nil, List.append_nil] at hmore
    rw [hmore] at hle
    exact absurd hle (by decide)
  | _ => exact ⟨_, more, hmore⟩

/-! The stages, one after the other -/

lemma connected (h : Dials P H password phrase party .connecting sent done taken) :
    Dials P H password phrase party .recvChallenge sent done taken where
  stream := by
    obtain ⟨more, hmore, hnil⟩ := h.stream
    exact ⟨more, hmore, fun _ => hnil (by simp)⟩
  response := by simp
  bound := h.bound
  taken_eq := h.taken_eq
  established := by simpa using h.established
  connecting _ := h.connecting (by simp)

lemma challenged (h : Dials P H password phrase party .recvChallenge sent done taken) :
    Dials P H password phrase party (.writeResponse (answer H password phrase)) sent done
      (taken + AuthChallengeMsg.MESSAGE_SIZE) where
  stream := by
    obtain ⟨more, hmore, hnil⟩ := h.stream
    rw [hnil (by simp)] at hmore
    simp only [Dialing.outgoing, sentBy, List.drop_nil, List.append_nil] at hmore
    simp [Dialing.outgoing, sentBy, hmore, Nat.le_zero.mp h.bound]
  response r hr := by
    cases hr
    rfl
  bound := Nat.le_trans h.bound (Nat.zero_le _)
  taken_eq := by simpa [Dialing.consumed] using h.taken_eq
  established := by simpa using h.established
  connecting _ := h.connecting (by simp)

lemma responded {r : AuthResponseMsg}
    (h : Dials P H password phrase party (.writeResponse r) sent r.data.length taken) :
    Dials P H password phrase party .recvStatus sent 0 taken where
  stream := by
    obtain ⟨more, hmore, hnil⟩ := h.stream
    refine ⟨more, ?_, fun _ => hnil (by simp)⟩
    simpa [Dialing.outgoing, sentBy] using hmore
  response := by simp
  bound := Nat.zero_le 0
  taken_eq := h.taken_eq
  established := by simpa using h.established
  connecting _ := h.connecting (by simp)

lemma succeeded (h : Dials P H password phrase party .recvStatus sent done taken)
    (hp : P.step party (P.result true) = some p) :
    Dials P H password phrase p .finished sent done (taken + AuthStatusMsg.MESSAGE_SIZE) where
  stream := by
    obtain ⟨more, hmore, -⟩ := h.stream
    exact ⟨more, hmore, by simp⟩
  response := by simp
  bound := h.bound
  taken_eq := by rw [h.taken_eq]; rfl
  established := by simp [P.established_result _ _ _ hp]
  connecting := by simp

end Dials

namespace Serves

variable {client client' : AssetClient} {sent : ByteString} {done taken n : ℕ}

lemma transmit (h : Serves H password phrase client sent done taken) (hpos : 0 < n)
    (hn : n ≤ (client.handshake.outgoing.drop done).length) :
    Serves H password phrase client (sent ++ (client.handshake.outgoing.drop done).take n)
      (done + n) taken where
  authentic := h.authentic
  connected := h.connected
  stream := by
    rw [append_take_drop]
    exact h.stream
  bound := by
    rw [List.length_drop] at hn
    omega
  untaken := h.untaken
  answered := h.answered
  going := h.going
  unrefused := h.unrefused

/-- Responses are sent in the session. -/
lemma respond (h : Serves H password phrase client sent done taken)
    (hsession : client.session.isSome = true) (bytes : ByteString) :
    Serves H password phrase client (sent ++ bytes) done taken := by
  have hop := h.going.mp hsession
  obtain ⟨more, hmore, -⟩ := h.stream
  refine ⟨h.authentic, h.connected, ⟨more ++ bytes, ?_, fun hnone => ?_⟩, h.bound, h.untaken,
    h.answered, h.going, h.unrefused⟩
  · simp only [CSUnauthenticated.outgoing, hop, List.drop_nil, List.append_nil] at hmore ⊢
    rw [hmore, List.append_assoc]
  · rw [hnone] at hsession
    cases hsession

lemma session (h : Serves H password phrase client sent done taken) {e : AssetClient.SessionEvent}
    (hstep : client.step H password (.session e) = some client') :
    Serves H password phrase client' sent done taken := by
  obtain ⟨received, hauth⟩ := h.authentic
  have hauth' := hauth.step hstep
  obtain ⟨c, hc, rfl⟩ := Option.map_eq_some_iff.mp hstep
  obtain ⟨more, hmore, hnil⟩ := h.stream
  refine ⟨⟨_, hauth'⟩, h.connected, ⟨more, hmore, by simp⟩, h.bound, h.untaken, h.answered, ?_,
    h.unrefused⟩
  simp [← h.going, hc]

lemma written (h : Serves H password phrase client sent done taken)
    (hdone : done = client.handshake.outgoing.length)
    (hstep : client.step H password (.written false) = some client') :
    Serves H password phrase client' sent 0 taken := by
  obtain ⟨received, hauth⟩ := h.authentic
  have hauth' := hauth.step hstep
  obtain ⟨more, hmore, hnil⟩ := h.stream
  rw [hdone, List.drop_length, List.append_nil] at hmore
  have hgoing := h.going
  have hconn := h.connected
  simp only [AssetClient.step] at hstep
  split at hstep <;> rename_i hop <;> cases hstep <;> rw [hop] at hgoing
  · simp only [AssetClient.handleWriteChallenge, AssetClient.begin, hconn, Bool.not_false,
      if_true] at hauth' ⊢
    refine ⟨⟨_, hauth'⟩, rfl, ⟨more, ?_, hnil⟩, Nat.zero_le _, h.untaken, h.answered, ?_, by simp⟩
    · simpa [sentTo, hop, CSUnauthenticated.outgoing] using hmore
    · simpa using hgoing
  · simp only [AssetClient.handleWriteAuthSuccess, hconn, if_true] at hauth' ⊢
    refine ⟨⟨_, hauth'⟩, rfl, ⟨more, ?_, by simp⟩, Nat.zero_le _, h.untaken, h.answered, by simp,
      by simp⟩
    simpa [sentTo, hop, CSUnauthenticated.outgoing] using hmore
  · exact absurd hop h.unrefused

/-- The server reads the party's response. -/
lemma read (h : Serves H password phrase client sent done taken)
    (hphrase : phrase.length = AuthChallengeMsg.PHRASE_SIZE) {r : AuthResponseMsg}
    (hr : r = answer H password phrase)
    (hstep : client.step H password (.read (some r.data)) = some client') :
    Serves H password phrase client' sent done (taken + AuthResponseMsg.MESSAGE_SIZE) := by
  obtain ⟨received, hauth⟩ := h.authentic
  have hauth' := hauth.step hstep
  obtain ⟨more, hmore, hnil⟩ := h.stream
  have hconn := h.connected
  have hgoing := h.going
  have hvalid : r.isValid H password client.handshake.challenge = true := by
    have hanswer := AuthResponseMsg.isValid_ofChallenge H password (.ofPhrase phrase)
    rwa [AuthChallengeMsg.getPhrase_ofPhrase hphrase, ← hauth.asked, ← answer, ← hr] at hanswer
  simp only [AssetClient.step, Option.ite_none_right_eq_some, Option.some.injEq] at hstep
  obtain ⟨⟨hop, -⟩, rfl⟩ := hstep
  have hdone : done = 0 := by simpa [CSUnauthenticated.outgoing, hop] using h.bound
  rw [AssetClient.handleReadChallengeResponse_of_valid
    (c := { client with handshake.pending := none }) hvalid] at hauth' ⊢
  simp only [AssetClient.begin, hconn, if_true] at hauth' ⊢
  rw [hop] at hgoing
  have hsession : client.session = none := by simpa using hgoing
  refine ⟨⟨_, hauth'⟩, rfl, ⟨[], ?_, fun _ => rfl⟩, by simp [hdone], by simp, by simp [hr],
    ?_, by simp⟩
  · simp only [sentTo, hop, CSUnauthenticated.outgoing, List.drop_nil, List.append_nil,
      hnil hsession] at hmore
    simp [sentTo, CSUnauthenticated.outgoing, hdone, hmore]
  · simpa using hgoing

/-- What the party finds when it reads the challenge. -/
lemma challenge (h : Serves H password phrase client sent done taken) :
    ∃ rest after, sent ++ rest = [] ++ ((AuthChallengeMsg.ofPhrase phrase).data ++ after) := by
  obtain ⟨more, hmore, -⟩ := h.stream
  unfold sentTo at hmore
  split at hmore
  · exact ⟨_, _, hmore⟩
  · exact ⟨_, _, hmore⟩
  · rw [List.append_assoc] at hmore
    exact ⟨_, _, hmore⟩

/-- What the party finds when it can read a status. -/
lemma status_of_le (h : Serves H password phrase client sent done taken)
    (hphrase : phrase.length = AuthChallengeMsg.PHRASE_SIZE)
    (hle : AuthChallengeMsg.MESSAGE_SIZE < sent.length) :
    ∃ rest after, sent ++ rest = (AuthChallengeMsg.ofPhrase phrase).data ++
      ((AuthStatusMsg.ofStatus .success).messageData ++ after) := by
  obtain ⟨more, hmore, hnil⟩ := h.stream
  -- with an operation of the first stages outstanding, only the challenge is there
  have hshort : sentTo phrase client = (AuthChallengeMsg.ofPhrase phrase).data →
      client.session = none → False := by
    intro hdue hsession
    have hlen := congrArg List.length hmore
    rw [hdue, hnil hsession, List.append_nil, AuthChallengeMsg.length_ofPhrase hphrase,
      List.length_append] at hlen
    omega
  have hgoing := h.going
  unfold sentTo at hmore
  split at hmore <;> rename_i hop
  · exact (hshort (by simp [sentTo, hop]) (by simpa [hop] using hgoing)).elim
  · exact (hshort (by simp [sentTo, hop]) (by simpa [hop] using hgoing)).elim
  · rw [List.append_assoc] at hmore
    exact ⟨_, _, hmore⟩

end Serves

/-- The invariant of error-free runs in which both ends have the same password. -/
structure InStep (P : Party σ ε) (H : Digest) (password phrase : ByteString) (s : Handshake σ) :
    Prop where
  dials : Dials P H password phrase s.party s.stage s.up.bytes s.upDone s.down.taken
  serves : Serves H password phrase s.client s.down.bytes s.downDone s.up.taken

namespace InStep

lemma complete (h : InStep P H password phrase s)
    (hphrase : phrase.length = AuthChallengeMsg.PHRASE_SIZE)
    (hstep : s.complete P H password false = some s') : InStep P H password phrase s' := by
  have hdials := h.dials
  unfold Handshake.complete at hstep
  split at hstep <;> rename_i hstage <;> rw [hstage] at hdials
  · cases hstep
    exact ⟨hdials.connected, h.serves⟩
  · simp only [completeRead, Bool.false_eq_true, if_false] at hstep
    obtain ⟨⟨b, p⟩, hread, hstep⟩ := Option.bind_eq_some_iff.mp hstep
    obtain ⟨rest, after, hfill⟩ := h.serves.challenge
    have hb := Pipe.eq_of_read hread hfill hdials.taken_eq
      (AuthChallengeMsg.length_ofPhrase hphrase)
    have hphrase' := AuthChallengeMsg.getPhrase_ofPhrase hphrase
    have htaken := Pipe.taken_of_read hread
    have hbytes := Pipe.bytes_of_read hread
    subst hb
    cases hstep
    refine ⟨?_, hbytes ▸ h.serves⟩
    simp only [hphrase', htaken]
    exact hdials.challenged
  · split at hstep <;> rename_i hdone
    · cases hstep
      rw [Bool.false_or, beq_iff_eq] at hdone
      rw [hdone] at hdials
      exact ⟨hdials.responded, h.serves⟩
    · cases hstep
  · simp only [completeRead, Bool.false_eq_true, if_false] at hstep
    obtain ⟨⟨b, p⟩, hread, hstep⟩ := Option.bind_eq_some_iff.mp hstep
    have htaken := Pipe.taken_of_read hread
    have hbytes := Pipe.bytes_of_read hread
    have hle : AuthChallengeMsg.MESSAGE_SIZE < s.down.bytes.length := by
      have := Pipe.le_of_read hread
      rw [hdials.taken_eq] at this
      simp only [Dialing.consumed, AuthStatusMsg.MESSAGE_SIZE] at this
      omega
    obtain ⟨rest, after, hfill⟩ := h.serves.status_of_le hphrase hle
    have hb := Pipe.eq_of_read hread hfill
      (hdials.taken_eq.trans (AuthChallengeMsg.length_ofPhrase hphrase).symm) rfl
    subst hb
    obtain ⟨q, hq, rfl⟩ := Option.map_eq_some_iff.mp hstep
    refine ⟨?_, hbytes ▸ h.serves⟩
    simp only [htaken]
    exact hdials.succeeded hq
  · cases hstep

lemma serverComplete (h : InStep P H password phrase s)
    (hphrase : phrase.length = AuthChallengeMsg.PHRASE_SIZE)
    (hstep : s.serverComplete H password false = some s') : InStep P H password phrase s' := by
  unfold Handshake.serverComplete at hstep
  split at hstep <;> rename_i hop
  · simp only [Bool.false_eq_true, if_false] at hstep
    obtain ⟨⟨b, p⟩, hread, hstep⟩ := Option.bind_eq_some_iff.mp hstep
    obtain ⟨c, hc, rfl⟩ := Option.map_eq_some_iff.mp hstep
    obtain ⟨received, hauth⟩ := h.serves.authentic
    have htaken := h.serves.untaken (hauth.unread (.inr hop))
    have hle : AuthResponseMsg.MESSAGE_SIZE ≤ s.up.bytes.length := by
      have := Pipe.le_of_read hread
      omega
    obtain ⟨rest, after, hfill⟩ := h.dials.answer_of_le hle
    have hb := Pipe.eq_of_read hread hfill htaken (AuthResponseMsg.length_ofChallenge phrase)
    subst hb
    refine ⟨Pipe.bytes_of_read hread ▸ h.dials, ?_⟩
    rw [Pipe.taken_of_read hread]
    exact h.serves.read hphrase rfl hc
  · split at hstep <;> rename_i hdone
    · obtain ⟨c, hc, rfl⟩ := Option.map_eq_some_iff.mp hstep
      rw [Bool.false_or, beq_iff_eq] at hdone
      exact ⟨h.dials, h.serves.written hdone hc⟩
    · cases hstep

lemma step (h : InStep P H password phrase s)
    (hphrase : phrase.length = AuthChallengeMsg.PHRASE_SIZE) {e : Event ε} (he : ErrorFree P s e)
    (hstep : s.step P H password password e = some s') : InStep P H password phrase s' := by
  cases e with
  | transmit n =>
    simp only [Handshake.step, Option.ite_none_right_eq_some, Option.some.injEq] at hstep
    obtain ⟨⟨hpos, hn⟩, rfl⟩ := hstep
    exact ⟨h.dials.transmit hpos hn, h.serves⟩
  | completed error =>
    simp only [Handshake.step, Option.ite_none_right_eq_some] at hstep
    obtain rfl : error = false := he
    exact h.complete hphrase hstep.2
  | own e =>
    simp only [Handshake.step, Option.ite_none_right_eq_some, Option.map_eq_some_iff] at hstep
    obtain ⟨hown, p, hp, rfl⟩ := hstep
    exact ⟨h.dials.own hown hp (he p hp), h.serves⟩
  | request bytes =>
    cases hstep
    exact ⟨h.dials.request he bytes, h.serves⟩
  | serverTransmit n =>
    simp only [Handshake.step, Option.ite_none_right_eq_some, Option.some.injEq] at hstep
    obtain ⟨⟨hpos, hn⟩, rfl⟩ := hstep
    exact ⟨h.dials, h.serves.transmit hpos hn⟩
  | serverCompleted error =>
    obtain rfl : error = false := he
    exact h.serverComplete hphrase hstep
  | forget => exact he.elim
  | session e =>
    obtain ⟨c, hc, rfl⟩ := Option.map_eq_some_iff.mp hstep
    exact ⟨h.dials, h.serves.session hc⟩
  | respond bytes =>
    simp only [Handshake.step, Option.ite_none_right_eq_some, Option.some.injEq] at hstep
    obtain ⟨hsession, rfl⟩ := hstep
    exact ⟨h.dials, h.serves.respond hsession bytes⟩

end InStep

section Progress

variable (hdone : Completed P H password password s)

include hdone

lemma Completed.complete_eq_none : s.complete P H password false = none := by
  have hnone := hdone.2 (.completed false) rfl
  simpa only [step, hdone.1, if_true] using hnone

/-- No part of the response is left to be handed over. -/
lemma Completed.upDone_eq (h : InStep P H password phrase s) :
    s.upDone = s.stage.outgoing.length := by
  by_contra hne
  have hlt := Nat.lt_of_le_of_ne h.dials.bound hne
  have hnone := hdone.2 (.transmit (s.stage.outgoing.length - s.upDone)) rfl
  simp only [step, List.length_drop, le_refl, and_true, Nat.sub_pos_of_lt hlt, if_true] at hnone
  cases hnone

lemma Completed.downDone_eq (h : InStep P H password phrase s) :
    s.downDone = s.client.handshake.outgoing.length := by
  by_contra hne
  have hlt := Nat.lt_of_le_of_ne h.serves.bound hne
  have hnone := hdone.2 (.serverTransmit (s.client.handshake.outgoing.length - s.downDone)) rfl
  simp only [step, List.length_drop, le_refl, and_true, Nat.sub_pos_of_lt hlt, if_true] at hnone
  cases hnone

/-- The server waits for the response or for nothing. -/
lemma Completed.pending (h : InStep P H password phrase s) :
    s.client.handshake.pending = some .readChallengeResponse ∨
      s.client.handshake.pending = none := by
  have hnone := hdone.2 (.serverCompleted false) rfl
  have hdown := hdone.downDone_eq h
  rcases hop : s.client.handshake.pending with _ | op
  · exact .inr rfl
  · cases op with
    | readChallengeResponse => exact .inl rfl
    | writeAuthFailure => exact absurd hop h.serves.unrefused
    | writeChallenge | writeAuthSuccess =>
      simp [step, Handshake.serverComplete, hop, hdown, AssetClient.step] at hnone

/-- What the server has sent. -/
lemma Completed.down_eq (h : InStep P H password phrase s) :
    ∃ more, s.down.bytes = sentTo phrase s.client ++ more := by
  obtain ⟨more, hmore, -⟩ := h.serves.stream
  rw [hdone.downDone_eq h, List.drop_length, List.append_nil] at hmore
  exact ⟨more, hmore⟩

/-- The party has sent its response, or it waits for the status of one. -/
lemma Completed.stage (h : InStep P H password phrase s)
    (hphrase : phrase.length = AuthChallengeMsg.PHRASE_SIZE) :
    s.stage = .recvStatus ∨ s.stage = .finished := by
  have hnone := hdone.complete_eq_none
  have hup := hdone.upDone_eq h
  have htaken := h.dials.taken_eq
  cases hstage : s.stage with
  | connecting =>
    rw [Handshake.complete, hstage] at hnone
    cases hnone
  | recvChallenge =>
    obtain ⟨more, hdown⟩ := hdone.down_eq h
    have hchallenge : ∃ after, s.down.bytes =
        [] ++ ((AuthChallengeMsg.ofPhrase phrase).data ++ after) := by
      unfold sentTo at hdown
      split at hdown
      · exact ⟨more, hdown⟩
      · exact ⟨more, hdown⟩
      · exact ⟨_, hdown.trans (List.append_assoc _ _ _)⟩
    obtain ⟨after, hbytes⟩ := hchallenge
    rw [hstage] at htaken
    obtain ⟨p, hread⟩ := Pipe.exists_read hbytes htaken (AuthChallengeMsg.length_ofPhrase hphrase)
    simp [Handshake.complete, hstage, completeRead, hread, Dialing.onRecvChallenge,
      Dialing.sendChallengeResponse, proceed] at hnone
  | writeResponse r =>
    rw [hstage] at hup
    simp [Handshake.complete, hstage, hup, Dialing.outgoing, Dialing.onChallengeResponseWrite,
      proceed] at hnone
  | recvStatus => exact .inl rfl
  | finished => exact .inr rfl

/-- The server has begun the session. -/
lemma Completed.pending_eq_none (h : InStep P H password phrase s)
    (hphrase : phrase.length = AuthChallengeMsg.PHRASE_SIZE) :
    s.client.handshake.pending = none := by
  refine (hdone.pending h).resolve_left fun hop => ?_
  obtain ⟨more, hmore, -⟩ := h.dials.stream
  have hup := hdone.upDone_eq h
  obtain ⟨received, hauth⟩ := h.serves.authentic
  have htaken := h.serves.untaken (hauth.unread (.inr hop))
  have hbytes : s.up.bytes = [] ++ ((answer H password phrase).data ++ more) := by
    rw [hup, List.drop_length, List.append_nil] at hmore
    rcases hdone.stage h hphrase with hstage | hstage <;> rw [hstage] at hmore <;> exact hmore
  obtain ⟨p, hread⟩ := Pipe.exists_read hbytes htaken (AuthResponseMsg.length_ofChallenge phrase)
  have hnone := hdone.2 (.serverCompleted false) rfl
  have hlen : (answer H password phrase).data.length = AuthResponseMsg.MESSAGE_SIZE :=
    AuthResponseMsg.length_ofChallenge phrase
  simp [step, Handshake.serverComplete, hop, hread, AssetClient.step, hlen] at hnone

/-- Both ends agree that the party is let in. -/
lemma Completed.agreed (h : InStep P H password phrase s)
    (hphrase : phrase.length = AuthChallengeMsg.PHRASE_SIZE) :
    P.established s.party = true ∧
      ∃ c, s.client.session = some c ∧ c.isMeshConnection = true := by
  have hop := hdone.pending_eq_none h hphrase
  obtain ⟨c, hc⟩ := Option.isSome_iff_exists.mp (h.serves.going.mpr hop)
  obtain ⟨received, hauth⟩ := h.serves.authentic
  refine ⟨h.dials.established.mpr ((hdone.stage h hphrase).resolve_left fun hstage => ?_), c, hc,
    ?_⟩
  · obtain ⟨more, hdown⟩ := hdone.down_eq h
    rw [sentTo, hop, List.append_assoc] at hdown
    have htaken := h.dials.taken_eq
    rw [hstage] at htaken
    obtain ⟨p, hread⟩ : ∃ p, s.down.read AuthStatusMsg.MESSAGE_SIZE = some (_, p) :=
      Pipe.exists_read hdown (htaken.trans (AuthChallengeMsg.length_ofPhrase hphrase).symm) rfl
    obtain ⟨q, hq⟩ := P.exists_result s.party true hdone.1 (h.dials.connecting (by simp [hstage]))
    have hstatus : Dialing.onAuthenticationStatus
        (some (AuthStatusMsg.ofStatus .success).messageData) = .result true := by decide
    have hnone := hdone.complete_eq_none
    simp [Handshake.complete, hstage, completeRead, hread, hstatus, proceed, hq] at hnone
  · obtain ⟨r, hr, -, hmesh⟩ := hauth.accepted (.inr (by simp [hc]))
    rw [hauth.flag c hc, hmesh, h.serves.answered r hr]
    rfl

end Progress

end Liveness

end Handshake

end Whip
