import Whip.Net.Handshake
import Whip.Net.Hashing
import Whip.Net.RemoteAssetService
import Whip.Mesh.MeshServer

/-!
# Who is let in

The two parties that make the handshake, and what both ends know after it.
-/

namespace Whip

/-! ### A remote asset service -/

namespace RemoteAssetService

variable {κ : Type} {s s' t : RemoteAssetService κ}

/-- What is no part of connecting never takes the connection for established. -/
structure Unraised (s s' : RemoteAssetService κ) : Prop where
  connecting : s'.connecting = s.connecting
  established : s'.established = true → s.established = true

namespace Unraised

/-- A step that is made under a condition. -/
lemma ite {p : Prop} [Decidable p] (h : Unraised s t)
    (hs : (if p then some t else none) = some s') :
    Unraised s s' :=
  Option.some.inj (Option.ite_none_right_eq_some.mp hs).2 ▸ h

lemma close (s : RemoteAssetService κ) : Unraised s s.close := ⟨rfl, fun h => by cases h⟩

lemma checkSafeKill (h : Unraised s t) : Unraised s t.checkSafeKill := by
  unfold RemoteAssetService.checkSafeKill
  split
  · exact ⟨h.connecting, h.established⟩
  · exact h

lemma answer {response : RASResponse} {rest : List (Pipelined.Frame Own)}
    (h : s.answer response rest = some s') : Unraised s s' := by
  obtain ⟨c, hc, rfl⟩ := Option.map_eq_some_iff.mp h
  exact ⟨rfl, fun h => (Pipelined.Client.established_answer hc).symm.trans h⟩

lemma onReadResponseHeader {header : ByteString} (h : s.onReadResponseHeader header = some s') :
    Unraised s s' := by
  simp only [RemoteAssetService.onReadResponseHeader] at h
  split at h
  · cases h
    exact ⟨rfl, id⟩
  · cases h
    exact ⟨rfl, id⟩
  · cases h
    exact close s
  · split at h
    · cases h
      exact ⟨rfl, id⟩
    · exact answer h

lemma onReadResponseData {data : ByteString} (h : s.onReadResponseData data = some s') :
    Unraised s s' := by
  simp only [RemoteAssetService.onReadResponseData] at h
  split at h
  · split at h
    · cases h
    · split at h
      case h_8 =>
        cases h
        exact close s
      all_goals
        try exact answer h
      all_goals
        split at h
        · exact answer h
        · cases h
          exact close s
  · cases h
    exact close s

lemma resume (h : s.resume = some s') : Unraised s s' := by
  unfold RemoteAssetService.resume at h
  split at h
  · cases h
    split <;> exact ⟨rfl, id⟩
  · cases h
    exact ⟨rfl, id⟩
  · cases h
    exact checkSafeKill ⟨rfl, id⟩
  · obtain ⟨c, hc, rfl⟩ := Option.map_eq_some_iff.mp h
    exact ⟨rfl, fun h => (Pipelined.Client.established_resume hc).symm.trans h⟩

lemma onRead {op : ReadOp} {bytes : Option ByteString} (h : s.onRead op bytes = some s') :
    Unraised s s' := by
  unfold RemoteAssetService.onRead at h
  have hnone : ∀ {t}, Unraised { s with reading := none } t → Unraised s t :=
    fun h => ⟨h.connecting, h.established⟩
  split at h
  · cases h
    exact hnone (close _)
  · exact hnone (onReadResponseHeader h)
  · exact hnone (onReadResponseData h)
  · exact hnone (answer h)

lemma onAfterWriteAssetRequest (s : RemoteAssetService κ) (success : Bool) :
    Unraised s (s.onAfterWriteAssetRequest success) := by
  unfold RemoteAssetService.onAfterWriteAssetRequest
  split
  · refine checkSafeKill ?_
    split
    · refine ⟨rfl, fun h => ?_⟩
      rwa [Pipelined.Client.established_next] at h
    · exact ⟨rfl, id⟩
  · exact ⟨rfl, fun h => by cases h⟩

end Unraised

def Event.isOwn : Event κ → Bool
  | .connect | .connected _ => false
  | _                       => true

lemma unraised_step {e : Event κ} (hown : e.isOwn = true) (hstep : s.step e = some s') :
    Unraised s s' := by
  cases e with
  | connect | connected success => cases hown
  | resume => exact Unraised.resume hstep
  | setSafekillCallback =>
    refine Unraised.ite ?_ hstep
    exact ⟨rfl, id⟩
  | getAsset id cache k | putAsset asset k | getStoredAssetIDsWithPrefix head k =>
    obtain rfl := issue_of_request rfl hstep
    exact ⟨rfl, fun h => (Pipelined.Client.established_request _ _ _).symm.trans h⟩
  | close => exact (Unraised.close s).ite hstep
  | written success => exact (Unraised.onAfterWriteAssetRequest s success).ite hstep
  | read bytes =>
    simp only [step] at hstep
    split at hstep
    · cases hstep
    · exact Unraised.onRead (Option.ite_none_right_eq_some.mp hstep).2
  | runPosted i =>
    simp only [step, Option.ite_none_right_eq_some, Option.map_eq_some_iff] at hstep
    obtain ⟨-, c, hc, rfl⟩ := hstep
    exact ⟨rfl, fun h => (Pipelined.Client.established_runPosted hc).symm.trans h⟩

variable (κ) in
/-- The service is connected once. -/
def party : Party (RemoteAssetService κ) (Event κ) where
  step := step
  result := .connected
  isOwn := Event.isOwn
  idle s := s.running.isEmpty
  connecting s := s.connecting
  established s := s.established
  exists_result s b hidle hconn := ⟨s.onConnectionResult b, by simp [step, hidle, hconn]⟩
  established_result s b s' hstep := by
    simp only [step, Option.ite_none_right_eq_some, Option.some.injEq] at hstep
    rw [← hstep.2]
    rfl
  connecting_own s e s' hown hstep := (unraised_step hown hstep).connecting
  established_own s e s' hown hstep := (unraised_step hown hstep).established

end RemoteAssetService

/-! ### A server of the mesh -/

namespace MeshServer

variable {κ : Type} {s s' t : MeshServer κ}

/-- What is no part of connecting never takes the asset connection for established. -/
structure Unraised (s s' : MeshServer κ) : Prop where
  assetConnecting : s'.assetConnecting = s.assetConnecting
  established : s'.established = true → s.established = true

namespace Unraised

lemma ite {p : Prop} [Decidable p] (h : Unraised s t)
    (hs : (if p then some t else none) = some s') :
    Unraised s s' :=
  Option.some.inj (Option.ite_none_right_eq_some.mp hs).2 ▸ h

/-- A step after others that leave the two flags alone. -/
lemma of_eq (h : Unraised t s') (hconnecting : t.assetConnecting = s.assetConnecting)
    (hestablished : t.established = s.established) : Unraised s s' :=
  ⟨h.assetConnecting.trans hconnecting, fun he => hestablished ▸ h.established he⟩

lemma close (s : MeshServer κ) : Unraised s s.close := by
  simp only [MeshServer.close]
  split <;> exact ⟨rfl, fun h => by cases h⟩

lemma closeQuery (s : MeshServer κ) : Unraised s s.closeQuery := by
  simp only [MeshServer.closeQuery]
  split
  · exact (close _).of_eq rfl rfl
  · exact ⟨rfl, id⟩

lemma checkSafeKill (s : MeshServer κ) : Unraised s s.checkSafeKill := by
  unfold MeshServer.checkSafeKill
  split <;> exact ⟨rfl, id⟩

lemma onConnectionResult (s : MeshServer κ) : Unraised s s.onConnectionResult := by
  simp only [MeshServer.onConnectionResult]
  split
  · split <;> exact ⟨rfl, id⟩
  · exact ⟨rfl, id⟩

lemma search (s : MeshServer κ) (uuid : ByteString) (k : κ) : Unraised s (s.search uuid k) := by
  unfold MeshServer.search
  split <;> exact ⟨rfl, id⟩

lemma answer {asset : Option Asset} {rest : List (Pipelined.Frame Own)}
    (h : s.answer asset rest = some s') : Unraised s s' := by
  obtain ⟨c, hc, rfl⟩ := Option.map_eq_some_iff.mp h
  exact ⟨rfl, fun h => (Pipelined.Client.established_answer hc).symm.trans h⟩

lemma onReadResponseHeader {header : ByteString} (h : s.onReadResponseHeader header = some s') :
    Unraised s s' := by
  simp only [MeshServer.onReadResponseHeader] at h
  split at h
  · cases h
    exact ⟨rfl, id⟩
  · cases h
    exact close s
  · split at h
    · cases h
    · split at h
      · cases h
        exact close s
      · split at h <;> exact answer h

lemma onReadResponseData {data : ByteString} (h : s.onReadResponseData data = some s') :
    Unraised s s' := by
  simp only [MeshServer.onReadResponseData] at h
  split at h
  · split at h
    · cases h
    · split at h
      · exact answer h
      · cases h
        exact close s
  · cases h
    exact close s

lemma onRead {op : ReadOp} {bytes : Option ByteString} (h : s.onRead op bytes = some s') :
    Unraised s s' := by
  unfold MeshServer.onRead at h
  split at h
  · cases h
    exact (close _).of_eq rfl rfl
  · exact (onReadResponseHeader h).of_eq rfl rfl
  · exact (onReadResponseData h).of_eq rfl rfl
  · cases h
    exact ⟨rfl, id⟩

lemma onAfterWriteAssetRequest (s : MeshServer κ) (success : Bool) :
    Unraised s (s.onAfterWriteAssetRequest success) := by
  unfold MeshServer.onAfterWriteAssetRequest
  split
  · refine (checkSafeKill _).of_eq ?_ ?_ <;> split
    all_goals first | rfl | exact Pipelined.Client.established_next _ _
  · exact (close _).of_eq rfl rfl

lemma onQueryConnect (s : MeshServer κ) (success : Bool) :
    Unraised s (s.onQueryConnect success) := by
  unfold MeshServer.onQueryConnect
  split <;> exact (onConnectionResult _).of_eq rfl rfl

lemma onQueryWritten (s : MeshServer κ) (success : Bool) :
    Unraised s (s.onQueryWritten success) := by
  unfold MeshServer.onQueryWritten
  split
  · exact ⟨rfl, id⟩
  · exact (closeQuery _).of_eq rfl rfl

lemma onQueryRead (s : MeshServer κ) (msg : Option IntraMeshMsg) :
    Unraised s (s.onQueryRead msg) := by
  unfold MeshServer.onQueryRead
  split
  · exact (closeQuery _).of_eq rfl rfl
  all_goals exact ⟨rfl, id⟩

lemma resume (h : s.resume = some s') : Unraised s s' := by
  unfold MeshServer.resume at h
  split at h
  case h_6 =>
    cases h
    exact (checkSafeKill _).of_eq rfl rfl
  case h_8 =>
    obtain ⟨c, hc, rfl⟩ := Option.map_eq_some_iff.mp h
    exact ⟨rfl, fun h => (Pipelined.Client.established_resume hc).symm.trans h⟩
  all_goals
    cases h
    exact ⟨rfl, id⟩

end Unraised

def Event.isOwn : Event κ → Bool
  | .connect | .assetConnected _ => false
  | _                            => true

/-- The result of connecting sets the flag. -/
lemma established_onConnect (s : MeshServer κ) (success : Bool) :
    (s.onConnect success).established = success := by
  simp only [onConnect, onConnectionResult]
  split
  · split <;> rfl
  · rfl

variable [DecidableEq κ]

lemma unraised_step {e : Event κ} (hown : e.isOwn = true) (hstep : s.step e = some s') :
    Unraised s s' := by
  cases e with
  | connect | assetConnected success => cases hown
  | resume => exact Unraised.resume hstep
  | read bytes =>
    simp only [step] at hstep
    split at hstep
    · cases hstep
    · exact Unraised.onRead (Option.ite_none_right_eq_some.mp hstep).2
  | runPosted i =>
    simp only [step, Option.ite_none_right_eq_some, Option.map_eq_some_iff] at hstep
    obtain ⟨-, c, hc, rfl⟩ := hstep
    exact ⟨rfl, fun h => (Pipelined.Client.established_runPosted hc).symm.trans h⟩
  | registerSafeKillCallback | cancelSearch uuid k =>
    refine Unraised.ite ?_ hstep
    exact ⟨rfl, id⟩
  | getAsset uuid k =>
    refine Unraised.ite ?_ hstep
    exact ⟨rfl, fun h => (Pipelined.Client.established_request _ _ _).symm.trans h⟩
  | search uuid k =>
    refine Unraised.ite ?_ hstep
    split
    · exact Unraised.search s uuid k
    · exact ⟨rfl, id⟩
  | close => exact (Unraised.close s).ite hstep
  | queryConnected success => exact (Unraised.onQueryConnect s success).ite hstep
  | written success => exact (Unraised.onAfterWriteAssetRequest s success).ite hstep
  | queryWritten success => exact (Unraised.onQueryWritten s success).ite hstep
  | queryRead msg => exact (Unraised.onQueryRead s msg).ite hstep

variable (κ) in
/-- The server is connected once. -/
def party : Party (MeshServer κ) (Event κ) where
  step := step
  result := .assetConnected
  isOwn := Event.isOwn
  idle s := s.running.isEmpty
  connecting s := s.assetConnecting
  established s := s.established
  exists_result s b hidle hconn := ⟨s.onConnect b, by simp [step, hidle, hconn]⟩
  established_result s b s' hstep := by
    simp only [step, Option.ite_none_right_eq_some, Option.some.injEq] at hstep
    rw [← hstep.2, established_onConnect]
  connecting_own s e s' hown hstep := (unraised_step hown hstep).assetConnecting
  established_own s e s' hown hstep := (unraised_step hown hstep).established

end MeshServer

/-! ### Both ends agree -/

namespace Handshake

variable {σ ε : Type}

/-- A party that is about to connect to a server that will send this phrase. -/
def start (party : σ) (phrase : ByteString) : Handshake σ where
  party := party
  client := .sendAuthChallenge phrase

lemma safe_start (P : Party σ ε) (H : Digest) (serverPassword phrase : ByteString) {party : σ}
    (hclosed : P.established party = false) :
    Safe P H serverPassword phrase (start party phrase) where
  authentic := ⟨[], AssetClient.authentic_sendAuthChallenge H serverPassword phrase⟩
  outside _ := by
    refine ⟨⟨List.nil_prefix, fun _ => ?_, ?_, ?_⟩, hclosed, fun _ => rfl⟩ <;>
      simp [start, AssetClient.sendAuthChallenge, AssetClient.begin, CSUnauthenticated.outgoing]

lemma inStep_start (P : Party σ ε) (H : Digest) (password phrase : ByteString) {party : σ}
    (hconnecting : P.connecting party = true) (hclosed : P.established party = false) :
    InStep P H password phrase (start party phrase) where
  dials := ⟨⟨[], rfl, fun _ => rfl⟩, by simp [start], Nat.zero_le _, rfl, by simp [start, hclosed],
    fun _ => hconnecting⟩
  serves := by
    refine ⟨⟨[], AssetClient.authentic_sendAuthChallenge H password phrase⟩, rfl,
      ⟨[], ?_, fun _ => rfl⟩,
      Nat.zero_le _, fun _ => rfl, ?_, ?_, ?_⟩ <;>
      simp [start, AssetClient.sendAuthChallenge, AssetClient.begin, CSUnauthenticated.outgoing,
        sentTo]

/-- What holds of every handshake of the party with a server. -/
def Sound (P : Party σ ε) (H : Digest) (serverPassword phrase : ByteString) : Prop :=
  ∀ (password : ByteString) (party : σ) (es : List (Event ε)) (t : Handshake σ),
    P.connecting party = true → P.established party = false →
    Machine.run (step P H serverPassword password) (start party phrase) es = some t →
      (P.established t.party = true → t.client.Accepted H serverPassword) ∧
      (password = serverPassword →
        Machine.Guarded (step P H serverPassword password) (ErrorFree P) (start party phrase) es →
        Completed P H serverPassword password t →
        P.established t.party = true ∧
          ∃ c, t.client.session = some c ∧ c.isMeshConnection = true)

lemma sound (P : Party σ ε) (H : Digest) (serverPassword : ByteString) {phrase : ByteString}
    (hphrase : phrase.length = AuthChallengeMsg.PHRASE_SIZE) : Sound P H serverPassword phrase := by
  intro password party es t hconnecting hclosed hrun
  refine ⟨fun hest => ?_, fun heq hfree hdone => ?_⟩
  · by_contra ha
    have hsafe : Safe P H serverPassword phrase t :=
      Machine.run_invariant' (I := Safe P H serverPassword phrase)
        (fun s e s' hs hstep => hs.step hphrase hstep)
          (safe_start P H serverPassword phrase hclosed)
        hrun
    rw [(hsafe.outside ha).closed] at hest
    cases hest
  · subst heq
    have hinstep : InStep P H password phrase t :=
      Machine.run_invariant (I := InStep P H password phrase)
        (fun s e s' hs he hstep => hs.step hphrase he hstep)
        (inStep_start P H password phrase hconnecting hclosed) hfree hrun
    exact hdone.agreed hinstep hphrase

end Handshake

/-- The handshake is the only way in, and agrees on both ends: a connection is authenticated only by
the hash of the password and the phrase, a connecting server believes it is let in only if it was
accepted, and both believe it when the passwords are equal and nothing fails. -/
theorem handshake_agrees (H : Digest) (serverPassword phrase : ByteString)
    (hphrase : phrase.length = AuthChallengeMsg.PHRASE_SIZE) :
    (∀ es c s,
      Machine.run (AssetClient.step H serverPassword) (.sendAuthChallenge phrase) es = some c →
      c.session = some s →
      ∃ r, es.filterMap AssetClient.Event.received = [r] ∧ r.length = 41 ∧
        (r.head? = some 0 ∨ r.head? = some 100) ∧
        r.drop 1 = H.hex (serverPassword ++ phrase) ∧
        (s.isMeshConnection = true ↔ r.head? = some 100)) ∧
    (∀ κ : Type, Handshake.Sound (RemoteAssetService.party κ) H serverPassword phrase) ∧
    (∀ (κ : Type) [DecidableEq κ],
      Handshake.Sound (MeshServer.party κ) H serverPassword phrase) := by
  refine ⟨fun es c s hrun hs => AssetClient.answer_of_session hphrase hrun hs, fun κ => ?_,
    fun κ _ => ?_⟩
  · exact Handshake.sound _ H serverPassword hphrase
  · exact Handshake.sound _ H serverPassword hphrase

namespace Handshake

/-- The events of a handshake in which nothing fails. -/
def smooth {ε : Type} : List (Event ε) :=
  [.completed false, .serverTransmit 8, .serverCompleted false, .completed false, .transmit 41,
    .completed false, .serverCompleted false, .serverTransmit 2, .serverCompleted false,
    .completed false]

/-- A step of the handshake without an error, or one of the party that keeps the connection. -/
def goesWell {σ ε : Type} (P : Party σ ε) (s : Handshake σ) : Event ε → Bool
  | .own e => (P.step s.party e).all fun p => !P.established s.party || P.established p
  | e      => e.isHandshake

lemma errorFree_of_goesWell {σ ε : Type} {P : Party σ ε} {s : Handshake σ} {e : Event ε}
    (h : goesWell P s e = true) : ErrorFree P s e := by
  cases e with
  | own e =>
    intro p hp hest
    simpa [goesWell, hp, hest] using h
  | completed error | serverCompleted error =>
    simpa [goesWell, Event.isHandshake, ErrorFree] using h
  | transmit n | serverTransmit n => trivial
  | _ => cases h

/-- Nothing is left to do. -/
def isOver {σ ε : Type} (P : Party σ ε) (s : Handshake σ) : Bool :=
  P.idle s.party && decide (s.stage = .finished) && s.client.handshake.pending.isNone

lemma completed_of_isOver {σ ε : Type} {P : Party σ ε} {H : Digest}
    {serverPassword password : ByteString} {s : Handshake σ} (h : isOver P s = true) :
    Completed P H serverPassword password s := by
  simp only [isOver, Bool.and_eq_true, decide_eq_true_eq, Option.isNone_iff_eq_none] at h
  exact completed_of_finished h.1.1 h.1.2 h.2

end Handshake

/-- A phrase and a password. -/
def samplePhrase : ByteString := [51, 97, 48, 102, 55, 50, 98]

def samplePassword : ByteString := [115, 101, 99, 114, 101, 116]

/-- Their hash, with which runs can be evaluated. -/
def sampleHash : ByteString :=
  CSHA1.lowerHex [0xe8, 0xe0, 0x88, 0xd1, 0xd4, 0xcd, 0x3a, 0xfd, 0xf2, 0x63, 0x25, 0x93, 0x48,
    0xe0, 0xf2, 0xa8, 0xa2, 0x83, 0x2a, 0x5a]

def sampleDigest : Digest where
  hex m := if m = samplePassword ++ samplePhrase then sampleHash else CSHA1.sha1.hex m
  length_hex m := by
    split_ifs
    · rfl
    · exact CSHA1.sha1.length_hex m

lemma sha1_eq_sampleDigest : CSHA1.sha1 = sampleDigest := by
  have hsample : CSHA1.sha1.hex (samplePassword ++ samplePhrase) = sampleHash :=
    congrArg CSHA1.lowerHex (CSHA1.hash_of_digest (by decide) (by decide +kernel))
  ext1
  funext m
  by_cases hm : m = samplePassword ++ samplePhrase
  · simp [sampleDigest, hm, hsample]
  · simp [sampleDigest, hm]

theorem handshake_lets_in :
    (∃ c s, Machine.run (AssetClient.step CSHA1.sha1 samplePassword)
        (.sendAuthChallenge samplePhrase) [.written false,
          .read (some (0 :: CSHA1.sha1.hex (samplePassword ++ samplePhrase))), .written false] =
          some c ∧
      c.session = some s ∧ s.isMeshConnection = false) ∧
    (∃ t c, Machine.run (Handshake.step (RemoteAssetService.party Unit) CSHA1.sha1 samplePassword
        samplePassword) (Handshake.start { connecting := true } samplePhrase)
        (Handshake.smooth ++ [.own .resume, .own .resume]) = some t ∧
      t.party.established = true ∧ t.client.Accepted CSHA1.sha1 samplePassword ∧
      t.client.session = some c ∧ c.isMeshConnection = true) ∧
    (∃ t c, Machine.run (Handshake.step (MeshServer.party Unit) CSHA1.sha1 samplePassword
        samplePassword) (Handshake.start { assetConnecting := true } samplePhrase)
        Handshake.smooth = some t ∧
      t.party.established = true ∧ t.client.Accepted CSHA1.sha1 samplePassword ∧
      t.client.session = some c ∧ c.isMeshConnection = true) := by
  obtain ⟨hserver, hservice, hmesh⟩ :=
    handshake_agrees CSHA1.sha1 samplePassword samplePhrase rfl
  refine ⟨?_, ?_, ?_⟩
  · obtain ⟨c, hrun, hs⟩ : ∃ c, Machine.run (AssetClient.step CSHA1.sha1 samplePassword)
        (.sendAuthChallenge samplePhrase) [.written false,
          .read (some (0 :: CSHA1.sha1.hex (samplePassword ++ samplePhrase))), .written false] =
          some c ∧ c.session.isSome = true :=
      Machine.exists_run_of_any (by rw [sha1_eq_sampleDigest]; decide +kernel)
    obtain ⟨s, hs⟩ := Option.isSome_iff_exists.mp hs
    obtain ⟨r, hr, -, -, -, hflag⟩ := hserver _ c s hrun hs
    obtain rfl := List.singleton_inj.mp hr
    exact ⟨c, s, hrun, hs, Bool.eq_false_iff.mpr fun h => absurd (hflag.mp h) (by simp)⟩
  · obtain ⟨s, t, hs, hwell, hrun, hover⟩ := Machine.exists_run
      (Handshake.step (RemoteAssetService.party Unit) CSHA1.sha1 samplePassword samplePassword)
      (some (Handshake.start { connecting := true } samplePhrase))
      (Handshake.goesWell (RemoteAssetService.party Unit))
      (Handshake.smooth ++ [.own .resume, .own .resume])
      (Handshake.isOver (RemoteAssetService.party Unit))
      (by rw [sha1_eq_sampleDigest]; decide +kernel)
    obtain rfl := Option.some.inj hs
    obtain ⟨hsafe, hlive⟩ := hservice Unit samplePassword _ _ t rfl rfl hrun
    obtain ⟨hest, c, hc, hflag⟩ := hlive rfl
      (hwell.mono fun _ _ h => Handshake.errorFree_of_goesWell h)
      (Handshake.completed_of_isOver hover)
    exact ⟨t, c, hrun, hest, hsafe hest, hc, hflag⟩
  · obtain ⟨s, t, hs, hwell, hrun, hover⟩ := Machine.exists_run
      (Handshake.step (MeshServer.party Unit) CSHA1.sha1 samplePassword samplePassword)
      (some (Handshake.start { assetConnecting := true } samplePhrase))
      (Handshake.goesWell (MeshServer.party Unit)) Handshake.smooth
      (Handshake.isOver (MeshServer.party Unit)) (by rw [sha1_eq_sampleDigest]; decide +kernel)
    obtain rfl := Option.some.inj hs
    obtain ⟨hsafe, hlive⟩ := hmesh Unit samplePassword _ _ t rfl rfl hrun
    obtain ⟨hest, c, hc, hflag⟩ := hlive rfl
      (hwell.mono fun _ _ h => Handshake.errorFree_of_goesWell h)
      (Handshake.completed_of_isOver hover)
    exact ⟨t, c, hrun, hest, hsafe hest, hc, hflag⟩

end Whip
