import Whip.Mesh.IntraMeshMsg
import Whip.Lib.SendQueue
import Whip.Lib.Framing
import Whip.Lib.Machine

/-!
# The server's end of a query connection

`IntraMeshQueryClient` answers the queries of a peer and sends it heartbeats. It reads one packet at
a time, and reads again when the answer has been sent. Answers and heartbeats share a queue behind
one `async_send`, which may transfer less than it was given.
-/

namespace Whip

/-- Which handler a completed send calls. -/
inductive IQCSendItem.CallBack
  | onAfterSendQueryResponse
  | onAfterSendHeartbeat
deriving DecidableEq

structure IQCSendItem where
  message : IntraMeshPacket
  callBack : IQCSendItem.CallBack
deriving DecidableEq

/-- The flags `_sendActive` and `_recvActive` are kept apart from the operations that are
outstanding on the connection, `sends` and `receives`. The last three fields are its history: the
messages passed in to be sent, those of them whose send has succeeded, and the bytes that were
transferred. -/
structure IntraMeshQueryClient extends SendQueue IQCSendItem where
  isOpen : Bool := true
  recvActive : Bool := false
  receives : ℕ := 0
  disconnects : ℕ := 0
  passed : List IntraMeshPacket := []
  completed : List IntraMeshPacket := []
  stream : ByteString := []

namespace IntraMeshQueryClient

def connectionActive (c : IntraMeshQueryClient) : Bool := c.sendActive || c.recvActive

/-- `queryClientDisconnected` is called when nothing is outstanding. -/
def close (c : IntraMeshQueryClient) : IntraMeshQueryClient :=
  let c := { c with isOpen := false }
  if !c.connectionActive then { c with disconnects := c.disconnects + 1 } else c

def listenForMeshMessage (c : IntraMeshQueryClient) : IntraMeshQueryClient :=
  { c with recvActive := true, receives := c.receives + 1 }

/-! ### Sending -/

/-- Send a message, or queue it along with its handler. -/
def sendMessage (c : IntraMeshQueryClient) (item : IQCSendItem) : IntraMeshQueryClient :=
  { c with toSendQueue := c.toSendQueue.send item, passed := c.passed ++ [item.message] }

def sendQueryResponse (c : IntraMeshQueryClient) (outbound : IntraMeshPacket) :
    IntraMeshQueryClient :=
  c.sendMessage ⟨outbound, .onAfterSendQueryResponse⟩

def sendHeartbeat (c : IntraMeshQueryClient) (flags : UInt32) : IntraMeshQueryClient :=
  c.sendMessage ⟨.ofHeartbeat flags, .onAfterSendHeartbeat⟩

def processQueuedSend (c : IntraMeshQueryClient) : IntraMeshQueryClient :=
  { c with toSendQueue := c.toSendQueue.processQueuedSend }

/-- `bytesSent` is `none` for an error. -/
def onAfterSendQueryResponse (c : IntraMeshQueryClient) (bytesSent : Option ℕ) :
    IntraMeshQueryClient :=
  if bytesSent.any (0 < ·) then c.listenForMeshMessage.processQueuedSend else c.close

def onAfterSendHeartbeat (c : IntraMeshQueryClient) (bytesSent : Option ℕ) : IntraMeshQueryClient :=
  if bytesSent.any (0 < ·) then c.processQueuedSend else c.close

/-! ### Answering -/

def sendAssetFound (c : IntraMeshQueryClient) (inboundMsg : IntraMeshPacket) :
    IntraMeshQueryClient :=
  c.sendQueryResponse (.ofResponse inboundMsg.getAssetUUID .found)

def sendAssetNotFound (c : IntraMeshQueryClient) (inboundMsg : IntraMeshPacket) :
    IntraMeshQueryClient :=
  c.sendQueryResponse (.ofResponse inboundMsg.getAssetUUID .notFound)

def sendAssetError (c : IntraMeshQueryClient) (inboundMsg : IntraMeshPacket) :
    IntraMeshQueryClient :=
  c.sendQueryResponse (.ofResponse inboundMsg.getAssetUUID .error)

/-- `assetFound` is what `assetExists` returns, and `none` if it throws. -/
def processMeshQuery (c : IntraMeshQueryClient) (inboundMsg : IntraMeshPacket)
    (assetFound : Option Bool) : IntraMeshQueryClient :=
  match assetFound with
  | some true  => c.sendAssetFound inboundMsg
  | some false => c.sendAssetNotFound inboundMsg
  | none       => c.sendAssetError inboundMsg

def processIntrameshMessage (c : IntraMeshQueryClient) (inboundMsg : IntraMeshPacket)
    (assetFound : Option Bool) : IntraMeshQueryClient :=
  if inboundMsg.validate then
    match inboundMsg.getRequestType with
    | some .meshQuery => c.processMeshQuery inboundMsg assetFound
    | _               => c.close
  else c.close

/-- A read that succeeds has read a whole packet. -/
def onMeshMessageReceived (c : IntraMeshQueryClient) (inboundMsg : Option IntraMeshPacket)
    (assetFound : Option Bool) : IntraMeshQueryClient :=
  let c := { c with recvActive := false }
  match inboundMsg with
  | some inboundMsg => c.processIntrameshMessage inboundMsg assetFound
  | none            => c.close

/-! ### The client as a machine -/

/-- `received` comes with what the disk backend would say to a query, and `sent` with the number of
bytes that were transferred. -/
inductive Event
  | received (inboundMsg : Option IntraMeshPacket) (assetFound : Option Bool)
  | sent (i : ℕ) (bytesSent : Option ℕ)
  | sendHeartbeat (flags : UInt32)
  | close

/-- The send of an item has come to its end. -/
def onAfterSend (c : IntraMeshQueryClient) (i : ℕ) (item : IQCSendItem) (bytesSent : Option ℕ) :
    IntraMeshQueryClient :=
  let c := { c with
    toSendQueue := c.toSendQueue.complete i
    completed := c.completed ++ if bytesSent.isSome then [item.message] else []
    stream := c.stream ++ item.message.data.take (bytesSent.getD 0) }
  match item.callBack with
  | .onAfterSendQueryResponse => c.onAfterSendQueryResponse bytesSent
  | .onAfterSendHeartbeat     => c.onAfterSendHeartbeat bytesSent

def step (c : IntraMeshQueryClient) : Event → Option IntraMeshQueryClient
  | .received inboundMsg assetFound =>
    if 0 < c.receives && inboundMsg.all (·.data.length == IntraMeshPacket.MAX_PACKET) then
      some ({ c with receives := c.receives - 1 }.onMeshMessageReceived inboundMsg assetFound)
    else none
  | .sent i bytesSent =>
    match c.sends[i]? with
    | none      => none
    | some item =>
      if bytesSent.all (· ≤ item.message.data.length) then some (c.onAfterSend i item bytesSent)
      else none
  | .sendHeartbeat flags => some (c.sendHeartbeat flags)
  | .close               => some c.close

/-- The client when `start` has returned. -/
def started : IntraMeshQueryClient := listenForMeshMessage {}

/-! ### What is passed in is sent in order -/

variable {c c' : IntraMeshQueryClient}

/-- One message is on its way at most, and what was passed in has been sent, is on its way or waits,
in this order. -/
structure Sending (c : IntraMeshQueryClient) : Prop where
  single : c.toSendQueue.Single
  passed : c.passed = c.completed ++ c.contents.map (·.message)
  size : ∀ p ∈ c.passed, p.data.length = IntraMeshPacket.MAX_PACKET

lemma sending_started : Sending started :=
  ⟨SendQueue.single_new, rfl, by simp [started, listenForMeshMessage]⟩

/-- Nothing is sent. -/
lemma Sending.of_eq (h : Sending c) (hqueue : c'.toSendQueue = c.toSendQueue)
    (hpassed : c'.passed = c.passed) (hcompleted : c'.completed = c.completed) : Sending c' := by
  refine ⟨hqueue ▸ h.single, ?_, hpassed ▸ h.size⟩
  rw [hpassed, hcompleted, hqueue, h.passed]

lemma Sending.sendMessage (h : Sending c) {item : IQCSendItem}
    (hsize : item.message.data.length = IntraMeshPacket.MAX_PACKET) :
    Sending (c.sendMessage item) := by
  refine ⟨h.single.send item, ?_, ?_⟩
  · simp [IntraMeshQueryClient.sendMessage, h.single.contents_send, h.passed]
  · intro p hp
    rcases List.mem_append.mp hp with hp | hp
    · exact h.size p hp
    · rw [List.mem_singleton.mp hp, hsize]

lemma isOpen_close (c : IntraMeshQueryClient) : c.close.isOpen = false := by
  unfold close
  dsimp only
  split_ifs <;> rfl

lemma length_resize (data : ByteString) (n : ℕ) : (IntraMeshPacket.resize data n).length = n := by
  simp only [IntraMeshPacket.resize, List.length_append, List.length_take, List.length_replicate]
  omega

/-- The answer to a query. -/
def reply (query : IntraMeshPacket × Option Bool) : IntraMeshPacket :=
  .ofResponse query.1.getAssetUUID
    (match query.2 with
      | some true  => .found
      | some false => .notFound
      | none       => .error)

lemma processMeshQuery_eq (c : IntraMeshQueryClient) (p : IntraMeshPacket) (found : Option Bool) :
    c.processMeshQuery p found = c.sendQueryResponse (reply (p, found)) := by
  rcases found with _ | _ | _ <;> rfl

/-- The query an event brings. -/
def Event.query : Event → Option (IntraMeshPacket × Option Bool)
  | .received (some p) found =>
    if p.validate && p.getRequestType == some .meshQuery then some (p, found) else none
  | _ => none

/-- On a connection that stays open, a packet that is received is a query. -/
lemma onMeshMessageReceived_eq {inboundMsg : Option IntraMeshPacket} {found : Option Bool}
    (hopen : (c.onMeshMessageReceived inboundMsg found).isOpen = true) :
    ∃ query, Event.query (.received inboundMsg found) = some query ∧
      c.onMeshMessageReceived inboundMsg found =
        { c with recvActive := false }.sendQueryResponse (reply query) := by
  unfold onMeshMessageReceived at hopen ⊢
  cases inboundMsg with
  | none => simp [isOpen_close] at hopen
  | some p =>
    dsimp only [processIntrameshMessage] at hopen ⊢
    split_ifs at hopen ⊢ with hvalid
    · split at hopen
      · next htype =>
        exact ⟨(p, found), by simp [Event.query, hvalid, htype], processMeshQuery_eq ..⟩
      · simp [isOpen_close] at hopen
    · simp [isOpen_close] at hopen

/-- The send of an item has succeeded: the next one is sent, and after an answer the client reads
again. -/
def afterSend (c : IntraMeshQueryClient) (i : ℕ) (item : IQCSendItem) (n : ℕ) :
    IntraMeshQueryClient :=
  let answered := item.callBack == .onAfterSendQueryResponse
  { c with
    toSendQueue := (c.toSendQueue.complete i).processQueuedSend
    recvActive := answered || c.recvActive
    receives := c.receives + answered.toNat
    completed := c.completed ++ [item.message]
    stream := c.stream ++ item.message.data.take n }

lemma onAfterSend_eq {i : ℕ} {item : IQCSendItem} {bytesSent : Option ℕ}
    (hopen : (c.onAfterSend i item bytesSent).isOpen = true) :
    ∃ n, 0 < n ∧ bytesSent = some n ∧ c.onAfterSend i item bytesSent = c.afterSend i item n := by
  by_cases hsome : bytesSent.any (0 < ·) = true
  · obtain ⟨n, rfl, hn⟩ := (Option.any_eq_true ..).mp hsome
    refine ⟨n, by simpa using hn, rfl, ?_⟩
    cases hcallBack : item.callBack <;>
      simp [onAfterSend, hcallBack, onAfterSendQueryResponse, onAfterSendHeartbeat, hn,
        listenForMeshMessage, processQueuedSend, afterSend]
  · cases hcallBack : item.callBack <;>
      simp [onAfterSend, hcallBack, onAfterSendQueryResponse, onAfterSendHeartbeat, hsome,
        isOpen_close] at hopen

/-- What may happen on a connection that stays open. -/
lemma step_cases {e : Event} (hs : c.step e = some c') (hopen : c'.isOpen = true) :
    c.isOpen = true ∧
    ((∃ inboundMsg found query, e = .received inboundMsg found ∧ e.query = some query ∧
        0 < c.receives ∧ c' = sendQueryResponse
          { c with receives := c.receives - 1, recvActive := false } (reply query)) ∨
      (∃ i n item, e = .sent i (some n) ∧ 0 < n ∧ n ≤ item.message.data.length ∧
        c.sends[i]? = some item ∧ c' = c.afterSend i item n) ∨
      (∃ flags, e = .sendHeartbeat flags ∧ c' = c.sendHeartbeat flags)) := by
  cases e with
  | received inboundMsg found =>
    obtain ⟨hcond, hs⟩ := Option.ite_none_right_eq_some.mp hs
    cases hs
    obtain ⟨query, hquery, heq⟩ := onMeshMessageReceived_eq hopen
    simp only [Bool.and_eq_true, decide_eq_true_eq] at hcond
    rw [heq] at hopen ⊢
    exact ⟨hopen, .inl ⟨inboundMsg, found, query, rfl, hquery, hcond.1, rfl⟩⟩
  | sent i bytesSent =>
    simp only [step] at hs
    split at hs
    · cases hs
    · next item hitem =>
      obtain ⟨hle, hs⟩ := Option.ite_none_right_eq_some.mp hs
      cases hs
      obtain ⟨n, hn, rfl, heq⟩ := onAfterSend_eq hopen
      rw [heq] at hopen ⊢
      exact ⟨hopen, .inr (.inl ⟨i, n, item, rfl, hn, by simpa using hle, hitem, rfl⟩)⟩
  | sendHeartbeat flags =>
    cases hs
    exact ⟨hopen, .inr (.inr ⟨flags, rfl, rfl⟩)⟩
  | close =>
    cases hs
    simp [isOpen_close] at hopen

lemma Sending.step (h : Sending c) {e : Event} (hs : c.step e = some c')
    (hopen : c'.isOpen = true) :
    Sending c' := by
  obtain ⟨-, ⟨-, -, query, -, -, -, rfl⟩ | ⟨i, n, item, -, -, -, hitem, rfl⟩ | ⟨flags, -, rfl⟩⟩ :=
    step_cases hs hopen
  · apply Sending.sendMessage
    · exact h.of_eq rfl rfl rfl
    · exact length_resize ..
  · obtain ⟨hsingle, hcontents⟩ := h.single.next hitem
    refine ⟨hsingle, ?_, h.size⟩
    simp [afterSend, h.passed, hcontents]
  · exact h.sendMessage (length_resize ..)

/-! ### The stream the peer reads -/

/-- A send that succeeds has transferred the whole packet. -/
def Event.whole : Event → Bool
  | .sent _ (some n) => n == IntraMeshPacket.MAX_PACKET
  | _                => true

/-- How the peer's `listenForMessage` reads packets. -/
def packetFormat : Framing.Format UInt8 where
  headerSize := IntraMeshPacket.MAX_PACKET
  headerSize_pos := by decide
  bodySize _ := 0

def frame (p : IntraMeshPacket) : Framing.Frame UInt8 := ⟨p.data, []⟩

lemma length_frames {ps : List IntraMeshPacket}
    (hsize : ∀ p ∈ ps, p.data.length = IntraMeshPacket.MAX_PACKET) :
    ((ps.map frame).flatMap Framing.Frame.bytes).length =
      ps.length * IntraMeshPacket.MAX_PACKET := by
  induction ps with
  | nil => simp
  | cons p ps ih =>
    have hp := hsize p List.mem_cons_self
    have hps := ih fun q hq => hsize q (List.mem_cons_of_mem p hq)
    simp only [List.map_cons, List.flatMap_cons, List.length_append, hps, List.length_cons,
      Nat.add_one_mul]
    simp [frame, Framing.Frame.bytes, hp, Nat.add_comm]

/-- The bytes of the messages that have been sent, as far as they were transferred. -/
structure Streamed (past : List Event) (c : IntraMeshQueryClient) : Prop where
  sending : Sending c
  whole : (∀ e ∈ past, e.whole = true) →
    c.stream = (c.completed.map frame).flatMap Framing.Frame.bytes
  length_le : c.stream.length ≤ c.completed.length * IntraMeshPacket.MAX_PACKET
  tight : c.stream.length = c.completed.length * IntraMeshPacket.MAX_PACKET →
    ∀ e ∈ past, e.whole = true

variable {past : List Event}

/-- An event that is no send leaves the stream alone. -/
lemma Streamed.of_eq (h : Streamed past c) {e : Event} (hwhole : e.whole = true)
    (hsending : Sending c') (hcompleted : c'.completed = c.completed)
    (hstream : c'.stream = c.stream) : Streamed (past ++ [e]) c' := by
  refine ⟨hsending, fun hall => ?_, ?_, fun hlength => ?_⟩
  · rw [hstream, hcompleted]
    exact h.whole fun e he => hall e (List.mem_append_left _ he)
  · rw [hstream, hcompleted]
    exact h.length_le
  · rw [hstream, hcompleted] at hlength
    simpa [or_imp, forall_and, hwhole] using h.tight hlength

lemma Streamed.step (h : Streamed past c) {e : Event} (hs : c.step e = some c')
    (hopen : c'.isOpen = true) : Streamed (past ++ [e]) c' := by
  have hsending := h.sending.step hs hopen
  obtain ⟨-, ⟨_, _, query, rfl, -, -, rfl⟩ | ⟨i, n, item, rfl, -, hn, hitem, rfl⟩ |
    ⟨flags, rfl, rfl⟩⟩ := step_cases hs hopen
  · exact h.of_eq rfl hsending rfl rfl
  · have hsize : item.message.data.length = IntraMeshPacket.MAX_PACKET := by
      refine h.sending.size _ ?_
      rw [h.sending.passed, (h.sending.single.next hitem).2]
      simp
    have htake : (item.message.data.take n).length = n := by simp [hn]
    have hlength := h.length_le
    refine ⟨hsending, fun hall => ?_, ?_, fun heq => ?_⟩
    · have hpast := h.whole fun e he => hall e (List.mem_append_left _ he)
      have hn : n = IntraMeshPacket.MAX_PACKET := by
        simpa [Event.whole] using hall (.sent i (some n))
      simp [afterSend, hpast, hn, ← hsize, frame, Framing.Frame.bytes]
    · simp only [afterSend, List.length_append, htake, List.length_singleton, Nat.add_one_mul]
      omega
    · simp only [afterSend, List.length_append, htake, List.length_singleton,
        Nat.add_one_mul] at heq
      have hpast := h.tight (by omega)
      have hn : n = IntraMeshPacket.MAX_PACKET := by omega
      simpa [or_imp, forall_and, Event.whole, hn] using hpast
  · exact h.of_eq rfl hsending rfl rfl

lemma streamed_run {es : List Event} {t : IntraMeshQueryClient}
    (hrun : Machine.run step started es = some t) (hopen : t.isOpen = true) : Streamed es t := by
  have hinit : started.isOpen = true → Streamed [] started := fun _ =>
    ⟨sending_started, fun _ => rfl, Nat.le_refl _, nofun⟩
  refine Machine.run_invariant_past (I := fun past c => c.isOpen = true → Streamed past c)
    (G := fun _ _ => True) ?_ hinit (Machine.guarded_of_forall fun _ _ => trivial) hrun hopen
  intro past c e c' h _ hs hopen
  exact (h (step_cases hs hopen).1).step hs hopen

/-- The peer reads the messages that have been sent, and these are what was passed in up to what is
on its way or waits. -/
def Untorn (c : IntraMeshQueryClient) : Prop :=
  c.passed = c.completed ++ c.contents.map (·.message) ∧
    packetFormat.readAll c.stream = (c.completed.map frame, [])

/-- On an open connection, the peer reads the messages as they were passed in if and only if each
send transfers the whole packet. -/
theorem untorn_iff {es : List Event} {t : IntraMeshQueryClient}
    (hrun : Machine.run step started es = some t) (hopen : t.isOpen = true) :
    t.Untorn ↔ ∀ e ∈ es, e.whole = true := by
  have hstreamed := streamed_run hrun hopen
  have hsize : ∀ p ∈ t.completed, p.data.length = IntraMeshPacket.MAX_PACKET := by
    intro p hp
    refine hstreamed.sending.size p ?_
    rw [hstreamed.sending.passed]
    exact List.mem_append_left _ hp
  constructor
  · rintro ⟨-, hread⟩
    apply hstreamed.tight
    have hstream := packetFormat.flatMap_readN t.stream.length t.stream
    rw [show packetFormat.readN t.stream.length t.stream = _ from hread, List.append_nil] at hstream
    rw [← hstream, length_frames hsize]
  · intro hwhole
    refine ⟨hstreamed.sending.passed, ?_⟩
    rw [hstreamed.whole hwhole]
    refine Framing.Format.readAll_flatMap fun f hf => ?_
    obtain ⟨p, hp, rfl⟩ := List.mem_map.mp hf
    exact ⟨hsize p hp, rfl⟩

/-- Two heartbeats, and a query that is answered between them. -/
def wholeSends : List Event :=
  [.sendHeartbeat 3, .received (some (.ofQuery (List.replicate 32 48))) (some true),
    .sendHeartbeat 3, .sent 0 (some 38), .sent 0 (some 38), .sent 0 (some 38)]

theorem wholeSends_untorn :
    ∃ t, Machine.run step started wholeSends = some t ∧ t.completed.length = 3 ∧ t.Untorn := by
  obtain ⟨t, hrun, hopen, hlength⟩ : ∃ t, Machine.run step started wholeSends = some t ∧
      t.isOpen = true ∧ t.completed.length = 3 :=
    Machine.exists_run_of_any (by decide +kernel)
  exact ⟨t, hrun, hlength, (untorn_iff hrun hopen).mpr (by decide)⟩

/-- The first of two heartbeats is sent in part. -/
def shortSend : List Event :=
  [.sendHeartbeat 3, .sent 0 (some 1), .sendHeartbeat 3, .sent 0 (some 38)]

/-- What is left of a packet is not sent, and the peer takes the next one for its continuation. -/
theorem shortSend_tears :
    ∃ t, Machine.run step started shortSend = some t ∧ t.isOpen = true ∧
      t.completed.length = 2 ∧ (packetFormat.readAll t.stream).1.length = 1 ∧ ¬ t.Untorn := by
  obtain ⟨t, hrun, hopen, hsent, hread⟩ : ∃ t, Machine.run step started shortSend = some t ∧
      t.isOpen = true ∧ t.completed.length = 2 ∧ (packetFormat.readAll t.stream).1.length = 1 :=
    Machine.exists_run_of_any (by decide +kernel)
  refine ⟨t, hrun, hopen, hsent, hread, fun ⟨_, huntorn⟩ => ?_⟩
  simp [huntorn, hsent] at hread

end IntraMeshQueryClient

end Whip
