import Whip.Mesh.IntraMeshQueryClient
import Mathlib.Data.List.Forall2

/-!
# Each query is answered once

The server reads a query only when the answer to the one before has been sent, so on an open
connection it either waits for a query or has one answer to send, however many heartbeats share its
queue.
-/

namespace Whip

namespace IntraMeshQueryClient

/-- The item is the answer to a query. -/
def isAnswer (item : IQCSendItem) : Bool := item.callBack == .onAfterSendQueryResponse

def isResponse (p : IntraMeshPacket) : Bool := p.getRequestType == some .meshResponse

/-- The answers that are queued or on their way. -/
def answersDue (c : IntraMeshQueryClient) : ℕ := c.contents.countP isAnswer

/-- The packet has the identifier of the query, and says that the asset was found exactly if the
disk backend reported it. -/
def Answers (p : IntraMeshPacket) (query : IntraMeshPacket × Option Bool) : Prop :=
  p.getAssetUUID = query.1.getAssetUUID ∧ (p.getQueryResult = some .found ↔ query.2 = some true)

/-- Queries come in, heartbeats are sent, and sends transfer whole packets. -/
def Event.serves : Event → Bool
  | .received inboundMsg found => (Event.query (.received inboundMsg found)).isSome
  | .sent _ bytesSent          => bytesSent == some IntraMeshPacket.MAX_PACKET
  | .sendHeartbeat _           => true
  | .close                     => false

/-! ### Packets -/

/-- The reply to a query is the packet of a response. -/
lemma exists_reply {e : Event} {query : IntraMeshPacket × Option Bool} (h : e.query = some query) :
    ∃ (uuid : AssetId) (result : IntraMeshPacket.QueryResult),
      uuid.text = query.1.getAssetUUID ∧ (result = .found ↔ query.2 = some true) ∧
      reply query = (IntraMeshValue.response uuid result).packet := by
  unfold Event.query at h
  split at h
  · next p found =>
    split_ifs at h with hquery
    cases h
    simp only [Bool.and_eq_true, beq_iff_eq] at hquery
    obtain ⟨hvalid, htype⟩ := hquery
    have huuid : Validator.isValidUUID p.getAssetUUID = true := by
      simp only [IntraMeshPacket.validate, htype, Bool.and_eq_true] at hvalid
      exact hvalid.2
    refine ⟨⟨p.getAssetUUID, huuid⟩, _, rfl, ?_, rfl⟩
    rcases found with _ | _ | _ <;> simp
  · cases h

lemma isResponse_reply {e : Event} {query : IntraMeshPacket × Option Bool}
    (h : e.query = some query) : isResponse (reply query) = true := by
  obtain ⟨uuid, result, -, -, hreply⟩ := exists_reply h
  have hread := (IntraMeshValue.response uuid result).readFrom_packet
  simp [isResponse, hreply, hread.1]

lemma isResponse_heartbeat (flags : UInt32) : isResponse (.ofHeartbeat flags) = false := by
  have hread := (IntraMeshValue.heartbeat flags).readFrom_packet
  simp [isResponse, show (IntraMeshPacket.ofHeartbeat flags).getRequestType = _ from hread.1]

/-! ### Queries and answers take turns -/

variable {c c' : IntraMeshQueryClient} {past : List Event}

structure Answering (past : List Event) (c : IntraMeshQueryClient) : Prop where
  sending : Sending c
  isOpen : c.isOpen = true
  turns : c.receives + c.answersDue = 1
  answers : c.passed.filter isResponse = (past.filterMap Event.query).map reply

/-- The connection stays open. -/
lemma isOpen_of_serves {e : Event} (hopen : c.isOpen = true) (hserves : e.serves = true)
    (hs : c.step e = some c') : c'.isOpen = true := by
  cases e with
  | received inboundMsg found =>
    obtain rfl := Machine.eq_of_ite hs
    obtain ⟨query, hquery⟩ := Option.isSome_iff_exists.mp hserves
    unfold Event.query at hquery
    split at hquery
    · next p found heq =>
      cases heq
      split_ifs at hquery with hvalid
      simp only [Bool.and_eq_true, beq_iff_eq] at hvalid
      simp only [onMeshMessageReceived, processIntrameshMessage, hvalid.1, hvalid.2, if_true,
        processMeshQuery_eq]
      exact hopen
    · cases hquery
  | sent i bytesSent =>
    obtain rfl : bytesSent = some IntraMeshPacket.MAX_PACKET := by
      simpa [Event.serves] using hserves
    simp only [step] at hs
    split at hs
    · cases hs
    · next item hitem =>
      obtain rfl := Machine.eq_of_ite hs
      unfold onAfterSend
      cases item.callBack <;> exact hopen
  | sendHeartbeat flags =>
    cases hs
    exact hopen
  | close => cases hserves

lemma Answering.step (h : Answering past c) {e : Event} (hserves : e.serves = true)
    (hs : c.step e = some c') : Answering (past ++ [e]) c' := by
  have hopen := isOpen_of_serves h.isOpen hserves hs
  have hsending := h.sending.step hs hopen
  have hturns := h.turns
  obtain ⟨-, ⟨_, _, query, rfl, hquery, hreceives, rfl⟩ | ⟨i, n, item, rfl, -, -, hitem, rfl⟩ |
    ⟨flags, rfl, rfl⟩⟩ := step_cases hs hopen
  · have hdue : answersDue (sendQueryResponse
        { c with receives := c.receives - 1, recvActive := false }
        (reply query)) = c.answersDue + 1 := by
      simp [answersDue, sendQueryResponse, sendMessage, h.sending.single.contents_send, isAnswer]
    refine ⟨hsending, hopen, ?_, ?_⟩
    · rw [hdue]
      simp only [sendQueryResponse, sendMessage]
      omega
    · simp [sendQueryResponse, sendMessage, h.answers, isResponse_reply hquery, hquery]
  · have hdue : c.answersDue = (isAnswer item).toNat + (c.afterSend i item n).answersDue := by
      rw [answersDue, (h.sending.single.next hitem).2, List.countP_cons, Nat.add_comm]
      cases isAnswer item <;> rfl
    refine ⟨hsending, hopen, ?_, ?_⟩
    · simp only [afterSend, isAnswer] at hdue ⊢
      omega
    · simp [afterSend, h.answers, Event.query]
  · have hdue : (c.sendHeartbeat flags).answersDue = c.answersDue := by
      simp [answersDue, sendHeartbeat, sendMessage, h.sending.single.contents_send, isAnswer]
    refine ⟨hsending, hopen, ?_, ?_⟩
    · rw [hdue]
      exact hturns
    · simp [sendHeartbeat, sendMessage, h.answers, isResponse_heartbeat, Event.query]

end IntraMeshQueryClient

end Whip
