import Whip.Mesh.MeshServer

/-!
# The life of a query connection

A query connection tells its owner once that it is dead, when neither a read nor a write of its
socket is outstanding any more. Here the connection stands together with its socket: the reads and
writes that were started and have not completed. They complete in any order, with success or with an
error, also after the socket was closed; the owner may search and close at any time, from its
callbacks too.

The report is lost exactly when the last operation of a closed connection is a write that succeeds
while no query waits.
-/

namespace Whip

/-- A callback of the owner that a handler has called and that has not returned. -/
inductive QueryCallback
  | messageRcvd
  | disconnected
deriving DecidableEq

/-- A connection with the operations of its socket; `fired` counts the calls of the disconnect
callback. -/
structure QuerySession extends MeshQueryConnection where
  connecting : Bool := true
  reads : ℕ := 0
  writes : List ByteString := []
  fired : ℕ := 0
  running : List QueryCallback := []
deriving DecidableEq

namespace QuerySession

/-! ### Handlers -/

def listenForMessage (s : QuerySession) : QuerySession :=
  { s with recvActive := true, reads := s.reads + 1 }

def sendQuery (s : QuerySession) (uuid : ByteString) : QuerySession :=
  { s with sendActive := true, writes := s.writes ++ [uuid] }

def search (s : QuerySession) (uuid : ByteString) : QuerySession :=
  if !s.isConnected then s
  else if !s.sendActive then s.sendQuery uuid
  else { s with sendQueue := s.sendQueue ++ [uuid] }

def writeNextMessage (s : QuerySession) : QuerySession :=
  match s.sendQueue with
  | []           => s
  | uuid :: rest => { s.sendQuery uuid with sendQueue := rest }

def close (s : QuerySession) : QuerySession :=
  let s := { s with isConnected := false }
  if s.fires then
    { s with
      disconnectCallbackFired := true
      fired := s.fired + 1
      running := .disconnected :: s.running }
  else s

def onAfterMeshServiceConnect (s : QuerySession) (success : Bool) : QuerySession :=
  let s := { s with connecting := false }
  if success then { s with isConnected := true }.listenForMessage
  else { s with isConnected := false }

/-- The message is passed on, and the next read is started when that callback returns. -/
def onAfterMeshMessageReceived (s : QuerySession) (success : Bool) : QuerySession :=
  let s := { s with recvActive := false }
  if success then { s with running := .messageRcvd :: s.running } else s.close

def onAfterMeshMessageWritten (s : QuerySession) (success : Bool) : QuerySession :=
  let s := { s with sendActive := false }
  if success then s.writeNextMessage else s.close

/-- The innermost callback returns to the handler that called it. -/
def callbackReturns (s : QuerySession) : Option QuerySession :=
  match s.running with
  | []                    => none
  | .messageRcvd :: rest  => some { s with running := rest }.listenForMessage
  | .disconnected :: rest => some { s with running := rest }

inductive Event
  | search (uuid : ByteString)
  | close
  | callbackReturns
  | connected (success : Bool)
  | received (success : Bool)
  | written (success : Bool)
deriving DecidableEq

/-- Completions are run by the io thread between handlers; the owner calls at any time. -/
def step (s : QuerySession) : Event → Option QuerySession
  | .search uuid      => some (s.search uuid)
  | .close            => some s.close
  | .callbackReturns  => s.callbackReturns
  | .connected success =>
    if s.running.isEmpty && s.connecting then some (s.onAfterMeshServiceConnect success) else none
  | .received success =>
    if s.running.isEmpty && s.reads ≠ 0 then
      some ({ s with reads := s.reads - 1 }.onAfterMeshMessageReceived success)
    else none
  | .written success =>
    if s.running.isEmpty && s.writes ≠ [] then
      some ({ s with writes := s.writes.tail }.onAfterMeshMessageWritten success)
    else none

section Completions

variable {s t : QuerySession} {success : Bool}

lemma step_connected_eq_some : step s (.connected success) = some t ↔
    s.running = [] ∧ s.connecting = true ∧ s.onAfterMeshServiceConnect success = t := by
  simp [step, and_assoc]

lemma step_received_eq_some : step s (.received success) = some t ↔
    s.running = [] ∧ s.reads ≠ 0 ∧
      { s with reads := s.reads - 1 }.onAfterMeshMessageReceived success = t := by
  simp [step, and_assoc]

lemma step_written_eq_some : step s (.written success) = some t ↔
    s.running = [] ∧ s.writes ≠ [] ∧
      { s with writes := s.writes.tail }.onAfterMeshMessageWritten success = t := by
  simp [step, and_assoc]

end Completions

/-! ### The same handlers in the mesh server -/

section MeshServer

variable {κ : Type} {m : MeshServer κ} {s : QuerySession}

lemma search_toMeshQueryConnection (s : QuerySession) (uuid : ByteString) :
    (s.search uuid).toMeshQueryConnection = s.toMeshQueryConnection.search uuid := by
  simp only [search, MeshQueryConnection.search, sendQuery]
  split_ifs <;> rfl

lemma writeNextMessage_toMeshQueryConnection (s : QuerySession) :
    s.writeNextMessage.toMeshQueryConnection = s.toMeshQueryConnection.writeNextMessage := by
  simp only [writeNextMessage, MeshQueryConnection.writeNextMessage, sendQuery]
  split <;> simp_all

/-- The query connection of a mesh server is closed as the connection alone. -/
theorem query_close (h : m.query = s.toMeshQueryConnection) :
    m.close.query = s.close.toMeshQueryConnection := by
  simp only [MeshServer.close, close, h]
  split_ifs <;> rfl

/-- Its disconnect callback closes the server, which does not fire it again. -/
theorem query_closeQuery (h : m.query = s.toMeshQueryConnection) :
    m.closeQuery.query = s.close.toMeshQueryConnection := by
  simp only [MeshServer.closeQuery, close, h]
  split_ifs
  · simp [MeshServer.close, MeshQueryConnection.fires]
  · rfl

theorem query_onQueryWritten (h : m.query = s.toMeshQueryConnection) (success : Bool) :
    (m.onQueryWritten success).query =
      (s.onAfterMeshMessageWritten success).toMeshQueryConnection := by
  cases success with
  | true =>
    simp only [MeshServer.onQueryWritten, onAfterMeshMessageWritten, if_true,
      writeNextMessage_toMeshQueryConnection, h]
  | false =>
    exact query_closeQuery (m := { m with query := { m.query with sendActive := false } })
      (s := { s with sendActive := false }) (by simp [h])

theorem query_onQueryRead_error (h : m.query = s.toMeshQueryConnection) :
    (m.onQueryRead none).query = (s.onAfterMeshMessageReceived false).toMeshQueryConnection :=
  query_closeQuery (m := { m with query := { m.query with recvActive := false } })
    (s := { s with recvActive := false }) (by simp [h])

end MeshServer

/-! ### The flags follow the socket -/

/-- The flags say what is outstanding, and at most one read is outstanding or about to be
started. -/
structure Tracked (s : QuerySession) : Prop where
  reads : s.reads = s.recvActive.toNat
  writes : s.writes.length = s.sendActive.toNat
  fired : s.fired = s.disconnectCallbackFired.toNat
  listening : s.recvActive.toNat + s.connecting.toNat + s.running.count .messageRcvd ≤ 1

variable {s t : QuerySession} {uuid : ByteString}

lemma Tracked.reads_eq_zero (h : Tracked s) : s.reads = 0 ↔ s.recvActive = false := by
  rw [h.reads, Bool.toNat_eq_zero]

lemma Tracked.writes_eq_nil (h : Tracked s) : s.writes = [] ↔ s.sendActive = false := by
  rw [← List.length_eq_zero_iff, h.writes, Bool.toNat_eq_zero]

/-- Closing calls the disconnect callback, or changes only that the socket is closed. -/
lemma close_cases (s : QuerySession) :
    (s.recvActive = false ∧ s.sendActive = false ∧ s.disconnectCallbackFired = false ∧
      s.close = { s with
        isConnected := false
        disconnectCallbackFired := true
        fired := s.fired + 1
        running := .disconnected :: s.running }) ∨
    ((s.recvActive = true ∨ s.sendActive = true ∨ s.disconnectCallbackFired = true) ∧
      s.close = { s with isConnected := false }) := by
  by_cases hfires : s.fires
  · refine .inl ?_
    simp only [MeshQueryConnection.fires, Bool.and_eq_true, Bool.not_eq_true'] at hfires
    refine ⟨hfires.1.1, hfires.1.2, hfires.2, ?_⟩
    simp [close, MeshQueryConnection.fires, hfires]
  · refine .inr ⟨?_, if_neg hfires⟩
    simp only [MeshQueryConnection.fires, Bool.and_eq_true, Bool.not_eq_true', not_and,
      Bool.not_eq_false] at hfires
    cases hrecv : s.recvActive <;> cases hsend : s.sendActive <;> simp_all

lemma Tracked.close (h : Tracked s) : Tracked s.close := by
  rcases s.close_cases with ⟨_, _, hfired, heq⟩ | ⟨_, heq⟩
  · rw [heq]
    exact ⟨h.reads, h.writes, by simp [h.fired, hfired], by simpa using h.listening⟩
  · rw [heq]
    exact ⟨h.reads, h.writes, h.fired, h.listening⟩

lemma Tracked.sendQuery (h : Tracked s) (hsend : s.sendActive = false) :
    Tracked (s.sendQuery uuid) := by
  refine ⟨h.reads, ?_, h.fired, h.listening⟩
  simp [QuerySession.sendQuery, h.writes_eq_nil.mpr hsend]

lemma Tracked.search (h : Tracked s) : Tracked (s.search uuid) := by
  unfold QuerySession.search
  split_ifs with hconn hsend
  · exact h
  · exact h.sendQuery (by simpa using hsend)
  · exact ⟨h.reads, h.writes, h.fired, h.listening⟩

lemma Tracked.writeNextMessage (h : Tracked s) (hsend : s.sendActive = false) :
    Tracked s.writeNextMessage := by
  unfold QuerySession.writeNextMessage
  split
  · exact h
  · obtain ⟨hreads, hwrites, hfired, hlistening⟩ := h.sendQuery hsend
    exact ⟨hreads, hwrites, hfired, hlistening⟩

lemma Tracked.listenForMessage (h : Tracked s) (hrecv : s.recvActive = false)
    (hlistening : s.connecting.toNat + s.running.count .messageRcvd = 0) :
    Tracked s.listenForMessage := by
  refine ⟨?_, h.writes, h.fired, ?_⟩
  · simp [QuerySession.listenForMessage, h.reads_eq_zero.mpr hrecv]
  · simp only [QuerySession.listenForMessage, Bool.toNat_true]
    omega

lemma Tracked.callbackReturns (h : Tracked s) (ht : s.callbackReturns = some t) : Tracked t := by
  have hlistening := h.listening
  simp only [QuerySession.callbackReturns] at ht
  split at ht
  · cases ht
  case _ rest hrunning =>
    obtain rfl := Option.some.inj ht
    rw [hrunning, List.count_cons_self] at hlistening
    refine Tracked.listenForMessage ⟨h.reads, h.writes, h.fired, ?_⟩ ?_ ?_
    · simp only
      omega
    · exact Bool.toNat_eq_zero.mp (Nat.le_zero.mp (by simp only; omega))
    · simp only
      omega
  case _ rest hrunning =>
    obtain rfl := Option.some.inj ht
    rw [hrunning] at hlistening
    exact ⟨h.reads, h.writes, h.fired, by simpa using hlistening⟩

/-- A read that completes is no longer counted. -/
lemma Tracked.received (h : Tracked s) (hreads : s.reads ≠ 0) :
    Tracked { s with reads := s.reads - 1, recvActive := false } ∧
      s.connecting.toNat + s.running.count .messageRcvd = 0 := by
  have hrecv : s.recvActive = true := by simpa [h.reads_eq_zero] using hreads
  have hlistening := h.listening
  rw [hrecv, Bool.toNat_true] at hlistening
  refine ⟨⟨?_, h.writes, h.fired, ?_⟩, by omega⟩
  · simp [h.reads, hrecv]
  · simp only [Bool.toNat_false]
    omega

lemma Tracked.written (h : Tracked s) (hwrites : s.writes ≠ []) :
    Tracked { s with writes := s.writes.tail, sendActive := false } := by
  have hsend : s.sendActive = true := by simpa [h.writes_eq_nil] using hwrites
  refine ⟨h.reads, ?_, h.fired, h.listening⟩
  simp [h.writes, hsend]

theorem tracked_step {e : Event} (h : Tracked s) (hstep : step s e = some t) : Tracked t := by
  cases e with
  | search uuid =>
    obtain rfl := Option.some.inj hstep
    exact h.search
  | close =>
    obtain rfl := Option.some.inj hstep
    exact h.close
  | callbackReturns => exact h.callbackReturns hstep
  | connected success =>
    obtain ⟨hrunning, hconnecting, rfl⟩ := step_connected_eq_some.mp hstep
    have hlistening := h.listening
    rw [hrunning, hconnecting, Bool.toNat_true] at hlistening
    have hrecv : s.recvActive = false := Bool.toNat_eq_zero.mp (by omega)
    have hdone : Tracked { s with connecting := false } :=
      ⟨h.reads, h.writes, h.fired, by simp [hrunning, hrecv]⟩
    cases success with
    | true =>
      exact Tracked.listenForMessage (s := { s with connecting := false, isConnected := true })
        ⟨hdone.reads, hdone.writes, hdone.fired, hdone.listening⟩ hrecv (by simp [hrunning])
    | false => exact ⟨hdone.reads, hdone.writes, hdone.fired, hdone.listening⟩
  | received success =>
    obtain ⟨-, hreads, rfl⟩ := step_received_eq_some.mp hstep
    obtain ⟨hdone, hlistening⟩ := h.received hreads
    cases success with
    | true =>
      refine ⟨hdone.reads, hdone.writes, hdone.fired, ?_⟩
      simp only [onAfterMeshMessageReceived, if_true, Bool.toNat_false, List.count_cons_self]
      omega
    | false => exact hdone.close
  | written success =>
    obtain ⟨-, hwrites, rfl⟩ := step_written_eq_some.mp hstep
    have hdone := h.written hwrites
    cases success with
    | true => exact hdone.writeNextMessage rfl
    | false => exact hdone.close

/-! ### The report -/

lemma idle_of_fired_close (h : s.fired < s.close.fired) :
    s.close.recvActive = false ∧ s.close.sendActive = false := by
  rcases s.close_cases with ⟨hrecv, hsend, _, heq⟩ | ⟨_, heq⟩
  · rw [heq]
    exact ⟨hrecv, hsend⟩
  · rw [heq] at h
    exact absurd h (lt_irrefl _)

lemma fired_search (s : QuerySession) (uuid : ByteString) : (s.search uuid).fired = s.fired := by
  simp only [search, sendQuery]
  split_ifs <;> rfl

lemma fired_writeNextMessage (s : QuerySession) : s.writeNextMessage.fired = s.fired := by
  simp only [writeNextMessage, sendQuery]
  split <;> rfl

lemma fired_callbackReturns (ht : s.callbackReturns = some t) : t.fired = s.fired := by
  simp only [callbackReturns] at ht
  split at ht
  · cases ht
  · obtain rfl := Option.some.inj ht
    rfl
  · obtain rfl := Option.some.inj ht
    rfl

/-- When the disconnect callback is called, the flags are down. -/
lemma idle_of_fired_step {e : Event} (hstep : step s e = some t) (hfired : s.fired < t.fired) :
    t.recvActive = false ∧ t.sendActive = false := by
  cases e with
  | search uuid =>
    obtain rfl := Option.some.inj hstep
    exact absurd (s.fired_search uuid) hfired.ne'
  | close =>
    obtain rfl := Option.some.inj hstep
    exact idle_of_fired_close hfired
  | callbackReturns => exact absurd (fired_callbackReturns hstep) hfired.ne'
  | connected success =>
    obtain ⟨-, -, rfl⟩ := step_connected_eq_some.mp hstep
    cases success <;> exact absurd hfired (lt_irrefl _)
  | received success =>
    obtain ⟨-, -, rfl⟩ := step_received_eq_some.mp hstep
    cases success with
    | true => exact absurd hfired (lt_irrefl _)
    | false => exact idle_of_fired_close hfired
  | written success =>
    obtain ⟨-, -, rfl⟩ := step_written_eq_some.mp hstep
    cases success with
    | true => exact absurd (fired_writeNextMessage _) hfired.ne'
    | false => exact idle_of_fired_close hfired

/-- Between handlers, a closed connection without outstanding operations has called the disconnect
callback exactly once. -/
def Reported (s : QuerySession) : Prop :=
  s.running = [] → s.isConnected = false → s.reads = 0 → s.writes = [] → s.fired = 1

/-- The last outstanding operation of a closed connection is a write that succeeds, and nothing is
left to be written. -/
def lapses (s : QuerySession) : Event → Bool
  | .written true =>
    !s.isConnected && !s.recvActive && s.sendQueue.isEmpty && !s.disconnectCallbackFired
  | _ => false

/-- A connected session whose report is made or still to be made by an operation. -/
structure Due (s : QuerySession) : Prop extends Tracked s where
  connected : s.connecting = false
  report : s.isConnected = false → s.recvActive = false → s.sendActive = false →
    s.disconnectCallbackFired = true ∨ .messageRcvd ∈ s.running

lemma Due.reported (h : Due s) : Reported s := by
  intro hrunning hclosed hreads hwrites
  have hfired := h.report hclosed (h.reads_eq_zero.mp hreads) (h.writes_eq_nil.mp hwrites)
  simpa [h.fired, hrunning] using hfired

/-- After `close` the report is made, or an operation is outstanding. -/
lemma Tracked.due_close (h : Tracked s) (hconnected : s.connecting = false) : Due s.close := by
  refine ⟨h.close, ?_, ?_⟩
  · rcases s.close_cases with ⟨_, _, _, heq⟩ | ⟨_, heq⟩ <;> simp [heq, hconnected]
  · intro _ hrecv hsend
    rcases s.close_cases with ⟨_, _, _, heq⟩ | ⟨hbusy, heq⟩
    · simp [heq]
    · simp only [heq] at hrecv hsend
      refine .inl ?_
      simpa [heq, hrecv, hsend] using hbusy

lemma Due.search (h : Due s) : Due (s.search uuid) := by
  refine ⟨h.toTracked.search, ?_, ?_⟩
  all_goals
    unfold QuerySession.search
    split_ifs with hconn hsend
  · exact h.connected
  · exact h.connected
  · exact h.connected
  · exact h.report
  · intro hclosed
    simp [sendQuery] at hclosed
    simp [hclosed] at hconn
  · intro _ _ hidle
    simp only at hidle
    simp [hidle] at hsend

lemma onAfterMeshMessageWritten_of_nil (h : s.sendQueue = []) :
    s.onAfterMeshMessageWritten true = { s with sendActive := false } := by
  simp [onAfterMeshMessageWritten, writeNextMessage, h]

/-- With a query in the queue, a write is outstanding. -/
lemma onAfterMeshMessageWritten_of_ne_nil (h : s.sendQueue ≠ []) :
    (s.onAfterMeshMessageWritten true).sendActive = true ∧
      (s.onAfterMeshMessageWritten true).connecting = s.connecting := by
  obtain ⟨uuid, rest, hqueue⟩ := List.exists_cons_of_ne_nil h
  simp [onAfterMeshMessageWritten, writeNextMessage, hqueue, sendQuery]

/-- A write that succeeds leaves the report to another operation unless it lapses. -/
lemma Due.written_true (h : Due s) (hwrites : s.writes ≠ []) (hrunning : s.running = []) :
    (lapses s (.written true) = false →
      Due ({ s with writes := s.writes.tail }.onAfterMeshMessageWritten true)) ∧
    (lapses s (.written true) = true →
      ¬ Reported ({ s with writes := s.writes.tail }.onAfterMeshMessageWritten true)) := by
  have htracked := h.toTracked.written hwrites
  by_cases hqueue : s.sendQueue = []
  · rw [onAfterMeshMessageWritten_of_nil (s := { s with writes := s.writes.tail }) hqueue]
    have hlast : lapses s (.written true) =
        (!s.isConnected && !s.recvActive && !s.disconnectCallbackFired) := by
      simp [lapses, hqueue]
    rw [hlast]
    refine ⟨fun hkept => ⟨htracked, h.connected, fun hclosed hrecv _ => ?_⟩,
      fun hlapses hreported => ?_⟩
    · simp only at hclosed hrecv
      refine .inl ?_
      simpa [hclosed, hrecv] using hkept
    · simp only [Bool.and_eq_true, Bool.not_eq_true'] at hlapses
      obtain ⟨⟨hclosed, hrecv⟩, hfired⟩ := hlapses
      have hone := hreported hrunning hclosed (h.reads_eq_zero.mpr hrecv)
        (htracked.writes_eq_nil.mpr rfl)
      simp [h.fired, hfired] at hone
  · obtain ⟨hsend, hconnecting⟩ := onAfterMeshMessageWritten_of_ne_nil
      (s := { s with writes := s.writes.tail }) hqueue
    refine ⟨fun _ => ⟨htracked.writeNextMessage rfl, hconnecting.trans h.connected, ?_⟩, ?_⟩
    · intro _ _ hidle
      simp [hsend] at hidle
    · simp [lapses, hqueue]

lemma Due.callbackReturns (h : Due s) (ht : s.callbackReturns = some t) : Due t := by
  have htracked := h.toTracked.callbackReturns ht
  simp only [QuerySession.callbackReturns] at ht
  split at ht
  · cases ht
  case _ rest hrunning =>
    obtain rfl := Option.some.inj ht
    exact ⟨htracked, h.connected, by simp [listenForMessage]⟩
  case _ rest hrunning =>
    obtain rfl := Option.some.inj ht
    exact ⟨htracked, h.connected, by simpa [hrunning] using h.report⟩

lemma due_step {e : Event} (h : Due s) (he : lapses s e = false) (hstep : step s e = some t) :
    Due t := by
  have htracked := tracked_step h.toTracked hstep
  cases e with
  | search uuid =>
    obtain rfl := Option.some.inj hstep
    exact h.search
  | close =>
    obtain rfl := Option.some.inj hstep
    exact h.toTracked.due_close h.connected
  | callbackReturns => exact h.callbackReturns hstep
  | connected success =>
    obtain ⟨-, hconnecting, -⟩ := step_connected_eq_some.mp hstep
    simp [h.connected] at hconnecting
  | received success =>
    obtain ⟨-, hreads, rfl⟩ := step_received_eq_some.mp hstep
    cases success with
    | true => exact ⟨htracked, h.connected, fun _ _ _ => .inr List.mem_cons_self⟩
    | false => exact (h.toTracked.received hreads).1.due_close h.connected
  | written success =>
    obtain ⟨hrunning, hwrites, rfl⟩ := step_written_eq_some.mp hstep
    cases success with
    | true => exact (h.written_true hwrites hrunning).1 he
    | false => exact (h.toTracked.written hwrites).due_close h.connected

lemma not_reported_of_lapses {e : Event} (h : Due s) (he : lapses s e = true)
    (hstep : step s e = some t) : ¬ Reported t := by
  unfold lapses at he
  split at he
  · obtain ⟨hrunning, hwrites, rfl⟩ := step_written_eq_some.mp hstep
    exact (h.written_true hwrites hrunning).2 he
  · cases he

lemma tracked_new : Tracked {} := ⟨rfl, rfl, rfl, by decide⟩

lemma due_connected (h : Tracked s) (hstep : step s (.connected true) = some t) : Due t := by
  have htracked := tracked_step h hstep
  obtain ⟨-, -, rfl⟩ := step_connected_eq_some.mp hstep
  exact ⟨htracked, rfl, by simp [onAfterMeshServiceConnect, listenForMessage]⟩

/-- In every run of a connection that was established, whatever its owner did before, the disconnect
callback is called at most once and never while an operation is outstanding. All states between
handlers are reported exactly if no successful write is the last operation of a closed connection
with nothing left to write. -/
theorem reported_iff_no_lapse {calls es : List Event} {s t : QuerySession}
    (hconn : Machine.run step {} (calls ++ [.connected true]) = some s)
    (hrun : Machine.run step s es = some t) :
    t.fired ≤ 1 ∧
    (∀ e u, step t e = some u → t.fired < u.fired → u.reads = 0 ∧ u.writes = []) ∧
    (Machine.Guarded step (fun s e => lapses s e = false) s es ↔
      ∀ fs u, fs <+: es → Machine.run step s fs = some u → Reported u) := by
  obtain ⟨s₀, hcalls, hconnect⟩ := Machine.run_concat_eq_some.mp hconn
  have hbefore : Tracked s₀ :=
    Machine.run_invariant' (fun _ _ _ h hstep => tracked_step h hstep) tracked_new hcalls
  have hdue : Due s := due_connected hbefore hconnect
  have htracked : Tracked t :=
    Machine.run_invariant' (fun _ _ _ h hstep => tracked_step h hstep) hdue.toTracked hrun
  refine ⟨htracked.fired ▸ Bool.toNat_le _, fun e u hstep hfired => ?_, ?_⟩
  · have hu := tracked_step htracked hstep
    obtain ⟨hrecv, hsend⟩ := idle_of_fired_step hstep hfired
    exact ⟨hu.reads_eq_zero.mpr hrecv, hu.writes_eq_nil.mpr hsend⟩
  · refine Machine.guarded_iff_reaches (fun _ h => h.reported)
      (fun _ _ _ h he hstep => due_step h he hstep) (fun _ _ _ h he hstep => ?_) hdue hrun
    exact not_reported_of_lapses h (by simpa using he) hstep

/-- A query is being written when the peer hangs up: the read fails, and the write had succeeded. -/
def lateSuccess : List Event := [.search (sampleUUID 1), .received false, .written true]

theorem late_success_unreported : ∃ s t, Machine.run step {} [.connected true] = some s ∧
    Machine.run step s lateSuccess = some t ∧ t.running = [] ∧ t.isConnected = false ∧
    t.reads = 0 ∧ t.writes = [] ∧ t.fired = 0 := by
  refine ⟨_, _, rfl, rfl, ?_⟩
  decide

/-- The write fails too, and the connection is reported. -/
def lateError : List Event :=
  [.search (sampleUUID 1), .received false, .written false, .callbackReturns]

theorem late_error_reported : ∃ s t, Machine.run step {} [.connected true] = some s ∧
    Machine.run step s lateError = some t ∧ t.running = [] ∧ t.fired = 1 ∧ Reported t := by
  refine ⟨_, _, rfl, rfl, rfl, rfl, ?_⟩
  refine (@reported_iff_no_lapse [] lateError _ _ rfl rfl).2.2.mp ?_ lateError _
    (List.prefix_refl _)
    rfl
  exact (Machine.guarded_of_checks (g := fun s e => !lapses s e) (by decide)).mono
    fun _ _ h => by simpa using h

end QuerySession

end Whip
