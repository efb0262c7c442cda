import Whip.Net.Link

/-!
# Pipelined requests get their own responses

The two ends of a `Link` stay aligned: at every moment the requests issued are, in order, those that
have been called back, those whose response is on its way, the one the session is working on, those
it has not read, and those still waiting to be sent; and the bytes on the way are the encodings of
exactly these, less what has already been read of the first one.
-/

namespace Whip

open Pipelined Pipelined.Client CSAuthenticated

variable {κ : Type}

namespace Link

variable {r : PendingTransferRequest κ}

/-! ### Where both ends are -/

/-- The bytes of requests that the session has not read. -/
def upWire (l : Link κ) : ByteString := l.up ++ l.service.outgoing.drop l.upDone

/-- The bytes of the response being written that have not been handed over. -/
def undelivered (l : Link κ) : ByteString :=
  match l.session.socket with
  | [.writeHeader msg] => msg.header.drop l.downDone ++ msg.data.getD []
  | [.writeData msg]   => (msg.data.getD []).drop l.downDone
  | _                  => []

/-- The bytes of responses that the service has not read. -/
def downWire (l : Link κ) : ByteString := l.down ++ l.undelivered

/-- What the session is doing about the request `current`, if any, while the requests `rest` are
still unread. -/
inductive ServerAt (l : Link κ) :
    List (PendingTransferRequest κ) → List (PendingTransferRequest κ) → Prop
  | idle {rest : List (PendingTransferRequest κ)} (socket : l.session.socket = [.readHeader])
      (calls : l.calls = []) (done : l.downDone = 0) (wire : l.upWire = rest.flatMap bytesOf) :
    ServerAt l [] rest
  | body {r : PendingTransferRequest κ} {data : ByteString} {rest : List (PendingTransferRequest κ)}
      (socket : l.session.socket = [.readData]) (calls : l.calls = []) (done : l.downDone = 0)
      (request : l.session.currentRequest = ⟨(RemoteAssetService.messageOf r).header, none⟩)
      (data_eq : (RemoteAssetService.messageOf r).data = some data)
      (wire : l.upWire = data ++ rest.flatMap bytesOf) : ServerAt l [r] rest
  | thinking {r : PendingTransferRequest κ} {rest : List (PendingTransferRequest κ)}
      (call : Option BackendCall) (socket : l.session.socket = []) (calls : l.calls = call.toList)
      (done : l.downDone = 0) (request : l.session.currentRequest = RemoteAssetService.messageOf r)
      (callFor : ∀ c ∈ call, CallFor r c) (wire : l.upWire = rest.flatMap bytesOf) :
    ServerAt l [r] rest
  | writing {rest : List (PendingTransferRequest κ)} {op : SocketOp} {msg : ServerResponseMsg}
      (socket : l.session.socket = [op]) (op_eq : op = .writeHeader msg ∨ op = .writeData msg)
      (calls : l.calls = []) (done : l.downDone ≤ op.outgoing.length)
      (wire : l.upWire = rest.flatMap bytesOf) : ServerAt l [] rest

/-- What the service has read of the responses `inFlight`. -/
inductive ClientAt (l : Link κ) : List (PendingTransferRequest κ × ServerResponseMsg) → Prop
  | idle {inFlight : List (PendingTransferRequest κ × ServerResponseMsg)}
      (reading : l.service.reading = none ∨ l.service.reading = some .header)
      (wire : l.downWire = inFlight.flatMap (·.2.bytes)) : ClientAt l inFlight
  | reading {x : PendingTransferRequest κ × ServerResponseMsg} {op : ReadOp}
      {inFlight : List (PendingTransferRequest κ × ServerResponseMsg)}
      (running : l.service.running = []) (reading : l.service.reading = some op)
      (op_eq : op = .data ⟨x.2.header, none⟩ ∧
          (x.2.getResponseCode = some .found ∨ x.2.getResponseCode = some .ok) ∨
        op = .errorData ⟨x.2.header, none⟩ ∧
          (x.2.getResponseCode = some .notFound ∨ x.2.getResponseCode = some .error))
      (wire : l.downWire = x.2.data.getD [] ++ inFlight.flatMap (·.2.bytes)) :
    ClientAt l (x :: inFlight)

/-- The requests issued are, in order: those called back, with the response each was called back
for; those whose response is on its way; the one the session is at; those the session has not read;
and those waiting to be sent. -/
structure Aligned (issued : List (PendingTransferRequest κ)) (l : Link κ)
    (called inFlight : List (PendingTransferRequest κ × ServerResponseMsg))
    (current rest : List (PendingTransferRequest κ)) : Prop where
  client : InOrder issued l.service.toClient
  proper : ∀ r ∈ issued, Proper r
  frames : ∀ f ∈ l.service.running, f = .callback ∨ f = .dropSent ∨ f = .other .listen
  invoked : l.service.invoked = called.map fun x => (x.1, outcome x.2)
  unrunSent : l.service.unrunSent = inFlight.map Prod.fst ++ (current ++ rest)
  fits : ∀ x ∈ called ++ inFlight, Fits x.1 x.2
  connected : l.session.connected = true
  isMesh : l.session.isMeshConnection = true
  headers : l.session.headers = ((called ++ inFlight).map Prod.fst ++ current).map
    fun r => (RemoteAssetService.messageOf r).header
  responses : l.session.responses = (called ++ inFlight).map
    fun x => (RemoteAssetService.messageOf x.1, x.2)
  upDone : l.upDone ≤ l.service.outgoing.length
  server : ServerAt l current rest
  reader : ClientAt l inFlight

variable {issued : List (PendingTransferRequest κ)} {l l' : Link κ}
  {called inFlight : List (PendingTransferRequest κ × ServerResponseMsg)}
  {current rest : List (PendingTransferRequest κ)}

/-- More requests on the wire. -/
lemma ServerAt.extend (h : ServerAt l current rest) (more : List (PendingTransferRequest κ))
    (hsession : l'.session = l.session) (hcalls : l'.calls = l.calls)
    (hdone : l'.downDone = l.downDone) (hwire : l'.upWire = l.upWire ++ more.flatMap bytesOf) :
    ServerAt l' current (rest ++ more) := by
  have hrest (data : ByteString) (hw : l.upWire = data ++ rest.flatMap bytesOf) :
      l'.upWire = data ++ (rest ++ more).flatMap bytesOf := by
    rw [hwire, hw, List.flatMap_append, List.append_assoc]
  have hsocket := congrArg CSAuthenticated.socket hsession
  have hrequest := congrArg CSAuthenticated.currentRequest hsession
  cases h with
  | idle socket calls done wire =>
    exact .idle (hsocket.trans socket) (hcalls.trans calls) (hdone.trans done) (hrest [] wire)
  | body socket calls done request data_eq wire =>
    exact .body (hsocket.trans socket) (hcalls.trans calls) (hdone.trans done)
      (hrequest.trans request) data_eq (hrest _ wire)
  | thinking call socket calls done request callFor wire =>
    exact .thinking call (hsocket.trans socket) (hcalls.trans calls) (hdone.trans done)
      (hrequest.trans request) callFor (hrest [] wire)
  | writing socket op_eq calls done wire =>
    exact .writing (hsocket.trans socket) op_eq (hcalls.trans calls) (hdone.trans_le done)
      (hrest [] wire)

/-- More responses on the wire. -/
lemma ClientAt.extend (h : ClientAt l inFlight)
    (more : List (PendingTransferRequest κ × ServerResponseMsg))
    (hservice : l'.service = l.service)
    (hwire : l'.downWire = l.downWire ++ more.flatMap (·.2.bytes)) :
    ClientAt l' (inFlight ++ more) := by
  have hreading := congrArg RemoteAssetService.reading hservice
  cases h with
  | idle reading wire =>
    refine .idle (reading.imp hreading.trans hreading.trans) ?_
    rw [hwire, wire, List.flatMap_append]
  | reading running reading op_eq wire =>
    rw [List.cons_append]
    refine .reading (hservice ▸ running) (hreading.trans reading) op_eq ?_
    rw [hwire, wire, List.flatMap_append, List.append_assoc]

/-! ### The service sends -/

/-- A step of the service that sends the requests `more`, and reads nothing. -/
lemma Aligned.sent {issued' : List (PendingTransferRequest κ)}
    (h : Aligned issued l called inFlight current rest) (more : List (PendingTransferRequest κ))
    (hclient : InOrder issued' l'.service.toClient) (hproper : ∀ r ∈ issued', Proper r)
    (hrunning : ∀ f ∈ l'.service.running, f ∈ l.service.running)
    (hidle : l.service.running = [] → l'.service.running = [])
    (hinvoked : l'.service.invoked = l.service.invoked)
    (hunrun : l'.service.unrunSent = l.service.unrunSent ++ more)
    (hreading : l'.service.reading = l.service.reading)
    (hl' : l'.session = l.session ∧ l'.calls = l.calls ∧ l'.down = l.down ∧
      l'.downDone = l.downDone)
    (hup : l'.upDone ≤ l'.service.outgoing.length)
    (hwire : l'.upWire = l.upWire ++ more.flatMap bytesOf) :
    Aligned issued' l' called inFlight current (rest ++ more) := by
  obtain ⟨hsession, hcalls, hdown, hdownDone⟩ := hl'
  have hdownWire : l'.downWire = l.downWire := by
    simp [downWire, undelivered, hsession, hdown, hdownDone]
  refine ⟨hclient, hproper, fun f hf => h.frames f (hrunning f hf), hinvoked.trans h.invoked, ?_,
    h.fits, hsession ▸ h.connected, hsession ▸ h.isMesh, hsession ▸ h.headers,
    hsession ▸ h.responses, hup, h.server.extend more hsession hcalls hdownDone hwire, ?_⟩
  · rw [hunrun, h.unrunSent, List.append_assoc, List.append_assoc]
  · cases h.reader with
    | idle reading wire =>
      exact .idle (reading.imp hreading.trans hreading.trans) (hdownWire.trans wire)
    | reading running reading op_eq wire =>
      exact .reading (hidle running) (hreading.trans reading) op_eq (hdownWire.trans wire)

lemma aligned_issue (h : Aligned issued l called inFlight current rest) (hr : Proper r) :
    ∃ more, Aligned (issued ++ [r]) { l with service := l.service.issue r } called inFlight current
      (rest ++ more) := by
  have hclient : InOrder (issued ++ [r]) (l.service.issue r).toClient := h.client.request _ r
  have hproper : ∀ q ∈ issued ++ [r], Proper q := by
    intro q hq
    rcases List.mem_append.mp hq with hq | hq
    · exact h.proper q hq
    · rwa [List.mem_singleton.mp hq]
  cases hw : l.service.writing with
  | none =>
    have hsend : (l.service.issue r).toClient = l.service.toClient.send r :=
      request_of_idle h.client.established hw _ r
    have hdone : l.upDone = 0 := by simpa [RemoteAssetService.outgoing, hw] using h.upDone
    have hrun := congrArg Client.running hsend
    refine ⟨[r], h.sent [r] hclient hproper (fun f hf => ?_) (fun hidle => ?_)
      ((congrArg Client.invoked hsend).trans rfl) ?_ rfl ⟨rfl, rfl, rfl, rfl⟩ ?_ ?_⟩
    · exact hrun ▸ hf
    · exact hrun.trans hidle
    · exact (congrArg Client.unrunSent hsend).trans (h.client.unrunSent_send r)
    · simp [hdone]
    · have hwriting : (l.service.issue r).writing = some r := congrArg Client.writing hsend
      simp [upWire, RemoteAssetService.outgoing, hwriting, hw, hdone, bytesOf]
  | some q =>
    have hwait : (l.service.issue r).toClient =
        { l.service.toClient with waiting := l.service.waiting ++ [r] } :=
      request_of_writing h.client.established hw _ r
    have hrun := congrArg Client.running hwait
    have hout : (l.service.issue r).outgoing = l.service.outgoing := by
      have hwriting : (l.service.issue r).writing = l.service.writing :=
        (congrArg Client.writing hwait).trans rfl
      simp [RemoteAssetService.outgoing, hwriting]
    refine ⟨[], h.sent [] hclient hproper (fun f hf => ?_) (fun hidle => ?_)
      ((congrArg Client.invoked hwait).trans rfl) ?_ rfl ⟨rfl, rfl, rfl, rfl⟩ ?_ ?_⟩
    · exact hrun ▸ hf
    · exact hrun.trans hidle
    · exact ((congrArg Client.unrunSent hwait).trans rfl).trans (List.append_nil _).symm
    · exact hout ▸ h.upDone
    · simp [upWire, hout]

lemma aligned_transmit (h : Aligned issued l called inFlight current rest) {n : ℕ}
    (hstep : l.step (.transmit n) = some l') :
    Aligned issued l' called inFlight current rest := by
  simp only [step, Option.ite_none_right_eq_some, Option.some.injEq] at hstep
  obtain ⟨hn, rfl⟩ := hstep
  rw [List.length_drop] at hn
  have hwire : l.up ++ (l.service.outgoing.drop l.upDone).take n ++
      l.service.outgoing.drop (l.upDone + n) = l.upWire := by
    rw [← List.drop_drop, List.append_assoc, List.take_append_drop]
    rfl
  rw [← List.append_nil rest]
  refine h.sent [] h.client h.proper (fun _ hf => hf) id rfl (by simp) rfl ⟨rfl, rfl, rfl, rfl⟩
    (Nat.add_le_of_le_sub' h.upDone hn) ?_
  rw [List.flatMap_nil, List.append_nil]
  exact hwire

lemma aligned_written (h : Aligned issued l called inFlight current rest)
    (hstep : l.step .written = some l') :
    ∃ more, Aligned issued l' called inFlight current (rest ++ more) := by
  simp only [step, Option.ite_none_right_eq_some] at hstep
  obtain ⟨hall, hstep⟩ := hstep
  obtain ⟨s, hs, rfl⟩ := Option.map_eq_some_iff.mp hstep
  obtain rfl := Machine.eq_of_ite hs
  obtain ⟨hclient, hunrun, hwriting, hrun, hinvoked⟩ :=
    h.client.next rfl RemoteAssetService.notEstablished
  -- on an established connection the next request goes out, and the service is not killed
  have hs : l.service.onAfterWriteAssetRequest true =
      { l.service with toClient :=
        { l.service.toClient with writing := none }.next RemoteAssetService.notEstablished } := by
    unfold RemoteAssetService.onAfterWriteAssetRequest
    dsimp only
    rw [if_pos rfl, if_pos h.client.established]
    exact RemoteAssetService.checkSafeKill_of_established hclient.established
  rw [hs]
  refine ⟨l.service.waiting.head?.toList, h.sent _ hclient h.proper (fun f hf => hrun ▸ hf)
    (fun hidle => hrun.trans hidle) hinvoked hunrun rfl ⟨rfl, rfl, rfl, rfl⟩ (Nat.zero_le _) ?_⟩
  have hup : l.upWire = l.up := by simp [upWire, hall]
  rw [hup]
  simp only [upWire, RemoteAssetService.outgoing, List.drop_zero]
  rw [hwriting]
  cases l.service.waiting.head? <;> simp [bytesOf]

/-! ### The service goes on after a callback -/

/-- A frame is done; reading starts again if it was the one to do so. -/
lemma Aligned.popped (h : Aligned issued l called inFlight current rest) {f : Frame _}
    {fs : List (Frame _)} {s : RemoteAssetService κ} (hrun : l.service.running = f :: fs)
    (hrun' : s.running = fs) (hestablished : s.established = l.service.established)
    (hinvoked : s.invoked = l.service.invoked) (hwriting : s.writing = l.service.writing)
    (hwaiting : s.waiting = l.service.waiting)
    (hsent : s.sent = if f.isDropSent then l.service.sent.tail else l.service.sent)
    (hreading : s.reading = l.service.reading ∨ s.reading = some .header) :
    Aligned issued { l with service := s } called inFlight current rest := by
  obtain ⟨hclient, hunrun⟩ :=
    h.client.pop hrun hrun' hestablished hinvoked hwriting hwaiting hsent
  have hout : s.outgoing = l.service.outgoing := by simp [RemoteAssetService.outgoing, hwriting]
  refine ⟨hclient, h.proper, fun g hg => h.frames g ?_, hinvoked.trans h.invoked,
    hunrun.trans h.unrunSent, h.fits, h.connected, h.isMesh, h.headers, h.responses,
    hout ▸ h.upDone, ?_, ?_⟩
  · rw [hrun, ← hrun']
    exact List.mem_cons_of_mem f hg
  · rw [← List.append_nil rest]
    exact h.server.extend [] rfl rfl rfl (by simp [upWire, hout])
  · cases h.reader with
    | idle reading wire =>
      refine .idle ?_ wire
      rcases hreading with hsame | hheader
      · exact reading.imp hsame.trans hsame.trans
      · exact .inr hheader
    | reading running =>
      rw [running] at hrun
      cases hrun

lemma aligned_resume (h : Aligned issued l called inFlight current rest)
    (hstep : l.step .resume = some l') : Aligned issued l' called inFlight current rest := by
  obtain ⟨s, hs, rfl⟩ := Option.map_eq_some_iff.mp hstep
  change l.service.resume = some s at hs
  cases hrun : l.service.running with
  | nil => simp [RemoteAssetService.resume, Client.resume, hrun] at hs
  | cons f fs =>
    rcases h.frames f (by simp [hrun]) with rfl | rfl | rfl
    all_goals
      simp only [RemoteAssetService.resume, Client.resume, hrun, Option.map_some,
        Option.some.injEq] at hs
      subst hs
    · exact h.popped hrun rfl rfl rfl rfl rfl rfl (.inl rfl)
    · exact h.popped hrun rfl rfl rfl rfl rfl rfl (.inl rfl)
    · exact h.popped hrun rfl rfl rfl rfl rfl rfl (.inr rfl)

/-! ### The service reads -/

/-- The callback of the request in front is run with what the server said. -/
lemma Aligned.answered {x : PendingTransferRequest κ × ServerResponseMsg}
    (h : Aligned issued l called (x :: inFlight) current rest) (hidle : l.service.running = [])
    {frames : List (Frame RemoteAssetService.Own)}
    (hframes : frames = [.dropSent, .other .listen] ∨ frames = [.other .listen, .dropSent])
    {s : RemoteAssetService κ}
    (hs : { l.service with reading := none }.answer (outcome x.2) frames = some s)
    {down : ByteString} (hwire : down ++ l.undelivered = inFlight.flatMap (·.2.bytes)) :
    Aligned issued { l with service := s, down := down } (called ++ [x]) inFlight current rest := by
  have hcount : frames.countP (·.isDropSent) = 1 := by
    rcases hframes with rfl | rfl <;> rfl
  obtain ⟨c, hc, hclient, hinvoked, hunrun, hrun, hwriting, -⟩ :=
    h.client.answer hidle h.unrunSent (outcome x.2) hcount
  rw [RemoteAssetService.answer, hc, Option.map_some, Option.some.injEq] at hs
  subst hs
  have hout : RemoteAssetService.outgoing { l.service with reading := none, toClient := c } =
      l.service.outgoing := by simp [RemoteAssetService.outgoing, hwriting]
  refine ⟨hclient, h.proper, fun g hg => ?_, ?_, hunrun, ?_, h.connected, h.isMesh, ?_, ?_,
    hout ▸ h.upDone, ?_, .idle (.inl rfl) hwire⟩
  · rw [hrun] at hg
    rcases hframes with rfl | rfl <;> simp at hg ⊢ <;> tauto
  · rw [hinvoked, h.invoked]
    simp
  · simpa using h.fits
  · simpa using h.headers
  · simpa using h.responses
  · rw [← List.append_nil rest]
    exact h.server.extend [] rfl rfl rfl (by simp [upWire, hout])

/-- What a read of the right size gets from the wire, and what it leaves. -/
lemma read_wire {down tail first others : ByteString} (hwire : down ++ tail = first ++ others)
    (hle : first.length ≤ down.length) :
    down.take first.length = first ∧ down.drop first.length ++ tail = others := by
  constructor
  · have htake := congrArg (List.take first.length) hwire
    rwa [List.take_append_of_le_length hle, List.take_left] at htake
  · rw [← List.drop_append_of_le_length hle, hwire, List.drop_left]

/-- A read that is not the last one of its response leaves everything but the reader in place. -/
lemma Aligned.reads (h : Aligned issued l called inFlight current rest) {op : Option ReadOp}
    {down : ByteString}
    (hreader : ClientAt { l with service := { l.service with reading := op }, down := down }
      inFlight) :
    Aligned issued { l with service := { l.service with reading := op }, down := down }
      called inFlight current rest := by
  refine ⟨h.client, h.proper, h.frames, h.invoked, h.unrunSent, h.fits, h.connected, h.isMesh,
    h.headers, h.responses, h.upDone, ?_, hreader⟩
  rw [← List.append_nil rest]
  exact h.server.extend [] rfl rfl rfl (by simp [upWire, RemoteAssetService.outgoing])

lemma outcome_of_negative {msg : ServerResponseMsg}
    (hcode : msg.getResponseCode = some .notFound ∨ msg.getResponseCode = some .error) :
    outcome msg = ⟨none, true, false, msg.data.getD []⟩ := by
  rcases hcode with hcode | hcode <;> simp [outcome, hcode]

/-- After the header of a negative response its message is read, if it has one. -/
lemma Aligned.negative {x : PendingTransferRequest κ × ServerResponseMsg}
    (h : Aligned issued l called (x :: inFlight) current rest) (hidle : l.service.running = [])
    (hcode : x.2.getResponseCode = some .notFound ∨ x.2.getResponseCode = some .error)
    {down : ByteString}
    (hwire : down ++ l.undelivered = x.2.data.getD [] ++ inFlight.flatMap (·.2.bytes))
    {s : RemoteAssetService κ}
    (hs : (if (x.2.data.getD []).length > 0 then
        some { l.service with reading := some (.errorData ⟨x.2.header, none⟩) }
      else { l.service with reading := none }.answer ⟨none, true, false, []⟩
        [.dropSent, .other .listen]) = some s) :
    ∃ called' inFlight', Aligned issued { l with service := s, down := down } called' inFlight'
      current rest := by
  split_ifs at hs with hpos
  · cases hs
    exact ⟨called, x :: inFlight, h.reads (.reading hidle rfl (.inr ⟨rfl, hcode⟩) hwire)⟩
  · have hdata : x.2.data.getD [] = [] := List.length_eq_zero_iff.mp (Nat.eq_zero_of_not_pos hpos)
    have hout := outcome_of_negative hcode
    rw [hdata] at hout hwire
    rw [← hout] at hs
    exact ⟨called ++ [x], inFlight, h.answered hidle (.inl rfl) hs hwire⟩

/-- A header arrives: it is the header of the first response in flight. -/
lemma aligned_readHeader (h : Aligned issued l called inFlight current rest)
    (hidle : l.service.running = []) (hreading : l.service.reading = some .header)
    (hle : ServerResponseMsg.HEADER_SIZE ≤ l.down.length) {s : RemoteAssetService κ}
    (hs : { l.service with reading := none }.onReadResponseHeader
      (l.down.take ServerResponseMsg.HEADER_SIZE) = some s) :
    ∃ called' inFlight', Aligned issued
      { l with service := s, down := l.down.drop ServerResponseMsg.HEADER_SIZE }
      called' inFlight' current rest := by
  have hwire : l.down ++ l.undelivered = inFlight.flatMap (·.2.bytes) := by
    cases h.reader with
    | idle _ wire => exact wire
    | reading _ reading op_eq =>
      rw [hreading] at reading
      rcases op_eq with ⟨rfl, -⟩ | ⟨rfl, -⟩ <;> cases reading
  cases inFlight with
  | nil =>
    simp only [List.flatMap_nil, List.append_eq_nil_iff] at hwire
    rw [hwire.1] at hle
    cases hle
  | cons x inFlight =>
    have hfits := h.fits x (by simp)
    obtain ⟨code, hcode, -, -⟩ := hfits.code
    rw [List.flatMap_cons, ServerResponseMsg.bytes, List.append_assoc] at hwire
    rw [← hfits.length] at hs hle ⊢
    obtain ⟨hheader, hrest⟩ := read_wire hwire hle
    rw [hheader] at hs
    -- code and size are read off the header, which is all that has been read
    have hcode' : ServerResponseMsg.getResponseCode ⟨x.2.header, none⟩ = some code := hcode
    have hsize : ServerResponseMsg.getDataSize ⟨x.2.header, none⟩ = (x.2.data.getD []).length :=
      hfits.size
    simp only [RemoteAssetService.onReadResponseHeader, hcode', hsize] at hs
    cases code with
    | found =>
      cases hs
      exact ⟨called, x :: inFlight, h.reads (.reading hidle rfl (.inl ⟨rfl, .inl hcode⟩) hrest)⟩
    | ok =>
      cases hs
      exact ⟨called, x :: inFlight, h.reads (.reading hidle rfl (.inl ⟨rfl, .inr hcode⟩) hrest)⟩
    | notFound => exact h.negative hidle (.inl hcode) hrest hs
    | error => exact h.negative hidle (.inr hcode) hrest hs

/-- The data of a positive response arrives: the service takes it for what it is. -/
lemma Aligned.onReadResponseData {x : PendingTransferRequest κ × ServerResponseMsg}
    (h : Aligned issued l called (x :: inFlight) current rest) (hidle : l.service.running = [])
    (hcode : x.2.getResponseCode = some .found ∨ x.2.getResponseCode = some .ok) :
    { l.service with reading := none }.onReadResponseData (x.2.data.getD []) =
      { l.service with reading := none }.answer (outcome x.2) [.other .listen, .dropSent] := by
  have hsent : l.service.sent = x.1 :: (inFlight.map Prod.fst ++ (current ++ rest)) := by
    rw [← unrunSent_of_idle hidle, h.unrunSent]
    rfl
  obtain ⟨code, hcode', hfound, hok⟩ := (h.fits x (by simp)).code
  simp only [RemoteAssetService.onReadResponseData, h.client.established, hsent, if_true]
  rcases hcode with hcode | hcode
  · rw [hcode] at hcode'
    cases hcode'
    obtain ⟨htype | htype, hid⟩ := hfound rfl
    · simp [htype, Asset.getUUID, hid, outcome, hcode]
    · simp [htype, Asset.getUUID, hid, outcome, hcode]
  · rw [hcode] at hcode'
    cases hcode'
    rcases hok rfl with ⟨htype, hdata⟩ | htype
    · simp [htype, hdata, outcome, hcode]
    · simp [htype, outcome, hcode]

lemma aligned_read (h : Aligned issued l called inFlight current rest)
    (hstep : l.step .read = some l') :
    ∃ called' inFlight', Aligned issued l' called' inFlight' current rest := by
  simp only [step] at hstep
  cases hreading : l.service.reading with
  | none => simp [hreading] at hstep
  | some op =>
    simp only [hreading, Option.ite_none_right_eq_some] at hstep
    obtain ⟨hle, hstep⟩ := hstep
    obtain ⟨s, hs, rfl⟩ := Option.map_eq_some_iff.mp hstep
    simp only [RemoteAssetService.step, hreading, Option.ite_none_right_eq_some, Bool.and_eq_true,
      List.isEmpty_iff] at hs
    obtain ⟨⟨hidle, -⟩, hs⟩ := hs
    cases h.reader with
    | idle reading wire =>
      rw [hreading] at reading
      obtain rfl : op = .header := by simpa using reading
      exact aligned_readHeader h hidle hreading hle hs
    | reading running reading op_eq wire =>
      next x op' inFlight =>
      rw [hreading, Option.some.injEq] at reading
      subst reading
      have hsize : op.size = (x.2.data.getD []).length := by
        rw [← (h.fits x (by simp)).size]
        rcases op_eq with ⟨rfl, -⟩ | ⟨rfl, -⟩ <;> rfl
      rw [hsize] at hs hle ⊢
      obtain ⟨hdata, hrest⟩ := read_wire wire hle
      rw [hdata] at hs
      rcases op_eq with ⟨rfl, hcode⟩ | ⟨rfl, hcode⟩
      · have hs' := (h.onReadResponseData running hcode).symm.trans hs
        exact ⟨called ++ [x], inFlight, h.answered hidle (.inr rfl) hs' hrest⟩
      · have hout := outcome_of_negative hcode
        have hs' : { l.service with reading := none }.answer (outcome x.2)
            [.dropSent, .other .listen] = some s := hout ▸ hs
        exact ⟨called ++ [x], inFlight, h.answered hidle (.inl rfl) hs' hrest⟩

/-! ### The session -/

/-- A step of the session that reads the requests `news` and sends the responses `more`. -/
lemma Aligned.served {current' rest' : List (PendingTransferRequest κ)}
    (h : Aligned issued l called inFlight current rest) (news : List (PendingTransferRequest κ))
    (more : List (PendingTransferRequest κ × ServerResponseMsg))
    (hnews : more.map Prod.fst ++ current' = current ++ news) (hrest : rest = news ++ rest')
    (hservice : l'.service = l.service) (hupDone : l'.upDone = l.upDone)
    (hfits : ∀ x ∈ more, Fits x.1 x.2) (hconnected : l'.session.connected = true)
    (hmesh : l'.session.isMeshConnection = true)
    (hheaders : l'.session.headers = l.session.headers ++ news.map
      fun r => (RemoteAssetService.messageOf r).header)
    (hresponses : l'.session.responses = l.session.responses ++ more.map
      fun x => (RemoteAssetService.messageOf x.1, x.2))
    (hserver : ServerAt l' current' rest')
    (hwire : l'.downWire = l.downWire ++ more.flatMap (·.2.bytes)) :
    Aligned issued l' called (inFlight ++ more) current' rest' := by
  refine ⟨hservice ▸ h.client, h.proper, hservice ▸ h.frames, hservice ▸ h.invoked, ?_, ?_,
    hconnected, hmesh, ?_, ?_, hservice ▸ hupDone ▸ h.upDone, hserver,
    h.reader.extend more hservice hwire⟩
  · rw [hservice, h.unrunSent, hrest, ← List.append_assoc current, ← hnews]
    simp
  · intro x hx
    rcases List.mem_append.mp hx with hx | hx
    · exact h.fits x (List.mem_append_left _ hx)
    · rcases List.mem_append.mp hx with hx | hx
      · exact h.fits x (List.mem_append_right _ hx)
      · exact hfits x hx
  · rw [hheaders, h.headers, ← List.map_append, List.append_assoc, ← hnews]
    simp
  · rw [hresponses, h.responses]
    simp

lemma aligned_serverTransmit (h : Aligned issued l called inFlight current rest) {n : ℕ}
    (hstep : l.step (.serverTransmit n) = some l') :
    Aligned issued l' called inFlight current rest := by
  simp only [step] at hstep
  cases h.server with
  | idle socket | body socket => simp [socket, readSize] at hstep
  | thinking call socket => simp [socket] at hstep
  | writing socket op_eq calls done wire =>
    next op msg =>
    simp only [socket, Option.ite_none_right_eq_some, Option.some.injEq] at hstep
    obtain ⟨⟨-, hn⟩, rfl⟩ := hstep
    rw [List.length_drop] at hn
    rw [← List.append_nil inFlight]
    refine h.served [] [] rfl rfl rfl rfl (by simp) h.connected h.isMesh
      (by simp) (by simp) (.writing socket op_eq calls (Nat.add_le_of_le_sub' done hn) wire) ?_
    rw [List.flatMap_nil, List.append_nil]
    rcases op_eq with rfl | rfl
    · simp only [downWire, undelivered, socket, SocketOp.outgoing]
      rw [← List.drop_drop, List.append_assoc, ← List.append_assoc (List.take n _),
        List.take_append_drop]
    · simp only [downWire, undelivered, socket, SocketOp.outgoing]
      rw [← List.drop_drop, List.append_assoc, List.take_append_drop]

lemma aligned_serverWritten (h : Aligned issued l called inFlight current rest)
    (hstep : l.step .serverWritten = some l') :
    Aligned issued l' called inFlight current rest := by
  simp only [step] at hstep
  cases h.server with
  | idle socket | body socket => simp [socket, readSize] at hstep
  | thinking call socket => simp [socket] at hstep
  | writing socket op_eq calls done wire =>
    next op msg =>
    simp only [socket, Option.ite_none_right_eq_some, Option.some.injEq] at hstep
    obtain ⟨⟨-, hall, -⟩, rfl⟩ := hstep
    rw [← List.append_nil inFlight]
    rcases op_eq with rfl | rfl
    · cases hdata : msg.data with
      | none =>
        have hsession : l.session.onSocket (fun _ => false) (.writeHeader msg) [] =
            ({ l.session with socket := [] }.waitForRequest, none) := by
          simp [onSocket, socket, handleResponseHeaderWrite, hdata]
        rw [hsession, waitForRequest_of_connected (by exact h.connected)]
        refine h.served [] [] rfl rfl rfl rfl (by simp) h.connected h.isMesh (by simp [serve])
          (by simp [serve]) (.idle rfl (by simp [serve, calls]) rfl wire) ?_
        simp [downWire, undelivered, serve, socket, hall, hdata, SocketOp.outgoing]
      | some data =>
        have hsession : l.session.onSocket (fun _ => false) (.writeHeader msg) [] =
            ({ l.session with socket := [] }.start (.writeData msg), none) := by
          simp [onSocket, socket, handleResponseHeaderWrite, hdata]
        rw [hsession, start_of_connected (by exact h.connected)]
        refine h.served [] [] rfl rfl rfl rfl (by simp) h.connected h.isMesh (by simp [serve])
          (by simp [serve])
          (.writing rfl (.inr rfl) (by simp [serve, calls]) (Nat.zero_le _) wire) ?_
        simp [downWire, undelivered, serve, socket, hall, SocketOp.outgoing]
    · have hsession : l.session.onSocket (fun _ => false) (.writeData msg) [] =
          ({ l.session with socket := [] }.waitForRequest, none) := by
        simp [onSocket, socket, handleResponseDataWrite]
      rw [hsession, waitForRequest_of_connected (by exact h.connected)]
      refine h.served [] [] rfl rfl rfl rfl (by simp) h.connected h.isMesh (by simp [serve])
        (by simp [serve]) (.idle rfl (by simp [serve, calls]) rfl wire) ?_
      simp [downWire, undelivered, serve, socket, hall, SocketOp.outgoing]

/-- The session answers the request it is at. -/
lemma Aligned.responds (h : Aligned issued l called inFlight [r] rest)
    (hsocket : l.session.socket = []) (hcalls : l.calls = []) {msg : ServerResponseMsg}
    (hfits : Fits r msg) :
    Aligned issued { l with session := l.session.sendResponse msg } called
      (inFlight ++ [(r, msg)]) [] rest := by
  cases h.server with
  | body socket =>
    rw [hsocket] at socket
    cases socket
  | thinking call socket calls done request callFor wire =>
    rw [sendResponse_of_connected h.connected, request, hsocket, List.nil_append]
    refine h.served [] [(r, msg)] rfl rfl rfl rfl (by simpa using hfits) h.connected h.isMesh
      (by simp) rfl (.writing rfl (.inl rfl) hcalls (done ▸ Nat.zero_le _) wire) ?_
    simp [downWire, undelivered, hsocket, done, ServerResponseMsg.bytes]

/-- The session makes a call for the request it is at. -/
lemma Aligned.asks (h : Aligned issued l called inFlight [r] rest)
    (hsocket : l.session.socket = []) {call : BackendCall} (hcall : CallFor r call) :
    Aligned issued { l with calls := [call] } called inFlight [r] rest := by
  cases h.server with
  | body socket =>
    rw [hsocket] at socket
    cases socket
  | thinking _ socket _ done request _ wire =>
    rw [← List.append_nil inFlight]
    exact h.served [] [] rfl rfl rfl rfl (by simp) h.connected h.isMesh (by simp) (by simp)
      (.thinking (some call) socket rfl done request (by simpa using hcall) wire)
      (by simp [downWire, undelivered])

lemma fits_error (hr : Proper r) {msg : ByteString} (hlt : msg.length < 2 ^ 32) :
    Fits r (.make .error (RemoteAssetService.messageOf r).getUUID (some msg)) :=
  fits_make hr.length_getUUID hlt (fun hcode => by cases hcode) (fun hcode => by cases hcode)

lemma Aligned.proper_current (h : Aligned issued l called inFlight (r :: current) rest) :
    Proper r := by
  apply h.proper
  rw [← h.client.order, h.unrunSent]
  simp

lemma Aligned.proper_unread (h : Aligned issued l called inFlight current (r :: rest)) :
    Proper r := by
  apply h.proper
  rw [← h.client.order, h.unrunSent]
  simp

/-- Messages end at the first zero byte. -/
lemma length_takeWhile_lt {msg : ByteString} {n : ℕ} (h : msg.length < n) (p : UInt8 → Bool) :
    (msg.takeWhile p).length < n :=
  Nat.lt_of_le_of_lt (List.takeWhile_prefix p).length_le h

lemma Aligned.currentRequest (h : Aligned issued l called inFlight [r] rest)
    (hsocket : l.session.socket = []) :
    l.session.currentRequest = RemoteAssetService.messageOf r := by
  cases h.server with
  | body socket =>
    rw [hsocket] at socket
    cases socket
  | thinking _ _ _ _ request => exact request

lemma Aligned.errs (h : Aligned issued l called inFlight [r] rest)
    (hsocket : l.session.socket = []) (hcalls : l.calls = []) {msg : ByteString}
    (hlt : msg.length < 2 ^ 32) :
    ∃ inFlight', Aligned issued { l with session := l.session.sendError msg } called inFlight' []
      rest := by
  have hfits := fits_error h.proper_current (length_takeWhile_lt hlt (· ≠ 0))
  rw [sendError, h.currentRequest hsocket]
  exact ⟨_, h.responds hsocket hcalls hfits⟩

@[simp] lemma serve_none (l : Link κ) (c : CSAuthenticated) :
    l.serve (c, none) = { l with session := c } := by
  simp [serve]

/-- The identifier is validated: a call is made, or an error is sent. -/
lemma Aligned.validates (h : Aligned issued l called inFlight [r] rest)
    (hsocket : l.session.socket = []) (hcalls : l.calls = []) {call : BackendCall}
    (hcall : CallFor r call) (uuid : ByteString) :
    ∃ inFlight' current', Aligned issued (l.serve (l.session.ifValidUUID uuid call)) called
      inFlight' current' rest := by
  unfold ifValidUUID
  split_ifs
  · have hasks := h.asks hsocket hcall
    exact ⟨inFlight, [r], by simpa [serve, hcalls] using hasks⟩
  · have hlt : (invalidUUID l.session.currentRequest.getUUID).length < 2 ^ 32 := by
      rw [invalidUUID, List.length_append, h.currentRequest hsocket,
        h.proper_current.length_getUUID]
      decide
    obtain ⟨inFlight', herrs⟩ := h.errs hsocket hcalls hlt
    exact ⟨inFlight', [], by rwa [serve_none]⟩

/-- The session when the request `msg` has been read. -/
def receive (c : CSAuthenticated) (msg : ClientRequestMsg) : CSAuthenticated :=
  { c with socket := [], currentRequest := msg, headers := c.headers ++ [msg.header] }

lemma onSocket_readHeader {c : CSAuthenticated} (hsocket : c.socket = [.readHeader])
    (assetExists : ByteString → Bool) {header : ByteString} {type : RequestType}
    (htype : ClientRequestMsg.getType ⟨header, none⟩ = some type) :
    c.onSocket assetExists .readHeader header =
      (receive c ⟨header, none⟩).dispatch assetExists (some type) := by
  simp [onSocket, hsocket, handleClientRequestHeaderRead, receive, htype]

lemma aligned_readRequest (h : Aligned issued l called inFlight [] (r :: rest))
    (hsocket : l.session.socket = [.readHeader]) (hcalls : l.calls = []) (hdone : l.downDone = 0)
    {up : ByteString} (assetExists : ByteString → Bool)
    (hwire : up ++ l.service.outgoing.drop l.upDone =
      (RemoteAssetService.messageOf r).data.getD [] ++ rest.flatMap bytesOf) :
    ∃ inFlight' current', Aligned issued ({ l with up := up }.serve
      (l.session.onSocket assetExists .readHeader (RemoteAssetService.messageOf r).header))
      called inFlight' current' rest := by
  have hr := h.proper_unread
  -- a request without data is complete with its header
  have hrecv (hdata : (RemoteAssetService.messageOf r).data = none) : Aligned issued
      { l with up := up, session := receive l.session (RemoteAssetService.messageOf r) }
      called inFlight [r] rest := by
    rw [hdata] at hwire
    rw [← List.append_nil inFlight]
    exact h.served [r] [] rfl rfl rfl rfl (by simp) h.connected h.isMesh rfl (by simp [receive])
      (.thinking none rfl hcalls hdone rfl (by simp) hwire)
      (by simp [downWire, undelivered, hsocket, receive])
  rw [onSocket_readHeader hsocket assetExists hr.getType]
  cases hr with
  | get id k length =>
    have hcall : CallFor (⟨id, k, .get, none⟩ : PendingTransferRequest κ)
        (.getAsset (ClientRequestMsg.ofId .get id).getUUID false) :=
      ⟨.inl rfl, ClientRequestMsg.getUUID_ofId length⟩
    exact (hrecv rfl).validates rfl hcalls hcall _
  | getDontCache id k length =>
    have hcall : CallFor (⟨id, k, .getDontCache, none⟩ : PendingTransferRequest κ)
        (.getAsset (ClientRequestMsg.ofId .getDontCache id).getUUID true) :=
      ⟨.inr rfl, ClientRequestMsg.getUUID_ofId length⟩
    exact (hrecv rfl).validates rfl hcalls hcall _
  | put asset k ge lt =>
    refine ⟨inFlight, [⟨asset.getUUID, k, .put, some asset⟩], ?_⟩
    rw [dispatch, handlePutRequest, serve_none, start_of_connected (by exact h.connected),
      ← List.append_nil inFlight]
    exact h.served [_] [] rfl rfl rfl rfl (by simp) h.connected h.isMesh rfl (by simp [receive])
      (.body rfl hcalls hdone rfl rfl hwire) (by simp [downWire, undelivered, hsocket, receive])
  | storedAssetIds head k length =>
    refine ⟨inFlight, [⟨head, k, .storedAssetIdsGet, none⟩], ?_⟩
    rw [dispatch, handleStoredAssetIdsGet, if_pos (by exact h.connected), serve]
    dsimp only [Option.toList_some]
    rw [hcalls]
    exact (hrecv rfl).asks rfl rfl

/-- The body of a put arrives at the session. -/
lemma aligned_readBody {data : ByteString} (h : Aligned issued l called inFlight [r] rest)
    (hsocket : l.session.socket = [.readData]) (hcalls : l.calls = []) (hdone : l.downDone = 0)
    (hrequest : l.session.currentRequest = ⟨(RemoteAssetService.messageOf r).header, none⟩)
    (hdata : (RemoteAssetService.messageOf r).data = some data) {up : ByteString}
    (assetExists : ByteString → Bool)
    (hwire : up ++ l.service.outgoing.drop l.upDone = rest.flatMap bytesOf) :
    ∃ inFlight' current', Aligned issued ({ l with up := up }.serve
      (l.session.onSocket assetExists .readData data)) called inFlight' current' rest := by
  have hmsg : (⟨(RemoteAssetService.messageOf r).header, some data⟩ : ClientRequestMsg) =
      RemoteAssetService.messageOf r := by rw [← hdata]
  have hread : Aligned issued { l with
      up := up
      session := { l.session with
        socket := []
        currentRequest := RemoteAssetService.messageOf r } } called inFlight [r] rest := by
    rw [← List.append_nil inFlight]
    exact h.served [] [] rfl rfl rfl rfl (by simp) h.connected h.isMesh (by simp) (by simp)
      (.thinking none rfl hcalls hdone rfl (by simp) hwire)
      (by simp [downWire, undelivered, hsocket])
  have htype : r.type = .put := by
    cases h.proper_current with
    | put => rfl
    | _ => cases hdata
  have hcall : CallFor r (.storeAsset ⟨data⟩) := htype
  have hsession : l.session.onSocket assetExists .readData data =
      { l.session with
        socket := []
        currentRequest := RemoteAssetService.messageOf r }.ifValidUUID (Asset.getUUID ⟨data⟩)
          (.storeAsset ⟨data⟩) := by
    simp only [onSocket, hsocket, List.erase_cons_head, handleAssetDataRead, hrequest, hmsg]
  rw [hsession]
  exact hread.validates rfl hcalls hcall _

lemma aligned_serverRead (h : Aligned issued l called inFlight current rest)
    {assetExists : ByteString → Bool} (hstep : l.step (.serverRead assetExists) = some l') :
    ∃ inFlight' current' rest', Aligned issued l' called inFlight' current' rest' := by
  simp only [step] at hstep
  cases h.server with
  | thinking call socket => simp [socket] at hstep
  | writing socket op_eq =>
    rcases op_eq with rfl | rfl <;> simp [socket, readSize] at hstep
  | idle socket calls done wire =>
    simp only [socket, readSize, Option.ite_none_right_eq_some, Option.some.injEq] at hstep
    obtain ⟨hle, rfl⟩ := hstep
    cases rest with
    | nil =>
      simp only [upWire, List.flatMap_nil, List.append_eq_nil_iff] at wire
      rw [wire.1] at hle
      cases hle
    | cons r rest =>
      have hr := h.proper_unread
      rw [upWire, List.flatMap_cons, bytesOf, ClientRequestMsg.bytes, List.append_assoc] at wire
      rw [← hr.length_header] at hle ⊢
      obtain ⟨hheader, hrest⟩ := read_wire wire hle
      rw [hheader]
      obtain ⟨inFlight', current', hl⟩ := aligned_readRequest h socket calls done assetExists hrest
      exact ⟨inFlight', current', rest, hl⟩
  | body socket calls done request data_eq wire =>
    next r data =>
    have hsize : l.session.currentRequest.getDataSize = data.length := by
      rw [request]
      cases h.proper_current with
      | put asset k ge lt =>
        cases data_eq
        exact ClientRequestMsg.getDataSize_ofAsset (Nat.le_trans (by decide) ge) lt
      | _ => cases data_eq
    simp only [socket, readSize, hsize, Option.ite_none_right_eq_some, Option.some.injEq] at hstep
    obtain ⟨hle, rfl⟩ := hstep
    obtain ⟨hdata, hrest⟩ := read_wire wire hle
    rw [hdata]
    obtain ⟨inFlight', current', hl⟩ :=
      aligned_readBody h socket calls done request data_eq assetExists hrest
    exact ⟨inFlight', current', rest, hl⟩

/-! ### Replies of the backends -/

/-- A request is one of those the two ends are made for; a found asset is the one that was asked
for, and no payload is longer than the size fields can say. -/
def Admissible : Event κ → Prop
  | .issue (.getAsset id _ _) => id.length = 32
  | .issue (.putAsset asset _) => 34 ≤ asset.data.length ∧ asset.data.length < 2 ^ 32
  | .issue (.getStoredAssetIDsWithPrefix head _) => head.length ≤ 32
  | .reply (.getAsset uuid _) (.storageGet (some asset) true _) =>
    asset.getUUID = uuid ∧ asset.data.length < 2 ^ 32
  | .reply _ (.storageWrite false (some error)) => (textBytes error.what).length < 2 ^ 32
  | .reply _ (.storedAssetIds journal) => journal.length < 2 ^ 32
  | _ => True

/-- The call of the session has been replied to. -/
lemma Aligned.replied (h : Aligned issued l called inFlight [r] rest)
    (hsocket : l.session.socket = []) :
    Aligned issued { l with calls := [] } called inFlight [r] rest := by
  cases h.server with
  | body socket =>
    rw [hsocket] at socket
    cases socket
  | thinking _ _ _ done request _ wire =>
    rw [← List.append_nil inFlight]
    exact h.served [] [] rfl rfl rfl rfl (by simp) h.connected h.isMesh (by simp) (by simp)
      (.thinking none hsocket rfl done request (by simp) wire) (by simp [downWire, undelivered])

lemma Aligned.length_getUUID (h : Aligned issued l called inFlight [r] rest)
    (hsocket : l.session.socket = []) : l.session.currentRequest.getUUID.length = 32 := by
  rw [h.currentRequest hsocket]
  exact h.proper_current.length_getUUID

/-- A lookup has ended: the asset is sent, or that there is none. -/
lemma aligned_storageGet (h : Aligned issued l called inFlight [r] rest)
    (hsocket : l.session.socket = []) (hcalls : l.calls = [])
    (htype : r.type = .get ∨ r.type = .getDontCache) {foundAsset : Option Asset} {success : Bool}
    (hasset : ∀ asset, foundAsset = some asset → success = true →
      asset.getUUID = r.id ∧ asset.data.length < 2 ^ 32) :
    ∃ inFlight' current', Aligned issued
      (l.serve (l.session.handleStorageGetResponse foundAsset success)) called inFlight' current'
      rest := by
  have hid : r.id.length = 32 := by
    cases h.proper_current with
    | get id k length => exact length
    | getDontCache id k length => exact length
    | _ => simp at htype
  have hnot : Fits r (.make .notFound l.session.currentRequest.getUUID) :=
    fits_make (h.length_getUUID hsocket) (by simp) (fun hcode => by cases hcode)
      (fun hcode => by cases hcode)
  have hnegative : Aligned issued (l.serve (l.session.sendResponse
      (.make .notFound l.session.currentRequest.getUUID), none)) called
      (inFlight ++ [(r, .make .notFound l.session.currentRequest.getUUID)]) [] rest := by
    rw [serve_none]
    exact h.responds hsocket hcalls hnot
  unfold handleStorageGetResponse
  cases success with
  | false =>
    rw [h.isMesh]
    exact ⟨_, _, hnegative⟩
  | true =>
    cases foundAsset with
    | none =>
      rw [h.isMesh]
      exact ⟨_, _, hnegative⟩
    | some asset =>
      obtain ⟨huuid, hlt⟩ := hasset asset rfl rfl
      have hfits : Fits r (.make .found asset.getUUID (some asset.data)) :=
        fits_make (huuid ▸ hid) hlt (fun _ => ⟨htype, huuid⟩) (fun hcode => by cases hcode)
      dsimp only
      rw [serve_none]
      exact ⟨_, _, h.responds hsocket hcalls hfits⟩

/-- A store has ended. -/
lemma aligned_confirm (h : Aligned issued l called inFlight [r] rest)
    (hsocket : l.session.socket = []) (hcalls : l.calls = []) (htype : r.type = .put)
    {success : Bool} {error : Option AssetStorageError}
    (herror : success = false → ∀ e, error = some e → (textBytes e.what).length < 2 ^ 32) :
    ∃ inFlight', Aligned issued { l with session := l.session.confirm success error } called
      inFlight' [] rest := by
  unfold confirm
  cases success with
  | true =>
    have hfits : Fits r (.make .ok l.session.currentRequest.getUUID) :=
      fits_make (h.length_getUUID hsocket) (by simp) (fun hcode => by cases hcode)
        (fun _ => .inl ⟨htype, rfl⟩)
    exact ⟨_, h.responds hsocket hcalls hfits⟩
  | false =>
    apply h.errs hsocket hcalls
    cases error with
    | none => decide
    | some e => exact herror rfl e rfl

lemma aligned_reply (h : Aligned issued l called inFlight current rest) {call : BackendCall}
    {reply : Reply} (hadm : Admissible (.reply call reply : Event κ))
    (hstep : l.step (.reply call reply) = some l') :
    ∃ inFlight' current', Aligned issued l' called inFlight' current' rest := by
  simp only [step, Option.ite_none_right_eq_some, Option.some.injEq] at hstep
  obtain ⟨⟨hmem, hanswers⟩, rfl⟩ := hstep
  cases h.server with
  | idle _ calls | body _ calls | writing _ _ calls =>
    rw [calls] at hmem
    cases hmem
  | thinking call' socket calls done request callFor wire =>
    next r =>
    rw [calls, Option.mem_toList] at hmem
    obtain rfl : call' = some call := hmem
    have hl := h.replied socket
    have hcalls : l.calls.erase call = [] := by simp [calls]
    rw [hcalls]
    have hfor : CallFor r call := callFor call rfl
    cases call with
    | getAsset uuid dontCache =>
      cases reply with
      | storageGet foundAsset success error =>
        obtain ⟨htype, rfl⟩ := hfor
        refine aligned_storageGet hl socket rfl htype fun asset hasset hsuccess => ?_
        subst hasset hsuccess
        exact hadm
      | _ => cases hanswers
    | storeAsset asset =>
      cases reply with
      | storageWrite success error =>
        have herror : success = false → ∀ e, error = some e →
            (textBytes e.what).length < 2 ^ 32 := by
          rintro rfl e rfl
          exact hadm
        obtain ⟨inFlight', haligned⟩ := aligned_confirm hl socket rfl hfor herror
        exact ⟨inFlight', [], by rw [onReply, serve_none]; exact haligned⟩
      | _ => cases hanswers
    | getStoredAssetIDsWithPrefix head =>
      cases reply with
      | storedAssetIds journal =>
        have hfits : Fits r (.make .ok zeroUUID (some journal)) :=
          fits_make rfl hadm (fun hcode => by cases hcode) (fun _ => .inr hfor)
        refine ⟨inFlight ++ [(r, .make .ok zeroUUID (some journal))], [], ?_⟩
        rw [onReply, serve_none]
        exact hl.responds socket rfl hfits
      | _ => cases hanswers
    | _ => cases hfor

/-! ### Runs -/

/-- The request an event issues. -/
def Event.request : Event κ → Option (PendingTransferRequest κ)
  | .issue call => call.request
  | _           => none

/-- Both ends agree on the requests issued so far. -/
def InStep (past : List (Event κ)) (l : Link κ) : Prop :=
  ∃ called inFlight current rest,
    Aligned (past.filterMap Event.request) l called inFlight current rest

lemma Admissible.proper {call : RemoteAssetService.Event κ} (h : Admissible (.issue call))
    (hr : call.request = some r) : Proper r := by
  cases call with
  | getAsset id cache k =>
    cases hr
    cases cache with
    | true => exact .get id k h
    | false => exact .getDontCache id k h
  | putAsset asset k =>
    cases hr
    exact .put asset k h.1 h.2
  | getStoredAssetIDsWithPrefix head k =>
    cases hr
    exact .storedAssetIds head k h
  | _ => cases hr

lemma InStep.step {past : List (Event κ)} {e : Event κ} (h : InStep past l)
    (hadm : Admissible e) (hstep : l.step e = some l') : InStep (past ++ [e]) l' := by
  obtain ⟨called, inFlight, current, rest, h⟩ := h
  unfold InStep
  rw [List.filterMap_append]
  cases e with
  | issue call =>
    simp only [Link.step, Option.ite_none_right_eq_some] at hstep
    obtain ⟨hsome, hstep⟩ := hstep
    obtain ⟨s, hs, rfl⟩ := Option.map_eq_some_iff.mp hstep
    obtain ⟨r, hr⟩ := Option.isSome_iff_exists.mp hsome
    obtain rfl := RemoteAssetService.issue_of_request hr hs
    have hreq : (Event.issue call).request = some r := hr
    rw [List.filterMap_cons_some hreq]
    obtain ⟨more, h'⟩ := aligned_issue h (hadm.proper hr)
    exact ⟨_, _, _, _, h'⟩
  | resume =>
    rw [List.filterMap_cons_none rfl, List.filterMap_nil, List.append_nil]
    exact ⟨_, _, _, _, aligned_resume h hstep⟩
  | transmit n =>
    rw [List.filterMap_cons_none rfl, List.filterMap_nil, List.append_nil]
    exact ⟨_, _, _, _, aligned_transmit h hstep⟩
  | written =>
    rw [List.filterMap_cons_none rfl, List.filterMap_nil, List.append_nil]
    obtain ⟨more, h'⟩ := aligned_written h hstep
    exact ⟨_, _, _, _, h'⟩
  | read =>
    rw [List.filterMap_cons_none rfl, List.filterMap_nil, List.append_nil]
    obtain ⟨called', inFlight', h'⟩ := aligned_read h hstep
    exact ⟨_, _, _, _, h'⟩
  | serverRead assetExists =>
    rw [List.filterMap_cons_none rfl, List.filterMap_nil, List.append_nil]
    obtain ⟨inFlight', current', rest', h'⟩ := aligned_serverRead h hstep
    exact ⟨_, _, _, _, h'⟩
  | serverTransmit n =>
    rw [List.filterMap_cons_none rfl, List.filterMap_nil, List.append_nil]
    exact ⟨_, _, _, _, aligned_serverTransmit h hstep⟩
  | serverWritten =>
    rw [List.filterMap_cons_none rfl, List.filterMap_nil, List.append_nil]
    exact ⟨_, _, _, _, aligned_serverWritten h hstep⟩
  | reply call reply =>
    rw [List.filterMap_cons_none rfl, List.filterMap_nil, List.append_nil]
    obtain ⟨inFlight', current', h'⟩ := aligned_reply h hadm hstep
    exact ⟨_, _, _, _, h'⟩

lemma inStep_run {es : List (Event κ)} {t : Link κ} (hadm : ∀ e ∈ es, Admissible e)
    (hrun : Machine.run step {} es = some t) : InStep es t := by
  have hinit : InStep ([] : List (Event κ)) {} := by
    refine ⟨[], [], [], [], ⟨rfl, rfl, Nat.le_refl 0, fun _ => rfl⟩, ?_, ?_, rfl, rfl, ?_, rfl, rfl,
      rfl, rfl, Nat.le_refl 0, .idle rfl rfl rfl rfl, .idle (.inr rfl) rfl⟩
    all_goals
      intro x hx
      cases hx
  exact Machine.run_invariant_past (fun _ _ _ _ h hg hs => h.step hg hs) hinit
    (Machine.guarded_of_forall hadm) hrun

/-- Requests paired with the responses to the first of them. -/
lemma zipWith_pairs (pairs : List (PendingTransferRequest κ × ServerResponseMsg))
    (others : List (PendingTransferRequest κ)) :
    List.zipWith (fun r (p : ClientRequestMsg × ServerResponseMsg) => (r, outcome p.2))
        (pairs.map Prod.fst ++ others)
        (pairs.map fun x => (RemoteAssetService.messageOf x.1, x.2)) =
      pairs.map fun x => (x.1, outcome x.2) := by
  induction pairs with
  | nil => simp
  | cons x pairs ih => simpa using ih

/-- Requests reach the server in the order in which they are issued, and are answered in that order;
the k-th callback that is run is that of the k-th request, and is given what the server answered to
this very request. -/
theorem pipelined_in_order {es : List (Event κ)} {t : Link κ} (hadm : ∀ e ∈ es, Admissible e)
    (hrun : Machine.run step {} es = some t) :
    t.session.headers <+:
        (es.filterMap Event.request).map (fun r => (RemoteAssetService.messageOf r).header) ∧
      t.session.responses.map Prod.fst <+:
        (es.filterMap Event.request).map RemoteAssetService.messageOf ∧
      t.service.invoked <+:
        List.zipWith (fun r p => (r, outcome p.2)) (es.filterMap Event.request)
          t.session.responses := by
  obtain ⟨called, inFlight, current, rest, h⟩ := inStep_run hadm hrun
  have hissued : es.filterMap Event.request =
      (called ++ inFlight).map Prod.fst ++ (current ++ (rest ++ t.service.waiting)) := by
    rw [← h.client.order, h.invoked, h.unrunSent]
    simp [Function.comp_def]
  rw [hissued, h.headers, h.responses, h.invoked]
  refine ⟨?_, ?_, ?_⟩
  · apply List.IsPrefix.map
    rw [← List.append_assoc]
    exact List.prefix_append _ _
  · have hfst : ((called ++ inFlight).map fun x => (RemoteAssetService.messageOf x.1, x.2)).map
        Prod.fst = ((called ++ inFlight).map Prod.fst).map RemoteAssetService.messageOf := by
      rw [List.map_map, List.map_map]
      rfl
    rw [hfst]
    apply List.IsPrefix.map
    exact List.prefix_append _ _
  · rw [zipWith_pairs, List.map_append]
    exact List.prefix_append _ _

/-- A get whose asset is found, and a second get that is issued from the callback of the first. -/
def getTwice : List (Event ℕ) :=
  let id : ByteString := List.replicate 32 48
  [.issue (.getAsset id true 0), .transmit 20, .transmit 17, .serverRead (fun _ => false),
    .reply (.getAsset id false) (.storageGet (some ⟨id ++ [0, 0]⟩) true none), .serverTransmit 37,
    .serverWritten, .serverTransmit 34, .serverWritten, .read, .read,
    .issue (.getAsset id false 1), .resume, .resume, .resume, .written, .transmit 37,
    .serverRead (fun _ => false), .reply (.getAsset id true) (.storageGet none false none),
    .serverTransmit 37, .serverWritten, .read]

theorem getTwice_in_order :
    ∃ t, Machine.run step {} getTwice = some t ∧ t.service.invoked.length = 2 ∧
      t.service.invoked <+:
        List.zipWith (fun r p => (r, outcome p.2)) (getTwice.filterMap Event.request)
          t.session.responses := by
  have hadm : ∀ e ∈ getTwice, Admissible e := by
    simp [getTwice, Admissible, Asset.getUUID]
  exact ⟨_, rfl, rfl, (pipelined_in_order hadm rfl).2.2⟩

end Link

end Whip
