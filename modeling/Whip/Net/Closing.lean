import Whip.Net.Callbacks

/-!
# How a remote asset service comes to its end

A service that has lost its connection calls back all its requests with a fatal error, and then
waits for the operations on its socket; the one that completes last calls the safe-kill callback.
Here this is followed through the steps of the service, for services that get their requests while
the connection is there.
-/

namespace Whip

open Pipelined Pipelined.Client

namespace RemoteAssetService

variable {κ : Type} {s s' : RemoteAssetService κ}

/-- A service that has been used with care, and will not be connected again. -/
structure Used (s : RemoteAssetService κ) : Prop where
  accounted : ∃ issued, Accounted [] issued s.toClient
  ends : Ends s.toClient
  posted : s.posted = []
  safeKill : s.hasSafeKillCallback = true
  connecting : s.connecting = false

/-- The safe-kill callback, if it is called for, is still to come. -/
structure Live (s : RemoteAssetService κ) : Prop extends Used s where
  kills : s.established = false →
    .other .checkSafeKill ∈ s.running ∨ s.reading.isSome = true ∨ s.writing.isSome = true

/-- The read that completes ends an error response. -/
def fails (s : RemoteAssetService κ) : Event κ → Bool
  | .read (some bytes) =>
    match s.reading with
    | some .header =>
      let response : ServerResponseMsg := ⟨bytes, none⟩
      match response.getResponseCode with
      | some .found | some .ok | none => false
      | _                             => response.getDataSize = 0
    | some (.errorData _) => true
    | _                   => false
  | _ => false

/-- What a step of a live service does: it calls the safe-kill callback, or nobody, or it cancels a
request, or answers one. -/
inductive Progress (s : RemoteAssetService κ) (e : Event κ) (s' : RemoteAssetService κ) : Prop
  | killed (more : s.safeKills < s'.safeKills) (closed : s.established = false)
      (invoked : s'.invoked = s.invoked) (used : Used s')
      (drained : .drainWaiting ∉ s'.running ∧ .drainSent ∉ s'.running → s.outstanding = [])
  | quiet (kills : s'.safeKills = s.safeKills) (invoked : s'.invoked = s.invoked) (live : Live s')
      (same : s.outstanding.Perm s'.outstanding)
      (closed : s.established = false → s'.established = false)
  | cancelled (req : PendingTransferRequest κ) (kills : s'.safeKills = s.safeKills)
      (invoked : s'.invoked = s.invoked ++ [(req, terminated)]) (live : Live s')
      (dropped : s.outstanding.Perm (req :: s'.outstanding)) (closed : s'.established = false)
  | answered (req : PendingTransferRequest κ) (response : RASResponse)
      (kills : s'.safeKills = s.safeKills) (invoked : s'.invoked = s.invoked ++ [(req, response)])
      (live : Live s') (dropped : s.outstanding.Perm (req :: s'.outstanding))
      (isOpen : s'.established = true) (nonfatal : response.isFatal = false)
      (failed : response.isError = true → s.fails e = true)
      (content : response.isError = false → response.message = [] ∨
        e = .read (some response.message) ∧ ∃ header, s.reading = some (.data header))

lemma Used.of_eq (h : Used s) (hclient : s'.toClient = { s.toClient with writing := s'.writing })
    (hsafeKill : s'.hasSafeKillCallback = s.hasSafeKillCallback)
    (hconnecting : s'.connecting = s.connecting) :
    Used s' ∧ s'.outstanding = s.outstanding ∧ s'.invoked = s.invoked := by
  obtain ⟨issued, haccount⟩ := h.accounted
  refine ⟨⟨⟨issued, ?_⟩, ?_, ?_, hsafeKill.trans h.safeKill, hconnecting.trans h.connecting⟩, ?_,
    ?_⟩
  · rw [hclient]
    exact haccount.of_eq rfl rfl rfl rfl rfl
  · rw [hclient]
    exact h.ends.of_eq rfl rfl rfl rfl
  · rw [hclient]
    exact h.posted
  · rw [hclient]
    rfl
  · rw [hclient]

/-- Nothing is called back while the account stays the same. -/
lemma outstanding_perm {issued : List (PendingTransferRequest κ)}
    (h : Accounted [] issued s.toClient) (h' : Accounted [] issued s'.toClient)
    (hinvoked : s'.invoked = s.invoked) : s.outstanding.Perm s'.outstanding :=
  h.outstanding_perm h' (hinvoked.trans (List.append_nil _).symm)

lemma Used.close (h : Used s) (hdrops : DropsNothing s.running) :
    Live s.close ∧ s.outstanding.Perm s.close.outstanding := by
  obtain ⟨issued, haccount⟩ := h.accounted
  have hclosed := accounted_close haccount hdrops
  refine ⟨⟨⟨⟨issued, hclosed⟩, ends_close _ _, h.posted, h.safeKill, h.connecting⟩,
    fun _ => .inl ?_⟩,
    outstanding_perm haccount hclosed rfl⟩
  simp [RemoteAssetService.close, Client.close]

/-- A request on an established connection. -/
lemma Live.issue (h : Live s) (hconn : s.established = true) (req : PendingTransferRequest κ) :
    Live (s.issue req) ∧ (s.issue req).outstanding.Perm (s.outstanding ++ [req]) := by
  obtain ⟨issued, haccount⟩ := h.accounted
  have hestablished : (s.issue req).established = true := by
    rw [RemoteAssetService.issue, established_request, hconn]
  refine ⟨⟨⟨⟨_, haccount.request hconn _ req⟩, h.ends.request hconn _ req, ?_, h.safeKill,
    h.connecting⟩, fun hno => ?_⟩, haccount.outstanding_request hconn _ req⟩
  · rw [← h.posted]
    exact posted_request hconn _ req
  · simp [hestablished] at hno

/-- The check at the end of a handler. The service `r` is the one before the handler. -/
lemma progress_checkSafeKill {r : RemoteAssetService κ} {e : Event κ} (h : Used s)
    (hkills : s.safeKills = r.safeKills) (hinvoked : s.invoked = r.invoked)
    (hperm : r.outstanding.Perm s.outstanding) (hopen : s.established = r.established) :
    Progress r e s.checkSafeKill := by
  unfold RemoteAssetService.checkSafeKill
  split_ifs with hcond
  · simp only [Bool.and_eq_true, Bool.not_eq_eq_eq_not, Bool.not_true] at hcond
    have hclosed := hcond.1.1.1
    refine .killed (by simp [hkills]) (hopen ▸ hclosed) hinvoked
      ⟨h.accounted, h.ends, h.posted, h.safeKill, h.connecting⟩ fun hnone => ?_
    obtain ⟨hwaiting, hsent⟩ := h.ends.unrun_nil hclosed hnone
    have hnil : s.outstanding = [] := by simp [outstanding, h.posted, hwaiting, hsent]
    exact (hnil ▸ hperm).eq_nil
  · refine .quiet hkills hinvoked ⟨h, fun hclosed => .inr ?_⟩ hperm (hopen ▸ ·)
    rw [hclosed, h.safeKill] at hcond
    cases hr : s.reading <;> cases hw : s.writing <;> simp [hr, hw] at hcond ⊢

/-! ### Steps of a live service -/

variable {e : Event κ}

lemma Live.progress_close (h : Live s) (hidle : s.running = []) {s₁ : RemoteAssetService κ}
    (hclient : s₁.toClient = { s.toClient with writing := s₁.writing })
    (hsafeKill : s₁.hasSafeKillCallback = s.hasSafeKillCallback)
    (hconnecting : s₁.connecting = s.connecting) (hkills : s₁.safeKills = s.safeKills) :
    Progress s e s₁.close := by
  obtain ⟨hused, hsame, hinvoked⟩ := h.toUsed.of_eq hclient hsafeKill hconnecting
  have hidle₁ : s₁.running = [] := by rw [hclient, hidle]
  obtain ⟨hlive, hperm⟩ := hused.close (dropsNothing_of_idle hidle₁)
  exact .quiet hkills hinvoked hlive (hsame ▸ hperm) fun _ => rfl

/-- A response without a fatal error is that of a connection that is there. -/
lemma Live.progress_answer (h : Live s) (hidle : s.running = []) {response : RASResponse}
    (hnonfatal : response.isFatal = false) {rest : List (Frame Own)}
    (hrest : rest = [.dropSent, .other .listen] ∨ rest = [.other .listen, .dropSent])
    (hfailed : response.isError = true → s.fails e = true)
    (hcontent : response.isError = false → response.message = [] ∨
      e = .read (some response.message) ∧ ∃ header, s.reading = some (.data header))
    (hs : { s with reading := none }.answer response rest = some s') : Progress s e s' := by
  obtain ⟨issued, haccount⟩ := h.accounted
  have hread : Accounted [] issued { s with reading := none }.toClient := haccount
  have hanswered := accounted_answer hread hidle hrest hs
  obtain ⟨c, hc, rfl⟩ := Option.map_eq_some_iff.mp hs
  unfold Client.answer at hc
  cases hsent : s.sent with
  | nil => simp [hsent] at hc
  | cons req sent =>
    simp only [hsent, hidle, List.append_nil] at hc
    cases hc
    have hopen : s.established = true := by
      by_contra hno
      rw [Bool.not_eq_true] at hno
      have hnil := (h.ends.unrun_nil hno (by simp [hidle])).2
      rw [unrunSent_of_idle hidle, hsent] at hnil
      cases hnil
    have hnone : (.drainWaiting : Frame Own) ∉ Frame.callback :: rest ∧
        .drainSent ∉ Frame.callback :: rest := by
      rcases hrest with rfl | rfl <;> simp
    refine .answered req response rfl rfl ⟨⟨⟨issued, hanswered⟩, ends_of_established hopen hnone,
      h.posted, h.safeKill, h.connecting⟩, fun hno => ?_⟩ ?_ hopen hnonfatal hfailed hcontent
    · simp [hopen] at hno
    · exact haccount.outstanding_perm hanswered rfl

lemma Live.progress_data (h : Live s) (hidle : s.running = []) {header : ServerResponseMsg}
    (hop : s.reading = some (.data header)) {data : ByteString} (he : e = .read (some data))
    (hs : { s with reading := none }.onReadResponseData data = some s') : Progress s e s' := by
  have hclose : Progress s e { s with reading := none }.close :=
    h.progress_close hidle rfl rfl rfl rfl
  simp only [onReadResponseData] at hs
  split_ifs at hs with hopen
  · split at hs
    · cases hs
    · next req rest hsent =>
      cases htype : req.type with
      | get | getDontCache =>
        simp only [htype] at hs
        split_ifs at hs
        · exact h.progress_answer hidle rfl (.inr rfl) (by simp) (fun _ => .inl rfl) hs
        · cases hs
          exact hclose
      | test =>
        simp only [htype] at hs
        cases hs
        exact hclose
      | statusGet | storedAssetIdsGet =>
        simp only [htype] at hs
        exact h.progress_answer hidle rfl (.inr rfl) (by simp) (fun _ => .inr ⟨he, header, hop⟩) hs
      | _ =>
        simp only [htype] at hs
        exact h.progress_answer hidle rfl (.inr rfl) (by simp) (fun _ => .inl rfl) hs
  · cases hs
    exact hclose

lemma Live.progress_read (h : Live s) (hidle : s.running = []) {op : ReadOp}
    (hop : s.reading = some op) {bytes : Option ByteString} (he : e = .read bytes)
    (hs : s.onRead op bytes = some s') : Progress s e s' := by
  have hclose : Progress s e { s with reading := none }.close :=
    h.progress_close hidle rfl rfl rfl rfl
  have hmore (op' : ReadOp) : Progress s e { s with reading := some op' } := by
    have hused : Used { s with reading := some op' } ∧ _ := h.toUsed.of_eq rfl rfl rfl
    exact .quiet rfl rfl ⟨hused.1, fun _ => .inr (.inl rfl)⟩ (.refl _) id
  unfold onRead at hs
  cases bytes with
  | none =>
    cases op <;> cases hs <;> exact hclose
  | some bytes =>
    cases op with
    | header =>
      simp only [onReadResponseHeader] at hs
      split at hs
      · cases hs
        exact hmore _
      · cases hs
        exact hmore _
      · cases hs
        exact hclose
      · next code hfound hok hnone =>
        split_ifs at hs with hsize
        · cases hs
          exact hmore _
        · have hfails : s.fails e = true := by
            simp only [fails, he, hop]
            exact decide_eq_true (Nat.eq_zero_of_not_pos hsize)
          exact h.progress_answer hidle rfl (.inl rfl) (fun _ => hfails) (by simp) hs
    | data response => exact h.progress_data hidle hop he hs
    | errorData response =>
      have hfails : s.fails e = true := by simp [fails, he, hop]
      exact h.progress_answer hidle rfl (.inl rfl) (fun _ => hfails) (by simp) hs

lemma Live.progress_written (h : Live s) (hidle : s.running = []) (success : Bool) :
    Progress s e (s.onAfterWriteAssetRequest success) := by
  have hused : Used { s with writing := none } ∧ _ := h.toUsed.of_eq rfl rfl rfl
  obtain ⟨issued, haccount⟩ := h.accounted
  unfold onAfterWriteAssetRequest
  cases success with
  | false => exact h.progress_close hidle rfl rfl rfl rfl
  | true =>
    simp only [if_true]
    split_ifs with hopen
    · have hwritten : Accounted [] issued { s with writing := none }.toClient :=
        haccount.of_eq rfl rfl rfl rfl rfl
      have hnext := hwritten.next hidle hopen rfl notEstablished
      have hkeep := kept_next (c := { s with writing := none }.toClient) hopen notEstablished
      rw [checkSafeKill_of_established (by exact hkeep.1.trans hopen)]
      refine .quiet rfl hkeep.2.2.2 ⟨⟨⟨issued, hnext⟩, ?_, hkeep.2.1.trans h.posted, h.safeKill,
        h.connecting⟩, fun hno => ?_⟩ (outstanding_perm haccount hnext hkeep.2.2.2) hkeep.1.trans
      · refine ends_of_established (hkeep.1.trans hopen) ?_
        simp only [hkeep.2.2.1]
        simp [hidle]
      · simp only [hkeep.1] at hno
        simp [hopen] at hno
    · exact progress_checkSafeKill hused.1 rfl rfl (.refl _) rfl

lemma Live.progress_resume (h : Live s) (hs : s.resume = some s') : Progress s e s' := by
  obtain ⟨issued, haccount⟩ := h.accounted
  have hresumed := accounted_resume haccount hs
  unfold RemoteAssetService.resume at hs
  split at hs
  · next fs hrun =>
    have hends := h.ends.pop hrun rfl
    cases hs
    dsimp only at hresumed ⊢
    split_ifs at hresumed ⊢ with hopen
    · refine .quiet rfl rfl ⟨⟨⟨issued, hresumed⟩, hends, h.posted, h.safeKill, h.connecting⟩,
        fun _ => .inr (.inl rfl)⟩ (outstanding_perm haccount hresumed rfl) id
    · refine .quiet rfl rfl ⟨⟨⟨issued, hresumed⟩, hends, h.posted, h.safeKill, h.connecting⟩,
        fun hno => ?_⟩ (outstanding_perm haccount hresumed rfl) id
      simpa [hrun] using h.kills hno
  · next fs hrun =>
    cases hs
    exact .quiet rfl rfl ⟨⟨⟨issued, hresumed⟩, h.ends.pop hrun rfl, h.posted, h.safeKill,
      h.connecting⟩, fun _ => .inr (.inl rfl)⟩ (outstanding_perm haccount hresumed rfl) id
  · next fs hrun =>
    cases hs
    have hpopped := haccount.own hrun
    exact progress_checkSafeKill ⟨⟨issued, hpopped⟩, h.ends.pop hrun rfl, h.posted, h.safeKill,
      h.connecting⟩ rfl rfl (outstanding_perm haccount hpopped rfl) rfl
  · obtain ⟨c, hc, rfl⟩ := Option.map_eq_some_iff.mp hs
    obtain ⟨⟨hopen, hposted, hwriting, hothers⟩, hcalled⟩ := resume_spec hc
    have hlive : Live { s with toClient := c } := by
      refine ⟨⟨⟨issued, hresumed⟩, h.ends.resume hc, hposted.trans h.posted, h.safeKill,
        h.connecting⟩, fun hno => ?_⟩
      refine (h.kills (hopen ▸ hno)).imp (hothers _) (Or.imp_right fun hw => ?_)
      simpa [hwriting] using hw
    rcases hcalled with hquiet | ⟨req, hinvoked, hdrains⟩
    · exact .quiet rfl hquiet hlive (outstanding_perm haccount hresumed hquiet) hopen.trans
    · exact .cancelled req rfl hinvoked hlive (haccount.outstanding_perm hresumed hinvoked)
        (hopen.trans (h.ends.closed hdrains))

/-- What the io thread does on its own account. -/
def Event.isIo : Event κ → Bool
  | .written _ | .read _ | .runPosted _ | .resume => true
  | _ => false

lemma Live.step (h : Live s) (hio : e.isIo = true) (hs : s.step e = some s') :
    Progress s e s' := by
  unfold RemoteAssetService.step at hs
  cases e with
  | resume => exact h.progress_resume hs
  | written success =>
    simp only [Option.ite_none_right_eq_some, Bool.and_eq_true, List.isEmpty_iff] at hs
    obtain ⟨⟨hidle, -⟩, heq⟩ := hs
    cases heq
    exact h.progress_written hidle success
  | read bytes =>
    dsimp only at hs
    split at hs
    · cases hs
    · next op hop =>
      simp only [Option.ite_none_right_eq_some, Bool.and_eq_true, List.isEmpty_iff] at hs
      exact h.progress_read hs.1.1 hop rfl hs.2
  | runPosted i =>
    simp [Client.runPosted, h.posted] at hs
  | _ => cases hio

/-! ### A connection that stays up -/

/-- The arguments of the callback of a request that is answered with `data`. -/
def responseOf (req : PendingTransferRequest κ) (data : ByteString) : RASResponse :=
  match req.type with
  | .get | .getDontCache            => ⟨some ⟨data⟩, false, false, []⟩
  | .statusGet | .storedAssetIdsGet => ⟨none, false, false, data⟩
  | _                               => ⟨none, false, false, []⟩

/-- Nothing goes wrong on the connection: what is written gets through, and what is read answers the
request in front, an asset with the asset. -/
def Delivers (s : RemoteAssetService κ) : Event κ → Prop
  | .written success => success = true
  | .read none => False
  | .read (some bytes) =>
    match s.reading with
    | none => True
    | some .header =>
      let response : ServerResponseMsg := ⟨bytes, none⟩
      response.getResponseCode = some .found ∨ response.getResponseCode = some .ok
    | some (.data _) => ∀ req ∈ s.sent.head?, req.type ≠ .test ∧
        (req.type = .get ∨ req.type = .getDontCache → (⟨bytes⟩ : Asset).getUUID = req.id)
    | some (.errorData _) => False
  | _ => True

lemma delivers_data (hopen : s.established = true) {data : ByteString}
    (hdata : ∀ req ∈ s.sent.head?, req.type ≠ .test ∧
      (req.type = .get ∨ req.type = .getDontCache → (⟨data⟩ : Asset).getUUID = req.id))
    (hs : s.onReadResponseData data = some s') : s'.established = true ∧
      ∃ req, s.sent.head? = some req ∧ s'.invoked = s.invoked ++ [(req, responseOf req data)] := by
  have hanswer {req : PendingTransferRequest κ} (hreq : s.sent.head? = some req)
      {rest : List (Frame Own)} (hs : s.answer (responseOf req data) rest = some s') :
      s'.established = true ∧
        ∃ req, s.sent.head? = some req ∧
          s'.invoked = s.invoked ++ [(req, responseOf req data)] := by
    obtain ⟨c, hc, rfl⟩ := Option.map_eq_some_iff.mp hs
    unfold Client.answer at hc
    obtain ⟨sent, hsent⟩ := List.head?_eq_some_iff.mp hreq
    rw [hsent] at hc
    cases hc
    exact ⟨hopen, req, hreq, rfl⟩
  simp only [onReadResponseData, hopen, if_true] at hs
  split at hs
  · cases hs
  · next req rest hsent =>
    have hreq : s.sent.head? = some req := by simp [hsent]
    obtain ⟨htest, hget⟩ := hdata req hreq
    cases htype : req.type with
    | get | getDontCache =>
      rw [htype] at hs hget
      simp only [hget (by simp), if_true] at hs
      exact hanswer hreq (by rwa [responseOf, htype])
    | test => exact absurd htype htest
    | _ =>
      rw [htype] at hs
      exact hanswer hreq (by rwa [responseOf, htype])

/-- The connection stays up, and at most one request is answered. -/
lemma Live.delivers (h : Live s) (hopen : s.established = true) (hio : e.isIo = true)
    (hdelivers : s.Delivers e) (hs : s.step e = some s') : s'.established = true ∧
      (s'.invoked = s.invoked ∨ ∃ req data header, e = .read (some data) ∧
        s.reading = some (.data header) ∧ s.sent.head? = some req ∧
        s'.invoked = s.invoked ++ [(req, responseOf req data)]) := by
  unfold RemoteAssetService.step at hs
  cases e with
  | resume =>
    dsimp only at hs
    unfold RemoteAssetService.resume at hs
    split at hs
    · cases hs
      rw [if_pos (by exact hopen)]
      exact ⟨hopen, .inl rfl⟩
    · cases hs
      exact ⟨hopen, .inl rfl⟩
    · cases hs
      rw [checkSafeKill_of_established (by exact hopen)]
      exact ⟨hopen, .inl rfl⟩
    · obtain ⟨c, hc, rfl⟩ := Option.map_eq_some_iff.mp hs
      obtain ⟨⟨hsame, -⟩, hcalled⟩ := resume_spec hc
      refine ⟨hsame.trans hopen, .inl (hcalled.resolve_right ?_)⟩
      rintro ⟨r, -, hdrains⟩
      simp [h.ends.closed hdrains] at hopen
  | written success =>
    obtain rfl : success = true := hdelivers
    simp only [Option.ite_none_right_eq_some, Option.some.injEq] at hs
    obtain ⟨-, rfl⟩ := hs
    simp only [onAfterWriteAssetRequest, if_true]
    obtain ⟨hsame, -, -, hinvoked⟩ :=
      kept_next (c := { s with writing := none }.toClient) hopen notEstablished
    rw [if_pos (by exact hopen), checkSafeKill_of_established (by exact hsame.trans hopen)]
    exact ⟨hsame.trans hopen, .inl hinvoked⟩
  | read bytes =>
    dsimp only at hs
    split at hs
    · cases hs
    · next op hop =>
      obtain ⟨-, hs⟩ := Option.ite_none_right_eq_some.mp hs
      cases bytes with
      | none => exact hdelivers.elim
      | some bytes =>
        simp only [Delivers, hop] at hdelivers
        cases op with
        | header =>
          simp only [onRead, onReadResponseHeader] at hs
          rcases hdelivers with hcode | hcode <;> simp only [hcode, Option.some.injEq] at hs <;>
            subst hs <;> exact ⟨hopen, .inl rfl⟩
        | data header =>
          obtain ⟨hopen', req, hreq, hinvoked⟩ :=
            delivers_data (s := { s with reading := none }) hopen hdelivers hs
          exact ⟨hopen', .inr ⟨req, bytes, header, rfl, hop, hreq, hinvoked⟩⟩
        | errorData header => exact hdelivers.elim
  | runPosted i => simp [Client.runPosted, h.posted] at hs
  | _ => cases hio

lemma not_fails (hdelivers : s.Delivers e) : s.fails e = false := by
  cases e with
  | read bytes =>
    cases bytes with
    | none => rfl
    | some bytes =>
      cases hop : s.reading with
      | none => simp [fails, hop]
      | some op =>
        simp only [Delivers, hop] at hdelivers
        cases op with
        | header => rcases hdelivers with hcode | hcode <;> simp [fails, hop, hcode]
        | data header => simp [fails, hop]
        | errorData header => exact hdelivers.elim
  | _ => rfl

/-- What is read answers a request that is unanswered. -/
lemma front_of_data (hopen : s.established = true) {data : ByteString} {header : ServerResponseMsg}
    (hop : s.reading = some (.data header)) (hs : s.step (.read (some data)) = some s') :
    ∃ req ∈ s.outstanding, s.sent.head? = some req := by
  simp only [RemoteAssetService.step, hop, Option.ite_none_right_eq_some, Bool.and_eq_true,
    List.isEmpty_iff] at hs
  obtain ⟨⟨hidle, -⟩, hs⟩ := hs
  cases hsent : s.sent with
  | nil => simp [onRead, onReadResponseData, hopen, hsent] at hs
  | cons req rest =>
    refine ⟨req, ?_, rfl⟩
    simp [outstanding, unrunSent_of_idle hidle, hsent]

/-! ### Before the connection -/

/-- A service that has not been connected yet; a connect callback may be running. -/
structure Fresh (s : RemoteAssetService κ) : Prop where
  closed : s.established = false
  idle : s.reading = none ∧ s.writing = none
  queues : s.waiting = [] ∧ s.sent = [] ∧ s.posted = []
  invoked : s.invoked = []
  running : s.running <:+ [.callback, .other .listenIfConnected]
  safeKill : s.hasSafeKillCallback = true

lemma Fresh.outstanding (h : Fresh s) : s.outstanding = [] := by
  simp [Client.outstanding, unrunSent, unrunWaiting, h.queues]

lemma fresh_new : Fresh ({ hasSafeKillCallback := true } : RemoteAssetService κ) :=
  ⟨rfl, ⟨rfl, rfl⟩, ⟨rfl, rfl, rfl⟩, rfl, List.nil_suffix, rfl⟩

/-- Until it is connected, a service only comes back from the connect callback. -/
lemma Fresh.step (h : Fresh s) (hio : e.isIo = true) (hs : s.step e = some s') :
    Fresh s' ∧ s'.connecting = s.connecting ∧ s'.safeKills = s.safeKills := by
  obtain ⟨hclosed, ⟨hreading, hwriting⟩, hqueues, hinvoked, hrunning, hsafeKill⟩ := h
  unfold RemoteAssetService.step at hs
  cases e with
  | resume =>
    have hcases : s.running = [.callback, .other .listenIfConnected] ∨
        s.running = [.other .listenIfConnected] ∨ s.running = [] := by
      simpa [List.suffix_cons_iff] using hrunning
    rcases hcases with hrun | hrun | hrun
    · simp only [RemoteAssetService.resume, hrun, Client.resume, Option.map_some,
        Option.some.injEq] at hs
      subst hs
      exact ⟨⟨hclosed, ⟨hreading, hwriting⟩, hqueues, hinvoked, by simp, hsafeKill⟩, rfl, rfl⟩
    · simp only [RemoteAssetService.resume, hrun, hclosed, Bool.false_eq_true, if_false,
        Option.some.injEq] at hs
      subst hs
      exact ⟨⟨rfl, ⟨hreading, hwriting⟩, hqueues, hinvoked, List.nil_suffix, hsafeKill⟩, rfl, rfl⟩
    · simp [RemoteAssetService.resume, hrun, Client.resume] at hs
  | written success => simp [hwriting] at hs
  | read bytes => simp [hreading] at hs
  | runPosted i => simp [Client.runPosted, hqueues.2.2] at hs
  | _ => cases hio

/-- The result of connecting. -/
lemma Fresh.connected (h : Fresh s) :
    Fresh (s.onConnectionResult false) ∧ Live (s.onConnectionResult true) ∧
      (s.onConnectionResult true).outstanding = [] := by
  obtain ⟨hclosed, hidle, ⟨hwaiting, hsent, hposted⟩, hinvoked, hrunning, hsafeKill⟩ := h
  have hnil : (s.onConnectionResult true).outstanding = [] := by
    simp [Client.outstanding, unrunSent, unrunWaiting, onConnectionResult, hwaiting, hsent, hposted]
  refine ⟨⟨rfl, hidle, ⟨hwaiting, hsent, hposted⟩, hinvoked, List.suffix_rfl, hsafeKill⟩,
    ⟨⟨⟨[], ?_⟩, ends_of_established rfl ?_, hposted, hsafeKill, rfl⟩,
      fun h => by cases h⟩, hnil⟩
  · rw [accounted_iff (by simp [DropsNothing, onConnectionResult])]
    simp [onConnectionResult, hwaiting, hsent, hposted, hinvoked]
  · simp [onConnectionResult]

end RemoteAssetService

end Whip
