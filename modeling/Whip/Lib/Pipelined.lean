import Mathlib.Data.List.Perm.Subperm

/-!
# Pipelined requests and their callbacks

A client sends requests of a type `ρ` over one connection without waiting for the answers. At most
one request is being written, later ones wait; written requests wait in order for their answers.
Answering a request means calling it back with a result of type `α`: the callback of the oldest sent
request is run, and only when it returns is the request dropped. Closing the connection runs the
callbacks of all requests in the same way, the waiting ones first.

A callback is foreign code, which may issue further requests, so what remains to be done when it
returns is kept as a stack of `Frame`s; `ι` is the type of the client's own frames.
-/

namespace Pipelined

/-- What is running, and what is to be done when it returns. -/
inductive Frame (ι : Type)
  | callback
  | dropWaiting
  | dropSent
  | drainWaiting
  | drainSent
  | other (frame : ι)
deriving DecidableEq

namespace Frame

variable {ι : Type}

def isDropWaiting : Frame ι → Bool
  | dropWaiting => true
  | _           => false

def isDropSent : Frame ι → Bool
  | dropSent => true
  | _        => false

/-- The frames that need the queues as they left them. -/
def isQueueing : Frame ι → Bool
  | dropWaiting | dropSent | drainWaiting | drainSent => true
  | _ => false

@[simp] lemma callback_drops :
    (callback : Frame ι).isDropWaiting = false ∧ (callback : Frame ι).isDropSent = false :=
  ⟨rfl, rfl⟩

@[simp] lemma dropWaiting_drops :
    (dropWaiting : Frame ι).isDropWaiting = true ∧ (dropWaiting : Frame ι).isDropSent = false :=
  ⟨rfl, rfl⟩

@[simp] lemma dropSent_drops :
    (dropSent : Frame ι).isDropWaiting = false ∧ (dropSent : Frame ι).isDropSent = true :=
  ⟨rfl, rfl⟩

@[simp] lemma drainWaiting_drops :
    (drainWaiting : Frame ι).isDropWaiting = false ∧ (drainWaiting : Frame ι).isDropSent = false :=
  ⟨rfl, rfl⟩

@[simp] lemma drainSent_drops :
    (drainSent : Frame ι).isDropWaiting = false ∧ (drainSent : Frame ι).isDropSent = false :=
  ⟨rfl, rfl⟩

@[simp] lemma other_drops (i : ι) :
    (other i).isDropWaiting = false ∧ (other i).isDropSent = false := ⟨rfl, rfl⟩

end Frame

structure Client (ρ α ι : Type) where
  established : Bool := false
  writing : Option ρ := none
  waiting : List ρ := []
  sent : List ρ := []
  posted : List (ρ × α) := []
  running : List (Frame ι) := []
  invoked : List (ρ × α) := []

namespace Client

variable {ρ α ι : Type}

/-- Foreign code may run: a callback, or whatever the event loop runs next. -/
def foreign (c : Client ρ α ι) : Bool :=
  match c.running with
  | []             => true
  | .callback :: _ => true
  | _              => false

/-- Start writing a request, and remember it until its answer comes. -/
def send (c : Client ρ α ι) (r : ρ) : Client ρ α ι :=
  { c with writing := some r, sent := c.sent ++ [r] }

/-- Send a request, or let it wait for the one being written. Without a connection the callback is
posted to the event loop, and then the same is done. -/
def request (refused : α) (c : Client ρ α ι) (r : ρ) : Client ρ α ι :=
  let c := if !c.established then { c with posted := c.posted ++ [(r, refused)] } else c
  if c.writing.isNone then c.send r else { c with waiting := c.waiting ++ [r] }

/-- Issue the oldest waiting request again, and drop it. -/
def next (refused : α) (c : Client ρ α ι) : Client ρ α ι :=
  match c.waiting with
  | []     => c
  | r :: _ =>
    let c := c.request refused r
    { c with waiting := c.waiting.tail }

/-- Run the callback of the oldest sent request, and then `rest`. -/
def answer (a : α) (rest : List (Frame ι)) (c : Client ρ α ι) : Option (Client ρ α ι) :=
  match c.sent with
  | []     => none
  | r :: _ =>
    some { c with invoked := c.invoked ++ [(r, a)], running := .callback :: rest ++ c.running }

/-- Run the callbacks of all requests, and then `rest`. -/
def close (rest : List (Frame ι)) (c : Client ρ α ι) : Client ρ α ι :=
  { c with established := false, running := .drainWaiting :: .drainSent :: rest ++ c.running }

/-- The event loop runs a posted callback. -/
def runPosted (i : ℕ) (c : Client ρ α ι) : Option (Client ρ α ι) :=
  match c.posted[i]? with
  | none   => none
  | some p =>
    some { c with
      posted := c.posted.eraseIdx i
      invoked := c.invoked ++ [p]
      running := .callback :: c.running }

/-- A callback returns, or the next frame that is not the client's own is done. -/
def resume (cancelled : α) (c : Client ρ α ι) : Option (Client ρ α ι) :=
  match c.running with
  | .callback :: fs    => some { c with running := fs }
  | .dropWaiting :: fs => some { c with waiting := c.waiting.tail, running := fs }
  | .dropSent :: fs    => some { c with sent := c.sent.tail, running := fs }
  | .drainWaiting :: fs =>
    match c.waiting with
    | []     => some { c with running := fs }
    | r :: _ =>
      some { c with
        invoked := c.invoked ++ [(r, cancelled)]
        running := .callback :: .dropWaiting :: .drainWaiting :: fs }
  | .drainSent :: fs =>
    match c.sent with
    | []     => some { c with running := fs }
    | r :: _ =>
      some { c with
        invoked := c.invoked ++ [(r, cancelled)]
        running := .callback :: .dropSent :: .drainSent :: fs }
  | _ => none

/-! ### Every callback is accounted for -/

/-- The frames drop nothing: none of them is below the callback of a queued request. -/
def DropsNothing (fs : List (Frame ι)) : Prop :=
  ∀ g ∈ fs, g.isDropWaiting = false ∧ g.isDropSent = false

instance (fs : List (Frame ι)) : Decidable (DropsNothing fs) :=
  inferInstanceAs (Decidable (∀ g ∈ fs, _))

/-- Requests whose callback runs are dropped when it returns; what the frames further down do to the
queues comes after that. -/
def Tame : List (Frame ι) → Prop
  | []      => True
  | f :: fs => (f.isQueueing = true → DropsNothing fs) ∧ Tame fs

/-- The waiting requests whose callback has not been run. -/
def unrunWaiting (c : Client ρ α ι) : List ρ := c.waiting.drop (c.running.countP (·.isDropWaiting))

def unrunSent (c : Client ρ α ι) : List ρ := c.sent.drop (c.running.countP (·.isDropSent))

/-- The requests issued so far are those that have been called back, those whose callback is posted
and those in the queues whose callback has not been run. The callbacks in `past` have been run. -/
structure Accounted (past : List (ρ × α)) (issued : List ρ) (c : Client ρ α ι) : Prop where
  ran : past <+: c.invoked
  perm : (c.invoked.map Prod.fst ++ (c.posted.map Prod.fst ++ (c.unrunSent ++ c.unrunWaiting))).Perm
    issued
  waiting_le : c.running.countP (·.isDropWaiting) ≤ c.waiting.length
  sent_le : c.running.countP (·.isDropSent) ≤ c.sent.length
  tame : Tame c.running

variable {past : List (ρ × α)} {issued : List ρ} {c c' : Client ρ α ι}

/-- No callback is run more often than it was passed in. -/
lemma Accounted.invoked_subperm (h : Accounted past issued c)
    {β : Type*} (f : ρ → β) : (c.invoked.map fun p => f p.1).Subperm (issued.map f) := by
  have hperm := h.perm.map f
  rw [List.map_append, List.map_map] at hperm
  exact (List.sublist_append_left _ _).subperm.trans hperm.subperm

/-- The requests whose callback is still to be run. -/
def outstanding (c : Client ρ α ι) : List ρ :=
  c.posted.map Prod.fst ++ (c.unrunSent ++ c.unrunWaiting)

/-- The account of a client as it stands. -/
lemma Accounted.self (h : Accounted past issued c) :
    Accounted c.invoked (c.invoked.map Prod.fst ++ c.outstanding) c :=
  ⟨List.prefix_rfl, .refl _, h.waiting_le, h.sent_le, h.tame⟩

/-- What is called back is outstanding no longer. -/
lemma Accounted.outstanding_perm (h : Accounted past issued c)
    (h' : Accounted past issued c') {called : List (ρ × α)}
    (hcalled : c'.invoked = c.invoked ++ called) :
    c.outstanding.Perm (called.map Prod.fst ++ c'.outstanding) := by
  have hperm := h.perm.trans h'.perm.symm
  rw [hcalled, List.map_append, List.append_assoc] at hperm
  exact (List.perm_append_left_iff _).mp hperm

/-! ### Steps keep the account -/

lemma request_of_idle (hconn : c.established = true) (hw : c.writing = none)
    (refused : α) (r : ρ) : c.request refused r = c.send r := by
  simp [request, hconn, hw]

lemma request_of_writing (hconn : c.established = true) {q : ρ}
    (hw : c.writing = some q) (refused : α) (r : ρ) :
    c.request refused r = { c with waiting := c.waiting ++ [r] } := by
  simp [request, hconn, hw]

/-- A request that is issued on a connection. -/
lemma Accounted.request (h : Accounted past issued c)
    (hconn : c.established = true) (refused : α) (r : ρ) :
    Accounted past (issued ++ [r]) (c.request refused r) := by
  have hperm (S W : List ρ) (hSW : (S ++ W).Perm (c.unrunSent ++ c.unrunWaiting ++ [r])) :
      (c.invoked.map Prod.fst ++ (c.posted.map Prod.fst ++ (S ++ W))).Perm (issued ++ [r]) := by
    have hall := (hSW.append_left (c.posted.map Prod.fst)).append_left (c.invoked.map Prod.fst)
    refine hall.trans ?_
    simpa [List.append_assoc] using h.perm.append_right [r]
  cases hw : c.writing with
  | none =>
    rw [request_of_idle hconn hw]
    have hsent : (c.send r).unrunSent = c.unrunSent ++ [r] :=
      List.drop_append_of_le_length h.sent_le
    refine ⟨h.ran, hperm _ c.unrunWaiting ?_, h.waiting_le, ?_, h.tame⟩
    · rw [hsent, List.append_assoc, List.append_assoc]
      exact List.perm_append_comm.append_left _
    · simpa [send] using Nat.le_succ_of_le h.sent_le
  | some q =>
    rw [request_of_writing hconn hw]
    have hwaiting : unrunWaiting { c with waiting := c.waiting ++ [r] } = c.unrunWaiting ++ [r] :=
      List.drop_append_of_le_length h.waiting_le
    refine ⟨h.ran, hperm c.unrunSent _ ?_, ?_, h.sent_le, h.tame⟩
    · rw [hwaiting, List.append_assoc]
    · simpa using Nat.le_succ_of_le h.waiting_le

@[simp] lemma invoked_request (refused : α) (c : Client ρ α ι) (r : ρ) :
    (c.request refused r).invoked = c.invoked := by
  simp only [request, send]
  split_ifs <;> rfl

@[simp] lemma running_request (refused : α) (c : Client ρ α ι) (r : ρ) :
    (c.request refused r).running = c.running := by
  simp only [request, send]
  split_ifs <;> rfl

@[simp] lemma established_request (refused : α) (c : Client ρ α ι) (r : ρ) :
    (c.request refused r).established = c.established := by
  simp only [request, send]
  split_ifs <;> rfl

lemma established_next (refused : α) (c : Client ρ α ι) :
    (c.next refused).established = c.established := by
  unfold next
  split
  · rfl
  · exact established_request refused c _

lemma established_answer {a : α} {rest : List (Frame ι)} (h : c.answer a rest = some c') :
    c'.established = c.established := by
  unfold answer at h
  split at h <;> cases h
  rfl

lemma established_runPosted {i : ℕ} (h : c.runPosted i = some c') :
    c'.established = c.established := by
  unfold runPosted at h
  split at h <;> cases h
  rfl

lemma established_resume {cancelled : α} (h : c.resume cancelled = some c') :
    c'.established = c.established := by
  unfold resume at h
  split at h
  · cases h; rfl
  · cases h; rfl
  · cases h; rfl
  · split at h <;> cases h <;> rfl
  · split at h <;> cases h <;> rfl
  · cases h

lemma posted_request (hconn : c.established = true) (refused : α) (r : ρ) :
    (c.request refused r).posted = c.posted := by
  cases hw : c.writing with
  | none => rw [request_of_idle hconn hw, send]
  | some q => rw [request_of_writing hconn hw]

lemma Accounted.outstanding_request (h : Accounted past issued c) (hconn : c.established = true)
    (refused : α) (r : ρ) : (c.request refused r).outstanding.Perm (c.outstanding ++ [r]) := by
  have hperm := (h.self.request hconn refused r).perm
  rw [invoked_request, List.append_assoc, List.perm_append_left_iff] at hperm
  exact hperm

lemma DropsNothing.countP {fs : List (Frame ι)} (h : DropsNothing fs) :
    fs.countP (·.isDropWaiting) = 0 ∧ fs.countP (·.isDropSent) = 0 := by
  constructor
  · exact List.countP_eq_zero.mpr fun g hg => by simp [(h g hg).1]
  · exact List.countP_eq_zero.mpr fun g hg => by simp [(h g hg).2]

lemma DropsNothing.tame {fs : List (Frame ι)} (h : DropsNothing fs) : Tame fs := by
  induction fs with
  | nil => trivial
  | cons f fs ih =>
    have hfs : DropsNothing fs := fun g hg => h g (List.mem_cons_of_mem f hg)
    exact ⟨fun _ => hfs, ih hfs⟩

lemma accounted_iff (hc : DropsNothing c.running) :
    Accounted past issued c ↔ past <+: c.invoked ∧
      (c.invoked.map Prod.fst ++ (c.posted.map Prod.fst ++ (c.sent ++ c.waiting))).Perm issued := by
  obtain ⟨hW, hS⟩ := hc.countP
  constructor
  · intro h
    exact ⟨h.ran, by simpa [unrunSent, unrunWaiting, hW, hS] using h.perm⟩
  · rintro ⟨hran, hperm⟩
    exact ⟨hran, by simpa [unrunSent, unrunWaiting, hW, hS] using hperm, by simp [hW], by simp [hS],
      hc.tame⟩

/-- Between two events nothing is running. -/
lemma dropsNothing_of_idle (hidle : c.running = []) :
    DropsNothing c.running := by
  simp [DropsNothing, hidle]

/-- The oldest waiting request is sent. -/
lemma Accounted.next (h : Accounted past issued c)
    (hidle : c.running = []) (hconn : c.established = true) (hw : c.writing = none) (refused : α) :
    Accounted past issued (c.next refused) := by
  unfold Client.next
  cases hwaiting : c.waiting with
  | nil => exact h
  | cons r rest =>
    rw [accounted_iff (dropsNothing_of_idle hidle), hwaiting] at h
    dsimp only
    rw [request_of_idle hconn hw, accounted_iff (by exact dropsNothing_of_idle hidle)]
    simpa [send, hwaiting] using h

/-- The oldest sent request is answered; it is dropped later on. -/
lemma Accounted.answer (h : Accounted past issued c)
    (hidle : c.running = []) {a : α} {rest : List (Frame ι)} (hc : c.answer a rest = some c')
    (hdrop : rest.countP (·.isDropSent) = 1) (hkeep : rest.countP (·.isDropWaiting) = 0)
    (htame : Tame rest) : Accounted past issued c' := by
  obtain ⟨hran, h⟩ := (accounted_iff (dropsNothing_of_idle hidle)).mp h
  unfold Client.answer at hc
  cases hsent : c.sent with
  | nil =>
    rw [hsent] at hc
    cases hc
  | cons r sent =>
    rw [hsent] at hc h
    cases hc
    have hcount : (Frame.callback :: rest ++ c.running).countP (·.isDropSent) = 1 := by
      rw [hidle, List.append_nil, List.countP_cons_of_neg (by simp [Frame.isDropSent]), hdrop]
    have hcount' : (Frame.callback :: rest ++ c.running).countP (·.isDropWaiting) = 0 := by
      rw [hidle, List.append_nil, List.countP_cons_of_neg (by simp [Frame.isDropWaiting]), hkeep]
    refine ⟨hran.trans (List.prefix_append _ _), ?_, ?_, ?_, ?_⟩
    · simp only [unrunSent, unrunWaiting, hcount, hcount', List.drop_succ_cons, List.drop_zero,
        List.map_append, List.map_cons, List.map_nil]
      refine List.Perm.trans ?_ h
      rw [List.append_assoc, List.singleton_append, List.cons_append]
      exact List.perm_middle.symm.append_left _
    · rw [hcount']
      exact Nat.zero_le _
    · rw [hcount]
      simp
    · simpa [hidle, Tame, Frame.isQueueing] using htame

/-- The account is about the queues and the frames only. -/
lemma Accounted.of_eq (h : Accounted past issued c)
    (hinvoked : c'.invoked = c.invoked) (hposted : c'.posted = c.posted)
    (hwaiting : c'.waiting = c.waiting) (hsent : c'.sent = c.sent)
    (hrunning : c'.running = c.running) : Accounted past issued c' := by
  refine ⟨hinvoked ▸ h.ran, ?_, ?_, ?_, ?_⟩
  · rw [unrunSent, unrunWaiting, hinvoked, hposted, hwaiting, hsent, hrunning]
    exact h.perm
  · rw [hwaiting, hrunning]
    exact h.waiting_le
  · rw [hsent, hrunning]
    exact h.sent_le
  · rw [hrunning]
    exact h.tame

/-- Frames that drop nothing take the place of frames that drop nothing. -/
lemma Accounted.start (h : Accounted past issued c)
    (hc : DropsNothing c.running) {fs : List (Frame ι)} (hfs : DropsNothing fs) :
    Accounted past issued { c with running := fs } := by
  rw [accounted_iff hc] at h
  exact (accounted_iff hfs).mpr h

/-- A close that is not called from the callback of a queued request. -/
lemma Accounted.close (h : Accounted past issued c)
    (hc : DropsNothing c.running) {rest : List (Frame ι)} (hrest : DropsNothing rest) :
    Accounted past issued (c.close rest) := by
  have hfs : DropsNothing (.drainWaiting :: .drainSent :: rest ++ c.running) := by
    intro g hg
    rcases List.mem_append.mp hg with hg | hg
    · rcases List.mem_cons.mp hg with rfl | hg
      · exact ⟨rfl, rfl⟩
      · rcases List.mem_cons.mp hg with rfl | hg
        · exact ⟨rfl, rfl⟩
        · exact hrest g hg
    · exact hc g hg
  have hstart := h.start hc hfs
  exact ⟨h.ran, hstart.perm, hstart.waiting_le, hstart.sent_le, hstart.tame⟩

/-- One of the client's own frames is done. -/
lemma Accounted.own (h : Accounted past issued c) {i : ι}
    {fs : List (Frame ι)} (hrun : c.running = .other i :: fs) :
    Accounted past issued { c with running := fs } := by
  obtain ⟨hran, hperm, hwaiting, hsent, htame⟩ := h
  unfold unrunSent unrunWaiting at hperm
  rw [hrun] at hperm hwaiting hsent htame
  exact ⟨hran, by simpa [unrunSent, unrunWaiting] using hperm, by simpa using hwaiting,
    by simpa using hsent, htame.2⟩

lemma Accounted.runPosted (h : Accounted past issued c)
    {i : ℕ} (hc : c.runPosted i = some c') : Accounted past issued c' := by
  unfold Client.runPosted at hc
  cases hi : c.posted[i]? with
  | none =>
    rw [hi] at hc
    cases hc
  | some p =>
    rw [hi] at hc
    cases hc
    obtain ⟨hlt, rfl⟩ := List.getElem?_eq_some_iff.mp hi
    have hposted := (List.getElem_cons_eraseIdx_perm hlt).map Prod.fst
    refine ⟨h.ran.trans (List.prefix_append _ _), ?_, h.waiting_le, h.sent_le,
      ⟨by simp [Frame.isQueueing], h.tame⟩⟩
    refine List.Perm.trans ?_ h.perm
    rw [List.map_append, List.append_assoc]
    exact (hposted.append_right _).append_left _

/-- The frames of a drain whose next callback runs. -/
lemma Tame.push {f g : Frame ι} {fs : List (Frame ι)} (h : Tame (f :: fs))
    (hf : f.isQueueing = true) (hnot : f.isDropWaiting = false ∧ f.isDropSent = false) :
    Tame (.callback :: g :: f :: fs) := by
  refine ⟨by simp [Frame.isQueueing], fun _ g' hg' => ?_, h⟩
  rcases List.mem_cons.mp hg' with rfl | hg'
  · exact hnot
  · exact h.1 hf g' hg'

lemma Accounted.resume (h : Accounted past issued c)
    {cancelled : α} (hc : c.resume cancelled = some c') : Accounted past issued c' := by
  obtain ⟨hran, hperm, hwaiting, hsent, htame⟩ := h
  unfold Client.resume at hc
  unfold unrunSent unrunWaiting at hperm
  cases hrun : c.running with
  | nil => simp [hrun] at hc
  | cons f fs =>
    rw [hrun] at hc hperm hwaiting hsent htame
    cases f with
    | other i => cases hc
    | callback =>
      cases hc
      exact ⟨hran, by simpa [unrunSent, unrunWaiting] using hperm, by simpa using hwaiting,
        by simpa using hsent, htame.2⟩
    | dropWaiting =>
      cases hc
      obtain ⟨hW, hS⟩ := (htame.1 rfl).countP
      exact ⟨hran, by simpa [unrunSent, unrunWaiting, hW, hS] using hperm, by simp [hW],
        by simp [hS],
        htame.2⟩
    | dropSent =>
      cases hc
      obtain ⟨hW, hS⟩ := (htame.1 rfl).countP
      exact ⟨hran, by simpa [unrunSent, unrunWaiting, hW, hS] using hperm, by simp [hW],
        by simp [hS],
        htame.2⟩
    | drainWaiting =>
      obtain ⟨hW, hS⟩ := (htame.1 rfl).countP
      cases hqueue : c.waiting with
      | nil =>
        rw [hqueue] at hc hperm
        cases hc
        exact ⟨hran, by simpa [unrunSent, unrunWaiting, hW, hS] using hperm, by simp [hW],
          by simp [hS],
          htame.2⟩
      | cons r rest =>
        rw [hqueue] at hc hperm
        cases hc
        refine ⟨hran.trans (List.prefix_append _ _), ?_, by simp [hW], by simp [hS],
          htame.push rfl ⟨rfl, rfl⟩⟩
        -- the oldest waiting request has moved to the ones called back
        have hmove : (r :: (c.posted.map Prod.fst ++ c.sent ++ rest)).Perm
            (c.posted.map Prod.fst ++ c.sent ++ r :: rest) := List.perm_middle.symm
        have hall := hmove.append_left (c.invoked.map Prod.fst)
        refine List.Perm.trans ?_ (hall.trans ?_)
        · simp [unrunSent, unrunWaiting, hW, hS]
        · simpa [hW, hS] using hperm
    | drainSent =>
      obtain ⟨hW, hS⟩ := (htame.1 rfl).countP
      cases hqueue : c.sent with
      | nil =>
        rw [hqueue] at hc hperm
        cases hc
        exact ⟨hran, by simpa [unrunSent, unrunWaiting, hW, hS] using hperm, by simp [hW],
          by simp [hS],
          htame.2⟩
      | cons r rest =>
        rw [hqueue] at hc hperm
        cases hc
        refine ⟨hran.trans (List.prefix_append _ _), ?_, by simp [hW], by simp [hS],
          htame.push rfl ⟨rfl, rfl⟩⟩
        have hmove : (r :: (c.posted.map Prod.fst ++ (rest ++ c.waiting))).Perm
            (c.posted.map Prod.fst ++ r :: (rest ++ c.waiting)) := List.perm_middle.symm
        have hall := hmove.append_left (c.invoked.map Prod.fst)
        refine List.Perm.trans ?_ (hall.trans ?_)
        · simp [unrunSent, unrunWaiting, hW, hS]
        · simpa [hW, hS] using hperm

/-! ### Requests are answered in the order in which they are issued -/

/-- On a connection that stays established, the requests issued are, in order, those called back,
those sent and those waiting; and nothing waits without a reason. -/
structure InOrder (issued : List ρ) (c : Client ρ α ι) : Prop where
  established : c.established = true
  order : c.invoked.map Prod.fst ++ (c.unrunSent ++ c.waiting) = issued
  sent_le : c.running.countP (·.isDropSent) ≤ c.sent.length
  busy : c.writing = none → c.waiting = []

lemma unrunSent_of_idle (hidle : c.running = []) : c.unrunSent = c.sent := by
  simp [unrunSent, hidle]

lemma InOrder.unrunSent_send (h : InOrder issued c) (r : ρ) :
    (c.send r).unrunSent = c.unrunSent ++ [r] :=
  List.drop_append_of_le_length h.sent_le

lemma InOrder.request (h : InOrder issued c) (refused : α)
    (r : ρ) : InOrder (issued ++ [r]) (c.request refused r) := by
  cases hw : c.writing with
  | none =>
    rw [request_of_idle h.established hw]
    refine ⟨h.established, ?_, ?_, fun hnone => by cases hnone⟩
    · rw [h.unrunSent_send, ← h.order]
      simp [send, h.busy hw]
    · simpa [send] using Nat.le_succ_of_le h.sent_le
  | some q =>
    rw [request_of_writing h.established hw]
    refine ⟨h.established, ?_, h.sent_le, fun hnone => ?_⟩
    · rw [← h.order]
      simp [unrunSent]
    · change c.writing = none at hnone
      rw [hw] at hnone
      cases hnone

lemma next_of_nil (hwaiting : c.waiting = []) (refused : α) :
    c.next refused = c := by
  simp [Client.next, hwaiting]

lemma next_of_cons (hconn : c.established = true) (hw : c.writing = none) {r : ρ}
    {rest : List ρ} (hwaiting : c.waiting = r :: rest) (refused : α) :
    c.next refused = { c with writing := some r, sent := c.sent ++ [r], waiting := rest } := by
  simp [Client.next, hwaiting, request_of_idle hconn hw, send]

lemma kept_next (hconn : c.established = true) (refused : α) :
    (c.next refused).established = c.established ∧ (c.next refused).posted = c.posted ∧
      (c.next refused).running = c.running ∧ (c.next refused).invoked = c.invoked := by
  unfold Client.next
  cases hwaiting : c.waiting with
  | nil => exact ⟨rfl, rfl, rfl, rfl⟩
  | cons r rest =>
    exact ⟨established_request .., posted_request hconn .., running_request .., invoked_request ..⟩

/-- The end of a write: the oldest waiting request, if any, is sent. -/
lemma InOrder.next {d : Client ρ α ι} (h : InOrder issued c)
    (hd : d = { c with writing := none }) (refused : α) :
    InOrder issued (d.next refused) ∧
      (d.next refused).unrunSent = c.unrunSent ++ c.waiting.head?.toList ∧
      (d.next refused).writing = c.waiting.head? ∧ (d.next refused).running = c.running ∧
      (d.next refused).invoked = c.invoked := by
  subst hd
  by_cases hwaiting : c.waiting = []
  · rw [next_of_nil (by exact hwaiting)]
    exact ⟨⟨h.established, h.order, h.sent_le, fun _ => hwaiting⟩, by simp [unrunSent, hwaiting],
      by simp [hwaiting], rfl, rfl⟩
  · obtain ⟨r, rest, hwaiting⟩ := List.exists_cons_of_ne_nil hwaiting
    rw [next_of_cons (by exact h.established) rfl (by exact hwaiting), hwaiting]
    have hunrun : unrunSent { c with writing := some r, sent := c.sent ++ [r], waiting := rest } =
        c.unrunSent ++ [r] := h.unrunSent_send r
    refine ⟨⟨h.established, ?_, ?_, fun hnone => by cases hnone⟩, hunrun, rfl, rfl, rfl⟩
    · rw [hunrun, ← h.order, hwaiting]
      simp
    · simpa using Nat.le_succ_of_le h.sent_le

/-- The oldest sent request is answered. -/
lemma InOrder.answer (h : InOrder issued c)
    (hidle : c.running = []) {r : ρ} {sent : List ρ} (hsent : c.unrunSent = r :: sent) (a : α)
    {rest : List (Frame ι)} (hrest : rest.countP (·.isDropSent) = 1) :
    ∃ c', c.answer a rest = some c' ∧ InOrder issued c' ∧ c'.invoked = c.invoked ++ [(r, a)] ∧
      c'.unrunSent = sent ∧ c'.running = .callback :: rest ∧ c'.writing = c.writing ∧
      c'.waiting = c.waiting := by
  have hqueue : c.sent = r :: sent := by rw [← unrunSent_of_idle hidle, hsent]
  have hcount : (Frame.callback :: rest ++ c.running).countP (·.isDropSent) = 1 := by
    rw [hidle, List.append_nil, List.countP_cons_of_neg (by simp [Frame.isDropSent]), hrest]
  let c' : Client ρ α ι := { c with
    invoked := c.invoked ++ [(r, a)]
    running := .callback :: rest ++ c.running }
  have hunrun : c'.unrunSent = sent := by
    simp only [unrunSent, c', hcount, hqueue, List.drop_succ_cons, List.drop_zero]
  refine ⟨c', by simp [Client.answer, hqueue, c'], ⟨h.established, ?_, ?_, h.busy⟩, rfl,
    hunrun, by simp [c', hidle], rfl, rfl⟩
  · rw [hunrun, ← h.order, hsent]
    simp [c']
  · change (Frame.callback :: rest ++ c.running).countP (·.isDropSent) ≤ c.sent.length
    rw [hcount, hqueue]
    simp

/-- A frame other than a drain is done: nothing changes but the place of what is dropped. -/
lemma InOrder.pop (h : InOrder issued c) {f : Frame ι}
    {fs : List (Frame ι)} (hrun : c.running = f :: fs) (hrun' : c'.running = fs)
    (hestablished : c'.established = c.established) (hinvoked : c'.invoked = c.invoked)
    (hwriting : c'.writing = c.writing) (hwaiting : c'.waiting = c.waiting)
    (hsent : c'.sent = if f.isDropSent then c.sent.tail else c.sent) :
    InOrder issued c' ∧ c'.unrunSent = c.unrunSent := by
  have hle := h.sent_le
  have hunrun : c'.unrunSent = c.unrunSent := by
    unfold unrunSent
    rw [hrun, hrun', hsent, List.countP_cons]
    cases f.isDropSent <;> simp
  refine ⟨⟨hestablished.trans h.established, ?_, ?_, ?_⟩, hunrun⟩
  · rw [hinvoked, hunrun, hwaiting, h.order]
  · rw [hrun, List.countP_cons] at hle
    rw [hrun', hsent]
    cases hf : f.isDropSent with
    | false => simpa [hf] using hle
    | true =>
      rw [hf, if_pos rfl] at hle
      simpa using Nat.le_sub_of_add_le hle
  · rw [hwriting, hwaiting]
    exact h.busy

/-! ### A closed connection calls everybody back -/

/-- Once the connection is closed, the requests that have not been called back are being drained;
and nothing is drained before. -/
structure Ends (c : Client ρ α ι) : Prop where
  waiting : c.established = false → .drainWaiting ∈ c.running ∨ c.unrunWaiting = []
  sent : c.established = false → .drainSent ∈ c.running ∨ c.unrunSent = []
  closed : .drainWaiting ∈ c.running ∨ .drainSent ∈ c.running → c.established = false

lemma Ends.of_eq (h : Ends c) (hestablished : c'.established = c.established)
    (hwaiting : c'.waiting = c.waiting) (hsent : c'.sent = c.sent)
    (hrunning : c'.running = c.running) : Ends c' := by
  refine ⟨?_, ?_, ?_⟩
  · rw [hestablished, unrunWaiting, hwaiting, hrunning]
    exact h.waiting
  · rw [hestablished, unrunSent, hsent, hrunning]
    exact h.sent
  · rw [hestablished, hrunning]
    exact h.closed

/-- While nothing is drained, a closed connection owes no callback from its queues. -/
lemma Ends.unrun_nil (h : Ends c) (hclosed : c.established = false)
    (hnone : .drainWaiting ∉ c.running ∧ .drainSent ∉ c.running) :
    c.unrunWaiting = [] ∧ c.unrunSent = [] :=
  ⟨(h.waiting hclosed).resolve_left hnone.1, (h.sent hclosed).resolve_left hnone.2⟩

/-- On an open connection, whatever is done that drains nothing. -/
lemma ends_of_established (hconn : c.established = true)
    (hnone : .drainWaiting ∉ c.running ∧ .drainSent ∉ c.running) : Ends c := by
  refine ⟨fun hno => ?_, fun hno => ?_, ?_⟩
  · simp [hconn] at hno
  · simp [hconn] at hno
  · rintro (hmem | hmem)
    · exact absurd hmem hnone.1
    · exact absurd hmem hnone.2

/-- No drain is on the stack of an open connection. -/
lemma Ends.not_draining (h : Ends c) (hconn : c.established = true) :
    .drainWaiting ∉ c.running ∧ .drainSent ∉ c.running := by
  constructor <;> intro hmem
  · simpa [hconn] using h.closed (.inl hmem)
  · simpa [hconn] using h.closed (.inr hmem)

lemma Ends.request (h : Ends c) (hconn : c.established = true) (refused : α) (r : ρ) :
    Ends (c.request refused r) := by
  refine ends_of_established ?_ ?_
  · rw [established_request, hconn]
  · rw [running_request]
    exact h.not_draining hconn

lemma ends_close (c : Client ρ α ι) (rest : List (Frame ι)) : Ends (c.close rest) :=
  ⟨fun _ => .inl (by simp [Client.close]), fun _ => .inl (by simp [Client.close]), fun _ => rfl⟩

/-- A frame that neither drains nor drops is done. -/
lemma Ends.pop (h : Ends c) {f : Frame ι} {fs : List (Frame ι)} (hrun : c.running = f :: fs)
    (hf : f.isQueueing = false) : Ends { c with running := fs } := by
  obtain ⟨hwaiting, hsent, hclosed⟩ := h
  unfold unrunWaiting at hwaiting
  unfold unrunSent at hsent
  rw [hrun] at hwaiting hsent hclosed
  cases f with
  | callback | other i =>
    exact ⟨by simpa [unrunWaiting] using hwaiting, by simpa [unrunSent] using hsent,
      by simpa using hclosed⟩
  | _ => cases hf

/-- What a frame that is not the client's own leaves alone, and whom it calls. -/
lemma resume_spec {cancelled : α} (hc : c.resume cancelled = some c') :
    (c'.established = c.established ∧ c'.posted = c.posted ∧ c'.writing = c.writing ∧
      ∀ i, .other i ∈ c.running → .other i ∈ c'.running) ∧
    (c'.invoked = c.invoked ∨
      ∃ r, c'.invoked = c.invoked ++ [(r, cancelled)] ∧
        (.drainWaiting ∈ c.running ∨ .drainSent ∈ c.running)) := by
  unfold Client.resume at hc
  cases hrun : c.running with
  | nil => simp [hrun] at hc
  | cons f fs =>
    rw [hrun] at hc
    cases f with
    | other i => cases hc
    | callback | dropWaiting | dropSent =>
      cases hc
      exact ⟨⟨rfl, rfl, rfl, by simp⟩, .inl rfl⟩
    | drainWaiting =>
      cases hqueue : c.waiting with
      | nil =>
        rw [hqueue] at hc
        cases hc
        exact ⟨⟨rfl, rfl, rfl, by simp⟩, .inl rfl⟩
      | cons r rest =>
        rw [hqueue] at hc
        cases hc
        exact ⟨⟨rfl, rfl, rfl, by simp⟩, .inr ⟨r, rfl, by simp⟩⟩
    | drainSent =>
      cases hqueue : c.sent with
      | nil =>
        rw [hqueue] at hc
        cases hc
        exact ⟨⟨rfl, rfl, rfl, by simp⟩, .inl rfl⟩
      | cons r rest =>
        rw [hqueue] at hc
        cases hc
        exact ⟨⟨rfl, rfl, rfl, by simp⟩, .inr ⟨r, rfl, by simp⟩⟩

lemma Ends.resume (h : Ends c) {cancelled : α} (hc : c.resume cancelled = some c') : Ends c' := by
  unfold Client.resume at hc
  cases hrun : c.running with
  | nil => simp [hrun] at hc
  | cons f fs =>
    rw [hrun] at hc
    cases f with
    | other i => cases hc
    | callback =>
      cases hc
      exact h.pop hrun rfl
    | dropWaiting | dropSent =>
      cases hc
      obtain ⟨hwaiting, hsent, hclosed⟩ := h
      unfold unrunWaiting at hwaiting
      unfold unrunSent at hsent
      rw [hrun] at hwaiting hsent hclosed
      exact ⟨by simpa [unrunWaiting] using hwaiting, by simpa [unrunSent] using hsent,
        by simpa using hclosed⟩
    | drainWaiting =>
      have hno := h.closed (.inl (by simp [hrun]))
      have hsent := h.sent hno
      unfold unrunSent at hsent
      rw [hrun] at hsent
      cases hqueue : c.waiting with
      | nil =>
        rw [hqueue] at hc
        cases hc
        exact ⟨fun _ => .inr (by simp [unrunWaiting]),
          fun _ => by simpa [unrunSent] using hsent, fun _ => hno⟩
      | cons r rest =>
        rw [hqueue] at hc
        cases hc
        exact ⟨fun _ => .inl (by simp), fun _ => by simpa [unrunSent] using hsent, fun _ => hno⟩
    | drainSent =>
      have hno := h.closed (.inr (by simp [hrun]))
      have hwaiting := h.waiting hno
      unfold unrunWaiting at hwaiting
      rw [hrun] at hwaiting
      cases hqueue : c.sent with
      | nil =>
        rw [hqueue] at hc
        cases hc
        exact ⟨fun _ => by simpa [unrunWaiting] using hwaiting,
          fun _ => .inr (by simp [unrunSent]), fun _ => hno⟩
      | cons r rest =>
        rw [hqueue] at hc
        cases hc
        exact ⟨fun _ => by simpa [unrunWaiting] using hwaiting, fun _ => .inl (by simp),
          fun _ => hno⟩

/-! ### What requests and answers are like -/

/-- All requests that have come in satisfy `P`, and all results that callbacks are called with are
related by `Q` to their requests. -/
structure Carries (P : ρ → Prop) (Q : ρ → α → Prop) (c : Client ρ α ι) : Prop where
  waiting : ∀ r ∈ c.waiting, P r
  sent : ∀ r ∈ c.sent, P r
  posted : ∀ p ∈ c.posted, P p.1 ∧ Q p.1 p.2
  invoked : ∀ p ∈ c.invoked, P p.1 ∧ Q p.1 p.2

section Carries

variable {P : ρ → Prop} {Q : ρ → α → Prop}

lemma Carries.mono {P' : ρ → Prop} (h : Carries P Q c) (hP : ∀ r, P r → P' r) : Carries P' Q c where
  waiting r hr := hP r (h.waiting r hr)
  sent r hr := hP r (h.sent r hr)
  posted p hp := (h.posted p hp).imp_left (hP p.1)
  invoked p hp := (h.invoked p hp).imp_left (hP p.1)

lemma Carries.request (h : Carries P Q c) {r : ρ} (hr : P r) {refused : α} (hQ : Q r refused) :
    Carries P Q (c.request refused r) := by
  have hconcat {β : Type} {R : β → Prop} {l : List β} {x : β} (hl : ∀ y ∈ l, R y) (hx : R x) :
      ∀ y ∈ l ++ [x], R y := by
    intro y hy
    rcases List.mem_append.mp hy with hy | hy
    · exact hl y hy
    · exact List.mem_singleton.mp hy ▸ hx
  simp only [Client.request, send]
  split_ifs
  · exact ⟨h.waiting, hconcat h.sent hr, hconcat h.posted ⟨hr, hQ⟩, h.invoked⟩
  · exact ⟨hconcat h.waiting hr, h.sent, hconcat h.posted ⟨hr, hQ⟩, h.invoked⟩
  · exact ⟨h.waiting, hconcat h.sent hr, h.posted, h.invoked⟩
  · exact ⟨hconcat h.waiting hr, h.sent, h.posted, h.invoked⟩

lemma Carries.next (h : Carries P Q c) {refused : α} (hQ : ∀ r, Q r refused) :
    Carries P Q (c.next refused) := by
  unfold Client.next
  split
  · exact h
  · next r _ hwaiting =>
    have hr := h.request (h.waiting r (by simp [hwaiting])) (hQ r)
    exact ⟨fun r' hr' => hr.waiting r' (List.mem_of_mem_tail hr'), hr.sent, hr.posted, hr.invoked⟩

lemma Carries.answer (h : Carries P Q c) {a : α} (hQ : ∀ r ∈ c.sent.head?, Q r a)
    {rest : List (Frame ι)} (hc : c.answer a rest = some c') : Carries P Q c' := by
  unfold Client.answer at hc
  split at hc
  · cases hc
  · next r _ hsent =>
    cases hc
    refine ⟨h.waiting, h.sent, h.posted, fun p hp => ?_⟩
    rcases List.mem_append.mp hp with hp | hp
    · exact h.invoked p hp
    · obtain rfl := List.mem_singleton.mp hp
      exact ⟨h.sent r (by simp [hsent]), hQ r (by simp [hsent])⟩

lemma Carries.runPosted (h : Carries P Q c) {i : ℕ} (hc : c.runPosted i = some c') :
    Carries P Q c' := by
  unfold Client.runPosted at hc
  split at hc
  · cases hc
  · next p hi =>
    cases hc
    refine ⟨h.waiting, h.sent, fun q hq => h.posted q (List.mem_of_mem_eraseIdx hq), fun q hq => ?_⟩
    rcases List.mem_append.mp hq with hq | hq
    · exact h.invoked q hq
    · exact List.mem_singleton.mp hq ▸ h.posted p (List.mem_of_getElem? hi)

lemma Carries.resume (h : Carries P Q c) {cancelled : α} (hQ : ∀ r, Q r cancelled)
    (hc : c.resume cancelled = some c') : Carries P Q c' := by
  have hcall {r : ρ} (hr : P r) : ∀ p ∈ c.invoked ++ [(r, cancelled)], P p.1 ∧ Q p.1 p.2 := by
    intro p hp
    rcases List.mem_append.mp hp with hp | hp
    · exact h.invoked p hp
    · exact List.mem_singleton.mp hp ▸ ⟨hr, hQ r⟩
  unfold Client.resume at hc
  split at hc
  · cases hc
    exact ⟨h.waiting, h.sent, h.posted, h.invoked⟩
  · cases hc
    exact ⟨fun r hr => h.waiting r (List.mem_of_mem_tail hr), h.sent, h.posted, h.invoked⟩
  · cases hc
    exact ⟨h.waiting, fun r hr => h.sent r (List.mem_of_mem_tail hr), h.posted, h.invoked⟩
  · split at hc
    · cases hc
      exact ⟨h.waiting, h.sent, h.posted, h.invoked⟩
    · next r _ hwaiting =>
      cases hc
      exact ⟨h.waiting, h.sent, h.posted, hcall (h.waiting r (by simp [hwaiting]))⟩
  · split at hc
    · cases hc
      exact ⟨h.waiting, h.sent, h.posted, h.invoked⟩
    · next r _ hsent =>
      cases hc
      exact ⟨h.waiting, h.sent, h.posted, hcall (h.sent r (by simp [hsent]))⟩
  · cases hc

end Carries

end Client

end Pipelined
