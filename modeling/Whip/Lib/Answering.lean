import Whip.Lib.Pipelined

/-!
# Answers and the requests they are for

A request is dropped from the queue of sent requests when its callback returns. `Poised` says that
there is something to be dropped then: for each such frame on the stack a request is in the queue.
`Balanced` compares the queue with what the other end has been asked and has begun to answer.
-/

namespace Pipelined

namespace Client

variable {ρ α ι : Type} {c c' : Client ρ α ι}

/-- There is a request in the queue for each frame that drops one. -/
structure Poised (c : Client ρ α ι) : Prop where
  sent_le : c.running.countP (·.isDropSent) ≤ c.sent.length
  tame : Tame c.running

/-- As long as the connection is there, the requests in the queue are those the other end has been
asked for and has not begun to answer, and those whose answer is not done with: their callback runs,
or the rest of the answer is awaited, which is what `body` counts. -/
structure Balanced (c : Client ρ α ι) (body asked answered : ℕ) : Prop where
  eq : c.established = true →
    c.sent.length + answered = asked + c.running.countP (·.isDropSent) + body
  le : c.established = true → answered ≤ asked
  calm : c.established = true → .drainSent ∉ c.running

variable {body asked answered : ℕ}

lemma sent_request (refused : α) (c : Client ρ α ι) (r : ρ) :
    (c.request refused r).sent = if c.writing.isNone then c.sent ++ [r] else c.sent := by
  simp only [request]
  split_ifs <;> rfl

lemma length_sent_request (refused : α) (c : Client ρ α ι) (r : ρ) :
    (c.request refused r).sent.length = c.sent.length + c.writing.isNone.toNat := by
  rw [sent_request]
  cases c.writing <;> simp

/-- How many requests are sent at the end of a write. -/
lemma length_sent_next (refused : α) {c : Client ρ α ι} (hw : c.writing = none) :
    (c.next refused).sent.length = c.sent.length + (!c.waiting.isEmpty).toNat := by
  unfold next
  cases hwaiting : c.waiting with
  | nil => rfl
  | cons r rest => simp [length_sent_request, hw]

lemma running_next (refused : α) (c : Client ρ α ι) : (c.next refused).running = c.running := by
  unfold next
  split
  · rfl
  · exact running_request refused c _

/-- The client's own frames are pushed by nothing else. -/
lemma other_mem_of_resume {cancelled : α} (hc : c.resume cancelled = some c') {i : ι}
    (hi : .other i ∈ c'.running) : .other i ∈ c.running := by
  unfold resume at hc
  split at hc
  case h_4 | h_5 =>
    next hrun =>
    split at hc <;> cases hc <;> simpa [hrun] using hi
  case h_6 => cases hc
  all_goals
    next hrun =>
    cases hc
    exact hrun ▸ List.mem_cons_of_mem _ hi

lemma running_runPosted {i : ℕ} (hc : c.runPosted i = some c') :
    c'.running = .callback :: c.running := by
  unfold runPosted at hc
  split at hc <;> cases hc
  rfl

/-! ### Popping the queue -/

namespace Poised

/-- More requests in the queue, and the same frames. -/
lemma of_le (h : Poised c) (hrunning : c'.running = c.running)
    (hsent : c.sent.length ≤ c'.sent.length) : Poised c' :=
  ⟨hrunning ▸ Nat.le_trans h.sent_le hsent, hrunning ▸ h.tame⟩

lemma request (h : Poised c) (refused : α) (r : ρ) : Poised (c.request refused r) :=
  h.of_le (running_request ..) (by rw [length_sent_request]; exact Nat.le_add_right ..)

lemma next (h : Poised c) (hw : c.writing = none) (refused : α) : Poised (c.next refused) :=
  h.of_le (running_next ..) (by rw [length_sent_next refused hw]; exact Nat.le_add_right ..)

/-- Frames that drop nothing. -/
lemma of_dropsNothing (h : DropsNothing c.running) : Poised c :=
  ⟨by simp [h.countP.2], h.tame⟩

/-- A frame that drops a request finds one. -/
lemma sent_ne_nil (h : Poised c) {fs : List (Frame ι)} (hrun : c.running = .dropSent :: fs) :
    c.sent ≠ [] := by
  intro hsent
  have hle := h.sent_le
  simp [hrun, hsent] at hle

lemma answer (hidle : c.running = []) {a : α} {rest : List (Frame ι)}
    (hc : c.answer a rest = some c') (hdrop : rest.countP (·.isDropSent) = 1) (htame : Tame rest) :
    Poised c' := by
  unfold Client.answer at hc
  split at hc
  · cases hc
  · next r sent hsent =>
    cases hc
    refine ⟨?_, by simpa [hidle, Tame, Frame.isQueueing] using htame⟩
    simp [hidle, hsent, hdrop]

lemma close (hc : DropsNothing c.running) {rest : List (Frame ι)} (hrest : DropsNothing rest) :
    Poised (c.close rest) := by
  refine of_dropsNothing fun g hg => ?_
  simp only [Client.close, List.cons_append, List.mem_cons, List.mem_append] at hg
  rcases hg with rfl | rfl | hg | hg
  · exact ⟨rfl, rfl⟩
  · exact ⟨rfl, rfl⟩
  · exact hrest g hg
  · exact hc g hg

lemma runPosted (h : Poised c) {i : ℕ} (hc : c.runPosted i = some c') : Poised c' := by
  unfold Client.runPosted at hc
  split at hc <;> cases hc
  exact ⟨by simpa using h.sent_le, by simpa [Tame, Frame.isQueueing] using h.tame⟩

/-- One of the client's own frames is done. -/
lemma own (h : Poised c) {i : ι} {fs : List (Frame ι)} (hrun : c.running = .other i :: fs) :
    Poised { c with running := fs } := by
  obtain ⟨hsent, htame⟩ := h
  rw [hrun] at hsent htame
  exact ⟨by simpa using hsent, htame.2⟩

lemma resume (h : Poised c) {cancelled : α} (hc : c.resume cancelled = some c') : Poised c' := by
  obtain ⟨hsent, htame⟩ := h
  unfold Client.resume at hc
  cases hrun : c.running with
  | nil => simp [hrun] at hc
  | cons f fs =>
    rw [hrun] at hc hsent htame
    cases f with
    | other i => cases hc
    | callback =>
      cases hc
      exact ⟨by simpa using hsent, htame.2⟩
    | dropWaiting | dropSent =>
      cases hc
      exact of_dropsNothing (htame.1 rfl)
    | drainWaiting | drainSent =>
      have hfs := htame.1 rfl
      dsimp only at hc
      split at hc <;> cases hc
      · exact of_dropsNothing hfs
      · next r rest hqueue =>
        exact ⟨by simp [hfs.countP.2, hqueue], htame.push rfl ⟨rfl, rfl⟩⟩

end Poised

/-! ### Keeping the balance -/

namespace Balanced

/-- A connection that is lost owes nothing. -/
lemma of_closed (h : c.established = false) (body asked answered : ℕ) :
    Balanced c body asked answered :=
  ⟨by simp [h], by simp [h], by simp [h]⟩

/-- Requests are sent. -/
lemma of_sent (h : Balanced c body asked answered) {n : ℕ}
    (hestablished : c'.established = c.established) (hrunning : c'.running = c.running)
    (hsent : c'.sent.length = c.sent.length + n) : Balanced c' body (asked + n) answered := by
  refine ⟨fun hopen => ?_, fun hopen => ?_, fun hopen => ?_⟩
  · have := h.eq (hestablished ▸ hopen)
    rw [hsent, hrunning]
    omega
  · exact Nat.le_trans (h.le (hestablished ▸ hopen)) (Nat.le_add_right _ _)
  · rw [hrunning]
    exact h.calm (hestablished ▸ hopen)

lemma request (h : Balanced c body asked answered) (refused : α) (r : ρ) :
    Balanced (c.request refused r) body (asked + c.writing.isNone.toNat) answered :=
  h.of_sent (established_request ..) (running_request ..) (length_sent_request ..)

lemma next (h : Balanced c body asked answered) (hw : c.writing = none) (refused : α) :
    Balanced (c.next refused) body (asked + (!c.waiting.isEmpty).toNat) answered :=
  h.of_sent (established_next ..) (running_next ..) (length_sent_next refused hw)

/-- The other end begins to answer a request. -/
lemma begin_answer (h : Balanced c 0 asked answered)
    (hle : c.established = true → answered < asked) :
    Balanced c 1 asked (answered + 1) :=
  ⟨fun hopen => by have := h.eq hopen; omega, hle, h.calm⟩

/-- While an answer is awaited, its request is in the queue. -/
lemma sent_ne_nil (h : Balanced c 1 asked answered) (hopen : c.established = true) :
    c.sent ≠ [] := by
  intro hsent
  have heq := h.eq hopen
  have hle := h.le hopen
  rw [hsent, List.length_nil] at heq
  omega

/-- The oldest request is answered. -/
lemma answer (h : Balanced c 1 asked answered) (hidle : c.running = []) {a : α}
    {rest : List (Frame ι)} (hc : c.answer a rest = some c')
    (hdrop : rest.countP (·.isDropSent) = 1) (hcalm : .drainSent ∉ rest) :
    Balanced c' 0 asked answered := by
  unfold Client.answer at hc
  split at hc <;> cases hc
  refine ⟨fun hopen => ?_, h.le, fun _ => by simpa [hidle] using hcalm⟩
  have := h.eq hopen
  simpa [hidle, hdrop] using this

lemma runPosted (h : Balanced c body asked answered) {i : ℕ} (hc : c.runPosted i = some c') :
    Balanced c' body asked answered := by
  unfold Client.runPosted at hc
  split at hc <;> cases hc
  exact ⟨by simpa using h.eq, h.le, by simpa using h.calm⟩

/-- One of the client's own frames is done. -/
lemma own (h : Balanced c body asked answered) {i : ι} {fs : List (Frame ι)}
    (hrun : c.running = .other i :: fs) :
    Balanced { c with running := fs } body asked answered := by
  refine ⟨fun hopen => ?_, h.le, fun hopen => ?_⟩
  · simpa [hrun] using h.eq hopen
  · exact fun hmem => h.calm hopen (hrun ▸ List.mem_cons_of_mem _ hmem)

/-- A frame that drops a request finds one, and what the queue loses was counted. -/
lemma resume (h : Balanced c body asked answered) (hp : Poised c) {cancelled : α}
    (hc : c.resume cancelled = some c') : Balanced c' body asked answered := by
  have hestablished := established_resume hc
  rcases hopen : c.established with _ | _
  · exact of_closed (hestablished.trans hopen) ..
  have heq := h.eq hopen
  have hle := hp.sent_le
  have hcalm := h.calm hopen
  unfold Client.resume at hc
  cases hrun : c.running with
  | nil => simp [hrun] at hc
  | cons f fs =>
    rw [hrun] at hc heq hle hcalm
    have hrest : Frame.drainSent ∉ fs := fun hmem => hcalm (List.mem_cons_of_mem _ hmem)
    cases f with
    | other i => cases hc
    | callback | dropWaiting =>
      cases hc
      exact ⟨fun _ => by simpa using heq, h.le, fun _ => hrest⟩
    | dropSent =>
      cases hc
      refine ⟨fun _ => ?_, h.le, fun _ => hrest⟩
      simp only [List.countP_cons, Frame.dropSent_drops, if_true] at heq hle
      simp only [List.length_tail]
      omega
    | drainWaiting =>
      dsimp only at hc
      split at hc <;> cases hc
      · exact ⟨fun _ => by simpa using heq, h.le, fun _ => hrest⟩
      · exact ⟨fun _ => by simpa using heq, h.le, fun _ => by simpa using hrest⟩
    | drainSent => exact absurd List.mem_cons_self hcalm

end Balanced

end Client

end Pipelined
