import Mathlib.Data.List.Basic

/-!
# Sending one at a time

A sender hands items to an asynchronous primitive, and a flag says that an item is on its way. An
item that comes while the flag is set is queued; the handler of a completion clears the flag and
hands over the item in front of the queue. The items on their way are kept apart from the flag, so
that it is a fact and not part of the definition that there is at most one.
-/

structure SendQueue (α : Type*) where
  sendActive : Bool := false
  sends : List α := []
  pendingSends : List α := []

namespace SendQueue

variable {α : Type*}

/-- Hand an item over, or queue it. -/
def send (q : SendQueue α) (a : α) : SendQueue α :=
  if !q.sendActive then { q with sendActive := true, sends := q.sends ++ [a] }
  else { q with pendingSends := q.pendingSends ++ [a] }

/-- The `i`-th of the items on their way has arrived, and the flag is cleared. -/
def complete (q : SendQueue α) (i : ℕ) : SendQueue α :=
  { q with sendActive := false, sends := q.sends.eraseIdx i }

/-- Hand over the item in front of the queue. -/
def processQueuedSend (q : SendQueue α) : SendQueue α :=
  match q.pendingSends with
  | []           => q
  | a :: pending => { sendActive := true, sends := q.sends ++ [a], pendingSends := pending }

/-- What has not arrived yet. -/
def contents (q : SendQueue α) : List α := q.sends ++ q.pendingSends

/-- The flag says that exactly one item is on its way, and nothing is queued without it. -/
structure Single (q : SendQueue α) : Prop where
  active : q.sends.length = q.sendActive.toNat
  pending : q.sendActive = false → q.pendingSends = []

variable {q : SendQueue α}

lemma single_new : Single ({} : SendQueue α) := ⟨rfl, fun _ => rfl⟩

lemma Single.length_le (h : Single q) : q.sends.length ≤ 1 := by
  rw [h.active]
  exact Bool.toNat_le _

lemma Single.send (h : Single q) (a : α) : Single (q.send a) := by
  have hactive := h.active
  unfold SendQueue.send
  cases hsend : q.sendActive with
  | false =>
    rw [hsend] at hactive
    exact ⟨by simpa using hactive, nofun⟩
  | true =>
    rw [hsend] at hactive
    exact ⟨by simpa [hsend] using hactive, by simp⟩

/-- What is sent comes last. -/
lemma Single.contents_send (h : Single q) (a : α) : (q.send a).contents = q.contents ++ [a] := by
  unfold SendQueue.send contents
  cases hsend : q.sendActive with
  | false => simp [h.pending hsend]
  | true => simp

/-- What is on its way comes first. -/
lemma Single.contents_of_sends (h : Single q) {i : ℕ} {a : α} (ha : q.sends[i]? = some a) :
    i = 0 ∧ q.sendActive = true ∧ q.sends = [a] := by
  obtain ⟨hi, -⟩ := List.getElem?_eq_some_iff.mp ha
  have hle := h.length_le
  obtain rfl : i = 0 := by omega
  obtain ⟨b, hb⟩ := List.length_eq_one_iff.mp (show q.sends.length = 1 by omega)
  have hactive := h.active
  refine ⟨rfl, ?_, ?_⟩
  · cases hsend : q.sendActive with
    | false => simp [hsend, hb] at hactive
    | true => rfl
  · rw [hb] at ha ⊢
    simpa using ha

/-- When an item has arrived, the next one is handed over. -/
lemma Single.next (h : Single q) {i : ℕ} {a : α} (ha : q.sends[i]? = some a) :
    Single (q.complete i).processQueuedSend ∧
      q.contents = a :: (q.complete i).processQueuedSend.contents := by
  obtain ⟨rfl, -, hsends⟩ := h.contents_of_sends ha
  unfold complete processQueuedSend contents
  cases hpending : q.pendingSends with
  | nil => exact ⟨⟨by simp [hsends], fun _ => rfl⟩, by simp [hsends]⟩
  | cons b pending => exact ⟨⟨by simp [hsends], nofun⟩, by simp [hsends]⟩

end SendQueue
