import Whip.Lib.Effect
import Mathlib.Data.List.Infix

/-!
# Programs that log what they do

A program over `σ` is made to log entries of a type `ℓ` by giving it the state `σ × List ℓ`: `note`
adds an entry, and `quietly` runs a program that logs nothing. `Erases x y` says that `x` is `y`
with a log, and `Logs x` that `x` only ever adds to the log.
-/

namespace Effect

universe u
variable {ε σ ℓ α β : Type u}

def note (l : ℓ) : EStateM ε (σ × List ℓ) PUnit := modify fun s => (s.1, s.2 ++ [l])

/-- Make an entry, and return a value. -/
def noting (l : ℓ) (a : α) : EStateM ε (σ × List ℓ) α := do
  note l
  return a

lemma noting_bind (l : ℓ) (a : α) (f : α → EStateM ε (σ × List ℓ) β) (s : σ × List ℓ) :
    (noting l a >>= f) s = f a (s.1, s.2 ++ [l]) := rfl

def quietly (y : EStateM ε σ α) : EStateM ε (σ × List ℓ) α := fun s =>
  match y s.1 with
  | .ok a t    => .ok a (t, s.2)
  | .error e t => .error e (t, s.2)

lemma quietly_ok {y : EStateM ε σ α} {s : σ × List ℓ} {a : α} {t : σ} (h : y s.1 = .ok a t) :
    quietly y s = .ok a (t, s.2) := by
  simp [quietly, h]

/-- The result without the log. -/
def dropLog : EStateM.Result ε (σ × List ℓ) α → EStateM.Result ε σ α
  | .ok a s    => .ok a s.1
  | .error e s => .error e s.1

/-- Without its log, `x` is `y`. -/
def Erases (x : EStateM ε (σ × List ℓ) α) (y : EStateM ε σ α) : Prop :=
  ∀ s, dropLog (x s) = y s.1

namespace Erases

lemma pure (a : α) : Erases (pure a : EStateM ε (σ × List ℓ) α) (pure a) := fun _ => rfl

lemma throw (e : ε) : Erases (throw e : EStateM ε (σ × List ℓ) α) (throw e) := fun _ => rfl

lemma quietly (y : EStateM ε σ α) : Erases (quietly y : EStateM ε (σ × List ℓ) α) y := by
  intro s
  unfold Effect.quietly
  cases y s.1 <;> rfl

variable {x : EStateM ε (σ × List ℓ) α} {y : EStateM ε σ α}

lemma note_bind {l : ℓ} {f : PUnit → EStateM ε (σ × List ℓ) α} (h : Erases (f ⟨⟩) y) :
    Erases (note l >>= f) y := fun s => h (s.1, s.2 ++ [l])

lemma noting_bind {l : ℓ} {a : α} {f : α → EStateM ε (σ × List ℓ) β} {z : EStateM ε σ β}
    (h : Erases (f a) z) : Erases (noting l a >>= f) z := fun s => h (s.1, s.2 ++ [l])

lemma bind {f : α → EStateM ε (σ × List ℓ) β} {g : α → EStateM ε σ β} (hx : Erases x y)
    (hf : ∀ a, Erases (f a) (g a)) : Erases (x >>= f) (y >>= g) := by
  intro s
  have h := hx s
  cases hxs : x s with
  | ok a t =>
    rw [hxs] at h
    rw [bind_ok hxs, bind_ok h.symm]
    exact hf a t
  | error e t =>
    rw [hxs] at h
    rw [bind_error hxs, bind_error h.symm]
    rfl

lemma tryCatch {f : ε → EStateM ε (σ × List ℓ) α} {g : ε → EStateM ε σ α} (hx : Erases x y)
    (hf : ∀ e, Erases (f e) (g e)) : Erases (tryCatch x f) (tryCatch y g) := by
  intro s
  have h := hx s
  cases hxs : x s with
  | ok a t =>
    rw [hxs] at h
    rw [tryCatch_ok hxs, tryCatch_ok h.symm]
    rfl
  | error e t =>
    rw [hxs] at h
    rw [tryCatch_error hxs, tryCatch_error h.symm]
    exact hf e t

lemma ite {c : Prop} [Decidable c] {x' : EStateM ε (σ × List ℓ) α} {y' : EStateM ε σ α}
    (h : Erases x y) (h' : Erases x' y') : Erases (if c then x else x') (if c then y else y') := by
  split_ifs
  · exact h
  · exact h'

end Erases

/-- The log after a run. -/
def logged (r : EStateM.Result ε (σ × List ℓ) α) : List ℓ := (finalState r).2

/-- The program adds to the log, and takes nothing away. -/
def Logs (x : EStateM ε (σ × List ℓ) α) : Prop := Keeps (fun s t => s.2 <+: t.2) x

namespace Logs

lemma pure (a : α) : Logs (pure a : EStateM ε (σ × List ℓ) α) :=
  fun _ => List.prefix_rfl

lemma throw (e : ε) : Logs (throw e : EStateM ε (σ × List ℓ) α) :=
  fun _ => List.prefix_rfl

lemma note (l : ℓ) : Logs (note l : EStateM ε (σ × List ℓ) PUnit) :=
  Keeps.modify fun _ => List.prefix_append _ _

lemma noting (l : ℓ) (a : α) : Logs (noting l a : EStateM ε (σ × List ℓ) α) :=
  fun _ => List.prefix_append _ _

lemma quietly (y : EStateM ε σ α) : Logs (quietly y : EStateM ε (σ × List ℓ) α) := by
  intro s
  unfold Effect.quietly
  cases y s.1 <;> exact List.prefix_rfl

variable {x : EStateM ε (σ × List ℓ) α}

lemma bind {f : α → EStateM ε (σ × List ℓ) β} (hx : Logs x) (hf : ∀ a, Logs (f a)) :
    Logs (x >>= f) :=
  Keeps.bind (S := fun s t : σ × List ℓ => s.2 <+: t.2) (fun _ _ _ h h' => h.trans h') hx hf

lemma tryCatch {f : ε → EStateM ε (σ × List ℓ) α} (hx : Logs x) (hf : ∀ e, Logs (f e)) :
    Logs (tryCatch x f) :=
  Keeps.tryCatch (S := fun s t : σ × List ℓ => s.2 <+: t.2) (fun _ _ _ h h' => h.trans h') hx hf

lemma ite {c : Prop} [Decidable c] {x' : EStateM ε (σ × List ℓ) α} (h : Logs x) (h' : Logs x') :
    Logs (if c then x else x') := by
  split_ifs
  · exact h
  · exact h'

/-- What comes later does not take back the log. -/
lemma logged_bind (x : EStateM ε (σ × List ℓ) α) {f : α → EStateM ε (σ × List ℓ) β}
    (hf : ∀ a, Logs (f a)) (s : σ × List ℓ) : logged (x s) <+: logged ((x >>= f) s) :=
  Keeps.finalState_bind (S := fun s t : σ × List ℓ => s.2 <+: t.2) (fun _ => List.prefix_rfl) x hf s

/-- Nor does a handler. -/
lemma logged_tryCatch (x : EStateM ε (σ × List ℓ) α) {f : ε → EStateM ε (σ × List ℓ) α}
    (hf : ∀ e, Logs (f e)) (s : σ × List ℓ) :
    logged (x s) <+: logged ((MonadExcept.tryCatch x f : EStateM ε (σ × List ℓ) α) s) := by
  cases hxs : x s with
  | ok a t =>
    rw [tryCatch_ok hxs]
  | error e t =>
    rw [tryCatch_error hxs]
    exact hf e t

end Logs

end Effect
