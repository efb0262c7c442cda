import Mathlib.Tactic.Common

/-!
# Pre- and postconditions for programs with state and exceptions

Programs are computations of `EStateM ε σ`: they read and write a state `σ`, and end with a value
or with an exception `ε`. A handler sees the state the exception was thrown in, so nothing is rolled
back. `Triple P x Q R` says that `x`, started in a state satisfying `P`, either returns with `Q` or
throws with `R`; `Keeps R x` says that `x` moves the state only along the relation `R`, whether it
returns or throws.
-/

namespace Effect

universe u
variable {ε σ α β : Type u}

/-- From a state satisfying `P`, the program returns with `Q` or throws with `R`. -/
def Triple (P : σ → Prop) (x : EStateM ε σ α) (Q : α → σ → Prop) (R : ε → σ → Prop) : Prop :=
  ∀ s, P s → match x s with
    | .ok a s'    => Q a s'
    | .error e s' => R e s'

variable {P P' : σ → Prop} {Q Q' : α → σ → Prop} {R R' : ε → σ → Prop}

lemma Triple.conseq {A : σ → Prop} {B : α → σ → Prop} {C : ε → σ → Prop} {x : EStateM ε σ α}
    (h : Triple P x Q R) (hP : ∀ s, A s → P s) (hQ : ∀ a s, Q a s → B a s)
    (hR : ∀ e s, R e s → C e s) : Triple A x B C := by
  intro s hs
  have := h s (hP s hs)
  cases hx : x s with
  | ok a s' => rw [hx] at this; exact hQ a s' this
  | error e s' => rw [hx] at this; exact hR e s' this

lemma Triple.pure (a : α) (h : ∀ s, P s → Q a s) :
    Triple P (pure a : EStateM ε σ α) Q R := fun s hs => h s hs

lemma Triple.throw (e : ε) (h : ∀ s, P s → R e s) :
    Triple P (throw e : EStateM ε σ α) Q R := fun s hs => h s hs

/-- Sequencing: the exception of the first program is the exception of the whole. -/
lemma Triple.bind {x : EStateM ε σ α} {f : α → EStateM ε σ β} {S : β → σ → Prop}
    (hx : Triple P x Q R) (hf : ∀ a, Triple (Q a) (f a) S R) : Triple P (x >>= f) S R := by
  intro s hs
  have h := hx s hs
  change match EStateM.bind x f s with | .ok a s' => S a s' | .error e s' => R e s'
  unfold EStateM.bind
  cases hxs : x s with
  | ok a s' => rw [hxs] at h; exact hf a s' h
  | error e s' => rw [hxs] at h; exact h

/-- A handler runs in the state in which the exception was thrown. -/
lemma Triple.tryCatch {x : EStateM ε σ α} {f : ε → EStateM ε σ α}
    (hx : Triple P x Q R) (hf : ∀ e, Triple (R e) (f e) Q R') :
    Triple P (tryCatch x f) Q R' := by
  intro s hs
  have h := hx s hs
  change match EStateM.tryCatch x f s with | .ok a s' => Q a s' | .error e s' => R' e s'
  unfold EStateM.tryCatch
  cases hxs : x s with
  | ok a s' => rw [hxs] at h; exact h
  | error e s' => rw [hxs] at h; exact hf e s' h

lemma Triple.ite {c : Prop} [Decidable c] {x y : EStateM ε σ α}
    (hx : c → Triple P x Q R) (hy : ¬ c → Triple P y Q R) : Triple P (if c then x else y) Q R := by
  split_ifs with hc
  · exact hx hc
  · exact hy hc

/-- A program does what it does. -/
lemma Triple.self (x : EStateM ε σ α) (s : σ) :
    Triple (· = s) x (fun a s' => x s = .ok a s') (fun e s' => x s = .error e s') := by
  intro t ht
  subst ht
  cases x t with
  | ok a s' => rfl
  | error e s' => rfl

/-- Reading a triple at a state: the result of a returning program. -/
lemma Triple.of_ok {x : EStateM ε σ α} (h : Triple P x Q R) {s s' : σ} {a : α} (hs : P s)
    (hx : x s = .ok a s') : Q a s' := by
  have := h s hs
  rwa [hx] at this

/-- Reading a triple at a state: the result of a throwing program. -/
lemma Triple.of_error {x : EStateM ε σ α} (h : Triple P x Q R) {s s' : σ} {e : ε} (hs : P s)
    (hx : x s = .error e s') : R e s' := by
  have := h s hs
  rwa [hx] at this

/-- A program whose triple leaves no way to throw returns. -/
lemma Triple.exists_ok {x : EStateM ε σ α} (h : Triple P x Q R) {s : σ} (hs : P s)
    (hR : ∀ e s', ¬ R e s') : ∃ a s', x s = .ok a s' ∧ Q a s' := by
  cases hx : x s with
  | ok a s' => exact ⟨a, s', rfl, h.of_ok hs hx⟩
  | error e s' => exact absurd (h.of_error hs hx) (hR e s')

/-- Sequencing, computed: what the rest does after a first program that returns. -/
lemma bind_ok {x : EStateM ε σ α} {f : α → EStateM ε σ β} {s s' : σ} {a : α}
    (hx : x s = .ok a s') : (x >>= f) s = f a s' := by
  change EStateM.bind x f s = _
  simp [EStateM.bind, hx]

lemma bind_error {x : EStateM ε σ α} {f : α → EStateM ε σ β} {s s' : σ} {e : ε}
    (hx : x s = .error e s') : (x >>= f) s = .error e s' := by
  change EStateM.bind x f s = _
  simp [EStateM.bind, hx]

/-- Sequencing, inverted. -/
lemma bind_eq_ok {x : EStateM ε σ α} {f : α → EStateM ε σ β} {s t : σ} {b : β}
    (h : (x >>= f) s = .ok b t) : ∃ a s', x s = .ok a s' ∧ f a s' = .ok b t := by
  cases hx : x s with
  | ok a s' =>
    rw [bind_ok hx] at h
    exact ⟨a, s', rfl, h⟩
  | error e s' =>
    rw [bind_error hx] at h
    cases h

lemma get_bind (f : σ → EStateM ε σ β) (s : σ) : (get >>= f) s = f s s := rfl

lemma modify_bind (f : σ → σ) (g : PUnit → EStateM ε σ β) (s : σ) :
    ((modify f : EStateM ε σ PUnit) >>= g) s = g ⟨⟩ (f s) := rfl

lemma tryCatch_ok {x : EStateM ε σ α} {f : ε → EStateM ε σ α} {s s' : σ} {a : α}
    (hx : x s = .ok a s') : (tryCatch x f : EStateM ε σ α) s = .ok a s' := by
  change EStateM.tryCatch x f s = _
  simp [EStateM.tryCatch, hx]

lemma tryCatch_error {x : EStateM ε σ α} {f : ε → EStateM ε σ α} {s s' : σ} {e : ε}
    (hx : x s = .error e s') : (tryCatch x f : EStateM ε σ α) s = f e s' := by
  change EStateM.tryCatch x f s = _
  unfold EStateM.tryCatch
  rw [hx]
  rfl

lemma tryCatch_bind_error {x : EStateM ε σ α} {f : ε → EStateM ε σ α} {g : α → EStateM ε σ β}
    {s s' : σ} {e : ε} (hx : x s = .error e s') :
    ((tryCatch x f : EStateM ε σ α) >>= g) s = (f e >>= g) s' := by
  have hcatch : (tryCatch x f : EStateM ε σ α) s = f e s' := tryCatch_error hx
  change EStateM.bind _ g s = EStateM.bind _ g s'
  simp [EStateM.bind, hcatch]

/-! ### What a program leaves alone -/

/-- The state a program ends in. -/
def finalState : EStateM.Result ε σ α → σ
  | .ok _ s    => s
  | .error _ s => s

@[simp] lemma finalState_ok (a : α) (s : σ) :
    finalState (.ok a s : EStateM.Result ε σ α) = s := rfl

@[simp] lemma finalState_error (e : ε) (s : σ) :
    finalState (.error e s : EStateM.Result ε σ α) = s := rfl

/-- The program ends in a state related to the one it started in. -/
def Keeps (R : σ → σ → Prop) (x : EStateM ε σ α) : Prop := ∀ s, R s (finalState (x s))

variable {S : σ → σ → Prop}

lemma Keeps.pure (hrefl : ∀ s, S s s) (a : α) : Keeps S (pure a : EStateM ε σ α) :=
  fun s => hrefl s

lemma Keeps.throw (hrefl : ∀ s, S s s) (e : ε) : Keeps S (throw e : EStateM ε σ α) :=
  fun s => hrefl s

lemma Keeps.modify {f : σ → σ} (h : ∀ s, S s (f s)) :
    Keeps S (modify f : EStateM ε σ PUnit) := fun s => h s

lemma Keeps.bind (htrans : ∀ s t u, S s t → S t u → S s u) {x : EStateM ε σ α}
    {f : α → EStateM ε σ β} (hx : Keeps S x) (hf : ∀ a, Keeps S (f a)) : Keeps S (x >>= f) := by
  intro s
  have h := hx s
  cases hxs : x s with
  | ok a s' =>
    rw [bind_ok hxs]
    rw [hxs] at h
    exact htrans _ _ _ h (hf a s')
  | error e s' =>
    rw [bind_error hxs]
    rw [hxs] at h
    exact h

/-- What a second program adds to the first one. -/
lemma Keeps.finalState_bind (hrefl : ∀ s, S s s) (x : EStateM ε σ α) {f : α → EStateM ε σ β}
    (hf : ∀ a, Keeps S (f a)) (s : σ) : S (finalState (x s)) (finalState ((x >>= f) s)) := by
  cases hx : x s with
  | ok a s' =>
    rw [bind_ok hx]
    exact hf a s'
  | error e s' =>
    rw [bind_error hx]
    exact hrefl s'

/-- `get` followed by a program that is given the state. -/
lemma Keeps.get_bind {f : σ → EStateM ε σ β} (hf : ∀ s, S s (finalState (f s s))) :
    Keeps S (get >>= f) := fun s => hf s

lemma Keeps.tryCatch (htrans : ∀ s t u, S s t → S t u → S s u) {x : EStateM ε σ α}
    {f : ε → EStateM ε σ α} (hx : Keeps S x) (hf : ∀ e, Keeps S (f e)) :
    Keeps S (tryCatch x f) := by
  intro s
  have h := hx s
  cases hxs : x s with
  | ok a s' =>
    rw [tryCatch_ok hxs]
    rw [hxs] at h
    exact h
  | error e s' =>
    rw [tryCatch_error hxs]
    rw [hxs] at h
    exact htrans _ _ _ h (hf e s')

lemma Keeps.mono {S' : σ → σ → Prop} {x : EStateM ε σ α} (h : Keeps S x)
    (hS : ∀ s t, S s t → S' s t) : Keeps S' x := fun s => hS _ _ (h s)

/-- A triple together with a condition the program keeps. -/
lemma Triple.frame {G : σ → Prop} {x : EStateM ε σ α} (h : Triple P x Q R) (hx : Keeps S x)
    (hG : ∀ s t, S s t → G s → G t) :
    Triple (fun s => P s ∧ G s) x (fun a s => Q a s ∧ G s) (fun e s => R e s ∧ G s) := by
  intro s ⟨hs, hg⟩
  have hpost := h s hs
  have hkeep := hG _ _ (hx s) hg
  cases hxs : x s with
  | ok a s' =>
    rw [hxs] at hpost hkeep
    exact ⟨hpost, hkeep⟩
  | error e s' =>
    rw [hxs] at hpost hkeep
    exact ⟨hpost, hkeep⟩

lemma Keeps.of_ok {x : EStateM ε σ α} (h : Keeps S x) {s s' : σ} {a : α} (hx : x s = .ok a s') :
    S s s' := by
  have := h s
  rwa [hx] at this

lemma Keeps.of_error {x : EStateM ε σ α} (h : Keeps S x) {s s' : σ} {e : ε}
    (hx : x s = .error e s') : S s s' := by
  have := h s
  rwa [hx] at this

end Effect
