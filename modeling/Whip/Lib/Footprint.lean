import Whip.Lib.Effect

/-!
# The part of a state that a program touches

A footprint is given by two functions of the state: `part`, which forgets everything outside, and
`rest`, which is what lies outside. `Within part rest P x Q` says that a program started in a state
satisfying `P` does on the part alone what it does on the whole state, so that it reads nothing
outside, and that it leaves the rest as it was, so that it writes nothing outside.
-/

namespace Effect

universe u
variable {ε σ α β τ : Type u}

/-- The program keeps inside the footprint, and a returning one ends with `Q`. -/
def Within (part : σ → σ) (rest : σ → τ) (P : σ → Prop) (x : EStateM ε σ α) (Q : σ → Prop) : Prop :=
  ∀ s, P s → match x s with
    | .ok a s'    => x (part s) = .ok a (part s') ∧ rest s' = rest s ∧ Q s'
    | .error e s' => x (part s) = .error e (part s') ∧ rest s' = rest s

namespace Within

variable {part : σ → σ} {rest : σ → τ} {P P' Q Q' S : σ → Prop}

lemma pure (a : α) : Within part rest P (pure a : EStateM ε σ α) P :=
  fun _ hs => ⟨rfl, rfl, hs⟩

lemma throw (e : ε) : Within part rest P (throw e : EStateM ε σ α) Q := fun _ _ => ⟨rfl, rfl⟩

lemma conseq {x : EStateM ε σ α} (h : Within part rest P x Q) (hP : ∀ s, P' s → P s)
    (hQ : ∀ s, Q s → Q' s) : Within part rest P' x Q' := by
  intro s hs
  have hx := h s (hP s hs)
  cases hxs : x s with
  | ok a s' =>
    rw [hxs] at hx
    exact ⟨hx.1, hx.2.1, hQ s' hx.2.2⟩
  | error e s' =>
    rw [hxs] at hx
    exact hx

lemma bind {x : EStateM ε σ α} {f : α → EStateM ε σ β} (hx : Within part rest P x Q)
    (hf : ∀ a, Within part rest Q (f a) S) : Within part rest P (x >>= f) S := by
  intro s hs
  have h := hx s hs
  cases hxs : x s with
  | error e s' =>
    rw [hxs] at h
    rw [bind_error hxs]
    exact ⟨bind_error h.1, h.2⟩
  | ok a s' =>
    rw [hxs] at h
    rw [bind_ok hxs, bind_ok h.1]
    have h' := hf a s' h.2.2
    cases hfs : f a s' with
    | ok b t =>
      rw [hfs] at h'
      exact ⟨h'.1, h'.2.1.trans h.2.1, h'.2.2⟩
    | error e t =>
      rw [hfs] at h'
      exact ⟨h'.1, h'.2.trans h.2.1⟩

/-- What stands after an exception is not run. -/
lemma throw_bind (e : ε) (f : α → EStateM ε σ β) :
    Within part rest P (MonadExcept.throw e >>= f) Q :=
  fun _ _ => ⟨rfl, rfl⟩

/-- Nothing is known of the state a handler starts in. -/
lemma tryCatch {x : EStateM ε σ α} {f : ε → EStateM ε σ α} (hx : Within part rest P x Q)
    (hf : ∀ e, Within part rest P' (f e) Q) (hP' : ∀ s, P' s) :
    Within part rest P (tryCatch x f) Q := by
  intro s hs
  have h := hx s hs
  cases hxs : x s with
  | ok a s' =>
    rw [hxs] at h
    rw [tryCatch_ok hxs]
    exact ⟨tryCatch_ok h.1, h.2⟩
  | error e s' =>
    rw [hxs] at h
    rw [tryCatch_error hxs, tryCatch_error h.1]
    have h' := hf e s' (hP' s')
    cases hfs : f e s' with
    | ok b t =>
      rw [hfs] at h'
      exact ⟨h'.1, h'.2.1.trans h.2, h'.2.2⟩
    | error e t =>
      rw [hfs] at h'
      exact ⟨h'.1, h'.2.trans h.2⟩

/-- An update that commutes with the footprint and leaves the rest alone. -/
lemma modify {f : σ → σ} (hpart : ∀ s, P s → f (part s) = part (f s))
    (hrest : ∀ s, P s → rest (f s) = rest s) (hQ : ∀ s, P s → Q (f s)) :
    Within part rest P (modify f : EStateM ε σ PUnit) Q := by
  intro s hs
  refine ⟨?_, hrest s hs, hQ s hs⟩
  change EStateM.Result.ok PUnit.unit (f (part s)) = _
  rw [hpart s hs]

/-- A program that is given the state, but looks only at the part. -/
lemma get_bind {f : σ → EStateM ε σ β} (hpart : ∀ s, P s → f (part s) = f s)
    (hf : ∀ s, Within part rest P (f s) Q) : Within part rest P (get >>= f) Q := by
  intro s hs
  have h := hf s s hs
  rw [Effect.get_bind, Effect.get_bind, hpart s hs]
  exact h

lemma ite {c : Prop} [Decidable c] {x y : EStateM ε σ α} (hx : Within part rest P x Q)
    (hy : Within part rest P y Q) : Within part rest P (if c then x else y) Q := by
  split_ifs
  · exact hx
  · exact hy

end Within

end Effect
