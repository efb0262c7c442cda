import Mathlib.Data.List.Basic
import Mathlib.Data.Option.Basic

/-!
# Runs of partial step functions

A machine is a partial step function `step : σ → ε → Option σ` on states `σ` and events `ε`;
`none` means that the event is not enabled. `run` folds a machine over a list of events, and
`Guarded` says that every event of the list meets a condition in the state it is taken in.

The rules at the end turn a fact about one step into a fact about every run.
-/

namespace Machine

variable {σ ε : Type*} (step : σ → ε → Option σ)

/-- Take the events in order; `none` as soon as one of them is not enabled. -/
def run : σ → List ε → Option σ
  | s, []      => some s
  | s, e :: es => (step s e).bind fun s' => run s' es

/-- Every event of the list meets `G` in the state in which it is taken. -/
def Guarded (G : σ → ε → Prop) : σ → List ε → Prop
  | _, []      => True
  | s, e :: es => G s e ∧ ∀ s', step s e = some s' → Guarded G s' es

variable {step}

/-- A step that is taken under a condition. -/
lemma eq_of_ite {p : Prop} [Decidable p] {s t : σ} (h : (if p then some t else none) = some s) :
    t = s :=
  Option.some.inj (Option.ite_none_right_eq_some.mp h).2

@[simp] lemma run_nil (s : σ) : run step s [] = some s := rfl

lemma run_cons (s : σ) (e : ε) (es : List ε) :
    run step s (e :: es) = (step s e).bind fun s' => run step s' es := rfl

lemma run_cons_eq_some {s t : σ} {e : ε} {es : List ε} :
    run step s (e :: es) = some t ↔ ∃ s', step s e = some s' ∧ run step s' es = some t := by
  rw [run_cons, Option.bind_eq_some_iff]

lemma run_append (s : σ) (es fs : List ε) :
    run step s (es ++ fs) = (run step s es).bind fun s' => run step s' fs := by
  induction es generalizing s with
  | nil => rfl
  | cons e es ih =>
    simp only [List.cons_append, run_cons, Option.bind_assoc]
    congr 1
    funext s'
    exact ih s'

lemma run_append_eq_some {s t : σ} {es fs : List ε} :
    run step s (es ++ fs) = some t ↔ ∃ s', run step s es = some s' ∧ run step s' fs = some t := by
  rw [run_append, Option.bind_eq_some_iff]

lemma run_concat_eq_some {s t : σ} {es : List ε} {e : ε} :
    run step s (es ++ [e]) = some t ↔ ∃ s', run step s es = some s' ∧ step s' e = some t := by
  rw [run_append_eq_some]
  simp [run_cons]

lemma Guarded.cons {G : σ → ε → Prop} {s s' : σ} {e : ε} {es : List ε} (hstep : step s e = some s')
    (he : G s e) (hes : Guarded step G s' es) : Guarded step G s (e :: es) := by
  refine ⟨he, fun t ht => ?_⟩
  rw [hstep] at ht
  cases ht
  exact hes

/-- A condition on the events alone. -/
lemma guarded_of_forall {p : ε → Prop} {s : σ} {es : List ε} (h : ∀ e ∈ es, p e) :
    Guarded step (fun _ e => p e) s es := by
  induction es generalizing s with
  | nil => trivial
  | cons e es ih =>
    exact ⟨h e List.mem_cons_self, fun s' _ => ih fun e' he' => h e' (List.mem_cons_of_mem e he')⟩

lemma Guarded.mono {G G' : σ → ε → Prop} {s : σ} {es : List ε} (h : Guarded step G s es)
    (hG : ∀ s e, G s e → G' s e) : Guarded step G' s es := by
  induction es generalizing s with
  | nil => trivial
  | cons e es ih => exact ⟨hG s e h.1, fun s' hs' => ih (h.2 s' hs')⟩

/-- A condition on the events is added to the guard. -/
lemma Guarded.and_forall {G : σ → ε → Prop} {p : ε → Prop} {s : σ} {es : List ε}
    (hG : Guarded step G s es) (hp : ∀ e ∈ es, p e) :
    Guarded step (fun s e => G s e ∧ p e) s es := by
  induction es generalizing s with
  | nil => trivial
  | cons e es ih =>
    exact ⟨⟨hG.1, hp e List.mem_cons_self⟩,
      fun s' hs' => ih (hG.2 s' hs') fun e' he' => hp e' (List.mem_cons_of_mem e he')⟩

/-- A guarded run is guarded in the middle. -/
lemma Guarded.append {G : σ → ε → Prop} {s : σ} {es fs : List ε} (h : Guarded step G s (es ++ fs)) :
    Guarded step G s es ∧ ∀ t, run step s es = some t → Guarded step G t fs := by
  induction es generalizing s with
  | nil =>
    refine ⟨trivial, fun t ht => ?_⟩
    cases ht
    exact h
  | cons e es ih =>
    refine ⟨⟨h.1, fun s' hs' => (ih (h.2 s' hs')).1⟩, fun t ht => ?_⟩
    obtain ⟨s', hs', ht⟩ := run_cons_eq_some.mp ht
    exact (ih (h.2 s' hs')).2 t ht

lemma Guarded.cons_run {G : σ → ε → Prop} {s s' t : σ} {e : ε} {es : List ε}
    (hstep : step s e = some s') (he : G s e)
    (hes : Guarded step G s' es ∧ run step s' es = some t) :
    Guarded step G s (e :: es) ∧ run step s (e :: es) = some t :=
  ⟨.cons hstep he hes.1, run_cons_eq_some.mpr ⟨s', hstep, hes.2⟩⟩

/-- Guarded runs one after the other. -/
lemma Guarded.append_run {G : σ → ε → Prop} {s u t : σ} {es fs : List ε}
    (hes : Guarded step G s es ∧ run step s es = some u)
    (hfs : Guarded step G u fs ∧ run step u fs = some t) :
    Guarded step G s (es ++ fs) ∧ run step s (es ++ fs) = some t := by
  induction es generalizing s with
  | nil =>
    obtain rfl : s = u := Option.some.inj hes.2
    exact hfs
  | cons e es ih =>
    obtain ⟨s', hs', hrun⟩ := run_cons_eq_some.mp hes.2
    exact Guarded.cons_run hs' hes.1.1 (ih ⟨hes.1.2 s' hs', hrun⟩)

/-- The invariant rule: what every guarded step preserves, every guarded run preserves. -/
theorem run_invariant {I : σ → Prop} {G : σ → ε → Prop}
    (hstep : ∀ s e s', I s → G s e → step s e = some s' → I s')
    {s t : σ} {es : List ε} (h₀ : I s) (hG : Guarded step G s es)
    (hrun : run step s es = some t) : I t := by
  induction es generalizing s with
  | nil => simpa using Option.some.inj hrun ▸ h₀
  | cons e es ih =>
    obtain ⟨s', hs, hrest⟩ := run_cons_eq_some.mp hrun
    exact ih (hstep s e s' h₀ hG.1 hs) (hG.2 s' hs) hrest

/-- The invariant rule for what relates the state to the events that led to it. -/
theorem run_invariant_past {I : List ε → σ → Prop} {G : σ → ε → Prop}
    (hstep : ∀ past s e s', I past s → G s e → step s e = some s' → I (past ++ [e]) s')
    {past es : List ε} {s t : σ} (h₀ : I past s) (hG : Guarded step G s es)
    (hrun : run step s es = some t) : I (past ++ es) t := by
  induction es generalizing past s with
  | nil => simpa using Option.some.inj hrun ▸ h₀
  | cons e es ih =>
    obtain ⟨s', hs, hrest⟩ := run_cons_eq_some.mp hrun
    rw [List.append_cons]
    exact ih (hstep past s e s' h₀ hG.1 hs) (hG.2 s' hs) hrest

/-- If every step that is possible leaves less to do, and one is possible as long as anything is
left to do, then the machine can go on until nothing is left. -/
theorem exists_run_to_zero {I : σ → Prop} {R : σ → σ → Prop} {w : σ → ℕ}
    (hrefl : ∀ s, R s s) (htrans : ∀ s t u, R s t → R t u → R s u)
    (hprogress : ∀ s, I s → 0 < w s → ∃ e s', step s e = some s' ∧ I s' ∧ R s s' ∧ w s' < w s)
    {s : σ} (hs : I s) : ∃ es t, run step s es = some t ∧ I t ∧ R s t ∧ w t = 0 := by
  induction hn : w s using Nat.strongRecOn generalizing s with
  | ind n ih =>
    subst hn
    rcases Nat.eq_zero_or_pos (w s) with hzero | hpos
    · exact ⟨[], s, rfl, hs, hrefl s, hzero⟩
    · obtain ⟨e, s', hstep, hs', hR, hlt⟩ := hprogress s hs hpos
      obtain ⟨es, t, hrun, ht, hR', hzero⟩ := ih _ hlt hs' rfl
      exact ⟨e :: es, t, run_cons_eq_some.mpr ⟨s', hstep, hrun⟩, ht, htrans _ _ _ hR hR', hzero⟩

/-- The invariant rule for machines without a guard. -/
theorem run_invariant' {I : σ → Prop}
    (hstep : ∀ s e s', I s → step s e = some s' → I s')
    {s t : σ} {es : List ε} (h₀ : I s) (hrun : run step s es = some t) : I t := by
  induction es generalizing s with
  | nil => simpa using Option.some.inj hrun ▸ h₀
  | cons e es ih =>
    obtain ⟨s', hs, hrest⟩ := run_cons_eq_some.mp hrun
    exact ih (hstep s e s' h₀ hs) hrest

/-- Where a step breaks `P` exactly if it does not meet the guard, a run is guarded just if `P`
holds in all its states. -/
theorem guarded_iff_reaches {I P : σ → Prop} {G : σ → ε → Prop} (hP : ∀ s, I s → P s)
    (hkeep : ∀ s e s', I s → G s e → step s e = some s' → I s')
    (hbreak : ∀ s e s', I s → ¬ G s e → step s e = some s' → ¬ P s')
    {s t : σ} {es : List ε} (h₀ : I s) (hrun : run step s es = some t) :
    Guarded step G s es ↔ ∀ fs u, fs <+: es → run step s fs = some u → P u := by
  refine ⟨fun hG fs u hfs hu => ?_, fun h => ?_⟩
  · obtain ⟨gs, rfl⟩ := hfs
    exact hP u (run_invariant hkeep h₀ hG.append.1 hu)
  · induction es generalizing s with
    | nil => trivial
    | cons e es ih =>
      obtain ⟨s', hs, hrest⟩ := run_cons_eq_some.mp hrun
      have he : G s e := by
        by_contra he
        refine hbreak s e s' h₀ he hs (h [e] s' (by simp) ?_)
        simp [run_cons, hs]
      refine .cons hs he (ih (hkeep s e s' h₀ he hs) hrest fun fs u hfs hu => ?_)
      exact h (e :: fs) u (List.prefix_cons_inj e |>.mpr hfs)
        (run_cons_eq_some.mpr ⟨s', hs, hu⟩)

/-! ### Runs that are evaluated -/

variable (step) in
/-- Whether every event meets the guard when it is taken. -/
def checks (g : σ → ε → Bool) : σ → List ε → Bool
  | _, []      => true
  | s, e :: es => g s e && (step s e).all fun s' => checks g s' es

lemma guarded_of_checks {g : σ → ε → Bool} {s : σ} {es : List ε} (h : checks step g s es = true) :
    Guarded step (fun s e => g s e = true) s es := by
  induction es generalizing s with
  | nil => trivial
  | cons e es ih =>
    simp only [checks, Bool.and_eq_true] at h
    refine ⟨h.1, fun s' hs' => ih ?_⟩
    simpa [hs'] using h.2

variable (step) in
/-- A guarded run is found by evaluating it. -/
lemma exists_run (start : Option σ) (g : σ → ε → Bool) (es : List ε) (p : σ → Bool)
    (h : (start.any fun s => checks step g s es && (run step s es).any p) = true) :
    ∃ s t, start = some s ∧ Guarded step (fun s e => g s e = true) s es ∧
      run step s es = some t ∧ p t = true := by
  obtain ⟨s, hs, h⟩ := Option.any_eq_true _ _ |>.mp h
  rw [Bool.and_eq_true] at h
  obtain ⟨t, ht, hp⟩ := Option.any_eq_true _ _ |>.mp h.2
  exact ⟨s, t, hs, guarded_of_checks h.1, ht, hp⟩

/-- What a run ends in is found by evaluating it. -/
lemma exists_run_of_any {s : σ} {es : List ε} {p : σ → Prop} [DecidablePred p]
    (h : ((run step s es).any fun t => decide (p t)) = true) :
    ∃ t, run step s es = some t ∧ p t := by
  obtain ⟨t, ht, hp⟩ := Option.any_eq_true _ _ |>.mp h
  exact ⟨t, ht, of_decide_eq_true hp⟩

/-! ### What a run looks like from outside -/

section View

variable {σ' ε' : Type*} (step) (act : σ → ε → Option ε')

/-- The actions that a run takes; an event that is not one of them is left out. -/
def trace : σ → List ε → List ε'
  | _, []      => []
  | s, e :: es => (act s e).toList ++ ((step s e).map fun s' => trace s' es).getD []

variable {step act}

lemma trace_cons {s s' : σ} {e : ε} (hstep : step s e = some s') (es : List ε) :
    trace step act s (e :: es) = (act s e).toList ++ trace step act s' es := by
  simp [trace, hstep]

/-- Seen through `view`, an event is the action it takes, or nothing happens. -/
structure Views (step : σ → ε → Option σ) (step' : σ' → ε' → Option σ')
    (act : σ → ε → Option ε') (view : σ → σ') : Prop where
  quiet : ∀ s e s', step s e = some s' → act s e = none → view s' = view s
  acts : ∀ s e s' a, step s e = some s' → act s e = some a → step' (view s) a = some (view s')

/-- A run is seen as a run of the actions it takes, and meets their guards. -/
theorem Views.run {step' : σ' → ε' → Option σ'} {view : σ → σ'} (h : Views step step' act view)
    {G : σ' → ε' → Prop} {s t : σ} {es : List ε}
    (hG : Guarded step (fun s e => ∀ a ∈ act s e, G (view s) a) s es)
    (hrun : run step s es = some t) :
    Guarded step' G (view s) (trace step act s es) ∧
      Machine.run step' (view s) (trace step act s es) = some (view t) := by
  induction es generalizing s with
  | nil =>
    cases hrun
    exact ⟨trivial, rfl⟩
  | cons e es ih =>
    obtain ⟨s', hs, hrest⟩ := run_cons_eq_some.mp hrun
    have hes := ih (hG.2 s' hs) hrest
    rw [trace_cons hs]
    cases ha : act s e with
    | none => exact h.quiet s e s' hs ha ▸ hes
    | some a => exact Guarded.cons_run (h.acts s e s' a hs ha) (hG.1 a ha) hes

end View

end Machine
