import Mathlib.Data.List.Basic
import Mathlib.Logic.Function.Basic
import Mathlib.Data.Nat.Basic
import Mathlib.Order.Nat

/-!
# Insert-once maps

A map in which a key is given a value once: a second insertion is refused and changes nothing.
`answerAt ops i` is what the `i`-th operation of a history answers.

A server may hold back operations and carry them out later. `Replays ops m q m'` says that carrying
out the held-back operations `q` in order, starting from `m`, ends in `m'` and gives every one of
them the answer its place in the history calls for.
-/

namespace InsertOnce

variable {K V : Type*} [DecidableEq K]

inductive Op (K V : Type*)
  | insert (k : K) (v : V)
  | lookup (k : K)

inductive Answer (V : Type*)
  | inserted (fresh : Bool)
  | found (v : Option V)

/-- One operation: the new map and the answer. -/
def apply (m : K → Option V) : Op K V → (K → Option V) × Answer V
  | .insert k v =>
    match m k with
    | none   => (Function.update m k (some v), .inserted true)
    | some _ => (m, .inserted false)
  | .lookup k => (m, .found (m k))

lemma apply_insert_none {m : K → Option V} {k : K} (h : m k = none) (v : V) :
    apply m (.insert k v) = (Function.update m k (some v), .inserted true) := by
  simp [apply, h]

lemma apply_insert_some {m : K → Option V} {k : K} {v₀ : V} (h : m k = some v₀) (v : V) :
    apply m (.insert k v) = (m, .inserted false) := by
  simp [apply, h]

@[simp] lemma apply_lookup (m : K → Option V) (k : K) :
    apply m (.lookup k) = (m, .found (m k)) := rfl

/-- The map after a history. -/
def run (m : K → Option V) : List (Op K V) → K → Option V
  | []        => m
  | op :: ops => run (apply m op).1 ops

/-- The answer to the `i`-th operation of a history, which starts with the empty map. -/
def answerAt (ops : List (Op K V)) (i : ℕ) : Option (Answer V) :=
  ops[i]?.map fun op => (apply (run (fun _ => none) (ops.take i)) op).2

lemma run_append (m : K → Option V) (ops ops' : List (Op K V)) :
    run m (ops ++ ops') = run (run m ops) ops' := by
  induction ops generalizing m with
  | nil => rfl
  | cons op ops ih => exact ih _

/-- Later operations do not change earlier answers. -/
lemma answerAt_append {ops : List (Op K V)} {i : ℕ} {a : Answer V} (h : answerAt ops i = some a)
    (ops' : List (Op K V)) : answerAt (ops ++ ops') i = some a := by
  unfold answerAt at h ⊢
  have hi : i < ops.length := by
    by_contra hi
    rw [List.getElem?_eq_none (not_lt.mp hi)] at h
    cases h
  rw [List.getElem?_append_left hi, List.take_append_of_le_length hi.le]
  exact h

lemma answerAt_length (ops : List (Op K V)) (op : Op K V) :
    answerAt (ops ++ [op]) ops.length = some (apply (run (fun _ => none) ops) op).2 := by
  simp [answerAt]

/-- `v` is the first value the history inserts for `k`. -/
def FirstInsert (ops : List (Op K V)) (k : K) (v : V) : Prop :=
  ∃ ops₁ ops₂, ops = ops₁ ++ .insert k v :: ops₂ ∧ ∀ v', Op.insert k v' ∉ ops₁

omit [DecidableEq K] in
lemma firstInsert_cons {op : Op K V} {ops : List (Op K V)} {k : K} {v : V} :
    FirstInsert (op :: ops) k v ↔
      op = .insert k v ∨ (∀ v', op ≠ .insert k v') ∧ FirstInsert ops k v := by
  constructor
  · rintro ⟨ops₁, ops₂, heq, hno⟩
    cases ops₁ with
    | nil => exact .inl (List.cons.inj heq).1
    | cons op' ops₁ =>
      obtain ⟨rfl, rfl⟩ := List.cons.inj heq
      refine .inr ⟨fun v' h => hno v' (h ▸ List.mem_cons_self), ops₁, ops₂, rfl, fun v' h => ?_⟩
      exact hno v' (List.mem_cons_of_mem _ h)
  · rintro (rfl | ⟨hne, ops₁, ops₂, rfl, hno⟩)
    · exact ⟨[], ops, rfl, by simp⟩
    · refine ⟨op :: ops₁, ops₂, rfl, fun v' h => ?_⟩
      rcases List.mem_cons.mp h with rfl | h
      · exact hne v' rfl
      · exact hno v' h

/-- The value of a key is the one it had, or the first one inserted. -/
lemma run_eq_some_iff {m : K → Option V} {ops : List (Op K V)} {k : K} {v : V} :
    run m ops k = some v ↔ m k = some v ∨ m k = none ∧ FirstInsert ops k v := by
  induction ops generalizing m with
  | nil => simp [run, FirstInsert]
  | cons op ops ih =>
    rw [run, ih, firstInsert_cons]
    cases op with
    | lookup k' => simp [apply]
    | insert k' v' =>
      simp only [apply]
      by_cases hk : k = k'
      · subst hk
        cases hm : m k with
        | none => simp [eq_comm]
        | some v₀ => simp [hm]
      · cases hm : m k' with
        | none => simp [Function.update_of_ne hk, Ne.symm hk]
        | some v₀ => simp [Ne.symm hk]

omit [DecidableEq K] in
/-- If anything is inserted for a key, then something is inserted first. -/
lemma exists_firstInsert {ops : List (Op K V)} {k : K} {v : V} (h : Op.insert k v ∈ ops) :
    ∃ v', FirstInsert ops k v' := by
  induction ops with
  | nil => simp at h
  | cons op ops ih =>
    by_cases hop : ∃ v', op = .insert k v'
    · obtain ⟨v', rfl⟩ := hop
      exact ⟨v', firstInsert_cons.mpr (.inl rfl)⟩
    · rcases List.mem_cons.mp h with rfl | h
      · exact absurd ⟨v, rfl⟩ hop
      · obtain ⟨v', hv'⟩ := ih h
        exact ⟨v', firstInsert_cons.mpr (.inr ⟨not_exists.mp hop, hv'⟩)⟩

omit [DecidableEq K] in
lemma FirstInsert.mem {ops : List (Op K V)} {k : K} {v : V} (h : FirstInsert ops k v) :
    Op.insert k v ∈ ops := by
  obtain ⟨ops₁, ops₂, rfl, -⟩ := h
  simp

/-- A key has no value as long as nothing is inserted for it. -/
lemma run_eq_none_iff {ops : List (Op K V)} {k : K} :
    run (fun _ => none) ops k = none ↔ ∀ v, Op.insert k v ∉ ops := by
  constructor
  · intro h v hv
    obtain ⟨v', hv'⟩ := exists_firstInsert hv
    rw [run_eq_some_iff.mpr (.inr ⟨rfl, hv'⟩)] at h
    cases h
  · intro h
    cases hr : run (fun _ => none) ops k with
    | none => rfl
    | some v =>
      have hfirst := (run_eq_some_iff.mp hr).resolve_left (by simp)
      exact absurd hfirst.2.mem (h v)

/-! ### Operations held back -/

/-- Carrying out the held-back operations in order gives each the answer of its place. -/
def Replays (ops : List (Op K V)) : (K → Option V) → List (ℕ × Op K V) → (K → Option V) → Prop
  | m, [], m'           => m = m'
  | m, (i, op) :: q, m' => answerAt ops i = some (apply m op).2 ∧ Replays ops (apply m op).1 q m'

lemma Replays.append_ops {ops : List (Op K V)} {m m' : K → Option V} {q : List (ℕ × Op K V)}
    (h : Replays ops m q m') (ops' : List (Op K V)) : Replays (ops ++ ops') m q m' := by
  induction q generalizing m with
  | nil => exact h
  | cons e q ih => exact ⟨answerAt_append h.1 ops', ih h.2⟩

/-- One more operation is held back. -/
lemma Replays.concat {ops : List (Op K V)} {m m' : K → Option V} {q : List (ℕ × Op K V)}
    (h : Replays ops m q m') {i : ℕ} {op : Op K V} (hi : answerAt ops i = some (apply m' op).2) :
    Replays ops m (q ++ [(i, op)]) (apply m' op).1 := by
  induction q generalizing m with
  | nil =>
    obtain rfl : m = m' := h
    exact ⟨hi, rfl⟩
  | cons e q ih => exact ⟨h.1, ih h.2⟩

end InsertOnce
