import Whip.Lib.Machine
import Mathlib.Logic.Function.Basic

/-!
# Checking and claiming in two steps

Several threads compete for one token. A thread checks whether the token is claimed, and if it is
not, claims it and carries its work out; the check and the claim are separate steps, and the token
may be released at any time.

Between two releases the work is carried out at most once if no thread checks while another is about
to claim, and the token is not released while a thread that has claimed it has its work still to do.
-/

namespace ClaimOnce

/-- How far a thread has come. -/
inductive Stage
  | checking
  | refusing
  | claiming
  | pushing
deriving DecidableEq

structure State (τ : Type*) where
  claimed : Bool
  stage : τ → Option Stage

inductive Act (τ : Type*)
  | start (t : τ)
  | check (t : τ)
  | refuse (t : τ)
  | claim (t : τ)
  | push (t : τ)
  | release

variable {τ : Type*}

def Act.isPush : Act τ → Bool
  | push _ => true
  | _      => false

def Act.isRelease : Act τ → Bool
  | release => true
  | _       => false

variable [DecidableEq τ]

def moveTo (s : State τ) (t : τ) (stage : Option Stage) : State τ :=
  { s with stage := Function.update s.stage t stage }

def step (s : State τ) : Act τ → Option (State τ)
  | .start t => if s.stage t = none then some (moveTo s t (some .checking)) else none
  | .check t =>
    if s.stage t = some .checking then
      some (moveTo s t (some (if s.claimed then .refusing else .claiming)))
    else none
  | .refuse t => if s.stage t = some .refusing then some (moveTo s t none) else none
  | .claim t =>
    if s.stage t = some .claiming then
      some (moveTo { s with claimed := true } t (some .pushing))
    else none
  | .push t => if s.stage t = some .pushing then some (moveTo s t none) else none
  | .release => some { s with claimed := false }

/-- No thread checks while another is about to claim, and nothing is released that is about to be
used. -/
def Serial (s : State τ) : Act τ → Prop
  | .check _ => ∀ t, s.stage t ≠ some .claiming
  | .release => ∀ t, s.stage t ≠ some .pushing
  | _        => True

/-- At most one thread has found the token free, and it alone may claim it or has claimed it. -/
structure Exclusive (s : State τ) : Prop where
  claiming : ∀ t t', s.stage t = some .claiming → s.stage t' = some .claiming → t = t'
  pushing : ∀ t t', s.stage t = some .pushing → s.stage t' = some .pushing → t = t'
  claimed : ∀ t, s.stage t = some .pushing → s.claimed = true
  unclaimed : ∀ t, s.stage t = some .claiming → s.claimed = false

variable {s s' : State τ} {a : Act τ}

lemma stage_moveTo {t t' : τ} {stage : Option Stage} {x : Stage}
    (h : (moveTo s t stage).stage t' = some x) :
    t' = t ∧ stage = some x ∨ t' ≠ t ∧ s.stage t' = some x := by
  simp only [moveTo, Function.update_apply] at h
  split_ifs at h with ht
  · exact .inl ⟨ht, h⟩
  · exact .inr ⟨ht, h⟩

/-- A thread that is neither about to claim nor about to push does no harm. -/
lemma Exclusive.moveTo (h : Exclusive s) (t : τ) {stage : Option Stage}
    (hclaiming : stage ≠ some .claiming) (hpushing : stage ≠ some .pushing) :
    Exclusive (moveTo s t stage) := by
  have hold {t' : τ} {x : Stage} (hx : stage ≠ some x)
      (ht' : (ClaimOnce.moveTo s t stage).stage t' = some x) : s.stage t' = some x := by
    obtain ⟨-, heq⟩ | ⟨-, hold⟩ := stage_moveTo ht'
    · exact absurd heq hx
    · exact hold
  exact {
    claiming := fun t₁ t₂ h₁ h₂ => h.claiming t₁ t₂ (hold hclaiming h₁) (hold hclaiming h₂)
    pushing := fun t₁ t₂ h₁ h₂ => h.pushing t₁ t₂ (hold hpushing h₁) (hold hpushing h₂)
    claimed := fun t₁ h₁ => h.claimed t₁ (hold hpushing h₁)
    unclaimed := fun t₁ h₁ => h.unclaimed t₁ (hold hclaiming h₁) }

lemma Exclusive.check (h : Exclusive s) (t : τ) (hfree : ∀ t, s.stage t ≠ some .claiming)
    (hclaimed : s.claimed = false) : Exclusive (ClaimOnce.moveTo s t (some .claiming)) := by
  have honly {t' : τ} (ht' : (ClaimOnce.moveTo s t (some .claiming)).stage t' = some .claiming) :
      t' = t := by
    obtain ⟨heq, -⟩ | ⟨-, hold⟩ := stage_moveTo ht'
    · exact heq
    · exact absurd hold (hfree t')
  have hnone {t' : τ} (ht' : (ClaimOnce.moveTo s t (some .claiming)).stage t' = some .pushing) :
      False := by
    obtain ⟨-, heq⟩ | ⟨-, hold⟩ := stage_moveTo ht'
    · simp at heq
    · simp [h.claimed t' hold] at hclaimed
  exact {
    claiming := fun t₁ t₂ h₁ h₂ => (honly h₁).trans (honly h₂).symm
    pushing := fun t₁ _ h₁ _ => (hnone h₁).elim
    claimed := fun t₁ h₁ => (hnone h₁).elim
    unclaimed := fun _ _ => hclaimed }

lemma Exclusive.claim (h : Exclusive s) {t : τ} (ht : s.stage t = some .claiming) :
    Exclusive (ClaimOnce.moveTo { s with claimed := true } t (some .pushing)) := by
  have hunclaimed := h.unclaimed t ht
  have hnone {t' : τ} (ht' : (ClaimOnce.moveTo { s with claimed := true } t
      (some .pushing)).stage t' = some .claiming) : False := by
    obtain ⟨-, heq⟩ | ⟨hne, hold⟩ := stage_moveTo ht'
    · simp at heq
    · exact hne (h.claiming t' t hold ht)
  have honly {t' : τ} (ht' : (ClaimOnce.moveTo { s with claimed := true } t
      (some .pushing)).stage t' = some .pushing) : t' = t := by
    obtain ⟨heq, -⟩ | ⟨-, hold⟩ := stage_moveTo ht'
    · exact heq
    · have hclaimed := h.claimed t' hold
      simp [hunclaimed] at hclaimed
  exact {
    claiming := fun t₁ _ h₁ _ => (hnone h₁).elim
    pushing := fun t₁ t₂ h₁ h₂ => (honly h₁).trans (honly h₂).symm
    claimed := fun _ _ => rfl
    unclaimed := fun t₁ h₁ => (hnone h₁).elim }

/-- A thread that finds the token free while checks are serial is the only one. -/
lemma Exclusive.step (h : Exclusive s) (hserial : Serial s a) (hs : step s a = some s') :
    Exclusive s' := by
  cases a with
  | start t | refuse t | push t =>
    obtain rfl := Machine.eq_of_ite hs
    exact h.moveTo t (by simp) (by simp)
  | check t =>
    obtain rfl := Machine.eq_of_ite hs
    cases hclaimed : s.claimed with
    | true => exact h.moveTo t (by simp) (by simp)
    | false => exact h.check t hserial hclaimed
  | claim t =>
    simp only [ClaimOnce.step, Option.ite_none_right_eq_some, Option.some.injEq] at hs
    obtain ⟨ht, rfl⟩ := hs
    exact h.claim ht
  | release =>
    cases hs
    exact {
      claiming := h.claiming
      pushing := h.pushing
      claimed := fun t ht => absurd ht (hserial t)
      unclaimed := fun _ _ => rfl }

/-- The work of this claim has been carried out. -/
def Spent (s : State τ) : Prop := s.claimed = true ∧ ∀ t, s.stage t ≠ some .pushing

lemma Exclusive.spent_push (h : Exclusive s) {t : τ} (hs : ClaimOnce.step s (.push t) = some s') :
    Spent s' := by
  simp only [ClaimOnce.step, Option.ite_none_right_eq_some, Option.some.injEq] at hs
  obtain ⟨ht, rfl⟩ := hs
  refine ⟨h.claimed t ht, fun t' ht' => ?_⟩
  obtain ⟨-, heq⟩ | ⟨hne, hold⟩ := stage_moveTo ht'
  · cases heq
  · exact hne (h.pushing t' t hold ht)

/-- Until the next release nothing more is done. -/
lemma Spent.step (h : Spent s) (hex : Exclusive s) (hrelease : a.isRelease = false)
    (hs : ClaimOnce.step s a = some s') : Spent s' ∧ a.isPush = false := by
  have hmove (t : τ) {stage : Option Stage} (hne : stage ≠ some .pushing) :
      Spent (moveTo s t stage) := by
    refine ⟨h.1, fun t' ht' => ?_⟩
    obtain ⟨-, heq⟩ | ⟨-, hold⟩ := stage_moveTo ht'
    · exact hne heq
    · exact h.2 t' hold
  cases a with
  | start t | refuse t =>
    obtain rfl := Machine.eq_of_ite hs
    exact ⟨hmove t (by simp), rfl⟩
  | check t =>
    simp only [ClaimOnce.step, Option.ite_none_right_eq_some, Option.some.injEq, h.1] at hs
    obtain ⟨-, rfl⟩ := hs
    exact ⟨hmove t (by simp), rfl⟩
  | claim t =>
    simp only [ClaimOnce.step, Option.ite_none_right_eq_some] at hs
    have hfree := hex.unclaimed t hs.1
    rw [h.1] at hfree
    cases hfree
  | push t =>
    simp only [ClaimOnce.step, Option.ite_none_right_eq_some] at hs
    exact absurd hs.1 (h.2 t)
  | release => cases hrelease

lemma countP_isPush_of_spent {t : State τ} {as : List (Act τ)} (h : Spent s) (hex : Exclusive s)
    (hserial : Machine.Guarded ClaimOnce.step (fun s a => Serial s a ∧ a.isRelease = false) s as)
    (hrun : Machine.run ClaimOnce.step s as = some t) : as.countP Act.isPush = 0 := by
  induction as generalizing s with
  | nil => rfl
  | cons a as ih =>
    obtain ⟨s', hs, hrest⟩ := Machine.run_cons_eq_some.mp hrun
    obtain ⟨hspent, hpush⟩ := h.step hex hserial.1.2 hs
    rw [List.countP_cons_of_neg (by simp [hpush])]
    exact ih hspent (hex.step hserial.1.1 hs) (hserial.2 s' hs) hrest

/-- Between two releases the work is carried out at most once. -/
theorem countP_isPush_le_one {t : State τ} {as : List (Act τ)} (h : Exclusive s)
    (hserial : Machine.Guarded ClaimOnce.step (fun s a => Serial s a ∧ a.isRelease = false) s as)
    (hrun : Machine.run ClaimOnce.step s as = some t) : as.countP Act.isPush ≤ 1 := by
  induction as generalizing s with
  | nil => simp
  | cons a as ih =>
    obtain ⟨s', hs, hrest⟩ := Machine.run_cons_eq_some.mp hrun
    have hex := h.step hserial.1.1 hs
    cases a with
    | push t =>
      rw [List.countP_cons_of_pos (by rfl)]
      have hzero := countP_isPush_of_spent (h.spent_push hs) hex (hserial.2 s' hs) hrest
      omega
    | _ =>
      rw [List.countP_cons_of_neg (by simp [Act.isPush])]
      exact ih hex (hserial.2 s' hs) hrest

end ClaimOnce
