import Mathlib.Algebra.BigOperators.Group.List.Basic
import Mathlib.Algebra.Order.BigOperators.Group.List
import Mathlib.Algebra.Order.Ring.Nat
import Mathlib.Data.List.Infix

/-!
# The longest prefix within a budget

Every element of a list has a weight. The prefixes whose weights sum up to at most a given budget
have a longest one, and dropping elements from the end until the rest fits finds it.
-/

namespace Budget

variable {α : Type*} {w : α → ℕ} {m : ℕ} {l p : List α}

/-- What the elements of the list weigh together. -/
def total (w : α → ℕ) (l : List α) : ℕ := (l.map w).sum

@[simp] lemma total_nil : total w ([] : List α) = 0 := rfl

@[simp] lemma total_cons (a : α) : total w (a :: l) = w a + total w l := by simp [total]

@[simp] lemma total_append (l l' : List α) : total w (l ++ l') = total w l + total w l' := by
  simp [total]

lemma total_perm {l' : List α} (h : l.Perm l') : total w l = total w l' := (h.map w).sum_eq

lemma total_le_of_prefix (h : p <+: l) : total w p ≤ total w l := by
  obtain ⟨rest, rfl⟩ := h
  simp

/-- The list without the elements of a class, and those. -/
lemma total_filter_add (q : α → Bool) (l : List α) :
    total w (l.filter q) + total w (l.filter (! q ·)) = total w l := by
  rw [← total_append, total_perm (List.filter_append_perm q l)]

lemma total_congr {v : α → ℕ} (h : ∀ a ∈ l, w a = v a) : total w l = total v l := by
  rw [total, total, List.map_congr_left h]

lemma total_mono {v : α → ℕ} (h : ∀ a, w a ≤ v a) (l : List α) : total w l ≤ total v l :=
  List.sum_le_sum fun a _ => h a

/-- Equal sums have equal terms, if no term is larger. -/
lemma eq_of_total_le {v : α → ℕ} (h : ∀ a, w a ≤ v a) (hl : total v l ≤ total w l) :
    ∀ a ∈ l, w a = v a := by
  induction l with
  | nil => exact nofun
  | cons b l ih =>
    rw [total_cons, total_cons] at hl
    have hb := h b
    have hrest := total_mono h l
    intro a ha
    rcases List.mem_cons.mp ha with rfl | ha
    · omega
    · exact ih (by omega) a ha

/-- `p` is the longest prefix of `l` within the budget. -/
structure IsLongest (w : α → ℕ) (m : ℕ) (l p : List α) : Prop where
  isPrefix : p <+: l
  total_le : total w p ≤ m
  longest : ∀ q, q <+: l → total w q ≤ m → q <+: p

lemma IsLongest.unique {p' : List α} (h : IsLongest w m l p) (h' : IsLongest w m l p') : p = p' :=
  (h'.longest p h.isPrefix h.total_le).eq_of_length_le
    (h.longest p' h'.isPrefix h'.total_le).length_le

/-- Elements are taken while the budget lasts. -/
def takeWithin (w : α → ℕ) : ℕ → List α → List α
  | _, [] => []
  | m, a :: l => if w a ≤ m then a :: takeWithin w (m - w a) l else []

lemma isLongest_takeWithin (w : α → ℕ) (m : ℕ) (l : List α) :
    IsLongest w m l (takeWithin w m l) := by
  induction l generalizing m with
  | nil => exact ⟨List.prefix_rfl, Nat.zero_le m, fun q hq _ => hq⟩
  | cons a l ih =>
    unfold takeWithin
    split_ifs with ha
    · have hrest := ih (m - w a)
      refine ⟨(List.prefix_cons_inj a).mpr hrest.isPrefix, ?_, fun q hq hm => ?_⟩
      · have := hrest.total_le
        rw [total_cons]
        omega
      · obtain rfl | ⟨q', rfl, hq'⟩ := List.prefix_cons_iff.mp hq
        · exact List.nil_prefix
        · rw [total_cons] at hm
          exact (List.prefix_cons_inj a).mpr (hrest.longest q' hq' (by omega))
    · refine ⟨List.nil_prefix, Nat.zero_le m, fun q hq hm => ?_⟩
      obtain rfl | ⟨q', rfl, -⟩ := List.prefix_cons_iff.mp hq
      · exact List.nil_prefix
      · rw [total_cons] at hm
        omega

lemma takeWithin_eq (h : IsLongest w m l p) : takeWithin w m l = p :=
  (isLongest_takeWithin w m l).unique h

/-- A list within the budget is taken as a whole. -/
lemma takeWithin_of_total_le (h : total w l ≤ m) : takeWithin w m l = l :=
  takeWithin_eq ⟨List.prefix_rfl, h, fun _ hq _ => hq⟩

/-- The last element of a list that is too heavy plays no part. -/
lemma takeWithin_dropLast (h : m < total w l) : takeWithin w m l.dropLast = takeWithin w m l := by
  have hlong := isLongest_takeWithin w m l.dropLast
  refine (takeWithin_eq ⟨hlong.isPrefix.trans (List.dropLast_prefix l), hlong.total_le, ?_⟩).symm
  intro q hq hm
  refine hlong.longest q ?_ hm
  obtain ⟨rest, rfl⟩ := hq
  have hrest : rest ≠ [] := by
    rintro rfl
    rw [List.append_nil] at h
    omega
  rw [List.dropLast_append_of_ne_nil hrest]
  exact List.prefix_append _ _

/-- The weights of what is taken are the weights of the list, mapped. -/
lemma map_takeWithin {β : Type*} {f : α → β} {v : β → ℕ} (h : ∀ a, v (f a) = w a) (m : ℕ)
    (l : List α) : (takeWithin w m l).map f = takeWithin v m (l.map f) := by
  induction l generalizing m with
  | nil => rfl
  | cons a l ih =>
    simp only [List.map_cons, takeWithin, h]
    split_ifs
    · rw [List.map_cons, ih]
    · rfl

end Budget
