import Mathlib.Data.List.Basic
import Mathlib.Data.List.Nodup

/-!
# Maps from keys to sets

A map that lists a set of values for each of its keys, as a list of entries. Values are listed and
struck off one at a time; a key whose set has become empty is dropped.
-/

namespace MultiMap

variable {α β : Type*}

/-- The value is listed for the key. -/
def Lists (m : List (α × List β)) (a : α) (b : β) : Prop := ∃ e ∈ m, e.1 = a ∧ b ∈ e.2

lemma lists_iff {m : List (α × List β)} {a : α} {b : β} :
    Lists m a b ↔ ∃ l, (a, l) ∈ m ∧ b ∈ l := by
  constructor
  · rintro ⟨⟨_, l⟩, hmem, rfl, hb⟩
    exact ⟨l, hmem, hb⟩
  · rintro ⟨l, hmem, hb⟩
    exact ⟨(a, l), hmem, rfl, hb⟩

/-- Keys and values are not listed twice, and no set is empty. -/
structure Indexed (m : List (α × List β)) : Prop where
  keys : (m.map Prod.fst).Nodup
  nonempty : ∀ e ∈ m, e.2 ≠ []
  nodup : ∀ e ∈ m, e.2.Nodup

lemma indexed_nil : Indexed ([] : List (α × List β)) := ⟨List.nodup_nil, by simp, by simp⟩

/-- Some of the entries. -/
lemma Indexed.sublist {m m' : List (α × List β)} (h : Indexed m) (hsub : m'.Sublist m) :
    Indexed m' :=
  ⟨h.keys.sublist (hsub.map _), fun e he => h.nonempty e (hsub.mem he),
    fun e he => h.nodup e (hsub.mem he)⟩

section BEq

variable [BEq α]

/-- The values listed for a key. -/
def entry (m : List (α × List β)) (a : α) : List β := (m.lookup a).getD []

/-- Change the set of a key. -/
def alter (m : List (α × List β)) (a : α) (f : List β → List β) : List (α × List β) :=
  m.map fun e => if e.1 == a then (e.1, f e.2) else e

def insert (m : List (α × List β)) (a : α) (b : β) : List (α × List β) :=
  if m.any (·.1 == a) then alter m a (· ++ [b]) else m ++ [(a, [b])]

def erase (m : List (α × List β)) (a : α) : List (α × List β) := m.filter (·.1 != a)

def remove [DecidableEq β] (m : List (α × List β)) (a : α) (b : β) : List (α × List β) :=
  (alter m a (·.filter (· ≠ b))).filter fun e => !(e.1 == a && e.2.isEmpty)

variable {m : List (α × List β)} {a a' : α} {b b' : β} {f : List β → List β}

lemma map_fst_alter : (alter m a f).map Prod.fst = m.map Prod.fst := by
  rw [alter, List.map_map]
  refine List.map_congr_left fun e _ => ?_
  rw [Function.comp_apply]
  split_ifs <;> rfl

lemma Indexed.erase (h : Indexed m) : Indexed (erase m a) := h.sublist List.filter_sublist

variable [LawfulBEq α]

/-- The entries of an altered map. -/
lemma mem_alter {e : α × List β} :
    e ∈ alter m a f ↔ (e.1 ≠ a ∧ e ∈ m) ∨ (e.1 = a ∧ ∃ l, (a, l) ∈ m ∧ e.2 = f l) := by
  rw [alter, List.mem_map]
  constructor
  · rintro ⟨e, hmem, rfl⟩
    by_cases hkey : e.1 = a
    · subst hkey
      exact .inr (by simpa using ⟨e.2, hmem, rfl⟩)
    · rw [if_neg (by simpa using hkey)]
      exact .inl ⟨hkey, hmem⟩
  · rintro (⟨hkey, hmem⟩ | ⟨rfl, l, hmem, hl⟩)
    · exact ⟨e, hmem, if_neg (by simpa using hkey)⟩
    · exact ⟨_, hmem, by simp [← hl]⟩

/-! ### What is listed -/

lemma lists_alter :
    Lists (alter m a f) a' b' ↔ (a' ≠ a ∧ Lists m a' b') ∨
      (a' = a ∧ ∃ l, (a, l) ∈ m ∧ b' ∈ f l) := by
  constructor
  · rintro ⟨e, he, rfl, hb⟩
    obtain ⟨hkey, hmem⟩ | ⟨hkey, l, hmem, hl⟩ := mem_alter.mp he
    · exact .inl ⟨hkey, e, hmem, rfl, hb⟩
    · exact .inr ⟨hkey, l, hmem, hl ▸ hb⟩
  · rintro (⟨hkey, e, hmem, rfl, hb⟩ | ⟨rfl, l, hmem, hb⟩)
    · exact ⟨e, mem_alter.mpr (.inl ⟨hkey, hmem⟩), rfl, hb⟩
    · exact ⟨(a', f l), mem_alter.mpr (.inr ⟨rfl, l, hmem, rfl⟩), rfl, hb⟩

lemma lists_insert : Lists (insert m a b) a' b' ↔ Lists m a' b' ∨ (a' = a ∧ b' = b) := by
  unfold insert
  split_ifs with hany
  · rw [lists_alter]
    by_cases hkey : a' = a
    · obtain ⟨⟨k, l⟩, hmem, hl⟩ := List.any_eq_true.mp hany
      obtain rfl : k = a := eq_of_beq hl
      have hfound : ∃ l, (k, l) ∈ m := ⟨l, hmem⟩
      simp [lists_iff, and_or_left, exists_or, hfound, hkey]
    · simp [hkey]
  · simp [Lists, or_and_right, exists_or, eq_comm]

lemma lists_remove [DecidableEq β] :
    Lists (remove m a b) a' b' ↔ Lists m a' b' ∧ ¬ (a' = a ∧ b' = b) := by
  have hnonempty : Lists (remove m a b) a' b' ↔ Lists (alter m a (·.filter (· ≠ b))) a' b' := by
    constructor
    · rintro ⟨e, he, rfl, hb⟩
      exact ⟨e, (List.mem_filter.mp he).1, rfl, hb⟩
    · rintro ⟨e, he, rfl, hb⟩
      refine ⟨e, List.mem_filter.mpr ⟨he, ?_⟩, rfl, hb⟩
      simp [List.ne_nil_of_mem hb]
  rw [hnonempty, lists_alter]
  by_cases hkey : a' = a
  · subst hkey
    simp [lists_iff, ← and_assoc]
  · simp [hkey]

lemma lists_erase : Lists (MultiMap.erase m a) a' b' ↔ Lists m a' b' ∧ a' ≠ a := by
  constructor
  · rintro ⟨e, he, rfl, hb⟩
    obtain ⟨hmem, hne⟩ := List.mem_filter.mp he
    exact ⟨⟨e, hmem, rfl, hb⟩, by simpa using hne⟩
  · rintro ⟨⟨e, he, rfl, hb⟩, hne⟩
    exact ⟨e, List.mem_filter.mpr ⟨he, by simpa using hne⟩, rfl, hb⟩

/-! ### Well-formed maps -/

lemma Indexed.remove [DecidableEq β] (h : Indexed m) : Indexed (remove m a b) := by
  refine ⟨?_, fun e he => ?_, fun e he => ?_⟩
  · have hkeys := h.keys
    rw [← map_fst_alter (a := a) (f := (·.filter (· ≠ b)))] at hkeys
    exact hkeys.sublist (List.filter_sublist.map _)
  · obtain ⟨he, hne⟩ := List.mem_filter.mp he
    obtain ⟨-, hmem⟩ | ⟨hkey, -⟩ := mem_alter.mp he
    · exact h.nonempty e hmem
    · simpa [hkey] using hne
  · obtain ⟨-, hmem⟩ | ⟨-, l, hmem, hl⟩ := mem_alter.mp (List.mem_filter.mp he).1
    · exact h.nodup e hmem
    · rw [hl]
      exact (h.nodup _ hmem).filter _

/-- A value that is new to its key. -/
lemma Indexed.insert (h : Indexed m) (hnew : ¬ Lists m a b) : Indexed (insert m a b) := by
  unfold MultiMap.insert
  split_ifs with hany
  · refine ⟨?_, fun e he => ?_, fun e he => ?_⟩
    · rw [map_fst_alter]
      exact h.keys
    · obtain ⟨-, hmem⟩ | ⟨-, l, hmem, hl⟩ := mem_alter.mp he
      · exact h.nonempty e hmem
      · simp [hl]
    · obtain ⟨-, hmem⟩ | ⟨-, l, hmem, hl⟩ := mem_alter.mp he
      · exact h.nodup e hmem
      · have hb : b ∉ l := fun hb => hnew (lists_iff.mpr ⟨l, hmem, hb⟩)
        rw [hl, ← List.concat_eq_append]
        exact (h.nodup _ hmem).concat hb
  · have hkey : a ∉ m.map Prod.fst := by simpa using hany
    refine ⟨?_, fun e he => ?_, fun e he => ?_⟩
    · rw [List.map_append, List.map_singleton, ← List.concat_eq_append]
      exact h.keys.concat hkey
    · obtain hmem | rfl := List.mem_append.mp he |>.imp_right List.mem_singleton.mp
      · exact h.nonempty e hmem
      · exact List.cons_ne_nil b []
    · obtain hmem | rfl := List.mem_append.mp he |>.imp_right List.mem_singleton.mp
      · exact h.nodup e hmem
      · exact List.nodup_singleton b

lemma Indexed.lookup_eq_some (h : Indexed m) {l : List β} :
    m.lookup a = some l ↔ (a, l) ∈ m := by
  have hkeys := h.keys
  clear h
  induction m with
  | nil => simp
  | cons e m ih =>
    obtain ⟨k, l'⟩ := e
    simp only [List.map_cons, List.nodup_cons] at hkeys
    rw [List.lookup_cons, List.mem_cons, Prod.mk.injEq]
    by_cases hka : a = k
    · subst hka
      have hno : (a, l) ∉ m := fun hmem => hkeys.1 (List.mem_map_of_mem hmem)
      simp [hno, eq_comm]
    · have hne : (a == k) = false := by simpa using hka
      simp [hka, hne, ih hkeys.2]

lemma Indexed.mem_entry (h : Indexed m) : b ∈ entry m a ↔ Lists m a b := by
  simp only [lists_iff, ← h.lookup_eq_some, entry]
  cases m.lookup a with
  | none => simp
  | some l => simp

lemma Indexed.nodup_entry (h : Indexed m) : (entry m a).Nodup := by
  unfold entry
  cases hlookup : m.lookup a with
  | none => exact List.nodup_nil
  | some l => exact h.nodup _ (h.lookup_eq_some.mp hlookup)

end BEq

end MultiMap
