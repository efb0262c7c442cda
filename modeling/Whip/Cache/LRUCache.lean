import Mathlib.Data.List.Nodup
import Mathlib.Tactic.Common

/-!
# The LRU cache template (`lru_cache.h`)

The cache is a list of nodes, most recently used first, and an index from keys to list nodes. A node
stands for a `std::list` cell, so it has an address; the index holds addresses, as the source's map
holds iterators. Sizes are 64-bit, and a calculator says what an entry weighs.
-/

namespace Whip

/-- The `SizeCalculator` parameter of the template: how the running size changes. -/
structure SizeCalculator (D : Type*) where
  onAdd : UInt64 → D → UInt64
  onRemove : UInt64 → D → UInt64

/-- `EntryCountCalculator`: every entry weighs one. -/
def EntryCountCalculator (D : Type*) : SizeCalculator D where
  onAdd n _ := n + 1
  onRemove n _ := n - 1

/-- A cell of the `std::list`. -/
structure LRUNode (K D : Type*) where
  addr : ℕ
  key : K
  data : D
deriving DecidableEq

structure LRUCache (K D : Type*) where
  calculator : SizeCalculator D
  maxSize : UInt64
  list : List (LRUNode K D) := []
  index : List (K × ℕ) := []
  size : UInt64 := 0
  nextAddr : ℕ := 0

namespace LRUCache

variable {K D : Type*} [DecidableEq K]

/-- `_index.find(key)`. -/
def find (c : LRUCache K D) (key : K) : Option ℕ := c.index.lookup key

/-- The list cell an iterator of the index refers to. -/
def nodeAt (c : LRUCache K D) (addr : ℕ) : Option (LRUNode K D) :=
  c.list.find? (·.addr == addr)

def existsKey (c : LRUCache K D) (key : K) : Bool := (c.find key).isSome

/-- `_touch`: move the cell of the key to the head of the list. -/
def touch (c : LRUCache K D) (key : K) : LRUCache K D :=
  match (c.find key).bind c.nodeAt with
  | none   => c
  | some n => { c with list := n :: c.list.eraseP (·.addr == n.addr) }

/-- `_remove`: tell the calculator, then erase the cell and the index entry. -/
def remove (c : LRUCache K D) (key : K) : LRUCache K D :=
  match (c.find key).bind c.nodeAt with
  | none   => c
  | some n =>
    { c with
      size := c.calculator.onRemove c.size n.data
      list := c.list.eraseP (·.addr == n.addr)
      index := c.index.eraseP (·.1 == key) }

/-- `fetch`: a copy of the data, `none` standing for the empty `Data()`. -/
def fetch (c : LRUCache K D) (key : K) (touchData : Bool := true) : Option D × LRUCache K D :=
  match (c.find key).bind c.nodeAt with
  | none   => (none, c)
  | some n => (some n.data, if touchData then c.touch key else c)

/-- The eviction loop of `insert`, at most `fuel` times round. -/
def evict : ℕ → LRUCache K D → LRUCache K D
  | 0, c => c
  | fuel + 1, c =>
    if c.maxSize < c.size then
      match c.list.getLast? with
      | none   => c
      | some n => evict fuel (c.remove n.key)
    else c

/-- Everything of `insert` before its eviction loop. -/
def pushFront (c : LRUCache K D) (key : K) (data : D) : LRUCache K D :=
  let c := c.touch key
  let c := if c.existsKey key then c.remove key else c
  { c with
    list := ⟨c.nextAddr, key, data⟩ :: c.list
    index := (key, c.nextAddr) :: c.index
    size := c.calculator.onAdd c.size data
    nextAddr := c.nextAddr + 1 }

def insert (c : LRUCache K D) (key : K) (data : D) : LRUCache K D :=
  let c := c.pushFront key data
  c.evict c.list.length

def clear (c : LRUCache K D) : LRUCache K D := { c with list := [], index := [], size := 0 }

/-! ### The index and the list describe the same cells -/

/-- Cells are distinct, keys are distinct, and the index maps exactly the listed keys to their
cells. -/
structure Coherent (c : LRUCache K D) : Prop where
  keys_nodup : (c.list.map (·.key)).Nodup
  addrs_nodup : (c.list.map (·.addr)).Nodup
  addr_lt : ∀ n ∈ c.list, n.addr < c.nextAddr
  index_nodup : (c.index.map (·.1)).Nodup
  mem_index : ∀ k a, (k, a) ∈ c.index ↔ ∃ n ∈ c.list, n.key = k ∧ n.addr = a

omit [DecidableEq K] in
lemma coherent_empty (calculator : SizeCalculator D) (m : UInt64) :
    Coherent ({ calculator := calculator, maxSize := m } : LRUCache K D) := by
  constructor <;> simp

variable {c : LRUCache K D}

lemma find_eq_some (hc : c.Coherent) {k : K} {a : ℕ} : c.find k = some a ↔ (k, a) ∈ c.index := by
  have hnd := hc.index_nodup
  unfold find
  generalize c.index = ix at hnd
  induction ix with
  | nil => simp
  | cons p ix ih =>
    obtain ⟨k', a'⟩ := p
    simp only [List.map_cons, List.nodup_cons] at hnd
    by_cases hk : k = k'
    · subst hk
      have hnot : ∀ b, (k, b) ∉ ix := fun b hb => hnd.1 (List.mem_map.mpr ⟨(k, b), hb, rfl⟩)
      simp [hnot, eq_comm]
    · have hbeq : (k == k') = false := by simpa using hk
      simp [List.lookup_cons, hbeq, ih hnd.2, hk]

omit [DecidableEq K] in
lemma nodeAt_addr (hc : c.Coherent) {n : LRUNode K D} (hn : n ∈ c.list) :
    c.nodeAt n.addr = some n := by
  have hnd := hc.addrs_nodup
  unfold nodeAt
  generalize c.list = l at hnd hn
  induction l with
  | nil => simp at hn
  | cons m l ih =>
    simp only [List.map_cons, List.nodup_cons] at hnd
    rcases List.mem_cons.mp hn with rfl | hn'
    · simp
    · have hne : m.addr ≠ n.addr := fun h => hnd.1 (h ▸ List.mem_map.mpr ⟨n, hn', rfl⟩)
      rw [List.find?_cons_of_neg (by simpa using hne)]
      exact ih hnd.2 hn'

/-- Looking a key up through the index finds the listed cell with that key, and only that one. -/
lemma find_bind_nodeAt (hc : c.Coherent) {k : K} {n : LRUNode K D} :
    (c.find k).bind c.nodeAt = some n ↔ n ∈ c.list ∧ n.key = k := by
  rw [Option.bind_eq_some_iff]
  constructor
  · rintro ⟨a, ha, hn⟩
    obtain ⟨m, hm, hmk, rfl⟩ := (hc.mem_index k a).mp ((find_eq_some hc).mp ha)
    rw [nodeAt_addr hc hm] at hn
    cases hn
    exact ⟨hm, hmk⟩
  · rintro ⟨hn, rfl⟩
    exact ⟨n.addr, (find_eq_some hc).mpr ((hc.mem_index _ _).mpr ⟨n, hn, rfl, rfl⟩),
      nodeAt_addr hc hn⟩

lemma find_bind_eq_none (hc : c.Coherent) {k : K} :
    (c.find k).bind c.nodeAt = none ↔ ∀ n ∈ c.list, n.key ≠ k := by
  rw [Option.eq_none_iff_forall_ne_some]
  constructor
  · intro h n hn hk
    exact h n ((find_bind_nodeAt hc).mpr ⟨hn, hk⟩)
  · intro h n hn
    obtain ⟨hn, hk⟩ := (find_bind_nodeAt hc).mp hn
    exact h n hn hk

lemma existsKey_iff (hc : c.Coherent) {k : K} :
    c.existsKey k = true ↔ ∃ n ∈ c.list, n.key = k := by
  unfold existsKey
  rw [Option.isSome_iff_exists]
  constructor
  · rintro ⟨a, ha⟩
    obtain ⟨n, hn, hk, -⟩ := (hc.mem_index k a).mp ((find_eq_some hc).mp ha)
    exact ⟨n, hn, hk⟩
  · rintro ⟨n, hn, hk⟩
    exact ⟨n.addr, (find_eq_some hc).mpr ((hc.mem_index k _).mpr ⟨n, hn, hk, rfl⟩)⟩

omit [DecidableEq K] in
/-- A listed cell, with the cells before and after it. -/
lemma Coherent.exists_split (hc : c.Coherent) {n : LRUNode K D} (hn : n ∈ c.list) :
    ∃ l₁ l₂, c.list = l₁ ++ n :: l₂ ∧ (∀ m ∈ l₁, m.key ≠ n.key) ∧ (∀ m ∈ l₂, m.key ≠ n.key) ∧
      ∀ m ∈ l₁, m.addr ≠ n.addr := by
  obtain ⟨l₁, l₂, hlist⟩ := List.append_of_mem hn
  have hkeys := hc.keys_nodup
  have haddrs := hc.addrs_nodup
  rw [hlist] at hkeys haddrs
  simp only [List.map_append, List.map_cons, List.nodup_append, List.nodup_cons, List.mem_map,
    List.mem_cons] at hkeys haddrs
  refine ⟨l₁, l₂, hlist, fun m hm h => ?_, fun m hm h => ?_, fun m hm h => ?_⟩
  · exact hkeys.2.2 _ ⟨m, hm, rfl⟩ _ (.inl rfl) h
  · exact hkeys.2.1.1 ⟨m, hm, h⟩
  · exact haddrs.2.2 _ ⟨m, hm, rfl⟩ _ (.inl rfl) h

/-- Erasing the cell of a listed node leaves the cells with other keys, in their order. -/
lemma eraseP_addr (hc : c.Coherent) {n : LRUNode K D} (hn : n ∈ c.list) :
    c.list.eraseP (·.addr == n.addr) = c.list.filter (·.key ≠ n.key) := by
  obtain ⟨l₁, l₂, hlist, hl₁, hl₂, haddr⟩ := hc.exists_split hn
  rw [hlist, List.eraseP_append_right _ (by simpa using haddr),
    List.eraseP_cons_of_pos (by simp), List.filter_append, List.filter_cons_of_neg (by simp),
    List.filter_eq_self.mpr (by simpa using hl₁), List.filter_eq_self.mpr (by simpa using hl₂)]

/-- The cell of a key is the only one with this key. -/
lemma filter_key (hc : c.Coherent) {n : LRUNode K D} (hn : n ∈ c.list) :
    c.list.filter (·.key = n.key) = [n] := by
  obtain ⟨l₁, l₂, hlist, hl₁, hl₂, -⟩ := hc.exists_split hn
  rw [hlist, List.filter_append, List.filter_cons_of_pos (by simp),
    List.filter_eq_nil_iff.mpr (by simpa using hl₁),
    List.filter_eq_nil_iff.mpr (by simpa using hl₂)]
  rfl

/-- A touched cell moves to the front, and the others keep their order. -/
lemma list_touch (hc : c.Coherent) (k : K) :
    (c.touch k).list = c.list.filter (·.key = k) ++ c.list.filter (·.key ≠ k) := by
  unfold touch
  cases hf : (c.find k).bind c.nodeAt with
  | none =>
    have h := (find_bind_eq_none hc).mp hf
    rw [List.filter_eq_nil_iff.mpr (by simpa using h), List.filter_eq_self.mpr (by simpa using h)]
    rfl
  | some n =>
    obtain ⟨hn, rfl⟩ := (find_bind_nodeAt hc).mp hf
    rw [filter_key hc hn]
    simp only [eraseP_addr hc hn]
    rfl

lemma touch_perm (hc : c.Coherent) (k : K) : (c.touch k).list.Perm c.list := by
  rw [list_touch hc]
  simpa using List.filter_append_perm (·.key = k) c.list

lemma mem_touch (hc : c.Coherent) (k : K) {m : LRUNode K D} :
    m ∈ (c.touch k).list ↔ m ∈ c.list :=
  (touch_perm hc k).mem_iff

lemma Coherent.touch (hc : c.Coherent) (k : K) : (c.touch k).Coherent := by
  have hperm := touch_perm hc k
  have hrest : (c.touch k).index = c.index ∧ (c.touch k).nextAddr = c.nextAddr := by
    unfold LRUCache.touch
    split <;> exact ⟨rfl, rfl⟩
  constructor
  · exact (hperm.map _).nodup_iff.mpr hc.keys_nodup
  · exact (hperm.map _).nodup_iff.mpr hc.addrs_nodup
  · intro n hn
    rw [hrest.2]
    exact hc.addr_lt n ((mem_touch hc k).mp hn)
  · rw [hrest.1]
    exact hc.index_nodup
  · intro k' a
    rw [hrest.1, hc.mem_index]
    simp only [mem_touch hc k]

/-- A removed cell leaves the others in their order. -/
lemma list_remove (hc : c.Coherent) (k : K) : (c.remove k).list = c.list.filter (·.key ≠ k) := by
  unfold remove
  cases hf : (c.find k).bind c.nodeAt with
  | none =>
    have h := (find_bind_eq_none hc).mp hf
    exact (List.filter_eq_self.mpr (by simpa using h)).symm
  | some n =>
    obtain ⟨hn, rfl⟩ := (find_bind_nodeAt hc).mp hf
    exact eraseP_addr hc hn

lemma mem_remove (hc : c.Coherent) (k : K) {m : LRUNode K D} :
    m ∈ (c.remove k).list ↔ m ∈ c.list ∧ m.key ≠ k := by
  simp [list_remove hc]

lemma Coherent.remove (hc : c.Coherent) (k : K) : (c.remove k).Coherent := by
  have hmem := fun m => mem_remove hc k (m := m)
  cases hf : (c.find k).bind c.nodeAt with
  | none =>
    have : c.remove k = c := by simp [LRUCache.remove, hf]
    rwa [this]
  | some n =>
    obtain ⟨hn, rfl⟩ := (find_bind_nodeAt hc).mp hf
    have hrm : c.remove n.key =
        { c with
          size := c.calculator.onRemove c.size n.data
          list := c.list.eraseP (·.addr == n.addr)
          index := c.index.eraseP (·.1 == n.key) } := by simp [LRUCache.remove, hf]
    rw [hrm] at hmem ⊢
    have hsub : (c.list.eraseP (·.addr == n.addr)).Sublist c.list := List.eraseP_sublist
    have hix : (c.index.eraseP (·.1 == n.key)).Sublist c.index := List.eraseP_sublist
    refine ⟨hc.keys_nodup.sublist (hsub.map _), hc.addrs_nodup.sublist (hsub.map _),
      fun m hm => hc.addr_lt m (hsub.subset hm), hc.index_nodup.sublist (hix.map _), ?_⟩
    intro k a
    -- an index entry survives exactly when its key is not the one removed
    have hkey : (k, a) ∈ c.index.eraseP (·.1 == n.key) ↔ (k, a) ∈ c.index ∧ k ≠ n.key := by
      have hnd := hc.index_nodup
      have hin : (n.key, n.addr) ∈ c.index := (hc.mem_index _ _).mpr ⟨n, hn, rfl, rfl⟩
      obtain ⟨p, l₁, l₂, hl₁, hp, hlist, herase⟩ :=
        List.exists_of_eraseP (p := (·.1 == n.key)) hin (by simp)
      rw [herase, hlist]
      rw [hlist] at hnd
      simp only [List.map_append, List.map_cons, List.nodup_append, List.nodup_cons,
        List.mem_map, List.mem_cons] at hnd
      have hpk : p.1 = n.key := by simpa using hp
      simp only [List.mem_append, List.mem_cons]
      constructor
      · rintro (h | h)
        · refine ⟨Or.inl h, ?_⟩
          rintro rfl
          exact hl₁ _ h (by simp)
        · refine ⟨Or.inr (Or.inr h), ?_⟩
          rintro rfl
          exact hnd.2.1.1 ⟨_, h, hpk.symm⟩
      · rintro ⟨h | rfl | h, hne⟩
        · exact Or.inl h
        · exact absurd hpk hne
        · exact Or.inr h
    show (k, a) ∈ c.index.eraseP (·.1 == n.key) ↔ _
    rw [hkey, hc.mem_index]
    constructor
    · rintro ⟨⟨m, hm, rfl, rfl⟩, hne⟩
      exact ⟨m, (hmem m).mpr ⟨hm, hne⟩, rfl, rfl⟩
    · rintro ⟨m, hm, rfl, rfl⟩
      exact ⟨⟨m, ((hmem m).mp hm).1, rfl, rfl⟩, ((hmem m).mp hm).2⟩

/-- The cache a new cell is pushed on: the old one without the key. -/
def without (c : LRUCache K D) (k : K) : LRUCache K D := (c.touch k).remove k

lemma Coherent.without (hc : c.Coherent) (k : K) : (c.without k).Coherent := (hc.touch k).remove k

lemma list_without (hc : c.Coherent) (k : K) :
    (c.without k).list = c.list.filter (·.key ≠ k) := by
  rw [LRUCache.without, list_remove (hc.touch k), list_touch hc, List.filter_append,
    List.filter_filter, List.filter_filter, List.filter_eq_nil_iff.mpr (by simp)]
  simp

lemma pushFront_eq (hc : c.Coherent) (k : K) (d : D) :
    c.pushFront k d =
      { c.without k with
        list := ⟨(c.without k).nextAddr, k, d⟩ :: (c.without k).list
        index := (k, (c.without k).nextAddr) :: (c.without k).index
        size := (c.without k).calculator.onAdd (c.without k).size d
        nextAddr := (c.without k).nextAddr + 1 } := by
  by_cases hk : (c.touch k).existsKey k = true
  · simp [pushFront, LRUCache.without, hk]
  · -- removing a key that is not there does nothing
    have hnone : ((c.touch k).find k).bind (c.touch k).nodeAt = none := by
      rw [find_bind_eq_none (hc.touch k)]
      exact fun n hn hkey => hk ((existsKey_iff (hc.touch k)).mpr ⟨n, hn, hkey⟩)
    have hsame : c.without k = c.touch k := by simp [LRUCache.without, remove, hnone]
    simp [pushFront, hk, hsame]

lemma Coherent.pushFront (hc : c.Coherent) (k : K) (d : D) : (c.pushFront k d).Coherent := by
  have hb := hc.without k
  have hnew : ∀ m ∈ (c.without k).list, m.key ≠ k := by simp [list_without hc]
  rw [pushFront_eq hc]
  constructor
  · simp only [List.map_cons, List.nodup_cons, List.mem_map, not_exists, not_and]
    exact ⟨hnew, hb.keys_nodup⟩
  · simp only [List.map_cons, List.nodup_cons, List.mem_map, not_exists, not_and]
    exact ⟨fun m hm h => by have := hb.addr_lt m hm; omega, hb.addrs_nodup⟩
  · intro m hm
    rcases List.mem_cons.mp hm with rfl | hm
    · simp
    · exact Nat.lt_succ_of_lt (hb.addr_lt m hm)
  · simp only [List.map_cons, List.nodup_cons, List.mem_map, not_exists, not_and]
    refine ⟨?_, hb.index_nodup⟩
    rintro ⟨k', a⟩ hin rfl
    obtain ⟨m, hm, hmk, -⟩ := (hb.mem_index _ _).mp hin
    exact hnew m hm hmk
  · intro k' a
    simp only [List.mem_cons, Prod.mk.injEq, hb.mem_index]
    constructor
    · rintro (⟨rfl, rfl⟩ | ⟨m, hm, rfl, rfl⟩)
      · exact ⟨_, Or.inl rfl, rfl, rfl⟩
      · exact ⟨m, Or.inr hm, rfl, rfl⟩
    · rintro ⟨m, rfl | hm, rfl, rfl⟩
      · exact Or.inl ⟨rfl, rfl⟩
      · exact Or.inr ⟨m, hm, rfl, rfl⟩

lemma mem_pushFront (hc : c.Coherent) {k : K} {d : D} {m : LRUNode K D}
    (hm : m ∈ (c.pushFront k d).list) : m.key = k ∧ m.data = d ∨ m ∈ c.list ∧ m.key ≠ k := by
  rw [pushFront_eq hc] at hm
  rcases List.mem_cons.mp hm with rfl | hm
  · exact Or.inl ⟨rfl, rfl⟩
  · exact Or.inr (by simpa [list_without hc] using hm)

lemma Coherent.evict (hc : c.Coherent) (fuel : ℕ) : (c.evict fuel).Coherent := by
  induction fuel generalizing c with
  | zero => exact hc
  | succ fuel ih =>
    unfold LRUCache.evict
    split_ifs
    · split
      · exact hc
      · exact ih (hc.remove _)
    · exact hc

lemma mem_evict (hc : c.Coherent) {fuel : ℕ} {m : LRUNode K D} (hm : m ∈ (c.evict fuel).list) :
    m ∈ c.list := by
  induction fuel generalizing c with
  | zero => exact hm
  | succ fuel ih =>
    unfold LRUCache.evict at hm
    split_ifs at hm
    · split at hm
      · exact hm
      · exact ((mem_remove hc _).mp (ih (hc.remove _) hm)).1
    · exact hm

lemma Coherent.insert (hc : c.Coherent) (k : K) (d : D) : (c.insert k d).Coherent :=
  (hc.pushFront k d).evict _

/-- What an insertion can leave in the cache: the new entry, and old entries with other keys. -/
lemma mem_insert (hc : c.Coherent) {k : K} {d : D} {m : LRUNode K D}
    (hm : m ∈ (c.insert k d).list) : m.key = k ∧ m.data = d ∨ m ∈ c.list ∧ m.key ≠ k :=
  mem_pushFront hc (mem_evict (hc.pushFront k d) hm)

lemma Coherent.fetch (hc : c.Coherent) (k : K) (t : Bool) : (c.fetch k t).2.Coherent := by
  unfold LRUCache.fetch
  split
  · exact hc
  · cases t
    · exact hc
    · exact hc.touch k

lemma mem_fetch (hc : c.Coherent) {k : K} {t : Bool} {m : LRUNode K D} :
    m ∈ (c.fetch k t).2.list ↔ m ∈ c.list := by
  unfold LRUCache.fetch
  split
  · rfl
  · cases t
    · rfl
    · exact mem_touch hc k

/-- `fetch` returns the data of the listed entry with the key. -/
lemma fetch_eq_some (hc : c.Coherent) {k : K} {t : Bool} {d : D} :
    (c.fetch k t).1 = some d ↔ ∃ n ∈ c.list, n.key = k ∧ n.data = d := by
  unfold LRUCache.fetch
  constructor
  · intro h
    split at h
    · simp at h
    · next n hn =>
      obtain ⟨hmem, hk⟩ := (find_bind_nodeAt hc).mp hn
      exact ⟨n, hmem, hk, by simpa using h⟩
  · rintro ⟨n, hn, hk, rfl⟩
    rw [(find_bind_nodeAt hc).mpr ⟨hn, hk⟩]

lemma fetch_eq_none (hc : c.Coherent) {k : K} {t : Bool} :
    (c.fetch k t).1 = none ↔ ∀ n ∈ c.list, n.key ≠ k := by
  rw [Option.eq_none_iff_forall_ne_some]
  constructor
  · intro h n hn hk
    exact h n.data ((fetch_eq_some hc).mpr ⟨n, hn, hk, rfl⟩)
  · intro h d hd
    obtain ⟨n, hn, hk, -⟩ := (fetch_eq_some hc).mp hd
    exact h n hn hk

end LRUCache
end Whip
