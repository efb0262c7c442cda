import Whip.Lib.Budget
import Whip.Cache.AssetCache

/-!
# The policy of the LRU cache

The calculator keeps the weights of the listed entries modulo `2 ^ 64`. As long as no insertion
brings their exact sum to `2 ^ 64`, the cache does what its policy says: the entries stand in the
order of their last use, and an insertion keeps the longest prefix within the maximum size.
-/

namespace Whip

open Budget

/-- The calculator adds up these weights, modulo `2 ^ 64`. -/
structure SizeCalculator.Weighs {D : Type*} (sc : SizeCalculator D) (weight : D → ℕ) : Prop where
  onAdd : ∀ n d, sc.onAdd n d = n + UInt64.ofNat (weight d)
  onRemove : ∀ n d, sc.onRemove n d = n - UInt64.ofNat (weight d)
  lt : ∀ d, weight d < 2 ^ 64

def EntryCountCalculator.weight {D : Type*} (_ : D) : ℕ := 1

/-- `getSize() + TOTAL_OVERHEAD`, in 32 bits. -/
def AssetSizeCalculator.weight (a : Asset) : ℕ := (a.data.length + TOTAL_OVERHEAD) % 2 ^ 32

/-- An asset of `n` bytes. -/
def sizedAsset (n : ℕ) : Asset := ⟨List.replicate n 48⟩

@[simp] lemma length_sizedAsset (n : ℕ) : (sizedAsset n).data.length = n := List.length_replicate

lemma weight_sizedAsset (n : ℕ) :
    AssetSizeCalculator.weight (sizedAsset n) = (n + 40) % 2 ^ 32 := by
  rw [AssetSizeCalculator.weight, length_sizedAsset, AssetSizeCalculator.TOTAL_OVERHEAD]

lemma EntryCountCalculator.weighs {D : Type*} :
    (EntryCountCalculator D).Weighs EntryCountCalculator.weight :=
  ⟨fun _ _ => rfl, fun _ _ => rfl, fun _ => by simp [weight]⟩

lemma AssetSizeCalculator.weighs : AssetSizeCalculator.Weighs AssetSizeCalculator.weight :=
  ⟨fun _ _ => rfl, fun _ _ => rfl, fun a => (Nat.mod_lt _ (by decide)).trans (by decide)⟩

namespace LRUCache

variable {K D : Type*} [DecidableEq K]

/-! ### The eviction loop -/

/-- The loop of `insert` as it stands: it steps back from the end of the list, so there has to be a
last cell, and removes that cell by way of the index. -/
inductive Evicts : LRUCache K D → LRUCache K D → Prop
  | done {c : LRUCache K D} (h : ¬ c.maxSize < c.size) : Evicts c c
  | step {c c' : LRUCache K D} (h : c.maxSize < c.size) (n : LRUNode K D)
      (hlast : c.list.getLast? = some n) (hfind : c.find n.key = some n.addr)
      (hrest : Evicts (c.remove n.key) c') : Evicts c c'

lemma Evicts.eq_of_fits {c c' : LRUCache K D} (h : Evicts c c') (hfits : ¬ c.maxSize < c.size) :
    c' = c := by
  cases h with
  | done _ => rfl
  | step hheavy => exact absurd hheavy hfits

/-- What the listed entries weigh. -/
def total (weight : D → ℕ) (c : LRUCache K D) : ℕ := Budget.total (weight ·.data) c.list

/-- The calculator has the weights of the listed entries. -/
structure Accounted (sc : SizeCalculator D) (weight : D → ℕ) (m : UInt64) (c : LRUCache K D) :
    Prop where
  coherent : c.Coherent
  calculator : c.calculator = sc
  maxSize : c.maxSize = m
  size : c.size = UInt64.ofNat (c.total weight)

namespace Accounted

variable {sc : SizeCalculator D} {weight : D → ℕ} {m : UInt64} {c c' : LRUCache K D}

omit [DecidableEq K] in
lemma empty (sc : SizeCalculator D) (weight : D → ℕ) (m : UInt64) :
    Accounted sc weight m ({ calculator := sc, maxSize := m } : LRUCache K D) :=
  ⟨coherent_empty sc m, rfl, rfl, rfl⟩

omit [DecidableEq K] in
lemma clear (h : Accounted sc weight m c) : Accounted sc weight m c.clear :=
  ⟨by constructor <;> simp [LRUCache.clear], h.calculator, h.maxSize, rfl⟩

lemma touch (h : Accounted sc weight m c) (k : K) : Accounted sc weight m (c.touch k) := by
  have hfields : (c.touch k).calculator = c.calculator ∧ (c.touch k).maxSize = c.maxSize ∧
      (c.touch k).size = c.size := by
    unfold LRUCache.touch
    split <;> exact ⟨rfl, rfl, rfl⟩
  refine ⟨h.coherent.touch k, hfields.1.trans h.calculator, hfields.2.1.trans h.maxSize, ?_⟩
  rw [hfields.2.2, h.size, LRUCache.total, LRUCache.total, total_perm (touch_perm h.coherent k)]

lemma remove (hsc : sc.Weighs weight) (h : Accounted sc weight m c) (k : K) :
    Accounted sc weight m (c.remove k) := by
  cases hf : (c.find k).bind c.nodeAt with
  | none =>
    have hsame : c.remove k = c := by simp [LRUCache.remove, hf]
    rwa [hsame]
  | some n =>
    obtain ⟨hn, hkey⟩ := (find_bind_nodeAt h.coherent).mp hf
    have hsplit : c.total weight = (c.remove k).total weight + weight n.data := by
      have := total_filter_add (w := (weight ·.data)) (·.key = n.key) c.list
      rw [filter_key h.coherent hn] at this
      rw [LRUCache.total, LRUCache.total, list_remove h.coherent, ← this, hkey, Nat.add_comm]
      simp
    have hrm : (c.remove k).calculator = c.calculator ∧ (c.remove k).maxSize = c.maxSize ∧
        (c.remove k).size = c.calculator.onRemove c.size n.data := by
      simp [LRUCache.remove, hf]
    refine ⟨h.coherent.remove k, hrm.1.trans h.calculator, hrm.2.1.trans h.maxSize, ?_⟩
    rw [hrm.2.2, h.calculator, hsc.onRemove, h.size, hsplit, UInt64.ofNat_add,
      UInt64.add_sub_cancel]

lemma fetch (h : Accounted sc weight m c) (k : K) (t : Bool) :
    Accounted sc weight m (c.fetch k t).2 := by
  unfold LRUCache.fetch
  split
  · exact h
  · cases t
    · exact h
    · exact h.touch k

lemma pushFront (hsc : sc.Weighs weight) (h : Accounted sc weight m c) (k : K) (d : D) :
    Accounted sc weight m (c.pushFront k d) := by
  have hb : Accounted sc weight m (c.without k) := (h.touch k).remove hsc k
  have hco := h.coherent.pushFront k d
  rw [pushFront_eq h.coherent] at hco ⊢
  refine ⟨hco, hb.calculator, hb.maxSize, ?_⟩
  change (c.without k).calculator.onAdd _ _ = _
  rw [hb.calculator, hsc.onAdd, hb.size, LRUCache.total, LRUCache.total, total_cons,
    UInt64.ofNat_add, UInt64.add_comm]

omit [DecidableEq K] in
/-- The sum is exact below `2 ^ 64`. -/
lemma toNat_size (h : Accounted sc weight m c) (hlt : c.total weight < 2 ^ 64) :
    c.size.toNat = c.total weight := by
  rw [h.size, UInt64.toNat_ofNat_of_lt' hlt]

/-- A heavy cache has a last cell, which the index leads to, and without it the others remain. -/
lemma exists_last (h : Accounted sc weight m c) (hheavy : c.maxSize < c.size) :
    ∃ n, c.list.getLast? = some n ∧ c.find n.key = some n.addr ∧
      (c.remove n.key).list = c.list.dropLast := by
  obtain hnil | ⟨l, n, hlist⟩ := List.eq_nil_or_concat' c.list
  · have hzero : c.size = 0 := by rw [h.size, LRUCache.total, hnil]; rfl
    rw [hzero] at hheavy
    exact absurd hheavy (UInt64.not_lt.mpr (UInt64.le_iff_toNat_le.mpr (Nat.zero_le _)))
  · have hn : n ∈ c.list := by simp [hlist]
    refine ⟨n, by simp [hlist], ?_, ?_⟩
    · exact (find_eq_some h.coherent).mpr ((h.coherent.mem_index _ _).mpr ⟨n, hn, rfl, rfl⟩)
    · have hkeys := h.coherent.keys_nodup
      have hl : ∀ m ∈ l, m.key ≠ n.key := by
        rw [hlist, List.map_append, List.nodup_append] at hkeys
        exact fun m hm => hkeys.2.2 _ (List.mem_map.mpr ⟨m, hm, rfl⟩) _ (by simp)
      rw [list_remove h.coherent, hlist, List.filter_append, List.dropLast_concat,
        List.filter_eq_self.mpr (by simpa using hl)]
      simp

/-- The loop ends, and never steps back from the end of an empty list. -/
lemma evict (hsc : sc.Weighs weight) (h : Accounted sc weight m c) {fuel : ℕ}
    (hfuel : c.list.length ≤ fuel) : Evicts c (c.evict fuel) := by
  induction fuel generalizing c with
  | zero =>
    refine .done fun hheavy => ?_
    obtain ⟨n, hlast, -⟩ := h.exists_last hheavy
    rw [List.length_eq_zero_iff.mp (Nat.le_zero.mp hfuel)] at hlast
    cases hlast
  | succ fuel ih =>
    by_cases hheavy : c.maxSize < c.size
    · obtain ⟨n, hlast, hfind, hlist⟩ := h.exists_last hheavy
      have hevict : c.evict (fuel + 1) = (c.remove n.key).evict fuel := by
        simp [LRUCache.evict, hheavy, hlast]
      rw [hevict]
      refine .step hheavy n hlast hfind (ih (h.remove hsc n.key) ?_)
      rw [hlist, List.length_dropLast]
      omega
    · have hevict : c.evict (fuel + 1) = c := by simp [LRUCache.evict, hheavy]
      rw [hevict]
      exact .done hheavy

lemma of_evicts (hsc : sc.Weighs weight) (h : Accounted sc weight m c) (hev : Evicts c c') :
    Accounted sc weight m c' := by
  induction hev with
  | done _ => exact h
  | step _ n _ _ _ ih => exact ih (h.remove hsc n.key)

/-- The loop leaves the longest prefix that fits. -/
lemma list_of_evicts (hsc : sc.Weighs weight) (h : Accounted sc weight m c)
    (hlt : c.total weight < 2 ^ 64) (hev : Evicts c c') :
    c'.list = takeWithin (weight ·.data) m.toNat c.list := by
  induction hev with
  | @done c hfits =>
    refine (takeWithin_of_total_le ?_).symm
    have hle := UInt64.le_iff_toNat_le.mp (UInt64.not_lt.mp hfits)
    rwa [h.toNat_size hlt, h.maxSize] at hle
  | @step c c' hheavy n hlast _ _ ih =>
    obtain ⟨n', hlast', -, hlist⟩ := h.exists_last hheavy
    obtain rfl : n = n' := Option.some.inj (hlast.symm.trans hlast')
    have hheavy' : m.toNat < c.total weight := by
      rw [← h.toNat_size hlt, ← h.maxSize]
      exact UInt64.lt_iff_toNat_lt.mp hheavy
    have hle : (c.remove n.key).total weight ≤ c.total weight := by
      rw [LRUCache.total, hlist]
      exact total_le_of_prefix (List.dropLast_prefix _)
    rw [ih (h.remove hsc n.key) (hle.trans_lt hlt), hlist, takeWithin_dropLast hheavy']

lemma insert (hsc : sc.Weighs weight) (h : Accounted sc weight m c) (k : K) (d : D) :
    Evicts (c.pushFront k d) (c.insert k d) :=
  (h.pushFront hsc k d).evict hsc le_rfl

end Accounted

/-! ### The policy -/

/-- The operations of the cache. -/
inductive Op (K D : Type*)
  | insert (key : K) (data : D)
  | fetch (key : K) (touchData : Bool)
  | touch (key : K)
  | remove (key : K)
  | existsKey (key : K)
  | clear

def applyOp (c : LRUCache K D) : Op K D → LRUCache K D
  | .insert k d  => c.insert k d
  | .fetch k t   => (c.fetch k t).2
  | .touch k     => c.touch k
  | .remove k    => c.remove k
  | .existsKey _ => c
  | .clear       => c.clear

/-- The cache after the operations, started empty. -/
def runOps (sc : SizeCalculator D) (m : UInt64) (ops : List (Op K D)) : LRUCache K D :=
  ops.foldl applyOp { calculator := sc, maxSize := m }

/-- The listed entries, most recently used first. -/
def contents (c : LRUCache K D) : List (K × D) := c.list.map fun n => (n.key, n.data)

/-- What an operation is to do to the entries. -/
def policyStep (weight : D → ℕ) (m : ℕ) (l : List (K × D)) : Op K D → List (K × D)
  | .insert k d             => takeWithin (weight ·.2) m ((k, d) :: l.filter (·.1 ≠ k))
  | .fetch k true | .touch k => l.filter (·.1 = k) ++ l.filter (·.1 ≠ k)
  | .remove k               => l.filter (·.1 ≠ k)
  | .fetch _ false          => l
  | .existsKey _            => l
  | .clear                  => []

def policy (weight : D → ℕ) (m : ℕ) (ops : List (Op K D)) : List (K × D) :=
  ops.foldl (policyStep weight m) []

/-- The key that an operation uses. -/
def Op.used? : Op K D → Option K
  | .insert k _ | .fetch k true | .touch k => some k
  | _ => none

/-- The number of the last operation that used the key, counted from one. -/
def lastUse (ops : List (Op K D)) (k : K) : ℕ :=
  ops.length - ops.reverse.findIdx (·.used? = some k)

variable {ops : List (Op K D)} {op : Op K D} {weight : D → ℕ} {m : ℕ}

lemma lastUse_concat (k : K) :
    lastUse (ops ++ [op]) k = if op.used? = some k then ops.length + 1 else lastUse ops k := by
  unfold lastUse
  split_ifs with h
  · simp [List.findIdx_cons, h]
  · simp [List.findIdx_cons, h]

lemma lastUse_le (k : K) : lastUse ops k ≤ ops.length := Nat.sub_le _ _

/-- The entries stand in the order of their last use. -/
def InOrder (ops : List (Op K D)) (l : List (K × D)) : Prop :=
  l.Pairwise fun e e' => lastUse ops e'.1 < lastUse ops e.1

/-- Entries whose keys the operation does not use keep their order. -/
lemma InOrder.concat {l : List (K × D)} (h : InOrder ops l)
    (hl : ∀ e ∈ l, op.used? ≠ some e.1) : InOrder (ops ++ [op]) l := by
  refine List.Pairwise.imp_of_mem (fun he he' hlt => ?_) h
  rwa [lastUse_concat, lastUse_concat, if_neg (hl _ he), if_neg (hl _ he')]

/-- The used key goes in front. -/
lemma InOrder.cons {l : List (K × D)} {k : K} (h : InOrder ops l) (hl : ∀ e ∈ l, e.1 ≠ k)
    (hop : op.used? = some k) (d : D) : InOrder (ops ++ [op]) ((k, d) :: l) := by
  have hne : ∀ e ∈ l, op.used? ≠ some e.1 := by
    intro e he heq
    exact hl e he (Option.some.inj (heq.symm.trans hop))
  refine List.pairwise_cons.mpr ⟨fun e he => ?_, h.concat hne⟩
  rw [lastUse_concat, lastUse_concat, if_neg (hne e he), if_pos hop]
  exact Nat.lt_succ_of_le (lastUse_le _)

lemma InOrder.filter {l : List (K × D)} (h : InOrder ops l) (q : K × D → Bool) :
    InOrder ops (l.filter q) := List.Pairwise.filter q h

lemma InOrder.nodup_keys {l : List (K × D)} (h : InOrder ops l) : (l.map Prod.fst).Nodup := by
  rw [List.Nodup, List.pairwise_map]
  refine List.Pairwise.imp (fun hlt heq => ?_) h
  rw [heq] at hlt
  exact lt_irrefl _ hlt

/-- Moving a used key to the front. -/
lemma InOrder.toFront {l : List (K × D)} {k : K} (h : InOrder ops l) (hop : op.used? = some k) :
    InOrder (ops ++ [op]) (l.filter (·.1 = k) ++ l.filter (·.1 ≠ k)) := by
  have hkeys : ∀ e ∈ l.filter (·.1 = k), e.1 = k := by simp
  have hnodup := (h.filter (·.1 = k)).nodup_keys
  cases hf : l.filter (·.1 = k) with
  | nil => exact (h.filter _).concat fun e he heq => by simp_all
  | cons e rest =>
    rw [hf] at hkeys hnodup
    have hrest : rest = [] := by
      refine List.eq_nil_iff_forall_not_mem.mpr fun e' he' => (List.nodup_cons.mp hnodup).1 ?_
      have heq : e'.1 = e.1 := (hkeys e' (by simp [he'])).trans (hkeys e (by simp)).symm
      exact heq ▸ List.mem_map_of_mem he'
    obtain ⟨k', d⟩ := e
    obtain rfl : k' = k := hkeys (k', d) (by simp)
    rw [hrest]
    exact (h.filter _).cons (by simp) hop d

lemma inOrder_policyStep {l : List (K × D)} (h : InOrder ops l) :
    InOrder (ops ++ [op]) (policyStep weight m l op) := by
  cases op with
  | insert k d =>
    have hall : InOrder (ops ++ [.insert k d]) ((k, d) :: l.filter (·.1 ≠ k)) :=
      (h.filter _).cons (by simp) rfl d
    exact hall.sublist (isLongest_takeWithin _ _ _).isPrefix.sublist
  | fetch k t =>
    cases t with
    | true => exact h.toFront rfl
    | false => exact h.concat (by simp [Op.used?])
  | touch k => exact h.toFront rfl
  | remove k => exact (h.filter _).concat (by simp [Op.used?])
  | existsKey k => exact h.concat (by simp [Op.used?])
  | clear => exact List.Pairwise.nil

lemma total_policyStep_le {l : List (K × D)} (h : Budget.total (weight ·.2) l ≤ m) :
    Budget.total (weight ·.2) (policyStep weight m l op) ≤ m := by
  have hfilter (k : K) : Budget.total (weight ·.2) (l.filter (·.1 = k)) +
      Budget.total (weight ·.2) (l.filter (·.1 ≠ k)) = Budget.total (weight ·.2) l := by
    simpa using total_filter_add (w := (weight ·.2)) (·.1 = k) l
  cases op with
  | insert k d => exact (isLongest_takeWithin _ _ _).total_le
  | fetch k t =>
    cases t with
    | true => rwa [policyStep, total_append, hfilter k]
    | false => exact h
  | touch k => rwa [policyStep, total_append, hfilter k]
  | remove k => exact (Nat.le.intro ((Nat.add_comm _ _).trans (hfilter k))).trans h
  | existsKey k => exact h
  | clear => exact Nat.zero_le m

lemma policy_concat :
    policy weight m (ops ++ [op]) = policyStep weight m (policy weight m ops) op :=
  List.foldl_concat ..

lemma inOrder_policy : InOrder ops (policy weight m ops) := by
  induction ops using List.reverseRecOn with
  | nil => exact List.Pairwise.nil
  | append_singleton ops op ih =>
    rw [policy_concat]
    exact inOrder_policyStep ih

lemma total_policy_le : Budget.total (weight ·.2) (policy weight m ops) ≤ m := by
  induction ops using List.reverseRecOn with
  | nil => exact Nat.zero_le m
  | append_singleton ops op ih =>
    rw [policy_concat]
    exact total_policyStep_le ih

/-! ### The cache against its policy -/

/-- The insertion brings the exact sum of the weights to `2 ^ 64` or more. -/
def overflows (weight : D → ℕ) (c : LRUCache K D) : Op K D → Bool
  | .insert k d =>
    2 ^ 64 ≤ weight d + Budget.total (weight ·.data) (c.list.filter (·.key ≠ k))
  | _           => false

/-- After the operations the cache is as its policy says. -/
structure Exact (sc : SizeCalculator D) (weight : D → ℕ) (m : UInt64) (ops : List (Op K D)) :
    Prop where
  coherent : (runOps sc m ops).Coherent
  size_eq : (runOps sc m ops).size.toNat = (runOps sc m ops).total weight
  size_le : (runOps sc m ops).size ≤ m
  contents_eq : (runOps sc m ops).contents = policy weight m.toNat ops
  inOrder : InOrder ops (runOps sc m ops).contents
  longest : ∀ fs k d, ops = fs ++ [.insert k d] →
    IsLongest (weight ·.2) m.toNat ((k, d) :: (runOps sc m fs).contents.filter (·.1 ≠ k))
      (runOps sc m ops).contents
  evicts : ∀ fs k d, ops = fs ++ [.insert k d] →
    Evicts ((runOps sc m fs).pushFront k d) (runOps sc m ops)

section Runs

variable {sc : SizeCalculator D} {m : UInt64} {c : LRUCache K D}

lemma Accounted.applyOp (hsc : sc.Weighs weight) (h : Accounted sc weight m c) (op : Op K D) :
    Accounted sc weight m (c.applyOp op) := by
  cases op with
  | insert k d => exact (h.pushFront hsc k d).of_evicts hsc (h.insert hsc k d)
  | fetch k t => exact h.fetch k t
  | touch k => exact h.touch k
  | remove k => exact h.remove hsc k
  | existsKey k => exact h
  | clear => exact h.clear

lemma runOps_concat : runOps sc m (ops ++ [op]) = (runOps sc m ops).applyOp op :=
  List.foldl_concat ..

lemma accounted_runOps (hsc : sc.Weighs weight) (m : UInt64) (ops : List (Op K D)) :
    Accounted sc weight m (runOps sc m ops) := by
  induction ops using List.reverseRecOn with
  | nil => exact .empty sc weight m
  | append_singleton ops op ih =>
    rw [runOps_concat]
    exact ih.applyOp hsc op

omit [DecidableEq K] in
lemma total_contents (c : LRUCache K D) :
    Budget.total (weight ·.2) c.contents = c.total weight := by
  simp [Budget.total, LRUCache.total, contents, Function.comp_def]

lemma list_pushFront (h : c.Coherent) (k : K) (d : D) :
    ∃ a, (c.pushFront k d).list = ⟨a, k, d⟩ :: c.list.filter (·.key ≠ k) :=
  ⟨(c.without k).nextAddr, by rw [pushFront_eq h, ← list_without h]⟩

lemma total_pushFront (h : c.Coherent) (k : K) (d : D) :
    (c.pushFront k d).total weight =
      weight d + Budget.total (weight ·.data) (c.list.filter (·.key ≠ k)) := by
  obtain ⟨a, hlist⟩ := list_pushFront h k d
  rw [LRUCache.total, hlist, total_cons]

lemma fetch_true (c : LRUCache K D) (k : K) : (c.fetch k true).2 = c.touch k := by
  unfold LRUCache.fetch
  cases hf : (c.find k).bind c.nodeAt with
  | none => simp [LRUCache.touch, hf]
  | some n => rfl

lemma fetch_false (c : LRUCache K D) (k : K) : (c.fetch k false).2 = c := by
  unfold LRUCache.fetch
  split <;> rfl

/-- Short of an overflow, an operation does what the policy says. -/
lemma contents_applyOp (hsc : sc.Weighs weight) (h : Accounted sc weight m c)
    (hno : overflows weight c op = false) :
    (c.applyOp op).contents = policyStep weight m.toNat c.contents op := by
  have hfilter (q : K → Bool) :
      (c.list.filter fun n => q n.key).map (fun n => (n.key, n.data)) =
        c.contents.filter fun e => q e.1 := by
    simp [contents, List.filter_map, Function.comp_def]
  have htouch (k : K) : (c.touch k).contents =
      c.contents.filter (·.1 = k) ++ c.contents.filter (·.1 ≠ k) := by
    rw [contents, list_touch h.coherent, List.map_append, ← hfilter (· = k), ← hfilter (· ≠ k)]
  cases op with
  | insert k d =>
    have hlt : (c.pushFront k d).total weight < 2 ^ 64 := by
      rw [total_pushFront h.coherent]
      simpa [overflows] using hno
    have hlist := (h.pushFront hsc k d).list_of_evicts hsc hlt (h.insert hsc k d)
    obtain ⟨a, hpush⟩ := list_pushFront h.coherent k d
    rw [hpush] at hlist
    have htake := map_takeWithin (f := fun n : LRUNode K D => (n.key, n.data))
      (v := fun e : K × D => weight e.2) (w := (weight ·.data)) (fun _ => rfl) m.toNat
    change (c.insert k d).list.map _ = _
    rw [hlist, htake, List.map_cons, hfilter (· ≠ k)]
    rfl
  | fetch k t =>
    cases t with
    | true =>
      change (c.fetch k true).2.contents = _
      rw [fetch_true]
      exact htouch k
    | false =>
      change (c.fetch k false).2.contents = _
      rw [fetch_false]
      rfl
  | touch k => exact htouch k
  | remove k =>
    change (c.remove k).list.map _ = _
    rw [list_remove h.coherent, hfilter (· ≠ k)]
    rfl
  | existsKey k => rfl
  | clear => rfl

lemma total_applyOp_le (hsc : sc.Weighs weight) (h : Accounted sc weight m c)
    (hno : overflows weight c op = false) (hle : c.total weight ≤ m.toNat) :
    (c.applyOp op).total weight ≤ m.toNat := by
  rw [← total_contents, contents_applyOp hsc h hno]
  exact total_policyStep_le (total_contents c ▸ hle)

/-- The sum wraps around, the loop finds nothing to do, and the running size is not the sum. -/
lemma size_ne_of_overflows (hsc : sc.Weighs weight) (h : Accounted sc weight m c)
    (hle : c.total weight ≤ m.toNat) (hover : overflows weight c op = true) :
    (c.applyOp op).size.toNat ≠ (c.applyOp op).total weight := by
  cases op with
  | insert k d =>
    have hpush := h.pushFront hsc k d
    have htotal : (c.pushFront k d).total weight = _ := total_pushFront h.coherent k d
    have hrest : Budget.total (weight ·.data) (c.list.filter (·.key ≠ k)) ≤ c.total weight := by
      have := total_filter_add (w := (weight ·.data)) (·.key ≠ k) c.list
      rw [LRUCache.total]
      omega
    have hover : 2 ^ 64 ≤ (c.pushFront k d).total weight := by
      simpa [overflows, htotal] using hover
    have hfits : ¬ (c.pushFront k d).maxSize < (c.pushFront k d).size := by
      have hd := hsc.lt d
      have hm := m.toNat_lt
      rw [hpush.maxSize, hpush.size, UInt64.lt_iff_toNat_lt, UInt64.toNat_ofNat']
      omega
    change (c.insert k d).size.toNat ≠ (c.insert k d).total weight
    rw [(h.insert hsc k d).eq_of_fits hfits]
    have := (c.pushFront k d).size.toNat_lt
    omega
  | _ => cases hover

/-- Where the entries are those of the policy, everything else follows. -/
lemma exact_of_contents (hsc : sc.Weighs weight)
    (h : ∀ fs, fs <+: ops → (runOps sc m fs).contents = policy weight m.toNat fs) :
    Exact sc weight m ops := by
  have hacc := accounted_runOps hsc m ops
  have hops := h ops List.prefix_rfl
  have hle : (runOps sc m ops).total weight ≤ m.toNat := by
    rw [← total_contents, hops]
    exact total_policy_le
  have hsize := hacc.toNat_size (hle.trans_lt m.toNat_lt)
  refine ⟨hacc.coherent, hsize, ?_, hops, hops ▸ inOrder_policy, ?_, ?_⟩
  · rw [UInt64.le_iff_toNat_le, hsize]
    exact hle
  · rintro fs k d rfl
    rw [hops, policy_concat, h fs (List.prefix_append _ _)]
    exact isLongest_takeWithin _ _ _
  · rintro fs k d rfl
    rw [runOps_concat]
    exact (accounted_runOps hsc m fs).insert hsc k d

/-- The cache is as its policy says after each of the operations if and only if no insertion
overflows. -/
lemma exact_iff (hsc : sc.Weighs weight) (m : UInt64) (ops : List (Op K D)) :
    (∀ fs, fs <+: ops → Exact sc weight m fs) ↔
      ∀ fs op, fs ++ [op] <+: ops → overflows weight (runOps sc m fs) op = false := by
  constructor
  · intro h fs op hfs
    have hpre := h fs ((List.prefix_append fs [op]).trans hfs)
    by_contra hover
    have hle : (runOps sc m fs).total weight ≤ m.toNat :=
      hpre.size_eq ▸ UInt64.le_iff_toNat_le.mp hpre.size_le
    refine size_ne_of_overflows hsc (accounted_runOps hsc m fs) hle (by simpa using hover) ?_
    rw [← runOps_concat]
    exact (h _ hfs).size_eq
  · intro h fs hfs
    refine exact_of_contents hsc fun fs' hfs' => ?_
    have hprefix := hfs'.trans hfs
    clear hfs'
    induction fs' using List.reverseRecOn with
    | nil => rfl
    | append_singleton fs' op ih =>
      rw [runOps_concat, policy_concat, ← ih ((List.prefix_append fs' [op]).trans hprefix)]
      exact contents_applyOp hsc (accounted_runOps hsc m fs') (h fs' op hprefix)

end Runs

/-- With either calculator, every maximum size and every sequence of operations: the cache is as its
policy says after each operation if and only if no insertion brings the exact sum of the weights to
`2 ^ 64`. -/
theorem policy_exact_iff (m : UInt64) :
    (∀ ops : List (Op K Asset),
      (∀ fs, fs <+: ops → Exact AssetSizeCalculator AssetSizeCalculator.weight m fs) ↔
        ∀ fs op, fs ++ [op] <+: ops →
          overflows AssetSizeCalculator.weight (runOps AssetSizeCalculator m fs) op = false) ∧
    ∀ ops : List (Op K D),
      (∀ fs, fs <+: ops → Exact (EntryCountCalculator D) EntryCountCalculator.weight m fs) ↔
        ∀ fs op, fs ++ [op] <+: ops →
          overflows EntryCountCalculator.weight (runOps (EntryCountCalculator D) m fs) op = false :=
  ⟨exact_iff AssetSizeCalculator.weighs m, exact_iff EntryCountCalculator.weighs m⟩

/-- One piece of data under many keys. -/
def flood (d : D) (n : ℕ) : List (Op ℕ D) := (List.range n).map (.insert · d)

/-- The largest maximum size; nothing exceeds it. -/
def unbounded : UInt64 := 18446744073709551615

lemma runOps_flood {sc : SizeCalculator D} (hsc : sc.Weighs weight) (d : D) (n : ℕ) :
    (∀ e ∈ (runOps sc unbounded (flood d n)).list, e.key < n) ∧
      (runOps sc unbounded (flood d n)).total weight = n * weight d := by
  induction n with
  | zero => simp [flood, runOps, LRUCache.total]
  | succ n ih =>
    obtain ⟨hkeys, htotal⟩ := ih
    have h := accounted_runOps hsc unbounded (flood d n)
    have hflood : flood d (n + 1) = flood d n ++ [.insert n d] := by simp [flood, List.range_succ]
    rw [hflood, runOps_concat]
    set c := runOps sc unbounded (flood d n)
    have hall : c.list.filter (·.key ≠ n) = c.list :=
      List.filter_eq_self.mpr fun e he => by simpa using (hkeys e he).ne
    have hfits : ¬ (c.pushFront n d).maxSize < (c.pushFront n d).size := by
      have := (c.pushFront n d).size.toNat_lt
      rw [(h.pushFront hsc n d).maxSize, UInt64.lt_iff_toNat_lt]
      simp only [unbounded, UInt64.reduceToNat]
      omega
    have hsame : c.applyOp (.insert n d) = c.pushFront n d := (h.insert hsc n d).eq_of_fits hfits
    rw [hsame, total_pushFront h.coherent, hall]
    obtain ⟨a, hlist⟩ := list_pushFront h.coherent n d
    constructor
    · intro e he
      rw [hlist, hall] at he
      rcases List.mem_cons.mp he with rfl | he
      · exact Nat.lt_succ_self _
      · exact (hkeys e he).trans (Nat.lt_succ_self n)
    · rw [Nat.add_mul, Nat.one_mul, Nat.add_comm, ← htotal]
      rfl

/-- Enough entries under distinct keys bring the sum over `2 ^ 64`, and nothing is evicted. -/
lemma not_exact_flood {sc : SizeCalculator D} (hsc : sc.Weighs weight) {d : D} {n : ℕ}
    (hn : 2 ^ 64 ≤ n * weight d) :
    unbounded.toNat < (runOps sc unbounded (flood d n)).total weight ∧
      ¬ Exact sc weight unbounded (flood d n) := by
  have htotal := (runOps_flood hsc d n).2
  constructor
  · rw [htotal]
    exact unbounded.toNat_lt.trans_le hn
  · intro h
    have hsize := h.size_eq
    rw [htotal] at hsize
    exact absurd (hsize ▸ UInt64.toNat_lt _) (Nat.not_lt.mpr hn)

/-- `2 ^ 32 + 2` entries of the heaviest asset hold more than any maximum size, and the policy is
broken; so it is after `2 ^ 64` entries that weigh one. -/
theorem flood_not_exact :
    (unbounded.toNat < (runOps AssetSizeCalculator unbounded
        (flood (sizedAsset (2 ^ 32 - 41)) (2 ^ 32 + 2))).total AssetSizeCalculator.weight ∧
      ¬ Exact AssetSizeCalculator AssetSizeCalculator.weight unbounded
        (flood (sizedAsset (2 ^ 32 - 41)) (2 ^ 32 + 2))) ∧
    ¬ Exact (EntryCountCalculator Unit) EntryCountCalculator.weight unbounded (flood () (2 ^ 64)) :=
  ⟨not_exact_flood AssetSizeCalculator.weighs (by rw [weight_sizedAsset]; decide),
    (not_exact_flood EntryCountCalculator.weighs (Nat.le_of_eq (Nat.mul_one _).symm)).2⟩

/-- No operation of a list has a property, by evaluation of its prefixes. -/
lemma false_of_inits {α : Type*} {ops : List α} (p : List α → α → Bool)
    (h : ∀ fs ∈ ops.inits, fs.getLast?.any (p fs.dropLast) = false) (fs : List α) (op : α)
    (hfs : fs ++ [op] <+: ops) : p fs op = false := by
  simpa using h (fs ++ [op]) ((List.mem_inits _ _).mpr hfs)

/-- Three assets of weight 78 in a cache of size 200; the first is evicted. -/
def threeInserts : List (Op ℕ Asset) :=
  [.insert 1 (sampleAsset 1), .insert 2 (sampleAsset 2), .insert 3 (sampleAsset 3)]

theorem threeInserts_exact :
    Exact AssetSizeCalculator AssetSizeCalculator.weight 200 threeInserts ∧
      ((runOps AssetSizeCalculator 200 threeInserts).contents.map Prod.fst) = [3, 2] :=
  ⟨((policy_exact_iff (D := Unit) 200).1 threeInserts).mpr (false_of_inits _ (by decide)) _
    List.prefix_rfl, by decide⟩

end LRUCache

end Whip
