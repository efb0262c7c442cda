import Whip.Cache.Policy

/-!
# What the asset cache counts

`AssetSizeCalculator` forms the weight of an asset in 32 bits. An asset of `2 ^ 32 - 40` bytes or
more is counted with next to nothing, although the cache holds all of it.
-/

namespace Whip.LRUCache

open Budget AssetSizeCalculator

variable {K : Type*} [DecidableEq K]

/-- The data size plus the overhead, exactly. -/
def footprint (a : Asset) : ℕ := a.data.length + TOTAL_OVERHEAD

/-- What the cached assets take together, exactly. -/
def held (c : LRUCache K Asset) : ℕ := c.total footprint

/-- The running size is exact, and what is held is within the maximum. -/
structure Counted (m : UInt64) (c : LRUCache K Asset) : Prop where
  size_eq : c.size.toNat = c.held
  held_le : c.held ≤ m.toNat

/-- The insertion makes the calculator count too little: the asset's weight does not fit 32 bits,
and what is left of it is within the maximum; or the sum does not fit 64 bits. -/
def undercounts (m : UInt64) (c : LRUCache K Asset) : Op K Asset → Bool
  | .insert k a =>
    (2 ^ 32 ≤ footprint a && footprint a - 2 ^ 32 ≤ m.toNat) ||
      2 ^ 64 ≤ footprint a + Budget.total (footprint ·.data) (c.list.filter (·.key ≠ k))
  | _           => false

/-- The asset is of a size that the 32-bit fields of the protocol admit. -/
def Op.Admitted : Op K Asset → Prop
  | .insert _ a => a.data.length < 2 ^ 32
  | _           => True

variable {m : UInt64} {c : LRUCache K Asset} {op : Op K Asset}

lemma weight_le_footprint (a : Asset) : weight a ≤ footprint a := Nat.mod_le _ _

lemma weight_eq_footprint_iff {a : Asset} : weight a = footprint a ↔ footprint a < 2 ^ 32 :=
  Nat.mod_eq_iff_lt (by decide)

/-- Every listed asset is counted with its footprint. -/
def Fits (l : List (LRUNode K Asset)) : Prop := ∀ n ∈ l, footprint n.data < 2 ^ 32

omit [DecidableEq K] in
lemma Fits.total_eq {l : List (LRUNode K Asset)} (h : Fits l) :
    Budget.total (weight ·.data) l = Budget.total (footprint ·.data) l :=
  total_congr fun n hn => weight_eq_footprint_iff.mpr (h n hn)

omit [DecidableEq K] in
/-- An exact count shows that every asset is counted with its footprint. -/
lemma Counted.fits (hacc : Accounted AssetSizeCalculator weight m c) (h : Counted m c) :
    Fits c.list := by
  have hle : c.held ≤ c.total weight := by
    rw [← h.size_eq, hacc.size, UInt64.toNat_ofNat']
    exact Nat.mod_le _ _
  exact fun n hn => weight_eq_footprint_iff.mp
    (eq_of_total_le (fun n : LRUNode K Asset => weight_le_footprint n.data) hle n hn)

omit [DecidableEq K] in
/-- Short of an overflow, a cache whose assets are counted with their footprints is exact. -/
lemma Fits.counted (hacc : Accounted AssetSizeCalculator weight m c) (h : Fits c.list)
    (hle : c.total weight ≤ m.toNat) : Counted m c := by
  have hheld : c.total weight = c.held := h.total_eq
  exact ⟨hheld ▸ hacc.toNat_size (hle.trans_lt m.toNat_lt), hheld ▸ hle⟩

/-- What an operation leaves in the cache was there before, unless it is the inserted asset. -/
lemma fits_applyOp (hc : c.Coherent) (h : Fits c.list)
    (hnew : ∀ k a, op = .insert k a → footprint a < 2 ^ 32) : Fits (c.applyOp op).list := by
  cases op with
  | insert k a =>
    intro n hn
    rcases mem_insert hc hn with ⟨-, hdata⟩ | ⟨hn, -⟩
    · exact hdata ▸ hnew k a rfl
    · exact h n hn
  | fetch k t => exact fun n hn => h n ((mem_fetch hc).mp hn)
  | touch k => exact fun n hn => h n ((mem_touch hc k).mp hn)
  | remove k => exact fun n hn => h n ((mem_remove hc k).mp hn).1
  | existsKey k => exact h
  | clear => exact nofun

/-- A heavy asset whose 32-bit weight exceeds the maximum leaves the cache empty. -/
lemma list_insert_of_lt_weight {k : K} {a : Asset}
    (hacc : Accounted AssetSizeCalculator weight m c)
    (hno : overflows weight c (.insert k a) = false) (hlt : m.toNat < weight a) :
    (c.insert k a).list = [] := by
  have hcontents := contents_applyOp AssetSizeCalculator.weighs hacc hno
  have hnil : (c.insert k a).contents = [] := by
    change (c.applyOp (.insert k a)).contents = []
    rw [hcontents, policyStep, takeWithin, if_neg (by simpa using hlt)]
  simpa [contents] using hnil

/-- The assets under other keys are counted with their footprints, which are within the maximum. -/
lemma Counted.others (h : Counted m c) (hfits : Fits c.list) (k : K) :
    Budget.total (weight ·.data) (c.list.filter (·.key ≠ k)) =
        Budget.total (footprint ·.data) (c.list.filter (·.key ≠ k)) ∧
      Budget.total (footprint ·.data) (c.list.filter (·.key ≠ k)) ≤ m.toNat :=
  ⟨Fits.total_eq fun n hn => hfits n (List.mem_of_mem_filter hn),
    (Nat.le.intro (total_filter_add _ c.list)).trans h.held_le⟩

/-- Short of an undercount, nothing overflows, and the assets are counted with their footprints. -/
lemma Counted.step (hacc : Accounted AssetSizeCalculator weight m c) (h : Counted m c)
    (hop : op.Admitted) (hno : undercounts m c op = false) :
    overflows weight c op = false ∧ Fits (c.applyOp op).list := by
  have hfits := h.fits hacc
  cases op with
  | insert k a =>
    obtain ⟨hrest, hle⟩ := h.others hfits k
    have hlen : footprint a < 2 ^ 32 + 40 := Nat.add_lt_add_right hop 40
    simp only [undercounts, Bool.or_eq_false_iff, Bool.and_eq_false_iff, decide_eq_false_iff_not,
      not_le] at hno
    by_cases hbig : footprint a < 2 ^ 32
    · have hweight := weight_eq_footprint_iff.mpr hbig
      refine ⟨?_, fits_applyOp hacc.coherent hfits fun k' a' heq => ?_⟩
      · simpa only [overflows, hrest, hweight, decide_eq_false_iff_not, not_le] using hno.2
      · cases heq
        exact hbig
    · -- the 32-bit weight is more than the maximum, so that nothing is kept
      have hweight : weight a = footprint a - 2 ^ 32 := by
        change footprint a % 2 ^ 32 = _
        omega
      have hlt : m.toNat < weight a := by omega
      have hover : overflows weight c (.insert k a) = false := by
        simp only [overflows, hrest, decide_eq_false_iff_not, not_le]
        omega
      refine ⟨hover, fun n hn => ?_⟩
      rw [LRUCache.applyOp, list_insert_of_lt_weight hacc hover hlt] at hn
      cases hn
  | _ => exact ⟨rfl, fits_applyOp hacc.coherent hfits fun _ _ h => by cases h⟩

/-- An asset within the maximum by its 32-bit weight is kept. -/
lemma exists_of_weight_le {k : K} {a : Asset} (hacc : Accounted AssetSizeCalculator weight m c)
    (hno : overflows weight c (.insert k a) = false) (hle : weight a ≤ m.toNat) :
    ∃ n ∈ (c.applyOp (.insert k a)).list, n.data = a := by
  have hmem : (k, a) ∈ (c.applyOp (.insert k a)).contents := by
    rw [contents_applyOp AssetSizeCalculator.weighs hacc hno, policyStep, takeWithin, if_pos hle]
    exact List.mem_cons_self
  obtain ⟨n, hn, heq⟩ := List.mem_map.mp hmem
  exact ⟨n, hn, (Prod.mk.inj heq).2⟩

/-- An operation that undercounts spoils the count. -/
lemma not_counted_of_undercounts (hacc : Accounted AssetSizeCalculator weight m c)
    (h : Counted m c) (hop : op.Admitted) (hunder : undercounts m c op = true) :
    ¬ Counted m (c.applyOp op) := by
  intro hcount
  have hfits := h.fits hacc
  have hfits' := hcount.fits (hacc.applyOp AssetSizeCalculator.weighs op)
  have htotal : c.total weight = c.held := hfits.total_eq
  have htotal' : (c.applyOp op).total weight = (c.applyOp op).held := hfits'.total_eq
  have hno : overflows weight c op = false := by
    by_contra hover
    exact size_ne_of_overflows AssetSizeCalculator.weighs hacc (htotal ▸ h.held_le)
      (by simpa using hover) (htotal' ▸ hcount.size_eq)
  cases op with
  | insert k a =>
    obtain ⟨hrest, hle⟩ := h.others hfits k
    have hlen : footprint a < 2 ^ 32 + 40 := Nat.add_lt_add_right hop 40
    have hweight : weight a = footprint a % 2 ^ 32 := rfl
    have hsmall (hkept : weight a ≤ m.toNat) : footprint a < 2 ^ 32 := by
      obtain ⟨n, hn, rfl⟩ := exists_of_weight_le hacc hno hkept
      exact hfits' n hn
    simp only [overflows, hrest, decide_eq_false_iff_not, not_le] at hno
    simp only [undercounts, Bool.or_eq_true, Bool.and_eq_true, decide_eq_true_eq] at hunder
    by_cases hkept : weight a ≤ m.toNat
    · have := hsmall hkept
      omega
    · omega
  | _ => cases hunder

/-- For every sequence of operations on assets of sizes that the protocol admits: the calculator's
size is exactly what the cached assets take, and that is within the maximum, after each operation,
if and only if no insertion is of an asset whose weight wraps around in 32 bits to one within the
maximum, or brings the sum to `2 ^ 64`. -/
theorem never_undercounts_iff (m : UInt64) (ops : List (Op K Asset))
    (hops : ∀ op ∈ ops, op.Admitted) :
    (∀ fs, fs <+: ops → Counted m (runOps AssetSizeCalculator m fs)) ↔
      ∀ fs op, fs ++ [op] <+: ops →
        undercounts m (runOps AssetSizeCalculator m fs) op = false := by
  have hacc (fs : List (Op K Asset)) := accounted_runOps AssetSizeCalculator.weighs m fs
  have hadmitted {fs : List (Op K Asset)} {op : Op K Asset} (hfs : fs ++ [op] <+: ops) :
      op.Admitted := hops op (hfs.subset (by simp))
  constructor
  · intro h fs op hfs
    by_contra hunder
    refine not_counted_of_undercounts (hacc fs) (h fs ((List.prefix_append fs [op]).trans hfs))
      (hadmitted hfs) (by simpa using hunder) ?_
    rw [← runOps_concat]
    exact h _ hfs
  · intro h fs hfs
    induction fs using List.reverseRecOn with
    | nil => exact ⟨rfl, Nat.zero_le _⟩
    | append_singleton fs op ih =>
      have hcount := ih ((List.prefix_append fs [op]).trans hfs)
      have hle : (runOps AssetSizeCalculator m fs).total weight ≤ m.toNat :=
        (hcount.fits (hacc fs)).total_eq.trans_le hcount.held_le
      obtain ⟨hno, hfits⟩ := hcount.step (hacc fs) (hadmitted hfs) (h fs op hfs)
      rw [runOps_concat]
      exact hfits.counted ((hacc fs).applyOp AssetSizeCalculator.weighs op)
        (total_applyOp_le AssetSizeCalculator.weighs (hacc fs) hno hle)

/-- An asset within the maximum by its 32-bit weight, inserted first, is all that the cache holds,
and is counted with this weight. -/
lemma insert_first (k : K) {a : Asset} (hle : weight a ≤ m.toNat) :
    (runOps AssetSizeCalculator m [.insert k a]).size = UInt64.ofNat (weight a) ∧
      (runOps AssetSizeCalculator m [.insert k a]).held = footprint a := by
  have hacc := accounted_runOps AssetSizeCalculator.weighs m ([] : List (Op K Asset))
  have hno : overflows weight (runOps AssetSizeCalculator m []) (Op.insert k a) = false := by
    have := AssetSizeCalculator.weighs.lt a
    simpa [overflows, runOps] using this
  have hcontents : (runOps AssetSizeCalculator m [.insert k a]).contents = [(k, a)] := by
    have := contents_applyOp AssetSizeCalculator.weighs hacc hno
    simpa [policyStep, takeWithin, hle, runOps, contents] using this
  constructor
  · rw [(accounted_runOps AssetSizeCalculator.weighs m _).size, ← total_contents, hcontents]
    simp
  · rw [held, ← total_contents, hcontents]
    simp

/-- An asset of `2 ^ 32 - 40` bytes is counted with nothing. -/
theorem large_asset_uncounted :
    (sizedAsset (2 ^ 32 - 40)).data.length < 2 ^ 32 ∧
      (runOps AssetSizeCalculator 1000
        [.insert (sizedAsset (2 ^ 32 - 40)).getUUID (sizedAsset (2 ^ 32 - 40))]).size = 0 ∧
      (runOps AssetSizeCalculator 1000
        [.insert (sizedAsset (2 ^ 32 - 40)).getUUID (sizedAsset (2 ^ 32 - 40))]).held = 2 ^ 32 := by
  have hweight : weight (sizedAsset (2 ^ 32 - 40)) = 0 := weight_sizedAsset _
  have hfoot : footprint (sizedAsset (2 ^ 32 - 40)) = 2 ^ 32 := by
    rw [footprint, length_sizedAsset]
    decide
  obtain ⟨hsize, hheld⟩ := insert_first (m := 1000) (sizedAsset (2 ^ 32 - 40)).getUUID
    (a := sizedAsset (2 ^ 32 - 40)) (hweight ▸ Nat.zero_le _)
  refine ⟨by rw [length_sizedAsset]; decide, ?_, hheld.trans hfoot⟩
  rw [hsize, hweight]
  rfl

/-- Assets of a usual size are counted exactly, also when one of them is evicted. -/
theorem small_asset_counted :
    Counted 200 (runOps AssetSizeCalculator 200 threeInserts) ∧
      ((runOps AssetSizeCalculator 200 threeInserts).contents.map Prod.fst) = [3, 2] ∧
      (runOps AssetSizeCalculator 200 threeInserts).size = 156 := by
  refine ⟨(never_undercounts_iff 200 threeInserts ?_).mpr (false_of_inits _ (by decide)) _
    List.prefix_rfl, by decide, by decide⟩
  simp [threeInserts, Op.Admitted, sampleAsset, sampleUUID]

end Whip.LRUCache
