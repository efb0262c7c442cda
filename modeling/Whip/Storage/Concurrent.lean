import Whip.Lib.ClaimOnce
import Whip.Storage.ExistenceIndex
import Whip.Storage.Writes

/-!
# Stores from two threads

The main io thread and the pull replication thread both call `VFSBackend::storeAsset`. The call
looks the identifier up in the existence index, claims it there, and pushes its request on the work
queue; each of the three takes a lock of its own, so the steps of two calls may interleave.

For one identifier the calls play the protocol of `ClaimOnce`, with the index for the token.
-/

namespace Whip

open ClaimOnce (Stage Act Exclusive)

/-- The threads that store assets. -/
inductive Thread
  | main
  | pull
deriving DecidableEq

/-- A call of `storeAsset` that has not returned. -/
structure StoreCall (κ : Type) where
  asset : ValidAsset
  callBack : κ
  stage : Stage := .checking

/-- The backend, and what the two threads are doing. -/
structure Shared (κ : Type) where
  backend : VFSBackend κ := {}
  call : Thread → Option (StoreCall κ) := fun _ => none

namespace Shared

variable {κ : Type}

def setCall (s : Shared κ) (t : Thread) (call : Option (StoreCall κ)) : Shared κ :=
  { s with call := Function.update s.call t call }

/-- The next step of a call that holds a lock, or posts the error. -/
def advance (s : Shared κ) (t : Thread) (c : StoreCall κ) : Shared κ :=
  let index := s.backend.existenceIndex
  match c.stage with
  | .checking =>
    let found := ExistenceIndex.assetExists index c.asset.getUUID
    s.setCall t (some { c with stage := if found then .refusing else .claiming })
  | .refusing =>
    let error := VFSBackend.alreadyExistsError c.asset.getUUID
    { s with backend := s.backend.post [.callback c.callBack (.stored false (some error))] }.setCall
      t none
  | .claiming =>
    let index := ExistenceIndex.addNewId index c.asset.getUUID
    { s with backend := { s.backend with existenceIndex := index } }.setCall t
      (some { c with stage := .pushing })
  | .pushing =>
    { s with backend := s.backend.enqueue (.put c.asset.toAsset c.callBack) }.setCall t none

inductive Event (κ : Type)
  | storeAsset (t : Thread) (asset : ValidAsset) (callBack : κ)
  | advance (t : Thread)
  | other (event : VFSBackend.Event κ)

/-- The worker goes its own way; everything else is done by the main thread between its calls. -/
def mayRun (s : Shared κ) : VFSBackend.Event κ → Bool
  | .dequeue | .process _ => true
  | .storeAsset _ _       => false
  | _                     => (s.call .main).isNone

def step (s : Shared κ) : Event κ → Option (Shared κ)
  | .storeAsset t asset callBack =>
    if (s.call t).isNone then some (s.setCall t (some ⟨asset, callBack, .checking⟩)) else none
  | .advance t => (s.call t).map (s.advance t)
  | .other e =>
    if s.mayRun e then (s.backend.step e).map fun b => { s with backend := b } else none

/-- A call that nothing comes between does what `VFSBackend.storeAsset` does. -/
lemma storeAsset_atomic {s : Shared κ} {t : Thread} (ht : s.call t = none) (asset : ValidAsset)
    (callBack : κ) :
    ∃ es, Machine.run step s (.storeAsset t asset callBack :: es) =
      some { s with backend := s.backend.storeAsset asset.toAsset callBack } := by
  have hback (x : Option (StoreCall κ)) :
      Function.update (Function.update s.call t x) t none = s.call := by
    rw [Function.update_idem, ← ht, Function.update_eq_self]
  by_cases hfound : ExistenceIndex.assetExists s.backend.existenceIndex asset.getUUID = true
  · refine ⟨[.advance t, .advance t], ?_⟩
    simp [Machine.run, step, ht, setCall, advance, VFSBackend.storeAsset, hfound, hback]
  · refine ⟨[.advance t, .advance t, .advance t], ?_⟩
    simp [Machine.run, step, ht, setCall, advance, VFSBackend.storeAsset, hfound, hback]

/-! ### One identifier -/

/-- What a step does about the identifier `u`. -/
def act (u : AssetId) (s : Shared κ) : Event κ → Option (Act Thread)
  | .storeAsset t asset _ => if asset.id = u then some (.start t) else none
  | .advance t =>
    ((s.call t).filter (·.asset.id = u)).map fun c =>
      match c.stage with
      | .checking => .check t
      | .refusing => .refuse t
      | .claiming => .claim t
      | .pushing  => .push t
  | .other (.runHandler i) =>
    if s.backend.posted[i]?.any (VFSBackend.Releases u.toUuid ·) then some .release else none
  | .other _ => none

/-- How far a call has come that stores an asset with the identifier. -/
def stageOf (u : AssetId) (call : Option (StoreCall κ)) : Option Stage :=
  (call.filter (·.asset.id = u)).map (·.stage)

def view (u : AssetId) (s : Shared κ) : ClaimOnce.State Thread where
  claimed := u.toUuid ∈ s.backend.existenceIndex
  stage t := stageOf u (s.call t)

variable {u : AssetId} {s s' : Shared κ} {e : Event κ}

@[simp] lemma stageOf_none : stageOf u (none : Option (StoreCall κ)) = none := rfl

@[simp] lemma stageOf_self (c : StoreCall κ) : stageOf c.asset.id (some c) = some c.stage := by
  simp [stageOf, Option.filter_some]

lemma stageOf_of_ne {c : StoreCall κ} (h : c.asset.id ≠ u) : stageOf u (some c) = none := by
  simp [stageOf, Option.filter_some, h]

lemma view_setCall (s : Shared κ) (t : Thread) (call : Option (StoreCall κ)) :
    view u (s.setCall t call) = ClaimOnce.moveTo (view u s) t (stageOf u call) := by
  simp only [view, setCall, ClaimOnce.moveTo, ClaimOnce.State.mk.injEq]
  refine ⟨rfl, funext fun t' => ?_⟩
  by_cases ht : t' = t
  · subst ht
    simp
  · simp [Function.update_of_ne ht]

/-- Moving a call of another identifier cannot be seen. -/
lemma view_setCall_of_ne {t : Thread} {c : StoreCall κ} (hc : s.call t = some c)
    (hid : c.asset.id ≠ u) {call : Option (StoreCall κ)} (hcall : stageOf u call = none) :
    view u (s.setCall t call) = view u s := by
  have hsame : stageOf u call = (view u s).stage t := by simp [view, hc, hcall, stageOf_of_ne hid]
  rw [view_setCall, hsame, ClaimOnce.moveTo, Function.update_eq_self]

lemma view_of_index {b : VFSBackend κ}
    (h : u.toUuid ∈ b.existenceIndex ↔ u.toUuid ∈ s.backend.existenceIndex) :
    view u { s with backend := b } = view u s := by
  simp [view, h]

/-- A call moves on as the protocol says. -/
lemma view_advance {t : Thread} {c : StoreCall κ} (hc : s.call t = some c) :
    match act u s (.advance t) with
    | none   => view u (s.advance t c) = view u s
    | some a => ClaimOnce.step (view u s) a = some (view u (s.advance t c)) := by
  by_cases hid : c.asset.id = u
  · subst hid
    have hexists := ExistenceIndex.assetExists_text s.backend.existenceIndex c.asset.id
    rw [ValidAsset.text_id] at hexists
    have hstage : (view c.asset.id s).stage t = some c.stage := by simp [view, hc]
    simp only [act, hc, Option.filter_some, decide_true, if_true, Option.map_some]
    cases hcs : c.stage with
    | checking =>
      rw [hcs] at hstage
      have hfound : ExistenceIndex.assetExists s.backend.existenceIndex c.asset.getUUID =
          (view c.asset.id s).claimed := by
        rw [Bool.eq_iff_iff, hexists]
        simp [view]
      simp only [ClaimOnce.step, hstage, if_true, advance, hcs, view_setCall, hfound]
      rw [← stageOf_self { c with stage := _ }]
    | refusing =>
      rw [hcs] at hstage
      simp only [ClaimOnce.step, hstage, if_true, advance, hcs, view_setCall]
      rfl
    | claiming =>
      rw [hcs] at hstage
      have hmem : c.asset.id.toUuid ∈
          ExistenceIndex.addNewId s.backend.existenceIndex c.asset.id.text :=
        ExistenceIndex.mem_addNewId.mpr (.inl rfl)
      rw [ValidAsset.text_id] at hmem
      simp only [ClaimOnce.step, hstage, if_true, advance, hcs, view_setCall]
      rw [← stageOf_self { c with stage := .pushing }]
      simp [view, hmem]
    | pushing =>
      rw [hcs] at hstage
      simp only [ClaimOnce.step, hstage, if_true, advance, hcs, view_setCall]
      rfl
  · have hindex : u.toUuid ∈ ExistenceIndex.addNewId s.backend.existenceIndex c.asset.id.text ↔
        u.toUuid ∈ s.backend.existenceIndex := by
      rw [ExistenceIndex.mem_addNewId, AssetId.toUuid_inj]
      exact or_iff_right (Ne.symm hid)
    simp only [act, hc, Option.filter_some, hid, decide_false, Bool.false_eq_true, if_false,
      Option.map_none]
    unfold advance
    cases hcs : c.stage with
    | checking => exact view_setCall_of_ne hc hid (stageOf_of_ne hid)
    | refusing => exact (view_setCall_of_ne (by exact hc) hid rfl).trans (view_of_index Iff.rfl)
    | claiming =>
      have hother : stageOf u (some { c with stage := Stage.pushing }) = none := stageOf_of_ne hid
      exact (view_setCall_of_ne (by exact hc) hid hother).trans
        (view_of_index (b := { s.backend with existenceIndex := _ }) hindex)
    | pushing => exact (view_setCall_of_ne (by exact hc) hid rfl).trans (view_of_index Iff.rfl)

/-- Without a removal, the rest of the system leaves the identifier in the index as it is. -/
lemma mem_index_other {b b' : VFSBackend κ} {e : VFSBackend.Event κ}
    (hstore : ∀ a k, e ≠ .storeAsset a k)
    (hkeep : ∀ i h, e = .runHandler i → b.posted[i]? = some h → ¬ VFSBackend.Releases u.toUuid h)
    (hs : b.step e = some b') : u.toUuid ∈ b'.existenceIndex ↔ u.toUuid ∈ b.existenceIndex := by
  cases e with
  | storeAsset a k => exact absurd rfl (hstore a k)
  | getAsset uuid k =>
    cases hs
    unfold VFSBackend.getAsset
    split <;> rfl
  | purgeAsset uuid k | getStatus k | getStoredAssetIDsWithPrefix head k =>
    cases hs
    rfl
  | beginPurgeLocals =>
    cases hs
    unfold VFSBackend.beginPurgeLocals
    split <;> rfl
  | purgeTimer =>
    obtain rfl := Machine.eq_of_ite hs
    rfl
  | dequeue =>
    simp only [VFSBackend.step, VFSBackend.dequeue] at hs
    split at hs <;> cases hs
    rfl
  | process calls =>
    simp only [VFSBackend.step, VFSBackend.process] at hs
    split at hs
    · cases hs
    · split at hs <;> cases hs
      rfl
  | runHandler i =>
    obtain ⟨⟨b₁, r⟩, hrun, rfl⟩ := Option.map_eq_some_iff.mp hs
    cases hi : b.posted[i]? with
    | none => simp [VFSBackend.runHandler, hi] at hrun
    | some h =>
      rw [(VFSBackend.mem_index_runHandler hi hrun).1]
      exact and_iff_left (hkeep i h rfl hi)

/-- For one identifier, the threads and the handlers play the protocol. -/
lemma view_step (hs : s.step e = some s') :
    match act u s e with
    | none   => view u s' = view u s
    | some a => ClaimOnce.step (view u s) a = some (view u s') := by
  cases e with
  | storeAsset t asset k =>
    simp only [step, Option.ite_none_right_eq_some, Option.some.injEq,
      Option.isNone_iff_eq_none] at hs
    obtain ⟨hidle, rfl⟩ := hs
    have hnone : (view u s).stage t = none := by simp [view, hidle]
    by_cases hid : asset.id = u
    · subst hid
      have hstage := stageOf_self (⟨asset, k, .checking⟩ : StoreCall κ)
      simp only [act, if_true, ClaimOnce.step, hnone, view_setCall, hstage]
    · simp only [act, hid, if_false]
      rw [view_setCall, stageOf_of_ne hid, ← hnone, ClaimOnce.moveTo, Function.update_eq_self]
  | advance t =>
    obtain ⟨c, hc, rfl⟩ := Option.map_eq_some_iff.mp hs
    exact view_advance hc
  | other e =>
    simp only [step, Option.ite_none_right_eq_some] at hs
    obtain ⟨hmay, hs⟩ := hs
    obtain ⟨b, hb, rfl⟩ := Option.map_eq_some_iff.mp hs
    have hstore : ∀ a k, e ≠ .storeAsset a k := by
      rintro a k rfl
      simp [mayRun] at hmay
    have hkeeps (h : act u s (.other e) = none)
        (hkeep : ∀ i h, e = .runHandler i → s.backend.posted[i]? = some h →
          ¬ VFSBackend.Releases u.toUuid h) :
        match act u s (.other e) with
        | none   => view u { s with backend := b } = view u s
        | some a => ClaimOnce.step (view u s) a = some (view u { s with backend := b }) := by
      rw [h]
      exact view_of_index (mem_index_other hstore hkeep hb)
    cases e with
    | runHandler i =>
      obtain ⟨⟨b₁, r⟩, hrun, rfl⟩ := Option.map_eq_some_iff.mp hb
      cases hi : s.backend.posted[i]? with
      | none => simp [VFSBackend.runHandler, hi] at hrun
      | some h =>
        by_cases hrel : VFSBackend.Releases u.toUuid h
        · have hact : act u s (.other (.runHandler i)) = some .release := by
            simp [act, hi, hrel]
          have hmem := (VFSBackend.mem_index_runHandler hi hrun (x := u.toUuid)).1
          have hout : u.toUuid ∉ b₁.existenceIndex := fun hin =>
            (hmem.mp hin).2 hrel
          rw [hact]
          simp [ClaimOnce.step, view, hout]
        · refine hkeeps (by simp [act, hi, hrel]) fun j h' hj hi' => ?_
          cases hj
          cases hi.symm.trans hi'
          exact hrel
    | _ => exact hkeeps rfl (by simp)

lemma views : Machine.Views step ClaimOnce.step (act u) (view u : Shared κ → _) := by
  constructor
  · intro s e s' hs ha
    have hview := view_step (u := u) hs
    rwa [ha] at hview
  · intro s e s' a hs ha
    have hview := view_step (u := u) hs
    rwa [ha] at hview

/-- The step takes the identifier out of the index. -/
def Removes (u : AssetId) (s : Shared κ) (e : Event κ) : Prop :=
  ∃ i h, e = .other (.runHandler i) ∧ s.backend.posted[i]? = some h ∧
    VFSBackend.Releases u.toUuid h

/-- The identifier is looked up only while no other store of it has looked it up and not claimed it
yet, and it is taken out of the index only while no store of it has claimed it and not pushed its
request yet. -/
def Serial (u : AssetId) (s : Shared κ) (e : Event κ) : Prop :=
  (∀ t c, e = .advance t → s.call t = some c → c.asset.id = u → c.stage = .checking →
    ∀ t' c', s.call t' = some c' → c'.asset.id = u → c'.stage ≠ .claiming) ∧
  (Removes u s e → ∀ t c, s.call t = some c → c.asset.id = u → c.stage ≠ .pushing)

lemma stageOf_eq_some {call : Option (StoreCall κ)} {x : Stage} :
    stageOf u call = some x ↔ ∃ c, call = some c ∧ c.asset.id = u ∧ c.stage = x := by
  cases call with
  | none => simp
  | some c => simp [stageOf, Option.filter_some, and_comm]

lemma removes_of_act (h : act u s e = some .release) : Removes u s e := by
  cases e with
  | storeAsset t asset k =>
    simp only [act] at h
    split_ifs at h
    cases h
  | advance t =>
    obtain ⟨c, -, hc⟩ := Option.map_eq_some_iff.mp h
    cases hcs : c.stage <;> simp [hcs] at hc
  | other e =>
    cases e with
    | runHandler i =>
      simp only [act, Option.ite_none_right_eq_some, Option.any_eq_true] at h
      obtain ⟨⟨hd, hi, hrel⟩, -⟩ := h
      exact ⟨i, hd, rfl, hi, of_decide_eq_true hrel⟩
    | _ => cases h

lemma Serial.act (h : Serial u s e) : ∀ a ∈ act u s e, ClaimOnce.Serial (view u s) a := by
  intro a ha
  cases a with
  | release =>
    intro t ht
    obtain ⟨c, hc, hid, hstage⟩ := stageOf_eq_some.mp ht
    exact h.2 (removes_of_act ha) t c hc hid hstage
  | check t =>
    intro t' ht'
    obtain ⟨c', hc', hid', hstage'⟩ := stageOf_eq_some.mp ht'
    cases e with
    | storeAsset t asset k =>
      simp only [Shared.act, Option.mem_def] at ha
      split_ifs at ha
      cases ha
    | advance t₁ =>
      obtain ⟨c, hc, heq⟩ := Option.map_eq_some_iff.mp ha
      obtain ⟨hc, hid⟩ := Option.filter_eq_some_iff.mp hc
      cases hcs : c.stage with
      | checking => exact h.1 t₁ c rfl hc (by simpa using hid) hcs t' c' hc' hid' hstage'
      | _ => simp [hcs] at heq
    | other e =>
      cases e with
      | runHandler i =>
        simp only [Shared.act, Option.mem_def] at ha
        split_ifs at ha
        cases ha
      | _ => cases ha
  | _ => trivial

/-- The requests for the identifier that a run pushes on the work queue. -/
def pushes (u : AssetId) (s : Shared κ) (es : List (Event κ)) : ℕ :=
  (Machine.trace step (act u) s es).countP Act.isPush

lemma exclusive_step (h : Exclusive (view u s)) (hserial : Serial u s e)
    (hs : s.step e = some s') : Exclusive (view u s') := by
  cases ha : act u s e with
  | none => exact views.quiet s e s' hs ha ▸ h
  | some a => exact h.step (hserial.act a ha) (views.acts s e s' a hs ha)

lemma pushes_le_one {t : Shared κ} {es : List (Event κ)} (h : Exclusive (view u s))
    (hserial : Machine.Guarded step (fun s e => Serial u s e ∧ ¬ Removes u s e) s es)
    (hrun : Machine.run step s es = some t) : pushes u s es ≤ 1 := by
  have hguard : Machine.Guarded step (fun s e => ∀ a ∈ act u s e,
      ClaimOnce.Serial (view u s) a ∧ a.isRelease = false) s es := by
    refine hserial.mono fun s e hs a ha => ⟨hs.1.act a ha, ?_⟩
    cases a with
    | release => exact absurd (removes_of_act ha) hs.2
    | _ => rfl
  obtain ⟨hserial', hrun'⟩ := views.run
    (G := fun s a => ClaimOnce.Serial s a ∧ a.isRelease = false) hguard hrun
  exact ClaimOnce.countP_isPush_le_one h hserial' hrun'

/-! ### Where an identifier is written -/

/-- The request writes an asset with the identifier. -/
def writes (u : AssetId) : AssetRequest κ → Bool
  | .put a _ => a.getUUID = u.text
  | _        => false

def OnDisk (u : AssetId) (s : Shared κ) : Prop := ∃ b, s.backend.world.disk.HasRow b u

/-- The identifier is on its way to the disk, or there, at most once; then it is in the index. -/
structure Owned (u : AssetId) (s : Shared κ) : Prop where
  openTables : OpenTables s.backend.world
  exclusive : Exclusive (view u s)
  queue : s.backend.pending.countP (writes u) ≤ 1
  pushing : ∀ t, (view u s).stage t = some .pushing →
    s.backend.pending.countP (writes u) = 0 ∧ ¬ OnDisk u s
  queued : s.backend.pending.countP (writes u) ≠ 0 → ¬ OnDisk u s
  indexed : s.backend.pending.countP (writes u) ≠ 0 ∨ OnDisk u s →
    u.toUuid ∈ s.backend.existenceIndex
  single : ∀ b b', s.backend.world.disk.HasRow b u → s.backend.world.disk.HasRow b' u → b = b'

namespace Owned

/-- Nothing is added for the identifier. -/
lemma of_same (h : Owned u s) (hopen : OpenTables s'.backend.world) (hex : Exclusive (view u s'))
    (hpending : s'.backend.pending.countP (writes u) = s.backend.pending.countP (writes u))
    (hrow : ∀ b, s'.backend.world.disk.HasRow b u → s.backend.world.disk.HasRow b u)
    (hindex : u.toUuid ∈ s.backend.existenceIndex → u.toUuid ∈ s'.backend.existenceIndex)
    (hpushing : ∀ t, (view u s').stage t = some .pushing → (view u s).stage t = some .pushing) :
    Owned u s' := by
  have hdisk : OnDisk u s' → OnDisk u s := fun ⟨b, hb⟩ => ⟨b, hrow b hb⟩
  exact {
    openTables := hopen
    exclusive := hex
    queue := hpending ▸ h.queue
    pushing := fun t ht => by
      obtain ⟨hzero, hnot⟩ := h.pushing t (hpushing t ht)
      exact ⟨hpending.trans hzero, fun hd => hnot (hdisk hd)⟩
    queued := fun hne hd => h.queued (hpending ▸ hne) (hdisk hd)
    indexed := fun hor => hindex (h.indexed (hor.imp (fun hne => hpending ▸ hne) hdisk))
    single := fun b b' hb hb' => h.single b b' (hrow b hb) (hrow b' hb') }

lemma claim (h : Owned u s) {t : Thread} {c : StoreCall κ} (hc : s.call t = some c)
    (hcs : c.stage = .claiming) (hex : Exclusive (view u (s.advance t c))) :
    Owned u (s.advance t c) := by
  have hadvance : s.advance t c = { s with backend := { s.backend with
      existenceIndex := ExistenceIndex.addNewId s.backend.existenceIndex c.asset.id.text } }.setCall
        t (some { c with stage := .pushing }) := by simp [advance, hcs]
  have hindex : u.toUuid ∈ s.backend.existenceIndex → u.toUuid ∈
      ExistenceIndex.addNewId s.backend.existenceIndex c.asset.id.text := fun hin =>
    ExistenceIndex.mem_addNewId.mpr (.inr hin)
  by_cases hid : c.asset.id = u
  · subst hid
    -- nobody had claimed the identifier, so it is nowhere
    have hfree : c.asset.id.toUuid ∉ s.backend.existenceIndex := by
      have := h.exclusive.unclaimed t (by simp [view, hc, hcs])
      simpa [view] using this
    have hzero : s.backend.pending.countP (writes c.asset.id) = 0 := by
      by_contra hne
      exact hfree (h.indexed (.inl hne))
    have hnot : ¬ OnDisk c.asset.id s := fun hd => hfree (h.indexed (.inr hd))
    rw [hadvance] at hex ⊢
    exact {
      openTables := h.openTables
      exclusive := hex
      queue := h.queue
      pushing := fun _ _ => ⟨hzero, hnot⟩
      queued := fun hne => absurd hzero hne
      indexed := fun _ => ExistenceIndex.mem_addNewId.mpr (.inl rfl)
      single := h.single }
  · rw [hadvance] at hex ⊢
    refine h.of_same h.openTables hex rfl (fun _ hb => hb) hindex fun t' ht' => ?_
    rw [view_setCall] at ht'
    obtain ⟨-, heq⟩ | ⟨-, hold⟩ := ClaimOnce.stage_moveTo ht'
    · simp [stageOf_of_ne (c := { c with stage := .pushing }) hid] at heq
    · exact hold

lemma push (h : Owned u s) {t : Thread} {c : StoreCall κ} (hc : s.call t = some c)
    (hcs : c.stage = .pushing) (hex : Exclusive (view u (s.advance t c))) :
    Owned u (s.advance t c) := by
  let b := s.backend.enqueue (.put c.asset.toAsset c.callBack)
  have hadvance : s.advance t c = { s with backend := b }.setCall t none := by
    simp [advance, hcs, b]
  have hpending : b.pending = s.backend.pending ++ [.put c.asset.toAsset c.callBack] := by
    simp [b, VFSBackend.pending, VFSBackend.enqueue]
  have hmoved {t' : Thread}
      (ht' : (view u ({ s with backend := b }.setCall t none)).stage t' = some .pushing) :
      t' ≠ t ∧ (view u s).stage t' = some .pushing := by
    rw [view_setCall] at ht'
    obtain ⟨-, heq⟩ | ⟨hne, hold⟩ := ClaimOnce.stage_moveTo ht'
    · cases heq
    · exact ⟨hne, hold⟩
  rw [hadvance] at hex ⊢
  by_cases hid : c.asset.id = u
  · subst hid
    have hpush : (view c.asset.id s).stage t = some .pushing := by simp [view, hc, hcs]
    obtain ⟨hzero, hnot⟩ := h.pushing t hpush
    have hone : b.pending.countP (writes c.asset.id) = 1 := by
      rw [hpending, List.countP_append, hzero]
      simp [writes]
    have hclaimed := h.exclusive.claimed t hpush
    exact {
      openTables := h.openTables
      exclusive := hex
      queue := hone.le
      pushing := fun t' ht' =>
        absurd (h.exclusive.pushing t' t (hmoved ht').2 hpush) (hmoved ht').1
      queued := fun _ => hnot
      indexed := fun _ => of_decide_eq_true hclaimed
      single := h.single }
  · refine h.of_same h.openTables hex ?_ (fun _ hb => hb) (fun hin => hin) fun t' ht' =>
      (hmoved ht').2
    have hother : writes u (.put c.asset.toAsset c.callBack) = false := by
      simp only [writes, decide_eq_false_iff_not]
      exact fun htext => hid (AssetId.ext htext)
    change b.pending.countP (writes u) = _
    rw [hpending, List.countP_append]
    simp [hother]

lemma process (h : Owned u s) {calls : List Call} {b : VFSBackend κ}
    (hb : s.backend.process calls = some b) (hex : Exclusive (view u { s with backend := b })) :
    Owned u { s with backend := b } := by
  obtain ⟨req, hs, w, hcur, haff, hw, rfl⟩ := VFSBackend.process_affects h.openTables hb
  have hpending := VFSBackend.pending_of_current hcur
  have hfinished : (s.backend.finished w hs).pending = s.backend.workQueue := rfl
  have hrow {b : Base} (hb : w.disk.HasRow b u) : s.backend.world.disk.HasRow b u ∨
      writes u req = true ∧ ∃ a c, req = .put a c ∧ VFSBackend.baseOf a = b := by
    obtain hold | ⟨a, c, rfl, hid, hbase⟩ := haff.hasRow_of hb
    · exact .inl hold
    · exact .inr ⟨by simp [writes, hid], a, c, rfl, hbase⟩
  by_cases hreq : writes u req = true
  · -- the one write that was under way is through, and nothing had been on the disk
    have hcount : s.backend.pending.countP (writes u) =
        s.backend.workQueue.countP (writes u) + 1 := by
      rw [hpending, List.countP_cons_of_pos hreq]
    have hqueue := h.queue
    have hzero : s.backend.workQueue.countP (writes u) = 0 := by omega
    have hnot : ¬ OnDisk u s := h.queued (by omega)
    have hin := h.indexed (.inl (by omega))
    exact {
      openTables := hw
      exclusive := hex
      queue := by rw [hfinished]; omega
      pushing := fun t ht => by
        have := (h.pushing t ht).1
        omega
      queued := fun hne => absurd hzero hne
      indexed := fun _ => hin
      single := fun b b' hb hb' => by
        obtain hb | ⟨-, a, c, rfl, rfl⟩ := hrow hb
        · exact absurd ⟨b, hb⟩ hnot
        · obtain hb' | ⟨-, a', c', heq, rfl⟩ := hrow hb'
          · exact absurd ⟨b', hb'⟩ hnot
          · cases heq
            rfl }
  · refine h.of_same hw hex ?_ (fun b hb => ?_) (fun hin => hin) fun t ht => ht
    · rw [hpending, List.countP_cons_of_neg hreq]
      rfl
    · exact (hrow hb).resolve_right fun hw => hreq hw.1

/-- Everything that neither stores nor processes a request. -/
lemma quiet_other {b b' : VFSBackend κ} {e : VFSBackend.Event κ}
    (hstore : ∀ a k, e ≠ .storeAsset a k) (hprocess : ∀ calls, e ≠ .process calls)
    (hs : b.step e = some b') :
    b'.world = b.world ∧ b'.pending.countP (writes u) = b.pending.countP (writes u) := by
  have henqueue (b : VFSBackend κ) {req : AssetRequest κ} (hreq : writes u req = false) :
      (b.enqueue req).pending.countP (writes u) = b.pending.countP (writes u) := by
    have hpending : (b.enqueue req).pending = b.pending ++ [req] := by
      simp [VFSBackend.pending, VFSBackend.enqueue]
    rw [hpending, List.countP_append]
    simp [hreq]
  cases e with
  | storeAsset a k => exact absurd rfl (hstore a k)
  | process calls => exact absurd rfl (hprocess calls)
  | getAsset uuid k =>
    cases hs
    unfold VFSBackend.getAsset
    split
    · exact ⟨rfl, rfl⟩
    · exact ⟨rfl, henqueue b rfl⟩
  | purgeAsset uuid k | getStatus k | getStoredAssetIDsWithPrefix head k =>
    cases hs
    exact ⟨rfl, henqueue b rfl⟩
  | beginPurgeLocals =>
    cases hs
    unfold VFSBackend.beginPurgeLocals
    split <;> exact ⟨rfl, rfl⟩
  | purgeTimer =>
    obtain rfl := Machine.eq_of_ite hs
    exact ⟨rfl, henqueue _ rfl⟩
  | dequeue =>
    simp only [VFSBackend.step, VFSBackend.dequeue] at hs
    split at hs
    · next req rest hcur hqueue =>
      cases hs
      exact ⟨rfl, by simp [VFSBackend.pending, hcur, hqueue]⟩
    · cases hs
  | runHandler i =>
    obtain ⟨⟨b₁, r⟩, hrun, rfl⟩ := Option.map_eq_some_iff.mp hs
    unfold VFSBackend.runHandler at hrun
    split at hrun
    · cases hrun
    · dsimp only at hrun
      split at hrun <;> cases hrun
      · exact ⟨rfl, rfl⟩
      · unfold VFSBackend.assetWriteFailed
        split <;> exact ⟨rfl, rfl⟩
      · exact ⟨rfl, rfl⟩
      · exact ⟨rfl, henqueue _ rfl⟩

/-- As long as checks are serial and nothing is removed, the identifier goes to the disk once. -/
lemma step (h : Owned u s) (hserial : Serial u s e) (hkeep : ¬ Removes u s e)
    (hs : s.step e = some s') : Owned u s' := by
  have hex := exclusive_step h.exclusive hserial hs
  -- a thread whose call is not about to push
  have hmove {t : Thread} {call : Option (StoreCall κ)} {b : VFSBackend κ}
      (hworld : b.world = s.backend.world) (hindex : b.existenceIndex = s.backend.existenceIndex)
      (hpending : b.pending = s.backend.pending) (hcall : stageOf u call ≠ some .pushing)
      (hex : Exclusive (view u ({ s with backend := b }.setCall t call))) :
      Owned u ({ s with backend := b }.setCall t call) := by
    refine h.of_same (hworld ▸ h.openTables) hex (congrArg _ hpending) (fun b' hb' => ?_) ?_ ?_
    · exact hworld ▸ hb'
    · exact fun hin => hindex ▸ hin
    · intro t' ht'
      rw [view_setCall] at ht'
      obtain ⟨-, heq⟩ | ⟨-, hold⟩ := ClaimOnce.stage_moveTo ht'
      · exact absurd heq hcall
      · exact hold
  cases e with
  | storeAsset t asset k =>
    obtain rfl := Machine.eq_of_ite hs
    refine hmove rfl rfl rfl (fun hstage => ?_) hex
    obtain ⟨c, hc, -, hcs⟩ := stageOf_eq_some.mp hstage
    cases hc
    cases hcs
  | advance t =>
    obtain ⟨c, hc, rfl⟩ := Option.map_eq_some_iff.mp hs
    cases hcs : c.stage with
    | claiming => exact h.claim hc hcs hex
    | pushing => exact h.push hc hcs hex
    | checking =>
      unfold advance at hex ⊢
      rw [hcs] at hex ⊢
      refine hmove rfl rfl rfl (fun hstage => ?_) hex
      obtain ⟨c', hc', -, hcs'⟩ := stageOf_eq_some.mp hstage
      cases hc'
      simp only at hcs'
      split_ifs at hcs'
    | refusing =>
      unfold advance at hex ⊢
      rw [hcs] at hex ⊢
      exact hmove rfl rfl rfl (by simp) hex
  | other e =>
    simp only [Shared.step, Option.ite_none_right_eq_some] at hs
    obtain ⟨hmay, hs⟩ := hs
    obtain ⟨b, hb, rfl⟩ := Option.map_eq_some_iff.mp hs
    have hstore : ∀ a k, e ≠ .storeAsset a k := by
      rintro a k rfl
      simp [mayRun] at hmay
    by_cases hprocess : ∃ calls, e = .process calls
    · obtain ⟨calls, rfl⟩ := hprocess
      exact h.process hb hex
    · obtain ⟨hworld, hcount⟩ := quiet_other (u := u) hstore (not_exists.mp hprocess) hb
      have hindex := mem_index_other (u := u) hstore (fun i hd he hi hrel =>
        hkeep ⟨i, hd, congrArg _ he, hi, hrel⟩) hb
      refine h.of_same ?_ hex hcount (fun b' hb' => ?_) hindex.mpr fun t ht => ht
      · exact hworld.symm ▸ h.openTables
      · exact hworld ▸ hb'

end Owned

lemma exclusive_of_idle (hidle : ∀ t, s.call t = none) : Exclusive (view u s) := by
  constructor <;> simp [view, hidle]

/-- At the start, when nothing is under way and the identifier is in at most one database. -/
lemma owned_of_coherent (hidle : ∀ t, s.call t = none) (hs : s.backend.Coherent)
    (hsingle : ∀ b b', s.backend.world.disk.HasRow b u → s.backend.world.disk.HasRow b' u →
      b = b') :
    Owned u s := by
  obtain ⟨hqueue, hcur, -⟩ := hs.atRest
  have hzero : s.backend.pending.countP (writes u) = 0 := by
    simp [VFSBackend.pending, hqueue, hcur]
  exact {
    openTables := hs.openTables
    exclusive := exclusive_of_idle hidle
    queue := by omega
    pushing := fun t ht => by simp [view, hidle] at ht
    queued := fun hne => absurd hzero hne
    indexed := fun hor => by
      obtain ⟨b, hb⟩ := hor.resolve_left (by omega)
      refine (hs.indexed u).mpr ?_
      cases b with
      | globals => exact .inl hb
      | locals => exact .inr hb
    single := hsingle }

/-- A call ends with its request on the queue, or with the error posted. -/
lemma call_ends {t : Thread} {c : StoreCall κ} (hs : s.step e = some s') (hc : s.call t = some c)
    (hend : s'.call t = none) :
    act c.asset.id s e = some (.push t) ∧
      s'.backend = s.backend.enqueue (.put c.asset.toAsset c.callBack) ∨
    s'.backend = s.backend.post [.callback c.callBack
      (.stored false (some (VFSBackend.alreadyExistsError c.asset.getUUID)))] := by
  cases e with
  | storeAsset t' asset k =>
    obtain rfl := Machine.eq_of_ite hs
    by_cases ht : t = t'
    · simp [setCall, ht] at hend
    · simp [setCall, Function.update_of_ne ht, hc] at hend
  | advance t' =>
    obtain ⟨c', hc', rfl⟩ := Option.map_eq_some_iff.mp hs
    by_cases ht : t = t'
    · subst ht
      cases hc.symm.trans hc'
      cases hcs : c.stage with
      | checking | claiming => simp [advance, hcs, setCall] at hend
      | refusing => exact .inr (by simp [advance, hcs, setCall])
      | pushing =>
        exact .inl ⟨by simp [act, hc, hcs, Option.filter_some], by simp [advance, hcs, setCall]⟩
    · cases hcs : c'.stage <;> simp [advance, hcs, setCall, Function.update_of_ne ht, hc] at hend
  | other e =>
    simp only [step, Option.ite_none_right_eq_some] at hs
    obtain ⟨-, hs⟩ := hs
    obtain ⟨b, -, rfl⟩ := Option.map_eq_some_iff.mp hs
    simp [hc] at hend

/-- Between two removals of an identifier, in a run that is serial for it: at most one request for
it is pushed on the queue, and every other call that ends is told that the asset exists; and if the
identifier was on the disk or on its way there at most once, it does not get into both databases. -/
theorem claimed_once {s₀ t : Shared κ} {es₀ es : List (Event κ)} (hidle : ∀ t, s₀.call t = none)
    (hbefore : Machine.Guarded step (Serial u) s₀ es₀) (hs : Machine.run step s₀ es₀ = some s)
    (hserial : Machine.Guarded step (fun s e => Serial u s e ∧ ¬ Removes u s e) s es)
    (hrun : Machine.run step s es = some t) :
    pushes u s es ≤ 1 ∧
    (∀ es₁ e es₂ v w th c, es = es₁ ++ e :: es₂ → Machine.run step s es₁ = some v →
      v.step e = some w → v.call th = some c → c.asset.id = u → w.call th = none →
      act u v e = some (.push th) ∨ w.backend = v.backend.post [.callback c.callBack
        (.stored false (some (VFSBackend.alreadyExistsError c.asset.getUUID)))]) ∧
    (Owned u s → ¬ (t.backend.world.disk.HasRow .globals u ∧
      t.backend.world.disk.HasRow .locals u)) := by
  have hex : Exclusive (view u s) :=
    Machine.run_invariant (fun _ _ _ h hG hs => exclusive_step h hG hs) (exclusive_of_idle hidle)
      hbefore hs
  refine ⟨pushes_le_one hex hserial hrun, ?_, fun howned hboth => ?_⟩
  · rintro es₁ e es₂ v w th c - - hstep hc rfl hend
    exact (call_ends hstep hc hend).imp_left And.left
  · have howned' : Owned u t := Machine.run_invariant
      (fun _ _ _ h hG hs => h.step hG.1 hG.2 hs) howned hserial hrun
    cases howned'.single _ _ hboth.1 hboth.2

/-- A call that is alone comes in nobody's way. -/
lemma serial_of_alone {t : Thread} (halone : ∀ t', t' ≠ t → s.call t' = none) :
    Serial u s (.advance t) ∧ ¬ Removes u s (.advance t) := by
  have hkeep : ¬ Removes u s (.advance t) := by
    rintro ⟨i, h, he, -⟩
    cases he
  refine ⟨⟨fun t₁ c ht₁ hc _ hcs t' c' hc' _ hcs' => ?_, fun h => absurd h hkeep⟩, hkeep⟩
  cases ht₁
  by_cases ht' : t' = t
  · subst ht'
    cases hc.symm.trans hc'
    simp [hcs] at hcs'
  · simp [halone t' ht'] at hc'

lemma serial_storeAsset (t : Thread) (asset : ValidAsset) (k : κ) :
    Serial u s (.storeAsset t asset k) ∧ ¬ Removes u s (.storeAsset t asset k) := by
  have hkeep : ¬ Removes u s (.storeAsset t asset k) := by
    rintro ⟨i, h, he, -⟩
    cases he
  exact ⟨⟨fun t₁ c ht₁ => (by cases ht₁), fun h => absurd h hkeep⟩, hkeep⟩

/-- One call after the other. -/
def storesInTurn : List (Event ℕ) :=
  [.storeAsset .main VFSBackend.localAsset 0, .advance .main, .advance .main, .advance .main,
    .storeAsset .pull VFSDatabase.zeroAsset 1, .advance .pull, .advance .pull]

theorem storesInTurn_claimed_once :
    ∃ t, Machine.run step {} storesInTurn = some t ∧
      pushes VFSDatabase.zeroAsset.id {} storesInTurn ≤ 1 ∧
      ¬ (t.backend.world.disk.HasRow .globals VFSDatabase.zeroAsset.id ∧
        t.backend.world.disk.HasRow .locals VFSDatabase.zeroAsset.id) := by
  let u := VFSDatabase.zeroAsset.id
  have hmain {s : Shared ℕ} (h : s.call .pull = none) :
      Serial u s (.advance .main) ∧ ¬ Removes u s (.advance .main) :=
    serial_of_alone fun t ht => by
      cases t with
      | main => exact absurd rfl ht
      | pull => exact h
  have hpull {s : Shared ℕ} (h : s.call .main = none) :
      Serial u s (.advance .pull) ∧ ¬ Removes u s (.advance .pull) :=
    serial_of_alone fun t ht => by
      cases t with
      | main => exact h
      | pull => exact absurd rfl ht
  have hserial : Machine.Guarded step (fun s e => Serial u s e ∧ ¬ Removes u s e) {}
      storesInTurn := by
    exact .cons rfl (serial_storeAsset _ _ _) (.cons rfl (hmain rfl) (.cons rfl (hmain rfl)
      (.cons rfl (hmain rfl) (.cons rfl (serial_storeAsset _ _ _) (.cons rfl (hpull rfl)
      (.cons rfl (hpull rfl) trivial))))))
  obtain ⟨t, hrun⟩ : ∃ t, Machine.run step {} storesInTurn = some t := ⟨_, rfl⟩
  have howned : Owned u ({} : Shared ℕ) :=
    owned_of_coherent (fun _ => rfl) VFSBackend.coherent_empty fun b b' hb => by
      obtain ⟨row, hrow, -⟩ := hb
      cases hrow
  have hstart : Machine.Guarded step (Serial u) ({} : Shared ℕ) [] := trivial
  obtain ⟨hpushes, -, hsingle⟩ := claimed_once (fun _ => rfl) hstart rfl hserial hrun
  exact ⟨t, hrun, hpushes, hsingle howned⟩

/-- Two calls of the same identifier, one of a local asset, and their writes. -/
def racingStores : List (Event ℕ) :=
  [.storeAsset .main VFSBackend.localAsset 0, .storeAsset .pull VFSDatabase.zeroAsset 1,
    .advance .main, .advance .pull, .advance .main, .advance .pull, .advance .main, .advance .pull,
    .other .dequeue, .other (.process []), .other .dequeue, .other (.process [])]

/-- Both calls find the identifier free: two requests are queued, and both assets are stored. -/
theorem racingStores_claim_twice :
    ∃ t, Machine.run step {} racingStores = some t ∧
      pushes VFSDatabase.zeroAsset.id {} racingStores = 2 ∧
      t.backend.posted = [.callback 0 (.stored true none), .callback 1 (.stored true none)] ∧
      t.backend.world.disk.HasRow .globals VFSDatabase.zeroAsset.id ∧
      t.backend.world.disk.HasRow .locals VFSDatabase.zeroAsset.id := by
  refine ⟨_, rfl, by decide +kernel, rfl, ?_, ?_⟩
  · exact ⟨_, List.mem_cons_self, rfl⟩
  · exact ⟨_, List.mem_cons_self, rfl⟩

end Shared

end Whip
