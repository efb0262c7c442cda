import Whip.Storage.CallSequences
import Whip.Storage.Requests

/-!
# The completion of a request

The worker posts the completion of a get, a put, a status or a listing exactly once, whichever of
the calls of the request fail, with two exceptions. A listing of identifiers lets every exception
through to the loop, which forgets the request. And a request that creates the tables of an index
ends the process if a statement fails and then the roll-back.
-/

namespace Whip

open Effect

/-! ### Programs that leave the process running -/

/-- Without calls that stop it, the process survives the program. -/
def Survives {α : Type} (x : VfsM α) : Prop :=
  Triple (fun w => Live w.calls) x (fun _ w => Live w.calls)
    (fun e w => e ≠ .stopped ∧ Live w.calls)

namespace Survives

variable {α β : Type} {x : VfsM α} {f : α → VfsM β}

lemma pure (a : α) : Survives (pure a : VfsM α) := Triple.pure a fun _ h => h

lemma throw {e : Exn} (he : e ≠ .stopped) : Survives (throw e : VfsM α) :=
  Triple.throw e fun _ h => ⟨he, h⟩

lemma bind (hx : Survives x) (hf : ∀ a, Survives (f a)) : Survives (x >>= f) := Triple.bind hx hf

lemma ite {c : Prop} [Decidable c] {y : VfsM α} (hx : Survives x) (hy : Survives y) :
    Survives (if c then x else y) := Triple.ite (fun _ => hx) fun _ => hy

lemma modify {g : World → World} (h : ∀ w, (g w).calls = w.calls) :
    Survives (modify g : VfsM PUnit) := by
  intro w hw
  change Live (g w).calls
  rwa [h w]

lemma get_bind {f : World → VfsM β} (hf : ∀ w, Survives (f w)) : Survives (get >>= f) :=
  fun w hw => hf w w hw

/-- A call is entered, and what it does is seen to for every outcome but a stop. -/
lemma call {f : Outcome → VfsM α} (hf : ∀ o, (∀ n, o ≠ .stop n) → Survives (f o)) :
    Survives (syscall >>= f) := by
  intro w hw
  obtain ⟨o, w', hsys, hframe, hstop⟩ := syscall_spec w
  rw [bind_ok hsys]
  exact hf o (hstop hw) w' (hw.of_suffix hframe.calls)

lemma sqliteCall {what : String} {effect : VfsM α} (h : Survives effect) :
    Survives (sqliteCall what effect) := by
  refine .call fun o ho => ?_
  cases o with
  | ok => exact h
  | stop n => exact absurd rfl (ho n)
  | _ => exact .throw (by simp)

lemma tableRows (d : DirName) (b : Base) : Survives (tableRows d b) := by
  refine .get_bind fun w => ?_
  cases w.disk.idx d b with
  | table rows => exact .pure _
  | _ => exact .throw (by simp)

lemma fsExists (p : Disk → Bool) : Survives (fsExists p) := by
  refine .call fun o ho => ?_
  cases o with
  | ok => exact .get_bind fun _ => .pure _
  | stop n => exact absurd rfl (ho n)
  | _ => exact .throw (by simp)

lemma findAssetPosition (d : DirName) (b : Base) (uuid : ByteString) :
    Survives (IndexFile.findAssetPosition d b uuid) :=
  .sqliteCall (.bind (.tableRows d b) fun _ => .pure _)

lemma recordAssetPosition (d : DirName) (b : Base) (a : Asset) (position : ℤ) :
    Survives (IndexFile.recordAssetPosition d b a position) :=
  .sqliteCall (.bind (.tableRows d b) fun _ =>
    .ite (.bind (.throw (by simp)) fun _ => .modify fun _ => rfl) (.modify fun _ => rfl))

/-! ### Data files -/

lemma posixError (what : String) : Survives (posixError what) :=
  .get_bind fun _ => .throw (by simp)

lemma size : Survives PosixDataFileImpl.size := by
  refine .call fun o ho => ?_
  cases o with
  | ok => exact .get_bind fun _ => .pure _
  | raise what => exact .throw (by simp)
  | stop n => exact absurd rfl (ho n)
  | _ => exact .bind (.posixError _) fun _ => .pure _

lemma doSeek (position : ℤ) : Survives (PosixDataFileImpl.doSeek position) := by
  refine .call fun o ho => ?_
  cases o with
  | ok => exact .ite (.posixError _) (.modify fun _ => rfl)
  | raise what => exact .throw (by simp)
  | stop n => exact absurd rfl (ho n)
  | _ => exact .posixError _

lemma transfer (n m : ℕ) : Survives (PosixDataFileImpl.transfer n m) :=
  .get_bind fun _ => .bind (.modify fun _ => rfl) fun _ =>
    .ite (.bind (.posixError _) fun _ => .pure _) (.pure _)

lemma read (n : ℕ) : Survives (PosixDataFileImpl.read n) := by
  refine .call fun o ho => ?_
  cases o with
  | ok => exact .transfer n n
  | short m => exact .transfer n m
  | raise what => exact .throw (by simp)
  | stop n => exact absurd rfl (ho n)
  | err => exact .bind (.posixError _) fun _ => .pure _

lemma putBytes (bytes : ByteString) : Survives (PosixDataFileImpl.putBytes bytes) :=
  .modify fun _ => rfl

lemma write (data : ByteString) : Survives (PosixDataFileImpl.write data) := by
  refine .call fun o ho => ?_
  cases o with
  | ok => exact .putBytes _
  | short m => exact .bind (.putBytes _) fun _ => .ite (.posixError _) (.pure _)
  | raise what => exact .throw (by simp)
  | stop n => exact absurd rfl (ho n)
  | err => exact .posixError _

lemma openFailed : Survives PosixDataFileImpl.openFailed :=
  .bind (.modify fun _ => rfl) fun _ => .posixError _

lemma assignFd (d : DirName) (b : Base) : Survives (PosixDataFileImpl.assignFd d b) :=
  .modify fun _ => rfl

lemma createFile (d : DirName) (b : Base) : Survives (PosixDataFileImpl.createFile d b) :=
  .modify fun w => by split <;> rfl

lemma openFile (d : DirName) (b : Base) (mode : FileMode) :
    Survives (PosixDataFileImpl.openFile d b mode) := by
  refine .call fun o ho => ?_
  cases o with
  | ok =>
    refine .get_bind fun w => ?_
    cases mode with
    | read =>
      cases w.disk.data d b with
      | none => exact .openFailed
      | some f => exact .assignFd d b
    | write => exact .bind (.createFile d b) fun _ => .assignFd d b
  | raise what => exact .throw (by simp)
  | stop n => exact absurd rfl (ho n)
  | _ => exact .openFailed

lemma close : Survives PosixDataFileImpl.close := by
  refine .call fun o ho => ?_
  cases o with
  | stop n => exact absurd rfl (ho n)
  | _ => exact .modify fun _ => rfl

lemma withObject {body : VfsM α} (h : Survives body) :
    Survives (PosixDataFileImpl.withObject body) := by
  refine .bind (.modify fun _ => rfl) fun _ => .bind ?_ fun _ => .bind .close fun _ => .pure _
  refine Triple.tryCatch h fun e => ?_
  rintro w ⟨he, hw⟩
  cases e with
  | stopped => exact absurd rfl he
  | _ => exact (Survives.close.bind fun _ => .throw (by simp)) w hw

lemma withFile {d : DirName} {b : Base} {mode : FileMode} {work : VfsM α} (h : Survives work) :
    Survives (PosixDataFileImpl.withFile d b mode work) :=
  .withObject (.bind (.openFile d b mode) fun _ => .bind h fun _ => .bind .close fun _ => .pure _)

lemma getAssetAtPosition (d : DirName) (b : Base) (position : ℤ) :
    Survives (DataFile.getAssetAtPosition d b position) :=
  .withFile (.bind (.doSeek _) fun _ => .bind (.read 4) fun _ => .bind (.read _) fun _ => .pure _)

lemma numericCast32 (n : ℕ) : Survives (numericCast32 n) := .ite (.pure _) (.throw (by simp))

lemma seekEnd (fileExisted : Bool) : Survives (DataFile.seekEnd fileExisted) :=
  .ite (.bind (.write _) fun _ => .pure _)
    (.bind .size fun _ => .bind (.doSeek _) fun _ => .pure _)

lemma writeNewAsset (d : DirName) (b : Base) (a : Asset) :
    Survives (DataFile.writeNewAsset d b a) :=
  .bind (.fsExists _) fun _ => .withFile <|
    .bind (.seekEnd _) fun _ => .bind (.numericCast32 _) fun _ =>
      .bind (.write _) fun _ => .bind (.write _) fun _ => .pure _

/-! ### Databases -/

lemma getAsset (d : DirName) (b : Base) (uuid : ByteString) :
    Survives (VFSDatabase.getAsset d b uuid) :=
  .bind (.findAssetPosition d b uuid) fun _ =>
    .ite (.pure _) (.bind (.getAssetAtPosition d b _) fun _ => .pure _)

lemma storeAsset (d : DirName) (b : Base) (a : Asset) : Survives (VFSDatabase.storeAsset d b a) :=
  .bind (.bind (.findAssetPosition d b _) fun _ => .pure _) fun _ =>
    .ite (.bind (.writeNewAsset d b a) fun _ => .recordAssetPosition d b a _) (.throw (by simp))

lemma databaseSet_getAsset (d : DirName) (uuid : ByteString) :
    Survives (DatabaseSet.getAsset d uuid) := by
  refine .bind (.getAsset d .globals uuid) fun r => ?_
  cases r with
  | some globalAsset => exact .pure _
  | none => exact .getAsset d .locals uuid

lemma databaseSet_storeAsset (d : DirName) (a : Asset) : Survives (DatabaseSet.storeAsset d a) :=
  .ite (.storeAsset d .locals a) (.storeAsset d .globals a)

end Survives

namespace VFSBackend

variable {κ : Type}

/-! ### Completions -/

/-- The callback of a get, a put, a status or a listing. -/
def completionOf : AssetRequest κ → Option κ
  | .get _ callback | .put _ callback | .collectStatus callback | .getStoredAssetIds _ callback =>
    some callback
  | _ => none

/-- The callbacks among the posted handlers. -/
def completions (hs : List (Handler κ)) : List κ :=
  hs.filterMap fun
    | .callback k _ => some k
    | _             => none

/-- The worker processes its request, posts its completion once and is ready for the next one. -/
def CompletesOnce (s : VFSBackend κ) (calls : List Call) (callback : κ) : Prop :=
  ∃ s' hs, s.process calls = some s' ∧ s'.current = none ∧ s'.workQueue = s.workQueue ∧
    s'.posted = s.posted ++ hs ∧ completions hs = [callback]

lemma process_of_ok {s : VFSBackend κ} {req : AssetRequest κ} {calls : List Call}
    {hs : List (Handler κ)} {w : World} (hcur : s.current = some req)
    (hloop : workLoop req { s.world with calls := calls } = .ok hs w) :
    s.process calls = some { s with world := w, current := none, posted := s.posted ++ hs } := by
  unfold process
  rw [hcur]
  dsimp only
  rw [hloop]

lemma process_of_error {s : VFSBackend κ} {req : AssetRequest κ} {calls : List Call} {e : Exn}
    {w : World} (hcur : s.current = some req)
    (hloop : workLoop req { s.world with calls := calls } = .error e w) :
    s.process calls = none := by
  unfold process
  rw [hcur]
  dsimp only
  rw [hloop]

lemma completesOnce_iff {s : VFSBackend κ} {req : AssetRequest κ} (hcur : s.current = some req)
    (calls : List Call) (callback : κ) :
    s.CompletesOnce calls callback ↔
      ∃ hs w, workLoop req { s.world with calls := calls } = .ok hs w ∧
        completions hs = [callback] := by
  unfold CompletesOnce
  cases hloop : workLoop req { s.world with calls := calls } with
  | ok hs w =>
    rw [process_of_ok hcur hloop]
    constructor
    · rintro ⟨s', hs', hs'eq, -, -, hposted, hcompletions⟩
      obtain rfl := Option.some.inj hs'eq
      exact ⟨hs, w, rfl, List.append_cancel_left hposted ▸ hcompletions⟩
    · rintro ⟨hs', w', heq, hcompletions⟩
      cases heq
      exact ⟨_, hs, rfl, rfl, rfl, rfl, hcompletions⟩
  | error e w =>
    rw [process_of_error hcur hloop]
    simp

/-- A listing makes one call if there is no index, and otherwise opens and reads it. -/
def listingCalls (w : World) (head : ByteString) : ℕ :=
  if w.disk.idx head .globals = .absent then 1 else 1 + (w.openingCalls head .globals + 1)

/-- The condition under which a request completes. For a get or a put: the first call that fails is
not a statement that creates tables and is followed by a failing roll-back. For a listing: none of
its calls fails, and an index that is kept open has its table. -/
def Completes (w : World) : AssetRequest κ → Prop
  | .get assetId _ => ∀ j ∈ firstFailure w.calls, ¬ w.terminates (getFullPathForUUID assetId) j
  | .put asset _ => ∀ j ∈ firstFailure w.calls, ¬ w.terminates (getFullPathForUUID asset.getUUID) j
  | .getStoredAssetIds head _ => (∀ j ∈ firstFailure w.calls, listingCalls w head ≤ j) ∧
      (w.disk.idx head .globals ≠ .absent → w.isOpen head .globals = true →
        w.disk.HasTable head .globals)
  | _ => True

/-- The calls of a terminating transaction are among those that open the set. -/
lemma lt_setCalls_of_terminates {w : World} {d : DirName} {j : ℕ} (h : w.terminates d j) :
    j < w.setCalls d := by
  have hcount {w : World} {b : Base} (h : w.creates d b = true) : w.openingCalls d b = 7 := by
    simp only [World.creates, Bool.and_eq_true, Bool.not_eq_true', decide_eq_false_iff_not] at h
    simp [World.openingCalls, h]
  unfold World.setCalls
  rcases h with ⟨hcreates, -, hlt, -⟩ | ⟨hcreates, -, hlt, -⟩
  · rw [hcount hcreates]
    omega
  · rw [hcount hcreates]
    omega

/-- A program that opens a set and then survives ends the process exactly if the opening does. -/
lemma stopped_iff_terminates {α : Type} {x : VfsM α} (hx : Survives x) (uuid : ByteString)
    {w : World}
    (hlive : Live w.calls) :
    (∃ w', (do verifyAndopenSetForUUID uuid; x : VfsM α) w = .error .stopped w') ↔
      ∃ j ∈ firstFailure w.calls, w.terminates (getFullPathForUUID uuid) j := by
  have hopen := sequence_verifyAndopenSetForUUID uuid w
  by_cases hall : ∀ j ∈ firstFailure w.calls, w.setCalls (getFullPathForUUID uuid) ≤ j
  · obtain ⟨a, w₁, hok, hcalls, -⟩ := hopen.returns hall
    rw [bind_ok hok]
    constructor
    · rintro ⟨w', hstopped⟩
      have hlive₁ : Live w₁.calls := hcalls ▸ hlive.of_suffix (List.drop_suffix _ _)
      exact absurd rfl (hx.of_error hlive₁ hstopped).1
    · rintro ⟨j, hj, hterminates⟩
      exact absurd (lt_setCalls_of_terminates hterminates) (not_lt.mpr (hall j hj))
  · push Not at hall
    obtain ⟨j, hj, hlt⟩ := hall
    obtain ⟨e, w₁, herror, hstopped⟩ := hopen.throws hlive j hj hlt
    rw [bind_error herror]
    constructor
    · rintro ⟨w', heq⟩
      cases heq
      exact ⟨j, hj, hstopped.mp rfl⟩
    · rintro ⟨i, hi, hterminates⟩
      rw [Option.mem_unique hi hj] at hterminates
      exact ⟨w₁, by rw [hstopped.mpr hterminates]⟩

/-- A request that posts its completion unless the program `x` in it ends the process. -/
lemma caught_iff {α : Type} {x : VfsM α} {req : AssetRequest κ} {callback : κ} {w : World}
    (h : Triple (· = w) (processRequest req)
      (fun hs _ => completions hs = [callback] ∧ ∀ w', x w ≠ .error .stopped w')
      (fun e w' => e = .stopped ∧ x w = .error e w')) :
    (∃ hs w', workLoop req w = .ok hs w' ∧ completions hs = [callback]) ↔
      ¬ ∃ w', x w = .error .stopped w' := by
  have hloop := workLoop_triple h w rfl
  cases hw : workLoop req w with
  | ok hs w' =>
    rw [hw] at hloop
    rcases hloop with ⟨hcompletions, hstopped⟩ | ⟨e, hne, -, he, -⟩
    · exact ⟨fun _ ⟨w'', hx⟩ => hstopped w'' hx, fun _ => ⟨hs, w', rfl, hcompletions⟩⟩
    · exact absurd he hne
  | error e w' =>
    rw [hw] at hloop
    obtain ⟨rfl, -, hx⟩ := hloop
    simp [hx]

lemma completes_get (assetId : ByteString) (callback : κ) {w : World} (hlive : Live w.calls) :
    (∃ hs w', workLoop (.get assetId callback) w = .ok hs w' ∧ completions hs = [callback]) ↔
      Completes w (.get assetId callback : AssetRequest κ) := by
  have hread := (performDiskRead_triple callback (Triple.self (getAssetSync assetId) w)).conseq
    (A := (· = w)) (fun _ h => h)
    (B := fun hs _ => completions hs = [callback] ∧
      ∀ w', getAssetSync assetId w ≠ .error .stopped w')
    ?_ (fun _ _ h => h)
  · rw [caught_iff hread, getAssetSync,
      stopped_iff_terminates (.databaseSet_getAsset _ _) assetId hlive]
    simp [Completes]
  · rintro hs w' (⟨r, rfl, hr⟩ | ⟨e, hne, rfl, he⟩)
    · refine ⟨by cases r <;> rfl, by simp [hr]⟩
    · refine ⟨by cases e <;> rfl, fun w'' hw'' => hne ?_⟩
      rw [he] at hw''
      cases hw''
      rfl

lemma completes_put (asset : Asset) (callback : κ) {w : World} (hlive : Live w.calls) :
    (∃ hs w', workLoop (.put asset callback) w = .ok hs w' ∧ completions hs = [callback]) ↔
      Completes w (.put asset callback : AssetRequest κ) := by
  have hwrite := (performDiskWrite_triple callback (Triple.self (storeAssetSync asset) w)).conseq
    (A := (· = w)) (fun _ h => h)
    (B := fun hs _ => completions hs = [callback] ∧
      ∀ w', storeAssetSync asset w ≠ .error .stopped w')
    ?_ (fun _ _ h => h)
  · rw [caught_iff hwrite, storeAssetSync,
      stopped_iff_terminates (.databaseSet_storeAsset _ _) asset.getUUID hlive]
    simp [Completes]
  · rintro hs w' (⟨rfl, hr⟩ | ⟨e, hne, rfl, he⟩)
    · exact ⟨rfl, by simp [hr]⟩
    · refine ⟨by cases e <;> rfl, fun w'' hw'' => hne ?_⟩
      rw [he] at hw''
      cases hw''
      rfl

lemma completes_collectStatus (callback : κ) (w : World) :
    ∃ hs w', workLoop (.collectStatus callback) w = .ok hs w' ∧ completions hs = [callback] :=
  ⟨_, w, rfl, rfl⟩

/-- Reading the identifiers of an index makes one call, and needs the table. -/
lemma sequence_getContainedAssetIdStrings {w : World} {d : DirName} {b : Base}
    (h : w.disk.HasTable d b) :
    Sequence (IndexFile.getContainedAssetIdStrings d b) w 1 (fun _ _ => True) (Thrown w) := by
  obtain ⟨rows, hrows⟩ := h
  have hread : tableRows d b w.next = .ok rows w.next := by
    unfold tableRows
    rw [get_bind, w.disk_next, hrows]
    rfl
  exact sequence_sqliteCall (a := rows.map (·.assetId)) (v := w.next) (bind_ok hread) rfl trivial

/-- Without its table an index cannot be read. -/
lemma getContainedAssetIdStrings_error {w : World} {d : DirName} {b : Base}
    (h : ¬ w.disk.HasTable d b) (hlive : Live w.calls) :
    ∃ e w', IndexFile.getContainedAssetIdStrings d b w = .error e w' := by
  have htable : tableRows d b w.next =
      .error (.sqlite "no such table: VFSDataIndex") w.next := by
    unfold tableRows
    rw [get_bind, w.disk_next]
    cases hidx : w.disk.idx d b with
    | table rows => exact absurd ⟨rows, hidx⟩ h
    | _ => rfl
  rcases syscall_next w with ⟨hsys, -, -⟩ | ⟨o, hsys, ho, hstop, -, -⟩
  · exact ⟨_, _, (bind_ok hsys).trans (bind_error htable)⟩
  · cases o with
    | ok => exact absurd rfl ho
    | stop n => exact absurd rfl (hstop hlive n)
    | _ => exact ⟨_, w.next, (bind_ok hsys).trans rfl⟩

/-- A listing of a directory with an index that can be read, or without one. -/
lemma sequence_performGetStoredAssetIds {w : World} {head : ByteString} (callback : κ)
    (htable : w.disk.idx head .globals ≠ .absent → w.isOpen head .globals = true →
      w.disk.HasTable head .globals) :
    Sequence (performGetStoredAssetIds head callback) w (listingCalls w head)
      (fun hs _ => completions hs = [callback]) (fun _ _ _ => True) := by
  unfold listingCalls
  by_cases habsent : w.disk.idx head .globals = .absent
  · rw [if_pos habsent]
    refine Sequence.bind (n := 1) (m := 0) ((sequence_fsExists _ w).mono (fun _ _ h => h)
      fun _ _ _ _ _ => trivial) ?_
    rintro r w₁ ⟨rfl, rfl⟩ -
    simp only [habsent, ne_eq, not_true_eq_false, decide_false, Bool.false_eq_true, if_false,
      pure_bind]
    exact .pure rfl
  · rw [if_neg habsent]
    refine Sequence.bind (n := 1) ((sequence_fsExists _ w).mono (fun _ _ h => h)
      fun _ _ _ _ _ => trivial) ?_
    rintro r w₁ ⟨rfl, rfl⟩ -
    simp only [habsent, ne_eq, not_false_eq_true, decide_true, if_true, pure_bind]
    rw [← (w.opening_next head .globals).1]
    refine Sequence.bind ((sequence_openIndexFile head .globals w.next).mono (fun _ _ h => h)
      fun _ _ _ _ _ => trivial) fun _ w₂ h₂ _ => ?_
    have htable₂ : w₂.disk.HasTable head .globals := by
      rw [h₂.of_next.table]
      cases hopen : w.isOpen head .globals with
      | true => exact .inr (htable habsent hopen)
      | false => exact .inl rfl
    refine Sequence.bind (n := 1) (m := 0) ((sequence_getContainedAssetIdStrings htable₂).mono
      (fun _ _ h => h) fun _ _ _ _ _ => trivial) fun ids w₃ _ _ => ?_
    exact .pure rfl

/-- An index that is kept open and has lost its table makes every listing fail. -/
lemma performGetStoredAssetIds_error {w : World} {head : ByteString} (callback : κ)
    (hlive : Live w.calls) (hpresent : w.disk.idx head .globals ≠ .absent)
    (hopen : w.isOpen head .globals = true) (htable : ¬ w.disk.HasTable head .globals) :
    ∃ e w', performGetStoredAssetIds head callback w = .error e w' := by
  have hexists := sequence_fsExists (fun k => k.idx head .globals ≠ .absent) w
  by_cases hall : ∀ j ∈ firstFailure w.calls, 1 ≤ j
  · obtain ⟨r, w₁, hfound, -, rfl, rfl⟩ := hexists.returns hall
    obtain ⟨a, w₂, hopened, hcalls, hfrom⟩ :=
      (sequence_openIndexFile head .globals w.next).returns fun j _ => by
        rw [(w.opening_next head .globals).1, World.openingCalls, if_pos hopen]
        exact Nat.zero_le j
    have hlive₂ : Live w₂.calls := by
      rw [hcalls, w.calls_next, List.drop_drop]
      exact hlive.of_suffix (List.drop_suffix _ _)
    obtain ⟨e, w₃, hids⟩ := getContainedAssetIdStrings_error (d := head) (b := .globals) (w := w₂)
      (by simp [hfrom.of_next.table, hopen, htable]) hlive₂
    refine ⟨e, w₃, (bind_ok hfound).trans ?_⟩
    simp only [hpresent, ne_eq, not_false_eq_true, decide_true, if_true]
    exact (bind_ok hopened).trans (bind_error hids)
  · push Not at hall
    obtain ⟨j, hj, hlt⟩ := hall
    obtain ⟨e, w', hthrows, -⟩ := hexists.throws hlive j hj hlt
    exact ⟨e, w', bind_error hthrows⟩

/-- The loop completes a listing that returns, and forgets one that throws. -/
lemma completes_listing_iff (head : ByteString) (callback : κ) (w : World) :
    (∃ hs w', workLoop (.getStoredAssetIds head callback) w = .ok hs w' ∧
        completions hs = [callback]) ↔
      ∃ hs w', performGetStoredAssetIds head callback w = .ok hs w' := by
  have hself : Triple (· = w) (processRequest (.getStoredAssetIds head callback)) _ _ :=
    Triple.self (performGetStoredAssetIds head callback) w
  have hloop := workLoop_triple hself w rfl
  constructor
  · rintro ⟨hs, w', hw, hcompletions⟩
    rw [hw] at hloop
    rcases hloop with hlist | ⟨e, -, rfl, -⟩
    · exact ⟨hs, w', hlist⟩
    · simp [completions] at hcompletions
  · rintro ⟨hs, w', hlist⟩
    refine ⟨hs, w', tryCatch_ok hlist, ?_⟩
    obtain ⟨found, w₁, -, hrest⟩ := bind_eq_ok hlist
    cases found with
    | false =>
      cases hrest
      rfl
    | true =>
      obtain ⟨-, w₂, -, hrest⟩ := bind_eq_ok hrest
      obtain ⟨ids, w₃, -, hdone⟩ := bind_eq_ok hrest
      cases hdone
      rfl

lemma completes_getStoredAssetIds (head : ByteString) (callback : κ) {w : World}
    (hlive : Live w.calls) :
    (∃ hs w', workLoop (.getStoredAssetIds head callback) w = .ok hs w' ∧
        completions hs = [callback]) ↔
      Completes w (.getStoredAssetIds head callback : AssetRequest κ) := by
  rw [completes_listing_iff]
  simp only [Completes]
  by_cases htable : w.disk.idx head .globals ≠ .absent → w.isOpen head .globals = true →
      w.disk.HasTable head .globals
  · rw [(sequence_performGetStoredAssetIds callback htable).isOk_iff hlive]
    exact ⟨fun h => ⟨h, htable⟩, fun h => h.1⟩
  · refine ⟨?_, fun h => absurd h.2 htable⟩
    push Not at htable
    obtain ⟨hpresent, hopen, hno⟩ := htable
    obtain ⟨e, w', herror⟩ := performGetStoredAssetIds_error callback hlive hpresent hopen hno
    rintro ⟨hs, w'', hok⟩
    rw [herror] at hok
    cases hok

/-- The completion of a get, a put, a status or a listing is posted exactly once, and the worker
goes on, just if the request completes in the sense of `Completes`; the calls have any outcome that
does not stop the process from outside. -/
theorem completes_once_iff {s : VFSBackend κ} {req : AssetRequest κ} {callback : κ}
    (hcur : s.current = some req) (hreq : completionOf req = some callback) {calls : List Call}
    (hlive : Live calls) :
    s.CompletesOnce calls callback ↔ Completes { s.world with calls := calls } req := by
  rw [completesOnce_iff hcur]
  cases req with
  | get assetId k =>
    obtain rfl := Option.some.inj hreq
    exact completes_get assetId k hlive
  | put asset k =>
    obtain rfl := Option.some.inj hreq
    exact completes_put asset k hlive
  | collectStatus k =>
    obtain rfl := Option.some.inj hreq
    exact ⟨fun _ => trivial, fun _ => completes_collectStatus k _⟩
  | getStoredAssetIds head k =>
    obtain rfl := Option.some.inj hreq
    exact completes_getStoredAssetIds head k hlive
  | _ => cases hreq

/-- An empty storage whose worker has taken one request. -/
def working (req : AssetRequest Unit) : VFSBackend Unit := { current := some req }

/-- The test for the directory fails, and the get is completed with an error. -/
theorem failed_get_completes_once : Live [{ outcome := .err }] ∧
    (working (.get (sampleUUID 1) ())).CompletesOnce [{ outcome := .err }] () := by
  have hlive : Live [{ outcome := .err }] := by simp [Live]
  refine ⟨hlive, (completes_once_iff rfl rfl hlive).mpr ?_⟩
  intro j hj
  obtain rfl : 0 = j := Option.some.inj hj
  simp [World.terminates, rollbackFails]

/-- The databases of a new directory are opened, a table cannot be created, and nor can the
transaction be rolled back. -/
def rollbackCalls : List Call :=
  [{}, {}, {}, {}, {}, {}, { outcome := .err }, { outcome := .err }]

/-- A listing whose first call fails is forgotten, and a get or a put ends the process when the
roll-back fails. -/
theorem completions_lost : Live [{ outcome := .err }] ∧ Live rollbackCalls ∧
    (((working (.getStoredAssetIds (hexHead 0) ())).process [{ outcome := .err }]).map fun s =>
      completions s.posted) = some [] ∧
    ((working (.get (sampleUUID 1) ())).process rollbackCalls).isNone = true ∧
    ((working (.put (sampleAsset 1) ())).process rollbackCalls).isNone = true := by
  refine ⟨by simp [Live], by simp [Live, rollbackCalls], rfl, rfl, rfl⟩

end VFSBackend

end Whip
