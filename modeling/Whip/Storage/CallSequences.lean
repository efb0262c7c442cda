import Whip.Storage.Backend
import Whip.Storage.Records

/-!
# Programs as sequences of calls

A program that makes a known number of calls one after the other returns if they all succeed and
throws at the first one that does not (`Sequence`). The openings of a prefix directory are such
programs: how many calls they make follows from the disk and the open index files. Only the creation
of the tables of an index makes one call more, the roll-back of its transaction; when that fails
too, the destructor lets the exception out and the process is terminated.
-/

namespace Whip

open Effect

/-! ### Coming calls -/

/-- The position of the first of the coming calls that fails. -/
def firstFailure (cs : List Call) : Option ℕ := cs.findIdx? fun c => c.outcome ≠ .ok

/-- The `i`-th of the coming calls succeeds. -/
def succeeds (cs : List Call) (i : ℕ) : Bool := (cs[i]?).all fun c => c.outcome = .ok

@[simp] lemma firstFailure_nil : firstFailure [] = none := rfl

lemma firstFailure_cons (c : Call) (cs : List Call) :
    firstFailure (c :: cs) =
      if c.outcome = .ok then (firstFailure cs).map (· + 1) else some 0 := by
  simp only [firstFailure, List.findIdx?_cons]
  by_cases h : c.outcome = .ok <;> simp [h]

lemma succeeds_drop (cs : List Call) (n i : ℕ) : succeeds (cs.drop n) i = succeeds cs (n + i) := by
  simp [succeeds]

/-- After calls that succeed, the first failure is nearer. -/
lemma firstFailure_drop {cs : List Call} {n : ℕ} (h : ∀ j ∈ firstFailure cs, n ≤ j) :
    firstFailure (cs.drop n) = (firstFailure cs).map (· - n) := by
  induction n generalizing cs with
  | zero => simp
  | succ n ih =>
    cases cs with
    | nil => rfl
    | cons c cs =>
      rw [firstFailure_cons] at h ⊢
      split_ifs at h ⊢ with hc
      · rw [List.drop_succ_cons, ih]
        · cases firstFailure cs <;> simp
        · intro j hj
          have := h (j + 1) (by simpa using hj)
          omega
      · exact absurd (h 0 rfl) (by omega)

/-- The world when the next call has been entered. -/
def World.next (w : World) : World :=
  match w.calls with
  | []      => w
  | c :: cs => { w with calls := cs, fds := c.others.foldl FdTable.others w.fds }

@[simp] lemma World.calls_next (w : World) : w.next.calls = w.calls.drop 1 := by
  unfold World.next
  split <;> simp_all

@[simp] lemma World.disk_next (w : World) : w.next.disk = w.disk := by
  unfold World.next
  split <;> rfl

@[simp] lemma World.openFiles_next (w : World) : w.next.openFiles = w.openFiles := by
  unfold World.next
  split <;> rfl

/-- A call either succeeds, or it fails and with it the sequence at its first position. -/
lemma syscall_next (w : World) :
    (syscall w = .ok .ok w.next ∧ succeeds w.calls 0 = true ∧ ∀ j ∈ firstFailure w.calls, 1 ≤ j) ∨
    (∃ o, syscall w = .ok o w.next ∧ o ≠ .ok ∧ (Live w.calls → ∀ n, o ≠ .stop n) ∧
      succeeds w.calls 0 = false ∧ firstFailure w.calls = some 0) := by
  unfold syscall World.next
  cases hcs : w.calls with
  | nil => exact .inl ⟨rfl, rfl, by simp⟩
  | cons c cs =>
    by_cases hc : c.outcome = .ok
    · refine .inl ⟨by simp [hc], by simp [succeeds, hc], fun j hj => ?_⟩
      rw [firstFailure_cons, if_pos hc, Option.mem_def, Option.map_eq_some_iff] at hj
      obtain ⟨i, -, rfl⟩ := hj
      exact Nat.le_add_left 1 i
    · refine .inr ⟨c.outcome, rfl, hc, fun h => h c List.mem_cons_self, by simp [succeeds, hc], ?_⟩
      rw [firstFailure_cons, if_neg hc]

/-! ### Sequences of calls -/

/-- From `w` the program makes `n` calls one after the other: it returns with `Q` if they all
succeed, and throws with `R` at the first of them that does not. -/
structure Sequence {α : Type} (x : VfsM α) (w : World) (n : ℕ) (Q : α → World → Prop)
    (R : ℕ → Exn → World → Prop) : Prop where
  returns : (∀ j ∈ firstFailure w.calls, n ≤ j) →
    ∃ a w', x w = .ok a w' ∧ w'.calls = w.calls.drop n ∧ Q a w'
  throws : Live w.calls → ∀ j ∈ firstFailure w.calls, j < n → ∃ e w', x w = .error e w' ∧ R j e w'

namespace Sequence

variable {α β : Type} {x : VfsM α} {f : α → VfsM β} {w : World} {n m : ℕ}
  {Q Q' : α → World → Prop} {R R' : ℕ → Exn → World → Prop} {S : β → World → Prop}

lemma pure {a : α} (h : Q a w) : Sequence (pure a) w 0 Q R where
  returns _ := ⟨a, w, rfl, rfl, h⟩
  throws _ _ _ h := absurd h (Nat.not_lt_zero _)

/-- A change of the world that is no call. -/
lemma modify_end {g : World → World} {Q : PUnit → World → Prop} (hcalls : (g w).calls = w.calls)
    (h : Q ⟨⟩ (g w)) : Sequence (modify g) w 0 Q R where
  returns _ := ⟨⟨⟩, g w, rfl, hcalls, h⟩
  throws _ _ _ h := absurd h (Nat.not_lt_zero _)

lemma modify_bind {g : World → World} {f : PUnit → VfsM α} (hcalls : (g w).calls = w.calls)
    (h : Sequence (f ⟨⟩) (g w) n Q R) : Sequence ((modify g : VfsM PUnit) >>= f) w n Q R where
  returns hj := by
    rw [← hcalls] at hj ⊢
    exact h.returns hj
  throws hlive j hj hlt := by
    rw [← hcalls] at hlive hj
    exact h.throws hlive j hj hlt

lemma get_bind {f : World → VfsM α} (h : Sequence (f w) w n Q R) : Sequence (get >>= f) w n Q R :=
  ⟨h.returns, h.throws⟩

lemma mono (h : Sequence x w n Q R) (hQ : ∀ a w', Q a w' → Q' a w')
    (hR : ∀ j e w', j < n → R j e w' → R' j e w') : Sequence x w n Q' R' where
  returns hj := by
    obtain ⟨a, w', hx, hcalls, hq⟩ := h.returns hj
    exact ⟨a, w', hx, hcalls, hQ a w' hq⟩
  throws hlive j hj hlt := by
    obtain ⟨e, w', hx, hr⟩ := h.throws hlive j hj hlt
    exact ⟨e, w', hx, hR j e w' hlt hr⟩

lemma bind (hx : Sequence x w n Q R)
    (hf : ∀ a w', Q a w' → w'.calls = w.calls.drop n →
      Sequence (f a) w' m S (fun j => R (n + j))) : Sequence (x >>= f) w (n + m) S R := by
  constructor
  · intro hj
    have hn : ∀ j ∈ firstFailure w.calls, n ≤ j := fun j h => (Nat.le_add_right n m).trans (hj j h)
    obtain ⟨a, w', hxa, hcalls, hq⟩ := hx.returns hn
    obtain ⟨b, w'', hfb, hcalls', hs⟩ := (hf a w' hq hcalls).returns fun j hj' => by
      rw [hcalls, firstFailure_drop hn] at hj'
      obtain ⟨i, hi, rfl⟩ := Option.map_eq_some_iff.mp hj'
      have := hj i hi
      omega
    exact ⟨b, w'', by rw [bind_ok hxa, hfb], by rw [hcalls', hcalls, List.drop_drop], hs⟩
  · intro hlive j hj hlt
    by_cases hjn : j < n
    · obtain ⟨e, w', hxe, hr⟩ := hx.throws hlive j hj hjn
      exact ⟨e, w', bind_error hxe, hr⟩
    · have hn : ∀ i ∈ firstFailure w.calls, n ≤ i := fun i hi => by
        rw [Option.mem_unique hi hj]
        exact not_lt.mp hjn
      obtain ⟨a, w', hxa, hcalls, hq⟩ := hx.returns hn
      have hlive' : Live w'.calls := hcalls ▸ hlive.of_suffix (List.drop_suffix n _)
      have hj' : j - n ∈ firstFailure w'.calls := by
        rw [hcalls, firstFailure_drop hn]
        exact Option.map_eq_some_iff.mpr ⟨j, hj, rfl⟩
      obtain ⟨e, w'', hfe, hr⟩ := (hf a w' hq hcalls).throws hlive' (j - n) hj' (by omega)
      rw [Nat.add_sub_cancel' (not_lt.mp hjn)] at hr
      exact ⟨e, w'', by rw [bind_ok hxa, hfe], hr⟩

/-- A handler that throws again. -/
lemma tryCatch {h : Exn → VfsM α} (hx : Sequence x w n Q R)
    (hh : Live w.calls → ∀ j e w', R j e w' → ∃ e' w'', h e w' = .error e' w'' ∧ R' j e' w'') :
    Sequence (tryCatch x h) w n Q R' where
  returns hj := by
    obtain ⟨a, w', hxa, hrest⟩ := hx.returns hj
    exact ⟨a, w', tryCatch_ok hxa, hrest⟩
  throws hlive j hj hlt := by
    obtain ⟨e, w', hxe, hr⟩ := hx.throws hlive j hj hlt
    obtain ⟨e', w'', hhe, hr'⟩ := hh hlive j e w' hr
    exact ⟨e', w'', by rw [tryCatch_error hxe, hhe], hr'⟩

/-- One call: it has its effect, or throws an exception and has been made. -/
lemma call {f : Outcome → VfsM α} {a : α} {v : World} (hok : f .ok w.next = .ok a v)
    (hcalls : v.calls = w.next.calls) (hq : Q a v)
    (hfails : ∀ o, o ≠ .ok → (∀ n, o ≠ .stop n) →
      ∃ e, e ≠ .stopped ∧ f o w.next = .error e w.next) :
    Sequence (syscall >>= f) w 1 Q
      (fun j e w' => e ≠ .stopped ∧ w'.calls = w.calls.drop (j + 1)) := by
  rcases syscall_next w with ⟨hsys, -, hfirst⟩ | ⟨o, hsys, ho, hstop, -, hfirst⟩
  · refine ⟨fun _ => ⟨a, v, by rw [bind_ok hsys, hok], by rw [hcalls, w.calls_next], hq⟩, ?_⟩
    intro _ j hj hlt
    exact absurd (hfirst j hj) (by omega)
  · refine ⟨fun hj => absurd (hj 0 hfirst) (by omega), fun hlive j hj hlt => ?_⟩
    obtain ⟨e, he, hfe⟩ := hfails o ho (hstop hlive)
    obtain rfl : j = 0 := by omega
    exact ⟨e, w.next, by rw [bind_ok hsys, hfe], he, w.calls_next⟩

/-- The sequence returns just if none of its calls fails. -/
lemma isOk_iff (h : Sequence x w n Q R) (hlive : Live w.calls) :
    (∃ a w', x w = .ok a w') ↔ ∀ j ∈ firstFailure w.calls, n ≤ j := by
  constructor
  · rintro ⟨a, w', hx⟩ j hj
    by_contra hlt
    obtain ⟨e, w'', hxe, -⟩ := h.throws hlive j hj (not_le.mp hlt)
    rw [hx] at hxe
    cases hxe
  · intro hj
    obtain ⟨a, w', hx, -⟩ := h.returns hj
    exact ⟨a, w', hx⟩

end Sequence

/-! ### The calls of the storage layer -/

/-- An exception that leaves the process running, at the call that failed. -/
def Thrown (w : World) (j : ℕ) (e : Exn) (w' : World) : Prop :=
  e ≠ .stopped ∧ w'.calls = w.calls.drop (j + 1)

lemma Thrown.of_drop {w w' w'' : World} {n j : ℕ} {e : Exn} (h : Thrown w' j e w'')
    (hcalls : w'.calls = w.calls.drop n) : Thrown w (n + j) e w'' :=
  ⟨h.1, by rw [h.2, hcalls, List.drop_drop, Nat.add_assoc]⟩

lemma sequence_fsExists (p : Disk → Bool) (w : World) :
    Sequence (fsExists p) w 1 (fun r w' => r = p w.disk ∧ w' = w.next) (Thrown w) := by
  refine Sequence.call (a := p w.disk) (v := w.next) ?_ rfl ⟨rfl, rfl⟩ fun o ho hstop => ?_
  · exact congrArg (fun k => EStateM.Result.ok (p k) w.next) w.disk_next
  · cases o with
    | ok => exact absurd rfl ho
    | stop n => exact absurd rfl (hstop n)
    | _ => exact ⟨_, by simp, rfl⟩

lemma sequence_sqliteCall {α : Type} {what : String} {effect : VfsM α} {w v : World} {a : α}
    {Q : α → World → Prop} (heffect : effect w.next = .ok a v) (hcalls : v.calls = w.next.calls)
    (hq : Q a v) : Sequence (sqliteCall what effect) w 1 Q (Thrown w) := by
  refine Sequence.call heffect hcalls hq fun o ho hstop => ?_
  cases o with
  | ok => exact absurd rfl ho
  | stop n => exact absurd rfl (hstop n)
  | _ => exact ⟨_, by simp, rfl⟩

lemma sequence_statement (what : String) (w : World) :
    Sequence (SQLiteConnection.statement what) w 1 (fun _ w' => w' = w.next) (Thrown w) :=
  sequence_sqliteCall rfl rfl rfl

/-- The roll-back of a failed transaction lets the exception through, or ends the process. -/
lemma rollback_eq {e : Exn} (he : e ≠ .stopped) {w : World} (hlive : Live w.calls) :
    ∃ e' w', (do
        try SQLiteConnection.statement "ROLLBACK;" catch _ => throw .stopped
        throw e : VfsM Unit) w = .error e' w' ∧
      (e' = .stopped ↔ succeeds w.calls 0 = false) := by
  have hrollback := sequence_statement "ROLLBACK;" w
  rcases syscall_next w with ⟨-, hsucceeds, hfirst⟩ | ⟨-, -, -, -, hsucceeds, hfirst⟩
  · obtain ⟨a, w', hx, -⟩ := hrollback.returns hfirst
    refine ⟨e, w', ?_, by simp [he, hsucceeds]⟩
    exact bind_ok (tryCatch_ok hx)
  · obtain ⟨e', w', hx, -⟩ := hrollback.throws hlive 0 hfirst Nat.zero_lt_one
    refine ⟨.stopped, w', ?_, by simp [hsucceeds]⟩
    exact bind_error (tryCatch_error hx)

/-- A transaction ends the process if a statement fails, and then its roll-back. -/
lemma sequence_within {body commit : VfsM Unit} {w : World} {n : ℕ} {Q : Unit → World → Prop}
    (hwork : Sequence (do body; commit) w.next n Q (Thrown w.next)) :
    Sequence (SQLiteTransaction.within body commit) w (1 + n) Q
      (fun j e _ => e = .stopped ↔ 1 ≤ j ∧ succeeds w.calls (j + 1) = false) := by
  refine Sequence.bind ((sequence_statement _ w).mono (fun _ _ h => h) fun j e w' hlt h => ?_) ?_
  · simp only [h.1, false_iff, not_and]
    omega
  · rintro _ w' rfl hcalls
    refine Sequence.tryCatch hwork fun hlive j e w' hthrown => ?_
    obtain ⟨e', w'', heq, hstopped⟩ := rollback_eq hthrown.1
      (hthrown.2 ▸ hlive.of_suffix (List.drop_suffix _ _) : Live w'.calls)
    refine ⟨e', w'', ?_, ?_⟩
    · cases e with
      | stopped => exact absurd rfl hthrown.1
      | _ => exact heq
    · rw [hstopped, hthrown.2, w.calls_next, succeeds_drop, succeeds_drop]
      simp [Nat.add_comm, Nat.add_left_comm]

/-- The tables of a new index are created in one transaction of four statements. -/
lemma sequence_initializeDatabase (d : DirName) (b : Base) (w : World) :
    Sequence (SQLiteIndexFile.initializeDatabase d b) w 5
      (fun _ w' => w'.disk = w.disk.setIdx d b (.table []) ∧ w'.openFiles = w.openFiles)
      (fun j e _ => e = .stopped ↔ 1 ≤ j ∧ succeeds w.calls (j + 1) = false) := by
  refine sequence_within (n := 4) ?_
  have hbody : Sequence (do
      SQLiteConnection.statement "CREATE TABLE VFSVersions"
      SQLiteConnection.statement "CREATE TABLE VFSDataIndex"
      SQLiteConnection.statement "INSERT INTO VFSVersions") w.next 3
      (fun _ w' => w'.disk = w.disk ∧ w'.openFiles = w.openFiles) (Thrown w.next) := by
    refine Sequence.bind (n := 1) (m := 2) (sequence_statement _ _) fun _ w₁ h₁ hcalls => ?_
    refine Sequence.mono (R := Thrown w₁) ?_ (fun _ _ h => h) fun _ _ _ _ h => h.of_drop hcalls
    refine Sequence.bind (n := 1) (m := 1) (sequence_statement _ _) fun _ w₂ h₂ hcalls => ?_
    refine Sequence.mono (sequence_statement _ _) ?_ fun _ _ _ _ h => h.of_drop hcalls
    rintro _ w₃ rfl
    simp [h₂, h₁]
  refine Sequence.bind (n := 3) (m := 1) hbody fun _ w₁ h₁ hcalls => ?_
  refine Sequence.mono (R := Thrown w₁) ?_ (fun _ _ h => h) fun _ _ _ _ h => h.of_drop hcalls
  refine sequence_sqliteCall rfl rfl ?_
  simp [h₁]

/-! ### Opening index files -/

/-- The index file is one of those kept open. -/
def World.isOpen (w : World) (d : DirName) (b : Base) : Bool := (w.openFiles.fetch (d, b)).1.isSome

/-- The open files after an index has been opened. -/
def opening (files : LRUCache (DirName × Base) Unit) (d : DirName) (b : Base) :
    LRUCache (DirName × Base) Unit :=
  if (files.fetch (d, b)).1.isNone then (files.fetch (d, b)).2.insert (d, b) ()
  else (files.fetch (d, b)).2

/-- The index is opened and its tables have to be created. -/
def World.creates (w : World) (d : DirName) (b : Base) : Bool :=
  !w.isOpen d b && !decide (w.disk.HasTable d b)

/-- How many calls opening an index makes. -/
def World.openingCalls (w : World) (d : DirName) (b : Base) : ℕ :=
  if w.isOpen d b then 0 else if w.disk.HasTable d b then 2 else 7

/-- Of the disk only one index file may change, and the open files stay. -/
structure IndexFrame (w : World) (d : DirName) (b : Base) (w' : World) : Prop where
  dirs : w'.disk.dirs = w.disk.dirs
  idx : ∀ d' b', (d', b') ≠ (d, b) → w'.disk.idx d' b' = w.disk.idx d' b'
  openFiles : w'.openFiles = w.openFiles

lemma IndexFrame.next (w : World) (d : DirName) (b : Base) : IndexFrame w d b w.next :=
  ⟨by simp, by simp, by simp⟩

lemma IndexFrame.trans {w w' w'' : World} {d : DirName} {b : Base} (h : IndexFrame w d b w')
    (h' : IndexFrame w' d b w'') : IndexFrame w d b w'' where
  dirs := h'.dirs.trans h.dirs
  idx := fun d' b' hne => (h'.idx d' b' hne).trans (h.idx d' b' hne)
  openFiles := h'.openFiles.trans h.openFiles

lemma IndexFrame.of_setIdx {w w' : World} {d : DirName} {b : Base} {f : IdxFile}
    (hdisk : w'.disk = w.disk.setIdx d b f) (hfiles : w'.openFiles = w.openFiles) :
    IndexFrame w d b w' where
  dirs := by rw [hdisk, Disk.dirs_setIdx]
  idx := fun d' b' hne => by rw [hdisk, Disk.idx_setIdx, if_neg (by simpa using hne)]
  openFiles := hfiles

/-- The `j`-th call is a statement of the transaction that creates tables, in an opening that starts
with call `start`, and the roll-back that follows it fails. -/
def rollbackFails (cs : List Call) (creates : Bool) (start j : ℕ) : Prop :=
  creates = true ∧ start + 3 ≤ j ∧ j < start + 7 ∧ succeeds cs (j + 1) = false

lemma Thrown.not_rollbackFails {w w' : World} {i j : ℕ} {e : Exn} (h : Thrown w i e w')
    {cs : List Call} {creates : Bool} {start : ℕ} (hj : j < start + 3) :
    e = .stopped ↔ rollbackFails cs creates start j := by
  simp only [h.1, rollbackFails, false_iff, not_and]
  omega

lemma sequence_connect (d : DirName) (b : Base) (w : World) :
    Sequence (SQLiteConnection.connect d b) w 1
      (fun _ w' => IndexFrame w d b w' ∧ (w'.disk.HasTable d b ↔ w.disk.HasTable d b))
      (Thrown w) := by
  refine sequence_sqliteCall rfl ?_ ?_
  · dsimp only
    split <;> rfl
  · dsimp only
    split
    · next habsent =>
      rw [w.disk_next] at habsent
      exact ⟨.of_setIdx (f := .noTables) (by simp) (by simp), by simp [Disk.HasTable, habsent]⟩
    · exact ⟨.next w d b, by simp⟩

lemma sequence_hasTables (what : String) (d : DirName) (b : Base) (w : World) :
    Sequence (sqliteCall what do
        match (← get).disk.idx d b with
        | .table _ => return true
        | _        => return false) w 1
      (fun r w' => r = decide (w.disk.HasTable d b) ∧ w' = w.next) (Thrown w) := by
  refine sequence_sqliteCall (a := decide (w.disk.HasTable d b)) (v := w.next) ?_ rfl ⟨rfl, rfl⟩
  rw [get_bind, w.disk_next]
  cases h : w.disk.idx d b <;> simp [Disk.HasTable, h] <;> rfl

/-- The constructor of an index file makes two calls, and five more to create its tables. -/
lemma sequence_new (d : DirName) (b : Base) (w : World) :
    Sequence (SQLiteIndexFile.new d b) w (if w.disk.HasTable d b then 2 else 7)
      (fun _ w' => IndexFrame w d b w' ∧ w'.disk.HasTable d b)
      (fun j e _ => e = .stopped ↔ rollbackFails w.calls (!decide (w.disk.HasTable d b)) 0 j) := by
  -- after the two calls the tables are there or are created
  have hrest (w₂ : World) (hframe : IndexFrame w d b w₂) (hcalls : w₂.calls = w.calls.drop 2)
      (htable : w₂.disk.HasTable d b ↔ w.disk.HasTable d b) :
      Sequence
        (if !decide (w.disk.HasTable d b) then SQLiteIndexFile.initializeDatabase d b else pure ())
        w₂
        (if w.disk.HasTable d b then 0 else 5)
        (fun _ w' => IndexFrame w d b w' ∧ w'.disk.HasTable d b)
        (fun j e _ => e = .stopped ↔ rollbackFails w.calls (!decide (w.disk.HasTable d b)) 0
          (2 + j)) := by
    by_cases h : w.disk.HasTable d b
    · simp only [h, decide_true, Bool.not_true, Bool.false_eq_true, if_false, if_true]
      exact .pure ⟨hframe, htable.mpr h⟩
    · simp only [h, decide_false, Bool.not_false, if_true, if_false]
      refine (sequence_initializeDatabase d b w₂).mono ?_ fun j e _ hlt hstopped => ?_
      · rintro _ w₃ ⟨hdisk, hfiles⟩
        exact ⟨hframe.trans (.of_setIdx hdisk hfiles), by simp [hdisk, Disk.HasTable]⟩
      · rw [hstopped, hcalls, succeeds_drop]
        simp only [rollbackFails, true_and, Nat.add_assoc]
        constructor
        · exact fun h => ⟨by omega, by omega, h.2⟩
        · exact fun h => ⟨by omega, h.2.2⟩
  have hcount : (if w.disk.HasTable d b then 2 else 7) =
      1 + (1 + if w.disk.HasTable d b then 0 else 5) := by
    split_ifs <;> rfl
  rw [hcount]
  refine Sequence.bind ((sequence_connect d b w).mono (fun _ _ h => h)
    fun _ _ _ hlt h => h.not_rollbackFails (by omega)) fun _ w₁ h₁ hcalls₁ => ?_
  refine Sequence.bind ((sequence_hasTables _ d b w₁).mono (fun _ _ h => h)
    fun _ _ _ hlt h => h.not_rollbackFails (by omega)) ?_
  rintro r w₂ ⟨rfl, rfl⟩ hcalls₂
  simp only [h₁.2]
  refine (hrest w₁.next (h₁.1.trans (.next w₁ d b)) ?_ ?_).mono (fun _ _ h => h) ?_
  · rw [hcalls₂, hcalls₁, List.drop_drop]
  · simp [h₁.2]
  · intro j e _ _ h
    rwa [← Nat.add_assoc]

/-- The index is open or is opened now; of the disk only its file changes. -/
structure OpenedFrom (w : World) (d : DirName) (b : Base) (w' : World) : Prop where
  dirs : w'.disk.dirs = w.disk.dirs
  idx : ∀ d' b', (d', b') ≠ (d, b) → w'.disk.idx d' b' = w.disk.idx d' b'
  openFiles : w'.openFiles = opening w.openFiles d b
  table : w'.disk.HasTable d b ↔ w.isOpen d b = false ∨ w.disk.HasTable d b

lemma OpenedFrom.of_next {w w' : World} {d : DirName} {b : Base} (h : OpenedFrom w.next d b w') :
    OpenedFrom w d b w' where
  dirs := h.dirs.trans (by rw [w.disk_next])
  idx := fun d' b' hne => (h.idx d' b' hne).trans (by rw [w.disk_next])
  openFiles := h.openFiles.trans (by rw [w.openFiles_next])
  table := h.table.trans (by simp [World.isOpen])

lemma World.opening_congr {w v : World} {d : DirName} {b : Base}
    (hopen : v.isOpen d b = w.isOpen d b) (htable : v.disk.HasTable d b ↔ w.disk.HasTable d b) :
    v.openingCalls d b = w.openingCalls d b ∧ v.creates d b = w.creates d b := by
  unfold World.openingCalls World.creates
  simp only [hopen, htable, and_self]

lemma World.opening_next (w : World) (d : DirName) (b : Base) :
    w.next.openingCalls d b = w.openingCalls d b ∧ w.next.creates d b = w.creates d b :=
  World.opening_congr (by simp [World.isOpen]) (by simp)

/-- A failure seen from `n` calls before. -/
lemma rollbackFails_drop (cs : List Call) (creates : Bool) (n start j : ℕ) :
    rollbackFails (cs.drop n) creates start j ↔ rollbackFails cs creates (n + start) (n + j) := by
  simp only [rollbackFails, succeeds_drop, Nat.add_assoc, Nat.add_le_add_iff_left,
    Nat.add_lt_add_iff_left]

lemma sequence_openIndexFile (d : DirName) (b : Base) (w : World) :
    Sequence (openIndexFile d b) w (w.openingCalls d b) (fun _ w' => OpenedFrom w d b w')
      (fun j e _ => e = .stopped ↔ rollbackFails w.calls (w.creates d b) 0 j) := by
  have hbody : Sequence (if ((w.openFiles.fetch (d, b)).1).isNone then do
        SQLiteIndexFile.new d b
        modify fun w => { w with openFiles := w.openFiles.insert (d, b) () }
      else pure ()) { w with openFiles := (w.openFiles.fetch (d, b)).2 } (w.openingCalls d b)
      (fun _ w' => OpenedFrom w d b w')
      (fun j e _ => e = .stopped ↔ rollbackFails w.calls (w.creates d b) 0 j) := by
    cases hfound : (w.openFiles.fetch (d, b)).1 with
    | some _ =>
      have hopen : w.isOpen d b = true := by simp [World.isOpen, hfound]
      rw [World.openingCalls, if_pos hopen]
      exact .pure ⟨rfl, fun _ _ _ => rfl, by simp [opening, hfound], by simp [hopen]⟩
    | none =>
      have hopen : w.isOpen d b = false := by simp [World.isOpen, hfound]
      have hcreates : w.creates d b = !decide (w.disk.HasTable d b) := by
        simp [World.creates, hopen]
      rw [World.openingCalls, hopen, if_neg Bool.false_ne_true, hcreates]
      refine Sequence.bind (m := 0) (sequence_new d b _) fun _ w₁ h₁ _ => ?_
      refine .modify_end rfl ⟨h₁.1.dirs, h₁.1.idx, ?_, by simpa [hopen] using h₁.2⟩
      simp [opening, hfound, h₁.1.openFiles]
  exact .get_bind (.modify_bind rfl hbody)

/-! ### Opening the databases of an identifier -/

/-- One database of a directory that is there. -/
lemma sequence_mount (d : DirName) (b : Base) {w : World} (hd : d ∈ w.disk.dirs) :
    Sequence (VFSDatabase.mount d b) w (1 + w.openingCalls d b) (fun _ w' => OpenedFrom w d b w')
      (fun j e _ => e = .stopped ↔ rollbackFails w.calls (w.creates d b) 1 j) := by
  refine Sequence.bind ((sequence_fsExists _ w).mono (fun _ _ h => h)
    fun _ _ _ hlt h => h.not_rollbackFails (by omega)) ?_
  rintro r w₁ ⟨rfl, rfl⟩ -
  have hfound : w.disk.dirs.contains d = true := by simpa using hd
  simp only [hfound, Bool.not_true, Bool.false_eq_true, if_false]
  rw [← (w.opening_next d b).1]
  refine (sequence_openIndexFile d b w.next).mono (fun _ _ h => h.of_next) fun j e _ _ h => ?_
  rwa [w.calls_next, (w.opening_next d b).2, rollbackFails_drop] at h

/-- Where the opening of the local database starts, and what is open then. -/
def World.afterGlobals (w : World) (d : DirName) : World :=
  { w with openFiles := opening w.openFiles d .globals }

/-- The databases of a directory that is there: the process ends if one of the two openings creates
tables, a statement fails and so does the roll-back. -/
lemma sequence_databaseSet_mount (d : DirName) {w : World} (hd : d ∈ w.disk.dirs) :
    Sequence (DatabaseSet.mount d) w
      (1 + w.openingCalls d .globals + (1 + (w.afterGlobals d).openingCalls d .locals))
      (fun _ _ => True)
      (fun j e _ => e = .stopped ↔
        rollbackFails w.calls (w.creates d .globals) 1 j ∨
        rollbackFails w.calls ((w.afterGlobals d).creates d .locals)
          (1 + w.openingCalls d .globals + 1) j) := by
  have hcount : w.creates d .globals = true → w.openingCalls d .globals = 7 := by
    intro h
    simp only [World.creates, Bool.and_eq_true, Bool.not_eq_true', decide_eq_false_iff_not] at h
    simp [World.openingCalls, h]
  have hbound : w.openingCalls d .globals ≤ 7 := by
    unfold World.openingCalls
    split_ifs <;> omega
  refine Sequence.bind ((sequence_mount d .globals hd).mono (fun _ _ h => h)
    fun j e _ hlt h => ?_) fun _ w₁ h₁ hcalls => ?_
  · rw [h]
    simp only [rollbackFails]
    constructor
    · exact .inl
    · rintro (hfails | hfails)
      · exact hfails
      · omega
  · have hlocals : w₁.openingCalls d .locals = (w.afterGlobals d).openingCalls d .locals ∧
        w₁.creates d .locals = (w.afterGlobals d).creates d .locals := by
      refine World.opening_congr ?_ ?_
      · simp [World.isOpen, World.afterGlobals, h₁.openFiles]
      · simp [Disk.HasTable, World.afterGlobals, h₁.idx d .locals (by simp)]
    rw [← hlocals.1, ← hlocals.2]
    refine (sequence_mount d .locals (h₁.dirs ▸ hd)).mono (fun _ _ _ => trivial)
      fun j e _ hlt h => ?_
    rw [h, hcalls, rollbackFails_drop]
    simp only [rollbackFails]
    constructor
    · exact .inr
    · rintro (⟨hcreates, hj⟩ | hfails)
      · have := hcount hcreates
        omega
      · exact hfails

/-- Where in the calls of a request the databases of its directory are opened. -/
def World.mountStart (w : World) (d : DirName) : ℕ := if w.disk.dirs.contains d then 1 else 2

lemma sequence_createDirectory (d : DirName) (e : Exn) (w : World) (hd : d ∉ w.disk.dirs) :
    Sequence (do if !(← createDirectory d) then throw e) w 1
      (fun _ w' => d ∈ w'.disk.dirs ∧ w'.disk.idx = w.disk.idx ∧ w'.openFiles = w.openFiles)
      (Thrown w) := by
  unfold createDirectory
  rw [bind_assoc]
  refine Sequence.call (a := ())
    (v := { w.next with disk := { w.next.disk with dirs := d :: w.next.disk.dirs } })
    ?_ rfl ⟨List.mem_cons_self, by simp, by simp⟩ fun o ho hstop => ?_
  · exact bind_ok (addDirectory_of_not_mem (by simpa using hd))
  cases o with
  | ok => exact absurd rfl ho
  | stop n => exact absurd rfl (hstop n)
  | raise what => exact ⟨.std what, by simp, rfl⟩
  | _ => exact ⟨.std "boost::filesystem::create_directory", by simp, rfl⟩

/-- The directory is there or is created now. -/
lemma sequence_verifyDatabaseDirectory (uuid : ByteString) (w : World) :
    Sequence (VFSBackend.verifyDatabaseDirectory uuid) w (w.mountStart (getFullPathForUUID uuid))
      (fun _ w' => getFullPathForUUID uuid ∈ w'.disk.dirs ∧ w'.disk.idx = w.disk.idx ∧
        w'.openFiles = w.openFiles) (Thrown w) := by
  unfold World.mountStart
  cases hfound : w.disk.dirs.contains (getFullPathForUUID uuid) with
  | true =>
    rw [if_pos rfl, ← Nat.add_zero 1]
    refine Sequence.bind (sequence_fsExists _ w) ?_
    rintro r w₁ ⟨rfl, rfl⟩ -
    simp only [hfound, Bool.not_true, Bool.false_eq_true, if_false]
    exact .pure ⟨by simpa using hfound, by simp, by simp⟩
  | false =>
    rw [if_neg Bool.false_ne_true, show 2 = 1 + 1 from rfl]
    refine Sequence.bind (sequence_fsExists _ w) ?_
    rintro r w₁ ⟨rfl, rfl⟩ hcalls
    simp only [hfound, Bool.not_false, if_true]
    have habsent : getFullPathForUUID uuid ∉ w.next.disk.dirs := by simpa using hfound
    refine (sequence_createDirectory _ _ w.next habsent).mono ?_ fun _ _ _ _ h => h.of_drop hcalls
    simp

/-- The process ends in the call after the `j`-th one: the databases of the directory are opened,
the `j`-th call is a statement that creates tables, and the roll-back fails. -/
def World.terminates (w : World) (d : DirName) (j : ℕ) : Prop :=
  rollbackFails w.calls (w.creates d .globals) (w.mountStart d + 1) j ∨
  rollbackFails w.calls ((w.afterGlobals d).creates d .locals)
    (w.mountStart d + (1 + w.openingCalls d .globals + 1)) j

/-- How many calls opening the set of an identifier makes. -/
def World.setCalls (w : World) (d : DirName) : ℕ :=
  w.mountStart d +
    (1 + w.openingCalls d .globals + (1 + (w.afterGlobals d).openingCalls d .locals))

theorem sequence_verifyAndopenSetForUUID (uuid : ByteString) (w : World) :
    Sequence (VFSBackend.verifyAndopenSetForUUID uuid) w (w.setCalls (getFullPathForUUID uuid))
      (fun _ _ => True)
      (fun j e _ => e = .stopped ↔ w.terminates (getFullPathForUUID uuid) j) := by
  set d := getFullPathForUUID uuid
  refine Sequence.tryCatch
    (R := fun j e _ => e = .stopped ↔ w.terminates d j) ?_ fun _ j e w' h => ?_
  · refine Sequence.bind ((sequence_verifyDatabaseDirectory uuid w).mono (fun _ _ h => h)
      fun j e _ hlt h => ?_) fun _ w₁ h₁ hcalls => ?_
    · change j < w.mountStart d at hlt
      simp only [h.1, World.terminates, rollbackFails, false_iff, not_or, not_and]
      omega
    · obtain ⟨hd, hidx, hfiles⟩ := h₁
      have htable (b : Base) : w₁.disk.HasTable d b ↔ w.disk.HasTable d b := by
        simp [Disk.HasTable, hidx]
      have hglobals := World.opening_congr (w := w) (v := w₁) (d := d) (b := .globals)
        (by simp [World.isOpen, hfiles]) (htable _)
      have hlocals := World.opening_congr (w := w.afterGlobals d) (v := w₁.afterGlobals d) (d := d)
        (b := .locals) (by simp [World.isOpen, World.afterGlobals, hfiles]) (htable _)
      have hmount := sequence_databaseSet_mount d hd
      rw [hglobals.1, hglobals.2, hlocals.1, hlocals.2, hcalls] at hmount
      refine hmount.mono (fun _ _ h => h) fun j e _ _ h => ?_
      rw [h, rollbackFails_drop, rollbackFails_drop]
      rfl
  · cases e with
    | sqlite what => exact ⟨_, w', rfl, by simpa using h⟩
    | _ => exact ⟨_, w', rfl, by simpa using h⟩

end Whip
