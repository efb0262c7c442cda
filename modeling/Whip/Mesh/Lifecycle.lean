import Whip.Mesh.IntraMeshService

/-!
# The life of a mesh server

The service removes servers from its maps by endpoint, so a late notification of a server that it
has let go of could remove a newer one. It never comes: when a server calls its safe-kill callback,
no operation is outstanding on it and nothing on the stack starts one, so it calls again only from
the rest of that stack, when no newer server can have been connected.
-/

namespace Whip

open Pipelined Pipelined.Client

namespace MeshServer

/-- The frames after which something is outstanding: reads, and answers on which a get follows. -/
def serves : Frame Own → Bool
  | .other .listenForAssetData | .other (.readErrorData _) | .other .listenForMessage => true
  | .other (.postResponse _ _) => true
  | _ => false

/-- A server is not closed while it serves. -/
def Separate (fs : List (Frame Own)) : Prop :=
  .other .checkSafeKill ∈ fs → ∀ f ∈ fs, serves f = false

lemma separate_of_not_mem {fs : List (Frame Own)} (h : .other .checkSafeKill ∉ fs) : Separate fs :=
  fun hkill => absurd hkill h

/-- The stack goes on: nothing new is on it but callbacks and what follows on them. -/
def Continues (fs gs : List (Frame Own)) : Prop :=
  ∀ P : Frame Own → Prop, P .callback → P .dropWaiting → P .dropSent → (∀ f ∈ fs, P f) →
    ∀ f ∈ gs, P f

lemma continues_of_subset {fs gs : List (Frame Own)} (h : gs ⊆ fs) : Continues fs gs :=
  fun _ _ _ _ hfs f hf => hfs f (h hf)

lemma Continues.refl (fs : List (Frame Own)) : Continues fs fs := continues_of_subset fun _ => id

lemma continues_callback (fs : List (Frame Own)) : Continues fs (.callback :: fs) :=
  fun _ hcallback _ _ hfs => List.forall_mem_cons.mpr ⟨hcallback, hfs⟩

lemma Continues.quiet {fs gs : List (Frame Own)} (h : Continues fs gs)
    (hfs : ∀ f ∈ fs, serves f = false) : ∀ f ∈ gs, serves f = false :=
  h _ rfl rfl rfl hfs

lemma Continues.kill_mem {fs gs : List (Frame Own)} (h : Continues fs gs)
    (hkill : .other .checkSafeKill ∈ gs) : .other .checkSafeKill ∈ fs := by
  by_contra hfs
  have hnone := h (· ≠ .other .checkSafeKill) (by decide) (by decide) (by decide)
    fun f hf heq => hfs (heq ▸ hf)
  exact hnone _ hkill rfl

lemma Continues.separate {fs gs : List (Frame Own)} (h : Continues fs gs) (hfs : Separate fs) :
    Separate gs :=
  fun hkill => h.quiet (hfs (h.kill_mem hkill))

variable {s s' : MeshServer ℕ}

/-- Closing puts frames on the stack that do not serve. -/
lemma running_close (s : MeshServer ℕ) :
    ∃ fs, s.close.running = fs ++ s.running ∧ ∀ f ∈ fs, serves f = false := by
  simp only [MeshServer.close]
  split_ifs
  · exact ⟨[.drainWaiting, .drainSent] ++ closeRest ++ [.drainWaiting, .drainSent] ++ closeRest,
      rfl, by decide⟩
  · exact ⟨[.drainWaiting, .drainSent] ++ closeRest, rfl, by decide⟩

lemma separate_close (h : s.running = []) : Separate s.close.running := by
  obtain ⟨fs, hfs, hquiet⟩ := running_close s
  rw [hfs, h, List.append_nil]
  exact fun _ => hquiet

lemma separate_closeQuery (h : s.running = []) : Separate s.closeQuery.running := by
  simp only [MeshServer.closeQuery]
  split_ifs
  · exact separate_close h
  · exact separate_of_not_mem (by simp [h])

lemma continues_clientResume {c c' : Client (MeshRequest ℕ) (Option Asset) Own}
    (hs : c.resume none = some c') : Continues c.running c'.running := by
  intro P hcallback hdropWaiting hdropSent h
  unfold Client.resume at hs
  split at hs
  case h_4 hrunning =>
    rw [hrunning] at h
    split at hs <;> cases hs
    · exact (List.forall_mem_cons.mp h).2
    · exact List.forall_mem_cons.mpr ⟨hcallback, List.forall_mem_cons.mpr ⟨hdropWaiting, h⟩⟩
  case h_5 hrunning =>
    rw [hrunning] at h
    split at hs <;> cases hs
    · exact (List.forall_mem_cons.mp h).2
    · exact List.forall_mem_cons.mpr ⟨hcallback, List.forall_mem_cons.mpr ⟨hdropSent, h⟩⟩
  case h_6 => cases hs
  all_goals
    cases hs
    simp_all

lemma continues_resume (hs : s.resume = some s') : Continues s.running s'.running := by
  unfold MeshServer.resume at hs
  split at hs
  case h_8 =>
    obtain ⟨c, hc, rfl⟩ := Option.map_eq_some_iff.mp hs
    exact continues_clientResume hc
  case h_6 fs hrunning =>
    cases hs
    have hkept : ({ s with running := fs }.checkSafeKill).running = fs := by
      unfold MeshServer.checkSafeKill
      split_ifs <;> rfl
    rw [hkept, hrunning]
    exact continues_of_subset (List.subset_cons_self _ _)
  all_goals
    rename_i hrunning
    cases hs
    rw [hrunning]
    exact continues_of_subset (List.subset_cons_self _ _)

/-! ### What a step of a server does to its stack -/

/-- What a call by others does: the stack goes on, and the callback is called from it only. -/
structure GoesOn (s s' : MeshServer ℕ) : Prop where
  registered : s'.hasSafeKillCallback = s.hasSafeKillCallback
  running : Continues s.running s'.running
  killed : s'.safeKills = s.safeKills ∨ .other .checkSafeKill ∈ s.running
  attempt : s'.numConnectResultsRcvd = s.numConnectResultsRcvd ∨
    (s'.numConnectResultsRcvd = TOTAL_CONNECTION_COUNT → s'.running = [.callback])

/-- What the completion of an operation does, which finds an empty stack. -/
structure Begins (s s' : MeshServer ℕ) : Prop where
  registered : s'.hasSafeKillCallback = s.hasSafeKillCallback
  running : Separate s'.running
  killed : s'.safeKills = s.safeKills ∨ s'.running = []
  attempt : s'.numConnectResultsRcvd = s.numConnectResultsRcvd

lemma goesOn_of_same (hregistered : s'.hasSafeKillCallback = s.hasSafeKillCallback)
    (hrunning : s'.running = s.running) (hkills : s'.safeKills = s.safeKills)
    (hattempt : s'.numConnectResultsRcvd = s.numConnectResultsRcvd) : GoesOn s s' :=
  ⟨hregistered, hrunning ▸ .refl _, .inl hkills, .inl hattempt⟩

lemma goesOn_resume (hs : s.resume = some s') : GoesOn s s' := by
  have hrunning := continues_resume hs
  unfold MeshServer.resume at hs
  split at hs
  case h_8 =>
    obtain ⟨c, -, rfl⟩ := Option.map_eq_some_iff.mp hs
    exact ⟨rfl, hrunning, .inl rfl, .inl rfl⟩
  case h_6 fs htop =>
    have hmem : .other .checkSafeKill ∈ s.running := htop ▸ List.mem_cons_self
    cases hs
    have hkept : ({ s with running := fs }.checkSafeKill).hasSafeKillCallback =
        s.hasSafeKillCallback ∧ ({ s with running := fs }.checkSafeKill).numConnectResultsRcvd =
          s.numConnectResultsRcvd := by
      unfold MeshServer.checkSafeKill
      split_ifs <;> exact ⟨rfl, rfl⟩
    exact ⟨hkept.1, hrunning, .inr hmem, .inl hkept.2⟩
  all_goals
    cases hs
    exact ⟨rfl, hrunning, .inl rfl, .inl rfl⟩

lemma goesOn_onConnectionResult (h : s.running = []) : GoesOn s s.onConnectionResult := by
  simp only [onConnectionResult, listenForAssetData]
  split_ifs with hlast
  · exact ⟨rfl, h ▸ continues_callback [], .inl rfl, .inr fun _ => rfl⟩
  · exact ⟨rfl, h ▸ continues_callback [], .inl rfl, .inr fun _ => rfl⟩
  · exact ⟨rfl, .refl _, .inl rfl, .inr fun htotal => absurd htotal hlast⟩

lemma begins_close {s₀ : MeshServer ℕ} (h : s.running = [])
    (hregistered : s.hasSafeKillCallback = s₀.hasSafeKillCallback)
    (hkills : s.safeKills = s₀.safeKills)
    (hattempt : s.numConnectResultsRcvd = s₀.numConnectResultsRcvd) : Begins s₀ s.close := by
  obtain ⟨hresults, -, -, hreg, hsame⟩ := (MeshSession.closes_close s).attempt
  exact ⟨hreg.trans hregistered, separate_close h, .inl (hsame.trans hkills),
    hresults.trans hattempt⟩

lemma begins_closeQuery {s₀ : MeshServer ℕ} (h : s.running = [])
    (hregistered : s.hasSafeKillCallback = s₀.hasSafeKillCallback)
    (hkills : s.safeKills = s₀.safeKills)
    (hattempt : s.numConnectResultsRcvd = s₀.numConnectResultsRcvd) : Begins s₀ s.closeQuery := by
  obtain ⟨hresults, -, -, hreg, hsame⟩ := (MeshSession.closes_closeQuery s).attempt
  exact ⟨hreg.trans hregistered, separate_closeQuery h, .inl (hsame.trans hkills),
    hresults.trans hattempt⟩

lemma begins_of_no_kill (hregistered : s'.hasSafeKillCallback = s.hasSafeKillCallback)
    (hrunning : .other .checkSafeKill ∉ s'.running) (hkills : s'.safeKills = s.safeKills)
    (hattempt : s'.numConnectResultsRcvd = s.numConnectResultsRcvd) : Begins s s' :=
  ⟨hregistered, separate_of_not_mem hrunning, .inl hkills, hattempt⟩

lemma begins_onRead (h : s.running = []) {op : ReadOp} {bytes : Option ByteString}
    (hs : s.onRead op bytes = some s') : Begins s s' := by
  obtain rfl | ⟨-, -, response, rfl⟩ | ⟨-, rfl⟩ | ⟨-, -, asset, own, hown, hs⟩ := onRead_cases hs
  · exact begins_close h rfl rfl rfl
  · exact begins_of_no_kill rfl (by simp [h]) rfl rfl
  · exact begins_of_no_kill rfl (by simp [h]) rfl rfl
  · obtain ⟨c, hc, rfl⟩ := Option.map_eq_some_iff.mp hs
    refine begins_of_no_kill rfl ?_ rfl rfl
    simp only [Client.answer] at hc
    split at hc
    · cases hc
    · cases hc
      cases own <;> simp_all [listens]

lemma begins_onQueryRead (h : s.running = []) (msg : Option IntraMeshMsg) :
    Begins s (s.onQueryRead msg) := by
  unfold MeshServer.onQueryRead
  dsimp only
  split
  · exact begins_closeQuery h rfl rfl rfl
  · exact begins_of_no_kill rfl (by simp [h]) rfl rfl
  · exact begins_of_no_kill rfl (by simp [h]) rfl rfl
  · exact begins_of_no_kill rfl (by simp) rfl rfl
  · exact begins_of_no_kill rfl (by simp) rfl rfl

lemma begins_onQueryWritten (h : s.running = []) (success : Bool) :
    Begins s (s.onQueryWritten success) := by
  simp only [MeshServer.onQueryWritten]
  split_ifs
  · exact begins_of_no_kill rfl (by simp [h]) rfl rfl
  · exact begins_closeQuery h rfl rfl rfl

lemma begins_onAfterWriteAssetRequest (h : s.running = []) (success : Bool) :
    Begins s (s.onAfterWriteAssetRequest success) := by
  have hcheck {s' : MeshServer ℕ} (hregistered : s'.hasSafeKillCallback = s.hasSafeKillCallback)
      (hattempt : s'.numConnectResultsRcvd = s.numConnectResultsRcvd) (hrunning : s'.running = []) :
      Begins s s'.checkSafeKill := by
    have hseparate : Separate s'.running := separate_of_not_mem (by simp [hrunning])
    unfold MeshServer.checkSafeKill
    split_ifs
    · exact ⟨hregistered, hseparate, .inr hrunning, hattempt⟩
    · exact ⟨hregistered, hseparate, .inr hrunning, hattempt⟩
  simp only [onAfterWriteAssetRequest]
  split_ifs with hsuccess hconn
  · refine hcheck rfl rfl ?_
    unfold Client.next
    split
    · exact h
    · exact (MeshSession.request_writing _ _ _).2.trans h
  · exact hcheck rfl rfl h
  · exact begins_close h rfl rfl rfl

end MeshServer

namespace MeshSession

open MeshServer

/-- What the service and the searches do with a server once it has been connected. -/
def admits (s : MeshServer ℕ) : Event ℕ → Bool
  | .call .connect | .call .registerSafeKillCallback | .call .close => false
  | .call (.getAsset _ _) => IntraMeshService.tellsFound s
  | _ => true

variable {t t' : MeshSession ℕ} {e : Event ℕ} {s s' : MeshServer ℕ}

lemma goesOn_call {event : MeshServer.Event ℕ} (hadmits : admits s (.call event) = true)
    (hpermits : permits s event = true) (hs : s.step event = some s') : GoesOn s s' := by
  cases event with
  | connect => cases hadmits
  | registerSafeKillCallback | close => cases hadmits
  | written | read | queryWritten | queryRead => cases hpermits
  | resume => exact goesOn_resume hs
  | getAsset uuid c =>
    obtain rfl := Machine.eq_of_ite hs
    exact goesOn_of_same rfl (request_writing _ _ _).2 rfl rfl
  | search uuid c =>
    obtain rfl := Machine.eq_of_ite hs
    simp only [MeshServer.search]
    split_ifs <;> exact goesOn_of_same rfl rfl rfl rfl
  | cancelSearch uuid c =>
    obtain rfl := Machine.eq_of_ite hs
    exact goesOn_of_same rfl rfl rfl rfl
  | assetConnected success =>
    obtain ⟨hcond, hs⟩ := Option.ite_none_right_eq_some.mp hs
    rw [Bool.and_eq_true, List.isEmpty_iff] at hcond
    cases hs
    obtain ⟨hregistered, hrunning, hkilled, hattempt⟩ := goesOn_onConnectionResult
      (s := { s with assetConnecting := false, established := success }) hcond.1
    exact ⟨hregistered, hrunning, hkilled, hattempt⟩
  | queryConnected success =>
    obtain ⟨hcond, hs⟩ := Option.ite_none_right_eq_some.mp hs
    rw [Bool.and_eq_true, List.isEmpty_iff] at hcond
    cases hs
    simp only [onQueryConnect]
    split_ifs
    · obtain ⟨hregistered, hrunning, hkilled, hattempt⟩ := goesOn_onConnectionResult (s := { s with
        queryConnecting := false
        query := { s.query with isConnected := true }.listenForMessage
        queryConnectionEstablished := true }) hcond.1
      exact ⟨hregistered, hrunning, hkilled, hattempt⟩
    · obtain ⟨hregistered, hrunning, hkilled, hattempt⟩ := goesOn_onConnectionResult (s := { s with
        queryConnecting := false
        query := { s.query with isConnected := false } }) hcond.1
      exact ⟨hregistered, hrunning, hkilled, hattempt⟩
  | runPosted i =>
    obtain ⟨-, hs⟩ := Option.ite_none_right_eq_some.mp hs
    obtain ⟨c, hc, rfl⟩ := Option.map_eq_some_iff.mp hs
    unfold Client.runPosted at hc
    split at hc
    · cases hc
    · cases hc
      exact ⟨rfl, continues_callback _, .inl rfl, .inl rfl⟩

/-- Everything a server does either goes on with its stack or begins a new one. -/
lemma goesOn_or_begins (hadmits : admits t.server e = true) (hs : step t e = some t') :
    GoesOn t.server t'.server ∨ t.server.running = [] ∧ Begins t.server t'.server := by
  cases e with
  | call event =>
    obtain ⟨hpermits, hs⟩ := Option.ite_none_right_eq_some.mp hs
    obtain ⟨s, hserver, rfl⟩ := Option.map_eq_some_iff.mp hs
    exact .inl (goesOn_call hadmits hpermits hserver)
  | assetRead i bytes =>
    simp only [step] at hs
    split at hs
    · cases hs
    · obtain ⟨hcond, hs⟩ := Option.ite_none_right_eq_some.mp hs
      rw [Bool.and_eq_true, List.isEmpty_iff] at hcond
      obtain ⟨s, hread, rfl⟩ := Option.map_eq_some_iff.mp hs
      exact .inr ⟨hcond.1, begins_onRead hcond.1 hread⟩
  | assetWritten success =>
    obtain ⟨hcond, hs⟩ := Option.ite_none_right_eq_some.mp hs
    rw [Bool.and_eq_true, List.isEmpty_iff] at hcond
    cases hs
    exact .inr ⟨hcond.1, begins_onAfterWriteAssetRequest hcond.1 success⟩
  | queryRead msg =>
    obtain ⟨hcond, hs⟩ := Option.ite_none_right_eq_some.mp hs
    rw [Bool.and_eq_true, List.isEmpty_iff] at hcond
    cases hs
    exact .inr ⟨hcond.1, begins_onQueryRead hcond.1 msg⟩
  | queryWritten success =>
    obtain ⟨hcond, hs⟩ := Option.ite_none_right_eq_some.mp hs
    rw [Bool.and_eq_true, List.isEmpty_iff] at hcond
    cases hs
    exact .inr ⟨hcond.1, begins_onQueryWritten hcond.1 success⟩

lemma registered_step (hadmits : admits t.server e = true) (hs : step t e = some t') :
    t'.server.hasSafeKillCallback = t.server.hasSafeKillCallback := by
  obtain hgoes | ⟨-, hbegins⟩ := goesOn_or_begins hadmits hs
  · exact hgoes.registered
  · exact hbegins.registered

lemma separate_step (hadmits : admits t.server e = true) (h : Separate t.server.running)
    (hs : step t e = some t') : Separate t'.server.running := by
  obtain hgoes | ⟨-, hbegins⟩ := goesOn_or_begins hadmits hs
  · exact hgoes.running.separate h
  · exact hbegins.running

/-! ### After the callback -/

/-- Nothing is outstanding, and nothing on the stack starts anything. -/
structure Dead (t : MeshSession ℕ) : Prop where
  sockets : t.sockets = {}
  down : t.server.queryConnectionEstablished = false
  registered : t.server.hasSafeKillCallback = true
  quiet : ∀ f ∈ t.server.running, serves f = false

lemma dead_of_kill (h : Tracked t) (hseparate : Separate t.server.running)
    (hadmits : admits t.server e = true) (hs : step t e = some t')
    (hkill : t'.server.safeKills ≠ t.server.safeKills) : Dead t' := by
  obtain ⟨hreading, hwriting, hdown, hregistered⟩ := (passes_step hs).resolve_left hkill
  refine ⟨((h.step hs).idle hreading hwriting hdown hregistered).1, hdown, hregistered, ?_⟩
  obtain hgoes | ⟨-, hbegins⟩ := goesOn_or_begins hadmits hs
  · exact hgoes.running.quiet (hseparate (hgoes.killed.resolve_left hkill))
  · simp [hbegins.killed.resolve_left hkill]

lemma Dead.not_connecting (hd : Dead t) (h : Tracked t) :
    t.server.assetConnecting = false ∧ t.server.queryConnecting = false := by
  have hconnects := h.connects
  rw [h.registered hd.registered] at hconnects
  exact ⟨Bool.toNat_eq_zero.mp (by omega), Bool.toNat_eq_zero.mp (by omega)⟩

lemma Dead.not_tellsFound (hd : Dead t) : IntraMeshService.tellsFound t.server = false := by
  unfold IntraMeshService.tellsFound
  split
  case h_1 hrunning =>
    have hquiet := hd.quiet _ (hrunning ▸ List.mem_cons_self)
    cases hquiet
  case h_2 => rfl

/-- Returning starts nothing. -/
lemma Dead.resume (hd : Dead t) (hs : t.server.resume = some s') :
    t.server.starts .resume = {} ∧ s'.queryConnectionEstablished = false := by
  constructor
  · simp only [starts]
    split
    case h_4 => rfl
    all_goals
      rename_i hrunning
      have hquiet := hd.quiet _ (hrunning ▸ List.mem_cons_self)
      cases hquiet
  · unfold MeshServer.resume at hs
    split at hs
    case h_8 =>
      obtain ⟨c, -, rfl⟩ := Option.map_eq_some_iff.mp hs
      exact hd.down
    case h_6 =>
      cases hs
      unfold MeshServer.checkSafeKill
      split_ifs <;> exact hd.down
    all_goals
      cases hs
      exact hd.down

/-- A server stays idle, and goes on with its stack at most. -/
lemma Dead.step (hd : Dead t) (h : Tracked t) (hadmits : admits t.server e = true)
    (hs : MeshSession.step t e = some t') : Dead t' ∧ GoesOn t.server t'.server := by
  obtain ⟨hasset, hquery⟩ := hd.not_connecting h
  cases e with
  | assetRead i bytes => simp [MeshSession.step, hd.sockets] at hs
  | assetWritten success => simp [MeshSession.step, hd.sockets] at hs
  | queryRead msg => simp [MeshSession.step, hd.sockets] at hs
  | queryWritten success => simp [MeshSession.step, hd.sockets] at hs
  | call event =>
    obtain ⟨hpermits, hs⟩ := Option.ite_none_right_eq_some.mp hs
    obtain ⟨s, hserver, rfl⟩ := Option.map_eq_some_iff.mp hs
    have hgoes := goesOn_call hadmits hpermits hserver
    have hdead (hstarts : t.server.starts event = {})
        (hdown : s.queryConnectionEstablished = false) :
        Dead ⟨s, t.sockets.add (t.server.starts event)⟩ := by
      rw [hstarts, Sockets.add_nothing]
      exact ⟨hd.sockets, hdown, hgoes.registered.trans hd.registered, hgoes.running.quiet hd.quiet⟩
    refine ⟨?_, hgoes⟩
    cases event with
    | getAsset uuid c => exact absurd hadmits (by simp [admits, hd.not_tellsFound])
    | resume =>
      obtain ⟨hstarts, hdown⟩ := hd.resume hserver
      exact hdead hstarts hdown
    | search uuid c =>
      have hclosed := (h.query.down hd.down).2.2.1
      refine hdead (by simp [starts, hclosed]) ?_
      obtain rfl := Machine.eq_of_ite hserver
      simp only [MeshServer.search]
      split_ifs <;> exact hd.down
    | cancelSearch uuid c =>
      obtain rfl := Machine.eq_of_ite hserver
      exact hdead rfl hd.down
    | runPosted i =>
      obtain ⟨-, hserver⟩ := Option.ite_none_right_eq_some.mp hserver
      obtain ⟨c, -, rfl⟩ := Option.map_eq_some_iff.mp hserver
      exact hdead rfl hd.down
    | assetConnected success => simp [MeshServer.step, hasset] at hserver
    | queryConnected success => simp [MeshServer.step, hquery] at hserver
    | connect => cases hadmits
    | registerSafeKillCallback | close => cases hadmits
    | written | read | queryWritten | queryRead => cases hpermits

end MeshSession

namespace IntraMeshService

open MeshServer MeshSession

/-! ### What the service knows of its servers -/

structure Sound (v : IntraMeshService) : Prop where
  tracked : ∀ m p, v.Has m p → p.session.Tracked
  separate : ∀ m p, v.Has m p → Separate p.session.server.running
  current : ∀ m p, v.Has m p → p.session.server.running ≠ [] → v.running = some m
  registered : ∀ m p, v.Has m p →
    (p.safeKillCallback = none ↔ p.session.server.hasSafeKillCallback = false)
  connecting : ∀ m p, v.Has m p → p.safeKillCallback = none →
    v.pendingServerConnections p.queryEndpoint = some m
  pending : ∀ ep m, v.pendingServerConnections ep = some m → ∃ p, v.Has m p ∧
    p.queryEndpoint = ep ∧ (p.safeKillCallback = none ∨ v.completing = true ∧ v.running = some m)
  remote : ∀ ep m, v.remoteServers ep = some m → ∃ p, v.Has m p ∧ p.queryEndpoint = ep
  disjoint : ∀ ep, v.pendingServerConnections ep = none ∨ v.remoteServers ep = none
  live : ∀ m p, v.Has m p → p.safeKillCallback = some .onSafeToKill →
    v.remoteServers p.queryEndpoint = some m ∨ p.session.Dead ∧
      (.other .checkSafeKill ∈ p.session.server.running → v.remoteServers p.queryEndpoint = none)
  failed : ∀ m p, v.Has m p → p.safeKillCallback = some .onConnectFailedSafekill →
    m ∈ v.connectFailedServers ∨ p.session.Dead
  completing : v.completing = true → ∃ m p, v.running = some m ∧ v.Has m p ∧
    v.pendingServerConnections p.queryEndpoint = some m ∧ p.safeKillCallback ≠ none

variable {v v' : IntraMeshService} {m : ℕ} {p : MeshPeer} {e : MeshSession.Event ℕ}
  {t : MeshSession ℕ} {fromString : String → Option UInt32}

lemma sound_start : Sound {} where
  tracked _ _ h := by cases h
  separate _ _ h := by cases h
  current _ _ h := by cases h
  registered _ _ h := by cases h
  connecting _ _ h := by cases h
  pending _ _ h := by cases h
  remote _ _ h := by cases h
  disjoint _ := .inl rfl
  live _ _ h := by cases h
  failed _ _ h := by cases h
  completing h := by cases h

/-- The servers after one of them has changed. -/
lemma has_setServer {j : ℕ} {q : MeshPeer} (h : (v.setServer m p).Has j q) :
    j = m ∧ q = p ∨ j ≠ m ∧ v.Has j q := by
  by_cases hj : j = m
  · subst hj
    rw [Has, setServer, List.getElem?_set_self'] at h
    obtain ⟨_, _, rfl⟩ := Option.map_eq_some_iff.mp h
    exact .inl ⟨rfl, rfl⟩
  · rw [Has, setServer, List.getElem?_set_ne (Ne.symm hj)] at h
    exact .inr ⟨hj, h⟩

lemma has_setServer_self {q : MeshPeer} (h : v.Has m q) : (v.setServer m p).Has m p := by
  rw [Has] at h
  rw [Has, setServer, List.getElem?_set_self', h]
  rfl

lemma has_setServer_of_ne {j : ℕ} {q : MeshPeer} (hj : j ≠ m) :
    (v.setServer m p).Has j q ↔ v.Has j q := by
  rw [Has, Has, setServer, List.getElem?_set_ne (Ne.symm hj)]

lemma Has.unique {q : MeshPeer} (hp : v.Has m p) (hq : v.Has m q) : p = q :=
  Option.some.inj (hp.symm.trans hq)

/-! ### What is allowed -/

lemma admits_of_allows {s : MeshServer ℕ} (h : v.allows m s e = true) : admits s e = true := by
  cases e with
  | call event =>
    cases event with
    | getAsset uuid c => exact h
    | connect => cases h
    | registerSafeKillCallback => cases h
    | close => cases h
    | _ => rfl
  | _ => rfl

/-- While another server is in the middle of a handler, only searches come here. -/
lemma Sound.running_eq_nil (hv : Sound v) (hp : v.Has m p)
    (hallows : v.allows m p.session.server e = true) (hs : p.session.step e = some t) {j : ℕ}
    (hj : v.running = some j) (hne : j ≠ m) : t.server.running = [] := by
  have hidle : p.session.server.running = [] := by
    by_contra hrunning
    have hm := hv.current m p hp hrunning
    rw [hj] at hm
    exact hne (Option.some.inj hm)
  cases e with
  | call event =>
    obtain ⟨-, hs⟩ := Option.ite_none_right_eq_some.mp hs
    obtain ⟨s, hserver, rfl⟩ := Option.map_eq_some_iff.mp hs
    cases event with
    | search uuid c =>
      obtain rfl := Machine.eq_of_ite hserver
      simp only [MeshServer.search]
      split_ifs <;> exact hidle
    | cancelSearch uuid c =>
      obtain rfl := Machine.eq_of_ite hserver
      exact hidle
    | getAsset uuid c => simp [allows, tellsFound, hidle] at hallows
    | resume => simp [allows, hj, hne] at hallows
    | _ => simp [allows, hj] at hallows
  | _ => simp [allows, hj] at hallows

/-- What a step of a server changes in the service before its callbacks are looked at. -/
lemma Sound.resumed_spec (hv : Sound v) (hp : v.Has m p)
    (hallows : v.allows m p.session.server e = true) (hs : p.session.step e = some t) :
    (t.server.running ≠ [] → (v.resumed m p t).running = some m) ∧
    (∀ j, j ≠ m → v.running = some j → (v.resumed m p t).running = some j) ∧
    ((v.resumed m p t).pendingServerConnections = v.pendingServerConnections ∧
        (v.resumed m p t).completing = v.completing ∧
        (v.completing = true → (v.resumed m p t).running = v.running) ∨
      v.completing = true ∧ v.running = some m ∧ (v.resumed m p t).completing = false ∧
        (v.resumed m p t).pendingServerConnections =
          Function.update v.pendingServerConnections p.queryEndpoint none) := by
  have hnil := fun j (hj : v.running = some j) hne => hv.running_eq_nil hp hallows hs hj hne
  unfold resumed
  by_cases hrunning : t.server.running = []
  · rw [if_neg (by simp [hrunning])]
    by_cases hm : v.running = some m
    · rw [if_pos hm]
      have hother (j : ℕ) (hne : j ≠ m) (hj : v.running = some j) : False :=
        hne (Option.some.inj (hj.symm.trans hm))
      by_cases hcompleting : v.completing = true
      · rw [if_pos hcompleting]
        exact ⟨fun h => absurd hrunning h, fun j hne hj => (hother j hne hj).elim,
          .inr ⟨hcompleting, hm, rfl, rfl⟩⟩
      · rw [if_neg hcompleting]
        exact ⟨fun h => absurd hrunning h, fun j hne hj => (hother j hne hj).elim,
          .inl ⟨rfl, rfl, fun h => absurd h hcompleting⟩⟩
    · rw [if_neg hm]
      exact ⟨fun h => absurd hrunning h, fun _ _ hj => hj, .inl ⟨rfl, rfl, fun _ => rfl⟩⟩
  · rw [if_pos (by simp [hrunning])]
    refine ⟨fun _ => rfl, fun j hne hj => absurd (hnil j hj hne) hrunning,
      .inl ⟨rfl, rfl, fun hcompleting => ?_⟩⟩
    obtain ⟨j, -, hj, -⟩ := hv.completing hcompleting
    by_cases hne : j = m
    · rw [hj, hne]
    · exact absurd (hnil j hj hne) hrunning

lemma resumed_servers (v : IntraMeshService) (m : ℕ) (p : MeshPeer) (t : MeshSession ℕ) :
    (v.resumed m p t).servers = (v.setServer m { p with session := t }).servers ∧
      (v.resumed m p t).remoteServers = v.remoteServers ∧
      (v.resumed m p t).connectFailedServers = v.connectFailedServers := by
  unfold resumed
  split_ifs <;> exact ⟨rfl, rfl, rfl⟩

lemma Sound.resumed (hv : Sound v) (hp : v.Has m p)
    (hallows : v.allows m p.session.server e = true) (hs : p.session.step e = some t) :
    Sound (v.resumed m p t) := by
  have hadmits := admits_of_allows hallows
  have htracked := (hv.tracked m p hp).step hs
  obtain ⟨hservers, hremote, hfailed⟩ := resumed_servers v m p t
  obtain ⟨hrunning, hother, hpending⟩ := hv.resumed_spec hp hallows hs
  set v₁ := v.resumed m p t
  have hcases {j : ℕ} {q : MeshPeer} (h : v₁.Has j q) :
      j = m ∧ q = { p with session := t } ∨ j ≠ m ∧ v.Has j q := by
    rw [Has, hservers] at h
    exact has_setServer h
  have hself : v₁.Has m { p with session := t } := by
    rw [Has, hservers]
    exact has_setServer_self hp
  have hkept {j : ℕ} {q : MeshPeer} (hj : j ≠ m) (h : v.Has j q) : v₁.Has j q := by
    rw [Has, hservers]
    exact (has_setServer_of_ne hj).mpr h
  -- a server is where it was, with the same endpoint and the same callback
  have hstill {j : ℕ} {q : MeshPeer} (h : v.Has j q) : ∃ q', v₁.Has j q' ∧
      q'.queryEndpoint = q.queryEndpoint ∧ q'.safeKillCallback = q.safeKillCallback := by
    by_cases hj : j = m
    · subst hj
      obtain rfl := hp.unique h
      exact ⟨_, hself, rfl, rfl⟩
    · exact ⟨q, hkept hj h, rfl, rfl⟩
  -- only the entry of the server itself may have gone
  have hpend {ep : Endpoint} {j : ℕ} (h : v₁.pendingServerConnections ep = some j) :
      v.pendingServerConnections ep = some j := by
    obtain ⟨heq, -⟩ | ⟨-, -, -, heq⟩ := hpending
    · rwa [heq] at h
    · rw [heq, Function.update_apply] at h
      split_ifs at h
      exact h
  exact {
    tracked := fun j q hq => by
      obtain ⟨-, rfl⟩ | ⟨-, hq⟩ := hcases hq
      · exact htracked
      · exact hv.tracked j q hq
    separate := fun j q hq => by
      obtain ⟨-, rfl⟩ | ⟨-, hq⟩ := hcases hq
      · exact separate_step hadmits (hv.separate m p hp) hs
      · exact hv.separate j q hq
    current := fun j q hq hne => by
      obtain ⟨rfl, rfl⟩ | ⟨hj, hq⟩ := hcases hq
      · exact hrunning hne
      · exact hother j hj (hv.current j q hq hne)
    registered := fun j q hq => by
      obtain ⟨rfl, rfl⟩ | ⟨-, hq⟩ := hcases hq
      · exact (hv.registered j p hp).trans (by rw [registered_step hadmits hs])
      · exact hv.registered j q hq
    connecting := fun j q hq hnone => by
      have hold : v.pendingServerConnections q.queryEndpoint = some j := by
        obtain ⟨rfl, rfl⟩ | ⟨-, hq⟩ := hcases hq
        · exact hv.connecting j p hp hnone
        · exact hv.connecting j q hq hnone
      obtain ⟨heq, -⟩ | ⟨hcompleting, hm, -, heq⟩ := hpending
      · rw [heq, hold]
      · obtain ⟨m', p', hm', hp', hentry, hcallback⟩ := hv.completing hcompleting
        obtain rfl : m = m' := Option.some.inj (hm.symm.trans hm')
        obtain rfl := hp.unique hp'
        rw [heq, Function.update_of_ne, hold]
        intro hep
        rw [hep, hentry] at hold
        obtain rfl := Option.some.inj hold
        obtain ⟨-, rfl⟩ | ⟨hne, -⟩ := hcases hq
        · exact hcallback hnone
        · exact hne rfl
    pending := fun ep j hj => by
      obtain ⟨q, hq, hep, hstate⟩ := hv.pending ep j (hpend hj)
      obtain ⟨q', hq', hep', hcallback⟩ := hstill hq
      refine ⟨q', hq', hep'.trans hep, ?_⟩
      rw [hcallback]
      obtain ⟨-, hsame, hrun⟩ | ⟨-, hm, -, heq⟩ := hpending
      · exact hstate.imp_right fun h => ⟨hsame.trans h.1, (hrun h.1).trans h.2⟩
      · refine .inl (hstate.resolve_right fun h => ?_)
        obtain rfl : m = j := Option.some.inj (hm.symm.trans h.2)
        obtain rfl := hp.unique hq
        simp [heq, hep] at hj
    remote := fun ep j hj => by
      rw [hremote] at hj
      obtain ⟨q, hq, hep⟩ := hv.remote ep j hj
      obtain ⟨q', hq', hep', -⟩ := hstill hq
      exact ⟨q', hq', hep'.trans hep⟩
    disjoint := fun ep => by
      rw [hremote]
      refine (hv.disjoint ep).imp_left fun hnone => ?_
      by_contra hsome
      obtain ⟨j, hj⟩ := Option.ne_none_iff_exists'.mp hsome
      simp [hpend hj] at hnone
    live := fun j q hq hcallback => by
      rw [hremote]
      obtain ⟨rfl, rfl⟩ | ⟨-, hq⟩ := hcases hq
      · refine (hv.live j p hp hcallback).imp_right fun h => ?_
        obtain ⟨hdead, hgoes⟩ := h.1.step (hv.tracked j p hp) hadmits hs
        exact ⟨hdead, fun hkill => h.2 (hgoes.running.kill_mem hkill)⟩
      · exact hv.live j q hq hcallback
    failed := fun j q hq hcallback => by
      rw [hfailed]
      obtain ⟨rfl, rfl⟩ | ⟨-, hq⟩ := hcases hq
      · exact (hv.failed j p hp hcallback).imp_right fun h =>
          (h.step (hv.tracked j p hp) hadmits hs).1
      · exact hv.failed j q hq hcallback
    completing := fun hcompleting => by
      obtain ⟨heq, hsame, hrun⟩ | ⟨-, -, hno, -⟩ := hpending
      · rw [hsame] at hcompleting
        obtain ⟨j, q, hj, hq, hentry, hcallback⟩ := hv.completing hcompleting
        obtain ⟨q', hq', hep', hcallback'⟩ := hstill hq
        exact ⟨j, q', (hrun hcompleting).trans hj, hq', by rw [hep', heq, hentry],
          hcallback' ▸ hcallback⟩
      · rw [hno] at hcompleting
        cases hcompleting }

/-! ### The safe-kill callback -/

lemma remoteServers_onSafeToKill (v : IntraMeshService) (p : MeshPeer) (ep : Endpoint) :
    (v.onSafeToKill p).remoteServers ep =
      if ep = p.queryEndpoint then none else v.remoteServers ep :=
  Function.update_apply ..

/-- A server that calls `onSafeToKill` finds its own entry or none. -/
lemma Sound.own_entry (hv : Sound v) (hp : v.Has m p)
    (hallows : v.allows m p.session.server e = true) (hs : p.session.step e = some t)
    (hkill : t.server.safeKills ≠ p.session.server.safeKills)
    (hcallback : p.safeKillCallback = some .onSafeToKill) {j : ℕ}
    (hj : v.remoteServers p.queryEndpoint = some j) : j = m := by
  obtain hentry | ⟨hdead, hnone⟩ := hv.live m p hp hcallback
  · exact Option.some.inj (hj.symm.trans hentry)
  · obtain ⟨-, hgoes⟩ := hdead.step (hv.tracked m p hp) (admits_of_allows hallows) hs
    have hgone := hnone (hgoes.killed.resolve_left hkill)
    rw [hj] at hgone
    cases hgone

lemma Sound.safeKill (hv : Sound v) (hp : v.Has m p)
    (hallows : v.allows m p.session.server e = true) (hs : p.session.step e = some t)
    (hkill : t.server.safeKills ≠ p.session.server.safeKills) :
    Sound ((v.resumed m p t).safeKill m { p with session := t }) := by
  have hv₁ := hv.resumed hp hallows hs
  have hdead : t.Dead := dead_of_kill (hv.tracked m p hp) (hv.separate m p hp)
    (admits_of_allows hallows) hs hkill
  have hcases {j : ℕ} {q : MeshPeer} (h : (v.resumed m p t).Has j q) :
      j = m ∧ q = { p with session := t } ∨ j ≠ m ∧ v.Has j q := by
    rw [Has, (resumed_servers v m p t).1] at h
    exact has_setServer h
  unfold IntraMeshService.safeKill
  split
  case h_1 hcallback =>
    exact {
      tracked := hv₁.tracked
      separate := hv₁.separate
      current := hv₁.current
      registered := hv₁.registered
      connecting := hv₁.connecting
      pending := hv₁.pending
      remote := fun ep j hj => by
        rw [remoteServers_onSafeToKill] at hj
        split_ifs at hj
        exact hv₁.remote ep j hj
      disjoint := fun ep => by
        rw [remoteServers_onSafeToKill]
        split_ifs
        · exact .inr rfl
        · exact hv₁.disjoint ep
      live := fun j q hq hq' => by
        rw [remoteServers_onSafeToKill]
        split_ifs with hep
        · refine .inr ⟨?_, fun _ => rfl⟩
          obtain ⟨-, rfl⟩ | ⟨hne, hq⟩ := hcases hq
          · exact hdead
          · refine ((hv.live j q hq hq').resolve_left fun hentry => hne ?_).1
            rw [hep] at hentry
            exact hv.own_entry hp hallows hs hkill hcallback hentry
        · exact hv₁.live j q hq hq'
      failed := hv₁.failed
      completing := hv₁.completing }
  case h_2 =>
    refine ⟨hv₁.tracked, hv₁.separate, hv₁.current, hv₁.registered, hv₁.connecting, hv₁.pending,
      hv₁.remote, hv₁.disjoint, hv₁.live, fun j q hq hq' => ?_, hv₁.completing⟩
    obtain ⟨-, rfl⟩ | ⟨hne, -⟩ := hcases hq
    · exact .inr hdead
    · exact (hv₁.failed j q hq hq').imp_left fun h => List.mem_filter.mpr ⟨h, by simpa using hne⟩
  case h_3 => exact hv₁

/-! ### The connect callback -/

/-- The second connection result calls the connect callback of a server that nobody has registered
with. -/
lemma Sound.attempt (hv : Sound v) (hp : v.Has m p)
    (hallows : v.allows m p.session.server e = true) (hs : p.session.step e = some t)
    (hbefore : MeshPeer.attempted p.session = false) (hafter : MeshPeer.attempted t = true) :
    t.server.running = [.callback] ∧ p.safeKillCallback = none := by
  simp only [MeshPeer.attempted, decide_eq_true_eq, decide_eq_false_iff_not] at hbefore hafter
  have hcallback : p.safeKillCallback = none := by
    refine (hv.registered m p hp).mpr (Bool.not_eq_true _ ▸ fun hreg => hbefore ?_)
    exact (hv.tracked m p hp).registered hreg
  refine ⟨?_, hcallback⟩
  obtain hgoes | ⟨-, hbegins⟩ := goesOn_or_begins (admits_of_allows hallows) hs
  · exact hgoes.attempt.resolve_left (fun hsame => hbefore (hsame ▸ hafter)) hafter
  · exact absurd (hbegins.attempt ▸ hafter) hbefore

lemma tracked_register (h : t.Tracked) (hafter : MeshPeer.attempted t = true) :
    Tracked { t with server.hasSafeKillCallback := true } :=
  ⟨h.asset, h.query, h.connects, fun _ => by simpa [MeshPeer.attempted] using hafter⟩

lemma Sound.connected (hv : Sound v) (hp : v.Has m p) (hrunning : v.running = some m)
    (hafter : MeshPeer.attempted p.session = true) (hcallback : p.safeKillCallback = none) :
    Sound (v.onConnectAttemptCompleted m p true) := by
  have hentry := hv.connecting m p hp hcallback
  have hfree : v.remoteServers p.queryEndpoint = none :=
    (hv.disjoint _).resolve_left (by simp [hentry])
  -- the server itself is the one that runs, so no other is in the middle of closing
  have hnotCompleting : v.completing ≠ true := fun hcompleting => by
    obtain ⟨m', p', hm', hp', -, hcallback'⟩ := hv.completing hcompleting
    obtain rfl : m = m' := Option.some.inj (hrunning.symm.trans hm')
    exact hcallback' (hp.unique hp' ▸ hcallback)
  set p' := p.registerSafeKillCallback .onSafeToKill with hp'
  have hcases {j : ℕ} {q : MeshPeer} (h : (v.onConnectAttemptCompleted m p true).Has j q) :
      j = m ∧ q = p' ∨ j ≠ m ∧ v.Has j q := has_setServer (v := v) h
  have hself : (v.onConnectAttemptCompleted m p true).Has m p' := has_setServer_self (v := v) hp
  have hkept {j : ℕ} {q : MeshPeer} (hj : j ≠ m) (h : v.Has j q) :
      (v.onConnectAttemptCompleted m p true).Has j q := (has_setServer_of_ne (v := v) hj).mpr h
  have hpending (ep : Endpoint) :
      (v.onConnectAttemptCompleted m p true).pendingServerConnections ep =
        if ep = p.queryEndpoint then none else v.pendingServerConnections ep :=
    Function.update_apply ..
  have hremote (ep : Endpoint) : (v.onConnectAttemptCompleted m p true).remoteServers ep =
      if ep = p.queryEndpoint then some m else v.remoteServers ep :=
    Function.update_apply ..
  exact {
    tracked := fun j q hq => by
      obtain ⟨-, rfl⟩ | ⟨-, hq⟩ := hcases hq
      · exact tracked_register (hv.tracked m p hp) hafter
      · exact hv.tracked j q hq
    separate := fun j q hq => by
      obtain ⟨-, rfl⟩ | ⟨-, hq⟩ := hcases hq
      · exact hv.separate m p hp
      · exact hv.separate j q hq
    current := fun j q hq hne => by
      obtain ⟨rfl, -⟩ | ⟨-, hq⟩ := hcases hq
      · exact hrunning
      · exact hv.current j q hq hne
    registered := fun j q hq => by
      obtain ⟨-, rfl⟩ | ⟨-, hq⟩ := hcases hq
      · simp [hp', MeshPeer.registerSafeKillCallback]
      · exact hv.registered j q hq
    connecting := fun j q hq hnone => by
      obtain ⟨-, rfl⟩ | ⟨hne, hq⟩ := hcases hq
      · cases hnone
      · have hold := hv.connecting j q hq hnone
        rw [hpending, if_neg, hold]
        intro hep
        rw [hep, hentry] at hold
        exact hne (Option.some.inj hold).symm
    pending := fun ep j hj => by
      rw [hpending] at hj
      split_ifs at hj with hep
      obtain ⟨q, hq, hqep, hstate⟩ := hv.pending ep j hj
      have hne : j ≠ m := fun heq => by
        subst heq
        exact hep (hqep.symm.trans (congrArg _ (hq.unique hp)))
      exact ⟨q, hkept hne hq, hqep, .inl (hstate.resolve_right fun h => hnotCompleting h.1)⟩
    remote := fun ep j hj => by
      rw [hremote] at hj
      split_ifs at hj with hep
      · obtain rfl := Option.some.inj hj
        exact ⟨p', hself, hep.symm⟩
      · obtain ⟨q, hq, hqep⟩ := hv.remote ep j hj
        have hne : j ≠ m := fun heq => by
          subst heq
          exact hep (hqep.symm.trans (congrArg _ (hq.unique hp)))
        exact ⟨q, hkept hne hq, hqep⟩
    disjoint := fun ep => by
      rw [hpending, hremote]
      split_ifs
      · exact .inl rfl
      · exact hv.disjoint ep
    live := fun j q hq hq' => by
      rw [hremote]
      obtain ⟨rfl, rfl⟩ | ⟨hne, hq⟩ := hcases hq
      · exact .inl (if_pos rfl)
      · split_ifs with hep
        · refine .inr ⟨((hv.live j q hq hq').resolve_left fun h => ?_).1, fun hkill => ?_⟩
          · rw [hep, hfree] at h
            cases h
          · have hj := hv.current j q hq (List.ne_nil_of_mem hkill)
            rw [hrunning] at hj
            exact absurd (Option.some.inj hj).symm hne
        · exact hv.live j q hq hq'
    failed := fun j q hq hq' => by
      obtain ⟨-, rfl⟩ | ⟨-, hq⟩ := hcases hq
      · cases hq'
      · exact hv.failed j q hq hq'
    completing := fun h => absurd h hnotCompleting }

lemma Sound.connectFailed (hv : Sound v) (hp : v.Has m p) (hrunning : v.running = some m)
    (hafter : MeshPeer.attempted p.session = true)
    (hstack : p.session.server.running = [.callback]) (hcallback : p.safeKillCallback = none) :
    Sound (v.onConnectAttemptCompleted m p false) := by
  have hentry := hv.connecting m p hp hcallback
  set p' := (p.registerSafeKillCallback .onConnectFailedSafekill).close
  have hcloses := closes_close (p.registerSafeKillCallback .onConnectFailedSafekill).session.server
  have hcases {j : ℕ} {q : MeshPeer} (h : (v.onConnectAttemptCompleted m p false).Has j q) :
      j = m ∧ q = p' ∨ j ≠ m ∧ v.Has j q := has_setServer (v := v) h
  have hself : (v.onConnectAttemptCompleted m p false).Has m p' := has_setServer_self (v := v) hp
  have hkept {j : ℕ} {q : MeshPeer} (hj : j ≠ m) (h : v.Has j q) :
      (v.onConnectAttemptCompleted m p false).Has j q := (has_setServer_of_ne (v := v) hj).mpr h
  exact {
    tracked := fun j q hq => by
      obtain ⟨-, rfl⟩ | ⟨-, hq⟩ := hcases hq
      · exact (tracked_register (hv.tracked m p hp) hafter).closes
          ((congrArg _ hstack).trans rfl) hcloses
      · exact hv.tracked j q hq
    separate := fun j q hq => by
      obtain ⟨-, rfl⟩ | ⟨-, hq⟩ := hcases hq
      · obtain ⟨fs, hfs, hquiet⟩ :=
          running_close (p.registerSafeKillCallback .onConnectFailedSafekill).session.server
        have hrest : p'.session.server.running = fs ++ [.callback] :=
          hfs.trans (congrArg _ hstack)
        rw [hrest]
        exact fun _ f hf => (List.mem_append.mp hf).elim (hquiet f) fun h => by
          rw [List.mem_singleton.mp h]
          rfl
      · exact hv.separate j q hq
    current := fun j q hq hne => by
      obtain ⟨rfl, -⟩ | ⟨-, hq⟩ := hcases hq
      · exact hrunning
      · exact hv.current j q hq hne
    registered := fun j q hq => by
      obtain ⟨-, rfl⟩ | ⟨-, hq⟩ := hcases hq
      · have hregistered : p'.session.server.hasSafeKillCallback = true :=
          hcloses.attempt.2.2.2.1.trans rfl
        rw [hregistered]
        exact ⟨fun h => (by cases h), fun h => (by cases h)⟩
      · exact hv.registered j q hq
    connecting := fun j q hq hnone => by
      obtain ⟨-, rfl⟩ | ⟨-, hq⟩ := hcases hq
      · cases hnone
      · exact hv.connecting j q hq hnone
    pending := fun ep j hj => by
      obtain ⟨q, hq, hqep, hstate⟩ := hv.pending ep j hj
      by_cases hne : j = m
      · subst hne
        exact ⟨p', hself, (congrArg _ (hp.unique hq)).trans hqep, .inr ⟨rfl, hrunning⟩⟩
      · exact ⟨q, hkept hne hq, hqep, hstate.imp_right fun h => ⟨rfl, h.2⟩⟩
    remote := fun ep j hj => by
      obtain ⟨q, hq, hqep⟩ := hv.remote ep j hj
      by_cases hne : j = m
      · subst hne
        exact ⟨p', hself, (congrArg _ (hp.unique hq)).trans hqep⟩
      · exact ⟨q, hkept hne hq, hqep⟩
    disjoint := hv.disjoint
    live := fun j q hq hq' => by
      obtain ⟨-, rfl⟩ | ⟨-, hq⟩ := hcases hq
      · cases hq'
      · exact hv.live j q hq hq'
    failed := fun j q hq hq' => by
      obtain ⟨rfl, -⟩ | ⟨-, hq⟩ := hcases hq
      · exact .inl (List.mem_append_right _ (List.mem_singleton_self _))
      · exact (hv.failed j q hq hq').imp_left (List.mem_append_left _)
    completing := fun _ => ⟨m, p', hrunning, hself, hentry, fun h => by cases h⟩ }

/-! ### Heartbeats -/

/-- The servers after another one has been created. -/
lemma has_append {j : ℕ} {q : MeshPeer} (h : v'.servers = v.servers ++ [p]) :
    v'.Has j q ↔ v.Has j q ∨ j = v.servers.length ∧ q = p := by
  simp only [Has, h, List.getElem?_append, List.getElem?_singleton]
  split_ifs with hlt hlast
  · exact ⟨.inl, fun h => h.resolve_right fun h => hlt.ne h.1⟩
  · have hj : j = v.servers.length := by omega
    simp [hj, eq_comm]
  · have hnone : v.servers[j]? = none := List.getElem?_eq_none (by omega)
    have hj : j ≠ v.servers.length := by omega
    simp [hnone, hj]

lemma Has.lt {j : ℕ} {q : MeshPeer} (h : v.Has j q) : j < v.servers.length :=
  (List.getElem?_eq_some_iff.mp h).1

/-- A server is created for an endpoint that neither map knows. -/
lemma visitPeer_cases (v : IntraMeshService) (ep : Endpoint) (peer : IntraMeshPeerEntry) :
    v.visitPeer ep peer = v ∨
    v.remoteServers ep = none ∧ v.pendingServerConnections ep = none ∧
      v.visitPeer ep peer = { v with
        servers := v.servers ++
          [MeshPeer.connect ⟨ep, { ep with port := peer.assetServicePort }, {}, none⟩]
        pendingServerConnections :=
          Function.update v.pendingServerConnections ep (some v.servers.length) } := by
  unfold visitPeer connectToMeshServer connectionIsPending
  split_ifs with hremote hpending
  · exact .inr ⟨Option.isNone_iff_eq_none.mp hremote, by simpa using hpending, rfl⟩
  · exact .inl rfl
  · exact .inl rfl

lemma tracked_connect (p : MeshPeer) (h : p.session = {}) : p.connect.session.Tracked := by
  rw [MeshPeer.connect, h]
  exact ⟨⟨rfl, rfl, Nat.zero_le _, fun _ => ⟨rfl, rfl⟩⟩,
    ⟨rfl, rfl, le_rfl, fun _ => ⟨rfl, rfl⟩, fun _ => ⟨rfl, rfl, rfl, rfl⟩⟩, le_rfl,
    fun h => by cases h⟩

lemma Sound.visitPeer (hv : Sound v) (ep : Endpoint) (peer : IntraMeshPeerEntry) :
    Sound (v.visitPeer ep peer) := by
  obtain heq | ⟨hremote, hpending, heq⟩ := visitPeer_cases v ep peer
  · rwa [heq]
  rw [heq]
  set p : MeshPeer := MeshPeer.connect ⟨ep, { ep with port := peer.assetServicePort }, {}, none⟩
    with hp
  set v' : IntraMeshService := { v with
    servers := v.servers ++ [p]
    pendingServerConnections :=
      Function.update v.pendingServerConnections ep (some v.servers.length) } with hv'
  have hcases {j : ℕ} {q : MeshPeer} : v'.Has j q ↔ v.Has j q ∨ j = v.servers.length ∧ q = p :=
    has_append rfl
  have hpend (ep' : Endpoint) : v'.pendingServerConnections ep' =
      if ep' = ep then some v.servers.length else v.pendingServerConnections ep' :=
    Function.update_apply ..
  exact {
    tracked := fun j q hq => by
      obtain hq | ⟨-, rfl⟩ := hcases.mp hq
      · exact hv.tracked j q hq
      · exact tracked_connect _ rfl
    separate := fun j q hq => by
      obtain hq | ⟨-, rfl⟩ := hcases.mp hq
      · exact hv.separate j q hq
      · exact separate_of_not_mem (List.not_mem_nil)
    current := fun j q hq hne => by
      obtain hq | ⟨-, rfl⟩ := hcases.mp hq
      · exact hv.current j q hq hne
      · exact absurd rfl hne
    registered := fun j q hq => by
      obtain hq | ⟨-, rfl⟩ := hcases.mp hq
      · exact hv.registered j q hq
      · exact ⟨fun _ => rfl, fun _ => rfl⟩
    connecting := fun j q hq hnone => by
      rw [hpend]
      obtain hq | ⟨rfl, rfl⟩ := hcases.mp hq
      · have hold := hv.connecting j q hq hnone
        rw [if_neg, hold]
        intro hep
        rw [hep, hpending] at hold
        cases hold
      · exact if_pos rfl
    pending := fun ep' j hj => by
      rw [hpend] at hj
      split_ifs at hj with hep
      · obtain rfl := Option.some.inj hj
        exact ⟨p, hcases.mpr (.inr ⟨rfl, rfl⟩), hep.symm, .inl rfl⟩
      · obtain ⟨q, hq, hstate⟩ := hv.pending ep' j hj
        exact ⟨q, hcases.mpr (.inl hq), hstate⟩
    remote := fun ep' j hj => by
      obtain ⟨q, hq, hep⟩ := hv.remote ep' j hj
      exact ⟨q, hcases.mpr (.inl hq), hep⟩
    disjoint := fun ep' => by
      rw [hpend]
      split_ifs with hep
      · exact .inr (hep ▸ hremote)
      · exact hv.disjoint ep'
    live := fun j q hq hcallback => by
      obtain hq | ⟨-, rfl⟩ := hcases.mp hq
      · exact hv.live j q hq hcallback
      · cases hcallback
    failed := fun j q hq hcallback => by
      obtain hq | ⟨-, rfl⟩ := hcases.mp hq
      · exact hv.failed j q hq hcallback
      · cases hcallback
    completing := fun h => by
      obtain ⟨j, q, hj, hq, hentry, hcallback⟩ := hv.completing h
      refine ⟨j, q, hj, hcases.mpr (.inl hq), ?_, hcallback⟩
      rw [hpend, if_neg, hentry]
      intro hep
      rw [hep, hpending] at hentry
      cases hentry }

lemma Sound.doHeartBeat (hv : Sound v) (peers : List IntraMeshPeerEntry) :
    Sound (v.doHeartBeat fromString peers) := by
  induction peers generalizing v with
  | nil => exact hv
  | cons peer peers ih =>
    unfold IntraMeshService.doHeartBeat
    split
    · exact hv
    · exact ih (hv.visitPeer _ _)

/-! ### Every step -/

lemma step_server (hs : step fromString v (.server m e) = some v') : ∃ p t, v.Has m p ∧
    v.allows m p.session.server e = true ∧ p.session.step e = some t ∧ v' = v.advance m p t := by
  simp only [IntraMeshService.step] at hs
  split at hs
  · cases hs
  · rename_i p hp
    obtain ⟨hallows, hs⟩ := Option.ite_none_right_eq_some.mp hs
    obtain ⟨t, hstep, rfl⟩ := Option.map_eq_some_iff.mp hs
    exact ⟨p, t, hp, hallows, hstep, rfl⟩

lemma Sound.advance (hv : Sound v) (hp : v.Has m p)
    (hallows : v.allows m p.session.server e = true) (hs : p.session.step e = some t) :
    Sound (v.advance m p t) := by
  unfold IntraMeshService.advance
  split_ifs with hkill hattempt
  · exact hv.safeKill hp hallows hs hkill
  · simp only [Bool.and_eq_true, Bool.not_eq_true'] at hattempt
    obtain ⟨hstack, hcallback⟩ := hv.attempt hp hallows hs hattempt.1 hattempt.2
    have hv₁ := hv.resumed hp hallows hs
    have hp₁ : (v.resumed m p t).Has m { p with session := t } := by
      rw [Has, (resumed_servers v m p t).1]
      exact has_setServer_self hp
    have hrunning : (v.resumed m p t).running = some m :=
      (hv.resumed_spec hp hallows hs).1 (by simp [hstack])
    cases MeshPeer.connectSuccess t with
    | true => exact hv₁.connected hp₁ hrunning hattempt.2 hcallback
    | false => exact hv₁.connectFailed hp₁ hrunning hattempt.2 hstack hcallback
  · exact hv.resumed hp hallows hs

lemma Sound.step {event : Event} (hv : Sound v) (hs : step fromString v event = some v') :
    Sound v' := by
  cases event with
  | heartBeat peers =>
    obtain rfl := Machine.eq_of_ite hs
    exact hv.doHeartBeat peers
  | server m e =>
    obtain ⟨p, t, hp, hallows, hstep, rfl⟩ := step_server hs
    exact hv.advance hp hallows hstep

lemma sound_run {es : List Event}
    (hrun : Machine.run (IntraMeshService.step fromString) {} es = some v) : Sound v :=
  Machine.run_invariant' (fun _ _ _ h hs => h.step hs) sound_start hrun

/-! ### Creation -/

/-- What a heartbeat does: it creates servers for endpoints that are in neither map. -/
structure Extends (v v' : IntraMeshService) : Prop where
  kept : ∀ m p, v.Has m p → v'.Has m p
  remote : v'.remoteServers = v.remoteServers
  pending : ∀ ep m, v.pendingServerConnections ep = some m → v'.pendingServerConnections ep = some m
  created : ∀ m p, v'.Has m p → v.servers.length ≤ m →
    v.remoteServers p.queryEndpoint = none ∧ v.pendingServerConnections p.queryEndpoint = none ∧
      v'.pendingServerConnections p.queryEndpoint = some m

lemma Extends.refl (v : IntraMeshService) : Extends v v :=
  ⟨fun _ _ h => h, rfl, fun _ _ h => h, fun _ _ h hm => absurd h.lt (by omega)⟩

lemma Extends.trans {v₁ v₂ v₃ : IntraMeshService} (h : Extends v₁ v₂) (h' : Extends v₂ v₃) :
    Extends v₁ v₃ := by
  refine ⟨fun m p hp => h'.kept m p (h.kept m p hp), h'.remote.trans h.remote,
    fun ep m hm => h'.pending ep m (h.pending ep m hm), fun m p hp hm => ?_⟩
  by_cases hlt : m < v₂.servers.length
  · -- created by the first part
    have hp₂ : v₂.Has m v₂.servers[m] := List.getElem?_eq_getElem hlt
    obtain rfl := hp.unique (h'.kept m _ hp₂)
    obtain ⟨hremote, hpending, hentry⟩ := h.created m _ hp₂ hm
    exact ⟨hremote, hpending, h'.pending _ m hentry⟩
  · obtain ⟨hremote, hpending, hentry⟩ := h'.created m p hp (by omega)
    refine ⟨h.remote ▸ hremote, ?_, hentry⟩
    by_contra hsome
    obtain ⟨j, hj⟩ := Option.ne_none_iff_exists'.mp hsome
    rw [h.pending _ j hj] at hpending
    cases hpending

lemma extends_visitPeer (v : IntraMeshService) (ep : Endpoint) (peer : IntraMeshPeerEntry) :
    Extends v (v.visitPeer ep peer) := by
  obtain heq | ⟨hremote, hpending, heq⟩ := visitPeer_cases v ep peer
  · rw [heq]
    exact .refl v
  rw [heq]
  refine ⟨fun m p hp => (has_append rfl).mpr (.inl hp), rfl, fun ep' m hm => ?_,
    fun m p hp hm => ?_⟩
  · exact (Function.update_of_ne (fun hep => by simp [hep, hpending] at hm) ..).trans hm
  · obtain hp | ⟨rfl, rfl⟩ := (has_append rfl).mp hp
    · exact absurd hp.lt (by omega)
    · exact ⟨hremote, hpending, Function.update_self ..⟩

lemma extends_doHeartBeat (fromString : String → Option UInt32) (v : IntraMeshService)
    (peers : List IntraMeshPeerEntry) :
    Extends v (v.doHeartBeat fromString peers) := by
  induction peers generalizing v with
  | nil => exact .refl v
  | cons peer peers ih =>
    unfold IntraMeshService.doHeartBeat
    split
    · exact .refl v
    · exact (extends_visitPeer v _ peer).trans (ih _)

lemma length_advance (v : IntraMeshService) (m : ℕ) (p : MeshPeer) (t : MeshSession ℕ) :
    (v.advance m p t).servers.length = v.servers.length := by
  have hresumed : (v.resumed m p t).servers.length = v.servers.length := by
    rw [(resumed_servers v m p t).1, setServer, List.length_set]
  simp only [IntraMeshService.advance]
  split_ifs
  · unfold IntraMeshService.safeKill
    split <;> exact hresumed
  · unfold onConnectAttemptCompleted
    split_ifs <;> exact List.length_set.trans hresumed
  · exact hresumed

/-- No peer is connected to twice: an endpoint is in one of the maps at most, under the server that
was made for it, and a step makes a server only for an endpoint that is in neither. -/
theorem one_server_per_peer {es : List Event}
    (hrun : Machine.run (IntraMeshService.step fromString) {} es = some v) :
    (∀ ep, v.pendingServerConnections ep = none ∨ v.remoteServers ep = none) ∧
    (∀ ep m, v.pendingServerConnections ep = some m ∨ v.remoteServers ep = some m →
      ∃ p, v.Has m p ∧ p.queryEndpoint = ep) ∧
    ∀ event v', IntraMeshService.step fromString v event = some v' → ∀ m p, v'.Has m p →
      v.servers.length ≤ m → v.remoteServers p.queryEndpoint = none ∧
        v.pendingServerConnections p.queryEndpoint = none ∧
        v'.pendingServerConnections p.queryEndpoint = some m := by
  have hv := sound_run hrun
  refine ⟨hv.disjoint, fun ep m h => ?_, fun event v' hs m p hp hm => ?_⟩
  · obtain hpending | hremote := h
    · obtain ⟨p, hp, hep, -⟩ := hv.pending ep m hpending
      exact ⟨p, hp, hep⟩
    · exact hv.remote ep m hremote
  · cases event with
    | heartBeat peers =>
      obtain rfl := Machine.eq_of_ite hs
      exact (extends_doHeartBeat fromString v peers).created m p hp hm
    | server j e =>
      obtain ⟨q, t, -, -, -, rfl⟩ := step_server hs
      have hlt := hp.lt
      rw [length_advance] at hlt
      omega

/-- Both connections to a peer are made. -/
def peerConnects (peer : IntraMeshPeerEntry) : List Event :=
  [.heartBeat [peer], .server 0 (.call (.assetConnected true)),
    .server 0 (.call (.queryConnected true)), .server 0 (.call .resume)]

/-- `address::from_string`, as far as the examples go. -/
def lookup (host : String) : Option UInt32 :=
  if host = "10.0.0.1" then some 0x0a000001
  else if host = "10.0.0.2" then some 0x0a000002
  else none

/-- The next heartbeat connects to a new peer and leaves the old one alone. -/
theorem one_server_per_peer_connected :
    ∃ v v', Machine.run (step lookup) {} (peerConnects ⟨"10.0.0.1", 32700, 32701⟩) = some v ∧
      step lookup v (.heartBeat [⟨"10.0.0.1", 32700, 32701⟩, ⟨"10.0.0.2", 32700, 32701⟩]) =
        some v' ∧
      v.servers.length = 1 ∧ v'.servers.length = 2 ∧ v.remoteServers ⟨0x0a000001, 32700⟩ = some 0 ∧
      v.pendingServerConnections ⟨0x0a000001, 32700⟩ = none ∧
      ∃ p, v'.Has 1 p ∧ p.queryEndpoint = ⟨0x0a000002, 32700⟩ ∧
        v.remoteServers p.queryEndpoint = none ∧
        v'.pendingServerConnections p.queryEndpoint = some 1 := by
  obtain ⟨v, hrun, hlength, hremote, hnext⟩ : ∃ v,
      Machine.run (step lookup) {} (peerConnects ⟨"10.0.0.1", 32700, 32701⟩) = some v ∧
      v.servers.length = 1 ∧ v.remoteServers ⟨0x0a000001, 32700⟩ = some 0 ∧
      ((step lookup v (.heartBeat [⟨"10.0.0.1", 32700, 32701⟩, ⟨"10.0.0.2", 32700, 32701⟩])).any
        fun v' =>
          v'.servers.map (·.queryEndpoint) = [⟨0x0a000001, 32700⟩, ⟨0x0a000002, 32700⟩]) = true :=
    Machine.exists_run_of_any (by decide +kernel)
  obtain ⟨v', hs, heps⟩ := Option.any_eq_true _ _ |>.mp hnext
  have heps := of_decide_eq_true heps
  have hlength' : v'.servers.length = 2 := by
    simpa using congrArg List.length heps
  obtain ⟨p, hp, hep⟩ : ∃ p, v'.Has 1 p ∧ p.queryEndpoint = ⟨0x0a000002, 32700⟩ :=
    Option.map_eq_some_iff.mp (List.getElem?_map.symm.trans (congrArg (·[1]?) heps))
  obtain ⟨hdisjoint, -, hcreated⟩ := one_server_per_peer hrun
  obtain ⟨hnone, -, hentry⟩ := hcreated _ v' hs 1 p hp hlength.le
  exact ⟨v, v', hrun, hs, hlength, hlength', hremote,
    (hdisjoint _).resolve_right (by simp [hremote]), p, hp, hep, hnone, hentry⟩

/-! ### Letting go -/

/-- An entry goes only in a step in which its own server calls the service. -/
lemma Sound.advance_remote (hv : Sound v) (hp : v.Has m p)
    (hallows : v.allows m p.session.server e = true) (hs : p.session.step e = some t)
    {ep : Endpoint} {j : ℕ} (hj : v.remoteServers ep = some j) :
    (v.advance m p t).remoteServers ep = some j ∨
      j = m ∧ t.Dead ∧ t.server.safeKills ≠ p.session.server.safeKills ∧
        (v.advance m p t).Has m { p with session := t } := by
  obtain ⟨hservers, hremote, -⟩ := resumed_servers v m p t
  have hkept : (v.resumed m p t).remoteServers ep = some j := by rw [hremote, hj]
  have hself : (v.resumed m p t).Has m { p with session := t } := by
    rw [Has, hservers]
    exact has_setServer_self hp
  simp only [IntraMeshService.advance]
  split_ifs with hkill hattempt
  · have hdead : t.Dead := dead_of_kill (hv.tracked m p hp) (hv.separate m p hp)
      (admits_of_allows hallows) hs hkill
    unfold IntraMeshService.safeKill
    split
    case h_1 hcallback =>
      rw [remoteServers_onSafeToKill]
      split_ifs with hep
      · exact .inr ⟨hv.own_entry hp hallows hs hkill hcallback (hep ▸ hj), hdead, hkill, hself⟩
      · exact .inl hkept
    case h_2 => exact .inl hkept
    case h_3 => exact .inl hkept
  · simp only [Bool.and_eq_true, Bool.not_eq_true'] at hattempt
    obtain ⟨-, hcallback⟩ := hv.attempt hp hallows hs hattempt.1 hattempt.2
    have hfree : v.remoteServers p.queryEndpoint = none :=
      (hv.disjoint _).resolve_left (by simp [hv.connecting m p hp hcallback])
    refine .inl ?_
    unfold onConnectAttemptCompleted
    split_ifs
    · exact (Function.update_of_ne (fun hep => by simp [hep, hfree] at hj) ..).trans hkept
    · exact hkept
  · exact .inl hkept

/-- While a server has a connect or an operation outstanding the service knows it, and a connected
server stays among the remote ones until it calls `onSafeToKill` itself, idle. -/
theorem let_go_only_when_idle {es : List Event}
    (hrun : Machine.run (IntraMeshService.step fromString) {} es = some v) :
    (∀ m p, v.Has m p → p.session.sockets ≠ {} ∨ p.session.server.assetConnecting = true ∨
        p.session.server.queryConnecting = true →
      v.pendingServerConnections p.queryEndpoint = some m ∨
        v.remoteServers p.queryEndpoint = some m ∨ m ∈ v.connectFailedServers) ∧
    ∀ event v', IntraMeshService.step fromString v event = some v' →
      ∀ ep m, v.remoteServers ep = some m → v'.remoteServers ep = some m ∨
        ∃ e p p', event = .server m e ∧ v.Has m p ∧ v'.Has m p' ∧
          p'.session.server.safeKills ≠ p.session.server.safeKills ∧ p'.session.sockets = {} := by
  have hv := sound_run hrun
  refine ⟨fun m p hp hbusy => ?_, fun event v' hs ep m hm => ?_⟩
  · have hnotDead : ¬ p.session.Dead := fun hdead => by
      obtain ⟨hasset, hquery⟩ := hdead.not_connecting (hv.tracked m p hp)
      simp [hdead.sockets, hasset, hquery] at hbusy
    cases hcallback : p.safeKillCallback with
    | none => exact .inl (hv.connecting m p hp hcallback)
    | some callback =>
      cases callback with
      | onSafeToKill =>
        exact .inr (.inl ((hv.live m p hp hcallback).resolve_right fun h => hnotDead h.1))
      | onConnectFailedSafekill =>
        exact .inr (.inr ((hv.failed m p hp hcallback).resolve_right hnotDead))
  · cases event with
    | heartBeat peers =>
      obtain rfl := Machine.eq_of_ite hs
      exact .inl ((congrFun (extends_doHeartBeat fromString v peers).remote ep).trans hm)
    | server j e =>
      obtain ⟨p, t, hp, hallows, hstep, rfl⟩ := step_server hs
      refine (hv.advance_remote hp hallows hstep hm).imp_right ?_
      rintro ⟨rfl, hdead, hkill, hself⟩
      exact ⟨e, p, _, rfl, hp, hself, hkill, hdead.sockets⟩

/-- Then the peer is lost: the asset read fails, and then the query read. -/
def peerIsLost (peer : IntraMeshPeerEntry) : List Event :=
  peerConnects peer ++ [.server 0 (.assetRead 0 none)] ++
    List.replicate 4 (.server 0 (.call .resume)) ++ [.server 0 (.queryRead none)] ++
    List.replicate 3 (.server 0 (.call .resume))

theorem let_go_only_when_idle_lost :
    ∃ v v', Machine.run (step lookup) {} (peerIsLost ⟨"10.0.0.1", 32700, 32701⟩) = some v ∧
      step lookup v (.server 0 (.call .resume)) = some v' ∧
      v.remoteServers ⟨0x0a000001, 32700⟩ = some 0 ∧
      v'.remoteServers ⟨0x0a000001, 32700⟩ = none ∧ ∃ p, v'.Has 0 p ∧ p.session.sockets = {} := by
  obtain ⟨v, hrun, hremote, hnext⟩ : ∃ v,
      Machine.run (step lookup) {} (peerIsLost ⟨"10.0.0.1", 32700, 32701⟩) = some v ∧
      v.remoteServers ⟨0x0a000001, 32700⟩ = some 0 ∧
      ((step lookup v (.server 0 (.call .resume))).any fun v' =>
        v'.remoteServers ⟨0x0a000001, 32700⟩ = none) = true :=
    Machine.exists_run_of_any (by decide +kernel)
  obtain ⟨v', hs, hgone⟩ := Option.any_eq_true _ _ |>.mp hnext
  have hgone := of_decide_eq_true hgone
  obtain ⟨-, hleaves⟩ := let_go_only_when_idle hrun
  obtain hstays | ⟨e, p, p', -, -, hp', -, hidle⟩ := hleaves _ v' hs _ _ hremote
  · simp [hgone] at hstays
  · exact ⟨v, v', hrun, hs, hremote, hgone, p', hp', hidle⟩

end IntraMeshService

end Whip
