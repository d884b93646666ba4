import TenantStore.Database
import TenantStore.Proofs.Session.Calm
import TenantStore.Proofs.Session.Waiters
import Mathlib.Data.List.Perm.Subperm

/-!
# Tables do not depend on one another

No step of an attempt at one table touches the entry, the waiters or the outcome of another
(`step_frame`). A call for all tables stands for one call for each (`Group`): it succeeds when all
of these have, with every table there, and fails with the first of them to fail
(`firstFailure?_iff`). `tables_independent` says this for all runs without cancellation.
-/

namespace TenantStore

/-- A step of an attempt: its program goes on, its reply comes, or it is settled. -/
def Move.IsStepOf (a : Nat) (m : Move) : Prop :=
  m = .run (.run a) ∨ m = .reply a ∨ m = .run (.settle a)

namespace Session

/-- Nothing is different that belongs to another table: no count of waiters, no other entry of the
cache, no result of another task, and no task that does not wait for the attempt. -/
structure Spares (a : Nat) (key : String) (s s' : Session) : Prop where
  waiters : s'.waiters = s.waiters
  cache : ∀ key', key' ≠ key → Assoc.get? key' s'.cache = Assoc.get? key' s.cache
  results : ∀ b, b ≠ a → s'.result? b = s.result? b
  tasks : ∀ b u, b ≠ a → s.task? b = some u → (u.key.isSome ∨ u.phase.attempt? ≠ some a) →
    s'.task? b = some u

variable {w : World} {s s₀ s' : Session} {m : Move} {ms : List Move} {i k a c : Nat}
  {t t' u : Task} {key : String} {tables : List (String × Table)} {calls news : List Nat}
  {f : Task → Task} {r : Except Failure Data}

-- ---------------------------------------------------------------------------
-- One attempt's steps
-- ---------------------------------------------------------------------------

theorem Spares.of_modify (tasks : s'.tasks = s.tasks.modify a f) (cache : s'.cache = s.cache)
    (waiters : s'.waiters = s.waiters) : Spares a key s s' where
  waiters := waiters
  cache _ _ := by rw [cache]
  results b hb := by rw [result?, task?_other tasks (Ne.symm hb), result?]
  tasks b u hb hu _ := (task?_other tasks (Ne.symm hb)).trans hu

theorem Spares.refl (s : Session) : Spares a key s s where
  waiters := rfl
  cache _ _ := rfl
  results _ _ := rfl
  tasks _ _ _ hu _ := hu

theorem Spares.before (h : Spares a key s₀ s') (tasks : s₀.tasks = s.tasks)
    (cache : s₀.cache = s.cache) (waiters : s₀.waiters = s.waiters) : Spares a key s s' := by
  obtain ⟨ts, ready, cs, ws, closed, parked, ended, sent, events⟩ := s₀
  subst tasks cache waiters
  exact ⟨h.waiters, h.cache, h.results, h.tasks⟩

/-- An attempt has its own program to run and nothing else. -/
theorem runTask_spares (h : Sound s) (ht : s.task? a = some t) (hk : t.key.isSome) :
    Spares a key s (s.runTask w a) := by
  have call := h.key_eq_none ht
  unfold runTask
  rw [ht]
  cases hp : t.phase <;> simp only [Option.map_some, hp]
  case ready body =>
    obtain ⟨p, qs, -, hst⟩ := advance_stretch w a body s
    exact .of_modify hst.tasks hst.cache hst.waiters
  case held | joined | gathered | finished => exact .refl s
  all_goals simp [call (by simp [hp]) (by simp [hp]) (by simp [hp])] at hk

theorem deliver_spares (a : Nat) (s : Session) : Spares a key s (s.deliver a) := by
  refine .of_modify (tasks_deliver s a) ?_ ?_
  · unfold deliver
    split <;> rfl
  · unfold deliver
    split <;> rfl

theorem waiters_foldl_tell (a : Nat) (o : Except Failure Data) (ids : List Nat) (s : Session) :
    (ids.foldl (tell a o) s).waiters = s.waiters := by
  induction ids generalizing s with
  | nil => rfl
  | cons i ids ih =>
    refine (ih _).trans ?_
    unfold tell
    split
    · split <;> rfl
    · rfl

theorem heard_of_attempt? (h : t.phase.attempt? ≠ some a) : t.heard a r = t := by
  unfold Task.heard
  split
  · rename_i b body hp
    rw [hp] at h
    exact if_neg fun hba => h (congrArg some hba)
  · rfl

theorem settle_spares (h : Sound s) (ha : s.IsAttempt key a) : Spares a key s (s.settle a) := by
  by_cases hends : ∃ k c o, s.task? a = some ⟨some k, c, .finished o⟩
  · obtain ⟨k, c, o, hu⟩ := hends
    obtain ⟨v, hv, hkv⟩ := ha
    obtain rfl := Option.some.inj (hu.symm.trans hv)
    obtain rfl := Option.some.inj hkv
    obtain ⟨events, heq⟩ := forget_eq a k o s
    have hsettle : s.settle a = (List.range s.tasks.length).foldl (tell a o) (s.forget a k o) := by
      simp only [settle, hu]
    refine ⟨?_, fun key' hne => ?_, fun b _ => ?_, fun b u _ hu' hwaits => ?_⟩
    · rw [hsettle, waiters_foldl_tell, heq]
    · rw [hsettle, cache_foldl_tell, heq]
      simp only
      split
      · rfl
      · split
        · rw [Assoc.get?_erase, if_neg hne]
        · rfl
    · rw [result?, task?_settle hu, result?]
      cases s.task? b with
      | none => rfl
      | some u => exact (heard_same a o u).2
    · rw [task?_settle hu, hu']
      refine congrArg some (heard_of_attempt? ?_)
      rcases hwaits with hkey | hne
      · simp [attempt?_of_attemptStands (h.attempt b u hu' hkey)]
      · exact hne
  · have heq : s.settle a = s := by
      unfold settle
      split
      · rename_i k c o hu
        exact absurd ⟨k, c, o, hu⟩ hends
      · rfl
    rw [heq]
    exact .refl s

theorem step_spares (h : Invariant s) (ha : s.IsAttempt key a) (hm : m.IsStepOf a) :
    Spares a key s (s.move w m) := by
  obtain ⟨t, ht, hk⟩ := ha
  rcases hm with rfl | rfl | rfl
  · simp only [move]
    split
    · have hrest : Invariant { s with ready := s.ready.erase (.run a) } := h.of_eq rfl rfl rfl
      exact (runTask_spares hrest.toSound ht (by simp [hk])).before rfl rfl rfl
    · exact .refl s
  · exact (deliver_spares a _).before rfl rfl rfl
  · simp only [move]
    split
    · have hrest : Invariant { s with ready := s.ready.erase (.settle a) } := h.of_eq rfl rfl rfl
      exact (settle_spares hrest.toSound ⟨t, ht, hk⟩).before rfl rfl rfl
    · exact .refl s

-- ---------------------------------------------------------------------------
-- The calls of a group
-- ---------------------------------------------------------------------------

def results (calls : List Nat) (s : Session) : List (Except Failure Data) :=
  (s.ended.filter calls.contains).filterMap fun c => s.result? c

def firstFailure? (calls : List Nat) (s : Session) : Option (Except Failure Data) :=
  (s.results calls).find? fun r => r.toOption.isNone

theorem outcome?_gathered (ht : s.task? i = some t) (hp : t.phase = .gathered calls) :
    s.outcome? i = (s.firstFailure? calls).or
      (if (s.results calls).length = calls.length then some (.ok .null) else none) := by
  unfold outcome?
  simp only [ht, Option.map_some, hp]
  split
  · rename_i r hr
    rw [show s.firstFailure? calls = some r from hr]
    rfl
  · rename_i hr
    rw [show s.firstFailure? calls = none from hr]
    rfl

theorem mem_results (h : Recorded s) :
    r ∈ s.results calls ↔ ∃ c ∈ calls, s.result? c = some r := by
  simp only [results, List.mem_filterMap, List.mem_filter, List.contains_iff_mem]
  constructor
  · rintro ⟨c, ⟨-, hc⟩, hr⟩
    exact ⟨c, hc, hr⟩
  · rintro ⟨c, hc, hr⟩
    exact ⟨c, ⟨(h.mem c).mpr (by simp [hr]), hc⟩, hr⟩

def Fails (calls : List Nat) (s : Session) : Prop :=
  ∃ c ∈ calls, ∃ e, s.result? c = some (.error e)

theorem fails_of_firstFailure? (h : Recorded s) (hr : s.firstFailure? calls = some r) :
    ∃ e, r = .error e ∧ s.Fails calls := by
  obtain ⟨c, hc, hrc⟩ := (mem_results h).mp (List.mem_of_find?_eq_some hr)
  have herror := List.find?_some hr
  cases r with
  | ok v => simp [Except.toOption] at herror
  | error e => exact ⟨e, rfl, c, hc, e, hrc⟩

theorem firstFailure?_eq_none (h : Recorded s) :
    s.firstFailure? calls = none ↔ ¬ s.Fails calls := by
  constructor
  · rintro hnone ⟨c, hc, e, hr⟩
    have hmem : .error e ∈ s.results calls := (mem_results h).mpr ⟨c, hc, hr⟩
    simpa [Except.toOption] using List.find?_eq_none.mp hnone _ hmem
  · intro hno
    cases hr : s.firstFailure? calls with
    | none => rfl
    | some r =>
      obtain ⟨e, -, hfails⟩ := fails_of_firstFailure? h hr
      exact absurd hfails hno

theorem results_step (h : Recorded s) (hstep : CalmStep news s s') : s'.results calls =
    s.results calls ++ (news.filter calls.contains).filterMap fun c => s'.result? c := by
  unfold results
  rw [hstep.ended, List.filter_append, List.filterMap_append]
  refine congrArg (· ++ _) (List.filterMap_congr fun c hc => ?_)
  have hended : c ∈ s.ended := (List.mem_filter.mp hc).1
  refine hstep.rest c fun hnew => ?_
  simpa [(hstep.new c hnew).1] using (h.mem c).mp hended

theorem firstFailure?_step (h : Recorded s) (hstep : CalmStep news s s')
    (hr : s.firstFailure? calls = some r) : s'.firstFailure? calls = some r := by
  unfold firstFailure? at hr ⊢
  rw [results_step h hstep, List.find?_append, hr]
  rfl

theorem firstFailure?_new (h : Recorded s) (hstep : CalmStep news s s') (hno : ¬ s.Fails calls)
    (hc : c ∈ calls) (hr : s'.result? c = some (.error e)) :
    s'.firstFailure? calls = some (.error e) ∧
      ∀ c' ∈ calls, ∀ e', s'.result? c' = some (.error e') → c' = c := by
  have hnew : ∀ c' ∈ calls, ∀ e', s'.result? c' = some (.error e') → c' ∈ news := by
    intro c' hc' e' hr'
    by_contra hrest
    exact hno ⟨c', hc', e', (hstep.rest c' hrest).symm.trans hr'⟩
  obtain rfl := hstep.eq_singleton (hnew c hc e hr)
  refine ⟨?_, fun c' hc' e' hr' => List.mem_singleton.mp (hnew c' hc' e' hr')⟩
  have hnone := (firstFailure?_eq_none h).mpr hno
  unfold firstFailure? at hnone ⊢
  rw [results_step h hstep, List.find?_append, hnone]
  simp [hc, hr, Except.toOption]

def FailsFirst (w : World) (s : Session) (ms : List Move) (calls : List Nat) (c : Nat)
    (e : Failure) : Prop :=
  ∃ before m after, ms = before ++ m :: after ∧ ¬ (s.moves w before).Fails calls ∧
    (s.moves w (before ++ [m])).result? c = some (.error e) ∧
    ∀ c' ∈ calls, ∀ e', (s.moves w (before ++ [m])).result? c' = some (.error e') → c' = c

theorem Undisturbed.firstFailure?_moves (h : Undisturbed s) (hms : ∀ i, .cancel i ∉ ms)
    (hr : s.firstFailure? calls = some r) : (s.moves w ms).firstFailure? calls = some r := by
  induction ms generalizing s with
  | nil => exact hr
  | cons m ms ih =>
    have hm : ∀ i, m ≠ .cancel i := fun i => (not_cancel_of_cons (hms i)).1
    obtain ⟨news, hstep⟩ := move_calm (w := w) h.toInvariant h.calm hm
    exact ih (h.move hm) (fun i => (not_cancel_of_cons (hms i)).2)
      (firstFailure?_step h.toRecorded hstep hr)

theorem Undisturbed.firstFailure?_iff (h : Undisturbed s) (hms : ∀ i, .cancel i ∉ ms)
    (hno : ¬ s.Fails calls) : (s.moves w ms).firstFailure? calls = some (.error e) ↔
      ∃ c ∈ calls, FailsFirst w s ms calls c e := by
  induction ms generalizing s with
  | nil =>
    refine iff_of_false ?_ ?_
    · rw [show s.moves w [] = s from rfl, (firstFailure?_eq_none h.toRecorded).mpr hno]
      nofun
    · rintro ⟨c, -, before, m, after, hms, -⟩
      simp at hms
  | cons m ms ih =>
    have hm : ∀ i, m ≠ .cancel i := fun i => (not_cancel_of_cons (hms i)).1
    have hrest : ∀ i, .cancel i ∉ ms := fun i => (not_cancel_of_cons (hms i)).2
    have hmove : Undisturbed (s.move w m) := h.move hm
    obtain ⟨news, hstep⟩ := move_calm (w := w) h.toInvariant h.calm hm
    by_cases hfails : (s.move w m).Fails calls
    · -- the first failure is the one of this move
      obtain ⟨c, hc, e', hr⟩ := hfails
      obtain ⟨hfirst, honly⟩ := firstFailure?_new h.toRecorded hstep hno hc hr
      have hlast := hmove.firstFailure?_moves (w := w) hrest hfirst
      rw [moves_cons, hlast]
      constructor
      · rintro heq
        obtain rfl := Except.error.inj (Option.some.inj heq)
        exact ⟨c, hc, [], m, ms, rfl, hno, hr, honly⟩
      · rintro ⟨c', hc', before, m', after, heq, hbefore, hr', -⟩
        cases before with
        | nil =>
          obtain ⟨rfl, rfl⟩ := List.cons.inj heq
          obtain rfl := honly c' hc' e hr'
          exact hr.symm.trans hr'
        | cons m₀ before =>
          obtain ⟨rfl, rfl⟩ := List.cons.inj heq
          have hpart : ∀ i, .cancel i ∉ before := fun i hi =>
            hrest i (List.mem_append_left _ hi)
          have hstays := hmove.firstFailure?_moves (w := w) hpart hfirst
          obtain ⟨-, -, hfails⟩ := fails_of_firstFailure? (hmove.moves hpart).toRecorded hstays
          exact absurd hfails hbefore
    · rw [moves_cons, ih hmove hrest hfails]
      constructor
      · rintro ⟨c, hc, before, m', after, rfl, hbefore, hr⟩
        exact ⟨c, hc, m :: before, m', after, rfl, hbefore, hr⟩
      · rintro ⟨c, hc, before, m', after, heq, hbefore, hr, honly⟩
        cases before with
        | nil =>
          obtain ⟨rfl, rfl⟩ := List.cons.inj heq
          exact absurd ⟨c, hc, e, hr⟩ hfails
        | cons m₀ before =>
          obtain ⟨rfl, rfl⟩ := List.cons.inj heq
          exact ⟨c, hc, before, m', after, rfl, hbefore, hr, honly⟩

-- ---------------------------------------------------------------------------
-- All calls of a group
-- ---------------------------------------------------------------------------

/-- As many results as calls means that all calls have ended. -/
theorem Recorded.length_results (h : Recorded s) (hcalls : calls.Nodup) :
    (s.results calls).length = calls.length ↔ ∀ c ∈ calls, (s.result? c).isSome := by
  have hnodup : (s.ended.filter calls.contains).Nodup := h.nodup.filter _
  have hsub : s.ended.filter calls.contains ⊆ calls := fun c hc => by
    simpa using (List.mem_filter.mp hc).2
  constructor
  · intro hlen c hc
    have hle : calls.length ≤ (s.ended.filter calls.contains).length :=
      hlen ▸ List.length_filterMap_le ..
    have hperm := (List.subperm_of_subset hnodup hsub).perm_of_length_le hle
    exact (h.mem c).mp (List.mem_filter.mp (hperm.mem_iff.mpr hc)).1
  · intro hall
    have hperm : (s.ended.filter calls.contains).Perm calls := by
      refine (List.perm_ext_iff_of_nodup hnodup hcalls).mpr fun c => ⟨@hsub c, fun hc => ?_⟩
      exact List.mem_filter.mpr ⟨(h.mem c).mpr (hall c hc), by simpa using hc⟩
    rw [results, List.filterMap_length_eq_length.mpr, hperm.length_eq]
    exact fun c hc => hall c (hsub hc)

def Fares (w : World) (s : Session) (i : Nat) (name : String) : Prop :=
  s.Fresh i name ∨ (s.isProvisioned w.ns name ∧ s.Bound i (.ok .null)) ∨
    ∃ a, s.IsAttempt (Namespace.tableKey w.ns name) a ∧ s.Follows i a

theorem Invariant.isProvisioned_move (h : Invariant s) (m : Move)
    (hprov : s.isProvisioned ns name) : (s.move w m).isProvisioned ns name := by
  obtain ⟨⟨a, t⟩, hcached, hsucc⟩ := (Option.any_eq_true ..).mp hprov
  obtain ⟨hget, ht⟩ := cached?_eq_some hcached
  obtain ⟨u, hu, hk⟩ := h.cached _ a hget
  obtain rfl := Option.some.inj (hu.symm.trans ht)
  obtain ⟨t', ht', hadv⟩ := (move_effect (w := w) h m).old a u hu
  exact (h.move m).isProvisioned ht' (hadv.onward.key.trans hk) (hadv.onward.succeeded hsucc)

theorem Invariant.fares_move (h : Invariant s) (hf : Fares w s i name) (hm : m ≠ .cancel i) :
    Fares w (s.move w m) i name := by
  rcases hf with hfresh | ⟨hprov, hb⟩ | ⟨a, ha, hfol⟩
  · rcases h.fresh_move (w := w) hfresh hm with hfresh | ⟨hprov, hb⟩ | ⟨a, ha, hfol, -⟩
    · exact .inl hfresh
    · exact .inr (.inl ⟨h.isProvisioned_move m hprov, hb⟩)
    · exact .inr (.inr ⟨a, ha, hfol⟩)
  · exact .inr (.inl ⟨h.isProvisioned_move m hprov, h.bound_move hb hm⟩)
  · exact .inr (.inr ⟨a, h.isAttempt_move m ha, h.follows_move hfol hm⟩)

/-- A call for all tables is yet to begin, or stands for one call for each table. -/
inductive Group (w : World) (s : Session) (i : Nat) (tables : List (String × Table)) : Prop
  | waits {t : Task} (ht : s.task? i = some t) (hp : t.phase = .gathering tables)
  | stands {t : Task} {first : Nat} (ht : s.task? i = some t)
      (hp : t.phase = .gathered (List.range' first tables.length))
      (calls : ∀ k e, tables[k]? = some e → Fares w s (first + k) e.1)

/-- A task that stands for others changes only by its own step, which starts their calls. -/
theorem Undisturbed.gathering_move (h : Undisturbed s) (hm : ∀ i, m ≠ .cancel i)
    (ht : s.task? i = some t) (hp : t.phase = .gathering tables) :
    (s.move w m).task? i = some t ∨
      s.move w m = Session.gather i tables { s with ready := s.ready.erase (.run i) } := by
  have hwoken : t.woken = t := by simp [Task.woken, hp]
  cases m with
  | start c own => exact .inl ((List.getElem?_append_left (lt_of_task? ht)).trans ht)
  | cancel j => exact absurd rfl (hm j)
  | run j =>
    simp only [Session.move]
    split
    · have hrest : Invariant { s with ready := s.ready.erase j } := h.toInvariant.of_eq rfl rfl rfl
      cases j with
      | settle a =>
        have hstays : ∀ s : Session, s.task? i = some t → (s.settle a).task? i = some t := by
          intro s ht
          by_cases hu : ∃ key c o, s.task? a = some ⟨some key, c, .finished o⟩
          · obtain ⟨key, c, o, hu⟩ := hu
            rw [task?_settle hu, ht]
            exact congrArg some (heard_of_attempt? (by simp [hp, Phase.attempt?]))
          · unfold settle
            split
            · rename_i key c o hu'
              exact absurd ⟨key, c, o, hu'⟩ hu
            · exact ht
        exact .inl (hstays _ ht)
      | run k =>
        by_cases hki : i = k
        · subst hki
          refine .inr ?_
          show runTask w i _ = _
          unfold runTask
          rw [show task? i { s with ready := s.ready.erase (.run i) } = some t from ht]
          simp only [Option.map_some, hp]
        · refine .inl ?_
          rcases runTask_calm (w := w) hrest h.calm k with heq | ⟨u, p, added, -, -, hstep⟩
          · rw [runJob, heq]
            exact ht
          · exact (hstep.task?_old ht).trans (congrArg some (if_neg hki))
    · exact .inl ht
  | reply j =>
    refine .inl ?_
    rw [Session.move, task?_of_modify (tasks_deliver _ j)]
    split
    · exact (congrArg (Option.map Task.woken) ht).trans (congrArg some hwoken)
    · exact ht
  | hold e => exact .inl ht
  | release e =>
    refine .inl ?_
    rw [Session.move, task?_release, ht]
    split
    · exact congrArg some hwoken
    · rfl

theorem gather_group (ht : s.task? i = some t) : Group w (s.gather i tables) i tables := by
  have hstep := gather_ownStep i tables s
  have hi := hstep.task?_old ht
  rw [if_pos rfl] at hi
  refine .stands hi rfl fun k e he =>
    .inl ⟨⟨none, false, .fresh e.1 e.2 ensured⟩, e.2, ?_, rfl, rfl, rfl⟩
  exact task?_gather ht he

theorem Group.move (h : Undisturbed s) (hm : ∀ i, m ≠ .cancel i) (hg : Group w s i tables) :
    Group w (s.move w m) i tables := by
  cases hg with
  | waits ht hp =>
    rcases h.gathering_move (w := w) hm ht hp with hstays | heq
    · exact .waits hstays hp
    · rw [heq]
      exact gather_group (s := { s with ready := s.ready.erase (.run i) }) ht
  | stands ht hp calls =>
    obtain ⟨t', ht', hadv⟩ := (move_effect (w := w) h.toInvariant m).old i _ ht
    have hcalls : ∀ k e, tables[k]? = some e → Fares w (s.move w m) (_ + k) e.1 := fun k e he =>
      h.toInvariant.fares_move (calls k e he) (hm _)
    refine .stands ht' ?_ hcalls
    cases hadv with
    | stays => exact hp
    | cancelled _ h => exact absurd h (hm i)
    | abandoned => simp [Task.calledOff, hp]
    | served _ hp' | joins _ hp' | spreads _ hp' | works hp' | hears _ hp' | goesOn _ hp'
    | ends _ hp' | wakes hp' => simp [hp] at hp'

theorem Group.moves (h : Undisturbed s) (hms : ∀ i, .cancel i ∉ ms) (hg : Group w s i tables) :
    Group w (s.moves w ms) i tables := by
  induction ms generalizing s with
  | nil => exact hg
  | cons m ms ih =>
    have hm : ∀ i, m ≠ .cancel i := fun i => (not_cancel_of_cons (hms i)).1
    exact ih (h.move hm) (fun i => (not_cancel_of_cons (hms i)).2) (hg.move h hm)

-- ---------------------------------------------------------------------------
-- The outcome of a group
-- ---------------------------------------------------------------------------

theorem Invariant.result?_moves (h : Invariant s) (ms : List Move) (hr : s.result? a = some r) :
    (s.moves w ms).result? a = some r := by
  induction ms generalizing s with
  | nil => exact hr
  | cons m ms ih => exact ih (h.move m) (h.result?_move m hr)

theorem Fresh.result? (h : s.Fresh i name) : s.result? i = none := by
  obtain ⟨t, table, ht, -, -, hp⟩ := h
  simp [Session.result?, ht, Task.result?, hp]

theorem Fares.error (h : Fares w s i name) (hr : s.result? i = some (.error e)) :
    ∃ a, s.IsAttempt (Namespace.tableKey w.ns name) a ∧ s.result? a = some (.error e) := by
  rcases h with hfresh | ⟨-, hb⟩ | ⟨a, ha, hfol⟩
  · simp [hfresh.result?] at hr
  · cases hb.result? hr
  · exact ⟨a, ha, (hfol.result? hr).1⟩

theorem Fares.ok (h : Fares w s i name) (hinv : Invariant s) (hr : s.result? i = some (.ok v)) :
    s.isProvisioned w.ns name := by
  rcases h with hfresh | ⟨hprov, -⟩ | ⟨a, ⟨t, ht, hk⟩, hfol⟩
  · simp [hfresh.result?] at hr
  · exact hprov
  · obtain ⟨hra, -⟩ := hfol.result? hr
    simp only [Session.result?, ht, Option.bind_some] at hra
    exact hinv.isProvisioned ht hk (by simp [Task.succeeded, Task.result?_eq_some.mp hra])

theorem Fares.ends (h : Fares w (empty.moves w ms) i name) (hidle : (empty.moves w ms).Idle) :
    ∃ r, (empty.moves w ms).result? i = some r := by
  rcases h with hfresh | ⟨-, hb⟩ | ⟨a, -, hfol⟩
  · exact hfresh.ends hidle
  · exact hb.ends hidle
  · exact hfol.ends hidle

theorem Group.succeeds (hg : Group w s i tables) (h : Undisturbed s)
    (ho : s.outcome? i = some (.ok v)) : ∀ e ∈ tables, s.isProvisioned w.ns e.1 := by
  cases hg with
  | waits ht hp => simp [outcome?, ht, hp] at ho
  | stands ht hp calls =>
    rename_i t first
    rw [outcome?_gathered ht hp] at ho
    have hnone : s.firstFailure? (List.range' first tables.length) = none := by
      cases hf : s.firstFailure? (List.range' first tables.length) with
      | none => rfl
      | some r =>
        obtain ⟨e, rfl, -⟩ := fails_of_firstFailure? h.toRecorded hf
        simp [hf] at ho
    rw [hnone, Option.none_or] at ho
    split at ho
    · rename_i hlen
      have hall := (h.toRecorded.length_results List.nodup_range').mp hlen
      intro e he
      obtain ⟨k, hk⟩ := List.mem_iff_getElem?.mp he
      have hmem : first + k ∈ List.range' first tables.length := by
        obtain ⟨hlt, -⟩ := List.getElem?_eq_some_iff.mp hk
        exact List.mem_range'_1.mpr ⟨Nat.le_add_right .., Nat.add_lt_add_left hlt _⟩
      obtain ⟨r, hr⟩ := Option.isSome_iff_exists.mp (hall _ hmem)
      cases r with
      | ok v => exact (calls k e hk).ok h.toInvariant hr
      | error e' =>
        exact absurd ⟨_, hmem, e', hr⟩ ((firstFailure?_eq_none h.toRecorded).mp hnone)
    · cases ho

/-- In the run the first to fail of the calls that stand for the tables is this table's. -/
def FirstToFail (w : World) (ms : List Move) (i : Nat) (tables : List (String × Table))
    (name : String) (e : Failure) : Prop :=
  ∃ t first k table, (empty.moves w ms).task? i = some t ∧
    t.phase = .gathered (List.range' first tables.length) ∧ tables[k]? = some (name, table) ∧
    FailsFirst w empty ms (List.range' first tables.length) (first + k) e

theorem Group.fails_iff (hg : Group w (empty.moves w ms) i tables) (hms : ∀ i, .cancel i ∉ ms) :
    (empty.moves w ms).outcome? i = some (.error e) ↔
      ∃ name a, FirstToFail w ms i tables name e ∧
        (empty.moves w ms).IsAttempt (Namespace.tableKey w.ns name) a ∧
        (empty.moves w ms).result? a = some (.error e) := by
  cases hg with
  | waits ht hp =>
    refine iff_of_false (by simp [outcome?, ht, hp]) ?_
    rintro ⟨name, a, ⟨t', first, k, table, ht', hp', -⟩, -⟩
    obtain rfl := Option.some.inj (ht.symm.trans ht')
    simp [hp] at hp'
  | stands ht hp calls =>
    rename_i t first
    have hno : ¬ empty.Fails (List.range' first tables.length) := by
      rintro ⟨c, -, e, hr⟩
      simp [Session.empty, Session.result?, task?] at hr
    have hfirst := Undisturbed.empty.firstFailure?_iff (w := w) (e := e) hms hno
    have ho : (empty.moves w ms).outcome? i = some (.error e) ↔
        (empty.moves w ms).firstFailure? (List.range' first tables.length) = some (.error e) := by
      rw [outcome?_gathered ht hp]
      cases (empty.moves w ms).firstFailure? (List.range' first tables.length) with
      | some r => rfl
      | none =>
        rw [Option.none_or]
        split <;> simp
    rw [ho, hfirst]
    constructor
    · rintro ⟨c, hc, hfails⟩
      obtain ⟨hle, hlt⟩ := List.mem_range'_1.mp hc
      obtain ⟨k, rfl⟩ := Nat.exists_eq_add_of_le hle
      have hk : k < tables.length := by omega
      have hget : tables[k]? = some (tables[k].1, tables[k].2) := List.getElem?_eq_getElem hk
      -- the call has failed by the end of the run as well
      have hr : (empty.moves w ms).result? (first + k) = some (.error e) := by
        obtain ⟨before, m, after, rfl, -, hr, -⟩ := hfails
        have hlater := (Invariant.reachable w (before ++ [m])).result?_moves (w := w) after hr
        rwa [← moves_append, List.append_assoc] at hlater
      obtain ⟨a, ha, hra⟩ := (calls k _ hget).error hr
      exact ⟨tables[k].1, a, ⟨t, first, k, tables[k].2, ht, hp, hget, hfails⟩, ha, hra⟩
    · rintro ⟨name, a, ⟨t', first', k, table, ht', hp', hget, hfails⟩, -⟩
      obtain rfl := Option.some.inj (ht.symm.trans ht')
      have heq := Phase.gathered.inj (hp.symm.trans hp')
      obtain ⟨hk, -⟩ := List.getElem?_eq_some_iff.mp hget
      refine ⟨first' + k, ?_, heq ▸ hfails⟩
      rw [heq]
      exact List.mem_range'_1.mpr ⟨Nat.le_add_right .., Nat.add_lt_add_left hk _⟩

theorem Group.ends (hg : Group w (empty.moves w ms) i tables) (h : Undisturbed (empty.moves w ms))
    (hidle : (empty.moves w ms).Idle) : ∃ r, (empty.moves w ms).outcome? i = some r := by
  cases hg with
  | waits ht hp =>
    obtain ⟨r, hr⟩ := ends_of_idle hidle ht (by simp [hp])
    simp [Session.result?, ht, Task.result?, hp] at hr
  | stands ht hp calls =>
    rename_i t first
    have hall : ∀ c ∈ List.range' first tables.length,
        ((empty.moves w ms).result? c).isSome := by
      intro c hc
      obtain ⟨hle, hlt⟩ := List.mem_range'_1.mp hc
      obtain ⟨k, rfl⟩ := Nat.exists_eq_add_of_le hle
      have hk : k < tables.length := by omega
      obtain ⟨r, hr⟩ := (calls k _ (List.getElem?_eq_getElem hk)).ends hidle
      simp [hr]
    rw [outcome?_gathered ht hp, if_pos ((h.toRecorded.length_results List.nodup_range').mpr hall)]
    cases (empty.moves w ms).firstFailure? (List.range' first tables.length) with
    | some r => exact ⟨r, rfl⟩
    | none => exact ⟨.ok .null, rfl⟩

def Starts (w : World) (ms : List Move) (call : Call) (i : Nat) : Prop :=
  ∃ before after own, ms = before ++ .start call own :: after ∧
    i = (empty.moves w before).tasks.length

theorem Starts.group (h : Starts w ms (.everything tables) i) (hms : ∀ i, .cancel i ∉ ms) :
    Group w (empty.moves w ms) i tables := by
  obtain ⟨before, after, own, rfl, hi⟩ := h
  have hbefore : ∀ i, .cancel i ∉ before := fun i hi => hms i (List.mem_append_left _ hi)
  have hafter : ∀ i, .cancel i ∉ after := fun i hi =>
    hms i (List.mem_append_right _ (List.mem_cons_of_mem _ hi))
  have hstart : Undisturbed ((empty.moves w before).move w (.start (.everything tables) own)) :=
    (Undisturbed.empty.moves hbefore).move (by simp)
  rw [moves_append, moves_cons]
  refine Group.moves hstart hafter (.waits (t := ⟨none, false, .gathering tables⟩) ?_ rfl)
  rw [task?_of_append rfl, if_pos hi]

-- ---------------------------------------------------------------------------
-- Attempts
-- ---------------------------------------------------------------------------

theorem attempt_ends (h : Undisturbed (empty.moves w ms)) (hidle : (empty.moves w ms).Idle)
    (ht : (empty.moves w ms).task? a = some t) (hk : t.key.isSome) :
    ∃ r name table, t.key = some (Namespace.tableKey w.ns name) ∧
      (empty.moves w ms).result? a = some r ∧
      (attemptWork w name table).After (exchanges w a ms empty) (.done r) := by
  obtain ⟨name, table, hkey, -, -, hcome⟩ := attempt_onItsWay w ms ht hk
  have hcome := hcome (h.calm a t ht)
  obtain ⟨r, hr⟩ := ends_of_idle hidle ht fun children hp => by simp [hp, HasCome] at hcome
  have hrt : t.result? = some r := by simpa [Session.result?, ht] using hr
  rw [Task.result?_eq_some.mp hrt] at hcome
  exact ⟨r, name, table, hkey, hr, hcome⟩

/-- A table is there exactly if one of its own attempts has succeeded. -/
theorem Invariant.isProvisioned_iff (h : Invariant s) : s.isProvisioned ns name ↔
    ∃ a t, s.task? a = some t ∧ t.key = some (Namespace.tableKey ns name) ∧ t.succeeded := by
  constructor
  · intro hprov
    obtain ⟨⟨a, t⟩, hcached, hsucc⟩ := (Option.any_eq_true ..).mp hprov
    obtain ⟨hget, ht⟩ := cached?_eq_some hcached
    obtain ⟨u, hu, hk⟩ := h.cached _ a hget
    obtain rfl := Option.some.inj (hu.symm.trans ht)
    exact ⟨a, u, hu, hk, hsucc⟩
  · rintro ⟨a, t, ht, hk, hsucc⟩
    exact h.isProvisioned ht hk hsucc

/-- Where nothing is cancelled, the steps of an attempt spare all other tables, a call for all
tables succeeds only with every table there and fails as the first of them, no attempt is called
off, and in the end those tables are there of which an attempt has succeeded. -/
theorem tables_independent (d : Database) (reply : List Request → Request → Reply) (ms : List Move)
    (hms : ∀ i, .cancel i ∉ ms) :
    let s := empty.moves (d.world reply) ms
    (∀ a key m, s.IsAttempt key a → m.IsStepOf a → Spares a key s (s.move (d.world reply) m)) ∧
    (∀ i, Starts (d.world reply) ms d.provisionAll i →
      (∀ v, s.outcome? i = some (.ok v) → ∀ e ∈ d.schema.tables, s.isProvisioned d.ns e.1) ∧
      (∀ e, s.outcome? i = some (.error e) ↔
        ∃ name a, FirstToFail (d.world reply) ms i d.schema.tables name e ∧
          s.IsAttempt (Namespace.tableKey d.ns name) a ∧ s.result? a = some (.error e)) ∧
      (s.Idle → ∃ r, s.outcome? i = some r)) ∧
    (∀ a t, s.task? a = some t → t.key.isSome → t.cancelling = false ∧
      (s.Idle → ∃ r name table, t.key = some (Namespace.tableKey d.ns name) ∧
        s.result? a = some r ∧
        (attemptWork (d.world reply) name table).After (exchanges (d.world reply) a ms empty)
          (.done r))) ∧
    (s.Idle → ∀ name, name ∈ s.provisionedTables d.ns ↔
      ∃ a t, s.task? a = some t ∧ t.key = some (Namespace.tableKey d.ns name) ∧ t.succeeded) := by
  rw [show d.ns = (d.world reply).ns from rfl, Database.provisionAll]
  generalize d.world reply = w
  have h : Undisturbed (empty.moves w ms) := Undisturbed.empty.moves hms
  refine ⟨fun a key m => step_spares h.toInvariant, fun i hi => ?_, fun a t ht hk => ?_,
    fun hidle name => ?_⟩
  · have hg := hi.group hms
    exact ⟨fun v => hg.succeeds h, fun e => hg.fails_iff hms, hg.ends h⟩
  · exact ⟨h.calm a t ht, fun hidle => attempt_ends h hidle ht hk⟩
  · have hrest := hidle.atRest
    rw [← h.toInvariant.isProvisioned_iff]
    exact hrest.mem_provisionedTables h.toSound (.reachable w ms) hrest.listed name

def twoTables : Database :=
  ⟨⟨[("notes", bare), ("tags", bare)], 1, by decide⟩,
    ⟨"app", "company", "", "", Settings.defaultUrl, .production, Settings.defaultTimeout, 1, 0,
      false⟩⟩

/-- No table is there yet, and the first one that is to be made is refused. -/
def refusingFirst (before : List Request) (q : Request) : Reply :=
  if q.endpoint = .checkTable then .response 404 [] 900
  else if q.endpoint = .ensureTable ∧ before.all (·.endpoint ≠ .ensureTable) then
    .response 400 [] 900
  else .response 200 [0x31] 900

def bothNeeded : List Move :=
  [.start twoTables.provisionAll trivial, .run (.run 0), .run (.run 1), .run (.run 2),
    .run (.run 3), .run (.settle 3), .run (.run 1), .run (.run 4), .run (.settle 4), .run (.run 2)]

/-- The call for all tables fails as the first table, and the second one is made all the same. -/
theorem tables_independent_twoTables :
    let w := twoTables.world refusingFirst
    (∀ i, .cancel i ∉ bothNeeded) ∧ (empty.moves w bothNeeded).Idle ∧
      (∃ name e, FirstToFail w bothNeeded 0 twoTables.schema.tables name e) ∧
      "tags" ∈ (empty.moves w bothNeeded).provisionedTables twoTables.ns := by
  have hms : ∀ i, .cancel i ∉ bothNeeded := by simp [bothNeeded]
  have hidle : (empty.moves (twoTables.world refusingFirst) bothNeeded).Idle := ⟨rfl, rfl⟩
  obtain ⟨-, hgroup, -, hlisted⟩ := tables_independent twoTables refusingFirst bothNeeded hms
  have hstarts : Starts (twoTables.world refusingFirst) bothNeeded twoTables.provisionAll 0 :=
    ⟨[], bothNeeded.tail, trivial, rfl, rfl⟩
  have hfails : ∃ e, (empty.moves (twoTables.world refusingFirst) bothNeeded).outcome? 0 =
      some (.error e) := ⟨_, rfl⟩
  obtain ⟨e, he⟩ := hfails
  obtain ⟨name, -, hfirst, -⟩ := ((hgroup 0 hstarts).2.1 e).mp he
  exact ⟨hms, hidle, ⟨name, e, hfirst⟩, (hlisted hidle "tags").mpr ⟨4, _, rfl, rfl, rfl⟩⟩

end Session

end TenantStore
