import TenantStore.Proofs.Session.Exchanges

/-!
# Waiters are accounted for

The stored counts are those of the calls that wait, and an attempt that is at work has one. From
one session to the next the queue only grows but for the job that is taken, and an attempt that has
ended since then is queued to be settled (`Grows`). So a failed attempt stays in the cache only
until it is settled (`Tidy`), and when no call waits and all attempts are settled the cache holds
the tables that are there and nothing else (`waiters_accounted`).
-/

namespace TenantStore

namespace Assoc

variable {κ α : Type} [DecidableEq κ] {k : κ} {v : α} {es : List (κ × α)}

theorem nodup_keys_erase (h : (keys es).Nodup) : (keys (erase k es)).Nodup :=
  h.sublist (List.filter_sublist.map _)

theorem mem_iff_get? (h : (keys es).Nodup) : (k, v) ∈ es ↔ get? k es = some v := by
  induction es with
  | nil => simp
  | cons e es ih =>
    obtain ⟨k', v'⟩ := e
    obtain ⟨hnew, hrest⟩ := List.nodup_cons.mp h
    rw [get?_cons, List.mem_cons, ih hrest]
    by_cases hk : k' = k
    · subst hk
      have hnone : get? k' es ≠ some v := fun hget =>
        hnew (List.mem_map.mpr ⟨(k', v), (ih hrest).mpr hget, rfl⟩)
      simp [hnone, eq_comm]
    · simp [hk, Ne.symm hk]

end Assoc

namespace Session

variable {w : World} {s s' s'' : Session} {m : Move} {ms : List Move} {i j a : Nat} {t u : Task}
  {f : Task → Task} {p : Phase} {body : Remote Data} {o : Except Failure Data}

-- ---------------------------------------------------------------------------
-- From one session to a later one
-- ---------------------------------------------------------------------------

/-- No job is lost, and an attempt that has ended since then is queued to be settled. Of the cache
only entries of new attempts are new. -/
structure Grows (s s' : Session) : Prop where
  tasks : s.tasks.length ≤ s'.tasks.length
  ready : ∀ j ∈ s.ready, j ∈ s'.ready
  cache : ∀ key a, Assoc.get? key s'.cache = some a →
    Assoc.get? key s.cache = some a ∨ s.tasks.length ≤ a
  ended : ∀ a u r, s'.task? a = some u → u.key.isSome → u.result? = some r →
    .settle a ∈ s'.ready ∨ ∃ t, s.task? a = some t ∧ t.key.isSome ∧ t.result? = some r
  cacheKeys : (Assoc.keys s.cache).Nodup → (Assoc.keys s'.cache).Nodup
  waiterKeys : (Assoc.keys s.waiters).Nodup → (Assoc.keys s'.waiters).Nodup

theorem Grows.of_eq (tasks : s'.tasks = s.tasks) (cache : s'.cache = s.cache)
    (waiters : s'.waiters = s.waiters) (ready : ∀ j ∈ s.ready, j ∈ s'.ready) : Grows s s' where
  tasks := Nat.le_of_eq (congrArg _ tasks.symm)
  ready := ready
  cache _ _ h := .inl (cache ▸ h)
  ended a u r hu hk hr := .inr ⟨u, by simpa [task?, tasks] using hu, hk, hr⟩
  cacheKeys := cache ▸ id
  waiterKeys := waiters ▸ id

theorem Grows.refl (s : Session) : Grows s s :=
  .of_eq rfl rfl rfl fun _ h => h

theorem Grows.trans (h : Grows s s') (h' : Grows s' s'') : Grows s s'' where
  tasks := Nat.le_trans h.tasks h'.tasks
  ready j hj := h'.ready j (h.ready j hj)
  cache key a ha := by
    rcases h'.cache key a ha with hget | hnew
    · exact h.cache key a hget
    · exact .inr (Nat.le_trans h.tasks hnew)
  ended a u r hu hk hr := by
    rcases h'.ended a u r hu hk hr with hset | ⟨t, ht, hkt, hrt⟩
    · exact .inl hset
    · exact (h.ended a t r ht hkt hrt).imp_left (h'.ready _)
  cacheKeys := h'.cacheKeys ∘ h.cacheKeys
  waiterKeys := h'.waiterKeys ∘ h.waiterKeys

theorem Grows.of_modify (tasks : s'.tasks = s.tasks.modify i f) (cache : s'.cache = s.cache)
    (waiters : s'.waiters = s.waiters) (ready : ∀ j ∈ s.ready, j ∈ s'.ready)
    (ends : ∀ t r, s.task? i = some t → (f t).key.isSome → (f t).result? = some r →
      .settle i ∈ s'.ready ∨ t.key.isSome ∧ t.result? = some r) : Grows s s' where
  tasks := by simp [tasks]
  ready := ready
  cache _ _ h := .inl (cache ▸ h)
  ended a u r hu hk hr := by
    rw [task?_of_modify tasks] at hu
    split at hu
    · rename_i hia
      subst hia
      obtain ⟨t, ht, rfl⟩ := Option.map_eq_some_iff.mp hu
      exact (ends t r ht hk hr).imp_right fun h => ⟨t, ht, h⟩
    · exact .inr ⟨u, hu, hk, hr⟩
  cacheKeys := cache ▸ id
  waiterKeys := waiters ▸ id

theorem Grows.of_append (tasks : s'.tasks = s.tasks ++ [t]) (hopen : t.result? = none)
    (cache : s'.cache = s.cache ∨ ∃ key, s'.cache = Assoc.put key s.tasks.length s.cache)
    (waiters : s'.waiters = s.waiters) (ready : ∀ j ∈ s.ready, j ∈ s'.ready) : Grows s s' where
  tasks := by simp [tasks]
  ready := ready
  cache key a h := by
    rcases cache with hc | ⟨k, hc⟩
    · exact .inl (hc ▸ h)
    · rw [hc, Assoc.get?_put] at h
      split at h
      · exact .inr (Nat.le_of_eq (Option.some.inj h))
      · exact .inl h
  ended a u r hu hk hr := by
    rw [task?_of_append tasks] at hu
    split at hu
    · obtain rfl := Option.some.inj hu
      simp [hopen] at hr
    · exact .inr ⟨u, hu, hk, hr⟩
  cacheKeys h := by
    rcases cache with hc | ⟨k, hc⟩
    · exact hc ▸ h
    · exact hc ▸ Assoc.nodup_keys_put h
  waiterKeys := waiters ▸ id

theorem Grows.wake (hopen : ∀ r, p ≠ .finished r) : Grows s (s.wake i p) := by
  refine .of_modify rfl rfl rfl (fun _ hj => List.mem_append_left _ hj) fun t r _ _ hr => ?_
  exact absurd (Task.result?_eq_some.mp hr) (hopen r)

-- ---------------------------------------------------------------------------
-- Operations
-- ---------------------------------------------------------------------------

theorem Stretch.grows (h : Stretch i p qs s s') : Grows s s' := by
  refine .of_modify h.tasks h.cache h.waiters h.ready fun t r ht hk hr => .inl ?_
  exact h.settling r t (Task.result?_eq_some.mp hr) ht hk

theorem Grows.advance (w : World) (i : Nat) (body : Remote Data) (s : Session) :
    Grows s (s.advance w i body) := by
  obtain ⟨p, qs, -, hst⟩ := advance_stretch w i body s
  exact hst.grows

theorem Grows.note (message : RawText) (s : Session) : Grows s (s.note message) :=
  .of_eq rfl rfl rfl fun _ h => h

theorem Grows.removeWaiter (a : Nat) (s : Session) : Grows s (s.removeWaiter a) where
  tasks := by simp
  ready := by simp
  cache _ _ h := .inl (by simpa using h)
  ended b u r hu hk hr := .inr ⟨u, by simpa [task?] using hu, hk, hr⟩
  cacheKeys := by simp
  waiterKeys h := by
    unfold Session.removeWaiter
    split
    · exact Assoc.nodup_keys_erase h
    · exact Assoc.nodup_keys_put h

theorem Grows.join (i a : Nat) (body : Remote Data) (s : Session) :
    Grows s (s.join i a body) := by
  have hcounts : Grows s (s.addWaiter a) :=
    ⟨Nat.le_refl _, fun _ h => h, fun _ _ h => .inl h,
      fun _ u _ hu hk hr => .inr ⟨u, hu, hk, hr⟩, id, Assoc.nodup_keys_put⟩
  have hjoins : Grows (s.addWaiter a) (s.join i a body) :=
    .of_modify rfl rfl rfl (fun _ h => h) fun _ _ _ _ hr => nomatch hr
  exact hcounts.trans hjoins

theorem Grows.ensure (w : World) (i : Nat) (name : String) (table : Table) (body : Remote Data)
    (s : Session) : Grows s (s.ensure w i name table body) := by
  have new : ∀ key, Grows s ((s.startAttempt w key name table).join i s.tasks.length body) := by
    intro key
    have hstart : Grows s (s.startAttempt w key name table) :=
      .of_append (t := ⟨some key, false, .ready (attemptWork w name table)⟩) rfl rfl
        (.inr ⟨key, rfl⟩) rfl fun _ hj => List.mem_append_left _ hj
    exact hstart.trans (.join ..)
  unfold Session.ensure
  simp only
  split
  · split
    · exact (Grows.note ..).trans (.advance ..)
    · split
      · exact .join ..
      · exact new _
  · exact new _

theorem Grows.callOff (i : Nat) (s : Session) : Grows s (s.callOff i) := by
  refine .of_modify (tasks_callOff i s) (cache_callOff i s) (waiters_callOff i s) ?_ ?_
  · intro j hj
    cases ht : s.task? i with
    | none =>
      unfold Session.callOff
      rw [ht]
      exact hj
    | some t =>
      rw [ready_callOff ht]
      exact List.mem_append_left _ hj
  · intro t r _ hk hr
    rw [Task.key_calledOff] at hk
    unfold Task.calledOff at hr
    refine .inr ⟨hk, ?_⟩
    split at hr <;> simp_all [Task.result?]

theorem Grows.abandon (a : Nat) (o : Except Failure Data) (s : Session) :
    Grows s (s.abandon a o) := by
  unfold Session.abandon
  split
  · split
    · exact (Grows.note ..).trans (.callOff ..)
    · exact .refl s
  · exact .refl s

theorem Grows.leave (w : World) (i a : Nat) (o : Except Failure Data) (body : Remote Data)
    (s : Session) : Grows s (s.leave w i a o body) := by
  have hleft : Grows s ((s.abandon a o).removeWaiter a) :=
    (Grows.abandon a o s).trans (.removeWaiter ..)
  unfold Session.leave
  simp only
  split
  · exact hleft.trans (.advance ..)
  · exact hleft.trans (finish_stretch _ i _).grows

theorem Grows.spawn (hopen : ∀ r, p ≠ .finished r) : Grows s (s.spawn key p) := by
  refine .of_append (t := ⟨key, false, p⟩) rfl ?_ (.inl rfl) rfl
    fun _ hj => List.mem_append_left _ hj
  cases p with
  | finished r => exact absurd rfl (hopen r)
  | _ => rfl

theorem Grows.gather (i : Nat) (tables : List (String × Table)) (s : Session) :
    Grows s (s.gather i tables) := by
  have spawns : ∀ s : Session, Grows s
      (tables.foldl (fun s e => s.spawn none (.fresh e.1 e.2 (.done (.ok .null)))) s) := by
    induction tables with
    | nil => exact Grows.refl
    | cons e tables ih =>
      intro s
      have first : Grows s (s.spawn none (.fresh e.1 e.2 (.done (.ok .null)))) := .spawn nofun
      exact first.trans (ih _)
  have waits : ∀ (s : Session) children, Grows s (s.setPhase i (.gathered children)) := by
    intro s children
    exact .of_modify rfl rfl rfl (fun _ h => h) fun _ _ _ _ hr => nomatch hr
  exact (spawns s).trans (waits ..)

theorem Grows.runTask (w : World) (i : Nat) (s : Session) : Grows s (s.runTask w i) := by
  unfold Session.runTask
  split
  · exact .ensure ..
  · exact .gather ..
  · exact .advance ..
  · exact .leave ..
  · exact .refl s

theorem Grows.tell (a : Nat) (o : Except Failure Data) (s : Session) (i : Nat) :
    Grows s (s.tell a o i) := by
  unfold Session.tell
  split
  · split
    · exact .wake nofun
    · exact .refl s
  · exact .refl s

theorem Grows.deliver (s : Session) (i : Nat) : Grows s (s.deliver i) := by
  unfold Session.deliver
  split
  · exact .wake nofun
  · exact .refl s

theorem Grows.foldl {op : Session → Nat → Session} (hop : ∀ s i, Grows s (op s i)) (ids : List Nat)
    (s : Session) : Grows s (ids.foldl op s) := by
  induction ids generalizing s with
  | nil => exact .refl s
  | cons i ids ih => exact (hop s i).trans (ih _)

theorem Grows.forget (a : Nat) (key : String) (o : Except Failure Data) (s : Session) :
    Grows s (s.forget a key o) := by
  obtain ⟨events, heq⟩ := forget_eq a key o s
  rw [heq]
  refine ⟨Nat.le_refl _, fun _ h => h, fun k b h => .inl ?_,
    fun _ u _ hu hk hr => .inr ⟨u, hu, hk, hr⟩, fun h => ?_, id⟩
  · simp only at h
    split at h
    · exact h
    · split at h
      · rw [Assoc.get?_erase] at h
        split at h
        · cases h
        · exact h
      · exact h
  · simp only
    split
    · exact h
    · split
      · exact Assoc.nodup_keys_erase h
      · exact h

theorem Grows.settle (a : Nat) (s : Session) : Grows s (s.settle a) := by
  unfold Session.settle
  split
  · exact (Grows.forget ..).trans (.foldl (.tell _ _) ..)
  · exact .refl s

/-- Which endpoints are closed and which replies are held back makes no difference. -/
theorem Grows.unpark (closed : List Endpoint) (parked : List (Endpoint × Nat)) (s : Session) :
    Grows s { s with closed := closed, parked := parked } :=
  .of_eq rfl rfl rfl fun _ h => h

theorem Grows.release (e : Endpoint) (s : Session) : Grows s (s.release e) :=
  (Grows.unpark ..).trans (.foldl .deliver ..)

-- ---------------------------------------------------------------------------
-- Failed attempts in the cache
-- ---------------------------------------------------------------------------

/-- Each key is stored once, and a failed attempt is in the cache only until it is settled. -/
structure Tidy (s : Session) : Prop where
  cacheKeys : (Assoc.keys s.cache).Nodup
  waiterKeys : (Assoc.keys s.waiters).Nodup
  due : ∀ key a u e, Assoc.get? key s.cache = some a → s.task? a = some u → u.key.isSome →
    u.result? = some (.error e) → .settle a ∈ s.ready

theorem Tidy.grows (h : Tidy s) (hg : Grows s s') : Tidy s' where
  cacheKeys := hg.cacheKeys h.cacheKeys
  waiterKeys := hg.waiterKeys h.waiterKeys
  due key a u e hget hu hk hr := by
    rcases hg.ended a u _ hu hk hr with hset | ⟨t, ht, hkt, hrt⟩
    · exact hset
    · rcases hg.cache key a hget with hold | hnew
      · exact hg.ready _ (h.due key a t e hold ht hkt hrt)
      · exact absurd (lt_of_task? ht) (Nat.not_lt_of_le hnew)

theorem Tidy.take_run (h : Tidy s) (i : Nat) : Tidy { s with ready := s.ready.erase (.run i) } where
  cacheKeys := h.cacheKeys
  waiterKeys := h.waiterKeys
  due key a u e hget hu hk hr :=
    (List.mem_erase_of_ne (by simp)).mpr (h.due key a u e hget hu hk hr)

theorem cache_tell (a : Nat) (o : Except Failure Data) (s : Session) (i : Nat) :
    (s.tell a o i).cache = s.cache := by
  unfold tell
  split
  · split <;> rfl
  · rfl

theorem cache_foldl_tell (a : Nat) (o : Except Failure Data) (ids : List Nat) (s : Session) :
    (ids.foldl (tell a o) s).cache = s.cache := by
  induction ids generalizing s with
  | nil => rfl
  | cons i ids ih => exact (ih _).trans (cache_tell a o s i)

theorem get?_cache_settle (hu : s.task? a = some u) (hk : u.key = some key)
    (hr : u.result? = some (.error e)) : Assoc.get? key (s.settle a).cache ≠ some a := by
  obtain ⟨k, c, p⟩ := u
  obtain rfl : k = some key := hk
  obtain rfl : p = .finished (.error e) := Task.result?_eq_some.mp hr
  obtain ⟨events, heq⟩ := forget_eq a key (.error e) s
  unfold Session.settle
  rw [hu]
  simp only [cache_foldl_tell, heq, Except.isOk, Except.toBool, Bool.false_eq_true, if_false]
  split
  · simp [Assoc.get?_erase]
  · assumption

theorem Tidy.settle (h : Tidy s) (hinv : Invariant s) (a : Nat) :
    Tidy (Session.settle a { s with ready := s.ready.erase (.settle a) }) := by
  let s₀ : Session := { s with ready := s.ready.erase (.settle a) }
  have hg : Grows s₀ (s₀.settle a) := .settle a s₀
  refine ⟨hg.cacheKeys h.cacheKeys, hg.waiterKeys h.waiterKeys, fun key b u e hget hu hk hr => ?_⟩
  rcases hg.ended b u _ hu hk hr with hset | ⟨t, ht, hkt, hrt⟩
  · exact hset
  rcases hg.cache key b hget with hold | hnew
  · by_cases hba : b = a
    · subst hba
      obtain ⟨v, hv, hkv⟩ := hinv.cached key b hold
      obtain rfl := Option.some.inj (hv.symm.trans ht)
      exact absurd hget (get?_cache_settle (s := s₀) hv hkv hrt)
    · have hdue := h.due key b t e hold ht hkt hrt
      exact hg.ready _ ((List.mem_erase_of_ne (by simpa using hba)).mpr hdue)
  · exact absurd (lt_of_task? ht) (Nat.not_lt_of_le hnew)

theorem Tidy.move (h : Tidy s) (hinv : Invariant s) (m : Move) : Tidy (s.move w m) := by
  cases m with
  | start c own => cases c <;> exact h.grows (.spawn nofun)
  | cancel i =>
    simp only [Session.move]
    split
    · exact h.grows (.callOff ..)
    · exact h
  | run j =>
    simp only [Session.move]
    split
    · cases j with
      | run i => exact (h.take_run i).grows (.runTask ..)
      | settle a => exact h.settle hinv a
    · exact h
  | reply i => exact h.grows ((Grows.unpark s.closed ..).trans (.deliver ..))
  | hold e => exact h.grows (.of_eq rfl rfl rfl fun _ hj => hj)
  | release e => exact h.grows (.release ..)

theorem Tidy.empty : Tidy Session.empty := by
  refine ⟨List.nodup_nil, List.nodup_nil, fun key a u e hget => ?_⟩
  simp [Session.empty] at hget

theorem Tidy.moves (h : Tidy s) (hinv : Invariant s) (ms : List Move) : Tidy (s.moves w ms) := by
  induction ms generalizing s with
  | nil => exact h
  | cons m ms ih => exact ih (h.move hinv m) (hinv.move m)

-- ---------------------------------------------------------------------------
-- Sessions at rest
-- ---------------------------------------------------------------------------

/-- No call waits for an attempt, and every attempt has ended and has been settled. -/
def AtRest (s : Session) : Prop :=
  (∀ a, s.callsAt a = 0) ∧
    ∀ a t, s.task? a = some t → t.key.isSome → t.isFinished ∧ .settle a ∉ s.ready

theorem mem_waiters (h : Counted s) (ht : Tidy s) (a n : Nat) :
    (a, n) ∈ s.waiters ↔ n = s.callsAt a ∧ 0 < n := by
  rw [Assoc.mem_iff_get? ht.waiterKeys, h.waiters a]
  split
  · simp only [reduceCtorEq, false_iff]
    omega
  · simp only [Option.some.injEq]
    omega

/-- Only calls wait, and only for attempts. -/
theorem Sound.waits_for (h : Sound s) (ht : s.task? i = some t) (ha : t.phase.attempt? = some a) :
    t.key = none ∧ ∃ key, s.IsAttempt key a := by
  have hk : t.key = none := by
    refine Option.not_isSome_iff_eq_none.mp fun hk => ?_
    simp [attempt?_of_attemptStands (h.attempt i t ht hk)] at ha
  have stands := h.call i t ht hk
  refine ⟨hk, ?_⟩
  cases hp : t.phase with
  | joined b body | leaving b o body =>
    simp only [CallStands, hp] at stands
    obtain ⟨-, u, hu, hku, -⟩ := stands
    obtain ⟨key, hkey⟩ := Option.isSome_iff_exists.mp hku
    rw [hp] at ha
    obtain rfl := Option.some.inj ha
    exact ⟨key, u, hu, hkey⟩
  | _ => simp [hp, Phase.attempt?] at ha

theorem AtRest.waiters_eq (h : s.AtRest) (hc : Counted s) (ht : Tidy s) : s.waiters = [] := by
  refine List.eq_nil_iff_forall_not_mem.mpr ?_
  rintro ⟨a, n⟩ hmem
  obtain ⟨rfl, hpos⟩ := (mem_waiters hc ht a n).mp hmem
  exact absurd (h.1 a) (Nat.ne_of_gt hpos)

theorem AtRest.mem_cache (h : s.AtRest) (hs : Sound s) (ht : Tidy s) (key : String) (a : Nat) :
    (key, a) ∈ s.cache ↔ ∃ t, s.task? a = some t ∧ t.key = some key ∧ t.succeeded := by
  rw [Assoc.mem_iff_get? ht.cacheKeys]
  constructor
  · intro hget
    obtain ⟨t, hta, hk⟩ := hs.cached key a hget
    obtain ⟨hend, hsettled⟩ := h.2 a t hta (by simp [hk])
    obtain ⟨r, hr⟩ := Option.isSome_iff_exists.mp hend
    refine ⟨t, hta, hk, ?_⟩
    cases r with
    | ok v => simp [Task.succeeded, Task.result?_eq_some.mp hr]
    | error e => exact absurd (ht.due key a t e hget hta (by simp [hk]) hr) hsettled
  · rintro ⟨t, hta, hk, hsucc⟩
    exact hs.current key a t hta hk (by simp [Task.isCurrent, hsucc])

theorem atRest_of_idle (h : s.Idle) (hinv : Invariant s) (hq : Queued none s) : s.AtRest := by
  have rests : ∀ {i t}, s.task? i = some t → t.phase.attempt? = none := by
    intro i t ht
    rcases hq.finished_of_idle hinv h ht with ⟨r, hr⟩ | ⟨children, hp⟩
    · rw [Task.result?_eq_some.mp hr]
      rfl
    · rw [hp]
      rfl
  refine ⟨fun a => ?_, fun a t ht hk => ⟨?_, by simp [h.1]⟩⟩
  · by_contra hne
    obtain ⟨t, hmem, hw⟩ := List.countP_pos_iff.mp (Nat.pos_of_ne_zero hne)
    obtain ⟨i, hi⟩ := List.mem_iff_getElem?.mp hmem
    simp [Task.waitsFor, rests hi] at hw
  · rcases hq.finished_of_idle hinv h ht with ⟨r, hr⟩ | ⟨children, hp⟩
    · simp [Task.isFinished, hr]
    · have stands := hinv.attempt a t ht hk
      unfold AttemptStands at stands
      rw [hp] at stands
      cases hc : t.cancelling <;> simp [hc, Stops] at stands

-- ---------------------------------------------------------------------------
-- Tables
-- ---------------------------------------------------------------------------

theorem name_of_tableKey (ns name : String) :
    String.ofList ((Namespace.tableKey ns name).toList.drop (ns.length + 1)) = name := by
  have hkey : (Namespace.tableKey ns name).toList = ns.toList ++ '.' :: name.toList := by
    simp [Namespace.tableKey]
  rw [hkey, ← String.length_toList, ← List.drop_drop, List.drop_left]
  exact String.ofList_toList

/-- The listed tables are the keys of the cache, without their namespace. -/
theorem AtRest.provisionedTables (h : s.AtRest) (hs : Sound s) (ht : Tidy s) {ns : String}
    (hkeys : ∀ i t key, s.task? i = some t → t.key = some key →
      ∃ name, key = Namespace.tableKey ns name) :
    (s.provisionedTables ns).map (Namespace.tableKey ns) = Assoc.keys s.cache := by
  have hall : (s.cache.filter fun e => (s.task? e.2).any Task.succeeded) = s.cache := by
    refine List.filter_eq_self.mpr ?_
    rintro ⟨key, a⟩ hmem
    obtain ⟨t, hta, -, hsucc⟩ := (h.mem_cache hs ht key a).mp hmem
    simp [hta, hsucc]
  unfold Session.provisionedTables
  rw [hall, List.map_map]
  refine List.map_congr_left ?_
  rintro ⟨key, a⟩ hmem
  obtain ⟨t, hta, hk, -⟩ := (h.mem_cache hs ht key a).mp hmem
  obtain ⟨name, rfl⟩ := hkeys a t key hta hk
  exact congrArg _ (name_of_tableKey ns name)

theorem AtRest.mem_provisionedTables (h : s.AtRest) (hs : Sound s) (ht : Tidy s) {ns : String}
    (hlisted : (s.provisionedTables ns).map (Namespace.tableKey ns) = Assoc.keys s.cache)
    (name : String) : name ∈ s.provisionedTables ns ↔ s.isProvisioned ns name := by
  have hkey : name ∈ s.provisionedTables ns ↔ Namespace.tableKey ns name ∈ Assoc.keys s.cache := by
    rw [← hlisted, List.mem_map]
    constructor
    · exact fun hmem => ⟨name, hmem, rfl⟩
    · rintro ⟨name', hmem, heq⟩
      rw [← name_of_tableKey ns name', heq, name_of_tableKey] at hmem
      exact hmem
  rw [hkey]
  constructor
  · intro hmem
    obtain ⟨⟨-, a⟩, hentry, rfl⟩ := List.mem_map.mp hmem
    obtain ⟨t, hta, -, hsucc⟩ := (h.mem_cache hs ht _ a).mp hentry
    have hget := (Assoc.mem_iff_get? ht.cacheKeys).mp hentry
    simp [isProvisioned, cached?, hget, hta, hsucc]
  · intro hprov
    obtain ⟨⟨a, t⟩, hcached, -⟩ := (Option.any_eq_true ..).mp hprov
    obtain ⟨hget, -⟩ := cached?_eq_some hcached
    exact List.mem_map.mpr ⟨_, (Assoc.mem_iff_get? ht.cacheKeys).mpr hget, rfl⟩

theorem Tidy.reachable (w : World) (ms : List Move) : Tidy (Session.empty.moves w ms) :=
  Tidy.empty.moves .empty ms

theorem Idle.atRest (h : (Session.empty.moves w ms).Idle) : (Session.empty.moves w ms).AtRest :=
  atRest_of_idle h (.reachable w ms) (Queued.empty.moves .empty ms)

/-- In every run the cache holds keys of tables, so a session at rest lists what is in its cache. -/
theorem AtRest.listed (h : (Session.empty.moves w ms).AtRest) :
    ((Session.empty.moves w ms).provisionedTables w.ns).map (Namespace.tableKey w.ns) =
      Assoc.keys (Session.empty.moves w ms).cache := by
  refine h.provisionedTables (Invariant.reachable w ms).toSound (.reachable w ms) ?_
  intro i t key ht hk
  obtain ⟨name, -, hname, -⟩ := attempt_onItsWay w ms ht (by simp [hk])
  exact ⟨name, Option.some.inj (hk.symm.trans hname)⟩

/-- In every run the stored counts are those of the calls that wait, an attempt that is at work has
a call that waits for it, and a session at rest stores nothing but the tables that were made. -/
theorem waiters_accounted (w : World) (ms : List Move) :
    let s := empty.moves w ms
    (Assoc.keys s.waiters).Nodup ∧
    (∀ a n, (a, n) ∈ s.waiters ↔ n = s.callsAt a ∧ 0 < n) ∧
    (∀ i t a, s.task? i = some t → t.phase.attempt? = some a →
      t.key = none ∧ ∃ key, s.IsAttempt key a) ∧
    (∀ a t, s.task? a = some t → t.key.isSome → t.isFinished = false → t.cancelling = false →
      0 < s.callsAt a) ∧
    (s.Idle → s.AtRest) ∧
    (s.AtRest → s.waiters = [] ∧
      (∀ key a, (key, a) ∈ s.cache ↔ ∃ t, s.task? a = some t ∧ t.key = some key ∧ t.succeeded) ∧
      (s.provisionedTables w.ns).Nodup ∧
      (s.provisionedTables w.ns).map (Namespace.tableKey w.ns) = Assoc.keys s.cache ∧
      ∀ name, name ∈ s.provisionedTables w.ns ↔ s.isProvisioned w.ns name) := by
  intro s
  have hinv : Invariant s := .reachable w ms
  have htidy : Tidy s := .reachable w ms
  refine ⟨htidy.waiterKeys, mem_waiters hinv.toCounted htidy, ?_, ?_, fun hidle => hidle.atRest,
    fun hrest => ?_⟩
  · exact fun i t a ht ha => hinv.toSound.waits_for ht ha
  · intro a t ht hk hopen hc
    exact hinv.attended a t ht hk (by simp [Task.isShareable, hopen, hc])
  · have hlisted := hrest.listed
    refine ⟨hrest.waiters_eq hinv.toCounted htidy, hrest.mem_cache hinv.toSound htidy, ?_, hlisted,
      hrest.mem_provisionedTables hinv.toSound htidy hlisted⟩
    have hnodup : ((s.provisionedTables w.ns).map (Namespace.tableKey w.ns)).Nodup :=
      hlisted ▸ htidy.cacheKeys
    exact (List.pairwise_map.mp hnodup).imp fun hne heq => hne (congrArg _ heq)

end Session

end TenantStore
