import TenantStore.Proofs.Session.Preserved

/-!
# Runs of sessions

A `Move` is an event of a session. Jobs are executed in any order, and any reply that is held back
can come on its own, so first come first served is one schedule of many. `move_effect` says what a
move does to each task and which tasks it adds; every run keeps the invariant (`Invariant.moves`).
-/

namespace TenantStore

inductive Move
  | start (c : Call) (own : c.Queries)
  | cancel (call : Nat)
  | run (j : Job)
  | reply (task : Nat)
  | hold (e : Endpoint)
  | release (e : Endpoint)

/-- What a call becomes when it hears of an attempt's outcome. -/
def Task.heard (a : Nat) (o : Except Failure Data) (t : Task) : Task :=
  match t.phase with
  | .joined b body => if b = a then { t with phase := .leaving a o body } else t
  | _ => t

def Task.woken (t : Task) : Task :=
  match t.phase with
  | .held body => { t with phase := .ready body }
  | _ => t

namespace Session

/-- From outside only calls are cancelled; only a job of the queue is executed. -/
def move (w : World) (s : Session) : Move → Session
  | .start c _ => s.start c
  | .cancel i => if (s.task? i).any fun t => t.key.isNone then s.callOff i else s
  | .run j => if j ∈ s.ready then runJob w j { s with ready := s.ready.erase j } else s
  | .reply i => deliver { s with parked := s.parked.filter fun p => p.2 ≠ i } i
  | .hold e => s.hold e
  | .release e => s.release e

def moves (w : World) (ms : List Move) (s : Session) : Session :=
  ms.foldl (move w) s

theorem moves_append {s : Session} : s.moves w (ms ++ ms') = (s.moves w ms).moves w ms' :=
  List.foldl_append

theorem moves_cons {s : Session} : s.moves w (m :: ms) = (s.move w m).moves w ms := rfl

-- ---------------------------------------------------------------------------
-- What a move does to a task
-- ---------------------------------------------------------------------------

/-- What a move can do to the task `i`. Only calls are cancelled from outside. -/
inductive Advances (w : World) (m : Move) (s s' : Session) (i : Nat) (t : Task) : Task → Prop
  | stays : Advances w m s s' i t t
  | cancelled (hk : t.key = none) (hm : m = .cancel i) : Advances w m s s' i t t.calledOff
  | abandoned (hk : t.key.isSome) (hopen : t.result? = none) : Advances w m s s' i t t.calledOff
  | served (hk : t.key = none) (hp : t.phase = .fresh name table body)
      (there : s.isProvisioned w.ns name) (own : Stretches body p qs) :
      Advances w m s s' i t { t with phase := p }
  | joins (hk : t.key = none) (hp : t.phase = .fresh name table body)
      (attempt : s'.IsAttempt (Namespace.tableKey w.ns name) a) :
      Advances w m s s' i t { t with phase := .joined a body }
  | spreads (hk : t.key = none) (hp : t.phase = .gathering tables)
      (calls : ∀ c ∈ children, ∃ u, s'.task? c = some u ∧ u.key = none) :
      Advances w m s s' i t { t with phase := .gathered children }
  | works (hp : t.phase = .ready body) (own : Stretches body p qs) :
      Advances w m s s' i t { t with phase := p }
  | hears (hk : t.key = none) (hp : t.phase = .joined a body)
      (ended : (s.task? a).bind Task.result? = some o) :
      Advances w m s s' i t { t with phase := .leaving a o body }
  | goesOn (hk : t.key = none) (hp : t.phase = .leaving a (.ok v) body)
      (own : Stretches body p qs) : Advances w m s s' i t { t with phase := p }
  | ends (hk : t.key = none) (hp : t.phase = .leaving a (.error e) body) :
      Advances w m s s' i t { t with phase := .finished (.error e) }
  | wakes (hp : t.phase = .held body) : Advances w m s s' i t { t with phase := .ready body }

def attemptWork (w : World) (name : String) (table : Table) : Remote Data :=
  (Provisioning.attempt w.plane w.ns name table).andThen fun r => .done (r.map fun _ => .null)

def Needs (s : Session) (name : String) (table : Table) : Prop :=
  ∃ i t body, s.task? i = some t ∧ t.phase = .fresh name table body

/-- A task that a move adds: a call that has not begun, or an attempt at a table that a call needs
and no other attempt is of use for. -/
structure IsNew (w : World) (s : Session) (t : Task) : Prop where
  cancelling : t.cancelling = false
  result : t.result? = none
  attempt : t.phase.attempt? = none
  alone : ∀ calls, t.phase ≠ .gathered calls
  needed : ∀ key, t.key = some key →
    (∃ name table, key = Namespace.tableKey w.ns name ∧
      t.phase = .ready (attemptWork w name table) ∧ s.Needs name table) ∧
    ∀ j u, s.task? j = some u → u.key = some key → u.isCurrent = false

structure Effect (w : World) (m : Move) (s s' : Session) : Prop where
  old : ∀ j t, s.task? j = some t → ∃ t', s'.task? j = some t' ∧ Advances w m s s' j t t'
  new : ∀ j t, s'.task? j = some t → s.task? j = none → IsNew w s t

variable {w : World} {s s' : Session} {m : Move} {ms ms' : List Move} {i j a : Nat} {t u : Task}
  {f : Task → Task} {added : List Task} {o : Except Failure Data}

theorem Effect.of_eq (tasks : s'.tasks = s.tasks) : Effect w m s s' where
  old j t ht := ⟨t, by simpa [task?, tasks] using ht, .stays⟩
  new j t ht hn := by simp_all [task?]

theorem Effect.of_modify (tasks : s'.tasks = s.tasks.modify i f)
    (h : ∀ t, s.task? i = some t → Advances w m s s' i t (f t)) : Effect w m s s' where
  old j t ht := by
    rw [task?_of_modify tasks, ht]
    split
    · rename_i hij
      subst hij
      exact ⟨f t, rfl, h t ht⟩
    · exact ⟨t, rfl, .stays⟩
  new j t ht hn := by
    rw [task?_of_modify tasks, hn] at ht
    split at ht <;> cases ht

theorem Effect.of_append (tasks : s'.tasks = (s.tasks ++ added).modify i f)
    (ht : s.task? i = some t) (h : Advances w m s s' i t (f t)) (hadded : ∀ u ∈ added, IsNew w s u) :
    Effect w m s s' := by
  have hi : i < s.tasks.length := lt_of_task? ht
  have get : ∀ j, s'.task? j = if i = j then (s.task? j).map f else (s.tasks ++ added)[j]? := by
    intro j
    rw [task?_of_modify (s := { s with tasks := s.tasks ++ added }) tasks]
    split
    · rename_i hij
      subst hij
      simp [task?, List.getElem?_append_left hi]
    · rfl
  refine ⟨fun j u hu => ?_, fun j u hu hn => ?_⟩
  · rw [get j]
    split
    · rename_i hij
      subst hij
      obtain rfl := Option.some.inj (hu.symm.trans ht)
      exact ⟨f u, by rw [hu]; rfl, h⟩
    · exact ⟨u, by rw [List.getElem?_append_left (lt_of_task? hu)]; exact hu, .stays⟩
  · have hle : s.tasks.length ≤ j := List.getElem?_eq_none_iff.mp hn
    rw [get j, if_neg (by omega), List.getElem?_append_right hle] at hu
    exact hadded u (List.mem_of_getElem? hu)

-- ---------------------------------------------------------------------------
-- The tasks after an operation
-- ---------------------------------------------------------------------------

theorem tasks_spawn_calls (tables : List (String × Table)) (s : Session) :
    (tables.foldl (fun s (name, t) => s.spawn none (.fresh name t (.done (.ok .null)))) s).tasks =
      s.tasks ++ tables.map fun (name, t) => ⟨none, false, .fresh name t (.done (.ok .null))⟩ := by
  induction tables generalizing s with
  | nil => simp
  | cons e tables ih =>
    rw [List.foldl_cons, ih]
    exact List.append_assoc ..

theorem task?_foldl {op : Session → Nat → Session}
    (hop : ∀ s i, (op s i).tasks = s.tasks.modify i f) (hf : ∀ t, f (f t) = f t)
    (ids : List Nat) (s : Session) (j : Nat) :
    (ids.foldl op s).task? j = if j ∈ ids then (s.task? j).map f else s.task? j := by
  induction ids generalizing s with
  | nil => simp
  | cons i ids ih =>
    rw [List.foldl_cons, ih, task?_of_modify (hop s i)]
    by_cases hij : i = j
    · subst hij
      cases s.task? i <;> simp [hf]
    · simp [hij, Ne.symm hij]

theorem tasks_tell (a : Nat) (o : Except Failure Data) (s : Session) (i : Nat) :
    (s.tell a o i).tasks = s.tasks.modify i (Task.heard a o) := by
  unfold tell
  cases ht : s.task? i with
  | none =>
    rw [List.modify_eq_self (List.getElem?_eq_none_iff.mp ht)]
    rfl
  | some t =>
    have congr : ∀ {g}, g t = t.heard a o →
        s.tasks.modify i g = s.tasks.modify i (Task.heard a o) := fun hg =>
      modify_congr fun b hb => Option.some.inj (hb.symm.trans ht) ▸ hg
    obtain ⟨key, cancelling, phase⟩ := t
    cases phase <;> simp only [Option.map_some]
    case joined b body =>
      by_cases hba : b = a
      · simp only [hba, if_true]
        exact congr (by simp [Task.heard, hba])
      · simp only [hba, if_false]
        exact (List.modify_id ..).symm.trans (congr (by simp [Task.heard, hba]))
    all_goals exact (List.modify_id ..).symm.trans (congr rfl)

theorem heard_heard : (t.heard a o).heard a o = t.heard a o := by
  obtain ⟨key, cancelling, phase⟩ := t
  cases phase <;> try rfl
  rename_i b body
  by_cases hba : b = a <;> simp [Task.heard, hba]

/-- Every call hears of the attempt that is settled. -/
theorem task?_settle (hu : s.task? a = some ⟨some key, c, .finished o⟩) (j : Nat) :
    (s.settle a).task? j = (s.task? j).map (Task.heard a o) := by
  obtain ⟨events, heq⟩ := forget_eq a key o s
  have hforget : ∀ j, (s.forget a key o).task? j = s.task? j := fun j => by rw [heq]; rfl
  have hsettle : s.settle a = (List.range s.tasks.length).foldl (Session.tell a o)
      (s.forget a key o) := by
    simp only [settle, hu]
  rw [hsettle, task?_foldl (tasks_tell a o) fun t => heard_heard, hforget]
  split
  · rfl
  · rename_i hj
    rw [show s.task? j = none from List.getElem?_eq_none_iff.mpr (by simpa using hj)]
    rfl

theorem tasks_deliver (s : Session) (i : Nat) :
    (s.deliver i).tasks = s.tasks.modify i Task.woken := by
  unfold deliver
  cases ht : s.task? i with
  | none =>
    rw [List.modify_eq_self (List.getElem?_eq_none_iff.mp ht)]
    rfl
  | some t =>
    have congr : ∀ {g}, g t = t.woken → s.tasks.modify i g = s.tasks.modify i Task.woken := fun hg =>
      modify_congr fun b hb => Option.some.inj (hb.symm.trans ht) ▸ hg
    obtain ⟨key, cancelling, phase⟩ := t
    cases phase <;> simp only [Option.map_some]
    case held body => exact congr rfl
    all_goals exact (List.modify_id ..).symm.trans (congr rfl)

theorem woken_woken : t.woken.woken = t.woken := by
  obtain ⟨key, cancelling, phase⟩ := t
  cases phase <;> rfl

-- ---------------------------------------------------------------------------
-- The effect of a move
-- ---------------------------------------------------------------------------

theorem Effect.before (h : Effect w m s₀ s') (tasks : s₀.tasks = s.tasks)
    (cache : s₀.cache = s.cache) : Effect w m s s' := by
  obtain ⟨ts, ready, cs, waiters, closed, parked, ended, sent, events⟩ := s₀
  subst tasks cache
  refine ⟨fun j t ht => ?_, fun j t ht hn => ?_⟩
  · obtain ⟨t', ht', hadv⟩ := h.old j t ht
    refine ⟨t', ht', ?_⟩
    cases hadv with
    | stays => exact .stays
    | cancelled hk hm => exact .cancelled hk hm
    | abandoned hk hopen => exact .abandoned hk hopen
    | served hk hp there own => exact .served hk hp there own
    | joins hk hp attempt => exact .joins hk hp attempt
    | spreads hk hp calls => exact .spreads hk hp calls
    | works hp own => exact .works hp own
    | hears hk hp ended => exact .hears hk hp ended
    | goesOn hk hp own => exact .goesOn hk hp own
    | ends hk hp => exact .ends hk hp
    | wakes hp => exact .wakes hp
  · obtain ⟨hcancelling, hresult, hattempt, halone, hneeded⟩ := h.new j t ht hn
    exact ⟨hcancelling, hresult, hattempt, halone, hneeded⟩

theorem ensure_effect (h : Invariant s) (ht : s.task? i = some t) (hk : t.key = none)
    (hp : t.phase = .fresh name table body) : Effect w m s (s.ensure w i name table body) := by
  have new : ∀ s', s' = (s.startAttempt w (Namespace.tableKey w.ns name) name table).join i
      s.tasks.length body →
      (∀ b v, s.cached? (Namespace.tableKey w.ns name) = some (b, v) → v.isCurrent = false) →
      Effect w m s s' := by
    rintro s' rfl hfree
    let attempt : Task :=
      ⟨some (Namespace.tableKey w.ns name), false, .ready (attemptWork w name table)⟩
    refine Effect.of_append (show _ = (s.tasks ++ [attempt]).modify i _ from rfl) ht
      (.joins hk hp ⟨attempt, ?_, rfl⟩) ?_
    · rw [task?_of_modify rfl, if_neg (Nat.ne_of_lt (lt_of_task? ht)), task?_of_append rfl,
        if_pos rfl]
      rfl
    · simp only [List.mem_singleton]
      rintro u rfl
      refine ⟨rfl, rfl, rfl, nofun, fun key hkey => ?_⟩
      obtain rfl := Option.some.inj hkey
      exact ⟨⟨name, table, rfl, rfl, i, t, body, ht, hp⟩, h.toSound.free_of_cached? hfree⟩
  unfold ensure
  simp only
  split
  · rename_i b u hcached
    split
    · rename_i hsucc
      obtain ⟨p, qs, hbody, hst⟩ := advance_stretch w i body
        (s.note ("Table " ++ Namespace.tableKey w.ns name ++ " already provisioned"))
      refine Effect.of_modify hst.tasks fun v hv => ?_
      obtain rfl := Option.some.inj (hv.symm.trans ht)
      exact .served hk hp (by simp [isProvisioned, hcached, hsucc]) hbody
    · split
      · obtain ⟨hget, hu⟩ := cached?_eq_some hcached
        obtain ⟨v, hv, hkv⟩ := h.cached _ b hget
        have hbi : i ≠ b := by
          rintro rfl
          obtain rfl := Option.some.inj (hv.symm.trans ht)
          simp [hk] at hkv
        refine Effect.of_modify rfl fun v' hv' => ?_
        obtain rfl := Option.some.inj (hv'.symm.trans ht)
        exact .joins hk hp ⟨v, by rw [task?_of_modify rfl, if_neg hbi]; exact hv, hkv⟩
      · rename_i hsucc hshare
        refine new _ rfl fun b' v hv => ?_
        obtain ⟨rfl, rfl⟩ := Prod.mk.inj (Option.some.inj (hcached.symm.trans hv))
        simp [Task.isCurrent, hsucc, hshare]
  · rename_i hnone
    exact new _ rfl fun b v hv => by simp [hnone] at hv

theorem leave_effect (h : Invariant s) (ht : s.task? i = some t) (hk : t.key = none)
    (hp : t.phase = .leaving a o body) : Effect w m s (s.leave w i a o body) := by
  have stands := h.call i t ht hk
  simp only [CallStands, hp] at stands
  obtain ⟨-, u, hu, hku, -⟩ := stands
  have hai : a ≠ i := by
    rintro rfl
    obtain rfl := Option.some.inj (hu.symm.trans ht)
    simp [hk] at hku
  have step : ∃ p, (∀ s', Advances w m s s' i t { t with phase := p }) ∧
      (s.leave w i a o body).tasks =
        (s.abandon a o).tasks.modify i fun t => { t with phase := p } := by
    unfold leave
    simp only
    split
    · obtain ⟨p, qs, hbody, hst⟩ := advance_stretch w i body ((s.abandon a (.ok _)).removeWaiter a)
      exact ⟨p, fun _ => .goesOn hk hp hbody, by rw [hst.tasks, tasks_removeWaiter]⟩
    · rename_i e
      have hst := finish_stretch ((s.abandon a (.error e)).removeWaiter a) i (.error e)
      exact ⟨_, fun _ => .ends hk hp, by rw [hst.tasks, tasks_removeWaiter]⟩
  obtain ⟨p, hadv, tasks⟩ := step
  have ht' := (h.abandon ht hk hp).2.1
  -- the attempt may be called off first, which leaves the call as it was
  have heff : Effect w m s (s.abandon a o) ∧ ∀ j v v', j ≠ i → s.task? j = some v →
      (s.abandon a o).task? j = some v' → ∀ s', Advances w m s s' j v v' := by
    obtain ⟨heq, -⟩ | ⟨⟨n, heq⟩, -, hopen, -⟩ := abandon_cases o hu
    · rw [heq]
      refine ⟨Effect.of_eq rfl, fun j v v' _ hv hv' _ => ?_⟩
      obtain rfl := Option.some.inj (hv.symm.trans hv')
      exact .stays
    · rw [heq]
      refine ⟨Effect.of_modify (tasks_callOff a _) fun v hv => ?_, fun j v v' _ hv hv' _ => ?_⟩
      · obtain rfl := Option.some.inj (hv.symm.trans hu)
        exact .abandoned hku hopen
      · rw [task?_of_modify (tasks_callOff a _), show (s.note n).task? j = some v from hv] at hv'
        split at hv'
        · rename_i haj
          subst haj
          obtain rfl := Option.some.inj (hv.symm.trans hu)
          obtain rfl := Option.some.inj hv'
          exact .abandoned hku hopen
        · obtain rfl := Option.some.inj hv'
          exact .stays
  refine ⟨fun j v hv => ?_, fun j v hv hn => ?_⟩
  · rw [task?_of_modify tasks]
    by_cases hij : i = j
    · subst hij
      obtain rfl := Option.some.inj (hv.symm.trans ht)
      rw [if_pos rfl, ht']
      exact ⟨_, rfl, hadv _⟩
    · obtain ⟨v', hv', -⟩ := heff.1.old j v hv
      rw [if_neg hij]
      exact ⟨v', hv', heff.2 j v v' (Ne.symm hij) hv hv' _⟩
  · rw [task?_of_modify tasks] at hv
    have hij : i ≠ j := by
      rintro rfl
      simp [hn] at ht
    rw [if_neg hij] at hv
    exact heff.1.new j v hv hn

theorem tasks_gather (i : Nat) (tables : List (String × Table)) (s : Session) :
    (s.gather i tables).tasks = (s.tasks ++ tables.map fun (name, t) =>
      (⟨none, false, .fresh name t (.done (.ok .null))⟩ : Task)).modify i fun t =>
        { t with phase := .gathered (List.range' s.tasks.length tables.length) } :=
  congrArg (List.modify · i _) (tasks_spawn_calls tables s)

/-- The calls of a group stand one after the other behind the tasks that were there. -/
theorem task?_gather (ht : s.task? i = some t) (he : tables[k]? = some e) :
    (s.gather i tables).task? (s.tasks.length + k) =
      some ⟨none, false, .fresh e.1 e.2 (.done (.ok .null))⟩ := by
  have hne : i ≠ s.tasks.length + k := Nat.ne_of_lt (Nat.lt_add_right k (lt_of_task? ht))
  rw [task?_of_modify (s := { s with tasks := s.tasks ++ _ }) (tasks_gather i tables s), if_neg hne]
  show (s.tasks ++ _)[s.tasks.length + k]? = _
  rw [List.getElem?_append_right (Nat.le_add_right ..), Nat.add_sub_cancel_left, List.getElem?_map,
    he]
  rfl

theorem gather_effect (ht : s.task? i = some t) (hk : t.key = none)
    (hp : t.phase = .gathering tables) : Effect w m s (s.gather i tables) := by
  have calls : ∀ c ∈ List.range' s.tasks.length tables.length,
      ∃ u, (s.gather i tables).task? c = some u ∧ u.key = none := by
    intro c hc
    obtain ⟨hle, hlt⟩ := List.mem_range'_1.mp hc
    obtain ⟨k, rfl⟩ := Nat.exists_eq_add_of_le hle
    have hlen : k < tables.length := Nat.lt_of_add_lt_add_left hlt
    exact ⟨_, task?_gather ht (List.getElem?_eq_getElem hlen), rfl⟩
  refine .of_append (tasks_gather i tables s) ht (.spreads hk hp calls) ?_
  simp only [List.mem_map]
  rintro u ⟨⟨name, table⟩, -, rfl⟩
  exact ⟨rfl, rfl, rfl, nofun, nofun⟩

theorem runTask_effect (h : Invariant s) (i : Nat) : Effect w m s (s.runTask w i) := by
  unfold runTask
  cases ht : s.task? i with
  | none => exact .of_eq rfl
  | some t =>
    have call := h.toSound.key_eq_none ht
    cases hp : t.phase <;> simp only [Option.map_some, hp]
    case ready body =>
      obtain ⟨p, qs, hbody, hst⟩ := advance_stretch w i body s
      refine .of_modify hst.tasks fun v hv => ?_
      obtain rfl := Option.some.inj (hv.symm.trans ht)
      exact .works hp hbody
    case fresh name table body =>
      exact ensure_effect h ht (call (by simp [hp]) (by simp [hp]) (by simp [hp])) hp
    case gathering tables =>
      exact gather_effect ht (call (by simp [hp]) (by simp [hp]) (by simp [hp])) hp
    case leaving b o body =>
      exact leave_effect h ht (call (by simp [hp]) (by simp [hp]) (by simp [hp])) hp
    all_goals exact .of_eq rfl

theorem Effect.of_map (tasks : ∀ j, s'.task? j = (s.task? j).map f)
    (h : ∀ j t, s.task? j = some t → Advances w m s s' j t (f t)) : Effect w m s s' where
  old j t ht := ⟨f t, by rw [tasks j, ht]; rfl, h j t ht⟩
  new j t ht hn := by simp [tasks j, hn] at ht

theorem settle_effect (h : Invariant s) (a : Nat) : Effect w m s (s.settle a) := by
  cases hu : s.task? a with
  | none => exact .of_eq (by simp [settle, hu])
  | some u =>
    obtain ⟨key, c, phase⟩ := u
    by_cases hsettles : ∃ k o, key = some k ∧ phase = .finished o
    · obtain ⟨k, o, rfl, rfl⟩ := hsettles
      refine .of_map (task?_settle hu) fun j t ht => ?_
      unfold Task.heard
      split
      · rename_i b body hp
        split
        · rename_i hba
          subst hba
          have hk := h.toSound.key_eq_none ht (by simp [hp]) (by simp [hp]) (by simp [hp])
          exact .hears hk hp (by simp [hu, Task.result?])
        · exact .stays
      · exact .stays
    · refine .of_eq ?_
      unfold settle
      split
      · rename_i k c' o hu'
        rw [hu, Option.some.injEq, Task.mk.injEq] at hu'
        exact absurd ⟨k, o, hu'.1, hu'.2.2⟩ hsettles
      · rfl

theorem task?_release (e : Endpoint) (s : Session) (j : Nat) :
    (s.release e).task? j = if j ∈ (s.parked.filter fun p => p.1 = e).map (·.2)
      then (s.task? j).map Task.woken else s.task? j :=
  task?_foldl tasks_deliver (fun _ => woken_woken) ..

theorem woken_advances : Advances w m s s' i t t.woken := by
  unfold Task.woken
  split
  · rename_i body hp
    exact .wakes hp
  · exact .stays

/-- What a move does to the tasks of a session. -/
theorem move_effect (h : Invariant s) (m : Move) : Effect w m s (s.move w m) := by
  cases m with
  | start c own =>
    have new : ∀ p : Phase, p.attempt? = none → (∀ r, p ≠ .finished r) →
        (∀ calls, p ≠ .gathered calls) → Effect w (.start c own) s (s.spawn none p) := by
      intro p hp hr hg
      refine ⟨fun j t ht => ⟨t, ?_, .stays⟩, fun j t ht hn => ?_⟩
      · rw [task?_of_append rfl, if_neg (Nat.ne_of_lt (lt_of_task? ht)), ht]
      · rw [task?_of_append rfl] at ht
        split at ht
        · obtain rfl := Option.some.inj ht
          refine ⟨rfl, ?_, hp, hg, nofun⟩
          unfold Task.result?
          split
          · exact absurd ‹_› (hr _)
          · rfl
        · simp [hn] at ht
    cases c <;> exact new _ rfl nofun nofun
  | cancel i =>
    simp only [move]
    split
    · rename_i hcall
      refine .of_modify (tasks_callOff i s) fun t ht => .cancelled ?_ rfl
      simpa [ht] using hcall
    · exact .of_eq rfl
  | run j =>
    simp only [move]
    split
    · have hsame : Invariant { s with ready := s.ready.erase j } := h.of_eq rfl rfl rfl
      cases j with
      | run i => exact (runTask_effect hsame i).before rfl rfl
      | settle a => exact (settle_effect hsame a).before rfl rfl
    · exact .of_eq rfl
  | reply i => exact .of_modify (tasks_deliver _ i) fun t _ => woken_advances
  | hold e => exact .of_eq rfl
  | release e =>
    refine ⟨fun j t ht => ?_, fun j t ht hn => ?_⟩
    · rw [move, task?_release, ht]
      split
      · exact ⟨t.woken, rfl, woken_advances⟩
      · exact ⟨t, rfl, .stays⟩
    · rw [move, task?_release, hn] at ht
      split at ht <;> cases ht

-- ---------------------------------------------------------------------------
-- The invariant
-- ---------------------------------------------------------------------------

theorem Invariant.empty : Invariant empty := by
  have none : ∀ i t, ¬ Session.empty.task? i = some t := by simp [task?, Session.empty]
  refine ⟨⟨fun i t h => absurd h (none i t), fun i t h => absurd h (none i t),
    fun k i h => ?_, fun k i h => ?_, fun k i t h => absurd h (none i t)⟩,
    ⟨fun _ => rfl, fun a t h => absurd h (none a t)⟩⟩
  · simp [Session.empty] at h
  · simp [Session.empty] at h

theorem Invariant.deliver_all (h : Invariant s) (ids : List Nat) :
    Invariant (ids.foldl Session.deliver s) := by
  induction ids generalizing s with
  | nil => exact h
  | cons i ids ih => exact ih (h.deliver i)

theorem Invariant.move (h : Invariant s) (m : Move) : Invariant (s.move w m) := by
  cases m with
  | start c own => exact h.start c own
  | cancel i =>
    simp only [Session.move]
    split
    · rename_i hcall
      obtain ⟨t, ht, hk⟩ := (Option.any_eq_true ..).mp hcall
      exact h.callOff ht (by simpa using hk)
    · exact h
  | run j =>
    simp only [Session.move]
    split
    · have hrest : Invariant { s with ready := s.ready.erase j } := h.of_eq rfl rfl rfl
      exact hrest.run_job j
    · exact h
  | reply i =>
    have hrest : Invariant { s with parked := s.parked.filter fun p => p.2 ≠ i } :=
      h.of_eq rfl rfl rfl
    exact hrest.deliver i
  | hold e => exact h.of_eq rfl rfl rfl
  | release e =>
    have hrest : Invariant { s with
        closed := s.closed.filter (· ≠ e)
        parked := s.parked.filter fun p => p.1 ≠ e } := h.of_eq rfl rfl rfl
    exact hrest.deliver_all _

theorem Invariant.moves (h : Invariant s) (ms : List Move) : Invariant (s.moves w ms) := by
  induction ms generalizing s with
  | nil => exact h
  | cons m ms ih => exact ih (h.move m)

theorem Invariant.reachable (w : World) (ms : List Move) :
    Invariant (Session.empty.moves w ms) :=
  Invariant.empty.moves ms

end Session

end TenantStore
