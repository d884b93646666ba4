import TenantStore.Proofs.Session.Exchanges

/-!
# Runs without cancellation

Where no call is cancelled no attempt is called off, so the step of a task changes that task alone
and at most adds others (`runTask_calm`). The list of the tasks that have ended grows by one task at
a time (`CalmStep`), so it tells which task ended first.
-/

namespace TenantStore.Session

/-- Nobody was cancelled or called off. -/
def Calm (s : Session) : Prop :=
  ∀ i t, s.task? i = some t → t.cancelling = false

def endedIn (i : Nat) : Phase → List Nat
  | .finished _ => [i]
  | _ => []

variable {w : World} {s s' : Session} {m : Move} {ms : List Move} {i j k a : Nat} {t t' u : Task}
  {p : Phase} {added : List Task} {news : List Nat} {body : Remote Data}

-- ---------------------------------------------------------------------------
-- The step of a task
-- ---------------------------------------------------------------------------

/-- A task goes to another phase, and others are added that have all of their work to do. -/
structure OwnStep (k : Nat) (p : Phase) (added : List Task) (s s' : Session) : Prop where
  tasks : s'.tasks = (s.tasks ++ added).modify k fun t => { t with phase := p }
  ended : s'.ended = s.ended ++ endedIn k p
  fresh : ∀ u ∈ added, u.cancelling = false ∧ u.result? = none

theorem OwnStep.of_modify (tasks : s'.tasks = s.tasks.modify k fun t => { t with phase := p })
    (ended : s'.ended = s.ended ++ endedIn k p) : OwnStep k p [] s s' where
  tasks := by rw [tasks, List.append_nil]
  ended := ended
  fresh := List.forall_mem_nil _

theorem OwnStep.task?_old (h : OwnStep k p added s s') (ht : s.task? i = some t) :
    s'.task? i = some (if i = k then { t with phase := p } else t) := by
  rw [task?_of_modify (s := { s with tasks := s.tasks ++ added }) h.tasks]
  have hold : task? i { s with tasks := s.tasks ++ added } = some t :=
    (List.getElem?_append_left (lt_of_task? ht)).trans ht
  rw [hold]
  by_cases hik : i = k
  · simp [hik]
  · simp [hik, Ne.symm hik]

theorem OwnStep.task?_new (h : OwnStep k p added s s') (hk : s.task? k = some u)
    (hnone : s.task? i = none) (ht : s'.task? i = some t) : t ∈ added := by
  have hik : k ≠ i := by
    rintro rfl
    simp [hnone] at hk
  rw [task?_other (s := { s with tasks := s.tasks ++ added }) h.tasks hik] at ht
  have hlen : s.tasks.length ≤ i := List.getElem?_eq_none_iff.mp hnone
  exact List.mem_of_getElem? ((List.getElem?_append_right hlen).symm.trans ht)

theorem finish_ownStep (s : Session) (k : Nat) (r : Except Failure Data) :
    OwnStep k (.finished r) [] s (s.finish k r) := by
  rw [finish_eq]
  exact .of_modify rfl rfl

theorem advance_ownStep (w : World) (k : Nat) (body : Remote Data) (s : Session) :
    ∃ p, OwnStep k p [] s (s.advance w k body) := by
  induction body generalizing s with
  | done r => exact ⟨_, finish_ownStep s k r⟩
  | ask q next ih =>
    simp only [advance]
    split
    · exact ⟨.held (next (w.reply s.sent q)), .of_modify rfl (List.append_nil _).symm⟩
    · obtain ⟨p, h⟩ := ih (w.reply s.sent q) (record (.asked q) { s with sent := s.sent ++ [q] })
      exact ⟨p, h.tasks, h.ended, h.fresh⟩
  | pause d next => exact ⟨.ready next, .of_modify rfl (List.append_nil _).symm⟩
  | log l next ih =>
    obtain ⟨p, h⟩ := ih (s.record (.logged l))
    exact ⟨p, h.tasks, h.ended, h.fresh⟩

theorem ensure_ownStep (w : World) (k : Nat) (name : String) (table : Table) (body : Remote Data)
    (s : Session) : ∃ p added, OwnStep k p added s (s.ensure w k name table body) := by
  have new : ∀ key, ∃ p added, OwnStep k p added s
      ((s.startAttempt w key name table).join k s.tasks.length body) := by
    intro key
    refine ⟨.joined s.tasks.length body, [⟨some key, false, .ready (attemptWork w name table)⟩],
      rfl, (List.append_nil _).symm, ?_⟩
    simp [Task.result?]
  unfold Session.ensure
  simp only
  split
  · rename_i b u hcached
    split
    · obtain ⟨p, h⟩ := advance_ownStep w k body
        (s.note ("Table " ++ Namespace.tableKey w.ns name ++ " already provisioned"))
      exact ⟨p, [], h.tasks, h.ended, h.fresh⟩
    · split
      · exact ⟨.joined b body, [], .of_modify rfl (List.append_nil _).symm⟩
      · exact new _
  · exact new _

/-- A call that was not cancelled leaves an attempt that has ended. -/
theorem abandon_calm (h : Invariant s) (hcalm : s.Calm) (ht : s.task? k = some t)
    (hk : t.key = none) (hp : t.phase = .leaving a o body) : s.abandon a o = s := by
  have stands := h.call k t ht hk
  simp only [CallStands, hp] at stands
  obtain ⟨-, u, hu, -, ho⟩ := stands
  rcases abandon_cases o hu with ⟨heq, -⟩ | ⟨-, -, hopen, -⟩
  · exact heq
  · rcases ho with hr | ⟨-, hc⟩
    · simp [hopen] at hr
    · simp [hcalm k t ht] at hc

theorem leave_ownStep (h : Invariant s) (hcalm : s.Calm) (ht : s.task? k = some t)
    (hk : t.key = none) (hp : t.phase = .leaving a o body) :
    ∃ p, OwnStep k p [] s (s.leave w k a o body) := by
  have left : ∀ p s', OwnStep k p [] (s.removeWaiter a) s' → OwnStep k p [] s s' := by
    intro p s' h
    refine ⟨by rw [h.tasks, tasks_removeWaiter], ?_, h.fresh⟩
    rw [h.ended]
    unfold removeWaiter
    split <;> rfl
  unfold leave
  simp only [abandon_calm h hcalm ht hk hp]
  split
  · obtain ⟨p, hstep⟩ := advance_ownStep w k body (s.removeWaiter a)
    exact ⟨p, left _ _ hstep⟩
  · exact ⟨_, left _ _ (finish_ownStep ..)⟩

theorem gather_ownStep (k : Nat) (tables : List (String × Table)) (s : Session) :
    OwnStep k (.gathered (List.range' s.tasks.length tables.length))
      (tables.map fun e => ⟨none, false, .fresh e.1 e.2 ensured⟩) s (s.gather k tables) where
  tasks := tasks_gather k tables s
  ended := by
    have hspawn : ∀ s : Session, (tables.foldl (fun s e =>
        s.spawn none (.fresh e.1 e.2 (.done (.ok .null)))) s).ended = s.ended := by
      induction tables with
      | nil => exact fun _ => rfl
      | cons e tables ih => exact fun s => ih _
    exact (hspawn s).trans (List.append_nil _).symm
  fresh := by
    simp only [List.mem_map]
    rintro u ⟨e, -, rfl⟩
    exact ⟨rfl, rfl⟩

theorem runTask_calm (h : Invariant s) (hcalm : s.Calm) (k : Nat) : s.runTask w k = s ∨
    ∃ t p added, s.task? k = some t ∧ t.result? = none ∧ OwnStep k p added s (s.runTask w k) := by
  unfold runTask
  cases ht : s.task? k with
  | none => exact .inl rfl
  | some t =>
    have call := h.toSound.key_eq_none ht
    cases hp : t.phase <;> simp only [Option.map_some, hp]
    case fresh name table body =>
      obtain ⟨p, added, hstep⟩ := ensure_ownStep w k name table body s
      exact .inr ⟨t, p, added, rfl, by simp [Task.result?, hp], hstep⟩
    case gathering tables =>
      exact .inr ⟨t, _, _, rfl, by simp [Task.result?, hp], gather_ownStep k tables s⟩
    case ready body =>
      obtain ⟨p, hstep⟩ := advance_ownStep w k body s
      exact .inr ⟨t, p, [], rfl, by simp [Task.result?, hp], hstep⟩
    case leaving b o body =>
      obtain ⟨p, hstep⟩ := leave_ownStep (w := w) h hcalm ht
        (call (by simp [hp]) (by simp [hp]) (by simp [hp])) hp
      exact .inr ⟨t, p, [], rfl, by simp [Task.result?, hp], hstep⟩
    all_goals exact .inl trivial

-- ---------------------------------------------------------------------------
-- The effect of a move
-- ---------------------------------------------------------------------------

/-- Nobody is marked, and of the tasks at most one ends, which is listed. -/
structure CalmStep (news : List Nat) (s s' : Session) : Prop where
  calm : s.Calm → s'.Calm
  ended : s'.ended = s.ended ++ news
  few : news.length ≤ 1
  new : ∀ i ∈ news, s.result? i = none ∧ (s'.result? i).isSome
  rest : ∀ i, i ∉ news → s'.result? i = s.result? i

theorem CalmStep.eq_singleton (h : CalmStep news s s') (hi : i ∈ news) : news = [i] := by
  cases news with
  | nil => cases hi
  | cons j rest =>
    obtain rfl : rest = [] := List.eq_nil_of_length_eq_zero (by simpa using h.few)
    rw [List.mem_singleton.mp hi]

theorem CalmStep.of_eq (tasks : s'.tasks = s.tasks) (ended : s'.ended = s.ended) :
    CalmStep [] s s' where
  calm hcalm i t ht := hcalm i t (by simpa [task?, tasks] using ht)
  ended := ended.trans (List.append_nil _).symm
  few := Nat.zero_le _
  new := List.forall_mem_nil _
  rest i _ := by simp [result?, task?, tasks]

theorem OwnStep.calmStep (h : OwnStep k p added s s') (ht : s.task? k = some t)
    (hopen : t.result? = none) : CalmStep (endedIn k p) s s' where
  calm hcalm i t' ht' := by
    cases hi : s.task? i with
    | none => exact (h.fresh t' (h.task?_new ht hi ht')).1
    | some u =>
      obtain rfl := Option.some.inj ((h.task?_old hi).symm.trans ht')
      split <;> exact hcalm i u hi
  ended := h.ended
  few := by cases p <;> simp [endedIn]
  new i hi := by
    cases p with
    | finished r =>
      obtain rfl := List.mem_singleton.mp hi
      refine ⟨by simp [result?, ht, hopen], ?_⟩
      simp [result?, h.task?_old ht, Task.result?]
    | _ => cases hi
  rest i hi := by
    cases hi' : s.task? i with
    | none =>
      cases ht' : s'.task? i with
      | none => simp [result?, hi', ht']
      | some t' => simp [result?, hi', ht', (h.fresh t' (h.task?_new ht hi' ht')).2]
    | some u =>
      simp only [result?, hi', h.task?_old hi', Option.bind_some]
      split
      · rename_i hik
        subst hik
        obtain rfl := Option.some.inj (hi'.symm.trans ht)
        rw [hopen]
        cases p with
        | finished r => exact absurd (List.mem_singleton.mpr rfl) hi
        | _ => rfl
      · rfl

/-- Tasks only change in what they wait for. -/
theorem CalmStep.of_map {f : Nat → Task → Task} (tasks : ∀ j, s'.task? j = (s.task? j).map (f j))
    (ended : s'.ended = s.ended) (hf : ∀ j t, (f j t).cancelling = t.cancelling ∧
      (f j t).result? = t.result?) : CalmStep [] s s' where
  calm hcalm i t' ht' := by
    rw [tasks i] at ht'
    obtain ⟨t, ht, rfl⟩ := Option.map_eq_some_iff.mp ht'
    exact (hf i t).1.trans (hcalm i t ht)
  ended := ended.trans (List.append_nil _).symm
  few := Nat.zero_le _
  new := List.forall_mem_nil _
  rest i _ := by
    unfold result?
    rw [tasks i]
    cases s.task? i with
    | none => rfl
    | some t => exact (hf i t).2

theorem heard_same (a : Nat) (o : Except Failure Data) (t : Task) :
    (t.heard a o).cancelling = t.cancelling ∧ (t.heard a o).result? = t.result? := by
  obtain ⟨key, cancelling, phase⟩ := t
  cases phase <;> try exact ⟨rfl, rfl⟩
  rename_i b body
  by_cases hba : b = a <;> simp [Task.heard, Task.result?, hba]

theorem woken_same (t : Task) :
    t.woken.cancelling = t.cancelling ∧ t.woken.result? = t.result? := by
  obtain ⟨key, cancelling, phase⟩ := t
  cases phase <;> exact ⟨rfl, rfl⟩

theorem ended_foldl {op : Session → Nat → Session} (hop : ∀ s i, (op s i).ended = s.ended)
    (ids : List Nat) (s : Session) : (ids.foldl op s).ended = s.ended := by
  induction ids generalizing s with
  | nil => rfl
  | cons i ids ih => exact (ih _).trans (hop s i)

theorem ended_deliver (s : Session) (i : Nat) : (s.deliver i).ended = s.ended := by
  unfold deliver
  split <;> rfl

theorem ended_tell (a : Nat) (o : Except Failure Data) (s : Session) (i : Nat) :
    (s.tell a o i).ended = s.ended := by
  unfold tell
  split
  · split <;> rfl
  · rfl

theorem settle_calm (a : Nat) (s : Session) : CalmStep [] s (s.settle a) := by
  by_cases hu : ∃ key c o, s.task? a = some ⟨some key, c, .finished o⟩
  · obtain ⟨key, c, o, hu⟩ := hu
    refine .of_map (f := fun _ => Task.heard a o) (task?_settle hu) ?_ fun _ => heard_same a o
    obtain ⟨events, heq⟩ := forget_eq a key o s
    unfold settle
    rw [hu]
    simp only [ended_foldl (ended_tell a o), heq]
  · have heq : s.settle a = s := by
      unfold settle
      split
      · rename_i key c o hu'
        exact absurd ⟨key, c, o, hu'⟩ hu
      · rfl
    rw [heq]
    exact .of_eq rfl rfl

theorem CalmStep.before {s₀ : Session} (h : CalmStep news s₀ s') (tasks : s₀.tasks = s.tasks)
    (ended : s₀.ended = s.ended) : CalmStep news s s' := by
  obtain ⟨ts, ready, cache, waiters, closed, parked, es, sent, events⟩ := s₀
  subst tasks ended
  exact ⟨h.calm, h.ended, h.few, h.new, h.rest⟩

theorem spawn_calm (hopen : ∀ r, p ≠ .finished r) : CalmStep [] s (s.spawn none p) where
  calm hcalm i t ht := by
    rw [task?_of_append (t := ⟨none, false, p⟩) rfl] at ht
    split at ht
    · obtain rfl := Option.some.inj ht
      rfl
    · exact hcalm i t ht
  ended := (List.append_nil _).symm
  few := Nat.zero_le _
  new := List.forall_mem_nil _
  rest i _ := by
    unfold result?
    rw [task?_of_append (t := ⟨none, false, p⟩) rfl]
    split
    · rename_i hi
      rw [show s.task? i = none from List.getElem?_eq_none_iff.mpr (Nat.le_of_eq hi.symm)]
      cases p with
      | finished r => exact absurd rfl (hopen r)
      | _ => rfl
    · rfl

theorem move_calm (h : Invariant s) (hcalm : s.Calm) (hm : ∀ i, m ≠ .cancel i) :
    ∃ news, CalmStep news s (s.move w m) := by
  cases m with
  | start c own => cases c <;> exact ⟨[], spawn_calm nofun⟩
  | cancel i => exact absurd rfl (hm i)
  | run j =>
    simp only [move]
    split
    · have hrest : Invariant { s with ready := s.ready.erase j } := h.of_eq rfl rfl rfl
      cases j with
      | settle a => exact ⟨[], (settle_calm a _).before rfl rfl⟩
      | run k =>
        rcases runTask_calm (w := w) hrest hcalm k with
          heq | ⟨t, p, added, ht, hopen, hstep⟩
        · exact ⟨[], by rw [runJob, heq]; exact .of_eq rfl rfl⟩
        · exact ⟨_, (hstep.calmStep ht hopen).before rfl rfl⟩
    · exact ⟨[], .of_eq rfl rfl⟩
  | reply i =>
    refine ⟨[], .of_map (f := fun j t => if i = j then t.woken else t) (fun j => ?_)
      (ended_deliver ..) fun j t => ?_⟩
    · rw [move, task?_of_modify (tasks_deliver _ i)]
      split <;> simp [task?]
    · split
      · exact woken_same t
      · exact ⟨rfl, rfl⟩
  | hold e => exact ⟨[], .of_eq rfl rfl⟩
  | release e =>
    refine ⟨[], .of_map (f := fun j t =>
      if j ∈ (s.parked.filter fun p => p.1 = e).map (·.2) then t.woken else t) (fun j => ?_)
      (ended_foldl ended_deliver ..) fun j t => ?_⟩
    · rw [move, task?_release]
      split <;> simp
    · split
      · exact woken_same t
      · exact ⟨rfl, rfl⟩

-- ---------------------------------------------------------------------------
-- Runs
-- ---------------------------------------------------------------------------

structure Recorded (s : Session) : Prop where
  nodup : s.ended.Nodup
  mem : ∀ i, i ∈ s.ended ↔ (s.result? i).isSome

theorem Recorded.empty : Recorded Session.empty where
  nodup := List.nodup_nil
  mem i := by simp [Session.empty, result?, task?]

theorem Recorded.step (h : Recorded s) (hstep : CalmStep news s s') : Recorded s' where
  nodup := by
    have hnews : news.Nodup := by
      cases news with
      | nil => exact List.nodup_nil
      | cons i rest =>
        rw [hstep.eq_singleton List.mem_cons_self]
        exact List.pairwise_singleton ..
    rw [hstep.ended]
    refine List.nodup_append.mpr ⟨h.nodup, hnews, ?_⟩
    rintro i hi j hj rfl
    simpa [(hstep.new i hj).1] using (h.mem i).mp hi
  mem i := by
    rw [hstep.ended, List.mem_append, h.mem i]
    by_cases hi : i ∈ news
    · simp [hi, (hstep.new i hi).2]
    · simp [hi, hstep.rest i hi]

structure Undisturbed (s : Session) : Prop extends Invariant s, Recorded s where
  calm : s.Calm

theorem Undisturbed.empty : Undisturbed Session.empty :=
  ⟨Invariant.empty, Recorded.empty, fun i t ht => by simp [Session.empty, task?] at ht⟩

theorem Undisturbed.move (h : Undisturbed s) (hm : ∀ i, m ≠ .cancel i) :
    Undisturbed (s.move w m) := by
  obtain ⟨news, hstep⟩ := move_calm (w := w) h.toInvariant h.calm hm
  exact ⟨h.toInvariant.move m, h.toRecorded.step hstep, hstep.calm h.calm⟩

theorem Undisturbed.moves (h : Undisturbed s) (hms : ∀ i, .cancel i ∉ ms) :
    Undisturbed (s.moves w ms) := by
  induction ms generalizing s with
  | nil => exact h
  | cons m ms ih =>
    have hm : ∀ i, m ≠ .cancel i := fun i => (not_cancel_of_cons (hms i)).1
    exact ih (h.move hm) fun i => (not_cancel_of_cons (hms i)).2

end TenantStore.Session
