import TenantStore.Proofs.Exchanges
import TenantStore.Proofs.Session.Outcomes

/-!
# Exchanges of tasks

`exchanges` are the requests that one task sends in a run, each with the reply to it. `Proceeds`
says what a move does to a task together with what the task exchanges in it. `attempt_exchanges`:
in every run an attempt first checks, then makes the namespace and the table if the check says that
the table is missing, and it succeeds exactly if the check or both of the others did.
-/

namespace TenantStore

def World.answered (w : World) (before : List Request) : List Request → Provisioning.Exchanges
  | [] => []
  | q :: qs => (q, w.reply before q) :: w.answered (before ++ [q]) qs

namespace Session

open Provisioning (Exchanges)

def sentBy (w : World) (s : Session) (m : Move) (i : Nat) : List Request :=
  ((s.sends w m).filter fun e => e.1 = i).map (·.2)

def exchanges (w : World) (i : Nat) : List Move → Session → Exchanges
  | [], _ => []
  | m :: ms, s => w.answered s.sent (s.sentBy w m i) ++ exchanges w i ms (s.move w m)

/-- The program stops in this phase after these exchanges: it pauses, its reply is held back, or it
is done. -/
def Reaches (body : Remote Data) (es : Exchanges) : Phase → Prop
  | .ready rest => ∃ seconds, body.After es (.pause seconds rest)
  | .held rest => es ≠ [] ∧ body.After es rest
  | .finished r => body.After es (.done r)
  | _ => False

-- ---------------------------------------------------------------------------
-- A stretch of a program
-- ---------------------------------------------------------------------------

theorem reaches_after {es es' : Exchanges} {body next : Remote Data} (h : body.After es next)
    (hp : Reaches next es' p) : Reaches body (es ++ es') p := by
  cases p with
  | ready rest =>
    obtain ⟨seconds, hp⟩ := hp
    exact ⟨seconds, h.trans hp⟩
  | held rest => exact ⟨by simp [hp.1], h.trans hp.2⟩
  | finished r => exact h.trans hp
  | _ => exact hp

theorem stops_reaches {asked : Request → Prop} {ended : Except Failure Data → Prop}
    {body : Remote Data} (h : body.Within asked ended)
    (hp : Reaches body es p) : (∀ e ∈ es, asked e.1) ∧ Stops asked ended p := by
  cases p with
  | ready rest =>
    obtain ⟨seconds, hp⟩ := hp
    exact hp.within h
  | held rest => exact hp.2.within h
  | finished r => exact hp.within h
  | _ => exact hp.elim

theorem advance_reaches (w : World) (i : Nat) (body : Remote Data) (s : Session) : ∃ p qs,
    Reaches body (w.answered s.sent qs) p ∧ (s.advance w i body).sent = s.sent ++ qs ∧
      (s.advance w i body).tasks = s.tasks.modify i fun t => { t with phase := p } := by
  induction body generalizing s with
  | done r =>
    have hst := finish_stretch s i r
    exact ⟨.finished r, [], .here, hst.sent, hst.tasks⟩
  | ask q next ih =>
    simp only [advance]
    split
    · exact ⟨.held (next (w.reply s.sent q)), [q], ⟨List.cons_ne_nil _ _, .ask .here⟩, rfl, rfl⟩
    · obtain ⟨p, qs, hp, hsent, htasks⟩ := ih (w.reply s.sent q)
        (record (.asked q) { s with sent := s.sent ++ [q] })
      refine ⟨p, q :: qs, reaches_after (.ask .here) hp, ?_, htasks⟩
      rw [hsent]
      exact List.append_assoc ..
  | pause d next => exact ⟨.ready next, [], ⟨d, .here⟩, (List.append_nil _).symm, rfl⟩
  | log l next ih =>
    obtain ⟨p, qs, hp, hsent, htasks⟩ := ih (s.record (.logged l))
    exact ⟨p, qs, reaches_after (.log .here) hp, hsent, htasks⟩

-- ---------------------------------------------------------------------------
-- What a move does to a task
-- ---------------------------------------------------------------------------

/-- What a move can do to the task `i`, and what the task exchanges in it. -/
inductive Proceeds (w : World) (s : Session) (m : Move) (i : Nat) (t : Task) :
    Exchanges → Task → Prop
  | stays : Proceeds w s m i t [] t
  | calledOff (hm : t.key = none → m = .cancel i) (hopen : t.key.isSome → t.result? = none) :
      Proceeds w s m i t [] t.calledOff
  | hears (hk : t.key = none) (hp : t.phase = .joined a body)
      (ended : (s.task? a).bind Task.result? = some o) :
      Proceeds w s m i t [] { t with phase := .leaving a o body }
  | wakes (hp : t.phase = .held body) : Proceeds w s m i t [] { t with phase := .ready body }
  | joins (hk : t.key = none) (hp : t.phase = .fresh name table body) :
      Proceeds w s m i t [] { t with phase := .joined a body }
  | spreads (hk : t.key = none) (hp : t.phase = .gathering tables) :
      Proceeds w s m i t [] { t with phase := .gathered children }
  | served (hk : t.key = none) (hp : t.phase = .fresh name table body)
      (there : s.isProvisioned w.ns name) (own : Reaches body es p) :
      Proceeds w s m i t es { t with phase := p }
  | works (hp : t.phase = .ready body) (own : Reaches body es p) :
      Proceeds w s m i t es { t with phase := p }
  | goesOn (hk : t.key = none) (hp : t.phase = .leaving a (.ok v) body) (own : Reaches body es p) :
      Proceeds w s m i t es { t with phase := p }
  | ends (hk : t.key = none) (hp : t.phase = .leaving a (.error e) body) :
      Proceeds w s m i t [] { t with phase := .finished (.error e) }

variable {w : World} {s s' : Session} {m : Move} {ms ms' : List Move} {i j a : Nat} {t t' u : Task}
  {es es' : Exchanges} {p : Phase}

theorem Proceeds.key (h : Proceeds w s m i t es t') : t'.key = t.key := by
  cases h with
  | calledOff => exact Task.key_calledOff ..
  | _ => rfl

theorem sentBy_other (hm : m ≠ .run (.run i)) : s.sentBy w m i = [] := by
  unfold sentBy sends
  split
  · rename_i j
    rw [List.filter_eq_nil_iff.mpr, List.map_nil]
    intro e he
    obtain ⟨q, -, rfl⟩ := List.mem_map.mp he
    rintro h
    obtain rfl : j = i := of_decide_eq_true h
    exact hm rfl
  · rfl

theorem sentBy_run {qs : List Request} (h : (s.move w (.run (.run i))).sent = s.sent ++ qs) :
    s.sentBy w (.run (.run i)) i = qs := by
  have hsends : s.sends w (.run (.run i)) = qs.map fun q => (i, q) := by simp [sends, h]
  rw [sentBy, hsends, List.filter_eq_self.mpr, List.map_map]
  · exact List.map_id qs
  · intro e he
    obtain ⟨q, -, rfl⟩ := List.mem_map.mp he
    exact decide_eq_true rfl

theorem task?_modify {f : Task → Task} (tasks : s'.tasks = s.tasks.modify i f)
    (ht : s.task? i = some t) : s'.task? i = some (f t) := by
  rw [task?_of_modify tasks, if_pos rfl, ht]
  rfl

theorem task?_append_modify {f : Task → Task} {added : List Task}
    (tasks : s'.tasks = (s.tasks ++ added).modify i f) (ht : s.task? i = some t) :
    s'.task? i = some (f t) := by
  refine task?_modify (s := { s with tasks := s.tasks ++ added }) tasks ?_
  exact (List.getElem?_append_left (lt_of_task? ht)).trans ht

theorem advance_task (s₀ : Session) (ht : s₀.task? i = some t) (hsent : s₀.sent = s.sent)
    (body : Remote Data) : ∃ p qs, (s₀.advance w i body).task? i = some { t with phase := p } ∧
      (s₀.advance w i body).sent = s.sent ++ qs ∧ Reaches body (w.answered s.sent qs) p := by
  obtain ⟨p, qs, hp, hsent', htasks⟩ := advance_reaches w i body s₀
  rw [hsent] at hp hsent'
  exact ⟨p, qs, task?_modify htasks ht, hsent', hp⟩

theorem ensure_proceeds (ht : s.task? i = some t) (hk : t.key = none)
    (hp : t.phase = .fresh name table body) : ∃ t' qs,
    (s.ensure w i name table body).task? i = some t' ∧
      (s.ensure w i name table body).sent = s.sent ++ qs ∧
      Proceeds w s m i t (w.answered s.sent qs) t' := by
  have new : ∃ t' qs, ((s.startAttempt w (Namespace.tableKey w.ns name) name table).join i
        s.tasks.length body).task? i = some t' ∧
      ((s.startAttempt w (Namespace.tableKey w.ns name) name table).join i
        s.tasks.length body).sent = s.sent ++ qs ∧
      Proceeds w s m i t (w.answered s.sent qs) t' :=
    ⟨_, [], task?_append_modify rfl ht, (List.append_nil _).symm, .joins hk hp⟩
  unfold ensure
  simp only
  split
  · rename_i b u hcached
    split
    · rename_i hsucc
      have there : s.isProvisioned w.ns name := by simp [isProvisioned, hcached, hsucc]
      obtain ⟨p, qs, ht', hsent, hreach⟩ := advance_task (w := w) (s := s)
        (s.note ("Table " ++ Namespace.tableKey w.ns name ++ " already provisioned")) ht rfl body
      exact ⟨_, qs, ht', hsent, .served hk hp there hreach⟩
    · split
      · exact ⟨_, [], task?_modify rfl ht, (List.append_nil _).symm, .joins hk hp⟩
      · exact new
  · exact new

theorem leave_proceeds (h : Invariant s) (ht : s.task? i = some t) (hk : t.key = none)
    (hp : t.phase = .leaving a o body) : ∃ t' qs, (s.leave w i a o body).task? i = some t' ∧
      (s.leave w i a o body).sent = s.sent ++ qs ∧
      Proceeds w s m i t (w.answered s.sent qs) t' := by
  have ht' : ((s.abandon a o).removeWaiter a).task? i = some t := by
    rw [task?, tasks_removeWaiter]
    exact (h.abandon ht hk hp).2.1
  have hsent : ((s.abandon a o).removeWaiter a).sent = s.sent := by
    rw [sent_removeWaiter, sent_abandon]
  unfold leave
  cases o with
  | ok v =>
    obtain ⟨p, qs, ht', hsent, hreach⟩ := advance_task (w := w) (s := s) _ ht' hsent body
    exact ⟨_, qs, ht', hsent, .goesOn hk hp hreach⟩
  | error e =>
    have hst := finish_stretch ((s.abandon a (.error e)).removeWaiter a) i (.error e)
    refine ⟨_, [], task?_modify hst.tasks ht', ?_, .ends hk hp⟩
    rw [hst.sent, hsent]

theorem runTask_proceeds (h : Invariant s) (ht : s.task? i = some t) : ∃ t' qs,
    (s.runTask w i).task? i = some t' ∧ (s.runTask w i).sent = s.sent ++ qs ∧
      Proceeds w s m i t (w.answered s.sent qs) t' := by
  have call := h.toSound.key_eq_none ht
  unfold runTask
  rw [ht]
  cases hp : t.phase <;> simp only [Option.map_some, hp]
  case ready body =>
    obtain ⟨p, qs, ht', hsent, hreach⟩ := advance_task (w := w) (s := s) s ht rfl body
    exact ⟨_, qs, ht', hsent, .works hp hreach⟩
  case fresh name table body =>
    exact ensure_proceeds ht (call (by simp [hp]) (by simp [hp]) (by simp [hp])) hp
  case gathering tables =>
    have hk := call (by simp [hp]) (by simp [hp]) (by simp [hp])
    refine ⟨_, [], task?_append_modify (tasks_gather i tables s) ht, ?_, .spreads hk hp⟩
    rw [sent_gather, List.append_nil]
  case leaving b o body =>
    exact leave_proceeds h ht (call (by simp [hp]) (by simp [hp]) (by simp [hp])) hp
  all_goals exact ⟨t, [], ht, (List.append_nil _).symm, .stays⟩

theorem task?_other {f : Task → Task} (tasks : s'.tasks = s.tasks.modify j f) (hij : j ≠ i) :
    s'.task? i = s.task? i := by
  rw [task?_of_modify tasks, if_neg hij]

theorem ensure_other (ht : s.task? i = some t) (hij : j ≠ i) :
    (s.ensure w j name table body).task? i = some t := by
  have new : ((s.startAttempt w (Namespace.tableKey w.ns name) name table).join j
      s.tasks.length body).task? i = some t := by
    rw [task?_other rfl hij, task?_of_append rfl, if_neg (Nat.ne_of_lt (lt_of_task? ht)), ht]
  unfold ensure
  simp only
  split
  · split
    · obtain ⟨p, qs, -, -, htasks⟩ := advance_reaches w j body
        (s.note ("Table " ++ Namespace.tableKey w.ns name ++ " already provisioned"))
      exact (task?_other htasks hij).trans ht
    · split
      · have hother : ∀ b, (s.join j b body).task? i = s.task? i := fun b => task?_other rfl hij
        exact (hother _).trans ht
      · exact new
  · exact new

theorem leave_other (h : Invariant s) (hu : s.task? j = some u) (hku : u.key = none)
    (hp : u.phase = .leaving a o body) (ht : s.task? i = some t) (hij : j ≠ i) : ∃ t',
    (s.leave w j a o body).task? i = some t' ∧ Proceeds w s m i t [] t' := by
  have tasks : ∃ f, (s.leave w j a o body).tasks = (s.abandon a o).tasks.modify j f := by
    unfold leave
    cases o with
    | ok v =>
      obtain ⟨p, qs, -, -, htasks⟩ :=
        advance_reaches w j body ((s.abandon a (.ok v)).removeWaiter a)
      exact ⟨_, by rw [htasks, tasks_removeWaiter]⟩
    | error e =>
      have hst := finish_stretch ((s.abandon a (.error e)).removeWaiter a) j (.error e)
      exact ⟨_, by rw [hst.tasks, tasks_removeWaiter]⟩
  obtain ⟨f, tasks⟩ := tasks
  rw [task?_other tasks hij]
  -- the attempt is called off if this was its last call; no other task changes
  have stands := h.call j u hu hku
  simp only [CallStands, hp] at stands
  obtain ⟨-, v, hv, hkv, -⟩ := stands
  obtain ⟨heq, -⟩ | ⟨⟨n, heq⟩, -, hopen, -⟩ := abandon_cases o hv
  · rw [heq]
    exact ⟨t, ht, .stays⟩
  · rw [heq, task?_of_modify (tasks_callOff a _), show (s.note n).task? i = some t from ht]
    split
    · rename_i hai
      subst hai
      obtain rfl := Option.some.inj (hv.symm.trans ht)
      refine ⟨_, rfl, .calledOff (fun hk => ?_) fun _ => hopen⟩
      simp [hk] at hkv
    · exact ⟨t, rfl, .stays⟩

theorem runTask_other (h : Invariant s) (ht : s.task? i = some t) (hij : j ≠ i) : ∃ t',
    (s.runTask w j).task? i = some t' ∧ Proceeds w s m i t [] t' := by
  unfold runTask
  cases hu : s.task? j with
  | none => exact ⟨t, ht, .stays⟩
  | some u =>
    cases hp : u.phase <;> simp only [Option.map_some, hp]
    case ready body =>
      obtain ⟨p, qs, -, -, htasks⟩ := advance_reaches w j body s
      exact ⟨t, (task?_other htasks hij).trans ht, .stays⟩
    case fresh name table body => exact ⟨t, ensure_other ht hij, .stays⟩
    case gathering tables =>
      refine ⟨t, ?_, .stays⟩
      rw [task?_other (s := { s with tasks := s.tasks ++ _ }) (tasks_gather j tables s) hij]
      exact (List.getElem?_append_left (lt_of_task? ht)).trans ht
    case leaving a o body =>
      have hk := h.toSound.key_eq_none hu (by simp [hp]) (by simp [hp]) (by simp [hp])
      exact leave_other h hu hk hp ht hij
    all_goals exact ⟨t, ht, .stays⟩

theorem heard_proceeds (h : Invariant s) (ht : s.task? i = some t)
    (ended : (s.task? a).bind Task.result? = some o) : Proceeds w s m i t [] (t.heard a o) := by
  unfold Task.heard
  split
  · rename_i b body hp
    split
    · rename_i hba
      subst hba
      exact .hears (h.toSound.key_eq_none ht (by simp [hp]) (by simp [hp]) (by simp [hp])) hp ended
    · exact .stays
  · exact .stays

theorem settle_proceeds (h : Invariant s) (ht : s.task? i = some t) (a : Nat) : ∃ t',
    (s.settle a).task? i = some t' ∧ Proceeds w s m i t [] t' := by
  by_cases hu : ∃ key c o, s.task? a = some ⟨some key, c, .finished o⟩
  · obtain ⟨key, c, o, hu⟩ := hu
    rw [task?_settle hu, ht]
    exact ⟨_, rfl, heard_proceeds h ht (by rw [hu]; rfl)⟩
  · have heq : s.settle a = s := by
      unfold settle
      split
      · rename_i key c o hu'
        exact absurd ⟨key, c, o, hu'⟩ hu
      · rfl
    rw [heq]
    exact ⟨t, ht, .stays⟩

theorem woken_proceeds : Proceeds w s m i t [] t.woken := by
  unfold Task.woken
  split
  · rename_i body hp
    exact .wakes hp
  · exact .stays

theorem Proceeds.before {s₀ : Session} (h : Proceeds w s₀ m i t es t') (tasks : s₀.tasks = s.tasks)
    (cache : s₀.cache = s.cache) : Proceeds w s m i t es t' := by
  obtain ⟨ts, ready, cs, waiters, closed, parked, ended, sent, events⟩ := s₀
  subst tasks cache
  cases h with
  | stays => exact .stays
  | calledOff hm hopen => exact .calledOff hm hopen
  | hears hk hp ended => exact .hears hk hp ended
  | wakes hp => exact .wakes hp
  | joins hk hp => exact .joins hk hp
  | spreads hk hp => exact .spreads hk hp
  | served hk hp there own => exact .served hk hp there own
  | works hp own => exact .works hp own
  | goesOn hk hp own => exact .goesOn hk hp own
  | ends hk hp => exact .ends hk hp

theorem move_proceeds (h : Invariant s) (m : Move) (ht : s.task? i = some t) : ∃ t',
    (s.move w m).task? i = some t' ∧
      Proceeds w s m i t (w.answered s.sent (s.sentBy w m i)) t' := by
  have silent : m ≠ .run (.run i) → (∃ t', (s.move w m).task? i = some t' ∧
      Proceeds w s m i t [] t') → ∃ t', (s.move w m).task? i = some t' ∧
        Proceeds w s m i t (w.answered s.sent (s.sentBy w m i)) t' := fun hm hother => by
    rw [sentBy_other hm]
    exact hother
  cases m with
  | start c own =>
    refine silent (by simp) ⟨t, ?_, .stays⟩
    exact (List.getElem?_append_left (lt_of_task? ht)).trans ht
  | cancel j =>
    refine silent (by simp) ?_
    simp only [move]
    split
    · rename_i hcall
      rw [task?_of_modify (tasks_callOff j s), ht]
      split
      · rename_i hji
        subst hji
        refine ⟨_, rfl, .calledOff (fun _ => rfl) fun hk => ?_⟩
        simp only [ht, Option.any_some, Option.isNone_iff_eq_none] at hcall
        simp [hcall] at hk
      · exact ⟨t, rfl, .stays⟩
    · exact ⟨t, ht, .stays⟩
  | run j =>
    by_cases hj : j ∈ s.ready
    · have hmove : s.move w (.run j) = runJob w j { s with ready := s.ready.erase j } := if_pos hj
      have hrest : Invariant { s with ready := s.ready.erase j } := h.of_eq rfl rfl rfl
      cases j with
      | run k =>
        by_cases hki : k = i
        · subst hki
          obtain ⟨t', qs, ht', hsent, hproceeds⟩ := runTask_proceeds (w := w) hrest ht
          rw [sentBy_run (by rw [hmove]; exact hsent), hmove]
          exact ⟨t', ht', hproceeds.before rfl rfl⟩
        · obtain ⟨t', ht', hproceeds⟩ := runTask_other (w := w) hrest ht hki
          refine silent (by simpa using hki) ⟨t', ?_, hproceeds.before rfl rfl⟩
          rw [hmove]
          exact ht'
      | settle a =>
        obtain ⟨t', ht', hproceeds⟩ := settle_proceeds (w := w) hrest ht a
        refine silent (by simp) ⟨t', ?_, hproceeds.before rfl rfl⟩
        rw [hmove]
        exact ht'
    · have hmove : s.move w (.run j) = s := if_neg hj
      by_cases hji : j = .run i
      · subst hji
        rw [sentBy_run (by rw [hmove, List.append_nil]), hmove]
        exact ⟨t, ht, .stays⟩
      · refine silent (by simpa using hji) ⟨t, ?_, .stays⟩
        rw [hmove]
        exact ht
  | reply j =>
    refine silent (by simp) ?_
    rw [move, task?_of_modify (tasks_deliver _ j)]
    split
    · exact ⟨t.woken, congrArg (Option.map Task.woken) ht, woken_proceeds⟩
    · exact ⟨t, ht, .stays⟩
  | hold e => exact silent (by simp) ⟨t, ht, .stays⟩
  | release e =>
    refine silent (by simp) ?_
    rw [move, task?_release, ht]
    split
    · exact ⟨t.woken, rfl, woken_proceeds⟩
    · exact ⟨t, rfl, .stays⟩

-- ---------------------------------------------------------------------------
-- Runs
-- ---------------------------------------------------------------------------

/-- What each move preserves of a task and its exchanges so far, a run preserves. -/
theorem Invariant.along {P : Session → Exchanges → Task → Prop}
    (step : ∀ {s m t es es' t'}, Invariant s → s.task? i = some t →
      (s.move w m).task? i = some t' → Proceeds w s m i t es' t' → P s es t →
      P (s.move w m) (es ++ es') t')
    (h : Invariant s) (ht : s.task? i = some t) (hP : P s es t) (ms : List Move) :
    ∃ t', (s.moves w ms).task? i = some t' ∧ P (s.moves w ms) (es ++ exchanges w i ms s) t' := by
  induction ms generalizing s t es with
  | nil => exact ⟨t, ht, by rwa [exchanges, List.append_nil]⟩
  | cons m ms ih =>
    obtain ⟨u, hu, hproceeds⟩ := move_proceeds (w := w) h m ht
    obtain ⟨t', ht', hP'⟩ := ih (h.move m) hu (step h ht hu hproceeds hP)
    refine ⟨t', ht', ?_⟩
    rwa [exchanges, ← List.append_assoc]

theorem sentBy_none (h : Invariant s) (hnone : s.task? i = none) : s.sentBy w m i = [] := by
  rw [sentBy, List.filter_eq_nil_iff.mpr, List.map_nil]
  rintro ⟨j, q⟩ he hji
  obtain rfl : j = i := of_decide_eq_true hji
  obtain ⟨t, ht, -⟩ := (move_sent h m).2 j q he
  simp [hnone] at ht

theorem exchanges_append : exchanges w i (ms ++ ms') s =
    exchanges w i ms s ++ exchanges w i ms' (s.moves w ms) := by
  induction ms generalizing s with
  | nil => rfl
  | cons m ms ih =>
    rw [List.cons_append, exchanges, ih, ← List.append_assoc]
    rfl

theorem Invariant.task?_none (h : Invariant s) (hnone : (s.moves w ms).task? i = none) :
    s.task? i = none := by
  cases ht : s.task? i with
  | none => rfl
  | some t =>
    obtain ⟨t', ht', -⟩ := h.onward (w := w) ms ht
    exact absurd (hnone.symm.trans ht') nofun

theorem Invariant.exchanges_before (h : Invariant s) (hnone : (s.moves w ms).task? i = none) :
    exchanges w i ms s = [] := by
  induction ms generalizing s with
  | nil => rfl
  | cons m ms ih =>
    rw [exchanges, sentBy_none h (h.task?_none hnone), World.answered, List.nil_append]
    exact ih (h.move m) hnone

theorem added (hnone : s.task? i = none) (ht : (s.moves w ms).task? i = some t) :
    ∃ before m after u, ms = before ++ m :: after ∧ (s.moves w before).task? i = none ∧
      ((s.moves w before).move w m).task? i = some u := by
  induction ms generalizing s with
  | nil => exact absurd (hnone.symm.trans ht) nofun
  | cons m ms ih =>
    cases hu : (s.move w m).task? i with
    | some u => exact ⟨[], m, ms, u, rfl, hnone, hu⟩
    | none =>
      obtain ⟨before, m', after, u, rfl, hnone', hu'⟩ := ih hu ht
      exact ⟨m :: before, m', after, u, rfl, hnone', hu'⟩

/-- What holds of a task when it is added, and is preserved by every move, holds ever after. -/
theorem added_along {P : Session → Exchanges → Task → Prop} {before after first rest : List Move}
    (step : ∀ {s m t es es' t'}, Invariant s → s.task? i = some t →
      (s.move w m).task? i = some t' → Proceeds w s m i t es' t' → P s es t →
      P (s.move w m) (es ++ es') t')
    (hnone : (empty.moves w before).task? i = none)
    (hu : ((empty.moves w before).move w m).task? i = some u)
    (hP : P ((empty.moves w before).move w m) [] u) (hms : before ++ m :: after = first ++ rest)
    (ht : (empty.moves w first).task? i = some t) :
    P (empty.moves w first) (exchanges w i first empty) t := by
  have hinv := Invariant.reachable w before
  -- the task is not there before the move that adds it, so `first` goes beyond that move
  obtain ⟨between, rfl, heq⟩ | ⟨between, rfl, -⟩ := List.append_eq_append_iff.mp hms
  · cases between with
    | nil =>
      rw [List.append_nil] at ht
      exact absurd (hnone.symm.trans ht) nofun
    | cons m' between =>
      obtain ⟨rfl, rfl⟩ := List.cons.inj heq
      obtain ⟨t', ht', hP'⟩ := Invariant.along (w := w) step (hinv.move m) hu hP between
      rw [moves_append, moves_cons] at ht ⊢
      obtain rfl := Option.some.inj (ht.symm.trans ht')
      rwa [exchanges_append, Invariant.empty.exchanges_before hnone, exchanges,
        sentBy_none hinv hnone]
  · rw [moves_append] at hnone
    exact absurd (((Invariant.reachable w first).task?_none hnone).symm.trans ht) nofun

-- ---------------------------------------------------------------------------
-- Attempts
-- ---------------------------------------------------------------------------

def HasCome (body : Remote Data) (es : Exchanges) : Phase → Prop
  | .ready rest | .held rest => body.After es rest
  | .finished r => body.After es (.done r)
  | _ => False

/-- An attempt is on its way through its program, unless it was called off on the way. -/
def OnItsWay (body : Remote Data) (es : Exchanges) (t : Task) : Prop :=
  (∃ rest, body.After es rest) ∧ (t.cancelling = false → HasCome body es t.phase)

theorem hasCome_of_reaches {body next : Remote Data} (h : body.After es next)
    (hp : Reaches next es' p) : HasCome body (es ++ es') p := by
  cases p with
  | ready rest =>
    obtain ⟨seconds, hp⟩ := reaches_after h hp
    have hrest := hp.trans (.pause .here)
    rwa [List.append_nil] at hrest
  | held rest => exact (reaches_after h hp).2
  | finished r => exact reaches_after h hp
  | _ => exact hp

theorem after_of_hasCome {body : Remote Data} (h : HasCome body es p) :
    ∃ rest, body.After es rest := by
  cases p with
  | ready rest => exact ⟨rest, h⟩
  | held rest => exact ⟨rest, h⟩
  | finished r => exact ⟨.done r, h⟩
  | _ => exact h.elim

theorem reaches_done (h : Reaches (.done r) es p) : es = [] ∧ p = .finished r := by
  cases p with
  | ready rest =>
    obtain ⟨seconds, h⟩ := h
    cases h
  | held rest =>
    obtain ⟨hne, h⟩ := h
    cases h
    exact absurd rfl hne
  | finished r' =>
    cases h
    exact ⟨rfl, rfl⟩
  | _ => exact h.elim

theorem onItsWay_proceeds {body : Remote Data} (h : Invariant s) (ht : s.task? i = some t)
    (hk : t.key.isSome) (hproceeds : Proceeds w s m i t es' t') (hway : OnItsWay body es t) :
    OnItsWay body (es ++ es') t' := by
  obtain ⟨hrest, hcome⟩ := hway
  have stands := h.attempt i t ht hk
  cases hproceeds with
  | stays =>
    rw [List.append_nil]
    exact ⟨hrest, hcome⟩
  | calledOff _ hopen =>
    rw [List.append_nil]
    exact ⟨hrest, fun hc => by simp [(attemptStands_calledOff stands (hopen hk)).2] at hc⟩
  | wakes hp =>
    rw [List.append_nil]
    refine ⟨hrest, fun hc => ?_⟩
    have hheld := hcome hc
    rwa [hp] at hheld
  | works hp own =>
    cases hc : t.cancelling with
    | false =>
      have hready := hcome hc
      rw [hp] at hready
      have hcome' := hasCome_of_reaches hready own
      exact ⟨after_of_hasCome hcome', fun _ => hcome'⟩
    | true =>
      -- one that was called off has nothing left to do
      rw [AttemptStands, hc, hp] at stands
      subst stands
      obtain ⟨rfl, -⟩ := reaches_done own
      rw [List.append_nil]
      exact ⟨hrest, by simp⟩
  | hears hk' | joins hk' | spreads hk' | served hk' | goesOn hk' | ends hk' => simp [hk'] at hk

/-- An attempt of a run is at a table that a call needed, and on its way to have it. -/
theorem attempt_onItsWay (w : World) (ms : List Move)
    (ht : (empty.moves w ms).task? a = some t) (hk : t.key.isSome) : ∃ name table,
    t.key = some (Namespace.tableKey w.ns name) ∧
      (∃ before after, ms = before ++ after ∧ (empty.moves w before).Needs name table) ∧
      OnItsWay (attemptWork w name table) (exchanges w a ms empty) t := by
  obtain ⟨before, m, after, u, rfl, hnone, hu⟩ := added (s := empty) (w := w) rfl ht
  have hinv := Invariant.reachable w before
  have hmoves := ht
  rw [moves_append, moves_cons] at hmoves
  obtain ⟨t', ht', hon⟩ := (hinv.move (w := w) m).onward (w := w) after hu
  obtain rfl := Option.some.inj (hmoves.symm.trans ht')
  have hnew := ((move_effect (w := w) hinv m).new a u hu hnone).needed
  obtain ⟨key, hkey⟩ := Option.isSome_iff_exists.mp (hon.key ▸ hk)
  obtain ⟨⟨name, table, rfl, hp, hneeds⟩, -⟩ := hnew key hkey
  have hstart : u.key.isSome ∧ OnItsWay (attemptWork w name table) [] u := by
    refine ⟨by simp [hkey], ⟨_, .here⟩, fun _ => ?_⟩
    rw [hp]
    exact .here
  obtain ⟨-, hway⟩ := added_along
    (P := fun _ es t => t.key.isSome ∧ OnItsWay (attemptWork w name table) es t)
    (fun h ht _ hproceeds hP =>
      ⟨hproceeds.key ▸ hP.1, onItsWay_proceeds h ht hP.1 hproceeds hP.2⟩)
    hnone hu hstart (List.append_nil _).symm ht
  exact ⟨name, table, hon.key.trans hkey, ⟨before, m :: after, rfl, hneeds⟩, hway⟩

theorem keeps_attemptWork (w : World) (name : String) (table : Table) :
    (attemptWork w name table).Keeps fun es r => ∃ checks schemas tables,
      es = checks ++ (schemas ++ tables) ∧
      Provisioning.Course w.plane w.ns name table checks schemas tables ∧
      ∀ r', r = some r' →
        (r' = .ok .null ↔ LastAnswer Reply.SaysThere checks ∨ Provisioning.Made schemas tables) := by
  refine Program.keeps_andThen (Provisioning.keeps_attempt w.plane w.ns name table) ?_ ?_
  · rintro es ⟨checks, schemas, tables, hes, hcourse, -⟩
    exact ⟨checks, schemas, tables, hes, hcourse, nofun⟩
  · rintro es r ⟨checks, schemas, tables, hes, hcourse, hr⟩
    refine ⟨checks, schemas, tables, (List.append_nil es).trans hes, hcourse, ?_⟩
    rintro _ ⟨⟩
    refine Iff.trans ?_ (hr r rfl)
    cases r <;> simp [Except.map]

/-- The exchanges of an attempt at the table, and what they say of its end. -/
theorem OnItsWay.course (hway : OnItsWay (attemptWork w name table) es t)
    (stands : AttemptStands t) : ∃ checks schemas tables, es = checks ++ (schemas ++ tables) ∧
      Provisioning.Course w.plane w.ns name table checks schemas tables ∧
      ∀ r, t.result? = some r → (r = .ok .null ↔ t.cancelling = false ∧
        (LastAnswer Reply.SaysThere checks ∨ Provisioning.Made schemas tables)) := by
  obtain ⟨⟨rest, hrest⟩, hcome⟩ := hway
  have hkeeps := keeps_attemptWork w name table
  cases hc : t.cancelling with
  | true =>
    obtain ⟨checks, schemas, tables, hes, hcourse, -⟩ := hkeeps.after hrest
    refine ⟨checks, schemas, tables, hes, hcourse, fun r hr => ?_⟩
    have hp := Task.result?_eq_some.mp hr
    rw [AttemptStands, hc, hp] at stands
    subst stands
    simp
  | false =>
    cases hr : t.result? with
    | none =>
      obtain ⟨checks, schemas, tables, hes, hcourse, -⟩ := hkeeps.after hrest
      exact ⟨checks, schemas, tables, hes, hcourse, by simp⟩
    | some r =>
      have hdone := hcome hc
      rw [Task.result?_eq_some.mp hr] at hdone
      obtain ⟨checks, schemas, tables, hes, hcourse, hends⟩ := hkeeps.after hdone
      refine ⟨checks, schemas, tables, hes, hcourse, ?_⟩
      rintro _ ⟨⟩
      exact (hends r rfl).trans (and_iff_right rfl).symm

/-- In every run the requests of an attempt form blocks of checks, of requests for the namespace
and of requests for the table, and its success is decided by the last replies. -/
theorem attempt_exchanges (w : World) (ms : List Move) :
    let s := empty.moves w ms
    ∀ a t, s.task? a = some t → t.key.isSome → ∃ name table checks schemas tables,
      t.key = some (Namespace.tableKey w.ns name) ∧
      (∃ before after, ms = before ++ after ∧ (empty.moves w before).Needs name table) ∧
      exchanges w a ms empty = checks ++ (schemas ++ tables) ∧
      Provisioning.Course w.plane w.ns name table checks schemas tables ∧
      (∀ r, t.result? = some r → (r = .ok .null ↔ t.cancelling = false ∧
        (LastAnswer Reply.SaysThere checks ∨ Provisioning.Made schemas tables))) ∧
      (t.result? = some (.ok .null) → s.isProvisioned w.ns name) ∧
      ∀ i needed, Ensures w ms needed i → WaitsFor w empty ms i a →
        (∀ r, s.result? i = some r → s.result? a = some r) ∧
          (s.Idle → ∃ r, s.result? i = some r) := by
  intro s a t ht hk
  have hinv := Invariant.reachable w ms
  obtain ⟨name, table, hkey, hneeds, hway⟩ := attempt_onItsWay w ms ht hk
  obtain ⟨checks, schemas, tables, hes, hcourse, hends⟩ := hway.course (hinv.attempt a t ht hk)
  refine ⟨name, table, checks, schemas, tables, hkey, hneeds, hes, hcourse, hends, fun hr => ?_, ?_⟩
  · have hp := Task.result?_eq_some.mp hr
    exact hinv.isProvisioned ht hkey (by simp [Task.succeeded, hp])
  · intro i needed hensures hwaits
    exact ⟨fun r hr => hensures.hears hr hwaits, fun hidle => hensures.ends hidle⟩

/-- A control plane that has no table yet and makes every one. -/
def obliging : World where
  plane :=
    ⟨⟨"", "", "", "", Settings.defaultUrl, .production, Settings.defaultTimeout, 1, 0, false⟩, ⟨1, 0⟩⟩
  ns := "tenant"
  reply _ q := if q.endpoint = .checkTable then .response 404 [] 900 else .response 200 [0x31] 900

def bare : Table := ⟨[], none, by decide⟩

def oneCall : List Move :=
  [.ensureTable "notes" bare, .run (.run 0), .run (.run 1), .run (.settle 1), .run (.run 0)]

theorem attempt_exchanges_oneCall : ∃ name table checks schemas tables,
    exchanges obliging 1 oneCall empty = checks ++ (schemas ++ tables) ∧
    Provisioning.Course obliging.plane "tenant" name table checks schemas tables ∧
    (LastAnswer Reply.SaysThere checks ∨ Provisioning.Made schemas tables) ∧
    (empty.moves obliging oneCall).isProvisioned "tenant" name ∧
    (empty.moves obliging oneCall).result? 1 = some (.ok .null) ∧
    (exchanges obliging 1 oneCall empty).map (·.1.endpoint) =
      [.checkTable, .ensureSchema, .ensureTable] := by
  have ht : (empty.moves obliging oneCall).task? 1 =
      some ⟨some "tenant.notes", false, .finished (.ok .null)⟩ := by rfl
  obtain ⟨name, table, checks, schemas, tables, -, -, hes, hcourse, hends, hthere, hcalls⟩ :=
    attempt_exchanges obliging oneCall 1 _ ht rfl
  have hcall : Ensures obliging oneCall "notes" 0 :=
    ⟨[], oneCall.tail, bare, rfl, rfl, by simp [oneCall]⟩
  have hwaits : WaitsFor obliging empty oneCall 0 1 :=
    ⟨oneCall.take 2, oneCall.drop 2, ⟨none, false, .joined 1 ensured⟩, rfl, by rfl, rfl⟩
  refine ⟨name, table, checks, schemas, tables, hes, hcourse, ((hends _ rfl).mp rfl).2, hthere rfl,
    (hcalls 0 _ hcall hwaits).1 _ ?_, ?_⟩
  · rfl
  · rfl

end Session

end TenantStore
