import TenantStore.Proofs.Session.Moves

/-!
# No session gets stuck

`Owes` says which jobs the tasks of a session call for: a task with a step to make is to be run,
and a finished attempt that calls still wait for is to be settled. Every such job is in the queue,
and every reply that is awaited is held back (`Queued`). So a session with an empty queue and no
held replies has no call left that is not finished (`Queued.finished_of_idle`).
-/

namespace TenantStore

def Phase.runs : Phase → Bool
  | .fresh .. | .gathering _ | .ready _ | .leaving .. => true
  | _ => false

namespace Session

/-- What the tasks of a session call for. -/
def Owes (s : Session) : Job → Prop
  | .run i => ∃ t, s.task? i = some t ∧ t.phase.runs
  | .settle a => ∃ u r, s.task? a = some u ∧ u.key.isSome ∧ u.result? = some r ∧
      ∃ i t body, s.task? i = some t ∧ t.phase = .joined a body

/-- Every owed job is in the queue, but for the one that has just been taken from it. -/
structure Queued (taken : Option Job) (s : Session) : Prop where
  jobs : ∀ j, s.Owes j → some j ≠ taken → j ∈ s.ready
  replies : ∀ i t body, s.task? i = some t → t.phase = .held body → ∃ e, (e, i) ∈ s.parked

def Idle (s : Session) : Prop :=
  s.ready = [] ∧ s.parked = []

variable {w : World} {s s' : Session} {m : Move} {i j a : Nat} {t u : Task} {f : Task → Task}
  {p : Phase} {taken : Option Job} {body : Remote Data}

theorem Queued.take (h : Queued none s) (j : Job) :
    Queued (some j) { s with ready := s.ready.erase j } where
  jobs k hk hne := (List.mem_erase_of_ne (by simpa using hne)).mpr (h.jobs k hk (by simp))
  replies := h.replies

theorem Queued.drop {j : Job} (h : Queued (some j) s) (hj : ¬ s.Owes j) : Queued none s where
  jobs k hk _ := h.jobs k hk (by rintro ⟨⟩; exact hj hk)
  replies := h.replies

theorem Queued.of_eq (h : Queued taken s) (tasks : s'.tasks = s.tasks)
    (ready : ∀ j ∈ s.ready, j ∈ s'.ready) (parked : s'.parked = s.parked) : Queued taken s' := by
  obtain ⟨tasks', ready', cache, waiters, closed, parked', ended, sent, events⟩ := s'
  subst tasks parked
  refine ⟨fun j hj hne => ready j (h.jobs j ?_ hne), h.replies⟩
  cases j <;> exact hj

theorem Queued.of_modify (h : Queued taken s) (htaken : taken = taken' ∨ taken = some (.run i))
    (tasks : s'.tasks = s.tasks.modify i f) (ht : s.task? i = some t)
    (ready : ∀ j ∈ s.ready, j ∈ s'.ready)
    (parked : ∀ e j, j ≠ i → (e, j) ∈ s.parked → (e, j) ∈ s'.parked)
    (runs : (f t).phase.runs → .run i ∈ s'.ready)
    (held : ∀ body, (f t).phase = .held body → ∃ e, (e, i) ∈ s'.parked)
    (joins : ∀ a body, (f t).phase = .joined a body →
      ∀ u, s.task? a = some u → u.key.isSome → u.result? = none)
    (ends : ∀ r, (f t).result? = some r → (f t).key.isSome →
      .settle i ∈ s'.ready ∨ t.key.isSome ∧ t.result? = some r) : Queued taken' s' := by
  have get : ∀ j, s'.task? j = if i = j then (s.task? j).map f else s.task? j :=
    task?_of_modify tasks
  have hi : s'.task? i = some (f t) := by rw [get, if_pos rfl, ht]; rfl
  have other : ∀ j, j ≠ i → s'.task? j = s.task? j := fun j hj => by rw [get, if_neg (Ne.symm hj)]
  refine ⟨fun j hj hnt => ?_, fun j v body hv hp => ?_⟩
  · cases j with
    | run j =>
      obtain ⟨v, hv, hr⟩ := hj
      by_cases hji : j = i
      · subst hji
        obtain rfl := Option.some.inj (hv.symm.trans hi)
        exact runs hr
      · rw [other j hji] at hv
        refine ready _ (h.jobs _ ⟨v, hv, hr⟩ ?_)
        obtain rfl | rfl := htaken
        · exact hnt
        · simpa using hji
    | settle a =>
      obtain ⟨u, r, hu, hku, hru, k, v, body, hv, hp⟩ := hj
      have hnt : some (Job.settle a) ≠ taken := by
        obtain rfl | rfl := htaken
        · exact hnt
        · simp
      by_cases hki : k = i
      · -- the task that changed waits for no attempt that is finished
        subst hki
        obtain rfl := Option.some.inj (hv.symm.trans hi)
        by_cases hak : a = k
        · subst hak
          obtain rfl := Option.some.inj (hu.symm.trans hi)
          simp [Task.result?, hp] at hru
        · rw [other a hak] at hu
          simp [joins a body hp u hu hku] at hru
      · rw [other k hki] at hv
        have owed : ∀ u, s.task? a = some u → u.key.isSome → u.result? = some r →
            .settle a ∈ s'.ready := fun u hu hku hru =>
          ready _ (h.jobs _ ⟨u, r, hu, hku, hru, k, v, body, hv, hp⟩ hnt)
        by_cases hai : a = i
        · subst hai
          obtain rfl := Option.some.inj (hu.symm.trans hi)
          obtain hin | ⟨hkt, hrt⟩ := ends r hru hku
          · exact hin
          · exact owed t ht hkt hrt
        · rw [other a hai] at hu
          exact owed u hu hku hru
  · by_cases hji : j = i
    · subst hji
      obtain rfl := Option.some.inj (hv.symm.trans hi)
      exact held body hp
    · rw [other j hji] at hv
      obtain ⟨e, he⟩ := h.replies j v body hv hp
      exact ⟨e, parked e j hji he⟩

theorem Queued.of_append (h : Queued taken s) (tasks : s'.tasks = s.tasks ++ [t])
    (hr : t.phase.runs) (queued : .run s.tasks.length ∈ s'.ready)
    (ready : ∀ j ∈ s.ready, j ∈ s'.ready)
    (parked : s'.parked = s.parked) : Queued taken s' := by
  have old : ∀ j u, s'.task? j = some u → (∀ r, u.phase ≠ .finished r) ∧ u.phase.runs = true ∧
      j = s.tasks.length ∨ s.task? j = some u := by
    intro j u hu
    rw [task?_of_append tasks] at hu
    split at hu
    · obtain rfl := Option.some.inj hu
      refine .inl ⟨fun r hp => ?_, hr, ‹_›⟩
      simp [hp, Phase.runs] at hr
    · exact .inr hu
  refine ⟨fun j hj hnt => ?_, fun j v body hv hp => ?_⟩
  · cases j with
    | run j =>
      obtain ⟨v, hv, hrv⟩ := hj
      obtain ⟨-, -, rfl⟩ | hv := old j v hv
      · exact queued
      · exact ready _ (h.jobs _ ⟨v, hv, hrv⟩ hnt)
    | settle a =>
      obtain ⟨u, r, hu, hku, hru, k, v, body, hv, hp⟩ := hj
      obtain ⟨hend, -⟩ | hu := old a u hu
      · exact absurd (Task.result?_eq_some.mp hru) (hend _)
      · obtain ⟨-, hrv, -⟩ | hv := old k v hv
        · simp [hp, Phase.runs] at hrv
        · exact ready _ (h.jobs _ ⟨u, r, hu, hku, hru, k, v, body, hv, hp⟩ hnt)
  · obtain ⟨-, hrv, -⟩ | hv := old j v hv
    · simp [hp, Phase.runs] at hrv
    · exact parked ▸ h.replies j v body hv hp

-- ---------------------------------------------------------------------------
-- Operations
-- ---------------------------------------------------------------------------

theorem Queued.stretch (h : Queued (some (.run i)) s) (ht : s.task? i = some t)
    (hs : Stops asked result p) (hst : Stretch i p qs s s') : Queued none s' := by
  refine h.of_modify (.inr rfl) hst.tasks ht hst.ready (fun e j _ => hst.parked (e, j)) ?_ ?_ ?_ ?_
  · cases p with
    | ready body => exact fun _ => hst.queued body rfl
    | held | finished => exact nofun
    | _ => exact hs.elim
  · exact hst.kept
  · intro a body hp
    rw [show p = .joined a body from hp] at hs
    exact hs.elim
  · intro r hr hk
    refine .inl (hst.settling r t ?_ ht hk)
    cases p <;> simp_all [Task.result?]

theorem Queued.advance (h : Queued (some (.run i)) s) (ht : s.task? i = some t)
    (body : Remote Data) : Queued none (s.advance w i body) := by
  obtain ⟨p, qs, hbody, hst⟩ := advance_stretch w i body s
  exact h.stretch ht (hbody _ _ body.within_true).1 hst

theorem Queued.join (h : Queued (some (.run i)) s) (ht : s.task? i = some t)
    (hopen : ∀ u, s.task? a = some u → u.result? = none) : Queued none (s.join i a body) := by
  refine h.of_modify (.inr rfl) rfl ht (fun _ hj => hj) (fun _ _ _ he => he) nofun nofun ?_ nofun
  rintro b _ hp u hu -
  obtain ⟨rfl, -⟩ := Phase.joined.inj hp
  exact hopen u hu

theorem Queued.ensure (h : Queued (some (.run i)) s) (ht : s.task? i = some t) :
    Queued none (s.ensure w i name table body) := by
  have new : ∀ key, Queued none ((s.startAttempt w key name table).join i s.tasks.length body) := by
    intro key
    have tasks : (s.startAttempt w key name table).tasks =
        s.tasks ++ [⟨some key, false, .ready (attemptWork w name table)⟩] := rfl
    have h' : Queued (some (.run i)) (s.startAttempt w key name table) :=
      h.of_append tasks rfl (List.mem_append_right _ (List.mem_singleton.mpr rfl))
        (fun j hj => List.mem_append_left _ hj) rfl
    refine h'.join (t := t) ?_ fun u hu => ?_
    · rw [task?_of_append tasks, if_neg (Nat.ne_of_lt (lt_of_task? ht)), ht]
    · rw [task?_of_append tasks, if_pos rfl] at hu
      obtain rfl := Option.some.inj hu
      rfl
  unfold Session.ensure
  simp only
  split
  · rename_i b u hcached
    split
    · have h' : Queued (some (.run i))
          (s.note ("Table " ++ Namespace.tableKey w.ns name ++ " already provisioned")) :=
        h.of_eq rfl (fun _ hj => hj) rfl
      exact h'.advance ht body
    · split
      · rename_i hshare
        refine h.join ht fun v hv => ?_
        obtain rfl := Option.some.inj ((cached?_eq_some hcached).2.symm.trans hv)
        simpa [Task.isFinished] using (Bool.and_eq_true_iff.mp hshare).1
      · exact new _
  · exact new _

/-- A task that is cancelled has a step to make, which is queued if it was not before. -/
theorem ready_callOff (ht : s.task? i = some t) : (s.callOff i).ready = s.ready ++
    if t.calledOff.phase.runs && !t.phase.runs then [.run i] else [] := by
  obtain ⟨key, cancelling, phase⟩ := t
  unfold Session.callOff
  rw [ht]
  cases phase <;> simp [Task.calledOff, Phase.runs, setPhase, wake, enqueue]

theorem parked_callOff (hj : j ≠ i) (he : (e, j) ∈ s.parked) :
    (e, j) ∈ (s.callOff i).parked := by
  unfold Session.callOff
  split
  case h_4 => exact List.mem_filter.mpr ⟨he, by simpa using hj⟩
  all_goals exact he

theorem Queued.callOff (h : Queued taken s) (ht : s.task? i = some t)
    (hnt : some (.run i) ≠ taken) : Queued taken (s.callOff i) := by
  refine h.of_modify (.inl rfl) (tasks_callOff i s) ht ?_ (fun e j hj he => parked_callOff hj he) ?_
    ?_ ?_ ?_
  · intro j hj
    rw [ready_callOff ht]
    exact List.mem_append_left _ hj
  · intro hr
    rw [ready_callOff ht, hr, Bool.true_and]
    cases hrt : t.phase.runs with
    | true => exact List.mem_append_left _ (h.jobs _ ⟨t, ht, hrt⟩ hnt)
    | false => simp
  · intro body hp
    unfold Task.calledOff at hp
    split at hp <;> simp_all
  · intro a body hp
    unfold Task.calledOff at hp
    split at hp <;> simp_all
  · intro r hr hk
    unfold Task.calledOff at hr
    rw [Task.key_calledOff] at hk
    refine .inr ⟨hk, ?_⟩
    split at hr <;> simp_all [Task.result?]

theorem Queued.abandon (h : Queued (some (.run i)) s) (o : Except Failure Data)
    (hu : s.task? a = some u) (hai : a ≠ i) : Queued (some (.run i)) (s.abandon a o) := by
  obtain ⟨heq, -⟩ | ⟨⟨m, heq⟩, -⟩ := abandon_cases o hu
  · rw [heq]
    exact h
  · rw [heq]
    exact Queued.callOff (h.of_eq rfl (fun _ hj => hj) rfl) hu (by simpa using hai)

theorem Queued.leave (h : Queued (some (.run i)) s) (hinv : Invariant s) (ht : s.task? i = some t)
    (hk : t.key = none) (hp : t.phase = .leaving a o body) :
    Queued none (s.leave w i a o body) := by
  have stands := hinv.call i t ht hk
  simp only [CallStands, hp] at stands
  obtain ⟨-, u, hu, hku, -⟩ := stands
  have hai : a ≠ i := by
    rintro rfl
    obtain rfl := Option.some.inj (hu.symm.trans ht)
    simp [hk] at hku
  have ht' : ((s.abandon a o).removeWaiter a).task? i = some t := by
    rw [task?, tasks_removeWaiter]
    exact (hinv.abandon ht hk hp).2.1
  have h' : Queued (some (.run i)) ((s.abandon a o).removeWaiter a) :=
    (h.abandon o hu hai).of_eq (tasks_removeWaiter ..) (by simp) (parked_removeWaiter ..)
  unfold Session.leave
  simp only
  split
  · exact h'.advance ht' body
  · rename_i e
    have hs : Stops (fun _ => True) (fun _ => True) (.finished (.error e)) := trivial
    exact h'.stretch ht' hs (finish_stretch _ i (.error e))

theorem Queued.gather (h : Queued (some (.run i)) s) (ht : s.task? i = some t)
    (tables : List (String × Table)) : Queued none (s.gather i tables) := by
  have spawns : ∀ s, Queued (some (.run i)) s → s.task? i = some t →
      let s' := tables.foldl (fun s e => s.spawn none (.fresh e.1 e.2 (.done (.ok .null)))) s
      Queued (some (.run i)) s' ∧ s'.task? i = some t := by
    induction tables with
    | nil => exact fun s h ht => ⟨h, ht⟩
    | cons e tables ih =>
      intro s h ht
      have tasks : (s.spawn none (.fresh e.1 e.2 (.done (.ok .null)))).tasks =
        s.tasks ++ [⟨none, false, .fresh e.1 e.2 (.done (.ok .null))⟩] := rfl
      refine ih _ (h.of_append tasks rfl (List.mem_append_right _ (List.mem_singleton.mpr rfl))
        (fun j hj => List.mem_append_left _ hj) rfl) ?_
      rw [task?_of_append tasks, if_neg (Nat.ne_of_lt (lt_of_task? ht)), ht]
  obtain ⟨h', ht'⟩ := spawns s h ht
  exact h'.of_modify (.inr rfl) rfl ht' (fun _ hj => hj) (fun _ _ _ he => he)
    (by simp [Phase.runs]) (by simp) (by simp) (by simp [Task.result?])

theorem Queued.runTask (h : Queued (some (.run i)) s) (hinv : Invariant s) :
    Queued none (s.runTask w i) := by
  unfold Session.runTask
  cases ht : s.task? i with
  | none =>
    refine h.drop ?_
    rintro ⟨t, ht', -⟩
    simp [ht] at ht'
  | some t =>
    have key := hinv.toSound.key_eq_none ht
    have idle : t.phase.runs = false → Queued none s := by
      intro hr
      refine h.drop ?_
      rintro ⟨t', ht', hr'⟩
      obtain rfl := Option.some.inj (ht.symm.trans ht')
      simp [hr] at hr'
    cases hp : t.phase <;> simp only [Option.map_some, hp]
    case fresh name table body => exact h.ensure ht
    case gathering tables => exact h.gather ht tables
    case ready body => exact h.advance ht body
    case leaving b o body =>
      exact h.leave hinv ht (key (by simp [hp]) (by simp [hp]) (by simp [hp])) hp
    all_goals exact idle (by rw [hp]; rfl)

theorem Queued.tell (h : Queued taken s) (a : Nat) (o : Except Failure Data) (i : Nat) :
    Queued taken (s.tell a o i) := by
  unfold Session.tell
  cases ht : s.task? i with
  | none => exact h
  | some t =>
    simp only [Option.map_some]
    split
    · split
      · exact h.of_modify (.inl rfl) rfl ht (fun _ hj => List.mem_append_left _ hj)
          (fun _ _ _ he => he) (fun _ => List.mem_append_right _ (List.mem_singleton.mpr rfl))
          nofun nofun nofun
      · exact h
    · exact h

theorem Queued.settle (h : Queued (some (.settle a)) s) : Queued none (s.settle a) := by
  by_cases hsettles : ∃ key c o, s.task? a = some ⟨some key, c, .finished o⟩
  · obtain ⟨key, c, o, hu⟩ := hsettles
    have h' : Queued (some (.settle a)) (s.settle a) := by
      obtain ⟨events, heq⟩ := forget_eq a key o s
      have tells : ∀ (ids : List Nat) s, Queued (some (.settle a)) s →
          Queued (some (.settle a)) (ids.foldl (Session.tell a o) s) := by
        intro ids
        induction ids with
        | nil => exact fun _ h => h
        | cons i ids ih => exact fun s h => ih _ (h.tell a o i)
      unfold Session.settle
      rw [hu]
      refine tells _ _ ?_
      rw [heq]
      exact h.of_eq rfl (fun _ hj => hj) rfl
    -- every call that waited for the attempt has heard of it
    refine h'.drop ?_
    rintro ⟨u, r, -, -, -, i, t, body, ht, hp⟩
    rw [task?_settle hu] at ht
    obtain ⟨t', ht', rfl⟩ := Option.map_eq_some_iff.mp ht
    unfold Task.heard at hp
    split at hp
    · rename_i b body' hp'
      split at hp
      · cases hp
      · rw [hp'] at hp
        obtain ⟨rfl, -⟩ := Phase.joined.inj hp
        contradiction
    · rename_i hne
      exact hne _ _ hp
  · have hsame : s.settle a = s := by
      unfold Session.settle
      split
      · rename_i key c o hu
        exact absurd ⟨key, c, o, hu⟩ hsettles
      · rfl
    rw [hsame]
    refine h.drop ?_
    rintro ⟨⟨key, c, phase⟩, r, hu, hk, hr, -⟩
    obtain ⟨key, rfl⟩ := Option.isSome_iff_exists.mp hk
    refine hsettles ⟨key, c, r, ?_⟩
    cases phase <;> simp_all [Task.result?]

-- ---------------------------------------------------------------------------
-- Replies
-- ---------------------------------------------------------------------------

theorem Queued.deliver (h : Queued taken s) (i : Nat) : Queued taken (s.deliver i) := by
  cases ht : s.task? i with
  | none =>
    rw [show s.deliver i = s by simp [Session.deliver, ht]]
    exact h
  | some t =>
    unfold Session.deliver
    rw [ht]
    simp only [Option.map_some]
    split
    · exact h.of_modify (.inl rfl) rfl ht (fun _ hj => List.mem_append_left _ hj)
        (fun _ _ _ he => he) (fun _ => List.mem_append_right _ (List.mem_singleton.mpr rfl))
        nofun nofun nofun
    · exact h

/-- Which endpoints are closed and what is held back makes no difference to a reply. -/
theorem deliver_with (s : Session) (closed : List Endpoint) (parked : List (Endpoint × Nat))
    (i : Nat) : deliver { s with closed := closed, parked := parked } i =
      { s.deliver i with closed := closed, parked := parked } := by
  unfold deliver
  have hsame : task? i { s with closed := closed, parked := parked } = s.task? i := rfl
  rw [hsame]
  split <;> rfl

theorem foldl_deliver_with (closed : List Endpoint) (parked : List (Endpoint × Nat))
    (ids : List Nat) (s : Session) :
    ids.foldl deliver { s with closed := closed, parked := parked } =
      { ids.foldl deliver s with closed := closed, parked := parked } := by
  induction ids generalizing s with
  | nil => rfl
  | cons i ids ih => rw [List.foldl_cons, deliver_with, ih, List.foldl_cons]

/-- Replies that no task waits for need not be held back. -/
theorem Queued.unpark (h : Queued taken s) (closed : List Endpoint) (parked : List (Endpoint × Nat))
    (keeps : ∀ e i t body, (e, i) ∈ s.parked → s.task? i = some t → t.phase = .held body →
      (e, i) ∈ parked) :
    Queued taken { s with closed := closed, parked := parked } where
  jobs j hj := h.jobs j (by cases j <;> exact hj)
  replies i t body ht hp := by
    obtain ⟨e, he⟩ := h.replies i t body ht hp
    exact ⟨e, keeps e i t body he ht hp⟩

theorem not_held_woken : t.woken.phase ≠ .held body := by
  unfold Task.woken
  split
  · nofun
  · rename_i hne
    exact hne _

theorem parked_deliver (s : Session) (i : Nat) : (s.deliver i).parked = s.parked := by
  unfold deliver
  split <;> rfl

theorem Queued.deliver_all (h : Queued taken s) (ids : List Nat) :
    Queued taken (ids.foldl Session.deliver s) ∧
      (ids.foldl Session.deliver s).parked = s.parked := by
  induction ids generalizing s with
  | nil => exact ⟨h, rfl⟩
  | cons i ids ih =>
    obtain ⟨h', hp⟩ := ih (h.deliver i)
    exact ⟨h', hp.trans (parked_deliver s i)⟩

theorem Queued.release (h : Queued taken s) (e : Endpoint) : Queued taken (s.release e) := by
  let ids := (s.parked.filter fun p => p.1 = e).map (·.2)
  obtain ⟨h', hparked⟩ := h.deliver_all ids
  show Queued taken (ids.foldl Session.deliver { s with
    closed := s.closed.filter (· ≠ e), parked := s.parked.filter fun p => p.1 ≠ e })
  rw [foldl_deliver_with]
  refine h'.unpark _ _ fun e' i t body he ht hp => ?_
  rw [hparked] at he
  refine List.mem_filter.mpr ⟨he, ?_⟩
  rw [task?_foldl tasks_deliver fun _ => woken_woken] at ht
  split at ht
  · obtain ⟨t', -, rfl⟩ := Option.map_eq_some_iff.mp ht
    exact absurd hp not_held_woken
  · rename_i hni
    simp only [decide_not, Bool.not_eq_true', decide_eq_false_iff_not]
    rintro rfl
    exact hni (List.mem_map.mpr ⟨(e', i), List.mem_filter.mpr ⟨he, by simp⟩, rfl⟩)

theorem Queued.reply (h : Queued taken s) (i : Nat) :
    Queued taken (Session.deliver { s with parked := s.parked.filter fun p => p.2 ≠ i } i) := by
  rw [deliver_with s s.closed]
  refine (h.deliver i).unpark _ _ fun e j t body he ht hp => ?_
  rw [parked_deliver] at he
  refine List.mem_filter.mpr ⟨he, ?_⟩
  rw [task?_of_modify (tasks_deliver s i)] at ht
  split at ht
  · obtain ⟨t', -, rfl⟩ := Option.map_eq_some_iff.mp ht
    exact absurd hp not_held_woken
  · rename_i hij
    simpa using Ne.symm hij

-- ---------------------------------------------------------------------------
-- Runs
-- ---------------------------------------------------------------------------

theorem Queued.empty : Queued none Session.empty := by
  have none : ∀ i t, ¬ Session.empty.task? i = some t := by simp [task?, Session.empty]
  refine ⟨fun j hj _ => ?_, fun i t body ht => absurd ht (none i t)⟩
  cases j with
  | run i =>
    obtain ⟨t, ht, -⟩ := hj
    exact absurd ht (none i t)
  | settle a =>
    obtain ⟨u, r, hu, -⟩ := hj
    exact absurd hu (none a u)

theorem Queued.move (h : Queued none s) (hinv : Invariant s) (m : Move) :
    Queued none (s.move w m) := by
  cases m with
  | start c own =>
    have new : ∀ p : Phase, p.runs → Queued none (s.spawn none p) := fun p hp =>
      h.of_append (t := ⟨none, false, p⟩) rfl hp
        (List.mem_append_right _ (List.mem_singleton.mpr rfl))
        (fun j hj => List.mem_append_left _ hj) rfl
    cases c <;> exact new _ rfl
  | cancel i =>
    simp only [Session.move]
    split
    · rename_i hcall
      obtain ⟨t, ht, -⟩ := (Option.any_eq_true ..).mp hcall
      exact h.callOff ht (by simp)
    · exact h
  | run j =>
    simp only [Session.move]
    split
    · have hrest : Invariant { s with ready := s.ready.erase j } := hinv.of_eq rfl rfl rfl
      cases j with
      | run i => exact (h.take (.run i)).runTask hrest
      | settle a => exact (h.take (.settle a)).settle
    · exact h
  | reply i => exact h.reply i
  | hold e => exact h.of_eq rfl (fun _ hj => hj) rfl
  | release e => exact h.release e

theorem Queued.moves (h : Queued none s) (hinv : Invariant s) (ms : List Move) :
    Queued none (s.moves w ms) := by
  induction ms generalizing s with
  | nil => exact h
  | cons m ms ih => exact ih (h.move hinv m) (hinv.move m)

/-- A call that stands for others ends with them; any other call is finished when nothing is left
to do. -/
theorem Queued.finished_of_idle (h : Queued none s) (hinv : Invariant s) (hidle : s.Idle)
    (ht : s.task? i = some t) :
    (∃ r, t.result? = some r) ∨ ∃ children, t.phase = .gathered children := by
  obtain ⟨hready, hparked⟩ := hidle
  have rests : ∀ i t, s.task? i = some t → t.phase.runs = false ∧ ∀ body, t.phase ≠ .held body := by
    intro i t ht
    refine ⟨?_, fun body hp => ?_⟩
    · cases hr : t.phase.runs with
      | false => rfl
      | true => simpa [hready] using h.jobs (.run i) ⟨t, ht, hr⟩ (by simp)
    · obtain ⟨e, he⟩ := h.replies i t body ht hp
      simp [hparked] at he
  obtain ⟨hr, hh⟩ := rests i t ht
  cases hp : t.phase with
  | finished r => exact .inl ⟨r, by simp [Task.result?, hp]⟩
  | gathered children => exact .inr ⟨children, rfl⟩
  | held body => exact absurd hp (hh body)
  | joined a body =>
    -- the attempt it waits for cannot be finished, since it is not to be settled
    have hk := hinv.toSound.key_eq_none ht (by simp [hp]) (by simp [hp]) (by simp [hp])
    have stands := hinv.call i t ht hk
    simp only [CallStands, hp] at stands
    obtain ⟨-, u, hu, hku, -⟩ := stands
    obtain ⟨hru, hhu⟩ := rests a u hu
    have work := hinv.attempt a u hu hku
    have hend : ∃ r, u.result? = some r := by
      unfold AttemptStands at work
      cases hpu : u.phase with
      | finished r => exact ⟨r, by simp [Task.result?, hpu]⟩
      | held body => exact absurd hpu (hhu body)
      | _ => cases hc : u.cancelling <;> simp_all [Stops, Phase.runs]
    obtain ⟨r, hr⟩ := hend
    simpa [hready] using h.jobs (.settle a) ⟨u, r, hu, hku, hr, i, t, body, ht, hp⟩ (by simp)
  | _ => simp [hp, Phase.runs] at hr

end Session

end TenantStore
