import TenantStore.Session
import TenantStore.Proofs.Programs

/-!
# What the operations of a session do

One lemma for each operation: which task it changes and how, and what it leaves as it was.
`Stretch` says what a stretch of a task's program does, and `advance_stretch` that `advance` does
no more.
-/

namespace TenantStore

-- ---------------------------------------------------------------------------
-- Tasks
-- ---------------------------------------------------------------------------

def Phase.attempt? : Phase → Option Nat
  | .joined a _ | .leaving a _ _ => some a
  | _ => none

namespace Task

def waitsFor (attempt : Nat) (t : Task) : Bool :=
  t.phase.attempt? == some attempt

theorem waitsFor_iff {t : Task} : t.waitsFor a = true ↔ t.phase.attempt? = some a := by
  simp [waitsFor]

theorem waitsFor_of_none {t : Task} (h : t.phase.attempt? = none) : t.waitsFor a = false := by
  simp [waitsFor, h]

theorem result?_eq_some {t : Task} : t.result? = some r ↔ t.phase = .finished r := by
  unfold result?
  split <;> simp_all

/-- An attempt that stays in the cache: it is at work and not called off, or it succeeded. -/
def isCurrent (t : Task) : Bool :=
  t.isShareable || t.succeeded

theorem not_isCurrent_of_error {t : Task} (h : t.result? = some (.error e)) :
    t.isCurrent = false := by
  have hp := result?_eq_some.mp h
  simp [isCurrent, isShareable, isFinished, result?, succeeded, hp]

def calledOff (t : Task) : Task :=
  match t.phase with
  | .fresh .. | .ready _ | .gathering _ | .held _ =>
    { t with cancelling := true, phase := .ready Session.stopped }
  | .joined attempt body | .leaving attempt _ body =>
    { t with cancelling := true, phase := .leaving attempt (.error .cancelled) body }
  | .gathered _ | .finished _ => t

@[simp] theorem key_calledOff (t : Task) : t.calledOff.key = t.key := by
  unfold calledOff
  split <;> rfl

@[simp] theorem attempt?_calledOff (t : Task) :
    t.calledOff.phase.attempt? = t.phase.attempt? := by
  unfold calledOff
  split <;> simp_all [Phase.attempt?]

end Task

theorem countP_modify {q : α → Bool} {f : α → α} : ∀ {l : List α} {i : Nat}, l[i]? = some a →
    (l.modify i f).countP q + (q a).toNat = l.countP q + (q (f a)).toNat
  | b :: l, 0, h => by
    obtain rfl : b = a := by simpa using h
    simp only [List.modify_zero_cons, List.countP_cons]
    cases q b <;> cases q (f b) <;> rfl
  | b :: l, i + 1, h => by
    have ih := countP_modify (q := q) (f := f) (l := l) (i := i) (by simpa using h)
    simp only [List.modify_succ_cons, List.countP_cons]
    omega

namespace Session

def callsAt (attempt : Nat) (s : Session) : Nat :=
  s.tasks.countP (Task.waitsFor attempt)

def IsAttempt (s : Session) (key : String) (i : Nat) : Prop :=
  ∃ t, s.task? i = some t ∧ t.key = some key

theorem task?_of_modify {s s' : Session} (h : s'.tasks = s.tasks.modify i f) (j : Nat) :
    s'.task? j = if i = j then (s.task? j).map f else s.task? j := by
  unfold task?
  rw [h, List.getElem?_modify]
  split <;> simp

theorem task?_of_append {s s' : Session} (h : s'.tasks = s.tasks ++ [t]) (j : Nat) :
    s'.task? j = if j = s.tasks.length then some t else s.task? j := by
  unfold task?
  rw [h]
  grind

theorem lt_of_task? {s : Session} (h : s.task? i = some t) : i < s.tasks.length :=
  (List.getElem?_eq_some_iff.mp h).1

-- ---------------------------------------------------------------------------
-- Small steps
-- ---------------------------------------------------------------------------

section
variable (s : Session) (i : Nat)

@[simp] theorem tasks_removeWaiter : (s.removeWaiter i).tasks = s.tasks := by
  unfold removeWaiter
  split <;> rfl

@[simp] theorem cache_removeWaiter : (s.removeWaiter i).cache = s.cache := by
  unfold removeWaiter
  split <;> rfl

@[simp] theorem ready_removeWaiter : (s.removeWaiter i).ready = s.ready := by
  unfold removeWaiter
  split <;> rfl

@[simp] theorem parked_removeWaiter : (s.removeWaiter i).parked = s.parked := by
  unfold removeWaiter
  split <;> rfl

@[simp] theorem sent_removeWaiter : (s.removeWaiter i).sent = s.sent := by
  unfold removeWaiter
  split <;> rfl

theorem get?_waiters_addWaiter (a : Nat) : Assoc.get? a (s.addWaiter i).waiters =
    if a = i then some (s.waiting i + 1) else Assoc.get? a s.waiters :=
  Assoc.get?_put ..

theorem get?_waiters_removeWaiter (a : Nat) : Assoc.get? a (s.removeWaiter i).waiters =
    if a = i then (if s.waiting i ≤ 1 then none else some (s.waiting i - 1))
    else Assoc.get? a s.waiters := by
  unfold removeWaiter
  split
  · exact (Assoc.get?_erase ..).trans (by split <;> rfl)
  · exact (Assoc.get?_put ..).trans (by split <;> rfl)

end

-- ---------------------------------------------------------------------------
-- A stretch of a program
-- ---------------------------------------------------------------------------

/-- What a stretch of a task's program does: the task alone moves on to another phase, in which it
is queued, held back or finished, and the requests `qs` are sent. -/
structure Stretch (i : Nat) (p : Phase) (qs : List Request) (s s' : Session) : Prop where
  tasks : s'.tasks = s.tasks.modify i fun t => { t with phase := p }
  cache : s'.cache = s.cache
  waiters : s'.waiters = s.waiters
  sent : s'.sent = s.sent ++ qs
  ready : ∀ j ∈ s.ready, j ∈ s'.ready
  parked : ∀ e ∈ s.parked, e ∈ s'.parked
  queued : ∀ body, p = .ready body → .run i ∈ s'.ready
  kept : ∀ body, p = .held body → ∃ e, (e, i) ∈ s'.parked
  settling : ∀ r t, p = .finished r → s.task? i = some t → t.key.isSome → .settle i ∈ s'.ready

def Stops (asked : Request → Prop) (result : Except Failure Data → Prop) : Phase → Prop
  | .ready body | .held body => body.Within asked result
  | .finished r => result r
  | _ => False

/-- What a stretch of a program sends and where it stops are the program's own. -/
def Stretches (body : Remote Data) (p : Phase) (qs : List Request) : Prop :=
  ∀ asked result, body.Within asked result → Stops asked result p ∧ ∀ q ∈ qs, asked q

variable {p : Phase} {qs : List Request} {s s₀ s' : Session} {i : Nat}

section
variable (s : Session) (i : Nat) (r : Except Failure Data)

/-- A finished attempt is queued to be settled, a finished call is not. -/
theorem finish_eq : s.finish i r =
    { s.setPhase i (.finished r) with
      ended := s.ended ++ [i]
      ready := s.ready ++ if (s.task? i).any fun t => t.key.isSome then [.settle i] else [] } := by
  have h : ((s.setPhase i (.finished r)).task? i).any (fun t => t.key.isSome) =
      (s.task? i).any fun t => t.key.isSome := by
    rw [task?_of_modify rfl]
    cases s.task? i <;> simp
  rw [← h]
  by_cases hk : ((s.setPhase i (.finished r)).task? i).any fun t => t.key.isSome
  · simp only [hk, if_true]
    exact if_pos hk
  · simp only [hk, if_false, Bool.false_eq_true, List.append_nil]
    exact if_neg hk

theorem finish_stretch : Stretch i (.finished r) [] s (s.finish i r) := by
  rw [finish_eq]
  exact {
    tasks := rfl
    cache := rfl
    waiters := rfl
    sent := (List.append_nil _).symm
    ready := fun _ h => List.mem_append_left _ h
    parked := fun _ h => h
    queued := fun _ h => nomatch h
    kept := fun _ h => nomatch h
    settling := fun _ t _ ht hk => by simp [ht, hk] }

end

/-- More was sent and logged before the stretch, nothing else. -/
theorem Stretch.after (h : Stretch i p qs s₀ s')
    (tasks : s₀.tasks = s.tasks) (ready : s₀.ready = s.ready) (cache : s₀.cache = s.cache)
    (waiters : s₀.waiters = s.waiters) (parked : s₀.parked = s.parked)
    (sent : s₀.sent = s.sent ++ rs) : Stretch i p (rs ++ qs) s s' where
  tasks := tasks ▸ h.tasks
  cache := cache ▸ h.cache
  waiters := waiters ▸ h.waiters
  sent := by rw [h.sent, sent, List.append_assoc]
  ready := ready ▸ h.ready
  parked := parked ▸ h.parked
  queued := h.queued
  kept := h.kept
  settling := fun r t hp ht => h.settling r t hp (by simpa [task?, tasks] using ht)

theorem advance_stretch (w : World) (i : Nat) (body : Remote Data) (s : Session) :
    ∃ p qs, Stretches body p qs ∧ Stretch i p qs s (s.advance w i body) := by
  induction body generalizing s with
  | done r => exact ⟨.finished r, [], fun _ _ h => ⟨h, List.forall_mem_nil _⟩, finish_stretch s i r⟩
  | ask q next ih =>
    simp only [advance]
    split
    · refine ⟨.held (next (w.reply s.sent q)), [q], fun _ _ h => ⟨h.2 _, by simpa using h.1⟩, ?_⟩
      exact {
        tasks := rfl
        cache := rfl
        waiters := rfl
        sent := rfl
        ready := fun _ h => h
        parked := fun _ h => List.mem_append_left _ h
        queued := fun _ h => nomatch h
        kept := fun _ _ => ⟨q.endpoint, List.mem_append_right _ (List.mem_singleton.mpr rfl)⟩
        settling := fun _ _ h => nomatch h }
    · obtain ⟨p, qs, hp, hs⟩ := ih (w.reply s.sent q)
        (record (.asked q) { s with sent := s.sent ++ [q] })
      refine ⟨p, [q] ++ qs, fun asked result h => ?_, hs.after rfl rfl rfl rfl rfl rfl⟩
      obtain ⟨hstop, hqs⟩ := hp asked result (h.2 _)
      exact ⟨hstop, List.forall_mem_cons.mpr ⟨h.1, hqs⟩⟩
  | pause d next =>
    refine ⟨.ready next, [], fun _ _ h => ⟨h, List.forall_mem_nil _⟩, ?_⟩
    exact {
      tasks := rfl
      cache := rfl
      waiters := rfl
      sent := (List.append_nil _).symm
      ready := fun _ h => List.mem_append_left _ h
      parked := fun _ h => h
      queued := fun _ _ => List.mem_append_right _ (List.mem_singleton.mpr rfl)
      kept := fun _ h => nomatch h
      settling := fun _ _ h => nomatch h }
  | log l next ih =>
    obtain ⟨p, qs, hp, hs⟩ := ih (s.record (.logged l))
    exact ⟨p, [] ++ qs, fun _ _ h => hp _ _ h,
      hs.after rfl rfl rfl rfl rfl (List.append_nil _).symm⟩

-- ---------------------------------------------------------------------------
-- Calling off
-- ---------------------------------------------------------------------------

theorem modify_congr {f g : α → α} {l : List α} (h : ∀ a, l[i]? = some a → f a = g a) :
    l.modify i f = l.modify i g := by
  refine List.ext_getElem? fun j => ?_
  rw [List.getElem?_modify, List.getElem?_modify]
  cases hj : l[j]? with
  | none => rfl
  | some a =>
    by_cases hij : i = j
    · simp [hij, h a (hij ▸ hj)]
    · simp [hij]

theorem tasks_callOff (i : Nat) (s : Session) :
    (s.callOff i).tasks = s.tasks.modify i Task.calledOff := by
  have h : ∀ t f, s.task? i = some t → f t = t.calledOff →
      s.tasks.modify i f = s.tasks.modify i Task.calledOff := by
    intro t f ht hf
    refine modify_congr fun a ha => ?_
    obtain rfl : a = t := Option.some.inj (ha.symm.trans ht)
    exact hf
  cases ht : s.task? i with
  | none =>
    rw [List.modify_eq_self (List.getElem?_eq_none_iff.mp ht)]
    simp [callOff, ht]
  | some t =>
    obtain ⟨key, cancelling, phase⟩ := t
    cases phase <;> simp only [callOff, ht, Option.map_some]
    case gathered | finished => exact (h _ id ht rfl).symm ▸ (List.modify_id ..).symm
    all_goals exact (List.modify_modify_eq ..).trans (h _ _ ht rfl)

@[simp] theorem cache_callOff (i : Nat) (s : Session) : (s.callOff i).cache = s.cache := by
  unfold callOff
  split <;> rfl

@[simp] theorem waiters_callOff (i : Nat) (s : Session) : (s.callOff i).waiters = s.waiters := by
  unfold callOff
  split <;> rfl

@[simp] theorem sent_callOff (i : Nat) (s : Session) : (s.callOff i).sent = s.sent := by
  unfold callOff
  split <;> rfl

-- ---------------------------------------------------------------------------
-- Settling
-- ---------------------------------------------------------------------------

/-- Of the entries only the failed attempt's own one goes. -/
theorem forget_eq (a : Nat) (key : String) (o : Except Failure Data) (s : Session) :
    ∃ events, s.forget a key o = { s with
      events := events
      cache := if o.isOk then s.cache
        else if Assoc.get? key s.cache = some a then Assoc.erase key s.cache else s.cache } := by
  unfold forget
  split
  · exact ⟨_, rfl⟩
  · rename_i e
    by_cases h : Assoc.get? key s.cache = some a <;> simp only [h, if_true, if_false]
    all_goals split <;> exact ⟨_, rfl⟩

end Session

end TenantStore
