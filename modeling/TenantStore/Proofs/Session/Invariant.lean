import TenantStore.Proofs.Session.Tasks

/-!
# The invariant of sessions

`Sound` relates the tasks and the cache: what an attempt and a call can look like, and that an
attempt which is at work or has succeeded is the one in the cache. `Counted` relates the tasks and
the waiters.
-/

namespace TenantStore

def Queries (body : Remote Data) : Prop :=
  body.Within (·.endpoint = .query) fun _ => True

def Call.Queries : Call → Prop
  | .settled _ | .everything _ => True
  | .direct body | .onTable _ _ body => TenantStore.Queries body

/-- What the results of attempts are that were not called off. -/
def AttemptEnds (r : Except Failure Data) : Prop :=
  r = .ok .null ∨ ∃ e, r = .error e ∧ e.IsMishap

namespace Session

/-- An attempt is at work or finished; one that is called off has nothing left to do but to end. -/
def AttemptStands (t : Task) : Prop :=
  match t.cancelling, t.phase with
  | false, p => Stops (·.endpoint ≠ .query) AttemptEnds p
  | true, .ready body => body = stopped
  | true, .finished r => r = .error .cancelled
  | true, _ => False

/-- A call waits for an attempt that is not called off, and leaves one with that attempt's result
unless it is cancelled itself. -/
def CallStands (s : Session) (t : Task) : Prop :=
  match t.phase with
  | .fresh _ _ body | .ready body | .held body => Queries body
  | .joined a body =>
    Queries body ∧ ∃ u, s.task? a = some u ∧ u.key.isSome ∧ u.cancelling = false
  | .leaving a o body =>
    Queries body ∧ ∃ u, s.task? a = some u ∧ u.key.isSome ∧
      (u.result? = some o ∨ o = .error .cancelled ∧ t.cancelling = true)
  | .gathering _ | .gathered _ | .finished _ => True

structure Sound (s : Session) : Prop where
  attempt : ∀ i t, s.task? i = some t → t.key.isSome → AttemptStands t
  call : ∀ i t, s.task? i = some t → t.key = none → CallStands s t
  cached : ∀ k i, Assoc.get? k s.cache = some i → s.IsAttempt k i
  newest : ∀ k i, Assoc.get? k s.cache = some i → ∀ j, s.IsAttempt k j → j ≤ i
  current : ∀ k i t, s.task? i = some t → t.key = some k → t.isCurrent →
    Assoc.get? k s.cache = some i

structure Counted (s : Session) : Prop where
  waiters : ∀ a, Assoc.get? a s.waiters = if s.callsAt a = 0 then none else some (s.callsAt a)
  attended : ∀ a t, s.task? a = some t → t.key.isSome → t.isShareable → 0 < s.callsAt a

variable {s s' : Session} {f : Task → Task} {i : Nat} {t : Task}

theorem CallStands.mono (h : CallStands s t)
    (keeps : ∀ a u, t.phase.attempt? = some a → s.task? a = some u → u.key.isSome →
      ∃ u', s'.task? a = some u' ∧ u'.key.isSome ∧ (∀ o, u.result? = some o → u'.result? = some o) ∧
        ((∃ body, t.phase = .joined a body) → u.cancelling = false → u'.cancelling = false)) :
    CallStands s' t := by
  unfold CallStands at h ⊢
  revert h keeps
  cases t.phase with
  | joined a body =>
    rintro ⟨hq, u, hu, hk, hc⟩ keeps
    obtain ⟨u', hu', hk', -, hc'⟩ := keeps a u rfl hu hk
    exact ⟨hq, u', hu', hk', hc' ⟨body, rfl⟩ hc⟩
  | leaving a o body =>
    rintro ⟨hq, u, hu, hk, ho⟩ keeps
    obtain ⟨u', hu', hk', hr', -⟩ := keeps a u rfl hu hk
    exact ⟨hq, u', hu', hk', ho.imp_left (hr' o)⟩
  | _ => exact fun h _ => h

theorem CallStands.of_task? (h : CallStands s t)
    (same : ∀ a u, s.task? a = some u → u.key.isSome → s'.task? a = some u) : CallStands s' t :=
  h.mono fun a u _ hu hk => ⟨u, same a u hu hk, hk, fun _ h => h, fun _ h => h⟩

-- ---------------------------------------------------------------------------
-- One task changes
-- ---------------------------------------------------------------------------

theorem Sound.of_call (h : Sound s) (tasks : s'.tasks = s.tasks.modify i f)
    (cache : s'.cache = s.cache) (ht : s.task? i = some t) (hk : t.key = none)
    (hk' : (f t).key = none) (stands : CallStands s (f t)) : Sound s' := by
  have hi : s'.task? i = some (f t) := by simp [task?_of_modify tasks, ht]
  have hne : ∀ j, j ≠ i → s'.task? j = s.task? j := fun j hj => by
    simp [task?_of_modify tasks, Ne.symm hj]
  have keeps : ∀ a u, s.task? a = some u → u.key.isSome → s'.task? a = some u := by
    intro a u hu hku
    rw [hne a, hu]
    rintro rfl
    obtain rfl := Option.some.inj (hu.symm.trans ht)
    simp [hk] at hku
  have back : ∀ a u, s'.task? a = some u → u.key.isSome → s.task? a = some u := by
    intro a u hu hku
    rw [← hne a, hu]
    rintro rfl
    obtain rfl := Option.some.inj (hu.symm.trans hi)
    simp [hk'] at hku
  have same : ∀ k j, s'.IsAttempt k j ↔ s.IsAttempt k j := by
    intro k j
    constructor
    · rintro ⟨u, hu, hku⟩
      exact ⟨u, back j u hu (by simp [hku]), hku⟩
    · rintro ⟨u, hu, hku⟩
      exact ⟨u, keeps j u hu (by simp [hku]), hku⟩
  refine ⟨fun j u hu hku => h.attempt j u (back j u hu hku) hku, ?_, ?_, ?_, ?_⟩
  · intro j u hu hku
    by_cases hj : j = i
    · subst hj
      obtain rfl := Option.some.inj (hu.symm.trans hi)
      exact stands.of_task? keeps
    · exact (h.call j u (by rw [← hne j hj, hu]) hku).of_task? keeps
  · intro k j hj
    exact (same k j).mpr (h.cached k j (cache ▸ hj))
  · intro k j hj j' hj'
    exact h.newest k j (cache ▸ hj) j' ((same k j').mp hj')
  · intro k j u hu hku hcur
    rw [cache]
    exact h.current k j u (back j u hu (by simp [hku])) hku hcur

theorem Sound.of_attempt (h : Sound s) (tasks : s'.tasks = s.tasks.modify i f)
    (cache : s'.cache = s.cache) (ht : s.task? i = some t) (hk : t.key.isSome)
    (hk' : (f t).key = t.key) (stands : AttemptStands (f t))
    (hcur : (f t).isCurrent → t.isCurrent)
    (hres : ∀ o, t.result? = some o → (f t).result? = some o)
    (hcan : (f t).cancelling = true → t.cancelling = true ∨
      ∀ j u body, s.task? j = some u → u.phase ≠ .joined i body) : Sound s' := by
  have hi : s'.task? i = some (f t) := by simp [task?_of_modify tasks, ht]
  have hne : ∀ j, j ≠ i → s'.task? j = s.task? j := fun j hj => by
    simp [task?_of_modify tasks, Ne.symm hj]
  have same : ∀ k j, s'.IsAttempt k j ↔ s.IsAttempt k j := by
    intro k j
    by_cases hj : j = i
    · subst hj
      simp [IsAttempt, hi, ht, hk']
    · simp [IsAttempt, hne j hj]
  refine ⟨?_, ?_, ?_, ?_, ?_⟩
  · intro j u hu hku
    by_cases hj : j = i
    · subst hj
      obtain rfl := Option.some.inj (hu.symm.trans hi)
      exact stands
    · exact h.attempt j u (by rw [← hne j hj, hu]) hku
  · intro j u hu hku
    by_cases hj : j = i
    · subst hj
      obtain rfl := Option.some.inj (hu.symm.trans hi)
      simp [hk', ← Option.not_isSome_iff_eq_none, hk] at hku
    · rw [hne j hj] at hu
      refine (h.call j u hu hku).mono fun a v _ hv hkv => ?_
      by_cases ha : a = i
      · subst ha
        obtain rfl := Option.some.inj (hv.symm.trans ht)
        refine ⟨f v, hi, hk' ▸ hkv, hres, fun ⟨body, hb⟩ hc => ?_⟩
        cases hcon : (f v).cancelling with
        | false => rfl
        | true =>
          obtain hcan | hcan := hcan hcon
          · simp [hc] at hcan
          · exact absurd hb (hcan j u body hu)
      · exact ⟨v, by rw [hne a ha, hv], hkv, fun _ h => h, fun _ h => h⟩
  · intro k j hj
    exact (same k j).mpr (h.cached k j (cache ▸ hj))
  · intro k j hj j' hj'
    exact h.newest k j (cache ▸ hj) j' ((same k j').mp hj')
  · intro k j u hu hku hucur
    rw [cache]
    by_cases hj : j = i
    · subst hj
      obtain rfl := Option.some.inj (hu.symm.trans hi)
      exact h.current k j t ht (hk' ▸ hku) (hcur hucur)
    · exact h.current k j u (by rw [← hne j hj, hu]) hku hucur

-- ---------------------------------------------------------------------------
-- A task is added, an entry of the cache changes
-- ---------------------------------------------------------------------------

theorem CallStands.append (h : CallStands s t) (tasks : s'.tasks = s.tasks ++ [t']) :
    CallStands s' t := by
  refine h.of_task? fun a u hu _ => ?_
  rw [task?_of_append tasks, if_neg (Nat.ne_of_lt (lt_of_task? hu)), hu]

theorem Sound.new_call (h : Sound s) (tasks : s'.tasks = s.tasks ++ [t])
    (cache : s'.cache = s.cache) (hk : t.key = none) (stands : CallStands s t) : Sound s' := by
  have old : ∀ j u, s'.task? j = some u → u.key.isSome → s.task? j = some u := by
    intro j u hu hku
    rw [task?_of_append tasks] at hu
    split at hu
    · obtain rfl := Option.some.inj hu
      simp [hk] at hku
    · exact hu
  have keeps : ∀ j u, s.task? j = some u → s'.task? j = some u := by
    intro j u hu
    rw [task?_of_append tasks, if_neg (Nat.ne_of_lt (lt_of_task? hu)), hu]
  refine ⟨fun j u hu hku => h.attempt j u (old j u hu hku) hku, ?_, ?_, ?_, ?_⟩
  · intro j u hu hku
    rw [task?_of_append tasks] at hu
    split at hu
    · obtain rfl := Option.some.inj hu
      exact stands.append tasks
    · exact (h.call j u hu hku).append tasks
  · intro k j hj
    obtain ⟨u, hu, hku⟩ := h.cached k j (cache ▸ hj)
    exact ⟨u, keeps j u hu, hku⟩
  · rintro k j hj j' ⟨u, hu, hku⟩
    exact h.newest k j (cache ▸ hj) j' ⟨u, old j' u hu (by simp [hku]), hku⟩
  · intro k j u hu hku hcur
    rw [cache]
    exact h.current k j u (old j u hu (by simp [hku])) hku hcur

/-- A new attempt takes its key's entry, which no other attempt needs any more. -/
theorem Sound.new_attempt (h : Sound s) (tasks : s'.tasks = s.tasks ++ [t])
    (cache : s'.cache = Assoc.put k s.tasks.length s.cache) (hk : t.key = some k)
    (stands : AttemptStands t)
    (free : ∀ j u, s.task? j = some u → u.key = some k → u.isCurrent = false) : Sound s' := by
  have hnew : s'.task? s.tasks.length = some t := by simp [task?_of_append tasks]
  have hold : ∀ j, j ≠ s.tasks.length → s'.task? j = s.task? j := fun j hj => by
    simp [task?_of_append tasks, hj]
  have keeps : ∀ j u, s.task? j = some u → s'.task? j = some u := fun j u hu => by
    rw [hold j (Nat.ne_of_lt (lt_of_task? hu)), hu]
  refine ⟨?_, ?_, ?_, ?_, ?_⟩
  · intro j u hu hku
    by_cases hj : j = s.tasks.length
    · subst hj
      obtain rfl := Option.some.inj (hu.symm.trans hnew)
      exact stands
    · exact h.attempt j u (by rw [← hold j hj, hu]) hku
  · intro j u hu hku
    by_cases hj : j = s.tasks.length
    · subst hj
      obtain rfl := Option.some.inj (hu.symm.trans hnew)
      simp [hk] at hku
    · exact (h.call j u (by rw [← hold j hj, hu]) hku).append tasks
  · intro k' j hj
    rw [cache, Assoc.get?_put] at hj
    split at hj
    · rename_i hkk
      obtain rfl := Option.some.inj hj
      exact ⟨t, hnew, hkk ▸ hk⟩
    · obtain ⟨u, hu, hku⟩ := h.cached k' j hj
      exact ⟨u, keeps j u hu, hku⟩
  · rintro k' j hj j' ⟨u, hu, hku⟩
    rw [cache, Assoc.get?_put] at hj
    by_cases hj' : j' = s.tasks.length
    · subst hj'
      obtain rfl := Option.some.inj (hu.symm.trans hnew)
      obtain rfl := Option.some.inj (hk.symm.trans hku)
      simp only [if_true, Option.some.injEq] at hj
      exact Nat.le_of_eq hj
    · rw [hold j' hj'] at hu
      split at hj
      · obtain rfl := Option.some.inj hj
        exact Nat.le_of_lt (lt_of_task? hu)
      · exact h.newest k' j hj j' ⟨u, hu, hku⟩
  · intro k' j u hu hku hcur
    rw [cache, Assoc.get?_put]
    by_cases hj : j = s.tasks.length
    · subst hj
      obtain rfl := Option.some.inj (hu.symm.trans hnew)
      rw [if_pos (Option.some.inj (hku.symm.trans hk))]
    · rw [hold j hj] at hu
      split
      · rename_i hkk
        simp [free j u hu (hkk ▸ hku)] at hcur
      · exact h.current k' j u hu hku hcur

/-- An entry can go when its attempt is of no more use. -/
theorem Sound.forget (h : Sound s) (tasks : s'.tasks = s.tasks)
    (cache : s'.cache = Assoc.erase k s.cache)
    (free : ∀ j u, s.task? j = some u → u.key = some k → u.isCurrent = false) : Sound s' := by
  have same : ∀ j, s'.task? j = s.task? j := fun j => by simp [task?, tasks]
  have get : ∀ k' j, Assoc.get? k' s'.cache = some j → Assoc.get? k' s.cache = some j := by
    intro k' j hj
    rw [cache, Assoc.get?_erase] at hj
    split at hj
    · cases hj
    · exact hj
  refine ⟨fun j u hu hku => h.attempt j u (same j ▸ hu) hku, ?_, ?_, ?_, ?_⟩
  · intro j u hu hku
    exact (h.call j u (same j ▸ hu) hku).of_task? fun a v hv _ => (same a).trans hv
  · intro k' j hj
    obtain ⟨u, hu, hku⟩ := h.cached k' j (get k' j hj)
    exact ⟨u, (same j).trans hu, hku⟩
  · rintro k' j hj j' ⟨u, hu, hku⟩
    exact h.newest k' j (get k' j hj) j' ⟨u, same j' ▸ hu, hku⟩
  · intro k' j u hu hku hcur
    rw [same j] at hu
    rw [cache, Assoc.get?_erase]
    split
    · rename_i hkk
      simp [free j u hu (hkk ▸ hku)] at hcur
    · exact h.current k' j u hu hku hcur

-- ---------------------------------------------------------------------------
-- Counting calls
-- ---------------------------------------------------------------------------

theorem callsAt_of_modify (tasks : s'.tasks = s.tasks.modify i f) (ht : s.task? i = some t)
    (a : Nat) : s'.callsAt a + (t.waitsFor a).toNat = s.callsAt a + ((f t).waitsFor a).toNat := by
  unfold callsAt
  rw [tasks]
  exact countP_modify ht

theorem callsAt_of_same (tasks : s'.tasks = s.tasks.modify i f) (ht : s.task? i = some t)
    (same : (f t).phase.attempt? = t.phase.attempt?) (a : Nat) : s'.callsAt a = s.callsAt a := by
  have h := callsAt_of_modify tasks ht a
  have hw : (f t).waitsFor a = t.waitsFor a := by simp only [Task.waitsFor, same]
  rw [hw] at h
  omega

theorem callsAt_of_append (tasks : s'.tasks = s.tasks ++ [t]) (ht : t.phase.attempt? = none)
    (a : Nat) : s'.callsAt a = s.callsAt a := by
  simp [callsAt, tasks, Task.waitsFor, ht]

theorem callsAt_pos (ht : s.task? i = some t) (hw : t.phase.attempt? = some a) :
    0 < s.callsAt a := by
  exact List.countP_pos_iff.mpr ⟨t, List.mem_of_getElem? ht, Task.waitsFor_iff.mpr hw⟩

theorem two_le_callsAt (ht : s.task? i = some t) (hw : t.phase.attempt? = some a)
    (hu : s.task? j = some u) (hw' : u.phase.attempt? = some a) (hij : i ≠ j) :
    2 ≤ s.callsAt a := by
  -- once the first call is gone the second one is still there
  let gone : Session := s.setPhase i (.finished (.ok .null))
  have tasks : gone.tasks =
      s.tasks.modify i fun t => { t with phase := .finished (.ok .null) } := rfl
  have hc := callsAt_of_modify tasks ht a
  have hj : gone.task? j = some u := by rw [task?_of_modify tasks, if_neg hij, hu]
  have hpos := callsAt_pos hj hw'
  rw [Task.waitsFor_iff.mpr hw, Bool.toNat_true] at hc
  exact Nat.le_trans (Nat.succ_le_succ hpos) (Nat.le_of_eq hc)

theorem Counted.waiting_eq (h : Counted s) (a : Nat) : s.waiting a = s.callsAt a := by
  unfold waiting
  rw [h.waiters a]
  split <;> simp_all

theorem Counted.of_same (h : Counted s) (tasks : s'.tasks = s.tasks.modify i f)
    (waiters : s'.waiters = s.waiters) (ht : s.task? i = some t)
    (same : (f t).phase.attempt? = t.phase.attempt?)
    (share : (f t).key.isSome → (f t).isShareable → t.key.isSome ∧ t.isShareable) :
    Counted s' := by
  refine ⟨fun a => ?_, fun a u hu hk hs => ?_⟩
  · rw [waiters, callsAt_of_same tasks ht same, h.waiters a]
  · rw [callsAt_of_same tasks ht same]
    rw [task?_of_modify tasks] at hu
    split at hu
    · rename_i ha
      subst ha
      rw [ht] at hu
      obtain rfl := Option.some.inj hu
      obtain ⟨hk, hs⟩ := share hk hs
      exact h.attended _ t ht hk hs
    · exact h.attended a u hu hk hs

end Session

end TenantStore
