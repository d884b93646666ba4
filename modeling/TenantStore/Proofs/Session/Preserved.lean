import TenantStore.Proofs.Session.Invariant

/-!
# Every operation keeps the invariant

One lemma for each operation of a session, and for the parts of the longer ones.
-/

namespace TenantStore.Session

structure Invariant (s : Session) : Prop extends Sound s, Counted s

variable {s s' : Session} {f : Task → Task} {i a : Nat} {t u : Task} {w : World} {p : Phase}
  {asked : Request → Prop} {body : Remote Data}

theorem queries_stopped : Queries stopped := trivial

theorem Invariant.of_eq (h : Invariant s) (tasks : s'.tasks = s.tasks) (cache : s'.cache = s.cache)
    (waiters : s'.waiters = s.waiters) : Invariant s' := by
  obtain ⟨tasks', ready, cache', waiters', closed, parked, ended, sent, events⟩ := s'
  subst tasks cache waiters
  exact ⟨⟨h.attempt, h.call, h.cached, h.newest, h.current⟩, ⟨h.waiters, h.attended⟩⟩

-- ---------------------------------------------------------------------------
-- Calls
-- ---------------------------------------------------------------------------

theorem Invariant.of_call (h : Invariant s) (tasks : s'.tasks = s.tasks.modify i f)
    (cache : s'.cache = s.cache) (waiters : s'.waiters = s.waiters) (ht : s.task? i = some t)
    (hk : t.key = none) (hk' : (f t).key = none)
    (same : (f t).phase.attempt? = t.phase.attempt?) (stands : CallStands s (f t)) :
    Invariant s' :=
  ⟨h.toSound.of_call tasks cache ht hk hk' stands,
    h.toCounted.of_same tasks waiters ht same (by simp [hk'])⟩

theorem Invariant.new_call (h : Invariant s) (hk : t.key = none) (hp : t.phase.attempt? = none)
    (stands : CallStands s t) (tasks : s'.tasks = s.tasks ++ [t]) (cache : s'.cache = s.cache)
    (waiters : s'.waiters = s.waiters) : Invariant s' := by
  refine ⟨h.toSound.new_call tasks cache hk stands, fun b => ?_, fun b u hu hku hs => ?_⟩
  · rw [waiters, callsAt_of_append tasks hp, h.waiters b]
  · rw [callsAt_of_append tasks hp]
    rw [task?_of_append tasks] at hu
    split at hu
    · obtain rfl := Option.some.inj hu
      simp [hk] at hku
    · exact h.attended b u hu hku hs

theorem Invariant.start (h : Invariant s) (c : Call) (hc : c.Queries) : Invariant (s.start c) := by
  cases c with
  | settled r => exact h.new_call (t := ⟨none, false, .ready (.done r)⟩) rfl rfl trivial rfl rfl rfl
  | direct body => exact h.new_call (t := ⟨none, false, .ready body⟩) rfl rfl hc rfl rfl rfl
  | onTable name table body =>
    exact h.new_call (t := ⟨none, false, .fresh name table body⟩) rfl rfl hc rfl rfl rfl
  | everything tables =>
    exact h.new_call (t := ⟨none, false, .gathering tables⟩) rfl rfl trivial rfl rfl rfl

theorem Invariant.callOff (h : Invariant s) (ht : s.task? i = some t) (hk : t.key = none) :
    Invariant (s.callOff i) := by
  refine h.of_call (tasks_callOff i s) (cache_callOff i s) (waiters_callOff i s) ht hk
    (by rw [Task.key_calledOff, hk]) (Task.attempt?_calledOff t) ?_
  have stands := h.call i t ht hk
  unfold Task.calledOff
  split
  · exact queries_stopped
  · exact queries_stopped
  · exact queries_stopped
  · exact queries_stopped
  · rename_i b body hp
    simp only [CallStands, hp] at stands
    obtain ⟨hq, v, hv, hkv, -⟩ := stands
    exact ⟨hq, v, hv, hkv, .inr ⟨rfl, rfl⟩⟩
  · rename_i b o body hp
    simp only [CallStands, hp] at stands
    obtain ⟨hq, v, hv, hkv, -⟩ := stands
    exact ⟨hq, v, hv, hkv, .inr ⟨rfl, rfl⟩⟩
  · exact stands
  · exact stands

theorem callStands_stops (h : Stops (·.endpoint = .query) (fun _ => True) p) :
    CallStands s { t with phase := p } := by
  cases p with
  | ready body => exact h
  | held body => exact h
  | finished r => trivial
  | _ => exact h.elim

theorem attempt?_stops (h : Stops asked result p) : p.attempt? = none := by
  cases p with
  | ready | held | finished => rfl
  | _ => exact h.elim

theorem Invariant.advance_call (h : Invariant s) (ht : s.task? i = some t) (hk : t.key = none)
    (hp : t.phase.attempt? = none) (hb : Queries body) : Invariant (s.advance w i body) := by
  obtain ⟨p, qs, hbody, hst⟩ := advance_stretch w i body s
  obtain ⟨hs, -⟩ := hbody _ _ hb
  exact h.of_call hst.tasks hst.cache hst.waiters ht hk hk ((attempt?_stops hs).trans hp.symm)
    (callStands_stops hs)

-- ---------------------------------------------------------------------------
-- Attempts
-- ---------------------------------------------------------------------------

theorem attempt?_of_attemptStands (h : AttemptStands t) : t.phase.attempt? = none := by
  unfold AttemptStands at h
  split at h
  · exact attempt?_stops h
  all_goals simp_all [Phase.attempt?]

/-- An attempt has a program to run or is finished; all other phases are those of calls. -/
theorem Sound.key_eq_none (h : Sound s) (ht : s.task? i = some t) (hready : ∀ b, t.phase ≠ .ready b)
    (hheld : ∀ b, t.phase ≠ .held b) (hend : ∀ r, t.phase ≠ .finished r) : t.key = none := by
  cases hk : t.key with
  | none => rfl
  | some key =>
    have work := h.attempt i t ht (by simp [hk])
    unfold AttemptStands at work
    cases hp : t.phase with
    | ready body => exact absurd hp (hready body)
    | held body => exact absurd hp (hheld body)
    | finished r => exact absurd hp (hend r)
    | _ => cases hc : t.cancelling <;> simp [hp, hc, Stops] at work

theorem isCurrent_of_open (hopen : t.result? = none) (hc : t.cancelling = false) :
    t.isCurrent := by
  simp [Task.isCurrent, Task.isShareable, Task.isFinished, hopen, hc]

theorem not_isCurrent_of_cancelling (h : AttemptStands t) (hc : t.cancelling = true) :
    t.isCurrent = false := by
  unfold AttemptStands at h
  rw [hc] at h
  cases hp : t.phase <;> simp_all [Task.isCurrent, Task.isShareable, Task.succeeded]

theorem Invariant.of_attempt (h : Invariant s) (tasks : s'.tasks = s.tasks.modify i f)
    (cache : s'.cache = s.cache) (waiters : s'.waiters = s.waiters) (ht : s.task? i = some t)
    (hk : t.key.isSome) (hk' : (f t).key = t.key) (stands : AttemptStands (f t))
    (hopen : t.result? = none) (hcan : (f t).cancelling = t.cancelling) : Invariant s' := by
  have hshare : (f t).isShareable → t.isShareable := by
    simp [Task.isShareable, Task.isFinished, hopen, hcan]
  have hcur : (f t).isCurrent → t.isCurrent := by
    intro hf
    cases hc : t.cancelling with
    | false => exact isCurrent_of_open hopen hc
    | true => simp [not_isCurrent_of_cancelling stands (hcan.trans hc)] at hf
  refine ⟨h.toSound.of_attempt tasks cache ht hk hk' stands hcur (by simp [hopen])
    fun hc => .inl (hcan ▸ hc), h.toCounted.of_same tasks waiters ht ?_ fun _ hs => ⟨hk, hshare hs⟩⟩
  rw [attempt?_of_attemptStands stands, attempt?_of_attemptStands (h.attempt i t ht hk)]

theorem attemptStands_stops (h : Stops (·.endpoint ≠ .query) AttemptEnds p)
    (hc : t.cancelling = false) : AttemptStands { t with phase := p } := by
  unfold AttemptStands
  simpa only [hc] using h

theorem Invariant.advance_attempt (h : Invariant s) (ht : s.task? i = some t) (hk : t.key.isSome)
    (hp : t.phase = .ready body) : Invariant (s.advance w i body) := by
  have stands := h.attempt i t ht hk
  have hopen : t.result? = none := by simp [Task.result?, hp]
  unfold AttemptStands at stands
  rw [hp] at stands
  cases hc : t.cancelling with
  | false =>
    rw [hc] at stands
    obtain ⟨p, qs, hbody, hst⟩ := advance_stretch w i body s
    obtain ⟨hs, -⟩ := hbody _ _ stands
    exact h.of_attempt hst.tasks hst.cache hst.waiters ht hk rfl (attemptStands_stops hs hc) hopen
      rfl
  | true =>
    rw [hc] at stands
    subst stands
    show Invariant (s.finish i (.error .cancelled))
    rw [finish_eq]
    refine h.of_attempt rfl rfl rfl ht hk rfl ?_ hopen rfl
    simp [AttemptStands, hc]

-- ---------------------------------------------------------------------------
-- Joining attempts
-- ---------------------------------------------------------------------------

theorem Invariant.join (hs : Sound s)
    (hw : ∀ b, Assoc.get? b s.waiters = if s.callsAt b = 0 then none else some (s.callsAt b))
    (hatt : ∀ b v, b ≠ a → s.task? b = some v → v.key.isSome → v.isShareable → 0 < s.callsAt b)
    (ht : s.task? i = some t) (hk : t.key = none) (hp : t.phase.attempt? = none)
    (hu : s.task? a = some u) (hku : u.key.isSome) (hc : u.cancelling = false)
    (hb : Queries body) : Invariant (s.join i a body) := by
  have tasks : (s.join i a body).tasks =
      s.tasks.modify i fun t => { t with phase := .joined a body } := rfl
  have calls : ∀ b, (s.join i a body).callsAt b = s.callsAt b + if b = a then 1 else 0 := by
    intro b
    have h := callsAt_of_modify tasks ht b
    rw [Task.waitsFor_of_none hp] at h
    by_cases hba : b = a
    · simpa [Task.waitsFor, Phase.attempt?, hba] using h
    · simpa [Task.waitsFor, Phase.attempt?, hba, beq_false_of_ne (Ne.symm hba)] using h
  refine ⟨hs.of_call tasks rfl ht hk hk ⟨hb, u, hu, hku, hc⟩, fun b => ?_, fun b v hv hkv hsv => ?_⟩
  · have hwait : s.waiting a = s.callsAt a := by
      unfold waiting
      rw [hw a]
      split <;> simp_all
    rw [calls b]
    show Assoc.get? b (s.addWaiter a).waiters = _
    rw [get?_waiters_addWaiter, hwait, hw b]
    split <;> simp_all
  · rw [calls b]
    by_cases hba : b = a
    · simp [hba]
    · have hbi : i ≠ b := by
        rintro rfl
        rw [task?_of_modify tasks, if_pos rfl, ht] at hv
        obtain rfl := Option.some.inj hv
        simp [hk] at hkv
      rw [task?_of_modify tasks, if_neg hbi] at hv
      simpa [hba] using hatt b v hba hv hkv hsv

theorem attemptEnds_map {r : Except Failure Unit} (h : Ordinary r) :
    AttemptEnds (r.map fun _ => .null) := by
  cases r with
  | ok _ => exact .inl rfl
  | error e => exact .inr ⟨e, rfl, h⟩

theorem Invariant.start_join (h : Invariant s) (ht : s.task? i = some t) (hk : t.key = none)
    (hp : t.phase.attempt? = none) (hb : Queries body)
    (free : ∀ j u, s.task? j = some u → u.key = some key → u.isCurrent = false) :
    Invariant ((s.startAttempt w key name table).join i s.tasks.length body) := by
  let work : Remote Data := (Provisioning.attempt w.plane w.ns name table).andThen fun r =>
    .done (r.map fun _ => .null)
  have hwork : work.Within (·.endpoint ≠ .query) AttemptEnds :=
    Program.within_andThen _ (Provisioning.within_attempt ..) fun _ => attemptEnds_map
  have tasks : (s.startAttempt w key name table).tasks =
      s.tasks ++ [⟨some key, false, .ready work⟩] := rfl
  have hi : (s.startAttempt w key name table).task? i = some t := by
    rw [task?_of_append tasks, if_neg (Nat.ne_of_lt (lt_of_task? ht)), ht]
  refine Invariant.join (h.toSound.new_attempt tasks rfl rfl hwork free) (fun b => ?_)
    (fun b v hba hv hkv hsv => ?_) hi hk hp (u := ⟨some key, false, .ready work⟩) ?_ rfl rfl hb
  · rw [callsAt_of_append tasks rfl]
    exact h.waiters b
  · rw [callsAt_of_append tasks rfl]
    rw [task?_of_append tasks, if_neg hba] at hv
    exact h.attended b v hv hkv hsv
  · rw [task?_of_append tasks, if_pos rfl]

theorem cached?_eq_some (h : s.cached? key = some (a, u)) :
    Assoc.get? key s.cache = some a ∧ s.task? a = some u := by
  unfold cached? at h
  obtain ⟨b, hb, hm⟩ := Option.bind_eq_some_iff.mp h
  obtain ⟨v, hv, he⟩ := Option.map_eq_some_iff.mp hm
  obtain ⟨rfl, rfl⟩ := Prod.mk.inj he
  exact ⟨hb, hv⟩

/-- Only the attempt in the cache is still of use. -/
theorem Sound.free_of_cached? (h : Sound s)
    (hc : ∀ a u, s.cached? key = some (a, u) → u.isCurrent = false) :
    ∀ j u, s.task? j = some u → u.key = some key → u.isCurrent = false := by
  intro j u hu hku
  cases hcur : u.isCurrent with
  | false => rfl
  | true =>
    have hj := h.current key j u hu hku hcur
    have := hc j u (by simp [cached?, hj, hu])
    simp [this] at hcur

theorem Invariant.ensure (h : Invariant s) (ht : s.task? i = some t) (hk : t.key = none)
    (hp : t.phase.attempt? = none) (hb : Queries body) :
    Invariant (s.ensure w i name table body) := by
  unfold Session.ensure
  simp only
  split
  · rename_i a u hcached
    obtain ⟨hget, hu⟩ := cached?_eq_some hcached
    obtain ⟨v, hv, hkv⟩ := h.cached _ a hget
    obtain rfl := Option.some.inj (hv.symm.trans hu)
    split
    · exact Invariant.advance_call (h.of_eq rfl rfl rfl) ht hk hp hb
    · split
      · rename_i hshare
        refine Invariant.join h.toSound h.waiters (fun b v _ => h.attended b v) ht hk hp hu
          (by simp [hkv]) ?_ hb
        simpa [Task.isShareable] using (Bool.and_eq_true_iff.mp hshare).2
      · rename_i hsucc hshare
        refine h.start_join ht hk hp hb (h.toSound.free_of_cached? fun b v hbv => ?_)
        obtain ⟨rfl, rfl⟩ := Prod.mk.inj (Option.some.inj (hcached.symm.trans hbv))
        simp [Task.isCurrent, hsucc, hshare]
  · rename_i hnone
    exact h.start_join ht hk hp hb (h.toSound.free_of_cached? fun b v hbv => by simp [hnone] at hbv)

-- ---------------------------------------------------------------------------
-- Leaving attempts
-- ---------------------------------------------------------------------------

/-- Only the last call that waits for an attempt and is cancelled itself calls it off. -/
theorem abandon_cases (o : Except Failure Data) (hu : s.task? a = some u) :
    (s.abandon a o = s ∧ (o = .error .cancelled → u.result? = none → s.waiting a ≠ 1)) ∨
    (∃ m, s.abandon a o = (s.note m).callOff a) ∧ o = .error .cancelled ∧ u.result? = none ∧
      s.waiting a = 1 := by
  unfold Session.abandon
  rw [hu]
  split
  · rename_i v heq
    obtain rfl := Option.some.inj heq
    split
    · rename_i hc
      simp only [Bool.and_eq_true, Bool.not_eq_true', beq_iff_eq] at hc
      refine .inr ⟨⟨_, rfl⟩, rfl, ?_, hc.2⟩
      simpa [Task.isFinished] using hc.1
    · rename_i hc
      refine .inl ⟨rfl, fun _ hopen hw => hc ?_⟩
      simp [Task.isFinished, hopen, hw]
  · rename_i hne
    exact .inl ⟨rfl, fun ho _ _ => hne u ho rfl⟩

theorem attemptStands_calledOff (h : AttemptStands u) (hopen : u.result? = none) :
    AttemptStands u.calledOff ∧ u.calledOff.cancelling = true := by
  unfold AttemptStands at h
  cases hpu : u.phase with
  | ready | held => simp [Task.calledOff, hpu, AttemptStands]
  | finished r => simp [Task.result?, hpu] at hopen
  | _ => cases hcu : u.cancelling <;> simp [hpu, hcu, Stops] at h

theorem Invariant.call_off (h : Invariant s) (ht : s.task? i = some t) (hk : t.key = none)
    (hp : t.phase = .leaving a o body) (hu : s.task? a = some u) (hku : u.key.isSome)
    (hopen : u.result? = none) (hone : s.callsAt a = 1) : Invariant (s.callOff a) := by
  have hoff := attemptStands_calledOff (h.attempt a u hu hku) hopen
  refine ⟨h.toSound.of_attempt (tasks_callOff a s) (cache_callOff a s) hu hku (Task.key_calledOff u)
    hoff.1 ?_ (by simp [hopen]) fun _ => .inr fun j v b hv hpv => ?_,
    h.toCounted.of_same (tasks_callOff a s) (waiters_callOff a s) hu (Task.attempt?_calledOff u) ?_⟩
  · simp [not_isCurrent_of_cancelling hoff.1 hoff.2]
  · have hij : i ≠ j := by
      rintro rfl
      obtain rfl := Option.some.inj (hv.symm.trans ht)
      simp [hp] at hpv
    have := two_le_callsAt ht (by rw [hp]; rfl) hv (by rw [hpv]; rfl) hij
    omega
  · simp [Task.isShareable, hoff.2]

/-- The last call that is cancelled calls the attempt off; after that the attempt is not at work,
or another call is there as well. -/
theorem Invariant.abandon (h : Invariant s) (ht : s.task? i = some t) (hk : t.key = none)
    (hp : t.phase = .leaving a o body) :
    Invariant (s.abandon a o) ∧ (s.abandon a o).task? i = some t ∧
      ∀ u, (s.abandon a o).task? a = some u → u.isShareable → 2 ≤ (s.abandon a o).callsAt a := by
  have hpos : 0 < s.callsAt a := callsAt_pos ht (by rw [hp]; rfl)
  have stands := h.call i t ht hk
  simp only [CallStands, hp] at stands
  obtain ⟨-, u, hu, hku, ho⟩ := stands
  obtain ⟨heq, hcond⟩ | ⟨⟨m, heq⟩, rfl, hopen, hone⟩ := abandon_cases o hu
  · rw [heq]
    refine ⟨h, ht, fun v hv hsv => ?_⟩
    obtain rfl := Option.some.inj (hv.symm.trans hu)
    rw [h.toCounted.waiting_eq] at hcond
    have hopen : v.result? = none := by
      simpa [Task.isFinished] using (Bool.and_eq_true_iff.mp hsv).1
    obtain ho | ⟨ho, -⟩ := ho
    · simp [hopen] at ho
    · have := hcond ho hopen
      omega
  · rw [heq]
    rw [h.toCounted.waiting_eq] at hone
    have hai : a ≠ i := by
      rintro rfl
      obtain rfl := Option.some.inj (hu.symm.trans ht)
      simp [hk] at hku
    have hnote : Invariant (s.note m) := h.of_eq rfl rfl rfl
    refine ⟨hnote.call_off ht hk hp hu hku hopen hone, ?_, ?_⟩
    · rw [task?_of_modify (tasks_callOff a _), if_neg hai]
      exact ht
    · intro v hv hsv
      have hoff := attemptStands_calledOff (h.attempt a u hu hku) hopen
      rw [task?_of_modify (tasks_callOff a _), if_pos rfl,
        show (s.note m).task? a = some u from hu] at hv
      obtain rfl := Option.some.inj hv
      simp [Task.isShareable, hoff.2] at hsv

/-- A call leaves its attempt: it is not counted any more, and goes on or ends. -/
theorem Invariant.leave_stretch (h : Invariant s) (ht : s.task? i = some t) (hk : t.key = none)
    (hp : t.phase = .leaving a o body)
    (hcalls : ∀ u, s.task? a = some u → u.isShareable → 2 ≤ s.callsAt a)
    (hs : Stops (·.endpoint = .query) (fun _ => True) p)
    (hst : Stretch i p qs (s.removeWaiter a) s') : Invariant s' := by
  have tasks : s'.tasks = s.tasks.modify i fun t => { t with phase := p } := by
    rw [hst.tasks, tasks_removeWaiter]
  have cache : s'.cache = s.cache := by rw [hst.cache, cache_removeWaiter]
  have calls : ∀ b, s'.callsAt b + (if b = a then 1 else 0) = s.callsAt b := by
    intro b
    have h := callsAt_of_modify tasks ht b
    rw [Task.waitsFor_of_none (t := { t with phase := p }) (attempt?_stops hs)] at h
    by_cases hba : b = a
    · simpa [Task.waitsFor, hp, Phase.attempt?, hba] using h
    · simpa [Task.waitsFor, hp, Phase.attempt?, hba, beq_false_of_ne (Ne.symm hba)] using h
  refine ⟨h.toSound.of_call tasks cache ht hk hk (callStands_stops hs), fun b => ?_,
    fun b v hv hkv hsv => ?_⟩
  · rw [hst.waiters, get?_waiters_removeWaiter, h.toCounted.waiting_eq, h.waiters b]
    have hb := calls b
    split
    · rename_i hba
      subst hba
      rw [if_pos rfl] at hb
      split <;> split <;> first | rfl | omega | (congr 1; omega)
    · rename_i hba
      rw [if_neg hba] at hb
      rw [← hb]
      rfl
  · have hbi : i ≠ b := by
      rintro rfl
      rw [task?_of_modify tasks, if_pos rfl, ht] at hv
      obtain rfl := Option.some.inj hv
      simp [hk] at hkv
    rw [task?_of_modify tasks, if_neg hbi] at hv
    have hb := calls b
    split at hb
    · rename_i hba
      have := hcalls v (hba ▸ hv) hsv
      subst hba
      omega
    · have := h.attended b v hv hkv hsv
      omega

theorem Invariant.leave (h : Invariant s) (ht : s.task? i = some t) (hk : t.key = none)
    (hp : t.phase = .leaving a o body) : Invariant (s.leave w i a o body) := by
  obtain ⟨h', ht', hcalls⟩ := h.abandon ht hk hp
  have stands := h.call i t ht hk
  simp only [CallStands, hp] at stands
  unfold Session.leave
  simp only
  split
  · obtain ⟨p, qs, hbody, hst⟩ := advance_stretch w i body ((s.abandon a (.ok _)).removeWaiter a)
    exact h'.leave_stretch ht' hk hp hcalls (hbody _ _ stands.1).1 hst
  · rename_i e
    have hs : Stops (·.endpoint = .query) (fun _ => True) (.finished (.error e)) := trivial
    exact h'.leave_stretch ht' hk hp hcalls hs (finish_stretch _ i (.error e))

-- ---------------------------------------------------------------------------
-- Jobs
-- ---------------------------------------------------------------------------

theorem Invariant.spawn_calls (tables : List (String × Table)) (h : Invariant s) :
    let s' := tables.foldl (fun s (name, t) => s.spawn none (.fresh name t (.done (.ok .null)))) s
    Invariant s' ∧ ∀ j u, s.task? j = some u → s'.task? j = some u := by
  induction tables generalizing s with
  | nil => exact ⟨h, fun _ _ hu => hu⟩
  | cons e tables ih =>
    obtain ⟨name, table⟩ := e
    let call : Task := ⟨none, false, .fresh name table (.done (.ok .null))⟩
    have tasks : (s.spawn none (.fresh name table (.done (.ok .null)))).tasks =
        s.tasks ++ [call] := rfl
    obtain ⟨h', hkeeps⟩ := ih (h.new_call (t := call) rfl rfl trivial tasks rfl rfl)
    refine ⟨h', fun j u hu => hkeeps j u ?_⟩
    rw [task?_of_append tasks, if_neg (Nat.ne_of_lt (lt_of_task? hu)), hu]

theorem Invariant.gather (h : Invariant s) (ht : s.task? i = some t) (hk : t.key = none)
    (hp : t.phase.attempt? = none) (tables : List (String × Table)) :
    Invariant (s.gather i tables) := by
  obtain ⟨h', hkeeps⟩ := h.spawn_calls tables
  exact h'.of_call rfl rfl rfl (hkeeps i t ht) hk hk hp.symm trivial

theorem Invariant.run_task (h : Invariant s) (i : Nat) : Invariant (s.runTask w i) := by
  unfold runTask
  cases ht : s.task? i with
  | none => exact h
  | some t =>
    have stands := h.call i t ht
    have work := h.attempt i t ht
    unfold CallStands at stands
    unfold AttemptStands at work
    cases hk : t.key with
    | none =>
      have stands := stands hk
      cases hp : t.phase <;> simp only [hp, Option.map_some] at stands ⊢
      case fresh name table body => exact h.ensure ht hk (by rw [hp]; rfl) stands
      case gathering tables => exact h.gather ht hk (by rw [hp]; rfl) tables
      case ready body => exact h.advance_call ht hk (by rw [hp]; rfl) stands
      case leaving b o body => exact h.leave ht hk hp
      all_goals exact h
    | some key =>
      have work := work (by simp [hk])
      cases hp : t.phase <;> simp only [hp, Option.map_some] at work ⊢
      case ready body => exact h.advance_attempt ht (by simp [hk]) hp
      case held | finished => exact h
      all_goals cases hc : t.cancelling <;> simp [hc, Stops] at work

theorem Invariant.forget (h : Invariant s) (hu : s.task? a = some u) (hku : u.key = some key)
    (hr : u.result? = some o) : Invariant (s.forget a key o) := by
  obtain ⟨events, heq⟩ := forget_eq a key o s
  rw [heq]
  cases o with
  | ok v => exact h.of_eq rfl rfl rfl
  | error e =>
    by_cases hget : Assoc.get? key s.cache = some a
    · rw [if_pos hget]
      refine ⟨h.toSound.forget rfl rfl fun j v hv hkv => ?_, ⟨h.waiters, h.attended⟩⟩
      cases hcur : v.isCurrent with
      | false => rfl
      | true =>
        obtain rfl := Option.some.inj (hget.symm.trans (h.current key j v hv hkv hcur))
        obtain rfl := Option.some.inj (hv.symm.trans hu)
        simp [Task.not_isCurrent_of_error hr] at hcur
    · rw [if_neg hget]
      exact h.of_eq rfl rfl rfl

theorem Invariant.tell (h : Invariant s) (hu : s.task? a = some u) (hku : u.key.isSome)
    (hr : u.result? = some o) (i : Nat) :
    Invariant (s.tell a o i) ∧ (s.tell a o i).task? a = some u := by
  unfold Session.tell
  cases ht : s.task? i with
  | none => exact ⟨h, hu⟩
  | some t =>
    simp only [Option.map_some]
    split
    · rename_i b body hp
      split
      · rename_i hba
        subst hba
        have hk : t.key = none := by
          cases hk : t.key with
          | none => rfl
          | some key =>
            have work := attempt?_of_attemptStands (h.attempt i t ht (by simp [hk]))
            simp [Option.some.inj hp, Phase.attempt?] at work
        have stands := h.call i t ht hk
        rw [Option.some.injEq] at hp
        simp only [CallStands, hp] at stands
        have hib : i ≠ b := by
          rintro rfl
          obtain rfl := Option.some.inj (ht.symm.trans hu)
          simp [hk] at hku
        refine ⟨h.of_call rfl rfl rfl ht hk hk (by rw [hp]; rfl)
          ⟨stands.1, u, hu, hku, .inl hr⟩, ?_⟩
        rw [task?_of_modify rfl, if_neg hib, hu]
      · exact ⟨h, hu⟩
    · exact ⟨h, hu⟩

theorem Invariant.tell_all (h : Invariant s) (hu : s.task? a = some u) (hku : u.key.isSome)
    (hr : u.result? = some o) (ids : List Nat) :
    Invariant (ids.foldl (Session.tell a o) s) := by
  induction ids generalizing s with
  | nil => exact h
  | cons i ids ih =>
    obtain ⟨h', hu'⟩ := h.tell hu hku hr i
    exact ih h' hu'

theorem Invariant.settle (h : Invariant s) (a : Nat) : Invariant (s.settle a) := by
  unfold Session.settle
  split
  · rename_i key c o hu
    have hu' : (s.forget a key o).task? a = some ⟨some key, c, .finished o⟩ := by
      obtain ⟨events, heq⟩ := forget_eq a key o s
      rw [heq]
      exact hu
    exact (h.forget hu rfl rfl).tell_all hu' rfl rfl _
  · exact h

theorem Invariant.run_job (h : Invariant s) (j : Job) : Invariant (s.runJob w j) := by
  cases j with
  | run i => exact h.run_task i
  | settle a => exact h.settle a

-- ---------------------------------------------------------------------------
-- Replies
-- ---------------------------------------------------------------------------

theorem Invariant.deliver (h : Invariant s) (i : Nat) : Invariant (s.deliver i) := by
  unfold Session.deliver
  cases ht : s.task? i with
  | none => exact h
  | some t =>
    simp only [Option.map_some]
    split
    · rename_i body hp
      rw [Option.some.injEq] at hp
      cases hk : t.key with
      | none =>
        have stands := h.call i t ht hk
        simp only [CallStands, hp] at stands
        exact h.of_call rfl rfl rfl ht hk hk (by rw [hp]; rfl) stands
      | some key =>
        have hks : t.key.isSome := by simp [hk]
        have work := h.attempt i t ht hks
        refine h.of_attempt rfl rfl rfl ht hks rfl ?_ (by simp [Task.result?, hp]) rfl
        unfold AttemptStands at work ⊢
        cases hc : t.cancelling <;> simp_all [Stops]
    · exact h

end TenantStore.Session
