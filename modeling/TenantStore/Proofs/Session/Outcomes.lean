import TenantStore.Proofs.Session.Attempts
import TenantStore.Proofs.Session.Progress

/-!
# Calls end as their attempts do

A call that makes sure of a table and is not cancelled itself ends with the outcome of the one
attempt it joins, or at once when the table is provisioned. An attempt that has failed or was called
off is joined by no further call: the next one starts over with the check. `ensure_outcomes` puts
this together for all runs.
-/

namespace TenantStore

def ensured : Remote Data := .done (.ok .null)

def Move.ensureTable (name : String) (table : Table) : Move :=
  .start (.onTable name table ensured) trivial

/-- An attempt that no call may join: it was called off or has failed. -/
def Task.IsDead (t : Task) : Prop :=
  t.cancelling = true ∨ ∃ e, t.result? = some (.error e)

namespace Session

def result? (i : Nat) (s : Session) : Option (Except Failure Data) :=
  (s.task? i).bind Task.result?

def Fresh (s : Session) (i : Nat) (name : String) : Prop :=
  ∃ t table, s.task? i = some t ∧ t.key = none ∧ t.cancelling = false ∧
    t.phase = .fresh name table ensured

def Bound (s : Session) (i : Nat) (o : Except Failure Data) : Prop :=
  ∃ t, s.task? i = some t ∧ t.key = none ∧ t.cancelling = false ∧
    Stops (fun _ => False) (· = o) t.phase

/-- The call waits for the attempt, or ends as that did. -/
def Follows (s : Session) (i a : Nat) : Prop :=
  (∃ t, s.task? i = some t ∧ t.key = none ∧ t.cancelling = false ∧
    (t.phase = .joined a ensured ∨
      ∃ o, t.phase = .leaving a o ensured ∧ AttemptEnds o ∧ s.result? a = some o)) ∨
  ∃ o, Bound s i o ∧ AttemptEnds o ∧ s.result? a = some o

variable {w : World} {s s' : Session} {m : Move} {i j a : Nat} {t t' u : Task} {key : String}
  {o : Except Failure Data}

/-- Only a call's own cancellation marks it. -/
theorem Advances.cancelling (h : Advances w m s s' i t t') (hk : t.key = none)
    (hc : t.cancelling = false) (hm : m ≠ .cancel i) : t'.cancelling = false := by
  cases h with
  | cancelled _ h => exact absurd h hm
  | abandoned h => simp [hk] at h
  | _ => exact hc

theorem Invariant.result?_move (h : Invariant s) (m : Move) (hr : s.result? a = some o) :
    (s.move w m).result? a = some o := by
  obtain ⟨t, ht, hr⟩ := Option.bind_eq_some_iff.mp hr
  obtain ⟨t', ht', hadv⟩ := (move_effect (w := w) h m).old a t ht
  exact Option.bind_eq_some_iff.mpr ⟨t', ht', hadv.onward.result o hr⟩

theorem Invariant.bound_move (h : Invariant s) (hb : s.Bound i o) (hm : m ≠ .cancel i) :
    (s.move w m).Bound i o := by
  obtain ⟨t, ht, hk, hc, hp⟩ := hb
  obtain ⟨t', ht', hadv⟩ := (move_effect (w := w) h m).old i t ht
  refine ⟨t', ht', hadv.onward.key.trans hk, hadv.cancelling hk hc hm, ?_⟩
  cases hadv with
  | stays => exact hp
  | cancelled _ h => exact absurd h hm
  | abandoned h => simp [hk] at h
  | works hpt own =>
    rw [hpt] at hp
    exact (own _ _ hp).1
  | wakes hpt =>
    rw [hpt] at hp
    exact hp
  | served _ hpt | joins _ hpt | spreads _ hpt | hears _ hpt | goesOn _ hpt | ends _ hpt =>
    rw [hpt] at hp
    exact hp.elim

theorem stops_of_ensured (h : Stretches ensured p qs) :
    Stops (fun _ => False) (· = .ok .null) p :=
  (h (fun _ => False) (· = .ok .null) rfl).1

theorem Invariant.attemptEnds (h : Invariant s) (ht : s.task? i = some t) (hk : t.key = none)
    (hp : t.phase = .joined a body) (hr : s.result? a = some o) : AttemptEnds o := by
  have stands := h.call i t ht hk
  simp only [CallStands, hp] at stands
  obtain ⟨-, u, hu, hku, hc⟩ := stands
  have work := h.attempt a u hu hku
  simp only [result?, hu, Option.bind_some] at hr
  simpa only [AttemptStands, hc, Task.result?_eq_some.mp hr, Stops] using work

theorem Invariant.follows_move (h : Invariant s) (hf : s.Follows i a) (hm : m ≠ .cancel i) :
    (s.move w m).Follows i a := by
  obtain ⟨t, ht, hk, hc, hp⟩ | ⟨o, hb, ho, hr⟩ := hf
  · obtain ⟨t', ht', hadv⟩ := (move_effect (w := w) h m).old i t ht
    have hk' := hadv.onward.key.trans hk
    have hc' := hadv.cancelling hk hc hm
    cases hadv with
    | stays =>
      refine .inl ⟨t, ht', hk, hc, hp.imp_right ?_⟩
      rintro ⟨o, hp, ho, hr⟩
      exact ⟨o, hp, ho, h.result?_move m hr⟩
    | cancelled _ h => exact absurd h hm
    | abandoned h => simp [hk] at h
    | hears hkt hpt ended =>
      obtain hp | ⟨o', hp, -⟩ := hp
      · rw [hpt] at hp
        obtain ⟨rfl, rfl⟩ := Phase.joined.inj hp
        exact .inl ⟨_, ht', hk', hc', .inr ⟨_, rfl, h.attemptEnds ht hk hpt ended,
          h.result?_move m ended⟩⟩
      · simp [hpt] at hp
    | goesOn _ hpt own =>
      obtain hp | ⟨o, hp, ho, hr⟩ := hp
      · simp [hpt] at hp
      · rw [hpt] at hp
        obtain ⟨rfl, rfl, rfl⟩ := Phase.leaving.inj hp
        -- the attempts' only success is the one that ensured calls end with
        obtain hv | ⟨e, he, -⟩ := ho
        · obtain rfl := Except.ok.inj hv
          exact .inr ⟨_, ⟨_, ht', hk', hc', stops_of_ensured own⟩, .inl rfl, h.result?_move m hr⟩
        · cases he
    | ends _ hpt =>
      obtain hp | ⟨o, hp, ho, hr⟩ := hp
      · simp [hpt] at hp
      · rw [hpt] at hp
        obtain ⟨rfl, rfl, rfl⟩ := Phase.leaving.inj hp
        exact .inr ⟨_, ⟨_, ht', hk', hc', rfl⟩, ho, h.result?_move m hr⟩
    | served _ hpt | joins _ hpt | spreads _ hpt | works hpt | wakes hpt =>
      obtain hp | ⟨o, hp, -⟩ := hp
      · simp [hpt] at hp
      · simp [hpt] at hp
  · exact .inr ⟨o, h.bound_move hb hm, ho, h.result?_move m hr⟩

theorem Invariant.fresh_move (h : Invariant s) (hf : s.Fresh i name) (hm : m ≠ .cancel i) :
    (s.move w m).Fresh i name ∨
    (s.isProvisioned w.ns name ∧ (s.move w m).Bound i (.ok .null)) ∨
    ∃ a, (s.move w m).IsAttempt (Namespace.tableKey w.ns name) a ∧ (s.move w m).Follows i a ∧
      ∃ t body, (s.move w m).task? i = some t ∧ t.phase = .joined a body := by
  obtain ⟨t, table, ht, hk, hc, hp⟩ := hf
  obtain ⟨t', ht', hadv⟩ := (move_effect (w := w) h m).old i t ht
  have hk' := hadv.onward.key.trans hk
  have hc' := hadv.cancelling hk hc hm
  cases hadv with
  | stays => exact .inl ⟨t, table, ht', hk, hc, hp⟩
  | cancelled _ h => exact absurd h hm
  | abandoned h => simp [hk] at h
  | served _ hpt there own =>
    rw [hp] at hpt
    obtain ⟨rfl, rfl, rfl⟩ := Phase.fresh.inj hpt
    exact .inr (.inl ⟨there, _, ht', hk', hc', stops_of_ensured own⟩)
  | joins _ hpt attempt =>
    rw [hp] at hpt
    obtain ⟨rfl, rfl, rfl⟩ := Phase.fresh.inj hpt
    exact .inr (.inr ⟨_, attempt, .inl ⟨_, ht', hk', hc', .inl rfl⟩, _, _, ht', rfl⟩)
  | spreads _ hpt | works hpt | hears _ hpt | goesOn _ hpt | ends _ hpt | wakes hpt =>
    simp [hp] at hpt

-- ---------------------------------------------------------------------------
-- Whole runs
-- ---------------------------------------------------------------------------

/-- At some time of the run the call waits for the attempt, or is about to leave it. -/
def WaitsFor (w : World) (s : Session) (ms : List Move) (i a : Nat) : Prop :=
  ∃ before after t, ms = before ++ after ∧ (s.moves w before).task? i = some t ∧
    t.phase.attempt? = some a

theorem waitsFor_nil :
    WaitsFor w s [] i a ↔ ∃ t, s.task? i = some t ∧ t.phase.attempt? = some a := by
  constructor
  · rintro ⟨before, after, t, hms, ht, hp⟩
    obtain ⟨rfl, rfl⟩ := List.append_eq_nil_iff.mp hms.symm
    exact ⟨t, ht, hp⟩
  · rintro ⟨t, ht, hp⟩
    exact ⟨[], [], t, rfl, ht, hp⟩

theorem waitsFor_append : WaitsFor w s (ms ++ ms') i a ↔
    WaitsFor w s ms i a ∨ WaitsFor w (s.moves w ms) ms' i a := by
  constructor
  · rintro ⟨before, after, t, hms, ht, hp⟩
    obtain ⟨rest, rfl, rfl⟩ | ⟨rest, rfl, rfl⟩ := List.append_eq_append_iff.mp hms
    · exact .inr ⟨rest, after, t, rfl, by rw [← moves_append]; exact ht, hp⟩
    · exact .inl ⟨before, rest, t, rfl, ht, hp⟩
  · rintro (⟨before, after, t, rfl, ht, hp⟩ | ⟨before, after, t, rfl, ht, hp⟩)
    · exact ⟨before, after ++ ms', t, List.append_assoc .., ht, hp⟩
    · refine ⟨ms ++ before, after, t, (List.append_assoc ..).symm, ?_, hp⟩
      rw [moves_append]
      exact ht

theorem waitsFor_cons : WaitsFor w s (m :: ms) i a ↔
    (∃ t, s.task? i = some t ∧ t.phase.attempt? = some a) ∨ WaitsFor w (s.move w m) ms i a := by
  constructor
  · rintro ⟨before, after, t, hms, ht, hp⟩
    cases before with
    | nil => exact .inl ⟨t, ht, hp⟩
    | cons m' before =>
      obtain ⟨rfl, rfl⟩ := List.cons.inj hms
      exact .inr ⟨before, after, t, rfl, ht, hp⟩
  · rintro (⟨t, ht, hp⟩ | ⟨before, after, t, rfl, ht, hp⟩)
    · exact ⟨[], m :: ms, t, rfl, ht, hp⟩
    · exact ⟨m :: before, after, t, rfl, ht, hp⟩

theorem not_cancel_of_cons (h : Move.cancel i ∉ m :: ms) : m ≠ .cancel i ∧ Move.cancel i ∉ ms :=
  ⟨fun hm => h (hm ▸ List.mem_cons_self), fun hm => h (List.mem_cons_of_mem _ hm)⟩

theorem Bound.attempt? (hb : s.Bound i o) (ht : s.task? i = some t) : t.phase.attempt? = none := by
  obtain ⟨u, hu, -, -, hp⟩ := hb
  obtain rfl := Option.some.inj (hu.symm.trans ht)
  exact attempt?_stops hp

theorem Follows.attempt? (hf : s.Follows i a) (ht : s.task? i = some t)
    (hp : t.phase.attempt? = some b) : b = a := by
  obtain ⟨u, hu, -, -, hpu⟩ | ⟨o, hb, -⟩ := hf
  · obtain rfl := Option.some.inj (hu.symm.trans ht)
    obtain hpu | ⟨o, hpu, -⟩ := hpu
    · rw [hpu] at hp
      exact (Option.some.inj hp).symm
    · rw [hpu] at hp
      exact (Option.some.inj hp).symm
  · simp [hb.attempt? ht] at hp

theorem Invariant.bound_moves (h : Invariant s) (hb : s.Bound i o) (hms : .cancel i ∉ ms) :
    (s.moves w ms).Bound i o ∧ ∀ a, ¬ WaitsFor w s ms i a := by
  have now : ∀ {s : Session}, s.Bound i o → ∀ a, ¬ ∃ t, s.task? i = some t ∧
      t.phase.attempt? = some a := by
    rintro s hb a ⟨t, ht, hp⟩
    simp [hb.attempt? ht] at hp
  induction ms generalizing s with
  | nil => exact ⟨hb, fun a ha => now hb a (waitsFor_nil.mp ha)⟩
  | cons m ms ih =>
    obtain ⟨hm, hms⟩ := not_cancel_of_cons hms
    obtain ⟨hb', hw⟩ := ih (h.move m) (h.bound_move (w := w) hb hm) hms
    exact ⟨hb', fun a ha => (waitsFor_cons.mp ha).elim (now hb a) (hw a)⟩

theorem Invariant.follows_moves (h : Invariant s) (hf : s.Follows i a) (hms : .cancel i ∉ ms) :
    (s.moves w ms).Follows i a ∧ ∀ b, WaitsFor w s ms i b → b = a := by
  have now : ∀ {s : Session}, s.Follows i a → ∀ b, (∃ t, s.task? i = some t ∧
      t.phase.attempt? = some b) → b = a := by
    rintro s hf b ⟨t, ht, hp⟩
    exact hf.attempt? ht hp
  induction ms generalizing s with
  | nil => exact ⟨hf, fun b hb => now hf b (waitsFor_nil.mp hb)⟩
  | cons m ms ih =>
    obtain ⟨hm, hms⟩ := not_cancel_of_cons hms
    obtain ⟨hf', hw⟩ := ih (h.move m) (h.follows_move (w := w) hf hm) hms
    exact ⟨hf', fun b hb => (waitsFor_cons.mp hb).elim (now hf b) (hw b)⟩

/-- How a call that makes sure of a table fares in a run: it has not begun, it found the table
provisioned, or it joined one attempt. -/
theorem Invariant.fresh_moves (h : Invariant s) (hf : s.Fresh i name) (hms : .cancel i ∉ ms) :
    ((s.moves w ms).Fresh i name ∧ ∀ a, ¬ WaitsFor w s ms i a) ∨
    ((s.moves w ms).Bound i (.ok .null) ∧ (∀ a, ¬ WaitsFor w s ms i a) ∧
      ∃ before after, ms = before ++ after ∧ (s.moves w before).isProvisioned w.ns name) ∨
    ∃ a, (s.moves w ms).Follows i a ∧ (∀ b, WaitsFor w s ms i b ↔ b = a) ∧
      (s.moves w ms).IsAttempt (Namespace.tableKey w.ns name) a := by
  have now : ∀ a, ¬ ∃ t, s.task? i = some t ∧ t.phase.attempt? = some a := by
    obtain ⟨t, table, ht, -, -, hp⟩ := hf
    rintro a ⟨u, hu, hpu⟩
    obtain rfl := Option.some.inj (hu.symm.trans ht)
    simp [hp, Phase.attempt?] at hpu
  induction ms generalizing s with
  | nil => exact .inl ⟨hf, fun a ha => now a (waitsFor_nil.mp ha)⟩
  | cons m ms ih =>
    obtain ⟨hm, hms⟩ := not_cancel_of_cons hms
    have later : ∀ a, WaitsFor w s (m :: ms) i a ↔ WaitsFor w (s.move w m) ms i a := fun a =>
      waitsFor_cons.trans (or_iff_right (now a))
    simp only [later, moves_cons]
    obtain hf | ⟨there, hb⟩ | ⟨a, ha, hf, t, body, ht, hp⟩ := h.fresh_move (w := w) hf hm
    · have now' : ∀ a, ¬ ∃ t, (s.move w m).task? i = some t ∧ t.phase.attempt? = some a := by
        obtain ⟨t, table, ht, -, -, hp⟩ := hf
        rintro a ⟨u, hu, hpu⟩
        obtain rfl := Option.some.inj (hu.symm.trans ht)
        simp [hp, Phase.attempt?] at hpu
      obtain hcase | ⟨hb, hw, before, after, rfl, hprov⟩ | hcase := ih (h.move m) hf hms now'
      · exact .inl hcase
      · exact .inr (.inl ⟨hb, hw, m :: before, after, rfl, hprov⟩)
      · exact .inr (.inr hcase)
    · obtain ⟨hb', hw⟩ := (h.move m).bound_moves (w := w) hb hms
      exact .inr (.inl ⟨hb', hw, [], m :: ms, rfl, there⟩)
    · obtain ⟨hf', hw⟩ := (h.move m).follows_moves (w := w) hf hms
      refine .inr (.inr ⟨a, hf', fun b => ⟨hw b, ?_⟩, ?_⟩)
      · rintro rfl
        exact ⟨[], ms, t, rfl, ht, by rw [hp]; rfl⟩
      · obtain ⟨u, hu, hku⟩ := ha
        obtain ⟨u', hu', hon⟩ := (h.move m).onward (w := w) ms hu
        exact ⟨u', hu', hon.key.trans hku⟩

-- ---------------------------------------------------------------------------
-- Starting over
-- ---------------------------------------------------------------------------

theorem first?_attemptWork (w : World) (name : String) (table : Table) :
    ∃ q, (attemptWork w name table).first? = some q ∧ q.endpoint = .checkTable := by
  obtain ⟨q, hq, he⟩ := Provisioning.first?_attempt w.plane w.ns name table
  exact ⟨q, Program.first?_andThen _ hq, he⟩

theorem isCurrent_of_isDead (h : AttemptStands u) (hd : u.IsDead) : u.isCurrent = false := by
  obtain hc | ⟨e, hr⟩ := hd
  · exact not_isCurrent_of_cancelling h hc
  · exact Task.not_isCurrent_of_error hr

theorem ensure_of_free (h : ∀ a u, s.cached? (Namespace.tableKey w.ns name) = some (a, u) →
    u.isCurrent = false) : s.ensure w i name table body =
      (s.startAttempt w (Namespace.tableKey w.ns name) name table).join i s.tasks.length body := by
  unfold ensure
  simp only
  split
  · rename_i a u hcached
    have hfree := h a u hcached
    simp only [Task.isCurrent, Bool.or_eq_false_iff] at hfree
    rw [hfree.1, hfree.2]
    rfl
  · rfl

/-- A call that finds the newest attempt dead starts an attempt of its own and waits for that. -/
theorem Invariant.starts_over (h : Invariant s) (ht : s.task? i = some t)
    (hp : t.phase = .fresh name table body) (hq : .run i ∈ s.ready) (hu : s.task? a = some u)
    (hk : u.key = some (Namespace.tableKey w.ns name)) (hd : u.IsDead)
    (newest : ∀ j, s.IsAttempt (Namespace.tableKey w.ns name) j → j ≤ a) :
    s.move w (.run (.run i)) = ({ s with ready := s.ready.erase (.run i) }.startAttempt w
      (Namespace.tableKey w.ns name) name table).join i s.tasks.length body := by
  have hfree : ∀ b v, s.cached? (Namespace.tableKey w.ns name) = some (b, v) →
      v.isCurrent = false := by
    intro b v hbv
    obtain ⟨hget, hv⟩ := cached?_eq_some hbv
    -- the cache holds the newest attempt
    have hab := h.newest _ b hget a ⟨u, hu, hk⟩
    obtain rfl := Nat.le_antisymm hab (newest b (h.cached _ b hget))
    obtain rfl := Option.some.inj (hu.symm.trans hv)
    exact isCurrent_of_isDead (h.attempt a u hu (by simp [hk])) hd
  have hrun : s.move w (.run (.run i)) = runTask w i { s with ready := s.ready.erase (.run i) } :=
    if_pos hq
  rw [hrun, runTask, show task? i { s with ready := s.ready.erase (.run i) } = some t from ht]
  simp only [Option.map_some, hp]
  exact ensure_of_free (s := { s with ready := s.ready.erase (.run i) }) hfree

/-- The new attempt is queued with all of its work to do, which starts with the check. -/
theorem Invariant.starts_over_with_check (h : Invariant s) (ht : s.task? i = some t)
    (hp : t.phase = .fresh name table body) (hq : .run i ∈ s.ready) (hu : s.task? a = some u)
    (hk : u.key = some (Namespace.tableKey w.ns name)) (hd : u.IsDead)
    (newest : ∀ j, s.IsAttempt (Namespace.tableKey w.ns name) j → j ≤ a) :
    let s' := s.move w (.run (.run i))
    (∃ work q, s'.task? s.tasks.length =
        some ⟨some (Namespace.tableKey w.ns name), false, .ready work⟩ ∧
      work.first? = some q ∧ q.endpoint = .checkTable) ∧
    .run s.tasks.length ∈ s'.ready ∧
    Assoc.get? (Namespace.tableKey w.ns name) s'.cache = some s.tasks.length ∧
    s'.task? i = some { t with phase := .joined s.tasks.length body } := by
  obtain ⟨q, hfirst, he⟩ := first?_attemptWork w name table
  intro s'
  have heq : s' = _ := h.starts_over ht hp hq hu hk hd newest
  have hlt := lt_of_task? ht
  rw [heq]
  refine ⟨⟨attemptWork w name table, q, ?_, hfirst, he⟩, ?_, ?_, ?_⟩
  · rw [task?_of_modify rfl, if_neg (Nat.ne_of_lt hlt), task?_of_append rfl, if_pos rfl]
    rfl
  · exact List.mem_append_right _ (List.mem_singleton.mpr rfl)
  · exact (Assoc.get?_put ..).trans (if_pos rfl)
  · rw [task?_of_modify rfl, if_pos rfl, task?_of_append rfl, if_neg (Nat.ne_of_lt hlt)]
    rw [show task? i { s with ready := s.ready.erase (.run i) } = some t from ht]
    rfl

-- ---------------------------------------------------------------------------
-- Outcomes
-- ---------------------------------------------------------------------------

/-- In the run the call makes sure of the table and nobody cancels it. -/
def Ensures (w : World) (ms : List Move) (name : String) (i : Nat) : Prop :=
  ∃ before after table, ms = before ++ .ensureTable name table :: after ∧
    i = (empty.moves w before).tasks.length ∧ .cancel i ∉ after

theorem Ensures.fares (h : Ensures w ms name i) :
    ((empty.moves w ms).Fresh i name ∧ ∀ a, ¬ WaitsFor w empty ms i a) ∨
    ((empty.moves w ms).Bound i (.ok .null) ∧ (∀ a, ¬ WaitsFor w empty ms i a) ∧
      ∃ before after, ms = before ++ after ∧ (empty.moves w before).isProvisioned w.ns name) ∨
    ∃ a, (empty.moves w ms).Follows i a ∧ (∀ b, WaitsFor w empty ms i b ↔ b = a) ∧
      (empty.moves w ms).IsAttempt (Namespace.tableKey w.ns name) a := by
  obtain ⟨before, after, table, rfl, hi, hms⟩ := h
  have hinv := Invariant.reachable w before
  have hnone : (empty.moves w before).task? i = none :=
    List.getElem?_eq_none_iff.mpr (Nat.le_of_eq hi.symm)
  have hnew : ((empty.moves w before).move w (.ensureTable name table)).task? i =
      some ⟨none, false, .fresh name table ensured⟩ := by
    rw [task?_of_append rfl, if_pos hi]
  -- before it is started the call does not wait
  have early : ∀ a, ¬ WaitsFor w empty before i a := by
    rintro a ⟨first, rest, t, rfl, ht, -⟩
    obtain ⟨t', ht', -⟩ := (Invariant.reachable w first).onward (w := w) rest ht
    rw [← moves_append, hnone] at ht'
    cases ht'
  have later : ∀ a, WaitsFor w empty (before ++ .ensureTable name table :: after) i a ↔
      WaitsFor w ((empty.moves w before).move w (.ensureTable name table)) after i a := by
    intro a
    rw [waitsFor_append, or_iff_right (early a), waitsFor_cons, or_iff_right]
    rintro ⟨t, ht, -⟩
    simp [hnone] at ht
  simp only [later, moves_append, moves_cons]
  obtain hf | ⟨hb, hw, first, rest, rfl, hprov⟩ | hf :=
    (hinv.move (.ensureTable name table)).fresh_moves (w := w) ⟨_, table, hnew, rfl, rfl, rfl⟩ hms
  · exact .inl hf
  · refine .inr (.inl ⟨hb, hw, before ++ .ensureTable name table :: first, rest, by simp, ?_⟩)
    rw [moves_append, moves_cons]
    exact hprov
  · exact .inr (.inr hf)

theorem Bound.result? (h : s.Bound i o) (hr : s.result? i = some r) : r = o := by
  obtain ⟨t, ht, -, -, hp⟩ := h
  simp only [Session.result?, ht, Option.bind_some] at hr
  rw [Task.result?_eq_some.mp hr] at hp
  exact hp

theorem Follows.result? (h : s.Follows i a) (hr : s.result? i = some r) :
    s.result? a = some r ∧ AttemptEnds r := by
  obtain ⟨t, ht, -, -, hp⟩ | ⟨o, hb, ho, hra⟩ := h
  · simp only [Session.result?, ht, Option.bind_some] at hr
    have hpt := Task.result?_eq_some.mp hr
    obtain hp | ⟨o, hp, -⟩ := hp <;> simp [hp] at hpt
  · obtain rfl := hb.result? hr
    exact ⟨hra, ho⟩

/-- A call never ends as cancelled unless it is; it found the table provisioned or ends as the one
attempt that it waited for. -/
theorem Ensures.outcome (h : Ensures w ms name i) (hr : (empty.moves w ms).result? i = some r) :
    r ≠ .error .cancelled ∧
      ((r = .ok .null ∧ (∀ a, ¬ WaitsFor w empty ms i a) ∧
          ∃ before after, ms = before ++ after ∧ (empty.moves w before).isProvisioned w.ns name) ∨
        ∃ a, (∀ b, WaitsFor w empty ms i b ↔ b = a) ∧
          (empty.moves w ms).IsAttempt (Namespace.tableKey w.ns name) a ∧
          (empty.moves w ms).result? a = some r) := by
  obtain ⟨⟨t, table, ht, -, -, hp⟩, -⟩ | ⟨hb, hn, hprov⟩ | ⟨a, hf, hw, ha⟩ := h.fares
  · simp [Session.result?, ht, Task.result?, hp] at hr
  · obtain rfl := hb.result? hr
    exact ⟨by simp, .inl ⟨rfl, hn, hprov⟩⟩
  · obtain ⟨hra, hends⟩ := hf.result? hr
    refine ⟨?_, .inr ⟨a, hw, ha, hra⟩⟩
    rintro rfl
    obtain h | ⟨e, h, hne⟩ := hends
    · cases h
    · obtain rfl := Except.error.inj h
      exact hne

theorem Ensures.hears (h : Ensures w ms name i) (hr : (empty.moves w ms).result? i = some r)
    (hw : WaitsFor w empty ms i a) : (empty.moves w ms).result? a = some r := by
  obtain ⟨-, ⟨-, hn, -⟩ | ⟨b, hb, -, hrb⟩⟩ := h.outcome hr
  · exact absurd hw (hn a)
  · obtain rfl := (hb a).mp hw
    exact hrb

/-- When nothing is left to do, a task has ended, unless it stands for several. -/
theorem ends_of_idle (hidle : (empty.moves w ms).Idle) (ht : (empty.moves w ms).task? i = some t)
    (hg : ∀ children, t.phase ≠ .gathered children) :
    ∃ r, (empty.moves w ms).result? i = some r := by
  have hqueued : Queued none (empty.moves w ms) := Queued.empty.moves Invariant.empty ms
  obtain ⟨r, hr⟩ | ⟨children, hp⟩ := hqueued.finished_of_idle (Invariant.reachable w ms) hidle ht
  · exact ⟨r, by simp [Session.result?, ht, hr]⟩
  · exact absurd hp (hg children)

theorem Bound.ends (h : (empty.moves w ms).Bound i o) (hidle : (empty.moves w ms).Idle) :
    ∃ r, (empty.moves w ms).result? i = some r := by
  obtain ⟨t, ht, -, -, hp⟩ := h
  refine ends_of_idle hidle ht fun children hg => ?_
  rw [hg] at hp
  exact hp

theorem Fresh.ends (h : (empty.moves w ms).Fresh i name) (hidle : (empty.moves w ms).Idle) :
    ∃ r, (empty.moves w ms).result? i = some r := by
  obtain ⟨t, table, ht, -, -, hp⟩ := h
  exact ends_of_idle hidle ht (by simp [hp])

theorem Follows.ends (h : (empty.moves w ms).Follows i a) (hidle : (empty.moves w ms).Idle) :
    ∃ r, (empty.moves w ms).result? i = some r := by
  obtain ⟨t, ht, -, -, hp⟩ | ⟨o, hb, -⟩ := h
  · refine ends_of_idle hidle ht ?_
    obtain hp | ⟨o, hp, -⟩ := hp <;> simp [hp]
  · exact hb.ends hidle

theorem Ensures.ends (h : Ensures w ms name i) (hidle : (empty.moves w ms).Idle) :
    ∃ r, (empty.moves w ms).result? i = some r := by
  obtain ⟨hfresh, -⟩ | ⟨hb, -⟩ | ⟨a, hf, -⟩ := h.fares
  · exact hfresh.ends hidle
  · exact hb.ends hidle
  · exact hf.ends hidle

theorem ensure_outcomes (w : World) (ms : List Move) :
    let s := empty.moves w ms
    (∀ name i r, Ensures w ms name i → s.result? i = some r → r ≠ .error .cancelled ∧
      ((r = .ok .null ∧ (∀ a, ¬ WaitsFor w empty ms i a) ∧
          ∃ before after, ms = before ++ after ∧ (empty.moves w before).isProvisioned w.ns name) ∨
        ∃ a, (∀ b, WaitsFor w empty ms i b ↔ b = a) ∧
          s.IsAttempt (Namespace.tableKey w.ns name) a ∧ s.result? a = some r)) ∧
    (∀ name i, Ensures w ms name i → s.Idle → ∃ r, s.result? i = some r) ∧
    (∀ name name' i j a r r', Ensures w ms name i → Ensures w ms name' j →
      WaitsFor w empty ms i a → WaitsFor w empty ms j a →
      s.result? i = some r → s.result? j = some r' → r = r') ∧
    (∀ name table body i t a u, s.task? i = some t → t.phase = .fresh name table body →
      .run i ∈ s.ready → s.task? a = some u → u.key = some (Namespace.tableKey w.ns name) →
      u.IsDead → (∀ j, s.IsAttempt (Namespace.tableKey w.ns name) j → j ≤ a) →
      let s' := s.move w (.run (.run i))
      (∃ work q, s'.task? s.tasks.length =
          some ⟨some (Namespace.tableKey w.ns name), false, .ready work⟩ ∧
        work.first? = some q ∧ q.endpoint = .checkTable) ∧
      .run s.tasks.length ∈ s'.ready ∧
      Assoc.get? (Namespace.tableKey w.ns name) s'.cache = some s.tasks.length ∧
      s'.task? i = some { t with phase := .joined s.tasks.length body }) := by
  intro s
  refine ⟨fun name i r he hr => he.outcome hr, fun name i he hidle => he.ends hidle, ?_, ?_⟩
  · intro name name' i j a r r' hei hej hwi hwj hri hrj
    exact Option.some.inj ((hei.hears hri hwi).symm.trans (hej.hears hrj hwj))
  · intro name table body i t a u ht hp hq hu hk hd newest
    exact (Invariant.reachable w ms).starts_over_with_check ht hp hq hu hk hd newest

end Session

end TenantStore
