import TenantStore.Proofs.Session.Attempts

/-!
# Schedules

Moves leave more open than a session does by itself: jobs run in any order, and calls are cancelled
one by one. First come first served is one schedule of many (`drainFor_moves`), and a group of calls
is cancelled call by call (`cancel_moves`). So every session in use is one that a run comes to
(`InUse.moves`), and what holds in every run holds of it.
-/

namespace TenantStore.Session

def IsCall (s : Session) (i : Nat) : Prop :=
  ∃ t, s.task? i = some t ∧ t.key = none

/-- What a group stands for are calls. -/
def Grouped (s : Session) : Prop :=
  ∀ i t calls, s.task? i = some t → t.phase = .gathered calls → ∀ c ∈ calls, s.IsCall c

/-- What becomes of a session by its jobs and from outside, where only calls are cancelled. -/
inductive InUse (w : World) : Session → Prop
  | empty : InUse w empty
  | start (h : InUse w s) (own : c.Queries) : InUse w (s.start c)
  | cancel (h : InUse w s) (hi : s.IsCall i) : InUse w (s.cancel i)
  | hold (h : InUse w s) : InUse w (s.hold e)
  | release (h : InUse w s) : InUse w (s.release e)
  | tick (h : InUse w s) : InUse w (s.tick w)
  | drain (h : InUse w s) : InUse w (s.drain w)

variable {w : World} {s : Session} {m : Move} {ms : List Move} {i : Nat} {calls : List Nat}

-- ---------------------------------------------------------------------------
-- Jobs
-- ---------------------------------------------------------------------------

theorem tick_eq_move (h : s.ready = j :: rest) : s.tick w = s.move w (.run j) := by
  simp [tick, move, h]

theorem tick_moves (w : World) (s : Session) : ∃ ms, s.tick w = s.moves w ms := by
  cases hready : s.ready with
  | nil =>
    refine ⟨[], ?_⟩
    simp [tick, hready, moves]
  | cons j rest => exact ⟨[.run j], tick_eq_move hready⟩

theorem drainFor_moves (w : World) (n : Nat) (s : Session) :
    ∃ ms, s.drainFor w n = s.moves w ms := by
  induction n generalizing s with
  | zero => exact ⟨[], rfl⟩
  | succ n ih =>
    unfold drainFor
    split
    · exact ⟨[], rfl⟩
    · obtain ⟨first, hfirst⟩ := tick_moves w s
      obtain ⟨ms, hms⟩ := ih (s.tick w)
      exact ⟨first ++ ms, by rw [hms, hfirst, moves_append]⟩

-- ---------------------------------------------------------------------------
-- Groups
-- ---------------------------------------------------------------------------

theorem IsCall.move (h : Invariant s) (m : Move) (hi : s.IsCall i) : (s.move w m).IsCall i := by
  obtain ⟨t, ht, hk⟩ := hi
  obtain ⟨t', ht', hadv⟩ := (move_effect (w := w) h m).old i t ht
  exact ⟨t', ht', hadv.onward.key.trans hk⟩

theorem Grouped.move (h : Invariant s) (hg : Grouped s) (m : Move) : Grouped (s.move w m) := by
  have heff := move_effect (w := w) h m
  intro i t' calls ht' hp c hc
  cases ht : s.task? i with
  | none => exact absurd hp ((heff.new i t' ht' ht).alone calls)
  | some t =>
    obtain ⟨u, hu, hadv⟩ := heff.old i t ht
    obtain rfl := Option.some.inj (hu.symm.trans ht')
    have stays : t.phase = .gathered calls → (s.move w m).IsCall c := fun hp =>
      (hg i t calls ht hp c hc).move h m
    cases hadv with
    | stays => exact stays hp
    | cancelled | abandoned =>
      refine stays ?_
      unfold Task.calledOff at hp
      split at hp <;> simp_all
    | spreads _ _ hcalls =>
      obtain rfl := Phase.gathered.inj hp
      exact hcalls c hc
    | served _ _ _ own | goesOn _ _ own | works _ own =>
      obtain rfl := hp
      exact (own (fun _ => True) (fun _ => True) (Program.within_true _)).1.elim
    | joins | hears | ends | wakes => cases hp

theorem Grouped.moves (h : Invariant s) (hg : Grouped s) (ms : List Move) :
    Grouped (s.moves w ms) := by
  induction ms generalizing s with
  | nil => exact hg
  | cons m ms ih => exact ih (h.move m) (hg.move h m)

theorem callOff_eq_move (hi : s.IsCall i) : s.callOff i = s.move w (.cancel i) := by
  obtain ⟨t, ht, hk⟩ := hi
  simp [Session.move, ht, hk]

theorem foldl_callOff_moves (h : Invariant s) (hcalls : ∀ c ∈ calls, s.IsCall c) :
    calls.foldl (fun s c => s.callOff c) s = s.moves w (calls.map .cancel) := by
  induction calls generalizing s with
  | nil => rfl
  | cons c calls ih =>
    obtain ⟨hc, hcalls⟩ := List.forall_mem_cons.mp hcalls
    rw [List.foldl_cons, List.map_cons, moves_cons, callOff_eq_move (w := w) hc]
    exact ih (h.move _) fun c' hc' => (hcalls c' hc').move h _

/-- A call is cancelled by moves, a group call by call. -/
theorem cancel_moves (h : Invariant s) (hg : Grouped s) (hi : s.IsCall i) :
    ∃ ms, s.cancel i = s.moves w ms := by
  have ⟨t, ht, _⟩ := hi
  unfold cancel
  rw [ht]
  cases hp : t.phase with
  | gathered calls =>
    simp only [Option.map_some, hp]
    split
    · exact ⟨[], rfl⟩
    · exact ⟨_, foldl_callOff_moves h (hg i t calls ht hp)⟩
  | _ =>
    simp only [Option.map_some, hp]
    exact ⟨[.cancel i], callOff_eq_move (w := w) hi⟩

-- ---------------------------------------------------------------------------
-- Sessions in use
-- ---------------------------------------------------------------------------

/-- Every session in use is one that a run comes to. -/
theorem InUse.moves (h : InUse w s) : ∃ ms, s = Session.empty.moves w ms := by
  have more : ∀ {s s' : Session}, (∃ ms, s = Session.empty.moves w ms) →
      (∃ ms, s' = s.moves w ms) → ∃ ms, s' = Session.empty.moves w ms := by
    rintro _ _ ⟨ms, rfl⟩ ⟨ms', rfl⟩
    exact ⟨ms ++ ms', moves_append.symm⟩
  induction h with
  | empty => exact ⟨[], rfl⟩
  | start _ own ih => exact more ih ⟨[.start _ own], rfl⟩
  | cancel _ hi ih =>
    refine more ih ?_
    obtain ⟨ms, rfl⟩ := ih
    exact cancel_moves (.reachable w ms) (.moves .empty nofun ms) hi
  | hold _ ih => exact more ih ⟨[.hold _], rfl⟩
  | release _ ih => exact more ih ⟨[.release _], rfl⟩
  | tick _ ih => exact more ih (tick_moves w _)
  | drain _ ih => exact more ih (drainFor_moves w _ _)

end TenantStore.Session
