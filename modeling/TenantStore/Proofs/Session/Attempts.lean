import TenantStore.Proofs.Session.Moves

/-!
# Attempts share their table with no other

In every reachable session at most one attempt at a table is at work, an attempt that was called
off sends nothing more, and a table whose attempt has succeeded is provisioned for good
(`attempts_exclusive`). `sendings` tells which task sends which request of a run.
-/

namespace TenantStore

/-- What never changes about a task, and what does not change back. -/
structure Task.Onward (t t' : Task) : Prop where
  key : t'.key = t.key
  cancelling : t.cancelling = true → t'.cancelling = true
  result : ∀ r, t.result? = some r → t'.result? = some r

theorem Task.Onward.refl (t : Task) : t.Onward t :=
  ⟨rfl, id, fun _ => id⟩

theorem Task.Onward.trans {t t' t'' : Task} (h : t.Onward t') (h' : t'.Onward t'') :
    t.Onward t'' :=
  ⟨h'.key.trans h.key, h'.cancelling ∘ h.cancelling, fun r hr => h'.result r (h.result r hr)⟩

theorem Task.onward_calledOff (t : Task) : t.Onward t.calledOff where
  key := t.key_calledOff
  cancelling hc := by
    unfold calledOff
    split <;> first | rfl | exact hc
  result r hr := by
    unfold calledOff
    cases hp : t.phase <;> simp_all [result?]

theorem Task.Onward.succeeded {t t' : Task} (h : t.Onward t') (hs : t.succeeded) :
    t'.succeeded := by
  unfold Task.succeeded at hs
  split at hs
  · rename_i v hp
    have hr := h.result (.ok v) (by simp [result?, hp])
    unfold result? at hr
    unfold Task.succeeded
    split at hr <;> simp_all
  · cases hs

theorem Task.onward_phase {t : Task} {p : Phase} (hopen : t.result? = none) :
    t.Onward { t with phase := p } :=
  ⟨rfl, id, fun r hr => by simp [hopen] at hr⟩

namespace Session

variable {w : World} {s s' : Session} {m : Move} {i j a : Nat} {t t' u : Task} {key : String}

theorem Advances.onward (h : Advances w m s s' i t t') : t.Onward t' := by
  cases h with
  | stays => exact .refl t
  | cancelled | abandoned => exact t.onward_calledOff
  | served _ hp | joins _ hp | spreads _ hp | works hp | hears _ hp | goesOn _ hp | ends _ hp
  | wakes hp => exact Task.onward_phase (by simp [Task.result?, hp])

theorem Invariant.onward (h : Invariant s) (ms : List Move) (ht : s.task? i = some t) :
    ∃ t', (s.moves w ms).task? i = some t' ∧ t.Onward t' := by
  induction ms generalizing s t with
  | nil => exact ⟨t, ht, .refl t⟩
  | cons m ms ih =>
    obtain ⟨u, hu, hadv⟩ := (move_effect h m).old i t ht
    obtain ⟨t', ht', hon⟩ := ih (h.move m) hu
    exact ⟨t', ht', hadv.onward.trans hon⟩

-- ---------------------------------------------------------------------------
-- Who sends what
-- ---------------------------------------------------------------------------

def sends (w : World) (s : Session) : Move → List (Nat × Request)
  | .run (.run i) => ((s.move w (.run (.run i))).sent.drop s.sent.length).map fun q => (i, q)
  | _ => []

def sendings (w : World) : List Move → Session → List (Nat × Request)
  | [], _ => []
  | m :: ms, s => s.sends w m ++ sendings w ms (s.move w m)

/-- An attempt that is at work sends all requests but queries, and calls send the queries. -/
def MaySend (t : Task) (q : Request) : Prop :=
  if t.key.isSome then t.isShareable ∧ q.endpoint ≠ .query else q.endpoint = .query

theorem sent_foldl {op : Session → α → Session} (hop : ∀ s x, (op s x).sent = s.sent)
    (xs : List α) (s : Session) : (xs.foldl op s).sent = s.sent := by
  induction xs generalizing s with
  | nil => rfl
  | cons x xs ih => rw [List.foldl_cons, ih, hop]

theorem sent_gather (i : Nat) (tables : List (String × Table)) (s : Session) :
    (s.gather i tables).sent = s.sent := by
  show Session.sent (tables.foldl _ s) = s.sent
  refine sent_foldl (fun s e => ?_) tables s
  rfl

theorem sent_deliver (s : Session) (i : Nat) : (s.deliver i).sent = s.sent := by
  unfold deliver
  split <;> rfl

theorem sent_settle (a : Nat) (s : Session) : (s.settle a).sent = s.sent := by
  have htell : ∀ o s i, (Session.tell a o s i).sent = s.sent := by
    intro o s i
    unfold tell
    split
    · split <;> rfl
    · rfl
  unfold settle
  split
  · rename_i key c o hu
    obtain ⟨events, heq⟩ := forget_eq a key o s
    rw [sent_foldl (htell o), heq]
  · rfl

theorem sent_abandon (a : Nat) (o : Except Failure Data) (s : Session) :
    (s.abandon a o).sent = s.sent := by
  unfold abandon
  split
  · split
    · exact sent_callOff a _
    · rfl
  · rfl

theorem advance_sent {asked : Request → Prop} {result : Except Failure Data → Prop}
    {body : Remote Data} (w : World) (i : Nat) (s : Session) (hb : body.Within asked result) :
    ∃ qs, (s.advance w i body).sent = s.sent ++ qs ∧ ∀ q ∈ qs, asked q := by
  obtain ⟨p, qs, hbody, hst⟩ := advance_stretch w i body s
  exact ⟨qs, hst.sent, (hbody _ _ hb).2⟩

theorem ensure_sent {body : Remote Data} (hb : Queries body) :
    ∃ qs, (s.ensure w i name table body).sent = s.sent ++ qs ∧ ∀ q ∈ qs, q.endpoint = .query := by
  have none : ∃ qs, s.sent = s.sent ++ qs ∧ ∀ q ∈ qs, q.endpoint = .query :=
    ⟨[], (List.append_nil _).symm, List.forall_mem_nil _⟩
  unfold ensure
  simp only
  split
  · split
    · exact advance_sent w i (s.note _) hb
    · split
      · exact none
      · exact none
  · exact none

theorem leave_sent {body : Remote Data} (hb : Queries body) :
    ∃ qs, (s.leave w i a o body).sent = s.sent ++ qs ∧ ∀ q ∈ qs, q.endpoint = .query := by
  unfold leave
  simp only
  split
  · obtain ⟨qs, hqs, hq⟩ := advance_sent w i ((s.abandon a (.ok _)).removeWaiter a) hb
    exact ⟨qs, by rw [hqs, sent_removeWaiter, sent_abandon], hq⟩
  · refine ⟨[], ?_, List.forall_mem_nil _⟩
    rw [(finish_stretch _ i _).sent, sent_removeWaiter, sent_abandon, List.append_nil]

theorem runTask_sent (h : Invariant s) (i : Nat) :
    ∃ qs, (s.runTask w i).sent = s.sent ++ qs ∧
      ∀ q ∈ qs, ∃ t, s.task? i = some t ∧ MaySend t q := by
  have none : ∃ qs, s.sent = s.sent ++ qs ∧ ∀ q ∈ qs, ∃ t, s.task? i = some t ∧ MaySend t q :=
    ⟨[], (List.append_nil _).symm, List.forall_mem_nil _⟩
  unfold runTask
  cases ht : s.task? i with
  | none =>
    rw [ht] at none
    exact none
  | some t =>
    rw [ht] at none
    have key := h.toSound.key_eq_none ht
    have stands := h.call i t ht
    have call : ∀ s', t.key = Option.none →
        (∃ qs, Session.sent s' = s.sent ++ qs ∧ ∀ q ∈ qs, q.endpoint = .query) →
        ∃ qs, s'.sent = s.sent ++ qs ∧ ∀ q ∈ qs, ∃ u, some t = some u ∧ MaySend u q := by
      rintro s' hk ⟨qs, hqs, hq⟩
      exact ⟨qs, hqs, fun q hm => ⟨t, rfl, by simpa [MaySend, hk] using hq q hm⟩⟩
    unfold CallStands at stands
    cases hp : t.phase <;> simp only [Option.map_some, hp] at stands ⊢
    case fresh name table body =>
      have hk := key (by simp [hp]) (by simp [hp]) (by simp [hp])
      exact call _ hk (ensure_sent (stands hk))
    case gathering tables =>
      rw [sent_gather]
      exact none
    case leaving b o body =>
      have hk := key (by simp [hp]) (by simp [hp]) (by simp [hp])
      exact call _ hk (leave_sent (stands hk).1)
    case ready body =>
      cases hk : t.key with
      | none => exact call _ hk (advance_sent w i s (stands hk))
      | some key =>
        have work := h.attempt i t ht (by simp [hk])
        unfold AttemptStands at work
        cases hc : t.cancelling with
        | false =>
          rw [hc, hp] at work
          obtain ⟨qs, hqs, hq⟩ := advance_sent w i s work
          refine ⟨qs, hqs, fun q hm => ⟨t, rfl, ?_⟩⟩
          simpa [MaySend, hk, Task.isShareable, Task.isFinished, Task.result?, hp, hc] using hq q hm
        | true =>
          rw [hc, hp] at work
          subst work
          exact ⟨[], (finish_stretch s i (.error .cancelled)).sent, List.forall_mem_nil _⟩
    all_goals exact none

/-- What a move sends is what it adds to the requests, and only its own task sends. -/
theorem move_sent (h : Invariant s) (m : Move) :
    (s.move w m).sent = s.sent ++ (s.sends w m).map (·.2) ∧
      ∀ i q, (i, q) ∈ s.sends w m → ∃ t, s.task? i = some t ∧ MaySend t q := by
  have silent : ∀ m, s.sends w m = [] → (s.move w m).sent = s.sent →
      (s.move w m).sent = s.sent ++ (s.sends w m).map (·.2) ∧
        ∀ i q, (i, q) ∈ s.sends w m → ∃ t, s.task? i = some t ∧ MaySend t q := by
    intro m hs hsent
    simp [hs, hsent]
  cases m with
  | start c own => cases c <;> exact silent _ rfl rfl
  | cancel i =>
    refine silent _ rfl ?_
    simp only [move]
    split
    · exact sent_callOff i s
    · rfl
  | run j =>
    cases j with
    | run i =>
      have hrun : ∃ qs, (s.move w (.run (.run i))).sent = s.sent ++ qs ∧
          ∀ q ∈ qs, ∃ t, s.task? i = some t ∧ MaySend t q := by
        simp only [move]
        split
        · have hrest : Invariant { s with ready := s.ready.erase (.run i) } := h.of_eq rfl rfl rfl
          exact runTask_sent hrest i
        · exact ⟨[], (List.append_nil _).symm, List.forall_mem_nil _⟩
      obtain ⟨qs, hqs, hq⟩ := hrun
      have hsends : s.sends w (.run (.run i)) = qs.map fun q => (i, q) := by
        simp [sends, hqs]
      rw [hsends]
      refine ⟨by simp [hqs, Function.comp_def], ?_⟩
      simp only [List.mem_map, Prod.mk.injEq]
      rintro _ _ ⟨q, hm, rfl, rfl⟩
      exact hq q hm
    | settle a =>
      refine silent _ rfl ?_
      simp only [move]
      split
      · exact sent_settle a _
      · rfl
  | reply i => exact silent _ rfl (sent_deliver _ i)
  | hold e => exact silent _ rfl rfl
  | release e => exact silent _ rfl (sent_foldl sent_deliver ..)

/-- A request of a run is sent in one of its states. -/
theorem Invariant.sender (h : Invariant s) (ms : List Move) (hq : (i, q) ∈ s.sendings w ms) :
    ∃ before after t, ms = before ++ after ∧ (s.moves w before).task? i = some t ∧ MaySend t q := by
  induction ms generalizing s with
  | nil => cases hq
  | cons m ms ih =>
    obtain hm | hm := List.mem_append.mp hq
    · obtain ⟨t, ht, hsend⟩ := (move_sent h m).2 i q hm
      exact ⟨[], m :: ms, t, rfl, ht, hsend⟩
    · obtain ⟨before, after, t, rfl, ht, hsend⟩ := ih (h.move m) hm
      exact ⟨m :: before, after, t, rfl, ht, hsend⟩

-- ---------------------------------------------------------------------------
-- One attempt at a time
-- ---------------------------------------------------------------------------

theorem Sound.current_unique (h : Sound s) (hi : s.task? i = some t) (hki : t.key = some key)
    (hci : t.isCurrent) (hj : s.task? j = some u) (hkj : u.key = some key) (hcj : u.isCurrent) :
    i = j :=
  Option.some.inj ((h.current key i t hi hki hci).symm.trans (h.current key j u hj hkj hcj))

theorem Invariant.calledOff_silent (h : Invariant s) (ht : s.task? i = some t)
    (hk : t.key.isSome) (hc : t.cancelling = true) (ms : List Move) (q : Request) :
    (i, q) ∉ s.sendings w ms := by
  intro hq
  obtain ⟨before, after, u, -, hu, hsend⟩ := h.sender ms hq
  obtain ⟨u', hu', hon⟩ := h.onward (w := w) before ht
  obtain rfl := Option.some.inj (hu.symm.trans hu')
  simp [MaySend, hon.key, hk, Task.isShareable, hon.cancelling hc] at hsend

theorem Invariant.isProvisioned (h : Invariant s) (ht : s.task? i = some t)
    (hk : t.key = some (Namespace.tableKey ns name)) (hs : t.succeeded) :
    s.isProvisioned ns name := by
  have hget := h.current _ i t ht hk (by simp [Task.isCurrent, hs])
  simp [Session.isProvisioned, cached?, hget, ht, hs]

theorem Invariant.isAttempt_move (h : Invariant s) (m : Move) (ha : s.IsAttempt key a) :
    (s.move w m).IsAttempt key a := by
  obtain ⟨u, hu, hku⟩ := ha
  obtain ⟨u', hu', hadv⟩ := (move_effect (w := w) h m).old a u hu
  exact ⟨u', hu', hadv.onward.key.trans hku⟩

/-- No attempt is added for a table that has one which is of use. -/
theorem Invariant.isAttempt_of_move (h : Invariant s) (ht : s.task? i = some t)
    (hk : t.key = some key) (hc : t.isCurrent) (hj : (s.move w m).IsAttempt key j) :
    s.IsAttempt key j := by
  obtain ⟨u', hu', hku⟩ := hj
  have heff := move_effect (w := w) h m
  cases hu : s.task? j with
  | none =>
    have hfree := ((heff.new j u' hu' hu).needed key hku).2 i t ht hk
    simp [hc] at hfree
  | some u =>
    obtain ⟨u'', hu'', hadv⟩ := heff.old j u hu
    obtain rfl := Option.some.inj (hu'.symm.trans hu'')
    exact ⟨u, hu, hadv.onward.key ▸ hku⟩

theorem Invariant.isAttempt_of_moves (h : Invariant s) (ms : List Move) (ht : s.task? i = some t)
    (hk : t.key = some key) (hs : t.succeeded) (hj : (s.moves w ms).IsAttempt key j) :
    s.IsAttempt key j := by
  induction ms generalizing s t with
  | nil => exact hj
  | cons m ms ih =>
    obtain ⟨t', ht', hadv⟩ := (move_effect (w := w) h m).old i t ht
    have hon := hadv.onward
    have hmove := ih (h.move m) ht' (hon.key.trans hk) (hon.succeeded hs) hj
    exact h.isAttempt_of_move ht hk (by simp [Task.isCurrent, hs]) hmove

/-- Nothing but queries is sent any more for a table whose attempt has succeeded. -/
theorem Invariant.sender_of_succeeded (h : Invariant s) (ms : List Move) (ht : s.task? i = some t)
    (hk : t.key = some key) (hs : t.succeeded) (hq : (j, q) ∈ s.sendings w ms)
    (hquery : q.endpoint ≠ .query) : ∃ other ≠ key, (s.moves w ms).IsAttempt other j := by
  obtain ⟨before, after, u, rfl, hu, hsend⟩ := h.sender ms hq
  have h' : Invariant (s.moves w before) := h.moves before
  obtain ⟨t', ht', hon⟩ := h.onward (w := w) before ht
  cases hku : u.key with
  | none => simp [MaySend, hku, hquery] at hsend
  | some other =>
    simp only [MaySend, hku, Option.isSome_some, if_true] at hsend
    refine ⟨other, ?_, ?_⟩
    · rintro rfl
      have hij := h'.toSound.current_unique ht' (hon.key.trans hk)
        (by simp [Task.isCurrent, hon.succeeded hs]) hu hku (by simp [Task.isCurrent, hsend.1])
      subst hij
      obtain rfl := Option.some.inj (hu.symm.trans ht')
      have hopen : u.result? = none := by
        simpa [Task.isFinished] using (Bool.and_eq_true_iff.mp hsend.1).1
      have hfin := hon.succeeded hs
      unfold Task.succeeded at hfin
      unfold Task.result? at hopen
      split at hfin <;> simp_all
    · obtain ⟨u', hu', hon'⟩ := h'.onward (w := w) after hu
      rw [moves_append]
      exact ⟨u', hu', hon'.key.trans hku⟩

theorem attempts_exclusive (w : World) (ms : List Move) :
    let s := Session.empty.moves w ms
    (∀ key i j t u, s.task? i = some t → t.key = some key → t.isShareable →
      s.task? j = some u → u.key = some key → u.isShareable → i = j) ∧
    (∀ i t, s.task? i = some t → t.key.isSome → t.cancelling = true →
      ∀ later q, (i, q) ∉ s.sendings w later) ∧
    (∀ name i t, s.task? i = some t → t.key = some (Namespace.tableKey w.ns name) → t.succeeded →
      ∀ later, (s.moves w later).isProvisioned w.ns name ∧
        (∀ j, (s.moves w later).IsAttempt (Namespace.tableKey w.ns name) j →
          s.IsAttempt (Namespace.tableKey w.ns name) j) ∧
        ∀ j q, (j, q) ∈ s.sendings w later → q.endpoint ≠ .query →
          ∃ other ≠ Namespace.tableKey w.ns name, (s.moves w later).IsAttempt other j) := by
  intro s
  have h : Invariant s := Invariant.reachable w ms
  refine ⟨fun key i j t u ht hkt hst hu hku hsu => ?_, fun i t ht hk hc later q => ?_,
    fun name i t ht hk hs later => ⟨?_, fun j hj => ?_, fun j q hq hquery => ?_⟩⟩
  · exact h.toSound.current_unique ht hkt (by simp [Task.isCurrent, hst]) hu hku
      (by simp [Task.isCurrent, hsu])
  · exact h.calledOff_silent ht hk hc later q
  · obtain ⟨t', ht', hon⟩ := h.onward (w := w) later ht
    exact Invariant.isProvisioned (h.moves later) ht' (hon.key.trans hk) (hon.succeeded hs)
  · exact h.isAttempt_of_moves later ht hk hs hj
  · exact h.sender_of_succeeded later ht hk hs hq hquery

end Session

end TenantStore
