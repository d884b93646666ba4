import Mathlib.Order.Lattice.Nat
import TenantStore.Proofs.Answers
import TenantStore.Proofs.Exchanges
import TenantStore.Proofs.Json.Strict

/-!
# Which replies are tried again

A call to check or to make something is repeated while its reply is transient: a failed transport,
a server error or overload. What a body says plays no part in this, unless it is nested too deeply
to be read: then there is no other try, and the failure is none of the store's
(`retries_end_nested`). `retries_by_status` counts the requests of each call when the replies come
one after another, and says what the last one of them comes to.
-/

namespace TenantStore

namespace Reply

/-- No response, or one that another try may better, by its status alone. -/
def IsTransient : Reply → Prop
  | .response status .. => 500 ≤ status ∨ status = 429
  | .timedOut | .unreachable _ => True
  | .tooManyRedirects | .undecodable => False

def IsUsual : Reply → Prop
  | .response status .. => 100 ≤ status ∧ status < 600
  | .timedOut | .unreachable _ => True
  | .tooManyRedirects | .undecodable => False

def IsTooNested : Reply → Prop
  | .response _ body room => Answer.TooNested room body
  | _ => False

def IsLast (r : Reply) : Prop :=
  ¬ r.IsTransient ∨ r.IsTooNested

theorem not_isLast {r : Reply} (h : r.IsTransient) (h' : ¬ r.IsTooNested) : ¬ r.IsLast :=
  not_or.mpr ⟨not_not_intro h, h'⟩

end Reply

def RetryPolicy.Pauses (p : RetryPolicy) (attempt : Nat) : Prop :=
  ∀ n, 0 < n → n < attempt → (p.backoff? n).isSome

def RetryPolicy.PausesFor (p : RetryPolicy) (spread : Nat → Binary64) (attempt : Nat)
    (seconds : Binary64) : Prop :=
  ∃ s, p.backoff? attempt = some s ∧ seconds = s.mul (spread attempt)

namespace Program

variable {Q A α β : Type}

/-- Answers come one after another; the state is the number of the next one. -/
def inTurn (answers : Nat → A) (n : Nat) (_ : Q) : A × Nat :=
  (answers n, n + 1)

def Transcript.questions {σ : Type} (t : Transcript Q σ α) : List Q :=
  t.events.filterMap Event.question?

def Transcript.pauses {σ : Type} (t : Transcript Q σ α) : List Binary64 :=
  t.events.filterMap Event.pause?

/-- The same question was asked so many times, with these pauses, and this came out. -/
structure Transcript.Repeats (t : Transcript Q Nat α) (q : Q) (n k : Nat)
    (pauses : List Binary64) (r : Except Failure α) : Prop where
  questions : t.questions = List.replicate k q
  pauses : t.pauses = pauses
  state : t.state = n + k
  result : t.result = r

/-- The last of `k` requests decides, unless a pause before it cannot be made. -/
structure Transcript.Decides (policy : RetryPolicy) (t : Transcript Q Nat α) (q : Q) (k : Nat)
    (concludes : Except Failure α → Prop) : Prop where
  decided : policy.Pauses k → t.questions = List.replicate k q ∧ concludes t.result
  overrun : ¬ policy.Pauses k →
    ∃ n < k, t.questions = List.replicate n q ∧ t.result = .error .tooLarge

variable {answers : Nat → A} {q : Q} {n j k left : Nat} {ds ds' : List Binary64}
  {verdict : A → Except Failure α} {p call : Program Q A α} {policy : RetryPolicy}
  {retryable : Failure → Bool} {label : String}

-- ---------------------------------------------------------------------------
-- Runs
-- ---------------------------------------------------------------------------

theorem run_andThen {σ : Type} (answer : σ → Q → A × σ) (p : Program Q A α)
    (next : Except Failure α → Program Q A β) (s : σ) :
    (p.andThen next).run answer s =
      { (next (p.run answer s).result).run answer (p.run answer s).state with
        events := (p.run answer s).events ++
          ((next (p.run answer s).result).run answer (p.run answer s).state).events } := by
  induction p generalizing s with
  | done r => rfl
  | ask q next ih => simp only [andThen, run, ih, Transcript.after, List.cons_append]
  | pause d next ih => simp only [andThen, run, ih, Transcript.after, List.cons_append]
  | log l next ih => simp only [andThen, run, ih, Transcript.after, List.cons_append]

theorem repeats_andThen {next : Except Failure α → Program Q A β}
    (h : (p.run (inTurn answers) n).Repeats q n j ds r)
    (h' : ((next r).run (inTurn answers) (n + j)).Repeats q (n + j) i ds' r') (hk : k = j + i) :
    ((p.andThen next).run (inTurn answers) n).Repeats q n k (ds ++ ds') r' := by
  subst hk
  rw [run_andThen, h.result, h.state]
  refine ⟨?_, ?_, ?_, h'.result⟩
  · rw [List.replicate_add, ← h.questions, ← h'.questions]
    exact List.filterMap_append
  · rw [← h.pauses, ← h'.pauses]
    exact List.filterMap_append
  · rw [← Nat.add_assoc]
    exact h'.state

theorem repeats_done (r : Except Failure α) :
    ((.done r : Program Q A α).run (inTurn answers) n).Repeats q n 0 [] r :=
  ⟨rfl, rfl, rfl, rfl⟩

-- ---------------------------------------------------------------------------
-- Retries
-- ---------------------------------------------------------------------------

def IsFinal (retryable : Failure → Bool) : Except Failure α → Prop
  | .ok _ => True
  | .error e => Retry.isFinal retryable e = true

/-- The attempts from the `n`-th one on, `left` of which are left after it. They end with the
first one that is the last, whose result is final, or that no pause can follow. -/
theorem repeats_attemptsFrom (spread : Nat → Binary64) (label : String)
    (hc : ∀ n, (call.run (inTurn answers) n).Repeats q n 1 [] (verdict (answers n)))
    (hk : IsLeast {m | n ≤ m ∧ (m = n + left ∨ IsFinal retryable (verdict (answers m)) ∨
      policy.backoff? m = none)} k) :
    ∃ ds r, ((Retry.attemptsFrom spread policy retryable label call left n).run (inTurn answers)
        n).Repeats q n (k + 1 - n) ds r ∧
      List.Forall₂ (policy.PausesFor spread) (List.range' n (k - n)) ds ∧
      ((k = n + left ∨ IsFinal retryable (verdict (answers k))) → r = verdict (answers k)) ∧
      (¬ (k = n + left ∨ IsFinal retryable (verdict (answers k))) → r = .error .tooLarge) := by
  -- by induction on the attempts that are left, as the source of the attempts is
  induction left generalizing n with
  | zero =>
    obtain rfl : k = n := Nat.le_antisymm (hk.2 ⟨Nat.le_refl n, .inl rfl⟩) hk.1.1
    refine ⟨[], _, ?_, ?_, fun _ => rfl, fun hne => absurd (.inl rfl) hne⟩
    · rw [Nat.add_sub_cancel_left]
      exact hc k
    · rw [Nat.sub_self]
      exact .nil
  | succ left ih =>
    have first : (IsFinal retryable (verdict (answers n)) ∨ policy.backoff? n = none) → k = n :=
      fun h => Nat.le_antisymm (hk.2 ⟨Nat.le_refl n, .inr h⟩) hk.1.1
    have single : List.Forall₂ (policy.PausesFor spread) (List.range' k (k - k)) ([] ++ []) := by
      rw [Nat.sub_self]
      exact .nil
    cases hv : verdict (answers n) with
    | ok a =>
      obtain rfl := first (.inl (hv ▸ trivial))
      have hr := hc k
      rw [hv] at hr ⊢
      refine ⟨_, .ok a, repeats_andThen hr (repeats_done _) (by omega), single, fun _ => rfl,
        fun hne => ?_⟩
      exact absurd (.inr trivial) hne
    | error e =>
      have hr := hc n
      rw [hv] at hr
      by_cases he : Retry.isFinal retryable e = true
      · obtain rfl := first (.inl (hv ▸ he))
        rw [hv]
        refine ⟨_, .error e, repeats_andThen hr ?_ (by omega : k + 1 - k = 1 + 0), single,
          fun _ => rfl, fun hne => absurd (.inr he) hne⟩
        simp only [he, if_true]
        exact repeats_done _
      · have hopen : ¬ IsFinal retryable (verdict (answers n)) := by
          rw [hv]
          exact he
        cases hb : policy.backoff? n with
        | none =>
          obtain rfl := first (.inr hb)
          refine ⟨_, .error .tooLarge, repeats_andThen hr ?_ (by omega : k + 1 - k = 1 + 0), single,
            ?_, fun _ => rfl⟩
          · simp only [he, hb, if_false, Bool.false_eq_true]
            exact repeats_done _
          · rintro (hlast | hfinal)
            · omega
            · exact absurd hfinal hopen
        | some seconds =>
          -- the next attempt has the next number, so the same `k` is the least from there on
          have hlt : n + 1 ≤ k := by
            obtain ⟨hle, hlast | hfinal | hpause⟩ := hk.1
            · omega
            · refine Nat.lt_of_le_of_ne hle ?_
              rintro rfl
              exact hopen hfinal
            · refine Nat.lt_of_le_of_ne hle ?_
              rintro rfl
              rw [hb] at hpause
              cases hpause
          have hk' : IsLeast {m | n + 1 ≤ m ∧ (m = n + 1 + left ∨
              IsFinal retryable (verdict (answers m)) ∨ policy.backoff? m = none)} k := by
            have heq : n + 1 + left = n + (left + 1) := by omega
            rw [heq]
            exact ⟨⟨hlt, hk.1.2⟩, fun m hm => hk.2 ⟨Nat.le_of_succ_le hm.1, hm.2⟩⟩
          obtain ⟨ds, r, hrest, hpaced, hdecided, hoverrun⟩ := ih hk'
          rw [show n + 1 + left = n + (left + 1) by omega] at hdecided hoverrun
          refine ⟨[] ++ seconds.mul (spread n) :: ds, r,
            repeats_andThen hr ?_ (by omega : k + 1 - n = 1 + (k + 1 - (n + 1))), ?_, hdecided,
            hoverrun⟩
          · simp only [he, hb, if_false, Bool.false_eq_true]
            exact ⟨hrest.questions, congrArg _ hrest.pauses, hrest.state, hrest.result⟩
          · rw [show k - n = k - (n + 1) + 1 by omega]
            exact .cons ⟨seconds, hb, rfl⟩ hpaced

/-- A call that asks one question is repeated until its result is final, up to the number of
attempts, with a pause after each attempt but the last; or until a pause cannot be made. -/
theorem repeats_retryWith (spread : Nat → Binary64) (label : String)
    (hc : ∀ n, (call.run (inTurn answers) n).Repeats q n 1 [] (verdict (answers n)))
    (hk : IsLeast {n | 0 < n ∧ (n = policy.attempts ∨ IsFinal retryable (verdict (answers n)))}
      k) :
    ∃ m ds r, ((call.retryWith spread policy retryable label).run (inTurn answers) 1).Repeats q 1 m
        ds r ∧
      List.Forall₂ (policy.PausesFor spread) (List.range' 1 (m - 1)) ds ∧
      (policy.Pauses k → m = k ∧ r = verdict (answers k)) ∧
      (¬ policy.Pauses k → m < k ∧ IsLeast {n | 0 < n ∧ policy.backoff? n = none} m ∧
        r = .error .tooLarge) := by
  let stops : Set Nat := {m | 1 ≤ m ∧ (m = 1 + (policy.attempts - 1) ∨
    IsFinal retryable (verdict (answers m)) ∨ policy.backoff? m = none)}
  have hattempts : 1 + (policy.attempts - 1) = policy.attempts := by
    have := policy.attempts_pos
    omega
  have hmem : k ∈ stops := ⟨hk.1.1, hattempts.symm ▸ hk.1.2.imp_right .inl⟩
  obtain ⟨j, hj⟩ : ∃ j, IsLeast stops j := ⟨_, isLeast_csInf ⟨k, hmem⟩⟩
  have hle : j ≤ k := hj.2 hmem
  obtain ⟨ds, r, hr, hpaced, hdecided, hoverrun⟩ := repeats_attemptsFrom spread label hc hj
  rw [hattempts] at hdecided hoverrun
  refine ⟨j, ds, r, hr, hpaced, fun hpauses => ?_, fun hpauses => ?_⟩
  · have hlast : j = policy.attempts ∨ IsFinal retryable (verdict (answers j)) := by
      obtain hlast | hlast | hpause := hj.1.2
      · exact .inl (hlast.trans hattempts)
      · exact .inr hlast
      · obtain rfl | hlt := Nat.eq_or_lt_of_le hle
        · exact hk.1.2
        · have := hpauses j hj.1.1 hlt
          simp [hpause] at this
    obtain rfl := Nat.le_antisymm hle (hk.2 ⟨hj.1.1, hlast⟩)
    exact ⟨rfl, hdecided hlast⟩
  · simp only [RetryPolicy.Pauses, not_forall, Option.not_isSome_iff_eq_none] at hpauses
    obtain ⟨m, hpos, hmk, hm⟩ := hpauses
    have hjk : j < k := Nat.lt_of_le_of_lt (hj.2 ⟨hpos, .inr (.inr hm)⟩) hmk
    have hopen : ¬ (j = policy.attempts ∨ IsFinal retryable (verdict (answers j))) :=
      fun hlast => Nat.not_le_of_lt hjk (hk.2 ⟨hj.1.1, hlast⟩)
    refine ⟨hjk, ⟨⟨hj.1.1, ?_⟩, fun m hm => hj.2 ⟨hm.1, .inr (.inr hm.2)⟩⟩, hoverrun hopen⟩
    obtain hlast | hlast | hpause := hj.1.2
    · exact absurd (.inl (hlast.trans hattempts)) hopen
    · exact absurd (.inr hlast) hopen
    · exact hpause

/-- Where the answer says whether there is another try, the last one decides. -/
theorem decides_retry {last : A → Prop} (label : String)
    (hc : ∀ n, (call.run (inTurn answers) n).Repeats q n 1 [] (verdict (answers n)))
    (hfinal : ∀ n, IsFinal retryable (verdict (answers n)) ↔ last (answers n))
    (hk : IsLeast {n | 0 < n ∧ (n = policy.attempts ∨ last (answers n))} k) :
    ((call.retry policy retryable label).run (inTurn answers) 1).Decides policy q k
      (· = verdict (answers k)) := by
  simp only [← hfinal] at hk
  obtain ⟨m, ds, r, hr, -, hdecided, hoverrun⟩ := repeats_retryWith Retry.unspread label hc hk
  constructor
  · intro hpauses
    obtain ⟨rfl, rfl⟩ := hdecided hpauses
    exact ⟨hr.questions, hr.result⟩
  · intro hpauses
    obtain ⟨hlt, -, rfl⟩ := hoverrun hpauses
    exact ⟨m, hlt, hr.questions, hr.result⟩

theorem decides_map {next : Except Failure α → Program Q A β} {comes : Except Failure α → Prop}
    {concludes : Except Failure β → Prop} {f : Except Failure α → Except Failure β}
    (h : (p.run (inTurn answers) n).Decides policy q k comes) (hnext : ∀ r, next r = .done (f r))
    (hlarge : f (.error .tooLarge) = .error .tooLarge) (hf : ∀ r, comes r → concludes (f r)) :
    ((p.andThen next).run (inTurn answers) n).Decides policy q k concludes := by
  have hevents : ((p.andThen next).run (inTurn answers) n).events =
      (p.run (inTurn answers) n).events := by
    rw [run_andThen, hnext]
    exact List.append_nil _
  have hresult : ((p.andThen next).run (inTurn answers) n).result =
      f (p.run (inTurn answers) n).result := by
    rw [run_andThen, hnext]
    rfl
  constructor
  · intro hpauses
    obtain ⟨hq, hr⟩ := h.decided hpauses
    exact ⟨(congrArg _ hevents).trans hq, hresult ▸ hf _ hr⟩
  · intro hpauses
    obtain ⟨m, hm, hq, hr⟩ := h.overrun hpauses
    exact ⟨m, hm, (congrArg _ hevents).trans hq, by rw [hresult, hr, hlarge]⟩

end Program

-- ---------------------------------------------------------------------------
-- Calls of the control plane
-- ---------------------------------------------------------------------------

namespace ControlPlane

open Program

variable {α β : Type} {replies : Nat → Reply} {s : Settings} {e : Endpoint}
  {body : List (String × Value)} {q : Request} {n k : Nat}

/-- What a response comes to: a failure with its status if that is an error or the answer is
refused, or the value of the answer; a body that is nested too deeply fails as such. -/
def Answered (ns : String) (table : Value) (refused : Answer → Prop) (value : Answer → α)
    (status : Nat) (body : List UInt8) (room : Nat) (r : Except Failure α) : Prop :=
  Answer.TooNested room body ∧ r = .error .tooNested ∨
    ∃ a, Answer.ofBody status body room = .ok a ∧
      ((400 ≤ status ∨ refused a) ∧
          (∃ message, r = .error (.store (.provisioning message (.text ns) table (.int status)))) ∨
        ¬ (400 ≤ status ∨ refused a) ∧ r = .ok (value a))

/-- What a reply comes to; without a response it is a transport failure. -/
def Concludes (ns : String) (table : Value) (refused : Answer → Prop) (value : Answer → α) :
    Reply → Except Failure α → Prop
  | .response status body room, r => Answered ns table refused value status body room r
  | .timedOut, r | .unreachable _, r =>
    ∃ message context, r = .error (.store (.transport message .null context))
  | .tooManyRedirects, _ | .undecodable, _ => False

theorem verdict_bind (reply : Reply) (judge : Answer → Except Failure α) :
    verdict e judge reply = verdict e .ok reply >>= judge := by
  cases reply with
  | response status body room =>
    show Answer.ofBody status body room >>= judge =
      (Answer.ofBody status body room >>= .ok) >>= judge
    cases Answer.ofBody status body room <;> rfl
  | _ => rfl

theorem repeats_post (hq : Posts s e body q) (replies : Nat → Reply) (n : Nat) :
    ((post s e body).run (inTurn replies) n).Repeats q n 1 [] (verdict e .ok (replies n)) := by
  obtain ⟨text, htext, rfl⟩ := hq
  unfold post
  rw [htext]
  simp only [run, inTurn]
  cases replies n with
  | response status body room =>
    refine ⟨rfl, rfl, rfl, ?_⟩
    show Answer.ofBody status body room = Answer.ofBody status body room >>= .ok
    cases Answer.ofBody status body room <;> rfl
  | _ => exact ⟨rfl, rfl, rfl, rfl⟩

theorem repeats_judged (hq : Posts s e body q) (judge : Answer → Except Failure α)
    (replies : Nat → Reply) (n : Nat) :
    ((post s e body >>= fun a => .done (judge a)).run (inTurn replies) n).Repeats q n 1 []
      (verdict e judge (replies n)) := by
  refine repeats_andThen (repeats_post hq replies n) ?_ (Nat.add_zero 1).symm
  rw [verdict_bind (replies n) judge]
  cases verdict e .ok (replies n) <;> exact repeats_done _

def judged (refuses : Answer → Bool) (message ns : String) (table : Value) (value : Answer → α)
    (a : Answer) : Except Failure α :=
  if refuses a then .error (failed message ns table a) else .ok (value a)

/-- What is refused is an error status, and what else is said here. -/
def Refuses (refuses : Answer → Bool) (refused : Answer → Prop) : Prop :=
  ∀ status body room a, Answer.ofBody status body room = .ok a → status < 600 →
    (refuses a = true ↔ 400 ≤ status ∨ refused a)

theorem refuses_errorStatus : Refuses (fun a => decide (400 ≤ a.status)) fun _ => False := by
  intro status body room a ha _
  simp only [Answer.status_ofBody ha, decide_eq_true_iff, or_false]

theorem refuses_failure : Refuses (fun a => !a.success) fun a => a.success = false := by
  intro status body room a ha hlt
  simp only [Bool.not_eq_true']
  exact (or_iff_right_of_imp fun hs => Answer.not_success_of_errorStatus ha hs hlt).symm

section
variable {refuses : Answer → Bool} {refused : Answer → Prop} {message ns : String} {table : Value}
  {value : Answer → α} {reply : Reply}

theorem concludes_judged (hrefuses : Refuses refuses refused) (h : reply.IsUsual) :
    Concludes ns table refused value reply
      (verdict e (judged refuses message ns table value) reply) := by
  cases reply with
  | response status body room =>
    show Answered ns table refused value status body room (Answer.ofBody status body room >>= _)
    obtain ⟨hnested, ha⟩ | ⟨-, a, ha⟩ := Answer.tooNested_or_ofBody status body room
    · rw [ha]
      exact .inl ⟨hnested, rfl⟩
    · have hiff := hrefuses status body room a ha h.2
      refine .inr ⟨a, ha, ?_⟩
      rw [ha]
      show _ ∨ _ ∧ judged refuses message ns table value a = _
      by_cases hr : refuses a = true
      · refine .inl ⟨hiff.mp hr, message ++ ": " ++ a.errorText, ?_⟩
        show judged refuses message ns table value a = _
        rw [judged, if_pos hr, failed, Answer.status_ofBody ha]
      · exact .inr ⟨mt hiff.mpr hr, if_neg hr⟩
  | timedOut => exact ⟨_, _, rfl⟩
  | unreachable reason => exact ⟨_, _, rfl⟩
  | tooManyRedirects => exact h.elim
  | undecodable => exact h.elim

theorem concludes_map {f : α → β} (h : Concludes ns table refused value reply r) :
    Concludes ns table refused (f ∘ value) reply (r.map f) := by
  cases reply with
  | response status body room =>
    obtain ⟨hnested, rfl⟩ | ⟨a, ha, ⟨hr, message, rfl⟩ | ⟨hr, rfl⟩⟩ := h
    · exact .inl ⟨hnested, rfl⟩
    · exact .inr ⟨a, ha, .inl ⟨hr, message, rfl⟩⟩
    · exact .inr ⟨a, ha, .inr ⟨hr, rfl⟩⟩
  | timedOut | unreachable reason =>
    obtain ⟨message, context, rfl⟩ := h
    exact ⟨message, context, rfl⟩
  | tooManyRedirects | undecodable => exact h.elim

theorem isFinal_transportFailure (message : String) :
    ¬ IsFinal Failure.isRetryable (.error (transportFailure e message) : Except Failure α) := by
  simp [IsFinal, Retry.isFinal, transportFailure, Failure.isRetryable, StoreError.retryable]

/-- Whether there is another try depends on the reply's status, unless its body is nested too
deeply. -/
theorem isFinal_judged (hrefuses : Refuses refuses refused) (h : reply.IsUsual) :
    IsFinal Failure.isRetryable (verdict e (judged refuses message ns table value) reply) ↔
      reply.IsLast := by
  cases reply with
  | response status body room =>
    show IsFinal _ (Answer.ofBody status body room >>= _) ↔
      ¬ (500 ≤ status ∨ status = 429) ∨ Answer.TooNested room body
    obtain ⟨hnested, ha⟩ | ⟨hnested, a, ha⟩ := Answer.tooNested_or_ofBody status body room
    · rw [ha]
      exact iff_of_true rfl (.inr hnested)
    · have hiff := hrefuses status body room a ha h.2
      rw [ha, or_iff_left hnested]
      show IsFinal _ (judged refuses message ns table value a) ↔ _
      unfold judged
      split
      · simp only [IsFinal, Retry.isFinal, failed, Failure.isRetryable, StoreError.retryable,
          StoreError.status, Value.asInt?, Answer.status_ofBody ha, Bool.false_or, Bool.not_eq_true',
          Bool.or_eq_false_iff, decide_eq_false_iff_not, beq_eq_false_iff_ne]
        omega
      · rename_i hr
        -- a transient status is an error status, so the answer would be refused
        have hstatus : ¬ 400 ≤ status := fun hs => hr (hiff.mpr (.inl hs))
        refine iff_of_true trivial ?_
        omega
  | timedOut => exact iff_of_false (isFinal_transportFailure _) (Reply.not_isLast trivial id)
  | unreachable reason =>
    exact iff_of_false (isFinal_transportFailure _) (Reply.not_isLast trivial id)
  | tooManyRedirects => exact h.elim
  | undecodable => exact h.elim

theorem decides_judged {policy : RetryPolicy} (label : String) (hq : Posts s e body q)
    (hrefuses : Refuses refuses refused) (h : ∀ n, (replies n).IsUsual)
    (hk : IsLeast {n | 0 < n ∧ (n = policy.attempts ∨ (replies n).IsLast)} k) :
    (((post s e body >>= fun a => .done (judged refuses message ns table value a)).retry policy
        Failure.isRetryable label).run (inTurn replies) 1).Decides policy q k
      (Concludes ns table refused value (replies k)) := by
  have hcall := repeats_judged hq (judged refuses message ns table value) replies
  have hretry := decides_retry label hcall (fun n => isFinal_judged hrefuses (h n)) hk
  constructor
  · intro hpauses
    obtain ⟨hq, hr⟩ := hretry.decided hpauses
    exact ⟨hq, hr ▸ concludes_judged hrefuses (h k)⟩
  · exact hretry.overrun

end

section
variable (c : ControlPlane) (ns table : String)

theorem checkTable_eq : c.checkTable ns table =
    ((post c.settings .checkTable [("namespace", .text ns), ("tableName", .text table)] >>= fun a =>
      .done (judged (fun a => decide (400 ≤ a.status)) ("Failed to check table " ++ table) ns
        (.text table) id a)).retry c.policy Failure.isRetryable
          ("check-table " ++ ns ++ "." ++ table)).andThen
      fun r => .done (r.map Answer.tableExists) := by
  have hjudge (a : Answer) : judged (fun a => decide (400 ≤ a.status))
      ("Failed to check table " ++ table) ns (.text table) id a = if 400 ≤ a.status then
        .error (failed ("Failed to check table " ++ table) ns (.text table) a) else .ok a := by
    simp only [judged, decide_eq_true_iff, id]
  simp only [hjudge]
  refine congrArg (Program.andThen _) ?_
  funext r
  cases r <;> rfl

theorem requireSuccess_eq (message : String) (table : Value) (a : Answer) :
    requireSuccess message ns table a =
      .done (judged (fun a => !a.success) message ns table (fun _ => ()) a) := by
  simp only [requireSuccess, judged]
  cases a.success <;> rfl

variable (h : ∀ n, (replies n).IsUsual)
  (hk : IsLeast {n | 0 < n ∧ (n = c.policy.attempts ∨ (replies n).IsLast)} k)
include h hk

theorem checkTable_decides
    (hq : Posts c.settings .checkTable [("namespace", .text ns), ("tableName", .text table)] q) :
    ((c.checkTable ns table).run (inTurn replies) 1).Decides c.policy q k
      (Concludes ns (.text table) (fun _ => False) Answer.tableExists (replies k)) := by
  rw [checkTable_eq]
  exact decides_map (decides_judged _ hq refuses_errorStatus h hk) (fun r => rfl) rfl
    fun r hr => concludes_map hr

theorem ensureSchema_decides
    (hq : Posts c.settings .ensureSchema [("namespace", .text ns),
      ("appId", .text c.settings.appId), ("companyId", .text c.settings.companyId)] q) :
    ((c.ensureSchema ns).run (inTurn replies) 1).Decides c.policy q k
      (Concludes ns .null (fun a => a.success = false) (fun _ => ()) (replies k)) := by
  unfold ensureSchema
  simp only [requireSuccess_eq]
  exact decides_judged _ hq refuses_failure h hk

theorem ensureTable_decides {ddl : String} {descriptor : Value}
    (hq : Posts c.settings .ensureTable (tableBody ns table ddl descriptor) q) :
    ((c.ensureTable ns table ddl descriptor).run (inTurn replies) 1).Decides c.policy q k
      (Concludes ns (.text table) (fun a => a.success = false) (fun _ => ()) (replies k)) := by
  unfold ensureTable
  simp only [requireSuccess_eq]
  exact decides_judged _ hq refuses_failure h hk

end

theorem exists_posts (s : Settings) (e : Endpoint) (es : List (String × String)) :
    ∃ q, Posts s e (es.map fun e => (e.1, .text e.2)) q := by
  have hkeys : Json.TextKeys ((es.map fun e => (e.1, Value.text e.2)).map fun e =>
      (.text e.1, e.2)) := by
    rintro p hp
    obtain ⟨e, -, rfl⟩ := List.mem_map.mp hp
    exact ⟨e.1, rfl⟩
  have hwrites : Json.Writes (.object (es.map fun e => (e.1, .text e.2))) := by
    refine (Json.partwise_writes.map _ hkeys).mpr fun e he => ?_
    simp only [List.map_map, List.mem_map] at he
    obtain ⟨e, -, rfl⟩ := he
    exact Json.partwise_writes.text e.2
  obtain ⟨text, h⟩ := hwrites
  exact ⟨_, text, h, rfl⟩

/-- The calls that check and make send one request after another until a reply is the last one or
the attempts are used up, and the last reply decides; a query is sent once. -/
theorem retries_by_status (c : ControlPlane) (ns table : String) (replies : Nat → Reply)
    (h : ∀ n, (replies n).IsUsual) :
    ∃ k, IsLeast {n | 0 < n ∧ (n = c.policy.attempts ∨ (replies n).IsLast)} k ∧
      (∃ q, Posts c.settings .checkTable [("namespace", .text ns), ("tableName", .text table)] q ∧
        ((c.checkTable ns table).run (inTurn replies) 1).Decides c.policy q k
          (Concludes ns (.text table) (fun _ => False) Answer.tableExists (replies k))) ∧
      (∃ q, Posts c.settings .ensureSchema [("namespace", .text ns),
          ("appId", .text c.settings.appId), ("companyId", .text c.settings.companyId)] q ∧
        ((c.ensureSchema ns).run (inTurn replies) 1).Decides c.policy q k
          (Concludes ns .null (fun a => a.success = false) (fun _ => ()) (replies k))) ∧
      (∀ ddl descriptor q, Posts c.settings .ensureTable (tableBody ns table ddl descriptor) q →
        ((c.ensureTable ns table ddl descriptor).run (inTurn replies) 1).Decides c.policy q k
          (Concludes ns (.text table) (fun a => a.success = false) (fun _ => ()) (replies k))) ∧
      ∀ operation options q, Posts c.settings .query [("namespace", .text ns),
          ("tableName", .text table), ("operation", .text operation), ("options", options)] q →
        ((c.query ns table operation options).run (inTurn replies) 1).questions = [q] := by
  have hlast : {n | 0 < n ∧ (n = c.policy.attempts ∨ (replies n).IsLast)}.Nonempty :=
    ⟨c.policy.attempts, c.policy.attempts_pos, .inl rfl⟩
  obtain ⟨k, hk⟩ : ∃ k, IsLeast _ k := ⟨_, isLeast_csInf hlast⟩
  refine ⟨k, hk, ?check, ?schema, fun ddl descriptor q hq => ?_, fun operation options q hq => ?_⟩
  case check =>
    obtain ⟨q, hq⟩ := exists_posts c.settings .checkTable [("namespace", ns), ("tableName", table)]
    exact ⟨q, hq, checkTable_decides c ns table h hk hq⟩
  case schema =>
    obtain ⟨q, hq⟩ := exists_posts c.settings .ensureSchema [("namespace", ns),
      ("appId", c.settings.appId), ("companyId", c.settings.companyId)]
    exact ⟨q, hq, ensureSchema_decides c ns h hk hq⟩
  · exact ensureTable_decides c ns table h hk hq
  · exact (repeats_post hq replies 1).questions

def insistent : ControlPlane :=
  ⟨⟨"", "", "", "", Settings.defaultUrl, .production, Settings.defaultTimeout, 3, 0, false⟩, ⟨3, 0⟩⟩

def assent : List UInt8 :=
  "\x7b\"success\": true, \"status_code\": 200\x7d".toUTF8.toList

/-- No response, then a server error that speaks of success, then a failure of the caller's. -/
def declining : Nat → Reply
  | 1 => .timedOut
  | 2 => .response 503 assent 900
  | _ => .response 404 [] 900

/-- The body of the second reply changes nothing, and the third one decides. -/
theorem retries_by_status_declining : (∀ n, (declining n).IsUsual) ∧
    ∃ q message, ((insistent.checkTable "tenant" "notes").run (inTurn declining) 1).questions =
        List.replicate 3 q ∧
      ((insistent.checkTable "tenant" "notes").run (inTurn declining) 1).result =
        .error (.store (.provisioning message (.text "tenant") (.text "notes") (.int 404))) := by
  have husual : ∀ n, (declining n).IsUsual := by
    intro n
    unfold declining
    split <;> simp [Reply.IsUsual]
  obtain ⟨k, hk, ⟨q, -, hcheck⟩, -⟩ := retries_by_status insistent "tenant" "notes" declining husual
  have hsecond : ¬ (declining 2).IsTooNested := by
    refine Answer.not_tooNested fun t ht => ?_
    have hone : (Text.ofBytes? assent).map (fun t => Json.openings t.points) = some 1 := by
      decide +kernel
    rw [ht] at hone
    exact (Option.some.inj hone).trans_le (by decide)
  have hthree : k = 3 := by
    refine hk.unique ⟨⟨by decide, .inl rfl⟩, ?_⟩
    rintro n ⟨hpos, hn⟩
    by_contra hlt
    obtain rfl | rfl : n = 1 ∨ n = 2 := by omega
    · exact hn.elim (by decide) (Reply.not_isLast trivial id)
    · exact hn.elim (by decide) (Reply.not_isLast (.inl (by decide)) hsecond)
  subst hthree
  have hpauses : insistent.policy.Pauses 3 := by
    intro n hpos hlt
    obtain rfl | rfl : n = 1 ∨ n = 2 := by omega
    · rfl
    · rfl
  obtain ⟨hq, hr⟩ := hcheck.decided hpauses
  obtain ⟨hnested, -⟩ | ⟨a, -, ⟨-, message, hr⟩ | ⟨hr, -⟩⟩ := hr
  · cases hnested
  · exact ⟨husual, q, message, hq, hr⟩
  · simp at hr

def nested (_ : Nat) : Reply :=
  .response 503 (List.replicate 1000 0x5b) 900

/-- By their status all replies are to be tried again, but there is one request only, and its
failure is none of the store's. -/
theorem retries_end_nested : insistent.policy.attempts = 3 ∧
    (∀ n, (nested n).IsUsual ∧ (nested n).IsTransient) ∧
    ∃ q, ((insistent.checkTable "tenant" "notes").run (inTurn nested) 1).questions = [q] ∧
      ((insistent.checkTable "tenant" "notes").run (inTurn nested) 1).result =
        .error .tooNested := by
  have hnested : Answer.TooNested 900 (List.replicate 1000 0x5b) :=
    Answer.tooNested_opening (by decide)
  have husual (n : Nat) : (nested n).IsUsual := ⟨by decide, by decide⟩
  obtain ⟨q, hq⟩ := exists_posts insistent.settings .checkTable
    [("namespace", "tenant"), ("tableName", "notes")]
  have hone : IsLeast {n | 0 < n ∧ (n = insistent.policy.attempts ∨ (nested n).IsLast)} 1 :=
    ⟨⟨Nat.one_pos, .inr (.inr hnested)⟩, fun n hn => hn.1⟩
  have hpauses : insistent.policy.Pauses 1 := fun n hpos hlt =>
    absurd hpos (Nat.not_lt.mpr (Nat.le_of_lt_succ hlt))
  have hcheck := checkTable_decides insistent "tenant" "notes" husual hone hq
  obtain ⟨hquestions, hr⟩ := hcheck.decided hpauses
  refine ⟨rfl, fun n => ⟨husual n, .inl (by decide)⟩, q, hquestions, ?_⟩
  obtain ⟨-, hr⟩ | ⟨a, ha, -⟩ := hr
  · exact hr
  · exact absurd ⟨a, ha⟩ (Answer.exists_ofBody_iff.not_left.mpr hnested)

end ControlPlane

end TenantStore
