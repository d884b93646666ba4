import TenantStore.TableAccess
import TenantStore.Proofs.Session.Exchanges

/-!
# Queries on a table

A method of a table either ends at once, as it does when its arguments are rejected, or makes sure
of the table, sends one query and reads the answer (`Method.sends`). `AtTable` says how a call of
this kind fares.
`queries_once`: in every run a call that is rejected sends nothing and changes nothing, and any
other sends at most one query, once its table is there.
-/

namespace TenantStore

def Program.AsksOnce {Q A α : Type} (asked : Q → Prop) (ended : Except Failure α → Prop) :
    Program Q A α → Prop
  | .done r => ended r
  | .ask q next => asked q ∧ ∀ a, (next a).Within (fun _ => False) ended
  | _ => False

/-- A result other than that arguments are rejected. -/
def Accepted (r : Except Failure Data) : Prop :=
  Ordinary r ∨ r = .error .cancelled

def IsReading {α : Type} : Except Failure α → Prop
  | .ok _ => True
  | .error (.store _) | .error .cancelled => False
  | .error _ => True

theorem IsReading.accepted {r : Except Failure Data} (h : IsReading r) : Accepted r := by
  refine .inl ?_
  cases r with
  | ok v => trivial
  | error e =>
    cases e with
    | store | cancelled => exact h.elim
    | _ => trivial

def OneQuery (body : Remote Data) : Prop :=
  body.AsksOnce (·.endpoint = .query) Accepted

theorem OneQuery.queries (h : OneQuery body) : Queries body := by
  cases body with
  | done r => trivial
  | ask q next =>
    exact ⟨h.1, fun a => Program.within_mono (h.2 a) (fun _ => False.elim) fun _ _ => trivial⟩
  | pause s next => exact h.elim
  | log l next => exact h.elim

-- ---------------------------------------------------------------------------
-- Methods
-- ---------------------------------------------------------------------------

namespace TableAccess

inductive Method
  | select (o : Given QueryOptions)
  | selectOne (o : Given QueryOptions)
  | count (cs : GivenConditions)
  | insert (supply : Supply) (payload : Value)
  | insertMany (supply : Supply) (payloads : Value)
  | update (supply : Supply) (recordId payload : Value)
  | updateWhere (supply : Supply) (cs : GivenConditions) (payload : Value)
  | delete (recordId : Value)
  | deleteWhere (cs : GivenConditions)

def Method.call [Pattern.Engine] (a : TableAccess) : Method → Call
  | .select o => a.select o
  | .selectOne o => a.selectOne o
  | .count cs => a.count cs
  | .insert supply payload => a.insert supply payload
  | .insertMany supply payloads => a.insertMany supply payloads
  | .update supply recordId payload => a.update supply recordId payload
  | .updateWhere supply cs payload => a.updateWhere supply cs payload
  | .delete recordId => a.delete recordId
  | .deleteWhere cs => a.deleteWhere cs

def Method.operation : Method → Operation
  | .select _ | .selectOne _ | .count _ => .select
  | .insert .. | .insertMany .. => .insert
  | .update .. | .updateWhere .. => .update
  | .delete _ | .deleteWhere _ => .delete

/-- Only deleting one record takes an answer that is no success for a result. -/
def Method.mayFail : Method → Bool
  | .delete _ => true
  | _ => false

def Method.Reads (m : Method) (answer : Answer) (r : Except Failure Data) : Prop :=
  IsReading r ∧ ∀ id, m = .delete id → r = .ok (.bool answer.success)

/-- A call that ends at once, or sends a method's query and reads the answer. -/
inductive Method.Sends (a : TableAccess) (m : Method) : Call → Prop
  | settled : Method.Sends a m (.settled r)
  | query {read : Answer → Remote Data}
      (h : ∀ answer, (read answer).Within (fun _ => False) (m.Reads answer)) :
    Method.Sends a m (a.call m.operation sent m.mayFail read)

/-- A call that ends at once, or sends one query at most once its table is there. -/
inductive Shape (a : TableAccess) : Call → Prop
  | settled : Shape a (.settled r)
  | onTable (h : OneQuery body) : Shape a (.onTable a.name a.table body)

variable {a : TableAccess} {m : Method} {sent : List (String × Value)}
  {read : Answer → Remote Data}

theorem query_oneQuery (h : ∀ answer, (read answer).Within (fun _ => False) Accepted) :
    OneQuery (a.query op sent allowFailure read) := by
  have judged : ∀ answer, Program.Within (fun _ => False) Accepted
      (if isFailed allowFailure answer then .done (.error (queryFailure a.name op answer))
        else read answer) := by
    intro answer
    split
    · exact .inl trivial
    · exact h answer
  show Program.AsksOnce _ _ (ControlPlane.post .. >>= _)
  unfold ControlPlane.post
  split
  · rename_i fault _
    cases fault <;> exact .inl trivial
  · refine ⟨rfl, fun reply => ?_⟩
    cases reply with
    | response status body room =>
      show Program.Within _ _ (Program.done (Answer.ofBody status body room) >>= _)
      cases h : Answer.ofBody status body room with
      | ok answer => exact judged answer
      | error f => exact Answer.ofBody_error h ▸ .inl trivial
    | timedOut | unreachable | tooManyRedirects | undecodable => exact .inl trivial

theorem isReading_ofValue (v : Data) : IsReading (Counting.ofValue v) := by
  cases v with
  | text s =>
    show IsReading (Counting.ofText s)
    unfold Counting.ofText
    simp only
    split
    · trivial
    · split <;> trivial
  | float x =>
    show IsReading (Counting.ofFloat x)
    unfold Counting.ofFloat
    split
    · trivial
    · split <;> trivial
  | _ => trivial

theorem countAt_within (key : String) (data : Data) :
    (countAt key data).Within (fun _ => False) IsReading := by
  unfold countAt
  split
  · simp only
    split
    · rename_i es _
      have hv := isReading_ofValue ((Value.field? key es).getD .null)
      show IsReading ((Counting.ofValue _).map Value.int)
      cases hc : Counting.ofValue ((Value.field? key es).getD .null) with
      | ok i => trivial
      | error e =>
        rw [hc] at hv
        cases e with
        | store | cancelled => exact hv.elim
        | _ => trivial
    · trivial
  · trivial
  · trivial

theorem sends_bind {x : Except Failure α} {f : α → Except Failure Call}
    (h : ∀ v, m.Sends a (orRejected (f v))) : m.Sends a (orRejected (x >>= f)) := by
  cases x with
  | error e => exact .settled
  | ok v => exact h v

theorem sends_value {f : Answer → Data} (hm : ∀ id, m ≠ .delete id) :
    m.Sends a (a.call m.operation sent m.mayFail fun answer => pure (f answer)) :=
  .query fun _ => ⟨trivial, fun id hid => absurd hid (hm id)⟩

theorem sends_count (hm : ∀ id, m ≠ .delete id) :
    m.Sends a (a.call m.operation sent m.mayFail fun answer => countAt key answer.data) :=
  .query fun answer => Program.within_mono (countAt_within key answer.data) (fun _ h => h)
    fun _ hr => ⟨hr, fun id hid => absurd hid (hm id)⟩

theorem Method.sends [Pattern.Engine] (a : TableAccess) (m : Method) : m.Sends a (m.call a) := by
  cases m with
  | select o | selectOne o => exact sends_bind fun o => sends_value nofun
  | count cs =>
    show Method.Sends a (.count cs) (orRejected (ite ..))
    split
    · exact sends_bind fun cs => sends_bind fun picked => sends_count nofun
    · exact sends_bind fun picked => sends_count nofun
  | insert supply payload | update supply recordId payload =>
    exact sends_bind fun row => sends_value nofun
  | insertMany supply payloads =>
    show Method.Sends a (.insertMany supply payloads) (orRejected _)
    split
    · refine sends_bind fun inserted => ?_
      split
      · exact .settled
      · exact sends_value nofun
    · exact .settled
  | updateWhere supply cs payload =>
    exact sends_bind fun row => sends_bind fun cs => sends_value nofun
  | delete recordId =>
    refine .query fun answer => ⟨trivial, ?_⟩
    rintro id ⟨⟩
    rfl
  | deleteWhere cs => exact sends_bind fun cs => sends_count nofun

theorem Method.shape [Pattern.Engine] (a : TableAccess) (m : Method) : a.Shape (m.call a) := by
  have h := m.sends a
  revert h
  generalize m.call a = c
  intro h
  cases h with
  | settled => exact .settled
  | query h =>
    refine .onTable (query_oneQuery fun answer => ?_)
    exact Program.within_mono (h answer) (fun _ h => h) fun _ hr => hr.1.accepted

theorem Method.queries [Pattern.Engine] (a : TableAccess) (m : Method) : (m.call a).Queries := by
  have h := m.shape a
  revert h
  generalize m.call a = c
  intro h
  cases h with
  | settled => trivial
  | onTable h => exact h.queries

theorem insertMany_nil [Pattern.Engine] (a : TableAccess) (supply : Supply)
    (h : payloads.members? = some []) :
    a.insertMany supply payloads = .settled (.ok (.list [])) := by
  unfold insertMany
  rw [h]
  rfl

end TableAccess

def Move.call [Pattern.Engine] (acc : TableAccess) (method : TableAccess.Method) : Move :=
  .start (method.call acc) (method.queries acc)

namespace Session

open Provisioning (Exchanges)

/-- A task in this phase asks nothing more and ends like this. -/
abbrev Closes (ended : Except Failure Data → Prop) : Phase → Prop :=
  Stops (fun _ => False) ended

structure AtMostOne (es : Exchanges) : Prop where
  few : es.length ≤ 1
  query : ∀ e ∈ es, e.1.endpoint = .query

theorem AtMostOne.none : AtMostOne [] :=
  ⟨Nat.zero_le _, List.forall_mem_nil _⟩

/-- How a call that sends one query fares, with what it has exchanged: until its table is there,
nothing. -/
inductive AtTable (w : World) (name : String) (table : Table) (s : Session) :
    Exchanges → Phase → Prop
  | begins (hb : OneQuery body) : AtTable w name table s [] (.fresh name table body)
  | waits (hb : OneQuery body) (attempt : s.IsAttempt (Namespace.tableKey w.ns name) a) :
    AtTable w name table s [] (.joined a body)
  | leaves (hb : OneQuery body) (attempt : s.IsAttempt (Namespace.tableKey w.ns name) a)
      (ho : o = .error .cancelled ∨ AttemptEnds o ∧ s.result? a = some o) :
    AtTable w name table s [] (.leaving a o body)
  | past (hes : AtMostOne es) (hp : Closes Accepted p) : AtTable w name table s es p

/-- The call's next step is past the making sure: the table is provisioned, or the attempt that the
call waited for has succeeded. -/
def HasTable (w : World) (s : Session) (i : Nat) (name : String) (table : Table) : Prop :=
  s.isProvisioned w.ns name ∧ ∃ t body, s.task? i = some t ∧
    (t.phase = .fresh name table body ∨ ∃ a v, t.phase = .leaving a (.ok v) body ∧
      s.IsAttempt (Namespace.tableKey w.ns name) a ∧ s.result? a = some (.ok v))

variable {w : World} {s : Session} {m : Move} {i a : Nat} {t t' : Task} {es es' : Exchanges}
  {p : Phase} {name : String} {table : Table} {body : Remote Data}
  {ended : Except Failure Data → Prop}

-- ---------------------------------------------------------------------------
-- Programs that ask once, or nothing more
-- ---------------------------------------------------------------------------

theorem eq_nil_of_asksNone (h : ∀ e ∈ es, False) : es = [] :=
  List.eq_nil_iff_forall_not_mem.mpr h

theorem oneQuery_after (h : OneQuery body) (hrest : body.After es rest) :
    es = [] ∧ rest = body ∨ AtMostOne es ∧ rest.Within (fun _ => False) Accepted := by
  cases hrest with
  | here => exact .inl ⟨rfl, rfl⟩
  | ask hrest =>
    obtain ⟨hes, hclosed⟩ := hrest.within (h.2 _)
    obtain rfl := eq_nil_of_asksNone hes
    exact .inr ⟨⟨Nat.le_refl _, List.forall_mem_singleton.mpr h.1⟩, hclosed⟩
  | pause => exact h.elim
  | log => exact h.elim

theorem oneQuery_reaches (h : OneQuery body) (hp : Reaches body es p) :
    AtMostOne es ∧ Closes Accepted p := by
  cases p with
  | ready rest =>
    obtain ⟨seconds, hp⟩ := hp
    obtain ⟨-, rfl⟩ | hrest := oneQuery_after h hp
    · exact h.elim
    · exact hrest
  | held rest =>
    obtain ⟨hnil, -⟩ | hrest := oneQuery_after h hp.2
    · exact absurd hnil hp.1
    · exact hrest
  | finished r =>
    obtain ⟨rfl, rfl⟩ | hrest := oneQuery_after h hp
    · exact ⟨.none, h⟩
    · exact hrest
  | _ => exact hp.elim

theorem closes_proceeds (hcancelled : ended (.error .cancelled))
    (hp : Closes ended t.phase) (h : Proceeds w s m i t es t') :
    es = [] ∧ Closes ended t'.phase := by
  cases h with
  | stays => exact ⟨rfl, hp⟩
  | calledOff =>
    obtain ⟨key, cancelling, phase⟩ := t
    cases phase with
    | ready | held => exact ⟨rfl, hcancelled⟩
    | finished r => exact ⟨rfl, hp⟩
    | _ => exact hp.elim
  | wakes hpt =>
    rw [hpt] at hp
    exact ⟨rfl, hp⟩
  | works hpt own =>
    rw [hpt] at hp
    obtain ⟨hes, hp'⟩ := stops_reaches hp own
    exact ⟨eq_nil_of_asksNone hes, hp'⟩
  | hears _ hpt | joins _ hpt | spreads _ hpt | served _ hpt | goesOn _ hpt | ends _ hpt =>
    rw [hpt] at hp
    exact hp.elim

-- ---------------------------------------------------------------------------
-- Calls that end at once
-- ---------------------------------------------------------------------------

def IsOf (i : Nat) (m : Move) : Prop :=
  m = .cancel i ∨ m = .run (.run i) ∨ m = .reply i

def SameProvisioning (s s' : Session) : Prop :=
  s'.cache = s.cache ∧ s'.waiters = s.waiters

theorem runTask_sameProvisioning (hp : ∀ t, s.task? i = some t → Closes ended t.phase) :
    SameProvisioning s (s.runTask w i) := by
  unfold runTask
  cases ht : s.task? i with
  | none => exact ⟨rfl, rfl⟩
  | some t =>
    have hp := hp t ht
    cases hpt : t.phase <;> simp only [Option.map_some, hpt]
    case ready body =>
      obtain ⟨p, qs, -, hst⟩ := advance_stretch w i body s
      exact ⟨hst.cache, hst.waiters⟩
    case fresh | gathering | leaving =>
      rw [hpt] at hp
      exact hp.elim
    all_goals exact ⟨rfl, rfl⟩

theorem move_sameProvisioning (hp : ∀ t, s.task? i = some t → Closes ended t.phase)
    (hm : IsOf i m) : SameProvisioning s (s.move w m) := by
  obtain rfl | rfl | rfl := hm
  · simp only [move]
    split
    · exact ⟨cache_callOff .., waiters_callOff ..⟩
    · exact ⟨rfl, rfl⟩
  · simp only [move]
    split
    · exact runTask_sameProvisioning (w := w) (s := { s with ready := s.ready.erase (.run i) }) hp
    · exact ⟨rfl, rfl⟩
  · simp only [move]
    unfold deliver
    split <;> exact ⟨rfl, rfl⟩

-- ---------------------------------------------------------------------------
-- Calls that make sure of their table
-- ---------------------------------------------------------------------------

theorem Invariant.isAttempt_joined (h : Invariant s) (ht : s.task? i = some t)
    (ht' : (s.move w m).task? i = some t') (hp : t.phase = .fresh name table body)
    (hp' : t'.phase = .joined a body') :
    (s.move w m).IsAttempt (Namespace.tableKey w.ns name) a := by
  obtain ⟨u, hu, hadv⟩ := (move_effect (w := w) h m).old i t ht
  obtain rfl := Option.some.inj (ht'.symm.trans hu)
  cases hadv with
  | joins _ hpt attempt =>
    rw [hp] at hpt
    obtain ⟨rfl, rfl, rfl⟩ := Phase.fresh.inj hpt
    obtain ⟨rfl, rfl⟩ := Phase.joined.inj hp'
    exact attempt
  | stays => simp [hp] at hp'
  | cancelled | abandoned => simp [Task.calledOff, hp] at hp'
  | served _ _ _ own =>
    obtain rfl := hp'
    exact (own (fun _ => True) (fun _ => True) (Program.within_true _)).1.elim
  | spreads _ hpt | works hpt | hears _ hpt | goesOn _ hpt | ends _ hpt | wakes hpt =>
    simp [hp] at hpt

theorem AtTable.atMostOne (h : AtTable w name table s es p) : AtMostOne es := by
  cases h with
  | begins | waits | leaves => exact .none
  | past hes => exact hes

theorem AtTable.accepted (h : AtTable w name table s es (.finished r)) : Accepted r := by
  cases h with
  | past _ hr => exact hr

theorem attempt?_of_closes (hp : Closes ended p) : p.attempt? = none := by
  cases p with
  | joined | leaving => exact hp.elim
  | _ => rfl

theorem AtTable.unsent (h : AtTable w name table s es p) (ha : p.attempt? = some a) : es = [] := by
  cases h with
  | begins | waits | leaves => rfl
  | past _ hp => simp [attempt?_of_closes hp] at ha

theorem AtTable.move (h : Invariant s) (m : Move) (hat : AtTable w name table s es p) :
    AtTable w name table (s.move w m) es p := by
  cases hat with
  | begins hb => exact .begins hb
  | waits hb attempt => exact .waits hb (h.isAttempt_move m attempt)
  | leaves hb attempt ho =>
    exact .leaves hb (h.isAttempt_move m attempt)
      (ho.imp_right fun ⟨hends, hr⟩ => ⟨hends, h.result?_move m hr⟩)
  | past hes hp => exact .past hes hp

theorem atTable_proceeds (h : Invariant s) (ht : s.task? i = some t) (hk : t.key = none)
    (ht' : (s.move w m).task? i = some t') (hproceeds : Proceeds w s m i t es' t')
    (hat : AtTable w name table s es t.phase) :
    AtTable w name table (s.move w m) (es ++ es') t'.phase := by
  obtain ⟨key, cancelling, phase⟩ := t
  cases hat with
  | past hes hp =>
    obtain ⟨rfl, hp'⟩ := closes_proceeds (.inr rfl) hp hproceeds
    rw [List.append_nil]
    exact .past hes hp'
  | begins hb =>
    cases hproceeds with
    | stays => exact .begins hb
    | calledOff => exact .past .none (.inr rfl)
    | joins _ hpt =>
      obtain ⟨rfl, rfl, rfl⟩ := Phase.fresh.inj hpt
      exact .waits hb (h.isAttempt_joined ht ht' rfl rfl)
    | served _ hpt there own =>
      obtain ⟨rfl, rfl, rfl⟩ := Phase.fresh.inj hpt
      obtain ⟨hes, hp⟩ := oneQuery_reaches hb own
      exact .past hes hp
    | hears _ hpt | wakes hpt | spreads _ hpt | works hpt | goesOn _ hpt | ends _ hpt => cases hpt
  | waits hb attempt =>
    have attempt' := h.isAttempt_move (w := w) m attempt
    cases hproceeds with
    | stays => exact .waits hb attempt'
    | calledOff => exact .leaves hb attempt' (.inl rfl)
    | hears _ hpt ended =>
      obtain ⟨rfl, rfl⟩ := Phase.joined.inj hpt
      exact .leaves hb attempt' (.inr ⟨h.attemptEnds ht hk rfl ended, h.result?_move m ended⟩)
    | joins _ hpt | served _ hpt | wakes hpt | spreads _ hpt | works hpt | goesOn _ hpt
    | ends _ hpt => cases hpt
  | leaves hb attempt ho =>
    have attempt' := h.isAttempt_move (w := w) m attempt
    cases hproceeds with
    | stays => exact AtTable.move h m (.leaves hb attempt ho)
    | calledOff => exact .leaves hb attempt' (.inl rfl)
    | goesOn _ hpt own =>
      obtain ⟨rfl, rfl, rfl⟩ := Phase.leaving.inj hpt
      obtain ⟨hes, hp⟩ := oneQuery_reaches hb own
      exact .past hes hp
    | ends _ hpt =>
      obtain ⟨rfl, rfl, rfl⟩ := Phase.leaving.inj hpt
      refine .past .none ?_
      obtain ho | ⟨ho | ⟨e, he, hends⟩, -⟩ := ho
      · exact .inr ho
      · cases ho
      · exact .inl (he ▸ hends)
    | joins _ hpt | served _ hpt | wakes hpt | spreads _ hpt | works hpt | hears _ hpt => cases hpt

/-- What the call sends it sends once its table is there. -/
theorem AtTable.hasTable (h : Invariant s) (ht : s.task? i = some t)
    (hproceeds : Proceeds w s m i t es' t') (hne : es' ≠ [])
    (hat : AtTable w name table s es t.phase) : HasTable w s i name table := by
  obtain ⟨key, cancelling, phase⟩ := t
  -- three steps run a program of the call's own; in the last one nothing is left to ask
  cases hproceeds with
  | served _ hpt there own =>
    cases hat with
    | begins hb =>
      obtain ⟨rfl, rfl, rfl⟩ := Phase.fresh.inj hpt
      exact ⟨there, _, _, ht, .inl rfl⟩
    | past _ hp =>
      obtain rfl := hpt
      exact hp.elim
    | waits | leaves => cases hpt
  | goesOn _ hpt own =>
    cases hat with
    | leaves hb attempt ho =>
      obtain ⟨rfl, rfl, rfl⟩ := Phase.leaving.inj hpt
      obtain ho | ⟨-, hr⟩ := ho
      · cases ho
      · obtain ⟨u, hu, hku⟩ := attempt
        have hsucc : u.succeeded := by
          simp only [result?, hu, Option.bind_some] at hr
          simp [Task.succeeded, Task.result?_eq_some.mp hr]
        exact ⟨h.isProvisioned hu hku hsucc, _, _, ht, .inr ⟨_, _, rfl, ⟨u, hu, hku⟩, hr⟩⟩
    | past _ hp =>
      obtain rfl := hpt
      exact hp.elim
    | begins | waits => cases hpt
  | works hpt own =>
    cases hat with
    | past _ hp =>
      obtain rfl := hpt
      exact absurd (eq_nil_of_asksNone (stops_reaches hp own).1) hne
    | begins | waits | leaves => cases hpt
  | stays | calledOff | hears | wakes | joins | spreads | ends => exact absurd rfl hne

/-- The call waits for the attempt, or has gone on after it, where it asked nothing unless the
attempt succeeded. -/
def Waited (a : Nat) (s : Session) (es : Exchanges) (p : Phase) : Prop :=
  p.attempt? = some a ∨
    Closes Accepted p ∧ (es = [] ∨ ∃ v, s.result? a = some (.ok v))

theorem waited_proceeds (h : Invariant s) (ht : s.task? i = some t) (hk : t.key = none)
    (ht' : (s.move w m).task? i = some t') (hproceeds : Proceeds w s m i t es' t')
    (hat : AtTable w name table s es t.phase) (hw : Waited a s es t.phase) :
    Waited a (s.move w m) (es ++ es') t'.phase := by
  have hat' := atTable_proceeds h ht hk ht' hproceeds hat
  obtain hatt | ⟨hp, hes⟩ := hw
  · cases hproceeds with
    | stays => exact .inl hatt
    | calledOff => exact .inl ((Task.attempt?_calledOff t).trans hatt)
    | hears _ hpt =>
      rw [hpt] at hatt
      exact .inl hatt
    | goesOn _ hpt own =>
      rw [hpt] at hat hatt
      obtain rfl := Option.some.inj hatt
      cases hat with
      | leaves hb _ ho =>
        obtain ho | ⟨-, hr⟩ := ho
        · cases ho
        · exact .inr ⟨(oneQuery_reaches hb own).2, .inr ⟨_, h.result?_move m hr⟩⟩
      | past _ hp => exact hp.elim
    | ends _ hpt =>
      rw [hpt] at hat
      cases hat with
      | leaves =>
        cases hat' with
        | past _ hp => exact .inr ⟨hp, .inl rfl⟩
      | past _ hp => exact hp.elim
    | joins _ hpt | served _ hpt | wakes hpt | spreads _ hpt | works hpt =>
      rw [hpt] at hatt
      cases hatt
  · obtain ⟨rfl, hp'⟩ := closes_proceeds (.inr rfl) hp hproceeds
    rw [List.append_nil]
    exact .inr ⟨hp', hes.imp_right fun ⟨v, hr⟩ => ⟨v, h.result?_move m hr⟩⟩

-- ---------------------------------------------------------------------------
-- Runs
-- ---------------------------------------------------------------------------

section
variable {before after first rest : List Move} {c : Call} {own : c.Queries}

theorem task?_before : (empty.moves w before).task? (empty.moves w before).tasks.length = none :=
  List.getElem?_eq_none_iff.mpr (Nat.le_refl _)

theorem exists_started (w : World) (before after : List Move) (c : Call) (own : c.Queries) :
    ∃ t, (empty.moves w (before ++ .start c own :: after)).task?
      (empty.moves w before).tasks.length = some t := by
  rw [moves_append, moves_cons]
  obtain ⟨t, ht, -⟩ := ((Invariant.reachable w before).move (.start c own)).onward (w := w) after
    ((task?_of_append rfl _).trans (if_pos rfl))
  exact ⟨t, ht⟩

theorem settled_started {r : Except Failure Data} {own : Call.Queries (.settled r)} :
    ((empty.moves w before).move w (.start (.settled r) own)).task?
      (empty.moves w before).tasks.length = some ⟨none, false, .ready (.done r)⟩ :=
  (task?_of_append rfl _).trans (if_pos rfl)

theorem onTable_started {own : Call.Queries (.onTable name table body)} :
    ((empty.moves w before).move w (.start (.onTable name table body) own)).task?
      (empty.moves w before).tasks.length = some ⟨none, false, .fresh name table body⟩ :=
  (task?_of_append rfl _).trans (if_pos rfl)

theorem settled_along {r : Except Failure Data} {own : Call.Queries (.settled r)}
    (hms : before ++ .start (.settled r) own :: after = first ++ rest)
    (ht : (empty.moves w first).task? (empty.moves w before).tasks.length = some t) :
    exchanges w (empty.moves w before).tasks.length first empty = [] ∧
      Closes (fun r' => r' = r ∨ r' = .error .cancelled) t.phase := by
  refine added_along (w := w) (P := fun _ es t => es = [] ∧
    Closes (fun r' => r' = r ∨ r' = .error .cancelled) t.phase) ?_ task?_before settled_started
    ⟨rfl, .inl rfl⟩ hms ht
  rintro s m t es es' t' - - - hproceeds ⟨rfl, hp⟩
  obtain ⟨rfl, hp'⟩ := closes_proceeds (.inr rfl) hp hproceeds
  exact ⟨rfl, hp'⟩

theorem onTable_along {own : Call.Queries (.onTable name table body)} (hb : OneQuery body)
    (hms : before ++ .start (.onTable name table body) own :: after = first ++ rest)
    (ht : (empty.moves w first).task? (empty.moves w before).tasks.length = some t) :
    t.key = none ∧ AtTable w name table (empty.moves w first)
      (exchanges w (empty.moves w before).tasks.length first empty) t.phase := by
  refine added_along (w := w) (P := fun s es t => t.key = none ∧ AtTable w name table s es t.phase)
    ?_ task?_before onTable_started ⟨rfl, .begins hb⟩ hms ht
  rintro s m t es es' t' h ht ht' hproceeds ⟨hk, hat⟩
  exact ⟨hproceeds.key.trans hk, atTable_proceeds h ht hk ht' hproceeds hat⟩

theorem onTable_waited {own : Call.Queries (.onTable name table body)} (hb : OneQuery body)
    (hms : before ++ .start (.onTable name table body) own :: after = first ++ rest)
    (ht : (empty.moves w first).task? (empty.moves w before).tasks.length = some t)
    (hatt : t.phase.attempt? = some a) : ∃ t' : Task,
      AtTable w name table (empty.moves w (first ++ rest))
        (exchanges w (empty.moves w before).tasks.length (first ++ rest) empty) t'.phase ∧
      Waited a (empty.moves w (first ++ rest))
        (exchanges w (empty.moves w before).tasks.length (first ++ rest) empty) t'.phase := by
  obtain ⟨hk, hat⟩ := onTable_along hb hms ht
  obtain ⟨t', ht', -, hat', hw⟩ := (Invariant.reachable w first).along (w := w)
    (P := fun s es t => t.key = none ∧ AtTable w name table s es t.phase ∧ Waited a s es t.phase)
    (fun h ht ht' hproceeds ⟨hk, hat, hw⟩ => ⟨hproceeds.key.trans hk,
      atTable_proceeds h ht hk ht' hproceeds hat, waited_proceeds h ht hk ht' hproceeds hat hw⟩)
    ht ⟨hk, hat, .inl hatt⟩ rest
  rw [← exchanges_append, ← moves_append] at hat' hw
  exact ⟨t', hat', hw⟩

variable {acc : TableAccess}

theorem rejected_silent (hshape : acc.Shape c) (hr : (empty.moves w
      (before ++ .start c own :: after)).result? (empty.moves w before).tasks.length =
        some (.error (.store (.validation violations name')))) :
    c = .settled (.error (.store (.validation violations name'))) ∧
      exchanges w (empty.moves w before).tasks.length (before ++ .start c own :: after) empty = [] ∧
      ∀ first m rest, before ++ .start c own :: after = first ++ m :: rest →
        first = before ∨ IsOf (empty.moves w before).tasks.length m →
        SameProvisioning (empty.moves w first) ((empty.moves w first).move w m) := by
  obtain ⟨t, ht⟩ := exists_started w before after c own
  have hp : t.phase = .finished (.error (.store (.validation violations name'))) := by
    simp only [result?, ht, Option.bind_some] at hr
    exact Task.result?_eq_some.mp hr
  cases hshape with
  | settled =>
    obtain ⟨hes, hcloses⟩ := settled_along (List.append_nil _).symm ht
    rw [hp] at hcloses
    obtain rfl | hcloses := hcloses
    -- the call was never more than its result, so no move of it touches a table
    · refine ⟨rfl, hes, fun first m rest hms hm => ?_⟩
      obtain rfl | hm := hm
      · obtain ⟨rfl, -⟩ := List.cons.inj (List.append_cancel_left hms)
        exact ⟨rfl, rfl⟩
      · exact move_sameProvisioning (fun t ht => (settled_along hms ht).2) hm
    · cases hcloses
  | onTable hb =>
    obtain ⟨-, hat⟩ := onTable_along hb (List.append_nil _).symm ht
    rw [hp] at hat
    obtain hr | hr := hat.accepted
    · exact hr.elim
    · cases hr

theorem atMostOne_exchanges (hshape : acc.Shape c) : AtMostOne
    (exchanges w (empty.moves w before).tasks.length (before ++ .start c own :: after) empty) := by
  obtain ⟨t, ht⟩ := exists_started w before after c own
  cases hshape with
  | settled =>
    rw [(settled_along (List.append_nil _).symm ht).1]
    exact .none
  | onTable hb =>
    exact (onTable_along hb (List.append_nil _).symm ht).2.atMostOne

theorem sentBy_hasTable (hshape : acc.Shape c)
    (hms : before ++ .start c own :: after = first ++ m :: rest)
    (hne : (empty.moves w first).sentBy w m (empty.moves w before).tasks.length ≠ []) :
    HasTable w (empty.moves w first) (empty.moves w before).tasks.length acc.name acc.table := by
  have hinv := Invariant.reachable w first
  cases ht : (empty.moves w first).task? (empty.moves w before).tasks.length with
  | none => exact absurd (sentBy_none hinv ht) hne
  | some t =>
    obtain ⟨t', -, hproceeds⟩ := move_proceeds (w := w) hinv m ht
    have hne' : w.answered (empty.moves w first).sent
        ((empty.moves w first).sentBy w m (empty.moves w before).tasks.length) ≠ [] := by
      cases hqs : (empty.moves w first).sentBy w m (empty.moves w before).tasks.length with
      | nil => exact absurd hqs hne
      | cons q qs => exact nofun
    cases hshape with
    | settled =>
      obtain ⟨-, hcloses⟩ := settled_along hms ht
      exact absurd (closes_proceeds (.inr rfl) hcloses hproceeds).1 hne'
    | onTable hb =>
      obtain ⟨-, hat⟩ := onTable_along hb hms ht
      exact hat.hasTable hinv ht hproceeds hne'

theorem exchanges_of_failed (hshape : acc.Shape c)
    (hw : WaitsFor w empty (before ++ .start c own :: after) (empty.moves w before).tasks.length a)
    (hr : (empty.moves w (before ++ .start c own :: after)).result? a = some (.error e)) :
    exchanges w (empty.moves w before).tasks.length (before ++ .start c own :: after) empty =
      [] := by
  obtain ⟨first, rest, t, hms, ht, hatt⟩ := hw
  cases hshape with
  | settled =>
    obtain ⟨-, hcloses⟩ := settled_along hms ht
    simp [attempt?_of_closes hcloses] at hatt
  | onTable hb =>
    obtain ⟨t', hat, hwaited⟩ := onTable_waited hb hms ht hatt
    rw [← hms] at hat hwaited
    obtain hatt' | ⟨-, hes | ⟨v, hok⟩⟩ := hwaited
    · exact hat.unsent hatt'
    · exact hes
    · rw [hr] at hok
      cases hok

theorem exchanges_of_settled (hc : c = .settled r) :
    exchanges w (empty.moves w before).tasks.length (before ++ .start c own :: after) empty =
      [] := by
  obtain ⟨t, ht⟩ := exists_started w before after c own
  subst hc
  exact (settled_along (List.append_nil _).symm ht).1

theorem settled_ends {r : Except Failure Data} (hc : c = .settled r)
    (hms : .cancel (empty.moves w before).tasks.length ∉ after) :
    let s := empty.moves w (before ++ .start c own :: after)
    (∀ r', s.result? (empty.moves w before).tasks.length = some r' → r' = r) ∧
      (s.Idle → ∃ r', s.result? (empty.moves w before).tasks.length = some r') := by
  subst hc
  have hb : ((empty.moves w before).move w (.start (.settled r) own)).Bound
      (empty.moves w before).tasks.length r :=
    ⟨_, settled_started, rfl, rfl, rfl⟩
  have hb' := (((Invariant.reachable w before).move _).bound_moves (w := w) hb hms).1
  rw [← moves_cons, ← moves_append] at hb'
  exact ⟨fun r' hr' => hb'.result? hr', fun hidle => hb'.ends hidle⟩

end

/-- The calls of a table's methods, among any others: one whose arguments are rejected does nothing
at all, and any other sends one query at most, when its table has been made sure of. -/
theorem queries_once [Pattern.Engine] (w : World) (acc : TableAccess) (method : TableAccess.Method)
    (before after : List Move) :
    let ms := before ++ .call acc method :: after
    let s := empty.moves w ms
    let i := (empty.moves w before).tasks.length
    (∀ violations table, s.result? i = some (.error (.store (.validation violations table))) →
      method.call acc = .settled (.error (.store (.validation violations table))) ∧
      exchanges w i ms empty = [] ∧
      ∀ first m rest, ms = first ++ m :: rest → first = before ∨ IsOf i m →
        SameProvisioning (empty.moves w first) ((empty.moves w first).move w m)) ∧
    AtMostOne (exchanges w i ms empty) ∧
    (∀ first m rest, ms = first ++ m :: rest → (empty.moves w first).sentBy w m i ≠ [] →
      HasTable w (empty.moves w first) i acc.name acc.table) ∧
    (∀ a e, WaitsFor w empty ms i a → s.result? a = some (.error e) →
      exchanges w i ms empty = []) ∧
    (∀ supply payloads, method = .insertMany supply payloads → payloads.members? = some [] →
      exchanges w i ms empty = [] ∧ (.cancel i ∉ after →
        (∀ r, s.result? i = some r → r = .ok (.list [])) ∧
        (s.Idle → ∃ r, s.result? i = some r))) := by
  have hshape := method.shape acc
  refine ⟨fun violations table hr => rejected_silent hshape hr, atMostOne_exchanges hshape,
    fun first m rest hms hne => sentBy_hasTable hshape hms hne,
    fun a e hw hr => exchanges_of_failed hshape hw hr, ?_⟩
  rintro supply payloads rfl hnone
  have hc := acc.insertMany_nil supply hnone
  exact ⟨exchanges_of_settled hc, fun hms => settled_ends hc hms⟩

section

attribute [local instance] Pattern.Engine.unlimited

def notes : TableAccess :=
  ⟨"notes", bare, obliging.plane, "tenant"⟩

/-- A number is no query options, so that nothing is sent; without options one query is sent, after
the attempt at the table. -/
theorem queries_once_select :
    exchanges obliging 0 [.call notes (.select (.raw (.int 1))), .run (.run 0)] empty = [] ∧
    let ms := .call notes (.select (.raw .null)) :: oneCall.tail
    AtMostOne (exchanges obliging 0 ms empty) ∧
      (exchanges obliging 0 ms empty).map (·.1.endpoint) = [.query] ∧
      HasTable obliging (empty.moves obliging (ms.take 4)) 0 "notes" bare := by
  obtain ⟨hrejected, -⟩ := queries_once obliging notes (.select (.raw (.int 1))) [] [.run (.run 0)]
  obtain ⟨-, hone, hthere, -⟩ := queries_once obliging notes (.select (.raw .null)) [] oneCall.tail
  have hr : ∃ violations, (empty.moves obliging
      [.call notes (.select (.raw (.int 1))), .run (.run 0)]).result? 0 =
        some (.error (.store (.validation violations (.text "notes")))) := ⟨_, by rfl⟩
  obtain ⟨violations, hr⟩ := hr
  refine ⟨(hrejected _ _ hr).2.1, hone, ?_, hthere _ (.run (.run 0)) [] ?_ fun hnil => ?_⟩
  · rfl
  · rfl
  · exact Nat.one_ne_zero (congrArg List.length hnil)

end

end Session

end TenantStore
