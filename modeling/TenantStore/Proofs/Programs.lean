import TenantStore.Provisioning

/-!
# What programs ask and how they end

`Program.Within asked ended` bounds a program whatever it is answered: every question it can ask
satisfies `asked`, and every result it can have satisfies `ended`. `Provisioning.attempt_ends` lists
the failures that an attempt can end in. `Provisioning.within_attempt`: it sends no query, and it
does not end as if it had been cancelled or its arguments were rejected. `first?_attempt`: it starts
with the check.
-/

namespace TenantStore

def Failure.IsMishap : Failure → Prop
  | .cancelled | .store (.validation ..) => False
  | _ => True

def Ordinary {α : Type} : Except Failure α → Prop
  | .ok _ => True
  | .error e => e.IsMishap

/-- How a request that was written can fail: on its way, by a refusal, because its response is
nested too deeply, or because the pause before the next one would be too long. -/
def Failure.InExchange : Failure → Prop
  | .store (.transport ..) | .store (.provisioning ..) => True
  | .tooManyRedirects | .undecodable | .tooNested | .tooLarge => True
  | _ => False

def Ends {α : Type} (fails : Failure → Prop) : Except Failure α → Prop
  | .ok _ => True
  | .error e => fails e

namespace Program

/-- Whatever the answers are, only such questions are asked and only such results come out. -/
def Within {Q A α : Type} (asked : Q → Prop) (ended : Except Failure α → Prop) :
    Program Q A α → Prop
  | .done r => ended r
  | .ask q next => asked q ∧ ∀ a, (next a).Within asked ended
  | .pause _ next => next.Within asked ended
  | .log _ next => next.Within asked ended

def first? {Q A α : Type} : Program Q A α → Option Q
  | .done _ => none
  | .ask q _ => some q
  | .pause _ next => next.first?
  | .log _ next => next.first?

variable {Q A α β : Type} {asked : Q → Prop} {ended : Except Failure α → Prop}

theorem within_true (p : Program Q A α) : p.Within (fun _ => True) fun _ => True := by
  induction p with
  | done r => trivial
  | ask q next ih => exact ⟨trivial, ih⟩
  | pause s next ih => exact ih
  | log l next ih => exact ih

theorem within_mono {asked' : Q → Prop} {ended' : Except Failure α → Prop} {p : Program Q A α}
    (h : p.Within asked ended) (hasked : ∀ q, asked q → asked' q)
    (hended : ∀ r, ended r → ended' r) : p.Within asked' ended' := by
  induction p with
  | done r => exact hended r h
  | ask q next ih => exact ⟨hasked q h.1, fun a => ih a (h.2 a)⟩
  | pause s next ih => exact ih h
  | log l next ih => exact ih h

theorem within_andThen {ended' : Except Failure β → Prop} {k : Except Failure α → Program Q A β}
    (p : Program Q A α) (hp : p.Within asked ended)
    (hk : ∀ r, ended r → (k r).Within asked ended') : (p.andThen k).Within asked ended' := by
  induction p with
  | done r => exact hk r hp
  | ask q next ih => exact ⟨hp.1, fun a => ih a (hp.2 a)⟩
  | pause s next ih => exact ih hp
  | log l next ih => exact ih hp

variable {fails : Failure → Prop}

theorem within_bind {f : α → Program Q A β} (p : Program Q A α) (hp : p.Within asked ended)
    (herror : ∀ e, ended (.error e) → fails e)
    (hf : ∀ a, ended (.ok a) → (f a).Within asked (Ends fails)) :
    (p >>= f).Within asked (Ends fails) := by
  refine within_andThen p hp ?_
  rintro (e | a) h
  · exact herror e h
  · exact hf a h

theorem within_attemptsFrom {spread : Nat → Binary64} {policy : RetryPolicy}
    {retryable : Failure → Bool} {label : String} {call : Program Q A α}
    (hlarge : fails .tooLarge) (hc : call.Within asked (Ends fails)) : ∀ left attempt,
      (Retry.attemptsFrom spread policy retryable label call left attempt).Within asked
        (Ends fails) := by
  intro left
  induction left with
  | zero => exact fun _ => hc
  | succ left ih =>
    intro attempt
    refine within_andThen call hc ?_
    rintro (e | a) h
    · show Within asked (Ends fails) (if Retry.isFinal retryable e then _ else _)
      split
      · exact h
      · split
        · exact hlarge
        · exact ih (attempt + 1)
    · exact h

theorem within_retry {policy : RetryPolicy} {retryable : Failure → Bool} {label : String}
    {call : Program Q A α} (hlarge : fails .tooLarge) (hc : call.Within asked (Ends fails)) :
    (call.retry policy retryable label).Within asked (Ends fails) :=
  within_attemptsFrom hlarge hc _ _

theorem within_ofTraced (t : Traced α) :
    (ofTraced t : Program Q A α).Within asked (· = t.result) := by
  obtain ⟨lines, result⟩ := t
  induction lines with
  | nil => exact rfl
  | cons l ls ih => exact ih

theorem first?_andThen {k : Except Failure α → Program Q A β} (p : Program Q A α)
    (h : p.first? = some q) : (p.andThen k).first? = some q := by
  induction p with
  | done r => cases h
  | ask q' next _ => exact h
  | pause s next ih => exact ih h
  | log l next ih => exact ih h

theorem first?_bind {f : α → Program Q A β} (p : Program Q A α) (h : p.first? = some q) :
    (p >>= f).first? = some q :=
  first?_andThen p h

theorem first?_retry {policy : RetryPolicy} {retryable : Failure → Bool} {label : String}
    {call : Program Q A α} (h : call.first? = some q) :
    (call.retry policy retryable label).first? = some q := by
  unfold retry retryWith
  cases policy.attempts - 1 with
  | zero => exact h
  | succ left => exact first?_andThen call h

end Program

-- ---------------------------------------------------------------------------
-- Calls of the control plane
-- ---------------------------------------------------------------------------

namespace ControlPlane

open Program

variable {asked : Request → Prop} {fails : Failure → Prop}

theorem within_post {s : Settings} {e : Endpoint} {body : List (String × Value)}
    (h : ∀ q : Request, q.endpoint = e → asked q) (hfails : ∀ f : Failure, f.InExchange → fails f)
    (hbody : ∀ fault, Json.write .strict (.object body) = .error fault →
      fails (.unwritten fault)) : (post s e body).Within asked (Ends fails) := by
  unfold post
  split
  · rename_i fault hfault
    exact hbody fault hfault
  · refine ⟨h _ rfl, fun reply => ?_⟩
    cases reply with
    | response status body room =>
      show Ends fails (Answer.ofBody status body room)
      cases h : Answer.ofBody status body room with
      | ok a => exact trivial
      | error f => exact hfails _ (Answer.ofBody_error h ▸ trivial)
    | timedOut | unreachable | tooManyRedirects | undecodable => exact hfails _ trivial

theorem within_requireSuccess {message ns : String} {table : Value}
    (hfails : ∀ f : Failure, f.InExchange → fails f) (a : Answer) :
    (requireSuccess message ns table a).Within asked (Ends fails) := by
  show Ends fails (if a.success then _ else _)
  split
  · exact trivial
  · exact hfails _ trivial

variable (c : ControlPlane) (ns table : String)

theorem within_checkTable (h : ∀ q : Request, q.endpoint = .checkTable → asked q)
    (hfails : ∀ f : Failure, f.InExchange → fails f) :
    (c.checkTable ns table).Within asked (Ends fails) := by
  refine within_bind _ (within_retry (hfails _ trivial) ?_) (fun _ => id) fun _ _ => trivial
  refine within_bind _ (within_post h hfails (by rintro fault ⟨⟩)) (fun _ => id) fun a _ => ?_
  show Ends fails (if 400 ≤ a.status then _ else _)
  split
  · exact hfails _ trivial
  · exact trivial

theorem within_ensureSchema (h : ∀ q : Request, q.endpoint = .ensureSchema → asked q)
    (hfails : ∀ f : Failure, f.InExchange → fails f) :
    (c.ensureSchema ns).Within asked (Ends fails) := by
  refine within_retry (hfails _ trivial) ?_
  refine within_bind _ (within_post h hfails (by rintro fault ⟨⟩)) (fun _ => id) fun a _ => ?_
  exact within_requireSuccess hfails a

def tableBody (ns table ddl : String) (descriptor : Value) : List (String × Value) :=
  [("namespace", .text ns), ("tableName", .text table), ("ddl", .text ddl),
    ("schemaDescriptor", descriptor)]

theorem within_ensureTable {ddl : String} {descriptor : Value}
    (h : ∀ q : Request, q.endpoint = .ensureTable → asked q)
    (hfails : ∀ f : Failure, f.InExchange → fails f)
    (hbody : ∀ fault, Json.write .strict (.object (tableBody ns table ddl descriptor)) =
      .error fault → fails (.unwritten fault)) :
    (c.ensureTable ns table ddl descriptor).Within asked (Ends fails) := by
  refine within_retry (hfails _ trivial) ?_
  refine within_bind _ (within_post h hfails hbody) (fun _ => id) fun a _ => ?_
  exact within_requireSuccess hfails a

/-- Two texts always have a JSON text, so the first request of a check is sent. -/
theorem first?_checkTable :
    ∃ q, (c.checkTable ns table).first? = some q ∧ q.endpoint = .checkTable := by
  have hpost : ∃ q, (post c.settings .checkTable
      [("namespace", .text ns), ("tableName", .text table)]).first? = some q ∧
        q.endpoint = .checkTable := ⟨_, rfl, rfl⟩
  obtain ⟨q, hq, he⟩ := hpost
  exact ⟨q, first?_bind _ (first?_retry (first?_bind _ hq)), he⟩

end ControlPlane

-- ---------------------------------------------------------------------------
-- Attempts
-- ---------------------------------------------------------------------------

theorem ordinary_mapM {f : α → Except Failure β} (h : ∀ a, Ordinary (f a)) :
    ∀ l : List α, Ordinary (l.mapM f)
  | [] => trivial
  | a :: l => by
    have ha := h a
    have hl := ordinary_mapM h l
    rw [List.mapM_cons]
    cases hfa : f a with
    | error e => exact (hfa ▸ ha :)
    | ok b =>
      cases hfl : l.mapM f with
      | error e =>
        rw [hfl] at hl
        exact hl
      | ok bs => exact trivial

theorem Traced.ordinary_bind {x : Traced α} {f : α → Traced β} (hx : Ordinary x.result)
    (hf : ∀ a, Ordinary (f a).result) : Ordinary (x >>= f).result := by
  show Ordinary (Traced.bind x f).result
  unfold Traced.bind
  split
  · exact hf _
  · rename_i e he
    exact (he ▸ hx :)

theorem Table.ordinary_toDescriptor (t : Table) : Ordinary t.toDescriptor := by
  refine ordinary_mapM (fun (name, d) => ?_) t.columns
  cases d <;> exact trivial

namespace Sql

theorem Column.ordinary_ofDeclaration (name : String) (d : Declaration) :
    Ordinary (ofDeclaration name d).result := by
  have h (r : Except Json.WriteFault Column) : Ordinary (orUnwritten r) := by
    cases r with
    | ok c => exact trivial
    | error fault => cases fault <;> exact trivial
  cases d with
  | field f => exact h _
  | unknown kind m => exact h _
  | foreign v => exact trivial

theorem Definition.ordinary_declaredColumns :
    ∀ columns, Ordinary (declaredColumns columns).result
  | [] => trivial
  | (name, d) :: rest => by
    unfold declaredColumns
    split
    · exact ordinary_declaredColumns rest
    · refine Traced.ordinary_bind (Column.ordinary_ofDeclaration name d) fun _ => ?_
      exact Traced.ordinary_bind (ordinary_declaredColumns rest) fun _ => trivial

theorem ordinary_ddlOf (table : String) (t : Table) :
    Ordinary (Sql.ddlOf table t).result :=
  Traced.ordinary_bind
    (Traced.ordinary_bind (Definition.ordinary_declaredColumns _) fun _ => trivial)
    fun _ => trivial

end Sql

namespace Provisioning

open Program

variable (c : ControlPlane) (ns table : String) (t : Table)

section
variable {asked : Request → Prop} {fails : Failure → Prop}
  (hfails : ∀ f : Failure, f.InExchange → fails f)
include hfails

theorem within_isThere (hcheck : ∀ q : Request, q.endpoint = .checkTable → asked q) :
    (isThere c ns table).Within asked (Ends fails) := by
  refine within_andThen _ (c.within_checkTable ns table hcheck hfails) ?_
  intro r h
  split
  · exact trivial
  · exact h

variable {t}
  (hschema : ∀ q : Request, q.endpoint = .ensureSchema → asked q)
  (hddl : ∀ f, (Sql.ddlOf table t).result = .error f → fails f)
  (hdescriptor : ∀ f, t.toDescriptor = .error f → fails f)
  (htable : ∀ ddl es, t.toDescriptor = .ok es →
    (c.ensureTable ns table ddl (.object es)).Within asked (Ends fails))
include hschema hddl hdescriptor htable

theorem within_make : (make c ns table t).Within asked (Ends fails) := by
  refine within_bind _ (c.within_ensureSchema ns hschema hfails) (fun _ => id) ?_
  intro _ _
  refine within_bind _ (within_ofTraced (Sql.ddlOf table t)) (fun f h => hddl f h.symm) ?_
  intro ddl _
  have hdone : (Program.done t.toDescriptor : Remote _).Within asked (· = t.toDescriptor) := rfl
  refine within_bind _ hdone (fun f h => hdescriptor f h.symm) ?_
  intro es hes
  exact htable ddl es hes.symm

/-- An attempt checks, makes the namespace, and asks what the last call asks. Besides the failures
of its exchanges and of that call, it fails if its table has no statements or no descriptor. -/
theorem attempt_ends (hcheck : ∀ q : Request, q.endpoint = .checkTable → asked q) :
    (attempt c ns table t).Within asked (Ends fails) := by
  refine within_bind _ (within_isThere c ns table hfails hcheck) (fun _ => id) ?_
  rintro (_ | _) _
  · have note (l : LogLine) : (Program.note l : Remote Unit).Within asked (Ends fails) := trivial
    refine within_bind _ (note _) (fun _ => id) fun _ _ => ?_
    refine within_bind _ (within_make c ns table hfails hschema hddl hdescriptor htable)
      (fun _ => id) ?_
    exact fun _ _ => trivial
  · exact trivial

end

theorem within_attempt :
    (attempt c ns table t).Within (fun q => q.endpoint ≠ .query) Ordinary := by
  have ordinary : ∀ {α : Type} {r : Except Failure α} {f}, Ordinary r → r = .error f →
      f.IsMishap := by
    rintro α r f h rfl
    exact h
  have hfails : ∀ f : Failure, f.InExchange → f.IsMishap := by
    rintro (e | _) hf
    · cases e <;> first | exact trivial | exact hf.elim
    all_goals first | exact trivial | exact hf
  refine within_mono (attempt_ends c ns table hfails (fun q h => by simp [h]) ?_ ?_ ?_
    fun q h => by simp [h]) (fun _ => id) ?_
  · exact fun f => ordinary (Sql.ordinary_ddlOf table t)
  · exact fun f => ordinary t.ordinary_toDescriptor
  · intro ddl es _
    refine c.within_ensureTable ns table (fun q h => by simp [h]) hfails ?_
    rintro (_ | _ | _ | _) - <;> exact trivial
  · rintro (f | a) h <;> exact h

theorem first?_attempt :
    ∃ q, (attempt c ns table t).first? = some q ∧ q.endpoint = .checkTable := by
  obtain ⟨q, hq, he⟩ := c.first?_checkTable ns table
  exact ⟨q, first?_bind _ (first?_andThen _ hq), he⟩

end Provisioning

end TenantStore
