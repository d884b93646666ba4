import TenantStore.Proofs.Answers
import TenantStore.Proofs.Programs

/-!
# Exchanges of programs

An exchange is a question with its answer. `Program.After` says that a program has come to a rest
of it by some exchanges, and `Program.Keeps` bounds the exchanges of a program at every point,
whatever it is answered. `Provisioning.keeps_attempt`: the exchanges of an attempt are checks, then
some for the namespace, then some for the table, and their answers decide how it ends.
-/

namespace TenantStore

namespace Program

variable {Q A α β : Type}

-- ---------------------------------------------------------------------------
-- Exchanges
-- ---------------------------------------------------------------------------

/-- By these exchanges a program comes to this rest. -/
inductive After : Program Q A α → List (Q × A) → Program Q A α → Prop
  | here : After p [] p
  | ask (h : After (next a) es rest) : After (.ask q next) ((q, a) :: es) rest
  | pause (h : After next es rest) : After (.pause seconds next) es rest
  | log (h : After next es rest) : After (.log line next) es rest

def result? : Program Q A α → Option (Except Failure α)
  | .done r => some r
  | _ => none

/-- Whatever the answers are, the exchanges and the result, once there is one, are like this. -/
def Keeps (spec : List (Q × A) → Option (Except Failure α) → Prop) : Program Q A α → Prop
  | .done r => spec [] (some r)
  | .ask q next => spec [] none ∧ ∀ a, (next a).Keeps fun es => spec ((q, a) :: es)
  | .pause _ next | .log _ next => spec [] none ∧ next.Keeps spec

variable {spec spec' : List (Q × A) → Option (Except Failure α) → Prop} {p rest : Program Q A α}

theorem After.trans (h : After p es rest) (h' : After rest es' rest') :
    After p (es ++ es') rest' := by
  induction h with
  | here => exact h'
  | ask _ ih => exact .ask (ih h')
  | pause _ ih => exact .pause (ih h')
  | log _ ih => exact .log (ih h')

theorem After.bind {f : α → Program Q A β} (h : After p es rest) :
    (p >>= f).After es (rest >>= f) := by
  induction h with
  | here => exact .here
  | ask _ ih => exact .ask ih
  | pause _ ih => exact .pause ih
  | log _ ih => exact .log ih

theorem After.within {asked : Q → Prop} {ended : Except Failure α → Prop} (h : After p es rest)
    (hp : p.Within asked ended) : (∀ e ∈ es, asked e.1) ∧ rest.Within asked ended := by
  induction h with
  | here => exact ⟨List.forall_mem_nil _, hp⟩
  | ask _ ih =>
    obtain ⟨hes, hrest⟩ := ih (hp.2 _)
    exact ⟨List.forall_mem_cons.mpr ⟨hp.1, hes⟩, hrest⟩
  | pause _ ih => exact ih hp
  | log _ ih => exact ih hp

theorem keeps_now (h : p.Keeps spec) : spec [] p.result? := by
  cases p with
  | done r => exact h
  | ask q next => exact h.1
  | pause s next => exact h.1
  | log l next => exact h.1

theorem Keeps.after (h : p.Keeps spec) (hp : p.After es rest) : spec es rest.result? := by
  induction hp generalizing spec with
  | here => exact keeps_now h
  | ask _ ih => exact ih (h.2 _)
  | pause _ ih => exact ih h.2
  | log _ ih => exact ih h.2

theorem keeps_mono (h : p.Keeps spec) (hspec : ∀ es r, spec es r → spec' es r) :
    p.Keeps spec' := by
  induction p generalizing spec spec' with
  | done r => exact hspec _ _ h
  | ask q next ih => exact ⟨hspec _ _ h.1, fun a => ih a (h.2 a) fun es => hspec _⟩
  | pause s next ih => exact ⟨hspec _ _ h.1, ih h.2 hspec⟩
  | log l next ih => exact ⟨hspec _ _ h.1, ih h.2 hspec⟩

theorem keeps_andThen {after : List (Q × A) → Option (Except Failure β) → Prop}
    {k : Except Failure α → Program Q A β} (h : p.Keeps spec)
    (hnone : ∀ es, spec es none → after es none)
    (hdone : ∀ es r, spec es (some r) → (k r).Keeps fun es' => after (es ++ es')) :
    (p.andThen k).Keeps after := by
  induction p generalizing spec after with
  | done r => exact hdone [] r h
  | ask q next ih =>
    exact ⟨hnone [] h.1, fun a => ih a (h.2 a) (fun es => hnone _) fun es => hdone _⟩
  | pause s next ih => exact ⟨hnone [] h.1, ih h.2 hnone hdone⟩
  | log l next ih => exact ⟨hnone [] h.1, ih h.2 hnone hdone⟩

theorem keeps_bind {after : List (Q × A) → Option (Except Failure β) → Prop}
    {f : α → Program Q A β} (h : p.Keeps spec) (hnone : ∀ es, spec es none → after es none)
    (herror : ∀ es e, spec es (some (.error e)) → after es (some (.error e)))
    (hok : ∀ es a, spec es (some (.ok a)) → (f a).Keeps fun es' => after (es ++ es')) :
    (p >>= f).Keeps after := by
  refine keeps_andThen h hnone ?_
  rintro es (e | a) hr
  · simpa [Keeps] using herror es e hr
  · exact hok es a hr

def Silent (r : Except Failure α) (es : List (Q × A)) (result : Option (Except Failure α)) : Prop :=
  es = [] ∧ ∀ r', result = some r' → r' = r

theorem keeps_of_within {ended : Except Failure α → Prop} (h : p.Within (fun _ => False) ended) :
    p.Keeps fun es r => es = [] ∧ ∀ r', r = some r' → ended r' := by
  induction p with
  | done r =>
    refine ⟨rfl, ?_⟩
    rintro _ ⟨⟩
    exact h
  | ask q next => exact h.1.elim
  | pause s next ih => exact ⟨⟨rfl, nofun⟩, ih h⟩
  | log l next ih => exact ⟨⟨rfl, nofun⟩, ih h⟩

theorem keeps_ofTraced (t : Traced α) : (ofTraced t : Program Q A α).Keeps (Silent t.result) :=
  keeps_of_within (within_ofTraced t)

end Program

-- ---------------------------------------------------------------------------
-- Retries
-- ---------------------------------------------------------------------------

def LastAnswer {Q A : Type} (holds : A → Prop) (es : List (Q × A)) : Prop :=
  ∃ e, es.getLast? = some e ∧ holds e.2

/-- A question is asked so many times at most, and the last answer decides. Without a verdict on an
answer there is a failure that is not the store's own, and the last answer was none to go by. -/
structure Tried {Q A α : Type} (asked : Q → Prop) (verdict : A → Except Failure α) (limit : Nat)
    (es : List (Q × A)) (result : Option (Except Failure α)) : Prop where
  few : es.length ≤ limit
  asked : ∀ e ∈ es, asked e.1
  ends : ∀ r, result = some r → LastAnswer (verdict · = r) es ∨
    ∃ f, r = .error f ∧ (∀ e, f ≠ .store e) ∧ ¬ LastAnswer (fun a => ∃ v, verdict a = .ok v) es

theorem RetryPolicy.attempts_pos (p : RetryPolicy) : 0 < p.attempts := by
  unfold attempts
  omega

section
variable {Q A α : Type} {asked : Q → Prop} {verdict : A → Except Failure α}

theorem lastAnswer_append {holds : A → Prop} {es es' : List (Q × A)} :
    LastAnswer holds (es ++ es') ↔ LastAnswer holds es' ∨ es' = [] ∧ LastAnswer holds es := by
  cases h : es'.getLast? with
  | none =>
    obtain rfl := List.getLast?_eq_none_iff.mp h
    simp [LastAnswer]
  | some e =>
    have hne : es' ≠ [] := by
      rintro rfl
      cases h
    simp [LastAnswer, List.getLast?_append, h, hne]

theorem Tried.not_ok {es : List (Q × A)} (h : Tried asked verdict n es (some (.error f))) :
    ¬ LastAnswer (fun a => ∃ v, verdict a = .ok v) es := by
  obtain ⟨e, he, hv⟩ | ⟨-, -, -, hlast⟩ := h.ends _ rfl
  · rintro ⟨e', he', v, hv'⟩
    obtain rfl := Option.some.inj (he.symm.trans he')
    exact absurd (hv.symm.trans hv') nofun
  · exact hlast

theorem Tried.map {es : List (Q × A)} {r : Option (Except Failure α)}
    (h : Tried asked verdict n es r) (g : α → β) :
    Tried asked (fun a => (verdict a).map g) n es (r.map (Except.map g)) := by
  refine ⟨h.few, h.asked, fun r' hr' => ?_⟩
  obtain ⟨r, rfl, rfl⟩ := Option.map_eq_some_iff.mp hr'
  obtain ⟨e, he, hv⟩ | ⟨f, rfl, hf, hlast⟩ := h.ends r rfl
  · exact .inl ⟨e, he, congrArg _ hv⟩
  · refine .inr ⟨f, rfl, hf, ?_⟩
    rintro ⟨e, he, v, hv⟩
    refine hlast ⟨e, he, ?_⟩
    cases hve : verdict e.2 with
    | ok v' => exact ⟨v', hve⟩
    | error f' => simp [hve, Except.map] at hv

namespace Program

variable {call : Program Q A α}

theorem keeps_attemptsFrom {spread : Nat → Binary64} {policy : RetryPolicy}
    {retryable : Failure → Bool} {label : String} (hc : call.Keeps (Tried asked verdict 1)) :
    ∀ left attempt, (Retry.attemptsFrom spread policy retryable label call left attempt).Keeps
      (Tried asked verdict (left + 1)) := by
  intro left
  -- by induction on the attempts that are left; the failures so far are no last answer to go by
  induction left with
  | zero => exact fun _ => hc
  | succ left ih =>
    intro attempt
    have more : ∀ es r, Tried asked verdict 1 es r → Tried asked verdict (left + 2) es r :=
      fun es r h => ⟨Nat.le_trans h.few (by omega), h.asked, h.ends⟩
    refine keeps_andThen hc (fun es => more es none) ?_
    rintro es (f | v) h
    · show Keeps _ (if Retry.isFinal retryable f then _ else _)
      split
      · simpa [Keeps] using more _ _ h
      · split
        · refine ⟨by simpa using (more _ _ h).few, by simpa using h.asked, ?_⟩
          rintro _ ⟨⟩
          exact .inr ⟨.tooLarge, rfl, nofun, by simpa using h.not_ok⟩
        · have pending : Tried asked verdict (left + 2) (es ++ []) none := by
            rw [List.append_nil]
            exact ⟨(more _ _ h).few, h.asked, nofun⟩
          refine ⟨pending, pending, keeps_mono (ih (attempt + 1)) fun es' r h' => ?_⟩
          refine ⟨?_, ?_, fun r hr => ?_⟩
          · have := h.few
            have := h'.few
            rw [List.length_append]
            omega
          · rintro e he
            exact (List.mem_append.mp he).elim (h.asked e) (h'.asked e)
          · obtain hlast | ⟨f', rfl, hf', hlast⟩ := h'.ends r hr
            · exact .inl (lastAnswer_append.mpr (.inl hlast))
            · refine .inr ⟨f', rfl, hf', fun hl => ?_⟩
              obtain hl | ⟨-, hl⟩ := lastAnswer_append.mp hl
              · exact hlast hl
              · exact h.not_ok hl
    · simpa [Keeps] using more _ _ h

theorem keeps_retry {policy : RetryPolicy} {retryable : Failure → Bool} {label : String}
    (hc : call.Keeps (Tried asked verdict 1)) :
    (call.retry policy retryable label).Keeps (Tried asked verdict policy.attempts) := by
  have h : (call.retry policy retryable label).Keeps
      (Tried asked verdict (policy.attempts - 1 + 1)) := keeps_attemptsFrom hc _ 1
  rwa [Nat.sub_add_cancel policy.attempts_pos] at h

end Program

end

-- ---------------------------------------------------------------------------
-- Calls of the control plane
-- ---------------------------------------------------------------------------

namespace Reply

def SaysThere : Reply → Prop
  | .response status body room => status < 400 ∧
    ∃ a, Answer.ofBody status body room = .ok a ∧ a.tableExists = true
  | _ => False

/-- A check answers that the table is not there, or fails in a way that counts as no. -/
def SaysMissing : Reply → Prop
  | .response status body room =>
    ∃ a, Answer.ofBody status body room = .ok a ∧ (400 ≤ status ∨ a.tableExists = false)
  | .timedOut | .unreachable _ => True
  | .tooManyRedirects | .undecodable => False

def Succeeds : Reply → Prop
  | .response status body room => ∃ a, Answer.ofBody status body room = .ok a ∧ a.success = true
  | _ => False

end Reply

namespace ControlPlane

open Program

variable {α : Type}

def Posts (s : Settings) (e : Endpoint) (body : List (String × Value)) (q : Request) : Prop :=
  ∃ text, Json.write .strict (.object body) = .ok text ∧ q = request s e text

def verdict (e : Endpoint) (judge : Answer → Except Failure α) : Reply → Except Failure α
  | .response status body room => Answer.ofBody status body room >>= judge
  | .timedOut => .error (transportFailure e ("Timed out calling " ++ e.name))
  | .unreachable reason =>
    .error (transportFailure e ("Could not reach control plane for " ++ e.name ++ ": " ++ reason))
  | .tooManyRedirects => .error .tooManyRedirects
  | .undecodable => .error .undecodable

theorem verdict_ok {judge : Answer → Except Failure α}
    (h : Answer.ofBody status body room = .ok a) :
    verdict e judge (.response status body room) = judge a := by
  rw [verdict, h]
  rfl

theorem verdict_error {judge : Answer → Except Failure α}
    (h : Answer.ofBody status body room = .error f) :
    verdict e judge (.response status body room) = .error f := by
  rw [verdict, h]
  rfl

theorem keeps_post {s : Settings} {e : Endpoint} {body : List (String × Value)}
    {judge : Answer → Except Failure α} : (post s e body >>= fun a => .done (judge a)).Keeps
      (Tried (Posts s e body) (verdict e judge) 1) := by
  unfold post
  split
  · rename_i fault _
    refine ⟨Nat.zero_le _, List.forall_mem_nil _, ?_⟩
    rintro _ ⟨⟩
    refine .inr ⟨_, rfl, fun e he => ?_, by simp [LastAnswer]⟩
    cases fault <;> simp [Failure.unwritten] at he
  · rename_i text htext
    have sent : ∀ reply : Reply, ∀ p ∈ [(request s e text, reply)], Posts s e body p.1 := by
      rintro reply _ hp
      obtain rfl := List.mem_singleton.mp hp
      exact ⟨text, htext, rfl⟩
    have open' (reply : Reply) : Tried (Posts s e body) (verdict e judge) 1
        [(request s e text, reply)] none := ⟨Nat.le_refl _, sent reply, nofun⟩
    have ended (reply : Reply) : Tried (Posts s e body) (verdict e judge) 1
        [(request s e text, reply)] (some (verdict e judge reply)) := by
      refine ⟨Nat.le_refl _, sent reply, ?_⟩
      rintro _ ⟨⟩
      exact .inl ⟨_, rfl, rfl⟩
    refine ⟨⟨Nat.zero_le _, List.forall_mem_nil _, nofun⟩, fun reply => ?_⟩
    cases reply with
    | response status body room =>
      show Keeps _ (andThen (.done (Answer.ofBody status body room)) _)
      have hended := ended (.response status body room)
      cases h : Answer.ofBody status body room with
      | ok a =>
        rw [verdict_ok h] at hended
        exact hended
      | error f =>
        rw [verdict_error h] at hended
        exact hended
    | timedOut => exact ⟨open' _, ended _⟩
    | unreachable reason => exact ⟨open' _, ended _⟩
    | tooManyRedirects => exact ended _
    | undecodable => exact ended _

def checkVerdict (ns table : String) (reply : Reply) : Except Failure Bool :=
  (verdict .checkTable (fun a => if 400 ≤ a.status then
    .error (failed ("Failed to check table " ++ table) ns (.text table) a) else .ok a) reply).map
      Answer.tableExists

theorem checkVerdict_there : checkVerdict ns table reply = .ok true ↔ reply.SaysThere := by
  cases reply with
  | response status body room =>
    unfold checkVerdict
    cases ha : Answer.ofBody status body room with
    | error f => simp [verdict_error ha, Except.map, Reply.SaysThere, ha]
    | ok a =>
      rw [verdict_ok ha]
      obtain rfl := Answer.status_ofBody ha
      by_cases hs : 400 ≤ a.status
      · simp [hs, Except.map, Reply.SaysThere, Nat.not_lt.mpr hs]
      · simp [hs, Except.map, Reply.SaysThere, ha, Nat.not_le.mp hs]
  | _ => simp [checkVerdict, verdict, Except.map, Reply.SaysThere]

theorem checkVerdict_missing : (checkVerdict ns table reply = .ok false ∨
    ∃ e, checkVerdict ns table reply = .error (.store e)) ↔ reply.SaysMissing := by
  cases reply with
  | response status body room =>
    unfold checkVerdict
    cases ha : Answer.ofBody status body room with
    | error f =>
      obtain rfl := Answer.ofBody_error ha
      simp [verdict_error ha, Except.map, Reply.SaysMissing, ha]
    | ok a =>
      rw [verdict_ok ha]
      obtain rfl := Answer.status_ofBody ha
      by_cases hs : 400 ≤ a.status
      · simp [hs, Except.map, Reply.SaysMissing, ha, failed]
      · simp [hs, Except.map, Reply.SaysMissing, ha]
  | _ => simp [checkVerdict, verdict, Except.map, Reply.SaysMissing, transportFailure]

def makeVerdict (e : Endpoint) (message ns : String) (table : Value) :
    Reply → Except Failure Unit :=
  verdict e fun a => if a.success then .ok () else .error (failed message ns table a)

theorem makeVerdict_ok {table : Value} :
    makeVerdict e message ns table reply = .ok () ↔ reply.Succeeds := by
  cases reply with
  | response status body room =>
    unfold makeVerdict
    cases ha : Answer.ofBody status body room with
    | error f => simp [verdict_error ha, Reply.Succeeds, ha]
    | ok a => cases hs : a.success <;> simp [verdict_ok ha, Reply.Succeeds, ha, hs]
  | _ => simp [makeVerdict, verdict, Reply.Succeeds]

variable (c : ControlPlane) (ns table : String)

theorem keeps_checkTable : (c.checkTable ns table).Keeps
    (Tried (Posts c.settings .checkTable [("namespace", .text ns), ("tableName", .text table)])
      (checkVerdict ns table) c.policy.attempts) := by
  refine keeps_bind (keeps_retry keeps_post) (fun es h => h.map _) (fun es f h => h.map _)
    fun es a h => ?_
  have hmap := h.map Answer.tableExists
  rwa [← List.append_nil es] at hmap

theorem keeps_ensureSchema : (c.ensureSchema ns).Keeps
    (Tried (Posts c.settings .ensureSchema [("namespace", .text ns),
        ("appId", .text c.settings.appId), ("companyId", .text c.settings.companyId)])
      (makeVerdict .ensureSchema ("Failed to create namespace " ++ ns) ns .null)
      c.policy.attempts) :=
  keeps_retry keeps_post

theorem keeps_ensureTable {ddl : String} {descriptor : Value} :
    (c.ensureTable ns table ddl descriptor).Keeps
      (Tried (Posts c.settings .ensureTable [("namespace", .text ns), ("tableName", .text table),
          ("ddl", .text ddl), ("schemaDescriptor", descriptor)])
        (makeVerdict .ensureTable ("Failed to create table " ++ table) ns (.text table))
        c.policy.attempts) :=
  keeps_retry keeps_post

end ControlPlane

-- ---------------------------------------------------------------------------
-- Attempts
-- ---------------------------------------------------------------------------

namespace Provisioning

open Program ControlPlane

abbrev Exchanges := List (Request × Reply)

/-- The statements and the descriptor that are sent for a table are its own. -/
def PostsTable (c : ControlPlane) (ns name : String) (t : Table) (q : Request) : Prop :=
  ∃ ddl descriptor, (Sql.ddlOf name t).result = .ok ddl ∧ t.toDescriptor = .ok descriptor ∧
    Posts c.settings .ensureTable [("namespace", .text ns), ("tableName", .text name),
      ("ddl", .text ddl), ("schemaDescriptor", .object descriptor)] q

/-- The requests that make a namespace and a table, in two blocks. -/
structure Making (c : ControlPlane) (ns name : String) (t : Table) (schemas tables : Exchanges) :
    Prop where
  fewSchemas : schemas.length ≤ c.policy.attempts
  fewTables : tables.length ≤ c.policy.attempts
  schema : ∀ e ∈ schemas, Posts c.settings .ensureSchema [("namespace", .text ns),
    ("appId", .text c.settings.appId), ("companyId", .text c.settings.companyId)] e.1
  table : ∀ e ∈ tables, PostsTable c ns name t e.1
  schemaFirst : tables ≠ [] → LastAnswer Reply.Succeeds schemas

/-- The requests of an attempt, in three blocks. -/
structure Course (c : ControlPlane) (ns name : String) (t : Table)
    (checks schemas tables : Exchanges) : Prop extends Making c ns name t schemas tables where
  fewChecks : checks.length ≤ c.policy.attempts
  check : ∀ e ∈ checks,
    Posts c.settings .checkTable [("namespace", .text ns), ("tableName", .text name)] e.1
  missing : schemas ++ tables ≠ [] → LastAnswer Reply.SaysMissing checks

def Made (schemas tables : Exchanges) : Prop :=
  LastAnswer Reply.Succeeds schemas ∧ LastAnswer Reply.Succeeds tables

theorem not_lastAnswer_nil {Q A : Type} {holds : A → Prop} :
    ¬ LastAnswer holds ([] : List (Q × A)) :=
  nofun

/-- A block of requests to make something ends well exactly if its last reply says so. -/
theorem tried_ok_iff {es : Exchanges} {table : Value}
    (h : Tried asked (makeVerdict e message ns table) n es (some r)) :
    r = .ok () ↔ LastAnswer Reply.Succeeds es := by
  obtain ⟨e, he, hv⟩ | ⟨f, rfl, -, hlast⟩ := h.ends r rfl
  · constructor
    · rintro rfl
      exact ⟨e, he, makeVerdict_ok.mp hv⟩
    · rintro ⟨e', he', hs⟩
      obtain rfl := Option.some.inj (he.symm.trans he')
      exact hv.symm.trans (makeVerdict_ok.mpr hs)
  · refine iff_of_false nofun ?_
    rintro ⟨e, he, hs⟩
    exact hlast ⟨e, he, (), makeVerdict_ok.mpr hs⟩

theorem tried_check_not_there {es : Exchanges}
    (h : Tried asked (checkVerdict ns table) n es (some r)) (hr : r ≠ .ok true) :
    ¬ LastAnswer Reply.SaysThere es := by
  rintro ⟨e', he', hs⟩
  have hv' : checkVerdict ns table e'.2 = .ok true := checkVerdict_there.mpr hs
  obtain ⟨e, he, hv⟩ | ⟨-, -, -, hlast⟩ := h.ends r rfl
  · obtain rfl := Option.some.inj (he.symm.trans he')
    exact hr (hv.symm.trans hv')
  · exact hlast ⟨e', he', true, hv'⟩

/-- How a block of checks ends: there, missing, or with a failure that ends the attempt. -/
inductive CheckEnds (es : Exchanges) : Except Failure Bool → Prop
  | there (h : LastAnswer Reply.SaysThere es) : CheckEnds es (.ok true)
  | missing (h : LastAnswer Reply.SaysMissing es) (hnot : ¬ LastAnswer Reply.SaysThere es) :
    CheckEnds es (.ok false)
  | fails (hnot : ¬ LastAnswer Reply.SaysThere es) : CheckEnds es (.error f)

theorem lastAnswer_there {es : Exchanges}
    (h : Tried asked (checkVerdict ns table) n es (some (.ok true))) :
    LastAnswer Reply.SaysThere es := by
  obtain ⟨e, he, hv⟩ | ⟨f, hf, -⟩ := h.ends _ rfl
  · exact ⟨e, he, checkVerdict_there.mp hv⟩
  · cases hf

theorem lastAnswer_missing {es : Exchanges} (h : Tried asked (checkVerdict ns table) n es (some r))
    (hr : r = .ok false ∨ ∃ e, r = .error (.store e)) : LastAnswer Reply.SaysMissing es := by
  obtain ⟨e, he, rfl⟩ | ⟨f, rfl, hf, -⟩ := h.ends r rfl
  · exact ⟨e, he, checkVerdict_missing.mp hr⟩
  · obtain hr | ⟨e, hr⟩ := hr
    · cases hr
    · exact absurd (Except.error.inj hr) (hf e)

variable (c : ControlPlane) (ns name : String) (t : Table)

theorem keeps_isThere : (isThere c ns name).Keeps fun es r => es.length ≤ c.policy.attempts ∧
    (∀ e ∈ es, Posts c.settings .checkTable [("namespace", .text ns), ("tableName", .text name)]
      e.1) ∧ ∀ r', r = some r' → CheckEnds es r' := by
  refine keeps_andThen (c.keeps_checkTable ns name) (fun es h => ⟨h.few, h.asked, nofun⟩) ?_
  intro es r h
  have sent : (es ++ []).length ≤ c.policy.attempts ∧ ∀ e ∈ es ++ [], Posts c.settings .checkTable
      [("namespace", .text ns), ("tableName", .text name)] e.1 := by
    rw [List.append_nil]
    exact ⟨h.few, h.asked⟩
  have ended : ∀ r', CheckEnds es r' →
      ∀ r'', some r' = some r'' → CheckEnds (es ++ []) r'' := by
    rintro r' hr' _ ⟨⟩
    rwa [List.append_nil]
  cases r with
  | ok there =>
    refine ⟨sent.1, sent.2, ended _ ?_⟩
    cases there with
    | true => exact .there (lastAnswer_there h)
    | false => exact .missing (lastAnswer_missing h (.inl rfl)) (tried_check_not_there h nofun)
  | error f =>
    have hnot := tried_check_not_there h nofun
    cases f with
    | store e =>
      refine ⟨⟨sent.1, sent.2, nofun⟩, sent.1, sent.2, ended _ ?_⟩
      exact .missing (lastAnswer_missing h (.inr ⟨e, rfl⟩)) hnot
    | _ => exact ⟨sent.1, sent.2, ended _ (.fails hnot)⟩

/-- The second block: the statements and the descriptor are made, and then sent. -/
theorem keeps_makeTable {f : String → Remote Unit}
    (hf : f = fun ddl => Program.done t.toDescriptor >>= fun descriptor =>
      c.ensureTable ns name ddl (.object descriptor)) :
    (ofTraced (Sql.ddlOf name t) >>= f).Keeps fun tables r =>
      tables.length ≤ c.policy.attempts ∧ (∀ e ∈ tables, PostsTable c ns name t e.1) ∧
        ∀ r', r = some r' → (r' = .ok () ↔ LastAnswer Reply.Succeeds tables) := by
  subst hf
  have failed : ∀ f : Failure, (0 ≤ c.policy.attempts ∧
      (∀ e ∈ ([] : Exchanges), PostsTable c ns name t e.1) ∧ ∀ r' : Except Failure Unit,
        some (.error f) = some r' → (r' = .ok () ↔ LastAnswer Reply.Succeeds ([] : Exchanges))) := by
    refine fun f => ⟨Nat.zero_le _, List.forall_mem_nil _, ?_⟩
    rintro _ ⟨⟩
    exact iff_of_false nofun not_lastAnswer_nil
  refine keeps_bind (keeps_ofTraced _) ?_ ?_ ?_
  · rintro _ ⟨rfl, -⟩
    exact ⟨Nat.zero_le _, List.forall_mem_nil _, nofun⟩
  · rintro _ f ⟨rfl, -⟩
    exact failed f
  · rintro _ ddl ⟨rfl, hddl⟩
    cases hdescriptor : t.toDescriptor with
    | error f => exact failed f
    | ok descriptor =>
      refine keeps_mono (c.keeps_ensureTable ns name) fun es r h => ⟨h.few, fun e he => ?_, ?_⟩
      · exact ⟨ddl, descriptor, (hddl _ rfl).symm, hdescriptor, h.asked e he⟩
      · rintro r' rfl
        exact tried_ok_iff h

theorem keeps_make : (make c ns name t).Keeps fun es r => ∃ schemas tables,
    es = schemas ++ tables ∧ Making c ns name t schemas tables ∧
      ∀ r', r = some r' → (r' = .ok () ↔ Made schemas tables) := by
  have first : ∀ {es r}, Tried (Posts c.settings .ensureSchema [("namespace", .text ns),
      ("appId", .text c.settings.appId), ("companyId", .text c.settings.companyId)])
        (makeVerdict .ensureSchema ("Failed to create namespace " ++ ns) ns .null)
        c.policy.attempts es r → Making c ns name t es [] := fun h =>
    ⟨h.few, Nat.zero_le _, h.asked, List.forall_mem_nil _, fun hne => absurd rfl hne⟩
  refine keeps_bind (c.keeps_ensureSchema ns) (fun es h => ?_) (fun es f h => ?_) fun es _ h => ?_
  · exact ⟨es, [], (List.append_nil es).symm, first h, nofun⟩
  · refine ⟨es, [], (List.append_nil es).symm, first h, ?_⟩
    rintro _ ⟨⟩
    exact iff_of_false nofun fun hmade => not_lastAnswer_nil hmade.2
  · have hs : LastAnswer Reply.Succeeds es := (tried_ok_iff h).mp rfl
    refine keeps_mono (keeps_makeTable c ns name t rfl) fun tables r ⟨hfew, hasked, hr⟩ => ?_
    refine ⟨es, tables, rfl, ⟨h.few, hfew, h.asked, hasked, fun _ => hs⟩, fun r' hr' => ?_⟩
    exact (hr r' hr').trans (and_iff_right hs).symm

theorem keeps_attempt : (attempt c ns name t).Keeps fun es r => ∃ checks schemas tables,
    es = checks ++ (schemas ++ tables) ∧ Course c ns name t checks schemas tables ∧
      ∀ r', r = some r' → (r' = .ok () ↔ LastAnswer Reply.SaysThere checks ∨ Made schemas tables) := by
  have notMade : ¬ Made [] [] := fun hmade => not_lastAnswer_nil hmade.1
  have alone : ∀ {checks}, checks.length ≤ c.policy.attempts →
      (∀ e ∈ checks, Posts c.settings .checkTable
        [("namespace", .text ns), ("tableName", .text name)] e.1) →
      Course c ns name t checks [] [] := fun hfew hasked =>
    ⟨⟨Nat.zero_le _, Nat.zero_le _, List.forall_mem_nil _, List.forall_mem_nil _,
      fun hne => absurd rfl hne⟩, hfew, hasked, fun hne => absurd rfl hne⟩
  refine keeps_bind (keeps_isThere c ns name) ?_ ?_ ?_
  · rintro es ⟨hfew, hasked, -⟩
    exact ⟨es, [], [], (List.append_nil es).symm, alone hfew hasked, nofun⟩
  · rintro es f ⟨hfew, hasked, hends⟩
    refine ⟨es, [], [], (List.append_nil es).symm, alone hfew hasked, ?_⟩
    rintro _ ⟨⟩
    cases hends _ rfl with
    | fails hnot => exact iff_of_false nofun (not_or.mpr ⟨hnot, notMade⟩)
  · rintro es there ⟨hfew, hasked, hends⟩
    have pending : ∃ checks schemas tables, es ++ [] = checks ++ (schemas ++ tables) ∧
        Course c ns name t checks schemas tables ∧ ∀ r' : Except Failure Unit, none = some r' →
          (r' = .ok () ↔ LastAnswer Reply.SaysThere checks ∨ Made schemas tables) :=
      ⟨es, [], [], rfl, alone hfew hasked, nofun⟩
    cases hends _ rfl with
    | there h =>
      refine ⟨pending, es, [], [], rfl, alone hfew hasked, ?_⟩
      rintro _ ⟨⟩
      exact iff_of_true rfl (.inl h)
    | missing h hnot =>
      have making : ∀ {schemas tables}, Making c ns name t schemas tables →
          Course c ns name t es schemas tables := fun hm => ⟨hm, hfew, hasked, fun _ => h⟩
      refine ⟨pending, keeps_bind (keeps_make c ns name t) ?_ ?_ ?_⟩
      · rintro _ ⟨schemas, tables, rfl, hm, -⟩
        exact ⟨es, schemas, tables, rfl, making hm, nofun⟩
      · rintro _ f ⟨schemas, tables, rfl, hm, hends⟩
        refine ⟨es, schemas, tables, rfl, making hm, fun r' hr' => ?_⟩
        exact (hends r' hr').trans (or_iff_right hnot).symm
      · rintro _ ⟨⟩ ⟨schemas, tables, rfl, hm, hends⟩
        have heq : es ++ ((schemas ++ tables) ++ []) = es ++ (schemas ++ tables) := by simp
        refine ⟨⟨es, schemas, tables, heq, making hm, nofun⟩, es, schemas, tables, heq, making hm,
          fun r' hr' => ?_⟩
        exact (hends r' hr').trans (or_iff_right hnot).symm

end Provisioning

end TenantStore
