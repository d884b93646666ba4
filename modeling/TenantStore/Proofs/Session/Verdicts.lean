import TenantStore.Proofs.Answers
import TenantStore.Proofs.Session.Queries

/-!
# Verdicts on responses

A response is judged twice: its answer reports success or not, and the method whose query it answers
fails or returns. `Method.Ends` says how a method ends by its answer, and `query_keeps` that its
query ends so. A call goes through its own program or is cancelled on the way
(`onCourse_proceeds`), so that `responses_judged` holds in every run: the method fails with the
status of the response exactly if the answer is no success, where deleting one record goes by the
status alone. There is no answer, and no failed query either, where a body is nested too deeply
(`responses_judged_nested`).
-/

namespace TenantStore

def IsQueryError : Except Failure Data → Prop
  | .error (.store (.query ..)) => True
  | _ => False

theorem IsReading.not_isQueryError {r : Except Failure Data} (h : IsReading r) :
    ¬ IsQueryError r := by
  cases r with
  | ok v => exact id
  | error e =>
    cases e with
    | store e => exact h.elim
    | _ => exact id

namespace TableAccess

/-- The answers to its query with which a method fails. -/
def Method.Fails (answer : Answer) : Method → Prop
  | .delete _ => 400 ≤ answer.status
  | _ => answer.success = false

structure Method.Ends (a : TableAccess) (m : Method) (answer : Answer)
    (r : Except Failure Data) : Prop where
  raises : IsQueryError r ↔ m.Fails answer
  error : IsQueryError r → ∃ message, r =
    .error (.store (.query message (.text m.operation.name) (.text a.name) (.int answer.status)))
  flag : ∀ id, m = .delete id → ¬ m.Fails answer → r = .ok (.bool answer.success)

/-- A method ends by the answer, or with the failure that stands in its place. -/
def Method.EndsBy (a : TableAccess) (m : Method) :
    Except Failure Answer → Except Failure Data → Prop
  | .ok answer, r => m.Ends a answer r
  | .error f, r => r = .error f

variable {a : TableAccess} {m : Method} {answer : Answer} {status room : Nat} {body : List UInt8}

theorem isFailed_iff (ha : Answer.ofBody status body room = .ok answer) (h : status < 600) :
    isFailed m.mayFail answer = true ↔ m.Fails answer := by
  cases m with
  | delete id =>
    -- an error status is no success, so that the status decides
    have himp : 400 ≤ answer.status → answer.success = false := fun hs =>
      Answer.not_success_of_errorStatus ha (Answer.status_ofBody ha ▸ hs) h
    simpa [isFailed, Method.mayFail, Method.Fails] using himp
  | _ => simp [isFailed, Method.mayFail, Method.Fails]

theorem ends_failed (h : m.Fails answer) :
    m.Ends a answer (.error (queryFailure a.name m.operation answer)) :=
  ⟨iff_of_true trivial h, fun _ => ⟨_, rfl⟩, fun _ _ hok => absurd h hok⟩

theorem ends_read (h : ¬ m.Fails answer) (hr : m.Reads answer r) : m.Ends a answer r where
  raises := iff_of_false hr.1.not_isQueryError h
  error hquery := absurd hquery hr.1.not_isQueryError
  flag id hid _ := hr.2 id hid

end TableAccess

namespace ControlPlane

theorem post_keeps (s : Settings) (e : Endpoint) (sent : List (String × Value)) :
    (post s e sent).Keeps fun es r => ∀ q status body room,
      es = [(q, .response status body room)] → r = some (Answer.ofBody status body room) := by
  unfold post
  split
  · exact fun q status body room hes => absurd hes nofun
  · refine ⟨fun q status body room hes => absurd hes nofun, fun reply => ?_⟩
    cases reply with
    | response status body room =>
      rintro q' status' body' room' ⟨⟩
      rfl
    | timedOut | unreachable =>
      exact ⟨fun q status body room hes => absurd hes nofun,
        fun q status body room hes => absurd hes nofun⟩
    | tooManyRedirects | undecodable =>
      exact fun q status body room hes => absurd hes nofun

/-- Where a response cannot be read, the call fails so. -/
theorem post_after {s : Settings} {e : Endpoint} {sent : List (String × Value)} {q : Request}
    (hq : Posts s e sent q) (hread : Answer.ofBody status body room = .error f) :
    (post s e sent).After [(q, .response status body room)] (.done (.error f)) := by
  obtain ⟨text, htext, rfl⟩ := hq
  unfold post
  rw [htext]
  refine .ask ?_
  show Program.After (.done (Answer.ofBody status body room)) _ _
  rw [hread]
  exact .here

end ControlPlane

namespace TableAccess

def Decided (ends : Nat → Except Failure Answer → Except Failure Data → Prop)
    (es : List (Request × Reply)) (r : Option (Except Failure Data)) : Prop :=
  ∀ q status body room, es = [(q, .response status body room)] →
    ∀ r', r = some r' → ends status (Answer.ofBody status body room) r'

theorem query_keeps {a : TableAccess} {m : Method} {sent : List (String × Value)}
    {read : Answer → Remote Data}
    (h : ∀ answer, (read answer).Within (fun _ => False) (m.Reads answer)) :
    (a.query m.operation sent m.mayFail read).Keeps
      (Decided fun status answer r => status < 600 → m.EndsBy a answer r) := by
  refine Program.keeps_bind (ControlPlane.post_keeps ..)
    (fun es _ q status body room _ r' => nofun) (fun es f hpost => ?_) fun es answer hpost => ?_
  · rintro q status body room hes r' ⟨⟩ -
    rw [← Option.some.inj (hpost q status body room hes)]
    exact rfl
  · have hanswer : ∀ q status body room, es ++ [] = [(q, .response status body room)] →
        Answer.ofBody status body room = .ok answer := by
      intro q status body room hes
      rw [List.append_nil] at hes
      exact (Option.some.inj (hpost q status body room hes)).symm
    split
    · rename_i hfailed
      rintro q status body room hes r' ⟨⟩ hlt
      have ha := hanswer q status body room hes
      rw [ha]
      exact ends_failed ((isFailed_iff ha hlt).mp hfailed)
    · rename_i hfailed
      refine Program.keeps_mono (Program.keeps_of_within (h answer)) ?_
      rintro es' r ⟨rfl, hended⟩ q status body room hes r' hr' hlt
      have ha := hanswer q status body room hes
      rw [ha]
      exact ends_read (mt (isFailed_iff ha hlt).mpr hfailed) (hended r' hr')

end TableAccess

namespace Session

open Provisioning (Exchanges)

def Unbegun (body : Remote Data) : Phase → Prop
  | .fresh _ _ b | .joined _ b | .leaving _ _ b => b = body
  | .finished _ => True
  | _ => False

/-- How far a call on a table has come, with what it has exchanged. -/
inductive OnCourse (body : Remote Data) : Exchanges → Task → Prop
  | unbegun (hp : Unbegun body t.phase) : OnCourse body [] t
  | comes (hp : HasCome body es t.phase) : OnCourse body es t
  | stops (hc : t.cancelling = true) (hp : Closes (· = .error .cancelled) t.phase) :
    OnCourse body es t

variable {w : World} {s : Session} {m : Move} {ms : List Move} {i : Nat} {t t' : Task}
  {es es' : Exchanges} {body : Remote Data}

theorem Proceeds.cancelling (h : Proceeds w s m i t es t') (hc : t.cancelling = true) :
    t'.cancelling = true := by
  cases h with
  | calledOff =>
    unfold Task.calledOff
    split
    case h_7 | h_8 => exact hc
    all_goals rfl
  | _ => exact hc

theorem onCourse_calledOff (h : OnCourse body es t) : OnCourse body es t.calledOff := by
  obtain ⟨key, cancelling, phase⟩ := t
  cases h with
  | unbegun hp =>
    cases phase with
    | fresh => exact .stops rfl rfl
    | joined | leaving => exact .unbegun hp
    | finished => exact .unbegun trivial
    | _ => exact hp.elim
  | comes hp =>
    cases phase with
    | ready | held => exact .stops rfl rfl
    | finished => exact .comes hp
    | _ => exact hp.elim
  | stops hc hp =>
    cases phase with
    | ready | held => exact .stops rfl rfl
    | finished => exact .stops hc hp
    | _ => exact hp.elim

theorem onCourse_proceeds (hproceeds : Proceeds w s m i t es' t') (h : OnCourse body es t) :
    OnCourse body (es ++ es') t' := by
  cases h with
  | unbegun hp =>
    cases hproceeds with
    | stays => exact .unbegun hp
    | calledOff => exact onCourse_calledOff (.unbegun hp)
    | hears _ hpt | joins _ hpt =>
      rw [hpt] at hp
      exact .unbegun hp
    | ends => exact .unbegun trivial
    | served _ hpt _ own | goesOn _ hpt own =>
      -- the table is there, or the attempt that the call waited for has succeeded
      rw [hpt] at hp
      obtain rfl := hp
      exact .comes (hasCome_of_reaches .here own)
    | wakes hpt | works hpt | spreads _ hpt =>
      rw [hpt] at hp
      exact hp.elim
  | comes hp =>
    cases hproceeds with
    | stays =>
      rw [List.append_nil]
      exact .comes hp
    | calledOff =>
      rw [List.append_nil]
      exact onCourse_calledOff (.comes hp)
    | wakes hpt =>
      rw [hpt] at hp
      rw [List.append_nil]
      exact .comes hp
    | works hpt own =>
      rw [hpt] at hp
      exact .comes (hasCome_of_reaches hp own)
    | hears _ hpt | joins _ hpt | ends _ hpt | served _ hpt | goesOn _ hpt | spreads _ hpt =>
      rw [hpt] at hp
      exact hp.elim
  | stops hc hp =>
    obtain ⟨-, hp'⟩ : es' = [] ∧ Closes (· = .error .cancelled) t'.phase :=
      closes_proceeds rfl hp hproceeds
    exact .stops (hproceeds.cancelling hc) hp'

theorem OnCourse.ends (h : OnCourse body es t) (hr : t.phase = .finished r) (hne : es ≠ []) :
    r = .error .cancelled ∧ t.cancelling = true ∨ body.After es (.done r) := by
  cases h with
  | unbegun => exact absurd rfl hne
  | comes hp =>
    rw [hr] at hp
    exact .inr hp
  | stops hc hp =>
    rw [hr] at hp
    exact .inl ⟨hp, hc⟩

theorem OnCourse.not_gathered (h : OnCourse body es t) : t.phase ≠ .gathered children := by
  intro hpt
  cases h with
  | unbegun hp | comes hp | stops _ hp =>
    rw [hpt] at hp
    exact hp

/-- A call is not cancelled but by a move. -/
theorem Invariant.cancelling_moves (h : Invariant s) (ht : s.task? i = some t) (hk : t.key = none)
    (hc : t.cancelling = false) (hms : .cancel i ∉ ms) :
    ∃ t', (s.moves w ms).task? i = some t' ∧ t'.cancelling = false := by
  induction ms generalizing s t with
  | nil => exact ⟨t, ht, hc⟩
  | cons m ms ih =>
    obtain ⟨hm, hms⟩ := not_cancel_of_cons hms
    obtain ⟨u, hu, hadv⟩ := (move_effect (w := w) h m).old i t ht
    exact ih (h.move m) hu (hadv.onward.key.trans hk) (hadv.cancelling hk hc hm) hms

section
variable {before after : List Move} {name : String} {table : Table}
  {own : Call.Queries (.onTable name table body)}

theorem onTable_onCourse (ht : (empty.moves w (before ++ .start (.onTable name table body) own ::
      after)).task? (empty.moves w before).tasks.length = some t) :
    OnCourse body (exchanges w (empty.moves w before).tasks.length
      (before ++ .start (.onTable name table body) own :: after) empty) t := by
  refine added_along (w := w) (P := fun _ es t => OnCourse body es t) ?_ task?_before
    onTable_started (.unbegun rfl) (List.append_nil _).symm ht
  rintro s m t es es' t' - - - hproceeds h
  exact onCourse_proceeds hproceeds h

theorem cancel_mem (ht : (empty.moves w (before ++ .start (.onTable name table body) own ::
      after)).task? (empty.moves w before).tasks.length = some t) (hc : t.cancelling = true) :
    .cancel (empty.moves w before).tasks.length ∈ after := by
  by_contra hms
  obtain ⟨t', ht', hc'⟩ :=
    ((Invariant.reachable w before).move _).cancelling_moves (w := w) onTable_started rfl rfl hms
  rw [moves_append, moves_cons] at ht
  obtain rfl := Option.some.inj (ht.symm.trans ht')
  exact absurd (hc.symm.trans hc') nofun

theorem onTable_ends (hne : exchanges w (empty.moves w before).tasks.length
      (before ++ .start (.onTable name table body) own :: after) empty ≠ []) :
    let ms := before ++ .start (.onTable name table body) own :: after
    let i := (empty.moves w before).tasks.length
    (∀ r, (empty.moves w ms).result? i = some r → r = .error .cancelled ∧ .cancel i ∈ after ∨
        body.After (exchanges w i ms empty) (.done r)) ∧
      ((empty.moves w ms).Idle → ∃ r, (empty.moves w ms).result? i = some r) := by
  intro ms i
  obtain ⟨t, ht⟩ := exists_started w before after _ own
  have hcourse := onTable_onCourse ht
  refine ⟨fun r hr => ?_, fun hidle => ends_of_idle hidle ht fun _ => hcourse.not_gathered⟩
  obtain ⟨t', ht', hr⟩ := Option.bind_eq_some_iff.mp hr
  obtain rfl := Option.some.inj (ht.symm.trans ht')
  exact (hcourse.ends (Task.result?_eq_some.mp hr) hne).imp_left fun ⟨hr, hc⟩ =>
    ⟨hr, cancel_mem ht hc⟩

end

theorem sends_ends {acc : TableAccess} {method : TableAccess.Method} {before after : List Move}
    {c : Call} {own : c.Queries} {payload : List UInt8} (hsends : method.Sends acc c)
    (h : status < 600)
    (hes : exchanges w (empty.moves w before).tasks.length (before ++ .start c own :: after) empty =
      [(q, .response status payload room)]) :
    let s := empty.moves w (before ++ .start c own :: after)
    let i := (empty.moves w before).tasks.length
    (∀ r, s.result? i = some r → r = .error .cancelled ∧ .cancel i ∈ after ∨
      method.EndsBy acc (Answer.ofBody status payload room) r) ∧
      (s.Idle → ∃ r, s.result? i = some r) := by
  cases hsends with
  | settled => exact absurd ((exchanges_of_settled rfl).symm.trans hes) nofun
  | query hread =>
    obtain ⟨hends, hidle⟩ := onTable_ends (hes ▸ List.cons_ne_nil _ _)
    refine ⟨fun r hr => (hends r hr).imp_right fun hafter => ?_, hidle⟩
    exact (TableAccess.query_keeps hread).after hafter q status payload room hes r rfl h

/-- Whatever the body of a response is, there is an answer, unless the body is nested too deeply:
the answer has the status of the response, it is a success exactly if the status is no error and the
body grants it, and an error status leaves some error text. The method whose query is answered so
fails with the status exactly if the answer is no success to it, and has no other failure than that
of the reading where there is no answer. -/
theorem responses_judged [Pattern.Engine] (w : World) (acc : TableAccess)
    (method : TableAccess.Method) (before after : List Move) (status : Nat) (body : List UInt8)
    (room : Nat) (h : status < 600) :
    let read := Answer.ofBody status body room
    let ms := before ++ .call acc method :: after
    let s := empty.moves w ms
    let i := (empty.moves w before).tasks.length
    (∀ settings e sent, (ControlPlane.post settings e sent).Keeps fun es r =>
      ∀ q, es = [(q, .response status body room)] → r = some read) ∧
    (Answer.TooNested room body ∧ read = .error .tooNested ∨
      ¬ Answer.TooNested room body ∧ ∃ answer, read = .ok answer ∧ answer.status = status ∧
        (answer.success = true ↔ status < 400 ∧ Answer.Grants status body room) ∧
        (400 ≤ status → ∃ text, answer.error = some text ∧ text ≠ "")) ∧
    ∀ q, exchanges w i ms empty = [(q, .response status body room)] →
      (∀ r, s.result? i = some r →
        r = .error .cancelled ∧ .cancel i ∈ after ∨ method.EndsBy acc read r) ∧
      (s.Idle → ∃ r, s.result? i = some r) := by
  refine ⟨fun settings e sent => ?_, ?_, fun q => sends_ends (method.sends acc) h⟩
  · exact Program.keeps_mono (ControlPlane.post_keeps settings e sent) fun es r hr q hes =>
      hr q status body room hes
  · refine (Answer.tooNested_or_ofBody status body room).imp_right fun ⟨hroom, answer, ha⟩ => ?_
    exact ⟨hroom, answer, ha, Answer.status_ofBody ha, Answer.success_ofBody_iff ha h,
      Answer.error_ofBody ha h⟩

section

attribute [local instance] Pattern.Engine.unlimited

/-- A control plane that makes every table and answers no query. -/
def overloaded : World :=
  { obliging with reply := fun sent q =>
      if q.endpoint = .query then .response 503 [0x31] 900 else obliging.reply sent q }

theorem responses_judged_overloaded :
    let s := empty.moves overloaded (.call notes (.select (.raw .null)) :: oneCall.tail)
    ∃ message, s.result? 0 =
      some (.error (.store (.query message (.text "select") (.text "notes") (.int 503)))) := by
  obtain ⟨-, hread, hcall⟩ := responses_judged overloaded notes (.select (.raw .null)) []
    oneCall.tail 503 [0x31] 900 (by decide)
  obtain ⟨q, hq⟩ : ∃ q, exchanges overloaded 0 (.call notes (.select (.raw .null)) :: oneCall.tail)
      empty = [(q, .response 503 [0x31] 900)] := ⟨_, by rfl⟩
  obtain ⟨r, hr⟩ : ∃ r, (empty.moves overloaded
      (.call notes (.select (.raw .null)) :: oneCall.tail)).result? 0 = some r := ⟨_, by rfl⟩
  obtain ⟨-, hcancel⟩ | hends := (hcall q hq).1 r hr
  · simp [oneCall] at hcancel
  · obtain ⟨hnested, -⟩ | ⟨-, answer, ha, hstatus, hsuccess, -⟩ := hread
    · cases hnested
    · rw [ha] at hends
      have hfails : TableAccess.Method.Fails answer (.select (.raw .null)) :=
        Bool.eq_false_iff.mpr fun hok => absurd (hsuccess.mp hok).1 (by decide)
      obtain ⟨message, rfl⟩ := hends.error (hends.raises.mpr hfails)
      rw [hstatus] at hr
      exact ⟨message, hr⟩

/-- A success with more brackets than there is room for is answered with a failure of neither the
control plane nor the query. -/
theorem responses_judged_nested :
    let reply := Reply.response 200 (List.replicate 1000 0x5b) 900
    ∃ q, (notes.plane.query notes.ns notes.name "select" (.object [])).After [(q, reply)]
        (.done (.error .tooNested)) ∧
      (notes.query .select [] false TableAccess.readRows).After [(q, reply)]
        (.done (.error .tooNested)) := by
  intro reply
  have hread : Answer.ofBody 200 (List.replicate 1000 0x5b) 900 = .error .tooNested :=
    Answer.ofBody_of_tooNested (Answer.tooNested_opening (by decide)) 200
  have hposts : ∃ text, Json.write .strict (.object [("namespace", .text "tenant"),
      ("tableName", .text "notes"), ("operation", .text "select"), ("options", .object [])]) =
      .ok text := ⟨_, by rfl⟩
  obtain ⟨text, htext⟩ := hposts
  have hpost := ControlPlane.post_after (s := notes.plane.settings) (e := .query) ⟨text, htext, rfl⟩
    hread
  exact ⟨_, hpost, hpost.bind⟩

end

end Session

end TenantStore
