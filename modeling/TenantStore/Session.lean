import TenantStore.Provisioning

/-!
# Sessions

A session runs calls beside one another on one queue of jobs, first come first served. A call that
needs a table joins the table's attempt or starts one; all calls that need the table share it. An
attempt that fails or is called off leaves nothing behind, so that the next call starts over, and
an attempt whose last call is cancelled is called off. Replies of an endpoint can be held back.

`Session.tick` executes one job; `start`, `cancel`, `hold` and `release` come from outside, at any
time.
-/

namespace TenantStore

/-- What the calls of a session are made against: the control plane, the tenant's namespace, and
the reply to each request, given the requests before it. -/
structure World where
  plane : ControlPlane
  ns : String
  reply : List Request → Request → Reply

inductive Call
  | settled (r : Except Failure Data)
  | direct (body : Remote Data)
  | onTable (name : String) (table : Table) (body : Remote Data)
  | everything (tables : List (String × Table))

inductive Phase
  | fresh (name : String) (table : Table) (body : Remote Data)
  | gathering (tables : List (String × Table))
  | ready (body : Remote Data)
  | held (body : Remote Data)
  | joined (attempt : Nat) (body : Remote Data)
  | leaving (attempt : Nat) (outcome : Except Failure Data) (body : Remote Data)
  | gathered (children : List Nat)
  | finished (r : Except Failure Data)

/-- A task is an attempt at a table, if it has a key, or a call. -/
structure Task where
  key : Option String
  cancelling : Bool
  phase : Phase

namespace Task

def result? (t : Task) : Option (Except Failure Data) :=
  match t.phase with
  | .finished r => some r
  | _ => none

def succeeded (t : Task) : Bool :=
  match t.phase with
  | .finished (.ok _) => true
  | _ => false

def isFinished (t : Task) : Bool :=
  t.result?.isSome

def isShareable (t : Task) : Bool :=
  !t.isFinished && !t.cancelling

def width (t : Task) : Nat :=
  match t.phase with
  | .gathering tables => tables.length + 1
  | _ => 1

end Task

/-- An entry of the queue: a task's next step, or telling the calls of a finished attempt. -/
inductive Job
  | run (task : Nat)
  | settle (attempt : Nat)
deriving DecidableEq

structure Session where
  tasks : List Task
  ready : List Job
  cache : List (String × Nat)
  waiters : List (Nat × Nat)
  closed : List Endpoint
  parked : List (Endpoint × Nat)
  ended : List Nat
  sent : List Request
  events : List (Event Request)

namespace Session

def empty : Session :=
  ⟨[], [], [], [], [], [], [], [], []⟩

/-! ## Parts of a step -/

def setPhase (id : Nat) (p : Phase) (s : Session) : Session :=
  { s with tasks := s.tasks.modify id fun t => { t with phase := p } }

def enqueue (j : Job) (s : Session) : Session :=
  { s with ready := s.ready ++ [j] }

def record (e : Event Request) (s : Session) : Session :=
  { s with events := s.events ++ [e] }

def note (message : RawText) (s : Session) : Session :=
  s.record (.logged (Provisioning.debugLine message))

def wake (id : Nat) (p : Phase) (s : Session) : Session :=
  (s.setPhase id p).enqueue (.run id)

def spawn (key : Option String) (p : Phase) (s : Session) : Session :=
  enqueue (.run s.tasks.length) { s with tasks := s.tasks ++ [⟨key, false, p⟩] }

def task? (id : Nat) (s : Session) : Option Task :=
  s.tasks[id]?

/-- A finished attempt is settled by a job of its own. -/
def finish (id : Nat) (r : Except Failure Data) (s : Session) : Session :=
  let s := { s.setPhase id (.finished r) with ended := s.ended ++ [id] }
  if (s.task? id).any fun t => t.key.isSome then s.enqueue (.settle id) else s

/-- Runs a program until it waits or is done. -/
def advance (w : World) (id : Nat) : Remote Data → Session → Session
  | .done r, s => s.finish id r
  | .ask q next, s =>
    let reply := w.reply s.sent q
    let s := record (.asked q) { s with sent := s.sent ++ [q] }
    if s.closed.contains q.endpoint then
      { s.setPhase id (.held (next reply)) with parked := s.parked ++ [(q.endpoint, id)] }
    else advance w id (next reply) s
  | .pause d next, s => (s.record (.paused d)).wake id (.ready next)
  | .log l next, s => advance w id next (s.record (.logged l))

/-! ## Waiters -/

def waiting (attempt : Nat) (s : Session) : Nat :=
  (Assoc.get? attempt s.waiters).getD 0

def addWaiter (attempt : Nat) (s : Session) : Session :=
  { s with waiters := Assoc.put attempt (s.waiting attempt + 1) s.waiters }

/-- A count that would reach zero is not kept. -/
def removeWaiter (attempt : Nat) (s : Session) : Session :=
  if s.waiting attempt ≤ 1 then { s with waiters := Assoc.erase attempt s.waiters }
  else { s with waiters := Assoc.put attempt (s.waiting attempt - 1) s.waiters }

/-! ## Joining and leaving attempts -/

def cached? (key : String) (s : Session) : Option (Nat × Task) :=
  (Assoc.get? key s.cache).bind fun id => (s.task? id).map fun t => (id, t)

def join (id attempt : Nat) (body : Remote Data) (s : Session) : Session :=
  (s.addWaiter attempt).setPhase id (.joined attempt body)

def startAttempt (w : World) (key name : String) (table : Table) (s : Session) : Session :=
  let work := (Provisioning.attempt w.plane w.ns name table).andThen fun r =>
    .done (r.map fun _ => .null)
  { s.spawn (some key) (.ready work) with cache := Assoc.put key s.tasks.length s.cache }

def ensure (w : World) (id : Nat) (name : String) (table : Table) (body : Remote Data)
    (s : Session) : Session :=
  let key := Namespace.tableKey w.ns name
  match s.cached? key with
  | some (attempt, t) =>
    if t.succeeded then
      (s.note ("Table " ++ key ++ " already provisioned")) |>.advance w id body
    else if t.isShareable then s.join id attempt body
    else (s.startAttempt w key name table).join id s.tasks.length body
  | none => (s.startAttempt w key name table).join id s.tasks.length body

/-- The program of a task that has nothing left to do but to end. -/
def stopped : Remote Data := .done (.error .cancelled)

/-- Ends a task at its next step; one that waits is woken for it. -/
def callOff (id : Nat) (s : Session) : Session :=
  let marked := { s with tasks := s.tasks.modify id fun t => { t with cancelling := true } }
  match (s.task? id).map Task.phase with
  | some (.fresh ..) | some (.ready _) | some (.gathering _) => marked.setPhase id (.ready stopped)
  | some (.held _) =>
    wake id (.ready stopped) { marked with parked := s.parked.filter fun p => p.2 ≠ id }
  | some (.joined attempt body) =>
    marked.wake id (.leaving attempt (.error .cancelled) body)
  | some (.leaving attempt _ body) =>
    marked.setPhase id (.leaving attempt (.error .cancelled) body)
  | some (.gathered _) | some (.finished _) | none => s

/-- The last call that waits for an attempt calls it off when it is cancelled itself. -/
def abandon (attempt : Nat) (outcome : Except Failure Data) (s : Session) : Session :=
  match outcome, s.task? attempt with
  | .error .cancelled, some t =>
    if !t.isFinished && s.waiting attempt == 1 then
      (s.note ("Last waiter for " ++ t.key.getD "" ++ " cancelled; aborting provisioning"))
        |>.callOff attempt
    else s
  | _, _ => s

def leave (w : World) (id attempt : Nat) (outcome : Except Failure Data) (body : Remote Data)
    (s : Session) : Session :=
  let s := (s.abandon attempt outcome).removeWaiter attempt
  match outcome with
  | .ok _ => s.advance w id body
  | .error e => s.finish id (.error e)

/-! ## Jobs -/

/-- One call for each table, and a task that stands for all of them. -/
def gather (id : Nat) (tables : List (String × Table)) (s : Session) : Session :=
  let children := List.range' s.tasks.length tables.length
  (tables.foldl (fun s (name, t) => s.spawn none (.fresh name t (.done (.ok .null)))) s).setPhase id
    (.gathered children)

def runTask (w : World) (id : Nat) (s : Session) : Session :=
  match (s.task? id).map Task.phase with
  | some (.fresh name table body) => s.ensure w id name table body
  | some (.gathering tables) => s.gather id tables
  | some (.ready body) => s.advance w id body
  | some (.leaving attempt outcome body) => s.leave w id attempt outcome body
  | _ => s

def tell (attempt : Nat) (outcome : Except Failure Data) (s : Session) (id : Nat) : Session :=
  match (s.task? id).map Task.phase with
  | some (.joined a body) =>
    if a = attempt then s.wake id (.leaving attempt outcome body) else s
  | _ => s

/-- Only a success stays in the cache. -/
def forget (attempt : Nat) (key : String) (outcome : Except Failure Data) (s : Session) : Session :=
  match outcome with
  | .ok _ => s
  | .error e =>
    let s := if Assoc.get? key s.cache = some attempt then
        { s with cache := Assoc.erase key s.cache }
      else s
    match e with
    | .cancelled => s
    | e => s.note ("Provisioning " ++ key ++ " failed: " ++ e.text)

def settle (attempt : Nat) (s : Session) : Session :=
  match s.task? attempt with
  | some ⟨some key, _, .finished outcome⟩ =>
    (List.range s.tasks.length).foldl (tell attempt outcome) (s.forget attempt key outcome)
  | _ => s

def runJob (w : World) : Job → Session → Session
  | .run id => runTask w id
  | .settle attempt => settle attempt

def tick (w : World) (s : Session) : Session :=
  match s.ready with
  | [] => s
  | j :: rest => runJob w j { s with ready := rest }

/-! ## From outside -/

/-- Starts a call; the number of its task is the number of tasks before. -/
def start (c : Call) (s : Session) : Session :=
  s.spawn none (match c with
    | .settled r => .ready (.done r)
    | .direct body => .ready body
    | .onTable name table body => .fresh name table body
    | .everything tables => .gathering tables)

/-- A task's outcome. All calls of a group have to succeed; the first one to fail decides. -/
def outcome? (id : Nat) (s : Session) : Option (Except Failure Data) :=
  match (s.task? id).map Task.phase with
  | some (.finished r) => some r
  | some (.gathered children) =>
    let results := (s.ended.filter children.contains).filterMap fun i =>
      (s.task? i).bind Task.result?
    match results.find? fun r => r.toOption.isNone with
    | some r => some r
    | none => if results.length = children.length then some (.ok .null) else none
  | _ => none

/-- A group is called off by calling off its calls, as long as it has no outcome. -/
def cancel (id : Nat) (s : Session) : Session :=
  match (s.task? id).map Task.phase with
  | some (.gathered children) =>
    if (s.outcome? id).isSome then s else children.foldl (fun s child => s.callOff child) s
  | _ => s.callOff id

def hold (e : Endpoint) (s : Session) : Session :=
  { s with closed := e :: s.closed }

def deliver (s : Session) (id : Nat) : Session :=
  match (s.task? id).map Task.phase with
  | some (.held body) => s.wake id (.ready body)
  | _ => s

/-- Delivers the replies that an endpoint held back, in order, and holds no more. -/
def release (e : Endpoint) (s : Session) : Session :=
  let there := { s with
    closed := s.closed.filter (· ≠ e)
    parked := s.parked.filter fun p => p.1 ≠ e }
  ((s.parked.filter fun p => p.1 = e).map (·.2)).foldl deliver there

def drainFor (w : World) : Nat → Session → Session
  | 0, s => s
  | n + 1, s => if s.ready.isEmpty then s else drainFor w n (s.tick w)

def width (s : Session) : Nat :=
  s.tasks.foldl (fun n t => n + t.width) 0

/-- Every call starts at most one attempt, and an attempt makes at most three kinds of requests,
each as often as the policy allows. -/
def jobBound (w : World) (s : Session) : Nat :=
  2 * s.width * (3 * w.plane.policy.attempts + 4) + s.ready.length

def drain (w : World) (s : Session) : Session :=
  s.drainFor w (s.jobBound w)

/-! ## Views -/

def isProvisioned (ns name : String) (s : Session) : Bool :=
  (s.cached? (Namespace.tableKey ns name)).any fun e => e.2.succeeded

/-- The tables whose attempts succeeded, in the order of the cache; a key's namespace and point are
left out. -/
def provisionedTables (ns : String) (s : Session) : List String :=
  (s.cache.filter fun e => (s.task? e.2).any Task.succeeded).map fun e =>
    String.ofList (e.1.toList.drop (ns.length + 1))

end Session

end TenantStore
