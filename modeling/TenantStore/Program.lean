import TenantStore.Log
import TenantStore.Number.Binary64

/-!
# Programs

A program that talks to a remote side is a tree: it asks a question and goes on with the answer,
waits for some time, writes a log line, or is done. What the questions are answered is up to
whoever runs it, so a program can be run against a script, or step by step beside others.
-/

namespace TenantStore

inductive Program (Q A α : Type)
  | done (r : Except Failure α)
  | ask (question : Q) (next : A → Program Q A α)
  | pause (seconds : Binary64) (next : Program Q A α)
  | log (line : LogLine) (next : Program Q A α)

inductive Event (Q : Type)
  | asked (question : Q)
  | paused (seconds : Binary64)
  | logged (line : LogLine)

namespace Event

variable {Q : Type}

def question? : Event Q → Option Q
  | .asked q => some q
  | _ => none

def pause? : Event Q → Option Binary64
  | .paused s => some s
  | _ => none

def line? : Event Q → Option LogLine
  | .logged l => some l
  | _ => none

end Event

namespace Program

variable {Q A α β : Type}

def andThen : Program Q A α → (Except Failure α → Program Q A β) → Program Q A β
  | .done r, k => k r
  | .ask q next, k => .ask q fun a => (next a).andThen k
  | .pause s next, k => .pause s (next.andThen k)
  | .log l next, k => .log l (next.andThen k)

def bind (p : Program Q A α) (f : α → Program Q A β) : Program Q A β :=
  p.andThen fun
    | .ok a => f a
    | .error e => .done (.error e)

instance : Monad (Program Q A) where
  pure a := .done (.ok a)
  bind := bind

def call (q : Q) (result : A → Except Failure α) : Program Q A α :=
  .ask q fun a => .done (result a)

def note (line : LogLine) : Program Q A Unit :=
  .log line (.done (.ok ()))

/-- What a run leaves: its events in order, the state of the remote side and the result. -/
structure Transcript (Q σ α : Type) where
  events : List (Event Q)
  state : σ
  result : Except Failure α

def Transcript.after {σ : Type} (e : Event Q) (t : Transcript Q σ α) : Transcript Q σ α :=
  { t with events := e :: t.events }

def run {σ : Type} (answer : σ → Q → A × σ) : Program Q A α → σ → Transcript Q σ α
  | .done r, s => ⟨[], s, r⟩
  | .ask q next, s =>
    let (a, s) := answer s q
    (run answer (next a) s).after (.asked q)
  | .pause d next, s => (run answer next s).after (.paused d)
  | .log l next, s => (run answer next s).after (.logged l)

end Program

end TenantStore
