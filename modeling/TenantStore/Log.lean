import TenantStore.Failure

/-!
# Log lines

Calls that can log return their lines, in order, beside their result.
-/

namespace TenantStore

inductive Level
  | debug
  | info
  | warning
  | error
deriving DecidableEq

namespace Level

def name : Level → String
  | .debug => "DEBUG"
  | .info => "INFO"
  | .warning => "WARNING"
  | .error => "ERROR"

def rank : Level → Nat
  | .debug => 10
  | .info => 20
  | .warning => 30
  | .error => 40

end Level

structure LogLine where
  level : Level
  logger : String
  message : RawText
deriving DecidableEq

/-- A result and the lines logged on the way to it. -/
structure Traced (α : Type) where
  lines : List LogLine
  result : Except Failure α

namespace Traced

variable {α β : Type}

def bind (x : Traced α) (f : α → Traced β) : Traced β :=
  match x.result with
  | .ok a => ⟨x.lines ++ (f a).lines, (f a).result⟩
  | .error e => ⟨x.lines, .error e⟩

instance : Monad Traced where
  pure a := ⟨[], .ok a⟩
  bind := bind

def fail (e : Failure) : Traced α := ⟨[], .error e⟩

def log (line : LogLine) : Traced Unit := ⟨[line], .ok ()⟩

def ofExcept (r : Except Failure α) : Traced α := ⟨[], r⟩

end Traced

end TenantStore
