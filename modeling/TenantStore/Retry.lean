import TenantStore.Program

/-!
# Retries

A call that fails for a passing reason is made again, after a pause that doubles each time, until
the policy's number of attempts is used up. Each pause is spread by a factor of its own, so that
calls that fail together are not made again together. Cancellation is never retried.
-/

namespace TenantStore

structure RetryPolicy where
  maxAttempts : Int
  backoffMs : Int

namespace RetryPolicy

def attempts (p : RetryPolicy) : Nat :=
  (max p.maxAttempts 1).toNat

def float? (i : Int) : Option Binary64 :=
  let x := Binary64.ofInt i
  if x.isFinite then some x else none

/-- Seconds to pause after a failed attempt, before they are spread; attempts count from one. There
is no pause that long if one of its factors is too large. -/
def backoff? (p : RetryPolicy) (attempt : Nat) : Option Binary64 := do
  let ms ← float? p.backoffMs
  let factor ← if attempt - 1 < 1024 then float? (Nat.pow 2 (attempt - 1)) else none
  return (ms.divNat 1000).mul factor

end RetryPolicy

namespace Retry

variable {Q A α : Type}

def line (label : String) (attempt : Nat) (e : Failure) : LogLine :=
  ⟨.warning, "tenantdb.core.resilience",
    "Retrying " ++ label ++ " after attempt " ++ Decimal.natText attempt ++ " failed: " ++ e.text⟩

def isFinal (retryable : Failure → Bool) : Failure → Bool
  | .cancelled => true
  | e => !retryable e

/-- The attempts from a given one on, with so many left after it. A pause is spread by the factor
of the attempt that it follows. -/
def attemptsFrom (spread : Nat → Binary64) (policy : RetryPolicy) (retryable : Failure → Bool)
    (label : String) (call : Program Q A α) : Nat → Nat → Program Q A α
  | 0, _ => call
  | left + 1, attempt =>
    call.andThen fun
      | .ok a => .done (.ok a)
      | .error e =>
        if isFinal retryable e then .done (.error e)
        else match policy.backoff? attempt with
          | none => .done (.error .tooLarge)
          | some seconds =>
            .log (line label attempt e) (.pause (seconds.mul (spread attempt))
              (attemptsFrom spread policy retryable label call left (attempt + 1)))

def unspread (_ : Nat) : Binary64 :=
  .ofNat 1

end Retry

namespace Program

variable {Q A α : Type}

/-- The call, made again while it fails for a passing reason, with these factors for the pauses. -/
def retryWith (spread : Nat → Binary64) (policy : RetryPolicy) (retryable : Failure → Bool)
    (label : String) (call : Program Q A α) : Program Q A α :=
  Retry.attemptsFrom spread policy retryable label call (policy.attempts - 1) 1

def retry (policy : RetryPolicy) (retryable : Failure → Bool) (label : String)
    (call : Program Q A α) : Program Q A α :=
  call.retryWith Retry.unspread policy retryable label

end Program

end TenantStore
