import TenantStore.Finding
import TenantStore.Json.Writer

/-!
# Failures

The store raises errors of its own, each with a message, an HTTP status if there is one and a
context; the rest of a failure's causes are faults of a call. Transport failures and overload can
be retried.
-/

namespace TenantStore

/-- One violated rule of a payload and the dotted path to it. -/
structure Violation where
  path : String
  message : String
  kind : String
deriving DecidableEq

def Finding.violation (lead : String) (f : Finding) : Violation :=
  ⟨lead ++ f.path, f.cause.message, f.cause.kind⟩

inductive StoreError
  | general (message : RawText) (status context : Value)
  | definition (message : RawText) (status context : Value)
  | transport (message : RawText) (status context : Value)
  | provisioning (message : RawText) (ns table status : Value)
  | query (message : RawText) (operation table status : Value)
  | validation (violations : List Violation) (table : Value)

namespace StoreError

def name : StoreError → String
  | .general .. => "TenantDBError"
  | .definition .. => "SchemaDefinitionError"
  | .transport .. => "TransportError"
  | .provisioning .. => "ProvisioningError"
  | .query .. => "QueryError"
  | .validation .. => "SchemaValidationError"

def message : StoreError → RawText
  | .general m _ _ | .definition m _ _ | .transport m _ _ => m
  | .provisioning m .. | .query m .. => m
  | .validation violations _ =>
    "Validation failed: " ++
      String.intercalate ", " (violations.map fun v => v.path ++ ": " ++ v.message)

/-- The HTTP status; a rejected payload counts as a bad request. -/
def status : StoreError → Value
  | .general _ s _ | .definition _ s _ | .transport _ s _ => s
  | .provisioning _ _ _ s | .query _ _ _ s => s
  | .validation .. => .int 400

/-- An empty context is an empty mapping, whatever it was given as. -/
def contextOr (context : Value) : Value :=
  if context.truthy then context else .map []

def context : StoreError → Value
  | .general _ _ c | .definition _ _ c | .transport _ _ c => contextOr c
  | .provisioning _ ns table _ => .object [("namespace", ns), ("table_name", table)]
  | .query _ operation table _ => .object [("operation", operation), ("table_name", table)]
  | .validation _ table => .object [("table_name", table)]

def retryable : StoreError → Bool
  | .transport .. => true
  | _ => false

def violations? : StoreError → Option (List Violation)
  | .validation violations _ => some violations
  | _ => none

end StoreError

inductive Failure
  | store (e : StoreError)
  | invalid (findings : List Finding)
  | missingKey (key : String)
  | badValue (message : String)
  | noSuchAttribute (message : String)
  | wrongType
  | notAnObject
  | unusableSchema
  | noChoices
  | tooLarge
  | tooNested
  | tooManyRedirects
  | undecodable
  | cancelled

namespace Failure

def text : Failure → RawText
  | .store e => e.message
  | .badValue m | .noSuchAttribute m | .missingKey m => m
  | _ => ""

/-- A failed transport, a server error and overload are worth another try. -/
def isRetryable : Failure → Bool
  | .store e =>
    e.retryable ||
      match e.status.asInt? with
      | some s => 500 ≤ s || s == 429
      | none => false
  | _ => false

def unwritten : Json.WriteFault → Failure
  | .unsupportedKey | .unsupportedValue => .wrongType
  | .notFinite => .badValue "Out of range float values are not JSON compliant"
  | .tooManyDigits => .badValue ("Exceeds the limit (4300 digits) for integer string conversion" ++
      "; use sys.set_int_max_str_digits() to increase the limit")

def definition (message : String) : Failure :=
  .store (.definition message .null .null)

def rejected (violations : List Violation) (table : Option String) : Failure :=
  .store (.validation violations (.ofText? table))

end Failure

/-- The arguments that a store error is made of by name. -/
abbrev Arguments := List (String × Value)

def Arguments.get (args : Arguments) (key : String) : Value :=
  (args.lookup key).getD .null

/-- All required names are given, and no others than they and the optional ones. -/
def Arguments.fit (args : Arguments) (required optional : List String) : Bool :=
  required.all (fun k => args.any (·.1 == k)) &&
    args.all fun a => (required ++ optional).contains a.1

def StoreError.ofArguments? (name message : String) (args : Arguments) :
    Except Failure StoreError :=
  let checked (required optional : List String) (e : StoreError) :=
    if args.fit required optional then .ok e else .error .wrongType
  let status := args.get "status_code"
  let table := args.get "table_name"
  match name with
  | "SchemaDefinitionError" =>
    checked [] ["status_code", "context"] (.definition message status (args.get "context"))
  | "TransportError" =>
    checked [] ["status_code", "context"] (.transport message status (args.get "context"))
  | "ProvisioningError" =>
    checked ["namespace"] ["table_name", "status_code"]
      (.provisioning message (args.get "namespace") table status)
  | "QueryError" =>
    checked ["operation", "table_name"] ["status_code"]
      (.query message (args.get "operation") table status)
  | _ => checked [] ["status_code", "context"] (.general message status (args.get "context"))

end TenantStore
