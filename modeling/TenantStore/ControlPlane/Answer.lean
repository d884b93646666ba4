import TenantStore.Failure
import TenantStore.Json.Reader
import TenantStore.Query

/-!
# Answers of the control plane

Every endpoint answers with an envelope. A body that is no JSON text counts as an empty envelope,
any other JSON value as the data of one, and an envelope whose members are of the wrong kind as a
failure. Whatever the body says, the status is that of the response, and an error status means
failure and leaves some error text. There is no answer where the reader runs out of room.
-/

namespace TenantStore

abbrev Data := Value RawText

structure Answer where
  success : Bool
  data : Data
  error : Option RawText
  message : Option RawText
  status : Nat
  extra : List (Data × Data)

namespace Answer

def isErrorStatus (status : Nat) : Bool :=
  400 ≤ status && status < 600

def isSuccessStatus (status : Nat) : Bool :=
  200 ≤ status && status < 300

def members : List String :=
  ["success", "data", "error", "message", "status_code"]

def extraOf (es : List (Data × Data)) : List (Data × Data) :=
  es.filter fun e => !members.any fun m => e.1.equal (.text m)

/-- A key is a text in the strict sense. -/
def isStrictKey : Data → Bool
  | .text s => s.toString?.isSome
  | _ => false

def strictKeys (es : List (Data × Data)) : Checked Unit :=
  if es.all fun e => isStrictKey e.1 then .ok () else .fail .notStrict

/-- The envelope that these entries give, apart from its status. -/
def envelope (status : Nat) (es : List (Data × Data)) : Checked Answer :=
  let answer (success : Bool) (data : Data) (error message : Option RawText) (_ : Option Int)
      (_ : Unit) := (⟨success, data, error, message, status, extraOf es⟩ : Answer)
  answer <$> Checked.optional es "success" false Coercion.bool <*>
    Checked.optional es "data" .null .ok <*>
    Checked.optional es "error" none (Coercion.nullable Coercion.text) <*>
    Checked.optional es "message" none (Coercion.nullable Coercion.text) <*>
    Checked.optional es "status_code" none (Coercion.nullable Coercion.int) <*>
    strictKeys es

def malformed (status : Nat) : Answer :=
  ⟨false, .null, some "Malformed control plane response", none, status, []⟩

def entriesOf (status : Nat) : Option Data → List (Data × Data)
  | none => []
  | some (.map es) => es
  | some v => [(.text "success", .bool (isSuccessStatus status)), (.text "data", v)]

/-- An error status means failure, and its number stands in for an error text. -/
def marked (a : Answer) : Answer :=
  if isErrorStatus a.status then
    { a with
      success := false
      error := some (match a.error with
        | some e => if e ≠ "" then e else "HTTP " ++ Decimal.natText a.status
        | none => "HTTP " ++ Decimal.natText a.status) }
  else a

def payload (room : Nat) (body : List UInt8) : Except Failure (Option Data) :=
  match (Text.ofBytes? body).map (Json.read room) with
  | some (.ok v) => .ok (some v)
  | some (.error .tooNested) => .error .tooNested
  | some (.error .malformed) | none => .ok none

def ofPayload (status : Nat) (payload : Option Data) : Answer :=
  match envelope status (entriesOf status payload) with
  | .ok a => a.marked
  | .bad _ => (malformed status).marked

def ofBody (status : Nat) (body : List UInt8) (room : Nat) : Except Failure Answer :=
  (payload room body).map (ofPayload status)

theorem payload_error {room : Nat} {body : List UInt8} {f : Failure}
    (h : payload room body = .error f) : f = .tooNested := by
  unfold payload at h
  split at h
  · cases h
  · exact (Except.error.inj h).symm
  · cases h
  · cases h

/-- A response without an answer is nested too deeply. -/
theorem ofBody_error {status room : Nat} {body : List UInt8} {f : Failure}
    (h : ofBody status body room = .error f) : f = .tooNested := by
  unfold ofBody at h
  cases hp : payload room body with
  | ok p =>
    rw [hp] at h
    cases h
  | error e =>
    rw [hp] at h
    exact Except.error.inj h ▸ payload_error hp

def errorText (a : Answer) : RawText :=
  a.error.getD "None"

def extra? (a : Answer) (key : String) : Option Data :=
  Value.field? key a.extra

/-- Whether a checked table exists: in the data if these say so, else beside them. -/
def tableExists (a : Answer) : Bool :=
  let inData := match a.data with
    | .map es => Value.field? "exists" es
    | _ => none
  match inData with
  | some v => v.truthy
  | none => ((a.extra? "exists").map Value.truthy).getD false

end Answer

end TenantStore
