import TenantStore.Failure
import TenantStore.Pattern.Reader
import TenantStore.Table

/-!
# Usable declarations

Some declarations describe no check at all: a negative limit, an integer bound that is no integer
of 64 bits, a pattern that cannot be read or is too large to be matched, a choice of nothing, or
something that is no field. They are found when the first row is checked. Nested objects come first,
then what is no field, then choices, then limits, bounds and patterns.
-/

namespace TenantStore.Row

/-- A limit counts characters or items in 64 bits. -/
def limitUsable : Option Int → Bool
  | none => true
  | some n => 0 ≤ n && n < Nat.pow 2 64

/-- A bound of integers is an integer between the ends of the 64-bit range. -/
def boundUsable : Option Binary64 → Bool
  | none => true
  | some x => match x.toInt? with
    | some i => i.natAbs < Nat.pow 2 63
    | none => false

/-- The shape of an address, for texts that have to be one: a local part and a domain with a
dot. -/
def emailPattern : String :=
  "^[^@\\s]+@[^@\\s]+\\.[^@\\s]+$"

end TenantStore.Row

namespace TenantStore

/-- What matches patterns. It takes no pattern that gets too large for it, but the store's own one.
-/
class Pattern.Engine where
  takes : Pattern → Bool
  takesEmail : (Pattern.read? Row.emailPattern).any takes

@[reducible] def Pattern.Engine.unlimited : Pattern.Engine :=
  ⟨fun _ => true, by decide +kernel⟩

section
variable [Pattern.Engine]

namespace TextRules

/-- The pattern that texts have to match; an empty one counts as none. -/
def effectivePattern (r : TextRules) : Option String :=
  match r.pattern with
  | some p => if p ≠ "" then some p else if r.isEmail then some Row.emailPattern else none
  | none => if r.isEmail then some Row.emailPattern else none

def usable (r : TextRules) : Bool :=
  r.isUuid ||
    (Row.limitUsable r.minLength && Row.limitUsable r.maxLength &&
      match r.effectivePattern with
      | some p => (Pattern.read? p).any Pattern.Engine.takes
      | none => true)

end TextRules

def NumberRules.usable (r : NumberRules) : Bool :=
  !r.isInteger || (Row.boundUsable r.minimum && Row.boundUsable r.maximum)

def ItemRules.usable (r : ItemRules) : Bool :=
  Row.limitUsable r.minItems && Row.limitUsable r.maxItems

namespace Field

def hasChoice : Field → Bool
  | .choice _ values => !values.isEmpty
  | .array _ element _ => hasChoice element
  | .record _ value => hasChoice value
  | _ => true

/-- Limits, bounds and patterns can be used, as far as lists and records go. -/
def hasUsableRules : Field → Bool
  | .text _ r => r.usable
  | .number _ r => r.usable
  | .array _ element r => r.usable && hasUsableRules element
  | .record _ value => hasUsableRules value
  | _ => true

/-- What is wrong with the fields of one object, apart from the objects in them. -/
def ownFault? (fields : List Field) : Option Failure :=
  if !fields.all hasChoice then some .noChoices
  else if !fields.all hasUsableRules then some .unusableSchema
  else none

mutual
def objectFault? : Field → Option Failure
  | .object _ shape => (shapeFault? shape).or (ownFault? (shape.map (·.2)))
  | .array _ element _ => objectFault? element
  | .record _ value => objectFault? value
  | _ => none

def shapeFault? : List (String × Field) → Option Failure
  | [] => none
  | (_, f) :: rest => (objectFault? f).or (shapeFault? rest)
end

end Field

namespace Declaration

def objectFault? : Declaration → Option Failure
  | .field f => f.objectFault?
  | .unknown .. => none
  | .foreign _ => some .notAnObject

def field? : Declaration → Option Field
  | .field f => some f
  | _ => none

end Declaration

def Table.fault? (t : Table) : Option Failure :=
  (t.columns.findSome? fun (_, d) => d.objectFault?).or
    (Field.ownFault? (t.columns.filterMap fun (_, d) => d.field?))

end

end TenantStore
