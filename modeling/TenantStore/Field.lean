import TenantStore.Value

/-!
# Fields

A field says which values a column or a nested place may hold. There are nine kinds, each with
rules of its own; modifiers are shared by all of them. What a table declares for a column may also
be a field of a kind that the store does not know, or no field at all.
-/

namespace TenantStore

inductive Deferred
  | now
  | uuid
deriving DecidableEq

def Deferred.text : Deferred → String
  | .now => "now"
  | .uuid => "uuid"

def Deferred.ofText? : String → Option Deferred
  | "now" => some .now
  | "uuid" => some .uuid
  | _ => none

structure Modifiers where
  isOptional : Bool
  nullable : Bool
  hasDefault : Bool
  default : Value
  deferred : Option Deferred
  description : Option String

def Modifiers.plain : Modifiers :=
  ⟨false, false, false, .null, none, none⟩

/-- The default is literally null, so a row may hold null. -/
def Modifiers.nullDefault (m : Modifiers) : Bool :=
  m.hasDefault && m.deferred.isNone &&
    match m.default with
    | .null => true
    | _ => false

structure TextRules where
  maxLength : Option Int
  minLength : Option Int
  isUuid : Bool
  isEmail : Bool
  pattern : Option String

structure NumberRules where
  isInteger : Bool
  minimum : Option Binary64
  maximum : Option Binary64

structure ItemRules where
  minItems : Option Int
  maxItems : Option Int

inductive Scalar
  | text (s : String)
  | int (i : Int)
  | float (x : Binary64)
  | bool (b : Bool)
deriving DecidableEq

def Scalar.toValue : Scalar → Value
  | .text s => .text s
  | .int i => .int i
  | .float x => .float x
  | .bool b => .bool b

inductive Field
  | text (m : Modifiers) (rules : TextRules)
  | number (m : Modifiers) (rules : NumberRules)
  | boolean (m : Modifiers)
  | date (m : Modifiers)
  | object (m : Modifiers) (shape : List (String × Field))
  | array (m : Modifiers) (element : Field) (rules : ItemRules)
  | record (m : Modifiers) (value : Field)
  | choice (m : Modifiers) (values : List String)
  | literal (m : Modifiers) (value : Scalar)

namespace Field

def kind : Field → String
  | .text .. => "string"
  | .number .. => "number"
  | .boolean _ => "boolean"
  | .date _ => "date"
  | .object .. => "object"
  | .array .. => "array"
  | .record .. => "record"
  | .choice .. => "enum"
  | .literal .. => "literal"

def modifiers : Field → Modifiers
  | .text m _ | .number m _ | .boolean m | .date m | .object m _ | .array m _ _
  | .record m _ | .choice m _ | .literal m _ => m

def withModifiers (f : Modifiers → Modifiers) : Field → Field
  | .text m r => .text (f m) r
  | .number m r => .number (f m) r
  | .boolean m => .boolean (f m)
  | .date m => .date (f m)
  | .object m shape => .object (f m) shape
  | .array m element r => .array (f m) element r
  | .record m value => .record (f m) value
  | .choice m values => .choice (f m) values
  | .literal m value => .literal (f m) value

end Field

namespace Modifiers

def asOptional (m : Modifiers) : Modifiers := { m with isOptional := true }

def asNullable (m : Modifiers) : Modifiers := { m with nullable := true }

def withDefault (v : Value) (m : Modifiers) : Modifiers :=
  { m with hasDefault := true, default := v, deferred := none }

def withDeferred (d : Deferred) (m : Modifiers) : Modifiers :=
  { m with hasDefault := true, default := .null, deferred := some d }

def describe (text : String) (m : Modifiers) : Modifiers :=
  { m with description := some text }

end Modifiers

/-- What stands in a table's declaration where a field is expected. -/
inductive Declaration
  | field (f : Field)
  | unknown (kind : String) (m : Modifiers)
  | foreign (v : Value)

namespace Declaration

def modifiers? : Declaration → Option Modifiers
  | .field f => some f.modifiers
  | .unknown _ m => some m
  | .foreign _ => none

def withModifiers (f : Modifiers → Modifiers) : Declaration → Declaration
  | .field d => .field (d.withModifiers f)
  | .unknown kind m => .unknown kind (f m)
  | .foreign v => .foreign v

end Declaration

end TenantStore
