import TenantStore.Number.Decimal
import TenantStore.Time.Reading
import TenantStore.Uuid.Reading

/-!
# Findings

A finding is one thing that is wrong with a value: its cause, and the keys and positions that lead
to it. Checks of several parts report the findings of all of them, in order.
-/

namespace TenantStore

inductive Cause
  | missing
  | notText
  | notStrict
  | notInteger
  | integerText
  | fractional
  | integerTooLong
  | notNumber
  | numberText
  | notFinite
  | notBoolean
  | booleanText
  | notOneOf (choices : String)
  | notList
  | notTuple
  | notMapping
  | notRecordOf (name : String)
  | notAttributes
  | noTag
  | unknownTag (tag : String) (choices : String)
  | belowMinimum (bound : String)
  | aboveMaximum (bound : String)
  | tooLong (limit : Int)
  | tooShort (limit : Int)
  | patternMismatch (pattern : String)
  | tooMany (limit : Int) (count : Nat)
  | tooFew (limit : Int) (count : Nat)
  | notIdentifier
  | identifierText (fault : UuidFault)
  | notMoment
  | momentText (fault : TimeFault)
  | dayText (fault : TimeFault)
  | notLiteral (choices : String)
deriving DecidableEq

namespace Cause

def kind : Cause → String
  | .missing => "missing"
  | .notText => "string_type"
  | .notStrict => "string_unicode"
  | .notInteger => "int_type"
  | .integerText => "int_parsing"
  | .fractional => "int_from_float"
  | .integerTooLong => "int_parsing_size"
  | .notNumber => "float_type"
  | .numberText => "float_parsing"
  | .notFinite => "finite_number"
  | .notBoolean => "bool_type"
  | .booleanText => "bool_parsing"
  | .notOneOf _ => "enum"
  | .notList => "list_type"
  | .notTuple => "tuple_type"
  | .notMapping => "dict_type"
  | .notRecordOf _ => "model_type"
  | .notAttributes => "model_attributes_type"
  | .noTag => "union_tag_not_found"
  | .unknownTag .. => "union_tag_invalid"
  | .belowMinimum _ => "greater_than_equal"
  | .aboveMaximum _ => "less_than_equal"
  | .tooLong _ => "string_too_long"
  | .tooShort _ => "string_too_short"
  | .patternMismatch _ => "string_pattern_mismatch"
  | .tooMany .. => "too_long"
  | .tooFew .. => "too_short"
  | .notIdentifier => "uuid_type"
  | .identifierText _ => "uuid_parsing"
  | .notMoment => "datetime_type"
  | .momentText _ => "datetime_parsing"
  | .dayText _ => "datetime_from_date_parsing"
  | .notLiteral _ => "literal_error"

def plural (n : Int) (one many : String) : String :=
  Decimal.intText n ++ " " ++ (if n = 1 then one else many)

def message : Cause → String
  | .missing => "Field required"
  | .notText => "Input should be a valid string"
  | .notStrict => "Input should be a valid string, unable to parse raw data as a unicode string"
  | .notInteger => "Input should be a valid integer"
  | .integerText =>
    "Input should be a valid integer, unable to parse string as an integer"
  | .fractional => "Input should be a valid integer, got a number with a fractional part"
  | .integerTooLong =>
    "Unable to parse input string as an integer, exceeded maximum size"
  | .notNumber => "Input should be a valid number"
  | .numberText => "Input should be a valid number, unable to parse string as a number"
  | .notFinite => "Input should be a finite number"
  | .notBoolean => "Input should be a valid boolean"
  | .booleanText => "Input should be a valid boolean, unable to interpret input"
  | .notOneOf choices | .notLiteral choices => "Input should be " ++ choices
  | .notList => "Input should be a valid list"
  | .notTuple => "Input should be a valid tuple"
  | .notMapping => "Input should be a valid dictionary"
  | .notRecordOf name => "Input should be a valid dictionary or instance of " ++ name
  | .notAttributes => "Input should be a valid dictionary or object to extract fields from"
  | .noTag => "Unable to extract tag using discriminator 'kind'"
  | .unknownTag tag choices =>
    "Input tag '" ++ tag ++ "' found using 'kind' does not match any of the expected tags: " ++
      choices
  | .belowMinimum bound => "Input should be greater than or equal to " ++ bound
  | .aboveMaximum bound => "Input should be less than or equal to " ++ bound
  | .tooLong n => "String should have at most " ++ plural n "character" "characters"
  | .tooShort n => "String should have at least " ++ plural n "character" "characters"
  | .patternMismatch pattern => "String should match pattern '" ++ pattern ++ "'"
  | .tooMany n count =>
    "List should have at most " ++ plural n "item" "items" ++ " after validation, not " ++
      Decimal.natText count
  | .tooFew n count =>
    "List should have at least " ++ plural n "item" "items" ++ " after validation, not " ++
      Decimal.natText count
  | .notIdentifier => "UUID input should be a string, bytes or UUID object"
  | .identifierText fault => "Input should be a valid UUID, " ++ fault.message
  | .notMoment => "Input should be a valid datetime"
  | .momentText fault => "Input should be a valid datetime, " ++ fault.message
  | .dayText fault => "Input should be a valid datetime or date, " ++ fault.message

end Cause

/-- A cause and the way to it, outermost key first. -/
structure Finding where
  place : List String
  cause : Cause
deriving DecidableEq

namespace Finding

def under (key : String) (f : Finding) : Finding :=
  { f with place := key :: f.place }

def path (f : Finding) : String :=
  String.intercalate "." f.place

end Finding

/-- The result of a check: a value, or everything that is wrong. -/
inductive Checked (α : Type)
  | ok (value : α)
  | bad (findings : List Finding)

namespace Checked

variable {α β : Type}

def map (f : α → β) : Checked α → Checked β
  | .ok a => .ok (f a)
  | .bad fs => .bad fs

def both (f : Checked (α → β)) (x : Checked α) : Checked β :=
  match f, x with
  | .ok f, .ok a => .ok (f a)
  | .ok _, .bad fs => .bad fs
  | .bad fs, .ok _ => .bad fs
  | .bad fs, .bad gs => .bad (fs ++ gs)

instance : Functor Checked where
  map f x := x.map f

instance : Applicative Checked where
  pure := .ok
  seq f x := both f (x ())

/-- The next check runs on a value only. -/
def andThen (x : Checked α) (f : α → Checked β) : Checked β :=
  match x with
  | .ok a => f a
  | .bad fs => .bad fs

def fail (cause : Cause) : Checked α :=
  .bad [⟨[], cause⟩]

def under (key : String) : Checked α → Checked α
  | .ok a => .ok a
  | .bad fs => .bad (fs.map (.under key))

def all : List (Checked α) → Checked (List α)
  | [] => .ok []
  | x :: xs => both (x.map List.cons) (all xs)

def findings : Checked α → List Finding
  | .ok _ => []
  | .bad fs => fs

def toExcept : Checked α → Except (List Finding) α
  | .ok a => .ok a
  | .bad fs => .error fs

end Checked

end TenantStore
