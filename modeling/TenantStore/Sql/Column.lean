import TenantStore.Field
import TenantStore.Log
import TenantStore.Naming
import TenantStore.Sql.Literal

/-!
# Columns

The column that holds a field: its type, whether it takes null, and its default. A default makes a
column not null unless the field is nullable or the default is null itself.
-/

namespace TenantStore.Sql

inductive ColumnType
  | text
  | varchar
  | integer
  | numeric
  | boolean
  | timestamp
  | jsonb
  | uuid
deriving DecidableEq

def ColumnType.name : ColumnType → String
  | .text => "TEXT"
  | .varchar => "VARCHAR"
  | .integer => "INTEGER"
  | .numeric => "NUMERIC"
  | .boolean => "BOOLEAN"
  | .timestamp => "TIMESTAMP WITH TIME ZONE"
  | .jsonb => "JSONB"
  | .uuid => "UUID"

def ColumnType.all : List ColumnType :=
  [.text, .varchar, .integer, .numeric, .boolean, .timestamp, .jsonb, .uuid]

def ColumnType.ofName? (name : String) : Option ColumnType :=
  all.find? fun t => t.name == name

structure Column where
  name : String
  type : ColumnType
  nullable : Bool
  default : Option String
  primaryKey : Bool
  unique : Bool
  length : Option Int
  index : Bool
deriving DecidableEq

namespace Column

def plain (name : String) (type : ColumnType) (nullable : Bool) : Column :=
  ⟨name, type, nullable, none, false, false, none, false⟩

def sqlType (c : Column) : String :=
  match c.type, c.length with
  | .varchar, some n => "VARCHAR(" ++ Decimal.intText n ++ ")"
  | t, _ => t.name

/-- Texts bounded at or below this length get a type with a length. -/
def maxVarcharLength : Int := 255

def typeOf : Field → ColumnType × Option Int
  | .text _ r =>
    if r.isUuid then (.uuid, none)
    else match r.maxLength with
      | some n => if n ≤ maxVarcharLength then (.varchar, some n) else (.text, none)
      | none => (.text, none)
  | .number _ r => (if r.isInteger then .integer else .numeric, none)
  | .boolean _ => (.boolean, none)
  | .date _ => (.timestamp, none)
  | .object .. | .array .. | .record .. => (.jsonb, none)
  | .choice .. | .literal .. => (.text, none)

def deferredSql : Deferred → String
  | .now => "NOW()"
  | .uuid => "gen_random_uuid()"

def defaultSql (m : Modifiers) : Except Json.WriteFault (Option String) :=
  if !m.hasDefault then .ok none
  else if m.nullDefault then .ok (some "NULL")
  else match m.deferred with
    | some d => .ok (some (deferredSql d))
    | none => (literal m.default).map some

def nullableOf (m : Modifiers) : Bool :=
  if m.hasDefault then m.nullDefault || m.nullable else m.isOptional || m.nullable

def withType (name : String) (type : ColumnType × Option Int) (m : Modifiers) :
    Except Json.WriteFault Column := do
  let default ← defaultSql m
  return ⟨name, type.1, nullableOf m, default, false, false, type.2, Naming.isIndexed name⟩

def ofField (name : String) (f : Field) : Except Json.WriteFault Column :=
  withType name (typeOf f) f.modifiers

def noMapping (name kind : String) : LogLine :=
  ⟨.warning, "tenantdb.services.type_mapping",
    "No column mapping for field " ++ Text.quoted name ++ " of kind " ++ Text.quoted kind ++
      "; falling back to TEXT"⟩

/-- A default without SQL is a fault of the caller. -/
def orUnwritten {α : Type} (r : Except Json.WriteFault α) : Except Failure α :=
  r.mapError .unwritten

/-- The column of a declaration; what is not known to the store is kept as text. -/
def ofDeclaration (name : String) : Declaration → Traced Column
  | .field f => .ofExcept (orUnwritten (ofField name f))
  | .unknown kind m =>
    ⟨[noMapping name kind], orUnwritten (withType name (.text, none) m)⟩
  | .foreign v => ⟨[noMapping name v.kindName], .error .notAnObject⟩

def render (c : Column) : String :=
  let key := if c.primaryKey then ["PRIMARY KEY"] else if c.nullable then [] else ["NOT NULL"]
  let default := match c.default with
    | some d => ["DEFAULT " ++ d]
    | none => []
  let unique := if c.unique && !c.primaryKey then ["UNIQUE"] else []
  String.intercalate " " ([quoteIdent c.name, c.sqlType] ++ key ++ default ++ unique)

end Column

end TenantStore.Sql
