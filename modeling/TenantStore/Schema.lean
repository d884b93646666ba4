import TenantStore.Table
import TenantStore.Text.Ascii

/-!
# Schemas

A schema is a set of named tables with a version. Definition checks names, the kinds of the
standard columns, and every field down to the last level: a default has to be a finite number if
it is a float, and a choice needs something to choose.
-/

namespace TenantStore

inductive SchemaFault
  | tableName (table : String)
  | columnName (column table : String)
  | identity (table : String)
  | timestamp (column table : String)
  | notAField (path : String)
  | notFinite (path : String)
  | noChoice (path : String)
  | unknownTable (table : String)
deriving DecidableEq

def SchemaFault.message : SchemaFault → String
  | .tableName table => "Invalid table name " ++ Text.quoted table
  | .columnName column table =>
    "Invalid field name " ++ Text.quoted column ++ " in table " ++ Text.quoted table
  | .identity table => "Field 'id' in table " ++ Text.quoted table ++ " must be a UUID string"
  | .timestamp column table =>
    "Field " ++ Text.quoted column ++ " in table " ++ Text.quoted table ++ " must be a date"
  | .notAField path => path ++ " is not a field schema"
  | .notFinite path => path ++ " default must be a finite number"
  | .noChoice path => path ++ " enum needs at least one value"
  | .unknownTable table => "Unknown table " ++ Text.quoted table

namespace Schema

/-- A letter or underscore, then letters, digits and underscores; a line feed may end the name. -/
def isName (s : String) : Bool :=
  match s.toList with
  | [] => false
  | c :: cs =>
    (Text.isAsciiLetter c || c == '_') &&
      match cs.dropWhile Text.isAsciiWord with
      | [] => true
      | rest => rest == ['\n']

/-- A default that is a float without digits. -/
def badDefault (m : Modifiers) : Bool :=
  match m.default with
  | .float x => !x.isFinite
  | _ => false

mutual
def fieldFault? (path : String) (f : Field) : Option SchemaFault :=
  if badDefault f.modifiers then some (.notFinite path)
  else match f with
    | .choice _ values => if values.isEmpty then some (.noChoice path) else none
    | .object _ shape => shapeFault? path shape
    | .array _ element _ => fieldFault? (path ++ "[]") element
    | .record _ value => fieldFault? (path ++ "\x7b\x7d") value
    | _ => none

def shapeFault? (path : String) : List (String × Field) → Option SchemaFault
  | [] => none
  | (name, f) :: rest =>
    match fieldFault? (path ++ "." ++ name) f with
    | some fault => some fault
    | none => shapeFault? path rest
end

def declarationFault? (path : String) : Declaration → Option SchemaFault
  | .field f => fieldFault? path f
  | .unknown _ m => if badDefault m then some (.notFinite path) else none
  | .foreign _ => some (.notAField path)

def isIdentity : Declaration → Bool
  | .field (.text _ r) => r.isUuid
  | _ => false

def isDate : Declaration → Bool
  | .field (.date _) => true
  | _ => false

def columnFault? (table : String) (name : String) (d : Declaration) : Option SchemaFault :=
  if !isName name then some (.columnName name table)
  else if name = primaryKey ∧ !isIdentity d then some (.identity table)
  else if timestampColumns.contains name && !isDate d then some (.timestamp name table)
  else declarationFault? (table ++ "." ++ name) d

def tableFault? (name : String) (t : Table) : Option SchemaFault :=
  if !isName name then some (.tableName name)
  else t.columns.findSome? fun (column, d) => columnFault? name column d

end Schema

/-- Named tables, each name once, and a version. -/
structure Schema where
  tables : List (String × Table)
  version : Int
  distinct : (Assoc.keys tables).Nodup

namespace Schema

/-- The schema of these tables, or the first fault in the order of the tables. -/
def define (tables : List (String × Table)) (version : Int) : Except SchemaFault Schema :=
  match (Assoc.ofList tables).findSome? fun (name, t) => tableFault? name t with
  | some fault => .error fault
  | none => .ok ⟨Assoc.ofList tables, version, Assoc.nodup_keys_ofList tables⟩

def table (s : Schema) (name : String) : Except SchemaFault Table :=
  match Assoc.get? name s.tables with
  | some t => .ok t
  | none => .error (.unknownTable name)

end Schema

def SchemaFault.failure (fault : SchemaFault) : Failure :=
  .definition fault.message

end TenantStore
