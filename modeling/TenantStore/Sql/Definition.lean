import TenantStore.Sql.Column
import TenantStore.Table

/-!
# Table definitions

A declared table becomes a definition: the primary key, the declared columns without the standard
ones, and the two timestamps; an index for each column that is looked up, and a foreign key for
each column that refers to another table.
-/

namespace TenantStore.Sql

structure Index where
  name : String
  columns : List String
  unique : Bool
deriving DecidableEq

inductive ConstraintKind
  | check
  | foreignKey
  | unique
  | primaryKey
deriving DecidableEq

def ConstraintKind.name : ConstraintKind → String
  | .check => "check"
  | .foreignKey => "foreign_key"
  | .unique => "unique"
  | .primaryKey => "primary_key"

def ConstraintKind.all : List ConstraintKind :=
  [.check, .foreignKey, .unique, .primaryKey]

def ConstraintKind.ofName? (name : String) : Option ConstraintKind :=
  all.find? fun k => k.name == name

structure Constraint where
  name : String
  kind : ConstraintKind
  definition : String
deriving DecidableEq

structure Definition where
  name : String
  columns : List Column
  indexes : List Index
  constraints : List Constraint

namespace Definition

def columnNames (d : Definition) : List String :=
  d.columns.map (·.name)

def column? (d : Definition) (name : String) : Option Column :=
  d.columns.find? fun c => c.name == name

def idColumn : Column :=
  ⟨primaryKey, .uuid, false, some "gen_random_uuid()", true, false, none, false⟩

def timestampColumn (name : String) : Column :=
  ⟨name, .timestamp, false, some "NOW()", false, false, none, false⟩

/-- Every table has these columns whether it declares them or not. -/
def isStandard (name : String) : Bool :=
  name == primaryKey || timestampColumns.contains name

def indexOf? (table : String) (c : Column) : Option Index :=
  if c.index then some ⟨"idx_" ++ table ++ "_" ++ c.name, [c.name], false⟩ else none

def foreignKey? (table name : String) : Option Constraint :=
  (Naming.reference? name).map fun r =>
    ⟨"fk_" ++ table ++ "_" ++ name, .foreignKey,
      "FOREIGN KEY (" ++ quoteIdent name ++ ") REFERENCES " ++ quoteIdent r.table ++
        " (" ++ quoteIdent r.column ++ ")"⟩

def declaredColumns : List (String × Declaration) → Traced (List Column)
  | [] => pure []
  | (name, d) :: rest =>
    if isStandard name then declaredColumns rest
    else do
      let column ← Column.ofDeclaration name d
      let columns ← declaredColumns rest
      return column :: columns

def ofColumns (table : String) (columns : List Column) : Definition where
  name := table
  columns := [idColumn] ++ columns ++ timestampColumns.map timestampColumn
  indexes := columns.filterMap (indexOf? table)
  constraints := columns.filterMap fun c => foreignKey? table c.name

def ofTable (name : String) (t : Table) : Traced Definition := do
  let columns ← declaredColumns t.columns
  return ofColumns name columns

end Definition

end TenantStore.Sql
