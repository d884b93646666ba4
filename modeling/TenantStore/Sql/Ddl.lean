import TenantStore.Sql.Definition

/-!
# Statements for a table

The statements that make a table where it is not there yet: the table with its constraints, its
indexes, and the trigger that keeps the time of the last change.
-/

namespace TenantStore.Sql

def updatedAtFunction : String := "update_updated_at_column"

namespace Definition

def body (d : Definition) : String :=
  String.intercalate ",\n    " (d.columns.map Column.render ++
    d.constraints.map fun c => "CONSTRAINT " ++ quoteIdent c.name ++ " " ++ c.definition)

def indexStatement (table : String) (i : Index) : String :=
  "CREATE " ++ (if i.unique then "UNIQUE " else "") ++ "INDEX IF NOT EXISTS " ++
    quoteIdent i.name ++ " ON " ++ quoteIdent table ++ " (" ++
    String.intercalate ", " (i.columns.map quoteIdent) ++ ");"

def indexStatements (d : Definition) : String :=
  if d.indexes.isEmpty then ""
  else "\n\n" ++ String.intercalate "\n" (d.indexes.map (indexStatement d.name))

def functionStatement : String :=
  "\n\n-- Keep updated_at current on every row update\n" ++
  "CREATE OR REPLACE FUNCTION " ++ updatedAtFunction ++ "()\n" ++
  "RETURNS TRIGGER AS $$\n" ++
  "BEGIN\n" ++
  "    NEW.updated_at = NOW();\n" ++
  "    RETURN NEW;\n" ++
  "END;\n" ++
  "$$ LANGUAGE plpgsql;\n\n"

def triggerStatements (table : String) : String :=
  let trigger := quoteIdent ("update_" ++ table ++ "_updated_at")
  "DROP TRIGGER IF EXISTS " ++ trigger ++ " ON " ++ quoteIdent table ++ ";\n" ++
  "CREATE TRIGGER " ++ trigger ++ "\n" ++
  "    BEFORE UPDATE ON " ++ quoteIdent table ++ "\n" ++
  "    FOR EACH ROW EXECUTE FUNCTION " ++ updatedAtFunction ++ "();"

/-- All statements, in the order in which they have to run. -/
def ddl (d : Definition) : String :=
  "CREATE TABLE IF NOT EXISTS " ++ quoteIdent d.name ++ " (\n    " ++ d.body ++ "\n);" ++
    d.indexStatements ++ functionStatement ++ triggerStatements d.name

end Definition

def ddlOf (name : String) (t : Table) : Traced String := do
  let d ← Definition.ofTable name t
  return d.ddl

end TenantStore.Sql
