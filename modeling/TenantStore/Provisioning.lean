import TenantStore.ControlPlane
import TenantStore.Namespace
import TenantStore.Sql.Ddl

/-!
# Provisioning a table

One attempt checks whether the table is there and makes it if it is not: first the tenant's
namespace, then the table with its statements and its descriptor. A check that fails counts as a
missing table.
-/

namespace TenantStore

def Program.ofTraced {Q A α : Type} (t : Traced α) : Program Q A α :=
  t.lines.foldr .log (.done t.result)

namespace Provisioning

def logger : String := "tenantdb.services.provisioning"

def info (message : RawText) : LogLine := ⟨.info, logger, message⟩

def warning (message : RawText) : LogLine := ⟨.warning, logger, message⟩

def debugLine (message : RawText) : LogLine := ⟨.debug, logger, message⟩

/-- Whether the table is there; an error of the store's own counts as no. -/
def isThere (c : ControlPlane) (ns table : String) : Remote Bool :=
  (c.checkTable ns table).andThen fun
    | .error (.store e) =>
      .log (warning ("Could not check table " ++ ns ++ "." ++ table ++
        ", treating it as missing: " ++ e.message)) (.done (.ok false))
    | r => .done r

def make (c : ControlPlane) (ns table : String) (t : Table) : Remote Unit := do
  c.ensureSchema ns
  let ddl ← Program.ofTraced (Sql.ddlOf table t)
  let descriptor ← Program.done t.toDescriptor
  c.ensureTable ns table ddl (.object descriptor)

def attempt (c : ControlPlane) (ns table : String) (t : Table) : Remote Unit := do
  let key := Namespace.tableKey ns table
  if ← isThere c ns table then
    .note (info ("Table " ++ key ++ " already exists"))
  else
    .note (info ("Creating table " ++ key))
    make c ns table t
    .note (info ("Table " ++ key ++ " created"))

end Provisioning

end TenantStore
