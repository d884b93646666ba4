import TenantStore.Schema
import TenantStore.TableAccess

/-!
# Databases

A database is a schema on a control plane: the tables of the schema by name, in the namespace of
the tenant that the settings name.
-/

namespace TenantStore

structure Database where
  schema : Schema
  settings : Settings

namespace Database

def ns (d : Database) : String :=
  Namespace.ofTenant d.settings.appId (some d.settings.companyId)

def plane (d : Database) : ControlPlane :=
  .ofSettings d.settings

def world (d : Database) (reply : List Request → Request → Reply) : World :=
  ⟨d.plane, d.ns, reply⟩

def tableNames (d : Database) : List String :=
  d.schema.tables.map (·.1)

def access (d : Database) (name : String) (t : Table) : TableAccess :=
  ⟨name, t, d.plane, d.ns⟩

def item (d : Database) (name : String) : Except Failure TableAccess :=
  match Assoc.get? name d.schema.tables with
  | some t => .ok (d.access name t)
  | none => .error (.missingKey name)

/-- The table of a name that is used like a member of the database. -/
def attribute? (d : Database) (name : String) : Except Failure TableAccess :=
  match Assoc.get? name d.schema.tables with
  | some t => .ok (d.access name t)
  | none =>
    .error (.noSuchAttribute ("'Database' has no table or attribute " ++ Text.quoted name))

def provisionAll (d : Database) : Call :=
  .everything d.schema.tables

def ensure (d : Database) (name : String) : Call :=
  match d.schema.table name with
  | .ok t => .onTable name t (.done (.ok .null))
  | .error fault => .settled (.error fault.failure)

def readyLine (d : Database) : LogLine :=
  let tables := match d.tableNames with
    | [] => "(none)"
    | names => String.intercalate ", " names
  ⟨.debug, "tenantdb.client", "Database ready for namespace " ++ d.ns ++ " with tables " ++ tables⟩

def leastLevel (d : Database) (configured : Level) : Level :=
  if d.settings.debug then .debug else configured

end Database

end TenantStore
