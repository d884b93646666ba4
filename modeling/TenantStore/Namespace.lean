import TenantStore.Sql.Quoting
import TenantStore.Text.Ascii

/-!
# Tenant namespaces

Every tenant, an application of a company, has a namespace of its own in the remote store.
-/

namespace TenantStore.Namespace

/-- Characters that need no quoting stay; any other becomes an underscore. -/
def sanitize (s : String) : List Char :=
  s.toList.map fun c => if Text.isAsciiWord c then c else '_'

/-- The namespace of a tenant; the application counts in lower case, and a tenant without a
company belongs to an unknown one. -/
def ofTenant (app : String) (company : Option String) : String :=
  let company := match company with
    | none | some "" => "unknown"
    | some c => c
  String.ofList ("app_".toList ++ (sanitize app).map Text.lowerAscii ++ "_company_".toList ++
    sanitize company)

def createStatement (ns : String) : String :=
  "CREATE SCHEMA IF NOT EXISTS " ++ Sql.quoteIdent ns ++ ";"

def tableKey (ns table : String) : String :=
  ns ++ "." ++ table

end TenantStore.Namespace
