import TenantStore.ControlPlane.Answer
import TenantStore.ControlPlane.Exchange
import TenantStore.Json.Writer
import TenantStore.Settings

/-!
# The control plane

The remote service checks for tables, makes namespaces and tables, and answers queries. Checking
and making can be repeated without harm and are retried; a query is sent once.
-/

namespace TenantStore

abbrev Remote (α : Type) := Program Request Reply α

structure ControlPlane where
  settings : Settings
  policy : RetryPolicy

namespace ControlPlane

def ofSettings (s : Settings) : ControlPlane :=
  ⟨s, s.policy⟩

/-- A header that is sent only if it says something. -/
def header (name lead value : String) : List (String × String) :=
  if value = "" then [] else [(name, lead ++ value)]

def headers (s : Settings) : List (String × String) :=
  [("Content-Type", "application/json"), ("X-MetricsHub-App-ID", s.appId)] ++
    header "Authorization" "Bearer " s.companyToken ++
    header "X-MetricsHub-API-Key" "" s.apiKey ++
    header "X-MetricsHub-Company-ID" "" s.companyId

def request (s : Settings) (e : Endpoint) (body : List Char) : Request :=
  ⟨e, s.endpointUrl e.name, headers s, s.requestTimeout, body⟩

def debugLine (message : RawText) : LogLine :=
  ⟨.debug, "tenantdb.services.control_plane", message⟩

def transportFailure (e : Endpoint) (message : String) : Failure :=
  .store (.transport message .null (.object [("endpoint", .text e.name)]))

def concluded (e : Endpoint) : Reply → Remote Answer
  | .response status body room => .done (Answer.ofBody status body room)
  | .timedOut =>
    .log (debugLine ("Control plane call to " ++ e.name ++ " timed out"))
      (.done (.error (transportFailure e ("Timed out calling " ++ e.name))))
  | .unreachable reason =>
    .log (debugLine ("Control plane call to " ++ e.name ++ " failed: " ++ reason))
      (.done (.error (transportFailure e
        ("Could not reach control plane for " ++ e.name ++ ": " ++ reason))))
  | .tooManyRedirects => .done (.error .tooManyRedirects)
  | .undecodable => .done (.error .undecodable)

/-- One request; a body that has no JSON text is not sent. -/
def post (s : Settings) (e : Endpoint) (body : List (String × Value)) : Remote Answer :=
  match Json.write .strict (.object body) with
  | .error fault => .done (.error (.unwritten fault))
  | .ok text => .ask (request s e text) (concluded e)

def failed (message ns : String) (table : Value) (a : Answer) : Failure :=
  .store (.provisioning (message ++ ": " ++ a.errorText) (.text ns) table (.int a.status))

def requireSuccess (message ns : String) (table : Value) (a : Answer) : Remote Unit :=
  .done (if a.success then .ok () else .error (failed message ns table a))

def checkTable (c : ControlPlane) (ns table : String) : Remote Bool := do
  let call : Remote Answer := do
    let a ← post c.settings .checkTable [("namespace", .text ns), ("tableName", .text table)]
    .done (if 400 ≤ a.status then
        .error (failed ("Failed to check table " ++ table) ns (.text table) a)
      else .ok a)
  let a ← call.retry c.policy Failure.isRetryable ("check-table " ++ ns ++ "." ++ table)
  return a.tableExists

def ensureSchema (c : ControlPlane) (ns : String) : Remote Unit :=
  let call : Remote Unit := do
    let a ← post c.settings .ensureSchema [("namespace", .text ns),
      ("appId", .text c.settings.appId), ("companyId", .text c.settings.companyId)]
    requireSuccess ("Failed to create namespace " ++ ns) ns .null a
  call.retry c.policy Failure.isRetryable ("ensure-schema " ++ ns)

def ensureTable (c : ControlPlane) (ns table ddl : String) (descriptor : Value) : Remote Unit :=
  let call : Remote Unit := do
    let a ← post c.settings .ensureTable [("namespace", .text ns), ("tableName", .text table),
      ("ddl", .text ddl), ("schemaDescriptor", descriptor)]
    requireSuccess ("Failed to create table " ++ table) ns (.text table) a
  call.retry c.policy Failure.isRetryable ("ensure-table " ++ ns ++ "." ++ table)

def query (c : ControlPlane) (ns table operation : String) (options : Value) : Remote Answer :=
  post c.settings .query [("namespace", .text ns), ("tableName", .text table),
    ("operation", .text operation), ("options", options)]

end ControlPlane

end TenantStore
