import TenantStore.Query
import TenantStore.Retry
import TenantStore.Settings.EnvFile

/-!
# Settings

Who the tenant is, how to reach the control plane and how often to try. Settings come from
arguments, from the environment and from a file, in this order; environment and file name them
with a lead and in any case. All of them have defaults.
-/

namespace TenantStore

inductive Mode
  | production
  | development
  | onThisMachine
deriving DecidableEq

namespace Mode

def name : Mode → String
  | .production => "production"
  | .development => "development"
  | .onThisMachine => "local"

def all : List Mode := [.production, .development, .onThisMachine]

def ofValue : Value → Checked Mode :=
  Coercion.oneOf (all.map fun m => (m.name, m))

end Mode

structure Settings where
  appId : String
  companyId : String
  companyToken : String
  apiKey : String
  apiBaseUrl : String
  mode : Mode
  requestTimeout : Binary64
  retryMaxAttempts : Int
  retryBackoffMs : Int
  debug : Bool

namespace Settings

def defaultUrl : String :=
  "https://metrics-hub-six.vercel.app"

def defaultTimeout : Binary64 := .ofNat 30

def ofMembers (es : List (Value × Value)) : Checked Settings :=
  let text (key default : String) := Checked.optional es key default Coercion.text
  Settings.mk <$> text "app_id" "" <*> text "company_id" "" <*> text "company_token" "" <*>
    text "api_key" "" <*> text "api_base_url" defaultUrl <*>
    Checked.optional es "mode" .production Mode.ofValue <*>
    Checked.optional es "request_timeout_s" defaultTimeout Coercion.float <*>
    Checked.optional es "retry_max_attempts" 3 Coercion.int <*>
    Checked.optional es "retry_backoff_ms" 200 Coercion.int <*>
    Checked.optional es "debug" false Coercion.bool

def names : List String :=
  ["app_id", "company_id", "company_token", "api_key", "api_base_url", "mode",
    "request_timeout_s", "retry_max_attempts", "retry_backoff_ms", "debug"]

def lead : List Char :=
  "tenantdb_".toList

def lowered (s : String) : List Char :=
  s.toList.map Text.lowerAscii

/-- The value of a setting among named texts; of several spellings the last one counts. -/
def outside? (texts : List (String × Option String)) (name : String) : Option String :=
  ((texts.filter fun e => lowered e.1 = lead ++ name.toList).getLast?.map (·.2)).join

def sourced? (arguments : List (String × Value)) (environment file : List (String × Option String))
    (name : String) : Option Value :=
  (arguments.lookup name).or
    (((outside? environment name).or (outside? file name)).map .text)

def load (arguments : List (String × Value)) (environment : List (String × String))
    (file : String) : Except Failure Settings :=
  let fromFile := EnvFile.read environment file
  let fromEnvironment := environment.map fun (k, v) => (k, some v)
  let es := names.filterMap fun name =>
    (sourced? arguments fromEnvironment fromFile name).map fun v => (Value.text name, v)
  (ofMembers es).toExcept.mapError .invalid

def policy (s : Settings) : RetryPolicy :=
  ⟨s.retryMaxAttempts, s.retryBackoffMs⟩

/-- The address of an endpoint; one slash stands between its parts. -/
def endpointUrl (s : Settings) (endpoint : String) : String :=
  let base := String.ofList ((s.apiBaseUrl.toList.reverse.dropWhile (· == '/')).reverse)
  let path := String.ofList (endpoint.toList.dropWhile (· == '/'))
  base ++ "/api/proxy/sdk/" ++ s.mode.name ++ "/" ++ path

end Settings

end TenantStore
