import TenantStore.Number.Binary64

/-!
# Requests and replies

What goes over the wire between the store and the control plane.
-/

namespace TenantStore

inductive Endpoint
  | checkTable
  | ensureSchema
  | ensureTable
  | query
deriving DecidableEq

def Endpoint.name : Endpoint → String
  | .checkTable => "check-table"
  | .ensureSchema => "ensure-schema"
  | .ensureTable => "ensure-table"
  | .query => "query"

def Endpoint.all : List Endpoint := [.checkTable, .ensureSchema, .ensureTable, .query]

def Endpoint.ofName? (name : String) : Option Endpoint :=
  Endpoint.all.find? fun e => e.name == name

/-- A posted request; its body is a JSON text, and the timeout counts seconds. -/
structure Request where
  endpoint : Endpoint
  url : String
  headers : List (String × String)
  timeout : Binary64
  body : List Char

/-- What comes back: a response, or the reason that there is none. A response comes to a reader that
has room for so many brackets inside one another. -/
inductive Reply
  | response (status : Nat) (body : List UInt8) (room : Nat)
  | timedOut
  | unreachable (reason : String)
  | tooManyRedirects
  | undecodable

end TenantStore
