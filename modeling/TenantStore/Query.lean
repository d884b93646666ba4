import TenantStore.Assoc
import TenantStore.Coercion
import TenantStore.Value.Wire

/-!
# Queries

A query reads or changes the rows that meet all of its conditions. Options and conditions are read
leniently from mappings; what they do not know is ignored. They are sent as mappings again.
-/

namespace TenantStore

inductive Operation
  | select
  | insert
  | update
  | delete
deriving DecidableEq

def Operation.name : Operation → String
  | .select => "select"
  | .insert => "insert"
  | .update => "update"
  | .delete => "delete"

inductive Operator
  | eq
  | neq
  | gt
  | gte
  | lt
  | lte
  | like
  | ilike
  | among
  | is
  | negated
deriving DecidableEq

namespace Operator

def name : Operator → String
  | .eq => "eq"
  | .neq => "neq"
  | .gt => "gt"
  | .gte => "gte"
  | .lt => "lt"
  | .lte => "lte"
  | .like => "like"
  | .ilike => "ilike"
  | .among => "in"
  | .is => "is"
  | .negated => "not"

def all : List Operator :=
  [.eq, .neq, .gt, .gte, .lt, .lte, .like, .ilike, .among, .is, .negated]

def ofValue : Value → Checked Operator :=
  Coercion.oneOf (all.map fun o => (o.name, o))

end Operator

inductive Direction
  | ascending
  | descending
deriving DecidableEq

namespace Direction

def name : Direction → String
  | .ascending => "asc"
  | .descending => "desc"

def all : List Direction := [.ascending, .descending]

def ofValue : Value → Checked Direction :=
  Coercion.oneOf (all.map fun d => (d.name, d))

end Direction

def Checked.required {α : Type} (entries : List (Value × Value)) (key : String)
    (check : Value → Checked α) : Checked α :=
  (match Value.field? key entries with
    | some v => check v
    | none => .fail .missing).under key

def Checked.optional {τ α : Type} [DecidableEq τ] [Textual τ] (entries : List (Value τ × Value τ))
    (key : String) (default : α) (check : Value τ → Checked α) : Checked α :=
  match Value.field? key entries with
  | some v => (check v).under key
  | none => .ok default

structure Condition where
  column : String
  operator : Operator
  value : Value

namespace Condition

def ofEntries (es : List (Value × Value)) : Checked Condition :=
  Condition.mk <$> Checked.required es "column" Coercion.text <*>
    Checked.optional es "operator" .eq Operator.ofValue <*>
    Checked.optional es "value" .null .ok

def ofValue : Value → Checked Condition
  | .map es => ofEntries es
  | _ => .fail (.notRecordOf "WhereCondition")

/-- A condition as it is sent, its value included even if that is null. -/
def toValue (c : Condition) : Value :=
  .object [("column", .text c.column), ("operator", .text c.operator.name), ("value", c.value.wire)]

/-- A condition as it is sent among options, where a null value is left out. -/
def toOption (c : Condition) : Value :=
  .object ([("column", .text c.column), ("operator", .text c.operator.name)] ++
    match c.value with
    | .null => []
    | v => [("value", v.wire)])

end Condition

structure Order where
  column : String
  direction : Direction

namespace Order

def ofValue : Value → Checked Order
  | .map es => Order.mk <$> Checked.required es "column" Coercion.text <*>
      Checked.optional es "direction" .ascending Direction.ofValue
  | _ => .fail (.notRecordOf "OrderBy")

def toValue (o : Order) : Value :=
  .object [("column", .text o.column), ("direction", .text o.direction.name)]

end Order

inductive Selection
  | text (s : String)
  | columns (names : List String)

namespace Selection

/-- If a value is neither a text nor a list of texts, the findings of both readings count. -/
def ofValue : Value → Checked Selection
  | .text s => .ok (.text s)
  | v => match Coercion.list Coercion.text v with
    | .ok names => .ok (.columns names)
    | .bad fs => .bad (⟨["str"], .notText⟩ :: fs.map (.under "list[str]"))

def toValue : Selection → Value
  | .text s => .text s
  | .columns names => .list (names.map .text)

end Selection

structure QueryOptions where
  select : Option Selection
  conditions : Option (List Condition)
  orders : Option (List Order)
  limit : Option Nat
  offset : Option Nat

namespace QueryOptions

def empty : QueryOptions :=
  ⟨.none, .none, .none, .none, .none⟩

def rowCount (v : Value) : Checked Nat :=
  (Coercion.int v).andThen fun i =>
    if 0 ≤ i then .ok i.toNat else .fail (.belowMinimum "0")

/-- The key under which orders are given; the name on the wire goes first. -/
def orderKey (es : List (Value × Value)) : String :=
  if (Value.field? "orderBy" es).isSome then "orderBy" else "order_by"

def ofEntries (es : List (Value × Value)) : Checked QueryOptions :=
  let member {α : Type} (key : String) (check : Value → Checked α) :=
    Checked.optional es key .none (Coercion.nullable check)
  QueryOptions.mk <$> member "select" Selection.ofValue <*>
    member "where" (Coercion.list Condition.ofValue) <*>
    member (orderKey es) (Coercion.list Order.ofValue) <*>
    member "limit" rowCount <*> member "offset" rowCount

def ofValue : Value → Checked QueryOptions
  | .map es => ofEntries es
  | _ => .fail (.notRecordOf "QueryOptions")

def entryOf (key : String) : Option Value → List (String × Value)
  | .none => []
  | some v => [(key, v)]

/-- The options as they are sent; what is not set is left out. -/
def toRequest (o : QueryOptions) : List (String × Value) :=
  entryOf "select" (o.select.map Selection.toValue) ++
    entryOf "where" (o.conditions.map fun cs => .list (cs.map Condition.toOption)) ++
    entryOf "orderBy" (o.orders.map fun os => .list (os.map Order.toValue)) ++
    entryOf "limit" (o.limit.map fun n => .int n) ++
    entryOf "offset" (o.offset.map fun n => .int n)

end QueryOptions

end TenantStore
