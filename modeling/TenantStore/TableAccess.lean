import TenantStore.Counting
import TenantStore.Row
import TenantStore.Session

/-!
# Access to a table

Reading and writing the rows of one table. Payloads, options and conditions are checked first;
what is rejected sends nothing. Then the table is made sure of, and one query is sent.
-/

namespace TenantStore

/-- An argument that is made already, or a value to read it from. -/
inductive Given (α : Type)
  | made (a : α)
  | raw (v : Value)

/-- Conditions one by one, or a value that is made of them. -/
inductive GivenConditions
  | each (cs : List (Given Condition))
  | raw (v : Value)

structure TableAccess where
  name : String
  table : Table
  plane : ControlPlane
  ns : String

namespace TableAccess

def display (a : TableAccess) : String :=
  "TableOperations(" ++ Text.quoted a.name ++ ")"

/-! ## Arguments -/

def rejectedUnder {α : Type} (a : TableAccess) (lead : String) (c : Checked α) : Except Failure α :=
  c.toExcept.mapError fun fs => .rejected (fs.map (Finding.violation lead)) (some a.name)

def options (a : TableAccess) : Given QueryOptions → Except Failure QueryOptions
  | .made o => .ok o
  | .raw .null => .ok .empty
  | .raw v => a.rejectedUnder "options." (QueryOptions.ofValue v)

def condition (a : TableAccess) : Given Condition → Except Failure Condition
  | .made c => .ok c
  | .raw v => a.rejectedUnder "where." (Condition.ofValue v)

/-- Conditions, up to the first that is none. -/
def conditions (a : TableAccess) : GivenConditions → Except Failure (List Condition)
  | .each cs => cs.mapM a.condition
  | .raw v => match v.members? with
    | some vs => vs.mapM fun v => a.condition (.raw v)
    | none => .error .wrongType

def anyGiven : GivenConditions → Bool
  | .each cs => !cs.isEmpty
  | .raw v => v.truthy

def conditionsValue (cs : List Condition) : Value :=
  .list (cs.map Condition.toValue)

def idCondition (recordId : Value) : List Condition :=
  [⟨primaryKey, .eq, .text recordId.plain⟩]

/-! ## Answers -/

def rows : Data → Data
  | .null => .list []
  | .list vs => .list vs
  | v => .list [v]

def record : Data → Data
  | .list (v :: _) => v
  | .list [] => .null
  | v => v

def countLine (key : String) (data : Data) : LogLine :=
  ⟨.debug, "tenantdb.services.table_operations",
    "Expected " ++ Text.quoted key ++ " in query response, got " ++ data.quoted⟩

/-- A count at a key of the data, or the data itself; anything else counts as zero. -/
def countAt (key : String) (data : Data) : Remote Data :=
  match data with
  | .map es =>
    let v := (Value.field? key es).getD .null
    if v.truthy then .done ((Counting.ofValue v).map .int) else .done (.ok (.int 0))
  | .int i => .done (.ok (.int i))
  | v => .log (countLine key v) (.done (.ok (.int 0)))

/-! ## Queries -/

def explanation (a : Answer) : RawText :=
  let said (text : Option RawText) := text.filter fun t => t ≠ RawText.ofString ""
  match said a.error, said a.message with
  | some e, _ => e
  | none, some m => m
  | none, none => "query failed"

def queryFailure (table : String) (op : Operation) (a : Answer) : Failure :=
  .store (.query (op.name ++ " on " ++ table ++ " failed: " ++ explanation a) (.text op.name)
    (.text table) (.int a.status))

/-- Whether an answer is a failure; where failing is allowed, only an error status is one. -/
def isFailed (allowFailure : Bool) (a : Answer) : Bool :=
  !a.success && (400 ≤ a.status || !allowFailure)

def query (a : TableAccess) (op : Operation) (options : List (String × Value))
    (allowFailure : Bool) (read : Answer → Remote Data) : Remote Data := do
  let answer ← a.plane.query a.ns a.name op.name (.object options)
  if isFailed allowFailure answer then .done (.error (queryFailure a.name op answer))
  else read answer

def call (a : TableAccess) (op : Operation) (options : List (String × Value))
    (allowFailure : Bool) (read : Answer → Remote Data) : Call :=
  .onTable a.name a.table (a.query op options allowFailure read)

def orRejected (c : Except Failure Call) : Call :=
  match c with
  | .ok c => c
  | .error e => .settled (.error e)

def readRows (a : Answer) : Remote Data := return rows a.data

def readRecord (a : Answer) : Remote Data := return record a.data

/-! ## Reading -/

def select (a : TableAccess) (o : Given QueryOptions) : Call :=
  orRejected do
    let o ← a.options o
    return a.call .select o.toRequest false readRows

/-- The first row; whatever limit is given, one row is asked for. -/
def selectOne (a : TableAccess) (o : Given QueryOptions) : Call :=
  orRejected do
    let o ← a.options o
    return a.call .select { o with limit := some 1 }.toRequest false fun answer =>
      return record (rows answer.data)

def count (a : TableAccess) (cs : GivenConditions) : Call :=
  orRejected do
    let picked ← if anyGiven cs then do
        let cs ← a.conditions cs
        pure [("where", conditionsValue cs)]
      else pure []
    return a.call .select (("count", .bool true) :: picked) false fun answer =>
      countAt "count" answer.data

/-! ## Writing -/

section
variable [Pattern.Engine]

def insert (a : TableAccess) (supply : Supply) (payload : Value) : Call :=
  orRejected do
    let row ← Row.insert a.table supply payload (some a.name)
    return a.call .insert [("data", .object row)] false readRecord

/-- Several new rows at once; no rows at all send nothing. -/
def insertMany (a : TableAccess) (supply : Supply) (payloads : Value) : Call :=
  orRejected do
    let some payloads := payloads.members? | throw .wrongType
    let inserted ← Row.insertMany a.table supply payloads (some a.name)
    if inserted.isEmpty then return .settled (.ok (.list []))
    let data := Value.list (inserted.map Value.object)
    return a.call .insert [("data", data), ("multiple", .bool true)] false readRows

def update (a : TableAccess) (supply : Supply) (recordId payload : Value) : Call :=
  orRejected do
    let row ← Row.update a.table supply payload (some a.name)
    return a.call .update
      [("where", conditionsValue (idCondition recordId)), ("data", .object row)] false readRecord

def updateWhere (a : TableAccess) (supply : Supply) (cs : GivenConditions)
    (payload : Value) : Call :=
  orRejected do
    let row ← Row.update a.table supply payload (some a.name)
    let cs ← a.conditions cs
    return a.call .update [("where", conditionsValue cs), ("data", .object row),
      ("returnAll", .bool true)] false readRows

end

/-- Whether a record was deleted; a refusal without an error status is no failure. -/
def delete (a : TableAccess) (recordId : Value) : Call :=
  a.call .delete [("where", conditionsValue (idCondition recordId))] true fun answer =>
    return .bool answer.success

def deleteWhere (a : TableAccess) (cs : GivenConditions) : Call :=
  orRejected do
    let cs ← a.conditions cs
    return a.call .delete [("where", conditionsValue cs), ("returnCount", .bool true)] false
      fun answer => countAt "deletedCount" answer.data

end TableAccess

end TenantStore
