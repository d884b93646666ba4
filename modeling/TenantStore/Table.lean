import TenantStore.Assoc
import TenantStore.Field.Descriptor

/-!
# Tables

A table declares its columns by name, in order, each name once.
-/

namespace TenantStore

structure Table where
  columns : List (String × Declaration)
  description : Option String
  distinct : (Assoc.keys columns).Nodup

namespace Table

/-- The table with these declarations; a repeated name keeps its place and takes the last one. -/
def ofList (columns : List (String × Declaration)) (description : Option String) : Table :=
  ⟨Assoc.ofList columns, description, Assoc.nodup_keys_ofList columns⟩

def names (t : Table) : List String :=
  Assoc.keys t.columns

def display (t : Table) : String :=
  "TableSchema(" ++ (Value.list (t.names.map .text)).quoted ++ ")"

def toDescriptor (t : Table) : Except Failure (List (String × Value)) :=
  t.columns.mapM fun (name, d) => do return (name, ← d.toDescriptor)

def column (key : Value) (f : Field) : Except Failure (String × Declaration) :=
  match key with
  | .text name => .ok (name, .field f)
  | _ => .error .notAnObject

def ofDescriptor (v : Value) : Except Failure Table :=
  match v with
  | .map es => do
    let fields ← Field.shapeOfDescriptors es
    let columns ← fields.mapM fun (k, f) => column k f
    return ofList columns none
  | _ => .error .notAnObject

end Table

def primaryKey : String := "id"

def timestampColumns : List String := ["created_at", "updated_at"]

end TenantStore
