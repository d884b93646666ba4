import TenantStore.Field
import TenantStore.Time.Iso
import TenantStore.Uuid

/-!
# Made values

The values that are made while a row is written: a time and an identifier for every place that asks
for one.
-/

namespace TenantStore

structure Supply where
  now : List String → DateTime
  id : List String → Uuid

namespace Supply

def under (key : String) (s : Supply) : Supply :=
  ⟨fun place => s.now (key :: place), fun place => s.id (key :: place)⟩

/-- The text that a deferred default stands for at this place. -/
def make (s : Supply) : Deferred → String
  | .now => (s.now []).isoText
  | .uuid => (s.id []).text

end Supply

end TenantStore
