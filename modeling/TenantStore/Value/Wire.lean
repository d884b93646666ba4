import TenantStore.Value.Display

/-!
# Values on the wire

A value is sent as text, numbers, booleans, null, lists and mappings with text keys. Times, days
and identifiers are sent as their text, and a number that has no digits as null.
-/

namespace TenantStore.Value

mutual
def wireKey : Value → String
  | .bool b => if b then "true" else "false"
  | .datetime t => t.wireText
  | .tuple items => String.intercalate "," (wireKeys items)
  | v => v.plain

def wireKeys : List Value → List String
  | [] => []
  | v :: vs => wireKey v :: wireKeys vs
end

/-- Entries under their text keys; of two equal keys the last one wins, in the place of the
first. -/
def mergeEntries (es : List (String × Value)) : List (Value × Value) :=
  es.foldl (fun m e => insert (.text e.1) e.2 m) []

mutual
def wire : Value → Value
  | .float x => if x.isFinite then .float x else .null
  | .list items | .tuple items => .list (wireItems items)
  | .map entries => .map (mergeEntries (wireEntries entries))
  | .datetime t => .text t.wireText
  | .date d => .text d.text
  | .uuid u => .text u.text
  | v => v

def wireItems : List Value → List Value
  | [] => []
  | v :: vs => wire v :: wireItems vs

def wireEntries : List (Value × Value) → List (String × Value)
  | [] => []
  | (k, v) :: es => (wireKey k, wire v) :: wireEntries es
end

end TenantStore.Value
