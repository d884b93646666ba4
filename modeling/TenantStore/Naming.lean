/-!
# Naming conventions

What the name of a column says about it: whether it refers to a row of another table, to which
table, and whether it is worth an index.
-/

namespace TenantStore

structure Reference where
  table : String
  column : String
deriving DecidableEq

namespace Naming

def relationshipEnding : String := "_id"

/-- Columns that are looked up so often that they always have an index. -/
def indexedNames : List String :=
  ["email", "name", "status", "type", "category", "user_id", "company_id"]

/-- The English plural by four rules; irregular plurals are not known. -/
def pluralize (singular : String) : String :=
  let cs := singular.toList
  if ['y'].isSuffixOf cs then String.ofList cs.dropLast ++ "ies"
  else if ["s", "sh", "ch", "x", "z"].any fun e => e.toList.isSuffixOf cs then singular ++ "es"
  else singular ++ "s"

def isRelationship (name : String) : Bool :=
  name != "id" && relationshipEnding.toList.isSuffixOf name.toList

def stem (name : String) : String :=
  String.ofList (name.toList.take (name.length - relationshipEnding.length))

/-- The column that a column refers to; companies live in a table of their own. -/
def reference? (name : String) : Option Reference :=
  if name = "company_id" then some ⟨"companies", "id"⟩
  else if isRelationship name && stem name != "" then some ⟨pluralize (stem name), "id"⟩
  else none

def isIndexed (name : String) : Bool :=
  indexedNames.contains name || isRelationship name

end Naming

end TenantStore
