/-!
# SQL quoting

A quoted name or string doubles the quote that it stands in; nothing else is escaped.
-/

namespace TenantStore.Sql

/-- The text with every occurrence of the mark doubled, between two marks. -/
def quoteChars {α : Type} [DecidableEq α] (mark : α) (cs : List α) : List α :=
  mark :: cs.flatMap (fun c => if c = mark then [mark, mark] else [c]) ++ [mark]

def quoteLiteral (text : String) : String :=
  String.ofList (quoteChars '\'' text.toList)

def quoteIdent (name : String) : String :=
  String.ofList (quoteChars '"' name.toList)

end TenantStore.Sql
