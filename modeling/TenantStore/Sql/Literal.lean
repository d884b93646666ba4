import TenantStore.Json.Writer
import TenantStore.Sql.Quoting

/-!
# SQL literals

The text of a value in a column default. Lists and mappings are JSON in a quoted literal with a
cast; what is neither a number, a boolean nor text is quoted.
-/

namespace TenantStore.Sql

/-- A type of texts that can stand in quotes. -/
class Quotable (τ : Type) extends Textual τ where
  quote : τ → τ

instance : Quotable String := ⟨quoteLiteral⟩

instance : Quotable RawText := ⟨fun t => ⟨quoteChars (.char '\'') t.points⟩⟩

open Quotable (quote)

/-- The literal of a value; it fails only where a list or mapping has no JSON text, or an integer is
too long. -/
def literal {τ : Type} [Quotable τ] (v : Value τ) : Except Json.WriteFault τ :=
  let ofString : String → τ := Textual.ofString
  match v with
  | .bool b => .ok (ofString (if b then "TRUE" else "FALSE"))
  | .int i => (Json.integerChars i).map fun cs => ofString (String.ofList cs)
  | .float x => .ok (ofString (NumberStyle.literal.text x))
  | .text s => .ok (quote s)
  | .datetime t => .ok (quote (ofString t.isoText))
  | .date d => .ok (quote (ofString d.text))
  | .list _ | .tuple _ | .map _ => do
    let encoded ← Json.write .lenient v
    return ofString (quoteLiteral (String.ofList encoded) ++ "::jsonb")
  | .null => .ok (quote (ofString "None"))
  | .uuid u => .ok (quote (ofString u.text))

end TenantStore.Sql
