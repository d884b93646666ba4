import TenantStore.Number.Shortest
import TenantStore.Text.Quoted
import TenantStore.Time.Iso
import TenantStore.Value

/-!
# Values in messages

The quoted form shows a value so that its kind can be told; the plain form of text is the text
itself, and that of a date, a time or an identifier is its usual text.
-/

namespace TenantStore.Value

def zoneChars (offset : Int) : String :=
  if offset = 0 then "datetime.timezone.utc"
  else
    let days := offset.fdiv 86400
    let seconds := Decimal.intText (offset.fmod 86400)
    let span := if days = 0 then "" else "days=" ++ Decimal.intText days ++ ", "
    "datetime.timezone(datetime.timedelta(" ++ span ++ "seconds=" ++ seconds ++ "))"

def dateParts (d : Date) : List String :=
  [d.year, d.month, d.day].map Decimal.natText

def datetimeText (t : DateTime) : String :=
  let c := t.clock
  let seconds := if c.second = 0 ∧ c.microsecond = 0 then [] else [Decimal.natText c.second]
  let micros := if c.microsecond = 0 then [] else [Decimal.natText c.microsecond]
  let zone := (t.offset.map fun o => ["tzinfo=" ++ zoneChars o.seconds]).getD []
  "datetime.datetime(" ++ String.intercalate ", "
    (dateParts t.date ++ [c.hour, c.minute].map Decimal.natText ++ seconds ++ micros ++ zone) ++ ")"

section
variable {τ : Type} [Textual τ]

mutual
def quoted : Value τ → String
  | .null => "None"
  | .bool true => "True"
  | .bool false => "False"
  | .int i => Decimal.intText i
  | .float x => NumberStyle.literal.text x
  | .text s => Text.quotedRaw (Textual.raw s)
  | .list items => "[" ++ String.intercalate ", " (quotedItems items) ++ "]"
  | .tuple [x] => "(" ++ quoted x ++ ",)"
  | .tuple items => "(" ++ String.intercalate ", " (quotedItems items) ++ ")"
  | .map entries => "\x7b" ++ String.intercalate ", " (quotedEntries entries) ++ "\x7d"
  | .datetime t => datetimeText t
  | .date d => "datetime.date(" ++ String.intercalate ", " (dateParts d) ++ ")"
  | .uuid u => "UUID('" ++ u.text ++ "')"

def quotedItems : List (Value τ) → List String
  | [] => []
  | x :: xs => quoted x :: quotedItems xs

def quotedEntries : List (Value τ × Value τ) → List String
  | [] => []
  | (k, v) :: es => (quoted k ++ ": " ++ quoted v) :: quotedEntries es
end

end

def plain : Value → String
  | .text s => s
  | .datetime t => t.plainText
  | .date d => d.text
  | .uuid u => u.text
  | v => quoted v

def placeName : Value → String
  | .text s => s
  | .bool b => if b then "1" else "0"
  | v => quoted v

def kindName : Value → String
  | .null => "NoneType"
  | .bool _ => "bool"
  | .int _ => "int"
  | .float _ => "float"
  | .text _ => "str"
  | .list _ => "list"
  | .tuple _ => "tuple"
  | .map _ => "dict"
  | .datetime _ => "datetime"
  | .date _ => "date"
  | .uuid _ => "UUID"

end TenantStore.Value
