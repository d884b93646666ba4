import TenantStore.Number.Shortest
import TenantStore.Time.Iso
import TenantStore.Value.Display

/-!
# Writing JSON

A value is written without blanks and in printable ASCII: every other point is escaped by its UTF-16
units. A mapping's keys become text. The rules of a document say whether floats without digits are
allowed and how values that JSON does not know are written. No integer may be too long.
-/

namespace TenantStore.Json

inductive WriteFault
  | unsupportedKey
  | unsupportedValue
  | notFinite
  | tooManyDigits
deriving DecidableEq

structure Rules where
  nonFinite : Bool
  dated : Bool

/-- Defaults: floats without digits have their words, and dates, times and identifiers are text. -/
def Rules.lenient : Rules := ⟨true, true⟩

/-- Request bodies: only what the format itself has. -/
def Rules.strict : Rules := ⟨false, false⟩

def unitChars (n : Nat) : List Char :=
  '\\' :: 'u' :: Uuid.hexDigits 4 n

def stringChar (c : Char) : List Char :=
  if c = '"' then ['\\', '"']
  else if c = '\\' then ['\\', '\\']
  else if c = '\n' then ['\\', 'n']
  else if c = '\r' then ['\\', 'r']
  else if c = '\t' then ['\\', 't']
  else if c.toNat = 8 then ['\\', 'b']
  else if c.toNat = 12 then ['\\', 'f']
  else if 0x20 ≤ c.toNat ∧ c.toNat < 0x7f then [c]
  else if c.toNat < 0x10000 then unitChars c.toNat
  else
    let n := c.toNat - 0x10000
    unitChars (0xd800 + n / 0x400) ++ unitChars (0xdc00 + n % 0x400)

def stringPoint : Point → List Char
  | .char c => stringChar c
  | .half place => unitChars (Point.half place).code

def stringChars (t : RawText) : List Char :=
  '"' :: t.points.flatMap stringPoint ++ ['"']

def integerChars (i : Int) : Except WriteFault (List Char) :=
  if Decimal.IsShort i then .ok (Decimal.intChars i) else .error .tooManyDigits

def floatChars (rules : Rules) (x : Binary64) : Except WriteFault (List Char) :=
  if x.isFinite || rules.nonFinite then .ok (NumberStyle.json.chars x) else .error .notFinite

def commaSeparated : List (List Char) → List Char
  | [] => []
  | [x] => x
  | x :: xs => x ++ ',' :: commaSeparated xs

def datedChars (rules : Rules) (text : String) : Except WriteFault (List Char) :=
  if rules.dated then .ok (stringChars text) else .error .unsupportedValue

variable {τ : Type} [Textual τ]

def keyText (rules : Rules) : Value τ → Except WriteFault RawText
  | .text s => .ok (Textual.raw s)
  | .null => .ok "null"
  | .bool true => .ok "true"
  | .bool false => .ok "false"
  | .int i => (integerChars i).map .ofChars
  | .float x => (floatChars rules x).map .ofChars
  | _ => .error .unsupportedKey

mutual
def write (rules : Rules) : Value τ → Except WriteFault (List Char)
  | .null => .ok "null".toList
  | .bool true => .ok "true".toList
  | .bool false => .ok "false".toList
  | .int i => integerChars i
  | .float x => floatChars rules x
  | .text s => .ok (stringChars (Textual.raw s))
  | .list items | .tuple items => do
    let parts ← writeItems rules items
    return '[' :: commaSeparated parts ++ [']']
  | .map entries => do
    let parts ← writeEntries rules entries
    return '\x7b' :: commaSeparated parts ++ ['\x7d']
  | .datetime t => datedChars rules t.isoText
  | .date d => datedChars rules d.text
  | .uuid u => datedChars rules u.text

def writeItems (rules : Rules) : List (Value τ) → Except WriteFault (List (List Char))
  | [] => .ok []
  | x :: xs => do
    let part ← write rules x
    let parts ← writeItems rules xs
    return part :: parts

def writeEntries (rules : Rules) : List (Value τ × Value τ) → Except WriteFault (List (List Char))
  | [] => .ok []
  | (k, v) :: es => do
    let key ← keyText rules k
    let part ← write rules v
    let parts ← writeEntries rules es
    return (stringChars key ++ ':' :: part) :: parts
end

end TenantStore.Json
