import TenantStore.Text.Printable
import TenantStore.Text.Raw
import TenantStore.Uuid

/-!
# Quoted text in messages

Messages quote text in apostrophes, or in double quotes if it holds an apostrophe and no double
quote. What cannot be printed is written by its code in the shortest of three widths.
-/

namespace TenantStore.Text

def quoteMark (ps : List Point) : Char :=
  if ps.contains (.char '\'') && !ps.contains (.char '"') then '"' else '\''

def quotedChar (mark c : Char) : List Char :=
  if c = mark ∨ c = '\\' then ['\\', c]
  else if c = '\n' then ['\\', 'n']
  else if c = '\r' then ['\\', 'r']
  else if c = '\t' then ['\\', 't']
  else if isPrintable c then [c]
  else if c.toNat < 0x100 then '\\' :: 'x' :: Uuid.hexDigits 2 c.toNat
  else if c.toNat < 0x10000 then '\\' :: 'u' :: Uuid.hexDigits 4 c.toNat
  else '\\' :: 'U' :: Uuid.hexDigits 8 c.toNat

def quotedPoint (mark : Char) : Point → List Char
  | .char c => quotedChar mark c
  | .half place => '\\' :: 'u' :: Uuid.hexDigits 4 (Point.half place).code

def quotedRaw (t : RawText) : String :=
  let mark := quoteMark t.points
  String.ofList (mark :: t.points.flatMap (quotedPoint mark) ++ [mark])

def quoted (s : String) : String :=
  quotedRaw s

end TenantStore.Text
