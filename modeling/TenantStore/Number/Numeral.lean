import TenantStore.Number.Binary64
import TenantStore.Number.Decimal
import TenantStore.Text.Ascii

/-!
# Reading numerals

A numeral has an optional sign, digits with at most one decimal point among them, and an optional
exponent. The three words for values without digits are read in any case.
-/

namespace TenantStore.Numeral

/-- The sign before a numeral and what follows it; no sign is a plus. -/
def splitSign : List Char → Bool × List Char
  | '-' :: cs => (true, cs)
  | '+' :: cs => (false, cs)
  | cs => (false, cs)

def spanDigits (cs : List Char) : List Char × List Char :=
  (cs.takeWhile Decimal.isDigit, cs.dropWhile Decimal.isDigit)

/-- An exponent part takes all that is left, and nothing is the exponent zero. -/
def exponent? : List Char → Option Int
  | [] => some 0
  | c :: cs =>
    if c = 'e' ∨ c = 'E' then
      let (negative, ds) := splitSign cs
      if ds ≠ [] ∧ ds.all Decimal.isDigit then
        let n : Int := Decimal.ofChars ds
        some (if negative then -n else n)
      else none
    else none

def unsigned? (negative : Bool) (cs : List Char) : Option Binary64 :=
  let (whole, rest) := spanDigits cs
  let (places, rest) := match rest with
    | '.' :: rest => spanDigits rest
    | rest => ([], rest)
  if whole = [] ∧ places = [] then none
  else
    (exponent? rest).map fun e =>
      let ds := whole ++ places
      .ofDecimal negative (Decimal.ofChars ds) ds.length (e - places.length)

def float? (cs : List Char) : Option Binary64 :=
  let (negative, body) := splitSign cs
  match String.ofList (body.map Text.lowerAscii) with
  | "inf" | "infinity" => some (.infinite negative)
  | "nan" => some .nan
  | _ => unsigned? negative body

/-- Digits with single underscores strictly between them, without the underscores. -/
def grouped? : List Char → Option (List Char)
  | [] => none
  | [c] => if Decimal.isDigit c then some [c] else none
  | c :: '_' :: rest => if Decimal.isDigit c then (grouped? rest).map (c :: ·) else none
  | c :: rest => if Decimal.isDigit c then (grouped? rest).map (c :: ·) else none

end TenantStore.Numeral
