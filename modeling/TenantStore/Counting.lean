import TenantStore.Failure
import TenantStore.Number.Numeral
import TenantStore.Text.Classes

/-!
# Counts in answers

A count may be any kind of number, or a text that is an integer: with blanks around, a sign, and
digits of any script with single underscores between them.
-/

namespace TenantStore.Counting

def digits? : List Char → Option (List Nat)
  | [] => none
  | [c] => (Text.decimalValue? c).map ([·])
  | c :: '_' :: cs => do
    let d ← Text.decimalValue? c
    return d :: (← digits? cs)
  | c :: cs => do
    let d ← Text.decimalValue? c
    return d :: (← digits? cs)

def tooManyDigits (n : Nat) : String :=
  "Exceeds the limit (4300 digits) for integer string conversion: value has " ++
    Decimal.natText n ++ " digits; use sys.set_int_max_str_digits() to increase the limit"

def maxShown : Nat := 200

def notANumber (t : RawText) : Failure :=
  .badValue ("invalid literal for int() with base 10: " ++
    String.ofList ((Text.quotedRaw t).toList.take maxShown))

def parts? (t : RawText) : Option (Bool × List Nat) := do
  let s ← t.toString?
  let (negative, body) := Numeral.splitSign (Text.trimWhile Text.isBlankOrSeparator s.toList)
  return (negative, ← digits? body)

def ofText (t : RawText) : Except Failure Int :=
  match parts? t with
  | none => .error (notANumber t)
  | some (negative, ds) =>
    if Decimal.maxDigits < ds.length then .error (.badValue (tooManyDigits ds.length))
    else
      let n := ds.foldl (fun (n d : Nat) => 10 * n + d) 0
      .ok (if negative then -(n : Int) else n)

def ofFloat : Binary64 → Except Failure Int
  | .nan => .error (.badValue "cannot convert float NaN to integer")
  | x => match x.truncate? with
    | some i => .ok i
    | none => .error .tooLarge

/-- The integer that a value counts as; only numbers and texts count. -/
def ofValue (v : Value RawText) : Except Failure Int :=
  match v with
  | .bool b => .ok (if b then 1 else 0)
  | .int i => .ok i
  | .float x => ofFloat x
  | .text t => ofText t
  | _ => .error .wrongType

end TenantStore.Counting
