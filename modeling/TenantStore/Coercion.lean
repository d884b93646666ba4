import TenantStore.Finding
import TenantStore.Number.Numeral
import TenantStore.Text.Classes
import TenantStore.Value

/-!
# Lenient scalars

Arguments and options are read leniently: numbers may be written as text, booleans in words, and
a whole float counts as an integer. Text is never made of anything else.
-/

namespace TenantStore.Coercion

section
variable {τ : Type} [Textual τ] {α : Type}

def text : Value τ → Checked τ
  | .text s => .ok s
  | _ => .fail .notText

/-- Null is allowed besides what the check allows. -/
def nullable (check : Value τ → Checked α) : Value τ → Checked (Option α)
  | .null => .ok none
  | v => (check v).map some

def strictly (check : String → Checked α) (s : τ) : Checked α :=
  match Textual.strict? s with
  | some s => check s
  | none => .fail .notStrict

end

def zeroFraction (cs : List Char) : Bool :=
  match cs with
  | [] => true
  | '.' :: zeros => !zeros.isEmpty && zeros.all (· == '0')
  | _ => false

/-- The integer that a text is: blanks around it, a sign, grouped digits and a fraction of zeros. -/
def intText? (s : String) : Option Int :=
  let (negative, body) := Numeral.splitSign (Text.trimWhile Text.isBlank s.toList)
  let digits := body.takeWhile (· != '.')
  if zeroFraction (body.drop digits.length) then
    (Numeral.grouped? digits).map fun ds =>
      let n : Int := Decimal.ofChars ds
      if negative then -n else n
  else none

/-- Longer texts are not read as integers at all. -/
def maxTextBytes : Nat := 4300

def intOfText (s : String) : Checked Int :=
  if maxTextBytes < s.utf8ByteSize then .fail .integerTooLong
  else match intText? s with
    | some i => .ok i
    | none => .fail .integerText

def int {τ : Type} [Textual τ] : Value τ → Checked Int
  | .int i => .ok i
  | .bool b => .ok (if b then 1 else 0)
  | .float x =>
    if !x.isFinite then .fail .notFinite
    else match x.toInt? with
      | some i => if i.natAbs < Nat.pow 2 63 then .ok i else .fail .integerTooLong
      | none => .fail .fractional
  | .text s => strictly intOfText s
  | _ => .fail .notInteger

/-- Text without its underscores, which may stand only one at a time and inside it. -/
def withoutUnderscores? : List Char → Option (List Char)
  | [] => some []
  | '_' :: _ => none
  | [c] => some [c]
  | c :: '_' :: d :: rest => (withoutUnderscores? (d :: rest)).map (c :: ·)
  | [_, '_'] => none
  | c :: d :: rest => (withoutUnderscores? (d :: rest)).map (c :: ·)

def floatText? (s : String) : Option Binary64 :=
  (withoutUnderscores? (Text.trimWhile Text.isBlank s.toList)).bind Numeral.float?

def floatOfInt (i : Int) : Checked Binary64 :=
  let x := Binary64.ofInt i
  if x.isFinite then .ok x else .fail .notNumber

def float : Value → Checked Binary64
  | .float x => .ok x
  | .int i => floatOfInt i
  | .bool b => .ok (.ofInt (if b then 1 else 0))
  | .text s => match floatText? s with
    | some x => .ok x
    | none => .fail .numberText
  | _ => .fail .notNumber

def boolWord? (s : String) : Option Bool :=
  let word := String.ofList (s.toList.map Text.lowerAscii)
  if ["0", "off", "f", "false", "n", "no"].contains word then some false
  else if ["1", "on", "t", "true", "y", "yes"].contains word then some true
  else none

def boolOrFail (cause : Cause) : Option Bool → Checked Bool
  | some b => .ok b
  | none => .fail cause

def bool {τ : Type} [Textual τ] : Value τ → Checked Bool
  | .bool b => .ok b
  | .int i => boolOrFail .booleanText
      (if i = 0 then some false else if i = 1 then some true else none)
  | .float x => boolOrFail .booleanText
      (if x.equalInt 0 then some false else if x.equalInt 1 then some true else none)
  | .text s => strictly (fun s => boolOrFail .booleanText (boolWord? s)) s
  | _ => .fail .notBoolean

/-- Choices in a message: quoted, with commas and a final `or`. -/
def choices (quoted : List String) : String :=
  match quoted.reverse with
  | [] => ""
  | [one] => one
  | last :: before => String.intercalate ", " before.reverse ++ " or " ++ last

def oneOf {α : Type} (words : List (String × α)) (v : Value) : Checked α :=
  let failed : Checked α := .fail (.notOneOf (choices (words.map fun w => "'" ++ w.1 ++ "'")))
  match v with
  | .text s => match words.lookup s with
    | some a => .ok a
    | none => failed
  | _ => failed

def itemsFrom {α : Type} (check : Value → Checked α) (start : Nat) : List Value → Checked (List α)
  | [] => .ok []
  | v :: vs =>
    Checked.both (((check v).under (Decimal.natText start)).map List.cons)
      (itemsFrom check (start + 1) vs)

def list {α : Type} (check : Value → Checked α) : Value → Checked (List α)
  | .list vs | .tuple vs => itemsFrom check 0 vs
  | _ => .fail .notList

end TenantStore.Coercion
