/-!
# Decimal numerals

The digits of a natural number, most significant first, and the number that a list of digits
stands for. Numerals are lists of characters, so that readers and writers of larger formats can
be stated over them.
-/

namespace TenantStore.Decimal

/-- The decimal digits of a number, most significant first; zero has the one digit `0`. -/
def digits (n : Nat) : List Nat :=
  if n < 10 then [n] else digits (n / 10) ++ [n % 10]

def ofDigits (ds : List Nat) : Nat :=
  ds.foldl (fun n d => 10 * n + d) 0

def digitChar (d : Nat) : Char :=
  Char.ofNat (48 + d)

def digitValue? (c : Char) : Option Nat :=
  if '0' ≤ c ∧ c ≤ '9' then some (c.toNat - 48) else none

def isDigit (c : Char) : Bool :=
  (digitValue? c).isSome

/-- The value of a run of ASCII digits; other characters count as nothing. -/
def ofChars (cs : List Char) : Nat :=
  ofDigits (cs.filterMap digitValue?)

def natChars (n : Nat) : List Char :=
  (digits n).map digitChar

def intChars : Int → List Char
  | .ofNat n => natChars n
  | .negSucc n => '-' :: natChars (n + 1)

/-- Longer numerals are neither read nor written. -/
def maxDigits : Nat := 4300

def IsShort (i : Int) : Prop :=
  (natChars i.natAbs).length ≤ maxDigits

instance (i : Int) : Decidable (IsShort i) :=
  Nat.decLe _ _

def natText (n : Nat) : String :=
  String.ofList (natChars n)

def intText (i : Int) : String :=
  String.ofList (intChars i)

def padded (width n : Nat) : List Char :=
  let cs := natChars n
  List.replicate (width - cs.length) '0' ++ cs

end TenantStore.Decimal
