import TenantStore.Number.Binary64
import TenantStore.Number.Decimal

/-!
# The shortest decimal of a binary64 number

Every real number in an interval around `m * 2 ^ q` rounds to it; the ends belong to the interval
exactly when `m` is even. The shortest decimal is the point of the coarsest decimal grid that lies
in the interval, and of two such points the nearer one. A style says how the digits are laid out.
-/

namespace TenantStore.Shortest

inductive Tie
  | toEven
  | up
deriving DecidableEq

/-- Four times the number and the ends of its interval, over one denominator. -/
structure Neighbourhood where
  low : Nat
  value : Nat
  high : Nat
  den : Nat
  closed : Bool

/-- The interval below a power of two is half as wide, except at the least exponent. -/
def neighbourhood (m : Nat) (q : Int) : Neighbourhood :=
  let below := if m = Nat.pow 2 52 ∧ -1074 < q then 1 else 2
  let scale := if 2 ≤ q then Nat.pow 2 (q - 2).toNat else 1
  let den := if 2 ≤ q then 1 else Nat.pow 2 (2 - q).toNat
  ⟨(4 * m - below) * scale, 4 * m * scale, (4 * m + 2) * scale, den, m % 2 == 0⟩

/-- The exponent of the leading decimal digit of a positive fraction. -/
def decade (num den : Nat) : Int :=
  if den ≤ num then (Decimal.digits (num / den)).length - 1
  else -((Decimal.digits ((den + num - 1) / num - 1)).length : Int)

def overStep (num den : Nat) (e : Int) : Nat × Nat :=
  if 0 ≤ e then (num, den * Nat.pow 10 e.toNat) else (num * Nat.pow 10 (-e).toNat, den)

def Neighbourhood.holds (n : Neighbourhood) (e : Int) (c : Nat) : Bool :=
  let (low, d) := overStep n.low n.den e
  let (high, _) := overStep n.high n.den e
  if n.closed then low ≤ c * d && c * d ≤ high else low < c * d && c * d < high

def Neighbourhood.gridPoint? (n : Neighbourhood) (tie : Tie) (e : Int) : Option Nat :=
  let (num, d) := overStep n.value n.den e
  let c := num / d
  let rest := num % d
  match n.holds e c, n.holds e (c + 1) with
  | false, false => none
  | true, false => some c
  | false, true => some (c + 1)
  | true, true =>
    if 2 * rest < d then some c
    else if d < 2 * rest then some (c + 1)
    else if tie = .toEven ∧ c % 2 = 0 then some c else some (c + 1)

/-- The first grid with a point for the number, among those with that many digits left. -/
def Neighbourhood.search (n : Neighbourhood) (tie : Tie) (e : Int) : Nat → Nat × Int
  | 0 => ((overStep n.value n.den e).1 / (overStep n.value n.den e).2, e)
  | more + 1 =>
    match n.gridPoint? tie e with
    | some c => (c, e)
    | none => n.search tie (e - 1) more

def dropTrailingZeros (ds : List Nat) : List Nat :=
  (ds.reverse.dropWhile (· == 0)).reverse

/-- The digits of the shortest decimal and the exponent of the first one. -/
def decimal (tie : Tie) (m : Nat) (q : Int) : List Nat × Int :=
  if m = 0 then ([0], 0)
  else
    let n := neighbourhood m q
    let (c, e) := n.search tie (decade n.value n.den) 17
    let ds := Decimal.digits c
    (dropTrailingZeros ds, e + ds.length - 1)

end TenantStore.Shortest

namespace TenantStore

/-- How a number is laid out: the exponents written positionally, what follows an integral
number, and the words for the values that have no digits. -/
structure NumberStyle where
  tie : Shortest.Tie
  positional : Int → Bool
  integralMark : List Char
  nan : String
  infinity : String
  minusInfinity : String

namespace NumberStyle

/-- Exponents from -4 to 15 are positional, and an integral number ends in `.0`. -/
def literal : NumberStyle :=
  ⟨.toEven, fun e => -4 ≤ e && e < 16, ['.', '0'], "nan", "inf", "-inf"⟩

def json : NumberStyle :=
  { literal with nan := "NaN", infinity := "Infinity", minusInfinity := "-Infinity" }

/-- A bound in a message: always positional, and an integral bound looks like an integer. -/
def bound : NumberStyle :=
  ⟨.up, fun _ => true, [], "NaN", "inf", "-inf"⟩

def positionalChars (style : NumberStyle) (ds : List Nat) (e : Int) : List Char :=
  let cs := ds.map Decimal.digitChar
  if e < 0 then '0' :: '.' :: (List.replicate (-e - 1).toNat '0' ++ cs)
  else
    let whole := e.toNat + 1
    if cs.length ≤ whole then
      cs ++ List.replicate (whole - cs.length) '0' ++ style.integralMark
    else cs.take whole ++ '.' :: cs.drop whole

def scientificChars (ds : List Nat) (e : Int) : List Char :=
  let cs := ds.map Decimal.digitChar
  let mantissa := match cs with
    | [] => []
    | [c] => [c]
    | c :: rest => c :: '.' :: rest
  mantissa ++ 'e' :: (if e < 0 then '-' else '+') :: Decimal.padded 2 e.natAbs

def chars (style : NumberStyle) : Binary64 → List Char
  | .nan => style.nan.toList
  | .infinite false => style.infinity.toList
  | .infinite true => style.minusInfinity.toList
  | .finite negative m q _ =>
    let (ds, e) := Shortest.decimal style.tie m q
    let body := if style.positional e then style.positionalChars ds e else scientificChars ds e
    if negative then '-' :: body else body

def text (style : NumberStyle) (x : Binary64) : String :=
  String.ofList (style.chars x)

end NumberStyle

end TenantStore
