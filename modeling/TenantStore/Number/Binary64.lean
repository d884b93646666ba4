/-!
# Binary64 numbers

A binary64 number is a significand times a power of two, an infinity, or the one value that is
not a number. All arithmetic is exact on naturals and rounds once, to nearest with ties to even,
so every operation has a meaning that a proof can reach.
-/

namespace TenantStore

/-- The pair names a binary64 number: a full significand, or the least exponent. -/
def Binary64.Canonical (m : Nat) (q : Int) : Prop :=
  m < Nat.pow 2 53 ∧ -1074 ≤ q ∧ q ≤ 971 ∧ (Nat.pow 2 52 ≤ m ∨ q = -1074)

instance (m : Nat) (q : Int) : Decidable (Binary64.Canonical m q) :=
  inferInstanceAs (Decidable (_ ∧ _ ∧ _ ∧ (_ ∨ _)))

/-- A finite number is `m * 2 ^ q` with its sign; zero has both signs. -/
inductive Binary64
  | nan
  | infinite (negative : Bool)
  | finite (negative : Bool) (m : Nat) (q : Int) (canonical : Binary64.Canonical m q)
deriving DecidableEq

namespace Binary64

/-- The natural number nearest to `num / den`; a half goes to the even neighbour. -/
def roundEven (num den : Nat) : Nat :=
  let whole := num / den
  let rest := num % den
  if 2 * rest < den then whole
  else if den < 2 * rest then whole + 1
  else if whole % 2 = 0 then whole else whole + 1

/-- The pair as a number when it is canonical; a pair beyond the largest number is infinite. -/
def ofPair (negative : Bool) (m : Nat) (q : Int) : Binary64 :=
  if h : Canonical m q then .finite negative m q h else .infinite negative

/-- `num / den` times `2 ^ (-q)` as a fraction of naturals. -/
def scaled (num den : Nat) (q : Int) : Nat × Nat :=
  if 0 ≤ q then (num, den * Nat.pow 2 q.toNat) else (num * Nat.pow 2 (-q).toNat, den)

/-- The exponent at which the nearest significand has 53 bits, or the least exponent. -/
def exponentFor (num den : Nat) : Int :=
  let guess : Int := (Nat.log2 num : Int) - (Nat.log2 den : Int) - 52
  let (a, b) := scaled num den guess
  max (if a / b < Nat.pow 2 52 then guess - 1 else guess) (-1074)

/-- The binary64 number nearest to the fraction; a tie goes to the even significand. -/
def ofRatio (negative : Bool) (num den : Nat) : Binary64 :=
  if num = 0 then ofPair negative 0 (-1074)
  else
    let q := exponentFor num den
    let (a, b) := scaled num den q
    let m := roundEven a b
    if m = Nat.pow 2 53 then ofPair negative (Nat.pow 2 52) (q + 1) else ofPair negative m q

def ofNat (n : Nat) : Binary64 :=
  ofRatio false n 1

def ofInt : Int → Binary64
  | .ofNat n => ofRatio false n 1
  | .negSucc n => ofRatio true (n + 1) 1

/-- The number nearest to `n * 10 ^ e`, where `n` has `count` digits. Far beyond the range the
power is not computed: the answer is zero or infinite there. -/
def ofDecimal (negative : Bool) (n : Nat) (count : Nat) (e : Int) : Binary64 :=
  if n = 0 then ofRatio negative 0 1
  else if 310 < count + e then .infinite negative
  else if count + e < -330 then ofRatio negative 0 1
  else if 0 ≤ e then ofRatio negative (n * Nat.pow 10 e.toNat) 1
  else ofRatio negative n (Nat.pow 10 (-e).toNat)

def fraction (m : Nat) (q : Int) : Nat × Nat :=
  if 0 ≤ q then (m * Nat.pow 2 q.toNat, 1) else (m, Nat.pow 2 (-q).toNat)

def isFinite : Binary64 → Bool
  | .finite .. => true
  | _ => false

def isNan : Binary64 → Bool
  | .nan => true
  | _ => false

def isZero : Binary64 → Bool
  | .finite _ m _ _ => m == 0
  | _ => false

def isNegative : Binary64 → Bool
  | .nan => false
  | .infinite negative => negative
  | .finite negative _ _ _ => negative

def ratio? : Binary64 → Option (Int × Nat)
  | .finite negative m q _ =>
    let (num, den) := fraction m q
    some (if negative then -(num : Int) else num, den)
  | _ => none

def toInt? (x : Binary64) : Option Int :=
  match x.ratio? with
  | some (num, den) => if num % den = 0 then some (num / den) else none
  | none => none

def truncate? (x : Binary64) : Option Int :=
  x.ratio?.map fun (num, den) => Int.tdiv num den

def floor? (x : Binary64) : Option Int :=
  x.ratio?.map fun (num, den) => Int.fdiv num den

def compare? : Binary64 → Binary64 → Option Ordering
  | .nan, _ | _, .nan => none
  | .infinite s, .infinite t => some (if s = t then .eq else if s then .lt else .gt)
  | .infinite s, _ => some (if s then .lt else .gt)
  | _, .infinite t => some (if t then .gt else .lt)
  | x, y =>
    match x.ratio?, y.ratio? with
    | some (a, b), some (c, d) => some (compare (a * d) (c * b))
    | _, _ => none

def le (x y : Binary64) : Bool :=
  match compare? x y with
  | some .lt | some .eq => true
  | _ => false

/-- Equality of numbers: the two zeros are equal, and what is not a number equals nothing. -/
def equal (x y : Binary64) : Bool :=
  compare? x y == some .eq

def same (x y : Binary64) : Bool :=
  equal x y || (x.isNan && y.isNan)

def equalInt (x : Binary64) (i : Int) : Bool :=
  x.toInt? == some i

def mul : Binary64 → Binary64 → Binary64
  | .finite s m q _, .finite t n r _ =>
    let (a, b) := fraction m q
    let (c, d) := fraction n r
    ofRatio (s != t) (a * c) (b * d)
  | .nan, _ | _, .nan => .nan
  | .infinite s, y => if y.isZero then .nan else .infinite (s != y.isNegative)
  | x, .infinite t => if x.isZero then .nan else .infinite (x.isNegative != t)

def ofSigned (zeroNegative : Bool) (num : Int) (den : Nat) : Binary64 :=
  ofRatio (if num = 0 then zeroNegative else num < 0) num.natAbs den

def add : Binary64 → Binary64 → Binary64
  | .nan, _ | _, .nan => .nan
  | .infinite s, .infinite t => if s = t then .infinite s else .nan
  | .infinite s, _ => .infinite s
  | _, .infinite t => .infinite t
  | x, y =>
    match x.ratio?, y.ratio? with
    | some (a, b), some (c, d) =>
      ofSigned (x.isNegative && y.isNegative) (a * d + c * b) (b * d)
    | _, _ => .nan

def neg : Binary64 → Binary64
  | .nan => .nan
  | .infinite s => .infinite (!s)
  | .finite s m q h => .finite (!s) m q h

/-- The nearest integer, a half going away from zero. -/
def round? (x : Binary64) : Option Int :=
  x.ratio?.map fun (num, den) =>
    let n : Int := ((2 * num.natAbs + den) / (2 * den) : Nat)
    if num < 0 then -n else n

def divNat : Binary64 → Nat → Binary64
  | .finite s m q _, n =>
    let (a, b) := fraction m q
    ofRatio s a (b * n)
  | x, _ => x

end Binary64

end TenantStore
