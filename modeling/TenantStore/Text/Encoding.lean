import TenantStore.Text.Raw

/-!
# Text encodings

A document's bytes are UTF-8 unless a mark or the zeros of its first characters say that they are
UTF-16 or UTF-32 of either byte order. Bytes that are not of the encoding are no text; half of a
surrogate pair is taken as it is.
-/

namespace TenantStore.Text

inductive Encoding
  | utf8
  | utf16 (big : Bool)
  | utf32 (big : Bool)
deriving DecidableEq

namespace Encoding

def detect (bs : List UInt8) : Encoding × List UInt8 :=
  match bs with
  | 0x00 :: 0x00 :: 0xfe :: 0xff :: rest => (.utf32 true, rest)
  | 0xff :: 0xfe :: 0x00 :: 0x00 :: rest => (.utf32 false, rest)
  | 0xfe :: 0xff :: rest => (.utf16 true, rest)
  | 0xff :: 0xfe :: rest => (.utf16 false, rest)
  | 0xef :: 0xbb :: 0xbf :: rest => (.utf8, rest)
  | [0, b] => (.utf16 true, [0, b])
  | [a, 0] => (.utf16 false, [a, 0])
  | 0 :: b :: c :: d :: rest =>
    (if b ≠ 0 then .utf16 true else .utf32 true, 0 :: b :: c :: d :: rest)
  | a :: 0 :: c :: d :: rest =>
    (if c ≠ 0 ∨ d ≠ 0 then .utf16 false else .utf32 false, a :: 0 :: c :: d :: rest)
  | bs => (.utf8, bs)

/-- The code that a first byte and the bytes that continue it stand for. -/
def continued? (first : Nat) (bs : List UInt8) : Option Nat :=
  bs.foldlM (fun n b => if 0x80 ≤ b.toNat ∧ b.toNat < 0xc0 then
    some (0x40 * n + (b.toNat - 0x80)) else none) first

/-- A code in so many bytes, which is too large for fewer. -/
def codeIn? (first least : Nat) (bs : List UInt8) : Option Nat :=
  (continued? first bs).filter fun n => least ≤ n ∧ n < 0x110000

def utf8Points? : List UInt8 → Option (List Point)
  | [] => some []
  | a :: rest =>
    let n := a.toNat
    if n < 0x80 then (utf8Points? rest).map (Point.ofCode n :: ·)
    else match rest with
      | b :: rest =>
        if n < 0xe0 then point? (codeIn? (n - 0xc0) 0x80 [b]) (utf8Points? rest)
        else match rest with
          | c :: rest =>
            if n < 0xf0 then point? (codeIn? (n - 0xe0) 0x800 [b, c]) (utf8Points? rest)
            else match rest with
              | d :: rest => point? (codeIn? (n - 0xf0) 0x10000 [b, c, d]) (utf8Points? rest)
              | [] => none
          | [] => none
      | [] => none
where
  point? (code : Option Nat) (more : Option (List Point)) : Option (List Point) := do
    return Point.ofCode (← code) :: (← more)

def number (big : Bool) (bs : List UInt8) : Nat :=
  (if big then bs else bs.reverse).foldl (fun n b => 256 * n + b.toNat) 0

def utf32Points? (big : Bool) : List UInt8 → Option (List Point)
  | [] => some []
  | a :: b :: c :: d :: rest => do
    let n := number big [a, b, c, d]
    let more ← utf32Points? big rest
    if n < 0x110000 then some (.ofCode n :: more) else none
  | _ => none

def units? (big : Bool) : List UInt8 → Option (List Nat)
  | [] => some []
  | a :: b :: rest => (units? big rest).map (number big [a, b] :: ·)
  | [_] => none

def pairCode? (high low : Nat) : Option Nat :=
  if 0xd800 ≤ high ∧ high < 0xdc00 ∧ 0xdc00 ≤ low ∧ low < 0xe000 then
    some (0x10000 + (high - 0xd800) * 0x400 + (low - 0xdc00))
  else none

/-- The points of UTF-16 units; two units of a pair make one. -/
def unitPoints : List Nat → List Point
  | [] => []
  | [n] => [.ofCode n]
  | n :: m :: rest =>
    match pairCode? n m with
    | some code => .ofCode code :: unitPoints rest
    | none => .ofCode n :: unitPoints (m :: rest)

def points? (e : Encoding) (bs : List UInt8) : Option (List Point) :=
  match e with
  | .utf8 => utf8Points? bs
  | .utf16 big => (units? big bs).map unitPoints
  | .utf32 big => utf32Points? big bs

end Encoding

def ofBytes? (bs : List UInt8) : Option RawText :=
  let (e, rest) := Encoding.detect bs
  (e.points? rest).map .mk

end TenantStore.Text
