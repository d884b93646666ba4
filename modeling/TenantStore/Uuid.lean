/-!
# Universally unique identifiers

An identifier is a 128-bit number. Its text is 32 lowercase hexadecimal digits in five groups.
-/

namespace TenantStore

structure Uuid where
  bits : BitVec 128
deriving DecidableEq

namespace Uuid

def hexChar (n : Nat) : Char :=
  if n < 10 then Char.ofNat (48 + n) else Char.ofNat (87 + n)

def hexValue? (c : Char) : Option Nat :=
  if '0' ≤ c ∧ c ≤ '9' then some (c.toNat - 48)
  else if 'a' ≤ c ∧ c ≤ 'f' then some (c.toNat - 87)
  else if 'A' ≤ c ∧ c ≤ 'F' then some (c.toNat - 55)
  else none

def hexDigits : Nat → Nat → List Char
  | 0, _ => []
  | width + 1, n => hexDigits width (n / 16) ++ [hexChar (n % 16)]

def ofHexDigits (cs : List Char) : Nat :=
  cs.foldl (fun n c => 16 * n + (hexValue? c).getD 0) 0

def ofNat (n : Nat) : Uuid :=
  ⟨BitVec.ofNat 128 n⟩

def chars (u : Uuid) : List Char :=
  let ds := hexDigits 32 u.bits.toNat
  ds.take 8 ++ '-' :: (ds.drop 8).take 4 ++ '-' :: (ds.drop 12).take 4 ++
    '-' :: (ds.drop 16).take 4 ++ '-' :: ds.drop 20

/-- Lowercase digits in groups of eight, four, four, four and twelve. -/
def text (u : Uuid) : String :=
  String.ofList u.chars

end Uuid

end TenantStore
