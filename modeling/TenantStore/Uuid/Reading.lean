import TenantStore.Number.Decimal
import TenantStore.Uuid

/-!
# Reading identifiers

An identifier is written as 32 hexadecimal digits, or in five groups with hyphens between them;
the groups may stand in braces or follow a fixed lead. A fault names the first thing that is wrong:
a character, then the number of groups, then the length of a group.
-/

namespace TenantStore

inductive UuidFault
  | badCharacter (c : Char) (position : Nat)
  | badLength (found : Nat)
  | groupCount (found : Nat)
  | groupLength (group expected found : Nat)
deriving DecidableEq

def UuidFault.message : UuidFault → String
  | .badCharacter c position =>
    "invalid character: found \x60" ++ c.toString ++ "\x60 at " ++ Decimal.natText position
  | .badLength found => "invalid length: found " ++ Decimal.natText found
  | .groupCount found => "invalid group count: expected 5, found " ++ Decimal.natText found
  | .groupLength group expected found =>
    "invalid group length in group " ++ Decimal.natText group ++ ": expected " ++
      Decimal.natText expected ++ ", found " ++ Decimal.natText found

namespace Uuid

/-- What may stand before the groups instead of a brace. -/
def lead : List Char :=
  "urn:uuid:".toList

def unwrapped? (cs : List Char) : Option (List Char × Nat) :=
  if lead.isPrefixOf cs then some (cs.drop lead.length, lead.length)
  else
    match cs with
    | '\x7b' :: rest =>
      if rest.getLast? = some '\x7d' then some (rest.dropLast, 1) else none
    | _ => none

/-- The first character that is no digit and no hyphen; positions count bytes. -/
def badCharacter? : Nat → List Char → Option UuidFault
  | _, [] => none
  | n, c :: cs =>
    if c == '-' || (hexValue? c).isSome then badCharacter? (n + c.utf8Size) cs
    else some (.badCharacter c n)

def groups : List Char → List (List Char)
  | [] => [[]]
  | '-' :: cs => [] :: groups cs
  | c :: cs =>
    match groups cs with
    | g :: gs => (c :: g) :: gs
    | [] => [[c]]

def groupLengths : List Nat := [8, 4, 4, 4, 12]

def badGroup? (i : Nat) : List Nat → List (List Char) → Option UuidFault
  | n :: ns, g :: gs =>
    if g.length = n then badGroup? (i + 1) ns gs else some (.groupLength i n g.length)
  | _, _ => none

def ofText (s : String) : Except UuidFault Uuid :=
  let wrapped := unwrapped? s.toList
  let (cs, start) := wrapped.getD (s.toList, 0)
  match badCharacter? start cs with
  | some fault => .error fault
  | none =>
    let gs := groups cs
    let alone := gs.length = 1 ∧ wrapped.isNone
    if alone ∧ cs.length = 32 then .ok (.ofNat (ofHexDigits cs))
    else if alone ∧ cs.length ≠ 36 then .error (.badLength cs.length)
    else if gs.length ≠ 5 then .error (.groupCount gs.length)
    else
      match badGroup? 0 groupLengths gs with
      | some fault => .error fault
      | none => .ok (.ofNat (ofHexDigits gs.flatten))

end Uuid

end TenantStore
