/-!
# ASCII characters

The classes of characters that identifiers, numerals and namespaces are made of.
-/

namespace TenantStore.Text

def isAsciiLetter (c : Char) : Bool :=
  ('a' ≤ c && c ≤ 'z') || ('A' ≤ c && c ≤ 'Z')

def isAsciiDigit (c : Char) : Bool :=
  '0' ≤ c && c ≤ '9'

def isAsciiWord (c : Char) : Bool :=
  isAsciiLetter c || isAsciiDigit c || c == '_'

def lowerAscii (c : Char) : Char :=
  if 'A' ≤ c ∧ c ≤ 'Z' then Char.ofNat (c.toNat + 32) else c

end TenantStore.Text
