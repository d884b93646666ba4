import TenantStore.Text.CaseFolding
import TenantStore.Text.Category
import TenantStore.Text.Classes

/-!
# Patterns

A pattern describes the texts in which it can be found. Finding asks only whether there is an
occurrence, so a pattern is followed from a whole set of places at once: the places that its
occurrences start from, and those that they end at.
-/

namespace TenantStore

inductive CharSet
  | range (low high : Char)
  | digit
  | blank
  | word
  | category (k : Text.Category)
  | union (s t : CharSet)
  | complement (s : CharSet)
  | folded (s : CharSet)
  | foldedAscii (s : CharSet)

namespace CharSet

def asciiVariants (c : Char) : List Char :=
  let lower := Text.lowerAscii c
  if Text.isAsciiLetter c then [lower, Char.ofNat (lower.toNat - 32)] else [c]

/-- A folded set has every case of its letters. -/
def has : CharSet → Char → Bool
  | .range low high, c => low ≤ c && c ≤ high
  | .digit, c => Text.isDecimal c
  | .blank, c => Text.isBlank c
  | .word, c => Text.isWord c
  | .category k, c => k.has c
  | .union s t, c => s.has c || t.has c
  | .complement s, c => !s.has c
  | .folded s, c => (Text.caseVariants c).any fun d => s.has d
  | .foldedAscii s, c => (asciiVariants c).any fun d => s.has d

def one (c : Char) : CharSet := .range c c

def nothing : CharSet := .range 'b' 'a'

def anything : CharSet := .complement nothing

def ofRanges : List (Char × Char) → CharSet
  | [] => nothing
  | (low, high) :: rest => .union (.range low high) (ofRanges rest)

def intersection (s t : CharSet) : CharSet :=
  .complement (.union (.complement s) (.complement t))

def difference (s t : CharSet) : CharSet :=
  .complement (.union (.complement s) t)

def symmetricDifference (s t : CharSet) : CharSet :=
  .union (difference s t) (difference t s)

end CharSet

/-- Conditions on a place in a text. -/
inductive Anchor
  | textStart
  | textEnd
  | lineStart (carriageReturns : Bool)
  | lineEnd (carriageReturns : Bool)
  | boundary (letters : CharSet)
  | noBoundary (letters : CharSet)
  | wordStart (letters : CharSet)
  | wordEnd (letters : CharSet)
  | halfStart (letters : CharSet)
  | halfEnd (letters : CharSet)

namespace Anchor

def inWord (letters : CharSet) : Option Char → Bool
  | none => false
  | some c => letters.has c

/-- Whether the condition holds between the character before a place and the one after it. A line
feed that follows a carriage return belongs to the same line break. -/
def holds (before after : Option Char) : Anchor → Bool
  | .textStart => before.isNone
  | .textEnd => after.isNone
  | .lineStart false => before.isNone || before == some '\n'
  | .lineStart true =>
    before.isNone || before == some '\n' || (before == some '\r' && after != some '\n')
  | .lineEnd false => after.isNone || after == some '\n'
  | .lineEnd true =>
    after.isNone || after == some '\r' || (after == some '\n' && before != some '\r')
  | .boundary w => inWord w before != inWord w after
  | .noBoundary w => inWord w before == inWord w after
  | .wordStart w => !inWord w before && inWord w after
  | .wordEnd w => inWord w before && !inWord w after
  | .halfStart w => !inWord w before
  | .halfEnd w => !inWord w after

end Anchor

inductive Pattern
  | empty
  | anchor (a : Anchor)
  | char (s : CharSet)
  | group (p : Pattern)
  | repetition (least : Nat) (most : Option Nat) (p : Pattern)
  | concat (parts : List Pattern)
  | alternation (branches : List Pattern)

namespace Pattern

/-- Places in a text, each once. -/
abbrev Places := List Nat

def join (a b : Places) : Places :=
  a ++ b.filter fun i => !a.contains i

def exactly (step : Places → Places) : Nat → Places → Places
  | 0, starts => starts
  | n + 1, starts => exactly step n (step starts)

/-- Following a step at most so many times from fresh places, besides those seen before. -/
def upTo (step : Places → Places) : Nat → Places → Places → Places
  | 0, seen, _ => seen
  | n + 1, seen, fresh =>
    match (step fresh).filter fun i => !seen.contains i with
    | [] => seen
    | found => upTo step n (seen ++ found) found

/-- No occurrence in a text of `n` characters needs more than `n` repetitions, or `n + 1` where
they are prescribed: in a longer row one repetition is empty and could stand there any number of
times. -/
def repeated (n least : Nat) (most : Option Nat) (step : Places → Places) (starts : Places) :
    Places :=
  let optional := match most with
    | none => n
    | some most => min (most - least) n
  let first := exactly step (min least (n + 1)) starts
  upTo step optional first first

mutual
def ends (text : Array Char) : Pattern → Places → Places
  | .empty, starts => starts
  | .anchor a, starts => starts.filter fun i =>
      a.holds (if i = 0 then none else text[i - 1]?) text[i]?
  | .char s, starts => starts.filterMap fun i =>
      match text[i]? with
      | some c => if s.has c then some (i + 1) else none
      | none => none
  | .group p, starts => ends text p starts
  | .repetition least most p, starts => repeated text.size least most (ends text p) starts
  | .concat ps, starts => endsOfAll text ps starts
  | .alternation ps, starts => endsOfAny text ps starts

def endsOfAll (text : Array Char) : List Pattern → Places → Places
  | [], starts => starts
  | p :: ps, starts => endsOfAll text ps (ends text p starts)

def endsOfAny (text : Array Char) : List Pattern → Places → Places
  | [], _ => []
  | p :: ps, starts => join (ends text p starts) (endsOfAny text ps starts)
end

def occursIn (p : Pattern) (text : String) : Bool :=
  let cs := text.toList.toArray
  !(ends cs p (List.range (cs.size + 1))).isEmpty

mutual
def depth : Pattern → Nat
  | .empty | .anchor _ | .char _ => 0
  | .group p | .repetition _ _ p => depth p + 1
  | .concat ps | .alternation ps => depthOfAll ps + 1

def depthOfAll : List Pattern → Nat
  | [] => 0
  | p :: ps => max (depth p) (depthOfAll ps)
end

end Pattern

end TenantStore
