import TenantStore.Number.Decimal
import TenantStore.Pattern.Property
import TenantStore.Uuid

/-!
# Reading patterns

The written form of patterns: classes in brackets with operations on them, escapes, groups with
names and flags, and repetitions. Flags hold from where they are set to the end of the group
around them. Nothing is remembered while a text is searched, so there is no way to refer back to a
group or to look ahead.
-/

namespace TenantStore.Pattern

/-- A read value and what follows it; nothing for a text that is no pattern. -/
abbrev Reading (α : Type) := Option (α × List Char)

structure Flags where
  ignoreCase : Bool
  multiLine : Bool
  dotAll : Bool
  unicode : Bool
  carriageReturns : Bool
  freeSpacing : Bool

def Flags.initial : Flags :=
  ⟨false, false, false, true, false, false⟩

/-- The characters after blanks and comments, where these mean nothing. -/
def skipSpace : Bool → List Char → List Char
  | false, cs => cs
  | true, cs => go false cs
where
  go : Bool → List Char → List Char
    | _, [] => []
    | true, c :: cs => go (c != '\n') cs
    | false, c :: cs =>
      if Text.isBlank c then go false cs
      else if c == '#' then go true cs
      else c :: cs

/-- The characters after the first one and the space that follows it; there has to be one. -/
def advance? (free : Bool) (cs : List Char) : Option (List Char) :=
  match skipSpace free cs with
  | [] => none
  | cs => some cs

/-! ## Character sets -/

def isMeta (c : Char) : Bool :=
  "\\.+*?()|[]\x7b\x7d^$#&-~".toList.contains c

/-- An escaped character stands for itself unless it is a letter, a digit or an angle. -/
def isSelfEscape (c : Char) : Bool :=
  c.toNat < 128 && !Text.isAsciiLetter c && !Text.isAsciiDigit c && c != '<' && c != '>'

def asciiDigits : CharSet := .range '0' '9'

def asciiBlanks : CharSet := .ofRanges [('\t', '\r'), (' ', ' ')]

def asciiWord : CharSet := .ofRanges [('a', 'z'), ('A', 'Z'), ('0', '9'), ('_', '_')]

def Flags.word (f : Flags) : CharSet :=
  if f.unicode then .word else asciiWord

def Flags.letterSet? (f : Flags) : Char → Option CharSet
  | 'd' => some (if f.unicode then .digit else asciiDigits)
  | 's' => some (if f.unicode then .blank else asciiBlanks)
  | 'w' => some f.word
  | 'D' => if f.unicode then some (.complement .digit) else none
  | 'S' => if f.unicode then some (.complement .blank) else none
  | 'W' => if f.unicode then some (.complement .word) else none
  | _ => none

def namedSet? : String → Option CharSet
  | "alnum" => some (.ofRanges [('0', '9'), ('A', 'Z'), ('a', 'z')])
  | "alpha" => some (.ofRanges [('A', 'Z'), ('a', 'z')])
  | "ascii" => some (.range '\x00' '\x7f')
  | "blank" => some (.ofRanges [('\t', '\t'), (' ', ' ')])
  | "cntrl" => some (.ofRanges [('\x00', '\x1f'), ('\x7f', '\x7f')])
  | "digit" => some asciiDigits
  | "graph" => some (.range '!' '~')
  | "lower" => some (.range 'a' 'z')
  | "print" => some (.range ' ' '~')
  | "punct" => some (.ofRanges [('!', '/'), (':', '@'), ('[', '\x60'), ('\x7b', '~')])
  | "space" => some asciiBlanks
  | "upper" => some (.range 'A' 'Z')
  | "word" => some asciiWord
  | "xdigit" => some (.ofRanges [('0', '9'), ('A', 'F'), ('a', 'f')])
  | _ => none

def Flags.fold (f : Flags) (s : CharSet) : CharSet :=
  if !f.ignoreCase then s else if f.unicode then .folded s else .foldedAscii s

def Flags.foldAndNegate (f : Flags) (negated : Bool) (s : CharSet) : CharSet :=
  if negated then .complement (f.fold s) else f.fold s

/-- Without the Unicode flag a set is one of bytes, and only ASCII bytes are characters. -/
def Flags.allows (f : Flags) (s : CharSet) : Bool :=
  f.unicode || (List.range 128).all fun n => !s.has (Char.ofNat (n + 128))

/-! ## Escapes -/

inductive Atom
  | char (c : Char)
  | set (s : CharSet)
  | anchor (a : Anchor)

def charOfCode? (n : Nat) : Option Char :=
  if n.isValidChar then some (Char.ofNat n) else none

def bracedHex? (free : Bool) : List Char → List Char → Reading Char
  | _, [] => none
  | ds, c :: cs =>
    if Text.isBlank c && free then bracedHex? free ds cs
    else if c == '\x7d' then
      if ds = [] then none
      else (charOfCode? (Uuid.ofHexDigits ds.reverse)).map fun d => (d, skipSpace free cs)
    else if (Uuid.hexValue? c).isSome then bracedHex? free (c :: ds) cs
    else none

def fixedHex? (free : Bool) : Nat → List Char → List Char → Reading Char
  | 0, ds, cs => (charOfCode? (Uuid.ofHexDigits ds.reverse)).map fun d => (d, skipSpace free cs)
  | n + 1, ds, cs =>
    match skipSpace free cs with
    | c :: cs => if (Uuid.hexValue? c).isSome then fixedHex? free n (c :: ds) cs else none
    | [] => none

def hex? (free : Bool) (width : Nat) (cs : List Char) : Reading Char :=
  match skipSpace free cs with
  | '\x7b' :: cs => bracedHex? free [] cs
  | cs => fixedHex? free width [] cs

def isBoundaryLetter (c : Char) : Bool :=
  Text.isAsciiLetter c || c == '-'

def boundaryName? (free : Bool) : List Char → List Char → Reading String
  | _, [] => none
  | name, c :: cs =>
    if isBoundaryLetter c then boundaryName? free (c :: name) cs
    else if free && Text.isBlank c then boundaryName? free name cs
    else if c == '\x7d' then some (String.ofList name.reverse, cs)
    else none

/-- A word boundary, of a special kind if its name follows in braces. Braces without a name are
left for a repetition. -/
def boundary? (f : Flags) (cs : List Char) : Reading Atom :=
  match cs with
  | '\x7b' :: inner =>
    match skipSpace f.freeSpacing inner with
    | [] => none
    | c :: rest =>
      if isBoundaryLetter c then
        match boundaryName? f.freeSpacing [] (c :: rest) with
        | some ("start", cs) => some (.anchor (.wordStart f.word), cs)
        | some ("end", cs) => some (.anchor (.wordEnd f.word), cs)
        | some ("start-half", cs) => some (.anchor (.halfStart f.word), cs)
        | some ("end-half", cs) => some (.anchor (.halfEnd f.word), cs)
        | _ => none
      else some (.anchor (.boundary f.word), cs)
  | cs => some (.anchor (.boundary f.word), cs)

def property? (f : Flags) (cs : List Char) : Reading CharSet :=
  if !f.unicode then none
  else match skipSpace f.freeSpacing cs with
    | '\x7b' :: cs =>
      let name := cs.takeWhile (· != '\x7d')
      match cs.drop name.length with
      | _ :: rest => (CharSet.property? (String.ofList name)).map fun s => (s, rest)
      | [] => none
    | c :: cs => (CharSet.property? c.toString).map fun s => (s, cs)
    | [] => none

/-- A character above ASCII can be given by two hexadecimal digits only as a whole character. -/
def byteAllowed (f : Flags) (c : Char) : Bool :=
  f.unicode || c.toNat < 128

def escape? (f : Flags) (cs : List Char) : Reading Atom :=
  match cs with
  | [] => none
  | c :: cs =>
    let literal (d : Char) : Reading Atom := some (.char d, cs)
    match c with
    | 'x' => (hex? f.freeSpacing 2 cs).bind fun (d, rest) =>
        if byteAllowed f d then some (.char d, rest) else none
    | 'u' => (hex? f.freeSpacing 4 cs).map fun (d, rest) => (.char d, rest)
    | 'U' => (hex? f.freeSpacing 8 cs).map fun (d, rest) => (.char d, rest)
    | 'a' => literal '\x07'
    | 'f' => literal '\x0c'
    | 't' => literal '\t'
    | 'n' => literal '\n'
    | 'r' => literal '\r'
    | 'v' => literal '\x0b'
    | 'A' => some (.anchor .textStart, cs)
    | 'z' => some (.anchor .textEnd, cs)
    | 'b' => boundary? f cs
    | 'B' => some (.anchor (.noBoundary f.word), cs)
    | 'p' => (property? f cs).map fun (s, rest) => (.set (f.fold s), rest)
    | 'P' => (property? f cs).map fun (s, rest) => (.set (.complement (f.fold s)), rest)
    | '<' => some (.anchor (.wordStart f.word), cs)
    | '>' => some (.anchor (.wordEnd f.word), cs)
    | c =>
      match f.letterSet? c with
      | some s => some (.set s, cs)
      | none => if isMeta c || isSelfEscape c then literal c else none

/-! ## Classes in brackets -/

inductive ClassOperation
  | intersection
  | difference
  | symmetricDifference

def ClassOperation.apply (f : Flags) : ClassOperation → CharSet → CharSet → CharSet
  | .intersection, s, t => .intersection (f.fold s) (f.fold t)
  | .difference, s, t => .difference (f.fold s) (f.fold t)
  | .symmetricDifference, s, t => .symmetricDifference (f.fold s) (f.fold t)

/-- A class that is being read: the left side of an operation, if there is one, and the union of
what was read since. -/
structure OpenClass where
  negated : Bool
  left : Option (CharSet × ClassOperation)
  items : CharSet

namespace OpenClass

def add (k : OpenClass) (s : CharSet) : OpenClass :=
  { k with items := .union k.items s }

/-- The set of all that was read so far; operations associate to the left. -/
def content (f : Flags) (k : OpenClass) : CharSet :=
  match k.left with
  | none => k.items
  | some (s, op) => op.apply f s k.items

def operate (f : Flags) (k : OpenClass) (op : ClassOperation) : OpenClass :=
  ⟨k.negated, some (k.content f, op), .nothing⟩

def close (f : Flags) (k : OpenClass) : CharSet :=
  f.foldAndNegate k.negated (k.content f)

end OpenClass

/-- Hyphens at the start of a class stand for themselves. -/
def leadingHyphens? (free : Bool) : List Char → OpenClass → Reading OpenClass
  | [], _ => none
  | c :: cs, k =>
    if free && Text.isBlank c then leadingHyphens? free cs k
    else if c == '-' then leadingHyphens? free cs (k.add (.one '-'))
    else some (k, c :: cs)

/-- The start of a class after its bracket: a circumflex negates it, and a closing bracket that
comes first stands for itself. -/
def openClass? (free : Bool) (cs : List Char) : Option (OpenClass × List Char) := do
  let cs ← advance? free cs
  let (negated, cs) ← match cs with
    | '^' :: cs => (advance? free cs).map fun cs => (true, cs)
    | cs => some (false, cs)
  let (k, rest) ← leadingHyphens? free cs ⟨negated, none, .nothing⟩
  match rest with
  | ']' :: after =>
    if rest.length = cs.length then
      (advance? free after).map fun after => (k.add (.one ']'), after)
    else some (k, rest)
  | rest => some (k, rest)

def namedClass? (cs : List Char) : Reading (Bool × CharSet) :=
  match cs with
  | ':' :: cs =>
    let (negated, cs) := match cs with
      | '^' :: cs => (true, cs)
      | cs => (false, cs)
    let name := cs.takeWhile (· != ':')
    match cs.drop name.length with
    | ':' :: ']' :: rest => (namedSet? (String.ofList name)).map fun s => ((negated, s), rest)
    | _ => none
  | _ => none

def classAtom? (f : Flags) : List Char → Reading Atom
  | [] => none
  | '\\' :: cs => escape? f cs
  | c :: cs => if byteAllowed f c then some (.char c, cs) else none

/-- A range stands for all characters between its ends, which have to be in order. -/
def classItem? (f : Flags) (cs : List Char) : Option (CharSet × List Char) := do
  let (first, cs) ← classAtom? f cs
  let cs ← advance? f.freeSpacing cs
  let single : Reading CharSet := match first with
    | .char c => if byteAllowed f c then some (.one c, cs) else none
    | .set s => some (s, cs)
    | .anchor _ => none
  match cs with
  | '-' :: after =>
    match skipSpace f.freeSpacing after with
    | ']' :: _ | '-' :: _ => single
    | after => do
      let (last, rest) ← classAtom? f after
      match first, last with
      | .char low, .char high =>
        if low ≤ high && byteAllowed f high then some (.range low high, rest) else none
      | _, _ => none
  | _ => single

/-- The rest of a class; every step takes at least one character. The classes around it are
finished later. -/
def classRest? (f : Flags) : Nat → List OpenClass → OpenClass → List Char → Reading CharSet
  | 0, _, _, _ => none
  | fuel + 1, outer, k, cs =>
    match skipSpace f.freeSpacing cs with
    | [] => none
    | '[' :: cs =>
      match namedClass? cs with
      | some ((negated, s), rest) =>
        classRest? f fuel outer (k.add (f.foldAndNegate negated s)) rest
      | none =>
        (openClass? f.freeSpacing cs).bind fun (inner, rest) =>
          classRest? f fuel (k :: outer) inner rest
    | ']' :: cs =>
      match outer with
      | [] => some (k.close f, cs)
      | o :: outer => classRest? f fuel outer (o.add (k.close f)) cs
    | '&' :: '&' :: cs => classRest? f fuel outer (k.operate f .intersection) cs
    | '-' :: '-' :: cs => classRest? f fuel outer (k.operate f .difference) cs
    | '~' :: '~' :: cs => classRest? f fuel outer (k.operate f .symmetricDifference) cs
    | cs =>
      (classItem? f cs).bind fun (s, rest) => classRest? f fuel outer (k.add s) rest

def class? (f : Flags) (cs : List Char) : Option (CharSet × List Char) := do
  let (k, rest) ← openClass? f.freeSpacing cs
  let (s, rest) ← classRest? f (rest.length + 1) [] k rest
  if f.allows s then some (s, rest) else none

/-! ## Flags and groups -/

/-- Sets one flag by its letter; two letters say how greedy repetitions are, which makes no
difference to whether a text is found. -/
def Flags.set? (f : Flags) (on : Bool) : Char → Option Flags
  | 'i' => some { f with ignoreCase := on }
  | 'm' => some { f with multiLine := on }
  | 's' => some { f with dotAll := on }
  | 'u' => some { f with unicode := on }
  | 'R' => some { f with carriageReturns := on }
  | 'x' => some { f with freeSpacing := on }
  | 'U' => some f
  | _ => none

/-- The letters of a flag group, each once, with one hyphen before those that are switched off;
then the character that ends them. -/
def flags? : List Char → Flags → List Char → Reading (Flags × Char)
  | _, _, [] => none
  | seen, f, c :: cs =>
    if c == ':' || c == ')' then
      if seen.head? == some '-' then none else some ((f, c), cs)
    else if seen.contains c then none
    else if c == '-' then flags? (c :: seen) f cs
    else (f.set? (!seen.contains '-') c).bind fun f => flags? (c :: seen) f cs

def isGroupNameChar (first : Bool) (c : Char) : Bool :=
  if first then
    c == '_' || Text.isAsciiLetter c || (128 ≤ c.toNat && Text.isWord c && !Text.isDecimal c)
  else c == '_' || c == '.' || c == '[' || c == ']' || Text.isWord c

def groupName? (cs : List Char) : Reading String :=
  let name := cs.takeWhile (· != '>')
  match cs.drop name.length, name with
  | '>' :: rest, first :: others =>
    if isGroupNameChar true first && others.all (isGroupNameChar false) then
      some (String.ofList name, rest)
    else none
  | _, _ => none

inductive Opening
  | group (name : Option String) (f : Flags)
  | setting (f : Flags)

def opening? (f : Flags) (cs : List Char) : Reading Opening :=
  match skipSpace f.freeSpacing cs with
  | '?' :: '=' :: _ | '?' :: '!' :: _ => none
  | '?' :: '<' :: '=' :: _ | '?' :: '<' :: '!' :: _ => none
  | '?' :: 'P' :: '<' :: cs | '?' :: '<' :: cs =>
    (groupName? cs).map fun (name, rest) => (.group (some name) f, rest)
  | '?' :: ')' :: _ => none
  | '?' :: cs => (flags? [] f cs).map fun ((g, last), rest) =>
      (if last == ')' then .setting g else .group none g, rest)
  | cs => some (.group none f, cs)

/-! ## Repetitions -/

/-- A number in braces, with blanks around and nothing but digits; it has 32 bits at most. -/
def count? (free : Bool) (cs : List Char) : Option (Option Nat × List Char) :=
  let cs := skipSpace free (cs.dropWhile Text.isBlank)
  let ds := cs.takeWhile fun c => Text.isAsciiDigit c || (free && Text.isBlank c)
  let rest := skipSpace free ((cs.drop ds.length).dropWhile Text.isBlank)
  let digits := ds.filter Text.isAsciiDigit
  if digits = [] then some (none, rest)
  else
    let n := Decimal.ofChars digits
    if n < Nat.pow 2 32 then some (some n, rest) else none

def counts? (free : Bool) (cs : List Char) : Option ((Nat × Option Nat) × List Char) := do
  let (least, cs) ← count? free cs
  let least ← least
  match cs with
  | '\x7d' :: rest => some ((least, some least), rest)
  | ',' :: cs =>
    match skipSpace free cs with
    | '\x7d' :: rest => some ((least, none), rest)
    | cs => do
      let (most, cs) ← count? free cs
      let most ← most
      match cs with
      | '\x7d' :: rest => if least ≤ most then some ((least, some most), rest) else none
      | _ => none
  | _ => none

/-! ## Patterns -/

/-- A group that is being read: the flags to return to, its finished branches and the parts of the
branch at hand, each newest first. -/
structure OpenGroup where
  outside : Flags
  branches : List Pattern
  parts : List Pattern

def ofParts : List Pattern → Pattern
  | [p] => p
  | [] => .empty
  | ps => .concat ps.reverse

def OpenGroup.close (g : OpenGroup) : Pattern :=
  match g.branches with
  | [] => ofParts g.parts
  | branches => .alternation (ofParts g.parts :: branches).reverse

def OpenGroup.add (g : OpenGroup) (p : Pattern) : OpenGroup :=
  { g with parts := p :: g.parts }

/-- Repeats the last part; a change of flags cannot be repeated. -/
def OpenGroup.repeatLast? (g : OpenGroup) (least : Nat) (most : Option Nat) : Option OpenGroup :=
  match g.parts with
  | [] | .empty :: _ => none
  | p :: ps => some { g with parts := .repetition least most p :: ps }

def skipReluctant (free : Bool) (cs : List Char) : List Char :=
  match skipSpace free cs with
  | '?' :: cs => cs
  | cs => cs

def Flags.dot? (f : Flags) : Option CharSet :=
  if !f.unicode then none
  else if f.dotAll then some .anything
  else if f.carriageReturns then some (.complement (.union (.one '\n') (.one '\r')))
  else some (.complement (.one '\n'))

def Flags.literal? (f : Flags) (c : Char) : Option CharSet :=
  if f.ignoreCase && !byteAllowed f c then none else some (f.fold (.one c))

def Flags.atom? (f : Flags) : Atom → Option Pattern
  | .char c => (f.literal? c).map .char
  | .set s => some (.char s)
  | .anchor a => some (.anchor a)

structure ReadState where
  flags : Flags
  outer : List OpenGroup
  group : OpenGroup
  names : List String

namespace ReadState

def initial : ReadState :=
  ⟨.initial, [], ⟨.initial, [], []⟩, []⟩

def add (r : ReadState) (p : Pattern) : ReadState :=
  { r with group := r.group.add p }

def repeated (r : ReadState) (least : Nat) (most : Option Nat) (cs : List Char) :
    Reading ReadState :=
  (r.group.repeatLast? least most).map fun g =>
    ({ r with group := g }, skipReluctant r.flags.freeSpacing cs)

/-- A name can be given to one group only. -/
def opened (r : ReadState) (o : Opening) (cs : List Char) : Reading ReadState :=
  match o with
  | .setting f => some ({ r with flags := f, group := r.group.add .empty }, cs)
  | .group name f =>
    if name.any r.names.contains then none
    else some (⟨f, r.group :: r.outer, ⟨r.flags, [], []⟩, name.toList ++ r.names⟩, cs)

def closed (r : ReadState) (cs : List Char) : Reading ReadState :=
  match r.outer with
  | [] => none
  | g :: outer => some (⟨r.group.outside, outer, g.add (.group r.group.close), r.names⟩, cs)

/-- One step over the first character and what belongs to it. -/
def step (r : ReadState) (c : Char) (cs : List Char) : Reading ReadState :=
  let f := r.flags
  match c with
  | '(' => (opening? f cs).bind fun (o, rest) => r.opened o rest
  | ')' => r.closed cs
  | '|' => some ({ r with group :=
      ⟨r.group.outside, ofParts r.group.parts :: r.group.branches, []⟩ }, cs)
  | '[' => (class? f cs).map fun (s, rest) => (r.add (.char s), rest)
  | '?' => r.repeated 0 (some 1) cs
  | '*' => r.repeated 0 none cs
  | '+' => r.repeated 1 none cs
  | '\x7b' => (counts? f.freeSpacing cs).bind fun ((least, most), rest) =>
      r.repeated least most rest
  | '\\' => (escape? f cs).bind fun (a, rest) => (f.atom? a).map fun p => (r.add p, rest)
  | '.' => f.dot?.map fun s => (r.add (.char s), cs)
  | '^' => some (r.add (.anchor
      (if f.multiLine then .lineStart f.carriageReturns else .textStart)), cs)
  | '$' => some (r.add (.anchor
      (if f.multiLine then .lineEnd f.carriageReturns else .textEnd)), cs)
  | c => (f.literal? c).map fun s => (r.add (.char s), cs)

def run : Nat → ReadState → List Char → Option Pattern
  | 0, _, _ => none
  | fuel + 1, r, cs =>
    match skipSpace r.flags.freeSpacing cs with
    | [] => if r.outer.isEmpty then some r.group.close else none
    | c :: cs => (r.step c cs).bind fun (r, rest) => run fuel r rest

end ReadState

def maxDepth : Nat := 250

def read? (s : String) : Option Pattern :=
  let cs := s.toList
  match ReadState.run (cs.length + 1) .initial cs with
  | some p => if p.depth ≤ maxDepth then some p else none
  | none => none

end TenantStore.Pattern
