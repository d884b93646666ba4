import TenantStore.Number.Numeral
import TenantStore.Text.Encoding
import TenantStore.Uuid
import TenantStore.Value

/-!
# Reading JSON

The reader takes the standard grammar and, beyond it, the words for floats without digits. An
object's repeated key keeps its first place and takes the last value. A text is one value with
blanks around it. A bracket that would be nested deeper than there is room for stops the reader, and
so does an integer that is too long.
-/

namespace TenantStore.Json

inductive ReadFault
  | malformed
  | tooNested
deriving DecidableEq

def isBlank : Point → Bool
  | .char c => c == ' ' || c == '\t' || c == '\n' || c == '\r'
  | .half _ => false

def skipBlanks (ps : List Point) : List Point :=
  ps.dropWhile isBlank

def afterWord? (word : String) (cs : List Char) : Option (List Char) :=
  if word.toList.isPrefixOf cs then some (cs.drop word.length) else none

def unit? : List Point → Option (Nat × List Point)
  | .char a :: .char b :: .char c :: .char d :: ps =>
    if [a, b, c, d].all fun x => (Uuid.hexValue? x).isSome then
      some (Uuid.ofHexDigits [a, b, c, d], ps)
    else none
  | _ => none

/-- The point after a backslash and a `u`. Two units of a pair that are both escaped are one
character. -/
def escapedUnit? (ps : List Point) : Option (Point × List Point) := do
  let (high, ps) ← unit? ps
  if 0xd800 ≤ high ∧ high < 0xdc00 then
    match ps with
    | .char '\\' :: .char 'u' :: rest =>
      let (low, rest) ← unit? rest
      match Text.Encoding.pairCode? high low with
      | some code => some (.ofCode code, rest)
      | none => some (.ofCode high, ps)
    | ps => some (.ofCode high, ps)
  else some (.ofCode high, ps)

def escapedChar? : Point → Option Char
  | .char '"' => some '"'
  | .char '\\' => some '\\'
  | .char '/' => some '/'
  | .char 'b' => some (Char.ofNat 8)
  | .char 'f' => some (Char.ofNat 12)
  | .char 'n' => some '\n'
  | .char 'r' => some '\r'
  | .char 't' => some '\t'
  | _ => none

def isControl : Point → Bool
  | .char c => c.toNat < 0x20
  | .half _ => false

/-- The points up to the closing quote, and the rest after it. -/
def stringBody? : Nat → List Point → Option (List Point × List Point)
  | 0, _ => none
  | _ + 1, [] => none
  | fuel + 1, p :: ps =>
    if p = .char '"' then some ([], ps)
    else if p = .char '\\' then
      match ps with
      | .char 'u' :: rest => do
        let (x, rest) ← escapedUnit? rest
        let (xs, rest) ← stringBody? fuel rest
        some (x :: xs, rest)
      | e :: rest => do
        let x ← escapedChar? e
        let (xs, rest) ← stringBody? fuel rest
        some (.char x :: xs, rest)
      | [] => none
    else if isControl p then none
    else do
      let (xs, rest) ← stringBody? fuel ps
      some (p :: xs, rest)

/-- The digits of an integer part: a zero alone, or digits that do not start with one. -/
def wholeDigits? (cs : List Char) : Option (List Char × List Char) :=
  match cs with
  | '0' :: rest => some (['0'], rest)
  | _ =>
    let (ds, rest) := Numeral.spanDigits cs
    if ds = [] then none else some (ds, rest)

/-- A point and digits; where no digit follows the point nothing is taken. -/
def places (cs : List Char) : List Char × List Char :=
  match cs with
  | '.' :: rest =>
    let (ds, after) := Numeral.spanDigits rest
    if ds = [] then ([], cs) else (ds, after)
  | _ => ([], cs)

def exponentPart (cs : List Char) : Option Int × List Char :=
  match cs with
  | e :: rest =>
    if e = 'e' ∨ e = 'E' then
      let (negative, body) := Numeral.splitSign rest
      let (ds, after) := Numeral.spanDigits body
      if ds = [] then (none, cs)
      else
        let n : Int := Decimal.ofChars ds
        (some (if negative then -n else n), after)
    else (none, cs)
  | [] => (none, cs)

def number? (negative : Bool) (cs : List Char) : Option (Value RawText × List Char) := do
  let (whole, cs) ← wholeDigits? cs
  let (fraction, cs) := places cs
  let (exponent, cs) := exponentPart cs
  if fraction = [] ∧ exponent = none then
    if Decimal.maxDigits < whole.length then none
    else
      let n : Int := Decimal.ofChars whole
      some (.int (if negative then -n else n), cs)
  else
    let ds := whole ++ fraction
    let x := Binary64.ofDecimal negative (Decimal.ofChars ds) ds.length
      (exponent.getD 0 - fraction.length)
    some (.float x, cs)

/-- The words and numbers that start with neither a quote nor a bracket. -/
def word? (cs : List Char) : Option (Value RawText × List Char) :=
  let word (text : String) (v : Value RawText) := (afterWord? text cs).map fun rest => (v, rest)
  word "null" .null <|> word "true" (.bool true) <|> word "false" (.bool false) <|>
    word "NaN" (.float .nan) <|> word "Infinity" (.float (.infinite false)) <|>
    word "-Infinity" (.float (.infinite true)) <|>
    match cs with
    | '-' :: rest => number? true rest
    | _ => number? false cs

def isWordChar (c : Char) : Bool :=
  c.isAlphanum || c == '+' || c == '-' || c == '.'

def spanWord : List Point → List Char × List Point
  | .char c :: ps =>
    if isWordChar c then (c :: (spanWord ps).1, (spanWord ps).2) else ([], .char c :: ps)
  | ps => ([], ps)

/-- A word or a number, all of it. -/
def plain? (ps : List Point) : Option (Value RawText × List Point) :=
  match word? (spanWord ps).1 with
  | some (v, []) => some (v, (spanWord ps).2)
  | _ => none

def orMalformed {α : Type} : Option α → Except ReadFault α
  | some a => .ok a
  | none => .error .malformed

mutual
/-- A value at the start of the text, which has no blanks before it. -/
def value : Nat → Nat → List Point → Except ReadFault (Value RawText × List Point)
  | 0, _, _ => .error .malformed
  | fuel + 1, room, ps =>
    match ps with
    | .char '"' :: rest => do
      let (s, rest) ← orMalformed (stringBody? (rest.length + 1) rest)
      return (.text ⟨s⟩, rest)
    | .char '[' :: rest =>
      match room with
      | 0 => .error .tooNested
      | room + 1 =>
        match skipBlanks rest with
        | .char ']' :: rest => .ok (.list [], rest)
        | rest => do
          let (vs, rest) ← items fuel room rest
          return (.list vs, rest)
    | .char '\x7b' :: rest =>
      match room with
      | 0 => .error .tooNested
      | room + 1 =>
        match skipBlanks rest with
        | .char '\x7d' :: rest => .ok (.map [], rest)
        | rest => do
          let (es, rest) ← entries fuel room rest
          return (.ofEntries es, rest)
    | ps => orMalformed (plain? ps)

def items : Nat → Nat → List Point → Except ReadFault (List (Value RawText) × List Point)
  | 0, _, _ => .error .malformed
  | fuel + 1, room, ps => do
    let (v, rest) ← value fuel room ps
    match skipBlanks rest with
    | .char ']' :: rest => return ([v], rest)
    | .char ',' :: rest => do
      let (vs, rest) ← items fuel room (skipBlanks rest)
      return (v :: vs, rest)
    | _ => .error .malformed

def entries : Nat → Nat → List Point →
    Except ReadFault (List (Value RawText × Value RawText) × List Point)
  | 0, _, _ => .error .malformed
  | fuel + 1, room, ps =>
    match ps with
    | .char '"' :: rest => do
      let (key, rest) ← orMalformed (stringBody? (rest.length + 1) rest)
      match skipBlanks rest with
      | .char ':' :: rest => do
        let (v, rest) ← value fuel room (skipBlanks rest)
        match skipBlanks rest with
        | .char '\x7d' :: rest => return ([(.text ⟨key⟩, v)], rest)
        | .char ',' :: rest => do
          let (es, rest) ← entries fuel room (skipBlanks rest)
          return ((.text ⟨key⟩, v) :: es, rest)
        | _ => .error .malformed
      | _ => .error .malformed
    | _ => .error .malformed
end

/-- The value of a text whose brackets are nested no deeper than there is room for. A step takes a
point or goes on from a list to its next item, so there are fewer than two of them to a point. -/
def read (room : Nat) (t : RawText) : Except ReadFault (Value RawText) := do
  let (v, rest) ← value (2 * t.points.length + 1) room (skipBlanks t.points)
  if skipBlanks rest = [] then return v else .error .malformed

end TenantStore.Json
