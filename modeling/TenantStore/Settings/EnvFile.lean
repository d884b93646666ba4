import TenantStore.Assoc
import TenantStore.Text.Classes

/-!
# Environment files

A file of bindings, one a line: an optional `export`, a name, an equals sign and a value. A value
in quotes may span lines and hold escapes; any other ends with its line or before a comment. A
line of another form is skipped. Values may refer to variables as `$` and a name in braces, with a
fallback after `:-`.
-/

namespace TenantStore.EnvFile

/-- One read binding; a name alone has no value. -/
structure Binding where
  name : String
  value : Option String
deriving DecidableEq

/-! ## Reading lines -/

def isLineBreak (c : Char) : Bool :=
  c == '\n' || c == '\r'

def isSpace (c : Char) : Bool :=
  Text.isBlankOrSeparator c

def isInnerSpace (c : Char) : Bool :=
  isSpace c && !isLineBreak c

def plainBreaks : List Char → List Char
  | [] => []
  | '\r' :: '\n' :: cs => '\n' :: plainBreaks cs
  | '\r' :: cs => '\n' :: plainBreaks cs
  | c :: cs => c :: plainBreaks cs

def skipExport (cs : List Char) : List Char :=
  match cs with
  | 'e' :: 'x' :: 'p' :: 'o' :: 'r' :: 't' :: rest =>
    match rest with
    | c :: _ => if isInnerSpace c then rest.dropWhile isInnerSpace else cs
    | [] => cs
  | cs => cs

def nonEmpty? (p : Char → Bool) (cs : List Char) : Option (List Char × List Char) :=
  match cs.takeWhile p with
  | [] => none
  | found => some (found, cs.dropWhile p)

def name? (cs : List Char) : Option (List Char × List Char) :=
  match cs with
  | '\'' :: cs =>
    match nonEmpty? (· != '\'') cs with
    | some (name, _ :: rest) => some (name, rest)
    | _ => none
  | cs => nonEmpty? (fun c => c != '=' && c != '#' && !isSpace c) cs

/-- What stands before the closing quote. A quote after a backslash closes only if no other quote
does. -/
def quoted? (quote : Char) : List Char → Option (List Char × List Char)
  | [] => none
  | c :: cs =>
    if c = quote then some ([], cs)
    else if c = '\\' then
      match cs with
      | d :: ds =>
        if d = quote then
          match quoted? quote ds with
          | some (body, rest) => some (c :: d :: body, rest)
          | none => some ([c], ds)
        else (quoted? quote (d :: ds)).map fun (body, rest) => (c :: body, rest)
      | [] => none
    else (quoted? quote cs).map fun (body, rest) => (c :: body, rest)

def escape? : Char → Option Char
  | '\\' => some '\\'
  | '\'' => some '\''
  | '"' => some '"'
  | 'a' => some '\x07'
  | 'b' => some '\x08'
  | 'f' => some '\x0c'
  | 'n' => some '\n'
  | 'r' => some '\r'
  | 't' => some '\t'
  | 'v' => some '\x0b'
  | _ => none

/-- In single quotes only a backslash and a quote can be escaped. -/
def singleEscape? (c : Char) : Option Char :=
  if c = '\\' ∨ c = '\'' then some c else none

def unescape (escape? : Char → Option Char) : List Char → List Char
  | '\\' :: c :: cs =>
    match escape? c with
    | some d => d :: unescape escape? cs
    | none => '\\' :: unescape escape? (c :: cs)
  | c :: cs => c :: unescape escape? cs
  | [] => []

/-- A plain value ends before blanks that a number sign follows. -/
def dropComment : List Char → List Char
  | [] => []
  | c :: cs =>
    if isSpace c && (cs.dropWhile isSpace).head? == some '#' then [] else c :: dropComment cs

def trimEnd (cs : List Char) : List Char :=
  (cs.reverse.dropWhile isSpace).reverse

def plainValue (cs : List Char) : List Char :=
  trimEnd (dropComment cs)

def value? (cs : List Char) : Option (List Char × List Char) :=
  match cs with
  | '\'' :: cs => (quoted? '\'' cs).map fun (v, rest) => (unescape singleEscape? v, rest)
  | '"' :: cs => (quoted? '"' cs).map fun (v, rest) => (unescape escape? v, rest)
  | cs => some (plainValue (cs.takeWhile (!isLineBreak ·)), cs.dropWhile (!isLineBreak ·))

def skipLine (cs : List Char) : List Char :=
  (cs.dropWhile (!isLineBreak ·)).drop 1

def lineEnd? (cs : List Char) : Option (List Char) :=
  match cs.dropWhile isInnerSpace with
  | [] => some []
  | '#' :: _ => some (skipLine cs)
  | '\n' :: rest => some rest
  | _ => none

/-- What follows a name: an equals sign and a value, or nothing. -/
def afterName (name : List Char) (cs : List Char) : Option Binding × List Char :=
  let finish (value : Option (List Char)) (cs : List Char) : Option Binding × List Char :=
    match lineEnd? cs with
    | some rest => (some ⟨String.ofList name, value.map String.ofList⟩, rest)
    | none => (none, skipLine cs)
  match cs.dropWhile isInnerSpace with
  | '=' :: cs =>
    let cs := cs.dropWhile isInnerSpace
    match value? cs with
    | some (v, rest) => finish (some v) rest
    | none => (none, skipLine cs)
  | cs => finish none cs

def binding (cs : List Char) : Option Binding × List Char :=
  match skipExport (cs.dropWhile isSpace) with
  | '#' :: cs => (none, skipLine cs)
  | cs =>
    match name? cs with
    | some (name, rest) => afterName name rest
    | none => (none, skipLine cs)

def bindings : Nat → List Char → List Binding
  | 0, _ => []
  | _ + 1, [] => []
  | fuel + 1, cs =>
    let (b, rest) := binding cs
    b.toList ++ bindings fuel rest

/-! ## Variables in values -/

/-- A variable's name up to a colon or a closing brace, and its fallback. -/
def reference? (cs : List Char) : Option ((String × Option String) × List Char) :=
  let name := cs.takeWhile fun c => c != '\x7d' && c != ':'
  match cs.drop name.length with
  | '\x7d' :: rest => some ((String.ofList name, none), rest)
  | ':' :: '-' :: more =>
    let fallback := more.takeWhile (· != '\x7d')
    match more.drop fallback.length with
    | '\x7d' :: rest => some ((String.ofList name, some (String.ofList fallback)), rest)
    | _ => none
  | _ => none

/-- A text with its variables replaced; one that is unknown stands for its fallback or nothing. -/
def expand (known : String → Option String) : Nat → List Char → List Char
  | 0, cs => cs
  | _ + 1, [] => []
  | fuel + 1, c :: cs =>
    match c, cs with
    | '$', '\x7b' :: more =>
      match reference? more with
      | some ((name, fallback), rest) =>
        ((known name).getD (fallback.getD "")).toList ++ expand known fuel rest
      | none => c :: expand known fuel cs
    | _, _ => c :: expand known fuel cs

/-- The values of all names; a later binding of a name wins, and sees the earlier ones. -/
def resolve (outside : List (String × String)) (bs : List Binding) :
    List (String × Option String) :=
  bs.foldl (fun found b =>
    let known (name : String) : Option String :=
      match Assoc.get? name found with
      | some v => some (v.getD "")
      | none => Assoc.get? name outside
    Assoc.put b.name (b.value.map fun v =>
      String.ofList (expand known (v.length + 1) v.toList)) found) []

def read (outside : List (String × String)) (text : String) : List (String × Option String) :=
  let cs := plainBreaks text.toList
  resolve outside (bindings (cs.length + 1) cs)

end TenantStore.EnvFile
