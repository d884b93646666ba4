import TenantStore.Number.Binary64
import TenantStore.Text.Raw
import TenantStore.Time.Calendar
import TenantStore.Uuid

/-!
# Values

The dynamic values that rows, defaults, descriptors and queries are made of. A mapping keeps the
order of its entries and may have keys of any kind. Equality compares numbers of all three kinds
by what they stand for, so `1`, `1.0` and `true` are equal. The texts in a value are strict unless
it comes from outside.
-/

namespace TenantStore

inductive Value (τ : Type := String)
  | null
  | bool (b : Bool)
  | int (i : Int)
  | float (x : Binary64)
  | text (s : τ)
  | list (items : List (Value τ))
  | tuple (items : List (Value τ))
  | map (entries : List (Value τ × Value τ))
  | datetime (t : DateTime)
  | date (d : Date)
  | uuid (u : Uuid)
deriving Inhabited

namespace Value

variable {τ : Type} [DecidableEq τ] [Textual τ]

def truthy : Value τ → Bool
  | .null => false
  | .bool b => b
  | .int i => i != 0
  | .float x => !x.isZero
  | .text s => s != Textual.ofString ""
  | .list items | .tuple items => !items.isEmpty
  | .map entries => !entries.isEmpty
  | .datetime _ | .date _ | .uuid _ => true

def asInt? : Value τ → Option Int
  | .bool b => some (if b then 1 else 0)
  | .int i => some i
  | _ => none

mutual
def equalBy (floats : Binary64 → Binary64 → Bool) : Value τ → Value τ → Bool
  | .float x, .float y => floats x y
  | .float x, w => match w.asInt? with
    | some i => x.equalInt i
    | none => false
  | .list xs, .list ys | .tuple xs, .tuple ys => equalItems floats xs ys
  | .map es, .map fs => es.length == fs.length && equalEntries floats es fs
  | .null, .null => true
  | .text s, .text t => s == t
  | .datetime s, .datetime t => s.equal t
  | .date d, .date e => d == e
  | .uuid u, .uuid v => u == v
  | .bool b, w => match w with
    | .float x => x.equalInt (if b then 1 else 0)
    | w => w.asInt? == some (if b then 1 else 0)
  | .int i, w => match w with
    | .float x => x.equalInt i
    | w => w.asInt? == some i
  | _, _ => false

def equalItems (floats : Binary64 → Binary64 → Bool) :
    List (Value τ) → List (Value τ) → Bool
  | [], [] => true
  | x :: xs, y :: ys => equalBy floats x y && equalItems floats xs ys
  | _, _ => false

/-- Every entry of the first mapping has an equal one in the second. -/
def equalEntries (floats : Binary64 → Binary64 → Bool) :
    List (Value τ × Value τ) → List (Value τ × Value τ) → Bool
  | [], _ => true
  | (k, v) :: es, fs =>
    (fs.any fun f => equalBy floats k f.1 && equalBy floats v f.2) && equalEntries floats es fs
end

/-- Equality of values; what is not a number equals nothing. -/
def equal : Value τ → Value τ → Bool :=
  equalBy Binary64.equal

omit [Textual τ] in
theorem equal_text {k : Value τ} {key : τ} : k.equal (.text key) = true ↔ k = .text key := by
  cases k <;> simp [equal, equalBy, asInt?]

/-- Equality of values where what is not a number is the same as itself. -/
def same : Value τ → Value τ → Bool :=
  equalBy Binary64.same

def lookup (key : Value τ) (entries : List (Value τ × Value τ)) : Option (Value τ) :=
  (entries.find? fun e => e.1.equal key).map (·.2)

def field? (key : String) (entries : List (Value τ × Value τ)) : Option (Value τ) :=
  lookup (.text (Textual.ofString key)) entries

/-- Puts a value at a key; a key that is there keeps its place and its own form. -/
def insert (key value : Value τ) : List (Value τ × Value τ) → List (Value τ × Value τ)
  | [] => [(key, value)]
  | e :: es => if e.1.equal key then (e.1, value) :: es else e :: insert key value es

def ofEntries (es : List (Value τ × Value τ)) : Value τ :=
  .map (es.foldl (fun m e => insert e.1 e.2 m) [])

def object (es : List (String × Value)) : Value :=
  .map (es.map fun (k, v) => (.text k, v))

def ofOption : Option (Value τ) → Value τ
  | none => .null
  | some v => v

def ofText? : Option String → Value
  | none => .null
  | some s => .text s

/-- The members of a value that has members: items, characters or keys. -/
def members? : Value → Option (List Value)
  | .list vs | .tuple vs => some vs
  | .text s => some (s.toList.map fun c => .text (String.ofList [c]))
  | .map es => some (es.map (·.1))
  | _ => none

end Value

end TenantStore
