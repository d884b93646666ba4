import TenantStore.Coercion
import TenantStore.Number.Shortest
import TenantStore.Row.Supply
import TenantStore.Row.Usable
import TenantStore.Value.Wire

/-!
# Checking values against fields

A value is checked against its field and brought into the form in which it is stored. Checks of
the parts of a value report the findings of all parts, in the order of the shape or of the items.
Where members of objects may be left out, `whole` says whether absent ones are filled in.
-/

namespace TenantStore.Row

/-! ## Scalars -/

def textFault? (r : TextRules) (s : String) : Option Cause :=
  if let some n := r.maxLength.filter fun (n : Int) => n < s.length then some (.tooLong n)
  else if let some n := r.minLength.filter fun (n : Int) => s.length < n then some (.tooShort n)
  else
    (r.effectivePattern.filter fun p =>
      !((Pattern.read? p).any fun q => q.occursIn s)).map .patternMismatch

def orFault {α : Type} (fault : Option Cause) (a : α) : Checked α :=
  match fault with
  | some cause => .fail cause
  | none => .ok a

def checkUuid : Value → Checked Value
  | .uuid u => .ok (.text u.text)
  | .text s => match Uuid.ofText s with
    | .ok u => .ok (.text u.text)
    | .error fault => .fail (.identifierText fault)
  | _ => .fail .notIdentifier

def checkText (r : TextRules) (v : Value) : Checked Value :=
  if r.isUuid then checkUuid v
  else match v with
    | .text s => orFault (textFault? r s) (.text s)
    | _ => .fail .notText

def integerBound (b : Option Binary64) : Option Int :=
  b.bind Binary64.toInt?

def integerFault? (r : NumberRules) (i : Int) : Option Cause :=
  if let some n := (integerBound r.maximum).filter fun n => n < i then
    some (.aboveMaximum (Decimal.intText n))
  else
    ((integerBound r.minimum).filter fun n => i < n).map fun n => .belowMinimum (Decimal.intText n)

def boundText (x : Binary64) : String :=
  NumberStyle.bound.text x

/-- A number without digits is refused first; no number is within a bound that has none. -/
def numberFault? (r : NumberRules) (x : Binary64) : Option Cause :=
  if !x.isFinite then some .notFinite
  else if let some b := r.maximum.filter fun b => !x.le b then some (.aboveMaximum (boundText b))
  else (r.minimum.filter fun b => !b.le x).map fun b => .belowMinimum (boundText b)

def checkFloat (r : NumberRules) (x : Binary64) : Checked Value :=
  orFault (numberFault? r x) (.float x)

def checkNumber (r : NumberRules) (v : Value) : Checked Value :=
  match r.isInteger, v with
  | true, .int i => orFault (integerFault? r i) (.int i)
  | true, _ => .fail .notInteger
  | false, .int i => (Coercion.floatOfInt i).andThen (checkFloat r)
  | false, .float x => checkFloat r x
  | false, _ => .fail .notNumber

def checkBoolean : Value → Checked Value
  | .bool b => .ok (.bool b)
  | _ => .fail .notBoolean

/-- A moment that was read, in the form in which it is stored. -/
def momentOr (r : Except Cause DateTime) : Checked Value :=
  match r with
  | .ok t => .ok (.text t.wireText)
  | .error cause => .fail cause

def isWord (i : Int) : Bool :=
  -(Nat.pow 2 63 : Int) ≤ i && i < Nat.pow 2 63

/-- An integer of 64 bits counts exactly, a larger one as the float nearest to it. -/
def momentOfInt (i : Int) : Except Cause DateTime :=
  if isWord i then (TimeReading.ofUnix i 0).mapError .momentText
  else
    let x := Binary64.ofInt i
    if x.isFinite then (TimeReading.ofFloat x).mapError .momentText else .error .notMoment

def causeOf : TimeReading.Failure → Cause
  | .asMoment fault => .momentText fault
  | .asDay fault => .dayText fault

def checkDate : Value → Checked Value
  | .datetime t => momentOr (.ok t)
  | .date d => momentOr (.ok ⟨d, .midnight, none⟩)
  | .int i => momentOr (momentOfInt i)
  | .float x => momentOr ((TimeReading.ofFloat x).mapError .momentText)
  | .text s => momentOr ((TimeReading.ofText s).mapError causeOf)
  | _ => .fail .notMoment

def choicesText (values : List Value) : String :=
  Coercion.choices (values.map Value.quoted).eraseDups

def checkAmong (values : List Value) (v : Value) : Checked Value :=
  match values.find? fun w => w.equal v with
  | some w => .ok w.wire
  | none => .fail (.notLiteral (choicesText values))

/-- A literal integer of 64 bits is not compared with a longer one. -/
def tooLongFor : Scalar → Value → Bool
  | .int n, .int i => isWord n && !isWord i
  | _, _ => false

def checkLiteral (s : Scalar) (v : Value) : Checked Value :=
  if tooLongFor s v then .fail .integerTooLong else checkAmong [s.toValue] v

/-! ## Nested values -/

def orNull (allowed : Bool) (check : Value → Checked Value) (v : Value) : Checked Value :=
  match allowed, v with
  | true, .null => .ok .null
  | _, v => check v

/-- A list that is too long is not looked into; one that is too short is. -/
def checkItems (r : ItemRules) (check : Nat → Value → Checked Value) (items : List Value) :
    Checked Value :=
  match r.maxItems.filter fun (n : Int) => n < items.length with
  | some n => .fail (.tooMany n items.length)
  | none =>
    (Checked.all (items.mapIdx fun i v => (check i v).under (Decimal.natText i))).andThen fun vs =>
      orFault
        ((r.minItems.filter fun (n : Int) => items.length < n).map fun n => .tooFew n items.length)
        (.list vs)

def checkKey : Value → Checked String
  | .text s => .ok s
  | k => (Checked.fail .notText).under "[key]" |>.under k.placeName

def checkEntries (check : Value → Value → Checked Value) (entries : List (Value × Value)) :
    Checked Value :=
  (Checked.all (entries.map fun (k, v) =>
    Checked.both ((checkKey k).map Prod.mk) ((check k v).under k.placeName))).map fun es =>
      .map (es.map fun (k, v) => (.text k, v))

/-- Where a finding in a default is placed: fields are counted, as a default has no key. -/
def defaultPlace (position : Nat) : String :=
  "f" ++ Decimal.natText position

def absent (whole : Bool) (supply : Supply) (column : String) (position : Nat) (m : Modifiers)
    (check : Value → Checked Value) : Checked (Option Value) :=
  if m.hasDefault then
    let v := match m.deferred with
      | some d => .text (supply.make d)
      | none => m.default
    ((check v).under (defaultPlace position)).map fun v => if whole then some v else none
  else if m.isOptional then .ok (if whole then some .null else none)
  else (Checked.fail .missing).under column

def member (whole : Bool) (supply : Supply) (column : String) (position : Nat) (m : Modifiers)
    (check : Value → Checked Value) (entries : List (Value × Value)) :
    Checked (List (String × Value)) :=
  let found := match Value.field? column entries with
    | some v => ((check v).under column).map some
    | none => absent whole supply column position m check
  found.map fun v => (v.map fun v => (column, v)).toList

/-- Null is a value where the field says so, or where it is the default. -/
def allowsNull (m : Modifiers) : Bool :=
  m.nullable || m.nullDefault

mutual
def check (whole : Bool) : Field → Supply → String → Value → Checked Value
  | .text _ r, _, _, v => checkText r v
  | .number _ r, _, _, v => checkNumber r v
  | .boolean _, _, _, v => checkBoolean v
  | .date _, _, _, v => checkDate v
  | .object _ shape, supply, name, v => match v with
    | .map entries => (checkShape whole shape supply name 0 entries).map Value.object
    | _ => .fail (.notRecordOf name)
  | .array _ element r, supply, name, v => match v with
    | .list items | .tuple items =>
      checkItems r (fun i => orNull element.modifiers.nullable
        (check whole element (supply.under (Decimal.natText i)) (name ++ "_item"))) items
    | _ => .fail .notList
  | .record _ value, supply, name, v => match v with
    | .map entries =>
      checkEntries (fun k => orNull value.modifiers.nullable
        (check whole value (supply.under k.placeName) (name ++ "_value"))) entries
    | _ => .fail .notMapping
  | .choice _ values, _, _, v => checkAmong (values.map .text) v
  | .literal _ s, _, _, v => checkLiteral s v

/-- The members of an object, from a position on; what the shape does not name is left out. -/
def checkShape (whole : Bool) : List (String × Field) → Supply → String → Nat →
    List (Value × Value) → Checked (List (String × Value))
  | [], _, _, _, _ => .ok []
  | (column, f) :: rest, supply, name, position, entries =>
    Checked.both
      ((member whole (supply.under column) column position f.modifiers
        (orNull (allowsNull f.modifiers)
          (check whole f (supply.under column) (name ++ "_" ++ Decimal.natText position)))
        entries).map List.append)
      (checkShape whole rest supply name (position + 1) entries)
end

/-- The check of a value against a declaration; a field of an unknown kind takes anything. -/
def checkDeclaration (whole : Bool) (supply : Supply) (name : String) :
    Declaration → Value → Checked Value
  | .field f, v => orNull (allowsNull f.modifiers) (check whole f supply name) v
  | .unknown .. , v | .foreign _, v => .ok v.wire

end TenantStore.Row
