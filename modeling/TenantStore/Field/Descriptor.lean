import TenantStore.Field.Builder
import TenantStore.Time.Iso

/-!
# Field descriptors

A descriptor is a field as a mapping, for the remote store. It holds every attribute that the
field's column depends on; reading it back gives a field of the same column.
-/

namespace TenantStore

mutual
/-- A default as a descriptor holds it: dates are text, tuples lists, and keys text. -/
def Value.simplified : Value → Value
  | .datetime t => .text t.isoText
  | .date d => .text d.text
  | .map es => .map (Value.simplifiedEntries es)
  | .list vs | .tuple vs => .list (Value.simplifiedItems vs)
  | v => v

def Value.simplifiedItems : List Value → List Value
  | [] => []
  | v :: vs => v.simplified :: Value.simplifiedItems vs

/-- Keys that become the same text share the first one's place; the last value counts. -/
def Value.simplifiedEntries : List (Value × Value) → List (Value × Value)
  | [] => []
  | (k, v) :: es =>
    let rest := Value.simplifiedEntries es
    let key := k.plain
    match Value.field? key rest with
    | none => (.text key, v.simplified) :: rest
    | some w => (.text key, w) :: rest.filter fun e => !e.1.equal (.text key)
end

namespace Field

def given {α : Type} (key : String) (f : α → Value) : Option α → List (String × Value)
  | none => []
  | some a => [(key, f a)]

def modifierEntries (kind : String) (m : Modifiers) : List (String × Value) :=
  [("kind", .text kind), ("optional", .bool m.isOptional), ("nullable", .bool m.nullable),
    ("hasDefault", .bool m.hasDefault)] ++
  (if m.hasDefault then
    match m.deferred with
    | some d => [("deferredDefault", .text d.text)]
    | none => [("default", m.default.simplified)]
  else []) ++
  match m.description with
  | none | some "" => []
  | some s => [("description", .text s)]

def formats (r : TextRules) : List Value :=
  (if r.isUuid then [.text "uuid"] else []) ++ (if r.isEmail then [.text "email"] else [])

def textEntries (r : TextRules) : List (String × Value) :=
  given "maxLength" .int r.maxLength ++ given "minLength" .int r.minLength ++
    given "pattern" .text r.pattern ++
    (if (formats r).isEmpty then [] else [("formats", .list (formats r))])

mutual
def toDescriptor (f : Field) : Value :=
  .object (modifierEntries f.kind f.modifiers ++ match f with
    | .text _ r => textEntries r
    | .number _ r =>
      [("integer", .bool r.isInteger)] ++ given "minimum" .float r.minimum ++
        given "maximum" .float r.maximum
    | .boolean _ | .date _ => []
    | .object _ shape => [("shape", .map (shapeDescriptors shape))]
    | .array _ element r =>
      [("element", element.toDescriptor)] ++ given "minItems" .int r.minItems ++
        given "maxItems" .int r.maxItems
    | .record _ value => [("valueType", value.toDescriptor)]
    | .choice _ values => [("values", .list (values.map .text))]
    | .literal _ value => [("value", value.toValue)])

def shapeDescriptors : List (String × Field) → List (Value × Value)
  | [] => []
  | (name, f) :: rest => (.text name, f.toDescriptor) :: shapeDescriptors rest
end

abbrev item? (es : List (Value × Value)) (key : String) : Option Value :=
  Value.field? key es

def itemOrNull (es : List (Value × Value)) (key : String) : Value :=
  .ofOption (item? es key)

def flag (es : List (Value × Value)) (key : String) : Bool :=
  (itemOrNull es key).truthy

/-- A deferred default in a descriptor; a false one counts as none. -/
def deferredOf (v : Value) : Except Failure Value :=
  if !v.truthy then .ok .null
  else
    let unknown := .error (.badValue (v.quoted ++ " is not a valid DeferredDefault"))
    match v with
    | .text s => if (Deferred.ofText? s).isSome then .ok v else unknown
    | _ => unknown

def sharedAttributes (es : List (Value × Value)) : Except Failure (List (String × Value)) := do
  let deferred ← deferredOf (itemOrNull es "deferredDefault")
  return [("optional", .bool (flag es "optional")), ("nullable", .bool (flag es "nullable")),
    ("has_default", .bool (flag es "hasDefault")), ("default", itemOrNull es "default"),
    ("deferred_default", deferred), ("description", itemOrNull es "description")]

def occursIn (part : List Char) : List Char → Bool
  | [] => part.isEmpty
  | c :: cs => part.isPrefixOf (c :: cs) || occursIn part cs

/-- A format is among the given ones, whatever they are held in. -/
def hasFormat (name : String) (formats : Value) : Except Failure Bool :=
  if !formats.truthy then .ok false
  else match formats with
    | .text s => .ok (occursIn name.toList s.toList)
    | .list vs | .tuple vs => .ok (vs.any fun v => v.equal (.text name))
    | .map es => .ok (es.any fun e => e.1.equal (.text name))
    | _ => .error .wrongType

def missingItem (es : List (Value × Value)) (key : String) : Failure :=
  .definition ("Descriptor of kind " ++ (itemOrNull es "kind").quoted ++ " is missing " ++
    Text.quoted key)

def required (es : List (Value × Value)) (key : String) : Except Failure Value :=
  match item? es key with
  | some v => .ok v
  | none => .error (missingItem es key)

def checked {α : Type} (c : Checked α) : Except Failure α :=
  c.toExcept.mapError .invalid

def readShared (shared : List (String × Value)) : Checked Modifiers :=
  readModifiers (attributes shared)

theorem sizeOf_field_lt {es : List (Value × Value)} {key : String} {v : Value}
    (h : item? es key = some v) : sizeOf v < sizeOf es :=
  sizeOf_lookup_lt h

/-- The keys of a shape have to be text once its fields have been read. -/
def shapeOf (es : List (Value × Field)) : Checked (List (String × Field)) :=
  (Checked.all (es.map fun (k, f) =>
    Checked.under k.placeName (match k with
      | .text s => .ok (s, f)
      | _ => (Checked.fail .notText).under "[key]"))).under "shape"

mutual
def ofDescriptor (v : Value) : Except Failure Field :=
  match v with
  | .map es => do
    let shared ← sharedAttributes es
    match itemOrNull es "kind" with
    | .text "string" =>
      let formats := itemOrNull es "formats"
      let isUuid ← hasFormat "uuid" formats
      let isEmail ← hasFormat "email" formats
      let rules := readTextRules (attributes [("max_length", itemOrNull es "maxLength"),
        ("min_length", itemOrNull es "minLength"), ("pattern", itemOrNull es "pattern"),
        ("is_uuid", .bool isUuid), ("is_email", .bool isEmail)])
      checked (text <$> readShared shared <*> rules)
    | .text "number" =>
      let rules := readNumberRules (attributes [("is_integer", .bool (flag es "integer")),
        ("minimum", itemOrNull es "minimum"), ("maximum", itemOrNull es "maximum")])
      checked (number <$> readShared shared <*> rules)
    | .text "boolean" => checked (boolean <$> readShared shared)
    | .text "date" => checked (date <$> readShared shared)
    | .text "object" =>
      match _h : item? es "shape" with
      | some (.map shape) => do
        let shape ← shapeOfDescriptors shape
        checked (object <$> readShared shared <*> shapeOf shape)
      | some v =>
        if v.truthy then .error .notAnObject
        else checked (object <$> readShared shared <*> .ok [])
      | none => checked (object <$> readShared shared <*> .ok [])
    | .text "array" =>
      match _h : item? es "element" with
      | some v => do
        let element ← ofDescriptor v
        let rules := readItemRules (attributes [("min_items", itemOrNull es "minItems"),
          ("max_items", itemOrNull es "maxItems")])
        checked (array <$> readShared shared <*> .ok element <*> rules)
      | none => .error (missingItem es "element")
    | .text "record" =>
      match _h : item? es "valueType" with
      | some v => do
        let value ← ofDescriptor v
        checked (record <$> readShared shared <*> .ok value)
      | none => .error (missingItem es "valueType")
    | .text "enum" =>
      let values ← required es "values"
      match values.members? with
      | some vs =>
        checked (choice <$> readShared shared <*>
          readChoices (attributes [("values", .tuple vs)]))
      | none => .error .wrongType
    | .text "literal" =>
      let value ← required es "value"
      checked (literal <$> readShared shared <*> readLiteral (attributes [("value", value)]))
    | kind => .error (.definition ("Unknown field kind " ++ kind.quoted ++ " in descriptor"))
  | _ => .error .notAnObject
termination_by sizeOf v
decreasing_by
  all_goals simp_wf
  all_goals have := sizeOf_field_lt _h
  all_goals first | omega | (simp at this; omega)

def shapeOfDescriptors (es : List (Value × Value)) : Except Failure (List (Value × Field)) :=
  match es with
  | [] => .ok []
  | (k, v) :: es => do
    let f ← ofDescriptor v
    let rest ← shapeOfDescriptors es
    return (k, f) :: rest
termination_by sizeOf es
end

end Field

def Declaration.toDescriptor : Declaration → Except Failure Value
  | .field f => .ok f.toDescriptor
  | .unknown kind m => .ok (.object (Field.modifierEntries kind m))
  | .foreign _ => .error .notAnObject

end TenantStore
