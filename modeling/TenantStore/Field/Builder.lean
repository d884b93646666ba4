import TenantStore.Assoc
import TenantStore.Coercion
import TenantStore.Failure
import TenantStore.Field
import TenantStore.Value.Display

/-!
# Building fields

A field is built from named attributes, which are read leniently and checked together. Where a
child field is expected a field stands for itself, and a mapping is read by attribute names with
its `kind` as the tag.
-/

namespace TenantStore.Field

abbrev Attributes := List (Value × Value)

def kindNames : String :=
  "'string', 'number', 'boolean', 'date', 'object', 'array', 'record', 'enum', 'literal'"

/-- An attribute's reading; an absent one has the given value, or is missing. -/
def readAttribute {α : Type} (name : String) (attrs : Attributes) (absent : Option α)
    (check : Value → Checked α) : Checked α :=
  (match Value.field? name attrs with
    | some v => check v
    | none => match absent with
      | some a => .ok a
      | none => .fail .missing).under name

def deferredWords : List (String × Deferred) :=
  [("now", .now), ("uuid", .uuid)]

def readModifiers (attrs : Attributes) : Checked Modifiers :=
  Modifiers.mk
    <$> readAttribute "optional" attrs (some false) Coercion.bool
    <*> readAttribute "nullable" attrs (some false) Coercion.bool
    <*> readAttribute "has_default" attrs (some false) Coercion.bool
    <*> readAttribute "default" attrs (some .null) .ok
    <*> readAttribute "deferred_default" attrs (some none)
      (Coercion.nullable (Coercion.oneOf deferredWords))
    <*> readAttribute "description" attrs (some none) (Coercion.nullable Coercion.text)

def readTextRules (attrs : Attributes) : Checked TextRules :=
  TextRules.mk
    <$> readAttribute "max_length" attrs (some none) (Coercion.nullable Coercion.int)
    <*> readAttribute "min_length" attrs (some none) (Coercion.nullable Coercion.int)
    <*> readAttribute "is_uuid" attrs (some false) Coercion.bool
    <*> readAttribute "is_email" attrs (some false) Coercion.bool
    <*> readAttribute "pattern" attrs (some none) (Coercion.nullable Coercion.text)

def readNumberRules (attrs : Attributes) : Checked NumberRules :=
  NumberRules.mk
    <$> readAttribute "is_integer" attrs (some false) Coercion.bool
    <*> readAttribute "minimum" attrs (some none) (Coercion.nullable Coercion.float)
    <*> readAttribute "maximum" attrs (some none) (Coercion.nullable Coercion.float)

def readItemRules (attrs : Attributes) : Checked ItemRules :=
  ItemRules.mk
    <$> readAttribute "min_items" attrs (some none) (Coercion.nullable Coercion.int)
    <*> readAttribute "max_items" attrs (some none) (Coercion.nullable Coercion.int)

def readChoices (attrs : Attributes) : Checked (List String) :=
  readAttribute "values" attrs none fun v =>
    match v with
    | .list vs | .tuple vs => Coercion.itemsFrom Coercion.text 0 vs
    | _ => .fail .notTuple

/-- Text, an integer, a float or a boolean keeps its kind; for anything else the reading as each
of the four fails. -/
def readScalar : Value → Checked Scalar
  | .text s => .ok (.text s)
  | .int i => .ok (.int i)
  | .float x => .ok (.float x)
  | .bool b => .ok (.bool b)
  | _ => .bad [⟨["str"], .notText⟩, ⟨["int"], .notInteger⟩, ⟨["float"], .notNumber⟩,
      ⟨["bool"], .notBoolean⟩]

def readLiteral (attrs : Attributes) : Checked Scalar :=
  readAttribute "value" attrs none readScalar

theorem sizeOf_lookup_lt {key v : Value} {es : List (Value × Value)}
    (h : Value.lookup key es = some v) : sizeOf v < sizeOf es := by
  unfold Value.lookup at h
  obtain ⟨e, he, rfl⟩ := Option.map_eq_some_iff.1 h
  have hm := List.sizeOf_lt_of_mem (List.mem_of_find?_eq_some he)
  have : sizeOf e.2 < sizeOf e := by cases e; simp only [Prod.mk.sizeOf_spec]; omega
  omega

mutual
def ofValue (v : Value) : Checked Field :=
  match v with
  | .map attrs =>
    match Value.field? "kind" attrs with
    | none => .fail .noTag
    | some (.text "string") =>
      (text <$> readModifiers attrs <*> readTextRules attrs).under "string"
    | some (.text "number") =>
      (number <$> readModifiers attrs <*> readNumberRules attrs).under "number"
    | some (.text "boolean") => (boolean <$> readModifiers attrs).under "boolean"
    | some (.text "date") => (date <$> readModifiers attrs).under "date"
    | some (.text "object") =>
      (object <$> readModifiers attrs <*>
        Checked.under "shape" (match _h : Value.field? "shape" attrs with
          | none => .ok []
          | some (.map es) => ofShape es
          | some _ => .fail .notMapping)).under "object"
    | some (.text "array") =>
      (array <$> readModifiers attrs <*>
        Checked.under "element" (match _h : Value.field? "element" attrs with
          | none => .fail .missing
          | some v => ofValue v) <*> readItemRules attrs).under "array"
    | some (.text "record") =>
      (record <$> readModifiers attrs <*>
        Checked.under "value_type" (match _h : Value.field? "value_type" attrs with
          | none => .fail .missing
          | some v => ofValue v)).under "record"
    | some (.text "enum") => (choice <$> readModifiers attrs <*> readChoices attrs).under "enum"
    | some (.text "literal") =>
      (literal <$> readModifiers attrs <*> readLiteral attrs).under "literal"
    | some tag => .fail (.unknownTag tag.plain kindNames)
  | .datetime _ | .date _ | .uuid _ => .fail .noTag
  | _ => .fail .notAttributes
termination_by sizeOf v
decreasing_by
  all_goals simp_wf
  all_goals have := sizeOf_lookup_lt _h
  all_goals first | omega | (simp at this; omega)

def ofShape (es : List (Value × Value)) : Checked (List (String × Field)) :=
  match es with
  | [] => .ok []
  | (k, v) :: es =>
    let key : Checked String := match k with
      | .text s => .ok s
      | _ => (Checked.fail .notText).under "[key]"
    let entry := (Prod.mk <$> key <*> ofValue v).under k.placeName
    Checked.both (entry.map List.cons) (ofShape es)
termination_by sizeOf es
end

def ofDeclaration : Declaration → Checked Field
  | .field f => .ok f
  | .unknown kind _ => .fail (.unknownTag kind kindNames)
  | .foreign v => ofValue v

def built (c : Checked Field) : Except Failure Field :=
  c.toExcept.mapError .invalid

def attributes (es : List (String × Value)) : Attributes :=
  es.map fun (k, v) => (.text k, v)

def newText (attrs : List (String × Value)) : Except Failure Field :=
  built (text .plain <$> readTextRules (attributes attrs))

def newNumber (attrs : List (String × Value)) : Except Failure Field :=
  built (number .plain <$> readNumberRules (attributes attrs))

/-- Entries of a shape whose names may be repeated: the first place counts, and the last field. -/
def newObject (shape : List (String × Declaration)) : Except Failure Field :=
  let entries := (Assoc.ofList shape).map fun (k, d) =>
    ((ofDeclaration d).map (Prod.mk k)).under k
  built (object .plain <$> (Checked.all entries).under "shape")

def newArray (element : Declaration) (attrs : List (String × Value)) : Except Failure Field :=
  built (array .plain <$> (ofDeclaration element).under "element" <*>
    readItemRules (attributes attrs))

def newRecord (value : Declaration) : Except Failure Field :=
  built (record .plain <$> (ofDeclaration value).under "value_type")

/-- The words of a choice are given one by one, or as one value with members. -/
def newChoice (values : List Value) : Except Failure Field := do
  let words ← match values with
    | [.text s] => .ok [.text s]
    | [v] => match v.members? with
      | some vs => .ok vs
      | none => .error .wrongType
    | vs => .ok vs
  if words.isEmpty then throw (.definition "enum fields need at least one value")
  built (choice .plain <$> readChoices (attributes [("values", .tuple words)]))

def newLiteral (v : Value) : Except Failure Field :=
  built (literal .plain <$> readLiteral (attributes [("value", v)]))

end TenantStore.Field
