import TenantStore.Field.Descriptor

/-!
# Descriptors are read back

`Field.restored` is the field that comes back from a field's descriptor: the same kind with the same
rules, and modifiers that keep what a descriptor holds of them. `ofDescriptor_toDescriptor`: reading
a descriptor back never fails and gives just that field.
-/

namespace TenantStore

/-- What a descriptor keeps of modifiers: a default that counts, in its simplified form. -/
def Modifiers.restored (m : Modifiers) : Modifiers :=
  { m with
    default := if m.hasDefault && m.deferred.isNone then m.default.simplified else .null
    deferred := if m.hasDefault then m.deferred else none
    description := if m.description = some "" then none else m.description }

namespace Field

mutual
def restored : Field → Field
  | .text m r => .text m.restored r
  | .number m r => .number m.restored r
  | .boolean m => .boolean m.restored
  | .date m => .date m.restored
  | .object m shape => .object m.restored (restoredShape shape)
  | .array m element r => .array m.restored element.restored r
  | .record m value => .record m.restored value.restored
  | .choice m values => .choice m.restored values
  | .literal m value => .literal m.restored value

def restoredShape : List (String × Field) → List (String × Field)
  | [] => []
  | (name, f) :: rest => (name, f.restored) :: restoredShape rest
end

-- ---------------------------------------------------------------------------
-- Entries
-- ---------------------------------------------------------------------------

variable {es rest : List (String × Value)} {key : String} {m : Modifiers}

theorem item?_attributes (es : List (String × Value)) (key : String) :
    item? (attributes es) key = es.lookup key := by
  unfold item? Value.field? Value.lookup attributes
  induction es with
  | nil => rfl
  | cons e es ih =>
    obtain ⟨k, v⟩ := e
    have heq : (Value.text k).equal (.text key) = (k == key) := rfl
    rw [List.map_cons, List.find?_cons, Textual.ofString_eq, heq, List.lookup_cons,
      BEq.comm (a := key)]
    cases k == key with
    | true => rfl
    | false => exact ih

theorem lookup_entry (k : String) (v : Value) (es : List (String × Value)) (key : String) :
    ((k, v) :: es).lookup key = if key = k then some v else es.lookup key := by
  by_cases h : key = k
  · simp [h]
  · simp [List.lookup_cons, beq_false_of_ne h, h]

theorem lookup_given {f : α → Value} (o : Option α) (name key : String) :
    (given name f o).lookup key = if key = name then o.map f else none := by
  cases o with
  | none => simp [given]
  | some a => simp [given, lookup_entry]

/-- The entries that modifiers make, those that may be missing as `given` ones. -/
theorem modifierEntries_eq (kind : String) (m : Modifiers) :
    modifierEntries kind m =
      ("kind", .text kind) :: ("optional", .bool m.isOptional) :: ("nullable", .bool m.nullable) ::
      ("hasDefault", .bool m.hasDefault) ::
      (given "deferredDefault" (fun d : Deferred => .text d.text) m.restored.deferred ++
        given "default" Value.simplified
          (if m.hasDefault && m.deferred.isNone then some m.default else none) ++
        given "description" .text m.restored.description) := by
  obtain ⟨isOptional, nullable, hasDefault, default, deferred, description⟩ := m
  cases description with
  | none => cases hasDefault <;> cases deferred <;> rfl
  | some s =>
    by_cases hs : s = ""
    · subst hs
      cases hasDefault <;> cases deferred <;> rfl
    · cases hasDefault <;> cases deferred <;>
        simp [modifierEntries, Modifiers.restored, given, hs]

def givenAttributes (m : Modifiers) : List (String × Value) :=
  [("optional", .bool m.isOptional), ("nullable", .bool m.nullable),
    ("has_default", .bool m.hasDefault), ("default", m.restored.default),
    ("deferred_default", .ofOption (m.restored.deferred.map fun d => .text d.text)),
    ("description", .ofText? m.restored.description)]

theorem sharedAttributes_modifierEntries (kind : String) (m : Modifiers)
    (rest : List (String × Value))
    (hrest : ∀ key ∈ ["default", "deferredDefault", "description"], rest.lookup key = none) :
    sharedAttributes (attributes (modifierEntries kind m ++ rest)) = .ok (givenAttributes m) := by
  have get : ∀ key, itemOrNull (attributes (modifierEntries kind m ++ rest)) key =
      .ofOption (((modifierEntries kind m).lookup key).or (rest.lookup key)) := fun key => by
    rw [itemOrNull, item?_attributes, List.lookup_append]
  have hflag : ∀ key b, (modifierEntries kind m).lookup key = some (.bool b) →
      flag (attributes (modifierEntries kind m ++ rest)) key = b := by
    intro key b h
    rw [flag, get, h]
    rfl
  have hdefault : itemOrNull (attributes (modifierEntries kind m ++ rest)) "default" =
      m.restored.default := by
    rw [get, hrest "default" (by simp), Option.or_none, modifierEntries_eq]
    simp only [lookup_entry, List.lookup_append, lookup_given, Modifiers.restored]
    cases m.hasDefault && m.deferred.isNone <;> rfl
  have hdeferred : deferredOf (itemOrNull (attributes (modifierEntries kind m ++ rest))
      "deferredDefault") = .ok (.ofOption (m.restored.deferred.map fun d => .text d.text)) := by
    rw [get, hrest "deferredDefault" (by simp), Option.or_none, modifierEntries_eq]
    simp only [lookup_entry, List.lookup_append, lookup_given]
    cases m.restored.deferred with
    | none => rfl
    | some d => cases d <;> rfl
  have hdescription : itemOrNull (attributes (modifierEntries kind m ++ rest)) "description" =
      .ofText? m.restored.description := by
    rw [get, hrest "description" (by simp), Option.or_none, modifierEntries_eq]
    simp only [lookup_entry, List.lookup_append, lookup_given]
    cases m.restored.description <;> rfl
  have hoptional := hflag "optional" m.isOptional (by simp [modifierEntries_eq, lookup_entry])
  have hnullable := hflag "nullable" m.nullable (by simp [modifierEntries_eq, lookup_entry])
  have hhas := hflag "hasDefault" m.hasDefault (by simp [modifierEntries_eq, lookup_entry])
  unfold sharedAttributes
  rw [hdefault, hdeferred, hdescription, hoptional, hnullable, hhas]
  rfl

theorem readAttribute_attributes {check : Value → Checked α} (absent : Option α)
    (hv : es.lookup key = some v) (ha : check v = .ok a) :
    readAttribute key (attributes es) absent check = .ok a := by
  have hget : Value.field? key (attributes es) = some v := (item?_attributes ..).trans hv
  simp [readAttribute, hget, ha, Checked.under]

theorem readShared_givenAttributes (m : Modifiers) :
    readShared (givenAttributes m) = .ok m.restored := by
  have hdeferred : ∀ o : Option Deferred, Coercion.nullable (Coercion.oneOf deferredWords)
      (.ofOption (o.map fun d => .text d.text)) = .ok o := by
    rintro (_ | _ | _) <;> rfl
  have hdescription : ∀ o : Option String,
      Coercion.nullable Coercion.text (.ofText? o) = .ok o := by
    rintro (_ | s) <;> rfl
  unfold readShared readModifiers
  rw [readAttribute_attributes (v := .bool m.isOptional) (a := m.isOptional) _ rfl rfl,
    readAttribute_attributes (v := .bool m.nullable) (a := m.nullable) _ rfl rfl,
    readAttribute_attributes (v := .bool m.hasDefault) (a := m.hasDefault) _ rfl rfl,
    readAttribute_attributes (v := m.restored.default) (a := m.restored.default) _ rfl rfl,
    readAttribute_attributes (a := m.restored.deferred) _ rfl (hdeferred _),
    readAttribute_attributes (a := m.restored.description) _ rfl (hdescription _)]
  rfl

-- ---------------------------------------------------------------------------
-- Rules
-- ---------------------------------------------------------------------------

theorem nullable_int (o : Option Int) :
    Coercion.nullable Coercion.int (.ofOption (o.map .int) : Value) = .ok o := by
  cases o <;> rfl

theorem nullable_float (o : Option Binary64) :
    Coercion.nullable Coercion.float (.ofOption (o.map .float)) = .ok o := by
  cases o <;> rfl

theorem nullable_text (o : Option String) :
    Coercion.nullable Coercion.text (.ofOption (o.map .text) : Value) = .ok o := by
  cases o <;> rfl

theorem readTextRules_attributes (r : TextRules) :
    readTextRules (attributes [("max_length", .ofOption (r.maxLength.map .int)),
      ("min_length", .ofOption (r.minLength.map .int)),
      ("pattern", .ofOption (r.pattern.map .text)),
      ("is_uuid", .bool r.isUuid), ("is_email", .bool r.isEmail)]) = .ok r := by
  unfold readTextRules
  rw [readAttribute_attributes (a := r.maxLength) _ rfl (nullable_int _),
    readAttribute_attributes (a := r.minLength) _ rfl (nullable_int _),
    readAttribute_attributes (v := .bool r.isUuid) (a := r.isUuid) _ rfl rfl,
    readAttribute_attributes (v := .bool r.isEmail) (a := r.isEmail) _ rfl rfl,
    readAttribute_attributes (a := r.pattern) _ rfl (nullable_text _)]
  rfl

theorem readNumberRules_attributes (r : NumberRules) :
    readNumberRules (attributes [("is_integer", .bool r.isInteger),
      ("minimum", .ofOption (r.minimum.map .float)),
      ("maximum", .ofOption (r.maximum.map .float))]) = .ok r := by
  unfold readNumberRules
  rw [readAttribute_attributes (v := .bool r.isInteger) (a := r.isInteger) _ rfl rfl,
    readAttribute_attributes (a := r.minimum) _ rfl (nullable_float _),
    readAttribute_attributes (a := r.maximum) _ rfl (nullable_float _)]
  rfl

theorem readItemRules_attributes (r : ItemRules) :
    readItemRules (attributes [("min_items", .ofOption (r.minItems.map .int)),
      ("max_items", .ofOption (r.maxItems.map .int))]) = .ok r := by
  unfold readItemRules
  rw [readAttribute_attributes (a := r.minItems) _ rfl (nullable_int _),
    readAttribute_attributes (a := r.maxItems) _ rfl (nullable_int _)]
  rfl

theorem itemsFrom_text (values : List String) (start : Nat) :
    Coercion.itemsFrom Coercion.text start (values.map .text) = .ok values := by
  induction values generalizing start with
  | nil => rfl
  | cons v vs ih =>
    rw [List.map_cons, Coercion.itemsFrom, ih]
    rfl

theorem readChoices_attributes (values : List String) :
    readChoices (attributes [("values", .tuple (values.map .text))]) = .ok values := by
  unfold readChoices
  exact readAttribute_attributes _ rfl (itemsFrom_text values 0)

theorem readLiteral_attributes (v : Scalar) :
    readLiteral (attributes [("value", v.toValue)]) = .ok v := by
  unfold readLiteral
  refine readAttribute_attributes _ rfl ?_
  cases v <;> rfl

theorem hasFormat_formats (r : TextRules) :
    let given := Value.ofOption (if (formats r).isEmpty then none else some (.list (formats r)))
    hasFormat "uuid" given = .ok r.isUuid ∧ hasFormat "email" given = .ok r.isEmail := by
  obtain ⟨maxLength, minLength, isUuid, isEmail, pattern⟩ := r
  cases isUuid <;> cases isEmail <;> exact ⟨rfl, rfl⟩

theorem shapeOf_texts (shape : List (String × Field)) :
    shapeOf (shape.map fun e => (.text e.1, e.2)) = .ok shape := by
  unfold shapeOf
  rw [List.map_map]
  have h : Checked.all (shape.map fun e : String × Field => Checked.ok e) = .ok shape := by
    induction shape with
    | nil => rfl
    | cons e shape ih =>
      rw [List.map_cons, Checked.all, ih]
      rfl
  exact congrArg (Checked.under "shape") h

-- ---------------------------------------------------------------------------
-- Descriptors
-- ---------------------------------------------------------------------------

section

-- their equations are made once here, as the proofs below rewrite with them all at the same time
attribute [local simp] toDescriptor ofDescriptor

end

def modifierKeys : List String :=
  ["kind", "optional", "nullable", "hasDefault", "deferredDefault", "default", "description"]

theorem item?_rest (kind : String) (m : Modifiers) (hkey : key ∉ modifierKeys) :
    item? (attributes (modifierEntries kind m ++ rest)) key = rest.lookup key := by
  simp only [modifierKeys, List.mem_cons, List.not_mem_nil, or_false, not_or] at hkey
  obtain ⟨h1, h2, h3, h4, h5, h6, h7⟩ := hkey
  rw [item?_attributes, List.lookup_append, modifierEntries_eq]
  simp [lookup_entry, List.lookup_append, lookup_given, h1, h2, h3, h4, h5, h6, h7]

theorem itemOrNull_kind (kind : String) (m : Modifiers) (rest : List (String × Value)) :
    itemOrNull (attributes (modifierEntries kind m ++ rest)) "kind" = .text kind := by
  rw [itemOrNull, item?_attributes, List.lookup_append, modifierEntries_eq]
  simp [Value.ofOption]

theorem itemOrNull_rest (kind : String) (m : Modifiers) (hkey : key ∉ modifierKeys) :
    itemOrNull (attributes (modifierEntries kind m ++ rest)) key = .ofOption (rest.lookup key) :=
  congrArg Value.ofOption (item?_rest kind m hkey)

theorem textEntries_eq (r : TextRules) :
    textEntries r = given "maxLength" .int r.maxLength ++ given "minLength" .int r.minLength ++
      given "pattern" .text r.pattern ++ given "formats" (fun v => v)
        (if (formats r).isEmpty then none else some (.list (formats r))) := by
  unfold textEntries
  cases (formats r).isEmpty <;> rfl

theorem ofDescriptor_text (m : Modifiers) (r : TextRules) :
    ofDescriptor (toDescriptor (.text m r)) = .ok (.text m.restored r) := by
  have get : ∀ key, (textEntries r).lookup key = _ := fun key => by
    rw [textEntries_eq, List.lookup_append, List.lookup_append, List.lookup_append,
      lookup_given, lookup_given, lookup_given, lookup_given]
  have hd : toDescriptor (.text m r) =
      .map (attributes (modifierEntries "string" m ++ textEntries r)) := by
    rw [toDescriptor]
    rfl
  obtain ⟨huuid, hemail⟩ := hasFormat_formats r
  have hformats : itemOrNull (attributes (modifierEntries "string" m ++ textEntries r)) "formats" =
      .ofOption (if (formats r).isEmpty then none else some (.list (formats r))) := by
    rw [itemOrNull_rest "string" m (by decide), get]
    simp
  have hmax : itemOrNull (attributes (modifierEntries "string" m ++ textEntries r)) "maxLength" =
      .ofOption (r.maxLength.map .int) := by
    rw [itemOrNull_rest "string" m (by decide), get]
    simp
  have hmin : itemOrNull (attributes (modifierEntries "string" m ++ textEntries r)) "minLength" =
      .ofOption (r.minLength.map .int) := by
    rw [itemOrNull_rest "string" m (by decide), get]
    simp
  have hpattern : itemOrNull (attributes (modifierEntries "string" m ++ textEntries r)) "pattern" =
      .ofOption (r.pattern.map .text) := by
    rw [itemOrNull_rest "string" m (by decide), get]
    simp
  rw [hd, ofDescriptor, sharedAttributes_modifierEntries "string" m _ (by simp [get]),
    itemOrNull_kind, hformats, hmax, hmin, hpattern]
  simp only [huuid, hemail, bind, Except.bind, readShared_givenAttributes, readTextRules_attributes]
  rfl

theorem ofDescriptor_number (m : Modifiers) (r : NumberRules) :
    ofDescriptor (toDescriptor (.number m r)) = .ok (.number m.restored r) := by
  let rest := [("integer", .bool r.isInteger)] ++ given "minimum" .float r.minimum ++
    given "maximum" .float r.maximum
  have get : ∀ key, rest.lookup key = _ := fun key => by
    rw [List.lookup_append, List.lookup_append, lookup_given, lookup_given]
  have hd : toDescriptor (.number m r) =
      .map (attributes (modifierEntries "number" m ++ rest)) := by
    rw [toDescriptor]
    rfl
  have hmin : itemOrNull (attributes (modifierEntries "number" m ++ rest)) "minimum" =
      .ofOption (r.minimum.map .float) := by
    rw [itemOrNull_rest "number" m (by decide), get]
    simp [lookup_entry]
  have hmax : itemOrNull (attributes (modifierEntries "number" m ++ rest)) "maximum" =
      .ofOption (r.maximum.map .float) := by
    rw [itemOrNull_rest "number" m (by decide), get]
    simp [lookup_entry]
  have hinteger : flag (attributes (modifierEntries "number" m ++ rest)) "integer" =
      r.isInteger := by
    rw [flag, itemOrNull_rest "number" m (by decide)]
    rfl
  rw [hd, ofDescriptor, sharedAttributes_modifierEntries "number" m rest
    (by simp [get, lookup_entry]), itemOrNull_kind, hinteger, hmin, hmax]
  simp only [bind, Except.bind, readShared_givenAttributes, readNumberRules_attributes]
  rfl

theorem ofDescriptor_boolean (m : Modifiers) :
    ofDescriptor (toDescriptor (.boolean m)) = .ok (.boolean m.restored) := by
  have hd : toDescriptor (.boolean m) = .map (attributes (modifierEntries "boolean" m ++ [])) := by
    rw [toDescriptor]
    rfl
  rw [hd, ofDescriptor, sharedAttributes_modifierEntries "boolean" m [] (by simp), itemOrNull_kind]
  simp only [bind, Except.bind, readShared_givenAttributes]
  rfl

theorem ofDescriptor_date (m : Modifiers) :
    ofDescriptor (toDescriptor (.date m)) = .ok (.date m.restored) := by
  have hd : toDescriptor (.date m) = .map (attributes (modifierEntries "date" m ++ [])) := by
    rw [toDescriptor]
    rfl
  rw [hd, ofDescriptor, sharedAttributes_modifierEntries "date" m [] (by simp), itemOrNull_kind]
  simp only [bind, Except.bind, readShared_givenAttributes]
  rfl

theorem ofDescriptor_object (m : Modifiers) (shape : List (String × Field))
    (ih : shapeOfDescriptors (shapeDescriptors shape) =
      .ok ((restoredShape shape).map fun e => (.text e.1, e.2))) :
    ofDescriptor (toDescriptor (.object m shape)) =
      .ok (.object m.restored (restoredShape shape)) := by
  let rest : List (String × Value) := [("shape", .map (shapeDescriptors shape))]
  have hd : toDescriptor (.object m shape) =
      .map (attributes (modifierEntries "object" m ++ rest)) := by
    rw [toDescriptor]
    rfl
  have hitem : item? (attributes (modifierEntries "object" m ++ rest)) "shape" =
      some (.map (shapeDescriptors shape)) := item?_rest "object" m (by decide)
  rw [hd, ofDescriptor, sharedAttributes_modifierEntries "object" m rest (by simp [rest]),
    itemOrNull_kind]
  simp only [bind, Except.bind]
  split
  · rename_i shape' hshape
    obtain rfl := Value.map.inj (Option.some.inj (hshape.symm.trans hitem))
    rw [ih]
    simp only [readShared_givenAttributes, shapeOf_texts]
    rfl
  · rename_i v hne hv
    exact absurd (Option.some.inj (hv.symm.trans hitem)) (hne _)
  · rename_i hnone
    cases hnone.symm.trans hitem

theorem ofDescriptor_array (m : Modifiers) (element : Field) (r : ItemRules)
    (ih : ofDescriptor element.toDescriptor = .ok element.restored) :
    ofDescriptor (toDescriptor (.array m element r)) =
      .ok (.array m.restored element.restored r) := by
  let rest := [("element", element.toDescriptor)] ++ given "minItems" .int r.minItems ++
    given "maxItems" .int r.maxItems
  have get : ∀ key, rest.lookup key = _ := fun key => by
    rw [List.lookup_append, List.lookup_append, lookup_given, lookup_given]
  have hd : toDescriptor (.array m element r) =
      .map (attributes (modifierEntries "array" m ++ rest)) := by
    rw [toDescriptor]
    rfl
  have hitem : item? (attributes (modifierEntries "array" m ++ rest)) "element" =
      some element.toDescriptor := item?_rest "array" m (by decide)
  have hmin : itemOrNull (attributes (modifierEntries "array" m ++ rest)) "minItems" =
      .ofOption (r.minItems.map .int) := by
    rw [itemOrNull_rest "array" m (by decide), get]
    simp [lookup_entry]
  have hmax : itemOrNull (attributes (modifierEntries "array" m ++ rest)) "maxItems" =
      .ofOption (r.maxItems.map .int) := by
    rw [itemOrNull_rest "array" m (by decide), get]
    simp [lookup_entry]
  rw [hd, ofDescriptor,
    sharedAttributes_modifierEntries "array" m rest (by simp [get, lookup_entry]),
    itemOrNull_kind, hmin, hmax]
  simp only [bind, Except.bind]
  split
  · rename_i v hv
    obtain rfl := Option.some.inj (hv.symm.trans hitem)
    rw [ih]
    simp only [readShared_givenAttributes, readItemRules_attributes]
    rfl
  · rename_i hnone
    cases hnone.symm.trans hitem

theorem ofDescriptor_record (m : Modifiers) (value : Field)
    (ih : ofDescriptor value.toDescriptor = .ok value.restored) :
    ofDescriptor (toDescriptor (.record m value)) = .ok (.record m.restored value.restored) := by
  let rest : List (String × Value) := [("valueType", value.toDescriptor)]
  have hd : toDescriptor (.record m value) =
      .map (attributes (modifierEntries "record" m ++ rest)) := by
    rw [toDescriptor]
    rfl
  have hitem : item? (attributes (modifierEntries "record" m ++ rest)) "valueType" =
      some value.toDescriptor := item?_rest "record" m (by decide)
  rw [hd, ofDescriptor, sharedAttributes_modifierEntries "record" m rest (by simp [rest]),
    itemOrNull_kind]
  simp only [bind, Except.bind]
  split
  · rename_i v hv
    obtain rfl := Option.some.inj (hv.symm.trans hitem)
    rw [ih]
    simp only [readShared_givenAttributes]
    rfl
  · rename_i hnone
    cases hnone.symm.trans hitem

theorem ofDescriptor_choice (m : Modifiers) (values : List String) :
    ofDescriptor (toDescriptor (.choice m values)) = .ok (.choice m.restored values) := by
  let rest : List (String × Value) := [("values", .list (values.map .text))]
  have hd : toDescriptor (.choice m values) =
      .map (attributes (modifierEntries "enum" m ++ rest)) := by
    rw [toDescriptor]
    rfl
  have hitem : required (attributes (modifierEntries "enum" m ++ rest)) "values" =
      .ok (.list (values.map .text)) := by
    rw [required, item?_rest "enum" m (by decide)]
    rfl
  rw [hd, ofDescriptor, sharedAttributes_modifierEntries "enum" m rest (by simp [rest]),
    itemOrNull_kind, hitem]
  simp only [bind, Except.bind, Value.members?, readShared_givenAttributes, readChoices_attributes]
  rfl

theorem ofDescriptor_literal (m : Modifiers) (v : Scalar) :
    ofDescriptor (toDescriptor (.literal m v)) = .ok (.literal m.restored v) := by
  let rest : List (String × Value) := [("value", v.toValue)]
  have hd : toDescriptor (.literal m v) =
      .map (attributes (modifierEntries "literal" m ++ rest)) := by
    rw [toDescriptor]
    rfl
  have hitem : required (attributes (modifierEntries "literal" m ++ rest)) "value" =
      .ok v.toValue := by
    rw [required, item?_rest "literal" m (by decide)]
    rfl
  rw [hd, ofDescriptor, sharedAttributes_modifierEntries "literal" m rest (by simp [rest]),
    itemOrNull_kind, hitem]
  simp only [bind, Except.bind, readShared_givenAttributes, readLiteral_attributes]
  rfl

mutual
/-- Reading a field's descriptor back never fails. -/
theorem ofDescriptor_toDescriptor : ∀ f : Field, ofDescriptor f.toDescriptor = .ok f.restored
  | .text m r => ofDescriptor_text m r
  | .number m r => ofDescriptor_number m r
  | .boolean m => ofDescriptor_boolean m
  | .date m => ofDescriptor_date m
  | .object m shape => ofDescriptor_object m shape (shapeOfDescriptors_shapeDescriptors shape)
  | .array m element r => ofDescriptor_array m element r (ofDescriptor_toDescriptor element)
  | .record m value => ofDescriptor_record m value (ofDescriptor_toDescriptor value)
  | .choice m values => ofDescriptor_choice m values
  | .literal m v => ofDescriptor_literal m v

theorem shapeOfDescriptors_shapeDescriptors : ∀ shape : List (String × Field),
    shapeOfDescriptors (shapeDescriptors shape) =
      .ok ((restoredShape shape).map fun e => (.text e.1, e.2))
  | [] => by rw [shapeDescriptors, shapeOfDescriptors]; rfl
  | (name, f) :: rest => by
    rw [shapeDescriptors, shapeOfDescriptors, ofDescriptor_toDescriptor f,
      shapeOfDescriptors_shapeDescriptors rest]
    rfl
end

end Field

end TenantStore
