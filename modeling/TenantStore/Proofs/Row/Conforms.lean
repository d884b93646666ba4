import TenantStore.Proofs.Row.Checks
import TenantStore.Row

/-!
# Accepted rows conform to their table

`Conforms` relates a field, the value given for it and the value stored: objects have declared
members only, each with the value that is given or stands for it, a member that may be left out
and has no default is left out, and null stands only where it is allowed. With `filled` it allows
two more nulls: a member of a nested object is null instead of left out, and so is a literal that
is sent without its digits.

`insert_conforms`: a row that is accepted conforms with `filled`. It conforms without exactly if
its payload is given in full, down to the members of all objects in it.
-/

namespace TenantStore

def Table.Declares (t : Table) (fields : List (String × Field)) : Prop :=
  t.columns = fields.map fun (column, f) => (column, .field f)

namespace Row

-- ---------------------------------------------------------------------------
-- Conformance
-- ---------------------------------------------------------------------------

/-- What is given for a member, or the default that stands for it unless that is made later. -/
def given? (m : Modifiers) (found : Option Value) : Option Value :=
  found.or (if m.hasDefault && m.deferred.isNone then some m.default else none)

def NullOr (allowed : Bool) (conforms : Value → Value → Prop) (given stored : Value) : Prop :=
  (allowed = true ∧ given = .null ∧ stored = .null) ∨ conforms given stored

/-- What is stored for a member that is found or not; only an optional one without a default may
be missing, and `gap` is stored for it. -/
def MemberConforms (gap : Option Value) (m : Modifiers) (conforms : Value → Value → Prop)
    (found stored : Option Value) : Prop :=
  match given? m found with
  | some given => ∃ v, stored = some v ∧ NullOr (allowsNull m) conforms given v
  | none =>
    if m.hasDefault then ∃ v, stored = some v ∧ ∃ made, conforms (.text made) v
    else m.isOptional = true ∧ stored = gap

mutual
/-- A value is stored for a given one. Null is allowed around it or not. -/
def Conforms (filled : Bool) : Field → Bool → Value → Value → Prop
  | .text .., _, _, stored => ∃ s, stored = .text s
  | .number _ r, _, _, stored =>
    if r.isInteger then ∃ i, stored = .int i else ∃ x, stored = .float x ∧ x.isFinite = true
  | .boolean _, _, _, stored => ∃ b, stored = .bool b
  | .date _, _, _, stored => ∃ s, stored = .text s
  | .object _ shape, _, given, stored =>
    ∃ entries members, given = .map entries ∧ stored = .object members ∧
      ShapeConforms filled (if filled then some .null else none) shape entries members
  | .array _ element _, _, given, stored =>
    ∃ items kept, (given = .list items ∨ given = .tuple items) ∧ stored = .list kept ∧
      List.Forall₂ (NullOr element.modifiers.nullable
        (Conforms filled element element.modifiers.nullable)) items kept
  | .record _ value, _, given, stored =>
    ∃ entries kept, given = .map entries ∧ stored = .object kept ∧
      List.Forall₂ (fun e u => e.1 = .text u.1 ∧ NullOr value.modifiers.nullable
        (Conforms filled value value.modifiers.nullable) e.2 u.2) entries kept
  | .choice _ values, _, _, stored => ∃ s ∈ values, stored = .text s
  | .literal _ s, allowed, given, stored =>
    s.toValue.equal given = true ∧ stored = s.toValue.wire ∧
      (stored = .null → filled = true ∨ allowed = true)

/-- The members that are stored for the entries of a mapping, in the order of the shape. -/
def ShapeConforms (filled : Bool) (gap : Option Value) :
    List (String × Field) → List (Value × Value) → List (String × Value) → Prop
  | [], _, members => members = []
  | (column, f) :: rest, entries, members =>
    ∃ stored tail, members = (stored.map fun v => (column, v)).toList ++ tail ∧
      MemberConforms gap f.modifiers (Conforms filled f (allowsNull f.modifiers))
        (Value.field? column entries) stored ∧
      ShapeConforms filled gap rest entries tail
end

/-- The store fills some columns of a row, so these may be left out. -/
def rowField (column : String) (f : Field) : Field :=
  f.withModifiers fun m => if isServerMade column then m.asOptional else m

/-- A row is stored for a payload; what is left out of the row itself stays out. -/
def RowConforms (filled : Bool) (fields : List (String × Field)) (entries : List (Value × Value))
    (row : Row) : Prop :=
  ShapeConforms filled none (fields.map fun (column, f) => (column, rowField column f)) entries row

-- ---------------------------------------------------------------------------
-- Given in full
-- ---------------------------------------------------------------------------

mutual
/-- No object in a given value lacks a member that has no default, and no literal loses its digits
where null is not allowed. -/
def InFull : Field → Bool → Value → Prop
  | .object _ shape, _, given => match given with
    | .map entries => ShapeInFull true shape entries
    | _ => True
  | .array _ element _, _, given => match given with
    | .list items | .tuple items => ∀ v ∈ items, InFull element element.modifiers.nullable v
    | _ => True
  | .record _ value, _, given => match given with
    | .map entries => ∀ e ∈ entries, InFull value value.modifiers.nullable e.2
    | _ => True
  | .literal _ s, allowed, _ => s.toValue.wire = .null → allowed = true
  | _, _, _ => True

/-- The members of a nested object, or the columns of a row, which may be left out. -/
def ShapeInFull (nested : Bool) : List (String × Field) → List (Value × Value) → Prop
  | [], _ => True
  | (column, f) :: rest, entries =>
    (match given? f.modifiers (Value.field? column entries) with
      | some given => InFull f (allowsNull f.modifiers) given
      | none => nested = true → f.modifiers.hasDefault = true) ∧
    ShapeInFull nested rest entries
end

-- ---------------------------------------------------------------------------
-- Checked values conform
-- ---------------------------------------------------------------------------

variable {supply : Supply} {entries : List (Value × Value)}

theorem nullOr_of_ok {check : Value → Checked Value} {conforms : Value → Value → Prop}
    (h : orNull allowed check given = .ok v) (hc : check given = .ok v → conforms given v) :
    NullOr allowed conforms given v :=
  (orNull_ok h).imp id hc

theorem absent_ok {check : Value → Checked Value} {conforms : Value → Value → Prop}
    (h : absent true supply column position m (orNull (allowsNull m) check) = .ok stored)
    (hc : ∀ given v, check given = .ok v → conforms given v) :
    MemberConforms (some .null) m conforms none stored := by
  unfold absent at h
  unfold MemberConforms given?
  cases hd : m.hasDefault with
  | true =>
    simp only [hd, if_true, Checked.map_ok, Checked.under_ok] at h
    obtain ⟨v, hv, rfl⟩ := h
    cases hm : m.deferred with
    | none =>
      rw [hm] at hv
      exact ⟨v, rfl, nullOr_of_ok hv (hc _ _)⟩
    | some due =>
      rw [hm] at hv
      obtain ⟨-, h, -⟩ | hv := orNull_ok hv
      · cases h
      · exact ⟨v, rfl, _, hc _ _ hv⟩
  | false =>
    simp only [hd] at h
    cases ho : m.isOptional with
    | true =>
      simp only [ho] at h
      exact ⟨rfl, by simpa using h.symm⟩
    | false => simp [ho] at h

theorem member_ok {check : Value → Checked Value} {conforms : Value → Value → Prop}
    (h : member true supply column position m (orNull (allowsNull m) check) entries = .ok part)
    (hc : ∀ given v, check given = .ok v → conforms given v) :
    ∃ stored, part = (stored.map fun v => (column, v)).toList ∧
      MemberConforms (some .null) m conforms (Value.field? column entries) stored := by
  obtain ⟨stored, hs, rfl⟩ := Checked.map_ok.mp h
  refine ⟨stored, rfl, ?_⟩
  split at hs
  · rename_i given hg
    obtain ⟨v, hv, rfl⟩ := Checked.map_ok.mp hs
    rw [hg]
    exact ⟨v, rfl, nullOr_of_ok (Checked.under_ok.mp hv) (hc _ _)⟩
  · rename_i hg
    rw [hg]
    exact absent_ok hs hc

mutual
/-- By induction on the field, with the shapes of objects. -/
theorem check_conforms : (f : Field) → (allowed : Bool) → {supply : Supply} → {name : String} →
    {given stored : Value} → check true f supply name given = .ok stored →
    Conforms true f allowed given stored
  | .text _ r, _, _, _, _, _, h => checkText_ok h
  | .number _ r, _, _, _, _, _, h => checkNumber_ok h
  | .boolean _, _, _, _, _, _, h => checkBoolean_ok h
  | .date _, _, _, _, _, _, h => checkDate_ok h
  | .object _ shape, _, _, _, given, _, h => by
    cases given with
    | map entries =>
      obtain ⟨members, hm, rfl⟩ := Checked.map_ok.mp h
      exact ⟨entries, members, rfl, rfl, checkShape_conforms shape hm⟩
    | _ => cases h
  | .array _ element r, _, supply, name, given, stored, h => by
    have items : ∀ {vs}, checkItems r (fun i => orNull element.modifiers.nullable
        (check true element (supply.under (Decimal.natText i)) (name ++ "_item"))) vs =
          .ok stored →
        ∃ kept, stored = .list kept ∧ List.Forall₂ (NullOr element.modifiers.nullable
          (Conforms true element element.modifiers.nullable)) vs kept := fun h => by
      obtain ⟨kept, rfl, hk⟩ := checkItems_ok h
      refine ⟨kept, rfl, hk.imp ?_⟩
      rintro v u ⟨i, hi⟩
      exact nullOr_of_ok hi (check_conforms element _)
    cases given with
    | list vs =>
      obtain ⟨kept, rfl, hk⟩ := items h
      exact ⟨vs, kept, .inl rfl, rfl, hk⟩
    | tuple vs =>
      obtain ⟨kept, rfl, hk⟩ := items h
      exact ⟨vs, kept, .inr rfl, rfl, hk⟩
    | _ => cases h
  | .record _ value, _, _, _, given, _, h => by
    cases given with
    | map entries =>
      rw [check] at h
      obtain ⟨kept, rfl, hk⟩ := checkEntries_ok h
      refine ⟨entries, kept, rfl, rfl, hk.imp ?_⟩
      rintro e u ⟨hkey, hv⟩
      exact ⟨hkey, nullOr_of_ok hv (check_conforms value _)⟩
    | _ => cases h
  | .choice _ values, _, _, _, _, _, h => by
    obtain ⟨u, hu, -, rfl⟩ := checkAmong_ok h
    obtain ⟨s, hs, rfl⟩ := List.mem_map.mp hu
    exact ⟨s, hs, rfl⟩
  | .literal _ s, _, _, _, _, _, h =>
    have ⟨hequal, hstored⟩ := checkLiteral_ok h
    ⟨hequal, hstored, fun _ => .inl rfl⟩

theorem checkShape_conforms : (shape : List (String × Field)) → {supply : Supply} →
    {name : String} → {position : Nat} → {entries : List (Value × Value)} →
    {members : List (String × Value)} →
    checkShape true shape supply name position entries = .ok members →
    ShapeConforms true (some .null) shape entries members
  | [], _, _, _, _, _, h => (Checked.ok.inj h).symm
  | (column, f) :: rest, _, _, _, _, _, h => by
    obtain ⟨_, tail, hf, ht, rfl⟩ := Checked.both_ok.mp h
    obtain ⟨part, hp, rfl⟩ := Checked.map_ok.mp hf
    obtain ⟨stored, rfl, hs⟩ := member_ok hp fun given v => check_conforms f _
    exact ⟨stored, tail, rfl, hs, checkShape_conforms rest ht⟩
end

-- ---------------------------------------------------------------------------
-- When nothing is filled in
-- ---------------------------------------------------------------------------

theorem object_injective {es fs : List (String × Value)} (h : Value.object es = .object fs) :
    es = fs := by
  refine List.map_injective_iff.mpr ?_ (Value.map.inj h)
  rintro ⟨k, v⟩ ⟨l, w⟩ he
  simpa using he

theorem forall₂_iff_forall {R S : α → β → Prop} {P : α → Prop} (h : List.Forall₂ R as bs)
    (hiff : ∀ a b, R a b → (S a b ↔ P a)) : List.Forall₂ S as bs ↔ ∀ a ∈ as, P a := by
  induction h with
  | nil => simp
  | cons hr _ ih => simp [hiff _ _ hr, ih]

theorem inFull_null (f : Field) : InFull f true .null := by
  cases f <;> simp [InFull]

theorem inFull_of_text (h : Conforms true f allowed (.text made) stored) :
    InFull f allowed (.text made) := by
  cases f with
  | literal m s =>
    intro hs
    cases s <;> simp [Conforms, Scalar.toValue, Value.equal, Value.equalBy, Value.wire,
      Value.asInt?] at h hs
  | _ => simp [InFull]

theorem nullOr_iff (h : NullOr allowed (Conforms true f allowed) given stored)
    (ih : Conforms true f allowed given stored →
      (Conforms false f allowed given stored ↔ InFull f allowed given)) :
    NullOr allowed (Conforms false f allowed) given stored ↔ InFull f allowed given := by
  obtain ⟨rfl, rfl, rfl⟩ | hc := h
  · exact ⟨fun _ => inFull_null f, fun _ => .inl ⟨rfl, rfl, rfl⟩⟩
  · constructor
    · rintro (⟨rfl, rfl, -⟩ | hs)
      · exact inFull_null f
      · exact (ih hc).mp hs
    · intro hfull
      exact .inr ((ih hc).mpr hfull)

theorem memberConforms_stored (h : MemberConforms gap m conforms found stored) :
    stored.isSome = true ∨ stored = gap := by
  unfold MemberConforms at h
  split at h
  · obtain ⟨v, rfl, -⟩ := h
    exact .inl rfl
  · split at h
    · obtain ⟨v, rfl, -⟩ := h
      exact .inl rfl
    · exact .inr h.2

theorem shapeConforms_length (h : ShapeConforms filled gap shape entries members) :
    members.length ≤ shape.length ∧ (gap.isSome = true → members.length = shape.length) := by
  induction shape generalizing members with
  | nil => simp [ShapeConforms] at h; simp [h]
  | cons e rest ih =>
    obtain ⟨stored, tail, rfl, hm, ht⟩ := h
    obtain ⟨hle, heq⟩ := ih ht
    constructor
    · cases stored <;> simp <;> omega
    · intro hgap
      have hstored : stored.isSome = true := by
        obtain h | rfl := memberConforms_stored hm
        · exact h
        · exact hgap
      obtain ⟨v, rfl⟩ := Option.isSome_iff_exists.mp hstored
      simp [heq hgap]

/-- A stored member is first, so the rest is the rest. -/
theorem stored_iff {P : Value → Prop} {Q : List (String × Value) → Prop} :
    (∃ stored rest', (column, v) :: rest =
        (stored.map fun v : Value => (column, v)).toList ++ rest' ∧
      (∃ w, stored = some w ∧ P w) ∧ Q rest') ↔ P v ∧ Q rest := by
  constructor
  · rintro ⟨_, rest', heq, ⟨w, rfl, hw⟩, hr⟩
    obtain ⟨hvw, rfl⟩ := List.cons.inj heq
    obtain rfl := (Prod.mk.inj hvw).2
    exact ⟨hw, hr⟩
  · rintro ⟨hv, hr⟩
    exact ⟨some v, rest, rfl, ⟨v, rfl, hv⟩, hr⟩

mutual
theorem conforms_iff : (f : Field) → {allowed : Bool} → {given stored : Value} →
    Conforms true f allowed given stored →
    (Conforms false f allowed given stored ↔ InFull f allowed given)
  | .text .., _, _, _, h => iff_of_true h trivial
  | .number .., _, _, _, h => iff_of_true h trivial
  | .boolean _, _, _, _, h => iff_of_true h trivial
  | .date _, _, _, _, h => iff_of_true h trivial
  | .choice .., _, _, _, h => iff_of_true h trivial
  | .object _ shape, _, _, _, h => by
    obtain ⟨entries, members, rfl, rfl, hs⟩ := h
    refine Iff.trans ?_ (shapeConforms_iff shape hs)
    constructor
    · rintro ⟨_, _, hentries, hmembers, hs'⟩
      obtain rfl := Value.map.inj hentries
      obtain rfl := object_injective hmembers
      exact hs'
    · intro hs'
      exact ⟨entries, members, rfl, rfl, hs'⟩
  | .array m element r, allowed, given, _, h => by
    obtain ⟨items, kept, hgiven, rfl, hk⟩ := h
    have ih := forall₂_iff_forall (P := InFull element element.modifiers.nullable) hk
      fun v u hv => nullOr_iff hv (conforms_iff element)
    have hfull : InFull (.array m element r) allowed given ↔
        ∀ v ∈ items, InFull element element.modifiers.nullable v := by
      obtain rfl | rfl := hgiven <;> rfl
    rw [hfull, ← ih]
    constructor
    · rintro ⟨items', _, hgiven', hkept, hk'⟩
      obtain rfl := Value.list.inj hkept
      obtain rfl | rfl := hgiven <;> obtain h | h := hgiven' <;> cases h <;> exact hk'
    · intro hk'
      exact ⟨items, kept, hgiven, rfl, hk'⟩
  | .record _ value, _, _, _, h => by
    obtain ⟨entries, kept, rfl, rfl, hk⟩ := h
    refine Iff.trans ?_ (forall₂_iff_forall
      (S := fun e u => e.1 = .text u.1 ∧ NullOr value.modifiers.nullable
        (Conforms false value value.modifiers.nullable) e.2 u.2)
      (P := fun e => InFull value value.modifiers.nullable e.2) hk
      fun e u he => (and_iff_right he.1).trans (nullOr_iff he.2 (conforms_iff value)))
    constructor
    · rintro ⟨_, _, hentries, hkept, hk'⟩
      obtain rfl := Value.map.inj hentries
      obtain rfl := object_injective hkept
      exact hk'
    · intro hk'
      exact ⟨entries, kept, rfl, rfl, hk'⟩
  | .literal _ s, _, _, _, h => by
    obtain ⟨hequal, rfl, -⟩ := h
    simp [Conforms, InFull, hequal]

theorem shapeConforms_iff : (shape : List (String × Field)) → {gap : Option Value} →
    {entries : List (Value × Value)} → {members : List (String × Value)} →
    ShapeConforms true gap shape entries members →
    (ShapeConforms false none shape entries members ↔ ShapeInFull gap.isSome shape entries)
  | [], _, _, _, h => iff_of_true h trivial
  | (column, f) :: rest, gap, entries, _, h => by
    obtain ⟨stored, tail, rfl, hm, ht⟩ := h
    have ih := shapeConforms_iff rest ht
    unfold ShapeConforms ShapeInFull
    unfold MemberConforms at hm ⊢
    cases hg : given? f.modifiers (Value.field? column entries) with
    | some given =>
      rw [hg] at hm
      obtain ⟨v, rfl, hv⟩ := hm
      exact stored_iff.trans (and_congr (nullOr_iff hv (conforms_iff f)) ih)
    | none =>
      rw [hg] at hm
      cases hd : f.modifiers.hasDefault with
      | true =>
        rw [hd] at hm
        obtain ⟨v, rfl, made, hv⟩ := hm
        have hmade := (conforms_iff f hv).mpr (inFull_of_text hv)
        exact stored_iff.trans (and_congr (iff_of_true ⟨made, hmade⟩ fun _ => rfl) ih)
      | false =>
        rw [hd] at hm
        obtain ⟨ho, rfl⟩ := hm
        cases stored with
        | none =>
          constructor
          · rintro ⟨_, _, rfl, ⟨-, rfl⟩, ht'⟩
            exact ⟨nofun, ih.mp ht'⟩
          · rintro ⟨-, hfull⟩
            exact ⟨none, tail, rfl, ⟨ho, rfl⟩, ih.mpr hfull⟩
        | some v =>
          -- a member that is left out leaves too few for those that are stored
          have hlength := (shapeConforms_length ht).2 rfl
          constructor
          · rintro ⟨_, rest', heq, ⟨-, rfl⟩, ht'⟩
            obtain rfl : (column, v) :: tail = rest' := heq
            have hle := (shapeConforms_length ht').1
            rw [List.length_cons, hlength] at hle
            omega
          · rintro ⟨hfull, -⟩
            cases hfull rfl
end

-- ---------------------------------------------------------------------------
-- What conformance says of one object
-- ---------------------------------------------------------------------------

theorem shapeConforms_keys (h : ShapeConforms filled gap shape entries members) :
    (Assoc.keys members).Sublist (Assoc.keys shape) := by
  induction shape generalizing members with
  | nil =>
    cases h
    exact .slnil
  | cons e rest ih =>
    obtain ⟨stored, tail, rfl, -, ht⟩ := h
    cases stored with
    | none => exact (ih ht).cons _
    | some v => exact (ih ht).cons_cons _

theorem shapeConforms_required (h : ShapeConforms filled gap shape entries members)
    (hf : (column, f) ∈ shape) (hr : f.modifiers.isOptional = false) :
    column ∈ Assoc.keys members := by
  induction shape generalizing members with
  | nil => cases hf
  | cons e rest ih =>
    obtain ⟨stored, tail, rfl, hm, ht⟩ := h
    rw [Assoc.keys, List.map_append, List.mem_append]
    obtain rfl | hf := List.mem_cons.mp hf
    · left
      obtain ⟨v, rfl⟩ : ∃ v, stored = some v := by
        unfold MemberConforms at hm
        split at hm
        · exact hm.imp fun v hv => hv.1
        · split at hm
          · exact hm.imp fun v hv => hv.1
          · simp [hr] at hm
      simp
    · right
      exact ih ht hf

theorem shapeConforms_omitted (hdistinct : (Assoc.keys shape).Nodup)
    (h : ShapeConforms filled none shape entries members) (hf : (column, f) ∈ shape)
    (hfound : Value.field? column entries = none) (hd : f.modifiers.hasDefault = false) :
    column ∉ Assoc.keys members := by
  induction shape generalizing members with
  | nil => cases hf
  | cons e rest ih =>
    obtain ⟨stored, tail, rfl, hm, ht⟩ := h
    obtain ⟨hfirst, hdistinct⟩ := List.nodup_cons.mp hdistinct
    rw [Assoc.keys, List.map_append, List.mem_append, not_or]
    obtain rfl | hf := List.mem_cons.mp hf
    · constructor
      · simp only [MemberConforms, given?, hfound, hd] at hm
        obtain ⟨-, rfl⟩ := hm
        simp
      · exact fun hc => hfirst ((shapeConforms_keys ht).subset hc)
    · refine ⟨?_, ih hdistinct ht hf⟩
      have hne : column ≠ e.1 := by
        rintro rfl
        exact hfirst (List.mem_map.mpr ⟨_, hf, rfl⟩)
      cases stored <;> simp [hne]

theorem conforms_null (h : Conforms false f allowed given .null) : allowed = true := by
  cases f with
  | number m r =>
    simp only [Conforms] at h
    split at h <;> simp at h
  | literal m s => simpa using h.2.2 rfl
  | _ => simp [Conforms, Value.object] at h

theorem memberConforms_null
    (h : MemberConforms none m (Conforms false f (allowsNull m)) found (some .null)) :
    allowsNull m = true := by
  unfold MemberConforms at h
  split at h
  · obtain ⟨_, hv, ⟨ha, -, -⟩ | hc⟩ := h
    · exact ha
    · cases hv
      exact conforms_null hc
  · split at h
    · obtain ⟨_, hv, _, hc⟩ := h
      cases hv
      exact conforms_null hc
    · cases h.2

theorem shapeConforms_null (h : ShapeConforms false none shape entries members)
    (hv : (column, .null) ∈ members) :
    ∃ f, (column, f) ∈ shape ∧ allowsNull f.modifiers = true := by
  induction shape generalizing members with
  | nil =>
    cases h
    cases hv
  | cons e rest ih =>
    obtain ⟨stored, tail, rfl, hm, ht⟩ := h
    obtain hv | hv := List.mem_append.mp hv
    · obtain ⟨v, rfl, he⟩ := Option.map_eq_some_iff.mp (Option.mem_toList.mp hv)
      obtain ⟨rfl, rfl⟩ := Prod.mk.inj he
      exact ⟨e.2, List.mem_cons_self, memberConforms_null hm⟩
    · obtain ⟨f, hf, ha⟩ := ih ht hv
      exact ⟨f, List.mem_cons_of_mem _ hf, ha⟩

-- ---------------------------------------------------------------------------
-- Rows
-- ---------------------------------------------------------------------------

theorem modifiers_rowField (column : String) (f : Field) : (rowField column f).modifiers =
    { f.modifiers with isOptional := f.modifiers.isOptional || isServerMade column } := by
  cases hc : isServerMade column <;> cases f <;> simp [rowField, hc, Field.withModifiers,
    Field.modifiers, Modifiers.asOptional]

theorem conforms_rowField (filled : Bool) (column : String) (f : Field) :
    Conforms filled (rowField column f) = Conforms filled f := by
  cases f <;> rfl

theorem inFull_rowField (column : String) (f : Field) : InFull (rowField column f) = InFull f := by
  cases f <;> rfl

theorem newColumn_field (position : Nat) (column : String) (f : Field) :
    newColumn supply entries position column (.field f) =
      if (Value.field? column entries).isNone && !f.modifiers.hasDefault &&
          (f.modifiers.isOptional || isServerMade column) then .ok []
      else member true (supply.under column) column position f.modifiers
        (orNull (allowsNull f.modifiers)
          (check true f (supply.under column) (declarationName position))) entries := rfl

theorem memberConforms_none (h : MemberConforms gap m conforms found stored)
    (hin : found = none → m.hasDefault = false → m.isOptional = false) :
    MemberConforms none { m with isOptional := mayMiss } conforms found stored := by
  unfold MemberConforms at h ⊢
  change match given? m found with | some _ => _ | none => _
  cases hg : given? m found with
  | some given =>
    rw [hg] at h
    exact h
  | none =>
    rw [hg] at h
    have hfound : found = none := (Option.or_eq_none_iff.mp hg).1
    cases hd : m.hasDefault with
    | true =>
      rw [hd] at h
      exact h
    | false =>
      rw [hd] at h
      exact absurd h.1 (by simp [hin hfound hd])

theorem newColumn_ok {f : Field}
    (h : newColumn supply entries position column (.field f) = .ok part) :
    ∃ stored, part = (stored.map fun v => (column, v)).toList ∧
      MemberConforms none (rowField column f).modifiers
        (Conforms true f (allowsNull f.modifiers)) (Value.field? column entries) stored := by
  rw [modifiers_rowField]
  rw [newColumn_field] at h
  split at h
  · rename_i hout
    simp only [Bool.and_eq_true, Option.isNone_iff_eq_none, Bool.not_eq_true'] at hout
    obtain ⟨⟨hfound, hd⟩, ho⟩ := hout
    refine ⟨none, by simpa using h.symm, ?_⟩
    simp [MemberConforms, given?, hfound, hd, ho]
  · rename_i hin
    obtain ⟨stored, rfl, hs⟩ := member_ok h fun given v => check_conforms f _
    refine ⟨stored, rfl, memberConforms_none hs fun hfound hd => ?_⟩
    cases ho : f.modifiers.isOptional with
    | true => simp [hfound, hd, ho] at hin
    | false => rfl

theorem columns_conform (h : List.Forall₂ (fun (e : String × Declaration) part =>
      ∃ i, newColumn supply entries i e.1 e.2 = .ok part)
    (fields.map fun (column, f) => (column, .field f)) parts) :
    RowConforms true fields entries parts.flatten := by
  induction fields generalizing parts with
  | nil =>
    cases h
    exact rfl
  | cons e fields ih =>
    obtain ⟨column, f⟩ := e
    obtain _ | ⟨⟨i, hi⟩, ht⟩ := h
    obtain ⟨stored, rfl, hs⟩ := newColumn_ok hi
    refine ⟨stored, _, rfl, ?_, ih ht⟩
    have hallows : allowsNull (rowField column f).modifiers = allowsNull f.modifiers := by
      rw [modifiers_rowField]
      rfl
    rw [conforms_rowField, hallows]
    exact hs

theorem shapeInFull_rowField : ShapeInFull nested (fields.map fun (column, f) =>
    (column, rowField column f)) entries ↔ ShapeInFull nested fields entries := by
  induction fields with
  | nil => rfl
  | cons e fields ih =>
    obtain ⟨column, f⟩ := e
    simp only [List.map_cons, ShapeInFull, modifiers_rowField, inFull_rowField, ih]
    rfl

/-- A row that is accepted conforms but for nulls that are filled in, and there are none of these
exactly if the payload is given in full. -/
theorem insert_conforms [Pattern.Engine] {t : Table} (ht : t.Declares fields)
    (h : insert t supply payload table = .ok row) :
    ∃ entries, payload = .map entries ∧ RowConforms true fields entries row ∧
      (RowConforms false fields entries row ↔ ShapeInFull false fields entries) := by
  obtain ⟨entries, rfl, -, hrow⟩ := insert_ok.mp h
  obtain ⟨parts, hparts, rfl⟩ := Checked.map_ok.mp hrow
  rw [ht] at hparts
  have hconforms := columns_conform (Checked.all_mapIdx_ok hparts)
  exact ⟨entries, rfl, hconforms, (shapeConforms_iff _ hconforms).trans shapeInFull_rowField⟩

section

attribute [local instance] Pattern.Engine.unlimited

def profile : List (String × Field) :=
  [("profile", .object .plain
    [("nickname", .text (Modifiers.asOptional .plain) ⟨none, none, false, false, none⟩)])]

def profiles : Table :=
  ⟨profile.map fun (column, f) => (column, .field f), none, by decide⟩

def idle : Supply :=
  ⟨fun _ => ⟨⟨1970, 1, 1, by decide⟩, .midnight, some 0⟩, fun _ => ⟨0⟩⟩

theorem insert_conforms_given :
    let entries := [(.text "profile", .object [("nickname", .text "Ann")])]
    ∃ row, insert profiles idle (.map entries) none = .ok row ∧
      RowConforms false profile entries row := by
  intro entries
  have ht : profiles.Declares profile := by rfl
  have h : insert profiles idle (.map entries) none =
      .ok [("profile", .object [("nickname", .text "Ann")])] := by rfl
  obtain ⟨_, hentries, -, hiff⟩ := insert_conforms ht h
  obtain rfl := Value.map.inj hentries
  refine ⟨_, h, hiff.mpr ?_⟩
  exact ⟨⟨trivial, trivial⟩, trivial⟩

/-- Without one it does not, as the missing nickname is stored as null. -/
theorem insert_conforms_missing :
    let entries := [(.text "profile", .object [])]
    ∃ row, insert profiles idle (.map entries) none = .ok row ∧
      row = [("profile", .object [("nickname", .null)])] ∧
      ¬ RowConforms false profile entries row := by
  refine ⟨_, by rfl, rfl, ?_⟩
  rintro ⟨_, _, heq, ⟨v, rfl, ⟨ha, -⟩ | ⟨_, members, -, rfl, hs⟩⟩, -⟩
  · cases ha
  · obtain rfl := object_injective (Prod.mk.inj (List.cons.inj heq).1).2
    obtain ⟨f, hf, ha⟩ := shapeConforms_null hs List.mem_cons_self
    obtain rfl := (Prod.mk.inj (List.mem_singleton.mp hf)).2
    cases ha

end

end Row

end TenantStore
