import TenantStore.Proofs.Row.Columns

/-!
# Where findings are placed

A check of a row comes to the members of the row, to the members, items and entries of these, and
so on. `mem_findings`: what it reports are the rules that any of these values breaks itself, each at
the keys and positions that lead to the value. Only a value that stands in for a member which is
missing is reported under the position of the member's field and not under its key (`Step.shown`).
-/

namespace TenantStore

namespace Checked

theorem mem_findings_under {x : Checked α} :
    fd ∈ (x.under key).findings ↔ ∃ inner ∈ x.findings, inner.under key = fd := by
  cases x <;> simp [under, findings]

theorem mem_findings_all {xs : List (Checked α)} :
    fd ∈ (all xs).findings ↔ ∃ x ∈ xs, fd ∈ x.findings := by
  rw [findings_all, List.mem_flatMap]

@[simp] theorem findings_ok (a : α) : (ok a).findings = [] := rfl

@[simp] theorem findings_fail (cause : Cause) : (fail cause : Checked α).findings = [⟨[], cause⟩] :=
  rfl

/-- A check that does not look into a value: it takes the value or refuses it. -/
def AtOnce (x : Checked α) : Prop :=
  (∃ a, x = .ok a) ∨ ∃ cause, x = .fail cause

theorem atOnce_ok (a : α) : AtOnce (ok a) := .inl ⟨a, rfl⟩

theorem atOnce_fail (cause : Cause) : AtOnce (fail cause : Checked α) := .inr ⟨cause, rfl⟩

end Checked

namespace Row

open Checked

-- ---------------------------------------------------------------------------
-- The values that a check comes to
-- ---------------------------------------------------------------------------

/-- A value with all that it is checked against. -/
structure Spot where
  field : Field
  nullable : Bool
  supply : Supply
  name : String
  value : Value

def Spot.check (s : Spot) : Checked Value :=
  orNull s.nullable (Row.check true s.field s.supply s.name) s.value

/-- From a value to a part of it, or to what stands in for a member that it lacks. -/
inductive Step
  | member (column : String)
  | standIn (column : String) (position : Nat)
  | item (position : Nat)
  | entry (key : Value)

namespace Step

def key : Step → String
  | .member column | .standIn column _ => column
  | .item i => Decimal.natText i
  | .entry k => k.placeName

def shown : Step → String
  | .standIn _ position => defaultPlace position
  | step => step.key

end Step

inductive Supplied (supply : Supply) (entries : List (Value × Value)) (position : Nat)
    (column : String) (m : Modifiers) : Step → Value → Prop
  | given (hv : Value.field? column entries = some v) :
    Supplied supply entries position column m (.member column) v
  | standIn (hv : Value.field? column entries = none) (hd : m.hasDefault = true) :
    Supplied supply entries position column m (.standIn column position) (Row.standIn supply m)

/-- The check of a value goes on to the parts of it. A list that is too long is not looked into. -/
inductive Part : Spot → Step → Spot → Prop
  | member (hf : shape[i]? = some (column, f))
      (hv : Supplied (supply.under column) entries i column f.modifiers step v) :
    Part ⟨.object m shape, nullable, supply, name, .map entries⟩ step
      ⟨f, allowsNull f.modifiers, supply.under column, name ++ "_" ++ Decimal.natText i, v⟩
  | item (hitems : given = .list items ∨ given = .tuple items)
      (hfit : ∀ n, r.maxItems = some n → (items.length : Int) ≤ n) (hv : items[i]? = some v) :
    Part ⟨.array m element r, nullable, supply, name, given⟩ (.item i)
      ⟨element, element.modifiers.nullable, supply.under (Decimal.natText i), name ++ "_item", v⟩
  | entry (hv : (k, v) ∈ entries) :
    Part ⟨.record m value, nullable, supply, name, .map entries⟩ (.entry k)
      ⟨value, value.modifiers.nullable, supply.under k.placeName, name ++ "_value", v⟩

/-- The way from a value to one that its check comes to. -/
inductive Leads : Spot → List Step → Spot → Prop
  | here : Leads s [] s
  | step (hp : Part s step t) (h : Leads t way u) : Leads s (step :: way) u

/-- A value breaks a rule itself: it is refused as it is, lacks a member, or has a key that is no
text. -/
inductive Breaks : Spot → List String → Cause → Prop
  | itself (h : s.check = .fail cause) : Breaks s [] cause
  | missing (hf : (column, f) ∈ shape) (hv : Value.field? column entries = none)
      (hd : f.modifiers.hasDefault = false) (ho : f.modifiers.isOptional = false) :
    Breaks ⟨.object m shape, nullable, supply, name, .map entries⟩ [column] .missing
  | key (hk : (k, v) ∈ entries) (htext : ∀ s, k ≠ .text s) :
    Breaks ⟨.record m value, nullable, supply, name, .map entries⟩ [k.placeName, "[key]"] .notText

variable {supply : Supply} {entries : List (Value × Value)} {i : Nat}

-- ---------------------------------------------------------------------------
-- Checks that do not look into a value
-- ---------------------------------------------------------------------------

theorem atOnce_orFault (fault : Option Cause) (a : α) : AtOnce (orFault fault a) := by
  cases fault with
  | none => exact atOnce_ok a
  | some cause => exact atOnce_fail cause

theorem atOnce_checkText (r : TextRules) (v : Value) : AtOnce (checkText r v) := by
  unfold checkText checkUuid
  split
  · split
    · exact atOnce_ok _
    · split
      · exact atOnce_ok _
      · exact atOnce_fail _
    · exact atOnce_fail _
  · split
    · exact atOnce_orFault _ _
    · exact atOnce_fail _

theorem atOnce_checkNumber (r : NumberRules) (v : Value) : AtOnce (checkNumber r v) := by
  unfold checkNumber
  split
  · exact atOnce_orFault _ _
  · exact atOnce_fail _
  · rename_i i
    unfold Coercion.floatOfInt
    simp only
    split
    · exact atOnce_orFault _ _
    · exact atOnce_fail _
  · exact atOnce_orFault _ _
  · exact atOnce_fail _

theorem atOnce_checkBoolean (v : Value) : AtOnce (checkBoolean v) := by
  unfold checkBoolean
  split
  · exact atOnce_ok _
  · exact atOnce_fail _

theorem atOnce_checkDate (v : Value) : AtOnce (checkDate v) := by
  have moment (r : Except Cause DateTime) : AtOnce (momentOr r) := by
    cases r with
    | ok t => exact atOnce_ok _
    | error cause => exact atOnce_fail cause
  unfold checkDate
  split
  case h_6 => exact atOnce_fail _
  all_goals exact moment _

theorem atOnce_checkAmong (values : List Value) (v : Value) : AtOnce (checkAmong values v) := by
  unfold checkAmong
  split
  · exact atOnce_ok _
  · exact atOnce_fail _

theorem atOnce_checkLiteral (s : Scalar) (v : Value) : AtOnce (checkLiteral s v) := by
  unfold checkLiteral
  split
  · exact atOnce_fail _
  · exact atOnce_checkAmong _ _

theorem atOnce_orNull {check : Value → Checked Value} (h : AtOnce (check v)) :
    AtOnce (orNull allowed check v) := by
  unfold orNull
  split
  · exact atOnce_ok _
  · exact h

theorem breaks_of_atOnce {s : Spot} (h : AtOnce s.check) (hfd : fd ∈ s.check.findings) :
    Breaks s fd.place fd.cause := by
  obtain ⟨a, ha⟩ | ⟨cause, hcause⟩ := h
  · rw [ha] at hfd
    cases hfd
  · rw [hcause, findings_fail, List.mem_singleton] at hfd
    subst hfd
    exact .itself hcause

-- ---------------------------------------------------------------------------
-- Checks that do
-- ---------------------------------------------------------------------------

theorem mem_findings_member {check : Value → Checked Value} :
    fd ∈ (member true supply column i m check entries).findings ↔
      (∃ step v, Supplied supply entries i column m step v ∧
        ∃ inner ∈ (check v).findings, inner.under step.shown = fd) ∨
      (Value.field? column entries = none ∧ m.hasDefault = false ∧ m.isOptional = false ∧
        fd = ⟨[column], .missing⟩) := by
  unfold member absent
  rw [findings_map]
  cases hv : Value.field? column entries with
  | some v =>
    simp only [findings_map, mem_findings_under, reduceCtorEq, false_and, or_false]
    constructor
    · intro h
      exact ⟨_, v, .given hv, h⟩
    · rintro ⟨step, w, hw, h⟩
      cases hw with
      | given hw => exact Option.some.inj (hv.symm.trans hw) ▸ h
      | standIn hnone => simp [hv] at hnone
  | none =>
    cases hd : m.hasDefault with
    | true =>
      simp only [if_true, findings_map, mem_findings_under, Bool.true_eq_false, false_and,
        and_false, or_false]
      constructor
      · intro h
        exact ⟨_, _, .standIn hv hd, h⟩
      · rintro ⟨step, w, hw, h⟩
        cases hw with
        | given hw => simp [hv] at hw
        | standIn => exact h
    | false =>
      have hnone : ¬ ∃ step v, Supplied supply entries i column m step v ∧
          ∃ inner ∈ (check v).findings, inner.under step.shown = fd := by
        rintro ⟨step, w, hw, -⟩
        cases hw with
        | given hw => simp [hv] at hw
        | standIn _ hd' => simp [hd] at hd'
      rw [or_iff_right hnone]
      cases m.isOptional <;> simp [fail, under, findings, Finding.under]

theorem mem_findings_checkShape : fd ∈ (checkShape true shape supply name i entries).findings ↔
    ∃ (j : Nat) (column : String) (f : Field), shape[j]? = some (column, f) ∧
      fd ∈ (member true (supply.under column) column (i + j) f.modifiers (orNull
        (allowsNull f.modifiers) (check true f (supply.under column)
          (name ++ "_" ++ Decimal.natText (i + j)))) entries).findings := by
  induction shape generalizing i with
  | nil => simp [checkShape]
  | cons e rest ih =>
    obtain ⟨column, f⟩ := e
    rw [checkShape, findings_both, findings_map, List.mem_append, ih]
    constructor
    · rintro (h | ⟨j, column', f', hj, h⟩)
      · exact ⟨0, column, f, rfl, h⟩
      · refine ⟨j + 1, column', f', hj, ?_⟩
        rwa [Nat.add_right_comm, Nat.add_assoc] at h
    · rintro ⟨j, column', f', hj, h⟩
      cases j with
      | zero =>
        obtain ⟨rfl, rfl⟩ := Prod.mk.inj (Option.some.inj hj)
        exact .inl h
      | succ j =>
        refine .inr ⟨j, column', f', hj, ?_⟩
        rwa [Nat.add_right_comm, Nat.add_assoc]

theorem mem_findings_items {check : Nat → Value → Checked Value} {items : List Value} :
    fd ∈ (all (items.mapIdx fun i v => (check i v).under (Decimal.natText i))).findings ↔
      ∃ (i : Nat) (v : Value), items[i]? = some v ∧
        ∃ inner ∈ (check i v).findings, inner.under (Decimal.natText i) = fd := by
  rw [mem_findings_all]
  constructor
  · rintro ⟨x, hx, hfd⟩
    obtain ⟨i, hi, rfl⟩ := List.mem_mapIdx.mp hx
    exact ⟨i, _, List.getElem?_eq_getElem hi, mem_findings_under.mp hfd⟩
  · rintro ⟨i, v, hv, h⟩
    obtain ⟨hi, rfl⟩ := List.getElem?_eq_some_iff.mp hv
    exact ⟨_, List.mem_mapIdx.mpr ⟨i, hi, rfl⟩, mem_findings_under.mpr h⟩

/-- The items of a list decide if there are not too many, unless all are in order and too few. -/
theorem checkItems_cases (r : ItemRules) (check : Nat → Value → Checked Value)
    (items : List Value) : AtOnce (checkItems r check items) ∨
      (∀ n, r.maxItems = some n → (items.length : Int) ≤ n) ∧ (checkItems r check items).findings =
        (all (items.mapIdx fun i v => (check i v).under (Decimal.natText i))).findings := by
  unfold checkItems
  split
  · exact .inl (atOnce_fail _)
  · rename_i hlong
    cases all (items.mapIdx fun i v => (check i v).under (Decimal.natText i)) with
    | ok vs => exact .inl (atOnce_orFault _ _)
    | bad fs =>
      refine .inr ⟨fun n hn => ?_, rfl⟩
      simpa [hn, Option.filter] using hlong

theorem findings_checkItems {check : Nat → Value → Checked Value} {items : List Value}
    (hfit : ∀ n, r.maxItems = some n → (items.length : Int) ≤ n)
    (h : fd ∈ (all (items.mapIdx fun i v => (check i v).under (Decimal.natText i))).findings) :
    fd ∈ (checkItems r check items).findings := by
  unfold checkItems
  split
  · rename_i n hn
    obtain ⟨hmax, hlong⟩ := Option.filter_eq_some_iff.mp hn
    exact absurd (hfit n hmax) (by simpa using hlong)
  · cases hall : all (items.mapIdx fun i v => (check i v).under (Decimal.natText i)) with
    | ok vs => simp [hall] at h
    | bad fs =>
      rw [hall] at h
      exact h

theorem mem_findings_checkEntries {check : Value → Value → Checked Value} :
    fd ∈ (checkEntries check entries).findings ↔ ∃ (k : Value) (v : Value), (k, v) ∈ entries ∧
      (((∀ s, k ≠ .text s) ∧ fd = ⟨[k.placeName, "[key]"], .notText⟩) ∨
        ∃ inner ∈ (check k v).findings, inner.under k.placeName = fd) := by
  have hkey (k : Value) : fd ∈ (checkKey k).findings ↔
      (∀ s, k ≠ .text s) ∧ fd = ⟨[k.placeName, "[key]"], .notText⟩ := by
    unfold checkKey
    split
    · simp
    · rename_i htext
      simp only [fail, under, findings, Finding.under, List.map_cons, List.map_nil,
        List.mem_singleton]
      exact ⟨fun h => ⟨htext, h⟩, fun h => h.2⟩
  unfold checkEntries
  simp only [findings_map, mem_findings_all, List.mem_map, Prod.exists]
  constructor
  · rintro ⟨_, ⟨k, v, hv, rfl⟩, h⟩
    rw [findings_both, findings_map, List.mem_append, hkey, mem_findings_under] at h
    exact ⟨k, v, hv, h⟩
  · rintro ⟨k, v, hv, h⟩
    refine ⟨_, ⟨k, v, hv, rfl⟩, ?_⟩
    rwa [findings_both, findings_map, List.mem_append, hkey, mem_findings_under]

-- ---------------------------------------------------------------------------
-- One value
-- ---------------------------------------------------------------------------

theorem check_object (m : Modifiers) (shape : List (String × Field)) (nullable : Bool)
    (supply : Supply) (name : String) (entries : List (Value × Value)) :
    (Spot.check ⟨.object m shape, nullable, supply, name, .map entries⟩).findings =
      (checkShape true shape supply name 0 entries).findings := by
  rw [Spot.check, orNull_of_ne (by simp), check, findings_map]

theorem check_record (m : Modifiers) (value : Field) (nullable : Bool) (supply : Supply)
    (name : String) (entries : List (Value × Value)) :
    Spot.check ⟨.record m value, nullable, supply, name, .map entries⟩ =
      checkEntries (fun k v =>
        Spot.check ⟨value, value.modifiers.nullable, supply.under k.placeName, name ++ "_value", v⟩)
        entries := by
  rw [Spot.check, orNull_of_ne (by simp), check]
  rfl

theorem check_array (m : Modifiers) (element : Field) (r : ItemRules) (nullable : Bool)
    (supply : Supply) (name : String) (h : given = .list items ∨ given = .tuple items) :
    Spot.check ⟨.array m element r, nullable, supply, name, given⟩ =
      checkItems r (fun i v => Spot.check
        ⟨element, element.modifiers.nullable, supply.under (Decimal.natText i), name ++ "_item", v⟩)
        items := by
  obtain rfl | rfl := h
  · rw [Spot.check, orNull_of_ne (by simp), check]
    rfl
  · rw [Spot.check, orNull_of_ne (by simp), check]
    rfl

theorem breaks_or_part {s : Spot} (hfd : fd ∈ s.check.findings) :
    Breaks s fd.place fd.cause ∨
      ∃ step t, Part s step t ∧ ∃ inner ∈ t.check.findings, inner.under step.shown = fd := by
  obtain ⟨field, nullable, supply, name, value⟩ := s
  have atOnce (h : AtOnce (Row.check true field supply name value)) :
      Breaks ⟨field, nullable, supply, name, value⟩ fd.place fd.cause :=
    breaks_of_atOnce (atOnce_orNull h) hfd
  cases field with
  | text m r => exact .inl (atOnce (atOnce_checkText r value))
  | number m r => exact .inl (atOnce (atOnce_checkNumber r value))
  | boolean m => exact .inl (atOnce (atOnce_checkBoolean value))
  | date m => exact .inl (atOnce (atOnce_checkDate value))
  | choice m values => exact .inl (atOnce (atOnce_checkAmong _ value))
  | literal m scalar => exact .inl (atOnce (atOnce_checkLiteral scalar value))
  | object m shape =>
    cases value with
    | map entries =>
      rw [check_object, mem_findings_checkShape] at hfd
      obtain ⟨i, column, f, hf, hfd⟩ := hfd
      rw [Nat.zero_add, mem_findings_member] at hfd
      obtain ⟨step, v, hv, hinner⟩ | ⟨hv, hd, ho, rfl⟩ := hfd
      · exact .inr ⟨step, _, .member hf hv, hinner⟩
      · exact .inl (.missing (List.mem_of_getElem? hf) hv hd ho)
    | _ => exact .inl (atOnce (atOnce_fail _))
  | array m element r =>
    have inItems {items : List Value} (h : value = .list items ∨ value = .tuple items) :
        Breaks ⟨.array m element r, nullable, supply, name, value⟩ fd.place fd.cause ∨
          ∃ step t, Part ⟨.array m element r, nullable, supply, name, value⟩ step t ∧
            ∃ inner ∈ t.check.findings, inner.under step.shown = fd := by
      rw [check_array m element r nullable supply name h] at hfd
      obtain h' | ⟨hfit, hitems⟩ := checkItems_cases r (fun i v => Spot.check
        ⟨element, element.modifiers.nullable, supply.under (Decimal.natText i), name ++ "_item", v⟩)
        items
      · refine .inl (breaks_of_atOnce ?_ ?_)
        all_goals rwa [check_array m element r nullable supply name h]
      · rw [hitems] at hfd
        obtain ⟨i, v, hv, hinner⟩ := mem_findings_items.mp hfd
        exact .inr ⟨.item i, _, .item h hfit hv, hinner⟩
    cases value with
    | list items => exact inItems (.inl rfl)
    | tuple items => exact inItems (.inr rfl)
    | _ => exact .inl (atOnce (atOnce_fail _))
  | record m field =>
    cases value with
    | map entries =>
      rw [check_record, mem_findings_checkEntries] at hfd
      obtain ⟨k, v, hv, ⟨htext, rfl⟩ | hinner⟩ := hfd
      · exact .inl (.key hv htext)
      · exact .inr ⟨.entry k, _, .entry hv, hinner⟩
    | _ => exact .inl (atOnce (atOnce_fail _))

theorem findings_part (hp : Part s step t) (h : fd ∈ t.check.findings) :
    fd.under step.shown ∈ s.check.findings := by
  cases hp with
  | member hf hv =>
    rw [check_object, mem_findings_checkShape]
    refine ⟨_, _, _, hf, ?_⟩
    rw [Nat.zero_add, mem_findings_member]
    exact .inl ⟨step, _, hv, fd, h, rfl⟩
  | item hitems hfit hv =>
    rw [check_array _ _ _ _ _ _ hitems]
    exact findings_checkItems hfit (mem_findings_items.mpr ⟨_, _, hv, fd, h, rfl⟩)
  | entry hv =>
    rw [check_record, mem_findings_checkEntries]
    exact ⟨_, _, hv, .inr ⟨fd, h, rfl⟩⟩

theorem findings_breaks (h : Breaks s place cause) : ⟨place, cause⟩ ∈ s.check.findings := by
  cases h with
  | itself h =>
    rw [h]
    exact List.mem_singleton.mpr rfl
  | missing hf hv hd ho =>
    obtain ⟨i, hi⟩ := List.mem_iff_getElem?.mp hf
    rw [check_object, mem_findings_checkShape]
    exact ⟨i, _, _, hi, mem_findings_member.mpr (.inr ⟨hv, hd, ho, rfl⟩)⟩
  | key hk htext =>
    rw [check_record, mem_findings_checkEntries]
    exact ⟨_, _, hk, .inl ⟨htext, rfl⟩⟩

-- ---------------------------------------------------------------------------
-- All values
-- ---------------------------------------------------------------------------

theorem findings_leads (hway : Leads s way t) (h : Breaks t place cause) :
    ⟨way.map Step.shown ++ place, cause⟩ ∈ s.check.findings := by
  induction hway with
  | here => exact findings_breaks h
  | step hp _ ih => exact findings_part hp (ih h)

/-- What a check finds is what any value that it comes to breaks itself, where the steps to this
value lead. -/
theorem mem_findings {s : Spot} : fd ∈ s.check.findings ↔ ∃ way t place, Leads s way t ∧
    Breaks t place fd.cause ∧ fd.place = way.map Step.shown ++ place := by
  constructor
  · intro h
    -- Each step shows as one key, so what gets shorter on the way is the place.
    generalize hplace : fd.place = place
    induction place generalizing s fd with
    | nil =>
      obtain h | ⟨step, t, -, inner, -, rfl⟩ := breaks_or_part h
      · exact ⟨[], s, [], .here, hplace ▸ h, rfl⟩
      · simp [Finding.under] at hplace
    | cons key rest ih =>
      obtain h | ⟨step, t, hp, inner, hinner, rfl⟩ := breaks_or_part h
      · exact ⟨[], s, key :: rest, .here, hplace ▸ h, rfl⟩
      · obtain ⟨rfl, hrest⟩ := List.cons.inj hplace
        obtain ⟨way, u, last, hway, hu, rfl⟩ := ih hinner hrest
        exact ⟨step :: way, u, last, .step hp hway, hu, rfl⟩
  · rintro ⟨way, t, last, hway, ht, hplace⟩
    have h := findings_leads hway ht
    rwa [← hplace] at h

-- ---------------------------------------------------------------------------
-- Rows
-- ---------------------------------------------------------------------------

def rowSpot (fields : List (String × Field)) (supply : Supply) (entries : List (Value × Value)) :
    Spot :=
  ⟨.object .plain (fields.map fun c => (c.1, rowField c.1 c.2)), false, supply, modelName,
    .map entries⟩

theorem check_rowField (whole : Bool) (column : String) (f : Field) :
    check whole (rowField column f) = check whole f := by
  cases f <;> rfl

theorem findings_newColumn (supply : Supply) (entries : List (Value × Value)) (i : Nat)
    (column : String) (f : Field) : (newColumn supply entries i column (.field f)).findings =
      (member true (supply.under column) column i (rowField column f).modifiers
        (orNull (allowsNull (rowField column f).modifiers)
          (check true (rowField column f) (supply.under column) (declarationName i)))
        entries).findings := by
  rw [newColumn_field, check_rowField, modifiers_rowField]
  unfold member absent
  cases hv : Value.field? column entries with
  | some v => rfl
  | none =>
    cases f.modifiers.hasDefault with
    | true => rfl
    | false => cases f.modifiers.isOptional <;> cases isServerMade column <;> rfl

theorem findings_columns {t : Table} (ht : t.Declares fields) (supply : Supply)
    (entries : List (Value × Value)) : (columnwise (newColumn supply entries) t).findings =
      (rowSpot fields supply entries).check.findings := by
  have columns (i : Nat) (fields : List (String × Field)) :
      ((fields.map fun c => (c.1, Declaration.field c.2)).mapIdx fun j c =>
          newColumn supply entries (i + j) c.1 c.2).flatMap findings =
        (checkShape true (fields.map fun c => (c.1, rowField c.1 c.2)) supply modelName i
          entries).findings := by
    induction fields generalizing i with
    | nil => rfl
    | cons c fields ih =>
      simp only [List.map_cons, List.mapIdx_cons, List.flatMap_cons, checkShape, findings_both,
        findings_map, ← ih, Nat.add_zero, Nat.add_assoc, Nat.add_comm 1]
      rw [findings_newColumn]
      rfl
  rw [rowSpot, check_object, ← columns, columnwise, findings_map, findings_all, ht]
  simp only [Nat.zero_add]

end Row

end TenantStore
