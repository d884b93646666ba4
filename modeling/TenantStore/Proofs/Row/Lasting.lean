import TenantStore.Proofs.Row.Columns
import TenantStore.Proofs.Schema.Accepted
import TenantStore.Proofs.Time.WireText
import TenantStore.Proofs.Uuid.Text

/-!
# Rows given as payloads

A stored row can be given as a payload. `rows_last` says when it is stored as it is, for tables
that have no objects: always, unless one of two things was given for it. A literal without digits is
stored as null, which is not the literal. A time whose distance from UTC is less than a minute is
stored with a distance of zero and its sign, and zero is not stored in this way.
-/

namespace TenantStore

def Field.Flat (f : Field) : Prop :=
  ∀ m shape, ¬ (Field.object m shape).Within f

theorem Field.Flat.element {element : Field} (h : (Field.array m element r).Flat) : element.Flat :=
  fun m' shape hin => h m' shape (.element hin)

theorem Field.Flat.value {value : Field} (h : (Field.record m value).Flat) : value.Flat :=
  fun m' shape hin => h m' shape (.value hin)

namespace Checked

theorem all_cons_ok {x : Checked α} {xs : List (Checked α)} :
    all (x :: xs) = .ok (a :: as) ↔ x = .ok a ∧ all xs = .ok as := by
  simp [all_ok]

/-- Where each value that is kept is kept again exactly if its original has a property, all of them
are exactly if all originals have it. -/
theorem all_again {as : List α} {f : Nat → α → Checked β} {g : Nat → β → Checked β} {P : α → Prop}
    (h : all (as.mapIdx f) = .ok bs) (hagain : ∀ i j a b, f i a = .ok b → (g j b = .ok b ↔ P a)) :
    all (bs.mapIdx g) = .ok bs ↔ ∀ a ∈ as, P a := by
  have hkept := all_mapIdx_ok h
  clear h
  induction hkept generalizing g with
  | nil => simp [all]
  | cons hi _ ih =>
    obtain ⟨i, hi⟩ := hi
    rw [List.mapIdx_cons, all_cons_ok, List.forall_mem_cons, hagain i 0 _ _ hi]
    exact and_congr_right' (ih fun i j => hagain i (j + 1))

end Checked

namespace Row

open Checked

-- ---------------------------------------------------------------------------
-- Scalars
-- ---------------------------------------------------------------------------

theorem checkText_again (h : checkText r given = .ok v) : checkText r v = .ok v := by
  have hkept := checkText_kept h
  unfold checkText
  cases hr : r.isUuid with
  | true =>
    rw [hr, if_pos rfl] at hkept
    obtain ⟨u, rfl⟩ := hkept
    simp [checkUuid, Uuid.ofText_text]
  | false =>
    rw [hr] at hkept
    obtain ⟨s, rfl, hfault⟩ := hkept
    simp [hfault, orFault]

theorem checkNumber_again (h : checkNumber r given = .ok v) : checkNumber r v = .ok v := by
  have hkept := checkNumber_kept h
  unfold checkNumber
  cases hr : r.isInteger with
  | true =>
    rw [hr, if_pos rfl] at hkept
    obtain ⟨i, rfl, hfault⟩ := hkept
    simp [hfault, orFault]
  | false =>
    rw [hr] at hkept
    obtain ⟨x, rfl, hfault⟩ := hkept
    simp [checkFloat, hfault, orFault]

theorem checkBoolean_again (h : checkBoolean given = .ok v) : checkBoolean v = .ok v := by
  obtain ⟨b, rfl⟩ := checkBoolean_ok h
  rfl

theorem checkDate_wireText (t : DateTime) :
    checkDate (.text t.wireText) = .ok (.text t.wireText) ↔ t.Lasting := by
  rw [checkDate, TimeReading.ofText_wireText, ← wireText_shown]
  simp [Except.mapError, momentOr]

theorem momentOfInt_lasting (h : momentOfInt i = .ok t) : t.Lasting := by
  unfold momentOfInt at h
  split at h
  · exact TimeReading.ofUnix_lasting (TimeReading.mapError_ok.mp h)
  · simp only at h
    split at h
    · exact TimeReading.ofFloat_lasting (TimeReading.mapError_ok.mp h)
    · cases h

theorem checkDate_again (h : checkDate given = .ok v) :
    checkDate v = .ok v ↔ ∀ t, given = .datetime t → t.Lasting := by
  have other : ∀ r, checkDate given = momentOr r → (∀ t, r = .ok t → t.Lasting) →
      (∀ t, given ≠ .datetime t) →
      (checkDate v = .ok v ↔ ∀ t, given = .datetime t → t.Lasting) := by
    intro r hr hlasting hgiven
    obtain ⟨t, ht, rfl⟩ := momentOr_ok (hr.symm.trans h)
    refine iff_of_true ((checkDate_wireText t).mpr (hlasting t ht)) fun t' ht' => ?_
    exact absurd ht' (hgiven t')
  cases given with
  | datetime t =>
    obtain rfl : .text t.wireText = v := Checked.ok.inj h
    simpa using checkDate_wireText t
  | date d =>
    refine other (.ok ⟨d, .midnight, none⟩) rfl (fun t ht => ?_) (by simp)
    obtain rfl := Except.ok.inj ht
    exact nofun
  | int i => exact other _ rfl (fun t => momentOfInt_lasting) (by simp)
  | float x =>
    exact other _ rfl (fun t ht => TimeReading.ofFloat_lasting (TimeReading.mapError_ok.mp ht))
      (by simp)
  | text s =>
    exact other _ rfl (fun t ht => TimeReading.ofText_lasting (TimeReading.mapError_ok.mp ht))
      (by simp)
  | _ => simp [checkDate] at h

theorem text_equal {s : String} : (Value.text s).equal v = true ↔ v = .text s := by
  cases v with
  | text s' => simpa [Value.equal, Value.equalBy] using eq_comm
  | _ => simp [Value.equal, Value.equalBy]

theorem checkAmong_again {choices : List String}
    (h : checkAmong (choices.map .text) given = .ok v) :
    checkAmong (choices.map .text) v = .ok v := by
  obtain ⟨u, hu, hequal, rfl⟩ := checkAmong_ok h
  obtain ⟨s, -, rfl⟩ := List.mem_map.mp hu
  obtain rfl := text_equal.mp hequal
  exact h

theorem equal_wire {s : Scalar} (hs : s.toValue.wire ≠ .null) :
    s.toValue.equal s.toValue.wire = true := by
  cases s with
  | float x =>
    cases x with
    | finite => simp [Scalar.toValue, Value.wire, Binary64.isFinite, Value.equal, Value.equalBy,
        Binary64.equal, Binary64.compare?, Binary64.ratio?]
    | _ => simp [Scalar.toValue, Value.wire, Binary64.isFinite] at hs
  | _ => simp [Scalar.toValue, Value.wire, Value.equal, Value.equalBy, Value.asInt?]

theorem equal_null (s : Scalar) : s.toValue.equal .null = false := by
  cases s <;> simp [Scalar.toValue, Value.equal, Value.equalBy, Value.asInt?]

theorem tooLongFor_wire (s : Scalar) : tooLongFor s s.toValue.wire = false := by
  cases s <;> simp [Scalar.toValue, Value.wire, tooLongFor]

theorem checkLiteral_again (h : checkLiteral s given = .ok v) :
    orNull allowed (checkLiteral s) v = .ok v ↔ (s.toValue.wire = .null → allowed = true) := by
  obtain ⟨-, rfl⟩ := checkLiteral_ok h
  by_cases hs : s.toValue.wire = .null
  · have htooLong := tooLongFor_wire s
    rw [hs] at htooLong ⊢
    cases allowed with
    | true => simp [orNull]
    | false => simp [orNull, checkLiteral, htooLong, checkAmong, equal_null]
  · rw [orNull_of_ne hs]
    simp [checkLiteral, tooLongFor_wire, checkAmong, equal_wire hs, hs]

-- ---------------------------------------------------------------------------
-- Nested values
-- ---------------------------------------------------------------------------

theorem checkItems_again {check : Nat → Value → Checked Value} {P : Value → Prop}
    (check' : Nat → Value → Checked Value) (h : checkItems r check items = .ok w)
    (hagain : ∀ i j v u, check i v = .ok u → (check' j u = .ok u ↔ P v)) :
    ∃ kept, w = .list kept ∧ (checkItems r check' kept = .ok (.list kept) ↔ ∀ v ∈ items, P v) := by
  obtain ⟨hmax, hmin, kept, hkept, rfl⟩ := checkItems_ok_iff.mp h
  refine ⟨kept, rfl, ?_⟩
  have hlength : items.length = kept.length := (all_mapIdx_ok hkept).length_eq
  rw [hlength] at hmax hmin
  rw [← all_again hkept (g := fun j u => (check' j u).under (Decimal.natText j))
    fun i j v u hi => under_ok.trans (hagain i j v u (under_ok.mp hi)), checkItems_ok_iff]
  simp [hmax, hmin]

theorem map_object_ok {es : Checked (List (String × Value))} :
    es.map Value.object = .ok (.object kept) ↔ es = .ok kept := by
  rw [map_ok]
  constructor
  · rintro ⟨es', hes, heq⟩
    rwa [← object_injective heq]
  · exact fun hes => ⟨kept, hes, rfl⟩

theorem entry_ok {x : Checked Value} :
    both ((checkKey (.text key)).map Prod.mk) (x.under place) = .ok (key, u) ↔ x = .ok u := by
  simp [both_ok, map_ok, checkKey]

theorem checkEntries_again {check : Value → Value → Checked Value} {P : Value → Prop}
    (check' : Value → Value → Checked Value) (h : checkEntries check entries = .ok w)
    (hagain : ∀ k k' v u, check k v = .ok u → (check' k' u = .ok u ↔ P v)) :
    ∃ kept, w = .object kept ∧
      (checkEntries check' (kept.map fun (k, v) => (.text k, v)) = .ok (.object kept) ↔
        ∀ e ∈ entries, P e.2) := by
  obtain ⟨kept, rfl, hkept⟩ := checkEntries_ok h
  refine ⟨kept, rfl, map_object_ok.trans ?_⟩
  clear h
  induction hkept with
  | nil => simp [all]
  | @cons e u _ _ he _ ih =>
    obtain ⟨key, u⟩ := u
    rw [List.map_cons, List.map_cons, all_cons_ok, List.forall_mem_cons, ih]
    exact and_congr_left' (entry_ok.trans (hagain _ _ _ _ he.2))

/-- What is stored for a given value is stored as it is, where there are no objects. Null is allowed
around the value or not. -/
def Lasting : Field → Bool → Value → Prop
  | .date _, _, given => ∀ t, given = .datetime t → t.Lasting
  | .array _ element _, _, given => match given with
    | .list items | .tuple items => ∀ v ∈ items, Lasting element element.modifiers.nullable v
    | _ => True
  | .record _ value, _, given => match given with
    | .map entries => ∀ e ∈ entries, Lasting value value.modifiers.nullable e.2
    | _ => True
  | .literal _ s, allowed, _ => s.toValue.wire = .null → allowed = true
  | _, _, _ => True

theorem lasting_null (f : Field) : Lasting f true .null := by
  cases f <;> simp [Lasting]

/-- A text that passes a check stands for no literal without digits. -/
theorem lasting_text {s : String} (h : check whole f supply name (.text s) = .ok v) :
    Lasting f allowed (.text s) := by
  cases f with
  | literal m scalar =>
    have hequal := (checkLiteral_ok h).1
    cases scalar <;>
      simp [Scalar.toValue, Value.equal, Value.equalBy, Value.asInt?, Value.wire, Lasting]
        at hequal ⊢
  | _ => simp [Lasting]

theorem orNull_kept {check : Value → Checked Value} (h : check v = .ok v) :
    orNull allowed check v = .ok v := by
  unfold orNull
  split
  · rfl
  · exact h

theorem orNull_again {f : Field} {check check' : Value → Checked Value}
    (h : orNull allowed check given = .ok v)
    (hagain : check given = .ok v → (orNull allowed check' v = .ok v ↔ Lasting f allowed given)) :
    orNull allowed check' v = .ok v ↔ Lasting f allowed given := by
  obtain ⟨rfl, rfl, rfl⟩ | hc := orNull_ok h
  · exact iff_of_true rfl (lasting_null f)
  · exact hagain hc

/-- By induction on the field; what is made for a place, and its name, are of no account where
there are no objects. -/
theorem check_again : (f : Field) → f.Flat → {allowed : Bool} → {supply supply' : Supply} →
    {name name' : String} → {given v : Value} → check whole f supply name given = .ok v →
    (orNull allowed (check whole' f supply' name') v = .ok v ↔ Lasting f allowed given)
  | .text _ r, _, _, _, _, _, _, _, _, h => iff_of_true (orNull_kept (checkText_again h)) trivial
  | .number _ r, _, _, _, _, _, _, _, _, h =>
    iff_of_true (orNull_kept (checkNumber_again h)) trivial
  | .boolean _, _, _, _, _, _, _, _, _, h =>
    iff_of_true (orNull_kept (checkBoolean_again h)) trivial
  | .date _, _, _, _, _, _, _, _, v, h => by
    obtain ⟨t, rfl⟩ := checkDate_kept h
    rw [orNull_of_ne (by simp)]
    exact checkDate_again h
  | .object m shape, hflat, _, _, _, _, _, _, _, _ => (hflat m shape .here).elim
  | .array m element r, hflat, allowed, supply, supply', name, name', given, v, h => by
    have items : ∀ {vs}, checkItems r (fun i => orNull element.modifiers.nullable
        (check whole element (supply.under (Decimal.natText i)) (name ++ "_item"))) vs = .ok v →
        (orNull allowed (check whole' (.array m element r) supply' name') v = .ok v ↔
          ∀ u ∈ vs, Lasting element element.modifiers.nullable u) := by
      intro vs hvs
      obtain ⟨kept, rfl, hiff⟩ := checkItems_again (fun i => orNull element.modifiers.nullable
        (check whole' element (supply'.under (Decimal.natText i)) (name' ++ "_item"))) hvs
          fun i j v u hi => orNull_again hi fun hc => check_again element hflat.element hc
      rw [orNull_of_ne (by simp)]
      exact hiff
    cases given with
    | list vs => exact items h
    | tuple vs => exact items h
    | _ => cases h
  | .record m value, hflat, allowed, supply, supply', name, name', given, v, h => by
    cases given with
    | map entries =>
      rw [check] at h
      obtain ⟨kept, rfl, hiff⟩ := checkEntries_again (fun k => orNull value.modifiers.nullable
        (check whole' value (supply'.under k.placeName) (name' ++ "_value"))) h
          fun k k' v u hk => orNull_again hk fun hc => check_again value hflat.value hc
      rw [orNull_of_ne (by simp [Value.object])]
      exact hiff
    | _ => cases h
  | .choice _ choices, _, _, _, _, _, _, _, _, h =>
    iff_of_true (orNull_kept (checkAmong_again h)) trivial
  | .literal _ s, _, _, _, _, _, _, _, _, h => checkLiteral_again h

-- ---------------------------------------------------------------------------
-- Columns
-- ---------------------------------------------------------------------------

variable {supply supply' : Supply} {entries : List (Value × Value)} {i : Nat}

def asEntries (row : Row) : List (Value × Value) :=
  row.map fun (k, v) => (.text k, v)

theorem mem_of_field?_asEntries {row : Row} (h : Value.field? column (asEntries row) = some v) :
    (column, v) ∈ row := by
  obtain ⟨e, he, rfl⟩ := Option.map_eq_some_iff.mp h
  obtain ⟨⟨key, v⟩, hmem, rfl⟩ := List.mem_map.mp (List.mem_of_find?_eq_some he)
  have hkey : (Value.text key).equal (.text column) = true := by simpa using List.find?_some he
  obtain rfl := Value.text.inj (text_equal.mp hkey)
  exact hmem

theorem not_mem_of_field?_asEntries {row : Row}
    (h : Value.field? column (asEntries row) = none) : (column, v) ∉ row := by
  intro hmem
  have hnone := List.find?_eq_none.mp (Option.map_eq_none_iff.mp h) _ (List.mem_map_of_mem hmem)
  exact hnone (text_equal.mpr rfl)

theorem field?_asEntries {row : Row} {stored : Option Value}
    (h : ∀ v, (column, v) ∈ row ↔ stored = some v) :
    Value.field? column (asEntries row) = stored := by
  cases hv : Value.field? column (asEntries row) with
  | none =>
    refine (Option.eq_none_iff_forall_ne_some.mpr fun v hstored => ?_).symm
    exact not_mem_of_field?_asEntries hv ((h v).mpr hstored)
  | some v => exact ((h v).mp (mem_of_field?_asEntries hv)).symm

theorem columnwise_again {t : Table} {check check' : Nat → String → Declaration → Checked Row}
    (hsingle : ∀ i column d part, check i column d = .ok part → Single column part)
    (hsingle' : ∀ i column d part, check' i column d = .ok part → Single column part)
    (h : columnwise check t = .ok row) :
    columnwise check' t = .ok row ↔
      ∀ i column d, t.columns[i]? = some (column, d) → check' i column d = check i column d := by
  constructor
  · intro h' i column d hd
    obtain ⟨part, hpart, hiff⟩ := columnwise_column
      (fun i column d part hp => (hsingle i column d part hp).keys) h hd
    obtain ⟨part', hpart', hiff'⟩ := columnwise_column
      (fun i column d part hp => (hsingle' i column d part hp).keys) h' hd
    obtain rfl := (hsingle _ _ _ _ hpart).eq_of_iff (hsingle' _ _ _ _ hpart') fun v =>
      (hiff v).symm.trans (hiff' v)
    exact hpart'.trans hpart.symm
  · intro hsame
    rw [← h]
    unfold columnwise
    congr 2
    refine List.mapIdx_eq_mapIdx_iff.mpr fun i hi => ?_
    exact hsame i _ _ (List.getElem?_eq_getElem hi)

theorem field_again {f : Field} (hflat : f.Flat)
    (h : checkDeclaration whole supply name (.field f) given = .ok v) :
    ((checkDeclaration whole' supply' name' (.field f) v).under column).map
        (fun v => [(column, v)]) = .ok [(column, v)] ↔
      Lasting f (allowsNull f.modifiers) given := by
  have hagain : checkDeclaration whole' supply' name' (.field f) v = .ok v ↔
      Lasting f (allowsNull f.modifiers) given :=
    orNull_again h fun hc => check_again f hflat hc
  simpa [map_ok] using hagain

theorem made_lasting {f : Field} {s : String}
    (h : checkDeclaration whole supply name (.field f) (.text s) = .ok v) :
    Lasting f (allowsNull f.modifiers) (.text s) := by
  rw [checkDeclaration, orNull_of_ne (by simp)] at h
  exact lasting_text h

theorem newColumn_again {f : Field} {row : Row} (hflat : f.Flat)
    (h : newColumn supply entries i column (.field f) = .ok part)
    (hrow : ∀ v, (column, v) ∈ row ↔ (column, v) ∈ part) :
    newColumn supply' (asEntries row) i column (.field f) = .ok part ↔
      ∀ given, given? f.modifiers (Value.field? column entries) = some given →
        Lasting f (allowsNull f.modifiers) given := by
  -- a value that is stored for a given one, or for what stands for it
  have stored : ∀ {given v}, part = [(column, v)] →
      checkDeclaration true (supply.under column) (declarationName i) (.field f) given = .ok v →
      (newColumn supply' (asEntries row) i column (.field f) = .ok part ↔
        Lasting f (allowsNull f.modifiers) given) := by
    rintro given v rfl hv
    have hfound : Value.field? column (asEntries row) = some v :=
      field?_asEntries fun u => by simp [hrow, eq_comm]
    rw [newColumn_found hfound]
    exact field_again hflat hv
  cases hfound : Value.field? column entries with
  | some given =>
    rw [newColumn_found hfound] at h
    obtain ⟨v, hv, rfl⟩ := map_ok.mp h
    simpa [given?] using stored rfl (under_ok.mp hv)
  | none =>
    rw [newColumn_absent hfound] at h
    cases hd : f.modifiers.hasDefault with
    | true =>
      rw [hd, if_pos rfl] at h
      obtain ⟨v, hv, rfl⟩ := map_ok.mp h
      have hiff := stored rfl (under_ok.mp hv)
      unfold standIn at hv hiff
      cases hm : f.modifiers.deferred with
      | none => simpa [given?, hd, hm] using hiff
      | some due =>
        rw [hm] at hv hiff
        simpa [given?, hm] using hiff.mpr (made_lasting (under_ok.mp hv))
    | false =>
      rw [hd] at h
      have hgiven : given? f.modifiers none = none := by simp [given?, hd]
      split at h
      · contradiction
      · split at h
        · obtain rfl := Checked.ok.inj h
          have hnone : Value.field? column (asEntries row) = none :=
            field?_asEntries fun u => by simp [hrow]
          refine iff_of_true ?_ (by simp [hgiven])
          rw [newColumn_absent hnone, hd]
          rw [if_neg (by simp), if_pos ‹_›]
        · simp at h

theorem changedColumn_again {f : Field} {row : Row} (hflat : f.Flat)
    (h : changedColumn supply entries i column (.field f) = .ok part)
    (hrow : ∀ v, (column, v) ∈ row ↔ (column, v) ∈ part) :
    changedColumn supply' (asEntries row) i column (.field f) = .ok part ↔
      ∀ given, Value.field? column entries = some given →
        Lasting f (allowsNull f.modifiers) given := by
  cases hfound : Value.field? column entries with
  | none =>
    rw [changedColumn_absent hfound] at h
    obtain rfl := Checked.ok.inj h
    have hnone : Value.field? column (asEntries row) = none :=
      field?_asEntries fun u => by simp [hrow]
    exact iff_of_true (changedColumn_absent hnone) nofun
  | some given =>
    rw [changedColumn_found hfound] at h
    obtain ⟨v, hv, rfl⟩ := map_ok.mp h
    have hstored : Value.field? column (asEntries row) = some v :=
      field?_asEntries fun u => by simp [hrow, eq_comm]
    rw [changedColumn_found hstored]
    simpa using field_again hflat (under_ok.mp hv)

-- ---------------------------------------------------------------------------
-- Rows
-- ---------------------------------------------------------------------------

/-- Where the columns are fields, a row is put together again exactly if each of its fields is. -/
theorem fields_again {t : Table} {check : Nat → String → Declaration → Checked Row}
    {P : String → Field → Prop} (check' : Nat → String → Declaration → Checked Row)
    (ht : t.Declares fields)
    (hsingle : ∀ i column d part, check i column d = .ok part → Single column part)
    (hsingle' : ∀ i column d part, check' i column d = .ok part → Single column part)
    (h : columnwise check t = .ok row)
    (hagain : ∀ i column f part, (column, f) ∈ fields → check i column (.field f) = .ok part →
      (∀ v, (column, v) ∈ row ↔ (column, v) ∈ part) →
      (check' i column (.field f) = .ok part ↔ P column f)) :
    columnwise check' t = .ok row ↔ ∀ column f, (column, f) ∈ fields → P column f := by
  have column_again : ∀ i column f, (column, f) ∈ fields →
      t.columns[i]? = some (column, .field f) →
      (check' i column (.field f) = check i column (.field f) ↔ P column f) := by
    intro i column f hf hi
    obtain ⟨part, hpart, hiff⟩ := columnwise_column
      (fun i column d part hp => (hsingle i column d part hp).keys) h hi
    rw [hpart]
    exact hagain i column f part hf hpart hiff
  rw [columnwise_again hsingle hsingle' h]
  constructor
  · intro hsame column f hf
    obtain ⟨i, hi⟩ := ht.position hf
    exact (column_again i column f hf hi).mp (hsame i column _ hi)
  · intro hP i column d hd
    have hmem := List.mem_of_getElem? hd
    rw [ht] at hmem
    obtain ⟨⟨column, f⟩, hf, heq⟩ := List.mem_map.mp hmem
    obtain ⟨rfl, rfl⟩ := Prod.mk.inj heq
    exact (column_again i column f hf hd).mpr (hP column f hf)

/-- A row of a table without objects is stored as it is, where it is given as a payload, exactly if
each value that was given for it lasts. For a new row, a default was given for a column that was
not; what was made for one always lasts. -/
theorem rows_last [Pattern.Engine] {t : Table} (ht : t.Declares fields)
    (hflat : ∀ column f, (column, f) ∈ fields → f.Flat) :
    (∀ supply payload table row, insert t supply payload table = .ok row →
      ∃ entries, payload = .map entries ∧ ∀ supply' table',
        (insert t supply' (.object row) table' = .ok row ↔
          ∀ column f, (column, f) ∈ fields → ∀ given,
            given? f.modifiers (Value.field? column entries) = some given →
              Lasting f (allowsNull f.modifiers) given)) ∧
    ∀ supply payload table row, update t supply payload table = .ok row →
      ∃ entries, payload = .map entries ∧ ∀ supply' table',
        (update t supply' (.object row) table' = .ok row ↔
          ∀ column f, (column, f) ∈ fields → ∀ given,
            Value.field? column entries = some given →
              Lasting f (allowsNull f.modifiers) given) := by
  constructor
  · intro supply payload table row h
    obtain ⟨entries, rfl, hfault, hrow⟩ := insert_ok.mp h
    refine ⟨entries, rfl, fun supply' table' => ?_⟩
    have hagain := fields_again (newColumn supply' (asEntries row)) ht
      (fun _ _ _ _ => newColumn_single) (fun _ _ _ _ => newColumn_single) hrow
      fun i column f part hf => newColumn_again (hflat column f hf)
    rw [← hagain, insert_ok]
    constructor
    · rintro ⟨_, hentries, -, hrow'⟩
      obtain rfl := Value.map.inj hentries
      exact hrow'
    · exact fun hrow' => ⟨asEntries row, rfl, hfault, hrow'⟩
  · intro supply payload table row h
    obtain ⟨entries, rfl, hfault, hne, hrow⟩ := update_ok.mp h
    refine ⟨entries, rfl, fun supply' table' => ?_⟩
    have hagain := fields_again (changedColumn supply' (asEntries row)) ht
      (fun _ _ _ _ => changedColumn_single) (fun _ _ _ _ => changedColumn_single) hrow
      fun i column f part hf => changedColumn_again (hflat column f hf)
    rw [← hagain, update_ok]
    constructor
    · rintro ⟨_, hentries, -, -, hrow'⟩
      obtain rfl := Value.map.inj hentries
      exact hrow'
    · exact fun hrow' => ⟨asEntries row, rfl, hfault, hne, hrow'⟩

section

attribute [local instance] Pattern.Engine.unlimited

def visit : List (String × Field) :=
  [("time", .date .plain),
    ("noted", .text (Modifiers.withDeferred .now .plain) ⟨none, none, false, false, none⟩)]

def visits : Table :=
  ⟨visit.map fun (column, f) => (column, .field f), none, by decide⟩

theorem visit_flat : ∀ column f, (column, f) ∈ visit → f.Flat := by
  intro column f hf m shape hin
  simp only [visit, List.mem_cons, List.not_mem_nil, or_false, Prod.mk.injEq] at hf
  obtain ⟨-, rfl⟩ | ⟨-, rfl⟩ := hf <;> cases hin

def visited : DateTime :=
  ⟨⟨2024, 1, 2, by decide⟩, ⟨3, 4, 5, 120000, by decide⟩, some ⟨-19800, by decide⟩⟩

theorem rows_last_visit : ∃ row, insert visits idle (.object [("time", .datetime visited)]) none =
      .ok row ∧ ("time", .text "2024-01-02T03:04:05.120000-05:30") ∈ row ∧
    ∀ supply, insert visits supply (.object row) none = .ok row := by
  have h : insert visits idle (.object [("time", .datetime visited)]) none =
      .ok [("time", .text visited.wireText), ("noted", .text (idle.make .now))] := by rfl
  have htext : visited.wireText = "2024-01-02T03:04:05.120000-05:30" := by decide +kernel
  have ht : visits.Declares visit := by rfl
  obtain ⟨_, hentries, hiff⟩ := (rows_last ht visit_flat).1 _ _ _ _ h
  obtain rfl := Value.map.inj hentries
  refine ⟨_, h, htext ▸ List.mem_cons_self, fun supply => (hiff supply none).mpr ?_⟩
  intro column f hf given hgiven
  simp only [visit, List.mem_cons, List.not_mem_nil, or_false, Prod.mk.injEq] at hf
  obtain ⟨rfl, rfl⟩ | ⟨rfl, rfl⟩ := hf
  · obtain rfl : .datetime visited = given := Option.some.inj hgiven
    rintro _ ⟨⟩ o ho
    obtain rfl : (⟨-19800, by decide⟩ : Offset) = o := Option.some.inj ho
    exact .inr (by decide)
  · trivial

def limits : Table :=
  .ofList [("limit", .field (.literal .plain (.float (.infinite false))))] none

/-- It is stored as null, which is refused. -/
theorem rows_last_noDigits :
    insert limits idle (.object [("limit", .float (.infinite false))]) none =
      .ok [("limit", .null)] ∧
    insert limits idle (.object [("limit", .null)]) none =
      .error (.rejected [⟨"limit", "Input should be inf", "literal_error"⟩] none) := by
  refine ⟨by rfl, by rfl⟩

end

end Row

end TenantStore
