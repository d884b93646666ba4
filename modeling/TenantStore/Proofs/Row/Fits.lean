import TenantStore.Proofs.Row.Nulls
import TenantStore.Proofs.Schema.Accepted

/-!
# Stored values fit their columns

The type of a column is read off its field, and so is the check of its values. `row_fits` compares
the two: a value that is stored is one that the column's type can hold. Of an integer this is said
only as far as the field's own bounds go, as the check knows no others
(`row_fits_largeInteger`).
-/

namespace TenantStore

open Sql

def NumberRules.Bounds (r : NumberRules) (i : Int) : Prop :=
  (∀ n, Row.integerBound r.minimum = some n → n ≤ i) ∧
    ∀ n, Row.integerBound r.maximum = some n → i ≤ n

/-- A value that a column of a type and length can hold. The size of an integer is up to what is
declared for the column. -/
def Declaration.Fits (d : Declaration) (type : ColumnType × Option Int) (v : Value) : Prop :=
  match type with
  | (.varchar, length) => ∃ n s, length = some n ∧ v = .text s ∧ (s.length : Int) ≤ n
  | (.uuid, _) => ∃ u : Uuid, v = .text u.text
  | (.boolean, _) => ∃ b, v = .bool b
  | (.timestamp, _) => ∃ t : DateTime, v = .text t.wireText
  | (.integer, _) => ∃ m r i, d = .field (.number m r) ∧ v = .int i ∧ r.Bounds i
  | _ => True

namespace Row

open Checked

variable {supply : Supply} {entries : List (Value × Value)} {i : Nat}

-- ---------------------------------------------------------------------------
-- What the check of a field lets through
-- ---------------------------------------------------------------------------

theorem filter_eq_none {b : Option Int} {p : Int → Bool} (h : b.filter p = none)
    (hn : b = some n) : p n = false := by
  simpa [hn] using h

theorem length_of_textFault? (h : textFault? r s = none) (hn : r.maxLength = some n) :
    (s.length : Int) ≤ n := by
  unfold textFault? at h
  split at h
  · cases h
  · rename_i hmax
    simpa using filter_eq_none (Option.eq_none_iff_forall_ne_some.mpr hmax) hn

theorem bounds_of_integerFault? {k : Int} (h : integerFault? r k = none) : r.Bounds k := by
  unfold integerFault? at h
  split at h
  · cases h
  · rename_i hmax
    refine ⟨fun n hn => ?_, fun n hn => ?_⟩
    · simpa using filter_eq_none (Option.map_eq_none_iff.mp h) hn
    · simpa using filter_eq_none (Option.eq_none_iff_forall_ne_some.mpr hmax) hn

theorem fits_of_check {f : Field} (h : check whole f supply name given = .ok v) :
    (Declaration.field f).Fits (Column.typeOf f) v := by
  cases f with
  | text m r =>
    have hkept := checkText_kept h
    cases hr : r.isUuid with
    | true =>
      rw [hr, if_pos rfl] at hkept
      rw [show Column.typeOf (.text m r) = (.uuid, none) by simp [Column.typeOf, hr]]
      exact hkept
    | false =>
      rw [hr] at hkept
      obtain ⟨s, rfl, hfault⟩ := hkept
      cases hn : r.maxLength with
      | none =>
        rw [show Column.typeOf (.text m r) = (.text, none) by simp [Column.typeOf, hr, hn]]
        trivial
      | some n =>
        by_cases hle : n ≤ Column.maxVarcharLength
        · rw [show Column.typeOf (.text m r) = (.varchar, some n) by
            simp [Column.typeOf, hr, hn, hle]]
          exact ⟨n, s, rfl, rfl, length_of_textFault? hfault hn⟩
        · rw [show Column.typeOf (.text m r) = (.text, none) by simp [Column.typeOf, hr, hn, hle]]
          trivial
  | number m r =>
    have hkept := checkNumber_kept h
    cases hr : r.isInteger with
    | true =>
      rw [hr, if_pos rfl] at hkept
      obtain ⟨k, rfl, hfault⟩ := hkept
      rw [show Column.typeOf (.number m r) = (.integer, none) by simp [Column.typeOf, hr]]
      exact ⟨m, r, k, rfl, rfl, bounds_of_integerFault? hfault⟩
    | false =>
      rw [show Column.typeOf (.number m r) = (.numeric, none) by simp [Column.typeOf, hr]]
      trivial
  | boolean m => exact checkBoolean_ok h
  | date m => exact checkDate_kept h
  | _ => trivial

theorem fits_of_checkDeclaration (h : checkDeclaration whole supply name d given = .ok v)
    (hv : v ≠ .null) : d.Fits (Column.typeOfDeclaration d) v := by
  cases d with
  | field f =>
    obtain ⟨-, -, hnull⟩ | hc := orNull_ok h
    · exact absurd hnull hv
    · exact fits_of_check hc
  | unknown kind m => trivial
  | foreign w => trivial

-- ---------------------------------------------------------------------------
-- What stands in a row
-- ---------------------------------------------------------------------------

def Passes (d : Declaration) (v : Value) : Prop :=
  ∃ whole supply name given, checkDeclaration whole supply name d given = .ok v

theorem newColumn_passes (h : newColumn supply entries i column d = .ok part)
    (hv : (column, v) ∈ part) : Passes d v := by
  unfold newColumn at h
  simp only at h
  split at h
  · obtain rfl := Checked.ok.inj h
    cases hv
  · rename_i hin
    obtain ⟨stored, hs, rfl⟩ := map_ok.mp h
    obtain ⟨w, rfl, he⟩ := Option.map_eq_some_iff.mp (Option.mem_toList.mp hv)
    obtain rfl := (Prod.mk.inj he).2
    split at hs
    · obtain ⟨w, hw, he⟩ := map_ok.mp hs
      obtain rfl := Option.some.inj he
      exact ⟨_, _, _, _, under_ok.mp hw⟩
    · rename_i hfound
      unfold absent at hs
      split at hs
      · obtain ⟨w, hw, he⟩ := map_ok.mp hs
        obtain rfl := Option.some.inj he
        exact ⟨_, _, _, _, under_ok.mp hw⟩
      · split at hs
        · -- an optional member without a default is left out
          simp_all
        · simp at hs

theorem changedColumn_passes (h : changedColumn supply entries i column d = .ok part)
    (hv : (column, v) ∈ part) : Passes d v := by
  unfold changedColumn at h
  split at h
  · obtain rfl := Checked.ok.inj h
    cases hv
  · obtain ⟨w, hw, rfl⟩ := map_ok.mp h
    obtain rfl := (Prod.mk.inj (List.mem_singleton.mp hv)).2
    exact ⟨_, _, _, _, under_ok.mp hw⟩

theorem columnwise_passes {t : Table} {check : Nat → String → Declaration → Checked Row}
    (keys : ∀ i column d part, check i column d = .ok part → ∀ e ∈ part, e.1 = column)
    (passes : ∀ i column d part v, check i column d = .ok part → (column, v) ∈ part → Passes d v)
    (h : columnwise check t = .ok row) (hv : (column, v) ∈ row) :
    ∃ d, (column, d) ∈ t.columns ∧ Passes d v := by
  obtain ⟨⟨_, d⟩, hd, rfl⟩ := List.mem_map.mp (columnwise_keys keys h _ hv)
  obtain ⟨i, hi⟩ := List.mem_iff_getElem?.mp hd
  obtain ⟨part, hpart, hiff⟩ := columnwise_column keys h hi
  exact ⟨d, hd, passes i _ d part v hpart ((hiff v).mp hv)⟩

end Row

-- ---------------------------------------------------------------------------
-- The columns of a defined table
-- ---------------------------------------------------------------------------

theorem Table.unique {t : Table} (hd : (name, d) ∈ t.columns) (hd' : (name, d') ∈ t.columns) :
    d = d' :=
  (Prod.mk.inj (List.inj_on_of_nodup_map t.distinct hd hd' rfl)).2

namespace Sql.Definition

/-- A standard column has the type of what may be declared for it, and any other column that of
what is. -/
theorem column_type {t : Table} {name : String} (ht : t.Accepted name)
    (hd : (ofTable table t).result = .ok d) (hc : c ∈ d.columns)
    (hdecl : (c.name, decl) ∈ t.columns) :
    (c.type, c.length) = Column.typeOfDeclaration decl := by
  have haccepted := ht.columns _ hdecl
  obtain ⟨columns, hcolumns, rfl⟩ := ofTable_ok.mp hd
  simp only [ofColumns, List.mem_append, List.mem_singleton, List.mem_map] at hc
  obtain (rfl | hc) | ⟨column, hcolumn, rfl⟩ := hc
  · obtain ⟨m, r, rfl, hr⟩ := haccepted.identity rfl
    simp [idColumn, Column.typeOfDeclaration, Column.typeOf, hr]
  · obtain ⟨⟨column, decl'⟩, hmem, hof⟩ := mem_of_compiled hcolumns hc
    obtain ⟨m, default, -, -, rfl⟩ := Column.ofDeclaration_ok.mp hof
    obtain rfl := Table.unique hdecl (List.mem_filter.mp hmem).1
    rfl
  · have hcolumn : column = "created_at" ∨ column = "updated_at" := by
      simpa [timestampColumns] using hcolumn
    obtain ⟨m, rfl⟩ := haccepted.timestamp hcolumn
    rfl

end Sql.Definition

namespace Schema

/-- What an accepted row or change of a defined table holds under a column of the compiled table,
null apart, is a value of this column's type. -/
theorem row_fits [Pattern.Engine] {tables : List (String × Table)} {version : Int} {s : Schema}
    {t : Table} (h : define tables version = .ok s) (ht : (name, t) ∈ s.tables)
    (hd : (Definition.ofTable name t).result = .ok d) (hc : c ∈ d.columns) (hv : v ≠ .null) :
    (∀ supply payload table row, Row.insert t supply payload table = .ok row →
      (c.name, v) ∈ row →
      ∃ decl, (c.name, decl) ∈ t.columns ∧ decl.Fits (c.type, c.length) v) ∧
    (∀ supply payload table row, Row.update t supply payload table = .ok row →
      (c.name, v) ∈ row →
      ∃ decl, (c.name, decl) ∈ t.columns ∧ decl.Fits (c.type, c.length) v) := by
  have fits : (∃ decl, (c.name, decl) ∈ t.columns ∧ Row.Passes decl v) →
      ∃ decl, (c.name, decl) ∈ t.columns ∧ decl.Fits (c.type, c.length) v := by
    rintro ⟨decl, hdecl, _, _, _, _, hpasses⟩
    refine ⟨decl, hdecl, ?_⟩
    rw [Definition.column_type (accepted_of_define h ht) hd hc hdecl]
    exact Row.fits_of_checkDeclaration hpasses hv
  refine ⟨fun supply payload table row hrow hmem => fits ?_,
    fun supply payload table row hrow hmem => fits ?_⟩
  · obtain ⟨entries, -, -, hrow⟩ := Row.insert_ok.mp hrow
    exact Row.columnwise_passes (fun _ _ _ _ => Row.newColumn_keys)
      (fun _ _ _ _ _ => Row.newColumn_passes) hrow hmem
  · obtain ⟨entries, -, -, -, hrow⟩ := Row.update_ok.mp hrow
    exact Row.columnwise_passes (fun _ _ _ _ => Row.changedColumn_keys)
      (fun _ _ _ _ _ => Row.changedColumn_passes) hrow hmem

section

attribute [local instance] Pattern.Engine.unlimited

def counts : Table :=
  .ofList [("label", .field (.text .plain ⟨some 5, none, false, false, none⟩)),
    ("n", .field (.number .plain ⟨true, none, none⟩))] none

theorem row_fits_label : ∃ s d c row, define [("counts", counts)] 1 = .ok s ∧
    ("counts", counts) ∈ s.tables ∧ (Definition.ofTable "counts" counts).result = .ok d ∧
    c ∈ d.columns ∧ c.type = .varchar ∧ c.length = some 5 ∧
    Row.insert counts Row.idle (.object [("label", .text "pages"), ("n", .int 42)]) none = .ok row ∧
    (c.name, .text "pages") ∈ row ∧ "pages".length ≤ 5 := by
  have h : define [("counts", counts)] 1 = .ok ⟨[("counts", counts)], 1, by decide⟩ := by rfl
  have hd : (Definition.ofTable "counts" counts).result = .ok (Definition.ofColumns "counts"
      [⟨"label", .varchar, false, none, false, false, some 5, false⟩,
        .plain "n" .integer false]) := by rfl
  have hrow : Row.insert counts Row.idle (.object [("label", .text "pages"), ("n", .int 42)]) none =
      .ok [("label", .text "pages"), ("n", .int 42)] := by rfl
  have hlabel : (.text "pages" : Value) ≠ .null := nofun
  obtain ⟨decl, -, n, text, hn, htext, hle⟩ := (row_fits h List.mem_cons_self hd
    (List.mem_cons_of_mem _ List.mem_cons_self) hlabel).1 _ _ _ _ hrow List.mem_cons_self
  obtain rfl := Value.text.inj htext
  obtain rfl := Option.some.inj hn
  exact ⟨_, _, _, _, h, List.mem_cons_self, hd, List.mem_cons_of_mem _ List.mem_cons_self, rfl, rfl,
    hrow, List.mem_cons_self, by exact_mod_cast hle⟩

/-- An integer that takes more than 32 bits is stored in a column that has no more. -/
theorem row_fits_largeInteger : ∃ s d c, define [("counts", counts)] 1 = .ok s ∧
    ("counts", counts) ∈ s.tables ∧ (Definition.ofTable "counts" counts).result = .ok d ∧
    c ∈ d.columns ∧ c.type = .integer ∧
    ∃ row i,
      Row.insert counts Row.idle (.object [("label", .text ""), ("n", .int 2147483648)]) none =
        .ok row ∧ (c.name, .int i) ∈ row ∧ (Nat.pow 2 31 : Int) ≤ i :=
  ⟨_, _, .plain "n" .integer false, rfl, List.mem_cons_self, rfl, by decide, rfl,
    [("label", .text ""), ("n", .int 2147483648)], _, rfl,
    List.mem_cons_of_mem _ List.mem_cons_self, by decide⟩

end

end Schema

end TenantStore
