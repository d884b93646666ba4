import Mathlib.Data.List.Forall2
import TenantStore.Sql.Definition

/-!
# What a table is compiled to

A table is compiled exactly if each of the columns that it declares besides the standard ones is
(`Definition.ofTable_ok`), and such a column is compiled exactly if its default has SQL
(`Column.ofDeclaration_ok`). Its indexes are those of the columns that are looked up, by their names
(`Definition.ofTable_indexes`).
-/

namespace TenantStore

theorem Traced.bind_ok {x : Traced α} {f : α → Traced β} :
    (x >>= f).result = .ok b ↔ ∃ a, x.result = .ok a ∧ (f a).result = .ok b := by
  show (Traced.bind x f).result = .ok b ↔ _
  unfold Traced.bind
  cases x.result <;> simp

namespace Sql

/-- The type of a declaration's column; what is no field of a known kind is kept as text. -/
def Column.typeOfDeclaration : Declaration → ColumnType × Option Int
  | .field f => typeOf f
  | .unknown _ _ | .foreign _ => (.text, none)

theorem Column.withType_ok {name : String} {type : ColumnType × Option Int} :
    orUnwritten (withType name type m) = .ok c ↔ ∃ default, defaultSql m = .ok default ∧
      c = ⟨name, type.1, nullableOf m, default, false, false, type.2, Naming.isIndexed name⟩ := by
  unfold withType orUnwritten
  cases defaultSql m with
  | error fault => simp [bind, Except.bind, Except.mapError]
  | ok default => simp [bind, Except.bind, pure, Except.pure, Except.mapError, eq_comm]

theorem Column.ofDeclaration_ok {name : String} : (ofDeclaration name d).result = .ok c ↔
    ∃ m default, d.modifiers? = some m ∧ defaultSql m = .ok default ∧
      c = ⟨name, (typeOfDeclaration d).1, nullableOf m, default, false, false,
        (typeOfDeclaration d).2, Naming.isIndexed name⟩ := by
  cases d with
  | field f =>
    show orUnwritten (withType name (typeOf f) f.modifiers) = .ok c ↔ _
    simp [withType_ok, Declaration.modifiers?, typeOfDeclaration]
  | unknown kind m =>
    show orUnwritten (withType name (.text, none) m) = .ok c ↔ _
    simp [withType_ok, Declaration.modifiers?, typeOfDeclaration]
  | foreign v => simp [ofDeclaration, Declaration.modifiers?]

namespace Definition

def ownColumns (t : Table) : List (String × Declaration) :=
  t.columns.filter fun e => !isStandard e.1

def Compiles (e : String × Declaration) (c : Column) : Prop :=
  (Column.ofDeclaration e.1 e.2).result = .ok c

theorem declaredColumns_ok_iff {columns : List (String × Declaration)} :
    (declaredColumns columns).result = .ok cs ↔
      List.Forall₂ Compiles (columns.filter fun e => !isStandard e.1) cs := by
  induction columns generalizing cs with
  | nil => simp [declaredColumns, pure, eq_comm]
  | cons e columns ih =>
    obtain ⟨name, d⟩ := e
    unfold declaredColumns
    cases hs : isStandard name with
    | true =>
      rw [List.filter_cons_of_neg (by simp [hs])]
      exact ih
    | false =>
      rw [List.filter_cons_of_pos (by simp [hs]), List.forall₂_cons_left_iff]
      simp only [Bool.false_eq_true, if_false, Traced.bind_ok, ih]
      constructor
      · rintro ⟨c, hc, rest, hrest, h⟩
        exact ⟨c, rest, hc, hrest, (Except.ok.inj h).symm⟩
      · rintro ⟨c, rest, hc, hrest, rfl⟩
        exact ⟨c, hc, rest, hrest, rfl⟩

theorem ofTable_ok {name : String} {t : Table} : (ofTable name t).result = .ok d ↔
    ∃ cs, List.Forall₂ Compiles (ownColumns t) cs ∧ d = ofColumns name cs := by
  unfold ofTable
  rw [Traced.bind_ok]
  refine exists_congr fun cs => and_congr declaredColumns_ok_iff ?_
  exact ⟨fun h => (Except.ok.inj h).symm, fun h => h ▸ rfl⟩

theorem Compiles.name_eq (h : Compiles e c) : c.name = e.1 := by
  obtain ⟨m, default, -, -, rfl⟩ := Column.ofDeclaration_ok.mp h
  rfl

theorem Compiles.index_eq (h : Compiles e c) : c.index = Naming.isIndexed e.1 := by
  obtain ⟨m, default, -, -, rfl⟩ := Column.ofDeclaration_ok.mp h
  rfl

theorem mem_of_compiled {es : List (String × Declaration)} (h : List.Forall₂ Compiles es cs)
    (hc : c ∈ cs) : ∃ e ∈ es, Compiles e c := by
  induction h with
  | nil => cases hc
  | cons hof _ ih =>
    obtain rfl | hc := List.mem_cons.mp hc
    · exact ⟨_, List.mem_cons_self, hof⟩
    · obtain ⟨e, he, hof⟩ := ih hc
      exact ⟨e, List.mem_cons_of_mem _ he, hof⟩

-- ---------------------------------------------------------------------------
-- Indexes
-- ---------------------------------------------------------------------------

def indexName (table column : String) : String :=
  "idx_" ++ table ++ "_" ++ column

def indexedColumns (t : Table) : List String :=
  ((ownColumns t).map Prod.fst).filter Naming.isIndexed

/-- A compiled table has one index for each of these columns. -/
theorem ofTable_indexes {table : String} {t : Table} (h : (ofTable table t).result = .ok d) :
    d.name = table ∧
      d.indexes = (indexedColumns t).map fun c => ⟨indexName table c, [c], false⟩ := by
  obtain ⟨cs, hcs, rfl⟩ := ofTable_ok.mp h
  refine ⟨rfl, ?_⟩
  clear h
  unfold indexedColumns
  show cs.filterMap (indexOf? table) = _
  generalize ownColumns t = es at hcs
  induction hcs with
  | nil => rfl
  | @cons e c es cs hc _ ih =>
    rw [List.filterMap_cons, List.map_cons, List.filter_cons, ih]
    unfold indexOf?
    rw [hc.index_eq, hc.name_eq]
    cases Naming.isIndexed e.1 <;> rfl

theorem indexedColumns_nodup (t : Table) : (indexedColumns t).Nodup :=
  ((List.filter_sublist.map _).nodup t.distinct).filter _

end Definition

end Sql

end TenantStore
