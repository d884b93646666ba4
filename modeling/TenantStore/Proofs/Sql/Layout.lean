import Mathlib.Data.List.Nodup
import TenantStore.Proofs.Json.Writing
import TenantStore.Proofs.Sql.Compiled
import TenantStore.Schema

/-!
# The layout of a compiled table

`Definition.table_layout`: a table is compiled exactly if the default of each column of its own has
SQL, which it lacks if an integer in it is too long or a key in it is none that JSON has a text for.
What a table is compiled to has its own columns between the standard ones, and an index and a
foreign key for those of them that are looked up and that refer to another table.
-/

namespace TenantStore

/-- A key that JSON has a text for. -/
def Value.IsKey : Value → Prop
  | .null | .bool _ | .float _ | .text _ => True
  | .int i => Decimal.IsShort i
  | .list _ | .tuple _ | .map _ | .datetime _ | .date _ | .uuid _ => False

mutual
/-- No integer is too long, and in every mapping JSON has a text for all keys. -/
def Value.Writable : Value → Prop
  | .int i => Decimal.IsShort i
  | .list vs | .tuple vs => Value.WritableItems vs
  | .map es => Value.WritableEntries es
  | _ => True

def Value.WritableItems : List Value → Prop
  | [] => True
  | v :: vs => v.Writable ∧ Value.WritableItems vs

def Value.WritableEntries : List (Value × Value) → Prop
  | [] => True
  | (k, v) :: es => k.IsKey ∧ v.Writable ∧ Value.WritableEntries es
end

namespace Json

theorem integerChars_iff (i : Int) : (∃ t, integerChars i = .ok t) ↔ Decimal.IsShort i := by
  simp only [integerChars_ok, exists_and_left, exists_eq, and_true]

theorem keyText_lenient_iff (k : Value) : (∃ t, keyText .lenient k = .ok t) ↔ k.IsKey := by
  cases k with
  | bool b => cases b <;> exact iff_of_true ⟨_, rfl⟩ trivial
  | float x => cases x <;> exact iff_of_true ⟨_, rfl⟩ trivial
  | null | text _ => exact iff_of_true ⟨_, rfl⟩ trivial
  | int i =>
    rw [Value.IsKey, ← integerChars_iff]
    simp only [keyText, map_ok]
    exact ⟨fun ⟨_, t, h, _⟩ => ⟨t, h⟩, fun ⟨t, h⟩ => ⟨_, t, h, rfl⟩⟩
  | _ => simp [keyText, Value.IsKey]

mutual
theorem write_lenient_iff : ∀ v : Value, (∃ t, write .lenient v = .ok t) ↔ v.Writable
  | .null | .bool true | .bool false | .text _ | .datetime _ | .date _ | .uuid _ =>
    iff_of_true ⟨_, rfl⟩ trivial
  | .int i => integerChars_iff i
  | .float x => by cases x <;> exact iff_of_true ⟨_, rfl⟩ trivial
  | .list vs => by
    simp only [write_list_ok, exists_comm (α := List Char), exists_and_left, exists_eq, and_true]
    exact writeItems_lenient_iff vs
  | .tuple vs => by
    simp only [write_tuple, write_list_ok, exists_comm (α := List Char), exists_and_left, exists_eq,
      and_true]
    exact writeItems_lenient_iff vs
  | .map es => by
    simp only [write_map_ok, exists_comm (α := List Char), exists_and_left, exists_eq, and_true]
    exact writeEntries_lenient_iff es

theorem writeItems_lenient_iff : ∀ vs : List Value,
    (∃ ts, writeItems .lenient vs = .ok ts) ↔ Value.WritableItems vs
  | [] => iff_of_true ⟨[], rfl⟩ trivial
  | v :: vs => by
    rw [Value.WritableItems, ← write_lenient_iff v, ← writeItems_lenient_iff vs]
    constructor
    · rintro ⟨ts, h⟩
      obtain ⟨p, ps, hp, hps, -⟩ := writeItems_cons_ok.mp h
      exact ⟨⟨p, hp⟩, ps, hps⟩
    · rintro ⟨⟨p, hp⟩, ps, hps⟩
      exact ⟨p :: ps, writeItems_cons_ok.mpr ⟨p, ps, hp, hps, rfl⟩⟩

theorem writeEntries_lenient_iff : ∀ es : List (Value × Value),
    (∃ ts, writeEntries .lenient es = .ok ts) ↔ Value.WritableEntries es
  | [] => iff_of_true ⟨[], rfl⟩ trivial
  | (k, v) :: es => by
    rw [Value.WritableEntries, ← keyText_lenient_iff k, ← write_lenient_iff v,
      ← writeEntries_lenient_iff es]
    constructor
    · rintro ⟨ts, h⟩
      obtain ⟨key, p, ps, hk, hp, hps, -⟩ := writeEntries_cons_ok.mp h
      exact ⟨⟨key, hk⟩, ⟨p, hp⟩, ps, hps⟩
    · rintro ⟨⟨key, hk⟩, ⟨p, hp⟩, ps, hps⟩
      exact ⟨_, writeEntries_cons_ok.mpr ⟨key, p, ps, hk, hp, hps, rfl⟩⟩
end

end Json

/-- A column that refers to another table is one that is looked up. -/
theorem Naming.isIndexed_of_reference {name : String} {r : Reference}
    (h : reference? name = some r) : isIndexed name = true := by
  unfold reference? at h
  unfold isIndexed
  split at h
  · subst name
    rfl
  · split at h
    · rename_i hrel
      rw [Bool.and_eq_true] at hrel
      rw [hrel.1, Bool.or_true]
    · cases h

def Modifiers.HasSql (m : Modifiers) : Prop :=
  m.hasDefault = true → m.deferred = none → m.default.Writable

def Declaration.HasSql (d : Declaration) : Prop :=
  ∃ m, d.modifiers? = some m ∧ m.HasSql

namespace Sql

-- ---------------------------------------------------------------------------
-- Defaults that have SQL
-- ---------------------------------------------------------------------------

theorem literal_ok_iff (v : Value) : (∃ s, literal v = .ok s) ↔ v.Writable := by
  have container : (∃ s, (do
        let encoded ← Json.write .lenient v
        return quoteLiteral (String.ofList encoded) ++ "::jsonb" :
          Except Json.WriteFault String) = .ok s) ↔ v.Writable := by
    rw [← Json.write_lenient_iff]
    simp only [Json.bind_ok, Json.pure_ok]
    exact ⟨fun ⟨_, t, h, _⟩ => ⟨t, h⟩, fun ⟨t, h⟩ => ⟨_, t, h, rfl⟩⟩
  cases v with
  | list vs | tuple vs | map es => exact container
  | int i =>
    rw [Value.Writable, ← Json.integerChars_iff]
    simp only [literal, Json.map_ok]
    exact ⟨fun ⟨_, t, h, _⟩ => ⟨t, h⟩, fun ⟨t, h⟩ => ⟨_, t, h, rfl⟩⟩
  | _ => exact iff_of_true ⟨_, rfl⟩ trivial

theorem defaultSql_ok_iff (m : Modifiers) :
    (∃ default, Column.defaultSql m = .ok default) ↔ m.HasSql := by
  unfold Column.defaultSql Modifiers.HasSql
  by_cases hdefault : m.hasDefault = true
  · by_cases hnull : m.nullDefault = true
    · have hkeys : m.default.Writable := by
        unfold Modifiers.nullDefault at hnull
        cases hm : m.default <;> simp [hm] at hnull
        trivial
      simp [hdefault, hnull, hkeys]
    · cases hdeferred : m.deferred with
      | some d => simp [hdefault, hnull]
      | none =>
        have hmap : (∃ default, (literal m.default).map some = .ok default) ↔
            ∃ s, literal m.default = .ok s := by
          cases literal m.default <;> simp [Except.map]
        simp [hdefault, hnull, hmap, literal_ok_iff]
  · simp [hdefault]

namespace Definition

variable {table : String} {t : Table} {d : Definition}

theorem compiles_iff (e : String × Declaration) : (∃ c, Compiles e c) ↔ e.2.HasSql := by
  simp only [Compiles, Column.ofDeclaration_ok, Declaration.HasSql]
  constructor
  · rintro ⟨c, m, default, hm, hdefault, -⟩
    exact ⟨m, hm, (defaultSql_ok_iff m).mp ⟨default, hdefault⟩⟩
  · rintro ⟨m, hm, hsql⟩
    obtain ⟨default, hdefault⟩ := (defaultSql_ok_iff m).mpr hsql
    exact ⟨_, m, default, hm, hdefault, rfl⟩

theorem forall₂_compiles_iff (es : List (String × Declaration)) :
    (∃ cs, List.Forall₂ Compiles es cs) ↔ ∀ e ∈ es, e.2.HasSql := by
  induction es with
  | nil => exact iff_of_true ⟨[], .nil⟩ (List.forall_mem_nil _)
  | cons e es ih =>
    rw [List.forall_mem_cons, ← ih, ← compiles_iff]
    constructor
    · rintro ⟨_, h⟩
      cases h with
      | cons hc hcs => exact ⟨⟨_, hc⟩, _, hcs⟩
    · rintro ⟨⟨c, hc⟩, cs, hcs⟩
      exact ⟨c :: cs, .cons hc hcs⟩

theorem ofTable_ok_iff (table : String) (t : Table) :
    (∃ d, (ofTable table t).result = .ok d) ↔ ∀ e ∈ ownColumns t, e.2.HasSql := by
  rw [← forall₂_compiles_iff]
  simp only [ofTable_ok]
  exact ⟨fun ⟨_, cs, hcs, _⟩ => ⟨cs, hcs⟩, fun ⟨cs, hcs⟩ => ⟨_, cs, hcs, rfl⟩⟩

-- ---------------------------------------------------------------------------
-- The parts of a definition
-- ---------------------------------------------------------------------------

def ownNames (t : Table) : List String :=
  t.names.filter fun name => name ∉ ["id", "created_at", "updated_at"]

def IsForeignKey (table column : String) (k : Constraint) : Prop :=
  ∃ r, Naming.reference? column = some r ∧
    k = ⟨"fk_" ++ table ++ "_" ++ column, .foreignKey,
      "FOREIGN KEY (" ++ quoteIdent column ++ ") REFERENCES " ++ quoteIdent r.table ++
        " (" ++ quoteIdent r.column ++ ")"⟩

theorem ownNames_eq (t : Table) : (ownColumns t).map Prod.fst = ownNames t := by
  have hstandard : (fun name => !isStandard name) =
      fun name => decide (name ∉ ["id", "created_at", "updated_at"]) := by
    funext name
    rw [Bool.eq_iff_iff]
    simp [isStandard, primaryKey, timestampColumns]
  rw [ownNames, ← hstandard, Table.names, Assoc.keys, List.filter_map]
  rfl

theorem ownNames_nodup (t : Table) : (ownNames t).Nodup :=
  t.distinct.filter _

theorem names_of_compiled {es : List (String × Declaration)} (h : List.Forall₂ Compiles es cs) :
    cs.map (·.name) = es.map Prod.fst := by
  induction h with
  | nil => rfl
  | cons hc _ ih => rw [List.map_cons, List.map_cons, ih, hc.name_eq]

theorem Compiles.primaryKey_eq (h : Compiles e c) : c.primaryKey = false := by
  obtain ⟨m, default, -, -, rfl⟩ := Column.ofDeclaration_ok.mp h
  rfl

theorem foreignKeys_of_names (table : String) (names : List String) :
    List.Forall₂ (IsForeignKey table) (names.filter fun name => (Naming.reference? name).isSome)
      (names.filterMap (foreignKey? table)) := by
  induction names with
  | nil => exact .nil
  | cons name names ih =>
    rw [List.filter_cons, List.filterMap_cons, foreignKey?]
    cases h : Naming.reference? name with
    | none => exact ih
    | some r => exact .cons ⟨r, h, rfl⟩ ih

theorem column?_of_mem (h : d.columnNames.Nodup) (hc : c ∈ d.columns) :
    d.column? c.name = some c := by
  unfold column?
  cases hfind : d.columns.find? fun c' => c'.name == c.name with
  | none => exact absurd (beq_self_eq_true c.name) (List.find?_eq_none.mp hfind c hc)
  | some c' =>
    have hname : c'.name = c.name := by simpa using List.find?_some hfind
    rw [List.inj_on_of_nodup_map h (List.mem_of_find?_eq_some hfind) hc hname]

theorem column?_eq_none {name : String} (h : name ∉ d.columnNames) : d.column? name = none := by
  refine List.find?_eq_none.mpr fun c hc heq => h ?_
  rw [← beq_iff_eq.mp heq]
  exact List.mem_map_of_mem hc

/-- The parts of a definition and how they hang together: the table's own columns stand between the
standard ones, an index and a foreign key belong to those that are looked up and that refer to
another table. -/
structure Layout (table : String) (t : Table) (d : Definition) : Prop where
  name : d.name = table
  columns : d.columnNames = ["id"] ++ ownNames t ++ ["created_at", "updated_at"]
  distinct : d.columnNames.Nodup
  primary : d.columns.filter (·.primaryKey) = [idColumn]
  indexes : d.indexes =
    ((ownNames t).filter Naming.isIndexed).map fun c => ⟨indexName table c, [c], false⟩
  foreignKeys : List.Forall₂ (IsForeignKey table)
    ((ownNames t).filter fun c => (Naming.reference? c).isSome) d.constraints
  indexed : ∀ c ∈ ownNames t, (Naming.reference? c).isSome → c ∈ (ownNames t).filter Naming.isIndexed
  named : ∀ c ∈ ownNames t, c ∈ d.columnNames
  found : ∀ c ∈ d.columns, d.column? c.name = some c
  unknown : ∀ name, name ∉ d.columnNames → d.column? name = none

theorem columnNames_ofColumns (hcs : List.Forall₂ Compiles (ownColumns t) cs) :
    (ofColumns table cs).columnNames = ["id"] ++ ownNames t ++ ["created_at", "updated_at"] := by
  rw [← ownNames_eq, ← names_of_compiled hcs]
  simp [columnNames, ofColumns, idColumn, timestampColumns, timestampColumn, primaryKey]

theorem allNames_nodup (t : Table) :
    (["id"] ++ ownNames t ++ ["created_at", "updated_at"]).Nodup := by
  have hown : ∀ name ∈ ownNames t, name ∉ ["id", "created_at", "updated_at"] := by
    intro name h
    simpa using (List.mem_filter.mp h).2
  have hid : "id" ∉ ownNames t ++ ["created_at", "updated_at"] := by
    intro h
    rcases List.mem_append.mp h with h | h
    · exact hown _ h List.mem_cons_self
    · exact absurd h (by decide)
  refine List.nodup_cons.mpr ⟨hid, List.nodup_append.mpr ⟨ownNames_nodup t, by decide, ?_⟩⟩
  rintro name hname other hother rfl
  exact hown name hname (List.mem_cons_of_mem _ hother)

theorem primaryKey_ofColumns (hcs : List.Forall₂ Compiles (ownColumns t) cs) :
    (ofColumns table cs).columns.filter (·.primaryKey) = [idColumn] := by
  have hown : cs.filter (·.primaryKey) = [] := by
    refine List.filter_eq_nil_iff.mpr fun c hc => ?_
    obtain ⟨e, -, he⟩ := mem_of_compiled hcs hc
    rw [he.primaryKey_eq]
    exact Bool.false_ne_true
  simp [ofColumns, hown, idColumn, timestampColumns, timestampColumn]

theorem layout_of_ofTable (h : (ofTable table t).result = .ok d) : Layout table t d := by
  obtain ⟨hname, hindexes⟩ := ofTable_indexes h
  obtain ⟨cs, hcs, rfl⟩ := ofTable_ok.mp h
  have hnames : (ofColumns table cs).columnNames = _ := columnNames_ofColumns hcs
  have hnodup : (ofColumns table cs).columnNames.Nodup := hnames ▸ allNames_nodup t
  have hconstraints : (ofColumns table cs).constraints =
      (ownNames t).filterMap (foreignKey? table) := by
    rw [← ownNames_eq, ← names_of_compiled hcs, List.filterMap_map]
    rfl
  exact {
    name := hname
    columns := hnames
    distinct := hnodup
    primary := primaryKey_ofColumns hcs
    indexes := by rw [hindexes, indexedColumns, ownNames_eq]
    foreignKeys := hconstraints ▸ foreignKeys_of_names table (ownNames t)
    indexed := fun c hc href => by
      obtain ⟨r, hr⟩ := Option.isSome_iff_exists.mp href
      exact List.mem_filter.mpr ⟨hc, Naming.isIndexed_of_reference hr⟩
    named := fun c hc => by
      rw [hnames]
      exact List.mem_append_left _ (List.mem_append_right _ hc)
    found := fun c hc => column?_of_mem hnodup hc
    unknown := fun _ => column?_eq_none }

/-- A table is compiled if and only if the default of each of its own columns has SQL, and then the
definition has the layout of the table. -/
theorem table_layout (table : String) (t : Table) :
    ((∃ d, (ofTable table t).result = .ok d) ↔ ∀ e ∈ ownColumns t, e.2.HasSql) ∧
      ∀ d, (ofTable table t).result = .ok d → Layout table t d :=
  ⟨ofTable_ok_iff table t, fun _ => layout_of_ofTable⟩

def datedTable : Table :=
  .ofList [("visits", .field (.object
    (Modifiers.plain.withDefault (.map [(.date ⟨2024, 1, 1, by decide⟩, .int 1)])) []))] none

/-- A schema may hold the table, and the table is not compiled. -/
theorem table_layout_dateKey :
    (∃ s, Schema.define [("notes", datedTable)] 1 = .ok s) ∧
      (ofTable "notes" datedTable).result = .error .wrongType ∧
      ¬ ∃ d, (ofTable "notes" datedTable).result = .ok d := by
  have hfails : (ofTable "notes" datedTable).result = .error .wrongType := by rfl
  refine ⟨⟨⟨[("notes", datedTable)], 1, by decide⟩, by rfl⟩, hfails, fun ⟨d, h⟩ => ?_⟩
  rw [hfails] at h
  cases h

end Definition

end Sql

end TenantStore
