import Mathlib.Data.List.Nodup
import TenantStore.Proofs.Sql.Compiled
import TenantStore.Schema

/-!
# Names of tables and indexes

Tables and indexes of a namespace share one space of names. The name of an index joins those of its
table and its column by underscores, which both may contain. The names that a schema's statements
make are all distinct unless one table name continues another one with the start of an indexed
column, or a table is named like an index (`relationNames_nodup_iff`).
-/

namespace TenantStore

namespace Sql.Definition

/-- Index names are the same if their parts are, or if one table name goes on behind the other's
with the start of the other's column. -/
theorem indexName_eq_iff (table column table' column' : String) :
    indexName table column = indexName table' column' ↔
      (table = table' ∧ column = column') ∨
        (∃ x, table' = table ++ "_" ++ x ∧ column = x ++ "_" ++ column') ∨
        ∃ x, table = table' ++ "_" ++ x ∧ column' = x ++ "_" ++ column := by
  have hmark : "_".toList = ['_'] := by rfl
  have hlist : indexName table column = indexName table' column' ↔
      (∃ x, table'.toList = table.toList ++ x ∧ '_' :: column.toList = x ++ '_' :: column'.toList) ∨
        ∃ x, table.toList = table'.toList ++ x ∧
          '_' :: column'.toList = x ++ '_' :: column.toList := by
    unfold indexName
    rw [← String.toList_inj]
    simp only [String.toList_append, hmark, List.append_assoc, List.singleton_append,
      List.append_cancel_left_eq]
    exact List.append_eq_append_iff
  -- The part between the two table names is empty or begins with the underscore.
  have hpart : ∀ {t c t' c' : String},
      (∃ x, t'.toList = t.toList ++ x ∧ '_' :: c.toList = x ++ '_' :: c'.toList) ↔
        (t = t' ∧ c = c') ∨ ∃ x, t' = t ++ "_" ++ x ∧ c = x ++ "_" ++ c' := by
    intro t c t' c'
    constructor
    · rintro ⟨x, ht, hc⟩
      cases x with
      | nil =>
        rw [List.append_nil] at ht
        exact .inl ⟨(String.toList_inj.mp ht).symm, String.toList_inj.mp (List.cons.inj hc).2⟩
      | cons m x =>
        obtain ⟨rfl, hrest⟩ := List.cons.inj hc
        replace hc : c.toList = x ++ '_' :: c'.toList := hrest
        refine .inr ⟨String.ofList x, ?_, ?_⟩ <;> rw [← String.toList_inj]
        · simp [ht, hmark]
        · simp [hc, hmark]
    · rintro (⟨rfl, rfl⟩ | ⟨x, rfl, rfl⟩)
      · exact ⟨[], by simp⟩
      · exact ⟨'_' :: x.toList, by simp [hmark]⟩
  rw [hlist, hpart, hpart]
  constructor
  · rintro ((h | h) | (⟨rfl, rfl⟩ | h))
    · exact .inl h
    · exact .inr (.inl h)
    · exact .inl ⟨rfl, rfl⟩
    · exact .inr (.inr h)
  · rintro (h | h | h)
    · exact .inl (.inl h)
    · exact .inl (.inr h)
    · exact .inr (.inr h)

end Sql.Definition

namespace Schema

open Sql.Definition

def definitions (s : Schema) : List Sql.Definition :=
  s.tables.filterMap fun e => (ofTable e.1 e.2).result.toOption

/-- The names that the statements for a schema give to relations: tables first, then indexes. -/
def relationNames (s : Schema) : List String :=
  Assoc.keys s.tables ++ s.definitions.flatMap fun d => d.indexes.map (·.name)

def HasIndex (s : Schema) (table column : String) : Prop :=
  ∃ d ∈ s.definitions, d.name = table ∧ ∃ i ∈ d.indexes, column ∈ i.columns

def indexPlaces (s : Schema) : List (String × String) :=
  s.definitions.flatMap fun d => d.indexes.flatMap fun i => i.columns.map fun c => (d.name, c)

section
variable {s : Schema} {t t' c c' : String}

theorem mem_definitions : d ∈ s.definitions ↔
    ∃ e ∈ s.tables, (ofTable e.1 e.2).result = .ok d := by
  unfold definitions
  rw [List.mem_filterMap]
  refine exists_congr fun e => and_congr_right fun _ => ?_
  cases (ofTable e.1 e.2).result <;> simp [Except.toOption]

/-- A compiled table indexes single columns, each at most once, and names the index after both. -/
theorem indexes_of_definition (hd : d ∈ s.definitions) : ∃ cs : List String, cs.Nodup ∧
    (d.indexes.flatMap fun i => i.columns.map fun c => (d.name, c)) = cs.map (d.name, ·) ∧
    d.indexes.map (·.name) = cs.map (indexName d.name) := by
  obtain ⟨e, -, he⟩ := mem_definitions.mp hd
  obtain ⟨hname, hindexes⟩ := ofTable_indexes he
  rw [← hname] at hindexes
  refine ⟨indexedColumns e.2, indexedColumns_nodup e.2, ?_, ?_⟩
  · rw [hindexes, List.flatMap_map]
    exact List.map_eq_flatMap.symm
  · rw [hindexes, List.map_map]
    rfl

theorem definitions_distinct : s.definitions.Pairwise fun d d' => d.name ≠ d'.name := by
  have hkeys : s.tables.Pairwise fun e e' => e.1 ≠ e'.1 := List.pairwise_map.mp s.distinct
  refine List.Pairwise.filterMap _ (fun e e' hne d hd d' hd' => ?_) hkeys
  have hname : ∀ {e : String × Table} {d : Sql.Definition},
      (ofTable e.1 e.2).result.toOption = some d → d.name = e.1 := by
    intro e d hd
    cases he : (ofTable e.1 e.2).result with
    | error fault => rw [he] at hd; cases hd
    | ok d' =>
      rw [he] at hd
      obtain rfl := Option.some.inj hd
      exact (ofTable_indexes he).1
  rw [hname hd, hname hd']
  exact hne

theorem mem_indexPlaces : (t, c) ∈ s.indexPlaces ↔ s.HasIndex t c := by
  simp [indexPlaces, HasIndex, and_left_comm]

theorem indexPlaces_nodup (s : Schema) : s.indexPlaces.Nodup := by
  refine List.nodup_flatMap.mpr ⟨fun d hd => ?_, definitions_distinct.imp fun hne => ?_⟩
  · obtain ⟨cs, hcs, hplaces, -⟩ := indexes_of_definition hd
    rw [hplaces]
    exact hcs.map fun _ _ h => (Prod.mk.inj h).2
  · rintro ⟨t, c⟩ h h'
    simp only [List.mem_flatMap, List.mem_map, Prod.mk.injEq] at h h'
    obtain ⟨_, -, _, -, rfl, -⟩ := h
    obtain ⟨_, -, _, -, heq, -⟩ := h'
    exact hne heq.symm

theorem indexNames_eq (s : Schema) : (s.definitions.flatMap fun d => d.indexes.map (·.name)) =
    s.indexPlaces.map fun p => indexName p.1 p.2 := by
  unfold indexPlaces
  rw [List.map_flatMap]
  refine List.flatMap_congr fun d hd => ?_
  obtain ⟨cs, -, hplaces, hnames⟩ := indexes_of_definition hd
  rw [hplaces, hnames, List.map_map]
  rfl

/-- The names of a schema's relations are distinct exactly if no table is named like another one
with the start of an indexed column, and no table is named like an index. -/
theorem relationNames_nodup_iff (s : Schema) : s.relationNames.Nodup ↔
    (∀ t c x, s.HasIndex t (x ++ "_" ++ c) → ¬ s.HasIndex (t ++ "_" ++ x) c) ∧
      ∀ t c, s.HasIndex t c → "idx_" ++ t ++ "_" ++ c ∉ Assoc.keys s.tables := by
  unfold relationNames
  rw [List.nodup_append, indexNames_eq, List.nodup_map_iff_inj_on s.indexPlaces_nodup]
  constructor
  · rintro ⟨-, hindexes, htables⟩
    refine ⟨fun t c x h h' => ?_, fun t c h hmem => ?_⟩
    · have heq := hindexes _ (mem_indexPlaces.mpr h) _ (mem_indexPlaces.mpr h')
        ((indexName_eq_iff ..).mpr (.inr (.inl ⟨x, rfl, rfl⟩)))
      have hlength := congrArg String.length (Prod.mk.inj heq).1
      simp only [String.length_append] at hlength
      have : "_".length = 1 := by rfl
      omega
    · exact htables _ hmem _ (List.mem_map.mpr ⟨(t, c), mem_indexPlaces.mpr h, rfl⟩) rfl
  · rintro ⟨hindexes, htables⟩
    refine ⟨s.distinct, ?_, ?_⟩
    · rintro ⟨t, c⟩ h ⟨t', c'⟩ h' heq
      rw [mem_indexPlaces] at h h'
      dsimp only at heq
      obtain ⟨rfl, rfl⟩ | ⟨x, rfl, rfl⟩ | ⟨x, rfl, rfl⟩ := (indexName_eq_iff ..).mp heq
      · rfl
      · exact absurd h' (hindexes _ _ _ h)
      · exact absurd h (hindexes _ _ _ h')
    · rintro a ha b hb rfl
      obtain ⟨⟨t, c⟩, h, rfl⟩ := List.mem_map.mp hb
      exact htables t c (mem_indexPlaces.mp h) ha

end

def oneColumn (column : String) : Table :=
  Table.ofList [(column, .field (.text .plain ⟨none, none, false, false, none⟩))] none

/-- Two tables that are accepted together and whose indexes have one name. -/
theorem relationNames_not_nodup : ∃ s, define [("a", oneColumn "b_c_id"),
    ("a_b", oneColumn "c_id")] 1 = .ok s ∧
    s.relationNames = ["a", "a_b", "idx_a_b_c_id", "idx_a_b_c_id"] :=
  ⟨_, rfl, by decide⟩

end Schema

end TenantStore
