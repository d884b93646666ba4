import Mathlib.Data.List.Nodup
import TenantStore.Proofs.Row.Conforms

/-!
# Rows column by column

A row is put together from what each column of the table gives. `columnwise_column` reads off a row
what it holds under one column, `columnwise_findings` off a report what it says of one.
-/

namespace TenantStore

theorem Table.Declares.position {t : Table} (ht : t.Declares fields) (hf : (name, f) ∈ fields) :
    ∃ i : Nat, t.columns[i]? = some (name, .field f) := by
  refine List.mem_iff_getElem?.mp ?_
  rw [ht]
  exact List.mem_map.mpr ⟨_, hf, rfl⟩

theorem Table.Declares.unique {t : Table} (ht : t.Declares fields) (hf : (name, f) ∈ fields)
    (hf' : (name, f') ∈ fields) : f = f' := by
  have hdistinct : (fields.map Prod.fst).Nodup := by
    have h := t.distinct
    rw [Assoc.keys, ht, List.map_map] at h
    exact h
  exact (Prod.mk.inj (List.inj_on_of_nodup_map hdistinct hf hf' rfl)).2

namespace Checked

@[simp] theorem findings_map (x : Checked α) (f : α → β) : (x.map f).findings = x.findings := by
  cases x <;> rfl

theorem findings_both (f : Checked (α → β)) (x : Checked α) :
    (both f x).findings = f.findings ++ x.findings := by
  cases f <;> cases x <;> simp [both, findings]

theorem findings_all (xs : List (Checked α)) : (all xs).findings = xs.flatMap findings := by
  induction xs with
  | nil => rfl
  | cons x xs ih => simp [all, findings_both, ih]

end Checked

namespace Row

open Checked

variable {supply : Supply} {entries : List (Value × Value)} {i : Nat}
  {check : Nat → String → Declaration → Checked Row}

-- ---------------------------------------------------------------------------
-- One column
-- ---------------------------------------------------------------------------

/-- What a row has under one column: one value or none. -/
def Single (column : String) (part : Row) : Prop :=
  ∃ stored : Option Value, part = (stored.map fun v => (column, v)).toList

theorem Single.keys (h : Single column part) : ∀ e ∈ part, e.1 = column := by
  obtain ⟨stored, rfl⟩ := h
  cases stored <;> simp

theorem Single.eq_of_iff (h : Single column part) (h' : Single column part')
    (hiff : ∀ v, (column, v) ∈ part ↔ (column, v) ∈ part') : part = part' := by
  obtain ⟨stored, rfl⟩ := h
  obtain ⟨stored', rfl⟩ := h'
  cases stored <;> cases stored' <;> simp_all

theorem newColumn_single (h : newColumn supply entries i column d = .ok part) :
    Single column part := by
  unfold newColumn at h
  simp only at h
  split at h
  · exact ⟨none, (Checked.ok.inj h).symm⟩
  · obtain ⟨stored, -, rfl⟩ := map_ok.mp h
    exact ⟨stored, rfl⟩

theorem changedColumn_single (h : changedColumn supply entries i column d = .ok part) :
    Single column part := by
  unfold changedColumn at h
  split at h
  · exact ⟨none, (Checked.ok.inj h).symm⟩
  · obtain ⟨v, -, rfl⟩ := map_ok.mp h
    exact ⟨some v, rfl⟩

theorem newColumn_keys (h : newColumn supply entries i column d = .ok part) :
    ∀ e ∈ part, e.1 = column :=
  (newColumn_single h).keys

theorem changedColumn_keys (h : changedColumn supply entries i column d = .ok part) :
    ∀ e ∈ part, e.1 = column :=
  (changedColumn_single h).keys

theorem member_found {check : Value → Checked Value}
    (hv : Value.field? column entries = some given) :
    member whole supply column i m check entries =
      ((check given).under column).map fun v => [(column, v)] := by
  simp only [member, hv]
  cases check given <;> rfl

/-- A column that the payload has is checked alike whether the row is new or not, but for what is
filled in. -/
theorem newColumn_found (hv : Value.field? column entries = some given) :
    newColumn supply entries i column d =
      ((checkDeclaration true (supply.under column) (declarationName i) d given).under column).map
        fun v => [(column, v)] := by
  rw [newColumn, hv]
  exact member_found hv

def standIn (supply : Supply) (m : Modifiers) : Value :=
  match m.deferred with
  | some due => .text (supply.make due)
  | none => m.default

theorem newColumn_absent {f : Field} (hv : Value.field? column entries = none) :
    newColumn supply entries i column (.field f) =
      if f.modifiers.hasDefault then
        ((checkDeclaration true (supply.under column) (declarationName i) (.field f)
          (standIn (supply.under column) f.modifiers)).under (defaultPlace i)).map
            fun v => [(column, v)]
      else if f.modifiers.isOptional || isServerMade column then .ok []
      else (Checked.fail .missing).under column := by
  rw [newColumn_field]
  unfold member absent
  rw [hv]
  cases hd : f.modifiers.hasDefault with
  | true =>
    simp only [Option.isNone_none, Bool.not_true, Bool.and_false, Bool.false_and,
      Bool.false_eq_true, if_false, if_true]
    show Checked.map _ (Checked.map _ _) = Checked.map _ _
    unfold standIn checkDeclaration
    cases Checked.under (defaultPlace i) _ <;> rfl
  | false =>
    cases ho : f.modifiers.isOptional <;> cases hs : isServerMade column <;> rfl

theorem changedColumn_found (hv : Value.field? column entries = some given) :
    changedColumn supply entries i column d =
      ((checkDeclaration false (supply.under column) (declarationName i) d given).under column).map
        fun v => [(column, v)] := by
  simp only [changedColumn, hv]

theorem changedColumn_absent (hv : Value.field? column entries = none) :
    changedColumn supply entries i column d = .ok [] := by
  simp only [changedColumn, hv]

-- ---------------------------------------------------------------------------
-- All columns
-- ---------------------------------------------------------------------------

theorem keys_of_columns (keys : ∀ i column d part, check i column d = .ok part →
      ∀ e ∈ part, e.1 = column) {columns : List (String × Declaration)}
    (h : all (columns.mapIdx fun i (column, d) => check i column d) = .ok parts) :
    ∀ e ∈ parts.flatten, e.1 ∈ Assoc.keys columns := by
  have hparts := all_mapIdx_ok h
  clear h
  induction hparts with
  | nil => exact List.forall_mem_nil _
  | cons hp _ ih =>
    obtain ⟨i, hi⟩ := hp
    intro e he
    obtain he | he := List.mem_append.mp he
    · exact keys _ _ _ _ hi e he ▸ List.mem_cons_self
    · exact List.mem_cons_of_mem _ (ih e he)

theorem column_of_columns (keys : ∀ i column d part, check i column d = .ok part →
      ∀ e ∈ part, e.1 = column) {columns : List (String × Declaration)}
    (hdistinct : (Assoc.keys columns).Nodup)
    (h : all (columns.mapIdx fun i (column, d) => check i column d) = .ok parts)
    (hd : columns[i]? = some (column, d)) :
    ∃ part, check i column d = .ok part ∧
      ∀ v, (column, v) ∈ parts.flatten ↔ (column, v) ∈ part := by
  induction columns generalizing check parts i with
  | nil => simp at hd
  | cons e columns ih =>
    obtain ⟨hfirst, hdistinct⟩ := List.nodup_cons.mp hdistinct
    simp only [List.mapIdx_cons, all, both_ok, map_ok] at h
    obtain ⟨_, rest, ⟨first, hf, rfl⟩, hr, rfl⟩ := h
    have keys' : ∀ i column d part, check (i + 1) column d = .ok part → ∀ e ∈ part, e.1 = column :=
      fun i => keys (i + 1)
    simp only [List.flatten_cons, List.mem_append]
    cases i with
    | zero =>
      obtain rfl := Option.some.inj hd
      refine ⟨first, hf, fun v => or_iff_left fun hv => hfirst ?_⟩
      exact keys_of_columns keys' hr _ hv
    | succ i =>
      have hd' : columns[i]? = some (column, d) := hd
      obtain ⟨part, hpart, hiff⟩ := ih keys' hdistinct hr hd'
      refine ⟨part, hpart, fun v => (or_iff_right fun hv => hfirst ?_).trans (hiff v)⟩
      have hcolumn : column = e.1 := keys 0 e.1 e.2 first hf _ hv
      exact List.mem_map.mpr ⟨_, List.mem_of_getElem? hd', hcolumn⟩

theorem columnwise_column {t : Table} (keys : ∀ i column d part, check i column d = .ok part →
      ∀ e ∈ part, e.1 = column) (h : columnwise check t = .ok row)
    (hd : t.columns[i]? = some (column, d)) :
    ∃ part, check i column d = .ok part ∧ ∀ v, (column, v) ∈ row ↔ (column, v) ∈ part := by
  obtain ⟨parts, hparts, rfl⟩ := map_ok.mp h
  exact column_of_columns keys t.distinct hparts hd

theorem columnwise_keys {t : Table} (keys : ∀ i column d part, check i column d = .ok part →
      ∀ e ∈ part, e.1 = column) (h : columnwise check t = .ok row) :
    ∀ e ∈ row, e.1 ∈ t.names := by
  obtain ⟨parts, hparts, rfl⟩ := map_ok.mp h
  exact keys_of_columns keys hparts

end Row

end TenantStore
