import Mathlib.Data.List.Find
import TenantStore.Proofs.Row.Places

/-!
# Columns alone

A payload is checked column by column, so a table says of it what each of its columns says as the
only one. `insert_by_columns` puts the outcome of a new row together from those of its columns
alone: the row from their rows, the violations from their violations, in the order of the table.
What is counted changes with the column's position: the names of defaults in places, and the names
of objects in messages (`Moved`).
-/

namespace TenantStore

def Table.only (c : String × Field) : Table :=
  ⟨[(c.1, .field c.2)], none, by simp [Assoc.keys]⟩

theorem Table.only_declares (c : String × Field) : (Table.only c).Declares [c] := rfl

-- ---------------------------------------------------------------------------
-- Results side by side
-- ---------------------------------------------------------------------------

theorem forall₂_mapIdx {R : β → γ → Prop} {f : Nat → α → β} {g : Nat → α → γ} (as : List α)
    (h : ∀ i a, R (f i a) (g i a)) : List.Forall₂ R (as.mapIdx f) (as.mapIdx g) := by
  induction as generalizing f g with
  | nil => exact .nil
  | cons a as ih =>
    rw [List.mapIdx_cons, List.mapIdx_cons]
    exact .cons (h 0 a) (ih fun i => h (i + 1))

theorem forall₂_mapIdx_left_iff {R : β → γ → Prop} {S : α → γ → Prop} {f : Nat → α → β}
    (h : ∀ i a c, R (f i a) c ↔ S a c) (as : List α) (cs : List γ) :
    List.Forall₂ R (as.mapIdx f) cs ↔ List.Forall₂ S as cs := by
  induction as generalizing f cs with
  | nil => simp
  | cons a as ih =>
    rw [List.mapIdx_cons, List.forall₂_cons_left_iff, List.forall₂_cons_left_iff]
    simp only [h, ih fun i => h (i + 1)]

namespace Checked

/-- The same value, or findings that are related one by one. There is at least one. -/
inductive Paired (r : Finding → Finding → Prop) : Checked α → Checked α → Prop
  | ok (a : α) : Paired r (.ok a) (.ok a)
  | bad (hsome : fs ≠ []) (h : List.Forall₂ r fs gs) : Paired r (.bad fs) (.bad gs)

variable {r : Finding → Finding → Prop}

theorem paired_atOnce {x : Checked α} (h : AtOnce x) (hr : ∀ fd, r fd fd) : Paired r x x := by
  obtain ⟨a, rfl⟩ | ⟨cause, rfl⟩ := h
  · exact .ok a
  · exact .bad (List.cons_ne_nil _ _) (.cons (hr _) .nil)

theorem paired_map {x y : Checked α} (h : Paired r x y) (f : α → β) :
    Paired r (x.map f) (y.map f) := by
  cases h with
  | ok a => exact .ok (f a)
  | bad hsome h => exact .bad hsome h

theorem paired_both {f g : Checked (α → β)} {x y : Checked α} (hf : Paired r f g)
    (hx : Paired r x y) : Paired r (both f x) (both g y) := by
  cases hf with
  | ok f =>
    cases hx with
    | ok a => exact .ok (f a)
    | bad hsome h => exact .bad hsome h
  | bad hsome h =>
    cases hx with
    | ok a => exact .bad hsome h
    | bad _ h' => exact .bad (by simp [hsome]) (List.rel_append h h')

theorem paired_andThen {x y : Checked α} {f g : α → Checked β} (h : Paired r x y)
    (hf : ∀ a, Paired r (f a) (g a)) : Paired r (x.andThen f) (y.andThen g) := by
  cases h with
  | ok a => exact hf a
  | bad hsome h => exact .bad hsome h

theorem paired_under {r' : Finding → Finding → Prop} {x y : Checked α} (h : Paired r x y)
    (hr : ∀ fd gd, r fd gd → r' (fd.under key) (gd.under key')) :
    Paired r' (x.under key) (y.under key') := by
  cases h with
  | ok a => exact .ok a
  | bad hsome h =>
    refine .bad (by simpa using hsome) ?_
    rw [List.forall₂_map_left_iff, List.forall₂_map_right_iff]
    exact h.imp hr

theorem paired_all {xs ys : List (Checked α)} (h : List.Forall₂ (Paired r) xs ys) :
    Paired r (all xs) (all ys) := by
  induction h with
  | nil => exact .ok []
  | cons hx _ ih => exact paired_both (paired_map hx _) ih

theorem paired_mono {r' : Finding → Finding → Prop} {x y : Checked α} (h : Paired r x y)
    (hr : ∀ fd gd, r fd gd → r' fd gd) : Paired r' x y := by
  cases h with
  | ok a => exact .ok a
  | bad hsome h => exact .bad hsome (h.imp hr)

theorem paired_ok {x y : Checked α} (h : Paired r x y) : x = .ok a ↔ y = .ok a := by
  cases h <;> simp

theorem paired_findings {x y : Checked α} (h : Paired r x y) :
    List.Forall₂ r x.findings y.findings := by
  cases h with
  | ok a => exact .nil
  | bad _ h => exact h

theorem paired_ne_bad {x y : Checked α} (h : Paired r x y) : x ≠ .bad [] ∧ y ≠ .bad [] := by
  cases h with
  | ok a => simp
  | bad hsome h =>
    refine ⟨by simpa using hsome, fun hnone => hsome ?_⟩
    obtain rfl := Checked.bad.inj hnone
    exact List.forall₂_nil_right_iff.mp h

end Checked

namespace Row

open Checked

-- ---------------------------------------------------------------------------
-- Names of objects
-- ---------------------------------------------------------------------------

/-- The same cause, but for the name of an object, which starts in another way. -/
def SameBut (old new : String) (c c' : Cause) : Prop :=
  c' = c ∨ ∃ rest, c = .notRecordOf (old ++ rest) ∧ c' = .notRecordOf (new ++ rest)

def Renamed (old new : String) (fd fd' : Finding) : Prop :=
  fd'.place = fd.place ∧ SameBut old new fd.cause fd'.cause

variable {whole : Bool} {old new : String} {supply : Supply}

theorem renamed_refl (fd : Finding) : Renamed old new fd fd := ⟨rfl, .inl rfl⟩

theorem renamed_fail (cause : Cause) :
    Paired (Renamed old new) (fail cause : Checked α) (fail cause) :=
  paired_atOnce (atOnce_fail cause) renamed_refl

theorem renamed_under (key : String) (fd fd' : Finding) (h : Renamed old new fd fd') :
    Renamed old new (fd.under key) (fd'.under key) := ⟨congrArg (key :: ·) h.1, h.2⟩

theorem renamed_orNull {check check' : Value → Checked Value}
    (h : Paired (Renamed old new) (check v) (check' v)) :
    Paired (Renamed old new) (orNull allowed check v) (orNull allowed check' v) := by
  unfold orNull
  split
  · exact .ok _
  · exact h

theorem renamed_member {check check' : Value → Checked Value}
    (h : ∀ v, Paired (Renamed old new) (check v) (check' v)) :
    Paired (Renamed old new) (member whole supply column i m check entries)
      (member whole supply column i m check' entries) := by
  have hkey (key : String) (v : Value) :
      Paired (Renamed old new) ((check v).under key) ((check' v).under key) :=
    paired_under (h v) (renamed_under key)
  unfold member absent
  refine paired_map ?_ _
  split
  · exact paired_map (hkey _ _) _
  · split
    · exact paired_map (hkey _ _) _
    · split
      · exact .ok _
      · exact paired_under (renamed_fail _) (renamed_under column)

theorem renamed_checkItems {check check' : Nat → Value → Checked Value}
    (h : ∀ i v, Paired (Renamed old new) (check i v) (check' i v)) :
    Paired (Renamed old new) (checkItems r check items) (checkItems r check' items) := by
  unfold checkItems
  split
  · exact renamed_fail _
  · refine paired_andThen (paired_all (forall₂_mapIdx items fun i v => ?_)) fun vs => ?_
    · exact paired_under (h i v) (renamed_under _)
    · exact paired_atOnce (atOnce_orFault _ _) renamed_refl

theorem renamed_checkKey (k : Value) : Paired (Renamed old new) (checkKey k) (checkKey k) := by
  unfold checkKey
  split
  · exact .ok _
  · exact paired_under (paired_under (renamed_fail _) (renamed_under _)) (renamed_under _)

theorem renamed_checkEntries {check check' : Value → Value → Checked Value}
    (h : ∀ k v, Paired (Renamed old new) (check k v) (check' k v)) :
    Paired (Renamed old new) (checkEntries check entries) (checkEntries check' entries) := by
  unfold checkEntries
  refine paired_map (paired_all ?_) _
  rw [List.forall₂_map_left_iff, List.forall₂_map_right_iff, List.forall₂_same]
  intro e _
  exact paired_both (paired_map (renamed_checkKey e.1) _)
    (paired_under (h e.1 e.2) (renamed_under _))

mutual
/-- A check says the same under every name, but for the name. By induction on the field, with the
shapes of objects. -/
theorem check_renamed : (f : Field) → {supply : Supply} → {rest : String} → {v : Value} →
    Paired (Renamed old new) (check whole f supply (old ++ rest) v)
      (check whole f supply (new ++ rest) v)
  | .text _ r, _, _, v => paired_atOnce (atOnce_checkText r v) renamed_refl
  | .number _ r, _, _, v => paired_atOnce (atOnce_checkNumber r v) renamed_refl
  | .boolean _, _, _, v => paired_atOnce (atOnce_checkBoolean v) renamed_refl
  | .date _, _, _, v => paired_atOnce (atOnce_checkDate v) renamed_refl
  | .choice _ _, _, _, v => paired_atOnce (atOnce_checkAmong _ v) renamed_refl
  | .literal _ s, _, _, v => paired_atOnce (atOnce_checkLiteral s v) renamed_refl
  | .object _ shape, _, rest, v => by
    cases v with
    | map entries => exact paired_map (checkShape_renamed shape) _
    | _ => exact .bad (List.cons_ne_nil _ _) (.cons ⟨rfl, .inr ⟨rest, rfl, rfl⟩⟩ .nil)
  | .array _ element r, supply, rest, v => by
    have item (i : Nat) (v : Value) : Paired (Renamed old new)
        (orNull element.modifiers.nullable (check whole element
          (supply.under (Decimal.natText i)) (old ++ rest ++ "_item")) v)
        (orNull element.modifiers.nullable (check whole element
          (supply.under (Decimal.natText i)) (new ++ rest ++ "_item")) v) := by
      rw [String.append_assoc, String.append_assoc]
      exact renamed_orNull (check_renamed element)
    cases v with
    | list items => exact renamed_checkItems item
    | tuple items => exact renamed_checkItems item
    | _ => exact renamed_fail _
  | .record _ value, supply, rest, v => by
    have entry (k v : Value) : Paired (Renamed old new)
        (orNull value.modifiers.nullable (check whole value
          (supply.under k.placeName) (old ++ rest ++ "_value")) v)
        (orNull value.modifiers.nullable (check whole value
          (supply.under k.placeName) (new ++ rest ++ "_value")) v) := by
      rw [String.append_assoc, String.append_assoc]
      exact renamed_orNull (check_renamed value)
    cases v with
    | map entries => exact renamed_checkEntries entry
    | _ => exact renamed_fail _

theorem checkShape_renamed : (shape : List (String × Field)) → {supply : Supply} →
    {rest : String} → {position : Nat} → {entries : List (Value × Value)} →
    Paired (Renamed old new) (checkShape whole shape supply (old ++ rest) position entries)
      (checkShape whole shape supply (new ++ rest) position entries)
  | [], _, _, _, _ => .ok []
  | (column, f) :: shape, supply, rest, position, entries => by
    have hmember (v : Value) : Paired (Renamed old new)
        (orNull (allowsNull f.modifiers) (check whole f (supply.under column)
          (old ++ rest ++ "_" ++ Decimal.natText position)) v)
        (orNull (allowsNull f.modifiers) (check whole f (supply.under column)
          (new ++ rest ++ "_" ++ Decimal.natText position)) v) := by
      rw [String.append_assoc, String.append_assoc, String.append_assoc, String.append_assoc]
      exact renamed_orNull (check_renamed f)
    rw [checkShape, checkShape]
    exact paired_both (paired_map (renamed_member hmember) _) (checkShape_renamed shape)
end

-- ---------------------------------------------------------------------------
-- One column
-- ---------------------------------------------------------------------------

def isFilledIn (entries : List (Value × Value)) (c : String × Field) : Bool :=
  (Value.field? c.1 entries).isNone && c.2.modifiers.hasDefault

def isStored (entries : List (Value × Value)) (c : String × Field) : Bool :=
  (Value.field? c.1 entries).isSome || c.2.modifiers.hasDefault

/-- What a column alone says of a payload, as it says it at a position of a table. -/
structure Moved (entries : List (Value × Value)) (c : String × Field) (position : Nat)
    (alone there : Finding) : Prop where
  place : if isFilledIn entries c then
      ∃ rest, alone.place = defaultPlace 0 :: rest ∧ there.place = defaultPlace position :: rest
    else there.place = alone.place
  cause : SameBut (declarationName 0) (declarationName position) alone.cause there.cause

variable {entries : List (Value × Value)}

theorem newColumn_moved (supply : Supply) (entries : List (Value × Value)) (c : String × Field)
    (position : Nat) : Paired (Moved entries c position)
      (newColumn supply entries 0 c.1 (.field c.2))
      (newColumn supply entries position c.1 (.field c.2)) := by
  have hcheck (v : Value) : Paired (Renamed (declarationName 0) (declarationName position))
      (checkDeclaration true (supply.under c.1) (declarationName 0) (.field c.2) v)
      (checkDeclaration true (supply.under c.1) (declarationName position) (.field c.2) v) := by
    refine renamed_orNull ?_
    have h : Paired (Renamed (declarationName 0) (declarationName position))
        (check true c.2 (supply.under c.1) (declarationName 0 ++ "") v)
        (check true c.2 (supply.under c.1) (declarationName position ++ "") v) := check_renamed c.2
    rwa [String.append_empty, String.append_empty] at h
  cases hv : Value.field? c.1 entries with
  | some v =>
    have hgiven : isFilledIn entries c = false := by simp [isFilledIn, hv]
    rw [newColumn_found hv, newColumn_found hv]
    refine paired_map (paired_under (hcheck v) fun fd fd' h => ⟨?_, h.2⟩) _
    rw [hgiven]
    exact (renamed_under c.1 fd fd' h).1
  | none =>
    rw [newColumn_absent hv, newColumn_absent hv]
    cases hd : c.2.modifiers.hasDefault with
    | true =>
      have hfilled : isFilledIn entries c = true := by simp [isFilledIn, hv, hd]
      refine paired_map (paired_under (hcheck _) fun fd fd' h => ⟨?_, h.2⟩) _
      rw [hfilled]
      exact ⟨fd.place, rfl, congrArg (defaultPlace position :: ·) h.1⟩
    | false =>
      have hgiven : isFilledIn entries c = false := by simp [isFilledIn, hd]
      simp only [Bool.false_eq_true, if_false]
      split
      · exact .ok []
      · refine paired_under (renamed_fail _) fun fd fd' h => ⟨?_, h.2⟩
        rw [hgiven]
        exact (renamed_under c.1 fd fd' h).1

theorem newColumn_stored {c : String × Field}
    (h : newColumn supply entries position c.1 (.field c.2) = .ok part) :
    part.map Prod.fst = if isStored entries c then [c.1] else [] := by
  unfold isStored
  cases hv : Value.field? c.1 entries with
  | some v =>
    rw [newColumn_found hv] at h
    obtain ⟨w, -, rfl⟩ := map_ok.mp h
    simp
  | none =>
    rw [newColumn_absent hv] at h
    cases hd : c.2.modifiers.hasDefault with
    | true =>
      rw [hd] at h
      obtain ⟨w, -, rfl⟩ := map_ok.mp h
      simp
    | false =>
      rw [hd] at h
      simp only [Bool.false_eq_true, if_false] at h
      split at h
      · obtain rfl := Checked.ok.inj h
        simp
      · simp at h

/-- A column reads nothing of a payload but what is under its name. -/
theorem newColumn_congr {entries' : List (Value × Value)}
    (h : Value.field? column entries' = Value.field? column entries) :
    newColumn supply entries' position column d = newColumn supply entries position column d := by
  unfold newColumn member
  rw [h]

-- ---------------------------------------------------------------------------
-- Tables
-- ---------------------------------------------------------------------------

theorem fault?_declared [Pattern.Engine] {t : Table} (ht : t.Declares fields) :
    t.fault? = (fields.findSome? fun c => c.2.objectFault?).or
      (Field.ownFault? (fields.map Prod.snd)) := by
  rw [Table.fault?, ht, List.findSome?_map, List.filterMap_map]
  exact congrArg (fun fs => Option.or _ (Field.ownFault? fs))
    (congrFun List.filterMap_eq_map fields)

theorem fault?_only [Pattern.Engine] (c : String × Field) :
    (Table.only c).fault? = c.2.objectFault?.or (Field.ownFault? [c.2]) := by
  rw [fault?_declared (Table.only_declares c), List.findSome?_singleton]
  rfl

theorem ownFault?_none [Pattern.Engine] {fields : List Field} : Field.ownFault? fields = none ↔
    ∀ f ∈ fields, f.hasChoice = true ∧ f.hasUsableRules = true := by
  rw [forall₂_and, ← List.all_eq_true, ← List.all_eq_true]
  unfold Field.ownFault?
  cases fields.all Field.hasChoice <;> cases fields.all Field.hasUsableRules <;> simp

theorem ownFault?_some [Pattern.Engine] {fields : List Field}
    (h : Field.ownFault? fields = some fault) :
    ∃ f ∈ fields, Field.ownFault? [f] = some fault := by
  unfold Field.ownFault? at h
  cases hchoice : fields.all Field.hasChoice with
  | false =>
    obtain ⟨f, hf, hnone⟩ := List.all_eq_false.mp hchoice
    rw [hchoice] at h
    exact ⟨f, hf, by simpa [Field.ownFault?, hnone] using h⟩
  | true =>
    cases hrules : fields.all Field.hasUsableRules with
    | false =>
      obtain ⟨f, hf, hnone⟩ := List.all_eq_false.mp hrules
      have hf' : f.hasChoice = true := List.all_eq_true.mp hchoice f hf
      rw [hchoice, hrules] at h
      exact ⟨f, hf, by simpa [Field.ownFault?, hf', hnone] using h⟩
    | true => simp [hchoice, hrules] at h

theorem usable_iff [Pattern.Engine] {t : Table} (ht : t.Declares fields) :
    t.fault? = none ↔ ∀ c ∈ fields, (Table.only c).fault? = none := by
  simp only [fault?_only, fault?_declared ht, Option.or_eq_none_iff, List.findSome?_eq_none_iff,
    ownFault?_none, List.forall_mem_map, List.forall_mem_singleton, forall₂_and]

theorem fault_of_column [Pattern.Engine] {t : Table} (ht : t.Declares fields)
    (h : t.fault? = some fault) :
    ∃ c ∈ fields, (Table.only c).fault? = some fault := by
  simp only [fault?_only]
  rw [fault?_declared ht, Option.or_eq_some_iff] at h
  obtain hobject | ⟨hobjects, hown⟩ := h
  · obtain ⟨c, hc, hobject⟩ := List.exists_of_findSome?_eq_some hobject
    exact ⟨c, hc, by rw [hobject, Option.some_or]⟩
  · obtain ⟨f, hf, hown⟩ := ownFault?_some hown
    obtain ⟨c, hc, rfl⟩ := List.mem_map.mp hf
    exact ⟨c, hc, by rw [List.findSome?_eq_none_iff.mp hobjects c hc, Option.none_or, hown]⟩

theorem columnwise_declared {t : Table} (ht : t.Declares fields) :
    columnwise (newColumn supply entries) t =
      (all (fields.mapIdx fun i c => newColumn supply entries i c.1 (.field c.2))).map
        List.flatten := by
  rw [columnwise, ht]
  exact congrArg (fun xs => Checked.map _ (all xs))
    (List.ext_getElem (by simp) fun i _ _ => by simp)

theorem columnwise_only (c : String × Field) :
    columnwise (newColumn supply entries) (Table.only c) =
      newColumn supply entries 0 c.1 (.field c.2) := by
  show Checked.map List.flatten (both ((newColumn supply entries 0 c.1 (.field c.2)).map List.cons)
    (.ok [])) = _
  cases newColumn supply entries 0 c.1 (.field c.2) with
  | ok part => exact congrArg Checked.ok (List.append_nil part)
  | bad fs => rfl

theorem columnwise_ne_bad {t : Table} (ht : t.Declares fields) (supply : Supply)
    (entries : List (Value × Value)) : columnwise (newColumn supply entries) t ≠ .bad [] := by
  have h : Paired (fun _ _ => True)
      (all (fields.mapIdx fun _ c => newColumn supply entries 0 c.1 (.field c.2)))
      (all (fields.mapIdx fun i c => newColumn supply entries i c.1 (.field c.2))) :=
    paired_all (forall₂_mapIdx fields fun i c =>
      paired_mono (newColumn_moved supply entries c i) fun _ _ _ => trivial)
  rw [columnwise_declared ht]
  exact (paired_ne_bad (paired_map h List.flatten)).2

-- ---------------------------------------------------------------------------
-- New rows
-- ---------------------------------------------------------------------------

/-- What a call finds in a payload: nothing if it gives a row, and else what it is rejected for. -/
def Finds (table : Option String) (result : Except Failure Row) (fs : List Finding) : Prop :=
  (fs = [] ∧ ∃ row, result = .ok row) ∨
    (fs ≠ [] ∧ result = .error (.rejected (fs.map (Finding.violation "")) table))

theorem insert_map_ok [Pattern.Engine] {t : Table} :
    insert t supply (.map entries) table = .ok row ↔
      t.fault? = none ∧ columnwise (newColumn supply entries) t = .ok row := by
  rw [insert_ok]
  constructor
  · rintro ⟨_, hentries, h⟩
    obtain rfl := Value.map.inj hentries
    exact h
  · exact fun h => ⟨entries, rfl, h⟩

theorem insert_finds [Pattern.Engine] {t : Table} (ht : t.Declares fields)
    (hfault : t.fault? = none) (supply : Supply) (entries : List (Value × Value))
    (table : Option String) :
    Finds table (insert t supply (.map entries) table)
      (columnwise (newColumn supply entries) t).findings := by
  have hsome := columnwise_ne_bad ht supply entries
  unfold insert insertAt assess
  simp only [hfault]
  cases h : columnwise (newColumn supply entries) t with
  | ok row => exact .inl ⟨rfl, row, rfl⟩
  | bad fs => exact .inr ⟨fun hnone => hsome (h.trans (congrArg Checked.bad hnone)), rfl⟩

theorem findings_ne {t : Table} (ht : t.Declares fields) :
    (columnwise (newColumn supply entries) t).findings ≠ [] ↔
      ∃ c ∈ fields, (newColumn supply entries 0 c.1 (.field c.2)).findings ≠ [] := by
  have hmoved (i : Nat) (c : String × Field) :
      (newColumn supply entries i c.1 (.field c.2)).findings ≠ [] ↔
        (newColumn supply entries 0 c.1 (.field c.2)).findings ≠ [] := by
    have h := (paired_findings (newColumn_moved supply entries c i)).length_eq
    rw [← List.length_pos_iff, ← h, List.length_pos_iff]
  rw [columnwise_declared ht, findings_map, findings_all, ne_eq, List.flatMap_eq_nil_iff]
  push Not
  constructor
  · rintro ⟨x, hx, hsome⟩
    obtain ⟨i, hi, rfl⟩ := List.mem_mapIdx.mp hx
    exact ⟨_, List.getElem_mem hi, (hmoved i _).mp hsome⟩
  · rintro ⟨c, hc, hsome⟩
    obtain ⟨i, hi, rfl⟩ := List.mem_iff_getElem.mp hc
    exact ⟨_, List.mem_mapIdx.mpr ⟨i, hi, rfl⟩, (hmoved i _).mpr hsome⟩

theorem rejected_iff [Pattern.Engine] {t : Table} (ht : t.Declares fields)
    (hfault : t.fault? = none) :
    (∃ vs, insert t supply (.map entries) table = .error (.rejected vs table)) ↔
      (columnwise (newColumn supply entries) t).findings ≠ [] := by
  obtain ⟨hnone, row, hrow⟩ | ⟨hsome, hrejected⟩ := insert_finds ht hfault supply entries table
  · exact iff_of_false (by simp [hrow]) (not_not.mpr hnone)
  · exact iff_of_true ⟨_, hrejected⟩ hsome

theorem rejected_of_columns [Pattern.Engine] {t : Table} (ht : t.Declares fields)
    (hfault : t.fault? = none) :
    (∃ vs, insert t supply (.map entries) table = .error (.rejected vs table)) ↔
      ∃ c ∈ fields, ∃ vs,
        insert (.only c) supply (.map entries) table = .error (.rejected vs table) := by
  rw [rejected_iff ht hfault, findings_ne ht]
  refine exists_congr fun c => and_congr_right fun hc => ?_
  rw [rejected_iff (Table.only_declares c) ((usable_iff ht).mp hfault c hc), columnwise_only]

/-- A usable table reports what its columns report alone, in order, and each finding is of a value
that breaks a rule itself. -/
theorem reports_of_columns [Pattern.Engine] {t : Table} (ht : t.Declares fields)
    (hfault : t.fault? = none) (supply : Supply) (entries : List (Value × Value))
    (table : Option String) :
    ∃ reports : List (List Finding), reports.length = fields.length ∧
      Finds table (insert t supply (.map entries) table) reports.flatten ∧
      (∀ (i : Nat) c report, fields[i]? = some c → reports[i]? = some report →
        ∃ own, Finds table (insert (.only c) supply (.map entries) table) own ∧
          List.Forall₂ (Moved entries c i) own report) ∧
      ∀ fd, fd ∈ reports.flatten ↔ ∃ way s place, Leads (rowSpot fields supply entries) way s ∧
        Breaks s place fd.cause ∧ fd.place = way.map Step.shown ++ place := by
  have hflatten : ((fields.mapIdx fun i c =>
      newColumn supply entries i c.1 (.field c.2)).map findings).flatten =
        (columnwise (newColumn supply entries) t).findings := by
    rw [columnwise_declared ht, findings_map, findings_all, List.flatMap]
  refine ⟨_, by simp, hflatten ▸ insert_finds ht hfault _ _ _, ?_, fun fd => ?_⟩
  · intro i c report hc hreport
    rw [List.getElem?_map, List.getElem?_mapIdx, hc] at hreport
    obtain rfl := Option.some.inj hreport
    have hown := insert_finds (Table.only_declares c)
      ((usable_iff ht).mp hfault c (List.mem_of_getElem? hc)) supply entries table
    rw [columnwise_only] at hown
    exact ⟨_, hown, paired_findings (newColumn_moved supply entries c i)⟩
  · rw [hflatten, findings_columns ht, mem_findings]

theorem columns_ok {fields : List (String × Field)} {parts : List Row} :
    all (fields.mapIdx fun i c => newColumn supply entries i c.1 (.field c.2)) = .ok parts ↔
      List.Forall₂ (fun c part => newColumn supply entries 0 c.1 (.field c.2) = .ok part) fields
        parts := by
  rw [all_ok]
  exact forall₂_mapIdx_left_iff
    (fun i c _ => (paired_ok (newColumn_moved supply entries c i)).symm) fields parts

theorem row_of_columns [Pattern.Engine] {t : Table} (ht : t.Declares fields) :
    insert t supply (.map entries) table = .ok row ↔ ∃ parts,
      List.Forall₂ (fun c part => insert (.only c) supply (.map entries) table = .ok part) fields
        parts ∧ row = parts.flatten := by
  simp only [insert_map_ok, columnwise_only, List.forall₂_and_left, usable_iff ht,
    columnwise_declared ht, map_ok, columns_ok]
  constructor
  · rintro ⟨hfaults, parts, hparts, rfl⟩
    exact ⟨parts, ⟨hfaults, hparts⟩, rfl⟩
  · rintro ⟨parts, ⟨hfaults, hparts⟩, rfl⟩
    exact ⟨hfaults, parts, hparts, rfl⟩

/-- A row has the columns that the payload has or that have a default, in the order of the table. -/
theorem keys_of_row [Pattern.Engine] {t : Table} (ht : t.Declares fields)
    (h : insert t supply (.map entries) table = .ok row) :
    Assoc.keys row = Assoc.keys (fields.filter (isStored entries)) := by
  rw [insert_map_ok, columnwise_declared ht, map_ok] at h
  obtain ⟨-, parts, hparts, rfl⟩ := h
  rw [columns_ok] at hparts
  clear ht
  induction hparts with
  | nil => rfl
  | @cons c part fields parts hpart _ ih =>
    simp only [Assoc.keys, List.flatten_cons, List.map_append, newColumn_stored hpart,
      List.filter_cons] at ih ⊢
    cases isStored entries c <;> simp [ih]

-- ---------------------------------------------------------------------------
-- What a table does not declare
-- ---------------------------------------------------------------------------

def isDeclared (t : Table) (e : Value × Value) : Bool :=
  t.names.any fun name => e.1.equal (.text name)

theorem field?_declared {t : Table} (hname : name ∈ t.names) (entries : List (Value × Value)) :
    Value.field? name (entries.filter (isDeclared t)) = Value.field? name entries := by
  unfold Value.field? Value.lookup
  rw [List.find?_filter]
  refine congrArg _ (List.find?_congr fun e _ => ?_)
  cases he : e.1.equal (.text name) with
  | false => simp
  | true =>
    have hdeclared : isDeclared t e = true := List.any_eq_true.mpr ⟨name, hname, he⟩
    simp [hdeclared]

theorem insert_congr [Pattern.Engine] {t : Table} {entries' : List (Value × Value)}
    (h : entries'.filter (isDeclared t) = entries.filter (isDeclared t)) :
    insert t supply (.map entries') table = insert t supply (.map entries) table := by
  have hfield : ∀ name ∈ t.names, Value.field? name entries' = Value.field? name entries :=
    fun name hname => by rw [← field?_declared hname entries', h, field?_declared hname]
  have hcolumns : columnwise (newColumn supply entries') t =
      columnwise (newColumn supply entries) t := by
    refine congrArg (fun xs => Checked.map _ (all xs)) (List.ext_getElem (by simp) fun i hi _ => ?_)
    rw [List.length_mapIdx] at hi
    rw [List.getElem_mapIdx, List.getElem_mapIdx]
    exact newColumn_congr (hfield _ (List.mem_map_of_mem (List.getElem_mem hi)))
  unfold insert insertAt assess
  simp only [hcolumns]

/-- A new row of a table is put together from what its columns say alone. A table cannot be used if
one of them cannot, and then fails like this one. Else its report is made of theirs, in order, with
what is counted moved to their positions, and has the rules that the values of the row break, each
at the steps that lead to the value. A row is accepted if all of them accept it, and has the stored
columns, in order, each with what it stores alone. Entries under other names do not matter. -/
theorem insert_by_columns [Pattern.Engine] {t : Table} (ht : t.Declares fields) (supply : Supply)
    (entries : List (Value × Value)) (table : Option String) :
    (∀ fault, t.fault? = some fault → insert t supply (.map entries) table = .error fault ∧
      ∃ c ∈ fields, (Table.only c).fault? = some fault) ∧
    (t.fault? = none → (∀ c ∈ fields, (Table.only c).fault? = none) ∧
      ((∃ vs, insert t supply (.map entries) table = .error (.rejected vs table)) ↔
        ∃ c ∈ fields, ∃ vs,
          insert (.only c) supply (.map entries) table = .error (.rejected vs table)) ∧
      ∃ reports : List (List Finding), reports.length = fields.length ∧
        Finds table (insert t supply (.map entries) table) reports.flatten ∧
        (∀ (i : Nat) c report, fields[i]? = some c → reports[i]? = some report →
          ∃ own, Finds table (insert (.only c) supply (.map entries) table) own ∧
            List.Forall₂ (Moved entries c i) own report) ∧
        ∀ fd, fd ∈ reports.flatten ↔ ∃ way s place, Leads (rowSpot fields supply entries) way s ∧
          Breaks s place fd.cause ∧ fd.place = way.map Step.shown ++ place) ∧
    (∀ row, insert t supply (.map entries) table = .ok row ↔ ∃ parts,
      List.Forall₂ (fun c part => insert (.only c) supply (.map entries) table = .ok part) fields
        parts ∧ row = parts.flatten) ∧
    (∀ row, insert t supply (.map entries) table = .ok row →
      Assoc.keys row = Assoc.keys (fields.filter (isStored entries))) ∧
    ∀ entries' : List (Value × Value),
      entries'.filter (isDeclared t) = entries.filter (isDeclared t) →
      insert t supply (.map entries') table = insert t supply (.map entries) table := by
  refine ⟨fun fault hfault => ⟨?_, fault_of_column ht hfault⟩, fun hfault =>
    ⟨(usable_iff ht).mp hfault, ?_, reports_of_columns ht hfault supply entries table⟩,
    fun row => row_of_columns ht, fun row h => keys_of_row ht h, fun entries' h => insert_congr h⟩
  · simp [insert, insertAt, assess, hfault]
  · exact rejected_of_columns ht hfault

section

attribute [local instance] Pattern.Engine.unlimited

/-- How a book is printed: its number of pages, with a default that is no number. -/
def printing : String × Field :=
  ("print", .object .plain
    [("pages", .number (.withDefault (.text "many") .plain) ⟨true, none, none⟩)])

def book : List (String × Field) :=
  [("title", .text .plain ⟨none, none, false, false, none⟩), printing]

def books : Table :=
  ⟨book.map fun (column, f) => (column, .field f), none, by decide⟩

/-- Where the number of pages is given, the row has what both columns store alone. -/
theorem insert_by_columns_book :
    let entries := [(.text "print", .object [("pages", .int 300)]), (.text "title", .text "Emma")]
    ∃ parts, List.Forall₂ (fun c part => insert (.only c) idle (.map entries) none = .ok part) book
        parts ∧
      [("title", .text "Emma"), ("print", .object [("pages", .int 300)])] = parts.flatten := by
  intro entries
  have ht : books.Declares book := by rfl
  have hrow : insert books idle (.map entries) none =
      .ok [("title", .text "Emma"), ("print", .object [("pages", .int 300)])] := by rfl
  exact ((insert_by_columns ht idle entries none).2.2.1 _).mp hrow

def unpaged : List (Value × Value) :=
  [(.text "title", .text "Emma"), (.text "print", .map [])]

def misprinted : List (Value × Value) :=
  [(.text "title", .text "Emma"), (.text "print", .int 300)]

/-- The default of a nested member is reported under a position and not under the key. And what is
no object is refused by a name with the position of the column, here and alone another one. -/
theorem insert_by_columns_counted :
    (insert books idle (.map unpaged) none =
        .error (.rejected [⟨"print.f0", "Input should be a valid integer", "int_type"⟩] none) ∧
      ∃ way s, Leads (rowSpot book idle unpaged) way s ∧ Breaks s [] .notInteger ∧
        way.map Step.key = ["print", "pages"]) ∧
    insert books idle (.map misprinted) none = .error (.rejected
      [⟨"print", "Input should be a valid dictionary or instance of TableRow_1", "model_type"⟩]
      none) ∧
    insert (.only printing) idle (.map misprinted) none = .error (.rejected
      [⟨"print", "Input should be a valid dictionary or instance of TableRow_0", "model_type"⟩]
      none) := by
  have default : insert books idle (.map unpaged) none =
      .error (.rejected [Finding.violation "" ⟨["print", defaultPlace 0], .notInteger⟩] none) := by
    rfl
  have pages : Leads (rowSpot book idle unpaged) [.member "print", .standIn "pages" 0] _ :=
    .step (.member (i := 1) rfl (.given rfl))
      (.step (.member (i := 0) rfl (.standIn rfl rfl)) .here)
  have there : insert books idle (.map misprinted) none = .error (.rejected
      [Finding.violation "" ⟨["print"], .notRecordOf (declarationName 1)⟩] none) := by rfl
  have alone : insert (.only printing) idle (.map misprinted) none = .error (.rejected
      [Finding.violation "" ⟨["print"], .notRecordOf (declarationName 0)⟩] none) := by rfl
  refine ⟨⟨default.trans ?_, _, _, pages, .itself rfl, rfl⟩, there.trans ?_, alone.trans ?_⟩
  · rw [show Finding.violation "" ⟨["print", defaultPlace 0], .notInteger⟩ =
      ⟨"print.f0", "Input should be a valid integer", "int_type"⟩ by decide +kernel]
  · rw [show Finding.violation "" ⟨["print"], .notRecordOf (declarationName 1)⟩ = ⟨"print",
      "Input should be a valid dictionary or instance of TableRow_1", "model_type"⟩
      by decide +kernel]
  · rw [show Finding.violation "" ⟨["print"], .notRecordOf (declarationName 0)⟩ = ⟨"print",
      "Input should be a valid dictionary or instance of TableRow_0", "model_type"⟩
      by decide +kernel]

end

end Row

end TenantStore
