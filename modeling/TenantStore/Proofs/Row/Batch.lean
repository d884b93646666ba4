import TenantStore.Proofs.Row.Alone
import TenantStore.Proofs.Row.Changes
import TenantStore.Proofs.Row.Usable

/-!
# Many rows at once

A list of payloads is checked as each of them is alone. `insertMany_by_rows`: it is accepted
exactly if all of them are, and its rows are theirs; if not, its violations are theirs in order,
each under the position of its payload. What is made for a row is made alike in both, or the table
asks for nothing of the kind. In a table that cannot be used, one mapping is enough for a failure
that is no rejection (`insertMany_unusable_row`).
-/

namespace TenantStore

/-- No default of the table is made when a row is written. -/
def Declaration.Steady : Declaration → Prop
  | .field f => f.modifiers.deferred = none ∧ Row.Steady f
  | .unknown _ m => m.deferred = none
  | .foreign _ => True

def Table.Steady (t : Table) : Prop :=
  ∀ e ∈ t.columns, e.2.Steady

/-- A violation in a payload, as it is reported of a list. -/
def Violation.under (lead : String) (v : Violation) : Violation :=
  { v with path := lead ++ v.path }

namespace Row

open Checked

variable {whole : Bool} {supply : Supply} {t : Table} {payload : Value} {payloads : List Value}
  {table : Option String} {verdicts : List (Except (List Violation) Row)} {rows : List Row}

-- ---------------------------------------------------------------------------
-- Tables that ask for no made values
-- ---------------------------------------------------------------------------

theorem member_steady {m : Modifiers} (hm : m.deferred = none) (s₁ s₂ : Supply)
    (check : Value → Checked Value) :
    member whole s₁ column i m check entries = member whole s₂ column i m check entries := by
  unfold member absent
  rw [hm]

mutual
/-- By induction on the field, with the shapes of objects. -/
theorem check_steady : (f : Field) → Steady f → (s₁ s₂ : Supply) → (name : String) →
    (v : Value) → check whole f s₁ name v = check whole f s₂ name v
  | .text .., _, _, _, _, _ => rfl
  | .number .., _, _, _, _, _ => rfl
  | .boolean _, _, _, _, _, _ => rfl
  | .date _, _, _, _, _, _ => rfl
  | .choice .., _, _, _, _, _ => rfl
  | .literal .., _, _, _, _, _ => rfl
  | .object _ shape, hf, s₁, s₂, name, v => by
    cases v with
    | map entries =>
      exact congrArg (Checked.map _) (checkShape_steady shape hf s₁ s₂ name 0 entries)
    | _ => rfl
  | .array _ element r, hf, s₁, s₂, name, v => by
    have item (i : Nat) : check whole element (s₁.under (Decimal.natText i)) (name ++ "_item") =
        check whole element (s₂.under (Decimal.natText i)) (name ++ "_item") :=
      funext fun v => check_steady element hf _ _ _ v
    cases v with
    | list items | tuple items => simp only [check, item]
    | _ => rfl
  | .record _ value, hf, s₁, s₂, name, v => by
    have entry (k : Value) : check whole value (s₁.under k.placeName) (name ++ "_value") =
        check whole value (s₂.under k.placeName) (name ++ "_value") :=
      funext fun v => check_steady value hf _ _ _ v
    cases v with
    | map entries => simp only [check, entry]
    | _ => rfl

theorem checkShape_steady : (shape : List (String × Field)) → ShapeSteady shape →
    (s₁ s₂ : Supply) → (name : String) → (position : Nat) → (entries : List (Value × Value)) →
    checkShape whole shape s₁ name position entries =
      checkShape whole shape s₂ name position entries
  | [], _, _, _, _, _, _ => rfl
  | (column, f) :: rest, ⟨⟨hm, hf⟩, hrest⟩, s₁, s₂, name, position, entries => by
    have hcheck : check whole f (s₁.under column) (name ++ "_" ++ Decimal.natText position) =
        check whole f (s₂.under column) (name ++ "_" ++ Decimal.natText position) :=
      funext fun v => check_steady f hf _ _ _ v
    rw [checkShape, checkShape, hcheck, checkShape_steady rest hrest s₁ s₂,
      member_steady hm (s₁.under column) (s₂.under column)]
end

theorem newColumn_steady (hd : d.Steady) (s₁ s₂ : Supply) (entries : List (Value × Value))
    (i : Nat) (column : String) :
    newColumn s₁ entries i column d = newColumn s₂ entries i column d := by
  have hm : (d.modifiers?.getD .plain).deferred = none := by
    cases d with
    | field f => exact hd.1
    | unknown kind m => exact hd
    | foreign v => rfl
  have hcheck : checkDeclaration true (s₁.under column) (declarationName i) d =
      checkDeclaration true (s₂.under column) (declarationName i) d := by
    cases d with
    | field f =>
      funext v
      simp only [checkDeclaration,
        funext (check_steady f hd.2 (s₁.under column) (s₂.under column) _)]
    | unknown kind m => rfl
    | foreign v => rfl
  unfold newColumn
  simp only [hcheck, member_steady hm (s₁.under column) (s₂.under column)]

/-- A row does not depend on what could be made for it, if nothing is. -/
theorem insert_steady [Pattern.Engine] (ht : t.Steady) (s₁ s₂ : Supply) (payload : Value)
    (table : Option String) :
    insert t s₁ payload table = insert t s₂ payload table := by
  have hrow (entries : List (Value × Value)) :
      columnwise (newColumn s₁ entries) t = columnwise (newColumn s₂ entries) t := by
    unfold columnwise
    congr 2
    refine List.mapIdx_eq_mapIdx_iff.mpr fun i hi => ?_
    exact newColumn_steady (ht _ (List.getElem_mem hi)) s₁ s₂ entries i _
  unfold insert insertAt
  simp only [hrow]

-- ---------------------------------------------------------------------------
-- One payload of a list
-- ---------------------------------------------------------------------------

/-- Where a list reports what it finds in a payload: what is no mapping has nothing in it. -/
def rowLead (i : Nat) : Value → String
  | .map _ => Decimal.natText i ++ "."
  | _ => Decimal.natText i

/-- The verdict on a payload alone, placed under its position in a list. -/
def verdictAt [Pattern.Engine] (t : Table) (supply : Supply) (i : Nat) (payload : Value) :
    Except Failure (Except (List Violation) Row) :=
  (insertAt t (supply.under (Decimal.natText i)) "" "" payload).map
    (Except.mapError (List.map (Violation.under (rowLead i payload))))

theorem insertAt_placed [Pattern.Engine] (t : Table) (supply : Supply) (i : Nat) (payload : Value) :
    insertAt t (supply.under (Decimal.natText i)) (Decimal.natText i) (Decimal.natText i ++ ".")
      payload = verdictAt t supply i payload := by
  unfold verdictAt insertAt assess
  cases payload with
  | map entries =>
    cases t.fault? with
    | some fault => rfl
    | none =>
      dsimp only
      cases columnwise (newColumn (supply.under (Decimal.natText i)) entries) t with
      | ok row => rfl
      | bad fs =>
        simp [Checked.toExcept, Except.mapError, Except.map, Finding.violation, Violation.under,
          rowLead]
  | _ => simp [Except.map, Except.mapError, notAPayload, Violation.under, rowLead]

theorem paired_checkDeclaration (supply : Supply) (name : String) (d : Declaration) (v : Value) :
    Paired (Renamed name name) (checkDeclaration whole supply name d v)
      (checkDeclaration whole supply name d v) := by
  cases d with
  | field f =>
    have hcheck (v : Value) : Paired (Renamed name name) (check whole f supply (name ++ "") v)
        (check whole f supply (name ++ "") v) := check_renamed f
    rw [String.append_empty] at hcheck
    exact renamed_orNull (hcheck v)
  | unknown kind m => exact .ok _
  | foreign w => exact .ok _

theorem insertAt_ne_nil [Pattern.Engine] (t : Table) (supply : Supply) (payload : Value) :
    insertAt t supply "" "" payload ≠ .ok (.error []) := by
  unfold insertAt assess
  cases payload with
  | map entries =>
    cases t.fault? with
    | some fault => simp
    | none =>
      have hpaired : Paired (fun _ _ => True) (columnwise (newColumn supply entries) t)
          (columnwise (newColumn supply entries) t) := by
        refine paired_map (paired_all (forall₂_mapIdx _ fun i e => ?_)) _
        unfold newColumn
        dsimp only
        split
        · exact .ok _
        · refine paired_mono (renamed_member fun v => paired_checkDeclaration _ _ e.2 v) ?_
          exact fun _ _ _ => trivial
      have hfound := (paired_ne_bad hpaired).1
      dsimp only
      cases hrow : columnwise (newColumn supply entries) t with
      | ok row => simp [Checked.toExcept, Except.mapError]
      | bad fs =>
        rw [hrow] at hfound
        simpa [Checked.toExcept, Except.mapError] using hfound
  | _ => simp

def reported : Except Failure Row → List Violation
  | .error (.store (.validation vs _)) => vs
  | _ => []

theorem verdictAt_ok [Pattern.Engine] {i : Nat} {row : Row} :
    verdictAt t supply i payload = .ok (.ok row) ↔
      insert t (supply.under (Decimal.natText i)) payload table = .ok row := by
  unfold verdictAt insert
  cases insertAt t (supply.under (Decimal.natText i)) "" "" payload with
  | error fault => simp [Except.map]
  | ok verdict => cases verdict <;> simp [Except.map, Except.mapError]

theorem verdictAt_violations [Pattern.Engine] {i : Nat} {vs : List Violation}
    (h : verdictAt t supply i payload = .ok (.error vs)) :
    vs ≠ [] ∧ vs = (reported (insert t (supply.under (Decimal.natText i)) payload table)).map
      (Violation.under (rowLead i payload)) := by
  have hne := insertAt_ne_nil t (supply.under (Decimal.natText i)) payload
  unfold verdictAt at h
  unfold insert
  cases hv : insertAt t (supply.under (Decimal.natText i)) "" "" payload with
  | error fault => simp [hv, Except.map] at h
  | ok verdict =>
    rw [hv] at h hne
    cases verdict with
    | ok row => simp [Except.map, Except.mapError] at h
    | error found =>
      simp only [Except.map, Except.mapError, Except.ok.injEq, Except.error.injEq] at h
      subst h
      refine ⟨fun hnil => hne ?_, rfl⟩
      rw [List.map_eq_nil_iff.mp hnil]

-- ---------------------------------------------------------------------------
-- All payloads of a list
-- ---------------------------------------------------------------------------

theorem insertMany_eq [Pattern.Engine] (t : Table) (supply : Supply) (payloads : List Value)
    (table : Option String) : insertMany t supply payloads table =
      (payloads.mapIdx (verdictAt t supply)).mapM id >>= fun verdicts =>
        conclude verdicts table := by
  unfold insertMany
  simp only [insertAt_placed]

theorem mapM_id_ok {as : List (Except ε α)} {bs : List α} :
    as.mapM id = .ok bs ↔ as = bs.map .ok := by
  rw [mapM_ok, ← List.forall₂_eq_eq_eq, List.forall₂_map_right_iff]
  rfl

theorem violations_eq_nil_iff (h : ∀ v ∈ verdicts, v ≠ .error []) :
    violations verdicts = [] ↔ verdicts = (accepted verdicts).map .ok := by
  induction verdicts with
  | nil => exact iff_of_true rfl rfl
  | cons v verdicts ih =>
    obtain ⟨hv, hrest⟩ := List.forall_mem_cons.mp h
    have ih := ih hrest
    cases v with
    | ok row =>
      simp only [violations, accepted] at ih ⊢
      simpa [Except.toOption] using ih
    | error vs =>
      refine iff_of_false (fun hnil => ?_) fun heq => ?_
      · simp only [violations, List.flatMap_cons, List.append_eq_nil_iff] at hnil
        exact hv (congrArg Except.error hnil.1)
      · have hmem : .error vs ∈ (accepted (.error vs :: verdicts)).map Except.ok :=
          heq ▸ List.mem_cons_self
        simp at hmem

theorem conclude_ok (h : ∀ v ∈ verdicts, v ≠ .error []) :
    conclude verdicts table = .ok rows ↔ verdicts = rows.map .ok := by
  have accepted_map : accepted (rows.map .ok) = rows := by
    simp [accepted, List.filterMap_map, Function.comp_def, Except.toOption]
  unfold conclude
  split
  · rename_i hnil
    have hrows := (violations_eq_nil_iff h).mp hnil
    constructor
    · intro hok
      rw [← Except.ok.inj hok]
      exact hrows
    · intro heq
      rw [heq, accepted_map]
  · rename_i hsome
    refine iff_of_false (by simp) fun heq => hsome ?_
    rw [heq] at h ⊢
    rw [violations_eq_nil_iff h, accepted_map]

theorem mapIdx_eq_map_iff {f : Nat → α → β} {g : Nat → α → γ} {f' : δ → β} {g' : δ → γ}
    (h : ∀ i a d, f i a = f' d ↔ g i a = g' d) (as : List α) (ds : List δ) :
    as.mapIdx f = ds.map f' ↔ as.mapIdx g = ds.map g' := by
  induction as generalizing f g ds with
  | nil => simp
  | cons a as ih =>
    cases ds with
    | nil => simp
    | cons d ds => simp [h 0 a d, ih fun i => h (i + 1)]

theorem verdicts_ne_nil [Pattern.Engine]
    (h : (payloads.mapIdx (verdictAt t supply)).mapM id = .ok verdicts) :
    ∀ v ∈ verdicts, v ≠ .error [] := by
  rintro v hv rfl
  have hmem : .ok (.error []) ∈ payloads.mapIdx (verdictAt t supply) := by
    rw [mapM_id_ok.mp h]
    exact List.mem_map_of_mem hv
  obtain ⟨i, hi, heq⟩ := List.mem_mapIdx.mp hmem
  have hvs : _ ∧ _ = (reported (insert t _ _ none)).map _ := verdictAt_violations heq
  exact hvs.1 rfl

theorem insertMany_ok [Pattern.Engine] : insertMany t supply payloads table = .ok rows ↔
    payloads.mapIdx (fun i p => insert t (supply.under (Decimal.natText i)) p table) =
      rows.map .ok := by
  have hrows : payloads.mapIdx (verdictAt t supply) = rows.map (fun row => .ok (.ok row)) ↔
      payloads.mapIdx (fun i p => insert t (supply.under (Decimal.natText i)) p table) =
        rows.map .ok :=
    mapIdx_eq_map_iff (fun i p row => verdictAt_ok) payloads rows
  rw [← hrows, insertMany_eq]
  constructor
  · intro h
    cases hverdicts : (payloads.mapIdx (verdictAt t supply)).mapM id with
    | error fault =>
      rw [hverdicts] at h
      cases h
    | ok verdicts =>
      rw [hverdicts] at h
      have hall := (conclude_ok (verdicts_ne_nil hverdicts)).mp h
      rw [mapM_id_ok.mp hverdicts, hall, List.map_map]
      rfl
  · intro h
    have hverdicts : (payloads.mapIdx (verdictAt t supply)).mapM id = .ok (rows.map .ok) := by
      rw [mapM_id_ok, h, List.map_map]
      rfl
    rw [hverdicts]
    exact (conclude_ok (verdicts_ne_nil hverdicts)).mpr rfl

theorem violations_of_verdictAt [Pattern.Engine] {i : Nat} {verdict : Except (List Violation) Row}
    (h : verdictAt t supply i payload = .ok verdict) : violations [verdict] =
      (reported (insert t (supply.under (Decimal.natText i)) payload table)).map
        (Violation.under (rowLead i payload)) := by
  cases verdict with
  | ok row =>
    rw [verdictAt_ok.mp h]
    rfl
  | error vs =>
    rw [← (verdictAt_violations h).2]
    exact List.append_nil vs

theorem violations_of_verdicts [Pattern.Engine]
    (h : (payloads.mapIdx (verdictAt t supply)).mapM id = .ok verdicts) :
    violations verdicts = (payloads.mapIdx fun i p =>
      (reported (insert t (supply.under (Decimal.natText i)) p table)).map
        (Violation.under (rowLead i p))).flatten := by
  have hlist := mapM_id_ok.mp h
  have hsingle : violations verdicts = (verdicts.map fun v => violations [v]).flatten := by
    simp [violations, List.flatMap_def]
  have hlength : payloads.length = verdicts.length := by
    simpa using congrArg List.length hlist
  rw [hsingle]
  congr 1
  refine List.ext_getElem (by simp [hlength]) fun i hi hi' => ?_
  rw [List.length_map] at hi
  rw [List.length_mapIdx] at hi'
  have hverdict : verdictAt t supply i payloads[i] = .ok verdicts[i] := by
    have hat := List.getElem_of_eq hlist (i := i) (by simpa using hi')
    rwa [List.getElem_mapIdx, List.getElem_map] at hat
  rw [List.getElem_map, List.getElem_mapIdx]
  exact violations_of_verdictAt hverdict

theorem insertMany_rejected [Pattern.Engine] (h : t.fault? = none ∨ ∀ p ∈ payloads, ¬ p.IsMapping)
    (hnot : ∀ rows, insertMany t supply payloads table ≠ .ok rows) :
    insertMany t supply payloads table = .error (.rejected
      (payloads.mapIdx fun i p => (reported (insert t (supply.under (Decimal.natText i)) p table)).map
        (Violation.under (rowLead i p))).flatten table) := by
  obtain ⟨verdicts, hverdicts⟩ : ∃ verdicts,
      (payloads.mapIdx (verdictAt t supply)).mapM id = .ok verdicts := by
    refine mapM_total fun r hr => ?_
    obtain ⟨i, hi, rfl⟩ := List.mem_mapIdx.mp hr
    rw [← insertAt_placed]
    exact assess_settled (h.imp_right fun hnone => hnone _ (List.getElem_mem hi))
  have hconclude : insertMany t supply payloads table = conclude verdicts table := by
    rw [insertMany_eq, hverdicts]
    rfl
  rw [hconclude] at hnot ⊢
  rw [← violations_of_verdicts hverdicts]
  unfold conclude at hnot ⊢
  split
  · rename_i hnil
    rw [hnil] at hnot
    exact absurd rfl (hnot _)
  · rfl

/-- A list is accepted exactly if each payload is alone, and has the rows of the payloads alone.
Otherwise its violations are those of the payloads alone, in order; or a mapping is given to a table
that cannot be used. -/
theorem insertMany_by_rows [Pattern.Engine] (t : Table) (supply : Supply) (alone : Nat → Supply)
    (halone : t.Steady ∨ ∀ i, alone i = supply.under (Decimal.natText i)) (payloads : List Value)
    (table : Option String) :
    (∀ rows, insertMany t supply payloads table = .ok rows ↔
      payloads.mapIdx (fun i p => insert t (alone i) p table) = rows.map .ok) ∧
    ((t.fault? = none ∨ ∀ p ∈ payloads, ¬ p.IsMapping) →
      (∀ rows, insertMany t supply payloads table ≠ .ok rows) →
      insertMany t supply payloads table = .error (.rejected
        (payloads.mapIdx fun i p => (reported (insert t (alone i) p table)).map
          (Violation.under (rowLead i p))).flatten table)) ∧
    (∀ fault, t.fault? = some fault → (∃ p ∈ payloads, p.IsMapping) →
      insertMany t supply payloads table = .error fault ∧
        ∀ i p, p.IsMapping → insert t (alone i) p table = .error fault) := by
  have hsame (i : Nat) (p : Value) :
      insert t (alone i) p table = insert t (supply.under (Decimal.natText i)) p table := by
    obtain hsteady | hmade := halone
    · exact insert_steady hsteady _ _ p table
    · rw [hmade i]
  simp only [hsame]
  refine ⟨fun rows => insertMany_ok, fun h => insertMany_rejected h, fun fault h hm => ?_⟩
  exact ⟨insertMany_unusable h hm supply table, fun i p hp => insert_unusable h hp _ table⟩

section

attribute [local instance] Pattern.Engine.unlimited

def flags : Table :=
  .ofList [("done", .field (.boolean .plain))] none

def mixed : List Value :=
  [.object [], .object [("done", .bool true)], .text "done"]

/-- The first payload and the last are refused, one of them as it is no mapping. -/
theorem insertMany_by_rows_mixed : flags.Steady ∧ flags.fault? = none ∧
    (∀ rows, insertMany flags idle mixed none ≠ .ok rows) ∧
    insertMany flags idle mixed none = .error (.rejected [⟨"0.done", "Field required", "missing"⟩,
      ⟨"2", "payload must be an object", "type"⟩] none) := by
  have hsteady : flags.Steady := by
    rintro e he
    obtain rfl := List.mem_singleton.mp he
    exact ⟨rfl, trivial⟩
  have hnot : ∀ rows, insertMany flags idle mixed none ≠ .ok rows := by
    intro rows h
    have hfails : ∃ e, insertMany flags idle mixed none = .error e := ⟨_, rfl⟩
    simp [h] at hfails
  obtain ⟨-, hrejected, -⟩ :=
    insertMany_by_rows flags idle (fun _ => idle) (.inl hsteady) mixed none
  refine ⟨hsteady, rfl, hnot, ?_⟩
  rw [hrejected (.inl rfl) hnot]
  congr 2
  decide +kernel

/-- Two payloads for a table that cannot be used: the first alone is rejected, and the list is not
rejected but fails as its second one does. -/
theorem insertMany_unusable_row : ∃ s, Schema.define [("notes", Schema.halfTable)] 1 = .ok s ∧
    ("notes", Schema.halfTable) ∈ s.tables ∧ ∀ supply table,
      insert Schema.halfTable supply (.int 5) table = .error (.rejected [notAPayload ""] table) ∧
        insertMany Schema.halfTable supply [.int 5, .map [(.text "n", .int 1)]] table =
          .error .unusableSchema := by
  have hfault : Schema.halfTable.fault? = some .unusableSchema := by rfl
  refine ⟨_, rfl, List.mem_cons_self, fun supply table => ⟨rfl, ?_⟩⟩
  exact insertMany_unusable hfault ⟨_, List.mem_cons_of_mem _ List.mem_cons_self, _, rfl⟩ supply
    table

end

end Row

end TenantStore
