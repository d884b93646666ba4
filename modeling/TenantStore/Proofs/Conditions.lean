import TenantStore.Proofs.Row.Checks
import TenantStore.TableAccess

/-!
# Conditions on the wire

The same conditions reach the remote store in two ways: among the options of a selection, and by
themselves when rows are counted, changed or deleted. `TableAccess.conditions_wire`: both ways send
the same list unless a condition has a null value, which a selection leaves out.
-/

namespace TenantStore

/-- This condition as an argument: a made one, or a value that is read as it. -/
inductive Given.Gives (c : Condition) : Given Condition → Prop
  | made : Given.Gives c (.made c)
  | raw (h : Condition.ofValue v = .ok c) : Given.Gives c (.raw v)

/-- These conditions as an argument: one by one, or as a list that is read as them. -/
inductive GivenConditions.Conditions (cs : List Condition) : GivenConditions → Prop
  | each {gs : List (Given Condition)} (h : List.Forall₂ (fun g c => g.Gives c) gs cs) :
    GivenConditions.Conditions cs (.each gs)
  | raw {v : Value} {vs : List Value} (hv : v = .list vs ∨ v = .tuple vs)
      (hread : List.Forall₂ (fun v c => Condition.ofValue v = .ok c) vs cs) :
      GivenConditions.Conditions cs (.raw v)

/-- Options with these conditions: made ones, or a mapping that is accepted and has a list at
`where` that is read as them. -/
inductive Given.Selection (cs : List Condition) : Given QueryOptions → Prop
  | made {o : QueryOptions} (h : o.conditions = some cs) : Given.Selection cs (.made o)
  | raw {es : List (Value × Value)} {v : Value} {o : QueryOptions}
      (hwhere : Value.field? "where" es = some v) (hv : GivenConditions.Conditions cs (.raw v))
      (hread : QueryOptions.ofEntries es = .ok o) : Given.Selection cs (.raw (.map es))

-- ---------------------------------------------------------------------------
-- Reading
-- ---------------------------------------------------------------------------

theorem Coercion.itemsFrom_ok {check : Value → Checked α} :
    itemsFrom check start vs = .ok as ↔ List.Forall₂ (fun v a => check v = .ok a) vs as := by
  induction vs generalizing start as with
  | nil => simp [itemsFrom, eq_comm]
  | cons v vs ih =>
    simp only [itemsFrom, Checked.both_ok, Checked.map_ok, Checked.under_ok, ih,
      List.forall₂_cons_left_iff]
    constructor
    · rintro ⟨_, as', ⟨a, ha, rfl⟩, has, rfl⟩
      exact ⟨a, as', ha, has, rfl⟩
    · rintro ⟨a, as', ha, has, rfl⟩
      exact ⟨_, as', ⟨a, ha, rfl⟩, has, rfl⟩

theorem Coercion.nullable_of_ne {τ : Type} {check : Value τ → Checked α} {v : Value τ}
    (h : v ≠ .null) : nullable check v = (check v).map some := by
  cases v with
  | null => exact absurd rfl h
  | _ => rfl

section
variable {τ : Type} [Textual τ] [DecidableEq τ] {es : List (Value τ × Value τ)}
  {check : Value τ → Checked α} {absent : α}

theorem Checked.optional_ok (h : Value.field? key es = some v) :
    Checked.optional es key absent check = .ok a ↔ check v = .ok a := by
  unfold optional
  rw [h]
  exact under_ok

theorem Checked.optional_absent (h : Value.field? key es = none) :
    Checked.optional es key absent check = .ok absent := by
  rw [optional, h]

end

theorem QueryOptions.ofEntries_conditions (hread : ofEntries es = .ok o)
    (hwhere : Value.field? "where" es = some v) :
    Coercion.nullable (Coercion.list Condition.ofValue) v = .ok o.conditions := by
  change Checked.both (Checked.both (Checked.both (Checked.both (Checked.map _ _) _) _) _) _ = _
    at hread
  simp only [Checked.both_ok, Checked.map_ok] at hread
  obtain ⟨_, _, ⟨_, _, ⟨_, _, ⟨_, conditions, ⟨_, -, rfl⟩, hconditions, rfl⟩, -, rfl⟩, -, rfl⟩, -,
    rfl⟩ := hread
  exact (Checked.optional_ok hwhere).mp hconditions

namespace TableAccess

variable {cs : List Condition} {g : GivenConditions} {q : Given QueryOptions}

theorem condition_ok (a : TableAccess) {g : Given Condition} (h : g.Gives c) :
    a.condition g = .ok c := by
  cases h with
  | made => rfl
  | @raw v h =>
    show a.rejectedUnder "where." (Condition.ofValue v) = .ok c
    rw [h]
    rfl

theorem conditions_ok (a : TableAccess) (h : g.Conditions cs) : a.conditions g = .ok cs := by
  cases h with
  | each h => exact mapM_ok.mpr (h.imp fun g c hg => a.condition_ok hg)
  | @raw v vs hv hread =>
    have hmembers : v.members? = some vs := by
      obtain rfl | rfl := hv <;> rfl
    simp only [conditions, hmembers]
    exact mapM_ok.mpr (hread.imp fun v c h => a.condition_ok (.raw h))

theorem anyGiven_conditions (h : g.Conditions cs) (hcs : cs ≠ []) : anyGiven g = true := by
  cases h with
  | each h =>
    cases h with
    | nil => exact absurd rfl hcs
    | cons => rfl
  | @raw v vs hv hread =>
    cases hread with
    | nil => exact absurd rfl hcs
    | cons => obtain rfl | rfl := hv <;> rfl

theorem options_ok (a : TableAccess) (h : q.Selection cs) :
    ∃ o, a.options q = .ok o ∧ o.conditions = some cs := by
  cases h with
  | made h => exact ⟨_, rfl, h⟩
  | @raw es v o hwhere hv hread =>
    refine ⟨o, ?_, ?_⟩
    · show a.rejectedUnder "options." (QueryOptions.ofEntries es) = .ok o
      rw [hread]
      rfl
    · have hnullable := QueryOptions.ofEntries_conditions hread hwhere
      cases hv with
      | @raw _ vs hv hitems =>
        have hlist : Coercion.itemsFrom Condition.ofValue 0 vs = .ok cs :=
          Coercion.itemsFrom_ok.mpr hitems
        obtain rfl | rfl := hv <;>
        · change (Coercion.itemsFrom Condition.ofValue 0 vs).map some = _ at hnullable
          rw [hlist] at hnullable
          exact (Checked.ok.inj hnullable).symm

end TableAccess

-- ---------------------------------------------------------------------------
-- Sending
-- ---------------------------------------------------------------------------

namespace Condition

def comparison (c : Condition) : List (String × Value) :=
  [("column", .text c.column), ("operator", .text c.operator.name)]

/-- A condition by itself keeps a null value, and a condition among options loses it. -/
theorem sent_null {c : Condition} (h : c.value = .null) : c.toOption = .object c.comparison ∧
    c.toValue = .object (c.comparison ++ [("value", .null)]) := by
  obtain ⟨column, operator, value⟩ := c
  obtain rfl : value = .null := h
  exact ⟨rfl, rfl⟩

theorem sent_value {c : Condition} (h : c.value ≠ .null) : c.toOption = c.toValue := by
  obtain ⟨column, operator, value⟩ := c
  cases value with
  | null => exact absurd rfl h
  | _ => rfl

theorem toOption_eq_toValue_iff (c : Condition) : c.toOption = c.toValue ↔ c.value ≠ .null := by
  refine ⟨fun heq h => ?_, sent_value⟩
  rw [(sent_null h).1, (sent_null h).2] at heq
  have hlength := congrArg List.length (Value.map.inj heq)
  cases hlength

theorem sent_list_iff (cs : List Condition) :
    Value.list (cs.map toOption) = .list (cs.map toValue) ↔ ∀ c ∈ cs, c.value ≠ .null := by
  rw [Value.list.injEq, List.map_inj_left]
  exact forall₂_congr fun c _ => c.toOption_eq_toValue_iff

end Condition

theorem QueryOptions.lookup_where {o : QueryOptions} (h : o.conditions = some cs) :
    o.toRequest.lookup "where" = some (.list (cs.map Condition.toOption)) := by
  unfold toRequest
  rw [h]
  cases o.select <;> rfl

namespace TableAccess

/-- Calls that send this operation with this `where`, once their table is there. -/
inductive SendsWhere (a : TableAccess) (op : Operation) (v : Value) : Call → Prop
  | sends {sent : List (String × Value)} {allowFailure : Bool} {read : Answer → Remote Data}
      (h : sent.lookup "where" = some v) : SendsWhere a op v (a.call op sent allowFailure read)

variable {cs : List Condition} {g : GivenConditions} {q : Given QueryOptions}

theorem select_sendsWhere (a : TableAccess) (h : q.Selection cs) :
    a.SendsWhere .select (.list (cs.map Condition.toOption)) (a.select q) := by
  obtain ⟨o, ho, hconditions⟩ := a.options_ok h
  unfold select
  rw [ho]
  exact .sends (QueryOptions.lookup_where hconditions)

theorem selectOne_sendsWhere (a : TableAccess) (h : q.Selection cs) :
    a.SendsWhere .select (.list (cs.map Condition.toOption)) (a.selectOne q) := by
  obtain ⟨o, ho, hconditions⟩ := a.options_ok h
  unfold selectOne
  rw [ho]
  exact .sends (QueryOptions.lookup_where hconditions)

theorem count_sendsWhere (a : TableAccess) (h : g.Conditions cs) (hcs : cs ≠ []) :
    a.SendsWhere .select (conditionsValue cs) (a.count g) := by
  unfold count
  rw [anyGiven_conditions h hcs, a.conditions_ok h]
  exact .sends rfl

theorem updateWhere_sendsWhere [Pattern.Engine] (a : TableAccess) (h : g.Conditions cs)
    (hrow : Row.update a.table supply payload (some a.name) = .ok row) :
    a.SendsWhere .update (conditionsValue cs) (a.updateWhere supply g payload) := by
  unfold updateWhere
  rw [hrow, a.conditions_ok h]
  exact .sends rfl

theorem deleteWhere_sendsWhere (a : TableAccess) (h : g.Conditions cs) :
    a.SendsWhere .delete (conditionsValue cs) (a.deleteWhere g) := by
  unfold deleteWhere
  rw [a.conditions_ok h]
  exact .sends rfl

/-- However accepted conditions are given, a selection sends each of them as an option, and a count,
a change and a deletion send each of them by itself. That is the same but for a null value, which an
option leaves out, so the lists are the same exactly if no value is null. -/
theorem conditions_wire [Pattern.Engine] (a : TableAccess) (hcs : cs ≠ []) (hq : q.Selection cs)
    (hg : g.Conditions cs) :
    let selected := Value.list (cs.map Condition.toOption)
    let picked := Value.list (cs.map Condition.toValue)
    a.SendsWhere .select selected (a.select q) ∧ a.SendsWhere .select selected (a.selectOne q) ∧
      a.SendsWhere .select picked (a.count g) ∧ a.SendsWhere .delete picked (a.deleteWhere g) ∧
      (∀ supply payload row, Row.update a.table supply payload (some a.name) = .ok row →
        a.SendsWhere .update picked (a.updateWhere supply g payload)) ∧
      (selected = picked ↔ ∀ c ∈ cs, c.value ≠ .null) ∧
      ∀ c ∈ cs, (c.value ≠ .null → c.toOption = c.toValue) ∧
        (c.value = .null → c.toOption = .object c.comparison ∧
          c.toValue = .object (c.comparison ++ [("value", .null)])) :=
  ⟨a.select_sendsWhere hq, a.selectOne_sendsWhere hq, a.count_sendsWhere hg hcs,
    a.deleteWhere_sendsWhere hg, fun _ _ _ hrow => a.updateWhere_sendsWhere hg hrow,
    Condition.sent_list_iff cs, fun _ _ => ⟨Condition.sent_value, Condition.sent_null⟩⟩

def bareAccess : TableAccess :=
  ⟨"notes", .ofList [] none,
    ⟨⟨"", "", "", "", Settings.defaultUrl, .production, Settings.defaultTimeout, 1, 0, false⟩,
      ⟨1, 0⟩⟩, "tenant"⟩

theorem conditions_wire_text :
    let given := Value.list [.object [("column", .text "title"), ("value", .text "a")]]
    let made : Condition := ⟨"title", .eq, .text "a"⟩
    let sent := Value.list [.object [("column", .text "title"), ("operator", .text "eq"),
      ("value", .text "a")]]
    bareAccess.SendsWhere .select sent (bareAccess.select (.raw (.object [("where", given)]))) ∧
      bareAccess.SendsWhere .delete sent (bareAccess.deleteWhere (.each [.made made])) := by
  intro given made sent
  have hgiven : (GivenConditions.raw given).Conditions [made] := .raw (.inl rfl) (.cons rfl .nil)
  have hq : (Given.raw (.object [("where", given)])).Selection [made] := .raw rfl hgiven rfl
  have hmade : (GivenConditions.each [.made made]).Conditions [made] := .each (.cons .made .nil)
  let _ := Pattern.Engine.unlimited
  obtain ⟨hselect, -, -, hdelete, -, -, -⟩ :=
    bareAccess.conditions_wire (List.cons_ne_nil _ _) hq hmade
  exact ⟨hselect, hdelete⟩

/-- A title that is compared with null loses the null in a selection and keeps it in a deletion. -/
theorem conditions_wire_null :
    let given := Value.list [.object [("column", .text "title"), ("operator", .text "is"),
      ("value", .null)]]
    let selected := Value.list [.object [("column", .text "title"), ("operator", .text "is")]]
    bareAccess.SendsWhere .select selected
        (bareAccess.select (.raw (.object [("where", given)]))) ∧
      bareAccess.SendsWhere .delete given (bareAccess.deleteWhere (.raw given)) ∧
      selected ≠ given := by
  intro given selected
  have hgiven : (GivenConditions.raw given).Conditions [⟨"title", .is, .null⟩] :=
    .raw (.inl rfl) (.cons rfl .nil)
  have hq : (Given.raw (.object [("where", given)])).Selection [⟨"title", .is, .null⟩] :=
    .raw rfl hgiven rfl
  refine ⟨bareAccess.select_sendsWhere hq, bareAccess.deleteWhere_sendsWhere hgiven, fun heq => ?_⟩
  have hvalues := (Condition.sent_list_iff [⟨"title", .is, .null⟩]).mp heq
  exact hvalues _ List.mem_cons_self rfl

end TableAccess

end TenantStore
