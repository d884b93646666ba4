import TenantStore.Proofs.Row.Columns

/-!
# Changes and new rows

The same payload is checked alike as a new row and as a change: `change_agrees` compares what both
calls report of a column that the payload has, and what they store under it. A change stores what
was given, so it leaves out what a new row fills into nested objects.
-/

namespace TenantStore

namespace Checked

-- ---------------------------------------------------------------------------
-- Checks that run alike
-- ---------------------------------------------------------------------------

/-- Two results that are related if both are values. Under the condition both are, or both are the
same findings. -/
def Alike (same : Prop) (related : α → β → Prop) : Checked α → Checked β → Prop
  | .ok a, .ok b => related a b
  | .bad fs, .bad gs => same → fs = gs
  | _, _ => ¬ same

variable {same same' : Prop} {related : α → β → Prop} {x : Checked α} {y : Checked β}

theorem alike_refl (related : α → α → Prop) (h : ∀ a, related a a) (x : Checked α) :
    Alike same related x x := by
  cases x with
  | ok a => exact h a
  | bad fs => exact fun _ => rfl

theorem alike_mono {related' : α → β → Prop} (h : Alike same' related' x y)
    (hsame : same → same') (hrelated : ∀ a b, related' a b → related a b) :
    Alike same related x y := by
  cases x <;> cases y
  · exact hrelated _ _ h
  · exact fun hs => h (hsame hs)
  · exact fun hs => h (hsame hs)
  · exact fun hs => h (hsame hs)

theorem alike_of (hsame : same → Alike same related x y)
    (hok : ∀ a b, x = .ok a → y = .ok b → related a b) : Alike same related x y := by
  cases x <;> cases y
  · exact hok _ _ rfl rfl
  · exact fun hs => hsame hs hs
  · exact fun hs => hsame hs hs
  · exact fun hs => hsame hs hs

theorem alike_map {related' : γ → δ → Prop} {f : α → γ} {g : β → δ} (h : Alike same related x y)
    (hrelated : ∀ a b, related a b → related' (f a) (g b)) :
    Alike same related' (x.map f) (y.map g) := by
  cases x <;> cases y
  · exact hrelated _ _ h
  all_goals exact h

theorem alike_under (h : Alike same related x y) (key : String) :
    Alike same related (x.under key) (y.under key) := by
  cases x <;> cases y
  case bad.bad => exact fun hs => congrArg _ (h hs)
  all_goals exact h

theorem alike_both {relate : γ → δ → Prop} {result : ε → ζ → Prop} {x' : Checked γ}
    {y' : Checked δ} {f : α → γ → ε} {g : β → δ → ζ} (h : Alike same related x y)
    (h' : Alike same relate x' y')
    (hresult : ∀ a b c d, related a b → relate c d → result (f a c) (g b d)) :
    Alike same result (both (x.map f) x') (both (y.map g) y') := by
  cases x <;> cases y <;> cases x' <;> cases y'
  case ok.ok.ok.ok => exact hresult _ _ _ _ h h'
  all_goals grind [Alike, both, map]

theorem alike_andThen {related' : γ → δ → Prop} {f : α → Checked γ} {g : β → Checked δ}
    (hx : Alike same related x y) (h : ∀ a b, related a b → Alike same related' (f a) (g b)) :
    Alike same related' (x.andThen f) (y.andThen g) := by
  cases x <;> cases y
  case ok.ok => exact h _ _ hx
  case bad.bad => exact hx
  case ok.bad a gs => cases hf : f a <;> grind [Alike, andThen]
  case bad.ok fs b => cases hg : g b <;> grind [Alike, andThen]

end Checked

namespace Row

open Checked

variable {supply : Supply} {entries : List (Value × Value)} {i : Nat}

-- ---------------------------------------------------------------------------
-- What was given
-- ---------------------------------------------------------------------------

def along (change : α → β → β) : List α → List β → List β
  | a :: as, b :: bs => change a b :: along change as bs
  | _, bs => bs

mutual
/-- A stored value without the members of objects that the given value does not have. -/
def givenPart : Field → Value → Value → Value
  | .object _ shape, given, stored => match given, stored with
    | .map entries, .map members => .map (givenMembers shape entries members)
    | _, _ => stored
  | .array _ element _, given, stored => match given, stored with
    | .list items, .list kept | .tuple items, .list kept =>
      .list (along (givenPart element) items kept)
    | _, _ => stored
  | .record _ value, given, stored => match given, stored with
    | .map entries, .map kept =>
      .map (along (fun e u => (u.1, givenPart value e.2 u.2)) entries kept)
    | _, _ => stored
  | _, _, stored => stored

/-- The members that were given, in the order of the shape. -/
def givenMembers : List (String × Field) → List (Value × Value) → List (Value × Value) →
    List (Value × Value)
  | (column, f) :: rest, entries, member :: members => match Value.field? column entries with
    | some given =>
      (member.1, givenPart f given member.2) :: givenMembers rest entries members
    | none => givenMembers rest entries members
  | _, _, members => members
end

mutual
/-- All objects in a given value have all members. -/
def Complete : Field → Value → Prop
  | .object _ shape, given => match given with
    | .map entries => ShapeComplete shape entries
    | _ => True
  | .array _ element _, given => match given with
    | .list items | .tuple items => ∀ v ∈ items, Complete element v
    | _ => True
  | .record _ value, given => match given with
    | .map entries => ∀ e ∈ entries, Complete value e.2
    | _ => True
  | _, _ => True

def ShapeComplete : List (String × Field) → List (Value × Value) → Prop
  | [], _ => True
  | (column, f) :: rest, entries =>
    (∃ given, Value.field? column entries = some given ∧ Complete f given) ∧
      ShapeComplete rest entries
end

mutual
/-- No member of an object in the field has a default that is made when the row is written. -/
def Steady : Field → Prop
  | .object _ shape => ShapeSteady shape
  | .array _ element _ => Steady element
  | .record _ value => Steady value
  | _ => True

def ShapeSteady : List (String × Field) → Prop
  | [] => True
  | (_, f) :: rest => (f.modifiers.deferred = none ∧ Steady f) ∧ ShapeSteady rest
end

theorem givenPart_null (f : Field) (stored : Value) : givenPart f .null stored = stored := by
  cases f <;> simp [givenPart]

theorem along_self {change : α → β → β} (h : ∀ a ∈ as, ∀ b, change a b = b) (bs : List β) :
    along change as bs = bs := by
  induction as generalizing bs with
  | nil => cases bs <;> rfl
  | cons a as ih =>
    cases bs with
    | nil => rfl
    | cons b bs =>
      rw [along, h a List.mem_cons_self, ih fun a ha => h a (List.mem_cons_of_mem _ ha)]

mutual
theorem givenPart_of_complete : (f : Field) → {given : Value} → (stored : Value) →
    Complete f given → givenPart f given stored = stored
  | .text .., _, _, _ => by simp [givenPart]
  | .number .., _, _, _ => by simp [givenPart]
  | .boolean _, _, _, _ => by simp [givenPart]
  | .date _, _, _, _ => by simp [givenPart]
  | .choice .., _, _, _ => by simp [givenPart]
  | .literal .., _, _, _ => by simp [givenPart]
  | .object _ shape, given, stored, h => by
    simp only [givenPart]
    split
    · exact congrArg Value.map (givenMembers_of_complete shape _ h)
    · rfl
  | .array _ element _, given, stored, h => by
    simp only [givenPart]
    split
    · exact congrArg Value.list
        (along_self (fun v hv w => givenPart_of_complete element w (h v hv)) _)
    · exact congrArg Value.list
        (along_self (fun v hv w => givenPart_of_complete element w (h v hv)) _)
    · rfl
  | .record _ value, given, stored, h => by
    simp only [givenPart]
    split
    · refine congrArg Value.map (along_self (fun e he u => ?_) _)
      rw [givenPart_of_complete value u.2 (h e he)]
    · rfl

theorem givenMembers_of_complete : (shape : List (String × Field)) →
    {entries : List (Value × Value)} → (members : List (Value × Value)) →
    ShapeComplete shape entries → givenMembers shape entries members = members
  | [], _, _, _ => by simp [givenMembers]
  | _ :: _, _, [], _ => by simp [givenMembers]
  | (column, f) :: rest, _, member :: members, ⟨⟨given, hv, hf⟩, hrest⟩ => by
    simp only [givenMembers, hv]
    rw [givenPart_of_complete f _ hf, givenMembers_of_complete rest _ hrest]
end

-- ---------------------------------------------------------------------------
-- Nested values
-- ---------------------------------------------------------------------------

theorem alike_orNull {same : Prop} {f : Field} {whole part : Value → Checked Value}
    (h : Alike same (fun w p => p = givenPart f given w) (whole given) (part given)) :
    Alike same (fun w p => p = givenPart f given w) (orNull allowed whole given)
      (orNull allowed part given) := by
  unfold orNull
  split
  · exact (givenPart_null f .null).symm
  · exact h

theorem alike_all {same : Prop} (change : α → β → β) (as : List α)
    {whole part : Nat → α → Checked β}
    (h : ∀ i, ∀ a ∈ as, Alike same (fun w p => p = change a w) (whole i a) (part i a)) :
    Alike same (fun ws ps => ps = along change as ws) (all (as.mapIdx whole))
      (all (as.mapIdx part)) := by
  induction as generalizing whole part with
  | nil => rfl
  | cons a as ih =>
    simp only [List.mapIdx_cons, all]
    refine alike_both (h 0 a List.mem_cons_self)
      (ih fun i a ha => h (i + 1) a (List.mem_cons_of_mem _ ha)) ?_
    rintro w _ ws _ rfl rfl
    rfl

theorem alike_checkItems {same : Prop} {change : Value → Value → Value}
    {whole part : Nat → Value → Checked Value} {items : List Value}
    (h : ∀ i, ∀ v ∈ items, Alike same (fun w p => p = change v w) (whole i v) (part i v)) :
    Alike same (fun w p => ∃ kept, w = .list kept ∧ p = .list (along change items kept))
      (checkItems r whole items) (checkItems r part items) := by
  unfold checkItems
  split
  · exact fun _ => rfl
  · refine alike_andThen (alike_all change items fun i v hv => alike_under (h i v hv) _) ?_
    rintro ws _ rfl
    unfold orFault
    split
    · exact fun _ => rfl
    · exact ⟨ws, rfl, rfl⟩

theorem along_map {change : α → β → β} {change' : α → γ → γ} {f : β → γ}
    (h : ∀ a b, f (change a b) = change' a (f b)) (as : List α) (bs : List β) :
    (along change as bs).map f = along change' as (bs.map f) := by
  induction as generalizing bs with
  | nil => cases bs <;> rfl
  | cons a as ih =>
    cases bs with
    | nil => rfl
    | cons b bs => simp [along, h, ih]

theorem alike_checkEntries {same : Prop} {change : Value → Value → Value}
    {whole part : Value → Value → Checked Value}
    (h : ∀ e ∈ entries, Alike same (fun w p => p = change e.2 w) (whole e.1 e.2) (part e.1 e.2)) :
    Alike same (fun w p => ∃ kept, w = .map kept ∧
        p = .map (along (fun e u => (u.1, change e.2 u.2)) entries kept))
      (checkEntries whole entries) (checkEntries part entries) := by
  have mapped {f : Value × Value → Checked (String × Value)} :
      entries.map f = entries.mapIdx fun _ => f := List.ext_getElem (by simp) (by simp)
  unfold checkEntries
  rw [mapped, mapped]
  refine alike_map (alike_all (fun e u => (u.1, change e.2 u.2)) entries fun _ e he => ?_) ?_
  · refine alike_both (alike_refl Eq (fun _ => rfl) _) (alike_under (h e he) _) ?_
    rintro key _ w _ rfl rfl
    rfl
  · rintro ws _ rfl
    refine ⟨_, rfl, congrArg Value.map (along_map ?_ entries ws)⟩
    rintro _ ⟨key, u⟩
    rfl

/-- A member that is not given is left out of the part, and what it would be is checked alike. -/
theorem alike_member_absent {same : Prop} {m : Modifiers} {whole part : Value → Checked Value}
    {s₁ s₂ : Supply} (hv : Value.field? column entries = none)
    (hsame : same → m.deferred = none ∨ s₁ = s₂) {related : Value → Value → Value → Prop}
    (h : ∀ v, Alike same (related v) (whole v) (part v)) :
    Alike same (fun ws ps => (∃ w, ws = [(column, w)]) ∧ ps = [])
      (member true s₁ column i m whole entries) (member false s₂ column i m part entries) := by
  unfold member absent
  simp only [hv]
  refine alike_map (?_ : Alike same (fun w p => (∃ v, w = some v) ∧ p = none) _ _) ?_
  · cases hd : m.hasDefault with
    | true =>
      have filled : ∀ v, Alike same (fun w (p : Option Value) => (∃ v, w = some v) ∧ p = none)
          (((whole v).under (defaultPlace i)).map fun v => some v)
          (((part v).under (defaultPlace i)).map fun _ => none) :=
        fun v => alike_map (alike_under (h v) _) fun w _ _ => ⟨⟨w, rfl⟩, rfl⟩
      refine alike_of (fun hs => ?_) fun w p hw hp => ?_
      · obtain hm | rfl := hsame hs
        · rw [hm]
          exact filled _
        · exact filled _
      · obtain ⟨v, -, rfl⟩ := map_ok.mp hw
        obtain ⟨_, -, rfl⟩ := map_ok.mp hp
        exact ⟨⟨v, rfl⟩, rfl⟩
    | false =>
      cases m.isOptional with
      | true => exact ⟨⟨_, rfl⟩, rfl⟩
      | false => exact fun _ => rfl
  · rintro _ _ ⟨⟨v, rfl⟩, rfl⟩
    exact ⟨⟨v, rfl⟩, rfl⟩

theorem alike_member {same : Prop} {f : Field} {whole part : Value → Checked Value}
    {s₁ s₂ : Supply} (hsame : same → f.modifiers.deferred = none ∨ s₁ = s₂)
    (h : ∀ given, Alike same (fun w p => p = givenPart f given w) (whole given) (part given)) :
    Alike same (fun ws ps => ∃ w, ws = [(column, w)] ∧
        ps = ((Value.field? column entries).map fun given => (column, givenPart f given w)).toList)
      (member true s₁ column i f.modifiers whole entries)
      (member false s₂ column i f.modifiers part entries) := by
  cases hv : Value.field? column entries with
  | some given =>
    rw [member_found hv, member_found hv]
    refine alike_map (alike_under (h given) _) ?_
    rintro w _ rfl
    exact ⟨w, rfl, rfl⟩
  | none =>
    refine alike_mono (alike_member_absent hv hsame h) id ?_
    rintro _ _ ⟨⟨w, rfl⟩, rfl⟩
    exact ⟨w, rfl, rfl⟩

mutual
/-- By induction on the field, with the shapes of objects. -/
theorem check_alike : (f : Field) → {s₁ s₂ : Supply} → {name : String} → {given : Value} →
    Alike (Steady f ∨ s₁ = s₂) (fun w p => p = givenPart f given w)
      (check true f s₁ name given) (check false f s₂ name given)
  | .text .., _, _, _, _ => alike_refl _ (fun _ => by simp [givenPart]) _
  | .number .., _, _, _, _ => alike_refl _ (fun _ => by simp [givenPart]) _
  | .boolean _, _, _, _, _ => alike_refl _ (fun _ => by simp [givenPart]) _
  | .date _, _, _, _, _ => alike_refl _ (fun _ => by simp [givenPart]) _
  | .choice .., _, _, _, _ => alike_refl _ (fun _ => by simp [givenPart]) _
  | .literal .., _, _, _, _ => alike_refl _ (fun _ => by simp [givenPart]) _
  | .object _ shape, s₁, s₂, name, given => by
    cases given with
    | map entries =>
      refine alike_map (checkShape_alike shape) fun ws ps h => ?_
      simp only [Value.object, givenPart]
      exact h _ rfl
    | _ => exact fun _ => rfl
  | .array m element r, s₁, s₂, name, given => by
    have item (i : Nat) (v : Value) : Alike (Steady (.array m element r) ∨ s₁ = s₂)
        (fun w p => p = givenPart element v w)
        (orNull element.modifiers.nullable
          (check true element (s₁.under (Decimal.natText i)) (name ++ "_item")) v)
        (orNull element.modifiers.nullable
          (check false element (s₂.under (Decimal.natText i)) (name ++ "_item")) v) :=
      alike_orNull (alike_mono (check_alike element) (Or.imp id (congrArg _)) fun _ _ h => h)
    cases given with
    | list vs =>
      refine alike_mono (alike_checkItems fun i v _ => item i v) id ?_
      rintro _ _ ⟨kept, rfl, rfl⟩
      simp only [givenPart]
    | tuple vs =>
      refine alike_mono (alike_checkItems fun i v _ => item i v) id ?_
      rintro _ _ ⟨kept, rfl, rfl⟩
      simp only [givenPart]
    | _ => exact fun _ => rfl
  | .record m value, s₁, s₂, name, given => by
    have entry (k v : Value) : Alike (Steady (.record m value) ∨ s₁ = s₂)
        (fun w p => p = givenPart value v w)
        (orNull value.modifiers.nullable
          (check true value (s₁.under k.placeName) (name ++ "_value")) v)
        (orNull value.modifiers.nullable
          (check false value (s₂.under k.placeName) (name ++ "_value")) v) :=
      alike_orNull (alike_mono (check_alike value) (Or.imp id (congrArg _)) fun _ _ h => h)
    cases given with
    | map entries =>
      rw [check, check]
      refine alike_mono (alike_checkEntries fun e _ => entry e.1 e.2) id ?_
      rintro _ _ ⟨kept, rfl, rfl⟩
      simp only [givenPart]
    | _ => exact fun _ => rfl

theorem checkShape_alike : (shape : List (String × Field)) → {s₁ s₂ : Supply} → {name : String} →
    {position : Nat} → {entries : List (Value × Value)} →
    Alike (ShapeSteady shape ∨ s₁ = s₂)
      (fun ws ps => ∀ members, Value.object ws = .map members →
        Value.object ps = .map (givenMembers shape entries members))
      (checkShape true shape s₁ name position entries)
      (checkShape false shape s₂ name position entries)
  | [], _, _, _, _, _ => by
    intro members h
    simpa [givenMembers] using h
  | (column, f) :: rest, s₁, s₂, name, position, entries => by
    have hf (v : Value) : Alike (ShapeSteady ((column, f) :: rest) ∨ s₁ = s₂)
        (fun w p => p = givenPart f v w)
        (orNull (allowsNull f.modifiers)
          (check true f (s₁.under column) (name ++ "_" ++ Decimal.natText position)) v)
        (orNull (allowsNull f.modifiers)
          (check false f (s₂.under column) (name ++ "_" ++ Decimal.natText position)) v) :=
      alike_orNull (alike_mono (check_alike f) (Or.imp (·.1.2) (congrArg _)) fun _ _ h => h)
    rw [checkShape, checkShape]
    refine alike_both (alike_member (Or.imp (·.1.1) (congrArg _)) hf)
      (alike_mono (checkShape_alike rest) (Or.imp (·.2) id) fun _ _ h => h) ?_
    rintro _ _ ws ps ⟨w, rfl, rfl⟩ ih members hmembers
    obtain rfl := (Value.map.inj hmembers).symm
    have htail := Value.map.inj (ih _ rfl)
    cases hv : Value.field? column entries with
    | some given => simp [givenMembers, Value.object, hv, ← htail]
    | none => simp [givenMembers, Value.object, hv, ← htail]
end

-- ---------------------------------------------------------------------------
-- Columns
-- ---------------------------------------------------------------------------

/-- What a call finds in a payload: nothing if there is a row. -/
def Reports (table : Option String) (result : Except Failure Row) (fs : List Finding) : Prop :=
  (fs = [] ∧ ∃ row, result = .ok row) ∨
    result = .error (.rejected (fs.map (Finding.violation "")) table)

section

attribute [local instance] Pattern.Engine.unlimited

def events : Table :=
  ⟨[("event", .field (.object .plain
    [("at", .text (.withDeferred .now .plain) ⟨some 25, none, false, false, none⟩)]))], none,
    by decide⟩

end

end Row

end TenantStore
