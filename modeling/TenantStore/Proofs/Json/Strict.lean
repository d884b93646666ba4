import Mathlib.Data.List.Nodup
import TenantStore.Proofs.Field.RoundTrip
import TenantStore.Proofs.Json.Writing

/-!
# Strict JSON

`Value.Strict` are the values that JSON has by itself. Whether a value is one, and whether it can be
written in a request body, is decided by its parts in the same way (`Partwise`), but for integers
that are too long to be written. So both hold of a simplified value exactly if the value it was made
of has nothing in it that JSON lacks, and no such integer in the second case
(`Partwise.simplified_iff`).
-/

namespace TenantStore

mutual
/-- Null, booleans, integers, floats with digits, texts, and lists and mappings of such values with
text keys only. -/
def Value.Strict : Value → Prop
  | .null | .bool _ | .int _ | .text _ => True
  | .float x => x.isFinite = true
  | .list vs => Value.StrictItems vs
  | .map es => Value.StrictEntries es
  | .tuple _ | .datetime _ | .date _ | .uuid _ => False

def Value.StrictItems : List Value → Prop
  | [] => True
  | v :: vs => v.Strict ∧ Value.StrictItems vs

def Value.StrictEntries : List (Value × Value) → Prop
  | [] => True
  | (k, v) :: es => (∃ s, k = .text s) ∧ v.Strict ∧ Value.StrictEntries es
end

mutual
/-- No identifier object, no float without digits and no integer but of these is left in the value
once it is simplified. An entry does not count if the text of its key comes again in the same
mapping. -/
def Value.Sendable (ints : Int → Prop) : Value → Prop
  | .int i => ints i
  | .float x => x.isFinite = true
  | .uuid _ => False
  | .list vs | .tuple vs => Value.SendableItems ints vs
  | .map es => Value.SendableEntries ints es
  | _ => True

def Value.SendableItems (ints : Int → Prop) : List Value → Prop
  | [] => True
  | v :: vs => v.Sendable ints ∧ Value.SendableItems ints vs

def Value.SendableEntries (ints : Int → Prop) : List (Value × Value) → Prop
  | [] => True
  | (k, v) :: es => (v.Sendable ints ∨ k.plain ∈ es.map fun e => e.1.plain) ∧
      Value.SendableEntries ints es
end

namespace Json

def Writes (v : Value) : Prop :=
  ∃ t, write .strict v = .ok t

def TextKeys {τ : Type} (es : List (Value τ × Value τ)) : Prop :=
  ∀ e ∈ es, ∃ s, e.1 = .text s

/-- A property of values that holds of a list or a mapping exactly if it holds of all values in it,
of these integers only, and of identifier objects and floats without digits never. -/
structure Partwise (ints : Int → Prop) (P : Value → Prop) : Prop where
  null : P .null
  bool : ∀ b, P (.bool b)
  int : ∀ i, P (.int i) ↔ ints i
  text : ∀ s, P (.text s)
  float : ∀ x, P (.float x) ↔ x.isFinite = true
  uuid : ∀ u, ¬ P (.uuid u)
  list : ∀ vs, P (.list vs) ↔ ∀ v ∈ vs, P v
  map : ∀ es, TextKeys es → (P (.map es) ↔ ∀ e ∈ es, P e.2)

-- ---------------------------------------------------------------------------
-- Strict values and values that are written
-- ---------------------------------------------------------------------------

theorem strictItems_iff (vs : List Value) : Value.StrictItems vs ↔ ∀ v ∈ vs, v.Strict := by
  induction vs with
  | nil => simp [Value.StrictItems]
  | cons v vs ih => simp [Value.StrictItems, ih]

theorem strictEntries_iff (es : List (Value × Value)) :
    Value.StrictEntries es ↔ TextKeys es ∧ ∀ e ∈ es, e.2.Strict := by
  induction es with
  | nil => simp [Value.StrictEntries, TextKeys]
  | cons e es ih =>
    simp only [Value.StrictEntries, TextKeys, List.forall_mem_cons] at ih ⊢
    rw [ih]
    constructor
    · rintro ⟨hk, hv, hks, hvs⟩
      exact ⟨⟨hk, hks⟩, hv, hvs⟩
    · rintro ⟨⟨hk, hks⟩, hv, hvs⟩
      exact ⟨hk, hv, hks, hvs⟩

theorem writeItems_ok_iff (vs : List Value) :
    (∃ ts, writeItems .strict vs = .ok ts) ↔ ∀ v ∈ vs, Writes v := by
  induction vs with
  | nil => exact iff_of_true ⟨[], rfl⟩ (List.forall_mem_nil _)
  | cons v vs ih =>
    rw [List.forall_mem_cons, ← ih]
    constructor
    · rintro ⟨ts, h⟩
      obtain ⟨p, ps, hp, hps, -⟩ := writeItems_cons_ok.mp h
      exact ⟨⟨p, hp⟩, ps, hps⟩
    · rintro ⟨⟨p, hp⟩, ps, hps⟩
      exact ⟨p :: ps, writeItems_cons_ok.mpr ⟨p, ps, hp, hps, rfl⟩⟩

theorem writeEntries_ok_iff {es : List (Value × Value)} (hkeys : TextKeys es) :
    (∃ ts, writeEntries .strict es = .ok ts) ↔ ∀ e ∈ es, Writes e.2 := by
  induction es with
  | nil => exact iff_of_true ⟨[], rfl⟩ (List.forall_mem_nil _)
  | cons e es ih =>
    obtain ⟨k, v⟩ := e
    obtain ⟨⟨s, rfl⟩, hrest⟩ := List.forall_mem_cons.mp hkeys
    rw [List.forall_mem_cons, ← ih hrest]
    constructor
    · rintro ⟨ts, h⟩
      obtain ⟨key, p, ps, -, hp, hps, -⟩ := writeEntries_cons_ok.mp h
      exact ⟨⟨p, hp⟩, ps, hps⟩
    · rintro ⟨⟨p, hp⟩, ps, hps⟩
      exact ⟨_, writeEntries_cons_ok.mpr ⟨s, p, ps, rfl, hp, hps, rfl⟩⟩

theorem writes_int (i : Int) : Writes (.int i) ↔ Decimal.IsShort i := by
  constructor
  · rintro ⟨_, h⟩
    rw [write, integerChars_ok] at h
    exact h.1
  · intro h
    exact ⟨_, by rw [write, integerChars_ok]; exact ⟨h, rfl⟩⟩

theorem writes_float (x : Binary64) : Writes (.float x) ↔ x.isFinite = true := by
  show (∃ t, floatChars .strict x = .ok t) ↔ _
  unfold floatChars
  cases x.isFinite <;> simp [Rules.strict]

theorem writes_list {vs : List Value} :
    Writes (.list vs) ↔ ∃ ts, writeItems .strict vs = .ok ts := by
  constructor
  · rintro ⟨_, h⟩
    obtain ⟨ts, hts, -⟩ := write_list_ok.mp h
    exact ⟨ts, hts⟩
  · rintro ⟨ts, hts⟩
    exact ⟨_, write_list_ok.mpr ⟨ts, hts, rfl⟩⟩

theorem writes_map {es : List (Value × Value)} :
    Writes (.map es) ↔ ∃ ts, writeEntries .strict es = .ok ts := by
  constructor
  · rintro ⟨_, h⟩
    obtain ⟨ts, hts, -⟩ := write_map_ok.mp h
    exact ⟨ts, hts⟩
  · rintro ⟨ts, hts⟩
    exact ⟨_, write_map_ok.mpr ⟨ts, hts, rfl⟩⟩

theorem partwise_writes : Partwise Decimal.IsShort Writes where
  null := ⟨_, rfl⟩
  bool b := by cases b <;> exact ⟨_, rfl⟩
  int := writes_int
  text s := ⟨_, rfl⟩
  float := writes_float
  uuid u := by
    rintro ⟨t, h⟩
    cases h
  list vs := writes_list.trans (writeItems_ok_iff vs)
  map _ hkeys := writes_map.trans (writeEntries_ok_iff hkeys)

-- ---------------------------------------------------------------------------
-- Simplified values
-- ---------------------------------------------------------------------------

open Value

variable {ints : Int → Prop} {P : Value → Prop} {k v : Value} {es : List (Value × Value)}

theorem textKeys_simplifiedEntries (es : List (Value × Value)) :
    TextKeys (simplifiedEntries es) := by
  intro e he
  obtain ⟨f, -, rfl⟩ := mem_simplifiedEntries he
  exact ⟨_, rfl⟩

/-- A simplified mapping has the value of an entry, unless its key's text comes again. -/
theorem forall_simplifiedEntries_cons :
    (∀ e ∈ simplifiedEntries ((k, v) :: es), P e.2) ↔
      (P v.simplified ∨ k.plain ∈ es.map fun e => e.1.plain) ∧
        ∀ e ∈ simplifiedEntries es, P e.2 := by
  have hkey := field?_simplifiedEntries k.plain es
  rw [simplifiedEntries]
  split
  · rename_i hnone
    rw [List.forall_mem_cons, or_iff_left (hkey.mp hnone)]
  · rename_i w hw
    have hmem := mem_of_field? hw
    rw [hw] at hkey
    rw [or_iff_right_of_imp (fun _ => by simpa using hkey), List.forall_mem_cons]
    constructor
    · rintro ⟨hP, hrest⟩
      refine ⟨by simpa using hkey, fun e he => ?_⟩
      -- an entry that is left out is the one that was put in front
      by_cases hek : e.1 = .text k.plain
      · have heq : e = (.text k.plain, w) :=
          List.inj_on_of_nodup_map (simplifiedEntries_nodup es) he hmem (by rw [hek])
        exact heq ▸ hP
      · refine hrest e (List.mem_filter.mpr ⟨he, ?_⟩)
        simpa [← equal_text] using hek
    · rintro ⟨-, hall⟩
      exact ⟨hall _ hmem, fun e he => hall e (List.mem_filter.mp he).1⟩

mutual
theorem Partwise.simplified_iff (hP : Partwise ints P) (v : Value) :
    P v.simplified ↔ v.Sendable ints := by
  cases v with
  | list vs | tuple vs => exact (hP.list _).trans (hP.simplifiedItems_iff vs)
  | map es => exact (hP.map _ (textKeys_simplifiedEntries es)).trans (hP.simplifiedEntries_iff es)
  | float x => exact hP.float x
  | uuid u => exact iff_of_false (hP.uuid u) id
  | null => exact iff_of_true hP.null trivial
  | bool b => exact iff_of_true (hP.bool b) trivial
  | int i => exact hP.int i
  | text s => exact iff_of_true (hP.text s) trivial
  | datetime t => exact iff_of_true (hP.text _) trivial
  | date d => exact iff_of_true (hP.text _) trivial

theorem Partwise.simplifiedItems_iff (hP : Partwise ints P) (vs : List Value) :
    (∀ v ∈ simplifiedItems vs, P v) ↔ SendableItems ints vs := by
  cases vs with
  | nil => exact iff_of_true (List.forall_mem_nil _) trivial
  | cons v vs =>
    rw [simplifiedItems, List.forall_mem_cons, hP.simplified_iff v, hP.simplifiedItems_iff vs]
    rfl

theorem Partwise.simplifiedEntries_iff (hP : Partwise ints P) (es : List (Value × Value)) :
    (∀ e ∈ simplifiedEntries es, P e.2) ↔ SendableEntries ints es := by
  cases es with
  | nil => exact iff_of_true (List.forall_mem_nil _) trivial
  | cons e es =>
    rw [forall_simplifiedEntries_cons, hP.simplified_iff e.2, hP.simplifiedEntries_iff es]
    rfl
end

end Json

end TenantStore
