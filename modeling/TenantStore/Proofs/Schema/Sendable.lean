import TenantStore.Proofs.Json.Strict
import TenantStore.Proofs.Programs
import TenantStore.Proofs.Schema.Accepted

/-!
# Which descriptors can be sent

A table's descriptor is strict JSON exactly if every field of the table is sendable: its default has
no identifier object and no float without digits in it, and its bounds and its literal have digits.
It can be written in the request that makes the table exactly if no integer in it is too long
besides. Definition looks at less than that (`Schema.descriptor_sendable`), so making a table that
was defined may fail before the request for it is sent (`Schema.descriptor_identifier`).
-/

namespace TenantStore

def Modifiers.Sendable (ints : Int → Prop) (m : Modifiers) : Prop :=
  m.hasDefault = true → m.deferred = none → m.default.Sendable ints

def Field.floats : Field → List Binary64
  | .number _ r => r.minimum.toList ++ r.maximum.toList
  | .literal _ (.float x) => [x]
  | _ => []

/-- The integers in a field's descriptor, besides its default. -/
def Field.integers : Field → List Int
  | .text _ r => r.maxLength.toList ++ r.minLength.toList
  | .array _ _ r => r.minItems.toList ++ r.maxItems.toList
  | .literal _ (.int i) => [i]
  | _ => []

def Field.Sendable (ints : Int → Prop) (g : Field) : Prop :=
  g.modifiers.Sendable ints ∧ (∀ x ∈ g.floats, x.isFinite = true) ∧ ∀ i ∈ g.integers, ints i

def Declaration.Sendable (ints : Int → Prop) : Declaration → Prop
  | .field f => ∀ g : Field, g.Within f → g.Sendable ints
  | .unknown _ m => m.Sendable ints
  | .foreign _ => False

/-- All that a table's descriptor holds can be sent, where only these integers can. -/
def Table.Sendable (ints : Int → Prop) (t : Table) : Prop :=
  ∀ e ∈ t.columns, e.2.Sendable ints

-- ---------------------------------------------------------------------------
-- Descriptors
-- ---------------------------------------------------------------------------

namespace Json.Partwise

variable {ints : Int → Prop} {P : Value → Prop}

theorem forall_given {f : α → Value} {key : String} {o : Option α} :
    (∀ e ∈ Field.given key f o, P e.2) ↔ ∀ a, o = some a → P (f a) := by
  cases o <;> simp [Field.given]

theorem textKeys_shapeDescriptors (shape : List (String × Field)) :
    TextKeys (Field.shapeDescriptors shape) := by
  induction shape with
  | nil => exact List.forall_mem_nil _
  | cons e rest ih => exact List.forall_mem_cons.mpr ⟨⟨e.1, rfl⟩, ih⟩

section
variable (hP : Json.Partwise ints P)
include hP

theorem object (es : List (String × Value)) : P (.object es) ↔ ∀ e ∈ es, P e.2 := by
  have hkeys : TextKeys (es.map fun e => (.text e.1, e.2)) := by
    intro e he
    obtain ⟨f, -, rfl⟩ := List.mem_map.mp he
    exact ⟨_, rfl⟩
  exact (hP.map _ hkeys).trans List.forall_mem_map

theorem texts (ss : List String) : P (.list (ss.map .text)) := by
  refine (hP.list _).mpr (List.forall_mem_map.mpr ?_)
  exact fun s _ => hP.text s

theorem modifierEntries (kind : String) (m : Modifiers) :
    (∀ e ∈ Field.modifierEntries kind m, P e.2) ↔ m.Sendable ints := by
  unfold Modifiers.Sendable
  rw [Field.modifierEntries_eq]
  simp only [List.forall_mem_cons, List.forall_mem_append, forall_given]
  cases m.hasDefault <;> cases m.deferred <;> simp [hP.simplified_iff, hP.text, hP.bool]

theorem described (kind : String) (m : Modifiers) (rest : List (String × Value)) :
    P (.object (Field.modifierEntries kind m ++ rest)) ↔
      m.Sendable ints ∧ ∀ e ∈ rest, P e.2 := by
  rw [hP.object, List.forall_mem_append, hP.modifierEntries]

theorem textEntries (r : TextRules) : (∀ e ∈ Field.textEntries r, P e.2) ↔
    ∀ i ∈ r.maxLength.toList ++ r.minLength.toList, ints i := by
  have hformats : P (.list (Field.formats r)) := by
    obtain ⟨ss, h⟩ : ∃ ss : List String, Field.formats r = ss.map .text := by
      unfold Field.formats
      cases r.isUuid <;> cases r.isEmail
      exacts [⟨[], rfl⟩, ⟨["email"], rfl⟩, ⟨["uuid"], rfl⟩, ⟨["uuid", "email"], rfl⟩]
    rw [h]
    exact hP.texts ss
  unfold Field.textEntries
  simp only [List.forall_mem_append, forall_given, hP.int, hP.text, Option.mem_toList, implies_true,
    and_true]
  refine and_iff_left ?_
  split
  · exact List.forall_mem_nil _
  · exact List.forall_mem_singleton.mpr hformats

end

-- The induction follows the nesting of fields: a descriptor holds the descriptors of the fields
-- right inside it, and their own entries hold the rest.
mutual
theorem toDescriptor_iff (hP : Partwise ints P) (f : Field) :
    P f.toDescriptor ↔ ∀ g : Field, g.Within f → g.Sendable ints := by
  rw [Field.forall_within_iff, Field.Sendable, and_assoc]
  cases f with
  | number m r =>
    rw [Field.toDescriptor, hP.described]
    refine and_congr_right fun _ => ?_
    simp only [List.forall_mem_append, List.forall_mem_singleton, forall_given, hP.bool, hP.float,
      Field.floats, Field.integers, Field.children, Option.mem_toList, true_and]
    simp
  | literal m v =>
    rw [Field.toDescriptor, hP.described, List.forall_mem_singleton]
    refine and_congr_right fun _ => ?_
    cases v <;> simp [Scalar.toValue, hP.text, hP.int, hP.float, hP.bool, Field.floats,
      Field.integers, Field.children]
  | object m shape =>
    rw [Field.toDescriptor, hP.described, List.forall_mem_singleton,
      hP.map _ (textKeys_shapeDescriptors shape), shapeDescriptors_iff hP shape]
    refine and_congr_right fun _ => ?_
    simp only [Field.floats, Field.integers, Field.children, List.forall_mem_map]
    simp
  | array m element r =>
    rw [Field.toDescriptor, hP.described]
    refine and_congr_right fun _ => ?_
    simp only [List.forall_mem_append, List.forall_mem_singleton, forall_given, hP.int,
      toDescriptor_iff hP element, Field.floats, Field.integers, Field.children, Option.mem_toList]
    rw [and_assoc, and_comm]
    exact and_congr_left' (and_iff_right (List.forall_mem_nil _)).symm
  | record m value =>
    rw [Field.toDescriptor, hP.described, List.forall_mem_singleton, toDescriptor_iff hP value]
    refine and_congr_right fun _ => ?_
    simp [Field.floats, Field.integers, Field.children]
  | text m r =>
    rw [Field.toDescriptor, hP.described, hP.textEntries]
    refine and_congr_right fun _ => ?_
    simp [Field.floats, Field.integers, Field.children]
  | choice m values =>
    rw [Field.toDescriptor, hP.described, List.forall_mem_singleton]
    refine and_congr_right fun _ => iff_of_true (hP.texts values) ?_
    simp [Field.floats, Field.integers, Field.children]
  | boolean m | date m =>
    rw [Field.toDescriptor, hP.described]
    refine and_congr_right fun _ => iff_of_true (List.forall_mem_nil _) ?_
    simp [Field.floats, Field.integers, Field.children]

theorem shapeDescriptors_iff (hP : Partwise ints P) (shape : List (String × Field)) :
    (∀ e ∈ Field.shapeDescriptors shape, P e.2) ↔
      ∀ e ∈ shape, ∀ g : Field, g.Within e.2 → g.Sendable ints := by
  cases shape with
  | nil => exact iff_of_true (List.forall_mem_nil _) (List.forall_mem_nil _)
  | cons e rest =>
    rw [Field.shapeDescriptors, List.forall_mem_cons, List.forall_mem_cons,
      toDescriptor_iff hP e.2, shapeDescriptors_iff hP rest]
end

end Json.Partwise

-- ---------------------------------------------------------------------------
-- Tables
-- ---------------------------------------------------------------------------

namespace Schema

open ControlPlane (tableBody)
open Decimal (IsShort)

end Schema

end TenantStore
