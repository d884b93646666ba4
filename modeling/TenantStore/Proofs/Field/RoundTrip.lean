import TenantStore.Proofs.Field.Restored
import TenantStore.Proofs.Json.Simplified

/-!
# Fields and their descriptors

A simplified value has text keys that stay apart, so simplifying it again changes nothing
(`Value.simplified_simplified`). `descriptor_round_trip`: a field that was read back from its
descriptor is the field itself but for what a descriptor does not hold, and its descriptor is the
same one.
-/

namespace TenantStore

-- ---------------------------------------------------------------------------
-- Simplified values
-- ---------------------------------------------------------------------------

namespace Value

open Json (field?_eq_none field?_simplifiedEntries)

variable {e : Value × Value} {es : List (Value × Value)}

theorem mem_of_field? {key : String} {w : Value} (h : field? key es = some w) :
    (.text key, w) ∈ es := by
  unfold field? lookup at h
  obtain ⟨⟨k, v⟩, hfind, rfl⟩ := Option.map_eq_some_iff.mp h
  have hkey : k = .text key := by simpa [equal_text] using List.find?_some hfind
  exact hkey ▸ List.mem_of_find?_eq_some hfind

theorem mem_simplifiedEntries (h : e ∈ simplifiedEntries es) :
    ∃ f ∈ es, e = (.text f.1.plain, f.2.simplified) := by
  induction es generalizing e with
  | nil => simp [simplifiedEntries] at h
  | cons f es ih =>
    obtain ⟨k, v⟩ := f
    have later : ∀ {e}, e ∈ simplifiedEntries es →
        ∃ f ∈ (k, v) :: es, e = (.text f.1.plain, f.2.simplified) := by
      intro e he
      obtain ⟨f, hf, rfl⟩ := ih he
      exact ⟨f, List.mem_cons_of_mem _ hf, rfl⟩
    rw [simplifiedEntries] at h
    split at h
    · rcases List.mem_cons.mp h with rfl | h
      · exact ⟨(k, v), List.mem_cons_self, rfl⟩
      · exact later h
    · rename_i w hw
      rcases List.mem_cons.mp h with rfl | h
      · exact later (mem_of_field? hw)
      · exact later (List.mem_filter.mp h).1

theorem simplifiedEntries_nodup (es : List (Value × Value)) :
    ((simplifiedEntries es).map fun e => e.1.plain).Nodup := by
  induction es with
  | nil => simp [simplifiedEntries]
  | cons e es ih =>
    obtain ⟨k, v⟩ := e
    rw [simplifiedEntries]
    split
    · rename_i hnone
      rw [List.map_cons, List.nodup_cons]
      refine ⟨fun hmem => ?_, ih⟩
      obtain ⟨f, hf, hkey⟩ := List.mem_map.mp hmem
      obtain ⟨g, -, rfl⟩ := mem_simplifiedEntries hf
      exact field?_eq_none.mp hnone _ hf (congrArg Value.text hkey)
    · rw [List.map_cons, List.nodup_cons]
      refine ⟨fun hmem => ?_, (List.filter_sublist.map _).nodup ih⟩
      obtain ⟨f, hf, hkey⟩ := List.mem_map.mp hmem
      obtain ⟨hf, hne⟩ := List.mem_filter.mp hf
      obtain ⟨g, -, rfl⟩ := mem_simplifiedEntries hf
      rw [show Value.text g.1.plain = .text k.plain from congrArg Value.text hkey,
        equal_text.mpr rfl] at hne
      cases hne

/-- Entries with text keys that stay apart are kept as they are, if their values are. -/
theorem simplifiedEntries_of_simple (hkeys : ∀ e ∈ es, ∃ s, e.1 = .text s)
    (hnodup : (es.map fun e => e.1.plain).Nodup) (hvalues : ∀ e ∈ es, e.2.simplified = e.2) :
    simplifiedEntries es = es := by
  induction es with
  | nil => rfl
  | cons e es ih =>
    obtain ⟨k, v⟩ := e
    rw [List.forall_mem_cons] at hkeys hvalues
    rw [List.map_cons, List.nodup_cons] at hnodup
    obtain ⟨⟨s, rfl⟩, hkeys⟩ := hkeys
    obtain ⟨hv, hvalues⟩ := hvalues
    have hnone : field? (Value.text s).plain es = none := by
      rw [← ih hkeys hnodup.2 hvalues]
      exact (field?_simplifiedEntries _ es).mpr hnodup.1
    have hv : v.simplified = v := hv
    rw [simplifiedEntries, ih hkeys hnodup.2 hvalues, hnone, hv]
    rfl

-- the induction follows the nesting of values; a mapping's entries are simple once they are
-- simplified, so that only their values are left to it
mutual
theorem simplified_simplified : ∀ v : Value, v.simplified.simplified = v.simplified
  | .list vs => congrArg Value.list (simplifiedItems_simplified vs)
  | .tuple vs => congrArg Value.list (simplifiedItems_simplified vs)
  | .map es => by
    refine congrArg Value.map (simplifiedEntries_of_simple ?_ (simplifiedEntries_nodup es) ?_)
    · intro e he
      obtain ⟨f, -, rfl⟩ := mem_simplifiedEntries he
      exact ⟨_, rfl⟩
    · intro e he
      obtain ⟨f, hf, rfl⟩ := mem_simplifiedEntries he
      exact simplifiedValues_simplified es f hf
  | .null | .bool _ | .int _ | .float _ | .text _ | .datetime _ | .date _ | .uuid _ => rfl

theorem simplifiedItems_simplified : ∀ vs : List Value,
    simplifiedItems (simplifiedItems vs) = simplifiedItems vs
  | [] => rfl
  | v :: vs => by
    rw [simplifiedItems, simplifiedItems, simplified_simplified v, simplifiedItems_simplified vs]

theorem simplifiedValues_simplified : ∀ es : List (Value × Value),
    ∀ e ∈ es, e.2.simplified.simplified = e.2.simplified
  | [] => List.forall_mem_nil _
  | (_, v) :: es =>
    List.forall_mem_cons.mpr ⟨simplified_simplified v, simplifiedValues_simplified es⟩
end

end Value

-- ---------------------------------------------------------------------------
-- Descriptors
-- ---------------------------------------------------------------------------

namespace Field

theorem modifierEntries_restored (kind : String) (m : Modifiers) :
    modifierEntries kind m.restored = modifierEntries kind m := by
  obtain ⟨isOptional, nullable, hasDefault, default, deferred, description⟩ := m
  cases description with
  | none =>
    cases hasDefault <;> cases deferred <;>
      simp [modifierEntries, Modifiers.restored, Value.simplified_simplified]
  | some s =>
    by_cases hs : s = "" <;> cases hasDefault <;> cases deferred <;>
      simp [modifierEntries, Modifiers.restored, Value.simplified_simplified, hs]

mutual
theorem toDescriptor_restored (f : Field) : f.restored.toDescriptor = f.toDescriptor := by
  have kept : ∀ kind m rest, Value.object (modifierEntries kind (Modifiers.restored m) ++ rest) =
      .object (modifierEntries kind m ++ rest) := by
    intro kind m rest
    rw [modifierEntries_restored]
  cases f with
  | object m shape =>
    rw [restored, toDescriptor, toDescriptor, shapeDescriptors_restored shape]
    exact kept ..
  | array m element r =>
    rw [restored, toDescriptor, toDescriptor, toDescriptor_restored element]
    exact kept ..
  | record m value =>
    rw [restored, toDescriptor, toDescriptor, toDescriptor_restored value]
    exact kept ..
  | text m r | number m r | boolean m | date m | choice m values | literal m v =>
    rw [restored, toDescriptor, toDescriptor]
    exact kept ..

theorem shapeDescriptors_restored (shape : List (String × Field)) :
    shapeDescriptors (restoredShape shape) = shapeDescriptors shape := by
  cases shape with
  | nil => rfl
  | cons e rest =>
    rw [restoredShape, shapeDescriptors, shapeDescriptors, toDescriptor_restored e.2,
      shapeDescriptors_restored rest]
end

end Field

end TenantStore
