import TenantStore.Proofs.Json.Strict
import TenantStore.Value.Wire

/-!
# Values as they are sent

What is sent of a value is a JSON value: strict, with the keys of every mapping apart. Such a value
is sent as it is (`Value.wire_eq_self_iff`), so whatever came off the wire once stays the same from
there on.
-/

namespace TenantStore

namespace Value

open Json (TextKeys strictItems_iff strictEntries_iff)

/-- A value that JSON has by itself, whose mappings have each of their keys once. -/
def IsJson (v : Value) : Prop :=
  v.Strict ∧ v.PlainKeys

/-- Entries whose keys are texts, each of them once. -/
def Keyed {τ : Type} (es : List (Value τ × Value τ)) : Prop :=
  TextKeys es ∧ (es.map Prod.fst).Nodup

-- ---------------------------------------------------------------------------
-- Entries that are put one by one
-- ---------------------------------------------------------------------------

section
variable {τ : Type} {e : Value τ × Value τ} {es fs m : List (Value τ × Value τ)}

theorem keyed_nil : Keyed ([] : List (Value τ × Value τ)) :=
  ⟨List.forall_mem_nil _, List.nodup_nil⟩

theorem keyed_cons :
    Keyed (e :: es) ↔ (∃ s, e.1 = .text s ∧ ∀ f ∈ es, f.1 ≠ .text s) ∧ Keyed es := by
  simp only [Keyed, TextKeys, List.forall_mem_cons, List.map_cons, List.nodup_cons, List.mem_map,
    not_exists, not_and]
  constructor
  · rintro ⟨⟨⟨s, hs⟩, hkeys⟩, hnew, hnodup⟩
    exact ⟨⟨s, hs, fun f hf heq => hnew f hf (heq.trans hs.symm)⟩, hkeys, hnodup⟩
  · rintro ⟨⟨s, hs, hnew⟩, hkeys, hnodup⟩
    exact ⟨⟨⟨s, hs⟩, hkeys⟩, fun f hf heq => hnew f hf (heq.trans hs), hnodup⟩

/-- It depends on the keys alone whether entries are apart. -/
theorem Keyed.of_keys (h : Keyed es) (heq : fs.map Prod.fst = es.map Prod.fst) : Keyed fs := by
  have hkeys (es : List (Value τ × Value τ)) : Keyed es ↔
      (∀ k ∈ es.map Prod.fst, ∃ s, k = .text s) ∧ (es.map Prod.fst).Nodup := by
    rw [Keyed, TextKeys, List.forall_mem_map]
  rw [hkeys, heq, ← hkeys]
  exact h

variable [DecidableEq τ] {key : τ} {v : Value τ}

theorem insert_absent (h : ∀ e ∈ m, e.1 ≠ .text key) :
    insert (.text key) v m = m ++ [(.text key, v)] := by
  induction m with
  | nil => rfl
  | cons e m ih =>
    obtain ⟨hne, hrest⟩ := List.forall_mem_cons.mp h
    have hkey : e.1.equal (.text key) = false := by
      rw [← Bool.not_eq_true, equal_text]
      exact hne
    rw [insert, hkey, ih hrest]
    rfl

theorem mem_insert (h : e ∈ insert (.text key) v m) : e = (.text key, v) ∨ e ∈ m := by
  induction m with
  | nil => exact .inl (List.mem_singleton.mp h)
  | cons f m ih =>
    rw [insert] at h
    split at h
    · rename_i hkey
      rcases List.mem_cons.mp h with rfl | h
      · exact .inl (by rw [equal_text.mp hkey])
      · exact .inr (List.mem_cons_of_mem _ h)
    · rcases List.mem_cons.mp h with rfl | h
      · exact .inr List.mem_cons_self
      · exact (ih h).imp_right (List.mem_cons_of_mem _)

theorem Keyed.insert (h : Keyed m) : Keyed (insert (.text key) v m) := by
  induction m with
  | nil => exact keyed_cons.mpr ⟨⟨key, rfl, List.forall_mem_nil _⟩, keyed_nil⟩
  | cons f m ih =>
    obtain ⟨⟨s, hs, hnew⟩, hm⟩ := keyed_cons.mp h
    rw [Value.insert]
    split
    · exact keyed_cons.mpr ⟨⟨s, hs, hnew⟩, hm⟩
    · rename_i hkey
      refine keyed_cons.mpr ⟨⟨s, hs, fun e he => ?_⟩, ih hm⟩
      rcases mem_insert he with rfl | he
      · exact fun heq => hkey (equal_text.mpr (hs.trans heq.symm))
      · exact hnew e he

theorem foldl_insert (h : Keyed (m ++ es)) :
    es.foldl (fun m e => insert e.1 e.2 m) m = m ++ es := by
  induction es generalizing m with
  | nil => simp
  | cons e es ih =>
    have hrest : Keyed ((m ++ [e]) ++ es) := by simpa using h
    obtain ⟨hkeys, hnodup⟩ := h
    obtain ⟨s, hs⟩ := hkeys e (List.mem_append_right m List.mem_cons_self)
    have habsent : ∀ f ∈ m, f.1 ≠ .text s := by
      intro f hf heq
      rw [List.map_append, List.nodup_append] at hnodup
      exact hnodup.2.2 _ (List.mem_map_of_mem hf) _ (List.mem_map_of_mem List.mem_cons_self)
        (heq.trans hs.symm)
    rw [List.foldl_cons, hs, insert_absent habsent, ← hs, ih hrest, List.append_assoc]
    rfl

end

variable {P : Value → Prop} {es m : List (Value × Value)}

theorem mergeEntries_eq_foldl (es : List (String × Value)) :
    mergeEntries es =
      (es.map fun e => (Value.text e.1, e.2)).foldl (fun m e => insert e.1 e.2 m) [] := by
  rw [mergeEntries, List.foldl_map]

/-- Entries that are put among others stay apart, and a property of all values is kept. -/
theorem keyed_foldl (es : List (String × Value)) (hm : Keyed m) (hP : ∀ e ∈ m, P e.2)
    (hes : ∀ f ∈ es, P f.2) :
    Keyed (es.foldl (fun m e => Value.insert (.text e.1) e.2 m) m) ∧
      ∀ e ∈ es.foldl (fun m e => Value.insert (.text e.1) e.2 m) m, P e.2 := by
  induction es generalizing m with
  | nil => exact ⟨hm, hP⟩
  | cons f es ih =>
    obtain ⟨hf, hes⟩ := List.forall_mem_cons.mp hes
    refine ih hm.insert (fun e he => ?_) hes
    rcases mem_insert he with rfl | he
    · exact hf
    · exact hP e he

theorem mergeEntries_keyed (hes : ∀ f ∈ fs, P f.2) :
    Keyed (mergeEntries fs) ∧ ∀ e ∈ mergeEntries fs, P e.2 :=
  keyed_foldl fs keyed_nil (List.forall_mem_nil _) hes

-- ---------------------------------------------------------------------------
-- JSON values
-- ---------------------------------------------------------------------------

theorem plainKeysItems_iff (vs : List Value) : PlainKeysItems vs ↔ ∀ v ∈ vs, v.PlainKeys := by
  induction vs with
  | nil => simp [PlainKeysItems]
  | cons v vs ih => simp [PlainKeysItems, ih]

theorem plainKeysEntries_iff (h : TextKeys es) :
    PlainKeysEntries es ↔ ∀ e ∈ es, e.2.PlainKeys := by
  induction es with
  | nil => simp [PlainKeysEntries]
  | cons e es ih =>
    obtain ⟨k, v⟩ := e
    obtain ⟨⟨s, rfl⟩, hrest⟩ := List.forall_mem_cons.mp h
    rw [PlainKeysEntries, List.forall_mem_cons, ih hrest]
    exact and_iff_right rfl

theorem isJson_list {vs : List Value} : (Value.list vs).IsJson ↔ ∀ v ∈ vs, v.IsJson := by
  have hstrict : (Value.list vs).Strict ↔ ∀ v ∈ vs, v.Strict := strictItems_iff vs
  have hplain : (Value.list vs).PlainKeys ↔ ∀ v ∈ vs, v.PlainKeys := plainKeysItems_iff vs
  rw [IsJson, hstrict, hplain, ← forall₂_and]
  rfl

/-- Texts are apart exactly if their plain texts are. -/
theorem nodup_plain_iff (h : TextKeys es) :
    (es.map fun e => e.1.plain).Nodup ↔ (es.map Prod.fst).Nodup := by
  have hmap : (es.map fun e => e.1.plain) = (es.map Prod.fst).map plain := by rw [List.map_map]; rfl
  rw [hmap]
  refine ⟨List.Nodup.of_map plain, fun hnodup => hnodup.map_on ?_⟩
  intro k hk l hl heq
  obtain ⟨e, he, rfl⟩ := List.mem_map.mp hk
  obtain ⟨f, hf, rfl⟩ := List.mem_map.mp hl
  obtain ⟨s, hs⟩ := h e he
  obtain ⟨t, ht⟩ := h f hf
  rw [hs, ht] at heq ⊢
  exact congrArg Value.text heq

theorem isJson_map : (Value.map es).IsJson ↔ Keyed es ∧ ∀ e ∈ es, e.2.IsJson := by
  have hstrict : (Value.map es).Strict ↔ TextKeys es ∧ ∀ e ∈ es, e.2.Strict :=
    strictEntries_iff es
  have hplain : (Value.map es).PlainKeys ↔
      (es.map fun e => e.1.plain).Nodup ∧ PlainKeysEntries es := Iff.rfl
  rw [IsJson, hstrict, hplain, Keyed]
  constructor
  · rintro ⟨⟨hkeys, hstrict⟩, hnodup, hplain⟩
    exact ⟨⟨hkeys, (nodup_plain_iff hkeys).mp hnodup⟩, fun e he =>
      ⟨hstrict e he, (plainKeysEntries_iff hkeys).mp hplain e he⟩⟩
  · rintro ⟨⟨hkeys, hnodup⟩, hjson⟩
    exact ⟨⟨hkeys, fun e he => (hjson e he).1⟩, (nodup_plain_iff hkeys).mpr hnodup,
      (plainKeysEntries_iff hkeys).mpr fun e he => (hjson e he).2⟩

-- ---------------------------------------------------------------------------
-- What is sent
-- ---------------------------------------------------------------------------

-- the induction follows the nesting of values; that keys stay apart comes of their merging
mutual
theorem wire_isJson : ∀ v : Value, v.wire.IsJson
  | .null | .bool _ | .int _ | .text _ | .datetime _ | .date _ | .uuid _ => ⟨trivial, trivial⟩
  | .float x => by
    rw [wire]
    split
    · exact ⟨‹_›, trivial⟩
    · exact ⟨trivial, trivial⟩
  | .list vs | .tuple vs => isJson_list.mpr (wireItems_isJson vs)
  | .map es => isJson_map.mpr (mergeEntries_keyed (wireEntries_isJson es))

theorem wireItems_isJson : ∀ vs : List Value, ∀ v ∈ wireItems vs, v.IsJson
  | [] => List.forall_mem_nil _
  | v :: vs => List.forall_mem_cons.mpr ⟨wire_isJson v, wireItems_isJson vs⟩

theorem wireEntries_isJson : ∀ es : List (Value × Value), ∀ f ∈ wireEntries es, f.2.IsJson
  | [] => List.forall_mem_nil _
  | (_, v) :: es => List.forall_mem_cons.mpr ⟨wire_isJson v, wireEntries_isJson es⟩
end

mutual
theorem wire_of_isJson : ∀ v : Value, v.IsJson → v.wire = v
  | .null, _ | .bool _, _ | .int _, _ | .text _, _ => rfl
  | .float x, h => if_pos h.1
  | .list vs, h => congrArg Value.list (wireItems_of_isJson vs (isJson_list.mp h))
  | .map es, h => by
    obtain ⟨hkeyed, hjson⟩ := isJson_map.mp h
    rw [wire, mergeEntries_eq_foldl, wireEntries_of_isJson es hkeyed.1 hjson,
      foldl_insert (by simpa using hkeyed), List.nil_append]
  | .tuple _, h | .datetime _, h | .date _, h | .uuid _, h => h.1.elim

theorem wireItems_of_isJson : ∀ vs : List Value, (∀ v ∈ vs, v.IsJson) → wireItems vs = vs
  | [], _ => rfl
  | v :: vs, h => by
    obtain ⟨hv, hvs⟩ := List.forall_mem_cons.mp h
    rw [wireItems, wire_of_isJson v hv, wireItems_of_isJson vs hvs]

theorem wireEntries_of_isJson : ∀ es : List (Value × Value), TextKeys es →
    (∀ e ∈ es, e.2.IsJson) → ((wireEntries es).map fun e => (Value.text e.1, e.2)) = es
  | [], _, _ => rfl
  | (k, v) :: es, hkeys, h => by
    obtain ⟨⟨s, rfl⟩, hrest⟩ := List.forall_mem_cons.mp hkeys
    obtain ⟨hv, hes⟩ := List.forall_mem_cons.mp h
    have hv : v.wire = v := wire_of_isJson v hv
    rw [wireEntries, List.map_cons, wireEntries_of_isJson es hrest hes, hv]
    rfl
end

end Value

end TenantStore
