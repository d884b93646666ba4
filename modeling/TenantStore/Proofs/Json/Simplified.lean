import TenantStore.Field.Descriptor
import TenantStore.Proofs.Json.Writing

/-!
# The JSON of simplified values

A simplified value has the JSON text of the value itself exactly if the keys of its mappings keep
their text when they are simplified, and stay apart (`Value.PlainKeys`). Keys such as booleans do
not: JSON has words of its own for them. In no case is the text longer.
-/

namespace TenantStore

mutual
/-- In every mapping the JSON text of a key is its plain text, and no two keys have the same one. -/
def Value.PlainKeys : Value → Prop
  | .map es => (es.map fun e => e.1.plain).Nodup ∧ Value.PlainKeysEntries es
  | .list vs | .tuple vs => Value.PlainKeysItems vs
  | _ => True

def Value.PlainKeysItems : List Value → Prop
  | [] => True
  | v :: vs => v.PlainKeys ∧ Value.PlainKeysItems vs

def Value.PlainKeysEntries : List (Value × Value) → Prop
  | [] => True
  | (k, v) :: es => Json.keyText .lenient k = .ok k.plain ∧ v.PlainKeys ∧
      Value.PlainKeysEntries es
end

namespace Json

open Value

/-- The word that JSON has for a key is no shorter than the plain one. -/
theorem keyText_plain {k : Value} (h : keyText .lenient k = .ok key) :
    (stringChars k.plain).length ≤ (stringChars key).length ∧
      (stringChars k.plain = stringChars key → key = k.plain) := by
  cases k with
  | text s =>
    obtain rfl := Except.ok.inj h
    exact ⟨Nat.le_refl _, fun _ => rfl⟩
  | null =>
    obtain rfl := Except.ok.inj h
    exact ⟨by decide, fun h => absurd h (by decide)⟩
  | bool b =>
    cases b <;> obtain rfl := Except.ok.inj h
    · exact ⟨by decide, fun h => absurd h (by decide)⟩
    · exact ⟨by decide, fun h => absurd h (by decide)⟩
  | int i =>
    obtain ⟨cs, hcs, rfl⟩ := map_ok.mp h
    obtain ⟨-, rfl⟩ := integerChars_ok.mp hcs
    have hplain : RawText.ofString (Value.int i).plain = .ofChars (Decimal.intChars i) :=
      RawText.ofString_ofList _
    rw [hplain]
    exact ⟨Nat.le_refl _, fun _ => rfl⟩
  | float x =>
    have hkey : RawText.ofChars (NumberStyle.json.chars x) = key := by
      cases x <;> exact Except.ok.inj h
    subst hkey
    have hplain : RawText.ofString (Value.float x).plain = .ofChars (NumberStyle.literal.chars x) :=
      RawText.ofString_ofList _
    rw [hplain]
    cases x with
    | nan => exact ⟨by decide, fun h => absurd h (by decide)⟩
    | infinite negative =>
      cases negative
      · exact ⟨by decide, fun h => absurd h (by decide)⟩
      · exact ⟨by decide, fun h => absurd h (by decide)⟩
    | finite negative m q hc => exact ⟨Nat.le_refl _, fun _ => rfl⟩
  | _ => cases h

-- ---------------------------------------------------------------------------
-- Entries that are left out
-- ---------------------------------------------------------------------------

theorem writeEntries_filter (p : Value × Value → Bool) :
    ∀ {es : List (Value × Value)} {ts}, writeEntries .lenient es = .ok ts →
      ∃ ts', writeEntries .lenient (es.filter p) = .ok ts' ∧ joinedLength ts' ≤ joinedLength ts
  | [], ts, h => ⟨ts, h, Nat.le_refl _⟩
  | (k, v) :: es, ts, h => by
    obtain ⟨key, part, ps, hk, hv, hps, rfl⟩ := writeEntries_cons_ok.mp h
    obtain ⟨ts', hts', hle⟩ := writeEntries_filter p hps
    rw [joinedLength_cons]
    rw [List.filter_cons]
    split
    · refine ⟨_, writeEntries_cons_ok.mpr ⟨key, part, ts', hk, hv, hts', rfl⟩, ?_⟩
      rw [joinedLength_cons]
      omega
    · exact ⟨ts', hts', by omega⟩

theorem writeEntries_replaced {key : String} {w : Value} :
    ∀ {es : List (Value × Value)} {ts}, writeEntries .lenient es = .ok ts →
      field? key es = some w →
      ∃ ts', writeEntries .lenient ((.text key, w) :: es.filter fun e => !e.1.equal (.text key)) =
        .ok ts' ∧ joinedLength ts' ≤ joinedLength ts
  | [], _, _, hw => by simp [field?, lookup] at hw
  | (k, v) :: es, ts, h, hw => by
    obtain ⟨kc, part, ps, hk, hv, hps, rfl⟩ := writeEntries_cons_ok.mp h
    cases heq : k.equal (.text key) with
    | true =>
      obtain rfl := equal_text.mp heq
      obtain rfl : v = w := by simpa [field?, lookup, heq] using hw
      obtain ⟨ts', hts', hle⟩ := writeEntries_filter (fun e => !e.1.equal (.text key)) hps
      rw [List.filter_cons, heq]
      refine ⟨_, writeEntries_cons_ok.mpr ⟨kc, part, ts', hk, hv, hts', rfl⟩, ?_⟩
      rw [joinedLength_cons, joinedLength_cons]
      omega
    | false =>
      have hw' : field? key es = some w := by simpa [field?, lookup, heq] using hw
      obtain ⟨ts', hts', hle⟩ := writeEntries_replaced hps hw'
      obtain ⟨kc', part', ps', hk', hv', hps', rfl⟩ := writeEntries_cons_ok.mp hts'
      rw [List.filter_cons, heq]
      refine ⟨_, writeEntries_cons_ok.mpr ⟨kc', part', _, hk', hv',
        writeEntries_cons_ok.mpr ⟨kc, part, ps', hk, hv, hps', rfl⟩, rfl⟩, ?_⟩
      rw [joinedLength_cons] at hle
      rw [joinedLength_cons, joinedLength_cons, joinedLength_cons]
      omega

theorem field?_eq_none {key : String} {es : List (Value × Value)} :
    field? key es = none ↔ ∀ e ∈ es, e.1 ≠ .text key := by
  simp only [field?, lookup, Textual.ofString_eq, Option.map_eq_none_iff, List.find?_eq_none,
    equal_text, ne_eq]

/-- The keys are the plain texts of the old ones. -/
theorem field?_simplifiedEntries (key : String) (es : List (Value × Value)) :
    field? key (simplifiedEntries es) = none ↔ key ∉ es.map fun e => e.1.plain := by
  induction es with
  | nil => simp [simplifiedEntries, field?, lookup]
  | cons e es ih =>
    obtain ⟨k, v⟩ := e
    rw [field?_eq_none] at ih
    rw [field?_eq_none, simplifiedEntries, List.map_cons, List.mem_cons, not_or, ← ih]
    simp only
    split
    · simp [eq_comm]
    · simp only [List.forall_mem_cons, List.mem_filter, ne_eq, Value.text.injEq]
      constructor
      · rintro ⟨hne, hrest⟩
        refine ⟨Ne.symm hne, fun e he heq => ?_⟩
        refine hrest e ⟨he, ?_⟩ heq
        cases hek : e.1.equal (.text k.plain) with
        | false => rfl
        | true =>
          rw [equal_text.mp hek] at heq
          exact absurd (Value.text.inj heq) hne
      · rintro ⟨hne, hrest⟩
        exact ⟨Ne.symm hne, fun e he => hrest e he.1⟩

-- ---------------------------------------------------------------------------
-- Simplified values
-- ---------------------------------------------------------------------------

mutual
theorem write_simplified : ∀ (v : Value) (t : List Char), write .lenient v = .ok t →
    ∃ t', write .lenient v.simplified = .ok t' ∧ t'.length ≤ t.length ∧ (t' = t ↔ v.PlainKeys)
  | .list vs, t, h => by
    obtain ⟨ts, hts, rfl⟩ := write_list_ok.mp h
    obtain ⟨ts', hts', hle, hiff⟩ := writeItems_simplified vs ts hts
    obtain ⟨hlen, heq⟩ := hle.enclosed '[' ']'
    exact ⟨_, write_list_ok.mpr ⟨ts', hts', rfl⟩, hlen, heq.trans hiff⟩
  | .tuple vs, t, h => by
    rw [write_tuple] at h
    obtain ⟨ts, hts, rfl⟩ := write_list_ok.mp h
    obtain ⟨ts', hts', hle, hiff⟩ := writeItems_simplified vs ts hts
    obtain ⟨hlen, heq⟩ := hle.enclosed '[' ']'
    exact ⟨_, write_list_ok.mpr ⟨ts', hts', rfl⟩, hlen, heq.trans hiff⟩
  | .map es, t, h => by
    obtain ⟨ts, hts, rfl⟩ := write_map_ok.mp h
    obtain ⟨ts', hts', hle, hiff⟩ := writeEntries_simplified es ts hts
    obtain ⟨hlen, heq⟩ := hle.enclosed '\x7b' '\x7d'
    exact ⟨_, write_map_ok.mpr ⟨ts', hts', rfl⟩, hlen, heq.trans hiff⟩
  | .datetime d, t, h => ⟨t, h, Nat.le_refl _, by simp [Value.PlainKeys]⟩
  | .date d, t, h => ⟨t, h, Nat.le_refl _, by simp [Value.PlainKeys]⟩
  | .null, t, h => ⟨t, h, Nat.le_refl _, by simp [Value.PlainKeys]⟩
  | .bool b, t, h => ⟨t, h, Nat.le_refl _, by simp [Value.PlainKeys]⟩
  | .int i, t, h => ⟨t, h, Nat.le_refl _, by simp [Value.PlainKeys]⟩
  | .float x, t, h => ⟨t, h, Nat.le_refl _, by simp [Value.PlainKeys]⟩
  | .text s, t, h => ⟨t, h, Nat.le_refl _, by simp [Value.PlainKeys]⟩
  | .uuid u, t, h => ⟨t, h, Nat.le_refl _, by simp [Value.PlainKeys]⟩

theorem writeItems_simplified : ∀ (vs : List Value) (ts : List (List Char)),
    writeItems .lenient vs = .ok ts →
    ∃ ts', writeItems .lenient (simplifiedItems vs) = .ok ts' ∧ Shorter ts' ts ∧
      (ts' = ts ↔ PlainKeysItems vs)
  | [], ts, h => by
    obtain rfl := Except.ok.inj h
    exact ⟨[], rfl, .nil, by simp [PlainKeysItems]⟩
  | v :: vs, ts, h => by
    obtain ⟨p, ps, hp, hps, rfl⟩ := writeItems_cons_ok.mp h
    obtain ⟨p', hp', hle, hiff⟩ := write_simplified v p hp
    obtain ⟨ps', hps', hshort, hiffs⟩ := writeItems_simplified vs ps hps
    refine ⟨p' :: ps', writeItems_cons_ok.mpr ⟨p', ps', hp', hps', rfl⟩, .cons hle hshort, ?_⟩
    rw [PlainKeysItems, ← hiff, ← hiffs, List.cons.injEq]

theorem writeEntries_simplified : ∀ (es : List (Value × Value)) (ts : List (List Char)),
    writeEntries .lenient es = .ok ts →
    ∃ ts', writeEntries .lenient (simplifiedEntries es) = .ok ts' ∧ Shorter ts' ts ∧
      (ts' = ts ↔ (es.map fun e => e.1.plain).Nodup ∧ PlainKeysEntries es)
  | [], ts, h => by
    obtain rfl := Except.ok.inj h
    exact ⟨[], rfl, .nil, by simp [PlainKeysEntries]⟩
  | (k, v) :: es, ts, h => by
    obtain ⟨key, p, ps, hk, hp, hps, rfl⟩ := writeEntries_cons_ok.mp h
    obtain ⟨p', hp', hle, hiff⟩ := write_simplified v p hp
    obtain ⟨ps', hps', hshort, hiffs⟩ := writeEntries_simplified es ps hps
    obtain ⟨hkey, hkeyeq⟩ := keyText_plain hk
    rw [simplifiedEntries]
    have hmem := field?_simplifiedEntries k.plain es
    split
    · rename_i hnone
      refine ⟨_, writeEntries_cons_ok.mpr ⟨k.plain, p', ps', rfl, hp', hps', rfl⟩,
        .cons ?_ hshort, ?_⟩
      · simp only [List.length_append, List.length_cons]
        omega
      · rw [PlainKeysEntries, List.map_cons, List.nodup_cons, ← hmem, List.cons.injEq, hiffs, hk,
          Except.ok.injEq, ← hiff]
        constructor
        · rintro ⟨hpart, hnodup, hrest⟩
          have hlen := congrArg List.length hpart
          simp only [List.length_append, List.length_cons] at hlen
          obtain ⟨hs, htail⟩ := List.append_inj hpart (by omega)
          exact ⟨⟨hnone, hnodup⟩, hkeyeq hs, (List.cons.inj htail).2, hrest⟩
        · rintro ⟨⟨-, hnodup⟩, rfl, rfl, hrest⟩
          exact ⟨rfl, hnodup, hrest⟩
    · rename_i w hsome
      -- an entry is left out, so the text is shorter
      obtain ⟨ts', hts', hle'⟩ := writeEntries_replaced hps' hsome
      have hne : ts' ≠ [] := by
        rintro rfl
        obtain ⟨_, _, _, _, _, _, h⟩ := writeEntries_cons_ok.mp hts'
        cases h
      have hlt : joinedLength ts' < joinedLength ((stringChars key ++ ':' :: p) :: ps) := by
        have := hshort.joinedLength_le
        rw [joinedLength_cons]
        omega
      refine ⟨ts', hts', .fewer hne hlt, ?_⟩
      constructor
      · rintro rfl
        exact absurd hlt (Nat.lt_irrefl _)
      · rintro ⟨hnodup, -⟩
        rw [List.map_cons, List.nodup_cons, ← hmem, hsome] at hnodup
        cases hnodup.1
end

end Json

end TenantStore
