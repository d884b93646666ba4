import TenantStore.Json.Writer

/-!
# When JSON is written

A list or a mapping is written exactly when its parts are, and its text is made of theirs. Joined
texts are as long as their parts together with the commas, so a text that is made of shorter parts
differs from one that is made of longer ones.
-/

namespace TenantStore.Json

theorem bind_ok {x : Except ε α} {f : α → Except ε β} :
    x >>= f = .ok b ↔ ∃ a, x = .ok a ∧ f a = .ok b := by
  cases x with
  | error e => simp [bind, Except.bind]
  | ok a => simp [bind, Except.bind]

theorem pure_ok : (pure a : Except ε α) = .ok b ↔ b = a := by
  simp [pure, Except.pure, eq_comm]

theorem map_ok {x : Except ε α} {f : α → β} : x.map f = .ok b ↔ ∃ a, x = .ok a ∧ f a = b := by
  cases x <;> simp [Except.map]

theorem integerChars_ok : integerChars i = .ok t ↔ Decimal.IsShort i ∧ t = Decimal.intChars i := by
  unfold integerChars
  split
  · rename_i h
    simp [h, eq_comm]
  · rename_i h
    simp [h]

section
variable {τ : Type} [Textual τ] {rules : Rules} {v k : Value τ} {vs : List (Value τ)}
  {es : List (Value τ × Value τ)}

theorem write_list_ok : write rules (.list vs) = .ok t ↔
    ∃ ts, writeItems rules vs = .ok ts ∧ t = '[' :: commaSeparated ts ++ [']'] := by
  simp only [write, bind_ok, pure_ok]

theorem write_tuple (vs : List (Value τ)) : write rules (.tuple vs) = write rules (.list vs) := by
  rw [write, write]

theorem write_map_ok : write rules (.map es) = .ok t ↔
    ∃ ts, writeEntries rules es = .ok ts ∧ t = '\x7b' :: commaSeparated ts ++ ['\x7d'] := by
  simp only [write, bind_ok, pure_ok]

theorem writeItems_cons_ok : writeItems rules (v :: vs) = .ok ts ↔
    ∃ p ps, write rules v = .ok p ∧ writeItems rules vs = .ok ps ∧ ts = p :: ps := by
  simp only [writeItems, bind_ok, pure_ok, exists_and_left]

theorem writeEntries_cons_ok : writeEntries rules ((k, v) :: es) = .ok ts ↔
    ∃ key p ps, keyText rules k = .ok key ∧ write rules v = .ok p ∧
      writeEntries rules es = .ok ps ∧ ts = (stringChars key ++ ':' :: p) :: ps := by
  simp only [writeEntries, bind_ok, pure_ok, exists_and_left]

end

-- ---------------------------------------------------------------------------
-- Joined texts
-- ---------------------------------------------------------------------------

def joinedLength (ts : List (List Char)) : Nat :=
  ts.foldr (fun t n => t.length + 1 + n) 0

@[simp] theorem joinedLength_nil : joinedLength [] = 0 := rfl

@[simp] theorem joinedLength_cons : joinedLength (t :: ts) = t.length + 1 + joinedLength ts := rfl

theorem length_commaSeparated : ∀ ts, (commaSeparated ts).length = joinedLength ts - 1
  | [] => rfl
  | [t] => rfl
  | t :: u :: ts => by
    have ih := length_commaSeparated (u :: ts)
    simp only [commaSeparated, List.length_append, List.length_cons, ih, joinedLength_cons]
    omega

theorem commaSeparated_cons (t : List Char) (h : ts ≠ []) :
    commaSeparated (t :: ts) = t ++ ',' :: commaSeparated ts := by
  cases ts with
  | nil => exact absurd rfl h
  | cons u ts => rfl

theorem joinedLength_eq_zero (h : joinedLength ts = 0) : ts = [] := by
  cases ts with
  | nil => rfl
  | cons t ts =>
    rw [joinedLength_cons] at h
    omega

/-- Texts that are no longer than others: part by part, or in all when some were left out. -/
inductive Shorter : List (List Char) → List (List Char) → Prop
  | nil : Shorter [] []
  | cons {t' t : List Char} {ts' ts : List (List Char)} (h : t'.length ≤ t.length)
      (hs : Shorter ts' ts) : Shorter (t' :: ts') (t :: ts)
  | fewer {ts' ts : List (List Char)} (h : ts' ≠ [])
      (hlt : joinedLength ts' < joinedLength ts) : Shorter ts' ts

theorem Shorter.joinedLength_le (h : Shorter ts' ts) : joinedLength ts' ≤ joinedLength ts := by
  induction h with
  | nil => exact Nat.le_refl _
  | cons h _ ih =>
    rw [joinedLength_cons, joinedLength_cons]
    omega
  | fewer _ hlt => exact Nat.le_of_lt hlt

theorem Shorter.length_le (h : Shorter ts' ts) :
    (commaSeparated ts').length ≤ (commaSeparated ts).length := by
  rw [length_commaSeparated, length_commaSeparated]
  exact Nat.sub_le_sub_right h.joinedLength_le 1

/-- Joined texts of which one is made of shorter parts are the same only if all parts are. -/
theorem Shorter.eq_of_joined (h : Shorter ts' ts) (heq : commaSeparated ts' = commaSeparated ts) :
    ts' = ts := by
  induction h with
  | nil => rfl
  | @cons t' t ts' ts h hs ih =>
    have hle := hs.joinedLength_le
    have hlen := congrArg List.length heq
    rw [length_commaSeparated, length_commaSeparated, joinedLength_cons, joinedLength_cons] at hlen
    by_cases hts : ts = []
    · subst hts
      have hnil : ts' = [] := joinedLength_eq_zero (by simpa using hle)
      subst hnil
      exact congrArg (fun t => [t]) heq
    · have hts' : ts' ≠ [] := by
        rintro rfl
        refine hts (joinedLength_eq_zero ?_)
        rw [joinedLength_nil] at hlen
        omega
      rw [commaSeparated_cons t' hts', commaSeparated_cons t hts] at heq
      obtain ⟨rfl, htail⟩ := List.append_inj heq (by omega)
      rw [ih (List.cons.inj htail).2]
  | @fewer ts' ts h hlt =>
    have hlen := congrArg List.length heq
    rw [length_commaSeparated, length_commaSeparated] at hlen
    have hpos : joinedLength ts' ≠ 0 := fun h0 => h (joinedLength_eq_zero h0)
    omega

theorem Shorter.enclosed (h : Shorter ts' ts) (left right : Char) :
    (left :: commaSeparated ts' ++ [right]).length ≤ (left :: commaSeparated ts ++ [right]).length ∧
      (left :: commaSeparated ts' ++ [right] = left :: commaSeparated ts ++ [right] ↔ ts' = ts) := by
  constructor
  · have := h.length_le
    simp only [List.length_append, List.length_cons]
    omega
  · constructor
    · intro heq
      exact h.eq_of_joined (List.append_cancel_right (List.cons.inj heq).2)
    · rintro rfl
      rfl

end TenantStore.Json
