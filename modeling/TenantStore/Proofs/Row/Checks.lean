import Mathlib.Data.List.Forall2
import TenantStore.Row

/-!
# What checks give

A check that succeeds is read from its parts: `both_ok`, `all_ok` and their like say when the
combined check gives a value, and one lemma for each kind of scalar says what the value is.
-/

namespace TenantStore

theorem mapM_ok {f : α → Except ε β} {as : List α} {bs : List β} :
    as.mapM f = .ok bs ↔ List.Forall₂ (fun a b => f a = .ok b) as bs := by
  induction as generalizing bs with
  | nil => simp [pure, Except.pure, eq_comm]
  | cons a as ih =>
    rw [List.mapM_cons, List.forall₂_cons_left_iff]
    cases ha : f a with
    | error e => simp [bind, Except.bind]
    | ok b =>
      simp only [bind, Except.bind, Except.ok.injEq, ← ih]
      cases as.mapM f with
      | error e => simp
      | ok bs' => simp [pure, Except.pure, eq_comm]

theorem mapM_total {f : α → Except ε β} {as : List α} (h : ∀ a ∈ as, ∃ b, f a = .ok b) :
    ∃ bs, as.mapM f = .ok bs := by
  induction as with
  | nil => exact ⟨[], rfl⟩
  | cons a as ih =>
    rw [List.forall_mem_cons] at h
    obtain ⟨b, hb⟩ := h.1
    obtain ⟨bs, hbs⟩ := ih h.2
    exact ⟨b :: bs, mapM_ok.mpr (.cons hb (mapM_ok.mp hbs))⟩

theorem mapM_error {f : α → Except ε β} {as : List α} {e : ε}
    (hone : ∀ a ∈ as, ∀ e', f a = .error e' → e' = e) (hsome : ∃ a ∈ as, f a = .error e) :
    as.mapM f = .error e := by
  induction as with
  | nil => simp at hsome
  | cons a as ih =>
    rw [List.forall_mem_cons] at hone
    rw [List.mapM_cons]
    cases ha : f a with
    | error e' =>
      rw [hone.1 e' ha]
      rfl
    | ok b =>
      obtain ⟨a', hmem, ha'⟩ := hsome
      obtain rfl | hmem := List.mem_cons.mp hmem
      · cases ha.symm.trans ha'
      · rw [ih hone.2 ⟨a', hmem, ha'⟩]
        rfl

namespace Checked

-- ---------------------------------------------------------------------------
-- Combined checks
-- ---------------------------------------------------------------------------

theorem map_ok {x : Checked α} {f : α → β} : x.map f = .ok b ↔ ∃ a, x = .ok a ∧ f a = b := by
  cases x <;> simp [map]

@[simp] theorem under_ok {x : Checked α} : x.under key = .ok a ↔ x = .ok a := by
  cases x <;> simp [under]

theorem both_ok {f : Checked (α → β)} {x : Checked α} :
    both f x = .ok b ↔ ∃ g a, f = .ok g ∧ x = .ok a ∧ g a = b := by
  cases f <;> cases x <;> simp [both]

theorem andThen_ok {x : Checked α} {f : α → Checked β} :
    x.andThen f = .ok b ↔ ∃ a, x = .ok a ∧ f a = .ok b := by
  cases x <;> simp [andThen]

@[simp] theorem fail_ok : (fail cause : Checked α) = .ok a ↔ False := by
  simp [fail]

theorem all_ok {xs : List (Checked α)} :
    all xs = .ok as ↔ List.Forall₂ (fun x a => x = .ok a) xs as := by
  induction xs generalizing as with
  | nil => simp [all, eq_comm]
  | cons x xs ih =>
    simp only [all, both_ok, map_ok, ih, List.forall₂_cons_left_iff]
    constructor
    · rintro ⟨_, as', ⟨a, ha, rfl⟩, has, rfl⟩
      exact ⟨a, as', ha, has, rfl⟩
    · rintro ⟨a, as', ha, has, rfl⟩
      exact ⟨_, as', ⟨a, ha, rfl⟩, has, rfl⟩

theorem all_mapIdx_ok {f : Nat → α → Checked β} (h : all (as.mapIdx f) = .ok bs) :
    List.Forall₂ (fun a b => ∃ i, f i a = .ok b) as bs := by
  induction as generalizing f bs with
  | nil => simpa [all_ok] using h
  | cons a as ih =>
    simp only [List.mapIdx_cons, all, both_ok, map_ok] at h
    obtain ⟨_, bs', ⟨b, hb, rfl⟩, hbs, rfl⟩ := h
    refine .cons ⟨0, hb⟩ ((ih hbs).imp ?_)
    rintro a b ⟨i, hi⟩
    exact ⟨i + 1, hi⟩

end Checked

namespace Row

open Checked

-- ---------------------------------------------------------------------------
-- Scalars
-- ---------------------------------------------------------------------------

theorem orFault_ok {fault : Option Cause} : orFault fault a = .ok b ↔ fault = none ∧ a = b := by
  cases fault <;> simp [orFault]

theorem checkUuid_ok (h : checkUuid v = .ok w) : ∃ u : Uuid, w = .text u.text := by
  unfold checkUuid at h
  split at h
  · exact ⟨_, by simpa using h.symm⟩
  · split at h
    · exact ⟨_, by simpa using h.symm⟩
    · simp at h
  · simp at h

theorem checkText_kept (h : checkText r v = .ok w) :
    if r.isUuid then ∃ u : Uuid, w = .text u.text else ∃ s, w = .text s ∧ textFault? r s = none := by
  unfold checkText at h
  cases hr : r.isUuid with
  | true =>
    rw [hr] at h
    exact checkUuid_ok h
  | false =>
    rw [hr] at h
    cases v with
    | text s => exact ⟨s, (orFault_ok.mp h).2.symm, (orFault_ok.mp h).1⟩
    | _ => simp at h

theorem checkText_ok (h : checkText r v = .ok w) : ∃ s, w = .text s := by
  have hkept := checkText_kept h
  split at hkept
  · exact hkept.imp' Uuid.text fun _ => id
  · exact hkept.imp fun _ => And.left

theorem checkFloat_ok (h : checkFloat r x = .ok w) : w = .float x ∧ numberFault? r x = none :=
  ⟨(orFault_ok.mp h).2.symm, (orFault_ok.mp h).1⟩

theorem isFinite_of_numberFault? (h : numberFault? r x = none) : x.isFinite = true := by
  cases hx : x.isFinite with
  | true => rfl
  | false => simp [numberFault?, hx] at h

theorem checkNumber_kept (h : checkNumber r v = .ok w) :
    if r.isInteger then ∃ i, w = .int i ∧ integerFault? r i = none
    else ∃ x, w = .float x ∧ numberFault? r x = none := by
  unfold checkNumber at h
  cases hr : r.isInteger with
  | true =>
    rw [hr] at h
    cases v with
    | int i => exact ⟨i, (orFault_ok.mp h).2.symm, (orFault_ok.mp h).1⟩
    | _ => simp at h
  | false =>
    rw [hr] at h
    cases v with
    | int i =>
      obtain ⟨x, -, hx⟩ := andThen_ok.mp h
      exact ⟨x, checkFloat_ok hx⟩
    | float x => exact ⟨x, checkFloat_ok h⟩
    | _ => simp at h

theorem checkNumber_ok (h : checkNumber r v = .ok w) :
    if r.isInteger then ∃ i, w = .int i else ∃ x, w = .float x ∧ x.isFinite = true := by
  have hkept := checkNumber_kept h
  split at hkept
  · rw [if_pos ‹_›]
    exact hkept.imp fun _ => And.left
  · rw [if_neg ‹_›]
    exact hkept.imp fun _ => And.imp_right isFinite_of_numberFault?

theorem checkBoolean_ok (h : checkBoolean v = .ok w) : ∃ b, w = .bool b := by
  unfold checkBoolean at h
  split at h
  · exact ⟨_, by simpa using h.symm⟩
  · simp at h

theorem momentOr_ok {r : Except Cause DateTime} (h : momentOr r = .ok w) :
    ∃ t, r = .ok t ∧ w = .text t.wireText := by
  cases r with
  | ok t => exact ⟨t, rfl, by simpa [momentOr] using h.symm⟩
  | error cause => simp [momentOr] at h

theorem checkDate_kept (h : checkDate v = .ok w) : ∃ t : DateTime, w = .text t.wireText := by
  unfold checkDate at h
  split at h
  case h_6 => simp at h
  all_goals exact (momentOr_ok h).imp fun _ => And.right

theorem checkDate_ok (h : checkDate v = .ok w) : ∃ s, w = .text s :=
  (checkDate_kept h).imp' DateTime.wireText fun _ => id

theorem checkAmong_ok (h : checkAmong values v = .ok w) :
    ∃ u ∈ values, u.equal v = true ∧ w = u.wire := by
  unfold checkAmong at h
  split at h
  · rename_i u hu
    exact ⟨u, List.mem_of_find?_eq_some hu, by simpa using List.find?_some hu,
      by simpa using h.symm⟩
  · simp at h

theorem checkLiteral_ok (h : checkLiteral s v = .ok w) :
    s.toValue.equal v = true ∧ w = s.toValue.wire := by
  unfold checkLiteral at h
  split at h
  · simp at h
  · obtain ⟨u, hu, hequal, rfl⟩ := checkAmong_ok h
    obtain rfl := List.mem_singleton.mp hu
    exact ⟨hequal, rfl⟩

-- ---------------------------------------------------------------------------
-- Nested values
-- ---------------------------------------------------------------------------

theorem orNull_ok {check : Value → Checked Value} (h : orNull allowed check v = .ok w) :
    (allowed = true ∧ v = .null ∧ w = .null) ∨ check v = .ok w := by
  unfold orNull at h
  split at h
  · exact .inl ⟨rfl, rfl, by simpa using h.symm⟩
  · exact .inr h

theorem orNull_of_ne {check : Value → Checked Value} (h : v ≠ .null) :
    orNull allowed check v = check v := by
  unfold orNull
  split
  · contradiction
  · rfl

theorem checkItems_ok_iff {check : Nat → Value → Checked Value} :
    checkItems r check items = .ok w ↔
      (r.maxItems.filter fun (n : Int) => n < items.length) = none ∧
      (r.minItems.filter fun (n : Int) => items.length < n) = none ∧
      ∃ kept, all (items.mapIdx fun i v => (check i v).under (Decimal.natText i)) = .ok kept ∧
        w = .list kept := by
  unfold checkItems
  cases r.maxItems.filter fun (n : Int) => n < items.length with
  | some n => simp
  | none =>
    simp only [andThen_ok, orFault_ok, Option.map_eq_none_iff, true_and]
    constructor
    · rintro ⟨kept, hkept, hmin, rfl⟩
      exact ⟨hmin, kept, hkept, rfl⟩
    · rintro ⟨hmin, kept, hkept, rfl⟩
      exact ⟨kept, hkept, hmin, rfl⟩

theorem checkItems_ok {check : Nat → Value → Checked Value}
    (h : checkItems r check items = .ok w) :
    ∃ kept, w = .list kept ∧ List.Forall₂ (fun v u => ∃ i, check i v = .ok u) items kept := by
  obtain ⟨-, -, kept, hkept, rfl⟩ := checkItems_ok_iff.mp h
  exact ⟨kept, rfl, by simpa using all_mapIdx_ok hkept⟩

theorem checkKey_ok (h : checkKey k = .ok key) : k = .text key := by
  unfold checkKey at h
  split at h <;> simp_all

theorem checkEntries_ok {check : Value → Value → Checked Value}
    (h : checkEntries check entries = .ok w) :
    ∃ kept, w = .object kept ∧
      List.Forall₂ (fun e u => e.1 = .text u.1 ∧ check e.1 e.2 = .ok u.2) entries kept := by
  obtain ⟨kept, hkept, rfl⟩ := map_ok.mp h
  rw [all_ok, List.forall₂_map_left_iff] at hkept
  refine ⟨kept, rfl, hkept.imp ?_⟩
  rintro ⟨k, v⟩ ⟨key, u⟩ hk
  simp only [both_ok, map_ok, under_ok] at hk
  obtain ⟨_, _, ⟨key', hkey, rfl⟩, hv, hu⟩ := hk
  obtain ⟨rfl, rfl⟩ := Prod.mk.inj hu
  exact ⟨checkKey_ok hkey, hv⟩

-- ---------------------------------------------------------------------------
-- Rows
-- ---------------------------------------------------------------------------

variable [Pattern.Engine]

theorem insert_ok : insert t supply payload table = .ok row ↔ ∃ entries, payload = .map entries ∧
    t.fault? = none ∧ columnwise (newColumn supply entries) t = .ok row := by
  unfold insert insertAt assess
  cases payload with
  | map entries =>
    cases t.fault? with
    | some fault => simp
    | none =>
      cases hrow : columnwise (newColumn supply entries) t <;>
        simp [hrow, Checked.toExcept, Except.mapError]
  | _ => simp

theorem update_ok : update t supply payload table = .ok row ↔ ∃ entries, payload = .map entries ∧
    t.fault? = none ∧ row ≠ [] ∧ columnwise (changedColumn supply entries) t = .ok row := by
  unfold update assess
  cases payload with
  | map entries =>
    cases t.fault? with
    | some fault => simp
    | none =>
      cases hrow : columnwise (changedColumn supply entries) t with
      | bad fs => simp [hrow, Checked.toExcept, Except.mapError]
      | ok kept =>
        cases kept with
        | nil => simp [hrow, Checked.toExcept, Except.mapError]
        | cons e kept =>
          simp only [hrow, Checked.toExcept, Except.mapError]
          grind
  | _ => simp

end Row

end TenantStore
