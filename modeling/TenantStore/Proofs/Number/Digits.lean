import Mathlib.Data.List.TakeWhile
import TenantStore.Number.Shortest
import TenantStore.Text.Ascii

/-!
# Digits of numbers

Numerals are made of ASCII digits and have at least one. So has the shortest decimal of a number:
the search for it starts at a step that is not larger than the number, so no grid point that it
finds is zero (`decimal_ne_nil`).
-/

namespace TenantStore

namespace Decimal

theorem digits_small (h : n < 10) : digits n = [n] := by
  rw [digits, if_pos h]

theorem digits_large (h : ¬ n < 10) : digits n = digits (n / 10) ++ [n % 10] := by
  rw [digits, if_neg h]

theorem digits_ne_nil (n : Nat) : digits n ≠ [] := by
  by_cases h : n < 10
  · simp [digits_small h]
  · simp [digits_large h]

theorem digits_lt (n : Nat) : ∀ d ∈ digits n, d < 10 := by
  induction n using digits.induct with
  | case1 n h =>
    rw [digits_small h]
    simpa using h
  | case2 n h ih =>
    rw [digits_large h]
    simp only [List.mem_append, List.mem_singleton]
    rintro d (hd | rfl)
    · exact ih d hd
    · exact Nat.mod_lt n (by decide)

theorem eq_zero_of_digits (h : ∀ d ∈ digits n, d = 0) : n = 0 := by
  induction n using digits.induct with
  | case1 n hn =>
    rw [digits_small hn] at h
    simpa using h
  | case2 n hn ih =>
    rw [digits_large hn] at h
    have := ih fun d hd => h d (List.mem_append_left _ hd)
    omega

theorem lt_pow_digits (n : Nat) : n < Nat.pow 10 (digits n).length := by
  induction n using digits.induct with
  | case1 n h =>
    rw [digits_small h]
    exact h
  | case2 n h ih =>
    rw [digits_large h, List.length_append]
    show n < Nat.pow 10 (digits (n / 10)).length * 10
    omega

theorem pow_digits_le (h : n ≠ 0) : Nat.pow 10 ((digits n).length - 1) ≤ n := by
  induction n using digits.induct with
  | case1 n hn =>
    rw [digits_small hn]
    exact Nat.pos_of_ne_zero h
  | case2 n hn ih =>
    have hlength : (digits (n / 10)).length = (digits (n / 10)).length - 1 + 1 := by
      have := List.length_pos_iff.mpr (digits_ne_nil (n / 10))
      omega
    have hrest := ih (by omega)
    rw [digits_large hn, List.length_append, List.length_singleton, Nat.add_sub_cancel, hlength]
    show Nat.pow 10 ((digits (n / 10)).length - 1) * 10 ≤ n
    omega

theorem digitChar_isDigit (h : d < 10) : Text.isAsciiDigit (digitChar d) = true := by
  have hall : ∀ d < 10, Text.isAsciiDigit (digitChar d) = true := by decide
  exact hall d h

theorem isDigit_of_mem_map {ds : List Nat} (h : ∀ d ∈ ds, d < 10) :
    ∀ c ∈ ds.map digitChar, Text.isAsciiDigit c = true := by
  intro c hc
  obtain ⟨d, hd, rfl⟩ := List.mem_map.mp hc
  exact digitChar_isDigit (h d hd)

theorem natChars_ne_nil (n : Nat) : natChars n ≠ [] := by
  simpa [natChars] using digits_ne_nil n

theorem natChars_digits (n : Nat) : ∀ c ∈ natChars n, Text.isAsciiDigit c = true :=
  isDigit_of_mem_map (digits_lt n)

theorem padded_digits (width n : Nat) : ∀ c ∈ padded width n, Text.isAsciiDigit c = true := by
  intro c hc
  obtain hc | hc := List.mem_append.mp hc
  · rw [List.eq_of_mem_replicate hc]
    rfl
  · exact natChars_digits n c hc

theorem mem_padded {c : Char} (h : c ∈ padded w n) : ∃ d < 10, c = digitChar d := by
  obtain h | h := List.mem_append.mp h
  · exact ⟨0, by decide, List.eq_of_mem_replicate h⟩
  · obtain ⟨d, hd, rfl⟩ := List.mem_map.mp h
    exact ⟨d, digits_lt n d hd, rfl⟩

theorem digitChar_toNat (h : d < 10) : (digitChar d).toNat = 48 + d := by
  have hall : ∀ d < 10, (digitChar d).toNat = 48 + d := by decide
  exact hall d h

theorem length_padded (hw : 0 < w) (h : n < Nat.pow 10 w) : (padded w n).length = w := by
  have hle : (digits n).length ≤ w := by
    obtain rfl | hn := Nat.eq_zero_or_pos n
    · rw [digits_small (by decide)]
      exact hw
    · by_contra hlt
      have hpow : Nat.pow 10 w ≤ Nat.pow 10 ((digits n).length - 1) :=
        Nat.pow_le_pow_right (by decide) (by omega)
      have := pow_digits_le hn.ne'
      omega
  simp [padded, natChars, hle]

theorem padded_one (h : n < 10) : padded 1 n = [digitChar n] := by
  simp [padded, natChars, digits_small h]

/-- The last digit of a padded numeral stands for the rest of the division by ten. -/
theorem padded_succ (hw : 0 < w) (n : Nat) :
    padded (w + 1) n = padded w (n / 10) ++ [digitChar (n % 10)] := by
  unfold padded natChars
  by_cases h : n < 10
  · have hzeros : List.replicate w '0' = List.replicate (w - 1) '0' ++ ['0'] := by
      rw [← List.replicate_succ', Nat.sub_add_cancel hw]
    rw [digits_small h, Nat.div_eq_of_lt h, digits_small (by decide : 0 < 10), Nat.mod_eq_of_lt h]
    simp only [List.map_cons, List.map_nil, List.length_singleton, Nat.add_sub_cancel, hzeros]
    rfl
  · rw [digits_large h]
    simp [List.length_append]

end Decimal

namespace Shortest

open Decimal

def Reaches (num den : Nat) (e : Int) : Prop :=
  0 < (overStep num den e).1 / (overStep num den e).2

theorem reaches_iff : Reaches num den e ↔
    0 < (overStep num den e).2 ∧ (overStep num den e).2 ≤ (overStep num den e).1 :=
  Nat.div_pos_iff

theorem overStep_of_nonneg (h : 0 ≤ e) :
    overStep num den e = (num, den * Nat.pow 10 e.toNat) := if_pos h

theorem overStep_of_neg (h : ¬ 0 ≤ e) :
    overStep num den e = (num * Nat.pow 10 (-e).toNat, den) := if_neg h

theorem pow_toNat_succ {j k : Int} (h : k.toNat = j.toNat + 1) :
    Nat.pow 10 k.toNat = Nat.pow 10 j.toNat * 10 := by
  rw [h]
  rfl

theorem Reaches.finer (h : Reaches num den e) : Reaches num den (e - 1) := by
  rw [reaches_iff] at *
  by_cases he : 0 ≤ e
  · by_cases he' : 0 ≤ e - 1
    · rw [overStep_of_nonneg he, pow_toNat_succ (j := e - 1) (by omega), ← Nat.mul_assoc] at h
      rw [overStep_of_nonneg he']
      dsimp only at *
      omega
    · obtain rfl : e = 0 := by omega
      rw [overStep_of_nonneg he] at h
      rw [overStep_of_neg he']
      have hone : den * Nat.pow 10 (0 : Int).toNat = den := Nat.mul_one den
      have hten : num * Nat.pow 10 (-(0 - 1 : Int)).toNat = num * 10 := rfl
      dsimp only at *
      omega
  · rw [overStep_of_neg he] at h
    rw [overStep_of_neg (by omega), pow_toNat_succ (k := -(e - 1)) (j := -e) (by omega),
      ← Nat.mul_assoc]
    dsimp only at *
    omega

theorem pow_pos (n : Nat) : 0 < Nat.pow 10 n := Nat.pow_pos (by decide)

/-- The step of the leading digit is not larger than the fraction. -/
theorem reaches_decade (hnum : 0 < num) (hden : 0 < den) : Reaches num den (decade num den) := by
  rw [reaches_iff]
  unfold decade
  by_cases h : den ≤ num
  · have hwhole : num / den ≠ 0 := Nat.pos_iff_ne_zero.mp (Nat.div_pos h hden)
    have hle := pow_digits_le hwhole
    have hpos := List.length_pos_iff.mpr (digits_ne_nil (num / den))
    rw [if_pos h, overStep_of_nonneg (by omega)]
    rw [show ((digits (num / den)).length - 1 : Int).toNat = (digits (num / den)).length - 1 by
      omega]
    refine ⟨Nat.mul_pos hden (pow_pos _), ?_⟩
    calc den * Nat.pow 10 ((digits (num / den)).length - 1)
        ≤ den * (num / den) := Nat.mul_le_mul_left _ hle
      _ ≤ num := Nat.mul_div_le num den
  · have hlt := lt_pow_digits ((den + num - 1) / num - 1)
    have hpos := List.length_pos_iff.mpr (digits_ne_nil ((den + num - 1) / num - 1))
    rw [if_neg h, overStep_of_neg (by omega)]
    generalize (digits ((den + num - 1) / num - 1)).length = k at *
    rw [show (-(-(k : Int))).toNat = k by omega]
    refine ⟨hden, ?_⟩
    have hceil : den ≤ num * ((den + num - 1) / num) := by
      have := Nat.div_add_mod (den + num - 1) num
      have := Nat.mod_lt (den + num - 1) hnum
      omega
    calc den ≤ num * ((den + num - 1) / num) := hceil
      _ ≤ num * Nat.pow 10 k := Nat.mul_le_mul_left _ (by omega)

theorem gridPoint?_pos {n : Neighbourhood} (h : Reaches n.value n.den e)
    (hc : n.gridPoint? tie e = some c) : 0 < c := by
  unfold Neighbourhood.gridPoint? at hc
  unfold Reaches at h
  dsimp only at hc
  split at hc
  · cases hc
  · obtain rfl := Option.some.inj hc
    exact h
  · obtain rfl := Option.some.inj hc
    exact Nat.succ_pos _
  · repeat' split at hc
    all_goals
      obtain rfl := Option.some.inj hc
      omega

theorem search_pos {n : Neighbourhood} (h : Reaches n.value n.den e) (tie : Tie)
    (more : Nat) : 0 < (n.search tie e more).1 := by
  induction more generalizing e with
  | zero => exact h
  | succ more ih =>
    rw [Neighbourhood.search]
    cases hc : n.gridPoint? tie e with
    | some c => exact gridPoint?_pos h hc
    | none => exact ih h.finer

theorem mem_of_mem_dropTrailingZeros {ds : List Nat} (h : d ∈ dropTrailingZeros ds) : d ∈ ds := by
  rw [dropTrailingZeros, List.mem_reverse] at h
  exact List.mem_reverse.mp ((List.dropWhile_sublist _).subset h)

theorem dropTrailingZeros_digits (h : 0 < n) : dropTrailingZeros (digits n) ≠ [] := by
  intro hnil
  rw [dropTrailingZeros, List.reverse_eq_nil_iff, List.dropWhile_eq_nil_iff] at hnil
  refine Nat.ne_of_gt h (eq_zero_of_digits fun d hd => ?_)
  simpa using hnil d (List.mem_reverse.mpr hd)

theorem decimal_of_ne_zero (hm : m ≠ 0) (tie : Tie) (q : Int) :
    ∃ n, 0 < n ∧ (decimal tie m q).1 = dropTrailingZeros (digits n) := by
  have hscale : 0 < (if 2 ≤ q then Nat.pow 2 (q - 2).toNat else 1) := by
    split
    · exact Nat.pow_pos (by decide)
    · decide
  have hden : 0 < (if 2 ≤ q then 1 else Nat.pow 2 (2 - q).toNat) := by
    split
    · decide
    · exact Nat.pow_pos (by decide)
  have hvalue : 0 < (neighbourhood m q).value := Nat.mul_pos (by omega) hscale
  refine ⟨_, search_pos (reaches_decade hvalue hden) tie 17, ?_⟩
  unfold decimal
  rw [if_neg hm]

theorem decimal_digits (tie : Tie) (m : Nat) (q : Int) : ∀ d ∈ (decimal tie m q).1, d < 10 := by
  by_cases hm : m = 0
  · simp [decimal, hm]
  · obtain ⟨n, -, h⟩ := decimal_of_ne_zero hm tie q
    rw [h]
    exact fun d hd => digits_lt n d (mem_of_mem_dropTrailingZeros hd)

theorem decimal_ne_nil (tie : Tie) (m : Nat) (q : Int) : (decimal tie m q).1 ≠ [] := by
  by_cases hm : m = 0
  · simp [decimal, hm]
  · obtain ⟨n, hn, h⟩ := decimal_of_ne_zero hm tie q
    rw [h]
    exact dropTrailingZeros_digits hn

end Shortest

end TenantStore
