import Mathlib.Algebra.Order.Field.Power
import Mathlib.Tactic.FieldSimp
import Mathlib.Tactic.Linarith
import Mathlib.Tactic.NormNum
import Mathlib.Tactic.Positivity
import Mathlib.Tactic.Ring
import TenantStore.Number.Binary64

/-!
# Rounded arithmetic

`Rounded k r x`: the number `x` comes of the rational `r` by at most `k` roundings, each of which
changes a number by at most a unit in its 54th binary digit. One rounding makes a number of a
fraction (`rounded_ofRatio`), so products and quotients of rounded numbers are rounded once more
than their parts (`Rounded.mul`, `Rounded.divNat`).
-/

namespace TenantStore.Binary64

/-- The most that one rounding changes a number of magnitude one. -/
def unit : ℚ := 1 / 2 ^ 53

/-- The number comes of a rational that is not negative by so many roundings; it is infinite only
where the rational is beyond what numbers reach. -/
def Rounded (k : ℕ) (r : ℚ) : Binary64 → Prop
  | .nan => False
  | .infinite negative => negative = false ∧ (2 : ℚ) ^ (1023 - k : ℤ) ≤ r
  | .finite negative m q _ => negative = false ∧
      r * (1 - unit) ^ k ≤ m * (2 : ℚ) ^ q ∧ m * (2 : ℚ) ^ q ≤ r * (1 + unit) ^ k

variable {num den : ℕ} {q : ℤ}

-- ---------------------------------------------------------------------------
-- Fractions of naturals
-- ---------------------------------------------------------------------------

theorem cast_pow_toNat (h : 0 ≤ q) : ((Nat.pow 2 q.toNat : ℕ) : ℚ) = 2 ^ q := by
  rw [show Nat.pow 2 q.toNat = 2 ^ q.toNat from rfl, Nat.cast_pow, Nat.cast_ofNat, ← zpow_natCast,
    Int.toNat_of_nonneg h]

theorem scaled_pos (hden : 0 < den) (q : ℤ) : 0 < (scaled num den q).2 := by
  unfold scaled
  split
  · exact Nat.mul_pos hden (Nat.pow_pos (by decide))
  · exact hden

theorem scaled_eq (num den : ℕ) (q : ℤ) :
    ((scaled num den q).1 / (scaled num den q).2 : ℚ) = num / den * 2 ^ (-q) := by
  unfold scaled
  split
  · rename_i h
    rw [Nat.cast_mul, cast_pow_toNat h, zpow_neg, div_mul_eq_div_div]
    rfl
  · rename_i h
    rw [Nat.cast_mul, cast_pow_toNat (by omega)]
    ring

theorem fraction_pos (m : ℕ) (q : ℤ) : 0 < (fraction m q).2 := by
  unfold fraction
  split
  · exact Nat.one_pos
  · exact Nat.pow_pos (by decide)

theorem fraction_eq (m : ℕ) (q : ℤ) : ((fraction m q).1 / (fraction m q).2 : ℚ) = m * 2 ^ q := by
  unfold fraction
  split
  · rename_i h
    rw [Nat.cast_mul, cast_pow_toNat h, Nat.cast_one, div_one]
  · rename_i h
    rw [cast_pow_toNat (by omega), zpow_neg, div_inv_eq_mul]

-- ---------------------------------------------------------------------------
-- One rounding
-- ---------------------------------------------------------------------------

theorem roundEven_near (num : ℕ) (hden : 0 < den) :
    (num / den : ℚ) - 1 / 2 ≤ roundEven num den ∧ (roundEven num den : ℚ) ≤ num / den + 1 / 2 := by
  have hd : (0 : ℚ) < den := Nat.cast_pos.mpr hden
  have hsplit : (num : ℚ) = den * (num / den : ℕ) + (num % den : ℕ) := by
    exact_mod_cast (Nat.div_add_mod num den).symm
  have hlt : ((num % den : ℕ) : ℚ) < den := Nat.cast_lt.mpr (Nat.mod_lt num hden)
  have hge : (0 : ℚ) ≤ (num % den : ℕ) := Nat.cast_nonneg _
  have hquot : (num / den : ℚ) = (num / den : ℕ) + (num % den : ℕ) / den := by
    rw [hsplit]
    field_simp
  have down (h : 2 * (num % den) ≤ den) : ((num % den : ℕ) : ℚ) / den ≤ 1 / 2 := by
    have : (2 * (num % den : ℕ) : ℚ) ≤ den := by exact_mod_cast h
    rw [div_le_iff₀ hd]
    linarith
  have up (h : den ≤ 2 * (num % den)) : 1 / 2 ≤ ((num % den : ℕ) : ℚ) / den := by
    have : (den : ℚ) ≤ 2 * (num % den : ℕ) := by exact_mod_cast h
    rw [le_div_iff₀ hd]
    linarith
  have hone : ((num % den : ℕ) : ℚ) / den < 1 := (div_lt_one hd).mpr hlt
  have hzero : 0 ≤ ((num % den : ℕ) : ℚ) / den := div_nonneg hge hd.le
  rw [hquot]
  unfold roundEven
  dsimp only
  split
  · have := down (by omega)
    constructor <;> linarith
  · split
    · have := up (by omega)
      push_cast
      constructor <;> linarith
    · have := down (by omega)
      have := up (by omega)
      split
      · constructor <;> linarith
      · push_cast
        constructor <;> linarith

/-- At the exponent that is chosen for it, a fraction has 53 digits before the point. -/
theorem exponentFor_spec (hnum : 0 < num) (hden : 0 < den)
    (hnormal : (2 : ℚ) ^ (-1022 : ℤ) ≤ num / den) :
    (2 : ℚ) ^ 52 ≤ num / den * 2 ^ (-exponentFor num den) ∧
      (num / den * 2 ^ (-exponentFor num den) : ℚ) < 2 ^ 53 ∧ -1074 ≤ exponentFor num den := by
  have hd : (0 : ℚ) < den := Nat.cast_pos.mpr hden
  have hn : (0 : ℚ) < num := Nat.cast_pos.mpr hnum
  have hx : (0 : ℚ) < num / den := div_pos hn hd
  set guess : ℤ := (Nat.log2 num : ℤ) - (Nat.log2 den : ℤ) - 52 with hguess
  have num_le : (2 : ℚ) ^ (Nat.log2 num : ℤ) ≤ num := by
    rw [zpow_natCast]
    exact_mod_cast Nat.log2_self_le hnum.ne'
  have lt_num : (num : ℚ) < 2 ^ (Nat.log2 num + 1 : ℤ) := by
    exact_mod_cast (Nat.lt_log2_self (n := num))
  have den_le : (2 : ℚ) ^ (Nat.log2 den : ℤ) ≤ den := by
    rw [zpow_natCast]
    exact_mod_cast Nat.log2_self_le hden.ne'
  have lt_den : (den : ℚ) < 2 ^ (Nat.log2 den + 1 : ℤ) := by
    exact_mod_cast (Nat.lt_log2_self (n := den))
  have two_ne : (2 : ℚ) ≠ 0 := by norm_num
  -- the logarithms are right up to one binary digit
  have low : (2 : ℚ) ^ (51 : ℤ) ≤ num / den * 2 ^ (-guess) := by
    rw [div_mul_eq_mul_div, le_div_iff₀ hd]
    calc (2 : ℚ) ^ (51 : ℤ) * den ≤ 2 ^ (51 : ℤ) * 2 ^ (Nat.log2 den + 1 : ℤ) := by gcongr
      _ = 2 ^ (Nat.log2 num : ℤ) * 2 ^ (-guess) := by
        rw [← zpow_add₀ two_ne, ← zpow_add₀ two_ne]
        congr 1
        omega
      _ ≤ num * 2 ^ (-guess) := by gcongr
  have high : (num / den * 2 ^ (-guess) : ℚ) < 2 ^ (53 : ℤ) := by
    rw [div_mul_eq_mul_div, div_lt_iff₀ hd]
    calc (num : ℚ) * 2 ^ (-guess) < 2 ^ (Nat.log2 num + 1 : ℤ) * 2 ^ (-guess) := by gcongr
      _ = 2 ^ (53 : ℤ) * 2 ^ (Nat.log2 den : ℤ) := by
        rw [← zpow_add₀ two_ne, ← zpow_add₀ two_ne]
        congr 1
        omega
      _ ≤ 2 ^ (53 : ℤ) * den := by gcongr
  have small : (scaled num den guess).1 / (scaled num den guess).2 < Nat.pow 2 52 ↔
      (num / den * 2 ^ (-guess) : ℚ) < 2 ^ (52 : ℤ) := by
    have hb : 0 < (scaled num den guess).2 := scaled_pos hden guess
    rw [← scaled_eq, div_lt_iff₀ (Nat.cast_pos.mpr hb), Nat.div_lt_iff_lt_mul hb]
    norm_cast
  have step : (num / den * 2 ^ (-(guess - 1)) : ℚ) = num / den * 2 ^ (-guess) * 2 := by
    rw [show -(guess - 1) = -guess + 1 by ring, zpow_add₀ two_ne, zpow_one, mul_assoc]
  obtain ⟨e, he, hlow, hhigh⟩ : ∃ e, exponentFor num den = max e (-1074) ∧
      (2 : ℚ) ^ (52 : ℤ) ≤ num / den * 2 ^ (-e) ∧ (num / den * 2 ^ (-e) : ℚ) < 2 ^ (53 : ℤ) := by
    by_cases h : (scaled num den guess).1 / (scaled num den guess).2 < Nat.pow 2 52
    · refine ⟨guess - 1, ?_, ?_, ?_⟩
      · show max (if (scaled num den guess).1 / (scaled num den guess).2 < Nat.pow 2 52
          then guess - 1 else guess) (-1074) = _
        rw [if_pos h]
      · rw [step]
        norm_num at low ⊢
        linarith
      · rw [step]
        have := small.mp h
        norm_num at this ⊢
        linarith
    · refine ⟨guess, ?_, not_lt.mp (small.not.mp h), high⟩
      show max (if (scaled num den guess).1 / (scaled num den guess).2 < Nat.pow 2 52
        then guess - 1 else guess) (-1074) = _
      rw [if_neg h]
  have hmin : -1074 ≤ e := by
    by_contra hlt
    have hle : (2 : ℚ) ^ (1022 + 53 : ℤ) ≤ 2 ^ (-e) := zpow_le_zpow_right₀ (by norm_num) (by omega)
    have : (2 : ℚ) ^ (53 : ℤ) ≤ num / den * 2 ^ (-e) := by
      calc (2 : ℚ) ^ (53 : ℤ) = 2 ^ (-1022 : ℤ) * 2 ^ (1022 + 53 : ℤ) := by
            rw [← zpow_add₀ two_ne]
            norm_num
        _ ≤ num / den * 2 ^ (-e) := by gcongr
    linarith
  rw [he, max_eq_left hmin]
  exact ⟨by exact_mod_cast hlow, by exact_mod_cast hhigh, hmin⟩

/-- A fraction in the normal range is rounded to a full significand, before its exponent is looked
at. -/
theorem ofRatio_ofPair (hnum : 0 < num) (hden : 0 < den)
    (hnormal : (2 : ℚ) ^ (-1022 : ℤ) ≤ num / den) (negative : Bool) :
    ∃ m q, ofRatio negative num den = ofPair negative m q ∧ Nat.pow 2 52 ≤ m ∧ m < Nat.pow 2 53 ∧
      -1074 ≤ q ∧ num / den * (1 - unit) ≤ (m * 2 ^ q : ℚ) ∧
      (m * 2 ^ q : ℚ) ≤ num / den * (1 + unit) := by
  obtain ⟨hlow, hhigh, hmin⟩ := exponentFor_spec hnum hden hnormal
  obtain ⟨e, he⟩ : ∃ e, exponentFor num den = e := ⟨_, rfl⟩
  have two_ne : (2 : ℚ) ≠ 0 := by norm_num
  have hpos : 0 < (scaled num den e).2 := scaled_pos hden e
  obtain ⟨hdown, hup⟩ := roundEven_near (scaled num den e).1 hpos
  rw [he] at hlow hhigh hmin
  rw [scaled_eq] at hdown hup
  -- the significand is a half away at most, which is little beside 53 digits
  have hback : (num / den * 2 ^ (-e) * 2 ^ e : ℚ) = num / den := by
    rw [mul_assoc, ← zpow_add₀ two_ne, neg_add_cancel, zpow_zero, mul_one]
  set m := roundEven (scaled num den e).1 (scaled num den e).2 with hm
  have hhalf : (1 / 2 : ℚ) ≤ num / den * 2 ^ (-e) * unit := by
    unfold unit
    linarith
  have hnear : num / den * (1 - unit) ≤ (m * 2 ^ e : ℚ) ∧
      (m * 2 ^ e : ℚ) ≤ num / den * (1 + unit) := by
    have hpos : (0 : ℚ) ≤ 2 ^ e := by positivity
    rw [← hback]
    constructor
    · calc (num / den * 2 ^ (-e) * 2 ^ e * (1 - unit) : ℚ)
          = (num / den * 2 ^ (-e) - num / den * 2 ^ (-e) * unit) * 2 ^ e := by ring
        _ ≤ m * 2 ^ e := mul_le_mul_of_nonneg_right (by linarith) hpos
    · calc (m * 2 ^ e : ℚ) ≤ (num / den * 2 ^ (-e) + num / den * 2 ^ (-e) * unit) * 2 ^ e :=
            mul_le_mul_of_nonneg_right (by linarith) hpos
        _ = num / den * 2 ^ (-e) * 2 ^ e * (1 + unit) := by ring
  have hfull : Nat.pow 2 52 ≤ m := by
    by_contra hlt
    have : (m : ℚ) ≤ 2 ^ 52 - 1 := by
      have : m + 1 ≤ 2 ^ 52 := not_le.mp hlt
      exact le_sub_iff_add_le.mpr (by exact_mod_cast this)
    linarith
  have hle : m ≤ Nat.pow 2 53 := by
    by_contra hlt
    have : (2 ^ 53 + 1 : ℚ) ≤ m := by exact_mod_cast not_le.mp hlt
    linarith
  have hrounded : ofRatio negative num den = if m = Nat.pow 2 53
      then ofPair negative (Nat.pow 2 52) (e + 1) else ofPair negative m e := by
    unfold ofRatio
    rw [if_neg hnum.ne']
    simp only [he, hm]
  by_cases h : m = Nat.pow 2 53
  · refine ⟨Nat.pow 2 52, e + 1, by rw [hrounded, if_pos h], Nat.le_refl _, by decide, by omega, ?_⟩
    have hcarry : ((Nat.pow 2 52 : ℕ) * 2 ^ (e + 1) : ℚ) = m * 2 ^ e := by
      rw [h, zpow_add_one₀ two_ne]
      norm_num
      ring
    rwa [hcarry]
  · exact ⟨m, e, by rw [hrounded, if_neg h], hfull, lt_of_le_of_ne hle h, hmin, hnear⟩

theorem ofPair_overflow {m : ℕ} (hm : Nat.pow 2 52 ≤ m) (hm' : m < Nat.pow 2 53)
    (hq : -1074 ≤ q) (h : ¬ Canonical m q) : (2 : ℚ) ^ (1024 : ℤ) ≤ m * 2 ^ q := by
  have hlarge : 972 ≤ q := by
    by_contra hlt
    exact h ⟨hm', hq, by omega, .inl hm⟩
  have hm : (2 : ℚ) ^ (52 : ℤ) ≤ m := by exact_mod_cast hm
  calc (2 : ℚ) ^ (1024 : ℤ) = 2 ^ (52 : ℤ) * 2 ^ (972 : ℤ) := by
        rw [← zpow_add₀ (by norm_num)]
        norm_num
    _ ≤ m * 2 ^ q := by
        gcongr
        norm_num

theorem rounded_ofRatio (hden : 0 < den) (h : num = 0 ∨ (2 : ℚ) ^ (-1022 : ℤ) ≤ num / den) :
    Rounded 1 (num / den) (ofRatio false num den) := by
  obtain rfl | hnormal := h
  · have hzero : ofRatio false 0 den = .finite false 0 (-1074) (by decide) := by rfl
    rw [hzero]
    simp [Rounded]
  · have hnum : 0 < num := by
      refine Nat.pos_of_ne_zero ?_
      rintro rfl
      rw [Nat.cast_zero, zero_div] at hnormal
      exact absurd hnormal (not_le.mpr (by positivity))
    obtain ⟨m, q, heq, hm, hm', hq, hlow, hhigh⟩ := ofRatio_ofPair hnum hden hnormal false
    rw [heq, ofPair]
    split
    · exact ⟨rfl, by rwa [pow_one], by rwa [pow_one]⟩
    · rename_i hover
      refine ⟨rfl, ?_⟩
      have hlarge := (ofPair_overflow hm hm' hq hover).trans hhigh
      have hunit : (1 + unit : ℚ) ≤ 4 := by norm_num [unit]
      have hr : (0 : ℚ) ≤ num / den := by positivity
      refine le_of_mul_le_mul_right ?_ (four_pos : (0 : ℚ) < 4)
      calc (2 : ℚ) ^ (1023 - (1 : ℕ) : ℤ) * 4 = 2 ^ (1022 : ℤ) * 2 ^ (2 : ℤ) := by norm_num
        _ = 2 ^ (1024 : ℤ) := by
          rw [← zpow_add₀ (by norm_num)]
          norm_num
        _ ≤ num / den * 4 := hlarge.trans (mul_le_mul_of_nonneg_left hunit hr)

/-- What is clearly below the first number that is missing is finite. -/
theorem isFinite_ofRatio (hden : 0 < den) (hnormal : (2 : ℚ) ^ (-1022 : ℤ) ≤ num / den)
    (h : (num / den * (1 + unit) : ℚ) < 2 ^ (1024 : ℤ)) (negative : Bool) :
    (ofRatio negative num den).isFinite = true := by
  have hnum : 0 < num := by
    refine Nat.pos_of_ne_zero ?_
    rintro rfl
    rw [Nat.cast_zero, zero_div] at hnormal
    exact absurd hnormal (not_le.mpr (by positivity))
  obtain ⟨m, q, heq, hm, hm', hq, -, hhigh⟩ := ofRatio_ofPair hnum hden hnormal negative
  rw [heq, ofPair]
  split
  · rfl
  · rename_i hover
    exact absurd (ofPair_overflow hm hm' hq hover) (not_le.mpr (lt_of_le_of_lt hhigh h))

-- ---------------------------------------------------------------------------
-- Several roundings
-- ---------------------------------------------------------------------------

section
variable {k l : ℕ} {r s v : ℚ} {x y : Binary64}

theorem unit_pos : 0 < unit := by norm_num [unit]

theorem half_le_one_sub_unit : 1 / 2 ≤ 1 - unit := by norm_num [unit]

theorem one_add_unit_le_two : 1 + unit ≤ 2 := by norm_num [unit]

theorem one_sub_unit_pos : 0 < 1 - unit := lt_of_lt_of_le (by norm_num) half_le_one_sub_unit

theorem le_pow_one_sub_unit (h : k ≤ 20) : (2 : ℚ) ^ (-20 : ℤ) ≤ (1 - unit) ^ k := by
  calc (2 : ℚ) ^ (-20 : ℤ) = (1 / 2) ^ 20 := by norm_num
    _ ≤ (1 / 2) ^ k := pow_le_pow_of_le_one (by norm_num) (by norm_num) h
    _ ≤ (1 - unit) ^ k := pow_le_pow_left₀ (by norm_num) half_le_one_sub_unit k

/-- What is rounded a few times stays in the normal range, unless it is near its end. -/
theorem normal_of_rounded (hlow : r * (1 - unit) ^ k ≤ v) (hfew : k ≤ 20)
    (h : (2 : ℚ) ^ (-1000 : ℤ) ≤ r) : (2 : ℚ) ^ (-1022 : ℤ) ≤ v := by
  calc (2 : ℚ) ^ (-1022 : ℤ) ≤ 2 ^ (-1000 : ℤ) * 2 ^ (-20 : ℤ) := by
        rw [← zpow_add₀ (by norm_num)]
        exact zpow_le_zpow_right₀ (by norm_num) (by norm_num)
    _ ≤ r * (1 - unit) ^ k :=
      mul_le_mul h (le_pow_one_sub_unit hfew) (by positivity) (le_trans (by positivity) h)
    _ ≤ v := hlow

theorem fraction_eq_zero {m : ℕ} (h : (m * 2 ^ q : ℚ) ≤ 0) : (fraction m q).1 = 0 := by
  have hq : (0 : ℚ) < 2 ^ q := by positivity
  have hm : (m : ℚ) ≤ 0 := le_of_mul_le_mul_right (by rwa [zero_mul]) hq
  obtain rfl : m = 0 := by exact_mod_cast le_antisymm hm (Nat.cast_nonneg m)
  unfold fraction
  split
  · exact Nat.zero_mul _
  · rfl

theorem Rounded.again (h : Rounded 1 v x) (hr : 0 ≤ r) (hlow : r * (1 - unit) ^ k ≤ v)
    (hhigh : v ≤ r * (1 + unit) ^ k) : Rounded (k + 1) r x := by
  cases x with
  | nan => exact h
  | infinite negative =>
    refine ⟨h.1, ?_⟩
    have hpow : (1 + unit) ^ k ≤ 2 ^ (k : ℤ) := by
      rw [zpow_natCast]
      exact pow_le_pow_left₀ (by linarith [unit_pos]) one_add_unit_le_two k
    refine le_of_mul_le_mul_right ?_ (by positivity : (0 : ℚ) < 2 ^ (k : ℤ))
    calc (2 : ℚ) ^ (1023 - (k + 1 : ℕ) : ℤ) * 2 ^ (k : ℤ) = 2 ^ (1023 - (1 : ℕ) : ℤ) := by
          rw [← zpow_add₀ (by norm_num), Nat.cast_add, ← sub_sub, sub_right_comm, sub_add_cancel]
      _ ≤ v := h.2
      _ ≤ r * 2 ^ (k : ℤ) := hhigh.trans (mul_le_mul_of_nonneg_left hpow hr)
  | finite negative m q hc =>
    obtain ⟨hsign, hdown, hup⟩ := h
    rw [pow_one] at hdown hup
    refine ⟨hsign, ?_, ?_⟩
    · calc r * (1 - unit) ^ (k + 1) = r * (1 - unit) ^ k * (1 - unit) := by ring
        _ ≤ v * (1 - unit) := mul_le_mul_of_nonneg_right hlow one_sub_unit_pos.le
        _ ≤ m * 2 ^ q := hdown
    · calc (m * 2 ^ q : ℚ) ≤ v * (1 + unit) := hup
        _ ≤ r * (1 + unit) ^ k * (1 + unit) :=
          mul_le_mul_of_nonneg_right hhigh (by linarith [unit_pos])
        _ = r * (1 + unit) ^ (k + 1) := by ring

/-- The product of two rounded numbers is rounded once more, if one of them is at least a half and
the product is none of the smallest numbers. -/
theorem Rounded.mul (hx : Rounded k r x) (hy : Rounded l s y) (hfinite : y.isFinite = true)
    (hr : 0 ≤ r) (hs : 1 / 2 ≤ s) (hfew : k + l ≤ 20)
    (hrange : r = 0 ∨ (2 : ℚ) ^ (-1000 : ℤ) ≤ r * s) : Rounded (k + l + 1) (r * s) (x.mul y) := by
  have hs0 : 0 < s := by linarith
  cases y with
  | nan | infinite => cases hfinite
  | finite negative n p hc =>
    obtain ⟨rfl, hdown', hup'⟩ := hy
    have hpos : (0 : ℚ) < n * 2 ^ p :=
      lt_of_lt_of_le (mul_pos hs0 (pow_pos one_sub_unit_pos l)) hdown'
    cases x with
    | nan => exact hx
    | infinite negative =>
      obtain ⟨rfl, hlarge⟩ := hx
      have hn : n ≠ 0 := by
        rintro rfl
        simp at hpos
      have heq : Binary64.mul (.infinite false) (.finite false n p hc) = .infinite false := by
        simp [Binary64.mul, isZero, isNegative, hn]
      rw [heq]
      refine ⟨rfl, ?_⟩
      calc (2 : ℚ) ^ (1023 - (k + l + 1 : ℕ) : ℤ) ≤ 2 ^ (1023 - k - 1 : ℤ) :=
            zpow_le_zpow_right₀ (by norm_num) (by push_cast; omega)
        _ = 2 ^ (1023 - k : ℤ) * (1 / 2) := by
          rw [zpow_sub_one₀ (by norm_num)]
          norm_num
        _ ≤ r * s := mul_le_mul hlarge hs (by norm_num) hr
    | finite negative m q hc' =>
      obtain ⟨rfl, hdown, hup⟩ := hx
      have hb := fraction_pos m q
      have hd := fraction_pos n p
      have heq : (((fraction m q).1 * (fraction n p).1 : ℕ) /
          ((fraction m q).2 * (fraction n p).2 : ℕ) : ℚ) = m * 2 ^ q * (n * 2 ^ p) := by
        rw [Nat.cast_mul, Nat.cast_mul, mul_div_mul_comm, fraction_eq, fraction_eq]
      have hlow : r * s * (1 - unit) ^ (k + l) ≤ m * 2 ^ q * (n * 2 ^ p) := by
        calc r * s * (1 - unit) ^ (k + l) = r * (1 - unit) ^ k * (s * (1 - unit) ^ l) := by ring
          _ ≤ m * 2 ^ q * (n * 2 ^ p) := mul_le_mul hdown hdown'
            (mul_nonneg hs0.le (pow_pos one_sub_unit_pos l).le) (by positivity)
      have hhigh : (m * 2 ^ q * (n * 2 ^ p) : ℚ) ≤ r * s * (1 + unit) ^ (k + l) := by
        have : 0 < 1 + unit := by linarith [unit_pos]
        calc (m * 2 ^ q * (n * 2 ^ p) : ℚ) ≤ r * (1 + unit) ^ k * (s * (1 + unit) ^ l) :=
              mul_le_mul hup hup' hpos.le (by positivity)
          _ = r * s * (1 + unit) ^ (k + l) := by ring
      have hone : Rounded 1 (m * 2 ^ q * (n * 2 ^ p))
          (ofRatio false ((fraction m q).1 * (fraction n p).1)
            ((fraction m q).2 * (fraction n p).2)) := by
        rw [← heq]
        refine rounded_ofRatio (Nat.mul_pos hb hd) ?_
        obtain rfl | hnormal := hrange
        · rw [zero_mul] at hup
          exact .inl (by rw [fraction_eq_zero hup, Nat.zero_mul])
        · exact .inr (heq ▸ normal_of_rounded hlow hfew hnormal)
      exact hone.again (by positivity) hlow hhigh

theorem Rounded.divNat {n : ℕ} (hx : Rounded k r x) (hfinite : x.isFinite = true) (hn : 0 < n)
    (hr : 0 ≤ r) (hfew : k ≤ 20) (hrange : r = 0 ∨ (2 : ℚ) ^ (-1000 : ℤ) ≤ r / n) :
    Rounded (k + 1) (r / n) (x.divNat n) := by
  have hn' : (0 : ℚ) < n := Nat.cast_pos.mpr hn
  cases x with
  | nan | infinite => cases hfinite
  | finite negative m q hc =>
    obtain ⟨rfl, hdown, hup⟩ := hx
    have heq : ((fraction m q).1 / ((fraction m q).2 * n : ℕ) : ℚ) = m * 2 ^ q / n := by
      rw [Nat.cast_mul, div_mul_eq_div_div, fraction_eq]
    have hlow : r / n * (1 - unit) ^ k ≤ m * 2 ^ q / n := by
      rw [div_mul_eq_mul_div]
      exact div_le_div_of_nonneg_right hdown hn'.le
    have hhigh : (m * 2 ^ q / n : ℚ) ≤ r / n * (1 + unit) ^ k := by
      rw [div_mul_eq_mul_div]
      exact div_le_div_of_nonneg_right hup hn'.le
    have hone : Rounded 1 (m * 2 ^ q / n)
        (ofRatio false (fraction m q).1 ((fraction m q).2 * n)) := by
      rw [← heq]
      refine rounded_ofRatio (Nat.mul_pos (fraction_pos m q) hn) ?_
      obtain rfl | hnormal := hrange
      · rw [zero_mul] at hup
        exact .inl (fraction_eq_zero hup)
      · exact .inr (heq ▸ normal_of_rounded hlow hfew hnormal)
    exact hone.again (by positivity) hlow hhigh

end

end TenantStore.Binary64
