import TenantStore.Proofs.Number.Rounding
import TenantStore.Proofs.Retries

/-!
# How often a call is made, and how long the pauses are

A call is made until an outcome is final or the attempts are used up, and a pause stands between
two calls. `retry_outcomes`: the outcomes alone say how many calls that are, the last outcome is
that of the whole, and each pause is the one that exact arithmetic gives, up to five roundings.
This ends where a pause has no number: after `lastPaused` attempts the power of two has none, and
where the time to begin with has none there is no second call. The last outcome is lost there
(`retry_outcome_lost`).
-/

namespace TenantStore

open Binary64

/-- What spreads a pause is a number between a half and three halves. -/
def Binary64.Spreads (x : Binary64) (factor : ℚ) : Prop :=
  x.Rounded 0 factor ∧ 1 / 2 ≤ factor ∧ factor ≤ 3 / 2

theorem Binary64.Spreads.isFinite {x : Binary64} {factor : ℚ} (h : x.Spreads factor) :
    x.isFinite = true := by
  obtain ⟨hrounded, -, hmost⟩ := h
  cases x with
  | finite => rfl
  | nan => simp [Rounded] at hrounded
  | infinite =>
    have hend : (2 : ℚ) ≤ 2 ^ (1023 - (0 : ℕ) : ℤ) := by
      calc (2 : ℚ) = 2 ^ (1 : ℤ) := (zpow_one _).symm
        _ ≤ _ := zpow_le_zpow_right₀ (by norm_num) (by norm_num)
    linarith [hrounded.2]

namespace RetryPolicy

variable {p : RetryPolicy} {attempt : ℕ} {i : ℤ} {seconds x : Binary64} {spread : ℕ → Binary64}

/-- The seconds of a pause in exact arithmetic: they double with each attempt, and are spread by a
factor. -/
def exactPause (p : RetryPolicy) (attempt : ℕ) (factor : ℚ) : ℚ :=
  p.backoffMs / 1000 * 2 ^ (attempt - 1) * factor

def lastPaused : ℕ := 1024

def HasBackoff (p : RetryPolicy) : Prop :=
  (float? p.backoffMs).isSome

-- ---------------------------------------------------------------------------
-- Which attempts a pause can follow
-- ---------------------------------------------------------------------------

theorem float?_eq_some : float? i = some x ↔ (ofInt i).isFinite = true ∧ ofInt i = x := by
  unfold float?
  dsimp only
  split <;> simp_all

theorem float?_of_le {n : ℕ} (h : n ≤ 2 ^ (lastPaused - 1)) : ∃ x, float? n = some x := by
  refine ⟨_, float?_eq_some.mpr ⟨?_, rfl⟩⟩
  obtain rfl | hpos := Nat.eq_zero_or_pos n
  · rfl
  · have hlow : (1 : ℚ) ≤ n := by exact_mod_cast hpos
    have hhigh : (n : ℚ) ≤ 2 ^ (lastPaused - 1) := by exact_mod_cast h
    refine isFinite_ofRatio Nat.one_pos ?_ ?_ false
    · rw [Nat.cast_one, div_one]
      calc (2 : ℚ) ^ (-1022 : ℤ) ≤ 2 ^ (0 : ℤ) := zpow_le_zpow_right₀ (by norm_num) (by norm_num)
        _ ≤ n := hlow
    · rw [Nat.cast_one, div_one]
      have hunit : 1 + unit < 2 := by norm_num [unit]
      calc (n : ℚ) * (1 + unit) < n * 2 := mul_lt_mul_of_pos_left hunit (by linarith)
        _ ≤ 2 ^ (lastPaused - 1) * 2 := by gcongr
        _ = 2 ^ lastPaused := pow_sub_one_mul (by decide) 2
        _ = 2 ^ (1024 : ℤ) := (zpow_natCast 2 lastPaused).symm

theorem hasBackoff_of_le (hms : 0 ≤ p.backoffMs) (h : p.backoffMs ≤ 2 ^ (lastPaused - 1)) :
    p.HasBackoff := by
  obtain ⟨n, hn⟩ := Int.eq_ofNat_of_zero_le hms
  rw [hn] at h
  obtain ⟨x, hx⟩ := float?_of_le (n := n) (by exact_mod_cast h)
  simp [HasBackoff, hn, hx]

theorem backoff?_eq_some : p.backoff? attempt = some seconds ↔ ∃ ms factor,
    float? p.backoffMs = some ms ∧ attempt - 1 < lastPaused ∧
      float? (Nat.pow 2 (attempt - 1) : ℕ) = some factor ∧
        seconds = (ms.divNat 1000).mul factor := by
  unfold backoff? lastPaused
  by_cases hlt : attempt - 1 < 1024
  · cases float? p.backoffMs with
    | none => simp
    | some ms =>
      cases float? (Nat.pow 2 (attempt - 1) : ℕ) with
      | none => simp [hlt]
      | some factor => simp [hlt, eq_comm]
  · simp [hlt]

theorem backoff?_isSome (p : RetryPolicy) (attempt : ℕ) :
    (p.backoff? attempt).isSome ↔ p.HasBackoff ∧ attempt ≤ lastPaused := by
  unfold HasBackoff
  simp only [Option.isSome_iff_exists, backoff?_eq_some]
  constructor
  · rintro ⟨_, ms, factor, hms, hlt, -⟩
    exact ⟨⟨ms, hms⟩, by unfold lastPaused at *; omega⟩
  · rintro ⟨⟨ms, hms⟩, hle⟩
    have hlt : attempt - 1 < lastPaused := by unfold lastPaused at *; omega
    have hpow : 2 ^ (attempt - 1) ≤ 2 ^ (lastPaused - 1) :=
      pow_le_pow_right₀ one_le_two (Nat.le_sub_one_of_lt hlt)
    obtain ⟨factor, hfactor⟩ := float?_of_le hpow
    exact ⟨_, ms, factor, hms, hlt, hfactor, rfl⟩

theorem pauses_iff (p : RetryPolicy) (n : ℕ) :
    p.Pauses n ↔ n ≤ 1 ∨ p.HasBackoff ∧ n ≤ lastPaused + 1 := by
  unfold Pauses
  simp only [backoff?_isSome]
  constructor
  · intro h
    obtain hn | hn := le_or_gt n 1
    · exact .inl hn
    · obtain ⟨hbackoff, hle⟩ := h (n - 1) (by omega) (by omega)
      exact .inr ⟨hbackoff, by omega⟩
  · rintro (hn | ⟨hbackoff, hle⟩) m hpos hlt
    · omega
    · exact ⟨hbackoff, by omega⟩

open Classical in
theorem isLeast_unpaused (p : RetryPolicy) :
    IsLeast {n | 0 < n ∧ p.backoff? n = none} (if p.HasBackoff then lastPaused + 1 else 1) := by
  simp only [← Option.not_isSome_iff_eq_none, backoff?_isSome]
  split
  · rename_i h
    refine ⟨⟨Nat.succ_pos _, fun hle => ?_⟩, fun n hn => ?_⟩
    · exact absurd hle.2 (Nat.not_succ_le_self _)
    · exact not_le.mp fun hle => hn.2 ⟨h, hle⟩
  · rename_i h
    exact ⟨⟨Nat.one_pos, fun hle => h hle.1⟩, fun n hn => hn.1⟩

-- ---------------------------------------------------------------------------
-- How long a pause is
-- ---------------------------------------------------------------------------

theorem rounded_float? (hi : 0 ≤ i) (h : float? i = some x) :
    x.Rounded 1 i ∧ x.isFinite = true := by
  obtain ⟨hfinite, rfl⟩ := float?_eq_some.mp h
  refine ⟨?_, hfinite⟩
  obtain ⟨n, rfl⟩ := Int.eq_ofNat_of_zero_le hi
  have hone : ((n : ℕ) / (1 : ℕ) : ℚ) = ((n : ℤ) : ℚ) := by simp
  rw [← hone]
  refine rounded_ofRatio Nat.one_pos ?_
  obtain rfl | hpos := Nat.eq_zero_or_pos n
  · exact .inl rfl
  · refine .inr ?_
    rw [Nat.cast_one, div_one]
    calc (2 : ℚ) ^ (-1022 : ℤ) ≤ 2 ^ (0 : ℤ) := zpow_le_zpow_right₀ (by norm_num) (by norm_num)
      _ ≤ n := by exact_mod_cast hpos

/-- What a thousandth is spread to is no smallest number. -/
theorem two_zpow_le {r : ℚ} (h : 1 / 2000 ≤ r) : (2 : ℚ) ^ (-1000 : ℤ) ≤ r := by
  calc (2 : ℚ) ^ (-1000 : ℤ) ≤ 2 ^ (-11 : ℤ) := zpow_le_zpow_right₀ (by norm_num) (by norm_num)
    _ ≤ 1 / 2000 := by norm_num
    _ ≤ r := h

/-- The integer, the power of two, the quotient and both products are rounded once each. -/
theorem rounded_pausesFor {factor : ℚ} (hms : 0 ≤ p.backoffMs)
    (hspread : (spread attempt).Spreads factor) (h : p.PausesFor spread attempt seconds) :
    seconds.Rounded 5 (p.exactPause attempt factor) := by
  obtain ⟨_, h, rfl⟩ := h
  obtain ⟨ms, power, hfloat, -, hpower, rfl⟩ := backoff?_eq_some.mp h
  obtain ⟨hmsRounded, hmsFinite⟩ := rounded_float? hms hfloat
  obtain ⟨hpowerRounded, hpowerFinite⟩ := rounded_float? (Int.natCast_nonneg _) hpower
  have hpow : (((Nat.pow 2 (attempt - 1) : ℕ) : ℤ) : ℚ) = 2 ^ (attempt - 1) := by
    exact_mod_cast rfl
  rw [hpow] at hpowerRounded
  have hone : (1 : ℚ) ≤ 2 ^ (attempt - 1) := one_le_pow₀ (by norm_num)
  have hnonneg : (0 : ℚ) ≤ p.backoffMs := by exact_mod_cast hms
  have hzero : (p.backoffMs : ℚ) = 0 ∨ (1 : ℚ) ≤ p.backoffMs := by
    obtain h | h := hms.eq_or_lt
    · exact .inl (by exact_mod_cast h.symm)
    · exact .inr (by exact_mod_cast h)
  -- no step comes to a number that is too small to be rounded well, unless all come to zero
  have hquotient (hge : (1 : ℚ) ≤ p.backoffMs) : (1 / 1000 : ℚ) ≤ p.backoffMs / (1000 : ℕ) := by
    push_cast
    linarith
  have hproduct (hge : (1 : ℚ) ≤ p.backoffMs) :
      (1 / 1000 : ℚ) ≤ p.backoffMs / (1000 : ℕ) * 2 ^ (attempt - 1) :=
    (hquotient hge).trans (le_mul_of_one_le_right (by positivity) hone)
  have hpause (hge : (1 : ℚ) ≤ p.backoffMs) :
      (1 / 2000 : ℚ) ≤ p.backoffMs / (1000 : ℕ) * 2 ^ (attempt - 1) * factor := by
    calc (1 / 2000 : ℚ) = 1 / 1000 * (1 / 2) := by norm_num
      _ ≤ _ := mul_le_mul (hproduct hge) hspread.2.1 (by norm_num) (by positivity)
  have hquotientRounded := hmsRounded.divNat hmsFinite (by norm_num) hnonneg (by norm_num) <|
    hzero.imp_right fun hge => two_zpow_le (le_trans (by norm_num) (hquotient hge))
  have hproductRounded := hquotientRounded.mul hpowerRounded hpowerFinite (by positivity)
    (by linarith) (by norm_num) <|
      hzero.imp (fun hz => by rw [hz, zero_div]) fun hge =>
        two_zpow_le (le_trans (by norm_num) (hproduct hge))
  have hpauseRounded := hproductRounded.mul hspread.1 hspread.isFinite (by positivity)
    hspread.2.1 (by norm_num) <|
      hzero.imp (fun hz => by rw [hz, zero_div, zero_mul]) fun hge => two_zpow_le (hpause hge)
  rw [exactPause]
  exact_mod_cast hpauseRounded

end RetryPolicy

namespace Program

open RetryPolicy

variable {Q α : Type}

/-- A run asked so many times, paused between two questions, and came to this. -/
structure Transcript.Paces {σ : Type} (t : Transcript Q σ α) (p : RetryPolicy) (factor : ℕ → ℚ)
    (q : Q) (n : ℕ) (r : Except Failure α) : Prop where
  questions : t.questions = List.replicate n q
  pauses : List.Forall₂ (fun i d => d.Rounded 5 (p.exactPause i (factor i)))
    (List.range' 1 (n - 1)) t.pauses
  result : t.result = r

theorem repeats_call (q : Q) (outcomes : ℕ → Except Failure α) (n : ℕ) :
    ((call q id).run (inTurn outcomes) n).Repeats q n 1 [] (id (outcomes n)) :=
  ⟨rfl, rfl, rfl, rfl⟩

open Classical in
/-- A call is made until its outcome is a value, cancellation or a failure that is not tried again,
or the attempts are used up. The last outcome is the result and a pause stands between two calls,
if the pauses have numbers; else the calls end where one has none, with a failure of its own. -/
theorem retry_outcomes (p : RetryPolicy) (hms : 0 ≤ p.backoffMs) (retryable : Failure → Bool)
    (label : String) (q : Q) (outcomes : ℕ → Except Failure α) (spread : ℕ → Binary64)
    (factor : ℕ → ℚ) (hspread : ∀ i, (spread i).Spreads (factor i)) :
    ∃ n, IsLeast {n | 0 < n ∧ (n = p.attempts ∨ IsFinal retryable (outcomes n))} n ∧
      ((n ≤ 1 ∨ p.HasBackoff ∧ n ≤ lastPaused + 1) →
        (((call q id).retryWith spread p retryable label).run (inTurn outcomes) 1).Paces p factor q
          n (outcomes n)) ∧
      (¬ (n ≤ 1 ∨ p.HasBackoff ∧ n ≤ lastPaused + 1) →
        (((call q id).retryWith spread p retryable label).run (inTurn outcomes) 1).Paces p factor q
          (if p.HasBackoff then lastPaused + 1 else 1) (.error .tooLarge)) := by
  have hlast : {n | 0 < n ∧ (n = p.attempts ∨ IsFinal retryable (outcomes n))}.Nonempty :=
    ⟨p.attempts, p.attempts_pos, .inl rfl⟩
  obtain ⟨n, hn⟩ : ∃ n, IsLeast _ n := ⟨_, isLeast_csInf hlast⟩
  obtain ⟨m, ds, r, hr, hpaced, hdecided, hoverrun⟩ :=
    repeats_retryWith spread label (repeats_call q outcomes) hn
  have hpauses : List.Forall₂ (fun i d => d.Rounded 5 (p.exactPause i (factor i)))
      (List.range' 1 (m - 1)) ds :=
    hpaced.imp fun i d h => rounded_pausesFor hms (hspread i) h
  simp only [← pauses_iff]
  refine ⟨n, hn, fun h => ?_, fun h => ?_⟩
  · obtain ⟨rfl, rfl⟩ := hdecided h
    exact ⟨hr.questions, hr.pauses ▸ hpauses, hr.result⟩
  · obtain ⟨-, hm, rfl⟩ := hoverrun h
    obtain rfl := hm.unique p.isLeast_unpaused
    exact ⟨hr.questions, hr.pauses ▸ hpauses, hr.result⟩

def down : Failure :=
  .store (.transport "down" .null .null)

theorem isFinal_down (α : Type) :
    ¬ IsFinal Failure.isRetryable (.error down : Except Failure α) := by
  simp [IsFinal, down, Retry.isFinal, Failure.isRetryable, StoreError.retryable]

theorem spreads_unspread (i : ℕ) : (Retry.unspread i).Spreads 1 := by
  have hone : Retry.unspread i = .finite false (Nat.pow 2 52) (-52) (by decide) := by rfl
  rw [hone]
  norm_num [Spreads, Rounded]

theorem retry_outcomes_again : (0 : ℤ) ≤ 200 ∧ (∀ i, (Retry.unspread i).Spreads 1) ∧
    ∃ d, d.Rounded 5 (1 / 5) ∧
      (((call () id).retryWith Retry.unspread ⟨3, 200⟩ Failure.isRetryable "call").run
        (inTurn fun n => if n = 1 then .error down else .ok n) 1).pauses = [d] := by
  refine ⟨by decide, spreads_unspread, ?_⟩
  obtain ⟨n, hn, hpaced, -⟩ := retry_outcomes ⟨3, 200⟩ (by decide) Failure.isRetryable "call" ()
    (fun n => if n = 1 then .error down else .ok n) Retry.unspread (fun _ => 1) spreads_unspread
  have htwo : n = 2 := by
    refine hn.unique ⟨⟨by decide, .inr trivial⟩, ?_⟩
    rintro m ⟨hpos, hm⟩
    by_contra hlt
    obtain rfl : m = 1 := by omega
    obtain hm | hm := hm
    · exact absurd hm (by decide)
    · exact isFinal_down ℕ hm
  subst htwo
  have hbackoff : RetryPolicy.HasBackoff ⟨3, 200⟩ := hasBackoff_of_le (by decide) <|
    calc (200 : ℤ) ≤ 2 ^ 8 := by norm_num
      _ ≤ 2 ^ (lastPaused - 1) := pow_le_pow_right₀ (by norm_num) (by decide)
  have hpauses := (hpaced (.inr ⟨hbackoff, by decide⟩)).pauses
  obtain ⟨d, rest, hd, hrest, heq⟩ := List.forall₂_cons_left_iff.mp hpauses
  obtain rfl := List.forall₂_nil_left_iff.mp hrest
  refine ⟨d, ?_, heq⟩
  norm_num [exactPause] at hd
  exact hd

/-- A call that is down for good may be made 1026 times. The power of two has no number after 1025
of them, and the failure that comes out is not that of the call. -/
theorem retry_outcome_lost :
    IsLeast {n | 0 < n ∧ (n = RetryPolicy.attempts ⟨1026, 0⟩ ∨
      IsFinal Failure.isRetryable (.error down : Except Failure Unit))} 1026 ∧
    ∃ t, t = ((call () id).retryWith Retry.unspread ⟨1026, 0⟩ Failure.isRetryable "call").run
        (inTurn fun _ => (.error down : Except Failure Unit)) 1 ∧
      t.questions = List.replicate 1025 () ∧ t.result = .error .tooLarge := by
  have hattempts : RetryPolicy.attempts ⟨1026, 0⟩ = 1026 := by rfl
  have hn : IsLeast {n | 0 < n ∧ (n = RetryPolicy.attempts ⟨1026, 0⟩ ∨
      IsFinal Failure.isRetryable (.error down : Except Failure Unit))} 1026 := by
    refine ⟨⟨by decide, .inl hattempts.symm⟩, ?_⟩
    rintro n ⟨-, rfl | hfinal⟩
    · exact hattempts.ge
    · exact absurd hfinal (isFinal_down _)
  refine ⟨hn, _, rfl, ?_⟩
  have hbackoff : RetryPolicy.HasBackoff ⟨1026, 0⟩ := hasBackoff_of_le le_rfl (by positivity)
  have hpauses : ¬ RetryPolicy.Pauses ⟨1026, 0⟩ 1026 := by
    rw [pauses_iff]
    rintro (h | ⟨-, h⟩)
    · exact absurd h (by decide)
    · exact absurd h (by decide)
  obtain ⟨m, ds, r, hr, -, -, hoverrun⟩ := repeats_retryWith Retry.unspread "call"
    (repeats_call () fun _ => .error down) hn
  obtain ⟨-, hm, rfl⟩ := hoverrun hpauses
  obtain rfl := hm.unique (isLeast_unpaused _)
  rw [if_pos hbackoff] at hr
  exact ⟨hr.questions, hr.result⟩

end Program

end TenantStore
