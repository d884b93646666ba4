import Mathlib.Data.List.Basic
import TenantStore.Uuid.Reading

/-!
# Identifiers that are written and read again

The text of an identifier is read as the identifier: its five groups are found again between the
hyphens, and its digits stand for the same number (`ofText_text`).
-/

namespace TenantStore.Uuid

-- ---------------------------------------------------------------------------
-- Digits
-- ---------------------------------------------------------------------------

theorem hexValue?_hexChar {d : Nat} (h : d < 16) : hexValue? (hexChar d) = some d := by
  have hall : ∀ d < 16, hexValue? (hexChar d) = some d := by decide
  exact hall d h

theorem length_hexDigits (width n : Nat) : (hexDigits width n).length = width := by
  induction width generalizing n with
  | zero => rfl
  | succ width ih => simp [hexDigits, ih]

theorem mem_hexDigits {width n : Nat} {c : Char} (h : c ∈ hexDigits width n) :
    ∃ d < 16, c = hexChar d := by
  induction width generalizing n with
  | zero => cases h
  | succ width ih =>
    obtain h | h := List.mem_append.mp h
    · exact ih h
    · exact ⟨_, Nat.mod_lt n (by decide), List.mem_singleton.mp h⟩

theorem ofHexDigits_hexDigits (width n : Nat) :
    ofHexDigits (hexDigits width n) = n % Nat.pow 16 width := by
  induction width generalizing n with
  | zero => simp [hexDigits, ofHexDigits, Nat.mod_one]
  | succ width ih =>
    have hpow : Nat.pow 16 (width + 1) = 16 * Nat.pow 16 width := Nat.mul_comm _ _
    unfold ofHexDigits at ih ⊢
    rw [hexDigits, List.foldl_append, ih, List.foldl_cons, List.foldl_nil,
      hexValue?_hexChar (Nat.mod_lt n (by decide)), Option.getD_some, hpow, Nat.mod_mul]
    omega

theorem ofNat_hexDigits (u : Uuid) : ofNat (ofHexDigits (hexDigits 32 u.bits.toNat)) = u := by
  have hlt : u.bits.toNat < Nat.pow 16 32 := Nat.lt_of_lt_of_eq u.bits.isLt (by decide)
  rw [ofHexDigits_hexDigits, Nat.mod_eq_of_lt hlt, ofNat, BitVec.ofNat_toNat, BitVec.setWidth_eq]

-- ---------------------------------------------------------------------------
-- Groups
-- ---------------------------------------------------------------------------

def AllHex (cs : List Char) : Prop :=
  ∀ c ∈ cs, (hexValue? c).isSome = true

theorem AllHex.of_hexDigits (width n : Nat) : AllHex (hexDigits width n) := by
  intro c hc
  obtain ⟨d, hd, rfl⟩ := mem_hexDigits hc
  simp [hexValue?_hexChar hd]

theorem AllHex.ne_hyphen {cs : List Char} (h : AllHex cs) : ∀ c ∈ cs, c ≠ '-' := by
  rintro c hc rfl
  exact absurd (h _ hc) (by decide)

theorem groups_cons {c : Char} (hc : c ≠ '-') (hg : groups cs = g :: gs) :
    groups (c :: cs) = (c :: g) :: gs := by
  simp [groups, hg]

theorem groups_alone {g : List Char} (hg : ∀ c ∈ g, c ≠ '-') : groups g = [g] := by
  induction g with
  | nil => rfl
  | cons c g ih =>
    obtain ⟨hc, hg⟩ := List.forall_mem_cons.mp hg
    exact groups_cons hc (ih hg)

theorem groups_append {g : List Char} (hg : ∀ c ∈ g, c ≠ '-') (rest : List Char) :
    groups (g ++ '-' :: rest) = g :: groups rest := by
  induction g with
  | nil => rfl
  | cons c g ih =>
    obtain ⟨hc, hg⟩ := List.forall_mem_cons.mp hg
    exact groups_cons hc (ih hg)

theorem badCharacter?_eq_none {cs : List Char}
    (h : ∀ c ∈ cs, c = '-' ∨ (hexValue? c).isSome = true) (n : Nat) :
    badCharacter? n cs = none := by
  induction cs generalizing n with
  | nil => rfl
  | cons c cs ih =>
    obtain ⟨hc, hcs⟩ := List.forall_mem_cons.mp h
    simp only [badCharacter?, Bool.or_eq_true, beq_iff_eq, hc, if_true]
    exact ih hcs _

-- ---------------------------------------------------------------------------
-- The text
-- ---------------------------------------------------------------------------

theorem chars_groups (u : Uuid) : ∃ a b c d e : List Char,
    u.chars = a ++ '-' :: (b ++ '-' :: (c ++ '-' :: (d ++ '-' :: e))) ∧
    hexDigits 32 u.bits.toNat = a ++ (b ++ (c ++ (d ++ e))) ∧
    [a, b, c, d, e].map List.length = groupLengths := by
  obtain ⟨ds, hds⟩ : ∃ ds, hexDigits 32 u.bits.toNat = ds := ⟨_, rfl⟩
  have hlength : ds.length = 32 := hds ▸ length_hexDigits 32 _
  refine ⟨ds.take 8, (ds.drop 8).take 4, (ds.drop 12).take 4, (ds.drop 16).take 4, ds.drop 20,
    by simp [chars, hds], ?_, by simp [groupLengths, hlength]⟩
  have next (n : Nat) : (ds.drop n).take 4 ++ ds.drop (n + 4) = ds.drop n := by
    rw [← List.drop_drop]
    exact List.take_append_drop 4 _
  rw [hds, next 16, next 12, next 8, List.take_append_drop]

theorem unwrapped?_eq_none {c : Char} {cs : List Char} (h : (hexValue? c).isSome = true) :
    unwrapped? (c :: cs) = none := by
  have hlead : ¬ lead.isPrefixOf (c :: cs) = true := by
    intro hprefix
    have hc : 'u' = c := by
      have hcons : lead = 'u' :: "rn:uuid:".toList := by decide
      rw [hcons] at hprefix
      simp at hprefix
      exact hprefix.1
    rw [← hc] at h
    exact absurd h (by decide)
  have hbrace : c ≠ '\x7b' := by
    rintro rfl
    exact absurd h (by decide)
  unfold unwrapped?
  rw [if_neg hlead]
  split
  · rename_i heq
    exact absurd (List.cons.inj heq).1 hbrace
  · rfl

theorem badGroup?_eq_none {ns : List Nat} {gs : List (List Char)} (i : Nat)
    (h : gs.map List.length = ns) : badGroup? i ns gs = none := by
  subst h
  induction gs generalizing i with
  | nil => rfl
  | cons g gs ih => simp [badGroup?, ih]

/-- The text of an identifier is read as the identifier. -/
theorem ofText_text (u : Uuid) : ofText u.text = .ok u := by
  obtain ⟨a, b, c, d, e, hchars, hdigits, hlengths⟩ := chars_groups u
  have hhex : AllHex (a ++ (b ++ (c ++ (d ++ e)))) := hdigits ▸ AllHex.of_hexDigits 32 _
  obtain ⟨ha, hb, hc, hd, he⟩ : AllHex a ∧ AllHex b ∧ AllHex c ∧ AllHex d ∧ AllHex e := by
    simpa only [AllHex, List.mem_append, or_imp, forall_and] using hhex
  have hunwrapped : unwrapped? u.chars = none := by
    cases a with
    | nil => simp [groupLengths] at hlengths
    | cons first a =>
      rw [hchars]
      exact unwrapped?_eq_none (ha first List.mem_cons_self)
  have hgood : badCharacter? 0 u.chars = none := by
    refine badCharacter?_eq_none (fun x hx => ?_) 0
    rw [hchars] at hx
    simp only [List.mem_append, List.mem_cons] at hx
    obtain hx | rfl | hx | rfl | hx | rfl | hx | rfl | hx := hx
    · exact .inr (ha x hx)
    · exact .inl rfl
    · exact .inr (hb x hx)
    · exact .inl rfl
    · exact .inr (hc x hx)
    · exact .inl rfl
    · exact .inr (hd x hx)
    · exact .inl rfl
    · exact .inr (he x hx)
  have hgroups : groups u.chars = [a, b, c, d, e] := by
    rw [hchars, groups_append ha.ne_hyphen, groups_append hb.ne_hyphen, groups_append hc.ne_hyphen,
      groups_append hd.ne_hyphen, groups_alone he.ne_hyphen]
  have hvalue : ofNat (ofHexDigits [a, b, c, d, e].flatten) = u := by
    have hflat : [a, b, c, d, e].flatten = hexDigits 32 u.bits.toNat := by simp [hdigits]
    rw [hflat, ofNat_hexDigits]
  unfold ofText text
  simp only [String.toList_ofList, hunwrapped, Option.getD_none, hgood, hgroups,
    badGroup?_eq_none 0 hlengths, hvalue]
  simp

end TenantStore.Uuid
