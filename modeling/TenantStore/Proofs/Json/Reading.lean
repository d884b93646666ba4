import TenantStore.Json.Reader
import TenantStore.Proofs.Json.Writing
import TenantStore.Proofs.Number.Digits
import TenantStore.Proofs.Uuid.Text
import TenantStore.Proofs.Value.Wire

/-!
# JSON that is written and read again

Null, booleans, integers and texts, and lists, tuples and mappings of them, are written so that a
reader with room for their brackets finds them again (`read_write`): it goes through each part up to
where the part ends, and what follows a part is a comma or a closing bracket, which no part goes on
with. Two things are lost: an integer that is too long is not written at all, and two halves of a
surrogate pair are read as the character that they make.
-/

namespace TenantStore

def Point.Pair (p q : Point) : Prop :=
  (Text.Encoding.pairCode? p.code q.code).isSome = true

/-- No half of a pair comes right before the other. -/
def RawText.Unpaired (t : RawText) : Prop :=
  t.points.IsChain fun p q => ¬ p.Pair q

namespace Value

variable {τ : Type}

mutual
/-- Null, booleans, integers that are not too long and texts without pairs of halves, and lists,
tuples and mappings of such values, where a mapping has text keys, each of them once. -/
def Lossless : Value RawText → Prop
  | .null | .bool _ => True
  | .int i => Decimal.IsShort i
  | .text s => s.Unpaired
  | .list vs | .tuple vs => LosslessItems vs
  | .map es => Keyed es ∧ LosslessEntries es
  | .float _ | .datetime _ | .date _ | .uuid _ => False

def LosslessItems : List (Value RawText) → Prop
  | [] => True
  | v :: vs => v.Lossless ∧ LosslessItems vs

def LosslessEntries : List (Value RawText × Value RawText) → Prop
  | [] => True
  | (k, v) :: es => k.Lossless ∧ v.Lossless ∧ LosslessEntries es
end

mutual
def listed : Value τ → Value τ
  | .list vs | .tuple vs => .list (listedItems vs)
  | .map es => .map (listedEntries es)
  | v => v

def listedItems : List (Value τ) → List (Value τ)
  | [] => []
  | v :: vs => v.listed :: listedItems vs

def listedEntries : List (Value τ × Value τ) → List (Value τ × Value τ)
  | [] => []
  | (k, v) :: es => (k, v.listed) :: listedEntries es
end

mutual
/-- How many brackets stand inside one another when the value is written. -/
def depth : Value τ → Nat
  | .list vs | .tuple vs => depthItems vs + 1
  | .map es => depthEntries es + 1
  | _ => 0

def depthItems : List (Value τ) → Nat
  | [] => 0
  | v :: vs => max v.depth (depthItems vs)

def depthEntries : List (Value τ × Value τ) → Nat
  | [] => 0
  | (_, v) :: es => max v.depth (depthEntries es)
end

mutual
theorem depth_listed : ∀ v : Value τ, v.listed.depth = v.depth
  | .list vs | .tuple vs => congrArg (· + 1) (depthItems_listed vs)
  | .map es => congrArg (· + 1) (depthEntries_listed es)
  | .null | .bool _ | .int _ | .float _ | .text _ | .datetime _ | .date _ | .uuid _ => rfl

theorem depthItems_listed : ∀ vs : List (Value τ), depthItems (listedItems vs) = depthItems vs
  | [] => rfl
  | v :: vs => congrArg₂ max (depth_listed v) (depthItems_listed vs)

theorem depthEntries_listed : ∀ es : List (Value τ × Value τ),
    depthEntries (listedEntries es) = depthEntries es
  | [] => rfl
  | (_, v) :: es => congrArg₂ max (depth_listed v) (depthEntries_listed es)
end

end Value

namespace Json

def written (cs : List Char) : List Point :=
  cs.map .char

@[simp] theorem written_nil : written [] = [] := rfl

@[simp] theorem written_cons (c : Char) (cs : List Char) :
    written (c :: cs) = .char c :: written cs := rfl

@[simp] theorem written_append (cs ds : List Char) :
    written (cs ++ ds) = written cs ++ written ds :=
  List.map_append

@[simp] theorem length_written (cs : List Char) : (written cs).length = cs.length :=
  List.length_map ..

-- ---------------------------------------------------------------------------
-- Strings
-- ---------------------------------------------------------------------------

theorem unit?_hexDigits (h : n < 0x10000) (rest : List Point) :
    unit? (written (Uuid.hexDigits 4 n) ++ rest) = some (n, rest) := by
  have hdigits : ∃ a b c d, Uuid.hexDigits 4 n = [a, b, c, d] := ⟨_, _, _, _, rfl⟩
  have hall := Uuid.AllHex.of_hexDigits 4 n
  have hvalue : Uuid.ofHexDigits (Uuid.hexDigits 4 n) = n := by
    rw [Uuid.ofHexDigits_hexDigits]
    exact Nat.mod_eq_of_lt h
  obtain ⟨a, b, c, d, heq⟩ := hdigits
  rw [heq] at hall hvalue ⊢
  have hhex : [a, b, c, d].all (fun x => (Uuid.hexValue? x).isSome) = true :=
    List.all_eq_true.mpr hall
  show (if _ then some (Uuid.ofHexDigits [a, b, c, d], rest) else none) = _
  rw [if_pos hhex, hvalue]

theorem toNat_valid (c : Char) : c.toNat < 0xd800 ∨ 0xdfff < c.toNat ∧ c.toNat < 0x110000 :=
  c.valid

theorem unpaired_ofChars (cs : List Char) : (RawText.ofChars cs).Unpaired := by
  have hpair (c d : Char) : ¬ (Point.char c).Pair (.char d) := by
    have hvalid := toNat_valid c
    rw [Point.Pair, Point.code, Text.Encoding.pairCode?, if_neg (by omega)]
    exact nofun
  induction cs with
  | nil => exact .nil
  | cons c cs ih =>
    cases cs with
    | nil => exact .singleton _
    | cons d cs => exact .cons_cons (hpair c d) ih

theorem ofCode_code (p : Point) : Point.ofCode p.code = p := by
  cases p with
  | char c =>
    have hvalid : c.toNat.isValidChar := c.valid
    rw [Point.code, Point.ofCode, if_pos hvalid, Char.ofNat_toNat]
  | half place =>
    have hplace : (0xd800 + place.val) % 0x800 = place.val := by omega
    have hvalid : ¬ (0xd800 + place.val).isValidChar := by
      have hlt := place.isLt
      unfold Nat.isValidChar
      omega
    rw [Point.code, Point.ofCode, if_neg hvalid]
    exact congrArg Point.half (Fin.ext ((Fin.val_ofNat ..).trans hplace))

/-- What follows does not go on with the second half of a pair. -/
def Unjoined (high : Nat) (rest : List Point) : Prop :=
  ∀ more, rest = .char '\\' :: .char 'u' :: more →
    ∃ low after, unit? more = some (low, after) ∧ Text.Encoding.pairCode? high low = none

/-- A unit that makes no pair with what follows is read from its digits. -/
theorem escapedUnit?_alone (h : n < 0x10000) (rest : List Point)
    (hrest : 0xd800 ≤ n ∧ n < 0xdc00 → Unjoined n rest) :
    escapedUnit? (written (Uuid.hexDigits 4 n) ++ rest) = some (.ofCode n, rest) := by
  unfold escapedUnit?
  rw [unit?_hexDigits h, Option.bind_eq_bind, Option.bind_some]
  simp only
  split
  · rename_i hhigh
    split
    · rename_i more
      obtain ⟨low, after, hlow, hpair⟩ := hrest hhigh more rfl
      rw [hlow, Option.bind_some]
      simp only [hpair]
    · rfl
  · rfl

theorem pairCode?_units (h : n < 0x100000) :
    Text.Encoding.pairCode? (0xd800 + n / 0x400) (0xdc00 + n % 0x400) = some (0x10000 + n) := by
  have hquotient : n / 0x400 < 0x400 := Nat.div_lt_of_lt_mul h
  have hremainder : n % 0x400 < 0x400 := Nat.mod_lt n (by decide)
  have hsum : n / 0x400 * 0x400 + n % 0x400 = n := Nat.div_add_mod' n 0x400
  rw [Text.Encoding.pairCode?, if_pos (by omega), Nat.add_sub_cancel_left, Nat.add_sub_cancel_left,
    Nat.add_assoc, hsum]

theorem escapedUnit?_pair {c : Char} (h : c.toNat = 0x10000 + n) (rest : List Point) :
    escapedUnit? (written (Uuid.hexDigits 4 (0xd800 + n / 0x400)) ++
      (written (unitChars (0xdc00 + n % 0x400)) ++ rest)) = some (.char c, rest) := by
  have hvalid := toNat_valid c
  have hquotient : n / 0x400 < 0x400 := Nat.div_lt_of_lt_mul (by omega)
  have hremainder : n % 0x400 < 0x400 := Nat.mod_lt n (by decide)
  have hcode := pairCode?_units (n := n) (by omega)
  have hchar : Point.ofCode (0x10000 + n) = .char c := h ▸ ofCode_code (.char c)
  unfold escapedUnit? unitChars
  rw [unit?_hexDigits (by omega), Option.bind_eq_bind, Option.bind_some]
  simp only [written_cons, List.cons_append]
  rw [if_pos (by omega), unit?_hexDigits (by omega), Option.bind_some]
  simp only [hcode, hchar]

def before (p : Point) (read : Option (List Point × List Point)) :
    Option (List Point × List Point) :=
  read.map fun r => (p :: r.1, r.2)

theorem stringBody?_unit (fuel : Nat) {p : Point} {ps rest : List Point}
    (h : escapedUnit? ps = some (p, rest)) :
    stringBody? (fuel + 1) (.char '\\' :: .char 'u' :: ps) = before p (stringBody? fuel rest) := by
  rw [stringBody?, if_neg (by decide), if_pos rfl]
  simp only [h, Option.bind_eq_bind, Option.bind_some]
  cases stringBody? fuel rest <;> rfl

theorem stringBody?_escaped (fuel : Nat) {e c : Char} (rest : List Point) (he : e ≠ 'u')
    (h : escapedChar? (.char e) = some c) :
    stringBody? (fuel + 1) (.char '\\' :: .char e :: rest) =
      before (.char c) (stringBody? fuel rest) := by
  conv_lhs => unfold stringBody?
  rw [if_neg (by decide), if_pos rfl]
  split
  · rename_i heq
    exact absurd (Point.char.inj (List.cons.inj heq).1) he
  · rename_i heq
    obtain ⟨rfl, rfl⟩ := List.cons.inj heq
    rw [h]
    cases stringBody? fuel rest <;> rfl
  · rename_i heq
    cases heq

theorem stringBody?_plain (fuel : Nat) {c : Char} (rest : List Point) (hquote : c ≠ '"')
    (hslash : c ≠ '\\') (h : 0x20 ≤ c.toNat) :
    stringBody? (fuel + 1) (.char c :: rest) = before (.char c) (stringBody? fuel rest) := by
  have hcontrol : ¬ isControl (.char c) = true := by simpa [isControl] using h
  have hne {d : Char} (h : c ≠ d) : Point.char c ≠ .char d := fun heq => h (Point.char.inj heq)
  conv_lhs => unfold stringBody?
  rw [if_neg (hne hquote), if_neg (hne hslash), if_neg hcontrol]
  cases stringBody? fuel rest <;> rfl

theorem stringBody?_char (fuel : Nat) (c : Char) (rest : List Point) :
    stringBody? (fuel + 1) (written (stringChar c) ++ rest) =
      before (.char c) (stringBody? fuel rest) := by
  unfold stringChar
  by_cases hquote : c = '"'
  · rw [if_pos hquote, hquote]
    exact stringBody?_escaped fuel rest (by decide) rfl
  by_cases hslash : c = '\\'
  · rw [if_neg hquote, if_pos hslash, hslash]
    exact stringBody?_escaped fuel rest (by decide) rfl
  rw [if_neg hquote, if_neg hslash]
  split
  · subst c
    exact stringBody?_escaped fuel rest (by decide) rfl
  split
  · subst c
    exact stringBody?_escaped fuel rest (by decide) rfl
  split
  · subst c
    exact stringBody?_escaped fuel rest (by decide) rfl
  split
  · rename_i h
    obtain rfl : c = Char.ofNat 8 := by rw [← h, Char.ofNat_toNat]
    exact stringBody?_escaped fuel rest (by decide) rfl
  split
  · rename_i h
    obtain rfl : c = Char.ofNat 12 := by rw [← h, Char.ofNat_toNat]
    exact stringBody?_escaped fuel rest (by decide) rfl
  split
  · rename_i h
    exact stringBody?_plain fuel rest hquote hslash h.1
  split
  · rename_i h
    have hvalid := toNat_valid c
    have hchar : Point.ofCode c.toNat = .char c := ofCode_code (.char c)
    have hunit := escapedUnit?_alone h rest fun hhigh => by omega
    rw [hchar] at hunit
    exact stringBody?_unit fuel hunit
  · rename_i h
    rw [written_append, List.append_assoc]
    exact stringBody?_unit fuel (escapedUnit?_pair (by omega) rest)

/-- What a point is written as is read as the point, unless it makes a pair with what follows. -/
theorem stringBody?_point (fuel : Nat) (p : Point) {rest : List Point}
    (h : Unjoined p.code rest) :
    stringBody? (fuel + 1) (written (stringPoint p) ++ rest) = before p (stringBody? fuel rest) := by
  cases p with
  | char c => exact stringBody?_char fuel c rest
  | half place =>
    have hlt : (Point.half place).code < 0x10000 := by
      have hplace := place.isLt
      rw [Point.code]
      omega
    have hunit := escapedUnit?_alone hlt rest fun _ => h
    rw [ofCode_code] at hunit
    exact stringBody?_unit fuel hunit

theorem unjoined_of_ne {c : Char} (hc : c ≠ '\\') (rest : List Point) :
    Unjoined high (.char c :: rest) := by
  intro more heq
  exact absurd (Point.char.inj (List.cons.inj heq).1) hc

theorem unjoined_escape {c : Char} (hc : c ≠ 'u') (rest : List Point) :
    Unjoined high (.char '\\' :: .char c :: rest) := by
  intro more heq
  exact absurd (Point.char.inj (List.cons.inj (List.cons.inj heq).2).1) hc

theorem unjoined_unit (h : low < 0x10000) (hpair : Text.Encoding.pairCode? high low = none)
    (rest : List Point) : Unjoined high (written (unitChars low) ++ rest) := by
  intro more heq
  obtain rfl : written (Uuid.hexDigits 4 low) ++ rest = more :=
    (List.cons.inj (List.cons.inj heq).2).2
  exact ⟨low, rest, unit?_hexDigits h rest, hpair⟩

theorem pairCode?_eq_none (h : low < 0xdc00 ∨ 0xdfff < low) :
    Text.Encoding.pairCode? high low = none :=
  if_neg (by omega)

/-- A point that makes no pair with the one before is not written as the second half of one. -/
theorem unjoined_point {p q : Point} (h : ¬ p.Pair q) (rest : List Point) :
    Unjoined p.code (written (stringPoint q) ++ rest) := by
  cases q with
  | half place =>
    have hlt : (Point.half place).code < 0x10000 := by
      have hplace := place.isLt
      rw [Point.code]
      omega
    exact unjoined_unit hlt (Option.not_isSome_iff_eq_none.mp h) rest
  | char c =>
    have hvalid := toNat_valid c
    show Unjoined p.code (written (stringChar c) ++ rest)
    unfold stringChar
    split
    · exact unjoined_escape (by decide) rest
    split
    · exact unjoined_escape (by decide) rest
    rename_i hslash
    split
    · exact unjoined_escape (by decide) rest
    split
    · exact unjoined_escape (by decide) rest
    split
    · exact unjoined_escape (by decide) rest
    split
    · exact unjoined_escape (by decide) rest
    split
    · exact unjoined_escape (by decide) rest
    split
    · exact unjoined_of_ne hslash rest
    split
    · rename_i hlt
      exact unjoined_unit hlt (pairCode?_eq_none (by omega)) rest
    · rw [written_append, List.append_assoc]
      exact unjoined_unit (by omega) (pairCode?_eq_none (by omega)) _

theorem stringPoint_ne_nil (p : Point) : stringPoint p ≠ [] := by
  cases p with
  | half place => exact List.cons_ne_nil _ _
  | char c =>
    show stringChar c ≠ []
    unfold stringChar
    repeat' split
    all_goals simp [unitChars]

theorem stringBody?_points {ps : List Point} (hps : ps.IsChain fun p q => ¬ p.Pair q)
    (rest : List Point) (h : (ps.flatMap stringPoint).length < fuel) :
    stringBody? fuel (written (ps.flatMap stringPoint) ++ .char '"' :: rest) = some (ps, rest) := by
  induction ps generalizing fuel with
  | nil =>
    cases fuel with
    | zero => cases h
    | succ fuel => rfl
  | cons p ps ih =>
    rw [List.flatMap_cons, List.length_append] at h
    have hpos := List.length_pos_iff.mpr (stringPoint_ne_nil p)
    have hunjoined : Unjoined p.code (written (ps.flatMap stringPoint) ++ .char '"' :: rest) := by
      cases ps with
      | nil => exact unjoined_of_ne (by decide) rest
      | cons q ps =>
        rw [List.flatMap_cons, written_append, List.append_assoc]
        exact unjoined_point (List.isChain_cons_cons.mp hps).1 _
    cases fuel with
    | zero => cases h
    | succ fuel =>
      rw [List.flatMap_cons, written_append, List.append_assoc, stringBody?_point fuel p hunjoined,
        ih (List.isChain_of_isChain_cons hps) (by omega)]
      rfl

-- ---------------------------------------------------------------------------
-- Numbers
-- ---------------------------------------------------------------------------

open Decimal

theorem digitValue?_digitChar (h : d < 10) : digitValue? (digitChar d) = some d := by
  have hall : ∀ d < 10, digitValue? (digitChar d) = some d := by decide
  exact hall d h

theorem ofDigits_digits (n : Nat) : ofDigits (digits n) = n := by
  induction n using digits.induct with
  | case1 n h =>
    rw [digits_small h]
    exact Nat.zero_add n
  | case2 n h ih =>
    unfold ofDigits at ih ⊢
    rw [digits_large h, List.foldl_append, ih, List.foldl_cons, List.foldl_nil]
    exact Nat.div_add_mod n 10

theorem ofChars_natChars (n : Nat) : ofChars (natChars n) = n := by
  have hdigits : ∀ ds : List Nat, (∀ d ∈ ds, d < 10) →
      (ds.map digitChar).filterMap digitValue? = ds := by
    intro ds h
    induction ds with
    | nil => rfl
    | cons d ds ih =>
      obtain ⟨hd, hds⟩ := List.forall_mem_cons.mp h
      rw [List.map_cons, List.filterMap_cons_some (digitValue?_digitChar hd), ih hds]
  rw [ofChars, natChars, hdigits _ (digits_lt n), ofDigits_digits]

theorem natChars_head (h : n ≠ 0) : ∃ c cs, natChars n = c :: cs ∧ c ≠ '0' := by
  induction n using digits.induct with
  | case1 n hn =>
    have hall : ∀ n < 10, n ≠ 0 → digitChar n ≠ '0' := by decide
    exact ⟨digitChar n, [], by rw [natChars, digits_small hn]; rfl, hall n hn h⟩
  | case2 n hn ih =>
    obtain ⟨c, cs, hcs, hc⟩ := ih (by omega)
    refine ⟨c, cs ++ [digitChar (n % 10)], ?_, hc⟩
    rw [natChars, digits_large hn, List.map_append]
    exact congrArg (· ++ _) hcs

theorem isDigit_natChars (n : Nat) : ∀ c ∈ natChars n, isDigit c = true := by
  intro c hc
  obtain ⟨d, hd, rfl⟩ := List.mem_map.mp hc
  rw [isDigit, digitValue?_digitChar (digits_lt n d hd)]
  rfl

theorem spanDigits_natChars (n : Nat) : Numeral.spanDigits (natChars n) = (natChars n, []) := by
  have h := isDigit_natChars n
  unfold Numeral.spanDigits
  rw [List.takeWhile_eq_self_iff.mpr h, List.dropWhile_eq_nil_iff.mpr h]

theorem wholeDigits?_natChars (n : Nat) : wholeDigits? (natChars n) = some (natChars n, []) := by
  by_cases hn : n = 0
  · have hzero : natChars n = ['0'] := by
      rw [natChars, digits_small (by omega), hn]
      rfl
    rw [hzero]
    rfl
  · obtain ⟨c, cs, hcs, hc⟩ := natChars_head hn
    have hspan := spanDigits_natChars n
    rw [hcs] at hspan ⊢
    unfold wholeDigits?
    split
    · rename_i heq
      exact absurd (List.cons.inj heq).1 hc
    · rw [hspan]
      exact if_neg (List.cons_ne_nil _ _)

theorem number?_natChars (negative : Bool) (h : (natChars n).length ≤ maxDigits) :
    number? negative (natChars n) = some (.int (if negative then -n else n), []) := by
  have hplaces : places [] = ([], []) := rfl
  have hexponent : exponentPart [] = (none, []) := rfl
  unfold number?
  rw [wholeDigits?_natChars n]
  simp only [Option.bind_eq_bind, Option.bind_some, hplaces, hexponent]
  simp [ofChars_natChars, Nat.not_lt.mpr h]

theorem afterWord?_eq_none {word : String} {w : Char} {ws : List Char}
    (hword : word.toList = w :: ws) {c : Char} (h : c ≠ w) (cs : List Char) :
    afterWord? word (c :: cs) = none := by
  unfold afterWord?
  rw [hword, if_neg]
  simp [List.isPrefixOf, Ne.symm h]

theorem isDigit_ne {c w : Char} (hc : isDigit c = true) (hw : isDigit w = false) : c ≠ w := by
  rintro rfl
  rw [hc] at hw
  cases hw

theorem word?_digit {c : Char} (h : isDigit c = true) (cs : List Char) :
    word? (c :: cs) = number? false (c :: cs) := by
  unfold word?
  simp only
  rw [afterWord?_eq_none rfl (isDigit_ne h (w := 'n') rfl),
    afterWord?_eq_none rfl (isDigit_ne h (w := 't') rfl),
    afterWord?_eq_none rfl (isDigit_ne h (w := 'f') rfl),
    afterWord?_eq_none rfl (isDigit_ne h (w := 'N') rfl),
    afterWord?_eq_none rfl (isDigit_ne h (w := 'I') rfl),
    afterWord?_eq_none rfl (isDigit_ne h (w := '-') rfl)]
  split
  · rename_i heq
    exact absurd (List.cons.inj heq).1 (isDigit_ne h rfl)
  · rfl

theorem word?_minus {c : Char} (h : isDigit c = true) (cs : List Char) :
    word? ('-' :: c :: cs) = number? true (c :: cs) := by
  have hinfinity : afterWord? "-Infinity" ('-' :: c :: cs) = none := by
    have hword : "-Infinity".toList = '-' :: 'I' :: "nfinity".toList := by decide
    unfold afterWord?
    rw [hword, if_neg]
    simp [List.isPrefixOf, Ne.symm (isDigit_ne h (w := 'I') rfl)]
  unfold word?
  simp only
  rw [afterWord?_eq_none (w := 'n') rfl (by decide), afterWord?_eq_none (w := 't') rfl (by decide),
    afterWord?_eq_none (w := 'f') rfl (by decide), afterWord?_eq_none (w := 'N') rfl (by decide),
    afterWord?_eq_none (w := 'I') rfl (by decide), hinfinity]
  rfl

theorem natChars_cons (n : Nat) : ∃ c cs, natChars n = c :: cs ∧ isDigit c = true := by
  obtain ⟨c, cs, hcs⟩ := List.exists_cons_of_ne_nil (natChars_ne_nil n)
  exact ⟨c, cs, hcs, isDigit_natChars n c (hcs ▸ List.mem_cons_self)⟩

theorem word?_intChars (h : IsShort i) : word? (intChars i) = some (.int i, []) := by
  cases i with
  | ofNat n =>
    obtain ⟨c, cs, hcs, hc⟩ := natChars_cons n
    have hread := number?_natChars false (n := n) h
    rw [intChars, hcs] at *
    rw [word?_digit hc, hread]
    rfl
  | negSucc n =>
    obtain ⟨c, cs, hcs, hc⟩ := natChars_cons (n + 1)
    have hread := number?_natChars true (n := n + 1) h
    rw [hcs] at hread
    rw [intChars, hcs, word?_minus hc, hread]
    rfl

/-- What can follow a value that is written: nothing, or the mark between or behind items. -/
def Ends (rest : List Point) : Prop :=
  rest = [] ∨ ∃ c ps, rest = .char c :: ps ∧ (c = ',' ∨ c = ']' ∨ c = '\x7d')

theorem spanWord_written {cs : List Char} (hcs : ∀ c ∈ cs, isWordChar c = true) (h : Ends rest) :
    spanWord (written cs ++ rest) = (cs, rest) := by
  induction cs with
  | nil => rcases h with rfl | ⟨c, ps, rfl, rfl | rfl | rfl⟩ <;> rfl
  | cons c cs ih =>
    obtain ⟨hc, hcs⟩ := List.forall_mem_cons.mp hcs
    rw [written_cons, List.cons_append, spanWord, if_pos hc, ih hcs]

theorem plain?_word {cs : List Char} (hcs : ∀ c ∈ cs, isWordChar c = true)
    (hread : word? cs = some (v, [])) (h : Ends rest) :
    plain? (written cs ++ rest) = some (v, rest) := by
  rw [plain?, spanWord_written hcs h, hread]

theorem isWordChar_of_isDigit {c : Char} (h : Text.isAsciiDigit c = true) :
    isWordChar c = true := by
  have halpha : c.isAlphanum = true := by
    rw [Char.isAlphanum, Bool.or_eq_true]
    exact .inr (by simpa [Text.isAsciiDigit, Char.isDigit, Char.le_def] using h)
  simp [isWordChar, halpha]

theorem isWordChar_intChars (i : Int) : ∀ c ∈ intChars i, isWordChar c = true := by
  have hnat (n : Nat) : ∀ c ∈ natChars n, isWordChar c = true := fun c hc =>
    isWordChar_of_isDigit (natChars_digits n c hc)
  cases i with
  | ofNat n => exact hnat n
  | negSucc n => exact List.forall_mem_cons.mpr ⟨rfl, hnat (n + 1)⟩

-- ---------------------------------------------------------------------------
-- Values
-- ---------------------------------------------------------------------------

/-- A value, an item or an entry starts with neither a blank nor a closing mark. -/
def Begins (t : List Char) : Prop :=
  ∃ c cs, t = c :: cs ∧ isBlank (.char c) = false ∧ c ≠ ']' ∧ c ≠ '\x7d'

/-- In front of anything that can follow, the text is read as the value, if there is room for it. -/
def ReadsAs (t : List Char) (v : Value RawText) : Prop :=
  Begins t ∧ ∀ fuel room rest, t.length < fuel → v.depth ≤ room → Ends rest →
    value fuel room (written t ++ rest) = .ok (v, rest)

theorem Begins.skipBlanks (h : Begins t) (rest : List Point) :
    skipBlanks (written t ++ rest) = written t ++ rest := by
  obtain ⟨c, cs, rfl, hc, -⟩ := h
  exact List.dropWhile_cons_of_neg (by simp [hc])

theorem Ends.skipBlanks (h : Ends rest) : skipBlanks rest = rest := by
  rcases h with rfl | ⟨c, ps, rfl, rfl | rfl | rfl⟩ <;> rfl

/-- Values that start with neither a quote nor a bracket. -/
theorem readsAs_word {c : Char} {cs : List Char} (hc : c ≠ '"' ∧ c ≠ '[' ∧ c ≠ '\x7b')
    (hbegins : Begins (c :: cs)) (hcs : ∀ d ∈ c :: cs, isWordChar d = true)
    (h : word? (c :: cs) = some (v, [])) : ReadsAs (c :: cs) v := by
  refine ⟨hbegins, fun fuel room rest hfuel _ hrest => ?_⟩
  have hread := plain?_word hcs h hrest
  have hne {d : Char} {rest' : List Point} (hd : c ≠ d) :
      written (c :: cs) ++ rest = .char d :: rest' → False := fun heq =>
    hd (Point.char.inj (List.cons.inj heq).1)
  cases fuel with
  | zero => cases hfuel
  | succ fuel =>
    rw [value, hread]
    · rfl
    · exact fun _ heq => hne hc.1 heq
    · exact fun _ heq => hne hc.2.1 heq
    · exact fun _ heq => hne hc.2.2 heq

theorem readsAs_null : ReadsAs ['n', 'u', 'l', 'l'] .null :=
  readsAs_word (by decide) ⟨_, _, rfl, rfl, by decide, by decide⟩ (List.all_eq_true.mp rfl) rfl

theorem readsAs_true : ReadsAs ['t', 'r', 'u', 'e'] (.bool true) :=
  readsAs_word (by decide) ⟨_, _, rfl, rfl, by decide, by decide⟩ (List.all_eq_true.mp rfl) rfl

theorem readsAs_false : ReadsAs ['f', 'a', 'l', 's', 'e'] (.bool false) :=
  readsAs_word (by decide) ⟨_, _, rfl, rfl, by decide, by decide⟩ (List.all_eq_true.mp rfl) rfl

theorem stringBody?_stringChars {s : RawText} (h : s.Unpaired) (rest : List Point) :
    ∃ ps, written (stringChars s) ++ rest = .char '"' :: ps ∧
      stringBody? (ps.length + 1) ps = some (s.points, rest) := by
  refine ⟨written (s.points.flatMap stringPoint) ++ .char '"' :: rest, by simp [stringChars], ?_⟩
  refine stringBody?_points h rest ?_
  rw [List.length_append, length_written]
  omega

theorem readsAs_text {s : RawText} (h : s.Unpaired) : ReadsAs (stringChars s) (.text s) := by
  refine ⟨⟨'"', _, rfl, rfl, by decide, by decide⟩, fun fuel room rest hfuel _ hrest => ?_⟩
  cases fuel with
  | zero => cases hfuel
  | succ fuel =>
    obtain ⟨ps, hps, hbody⟩ := stringBody?_stringChars h rest
    rw [hps, value, hbody]
    rfl

theorem isBlank_of_isDigit {c : Char} (h : isDigit c = true) : isBlank (.char c) = false := by
  have hne (w : Char) (hw : isDigit w = false) : (c == w) = false :=
    beq_eq_false_iff_ne.mpr (isDigit_ne h hw)
  rw [isBlank, hne _ rfl, hne _ rfl, hne _ rfl, hne _ rfl]
  rfl

theorem readsAs_int (h : IsShort i) : ReadsAs (intChars i) (.int i) := by
  have hread := word?_intChars h
  have hword := isWordChar_intChars i
  cases i with
  | ofNat n =>
    obtain ⟨c, cs, hcs, hc⟩ := natChars_cons n
    rw [intChars, hcs] at hread hword ⊢
    exact readsAs_word ⟨isDigit_ne hc rfl, isDigit_ne hc rfl, isDigit_ne hc rfl⟩
      ⟨c, cs, rfl, isBlank_of_isDigit hc, isDigit_ne hc rfl, isDigit_ne hc rfl⟩ hword hread
  | negSucc n =>
    rw [intChars] at hread hword ⊢
    exact readsAs_word (by decide) ⟨_, _, rfl, rfl, by decide, by decide⟩ hword hread

/-- Texts that are read as these parts, where commas stand between them and the mark behind them. -/
structure ReadsParts {α : Type}
    (reader : Nat → Nat → List Point → Except ReadFault (List α × List Point))
    (depth : List α → Nat) (closing : Char) (ts : List (List Char)) (parts : List α) : Prop where
  nil : ts = [] → parts = []
  begins : ∀ t ∈ ts, Begins t
  reads : ∀ fuel room rest, ts ≠ [] → (commaSeparated ts).length + 1 < fuel → depth parts ≤ room →
    reader fuel room (written (commaSeparated ts) ++ .char closing :: rest) = .ok (parts, rest)

abbrev ReadsItems : List (List Char) → List (Value RawText) → Prop :=
  ReadsParts items Value.depthItems ']'

abbrev ReadsEntries : List (List Char) → List (Value RawText × Value RawText) → Prop :=
  ReadsParts entries Value.depthEntries '\x7d'

theorem readsParts_nil {α : Type}
    {reader : Nat → Nat → List Point → Except ReadFault (List α × List Point)}
    {depth : List α → Nat} : ReadsParts reader depth closing [] [] :=
  ⟨fun _ => rfl, List.forall_mem_nil _, fun _ _ _ h => absurd rfl h⟩

theorem begins_commaSeparated (h : ∀ t ∈ ts, Begins t) (hne : ts ≠ []) :
    Begins (commaSeparated ts) := by
  cases ts with
  | nil => exact absurd rfl hne
  | cons t ts =>
    cases ts with
    | nil => exact h t List.mem_cons_self
    | cons u ts =>
      obtain ⟨c, cs, rfl, hc⟩ := h t List.mem_cons_self
      exact ⟨c, _, rfl, hc⟩

theorem readsItems_cons (hp : ReadsAs p v) (hps : ReadsItems ps vs) :
    ReadsItems (p :: ps) (v :: vs) := by
  refine ⟨fun h => absurd h (List.cons_ne_nil p ps),
    List.forall_mem_cons.mpr ⟨hp.1, hps.begins⟩, fun fuel room rest _ hfuel hroom => ?_⟩
  rw [Value.depthItems, Nat.max_le] at hroom
  cases fuel with
  | zero => cases hfuel
  | succ fuel =>
    by_cases hnil : ps = []
    · subst hnil
      rw [commaSeparated] at hfuel
      have hfirst := hp.2 fuel room (.char ']' :: rest) (by omega) hroom.1
        (.inr ⟨_, _, rfl, .inr (.inl rfl)⟩)
      rw [hps.nil rfl, commaSeparated, items, hfirst]
      rfl
    · rw [commaSeparated_cons p hnil, List.length_append, List.length_cons] at hfuel
      have hfirst := hp.2 fuel room
        (.char ',' :: (written (commaSeparated ps) ++ .char ']' :: rest)) (by omega) hroom.1
        (.inr ⟨_, _, rfl, .inl rfl⟩)
      have hblank := (begins_commaSeparated hps.begins hnil).skipBlanks (.char ']' :: rest)
      have hcomma : skipBlanks (.char ',' :: (written (commaSeparated ps) ++ .char ']' :: rest)) =
          .char ',' :: (written (commaSeparated ps) ++ .char ']' :: rest) := rfl
      rw [commaSeparated_cons p hnil, written_append, List.append_assoc, written_cons,
        List.cons_append, items, hfirst]
      simp only [bind, Except.bind, hcomma, hblank, hps.reads fuel room rest hnil (by omega) hroom.2]
      rfl

theorem readsEntries_cons {s : RawText} (hs : s.Unpaired) (hp : ReadsAs p v)
    (hps : ReadsEntries ps es) :
    ReadsEntries ((stringChars s ++ ':' :: p) :: ps) ((.text s, v) :: es) := by
  have hbegins : Begins (stringChars s ++ ':' :: p) :=
    ⟨'"', _, rfl, rfl, by decide, by decide⟩
  refine ⟨fun h => absurd h (List.cons_ne_nil _ ps),
    List.forall_mem_cons.mpr ⟨hbegins, hps.begins⟩, fun fuel room rest _ hfuel hroom => ?_⟩
  rw [Value.depthEntries, Nat.max_le] at hroom
  have hcolon (qs : List Point) : skipBlanks (.char ':' :: qs) = .char ':' :: qs := rfl
  cases fuel with
  | zero => cases hfuel
  | succ fuel =>
    by_cases hnil : ps = []
    · subst hnil
      rw [commaSeparated, List.length_append, List.length_cons] at hfuel
      have hfirst := hp.2 fuel room (.char '\x7d' :: rest) (by omega) hroom.1
        (.inr ⟨_, _, rfl, .inr (.inr rfl)⟩)
      have hblank := hp.1.skipBlanks (.char '\x7d' :: rest)
      have hend : skipBlanks (.char '\x7d' :: rest) = .char '\x7d' :: rest := rfl
      obtain ⟨qs, hqs, hkey⟩ := stringBody?_stringChars hs
        (.char ':' :: (written p ++ .char '\x7d' :: rest))
      rw [hps.nil rfl, commaSeparated, written_append, List.append_assoc, written_cons,
        List.cons_append, hqs, entries, hkey]
      simp only [orMalformed, bind, Except.bind, hcolon, hblank, hfirst, hend]
      rfl
    · rw [commaSeparated_cons _ hnil, List.length_append, List.length_append, List.length_cons,
        List.length_cons] at hfuel
      have hfirst := hp.2 fuel room
        (.char ',' :: (written (commaSeparated ps) ++ .char '\x7d' :: rest)) (by omega) hroom.1
        (.inr ⟨_, _, rfl, .inl rfl⟩)
      have hblank := hp.1.skipBlanks
        (.char ',' :: (written (commaSeparated ps) ++ .char '\x7d' :: rest))
      have hnext := (begins_commaSeparated hps.begins hnil).skipBlanks (.char '\x7d' :: rest)
      have hcomma : skipBlanks (.char ',' :: (written (commaSeparated ps) ++ .char '\x7d' :: rest)) =
          .char ',' :: (written (commaSeparated ps) ++ .char '\x7d' :: rest) := rfl
      obtain ⟨qs, hqs, hkey⟩ := stringBody?_stringChars hs (.char ':' ::
        (written p ++ .char ',' :: (written (commaSeparated ps) ++ .char '\x7d' :: rest)))
      rw [commaSeparated_cons _ hnil, written_append, written_append, List.append_assoc,
        List.append_assoc, written_cons, written_cons, List.cons_append, List.cons_append, hqs,
        entries, hkey]
      simp only [orMalformed, bind, Except.bind, hcolon, hblank, hfirst, hcomma, hnext,
        hps.reads fuel room rest hnil (by omega) hroom.2]
      rfl

theorem readsAs_list (h : ReadsItems ts vs) :
    ReadsAs ('[' :: commaSeparated ts ++ [']']) (.list vs) := by
  refine ⟨⟨'[', _, rfl, rfl, by decide, by decide⟩, fun fuel room rest hfuel hroom _ => ?_⟩
  rw [Value.depth] at hroom
  cases fuel with
  | zero => cases hfuel
  | succ fuel =>
    cases room with
    | zero => cases hroom
    | succ room =>
      by_cases hnil : ts = []
      · subst hnil
        rw [h.nil rfl]
        rfl
      · simp only [List.length_append, List.length_cons, List.length_nil] at hfuel
        have hbegins := begins_commaSeparated h.begins hnil
        have hblank := hbegins.skipBlanks (.char ']' :: rest)
        have hitems := h.reads fuel room rest hnil (by omega) (by omega)
        obtain ⟨c, cs, hcs, -, hc, -⟩ := hbegins
        rw [List.cons_append, written_cons, written_append, List.cons_append, List.append_assoc,
          value]
        simp only [written_cons, written_nil, List.cons_append, List.nil_append, hblank]
        rw [hcs, written_cons, List.cons_append] at hitems ⊢
        split
        · rename_i heq
          exact absurd (Point.char.inj (List.cons.inj heq).1) hc
        · rw [hitems]
          rfl

theorem readsAs_map (h : ReadsEntries ts es) (hkeyed : Value.Keyed es) :
    ReadsAs ('\x7b' :: commaSeparated ts ++ ['\x7d']) (.map es) := by
  have hmap : Value.ofEntries es = .map es := congrArg Value.map (Value.foldl_insert hkeyed)
  refine ⟨⟨'\x7b', _, rfl, rfl, by decide, by decide⟩, fun fuel room rest hfuel hroom _ => ?_⟩
  rw [Value.depth] at hroom
  cases fuel with
  | zero => cases hfuel
  | succ fuel =>
    cases room with
    | zero => cases hroom
    | succ room =>
      by_cases hnil : ts = []
      · subst hnil
        rw [h.nil rfl]
        rfl
      · simp only [List.length_append, List.length_cons, List.length_nil] at hfuel
        have hbegins := begins_commaSeparated h.begins hnil
        have hblank := hbegins.skipBlanks (.char '\x7d' :: rest)
        have hentries := h.reads fuel room rest hnil (by omega) (by omega)
        obtain ⟨c, cs, hcs, -, -, hc⟩ := hbegins
        rw [List.cons_append, written_cons, written_append, List.cons_append, List.append_assoc,
          value]
        simp only [written_cons, written_nil, List.cons_append, List.nil_append, hblank]
        rw [hcs, written_cons, List.cons_append] at hentries ⊢
        split
        · rename_i heq
          exact absurd (Point.char.inj (List.cons.inj heq).1) hc
        · rw [hentries, ← hmap]
          rfl

theorem keyed_listedEntries {es : List (Value RawText × Value RawText)} (h : Value.Keyed es) :
    Value.Keyed (Value.listedEntries es) := by
  refine h.of_keys ?_
  clear h
  induction es with
  | nil => rfl
  | cons e es ih => exact congrArg (e.1 :: ·) ih

-- the induction follows the nesting of values, and a part is read in front of whatever is left of the
-- values around it
mutual
theorem write_readsAs : ∀ v : Value RawText, v.Lossless →
    ∃ t, write .lenient v = .ok t ∧ ReadsAs t v.listed
  | .null, _ => ⟨_, rfl, readsAs_null⟩
  | .bool true, _ => ⟨_, rfl, readsAs_true⟩
  | .bool false, _ => ⟨_, rfl, readsAs_false⟩
  | .int _, h => ⟨_, if_pos h, readsAs_int h⟩
  | .text _, h => ⟨_, rfl, readsAs_text h⟩
  | .list vs, h => by
    obtain ⟨ts, hts, hreads⟩ := writeItems_readsItems vs h
    exact ⟨_, write_list_ok.mpr ⟨ts, hts, rfl⟩, readsAs_list hreads⟩
  | .tuple vs, h => by
    obtain ⟨ts, hts, hreads⟩ := writeItems_readsItems vs h
    exact ⟨_, (write_tuple vs).trans (write_list_ok.mpr ⟨ts, hts, rfl⟩), readsAs_list hreads⟩
  | .map es, h => by
    obtain ⟨ts, hts, hreads⟩ := writeEntries_readsEntries es h.1.1 h.2
    exact ⟨_, write_map_ok.mpr ⟨ts, hts, rfl⟩, readsAs_map hreads (keyed_listedEntries h.1)⟩
  | .float _, h | .datetime _, h | .date _, h | .uuid _, h => h.elim

theorem writeItems_readsItems : ∀ vs : List (Value RawText), Value.LosslessItems vs →
    ∃ ts, writeItems .lenient vs = .ok ts ∧ ReadsItems ts (Value.listedItems vs)
  | [], _ => ⟨[], rfl, readsParts_nil⟩
  | v :: vs, h => by
    obtain ⟨p, hp, hread⟩ := write_readsAs v h.1
    obtain ⟨ps, hps, hreads⟩ := writeItems_readsItems vs h.2
    exact ⟨_, writeItems_cons_ok.mpr ⟨p, ps, hp, hps, rfl⟩, readsItems_cons hread hreads⟩

theorem writeEntries_readsEntries : ∀ es : List (Value RawText × Value RawText), TextKeys es →
    Value.LosslessEntries es →
    ∃ ts, writeEntries .lenient es = .ok ts ∧ ReadsEntries ts (Value.listedEntries es)
  | [], _, _ => ⟨[], rfl, readsParts_nil⟩
  | (k, v) :: es, hkeys, h => by
    obtain ⟨⟨s, rfl⟩, hrest⟩ := List.forall_mem_cons.mp hkeys
    obtain ⟨p, hp, hread⟩ := write_readsAs v h.2.1
    obtain ⟨ps, hps, hreads⟩ := writeEntries_readsEntries es hrest h.2.2
    exact ⟨_, writeEntries_cons_ok.mpr ⟨_, p, ps, rfl, hp, hps, rfl⟩,
      readsEntries_cons h.1 hread hreads⟩
end

/-- With room for its brackets, the JSON text of a value is read again, all of it, and gives the
value with its tuples as lists. -/
theorem read_write (h : v.Lossless) (hroom : v.depth ≤ room) :
    ∃ t, write .lenient v = .ok t ∧ read room (.ofChars t) = .ok v.listed := by
  obtain ⟨t, ht, hbegins, hread⟩ := write_readsAs v h
  refine ⟨t, ht, ?_⟩
  have hblank := hbegins.skipBlanks []
  have hvalue := hread (2 * t.length + 1) room [] (by omega)
    (Value.depth_listed v ▸ hroom) (.inl rfl)
  rw [List.append_nil] at hblank hvalue
  have hpoints : (RawText.ofChars t).points = written t := rfl
  rw [read, hpoints, length_written, hblank, hvalue]
  rfl

end Json

end TenantStore
