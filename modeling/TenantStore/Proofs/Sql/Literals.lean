import TenantStore.Proofs.Json.Writing
import TenantStore.Proofs.Number.Digits
import TenantStore.Proofs.Sql.Tokens
import TenantStore.Sql.Column

/-!
# Literals and defaults as tokens

The SQL of a default reads as the tokens of its value: a number with its sign, a boolean, or one
string with the whole text in it, whatever characters the text has (`reads_literal`).
-/

namespace TenantStore.Sql

open Mode

-- ---------------------------------------------------------------------------
-- Numbers
-- ---------------------------------------------------------------------------

/-- A text that begins with a digit and is one number. -/
structure IsNumber (cs : List Char) : Prop where
  head : cs.head?.any Text.isAsciiDigit = true
  reads : Reads cs [.number (String.ofList cs)]

theorem IsNumber.numeral (hc : Text.isAsciiDigit c = true) (hcs : ∀ d ∈ cs, isNumeral d = true) :
    IsNumber (c :: cs) :=
  ⟨hc, reads_numeral hc hcs⟩

theorem isNumeral_of_isDigit (h : Text.isAsciiDigit c = true) : isNumeral c = true := by
  simp [isNumeral, h]

theorem IsNumber.digits (hne : cs ≠ []) (h : ∀ c ∈ cs, Text.isAsciiDigit c = true) :
    IsNumber cs := by
  obtain ⟨c, cs, rfl⟩ := List.exists_cons_of_ne_nil hne
  obtain ⟨hc, hcs⟩ := List.forall_mem_cons.mp h
  exact .numeral hc fun d hd => isNumeral_of_isDigit (hcs d hd)

theorem isNumber_natChars (n : Nat) : IsNumber (Decimal.natChars n) :=
  .digits (Decimal.natChars_ne_nil n) (Decimal.natChars_digits n)

/-- A number has the same tokens behind a minus sign, which is a token of its own. -/
theorem IsNumber.reads_minus (h : IsNumber cs) :
    Reads ('-' :: cs) [.symbol '-', .number (String.ofList cs)] := by
  obtain ⟨hhead, hreads⟩ := h
  cases cs with
  | nil => cases hhead
  | cons c cs =>
    have hc : c ≠ '-' := by
      rintro rfl
      cases hhead
    have hdash : step .outside '-' = ([], .dash) := rfl
    have hfirst : step .dash c = after (.symbol '-') c := if_neg hc
    have hstart : step .outside c = start c := rfl
    obtain ⟨p, hp, htokens⟩ := Option.map_eq_some_iff.mp hreads
    unfold Reads tokens?
    simp only [run, hstart] at hp htokens
    simp only [run, hdash, hfirst, after, List.nil_append, List.cons_append, hp, htokens,
      Option.map_some]

def intTokens : Int → List Token
  | .ofNat n => [.number (Decimal.natText n)]
  | .negSucc n => [.symbol '-', .number (Decimal.natText (n + 1))]

theorem reads_intText (i : Int) : Reads (Decimal.intText i).toList (intTokens i) := by
  rw [Decimal.intText, String.toList_ofList]
  cases i with
  | ofNat n => exact (isNumber_natChars n).reads
  | negSucc n => exact (isNumber_natChars (n + 1)).reads_minus

section
variable {ds : List Nat} (hne : ds ≠ []) (hds : ∀ d ∈ ds, d < 10)
include hne hds

theorem exists_written : ∃ c cs, ds.map Decimal.digitChar = c :: cs ∧
    Text.isAsciiDigit c = true ∧ ∀ d ∈ cs, isNumeral d = true := by
  obtain ⟨d, ds, rfl⟩ := List.exists_cons_of_ne_nil hne
  obtain ⟨hd, hrest⟩ := List.forall_mem_cons.mp hds
  exact ⟨_, _, rfl, Decimal.digitChar_isDigit hd, fun c hc =>
    isNumeral_of_isDigit (Decimal.isDigit_of_mem_map hrest c hc)⟩

theorem isNumber_positional (e : Int) :
    IsNumber (NumberStyle.literal.positionalChars ds e) := by
  obtain ⟨c, cs, hwritten, hc, hcs⟩ := exists_written hne hds
  have hzeros : ∀ n, ∀ d ∈ List.replicate n '0', isNumeral d = true := by
    intro n d hd
    rw [List.eq_of_mem_replicate hd]
    rfl
  have hmark : ∀ d ∈ NumberStyle.literal.integralMark, isNumeral d = true :=
    List.forall_mem_cons.mpr ⟨rfl, List.forall_mem_cons.mpr ⟨rfl, by simp⟩⟩
  unfold NumberStyle.positionalChars
  rw [hwritten]
  dsimp only
  split
  · refine .numeral rfl fun d hd => ?_
    simp only [List.mem_cons, List.mem_append] at hd
    obtain rfl | hd | rfl | hd := hd
    · rfl
    · exact hzeros _ d hd
    · exact isNumeral_of_isDigit hc
    · exact hcs d hd
  · split
    · refine .numeral hc fun d hd => ?_
      simp only [List.append_eq, List.mem_append] at hd
      obtain (hd | hd) | hd := hd
      · exact hcs d hd
      · exact hzeros _ d hd
      · exact hmark d hd
    · refine .numeral hc fun d hd => ?_
      simp only [List.append_eq, List.mem_append, List.mem_cons] at hd
      obtain hd | rfl | hd := hd
      · exact hcs d (List.mem_of_mem_take hd)
      · rfl
      · exact hcs d (List.mem_of_mem_drop hd)

theorem isNumber_scientific (e : Int) : IsNumber (NumberStyle.scientificChars ds e) := by
  obtain ⟨c, cs, hwritten, hc, hcs⟩ := exists_written hne hds
  have hsign : (if e < 0 then '-' else '+') = '-' ∨ (if e < 0 then '-' else '+') = '+' := by
    split
    · exact .inl rfl
    · exact .inr rfl
  have hexponent : ∀ d ∈ Decimal.padded 2 e.natAbs, isNumeral d = true := fun d hd =>
    isNumeral_of_isDigit (Decimal.padded_digits 2 e.natAbs d hd)
  unfold NumberStyle.scientificChars
  rw [hwritten]
  cases cs with
  | nil => exact ⟨hc, reads_scientific hc hcs hsign hexponent⟩
  | cons d cs =>
    have hplaces : ∀ d' ∈ '.' :: d :: cs, isNumeral d' = true :=
      List.forall_mem_cons.mpr ⟨rfl, hcs⟩
    exact ⟨hc, reads_scientific hc hplaces hsign hexponent⟩

end

def floatTokens : Binary64 → List Token
  | .nan => [.word "nan"]
  | .infinite false => [.word "inf"]
  | .infinite true => [.symbol '-', .word "inf"]
  | .finite false m q h => [.number (NumberStyle.literal.text (.finite false m q h))]
  | .finite true m q h =>
    [.symbol '-', .number (NumberStyle.literal.text (.finite false m q h))]

theorem isNumber_finite (h : Binary64.Canonical m q) :
    IsNumber (NumberStyle.literal.chars (.finite false m q h)) := by
  have hne := Shortest.decimal_ne_nil NumberStyle.literal.tie m q
  have hds := Shortest.decimal_digits NumberStyle.literal.tie m q
  unfold NumberStyle.chars
  dsimp only
  rw [if_neg Bool.false_ne_true]
  split
  · exact isNumber_positional hne hds _
  · exact isNumber_scientific hne hds _

theorem reads_floatText (x : Binary64) :
    Reads (NumberStyle.literal.text x).toList (floatTokens x) := by
  rw [NumberStyle.text, String.toList_ofList]
  match x with
  | .nan => rfl
  | .infinite false => rfl
  | .infinite true => rfl
  | .finite false m q h => exact (isNumber_finite h).reads
  | .finite true m q h => exact (isNumber_finite h).reads_minus

theorem inner_int (i : Int) : Inner (intTokens i) := by
  cases i <;> simp [Inner, intTokens]

theorem inner_float (x : Binary64) : Inner (floatTokens x) := by
  unfold Inner floatTokens
  split <;> simp

-- ---------------------------------------------------------------------------
-- Values
-- ---------------------------------------------------------------------------

/-- A list or mapping is its JSON text in a string, and a cast. -/
def jsonTokens (v : Value) : List Token :=
  match Json.write .lenient v with
  | .ok encoded => [.string (String.ofList encoded), .symbol ':', .symbol ':', .word "jsonb"]
  | .error _ => []

def literalTokens : Value → List Token
  | .bool b => [.word (if b then "TRUE" else "FALSE")]
  | .int i => intTokens i
  | .float x => floatTokens x
  | .text s => [.string s]
  | .datetime t => [.string t.isoText]
  | .date d => [.string d.text]
  | .uuid u => [.string u.text]
  | .null => [.string "None"]
  | v => jsonTokens v

theorem reads_json (h : (do
    let encoded ← Json.write .lenient v
    return quoteLiteral (String.ofList encoded) ++ "::jsonb") = Except.ok text) :
    Reads text.toList (jsonTokens v) := by
  unfold jsonTokens
  cases hw : Json.write .lenient v with
  | error fault =>
    rw [hw] at h
    cases h
  | ok encoded =>
    rw [hw] at h
    obtain rfl := Except.ok.inj h
    rw [String.toList_append]
    have hcast : Reads "::jsonb".toList [.symbol ':', .symbol ':', .word "jsonb"] := rfl
    exact (reads_quoteLiteral _).append_reads hcast rfl

theorem reads_literal (h : literal v = .ok text) : Reads text.toList (literalTokens v) := by
  cases v with
  | list items => exact reads_json h
  | tuple items => exact reads_json h
  | map entries => exact reads_json h
  | bool b =>
    obtain rfl := Except.ok.inj h
    cases b <;> rfl
  | int i =>
    obtain ⟨cs, hcs, rfl⟩ := Json.map_ok.mp h
    obtain ⟨-, rfl⟩ := Json.integerChars_ok.mp hcs
    exact reads_intText i
  | float x =>
    obtain rfl := Except.ok.inj h
    exact reads_floatText x
  | _ =>
    obtain rfl := Except.ok.inj h
    exact reads_quoteLiteral _

theorem inner_literal (v : Value) : Inner (literalTokens v) := by
  have hjson : Inner (jsonTokens v) := by
    unfold Inner jsonTokens
    split <;> simp
  cases v with
  | int i => exact inner_int i
  | float x => exact inner_float x
  | list | tuple | map => exact hjson
  | _ => simp [Inner, literalTokens, Token.string]

-- ---------------------------------------------------------------------------
-- Defaults
-- ---------------------------------------------------------------------------

def callTokens (function : String) : List Token :=
  [.word function, .symbol '(', .symbol ')']

def deferredTokens : Deferred → List Token
  | .now => callTokens "NOW"
  | .uuid => callTokens "gen_random_uuid"

def defaultTokens (m : Modifiers) : Option (List Token) :=
  if !m.hasDefault then none
  else if m.nullDefault then some [.word "NULL"]
  else match m.deferred with
    | some d => some (deferredTokens d)
    | none => some (literalTokens m.default)

/-- Both are absent, or the text reads as the tokens. -/
def DefaultReads : Option String → Option (List Token) → Prop :=
  Option.Rel fun text ts => Reads text.toList ts

theorem defaultSql_reads (h : Column.defaultSql m = .ok sql) :
    DefaultReads sql (defaultTokens m) := by
  unfold Column.defaultSql at h
  unfold defaultTokens
  cases hhas : m.hasDefault with
  | false =>
    rw [hhas] at h
    obtain rfl := Except.ok.inj h
    exact .none
  | true =>
    simp only [hhas, Bool.not_true, Bool.false_eq_true, if_false] at h ⊢
    by_cases hnull : m.nullDefault = true
    · rw [if_pos hnull] at h ⊢
      obtain rfl := Except.ok.inj h
      exact .some rfl
    · rw [if_neg hnull] at h ⊢
      cases hd : m.deferred with
      | some d =>
        rw [hd] at h
        obtain rfl := Except.ok.inj h
        cases d <;> exact .some rfl
      | none =>
        rw [hd] at h
        cases hl : literal m.default with
        | error fault =>
          simp only [hl] at h
          cases h
        | ok text =>
          simp only [hl] at h
          obtain rfl := Except.ok.inj h
          exact .some (reads_literal hl)

theorem inner_default (h : defaultTokens m = some ts) : Inner ts := by
  unfold defaultTokens at h
  split at h
  · cases h
  split at h
  · obtain rfl := Option.some.inj h
    simp [Inner]
  split at h
  · next d _ =>
    obtain rfl := Option.some.inj h
    cases d <;> simp [Inner, deferredTokens, callTokens]
  · obtain rfl := Option.some.inj h
    exact inner_literal m.default

end TenantStore.Sql
