import Mathlib.Data.List.Forall2
import TenantStore.Number.Decimal
import TenantStore.Sql.Quoting
import TenantStore.Text.Ascii

/-!
# SQL text as tokens

A reader of SQL text by the rules of the store's server: names in double quotes and strings in
single quotes end at a mark that is not doubled, and no other character has a meaning in them;
bodies stand between two equal dollar fences; comments are left out; every other token is a word, a
number or a single character. Statements end at semicolons. Two strings in a row, which the server
joins over a line end, stay two tokens; no statement of a table has them.

The reader goes through the text once, with a mode for what it is in. `Reads text tokens` says that
a text reads as these tokens in front of a character that breaks off any token, and `Closes` says so
in front of any text; both are carried from parts to a whole.
-/

namespace TenantStore.Sql

inductive Mark
  | single
  | double
deriving DecidableEq

def Mark.char : Mark → Char
  | .single => '\''
  | .double => '"'

inductive Token
  | quoted (mark : Mark) (text : String)
  | body (text : String)
  | word (text : String)
  | number (text : String)
  | symbol (c : Char)
deriving DecidableEq

namespace Token

def name (text : String) : Token := .quoted .double text

def string (text : String) : Token := .quoted .single text

def words (texts : List String) : List Token := texts.map .word

@[simp] theorem symbol_ne_name : symbol c ≠ name text := by simp [name]

@[simp] theorem symbol_ne_string : symbol c ≠ string text := by simp [string]

@[simp] theorem symbol_not_mem_words : symbol c ∉ words texts := by simp [words]

end Token

/-- What the reader is in, and what it has seen of it, the last character first. -/
inductive Mode
  | outside
  | word (seen : List Char)
  | number (seen : List Char)
  | quoted (mark : Mark) (seen : List Char)
  | closing (mark : Mark) (seen : List Char)
  | dash
  | lineComment
  | slash
  | blockComment (depth : Nat) (last : Char)
  | fence (seen : List Char)
  | body (delimiter seen : List Char)
  | refused
deriving DecidableEq

namespace Mode

def isBlank (c : Char) : Bool :=
  c == ' ' || c == '\n' || c == '\t' || c == '\r' || c.toNat == 11 || c.toNat == 12

/-- Words are made of letters, digits, underscores, dollar signs and whatever is not ASCII. -/
def isWordStart (c : Char) : Bool :=
  Text.isAsciiLetter c || c == '_' || 128 ≤ c.toNat

def isWordChar (c : Char) : Bool :=
  isWordStart c || Text.isAsciiDigit c || c == '$'

/-- A sign belongs to a decimal number right after the mark of an exponent. -/
def signFits (seen : List Char) : Bool :=
  match seen with
  | e :: ds => (e == 'e' || e == 'E') && ds.all fun d => Text.isAsciiDigit d || d == '.'
  | [] => false

def inNumber (seen : List Char) (c : Char) : Bool :=
  isWordChar c || c == '.' || ((c == '-' || c == '+') && signFits seen)

def textOf (seen : List Char) : String :=
  String.ofList seen.reverse

def start (c : Char) : List Token × Mode :=
  if isBlank c then ([], .outside)
  else if c = '\'' then ([], .quoted .single [])
  else if c = '"' then ([], .quoted .double [])
  else if c = '-' then ([], .dash)
  else if c = '/' then ([], .slash)
  else if c = '$' then ([], .fence [])
  else if Text.isAsciiDigit c then ([], .number [c])
  else if isWordStart c then ([], .word [c])
  else ([.symbol c], .outside)

def after (t : Token) (c : Char) : List Token × Mode :=
  (t :: (start c).1, (start c).2)

def step : Mode → Char → List Token × Mode
  | .outside, c => start c
  | .word seen, c =>
    if isWordChar c then ([], .word (c :: seen))
    else if c = '\'' then ([], .refused)
    else after (.word (textOf seen)) c
  | .number seen, c =>
    if inNumber seen c then ([], .number (c :: seen)) else after (.number (textOf seen)) c
  | .quoted mark seen, c =>
    if c = mark.char then ([], .closing mark seen) else ([], .quoted mark (c :: seen))
  | .closing mark seen, c =>
    if c = mark.char then ([], .quoted mark (c :: seen)) else after (.quoted mark (textOf seen)) c
  | .dash, c => if c = '-' then ([], .lineComment) else after (.symbol '-') c
  | .lineComment, c => if c = '\n' ∨ c = '\r' then ([], .outside) else ([], .lineComment)
  | .slash, c => if c = '*' then ([], .blockComment 0 ' ') else after (.symbol '/') c
  | .blockComment depth last, c =>
    if last = '*' ∧ c = '/' then
      ([], if depth = 0 then .outside else .blockComment (depth - 1) ' ')
    else if last = '/' ∧ c = '*' then ([], .blockComment (depth + 1) ' ')
    else ([], .blockComment depth c)
  | .fence seen, c =>
    if c = '$' then ([], .body ('$' :: seen ++ ['$']) [])
    else if isWordStart c || (Text.isAsciiDigit c && !seen.isEmpty) then ([], .fence (c :: seen))
    else ([], .refused)
  | .body delimiter seen, c =>
    if delimiter.isPrefixOf (c :: seen) then
      ([.body (textOf ((c :: seen).drop delimiter.length))], .outside)
    else ([], .body delimiter (c :: seen))
  | .refused, _ => ([], .refused)

def run : Mode → List Char → List Token × Mode
  | m, [] => ([], m)
  | m, c :: cs =>
    let (ts, m') := step m c
    let (us, m'') := run m' cs
    (ts ++ us, m'')

/-- The token that ends where the text does, if the text may end here. -/
def pending : Mode → Option (List Token)
  | .outside => some []
  | .word seen => some [.word (textOf seen)]
  | .number seen => some [.number (textOf seen)]
  | .closing mark seen => some [.quoted mark (textOf seen)]
  | .dash => some [.symbol '-']
  | .slash => some [.symbol '/']
  | .quoted .. | .lineComment | .blockComment .. | .fence _ | .body .. | .refused => none

end Mode

def tokens? (text : List Char) : Option (List Token) :=
  (Mode.run .outside text).2.pending.map ((Mode.run .outside text).1 ++ ·)

/-- Tokens in groups that a semicolon ends; nothing may follow the last one. -/
def split? : List Token → Option (List (List Token))
  | [] => some []
  | t :: ts =>
    match split? ts with
    | none => none
    | some groups =>
      if t = .symbol ';' then some ([] :: groups)
      else match groups with
        | [] => none
        | g :: groups => some ((t :: g) :: groups)

/-- The statements of a text, each without the semicolon that ends it. -/
def statements? (text : String) : Option (List (List Token)) :=
  (tokens? text.toList).bind split?

-- ---------------------------------------------------------------------------
-- Reading a text by parts
-- ---------------------------------------------------------------------------

/-- In front of a break and at the end, the text reads as these tokens. -/
def Reads (text : List Char) (ts : List Token) : Prop :=
  tokens? text = some ts

/-- In front of anything, the text reads as these tokens. -/
def Closes (text : List Char) (ts : List Token) : Prop :=
  Mode.run .outside text = (ts, .outside)

instance (text : List Char) (ts : List Token) : Decidable (Reads text ts) :=
  inferInstanceAs (Decidable (_ = _))

instance (text : List Char) (ts : List Token) : Decidable (Closes text ts) :=
  inferInstanceAs (Decidable (_ = _))

def isBreak (c : Char) : Bool :=
  [' ', '\n', ',', '(', ')', ';', ':'].contains c

def Broken (text : List Char) : Prop :=
  text.head?.any isBreak = true

namespace Mode

theorem run_append (m : Mode) (xs ys : List Char) : m.run (xs ++ ys) =
    ((m.run xs).1 ++ ((m.run xs).2.run ys).1, ((m.run xs).2.run ys).2) := by
  induction xs generalizing m with
  | nil => rfl
  | cons c xs ih => simp only [List.cons_append, run, ih, List.append_assoc]

/-- A break ends every token that may end, and is read by itself. -/
theorem step_break {m : Mode} (hm : m.pending = some p) (hc : isBreak c = true) :
    step m c = (p ++ (start c).1, (start c).2) := by
  have hother : isWordChar c = false ∧ c ≠ '\'' ∧ (∀ seen, inNumber seen c = false) ∧
      (∀ mark : Mark, c ≠ mark.char) ∧ c ≠ '-' ∧ c ≠ '*' := by
    simp only [isBreak, List.contains_eq_mem, List.mem_cons, List.not_mem_nil, or_false,
      decide_eq_true_eq] at hc
    obtain rfl | rfl | rfl | rfl | rfl | rfl | rfl := hc <;>
      exact ⟨by decide, by decide, fun _ => rfl, by intro mark; cases mark <;> decide, by decide,
        by decide⟩
  obtain ⟨hword, hquote, hnumber, hmark, hdash, hstar⟩ := hother
  cases m with
  | outside =>
    obtain rfl := Option.some.inj hm
    rfl
  | word seen =>
    obtain rfl := Option.some.inj hm
    simp [step, hword, hquote, after]
  | number seen =>
    obtain rfl := Option.some.inj hm
    simp [step, hnumber, after]
  | closing mark seen =>
    obtain rfl := Option.some.inj hm
    simp [step, hmark, after]
  | dash =>
    obtain rfl := Option.some.inj hm
    simp [step, hdash, after]
  | slash =>
    obtain rfl := Option.some.inj hm
    simp [step, hstar, after]
  | _ => cases hm

theorem run_break {m : Mode} (hm : m.pending = some p) (hb : Broken text) :
    m.run text = (p ++ (run .outside text).1, (run .outside text).2) := by
  cases text with
  | nil => cases hb
  | cons c text =>
    have hstep : step .outside c = start c := rfl
    simp only [run, hstep, step_break hm hb, List.append_assoc]

end Mode

open Mode

theorem Closes.reads (h : Closes text ts) : Reads text ts := by
  unfold Closes at h
  simp [Reads, tokens?, h, pending]

theorem closes_nil : Closes [] [] := rfl

theorem Closes.append_closes (h : Closes a ts) (h' : Closes b us) : Closes (a ++ b) (ts ++ us) := by
  unfold Closes at *
  rw [run_append, h, h']

theorem Closes.append_reads (h : Closes a ts) (h' : Reads b us) : Reads (a ++ b) (ts ++ us) := by
  unfold Closes at h
  unfold Reads tokens? at *
  rw [run_append, h]
  obtain ⟨p, hp, rfl⟩ := Option.map_eq_some_iff.mp h'
  simp [hp]

theorem Reads.append_closes (h : Reads a ts) (h' : Closes b us) (hb : Broken b) :
    Closes (a ++ b) (ts ++ us) := by
  obtain ⟨p, hp, rfl⟩ := Option.map_eq_some_iff.mp h
  unfold Closes at *
  rw [run_append, run_break hp hb, h']
  simp

theorem Reads.append_reads (h : Reads a ts) (h' : Reads b us) (hb : Broken b) :
    Reads (a ++ b) (ts ++ us) := by
  obtain ⟨p, hp, rfl⟩ := Option.map_eq_some_iff.mp h
  obtain ⟨q, hq, rfl⟩ := Option.map_eq_some_iff.mp h'
  unfold Reads tokens?
  rw [run_append, run_break hp hb]
  simp [hq]

theorem Reads.between (h : Reads a ts) (hs : Closes s us) (hb : Broken s) (h' : Reads b vs) :
    Reads (a ++ (s ++ b)) (ts ++ (us ++ vs)) := by
  rw [← List.append_assoc, ← List.append_assoc]
  exact (h.append_closes hs hb).append_reads h'

/-- Texts that are joined by a closing one read part by part. -/
theorem reads_intercalate (hs : Closes s us) (hb : Broken s) (h : List.Forall₂ Reads parts tss) :
    Reads (s.intercalate parts) (us.intercalate tss) := by
  induction h with
  | nil => exact closes_nil.reads
  | @cons part ts parts tss hpart hparts ih =>
    cases hparts with
    | nil => simpa using hpart
    | cons hnext hrest =>
      rw [List.intercalate_cons_cons, List.intercalate_cons_cons, List.append_assoc,
        List.append_assoc]
      exact hpart.between hs hb ih

-- ---------------------------------------------------------------------------
-- Quoted text
-- ---------------------------------------------------------------------------

/-- A doubled mark is read as the mark, so the quoted text ends where it was ended. -/
theorem run_quoted (mark : Mark) (cs seen : List Char) :
    run (.quoted mark seen) (cs.flatMap (fun c => if c = mark.char then [mark.char, mark.char]
      else [c]) ++ [mark.char]) = ([], .closing mark (cs.reverse ++ seen)) := by
  induction cs generalizing seen with
  | nil => simp [run, step]
  | cons c cs ih =>
    rw [List.flatMap_cons, List.append_assoc, run_append]
    by_cases hc : c = mark.char
    · subst hc
      simp [run, step, ih]
    · simp [run, step, hc, ih]

theorem reads_quoted (mark : Mark) (cs : List Char) :
    Reads (quoteChars mark.char cs) [.quoted mark (String.ofList cs)] := by
  have hstart : step .outside mark.char = ([], .quoted mark []) := by cases mark <;> rfl
  unfold Reads tokens? quoteChars
  simp [run, hstart, run_quoted, pending, textOf]

theorem reads_quoteIdent (text : String) : Reads (quoteIdent text).toList [.name text] := by
  have h := reads_quoted .double text.toList
  rw [String.ofList_toList] at h
  rw [quoteIdent, String.toList_ofList]
  exact h

/-- A quoted name between two texts is one token, whatever it contains. -/
theorem Closes.named (h : Closes a ts) (name : String) (h' : Closes b us) (hb : Broken b) :
    Closes (a ++ (quoteIdent name).toList ++ b) (ts ++ [.name name] ++ us) :=
  (h.append_reads (reads_quoteIdent name)).append_closes h' hb

theorem reads_quoteLiteral (text : String) : Reads (quoteLiteral text).toList [.string text] := by
  have h := reads_quoted .single text.toList
  rw [String.ofList_toList] at h
  rw [quoteLiteral, String.toList_ofList]
  exact h

-- ---------------------------------------------------------------------------
-- Numbers
-- ---------------------------------------------------------------------------

def isNumeral (c : Char) : Bool :=
  Text.isAsciiDigit c || c == '.'

theorem inNumber_of_isNumeral (h : isNumeral c = true) (seen : List Char) :
    inNumber seen c = true := by
  unfold isNumeral at h
  unfold inNumber isWordChar
  rw [Bool.or_eq_true] at h
  obtain h | h := h <;> simp [h]

theorem run_number_cons (h : inNumber seen c = true) (cs : List Char) :
    run (.number seen) (c :: cs) = run (.number (c :: seen)) cs := by
  simp [run, step, h]

theorem run_number (h : ∀ c ∈ cs, isNumeral c = true) (seen : List Char) :
    run (.number seen) cs = ([], .number (cs.reverse ++ seen)) := by
  induction cs generalizing seen with
  | nil => rfl
  | cons c cs ih =>
    obtain ⟨hc, hcs⟩ := List.forall_mem_cons.mp h
    rw [run_number_cons (inNumber_of_isNumeral hc seen), ih hcs]
    simp

theorem start_digit (h : Text.isAsciiDigit c = true) : start c = ([], .number [c]) := by
  have hdigits : ∀ n < 58, 48 ≤ n → start (Char.ofNat n) = ([], .number [Char.ofNat n]) := by
    decide
  simp only [Text.isAsciiDigit, Bool.and_eq_true, decide_eq_true_eq] at h
  have hlow : 48 ≤ c.toNat := h.1
  have hhigh : c.toNat ≤ 57 := h.2
  have hc := hdigits c.toNat (by omega) hlow
  rwa [Char.ofNat_toNat] at hc

theorem reads_of_run_number (hc : Text.isAsciiDigit c = true)
    (h : run (.number [c]) cs = ([], .number (cs.reverse ++ [c]))) :
    Reads (c :: cs) [.number (String.ofList (c :: cs))] := by
  have hstart : step .outside c = ([], .number [c]) := start_digit hc
  unfold Reads tokens?
  simp [run, hstart, h, pending, textOf]

theorem reads_numeral (hc : Text.isAsciiDigit c = true) (hcs : ∀ d ∈ cs, isNumeral d = true) :
    Reads (c :: cs) [.number (String.ofList (c :: cs))] :=
  reads_of_run_number hc (run_number hcs [c])

theorem reads_scientific (hc : Text.isAsciiDigit c = true) (hcs : ∀ d ∈ cs, isNumeral d = true)
    {sign : Char} (hsign : sign = '-' ∨ sign = '+') (hds : ∀ d ∈ ds, isNumeral d = true) :
    Reads (c :: (cs ++ 'e' :: sign :: ds))
      [.number (String.ofList (c :: (cs ++ 'e' :: sign :: ds)))] := by
  have hmark : inNumber (cs.reverse ++ [c]) 'e' = true := rfl
  have hfits : signFits ('e' :: (cs.reverse ++ [c])) = true := by
    simp only [signFits, beq_self_eq_true, Bool.true_or, Bool.true_and, List.all_eq_true,
      List.mem_append, List.mem_reverse, List.mem_singleton]
    rintro d (hd | rfl)
    · exact hcs d hd
    · simp [hc]
  have hin : inNumber ('e' :: (cs.reverse ++ [c])) sign = true := by
    obtain rfl | rfl := hsign <;> simp [inNumber, hfits]
  refine reads_of_run_number hc ?_
  rw [run_append, run_number hcs]
  simp [run_number_cons hmark, run_number_cons hin, run_number hds]

-- ---------------------------------------------------------------------------
-- Statements
-- ---------------------------------------------------------------------------

def Inner (ts : List Token) : Prop :=
  .symbol ';' ∉ ts

theorem split?_append (h : Inner g) (ts : List Token) :
    split? (g ++ .symbol ';' :: ts) = (split? ts).map (g :: ·) := by
  induction g with
  | nil =>
    rw [List.nil_append, split?]
    cases split? ts <;> simp
  | cons t g ih =>
    obtain ⟨ht, hg⟩ := List.ne_and_not_mem_of_not_mem_cons h
    rw [List.cons_append, split?, ih hg]
    cases split? ts with
    | none => rfl
    | some groups => simp [Ne.symm ht]

end TenantStore.Sql
