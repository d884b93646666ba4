import TenantStore.Proofs.Json.Reading
import TenantStore.Sql.Literal

/-!
# JSON defaults

The literal of a list or a mapping is its JSON text in quotes, with the quotes in it doubled, and a
cast. `literal_lossless`: both layers can be taken off again, and what is found is the value with
its tuples as lists, so no two values have the same literal unless they differ in that only. Not
every value is found again: two halves of a surrogate pair become one character, and an integer that
is too long has no literal (`literal_lossless_halves`).
-/

namespace TenantStore

theorem Decimal.lt_pow_of_length (h : (natChars n).length ≤ k) : n < Nat.pow 10 k := by
  rw [natChars, List.length_map] at h
  exact Nat.lt_of_lt_of_le (lt_pow_digits n) (Nat.pow_le_pow_right (by decide) h)

section
variable {τ : Type} [Textual τ]

mutual
theorem Json.write_listed : ∀ v : Value τ, write rules v.listed = write rules v
  | .list vs => by rw [Value.listed, write, write, writeItems_listed vs]
  | .tuple vs => by rw [Value.listed, write, write, writeItems_listed vs]
  | .map es => by rw [Value.listed, write, write, writeEntries_listed es]
  | .null | .bool _ | .int _ | .float _ | .text _ | .datetime _ | .date _ | .uuid _ => rfl

theorem Json.writeItems_listed : ∀ vs : List (Value τ),
    writeItems rules (Value.listedItems vs) = writeItems rules vs
  | [] => rfl
  | v :: vs => by
    rw [Value.listedItems, writeItems, writeItems, write_listed v, writeItems_listed vs]

theorem Json.writeEntries_listed : ∀ es : List (Value τ × Value τ),
    writeEntries rules (Value.listedEntries es) = writeEntries rules es
  | [] => rfl
  | (k, v) :: es => by
    rw [Value.listedEntries, writeEntries, writeEntries, write_listed v, writeEntries_listed es]
end

end

namespace Sql

def IsContainer {τ : Type} : Value τ → Prop
  | .list _ | .tuple _ | .map _ => True
  | _ => False

/-- The text of a string in quotes, where two quotes stand for one; there is no single one in it. -/
def undoubled? : List Char → Option (List Char)
  | [] => some []
  | '\'' :: '\'' :: cs => (undoubled? cs).map ('\'' :: ·)
  | '\'' :: _ => none
  | c :: cs => (undoubled? cs).map (c :: ·)

def doubled (cs : List Char) : List Char :=
  cs.flatMap fun c => if c = '\'' then ['\'', '\''] else [c]

theorem undoubled?_doubled (cs : List Char) : undoubled? (doubled cs) = some cs := by
  induction cs with
  | nil => rfl
  | cons c cs ih =>
    unfold doubled at ih ⊢
    rw [List.flatMap_cons]
    by_cases hc : c = '\''
    · rw [if_pos hc, hc, List.cons_append, List.cons_append, List.nil_append, undoubled?, ih]
      rfl
    · rw [if_neg hc, List.singleton_append, undoubled?, ih]
      · rfl
      · exact fun _ h _ => hc h
      · exact fun h => hc h

def jsonLiteral (encoded : List Char) : String :=
  "'" ++ String.ofList (doubled encoded) ++ "'::jsonb"

theorem jsonLiteral_injective (h : jsonLiteral t = jsonLiteral u) : t = u := by
  have hdoubled : doubled t = doubled u := by
    have htext := congrArg String.toList h
    simp only [jsonLiteral, String.toList_append, String.toList_ofList] at htext
    exact List.append_cancel_left (List.append_cancel_right htext)
  rw [← Option.some.injEq, ← undoubled?_doubled, ← undoubled?_doubled, hdoubled]

variable {v w : Value RawText}

theorem literal_container (h : IsContainer v) (hw : Json.write .lenient v = .ok encoded) :
    literal v = .ok (RawText.ofString (jsonLiteral encoded)) := by
  have hquoted : quoteLiteral (String.ofList encoded) ++ "::jsonb" = jsonLiteral encoded := by
    have hopening : "'".toList = ['\''] := rfl
    have hclosing : "'::jsonb".toList = '\'' :: "::jsonb".toList := by decide
    refine String.toList_injective ?_
    rw [jsonLiteral, String.toList_append, String.toList_append, String.toList_append, hopening,
      hclosing, quoteLiteral]
    simp only [String.toList_ofList, quoteChars, doubled, List.cons_append, List.append_assoc,
      List.nil_append]
  have hliteral : literal v = (do
      let encoded ← Json.write .lenient v
      return RawText.ofString (quoteLiteral (String.ofList encoded) ++ "::jsonb")) := by
    cases v with
    | list | tuple | map => rfl
    | _ => exact h.elim
  rw [hliteral, hw, ← hquoted]
  rfl

/-- The literal of a list or a mapping is a text in quotes with a cast. Where it has doubled quotes
the text has single ones, and then a JSON reader with room for its brackets takes all of it and
finds the value, with its tuples as lists. So values have the same literal if and only if they are
the same but for tuples and lists. -/
theorem literal_lossless (hv : IsContainer v) (h : v.Lossless) (hroom : v.depth ≤ room) :
    ∃ (body : String) (encoded : List Char),
      literal v = .ok (RawText.ofString ("'" ++ body ++ "'::jsonb")) ∧
      undoubled? body.toList = some encoded ∧
      Json.read room (.ofChars encoded) = .ok v.listed ∧
      ∀ w, IsContainer w → w.Lossless → w.depth ≤ room →
        (literal w = literal v ↔ w.listed = v.listed) := by
  obtain ⟨t, ht, hread⟩ := Json.read_write h hroom
  refine ⟨String.ofList (doubled t), t, literal_container hv ht, ?_, hread,
    fun w hw hlossless hdepth => ?_⟩
  · rw [String.toList_ofList, undoubled?_doubled]
  obtain ⟨u, hu, hreadw⟩ := Json.read_write hlossless hdepth
  rw [literal_container hv ht, literal_container hw hu]
  constructor
  · intro heq
    have htext : jsonLiteral u = jsonLiteral t := by
      have hstrict := congrArg RawText.toString? (Except.ok.inj heq)
      simpa only [RawText.toString?_ofString, Option.some.injEq] using hstrict
    rw [jsonLiteral_injective htext, hread] at hreadw
    exact (Except.ok.inj hreadw).symm
  · intro heq
    rw [← Json.write_listed w, heq, Json.write_listed v, ht] at hu
    rw [Except.ok.inj hu]

def noteDefault : Value RawText :=
  .map [(.text "title", .text "it's"), (.text "half", .text ⟨[.half ⟨0x3d, by decide⟩]⟩),
    (.text "marks", .tuple [.null, .bool true])]

/-- The tuple comes back as a list, and the quote, the half and the order of the entries stay. -/
theorem literal_lossless_note :
    let back : Value RawText := .map [(.text "title", .text "it's"),
      (.text "half", .text ⟨[.half ⟨0x3d, by decide⟩]⟩), (.text "marks", .list [.null, .bool true])]
    IsContainer noteDefault ∧ noteDefault.Lossless ∧ noteDefault.depth ≤ 2 ∧
      ∃ (body : String) (encoded : List Char),
        literal noteDefault = .ok (RawText.ofString ("'" ++ body ++ "'::jsonb")) ∧
        undoubled? body.toList = some encoded ∧ Json.read 2 (.ofChars encoded) = .ok back := by
  intro back
  have hlossless : noteDefault.Lossless := by
    have text (s : String) : (RawText.ofString s).Unpaired := Json.unpaired_ofChars s.toList
    refine ⟨⟨?_, ?_⟩, text _, text _, text _, .singleton _, text _,
      ⟨trivial, trivial, trivial⟩, trivial⟩
    · simp [Json.TextKeys]
    · simp
  have hcontainer : IsContainer noteDefault := trivial
  have hdepth : noteDefault.depth ≤ 2 := by decide
  obtain ⟨body, encoded, hliteral, hbody, hread, -⟩ := literal_lossless hcontainer hlossless hdepth
  exact ⟨hcontainer, hlossless, hdepth, body, encoded, hliteral, hbody, hread⟩

def halves : Value RawText :=
  .list [.text ⟨[.half ⟨0x3d, by decide⟩, .half ⟨0x600, by decide⟩]⟩]

def joined : Value RawText :=
  .list [.text ⟨[.char '😀']⟩]

/-- Both lists have the same literal, in which a reader finds the character. And where an integer is
too long there is no literal at all. -/
theorem literal_lossless_halves :
    (IsContainer halves ∧ IsContainer joined ∧ halves.listed ≠ joined.listed) ∧
      (∃ encoded : List Char, literal halves = .ok (RawText.ofString (jsonLiteral encoded)) ∧
        literal joined = .ok (RawText.ofString (jsonLiteral encoded)) ∧
        Json.read 1 (.ofChars encoded) = .ok joined) ∧
      ∀ i : Int, Nat.pow 10 Decimal.maxDigits ≤ i.natAbs →
        literal (.list [.int i] : Value RawText) = .error .tooManyDigits := by
  refine ⟨⟨trivial, trivial, ?_⟩, ?_, fun i hi => ?_⟩
  · simp [halves, joined, Value.listed, Value.listedItems]
  · have hpoints :
        [Point.half ⟨0x3d, by decide⟩, .half ⟨0x600, by decide⟩].flatMap Json.stringPoint =
          [Point.char '😀'].flatMap Json.stringPoint := by decide +kernel
    have hwrite : Json.write .lenient halves = Json.write .lenient joined := by
      simp only [halves, joined, Json.write, Json.writeItems]
      exact congrArg (fun cs => Except.ok ('[' :: ('"' :: cs ++ ['"']) ++ [']'])) hpoints
    have hjoined : joined.Lossless := ⟨.singleton _, trivial⟩
    obtain ⟨encoded, hencoded, hread⟩ := Json.read_write hjoined (show joined.depth ≤ 1 by decide)
    exact ⟨encoded, literal_container trivial (hwrite.trans hencoded),
      literal_container trivial hencoded, hread⟩
  · have hlong : Json.integerChars i = .error .tooManyDigits :=
      if_neg fun h => absurd (Decimal.lt_pow_of_length h) (Nat.not_lt.mpr hi)
    have hwrite : Json.write .lenient (.list [.int i] : Value RawText) = .error .tooManyDigits := by
      simp only [Json.write, Json.writeItems, hlong]
      rfl
    simp only [literal, hwrite]
    rfl

end Sql

end TenantStore
