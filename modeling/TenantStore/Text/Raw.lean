/-!
# Raw texts

A text from outside can hold half of a surrogate pair, which stands for no character by itself. So
it is a list of points, each a character or a half. The texts that are made here have characters
only.
-/

namespace TenantStore

/-- A character, or a half by its place: the first 1024 begin a pair, the others end one. -/
inductive Point
  | char (c : Char)
  | half (place : Fin 0x800)
deriving DecidableEq

namespace Point

/-- The point of a code below `0x110000`; what is no character is a half. -/
def ofCode (n : Nat) : Point :=
  if n.isValidChar then .char (Char.ofNat n) else .half (Fin.ofNat 0x800 n)

def code : Point → Nat
  | .char c => c.toNat
  | .half place => 0xd800 + place

def char? : Point → Option Char
  | .char c => some c
  | .half _ => none

end Point

structure RawText where
  points : List Point
deriving DecidableEq

namespace RawText

def ofChars (cs : List Char) : RawText :=
  ⟨cs.map Point.char⟩

def ofString (s : String) : RawText :=
  ofChars s.toList

/-- The text in the strict sense, if it has no halves. -/
def toString? (t : RawText) : Option String :=
  (t.points.mapM Point.char?).map String.ofList

instance : Coe String RawText := ⟨ofString⟩

instance : Append RawText := ⟨fun s t => ⟨s.points ++ t.points⟩⟩

@[simp] theorem ofString_ofList (cs : List Char) : ofString (String.ofList cs) = ofChars cs := by
  rw [ofString, String.toList_ofList]

theorem mapM_char? (cs : List Char) : (cs.map Point.char).mapM Point.char? = some cs := by
  induction cs with
  | nil => rfl
  | cons c cs ih => simp [Point.char?, ih]

@[simp] theorem toString?_ofString (s : String) : (ofString s).toString? = some s := by
  rw [toString?, ofString, ofChars, mapM_char?, Option.map_some, String.ofList_toList]

@[simp] theorem ofString_inj {s t : String} : ofString s = ofString t ↔ s = t := by
  refine ⟨fun h => ?_, congrArg ofString⟩
  rw [← Option.some.injEq, ← toString?_ofString, ← toString?_ofString, h]

end RawText

/-- A type of texts: strict ones or raw ones. -/
class Textual (τ : Type) where
  ofString : String → τ
  raw : τ → RawText
  strict? : τ → Option String

instance : Textual String := ⟨fun s => s, RawText.ofString, some⟩

instance : Textual RawText := ⟨RawText.ofString, fun t => t, RawText.toString?⟩

@[simp] theorem Textual.ofString_eq (s : String) : (Textual.ofString s : String) = s := rfl

@[simp] theorem Textual.strict?_eq (s : String) : Textual.strict? s = some s := rfl

end TenantStore
