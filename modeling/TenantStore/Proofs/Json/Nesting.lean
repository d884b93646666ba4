import TenantStore.ControlPlane.Answer
import TenantStore.Proofs.Json.Writing

/-!
# Room for brackets

A reader takes room for every bracket that it opens, and gives it back when the bracket is closed. A
text never uses up more than one place for each opening bracket in it (`read_ne_tooNested`), and one
that opens more brackets than there is room for before anything else does use it up
(`read_opening`).
-/

namespace TenantStore

namespace Json

def isOpening (p : Point) : Bool :=
  p == .char '[' || p == .char '\x7b'

def openings (ps : List Point) : Nat :=
  ps.countP isOpening

theorem openings_le (h : rest <:+ ps) : openings rest ≤ openings ps :=
  h.sublist.countP_le

-- ---------------------------------------------------------------------------
-- What a reader leaves
-- ---------------------------------------------------------------------------

/-- The reader has room for what it reads, and leaves an end of it. -/
structure Fits {α : Type} (ps : List Point) (r : Except ReadFault (α × List Point)) : Prop where
  fits : r ≠ .error .tooNested
  leaves : ∀ a rest, r = .ok (a, rest) → rest <:+ ps

section
variable {α β : Type} {ps qs : List Point} {r : Except ReadFault (α × List Point)}

theorem Fits.ok (a : α) (h : rest <:+ ps) : Fits ps (.ok (a, rest)) := by
  refine ⟨nofun, ?_⟩
  rintro _ _ ⟨⟩
  exact h

theorem Fits.malformed : Fits (α := α) ps (.error .malformed) :=
  ⟨nofun, nofun⟩

theorem Fits.longer (hr : Fits qs r) (h : qs <:+ ps) : Fits ps r :=
  ⟨hr.fits, fun a rest heq => (hr.leaves a rest heq).trans h⟩

theorem Fits.orMalformed {o : Option (α × List Point)}
    (h : ∀ a rest, o = some (a, rest) → rest <:+ ps) : Fits ps (orMalformed o) := by
  cases o with
  | none => exact .malformed
  | some a => exact .ok a.1 (h a.1 a.2 rfl)

theorem Fits.bind {f : α × List Point → Except ReadFault (β × List Point)} (hr : Fits ps r)
    (h : ∀ a rest, rest <:+ ps → Fits rest (f (a, rest))) : Fits ps (r >>= f) := by
  cases hcase : r with
  | error fault =>
    refine ⟨fun heq => hr.fits (hcase.trans ?_), nofun⟩
    rw [Except.error.inj heq]
  | ok a =>
    have hrest := hr.leaves a.1 a.2 hcase
    exact (h a.1 a.2 hrest).longer hrest

end

theorem skipBlanks_suffix (ps : List Point) : skipBlanks ps <:+ ps :=
  List.dropWhile_suffix isBlank

theorem suffix_of_skipBlanks (h : skipBlanks ps = p :: rest) : rest <:+ ps :=
  (List.suffix_cons p rest).trans (h ▸ skipBlanks_suffix ps)

theorem unit?_suffix (h : unit? ps = some (n, rest)) : rest <:+ ps := by
  unfold unit? at h
  split at h
  · split at h
    · cases h
      exact List.suffix_append [_, _, _, _] rest
    · cases h
  · cases h

theorem escapedUnit?_suffix (h : escapedUnit? ps = some (p, rest)) : rest <:+ ps := by
  unfold escapedUnit? at h
  obtain ⟨⟨n, after⟩, hunit, h⟩ := Option.bind_eq_some_iff.mp h
  have hafter := unit?_suffix hunit
  simp only at h
  split at h
  · split at h
    · obtain ⟨⟨low, more⟩, hlow, h⟩ := Option.bind_eq_some_iff.mp h
      have hmore := (unit?_suffix hlow).trans (List.suffix_append [.char '\\', .char 'u'] _)
      simp only at h
      split at h
      · cases h
        exact hmore.trans hafter
      · cases h
        exact hafter
    · cases h
      exact hafter
  · cases h
    exact hafter

theorem stringBody?_suffix (h : stringBody? fuel ps = some (s, rest)) : rest <:+ ps := by
  induction fuel generalizing ps s with
  | zero => cases h
  | succ fuel ih =>
    have hstep {qs : List Point} {f : List Point × List Point → Option (List Point × List Point)}
        (hf : ∀ r, ∃ s, f r = some (s, r.2)) (hqs : qs <:+ ps)
        (h : (stringBody? fuel qs).bind f = some (s, rest)) : rest <:+ ps := by
      obtain ⟨r, hr, h⟩ := Option.bind_eq_some_iff.mp h
      obtain ⟨s', hs'⟩ := hf r
      cases hs'.symm.trans h
      exact (ih hr).trans hqs
    cases ps with
    | nil => cases h
    | cons p ps =>
      have htail : ps <:+ p :: ps := List.suffix_cons p ps
      unfold stringBody? at h
      split at h
      · cases h
        exact htail
      split at h
      · split at h
        · obtain ⟨⟨x, more⟩, hunit, h⟩ := Option.bind_eq_some_iff.mp h
          exact hstep (fun r => ⟨_, rfl⟩)
            ((escapedUnit?_suffix hunit).trans ((List.suffix_cons _ _).trans htail)) h
        · obtain ⟨x, -, h⟩ := Option.bind_eq_some_iff.mp h
          exact hstep (fun r => ⟨_, rfl⟩) ((List.suffix_cons _ _).trans htail) h
        · cases h
      split at h
      · cases h
      · exact hstep (fun r => ⟨_, rfl⟩) htail h

theorem spanWord_suffix (ps : List Point) : (spanWord ps).2 <:+ ps := by
  induction ps with
  | nil => exact List.suffix_refl _
  | cons p ps ih =>
    unfold spanWord
    split
    · rename_i heq
      obtain ⟨rfl, rfl⟩ := List.cons.inj heq
      split
      · exact ih.trans (List.suffix_cons _ _)
      · exact List.suffix_refl _
    · exact List.suffix_refl _

theorem plain?_suffix (h : plain? ps = some (v, rest)) : rest <:+ ps := by
  unfold plain? at h
  split at h
  · cases h
    exact spanWord_suffix ps
  · cases h

theorem fits_string (rest : List Point) :
    Fits (.char '"' :: rest) (orMalformed (stringBody? (rest.length + 1) rest)) :=
  .orMalformed fun _ _ hs => (stringBody?_suffix hs).trans (List.suffix_cons _ _)

/-- A reader of parts that has room for every opening bracket in what it reads. -/
def Roomy {α : Type} (reader : Nat → List Point → Except ReadFault (α × List Point)) : Prop :=
  ∀ room ps, openings ps ≤ room → Fits ps (reader room ps)

theorem openings_cons (hp : isOpening p = true) (ps : List Point) :
    openings (p :: ps) = openings ps + 1 :=
  List.countP_cons_of_pos hp

theorem roomy_value (hitems : Roomy (items fuel)) (hentries : Roomy (entries fuel)) :
    Roomy (value (fuel + 1)) := by
  intro room ps h
  unfold value
  split
  · exact (fits_string _).bind fun s rest _ => .ok _ (List.suffix_refl _)
  · rename_i rest
    rw [openings_cons rfl] at h
    have hblanks := skipBlanks_suffix rest
    have hle := openings_le hblanks
    cases room with
    | zero => cases h
    | succ room =>
      simp only
      split
      · rename_i heq
        exact .ok _ ((suffix_of_skipBlanks heq).trans (List.suffix_cons _ _))
      · refine ((hitems room _ (by omega)).longer (hblanks.trans (List.suffix_cons _ _))).bind ?_
        exact fun vs more _ => .ok _ (List.suffix_refl _)
  · rename_i rest
    rw [openings_cons rfl] at h
    have hblanks := skipBlanks_suffix rest
    have hle := openings_le hblanks
    cases room with
    | zero => cases h
    | succ room =>
      simp only
      split
      · rename_i heq
        exact .ok _ ((suffix_of_skipBlanks heq).trans (List.suffix_cons _ _))
      · refine ((hentries room _ (by omega)).longer (hblanks.trans (List.suffix_cons _ _))).bind ?_
        exact fun es more _ => .ok _ (List.suffix_refl _)
  · exact .orMalformed fun v rest hv => plain?_suffix hv

theorem roomy_items (hvalue : Roomy (value fuel)) (hitems : Roomy (items fuel)) :
    Roomy (items (fuel + 1)) := by
  intro room ps h
  unfold items
  refine (hvalue room ps h).bind fun v rest hrest => ?_
  simp only
  split
  · rename_i heq
    exact .ok _ (suffix_of_skipBlanks heq)
  · rename_i more heq
    have hmore := (skipBlanks_suffix more).trans (suffix_of_skipBlanks heq)
    have hle := openings_le (hmore.trans hrest)
    refine ((hitems room _ (by omega)).longer hmore).bind fun vs more _ => ?_
    exact .ok _ (List.suffix_refl _)
  · exact .malformed

theorem roomy_entries (hvalue : Roomy (value fuel)) (hentries : Roomy (entries fuel)) :
    Roomy (entries (fuel + 1)) := by
  intro room ps h
  unfold entries
  split
  · refine (fits_string _).bind fun key after hafter => ?_
    have hafter := openings_le hafter
    simp only
    split
    · rename_i colon heq
      have hcolon := (skipBlanks_suffix colon).trans (suffix_of_skipBlanks heq)
      have hle := openings_le hcolon
      refine ((hvalue room _ (by omega)).longer hcolon).bind fun v behind hbehind => ?_
      simp only
      split
      · rename_i heq
        exact .ok _ (suffix_of_skipBlanks heq)
      · rename_i more heq
        have hmore := (skipBlanks_suffix more).trans (suffix_of_skipBlanks heq)
        have hle := openings_le (hmore.trans hbehind)
        refine ((hentries room _ (by omega)).longer hmore).bind fun es more _ => ?_
        exact .ok _ (List.suffix_refl _)
      · exact .malformed
    · exact .malformed
  · exact .malformed

theorem roomy (fuel : Nat) : Roomy (value fuel) ∧ Roomy (items fuel) ∧ Roomy (entries fuel) := by
  induction fuel with
  | zero => exact ⟨fun _ _ _ => .malformed, fun _ _ _ => .malformed, fun _ _ _ => .malformed⟩
  | succ fuel ih =>
    obtain ⟨hvalue, hitems, hentries⟩ := ih
    exact ⟨roomy_value hitems hentries, roomy_items hvalue hitems, roomy_entries hvalue hentries⟩

/-- A text that opens no more brackets than there is room for is read or malformed. -/
theorem read_ne_tooNested {t : RawText} (h : openings t.points ≤ room) :
    read room t ≠ .error .tooNested := by
  have hblanks := openings_le (skipBlanks_suffix t.points)
  have hfits := (roomy (2 * t.points.length + 1)).1 room (skipBlanks t.points) (by omega)
  unfold read
  cases hv : value (2 * t.points.length + 1) room (skipBlanks t.points) with
  | error fault =>
    intro heq
    exact hfits.fits (hv.trans (congrArg _ (Except.error.inj heq)))
  | ok a =>
    show (if skipBlanks a.2 = [] then _ else _) ≠ _
    split <;> nofun

-- ---------------------------------------------------------------------------
-- Nothing but opening brackets
-- ---------------------------------------------------------------------------

theorem skipBlanks_opening (n : Nat) :
    skipBlanks (List.replicate n (.char '[')) = List.replicate n (.char '[') := by
  cases n <;> rfl

theorem value_opening (h : room < n) (hfuel : 2 * room < fuel) :
    value fuel room (List.replicate n (.char '[')) = .error .tooNested := by
  induction room generalizing n fuel with
  | zero =>
    obtain ⟨n, rfl⟩ := Nat.exists_eq_add_of_lt h
    obtain ⟨fuel, rfl⟩ := Nat.exists_eq_add_of_lt hfuel
    rfl
  | succ room ih =>
    -- two steps and a bracket for the place that is taken
    obtain ⟨n, rfl⟩ := Nat.exists_eq_add_of_le' (show 2 ≤ n by omega)
    obtain ⟨fuel, rfl⟩ := Nat.exists_eq_add_of_le' (show 2 ≤ fuel by omega)
    have hinner : value fuel room (List.replicate (n + 1) (.char '[')) = .error .tooNested :=
      ih (by omega) (by omega)
    have hblanks := skipBlanks_opening (n + 1)
    rw [List.replicate_succ] at hblanks hinner
    rw [List.replicate_succ, List.replicate_succ, value]
    simp only [hblanks]
    show (items (fuel + 1) room _ >>= _) = _
    rw [items, hinner]
    rfl

/-- More opening brackets than there is room for, and nothing before them. -/
theorem read_opening (h : room < n) :
    read room ⟨List.replicate n (.char '[')⟩ = .error .tooNested := by
  rw [read, skipBlanks_opening, List.length_replicate, value_opening h (by omega)]
  rfl

end Json

-- ---------------------------------------------------------------------------
-- Bodies
-- ---------------------------------------------------------------------------

theorem Text.Encoding.utf8Points?_ascii {b : UInt8} (h : b.toNat < 0x80) (bs : List UInt8) :
    utf8Points? (b :: bs) = (utf8Points? bs).map (Point.ofCode b.toNat :: ·) :=
  (utf8Points?.eq_def (b :: bs)).trans (if_pos h)

theorem Text.ofBytes?_opening (n : Nat) :
    ofBytes? (List.replicate n 0x5b) = some ⟨List.replicate n (.char '[')⟩ := by
  have hpoints : Encoding.utf8Points? (List.replicate n 0x5b) =
      some (List.replicate n (.char '[')) := by
    induction n with
    | zero => rfl
    | succ n ih =>
      rw [List.replicate_succ, Encoding.utf8Points?_ascii (by decide), ih]
      rfl
  have hdetect : Encoding.detect (List.replicate n 0x5b) = (.utf8, List.replicate n 0x5b) := by
    match n with
    | 0 | 1 | 2 | 3 => rfl
    | n + 4 => rfl
  rw [ofBytes?, hdetect]
  show (Encoding.utf8Points? (List.replicate n 0x5b)).map RawText.mk = _
  rw [hpoints]
  rfl

namespace Answer

def TooNested (room : Nat) (body : List UInt8) : Prop :=
  payload room body = .error .tooNested

theorem tooNested_iff : TooNested room body ↔
    ∃ t, Text.ofBytes? body = some t ∧ Json.read room t = .error .tooNested := by
  unfold TooNested payload
  cases Text.ofBytes? body with
  | none => simp
  | some t =>
    cases h : Json.read room t with
    | ok v => simp [h]
    | error fault => cases fault <;> simp [h]

theorem not_tooNested (h : ∀ t, Text.ofBytes? body = some t → Json.openings t.points ≤ room) :
    ¬ TooNested room body := by
  rw [tooNested_iff]
  rintro ⟨t, ht, hread⟩
  exact Json.read_ne_tooNested (h t ht) hread

theorem tooNested_opening (h : room < n) : TooNested room (List.replicate n 0x5b) :=
  tooNested_iff.mpr ⟨_, Text.ofBytes?_opening n, Json.read_opening h⟩

end Answer

end TenantStore
