import TenantStore.Proofs.Number.Digits
import TenantStore.Time.Iso
import TenantStore.Time.Reading

/-!
# Times that are written and read again

The wire form of a moment is read as the moment, but for what it does not say: its offset is cut
to whole minutes (`ofText_wireText`). So the form changes when it is read and written once more
only if there was an offset of less than a minute (`wireText_shown`).
-/

namespace TenantStore

open Decimal

namespace TimeReading

variable {bs rest : List Nat} {b d n v w : Nat}

-- ---------------------------------------------------------------------------
-- Bytes
-- ---------------------------------------------------------------------------

def codes (cs : List Char) : List Nat :=
  cs.map Char.toNat

@[simp] theorem codes_nil : codes [] = [] := rfl

@[simp] theorem codes_cons (c : Char) (cs : List Char) :
    codes (c :: cs) = c.toNat :: codes cs := rfl

@[simp] theorem codes_append (cs ds : List Char) : codes (cs ++ ds) = codes cs ++ codes ds :=
  List.map_append

def Ascii (cs : List Char) : Prop :=
  ∀ c ∈ cs, c.toNat < 128

theorem ascii_nil : Ascii [] := List.forall_mem_nil _

theorem ascii_cons {c : Char} {cs : List Char} :
    Ascii (c :: cs) ↔ c.toNat < 128 ∧ Ascii cs := List.forall_mem_cons

theorem ascii_append {cs ds : List Char} : Ascii (cs ++ ds) ↔ Ascii cs ∧ Ascii ds :=
  List.forall_mem_append

theorem bytes_ofList {cs : List Char} (h : Ascii cs) :
    bytes (String.ofList cs) = codes cs := by
  have hone : ∀ c ∈ cs, (String.utf8EncodeChar c).map UInt8.toNat = [c.toNat] := by
    intro c hc
    have hlt : c.toNat ≤ 127 := Nat.le_of_lt_succ (h c hc)
    have hencode : String.utf8EncodeChar c = [UInt8.ofNat c.toNat] := if_pos hlt
    rw [hencode, List.map_singleton, UInt8.toNat_ofNat', Nat.mod_eq_of_lt (by omega)]
  unfold bytes codes
  rw [String.toList_ofList]
  induction cs with
  | nil => rfl
  | cons c cs ih =>
    rw [List.flatMap_cons, hone c List.mem_cons_self,
      ih (fun c hc => h c (List.mem_cons_of_mem _ hc))
        fun c hc => hone c (List.mem_cons_of_mem _ hc)]
    rfl

-- ---------------------------------------------------------------------------
-- Digits
-- ---------------------------------------------------------------------------

theorem digit?_digitChar (h : d < 10) : digit? (digitChar d).toNat = some d := by
  rw [digitChar_toNat h]
  simp [digit?]
  omega

theorem digits?_succ (h : digits? w bs = some (v, b :: rest)) (hb : digit? b = some d) :
    digits? (w + 1) bs = some (10 * v + d, rest) := by
  induction w generalizing bs v with
  | zero =>
    obtain ⟨rfl, rfl⟩ := Prod.mk.inj (Option.some.inj h)
    simp [digits?, hb]
  | succ w ih =>
    cases bs with
    | nil => cases h
    | cons c bs =>
      simp only [digits?, Option.bind_eq_bind, Option.bind_eq_some_iff, Option.some.injEq] at h
      obtain ⟨e, he, ⟨u, bs'⟩, hu, heq⟩ := h
      obtain ⟨rfl, rfl⟩ := Prod.mk.inj heq
      rw [digits?]
      simp only [he, ih hu, Option.bind_eq_bind, Option.bind_some, Option.some.injEq,
        Prod.mk.injEq, and_true]
      show e * (Nat.pow 10 w * 10) + (10 * u + d) = 10 * (e * Nat.pow 10 w + u) + d
      rw [← Nat.mul_assoc]
      omega

theorem digits?_padded (hw : 0 < w) (h : n < Nat.pow 10 w) (rest : List Nat) :
    digits? w (codes (padded w n) ++ rest) = some (n, rest) := by
  induction w generalizing n rest with
  | zero => cases hw
  | succ w ih =>
    obtain rfl | hw := Nat.eq_zero_or_pos w
    · have h : n < 10 := h
      simp [padded_one h, digits?, digit?_digitChar h]
    · have hdiv : n / 10 < Nat.pow 10 w := by
        have h : n < Nat.pow 10 w * 10 := h
        omega
      have hlast := digit?_digitChar (Nat.mod_lt n (by decide : 0 < 10))
      rw [padded_succ hw, codes_append, List.append_assoc, codes_cons, codes_nil,
        List.singleton_append, digits?_succ (ih hw hdiv _) hlast, Nat.div_add_mod]

theorem digits?_padded_end (hw : 0 < w) (h : n < Nat.pow 10 w) :
    digits? w (codes (padded w n)) = some (n, []) := by
  simpa using digits?_padded hw h []

-- ---------------------------------------------------------------------------
-- Parts of a moment
-- ---------------------------------------------------------------------------

theorem length_codes_padded (hw : 0 < w) (h : n < Nat.pow 10 w) :
    (codes (padded w n)).length = w := by
  rw [codes, List.length_map, length_padded hw h]

theorem daysInMonth_le (year month : Nat) : Calendar.daysInMonth year month ≤ 31 := by
  unfold Calendar.daysInMonth
  split
  · split <;> omega
  · split <;> omega

theorem day_chars (d : Date) (rest : List Nat) :
    day (codes d.chars ++ rest) = .ok ((d.year, d.month, d.day), rest) := by
  obtain ⟨hy, hy', hm, hm', hd, hd'⟩ := d.valid
  have hdays := daysInMonth_le d.year d.month
  have hyear : d.year < Nat.pow 10 4 := Nat.lt_of_le_of_lt hy' (by decide)
  have hmonth : d.month < Nat.pow 10 2 := Nat.lt_of_le_of_lt hm' (by decide)
  have hday : d.day < Nat.pow 10 2 := Nat.lt_of_le_of_lt (hd'.trans hdays) (by decide)
  have hlength : ¬ (codes d.chars ++ rest).length < 10 := by
    simp [Date.chars, length_codes_padded, hyear, hmonth, hday]
    omega
  have hbytes : codes d.chars ++ rest = codes (padded 4 d.year) ++
      45 :: (codes (padded 2 d.month) ++ 45 :: (codes (padded 2 d.day) ++ rest)) := by
    simp [Date.chars]
  unfold day
  rw [if_neg hlength, hbytes]
  simp [digits?_padded, hyear, hmonth, hday, orFault, expect, bind, Except.bind, pure, Except.pure]
  rw [if_neg (by omega), if_neg (by omega)]

def Ends (bs : List Nat) : Prop :=
  ∀ b ∈ bs.head?, b ≠ 46 ∧ b ≠ 44 ∧ digit? b = none

theorem fraction?_padded (h : n < Nat.pow 10 6) (hrest : Ends rest) :
    fraction? (codes (padded 6 n) ++ rest) = some (n, rest) := by
  have hlength : (codes (padded 6 n)).length = 6 := length_codes_padded (by decide) h
  have hdigits : ∀ b ∈ codes (padded 6 n), (digit? b).isSome = true := by
    intro b hb
    obtain ⟨c, hc, rfl⟩ := List.mem_map.mp hb
    obtain ⟨d, hd, rfl⟩ := mem_padded hc
    simp [digit?_digitChar hd]
  have hnone : rest.takeWhile (fun b => (digit? b).isSome) = [] := by
    cases rest with
    | nil => rfl
    | cons b rest => simp [(hrest b rfl).2.2]
  have hsome : codes (padded 6 n) ≠ [] := by
    intro hnil
    simp [hnil] at hlength
  unfold fraction?
  simp only [List.takeWhile_append_of_pos hdigits, hnone, List.append_nil, if_neg hsome]
  rw [List.take_append_of_le_length hlength.ge, List.take_of_length_le hlength.le,
    digits?_padded_end (by decide) h, List.drop_left]
  rfl

theorem clock?_chars (c : Clock) (hrest : Ends rest) :
    clock? (codes c.chars ++ rest) = some (c, rest) := by
  obtain ⟨hh, hm, hs, hu⟩ := c.valid
  have hhour : c.hour < Nat.pow 10 2 := Nat.lt_trans hh (by decide)
  have hminute : c.minute < Nat.pow 10 2 := Nat.lt_trans hm (by decide)
  have hsecond : c.second < Nat.pow 10 2 := Nat.lt_trans hs (by decide)
  have hparts : Clock.ofParts? c.hour c.minute c.second c.microsecond = some c := dif_pos c.valid
  have hbytes : codes c.chars ++ rest = codes (padded 2 c.hour) ++ 58 :: (codes (padded 2 c.minute) ++
      58 :: (codes (padded 2 c.second) ++
        (if c.microsecond = 0 then rest else 46 :: (codes (padded 6 c.microsecond) ++ rest)))) := by
    unfold Clock.chars
    split <;> simp
  unfold clock?
  rw [hbytes]
  by_cases hu0 : c.microsecond = 0
  · rw [hu0] at hparts
    cases rest with
    | nil =>
      simp [digits?_padded, digits?_padded_end, hhour, hminute, hsecond, hu0, expect,
        Except.toOption, hparts]
    | cons b rest =>
      obtain ⟨hpoint, hcomma, -⟩ := hrest b rfl
      simp [digits?_padded, hhour, hminute, hsecond, hu0, expect, Except.toOption, hparts, hpoint,
        hcomma]
  · have hmicros : c.microsecond < Nat.pow 10 6 := hu
    simp [digits?_padded, hhour, hminute, hsecond, hu0, expect, Except.toOption, hparts,
      fraction?_padded hmicros hrest]

-- ---------------------------------------------------------------------------
-- Offsets
-- ---------------------------------------------------------------------------

end TimeReading

theorem Offset.ext {o p : Offset} (h : o.seconds = p.seconds) : o = p := by
  cases o
  cases p
  cases h
  rfl

/-- An offset as its hours and minutes say it. -/
def Offset.shown (o : Offset) : Offset where
  seconds := if o.seconds < 0 then -(o.seconds.natAbs / 60 * 60 : Nat)
    else (o.seconds.natAbs / 60 * 60 : Nat)
  valid := by
    have := o.valid
    split <;> omega

def wireOffset : Option Offset → List Char
  | none => []
  | some o => if o.seconds = 0 then ['Z'] else (offsetChars o).take 6

namespace TimeReading

theorem take_offsetChars (o : Offset) : (offsetChars o).take 6 =
    (if o.seconds < 0 then '-' else '+') :: padded 2 (o.seconds.natAbs / 3600) ++
      ':' :: padded 2 (o.seconds.natAbs / 60 % 60) := by
  have hvalid := o.valid
  have hhours : (padded 2 (o.seconds.natAbs / 3600)).length = 2 :=
    length_padded (by decide) (Nat.lt_of_lt_of_le (by omega : _ < 100) (by decide))
  have hminutes : (padded 2 (o.seconds.natAbs / 60 % 60)).length = 2 :=
    length_padded (by decide) (Nat.lt_of_lt_of_le (by omega : _ < 100) (by decide))
  have hlength : ((if o.seconds < 0 then '-' else '+') :: padded 2 (o.seconds.natAbs / 3600) ++
      ':' :: padded 2 (o.seconds.natAbs / 60 % 60)).length = 6 := by
    simp [hhours, hminutes]
  unfold offsetChars
  dsimp only
  rw [List.take_append_of_le_length hlength.ge, List.take_of_length_le hlength.le]

theorem signedOffset?_shown (o : Offset) :
    signedOffset? (decide (o.seconds < 0)) (codes (padded 2 (o.seconds.natAbs / 3600)) ++
      58 :: codes (padded 2 (o.seconds.natAbs / 60 % 60))) = some o.shown := by
  have hvalid := o.valid
  have hhours : o.seconds.natAbs / 3600 < Nat.pow 10 2 :=
    Nat.lt_of_lt_of_le (by omega : _ < 100) (by decide)
  have hminutes : o.seconds.natAbs / 60 % 60 < Nat.pow 10 2 :=
    Nat.lt_of_lt_of_le (by omega : _ < 100) (by decide)
  have hseconds : (if decide (o.seconds < 0) = true then
      -(((o.seconds.natAbs / 3600 : Nat) : Int) * 3600 +
        ((o.seconds.natAbs / 60 % 60 : Nat) : Int) * 60)
      else ((o.seconds.natAbs / 3600 : Nat) : Int) * 3600 +
        ((o.seconds.natAbs / 60 % 60 : Nat) : Int) * 60) = o.shown.seconds := by
    unfold Offset.shown
    simp only [decide_eq_true_eq]
    split <;> omega
  have hshown : Offset.ofSeconds? o.shown.seconds = some o.shown := dif_pos o.shown.valid
  unfold signedOffset?
  simp only [digits?_padded (by decide : 0 < 2) hhours,
    digits?_padded_end (by decide : 0 < 2) hminutes, Option.bind_eq_bind, Option.bind_some,
    hseconds, hshown]
  rw [if_pos ⟨trivial, Nat.mod_lt _ (by decide)⟩]

theorem offset?_wireOffset (o : Option Offset) :
    offset? (codes (wireOffset o)) = some (o.map Offset.shown) := by
  cases o with
  | none => rfl
  | some o =>
    by_cases hzero : o.seconds = 0
    · obtain rfl : o = 0 := Offset.ext hzero
      rfl
    · have hsigned := signedOffset?_shown o
      rw [wireOffset, if_neg hzero, take_offsetChars]
      by_cases hneg : o.seconds < 0
      · simp only [hneg, decide_true] at hsigned
        simp [hneg, offset?, hsigned]
      · simp only [hneg, decide_false] at hsigned
        simp [hneg, offset?, hsigned]

theorem ends_wireOffset (o : Option Offset) : Ends (codes (wireOffset o)) := by
  cases o with
  | none => exact fun b hb => by cases hb
  | some o =>
    by_cases hzero : o.seconds = 0
    · rw [wireOffset, if_pos hzero]
      unfold Ends
      decide
    · rw [wireOffset, if_neg hzero, take_offsetChars]
      by_cases hneg : o.seconds < 0 <;> simp [Ends, hneg, digit?]

theorem wireText_eq (t : DateTime) : t.wireText =
    String.ofList (t.date.chars ++ 'T' :: t.clock.chars ++ wireOffset t.offset) := by
  unfold DateTime.wireText wireOffset
  rfl

end TimeReading

/-- The moment as its wire form says it. -/
def DateTime.shown (t : DateTime) : DateTime :=
  { t with offset := t.offset.map Offset.shown }

namespace TimeReading

theorem ascii_padded (w n : Nat) : Ascii (padded w n) := by
  intro c hc
  obtain ⟨d, hd, rfl⟩ := mem_padded hc
  rw [digitChar_toNat hd]
  omega

theorem ascii_wireOffset (o : Option Offset) : Ascii (wireOffset o) := by
  cases o with
  | none => exact ascii_nil
  | some o =>
    unfold wireOffset
    dsimp only
    split
    · simp [ascii_cons, ascii_nil]
    · rw [take_offsetChars]
      split <;> simp [ascii_append, ascii_cons, ascii_padded]

theorem ascii_wireText (t : DateTime) :
    Ascii (t.date.chars ++ 'T' :: t.clock.chars ++ wireOffset t.offset) := by
  unfold Date.chars Clock.chars
  split <;> simp [ascii_append, ascii_cons, ascii_padded, ascii_wireOffset]

theorem written?_chars (t : DateTime) :
    written? (codes (t.date.chars ++ 'T' :: t.clock.chars ++ wireOffset t.offset)) =
      some (.ok t.shown) := by
  have hbytes : codes (t.date.chars ++ 'T' :: t.clock.chars ++ wireOffset t.offset) =
      codes t.date.chars ++ 84 :: (codes t.clock.chars ++ codes (wireOffset t.offset)) := by simp
  have hmoment : moment (t.date.year, t.date.month, t.date.day) t.clock (t.offset.map .shown) =
      .ok t.shown := by
    have hdate : Date.ofParts? t.date.year t.date.month t.date.day = some t.date :=
      dif_pos t.date.valid
    simp [moment, hdate, DateTime.shown]
  unfold written?
  rw [hbytes, day_chars]
  simp [clock?_chars t.clock (ends_wireOffset t.offset), offset?_wireOffset, hmoment]

theorem ofText_wireText (t : DateTime) : ofText t.wireText = .ok t.shown := by
  have hwritten : written? (bytes t.wireText) = some (.ok t.shown) := by
    rw [wireText_eq, bytes_ofList (ascii_wireText t), written?_chars]
  unfold ofText
  simp only [hwritten]
  rfl

end TimeReading

-- ---------------------------------------------------------------------------
-- What is written the same once more
-- ---------------------------------------------------------------------------

/-- The offset is none in name only, or at least a minute. -/
def Offset.Lasting (o : Offset) : Prop :=
  o.seconds = 0 ∨ 60 ≤ o.seconds.natAbs

def DateTime.Lasting (t : DateTime) : Prop :=
  ∀ o, t.offset = some o → o.Lasting

/-- An offset of less than a minute is written with a sign, and read as none. -/
theorem wireOffset_shown (o : Offset) :
    wireOffset (some o.shown) = wireOffset (some o) ↔ o.Lasting := by
  unfold Offset.Lasting
  by_cases hzero : o.seconds = 0
  · obtain rfl : o = 0 := Offset.ext hzero
    exact iff_of_true rfl (.inl rfl)
  · by_cases hminute : 60 ≤ o.seconds.natAbs
    · refine iff_of_true ?_ (.inr hminute)
      have hshown : o.shown.seconds ≠ 0 := by
        unfold Offset.shown
        dsimp only
        split <;> omega
      have hsign : o.shown.seconds < 0 ↔ o.seconds < 0 := by
        unfold Offset.shown
        dsimp only
        split <;> omega
      have habs : o.shown.seconds.natAbs = o.seconds.natAbs / 60 * 60 := by
        unfold Offset.shown
        dsimp only
        split <;> omega
      have hhours : o.shown.seconds.natAbs / 3600 = o.seconds.natAbs / 3600 := by omega
      have hminutes : o.shown.seconds.natAbs / 60 = o.seconds.natAbs / 60 := by omega
      simp only [wireOffset, if_neg hshown, if_neg hzero, TimeReading.take_offsetChars, hsign, hhours,
        hminutes]
    · refine iff_of_false (fun heq => ?_) (by omega)
      have hshown : o.shown.seconds = 0 := by
        unfold Offset.shown
        dsimp only
        split <;> omega
      rw [wireOffset, wireOffset, if_pos hshown, if_neg hzero, TimeReading.take_offsetChars] at heq
      have hlength := congrArg List.length heq
      simp at hlength

theorem wireText_shown (t : DateTime) : t.shown.wireText = t.wireText ↔ t.Lasting := by
  rw [TimeReading.wireText_eq, TimeReading.wireText_eq, String.ofList_inj]
  show t.date.chars ++ 'T' :: t.clock.chars ++ _ = _ ↔ _
  rw [List.append_right_inj]
  unfold DateTime.shown DateTime.Lasting
  cases t.offset with
  | none => simp
  | some o => simpa using wireOffset_shown o

/-- Half a minute is zero with a sign, and zero has none. -/
example :
    let t : DateTime := ⟨⟨2024, 1, 2, by decide⟩, ⟨3, 4, 5, 0, by decide⟩, some ⟨30, by decide⟩⟩
    t.wireText = "2024-01-02T03:04:05+00:00" ∧ t.shown.wireText = "2024-01-02T03:04:05Z" := by
  decide +kernel

namespace TimeReading

theorem seconds_of_ofSeconds? {o : Offset} (h : Offset.ofSeconds? n = some o) : o.seconds = n := by
  unfold Offset.ofSeconds? at h
  split at h
  · cases h
    rfl
  · cases h

/-- What is read has no seconds. -/
theorem signedOffset?_lasting {o : Offset} (h : signedOffset? negative bs = some o) :
    o.Lasting := by
  simp only [signedOffset?, Option.bind_eq_bind, Option.bind_eq_some_iff] at h
  obtain ⟨⟨hours, _⟩, -, ⟨minutes, _⟩, -, h⟩ := h
  split at h
  · have hseconds := seconds_of_ofSeconds? h
    dsimp only at hseconds
    unfold Offset.Lasting
    cases negative <;> simp at hseconds <;> omega
  · cases h

theorem offset?_lasting {o : Offset} (h : offset? bs = some (some o)) : o.Lasting := by
  have signed : ∀ {negative bs}, (signedOffset? negative bs).map some = some (some o) →
      o.Lasting := by
    intro negative bs h
    obtain ⟨p, hp, heq⟩ := Option.map_eq_some_iff.mp h
    obtain rfl := Option.some.inj heq
    exact signedOffset?_lasting hp
  unfold offset? at h
  split at h
  · cases h
  · cases h
    exact .inl rfl
  · cases h
    exact .inl rfl
  · exact signed h
  · exact signed h
  · exact signed h
  · cases h

theorem offset_of_moment (h : moment ymd clock offset = .ok t) : t.offset = offset := by
  unfold moment at h
  split at h
  · cases h
    rfl
  · cases h

theorem written?_lasting (h : written? bs = some (.ok t)) : t.Lasting := by
  unfold written? at h
  split at h
  · cases h
  · split at h
    · split at h
      · simp only [Option.bind_eq_bind, Option.bind_eq_some_iff, Option.some.injEq] at h
        obtain ⟨⟨clock, _⟩, -, offset, hoffset, h⟩ := h
        obtain rfl := offset_of_moment h
        exact fun o ho => offset?_lasting (hoffset.trans (congrArg some ho))
      · cases h
    · cases h

theorem ofUnix_lasting (h : ofUnix count micros = .ok t) : t.Lasting := by
  unfold ofUnix at h
  dsimp only at h
  generalize (if secondsLimit < (count.natAbs : Int) then count.fdiv 1000 else count) = whole at h
  generalize (if secondsLimit < (count.natAbs : Int) then (count.fmod 1000).toNat * 1000 else 0) =
    extra at h
  split at h
  · cases h
  · split at h
    · cases h
    · split at h
      · rename_i hmoment
        cases h
        obtain ⟨date, -, rfl⟩ := Option.map_eq_some_iff.mp hmoment
        rintro o ⟨⟩
        exact .inl rfl
      · cases h

theorem ofFloat_lasting {x : Binary64} (h : ofFloat x = .ok t) : t.Lasting := by
  unfold ofFloat at h
  split at h
  · cases h
  · cases h
  · cases h
  · exact ofUnix_lasting h

theorem mapError_ok {x : Except ε α} {f : ε → ε'} : x.mapError f = .ok a ↔ x = .ok a := by
  cases x <;> simp [Except.mapError]

theorem wholeDay_lasting (h : wholeDay bs = .ok t) : t.Lasting := by
  unfold wholeDay at h
  split at h
  · intro o ho
    rw [offset_of_moment (mapError_ok.mp h)] at ho
    cases ho
  · cases h
  · cases h

/-- What is read from a text has an offset of whole minutes. -/
theorem ofText_lasting (h : ofText s = .ok t) : t.Lasting := by
  unfold ofText at h
  dsimp only at h
  split at h
  · rename_i hwritten
    rw [mapError_ok.mp h] at hwritten
    exact written?_lasting hwritten
  · split at h
    · exact ofUnix_lasting (mapError_ok.mp h)
    · split at h
      · rename_i hfloat
        cases h
        obtain ⟨x, -, hx⟩ := Option.map_eq_some_iff.mp hfloat
        exact ofUnix_lasting hx
      · cases h
      · exact wholeDay_lasting h

end TimeReading

end TenantStore
