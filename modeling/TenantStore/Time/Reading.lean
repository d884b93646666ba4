import TenantStore.Number.Binary64
import TenantStore.Time.Calendar

/-!
# Reading dates and times

A moment is written as a day, a mark, a clock reading and an optional offset; or as a number of
seconds since 1970, or of milliseconds where the number is too large for seconds. A day alone is
its midnight. Text is read byte by byte, and a fault names the first thing that is wrong.
-/

namespace TenantStore

inductive TimeFault
  | tooShort
  | badYear
  | badSeparator
  | badMonth
  | badDay
  | noSuchMonth
  | noSuchDay
  | extraCharacters
  | afterCalendar
  | beforeCalendar
  | notANumber
  | yearZero
deriving DecidableEq

def TimeFault.message : TimeFault → String
  | .tooShort => "input is too short"
  | .badYear => "invalid character in year"
  | .badSeparator => "invalid date separator, expected \x60-\x60"
  | .badMonth => "invalid character in month"
  | .badDay => "invalid character in day"
  | .noSuchMonth => "month value is outside expected range of 1-12"
  | .noSuchDay => "day value is outside expected range"
  | .extraCharacters => "unexpected extra characters at the end of the input"
  | .afterCalendar => "dates after 9999 are not supported as unix timestamps"
  | .beforeCalendar => "dates before 0000 are not supported as unix timestamps"
  | .notANumber => "NaN values not permitted"
  | .yearZero => "year 0 is out of range"

namespace TimeReading

def bytes (s : String) : List Nat :=
  s.toList.flatMap fun c => (String.utf8EncodeChar c).map UInt8.toNat

def digit? (b : Nat) : Option Nat :=
  if 48 ≤ b ∧ b ≤ 57 then some (b - 48) else none

def digits? : Nat → List Nat → Option (Nat × List Nat)
  | 0, bs => some (0, bs)
  | n + 1, b :: bs => do
    let d ← digit? b
    let (value, rest) ← digits? n bs
    some (d * Nat.pow 10 n + value, rest)
  | _ + 1, [] => none

def orFault {α : Type} (fault : TimeFault) : Option α → Except TimeFault α
  | some a => .ok a
  | none => .error fault

def expect (c : Char) (fault : TimeFault) : List Nat → Except TimeFault (List Nat)
  | b :: bs => if b = c.toNat then .ok bs else .error fault
  | [] => .error fault

/-- Year, month and day at the start of the bytes; the year may still be zero. -/
def day (bs : List Nat) : Except TimeFault ((Nat × Nat × Nat) × List Nat) := do
  if bs.length < 10 then throw .tooShort
  let (year, bs) ← orFault .badYear (digits? 4 bs)
  let bs ← expect '-' .badSeparator bs
  let (month, bs) ← orFault .badMonth (digits? 2 bs)
  let bs ← expect '-' .badSeparator bs
  let (day, bs) ← orFault .badDay (digits? 2 bs)
  if month = 0 ∨ 12 < month then throw .noSuchMonth
  if day = 0 ∨ Calendar.daysInMonth year month < day then throw .noSuchDay
  return ((year, month, day), bs)

/-- The digits after a decimal mark, cut to microseconds; one digit at least. -/
def fraction? (bs : List Nat) : Option (Nat × List Nat) :=
  let ds := bs.takeWhile fun b => (digit? b).isSome
  if ds = [] then none
  else
    let six := (ds ++ List.replicate 6 48).take 6
    (digits? 6 six).map fun (n, _) => (n, bs.drop ds.length)

def clock? (bs : List Nat) : Option (Clock × List Nat) := do
  let (hour, bs) ← digits? 2 bs
  let bs ← (expect ':' .tooShort bs).toOption
  let (minute, bs) ← digits? 2 bs
  match bs with
  | 58 :: bs =>
    let (second, bs) ← digits? 2 bs
    let (micros, bs) ← match bs with
      | 46 :: bs | 44 :: bs => fraction? bs
      | bs => some (0, bs)
    let clock ← Clock.ofParts? hour minute second micros
    some (clock, bs)
  | bs =>
    let clock ← Clock.ofParts? hour minute 0 0
    some (clock, bs)

def signedOffset? (negative : Bool) (bs : List Nat) : Option Offset := do
  let (hours, bs) ← digits? 2 bs
  let bs := match bs with
    | 58 :: bs => bs
    | bs => bs
  let (minutes, bs) ← digits? 2 bs
  let seconds : Int := hours * 3600 + minutes * 60
  if bs = [] ∧ minutes < 60 then Offset.ofSeconds? (if negative then -seconds else seconds)
  else none

def offset? : List Nat → Option (Option Offset)
  | [] => some none
  | [90] | [122] => some (some 0)
  | 43 :: bs => (signedOffset? false bs).map some
  | 45 :: bs | 226 :: 136 :: 146 :: bs => (signedOffset? true bs).map some
  | _ => none

/-- A day of the calendar with a clock reading; the year zero is written but not in the calendar. -/
def moment (ymd : Nat × Nat × Nat) (clock : Clock) (offset : Option Offset) :
    Except TimeFault DateTime :=
  match Date.ofParts? ymd.1 ymd.2.1 ymd.2.2 with
  | some date => .ok ⟨date, clock, offset⟩
  | none => .error .yearZero

def written? (bs : List Nat) : Option (Except TimeFault DateTime) :=
  match day bs with
  | .error _ => none
  | .ok (ymd, bs) =>
    match bs with
    | mark :: bs =>
      if mark = 84 ∨ mark = 116 ∨ mark = 32 ∨ mark = 95 then do
        let (clock, bs) ← clock? bs
        let offset ← offset? bs
        some (moment ymd clock offset)
      else none
    | [] => none

/-- The largest magnitude that counts seconds; anything larger counts milliseconds. -/
def secondsLimit : Int := 20000000000

def ofUnix (count : Int) (micros : Nat) : Except TimeFault DateTime :=
  let inMillis := secondsLimit < count.natAbs
  let whole := if inMillis then count.fdiv 1000 else count
  let extra := if inMillis then (count.fmod 1000).toNat * 1000 else 0
  let seconds := whole + ((extra + micros) / 1000000 : Nat)
  if seconds < -62167219200 then .error .beforeCalendar
  else if 253402300799 < seconds then .error .afterCalendar
  else
    match DateTime.ofUnixMicroseconds? (seconds * 1000000 + ((extra + micros) % 1000000 : Nat)) with
    | some t => .ok t
    | none => .error .yearZero

def million : Binary64 := .ofNat 1000000

/-- A float counts whole seconds or milliseconds below it, and its fraction as microseconds. -/
def ofFloat : Binary64 → Except TimeFault DateTime
  | .nan => .error .notANumber
  | .infinite true => .error .beforeCalendar
  | .infinite false => .error .afterCalendar
  | x =>
    let part := match x.ratio? with
      | some (num, den) => Binary64.ofRatio false (num.natAbs % den) den
      | none => .nan
    ofUnix (x.floor?.getD 0) (((part.mul million).round?.getD 0).toNat)

def writtenInt? (bs : List Nat) : Option Int :=
  let (negative, ds) := match bs with
    | 45 :: ds => (true, ds)
    | 43 :: ds => (false, ds)
    | ds => (false, ds)
  if ds = [] then none
  else
    match digits? ds.length ds with
    | some (n, _) => if n < Nat.pow 2 63 then some (if negative then -(n : Int) else n) else none
    | none => none

/-- Digits after the point are added one by one, each divided by its power of ten. -/
def addPlaces (whole power : Binary64) : List Nat → Option Binary64
  | [] => some whole
  | b :: bs => do
    let d ← digit? b
    match power.ratio? with
    | some (num, den) =>
      addPlaces (whole.add (.ofRatio false (d * den) num.natAbs)) (power.mul (.ofNat 10)) bs
    | none => addPlaces whole power bs

def writtenFloat? (bs : List Nat) : Option Binary64 :=
  let (negative, ds) := match bs with
    | 45 :: ds => (true, ds)
    | 43 :: ds => (false, ds)
    | ds => (false, ds)
  let whole := ds.takeWhile fun b => (digit? b).isSome
  match ds.drop whole.length, writtenInt? whole with
  | 46 :: places, some n =>
    (addPlaces (.ofInt n) (.ofNat 10) places).map fun x => if negative then x.neg else x
  | _, _ => none

/-- A written number with a point counts seconds, or milliseconds where it is too large. -/
def ofWrittenFloat (x : Binary64) : Except TimeFault DateTime :=
  let x :=
    match Binary64.compare? x (.ofInt secondsLimit), Binary64.compare? x (.ofInt (-secondsLimit)) with
    | some .gt, _ | _, some .lt => x.divNat 1000
    | _, _ => x
  let seconds := x.floor?.getD 0
  let part := x.add (.neg (.ofInt seconds))
  ofUnix seconds ((part.mul million).round?.getD 0).toNat

/-- Where reading a text failed: as a moment, or as a day alone. -/
inductive Failure
  | asMoment (fault : TimeFault)
  | asDay (fault : TimeFault)
deriving DecidableEq

def wholeDay (bs : List Nat) : Except Failure DateTime :=
  match day bs with
  | .ok (ymd, []) => (moment ymd .midnight none).mapError .asMoment
  | .ok (_, _ :: _) => .error (.asDay .extraCharacters)
  | .error fault => .error (.asDay fault)

/-- A text is a moment, or a number of seconds or milliseconds, or a day. -/
def ofText (s : String) : Except Failure DateTime :=
  let bs := bytes s
  match written? bs with
  | some r => r.mapError .asMoment
  | none =>
    match writtenInt? bs with
    | some n =>
      (ofUnix n 0).mapError fun fault =>
        if fault = .yearZero then .asMoment fault else .asDay fault
    | none =>
      match (writtenFloat? bs).map ofWrittenFloat with
      | some (.ok t) => .ok t
      | some (.error .yearZero) => .error (.asMoment .yearZero)
      | _ => wholeDay bs

/-- The moment written in the stored form, whose offset may have seconds. -/
def ofIso? (s : String) : Option DateTime :=
  let bs := bytes s
  let cut := bs.length - 3
  match ofText s with
  | .ok t => some t
  | .error _ =>
    match ofText (String.ofList (s.toList.take cut)), (bs.drop cut) with
    | .ok t, 58 :: rest => do
      let (seconds, _) ← digits? 2 rest
      let o ← t.offset
      let offset ← Offset.ofSeconds?
        (if o.seconds < 0 then o.seconds - seconds else o.seconds + seconds)
      some { t with offset := some offset }
    | _, _ => none

end TimeReading

end TenantStore
