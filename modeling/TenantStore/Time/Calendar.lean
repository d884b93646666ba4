import TenantStore.Number.Decimal

/-!
# Dates and times of day

The proleptic Gregorian calendar for the years 1 to 9999, with days counted from 1 January 1970.
A date, a clock reading and a distance from UTC carry the proof that they exist.
-/

namespace TenantStore

namespace Calendar

def isLeap (year : Nat) : Bool :=
  year % 4 == 0 && (year % 100 != 0 || year % 400 == 0)

def daysInMonth (year month : Nat) : Nat :=
  if month = 2 then (if isLeap year then 29 else 28)
  else if month = 4 ∨ month = 6 ∨ month = 9 ∨ month = 11 then 30 else 31

def daysBeforeYear (year : Nat) : Nat :=
  let y := year - 1
  365 * y + y / 4 - y / 100 + y / 400

def daysBeforeMonth (year month : Nat) : Nat :=
  (List.range (month - 1)).foldl (fun days i => days + daysInMonth year (i + 1)) 0

/-- Days from the start of year 1 to 1 January 1970. -/
def epochDays : Nat := 719162

end Calendar

structure Date where
  year : Nat
  month : Nat
  day : Nat
  valid : 1 ≤ year ∧ year ≤ 9999 ∧ 1 ≤ month ∧ month ≤ 12 ∧
    1 ≤ day ∧ day ≤ Calendar.daysInMonth year month
deriving DecidableEq

namespace Date

def ofParts? (year month day : Nat) : Option Date :=
  if h : 1 ≤ year ∧ year ≤ 9999 ∧ 1 ≤ month ∧ month ≤ 12 ∧
      1 ≤ day ∧ day ≤ Calendar.daysInMonth year month
  then some ⟨year, month, day, h⟩ else none

def toDays (d : Date) : Int :=
  (Calendar.daysBeforeYear d.year + Calendar.daysBeforeMonth d.year d.month + d.day - 1 : Nat)
    - (Calendar.epochDays : Int)

def monthOf (year month : Nat) (dayOfYear : Nat) : Nat → Nat × Nat
  | 0 => (month, dayOfYear + 1)
  | more + 1 =>
    let days := Calendar.daysInMonth year month
    if dayOfYear < days then (month, dayOfYear + 1)
    else monthOf year (month + 1) (dayOfYear - days) more

def ofDays? (days : Int) : Option Date :=
  let n := days + Calendar.epochDays
  if n < 0 then none
  else
    let n := n.toNat
    let guess := n / 366 + 1
    let year := (List.range 30).foldl
      (fun y _ => if Calendar.daysBeforeYear (y + 1) ≤ n then y + 1 else y) guess
    let (month, day) := monthOf year 1 (n - Calendar.daysBeforeYear year) 11
    ofParts? year month day

end Date

structure Clock where
  hour : Nat
  minute : Nat
  second : Nat
  microsecond : Nat
  valid : hour < 24 ∧ minute < 60 ∧ second < 60 ∧ microsecond < 1000000
deriving DecidableEq

namespace Clock

def midnight : Clock := ⟨0, 0, 0, 0, by decide⟩

def ofParts? (hour minute second microsecond : Nat) : Option Clock :=
  if h : hour < 24 ∧ minute < 60 ∧ second < 60 ∧ microsecond < 1000000
  then some ⟨hour, minute, second, microsecond, h⟩ else none

def toMicroseconds (c : Clock) : Nat :=
  ((c.hour * 60 + c.minute) * 60 + c.second) * 1000000 + c.microsecond

/-- The reading so many microseconds after midnight, on the same day or a later one. -/
def ofMicroseconds (n : Nat) : Clock :=
  ⟨n / 3600000000 % 24, n / 60000000 % 60, n / 1000000 % 60, n % 1000000, by omega⟩

end Clock

/-- How many seconds a clock is ahead of UTC: less than a day, either way. -/
structure Offset where
  seconds : Int
  valid : seconds.natAbs < 86400
deriving DecidableEq

namespace Offset

instance : OfNat Offset 0 := ⟨⟨0, by decide⟩⟩

def ofSeconds? (n : Int) : Option Offset :=
  if h : n.natAbs < 86400 then some ⟨n, h⟩ else none

end Offset

/-- A day and a clock reading, with the distance of the clock from UTC if known. -/
structure DateTime where
  date : Date
  clock : Clock
  offset : Option Offset
deriving DecidableEq

namespace DateTime

def localMicroseconds (t : DateTime) : Int :=
  t.date.toDays * 86400000000 + t.clock.toMicroseconds

/-- Equality of instants; one with an offset never equals one without. -/
def equal (s t : DateTime) : Bool :=
  match s.offset, t.offset with
  | none, none => s.localMicroseconds == t.localMicroseconds
  | some a, some b =>
    s.localMicroseconds - a.seconds * 1000000 == t.localMicroseconds - b.seconds * 1000000
  | _, _ => false

def ofUnixMicroseconds? (n : Int) : Option DateTime :=
  (Date.ofDays? (n.fdiv 86400000000)).map fun date =>
    ⟨date, Clock.ofMicroseconds (n.fmod 86400000000).toNat, some 0⟩

end DateTime

end TenantStore
