import TenantStore.Time.Calendar

/-!
# Dates and times as text

Two written forms share the date and the clock. The stored form gives an offset as hours and
minutes; the wire form writes a zero offset as `Z`. Microseconds are written with six digits
unless they are zero.
-/

namespace TenantStore

open Decimal (padded)

def Date.chars (d : Date) : List Char :=
  padded 4 d.year ++ '-' :: padded 2 d.month ++ '-' :: padded 2 d.day

def Date.text (d : Date) : String :=
  String.ofList d.chars

def Clock.chars (c : Clock) : List Char :=
  padded 2 c.hour ++ ':' :: padded 2 c.minute ++ ':' :: padded 2 c.second ++
    (if c.microsecond = 0 then [] else '.' :: padded 6 c.microsecond)

def offsetChars (o : Offset) : List Char :=
  let n := o.seconds.natAbs
  (if o.seconds < 0 then '-' else '+') :: padded 2 (n / 3600) ++ ':' :: padded 2 (n / 60 % 60) ++
    (if n % 60 = 0 then [] else ':' :: padded 2 (n % 60))

def DateTime.charsWith (separator : Char) (t : DateTime) : List Char :=
  t.date.chars ++ separator :: t.clock.chars ++ (t.offset.map offsetChars).getD []

def DateTime.isoText (t : DateTime) : String :=
  String.ofList (t.charsWith 'T')

def DateTime.plainText (t : DateTime) : String :=
  String.ofList (t.charsWith ' ')

/-- The wire form: a zero offset is written `Z`, and any other without seconds. -/
def DateTime.wireText (t : DateTime) : String :=
  let offset := match t.offset with
    | none => []
    | some o => if o.seconds = 0 then ['Z'] else (offsetChars o).take 6
  String.ofList (t.date.chars ++ 'T' :: t.clock.chars ++ offset)

end TenantStore
