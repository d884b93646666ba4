import TenantStore.Row.Check

/-!
# Rows

A payload becomes a row of a table when every column of it is checked. A new row is filled with
defaults; columns that may be absent and have no default are left out. A change of a row has the
payload's columns only. What the table does not declare is dropped.
-/

namespace TenantStore

/-- What is stored under columns, each at most once, in the order of the table. -/
abbrev Row := List (String × Value)

namespace Row

/-- The store fills these columns itself, so a new row need not have them. -/
def isServerMade (column : String) : Bool :=
  column == primaryKey || timestampColumns.contains column

def modelName : String := "TableRow"

def declarationName (position : Nat) : String :=
  modelName ++ "_" ++ Decimal.natText position

def newColumn (supply : Supply) (entries : List (Value × Value)) (position : Nat) (column : String)
    (d : Declaration) : Checked Row :=
  let m := d.modifiers?.getD .plain
  let here := supply.under column
  if (Value.field? column entries).isNone && !m.hasDefault &&
      (m.isOptional || isServerMade column) then .ok []
  else
    member true here column position m
      (checkDeclaration true here (declarationName position) d) entries

def changedColumn (supply : Supply) (entries : List (Value × Value)) (position : Nat)
    (column : String) (d : Declaration) : Checked Row :=
  match Value.field? column entries with
  | none => .ok []
  | some v =>
    ((checkDeclaration false (supply.under column) (declarationName position) d v).under column).map
      fun v => [(column, v)]

def columnwise (check : Nat → String → Declaration → Checked Row) (t : Table) : Checked Row :=
  (Checked.all (t.columns.mapIdx fun i (column, d) => check i column d)).map List.flatten

/-- A payload that is no mapping breaks the one rule that it has to be. -/
def notAPayload (path : String) : Violation :=
  ⟨path, "payload must be an object", "type"⟩

def nothingToChange : Violation :=
  ⟨"", "no known columns to update", "empty"⟩

section
variable [Pattern.Engine]

/-- A payload's row or its violations, with a path and a lead for the paths in it; a failure where
the table cannot be used. -/
def assess (t : Table) (check : List (Value × Value) → Checked Row) (path lead : String)
    (payload : Value) : Except Failure (Except (List Violation) Row) :=
  match payload with
  | .map entries =>
    match t.fault? with
    | some fault => .error fault
    | none => .ok ((check entries).toExcept.mapError fun fs => fs.map fun f => f.violation lead)
  | _ => .ok (.error [notAPayload path])

def insertAt (t : Table) (supply : Supply) (path lead : String) (payload : Value) :
    Except Failure (Except (List Violation) Row) :=
  assess t (fun entries => columnwise (newColumn supply entries) t) path lead payload

def violations (verdicts : List (Except (List Violation) Row)) : List Violation :=
  verdicts.flatMap fun
    | .ok _ => []
    | .error vs => vs

def accepted (verdicts : List (Except (List Violation) Row)) : List Row :=
  verdicts.filterMap Except.toOption

def conclude (verdicts : List (Except (List Violation) Row)) (table : Option String) :
    Except Failure (List Row) :=
  match violations verdicts with
  | [] => .ok (accepted verdicts)
  | vs => .error (.rejected vs table)

def insert (t : Table) (supply : Supply) (payload : Value) (table : Option String) :
    Except Failure Row :=
  match insertAt t supply "" "" payload with
  | .error fault => .error fault
  | .ok (.error vs) => .error (.rejected vs table)
  | .ok (.ok row) => .ok row

/-- Several new rows; the violations of a row are found under its position. -/
def insertMany (t : Table) (supply : Supply) (payloads : List Value) (table : Option String) :
    Except Failure (List Row) := do
  let verdicts ← (payloads.mapIdx fun i payload =>
    let place := Decimal.natText i
    insertAt t (supply.under place) place (place ++ ".") payload).mapM id
  conclude verdicts table

/-- A change of a row, which has to change something. -/
def update (t : Table) (supply : Supply) (payload : Value) (table : Option String) :
    Except Failure Row :=
  match assess t (fun entries => columnwise (changedColumn supply entries) t) "" "" payload with
  | .error fault => .error fault
  | .ok (.error vs) => .error (.rejected vs table)
  | .ok (.ok []) => .error (.rejected [nothingToChange] table)
  | .ok (.ok row) => .ok row

end

end Row

end TenantStore
