import TenantStore.Proofs.Sql.Compiled
import TenantStore.Proofs.Sql.Literals
import TenantStore.Sql.Ddl

/-!
# The statements of a table

The text that makes a table reads as the statements that it is meant to have and no others, whatever
names and defaults the table has: each name is one quoted token and each text one string, so nothing
that they contain can end a statement or begin another one (`ddlOf_statements`).

The tokens of the table come from its declarations, part by part, and the text is shown to read as
them in the same parts.
-/

namespace TenantStore.Sql

-- ---------------------------------------------------------------------------
-- Columns
-- ---------------------------------------------------------------------------

def typeNameTokens : ColumnType → List Token
  | .timestamp => Token.words ["TIMESTAMP", "WITH", "TIME", "ZONE"]
  | t => [.word t.name]

def typeTokens (type : ColumnType) (length : Option Int) : List Token :=
  match type, length with
  | .varchar, some n => .word "VARCHAR" :: .symbol '(' :: (intTokens n ++ [.symbol ')'])
  | t, _ => typeNameTokens t

def keyTokens (primaryKey nullable : Bool) : List Token :=
  if primaryKey then Token.words ["PRIMARY", "KEY"]
  else if nullable then [] else Token.words ["NOT", "NULL"]

/-- A column: its name, its type, its part in the key, and its default. -/
def columnTokens (name : String) (type : ColumnType × Option Int) (key : List Token)
    (default : Option (List Token)) : List Token :=
  .name name :: (typeTokens type.1 type.2 ++ (key ++ default.elim [] (.word "DEFAULT" :: ·)))

def idTokens : List Token :=
  columnTokens primaryKey (.uuid, none) (keyTokens true false) (some (callTokens "gen_random_uuid"))

def timestampTokens (name : String) : List Token :=
  columnTokens name (.timestamp, none) (keyTokens false false) (some (callTokens "NOW"))

def declaredTokens (e : String × Declaration) : List Token :=
  e.2.modifiers?.elim [] fun m =>
    columnTokens e.1 (Column.typeOfDeclaration e.2) (keyTokens false (Column.nullableOf m))
      (defaultTokens m)

theorem reads_typeName (t : ColumnType) : Reads t.name.toList (typeNameTokens t) := by
  cases t <;> rfl

theorem reads_sqlType (c : Column) : Reads c.sqlType.toList (typeTokens c.type c.length) := by
  obtain ⟨_, type, _, _, _, _, length, _⟩ := c
  cases type with
  | varchar =>
    cases length with
    | none => exact reads_typeName .varchar
    | some n =>
      have hopen : Closes "VARCHAR(".toList [.word "VARCHAR", .symbol '('] := rfl
      have hclose : Closes ")".toList [.symbol ')'] := rfl
      show Reads ("VARCHAR(" ++ Decimal.intText n ++ ")").toList _
      rw [String.toList_append, String.toList_append, List.append_assoc]
      exact hopen.append_reads ((reads_intText n).append_closes hclose rfl).reads
  | _ => exact reads_typeName _

/-- The parts read one by one as these tokens in a row. -/
inductive InTurn : List String → List Token → Prop
  | nil : InTurn [] []
  | cons : Reads part.toList ts → InTurn parts us → InTurn (part :: parts) (ts ++ us)

theorem InTurn.single (h : Reads part.toList ts) : InTurn [part] ts :=
  List.append_nil ts ▸ .cons h .nil

theorem InTurn.append (h : InTurn parts ts) (h' : InTurn parts' us) :
    InTurn (parts ++ parts') (ts ++ us) := by
  induction h with
  | nil => exact h'
  | cons hpart _ ih =>
    rw [List.append_assoc]
    exact .cons hpart ih

theorem InTurn.reads (h : InTurn parts ts) : Reads (String.intercalate " " parts).toList ts := by
  have hblank : Closes " ".toList [] := rfl
  rw [String.toList_intercalate]
  induction h with
  | nil => rfl
  | @cons part ts parts us hpart hparts ih =>
    cases hparts with
    | nil => simpa using hpart
    | cons hnext hrest =>
      have hclosed := hpart.append_closes hblank rfl
      rw [List.append_nil] at hclosed
      rw [List.map_cons, List.map_cons, List.intercalate_cons_cons]
      exact hclosed.append_reads ih

theorem reads_render {c : Column} (hunique : c.unique = false) (h : DefaultReads c.default ts) :
    Reads c.render.toList
      (columnTokens c.name (c.type, c.length) (keyTokens c.primaryKey c.nullable) ts) := by
  have hparts : columnTokens c.name (c.type, c.length) (keyTokens c.primaryKey c.nullable) ts =
      ([.name c.name] ++ typeTokens c.type c.length) ++ keyTokens c.primaryKey c.nullable ++
        ts.elim [] (.word "DEFAULT" :: ·) ++ [] := by
    simp [columnTokens]
  rw [hparts]
  refine InTurn.reads (.append (.append (.append
    (.cons (reads_quoteIdent c.name) (.single (reads_sqlType c))) ?key) ?default) ?unique)
  case key =>
    cases c.primaryKey with
    | true => exact .single rfl
    | false =>
      cases c.nullable with
      | true => exact .nil
      | false => exact .single rfl
  case default =>
    generalize c.default = default at h ⊢
    cases h with
    | none => exact .nil
    | some hdefault =>
      have hword : Closes "DEFAULT ".toList [.word "DEFAULT"] := rfl
      refine .single ?_
      rw [String.toList_append]
      exact hword.append_reads hdefault
  case unique =>
    rw [hunique]
    exact .nil

theorem reads_declared (h : Definition.Compiles e c) :
    Reads c.render.toList (declaredTokens e) := by
  obtain ⟨m, default, hm, hdefault, rfl⟩ := Column.ofDeclaration_ok.mp h
  have htokens : declaredTokens e = columnTokens e.1 (Column.typeOfDeclaration e.2)
      (keyTokens false (Column.nullableOf m)) (defaultTokens m) := by
    rw [declaredTokens, hm]
    rfl
  rw [htokens]
  exact reads_render rfl (defaultSql_reads hdefault)

theorem reads_id : Reads Definition.idColumn.render.toList idTokens :=
  reads_render rfl (.some rfl)

theorem reads_timestamp (name : String) :
    Reads (Definition.timestampColumn name).render.toList (timestampTokens name) :=
  reads_render rfl (.some rfl)

theorem inner_type (type : ColumnType) (length : Option Int) : Inner (typeTokens type length) := by
  unfold typeTokens
  split
  · simpa [Inner] using inner_int _
  · cases type <;> simp [Inner, typeNameTokens]

theorem inner_key (primaryKey nullable : Bool) : Inner (keyTokens primaryKey nullable) := by
  cases primaryKey <;> cases nullable <;> simp [Inner, keyTokens]

theorem inner_column (hkey : Inner key) (h : ∀ ts ∈ value, Inner ts) :
    Inner (columnTokens name type key value) := by
  have hdefault : Inner (value.elim [] (.word "DEFAULT" :: ·)) := by
    cases value with
    | none => simp [Inner]
    | some ts => simpa [Inner] using h ts rfl
  have htype := inner_type type.1 type.2
  unfold Inner columnTokens at *
  simp [htype, hkey, hdefault]

theorem inner_call (function : String) : ∀ ts ∈ some (callTokens function), Inner ts := by
  simp [Inner, callTokens]

theorem inner_declared (e : String × Declaration) : Inner (declaredTokens e) := by
  unfold declaredTokens
  cases e.2.modifiers? with
  | none => simp [Inner]
  | some m => exact inner_column (inner_key _ _) fun ts h => inner_default h

-- ---------------------------------------------------------------------------
-- Constraints
-- ---------------------------------------------------------------------------

def referenceTokens (table column : String) : Option (List Token) :=
  (Naming.reference? column).map fun r =>
    [.word "CONSTRAINT", .name ("fk_" ++ table ++ "_" ++ column), .word "FOREIGN", .word "KEY",
      .symbol '(', .name column, .symbol ')', .word "REFERENCES", .name r.table, .symbol '(',
      .name r.column, .symbol ')']

theorem inner_reference {table column : String} (h : referenceTokens table column = some ts) :
    Inner ts := by
  obtain ⟨r, -, rfl⟩ := Option.map_eq_some_iff.mp h
  simp [Inner]

/-- A constraint with its name, as it stands among the columns. -/
def Constraint.render (c : Constraint) : String :=
  "CONSTRAINT " ++ quoteIdent c.name ++ " " ++ c.definition

theorem reads_foreignKey (table column : String) :
    Option.Rel (fun c ts => Reads c.render.toList ts) (Definition.foreignKey? table column)
      (referenceTokens table column) := by
  unfold Definition.foreignKey? referenceTokens
  cases Naming.reference? column with
  | none => exact .none
  | some r =>
    have hconstraint : Closes "CONSTRAINT ".toList [.word "CONSTRAINT"] := rfl
    have hblank : Closes " ".toList [] := rfl
    have hkey : Closes "FOREIGN KEY (".toList [.word "FOREIGN", .word "KEY", .symbol '('] := rfl
    have hother : Closes ") REFERENCES ".toList [.symbol ')', .word "REFERENCES"] := rfl
    have hopen : Closes " (".toList [.symbol '('] := rfl
    have hclose : Closes ")".toList [.symbol ')'] := rfl
    have hdefinition :=
      ((hkey.named column hother rfl).named r.table hopen rfl).named r.column hclose rfl
    refine .some ?_
    simp only [Constraint.render, String.toList_append]
    exact ((hconstraint.named _ hblank rfl).append_closes hdefinition).reads

-- ---------------------------------------------------------------------------
-- Statements
-- ---------------------------------------------------------------------------

namespace Statement

open Definition

def elements (name : String) (t : Table) : List (List Token) :=
  [idTokens] ++ (ownColumns t).map declaredTokens ++ timestampColumns.map timestampTokens ++
    (ownColumns t).filterMap fun e => referenceTokens name e.1

def createTable (name : String) (t : Table) : List Token :=
  Token.words ["CREATE", "TABLE", "IF", "NOT", "EXISTS"] ++ [.name name] ++ [.symbol '('] ++
    [.symbol ','].intercalate (elements name t) ++ [.symbol ')']

def createIndex (table : String) (i : Index) : List Token :=
  [.word "CREATE"] ++ (if i.unique then [.word "UNIQUE"] else []) ++
    Token.words ["INDEX", "IF", "NOT", "EXISTS"] ++ [.name i.name] ++ [.word "ON"] ++
    [.name table] ++ [.symbol '('] ++
    [.symbol ','].intercalate (i.columns.map fun c => [.name c]) ++ [.symbol ')']

def createFunction : List Token :=
  Token.words ["CREATE", "OR", "REPLACE", "FUNCTION", updatedAtFunction] ++
    [.symbol '(', .symbol ')'] ++ Token.words ["RETURNS", "TRIGGER", "AS"] ++
    [.body "\nBEGIN\n    NEW.updated_at = NOW();\n    RETURN NEW;\nEND;\n"] ++
    Token.words ["LANGUAGE", "plpgsql"]

def triggerName (table : String) : String :=
  "update_" ++ table ++ "_updated_at"

def dropTrigger (table : String) : List Token :=
  Token.words ["DROP", "TRIGGER", "IF", "EXISTS"] ++ [.name (triggerName table)] ++
    [.word "ON"] ++ [.name table]

def createTrigger (table : String) : List Token :=
  Token.words ["CREATE", "TRIGGER"] ++ [.name (triggerName table)] ++
    Token.words ["BEFORE", "UPDATE", "ON"] ++ [.name table] ++
    Token.words ["FOR", "EACH", "ROW", "EXECUTE", "FUNCTION", updatedAtFunction] ++
    [.symbol '(', .symbol ')']

def all (name : String) (t : Table) (indexes : List Index) : List (List Token) :=
  createTable name t :: indexes.map (createIndex name) ++
    [createFunction, dropTrigger name, createTrigger name]

def terminated (statements : List (List Token)) : List Token :=
  statements.flatMap (· ++ [.symbol ';'])

end Statement

open Statement Definition

-- The parts of the body and those of its tokens go side by side: the key, the declared columns, the
-- timestamps and the foreign keys.
theorem reads_body (name : String) (h : List.Forall₂ Compiles (ownColumns t) cs) :
    Reads (ofColumns name cs).body.toList ([.symbol ','].intercalate (elements name t)) := by
  have hown : List.Forall₂ Reads (cs.map fun c => c.render.toList)
      ((ownColumns t).map declaredTokens) := by
    rw [List.forall₂_map_left_iff, List.forall₂_map_right_iff]
    exact h.flip.imp fun _ _ => reads_declared
  have htimestamps : List.Forall₂ Reads
      (timestampColumns.map fun n => (timestampColumn n).render.toList)
      (timestampColumns.map timestampTokens) :=
    .cons (reads_timestamp _) (.cons (reads_timestamp _) .nil)
  have hconstraints : List.Forall₂ Reads
      ((cs.filterMap fun c => foreignKey? name c.name).map fun c => c.render.toList)
      ((ownColumns t).filterMap fun e => referenceTokens name e.1) := by
    rw [List.forall₂_map_left_iff]
    refine List.rel_filterMap (fun c e hc => ?_) h.flip
    rw [Compiles.name_eq hc]
    exact reads_foreignKey name e.1
  have hcomma : Closes ",\n    ".toList [.symbol ','] := rfl
  have hparts := List.rel_append (List.rel_append (List.rel_append
    (List.Forall₂.cons reads_id .nil) hown) htimestamps) hconstraints
  unfold body
  rw [String.toList_intercalate]
  refine reads_intercalate hcomma rfl ?_
  simpa [ofColumns, elements, Constraint.render, Function.comp_def] using hparts

theorem closes_index (table : String) (i : Index) :
    Closes (indexStatement table i).toList (createIndex table i ++ [.symbol ';']) := by
  have hcreate : Closes "CREATE ".toList [.word "CREATE"] := rfl
  have hunique : Closes (if i.unique then "UNIQUE " else "").toList
      (if i.unique then [.word "UNIQUE"] else []) := by
    cases i.unique <;> rfl
  have hindex : Closes "INDEX IF NOT EXISTS ".toList
      (Token.words ["INDEX", "IF", "NOT", "EXISTS"]) := rfl
  have hon : Closes " ON ".toList [.word "ON"] := rfl
  have hopen : Closes " (".toList [.symbol '('] := rfl
  have hcomma : Closes ", ".toList [.symbol ','] := rfl
  have hclose : Closes ");".toList [.symbol ')', .symbol ';'] := rfl
  have hnames : List.Forall₂ Reads ((i.columns.map quoteIdent).map String.toList)
      (i.columns.map fun c => [.name c]) := by
    rw [List.map_map, List.forall₂_map_left_iff, List.forall₂_map_right_iff, List.forall₂_same]
    exact fun c _ => reads_quoteIdent c
  have hhead := ((hcreate.append_closes hunique).append_closes hindex).named i.name hon rfl
  have hcolumns := (reads_intercalate hcomma rfl hnames).append_closes hclose rfl
  have hall := (hhead.named table hopen rfl).append_closes hcolumns
  -- `simp only` alone: `simp` would spell the fixed texts out.
  unfold indexStatement createIndex
  simp only [String.toList_append, String.toList_intercalate, List.append_assoc] at hall ⊢
  exact hall

theorem closes_function : Closes functionStatement.toList (createFunction ++ [.symbol ';']) := by
  unfold functionStatement
  simp only [String.toList_append]
  decide +kernel

theorem closes_triggers (table : String) : Closes (triggerStatements table).toList
    (dropTrigger table ++ [.symbol ';'] ++ (createTrigger table ++ [.symbol ';'])) := by
  have hdrop : Closes "DROP TRIGGER IF EXISTS ".toList
      (Token.words ["DROP", "TRIGGER", "IF", "EXISTS"]) := rfl
  have hon : Closes " ON ".toList [.word "ON"] := rfl
  have hend : Closes ";\n".toList [.symbol ';'] := rfl
  have hcreate : Closes "CREATE TRIGGER ".toList (Token.words ["CREATE", "TRIGGER"]) := rfl
  have hbefore : Closes "\n    BEFORE UPDATE ON ".toList
      (Token.words ["BEFORE", "UPDATE", "ON"]) := rfl
  have heach : Closes ("\n    FOR EACH ROW EXECUTE FUNCTION " ++ updatedAtFunction ++ "();").toList
      (Token.words ["FOR", "EACH", "ROW", "EXECUTE", "FUNCTION", updatedAtFunction] ++
        [.symbol '(', .symbol ')', .symbol ';']) := by decide +kernel
  have hfirst := (hdrop.named (triggerName table) hon rfl).named table hend rfl
  have hsecond := (hcreate.named (triggerName table) hbefore rfl).named table heach rfl
  have hall := hfirst.append_closes hsecond
  unfold triggerStatements dropTrigger createTrigger
  simp only [String.toList_append, triggerName, List.append_assoc] at hall ⊢
  exact hall

theorem closes_lines {α : Type} {text : α → String} {ts : α → List Token} {xs : List α}
    (h : ∀ x ∈ xs, Closes (text x).toList (ts x)) :
    Closes (String.intercalate "\n" (xs.map text)).toList (xs.flatMap ts) := by
  have hline : Closes "\n".toList [] := rfl
  rw [String.toList_intercalate]
  induction xs with
  | nil => rfl
  | cons x xs ih =>
    obtain ⟨hx, hrest⟩ := List.forall_mem_cons.mp h
    cases xs with
    | nil => simpa using hx
    | cons y xs =>
      have hclosed := hx.append_closes hline
      rw [List.append_nil] at hclosed
      simp only [List.map_cons, List.intercalate_cons_cons, List.flatMap_cons] at ih ⊢
      exact hclosed.append_closes (ih hrest)

theorem closes_indexes (d : Definition) : Closes d.indexStatements.toList
    (terminated (d.indexes.map (createIndex d.name))) := by
  have hbreak : Closes "\n\n".toList [] := rfl
  unfold indexStatements terminated
  rw [List.flatMap_map]
  split
  · next hempty =>
    rw [List.isEmpty_iff.mp hempty]
    rfl
  · rw [String.toList_append]
    exact hbreak.append_closes (closes_lines fun i _ => closes_index d.name i)

theorem closes_ddl {name : String} (h : List.Forall₂ Compiles (ownColumns t) cs) :
    Closes (ofColumns name cs).ddl.toList
      (terminated (all name t (ofColumns name cs).indexes)) := by
  have hcreate : Closes "CREATE TABLE IF NOT EXISTS ".toList
      (Token.words ["CREATE", "TABLE", "IF", "NOT", "EXISTS"]) := rfl
  have hopen : Closes " (\n    ".toList [.symbol '('] := rfl
  have hclose : Closes "\n);".toList [.symbol ')', .symbol ';'] := rfl
  have htable := (hcreate.named name hopen rfl).append_closes
    ((reads_body name h).append_closes hclose rfl)
  have hall := (htable.append_closes (closes_indexes (ofColumns name cs))).append_closes
    (closes_function.append_closes (closes_triggers name))
  have hname : (ofColumns name cs).name = name := rfl
  unfold ddl
  simp only [terminated, all, createTable, List.flatMap_cons, List.flatMap_append, List.flatMap_nil,
    String.toList_append, List.append_assoc, List.cons_append, List.nil_append, List.append_nil,
    hname] at hall ⊢
  exact hall

theorem Inner.intercalate (hs : Inner s) (h : ∀ ts ∈ tss, Inner ts) :
    Inner (s.intercalate tss) := by
  induction tss with
  | nil => simp [Inner]
  | cons ts tss ih =>
    obtain ⟨hts, hrest⟩ := List.forall_mem_cons.mp h
    cases tss with
    | nil => simpa using hts
    | cons us tss =>
      rw [List.intercalate_cons_cons]
      have hall := ih hrest
      unfold Inner at *
      simp [hts, hs, hall]

theorem inner_elements (name : String) (t : Table) : ∀ ts ∈ elements name t, Inner ts := by
  intro ts hts
  simp only [elements, List.mem_append, List.mem_singleton, List.mem_map, List.mem_filterMap] at hts
  obtain ((rfl | ⟨e, -, rfl⟩) | ⟨n, -, rfl⟩) | ⟨e, -, h⟩ := hts
  · exact inner_column (inner_key _ _) (inner_call _)
  · exact inner_declared e
  · exact inner_column (inner_key _ _) (inner_call _)
  · exact inner_reference h

theorem inner_all (name : String) (t : Table) (indexes : List Index) :
    ∀ ts ∈ all name t indexes, Inner ts := by
  have hcomma : Inner [.symbol ','] := by simp [Inner]
  have hcolumns := hcomma.intercalate (inner_elements name t)
  intro ts hts
  simp only [all, List.cons_append, List.mem_cons, List.mem_append, List.mem_map,
    List.not_mem_nil, or_false] at hts
  obtain rfl | ⟨i, -, rfl⟩ | rfl | rfl | rfl := hts
  · unfold Inner createTable at *
    simp [hcolumns]
  · have hnames : Inner ([.symbol ','].intercalate (i.columns.map fun c => [.name c])) := by
      refine hcomma.intercalate fun ts hts => ?_
      obtain ⟨c, -, rfl⟩ := List.mem_map.mp hts
      simp [Inner]
    unfold Inner createIndex at *
    cases i.unique <;> simp [hnames]
  · simp [Inner, createFunction]
  · simp [Inner, dropTrigger]
  · simp [Inner, createTrigger]

theorem split?_terminated (h : ∀ ts ∈ statements, Inner ts) :
    split? (terminated statements) = some statements := by
  induction statements with
  | nil => rfl
  | cons ts statements ih =>
    obtain ⟨hts, hrest⟩ := List.forall_mem_cons.mp h
    unfold terminated at ih ⊢
    rw [List.flatMap_cons, List.append_assoc, List.singleton_append, split?_append hts, ih hrest]
    rfl

/-- The text of a table is read as its four statements and one for each index, whatever its names
and defaults are, and every name and every default is in them as it was declared. -/
theorem ddlOf_statements {name : String} {t : Table} (h : (ddlOf name t).result = .ok text) :
    ∃ d, (ofTable name t).result = .ok d ∧
      statements? text = some (all name t d.indexes) ∧
      (all name t d.indexes).length = 4 + d.indexes.length := by
  obtain ⟨d, hd, htext⟩ := Traced.bind_ok.mp h
  obtain rfl := Except.ok.inj htext
  refine ⟨d, hd, ?_, by simp [all]; omega⟩
  obtain ⟨cs, hcs, rfl⟩ := ofTable_ok.mp hd
  unfold statements?
  -- The text reads as its statements with semicolons, and no semicolon is in any of them.
  rw [show tokens? _ = some _ from (closes_ddl hcs).reads]
  exact split?_terminated (inner_all name t _)

/-- A column whose name and default both try to end the statement. -/
def hostileColumn : String × Declaration :=
  ("x\"); DROP TABLE t; --_id",
    .field (.text (Modifiers.plain.withDefault (.text "'); DROP TABLE t; -- $$"))
      ⟨none, none, false, false, none⟩))

def hostile : Table := Table.ofList [hostileColumn] none

theorem ddlOf_statements_hostile :
    declaredTokens hostileColumn =
      [.name "x\"); DROP TABLE t; --_id", .word "TEXT", .word "NOT", .word "NULL",
        .word "DEFAULT", .string "'); DROP TABLE t; -- $$"] ∧
    ∃ text, (ddlOf "a\"; --" hostile).result = .ok text ∧
      ∃ d, (ofTable "a\"; --" hostile).result = .ok d ∧
        statements? text = some (all "a\"; --" hostile d.indexes) ∧
        (all "a\"; --" hostile d.indexes).length = 4 + d.indexes.length :=
  ⟨by decide, _, rfl, ddlOf_statements rfl⟩

end TenantStore.Sql
