import Mathlib.Data.List.TakeWhile
import TenantStore.Schema

/-!
# Which schemas are accepted

A schema is accepted exactly if every table and every column has a name that may be used, the
standard columns have their kinds, and every field down to the last level is sound
(`define_accepts`). The check reads a name up to a line feed that ends it, so a name may be
followed by one (`define_accepts_lineFeed`).
-/

namespace TenantStore

def PlainName (s : String) : Prop :=
  ∃ c cs, s.toList = c :: cs ∧ (Text.isAsciiLetter c = true ∨ c = '_') ∧
    ∀ d ∈ cs, Text.isAsciiWord d = true

/-- A plain name, or one with a line feed after it. -/
def UsableName (s : String) : Prop :=
  ∃ name, PlainName name ∧ (s = name ∨ s = name ++ "\n")

/-- A field and the fields inside it: members of shapes, elements of arrays, values of records. -/
inductive Field.Within (g : Field) : Field → Prop
  | here : Within g g
  | member {m : Modifiers} {shape : List (String × Field)} {name : String} {f : Field}
      (hf : (name, f) ∈ shape) (h : Within g f) : Within g (.object m shape)
  | element {m : Modifiers} {f : Field} {rules : ItemRules} (h : Within g f) :
      Within g (.array m f rules)
  | value {m : Modifiers} {f : Field} (h : Within g f) : Within g (.record m f)

def Field.children : Field → List Field
  | .object _ shape => shape.map (·.2)
  | .array _ element _ => [element]
  | .record _ value => [value]
  | _ => []

theorem Field.forall_within_iff {P : Field → Prop} (f : Field) :
    (∀ g : Field, g.Within f → P g) ↔
      P f ∧ ∀ child ∈ f.children, ∀ g : Field, g.Within child → P g := by
  constructor
  · intro h
    refine ⟨h f .here, fun child hchild g hg => h g ?_⟩
    cases f with
    | object m shape =>
      obtain ⟨e, he, rfl⟩ := List.mem_map.mp hchild
      exact .member he hg
    | array m element rules =>
      obtain rfl := List.mem_singleton.mp hchild
      exact .element hg
    | record m value =>
      obtain rfl := List.mem_singleton.mp hchild
      exact .value hg
    | _ => cases hchild
  · rintro ⟨hself, hchildren⟩ g hg
    cases hg with
    | here => exact hself
    | member hf hg => exact hchildren _ (List.mem_map_of_mem hf) g hg
    | element hg => exact hchildren _ List.mem_cons_self g hg
    | value hg => exact hchildren _ List.mem_cons_self g hg

def Modifiers.FiniteDefault (m : Modifiers) : Prop :=
  ∀ x, m.default = .float x → x.isFinite = true

def Field.Sound (g : Field) : Prop :=
  g.modifiers.FiniteDefault ∧ ∀ m, g ≠ .choice m []

/-- A field of a kind that the store does not know has only its default to check. -/
def Declaration.Sound : Declaration → Prop
  | .field f => ∀ g : Field, g.Within f → g.Sound
  | .unknown _ m => m.FiniteDefault
  | .foreign _ => False

structure Declaration.Accepted (name : String) (d : Declaration) : Prop where
  named : UsableName name
  identity : name = "id" → ∃ m r, d = .field (.text m r) ∧ r.isUuid = true
  timestamp : name = "created_at" ∨ name = "updated_at" → ∃ m, d = .field (.date m)
  sound : d.Sound

structure Table.Accepted (name : String) (t : Table) : Prop where
  named : UsableName name
  columns : ∀ e ∈ t.columns, e.2.Accepted e.1

namespace Schema

-- ---------------------------------------------------------------------------
-- Names
-- ---------------------------------------------------------------------------

/-- Behind its word characters a text has nothing or a line feed. -/
theorem dropWhile_word_iff (cs : List Char) :
    cs.dropWhile Text.isAsciiWord = [] ∨ cs.dropWhile Text.isAsciiWord = ['\n'] ↔
    ∃ ds, (∀ d ∈ ds, Text.isAsciiWord d = true) ∧ (cs = ds ∨ cs = ds ++ ['\n']) := by
  constructor
  · intro h
    refine ⟨cs.takeWhile Text.isAsciiWord, fun d hd => List.mem_takeWhile_imp hd, ?_⟩
    have hsplit : cs.takeWhile Text.isAsciiWord ++ cs.dropWhile Text.isAsciiWord = cs :=
      List.takeWhile_append_dropWhile
    obtain h | h := h
    · rw [h, List.append_nil] at hsplit
      exact .inl hsplit.symm
    · rw [h] at hsplit
      exact .inr hsplit.symm
  · rintro ⟨ds, hds, rfl | rfl⟩
    · exact .inl (List.dropWhile_eq_nil_iff.mpr hds)
    · rw [List.dropWhile_append_of_pos hds]
      exact .inr rfl

theorem isName_cons (hs : s.toList = c :: cs) : isName s = true ↔
    (Text.isAsciiLetter c = true ∨ c = '_') ∧
      (cs.dropWhile Text.isAsciiWord = [] ∨ cs.dropWhile Text.isAsciiWord = ['\n']) := by
  unfold isName
  rw [hs]
  simp only [Bool.and_eq_true, Bool.or_eq_true, beq_iff_eq]
  refine and_congr_right fun _ => ?_
  cases cs.dropWhile Text.isAsciiWord <;> simp

theorem isName_iff (s : String) : isName s = true ↔ UsableName s := by
  cases hs : s.toList with
  | nil =>
    refine iff_of_false (by simp [isName, hs]) ?_
    rintro ⟨name, ⟨c, cs, hname, -⟩, rfl | rfl⟩ <;> simp [hname] at hs
  | cons c cs =>
    rw [isName_cons hs, dropWhile_word_iff]
    constructor
    · rintro ⟨hc, ds, hds, rfl | rfl⟩
      · exact ⟨s, ⟨c, cs, hs, hc, hds⟩, .inl rfl⟩
      · refine ⟨String.ofList (c :: ds), ⟨c, ds, String.toList_ofList, hc, hds⟩, .inr ?_⟩
        rw [← String.toList_inj, hs]
        simp
    · rintro ⟨name, ⟨c', ds, hname, hc, hds⟩, rfl | rfl⟩
      · obtain ⟨rfl, rfl⟩ := List.cons.inj (hname.symm.trans hs)
        exact ⟨hc, ds, hds, .inl rfl⟩
      · rw [String.toList_append, hname] at hs
        obtain ⟨rfl, rfl⟩ := List.cons.inj hs
        exact ⟨hc, ds, hds, .inr rfl⟩

-- ---------------------------------------------------------------------------
-- Fields
-- ---------------------------------------------------------------------------

theorem badDefault_eq_false_iff (m : Modifiers) : badDefault m = false ↔ m.FiniteDefault := by
  unfold badDefault Modifiers.FiniteDefault
  split
  · rename_i x hx
    simp [hx]
  · rename_i hx
    exact iff_of_true rfl fun x h => absurd h (hx x)

theorem noChoice_iff {m : Modifiers} {values : List String} (path : String) :
    (if values.isEmpty then some (SchemaFault.noChoice path) else none) = none ↔
      ∀ m', Field.choice m values ≠ .choice m' [] := by
  cases values <;> simp

theorem defaultFault_iff (path : String) (m : Modifiers) (next : Option SchemaFault) :
    (if badDefault m then some (SchemaFault.notFinite path) else next) = none ↔
      m.FiniteDefault ∧ next = none := by
  rw [← badDefault_eq_false_iff]
  cases badDefault m <;> simp

/-- Only choices have more than their default to be sound. -/
theorem sound_iff {f : Field} (hf : ∀ m, f ≠ .choice m []) :
    f.Sound ↔ f.modifiers.FiniteDefault :=
  and_iff_left hf

-- The induction follows the nesting of fields: each field is checked by itself, its default first,
-- and then its parts are.
mutual
theorem fieldFault?_eq_none_iff (path : String) (f : Field) :
    fieldFault? path f = none ↔ ∀ g : Field, g.Within f → g.Sound := by
  rw [Field.forall_within_iff]
  cases f with
  | object m shape =>
    rw [fieldFault?, defaultFault_iff, shapeFault?_eq_none_iff path shape, sound_iff (by simp)]
    simp only [Field.children, List.forall_mem_map, Field.modifiers]
  | array m element rules =>
    rw [fieldFault?, defaultFault_iff, fieldFault?_eq_none_iff _ element, sound_iff (by simp)]
    simp only [Field.children, List.forall_mem_singleton, Field.modifiers]
  | record m value =>
    rw [fieldFault?, defaultFault_iff, fieldFault?_eq_none_iff _ value, sound_iff (by simp)]
    simp only [Field.children, List.forall_mem_singleton, Field.modifiers]
  | choice m values =>
    rw [fieldFault?, defaultFault_iff, noChoice_iff path (m := m)]
    exact (and_iff_left (List.forall_mem_nil _)).symm
  | text m r | number m r | boolean m | date m | literal m v =>
    rw [fieldFault?, defaultFault_iff]
    · rw [sound_iff (by simp)]
      exact and_congr_right fun _ => iff_of_true rfl (List.forall_mem_nil _)
    all_goals simp

theorem shapeFault?_eq_none_iff (path : String) (shape : List (String × Field)) :
    shapeFault? path shape = none ↔ ∀ e ∈ shape, ∀ g : Field, g.Within e.2 → g.Sound := by
  cases shape with
  | nil => simp [shapeFault?]
  | cons e rest =>
    obtain ⟨name, f⟩ := e
    rw [List.forall_mem_cons, ← fieldFault?_eq_none_iff (path ++ "." ++ name) f,
      ← shapeFault?_eq_none_iff path rest, shapeFault?]
    cases fieldFault? (path ++ "." ++ name) f <;> simp
end

-- ---------------------------------------------------------------------------
-- Columns and tables
-- ---------------------------------------------------------------------------

theorem declarationFault?_eq_none_iff (path : String) (d : Declaration) :
    declarationFault? path d = none ↔ d.Sound := by
  cases d with
  | field f => exact fieldFault?_eq_none_iff path f
  | unknown kind m =>
    simp only [declarationFault?, Declaration.Sound, ← badDefault_eq_false_iff]
    cases badDefault m <;> simp
  | foreign v => simp [declarationFault?, Declaration.Sound]

theorem isIdentity_iff (d : Declaration) :
    isIdentity d = true ↔ ∃ m r, d = .field (.text m r) ∧ r.isUuid = true := by
  unfold isIdentity
  split
  · rename_i m r
    exact ⟨fun h => ⟨m, r, rfl, h⟩, by rintro ⟨_, _, heq, h⟩; cases heq; exact h⟩
  · rename_i hd
    refine iff_of_false (by simp) ?_
    rintro ⟨m, r, rfl, -⟩
    exact hd m r rfl

theorem isDate_iff (d : Declaration) : isDate d = true ↔ ∃ m, d = .field (.date m) := by
  unfold isDate
  split
  · simp
  · rename_i hd
    refine iff_of_false (by simp) ?_
    rintro ⟨m, rfl⟩
    exact hd m rfl

theorem columnFault?_eq_none_iff (table name : String) (d : Declaration) :
    columnFault? table name d = none ↔ d.Accepted name := by
  have htimestamp : timestampColumns.contains name = true ↔
      name = "created_at" ∨ name = "updated_at" := by simp [timestampColumns]
  unfold columnFault?
  constructor
  · intro h
    split at h
    · cases h
    split at h
    · cases h
    split at h
    · cases h
    rename_i hname hidentity hdate
    refine ⟨(isName_iff name).mp (by simpa using hname), fun hid => ?_, fun hts => ?_,
      (declarationFault?_eq_none_iff _ d).mp h⟩
    · exact (isIdentity_iff d).mp (by simpa [primaryKey, hid] using hidentity)
    · rw [htimestamp.mpr hts] at hdate
      exact (isDate_iff d).mp (by simpa using hdate)
  · intro h
    rw [if_neg (by simp [(isName_iff name).mpr h.named]), if_neg, if_neg]
    · exact (declarationFault?_eq_none_iff _ d).mpr h.sound
    · rintro hts
      rw [Bool.and_eq_true] at hts
      have hdate := (isDate_iff d).mpr (h.timestamp (htimestamp.mp hts.1))
      simp [hdate] at hts
    · rintro ⟨hid, hnot⟩
      have hidentity := (isIdentity_iff d).mpr (h.identity hid)
      simp [hidentity] at hnot

theorem tableFault?_eq_none_iff (name : String) (t : Table) :
    tableFault? name t = none ↔ t.Accepted name := by
  have hcolumns : (t.columns.findSome? fun e => columnFault? name e.1 e.2) = none ↔
      ∀ e ∈ t.columns, e.2.Accepted e.1 := by
    rw [List.findSome?_eq_none_iff]
    exact forall₂_congr fun e _ => columnFault?_eq_none_iff name e.1 e.2
  unfold tableFault?
  cases hname : isName name with
  | false =>
    refine iff_of_false (by simp) fun h => ?_
    rw [(isName_iff name).mpr h.named] at hname
    cases hname
  | true =>
    simp only [Bool.not_true, Bool.false_eq_true, if_false]
    exact hcolumns.trans ⟨fun h => ⟨(isName_iff name).mp hname, h⟩, fun h => h.columns⟩

-- ---------------------------------------------------------------------------
-- Schemas
-- ---------------------------------------------------------------------------

theorem findFault_eq_none_iff (tables : List (String × Table)) :
    (tables.findSome? fun (name, t) => tableFault? name t) = none ↔
      ∀ e ∈ tables, e.2.Accepted e.1 := by
  rw [List.findSome?_eq_none_iff]
  exact forall₂_congr fun e _ => tableFault?_eq_none_iff e.1 e.2

theorem accepted_of_define {tables : List (String × Table)} {version : Int} {s : Schema}
    (h : define tables version = .ok s) (ht : (name, t) ∈ s.tables) : t.Accepted name := by
  unfold define at h
  split at h
  · cases h
  · rename_i hnone
    obtain rfl := Except.ok.inj h
    exact (findFault_eq_none_iff _).mp hnone _ ht

/-- A definition gives the schema of its tables if all of them are accepted, and a definition
failure in every other case. -/
theorem define_accepts (tables : List (String × Table)) (version : Int) :
    ((∃ s, define tables version = .ok s ∧ s.tables = Assoc.ofList tables ∧
        s.version = version) ↔ ∀ e ∈ Assoc.ofList tables, e.2.Accepted e.1) ∧
      ((∃ fault message, define tables version = .error fault ∧
        fault.failure = .definition message) ↔ ¬ ∀ e ∈ Assoc.ofList tables, e.2.Accepted e.1) := by
  rw [← findFault_eq_none_iff]
  unfold define
  cases (Assoc.ofList tables).findSome? fun (name, t) => tableFault? name t with
  | none => exact ⟨iff_of_true ⟨_, rfl, rfl, rfl⟩ rfl, iff_of_false (by simp) (by simp)⟩
  | some fault =>
    exact ⟨iff_of_false (by simp) (by simp), iff_of_true ⟨fault, _, rfl, rfl⟩ (by simp)⟩

/-- A table name with a line feed at its end is accepted, although it is not plain. -/
theorem define_accepts_lineFeed :
    (∃ s, define [("notes\n", Table.ofList [] none)] 1 = .ok s) ∧ ¬ PlainName "notes\n" := by
  refine ⟨⟨_, rfl⟩, ?_⟩
  rintro ⟨c, cs, hs, -, hcs⟩
  have hlist : "notes\n".toList = ['n', 'o', 't', 'e', 's', '\n'] := by rfl
  rw [hlist] at hs
  obtain ⟨rfl, rfl⟩ := List.cons.inj hs
  exact absurd (hcs '\n' (by simp)) (by decide)

end Schema

end TenantStore
