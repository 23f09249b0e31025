import Mathlib.Data.List.Basic
import TypedSql.Proofs.Query.Compile
import TypedSql.Schema.Create

/-!
What a table definition is put together of. Each column brings its own text, its declaration and
the clauses that its options call for, and all of these are words and closed expressions. The
clauses keep the cells of their marks; the column itself is taken without its cells. So a definition
is closed, and can be built, exactly where no column binds anything. A schema and calls that
describe the same columns define the same table.
-/

namespace TypedSql

open Fragment (Spells)

/-! ## The clauses of a column -/

/-- A word that is empty, or begins with a space, after text. -/
theorem Reads.append_option {d : Nat} {s w : String} (hs : Reads d d 0 s.toList)
    (hw : Reads d d 0 w.toList) (hp : w = "" ∨ Parts w) : Reads d d 0 (s ++ w).toList := by
  rw [String.toList_append]
  exact hs.append hw ((Fragment.apart_raw hp).joins _)

theorem reads_declaration (type : ValueType) (nullable primaryKey autoincrement unique : Bool) :
    Reads 0 0 0 (declaration type nullable primaryKey autoincrement unique).toList := by
  have htype : Reads 0 0 0 (" " ++ type.declared).toList := by cases type <;> decide
  have hprimaryKey := htype.append_option (w := if primaryKey then " PRIMARY KEY" else "")
    (by cases primaryKey <;> decide) (by cases primaryKey <;> decide)
  have hautoincrement := hprimaryKey.append_option
    (w := if autoincrement then " AUTOINCREMENT" else "") (by cases autoincrement <;> decide)
    (by cases autoincrement <;> decide)
  have hnullable := hautoincrement.append_option (w := if nullable then "" else " NOT NULL")
    (by cases nullable <;> decide) (by cases nullable <;> decide)
  exact hnullable.append_option (w := if unique then " UNIQUE" else "") (by cases unique <;> decide)
    (by cases unique <;> decide)

theorem parts_declaration (type : ValueType) (nullable primaryKey autoincrement unique : Bool) :
    Parts (declaration type nullable primaryKey autoincrement unique) :=
  ((((parts_space.append _).append _).append _).append _).append _

namespace ColumnOptions

variable (o : ColumnOptions)

/-- What the options bind, in the order of their clauses. -/
def cells : List Cell :=
  (match o.check with
    | some condition => condition.render.cells
    | none => []) ++
  (match o.default with
    | some v => [some v.store]
    | none => [])

def checkClause : Fragment :=
  match o.check with
  | some condition => .enclosed " CHECK (" condition.render ")"
  | none => .raw ""

def defaultClause : Fragment :=
  match o.default with
  | some v => .raw " DEFAULT " ++ .bound (some v.store)
  | none => .raw ""

def referencesText : String :=
  match o.references with
  | some (table, referenced) =>
      " REFERENCES " ++ quoteIdentifier table ++ " (" ++ quoteIdentifier referenced ++ ")"
  | none => ""

def checkText : String :=
  match o.check with
  | some condition => " CHECK (" ++ condition.compiled ++ ")"
  | none => ""

def defaultText : String :=
  match o.default with
  | some v => " DEFAULT " ++ v.store.literal
  | none => ""

theorem definition_eq (column : Term) (type : ValueType) (nullable : Bool) :
    o.definition column type nullable =
      .raw (column.sql ++ declaration type nullable o.primaryKey o.autoincrement o.unique) ++
        o.checkClause ++ o.defaultClause ++ .raw o.referencesText := by
  unfold definition checkClause defaultClause referencesText
  cases o.references <;> rfl

theorem cells_definition (column : Term) (type : ValueType) (nullable : Bool) :
    (o.definition column type nullable).cells = o.cells := by
  have hcheck : o.checkClause.cells = match o.check with
      | some condition => condition.render.cells
      | none => [] := by
    unfold checkClause
    cases o.check with
    | none => rfl
    | some x => exact List.append_nil x.render.cells
  have hdefault : o.defaultClause.cells = match o.default with
      | some v => [some v.store]
      | none => [] := by
    unfold defaultClause
    cases o.default <;> rfl
  rw [definition_eq, cells, ← hcheck, ← hdefault]
  simp only [Fragment.cells_append, Fragment.cells_raw, List.nil_append, List.append_nil]

variable {leaf : Fragment → String → Prop}

theorem spells_checkClause (h : ∀ x ∈ o.check, x.Spelled leaf) :
    o.checkClause.Spells leaf o.checkText := by
  unfold checkClause checkText
  cases hcheck : o.check with
  | none => exact .word (show Reads 0 0 0 "".toList by decide)
  | some x =>
      have hopen : Word 0 1 " CHECK (" := by decide
      exact .enclosed hopen (h x hcheck) (show Reads 1 0 0 ")".toList by decide) (by decide)

theorem apart_checkClause : o.checkClause.Apart := by
  unfold checkClause
  cases o.check with
  | none => exact Fragment.apart_raw (.inl rfl)
  | some x => exact Fragment.apart_enclosed (by decide) x.render ")"

theorem spells_defaultClause (h : ∀ cell : Cell, leaf (.bound cell) cell.literal) :
    o.defaultClause.Spells leaf o.defaultText := by
  unfold defaultClause defaultText
  cases o.default with
  | none => exact .word (show Reads 0 0 0 "".toList by decide)
  | some v => exact .word_append (show Word 0 0 " DEFAULT " by decide) (.leaf (h (some v.store)))

theorem apart_defaultClause : o.defaultClause.Apart := by
  unfold defaultClause
  cases o.default with
  | none => exact Fragment.apart_raw (.inl rfl)
  | some v => exact Fragment.apart_raw_append (by decide) _

theorem spells_referencesText : (Fragment.raw o.referencesText).Spells leaf o.referencesText := by
  unfold referencesText
  cases o.references with
  | none => exact .word (show Reads 0 0 0 "".toList by decide)
  | some names =>
      have hopen : Word 0 1 " (" := by decide
      have hname : Spells leaf (.raw " REFERENCES " ++ .name names.1) _ :=
        .word_append (show Word 0 0 " REFERENCES " by decide) (spells_name names.1)
      exact (hname.between hopen (by decide) (spells_name names.2)).append_word
        (show Reads 1 0 0 ")".toList by decide) (by decide)

theorem apart_referencesText : (Fragment.raw o.referencesText).Apart := by
  unfold referencesText
  cases o.references with
  | none => exact Fragment.apart_raw (.inl rfl)
  | some names =>
      have hp : Parts " REFERENCES " := by decide
      exact Fragment.apart_raw (.inr ((((hp.append _).append _).append _).append _))

end ColumnOptions

/-! ## Columns -/

/-- A column as it is added to a definition: an expression of a value type, and options that suit
the type. -/
structure ColumnCall where
  column : Term
  options : ColumnOptions
  type : ValueType
  nullable : Bool
  typed : column.type? = some (.value type nullable)
  suited : options.wellTyped type = true

namespace ColumnCall

variable (c : ColumnCall)

def declaration : String :=
  TypedSql.declaration c.type c.nullable c.options.primaryKey c.options.autoincrement
    c.options.unique

def definition : Fragment := c.options.definition c.column c.type c.nullable

/-- What the column and its options bind, in the order of the marks. -/
def cells : List Cell := c.column.render.cells ++ c.options.cells

/-- The declaration and the clauses of the options, after a column. -/
def after (x : Fragment) : Fragment :=
  x ++ .raw c.declaration ++ c.options.checkClause ++ c.options.defaultClause ++
    .raw c.options.referencesText

/-- The definition with the cells of the column as well. -/
def complete : Fragment := c.after c.column.render

def text : String :=
  c.column.compiled ++ c.declaration ++ c.options.checkText ++ c.options.defaultText ++
    c.options.referencesText

/-- The column and the check are closed expressions. -/
def Closed : Prop := c.column.render.Closed ∧ ∀ x ∈ c.options.check, x.render.Closed

theorem definition_eq : c.definition = c.after (.raw c.column.sql) :=
  c.options.definition_eq c.column c.type c.nullable

theorem sql_complete : c.complete.sql = c.definition.sql := by
  rw [definition_eq]
  rfl

theorem cells_after (x : Fragment) : (c.after x).cells = x.cells ++ c.options.cells := by
  have hcells := c.options.cells_definition c.column c.type c.nullable
  rw [ColumnOptions.definition_eq] at hcells
  rw [← hcells]
  simp only [after, Fragment.cells_append, Fragment.cells_raw, List.nil_append, List.append_nil,
    List.append_assoc]

theorem cells_definition : c.definition.cells = c.options.cells := by
  rw [definition_eq, cells_after]
  rfl

variable {leaf : Fragment → String → Prop} {c}

/-- A column and its clauses keep apart. -/
theorem spells_after (hbound : ∀ cell : Cell, leaf (.bound cell) cell.literal)
    (hcheck : ∀ x ∈ c.options.check, x.Spelled leaf) {x : Fragment} {s : String}
    (hx : x.Spells leaf s) : (c.after x).Spells leaf
      (s ++ c.declaration ++ c.options.checkText ++ c.options.defaultText ++
        c.options.referencesText) := by
  have hdeclared : Spells leaf (x ++ .raw c.declaration) (s ++ c.declaration) :=
    hx.append_word (reads_declaration ..) (parts_declaration ..)
  have hchecked := hdeclared.append (c.options.spells_checkClause hcheck)
    c.options.apart_checkClause
  have hdefault := hchecked.append (c.options.spells_defaultClause hbound)
    c.options.apart_defaultClause
  exact hdefault.append c.options.spells_referencesText c.options.apart_referencesText

end ColumnCall

/-! ## Definitions -/

namespace CreateTable

def text (table : String) (ifNotExists : Bool) (columns : List String) : String :=
  "CREATE TABLE " ++ (if ifNotExists then "IF NOT EXISTS " else "") ++ quoteIdentifier table ++
    " (" ++ ", ".intercalate columns ++ ")"

/-- Adds columns one after another. -/
def columns? (t : CreateTable) (calls : List ColumnCall) : Option CreateTable :=
  calls.foldlM (fun t c => t.column? c.column c.options) t

theorem column?_call (t : CreateTable) (c : ColumnCall) :
    t.column? c.column c.options = some { t with columns := t.columns ++ [c.definition] } := by
  rw [column?, c.typed]
  exact if_pos c.suited

theorem columns?_eq (t : CreateTable) (calls : List ColumnCall) :
    t.columns? calls =
      some { t with columns := t.columns ++ calls.map ColumnCall.definition } := by
  induction calls generalizing t with
  | nil =>
      rw [List.map_nil, List.append_nil]
      rfl
  | cons c calls ih =>
      have hfirst : t.columns? (c :: calls) =
          columns? { t with columns := t.columns ++ [c.definition] } calls := by
        rw [columns?, List.foldlM_cons, column?_call]
        rfl
      rw [hfirst, ih, List.append_assoc]
      rfl

variable {leaf : Fragment → String → Prop} (table : String) (ifNotExists : Bool)

theorem word_head : Word 0 1 ("CREATE TABLE " ++ (if ifNotExists then "IF NOT EXISTS " else "") ++
    quoteIdentifier table ++ " (") := by
  have hcreate : Word 0 0 ("CREATE TABLE " ++ (if ifNotExists then "IF NOT EXISTS " else "")) := by
    cases ifNotExists <;> decide
  have hname : Reads 0 0 0 (("CREATE TABLE " ++ (if ifNotExists then "IF NOT EXISTS " else "")) ++
      quoteIdentifier table).toList := by
    rw [String.toList_append]
    exact hcreate.reads.append (reads_quoteIdentifier table) (.inl hcreate.settled)
  have hopen := Word.open_after (hname.append_option (w := " ") (by decide) (by decide))
  rwa [String.append_assoc, show " " ++ "(" = " (" by decide] at hopen

theorem spells_render {α : Type} {f : α → Fragment} {g : α → String} {xs : List α}
    (h : ∀ a ∈ xs, (f a).Spells leaf (g a)) :
    (render ⟨table, ifNotExists, xs.map f⟩).Spells leaf (text table ifNotExists (xs.map g)) :=
  .enclosed (word_head table ifNotExists) (.commas h) (show Reads 1 0 0 ")".toList by decide)
    (by decide)

theorem sql_render (xs : List Fragment) : (render ⟨table, ifNotExists, xs⟩).sql =
    text table ifNotExists (xs.map Fragment.sql) := by
  rw [render, Fragment.enclosed, Fragment.sql_append, Fragment.sql_append, Fragment.commas,
    Fragment.sql_joined]
  rfl

theorem cells_render (t : CreateTable) : t.render.cells = t.columns.flatMap Fragment.cells := by
  simp only [render, Fragment.enclosed, Fragment.commas, Fragment.cells_append, Fragment.cells_raw,
    Fragment.cells_joined, List.nil_append, List.append_nil]

/-! ## What a definition binds -/

/-- The table that calls define. -/
def declared (calls : List ColumnCall) : CreateTable :=
  ⟨table, ifNotExists, calls.map ColumnCall.definition⟩

/-- The table that calls define, with the cells of the columns as well. -/
def completed (calls : List ColumnCall) : CreateTable :=
  ⟨table, ifNotExists, calls.map ColumnCall.complete⟩

theorem columns?_eq_declared (calls : List ColumnCall) :
    columns? ⟨table, ifNotExists, []⟩ calls = some (declared table ifNotExists calls) :=
  columns?_eq _ calls

theorem sql_completed (calls : List ColumnCall) :
    (completed table ifNotExists calls).render.sql =
      (declared table ifNotExists calls).render.sql := by
  rw [completed, declared, sql_render, sql_render, List.map_map, List.map_map]
  exact congrArg _ (List.map_congr_left fun c _ => c.sql_complete)

theorem cells_completed (calls : List ColumnCall) :
    (completed table ifNotExists calls).render.cells = calls.flatMap ColumnCall.cells := by
  rw [completed, cells_render, List.flatMap_map]
  exact List.flatMap_congr fun c _ => c.cells_after c.column.render

theorem cells_declared (calls : List ColumnCall) :
    (declared table ifNotExists calls).render.cells = calls.flatMap (·.options.cells) := by
  rw [declared, cells_render, List.flatMap_map]
  exact List.flatMap_congr fun c _ => c.cells_definition

theorem length_cells (calls : List ColumnCall) : (calls.flatMap ColumnCall.cells).length =
    (calls.flatMap (·.column.render.cells)).length + (calls.flatMap (·.options.cells)).length := by
  induction calls with
  | nil => rfl
  | cons c calls ih =>
      simp only [List.flatMap_cons, List.length_append, ih, ColumnCall.cells]
      omega

/-- Where no column binds anything, no cell is missing. -/
theorem render_declared {calls : List ColumnCall}
    (hnone : calls.flatMap (·.column.render.cells) = []) :
    (declared table ifNotExists calls).render = (completed table ifNotExists calls).render := by
  apply Fragment.eq_of_sql_eq
  · exact (sql_completed table ifNotExists calls).symm
  · rw [cells_declared, cells_completed]
    apply List.flatMap_congr
    intro c hc
    rw [ColumnCall.cells, List.flatMap_eq_nil_iff.mp hnone c hc, List.nil_append]

/-- Parts that are closed, with what they are filled to as their text. -/
def ClosedPart (x : Fragment) (t : String) : Prop := x.Closed ∧ x.FillsTo t

theorem spells_of_closed {c : ColumnCall} (h : c.Closed) : c.complete.Spells ClosedPart c.text := by
  apply ColumnCall.spells_after
  · exact fun cell => ⟨.bound cell, .bound cell⟩
  · exact fun x hx => .leaf ⟨h.2 x hx, (h.2 x hx).fillsTo⟩
  · exact .leaf ⟨h.1, h.1.fillsTo⟩

variable {calls : List ColumnCall} (h : ∀ c ∈ calls, c.Closed)
include h

theorem spells_completed : (completed table ifNotExists calls).render.Spells ClosedPart
    (text table ifNotExists (calls.map ColumnCall.text)) :=
  spells_render table ifNotExists fun c hc => spells_of_closed (h c hc)

theorem closed_completed : (completed table ifNotExists calls).render.Closed :=
  Fragment.Closed.compositional.spells (spells_completed table ifNotExists h) fun _ _ hx => hx.1

theorem fillsTo_completed : (completed table ifNotExists calls).render.FillsTo
    (text table ifNotExists (calls.map ColumnCall.text)) :=
  (spells_completed table ifNotExists h).fillsTo fun _ _ hx => hx.2

theorem positionals_declared :
    positionals (scan (declared table ifNotExists calls).render.sql.toList) =
      List.replicate (calls.flatMap ColumnCall.cells).length (.positional []) := by
  rw [← sql_completed, ← cells_completed table ifNotExists]
  exact (closed_completed table ifNotExists h).marks

/-- A mark of a column has no cell in the definition. -/
theorem closed_declared_iff : (declared table ifNotExists calls).render.Closed ↔
    calls.flatMap (·.column.render.cells) = [] := by
  constructor
  · intro hclosed
    have hlength := length_cells calls
    have hcount := congrArg List.length hclosed.marks
    rw [positionals_declared table ifNotExists h, cells_declared, List.length_replicate,
      List.length_replicate] at hcount
    exact List.length_eq_zero_iff.mp (by omega)
  · intro hnone
    rw [render_declared table ifNotExists hnone]
    exact closed_completed table ifNotExists h

theorem build_declared (hnone : calls.flatMap (·.column.render.cells) = []) :
    (declared table ifNotExists calls).build =
      .ok (text table ifNotExists (calls.map ColumnCall.text)) := by
  rw [build, render_declared table ifNotExists hnone]
  exact (fillsTo_completed table ifNotExists h).compile

theorem build_declared_of_bound (hsome : calls.flatMap (·.column.render.cells) ≠ []) :
    (declared table ifNotExists calls).build = .error (.countMismatch
      (calls.flatMap ColumnCall.cells).length (calls.flatMap (·.options.cells)).length) := by
  have hlength := length_cells calls
  have hpositive := List.length_pos_iff.mpr hsome
  rw [build, Fragment.compile, cells_declared]
  exact inlinePositional_of_marks (positionals_declared table ifNotExists h) (by omega)

/-- A definition of closed columns has a mark for every value in them, and binds those of the checks
and the defaults. So it has one cell for each mark, and can be built with every value in its own
place, if and only if no column binds a value itself. -/
theorem columns?_closed_iff :
    ∃ t, columns? ⟨table, ifNotExists, []⟩ calls = some t ∧
      positionals (scan t.render.sql.toList) =
        List.replicate (calls.flatMap ColumnCall.cells).length (.positional []) ∧
      t.render.cells = calls.flatMap (·.options.cells) ∧
      (t.render.Closed ↔ ∀ c ∈ calls, c.column.render.cells = []) ∧
      (t.render.Closed → t.build = .ok (text table ifNotExists (calls.map ColumnCall.text))) ∧
      (¬ t.render.Closed → t.build = .error (.countMismatch
        (calls.flatMap ColumnCall.cells).length (calls.flatMap (·.options.cells)).length)) := by
  have hiff := closed_declared_iff table ifNotExists h
  have hmarks := positionals_declared table ifNotExists h
  have hcells := cells_declared table ifNotExists calls
  refine ⟨_, columns?_eq_declared table ifNotExists calls, hmarks, hcells, ?_, ?_, ?_⟩
  · rw [hiff, List.flatMap_eq_nil_iff]
  · exact fun hclosed => build_declared table ifNotExists h (hiff.mp hclosed)
  · intro hopen
    exact build_declared_of_bound table ifNotExists h fun hnone => hopen (hiff.mpr hnone)

omit h in
theorem columns?_closed_iff_bound_name :
    ∃ t, columns? ⟨"t", false, []⟩ [⟨.value (.text "a"),
        ({} : ColumnOptions).withDefault (.text "?"), .text, false, rfl, rfl⟩] = some t ∧
      t.render.cells = [some (.text "?")] ∧ ¬ t.render.Closed ∧
      t.build = .error (.countMismatch 2 1) := by
  have hcalls : ∀ c ∈ ([⟨.value (.text "a"), ({} : ColumnOptions).withDefault (.text "?"), .text,
      false, rfl, rfl⟩] : List ColumnCall), c.Closed := by
    intro c hc
    obtain rfl := List.mem_singleton.mp hc
    exact ⟨.bound _, fun x hx => nomatch hx⟩
  obtain ⟨t, ht, -, hcells, hiff, -, hopen⟩ := columns?_closed_iff "t" false hcalls
  have hnot : ¬ t.render.Closed := by
    intro hclosed
    have hnone := hiff.mp hclosed _ List.mem_cons_self
    exact absurd hnone (by decide)
  exact ⟨t, ht, hcells, hnot, hopen hnot⟩

end CreateTable

end TypedSql
