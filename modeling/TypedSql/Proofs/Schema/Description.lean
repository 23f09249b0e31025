import TypedSql.Proofs.Schema.Definition

/-!
Columns described once and declared in two ways: recorded in a schema, with the default as the text
of its literal, and added one by one, with the default bound to a mark. The definitions that come of
the two are built to the same text, whatever the names and the defaults are.
-/

namespace TypedSql

/-- What can be said of a column in either way. -/
structure ColumnDescription where
  name : String
  type : ValueType
  nullable : Bool
  primaryKey : Bool
  autoincrement : Bool
  unique : Bool
  default : Option Value
  primaryKey_of_autoincrement : autoincrement = true → primaryKey = true
  type_default : ∀ v ∈ default, v.type = type

namespace ColumnDescription

variable (d : ColumnDescription)

/-- The column as a schema records it. -/
def schema : ColumnSchema where
  name := d.name
  type := d.type
  nullable := d.nullable
  primaryKey := d.primaryKey
  unique := d.unique
  autoincrement := d.autoincrement
  defaultText := d.default.map fun v => v.store.literal

/-- The options that the constraints ask for, one after another. -/
def options : ColumnOptions :=
  let keyed :=
    if d.autoincrement then ({} : ColumnOptions).withAutoincrement
    else if d.primaryKey then ({} : ColumnOptions).withPrimaryKey
    else {}
  let unique := if d.unique then keyed.withUnique else keyed
  match d.default with
  | some v => unique.withDefault v
  | none => unique

theorem options_eq : d.options =
    { primaryKey := d.primaryKey, autoincrement := d.autoincrement, unique := d.unique,
      default := d.default } := by
  have hkey := d.primaryKey_of_autoincrement
  unfold options
  cases hauto : d.autoincrement with
  | true =>
      rw [hkey hauto]
      cases d.unique <;> cases d.default <;> rfl
  | false => cases d.primaryKey <;> cases d.unique <;> cases d.default <;> rfl

theorem wellTyped_options : d.options.wellTyped d.type = true := by
  rw [options_eq, ColumnOptions.wellTyped]
  have htype := d.type_default
  cases hdefault : d.default with
  | none => rfl
  | some v => simp [htype v hdefault]

/-- The column as it is added to a definition. -/
def call : ColumnCall where
  column := .column d.name (.value d.type d.nullable)
  options := d.options
  type := d.type
  nullable := d.nullable
  typed := rfl
  suited := d.wellTyped_options

theorem options_call : d.call.options =
    { primaryKey := d.primaryKey, autoincrement := d.autoincrement, unique := d.unique,
      default := d.default } :=
  d.options_eq

theorem closed_call : d.call.Closed := by
  constructor
  · exact .raw_self (reads_quoteIdentifier d.name)
  · intro x hx
    rw [options_call] at hx
    cases hx

def defaultText : String :=
  match d.default with
  | some v => " DEFAULT " ++ v.store.literal
  | none => ""

def declaration : String :=
  TypedSql.declaration d.type d.nullable d.primaryKey d.autoincrement d.unique

def text : String := quoteIdentifier d.name ++ d.declaration ++ d.defaultText

theorem definition_schema : d.schema.definition = .raw d.text := by
  unfold ColumnSchema.definition schema text defaultText
  cases d.default <;> rfl

theorem text_call : d.call.text = d.text := by
  have hname : d.call.column.compiled = quoteIdentifier d.name := by
    have hfills := Fragment.FillsTo.raw_self (reads_quoteIdentifier d.name)
    rw [Term.compiled, Fragment.compiled, show d.call.column.render = .raw _ from rfl,
      hfills.compile]
  have hcheck : d.call.options.checkText = "" := by
    rw [options_call]
    rfl
  have hdefault : d.call.options.defaultText = d.defaultText := by
    rw [options_call]
    rfl
  have hreferences : d.call.options.referencesText = "" := by
    rw [options_call]
    rfl
  have hdeclaration : d.call.declaration = d.declaration := by
    rw [ColumnCall.declaration, options_call]
    rfl
  rw [ColumnCall.text, hname, hcheck, hdefault, hreferences, hdeclaration, String.append_empty,
    String.append_empty, text]

theorem reads_text : Reads 0 0 0 d.text.toList := by
  have hdeclared : Reads 0 0 0 (quoteIdentifier d.name ++ d.declaration).toList :=
    (reads_quoteIdentifier d.name).append_option (reads_declaration ..)
      (.inr (parts_declaration ..))
  unfold text defaultText
  cases d.default with
  | none => exact hdeclared.append_option (by decide) (.inl rfl)
  | some v =>
      have hword : Word 0 0 " DEFAULT " := by decide
      have hp : Parts " DEFAULT " := by decide
      apply hdeclared.append_option
      · rw [String.toList_append]
        exact hword.reads.append (reads_literal (some v.store)) (.inl hword.settled)
      · exact .inr (hp.append _)

end ColumnDescription

namespace CreateTable

/-- A table is built to the same text, whether its columns are recorded in a schema or added one
after another. -/
theorem build_ofSchema (table : String) (ifNotExists : Bool) (columns : List ColumnDescription) :
    ∃ t, columns? ⟨table, ifNotExists, []⟩ (columns.map ColumnDescription.call) = some t ∧
      t.build = .ok (text table ifNotExists (columns.map ColumnDescription.text)) ∧
      build { ofSchema ⟨table, columns.map ColumnDescription.schema⟩ with ifNotExists } =
        .ok (text table ifNotExists (columns.map ColumnDescription.text)) := by
  refine ⟨_, columns?_eq_declared table ifNotExists _, ?_, ?_⟩
  · have hclosed : ∀ c ∈ columns.map ColumnDescription.call, c.Closed := by
      intro c hc
      obtain ⟨d, -, rfl⟩ := List.mem_map.mp hc
      exact d.closed_call
    have hnone : (columns.map ColumnDescription.call).flatMap (·.column.render.cells) = [] := by
      rw [List.flatMap_eq_nil_iff]
      intro c hc
      obtain ⟨d, -, rfl⟩ := List.mem_map.mp hc
      rfl
    have htext : (columns.map ColumnDescription.call).map ColumnCall.text =
        columns.map ColumnDescription.text := by
      rw [List.map_map]
      exact List.map_congr_left fun d _ => d.text_call
    rw [← htext]
    exact build_declared table ifNotExists hclosed hnone
  · have hdefinitions : (columns.map ColumnDescription.schema).map ColumnSchema.definition =
        columns.map fun d => .raw d.text := by
      rw [List.map_map]
      exact List.map_congr_left fun d _ => d.definition_schema
    have hspells : (render ⟨table, ifNotExists, columns.map fun d => .raw d.text⟩).Spells
        Fragment.FillsTo (text table ifNotExists (columns.map ColumnDescription.text)) :=
      spells_render table ifNotExists fun d _ => .word d.reads_text
    rw [ofSchema, hdefinitions]
    exact (hspells.fillsTo fun _ _ hx => hx).compile

/-- Names with quotes, marks and the sign of a comment in them, and a default with as much. -/
theorem build_ofSchema_marks :
    let key : ColumnDescription :=
      ⟨"a\"?", .integer, false, true, true, false, none, fun _ => rfl, fun v hv => by cases hv⟩
    let note : ColumnDescription :=
      ⟨"--'", .text, true, false, false, true, some (.text "it's ?1 /* :x"),
        fun h => (Bool.false_ne_true h).elim, fun v hv => by cases hv; rfl⟩
    let sql := "CREATE TABLE IF NOT EXISTS \"t?\" (\"a\"\"?\" INTEGER PRIMARY KEY AUTOINCREMENT " ++
      "NOT NULL, \"--'\" TEXT UNIQUE DEFAULT 'it''s ?1 /* :x')"
    ∃ t, columns? ⟨"t?", true, []⟩ [key.call, note.call] = some t ∧ t.build = .ok sql ∧
      build { ofSchema ⟨"t?", [key.schema, note.schema]⟩ with ifNotExists := true } = .ok sql := by
  intro key note sql
  have hsql : text "t?" true [key.text, note.text] = sql := by decide +kernel
  obtain ⟨t, ht, hcolumns, hschema⟩ := build_ofSchema "t?" true [key, note]
  refine ⟨t, ht, ?_, ?_⟩
  · rw [hcolumns, ← hsql]
    rfl
  · rw [← hsql]
    exact hschema

end CreateTable

end TypedSql
