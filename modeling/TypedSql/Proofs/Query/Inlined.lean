import TypedSql.Proofs.Query.Composed
import TypedSql.Proofs.Schema.Description

/-!
What inlining leaves of a statement. The literals that take the places of the marks are read by
themselves, and the words around them stay what they are. So the text that a statement is inlined to
ends in code and has no parameters, and inlining it again would change nothing. A table definition
that lacks cells, since a column of it binds something, is not inlined at all.
-/

namespace TypedSql

open Fragment (Compositional Part)

/-- Texts that join have the parameters of both. -/
theorem Joins.parameters_append {s t : List Char} (h : Joins s t)
    (hs : (Mode.code.after s).region = .code) :
    parameters (s ++ t) = parameters s ++ parameters t := by
  rw [parameters, h.scan_append hs, List.filterMap_append]
  rfl

namespace Fragment

/-- The parameters of a fragment are bare marks, one for each cell, and its cells make of it a text
that ends in code and has no parameters. -/
structure Compiles (x : Fragment) (t : String) : Prop extends x.FillsTo t where
  marks : parameters x.sql.toList = List.replicate x.cells.length (.positional [])
  settles : (Mode.code.after t.toList).region = .code
  bare : parameters t.toList = []

/-- What a fragment becomes forms nothing new with what it follows either. -/
theorem Apart.head_fills {y : Fragment} (h : y.Apart) {t : List Char}
    (hfills : Fills y.sql.toList y.cells t) : ∀ c ∈ t.head?, isGap c = true := by
  obtain ⟨n, hreplace⟩ : ∃ n, replacePositional y.cells 0 (scan y.sql.toList) = .ok (n, t) :=
    ⟨y.cells.length, by simpa using hfills [] []⟩
  cases hsql : y.sql.toList with
  | nil =>
      rw [hsql] at hreplace
      cases hreplace
      simp
  | cons c cs =>
      have hgap := h c (by simp [hsql])
      have hhead := scan_gap hgap cs
      rw [hsql] at hreplace
      cases hscan : scan (c :: cs) with
      | nil => simp [hscan] at hhead
      | cons p ps =>
          obtain rfl : p = .char c := by simpa [hscan] using hhead
          rw [hscan, replacePositional_cons_copied _ _ (by simp)] at hreplace
          cases hrest : replacePositional y.cells 0 ps with
          | error e =>
              rw [hrest] at hreplace
              cases hreplace
          | ok a =>
              rw [hrest] at hreplace
              cases hreplace
              simpa [Piece.text] using hgap

namespace Compiles

variable {x y : Fragment} {d e : Nat} {s t w : String}

theorem bound (cell : Cell) : (bound cell).Compiles cell.literal where
  toFillsTo := .bound cell
  marks := show parameters "?".toList = [.positional []] by decide
  settles := (reads_literal cell).ends
  bare := (reads_literal cell).marks

theorem raw_self (h : Reads d e 0 w.toList) : (raw w).Compiles w where
  toFillsTo := .raw_self h
  marks := h.marks
  settles := h.ends
  bare := h.marks

theorem append (hx : x.Compiles s) (hy : y.Compiles t) (hj : Joins x.sql.toList y.sql.toList)
    (hj' : Joins s.toList t.toList) : (x ++ y).Compiles (s ++ t) where
  toFillsTo := hx.toFillsTo.append hy.toFillsTo hj
  marks := by
    rw [sql_append, String.toList_append, hj.parameters_append hx.ends, hx.marks, hy.marks,
      cells_append, List.length_append, List.replicate_append_replicate]
  settles := by
    rw [String.toList_append]
    exact hj'.ends hx.settles hy.settles
  bare := by
    rw [String.toList_append, hj'.parameters_append hx.settles, hx.bare, hy.bare]
    rfl

theorem append_apart (hx : x.Compiles s) (hy : y.Compiles t) (hapart : y.Apart) :
    (x ++ y).Compiles (s ++ t) := by
  refine hx.append hy (hapart.joins _) (.inr fun c hc => ?_)
  have hgap := hapart.head_fills hy.fills c hc
  rw [isGap, Bool.and_eq_true] at hgap
  exact hgap.1

/-- The text compiles to itself. -/
theorem again (h : x.Compiles t) : (raw t).Compiles t where
  ends := h.settles
  fills := .of_no_parameter h.bare
  marks := h.bare
  settles := h.settles
  bare := h.bare

end Compiles

/-- A fragment whose SQL some cells make a text of that has no parameters. Its own are these cells,
or there are fewer of them. -/
def Fillable (x : Fragment) : Prop :=
  ∃ (cells : List Cell) (t : String), Compiles ⟨x.sql, cells⟩ t ∧
    (cells = x.cells ∨ x.cells.length < cells.length)

namespace Fillable

variable {x y : Fragment}

theorem of_compiles {t : String} (h : x.Compiles t) : x.Fillable := ⟨x.cells, t, h, .inl rfl⟩

theorem append (hx : x.Fillable) (hy : y.Fillable) (hapart : y.Apart) : (x ++ y).Fillable := by
  obtain ⟨full, s, hs, hxcells⟩ := hx
  obtain ⟨full', t, ht, hycells⟩ := hy
  refine ⟨full ++ full', s ++ t, hs.append_apart ht hapart, ?_⟩
  rw [cells_append, List.length_append, List.length_append]
  rcases hxcells with rfl | hxcells
  · rcases hycells with rfl | hycells
    · exact .inl rfl
    · exact .inr (by omega)
  · have hle : y.cells.length ≤ full'.length := by
      rcases hycells with rfl | hycells
      · rfl
      · exact hycells.le
    exact .inr (by omega)

theorem compositional : Compositional Fillable where
  bound cell := of_compiles (.bound cell)
  word h := of_compiles (.raw_self h)
  word_append hw := by
    rintro ⟨full, t, ht, hcells⟩
    have hword := (Compiles.raw_self hw.reads).append ht (.inl hw.settled) (.inl hw.settled)
    exact ⟨full, _, hword, hcells⟩
  append := append

/-- The SQL alone, without its cells. -/
theorem raw_sql (h : x.Fillable) : (raw x.sql).Fillable := by
  obtain ⟨full, t, ht, -⟩ := h
  refine ⟨full, t, ht, ?_⟩
  cases full with
  | nil => exact .inl rfl
  | cons cell rest => exact .inr (Nat.succ_pos _)

/-- What such a fragment compiles to, if it does, has no parameters. -/
theorem compiles (h : x.Fillable) {text : String} (hok : x.compile = .ok text) :
    x.Compiles text := by
  obtain ⟨full, t, ht, hcells⟩ := h
  rcases hcells with rfl | hfewer
  · obtain rfl : t = text := by
      have hcompile := ht.compile
      rw [hok] at hcompile
      exact (Except.ok.inj hcompile).symm
    exact ht
  · have hmarks : positionals (scan x.sql.toList) =
        List.replicate full.length (.positional []) := by
      have hparameters : (scan x.sql.toList).filterMap Piece.parameter? = _ := ht.marks
      rw [positionals, hparameters]
      simp [Parameter.isPositional]
    rw [compile, inlinePositional_of_marks hmarks hfewer.ne'] at hok
    cases hok

end Fillable

/-- A fragment that is put together of names, values and words: an expression, an assignment, a
statement of a query or the definition of a table, with such fragments in it. -/
inductive Rendered : Fragment → Prop where
  /-- SQL that binds nothing and ends in code. -/
  | word {w : String} (h : Reads 0 0 0 w.toList) : Rendered (.raw w)
  | term {x : Term} (hx : x.keepsApart = true) (h : ∀ y ∈ x.embedded, Rendered y) :
      Rendered x.render
  | assignment {a : Assignment} (hcolumn : Rendered a.column.render)
      (hvalue : Rendered a.value.render) : Rendered a.render
  | statement (table : String) (clauses : List Clause) (r : Rendering)
      (h : ∀ x ∈ clauses.flatMap Clause.terms ++ r.terms, Rendered x.render) :
      Rendered (r.render (Query.build table clauses))
  /-- The columns of a schema, and columns that are added to them. -/
  | table {table : String} {ifNotExists : Bool} {recorded : List String} {calls : List ColumnCall}
      {t : CreateTable} (hrecorded : ∀ w ∈ recorded, Reads 0 0 0 w.toList)
      (hcolumn : ∀ c ∈ calls, Rendered c.column.render)
      (hcheck : ∀ c ∈ calls, ∀ x ∈ c.options.check, Rendered x.render)
      (ht : CreateTable.columns? ⟨table, ifNotExists, recorded.map .raw⟩ calls = some t) :
      Rendered t.render

theorem Rendered.of_composed {x : Fragment} (h : x.Composed) : x.Rendered := by
  induction h with
  | word h => exact .word h
  | term hx _ ih => exact .term hx ih
  | assignment _ _ ihcolumn ihvalue => exact .assignment ihcolumn ihvalue
  | statement table clauses r _ ih => exact .statement table clauses r ih

theorem Rendered.ofSchema (table : String) (ifNotExists : Bool) (columns : List ColumnDescription) :
    Rendered (CreateTable.render
      { CreateTable.ofSchema ⟨table, columns.map ColumnDescription.schema⟩ with ifNotExists }) := by
  have hdefinitions : (columns.map ColumnDescription.schema).map ColumnSchema.definition =
      (columns.map ColumnDescription.text).map raw := by
    rw [List.map_map, List.map_map]
    exact List.map_congr_left fun d _ => d.definition_schema
  have hrecorded : ∀ w ∈ columns.map ColumnDescription.text, Reads 0 0 0 w.toList := by
    rw [List.forall_mem_map]
    exact fun d _ => d.reads_text
  have hcolumns := CreateTable.columns?_eq
    ⟨table, ifNotExists, (columns.map ColumnDescription.text).map raw⟩ []
  rw [List.map_nil, List.append_nil] at hcolumns
  rw [CreateTable.ofSchema, hdefinitions]
  exact .table hrecorded (by simp) (by simp) hcolumns

theorem Rendered.dropTable (table : String) (ifExists : Bool) :
    (dropTable table ifExists).Rendered := by
  have hdrop : Word 0 0 ("DROP TABLE " ++ if ifExists then "IF EXISTS " else "") := by
    cases ifExists <;> decide
  refine .word ?_
  rw [String.toList_append]
  exact hdrop.reads.append (reads_quoteIdentifier table) (.inl hdrop.settled)

theorem Fillable.definition {c : ColumnCall} (hcolumn : c.column.render.Fillable)
    (hcheck : ∀ x ∈ c.options.check, x.render.Fillable) : c.definition.Fillable := by
  have hsql : (raw c.column.sql).Spells (Part Fillable) "" := .part hcolumn.raw_sql
  rw [ColumnCall.definition_eq]
  exact compositional.parts
    (ColumnCall.spells_after compositional.bound (fun x hx => .leaf (hcheck x hx)) hsql)

theorem Rendered.fillable {x : Fragment} (h : x.Rendered) : x.Fillable := by
  have hP := Fillable.compositional
  induction h with
  | word h => exact hP.word h
  | term hx _ ih => exact Term.holds_render hP _ hx ih
  | assignment _ _ ihcolumn ihvalue => exact hP.assignment ihcolumn ihvalue
  | statement table clauses r _ ih => exact hP.statement table clauses r ih
  | @table table ifNotExists recorded calls t hrecorded _ _ ht ihcolumn ihcheck =>
      rw [CreateTable.columns?_eq, Option.some.injEq] at ht
      subst ht
      have hcolumns : ∀ x ∈ recorded.map raw ++ calls.map ColumnCall.definition, x.Fillable := by
        rw [List.forall_mem_append, List.forall_mem_map, List.forall_mem_map]
        exact ⟨fun w hw => hP.word (hrecorded w hw),
          fun c hc => .definition (ihcolumn c hc) (ihcheck c hc)⟩
      rw [← List.map_id (recorded.map raw ++ calls.map ColumnCall.definition)]
      exact hP.parts
        (CreateTable.spells_render table ifNotExists fun x hx => .part (hcolumns x hx))

end Fragment

end TypedSql
