import TypedSql.Proofs.Query.History
import TypedSql.Proofs.Scan.Closed
import TypedSql.Query.Render

namespace TypedSql

/-- The text that an expression compiles to. -/
def Term.compiled (x : Term) : String := x.render.compiled

def termsText (xs : List Term) : String := ", ".intercalate (xs.map Term.compiled)

def Assignment.compiled (a : Assignment) : String := a.column.compiled ++ " = " ++ a.value.compiled

def assignmentsText (xs : List Assignment) : String := ", ".intercalate (xs.map Assignment.compiled)

/-! ## The texts of statements -/

namespace Query

def sourceText (table : String) : Option String → String
  | some name => quoteIdentifier table ++ " AS " ++ quoteIdentifier name
  | none => quoteIdentifier table

/-- Conditions joined by `AND`, nested to the left. -/
def conjunctionText (first : Term) (others : List Term) : String :=
  others.foldl (fun text x => "(" ++ text ++ " AND " ++ x.compiled ++ ")") first.compiled

def whereText : List Term → String
  | [] => ""
  | first :: others => " WHERE " ++ conjunctionText first others

def listText (keyword : String) (xs : List Term) : String :=
  if xs.isEmpty then "" else keyword ++ termsText xs

def havingText : Option Term → String
  | some x => " HAVING " ++ x.compiled
  | none => ""

def windowText : Option UInt64 → Option UInt64 → String
  | some limit, some offset => " LIMIT " ++ toString limit ++ " OFFSET " ++ toString offset
  | some limit, none => " LIMIT " ++ toString limit
  | none, some offset => " LIMIT -1 OFFSET " ++ toString offset
  | none, none => ""

/-- A `SELECT` up to its ordering. -/
def selectingText (distinct : Bool) (columns source : String) (conditions groupBy : List Term)
    (having : Option Term) : String :=
  (if distinct then "SELECT DISTINCT " else "SELECT ") ++ columns ++ " FROM " ++ source ++
    whereText conditions ++ listText " GROUP BY " groupBy ++ havingText having

section
variable (table : String) (clauses : List Clause)

/-- A `SELECT` from the table, under the conditions of all filters, with the clauses of other kinds
that were given last. -/
def rowsText (distinct : Bool) (columns : String) : String :=
  selectingText distinct columns (sourceText table (latest Clause.aliased? clauses))
    (filters clauses) ((latest Clause.groupBy? clauses).getD []) (latest Clause.having? clauses)

def orderingText : String :=
  listText " ORDER BY " ((latest Clause.orderBy? clauses).getD []) ++
    windowText (latest Clause.limit? clauses) (latest Clause.offset? clauses)

def selectText (columns : String) : String :=
  rowsText table clauses (clauses.any Clause.isDistinct) columns ++ orderingText clauses

/-- The columns that were selected last, or all columns if none were. -/
def columnsText : String :=
  match (latest Clause.select? clauses).getD [] with
  | [] => "*"
  | columns => termsText columns

def statementText : String := selectText table clauses (columnsText clauses)

/-- Rows of distinct columns are counted as rows of a query. -/
def countText : String :=
  if clauses.any Clause.isDistinct ∧ (latest Clause.select? clauses).getD [] ≠ [] then
    "SELECT count(*) FROM (" ++ statementText table clauses ++ ")"
  else rowsText table clauses false "count(*)"

def deleteText : String := "DELETE FROM " ++ quoteIdentifier table ++ whereText (filters clauses)

/-- The columns of a row stand in the order of its values. -/
def insertText (verb : String) (row : List Assignment) : String :=
  verb ++ " INTO " ++ quoteIdentifier table ++
    match row with
    | [] => " DEFAULT VALUES"
    | row =>
        " (" ++ termsText (row.map Assignment.column) ++
          ") VALUES (" ++ termsText (row.map Assignment.value) ++ ")"

def upsertText (row : List Assignment) (target : List Term) (update : List Assignment) : String :=
  insertText table "INSERT" row ++ " ON CONFLICT (" ++ termsText target ++
    match update with
    | [] => ") DO NOTHING"
    | update => ") DO UPDATE SET " ++ assignmentsText update

def updateText (assignments : List Assignment) : String :=
  "UPDATE " ++ quoteIdentifier table ++ " SET " ++ assignmentsText assignments ++
    whereText (filters clauses)

end

end Query

/-! ## Clauses -/

open Fragment (Apart Spells)

variable {leaf : Fragment → String → Prop}

/-- An expression is one of the parts, with what it compiles to as its text. -/
def Term.Spelled (leaf : Fragment → String → Prop) (x : Term) : Prop :=
  x.render.Spells leaf x.compiled

theorem spells_name (name : String) :
    (Fragment.name name).Spells leaf (quoteIdentifier name) :=
  .word (reads_quoteIdentifier name)

theorem spells_terms {xs : List Term} (h : ∀ x ∈ xs, x.Spelled leaf) :
    (Fragment.terms xs).Spells leaf (termsText xs) :=
  .commas h

namespace Assignment

/-- Both sides of an assignment are among the parts. -/
def Spelled (leaf : Fragment → String → Prop) (a : Assignment) : Prop :=
  a.column.Spelled leaf ∧ a.value.Spelled leaf

theorem spells {a : Assignment} (h : a.Spelled leaf) : a.render.Spells leaf a.compiled :=
  h.1.between (show Word 0 0 " = " by decide) (by decide) h.2

end Assignment

theorem spells_assignments {xs : List Assignment} (h : ∀ a ∈ xs, a.Spelled leaf) :
    (Fragment.assignments xs).Spells leaf (assignmentsText xs) :=
  .commas fun a ha => Assignment.spells (h a ha)

/-- A number is written in digits. -/
theorem reads_toString_uint64 (n : UInt64) : Reads 0 0 0 (toString n).toList := by
  have hn : toString n = toString (n.toNat : Int) := rfl
  rw [hn]
  exact reads_toString_int n.toNat

namespace Query

theorem spells_source (q : Query) : q.source.Spells leaf (sourceText q.table q.aliasName) := by
  unfold source
  cases q.aliasName with
  | none => exact spells_name q.table
  | some name =>
      exact (spells_name q.table).between (show Word 0 0 " AS " by decide) (by decide)
        (spells_name name)

theorem spells_foldl_and {x : Term} {t : String} (hx : x.render.Spells leaf t) {others : List Term}
    (h : ∀ y ∈ others, y.Spelled leaf) :
    (others.foldl (.binary .and) x).render.Spells leaf
      (others.foldl (fun text y => "(" ++ text ++ " AND " ++ y.compiled ++ ")") t) := by
  induction others generalizing x t with
  | nil => exact hx
  | cons y ys ih =>
      apply ih
      · have hword : Word 0 0 (" " ++ "AND" ++ " ") := by decide
        exact Spells.infixed hword hx (h y List.mem_cons_self)
      · exact fun z hz => h z (List.mem_cons_of_mem y hz)

theorem apart_optionalClause {keyword : String} (hp : Parts keyword) (o : Option Term) :
    (optionalClause keyword o).Apart := by
  cases o with
  | none => exact Fragment.apart_raw (.inl rfl)
  | some x => exact Fragment.apart_raw_append hp x.render

theorem spells_listClause {keyword : String} (hk : Word 0 0 keyword) {xs : List Term}
    (h : ∀ x ∈ xs, x.Spelled leaf) : (listClause keyword xs).Spells leaf (listText keyword xs) := by
  cases xs with
  | nil => exact .word (show Reads 0 0 0 "".toList by decide)
  | cons x xs => exact .word_append hk (spells_terms h)

theorem apart_listClause {keyword : String} (hp : Parts keyword) (xs : List Term) :
    (listClause keyword xs).Apart := by
  cases xs with
  | nil => exact Fragment.apart_raw (.inl rfl)
  | cons x xs => exact Fragment.apart_raw_append hp _

/-- The condition of a query, after the conditions that it is made of. -/
theorem spells_whereClause {q : Query} {conditions : List Term}
    (hq : q.filter = conjunction conditions) (h : ∀ x ∈ conditions, x.Spelled leaf) :
    q.whereClause.Spells leaf (whereText conditions) := by
  rw [whereClause, hq]
  cases conditions with
  | nil => exact .word (show Reads 0 0 0 "".toList by decide)
  | cons first others =>
      have hfirst := h first List.mem_cons_self
      have hall := spells_foldl_and hfirst fun y hy => h y (List.mem_cons_of_mem first hy)
      exact .word_append (show Word 0 0 " WHERE " by decide) hall

theorem spells_having {o : Option Term} (h : ∀ x ∈ o, x.Spelled leaf) :
    (optionalClause " HAVING " o).Spells leaf (havingText o) := by
  cases o with
  | none => exact .word (show Reads 0 0 0 "".toList by decide)
  | some x => exact .word_append (show Word 0 0 " HAVING " by decide) (h x rfl)

theorem spells_window (q : Query) : q.window.Spells leaf (windowText q.limit q.offset) := by
  have number (n : UInt64) : (Fragment.raw (toString n)).Spells leaf (toString n) :=
    .word (reads_toString_uint64 n)
  have hlimit : Word 0 0 " LIMIT " := by decide
  have hoffset : Word 0 0 " OFFSET " := by decide
  have hunbounded : Word 0 0 " LIMIT -1 OFFSET " := by decide
  unfold window
  cases q.limit with
  | none =>
      cases q.offset with
      | none => exact .word (show Reads 0 0 0 "".toList by decide)
      | some offset => exact .word_append hunbounded (number offset)
  | some limit =>
      have hfirst := Spells.word_append hlimit (number limit)
      cases q.offset with
      | none => exact hfirst
      | some offset => exact hfirst.between hoffset (by decide) (number offset)

theorem apart_window (q : Query) : q.window.Apart := by
  have apart {w : String} (hw : Parts w) : (Fragment.raw w).Apart := Fragment.apart_raw (.inr hw)
  unfold window
  cases q.limit with
  | none =>
      cases q.offset with
      | none => exact Fragment.apart_raw (.inl rfl)
      | some offset => exact apart (Parts.append (by decide) _)
  | some limit =>
      cases q.offset with
      | none => exact apart (Parts.append (by decide) _)
      | some offset => exact apart (((Parts.append (by decide) _).append _).append _)

theorem spells_selecting {q : Query} {columns : Fragment} {text : String} {conditions : List Term}
    (hq : q.Each (·.Spelled leaf)) (hcolumns : columns.Spells leaf text)
    (hfilter : q.filter = conjunction conditions) (h : ∀ x ∈ conditions, x.Spelled leaf) :
    (q.selecting columns).Spells leaf
      (selectingText q.distinct text (sourceText q.table q.aliasName) conditions q.groupBy
        q.having) := by
  have hword : Word 0 0 (if q.distinct then "SELECT DISTINCT " else "SELECT ") := by
    cases q.distinct <;> decide
  have hfrom : Word 0 0 " FROM " := by decide
  have hgroup : Word 0 0 " GROUP BY " := by decide
  have hsource := (Spells.word_append hword hcolumns).between hfrom (by decide) (spells_source q)
  have hwhere := hsource.append (spells_whereClause hfilter h)
    (apart_optionalClause (by decide) _)
  have hgroups := hwhere.append (spells_listClause hgroup hq.groupBy)
    (apart_listClause (by decide) _)
  exact hgroups.append (spells_having hq.having) (apart_optionalClause (by decide) _)

theorem spells_ordering {q : Query} (hq : q.Each (·.Spelled leaf)) :
    q.ordering.Spells leaf (listText " ORDER BY " q.orderBy ++ windowText q.limit q.offset) := by
  have hword : Word 0 0 " ORDER BY " := by decide
  exact (spells_listClause hword hq.orderBy).append (spells_window q) (apart_window q)

theorem spells_insertWith {verb : String} (hverb : Word 0 0 (verb ++ " INTO ")) (q : Query)
    {row : List Assignment} (h : ∀ a ∈ row, a.Spelled leaf) :
    (insertWith verb q row).Spells leaf (insertText q.table verb row) := by
  have hhead : (Fragment.raw (verb ++ " INTO ") ++ .name q.table).Spells leaf
      (verb ++ " INTO " ++ quoteIdentifier q.table) := .word_append hverb (spells_name q.table)
  cases row with
  | nil => exact hhead.append_word (show Reads 0 0 0 " DEFAULT VALUES".toList by decide) (by decide)
  | cons a as =>
      have hcolumns : ∀ x ∈ (a :: as).map Assignment.column, x.Spelled leaf := by
        intro x hx
        obtain ⟨b, hb, rfl⟩ := List.mem_map.mp hx
        exact (h b hb).1
      have hvalues : ∀ x ∈ (a :: as).map Assignment.value, x.Spelled leaf := by
        intro x hx
        obtain ⟨b, hb, rfl⟩ := List.mem_map.mp hx
        exact (h b hb).2
      have hopen : Word 0 1 " (" := by decide
      have hmiddle : Word 1 1 ") VALUES (" := by decide
      have hclose : Reads 1 0 0 ")".toList := by decide
      have hfirst := hhead.between hopen (by decide) (spells_terms hcolumns)
      have hall := (hfirst.between hmiddle (by decide) (spells_terms hvalues)).append_word hclose
        (by decide)
      have htext : insertText q.table verb (a :: as) =
          verb ++ " INTO " ++ quoteIdentifier q.table ++ " (" ++
            termsText ((a :: as).map Assignment.column) ++ ") VALUES (" ++
            termsText ((a :: as).map Assignment.value) ++ ")" := by
        simp only [insertText, String.append_assoc]
      rw [htext]
      exact hall

/-! ## Statements -/

section
variable {table : String} {clauses : List Clause}
variable (h : ∀ c ∈ clauses, ∀ x ∈ c.terms, x.Spelled leaf)
include h

theorem filters_closed : ∀ x ∈ filters clauses, x.Spelled leaf := by
  intro x hx
  obtain ⟨c, hc, hcx⟩ := List.mem_filterMap.mp hx
  apply h c hc
  cases c <;> simp_all [Clause.filter?, Clause.terms]

theorem spells_rows (distinct : Bool) {columns : Fragment} {text : String}
    (hcolumns : columns.Spells leaf text) :
    ({ build table clauses with distinct }.selecting columns).Spells leaf
      (rowsText table clauses distinct text) := by
  have heach := build_each table h
  have hq : ({ build table clauses with distinct } : Query).Each (·.Spelled leaf) :=
    ⟨heach.columns, heach.groupBy, heach.having, heach.orderBy⟩
  have hrows := spells_selecting hq hcolumns (by rw [build_eq]) (filters_closed h)
  rw [build_eq] at hrows ⊢
  exact hrows

theorem spells_select {columns : Fragment} {text : String} (hcolumns : columns.Spells leaf text) :
    ((build table clauses).selecting columns ++ (build table clauses).ordering).Spells leaf
      (selectText table clauses text) := by
  have hordering := spells_ordering (build_each table h)
  have hrows : ((build table clauses).selecting columns).Spells leaf
      (rowsText table clauses (build table clauses).distinct text) := spells_rows h _ hcolumns
  have hapart : (build table clauses).ordering.Apart :=
    Fragment.Apart.append (apart_listClause (by decide) _) (apart_window _)
  have hall := hrows.append hordering hapart
  rw [build_eq] at hall ⊢
  exact hall

theorem spells_columnList :
    (build table clauses).columnList.Spells leaf (columnsText clauses) := by
  have heach := build_each table h
  rw [build_eq] at heach ⊢
  unfold columnList columnsText
  cases hcolumns : (latest Clause.select? clauses).getD [] with
  | nil => exact .word (show Reads 0 0 0 "*".toList by decide)
  | cons x xs =>
      apply spells_terms
      simpa only [hcolumns] using heach.columns

theorem spells_statement :
    (build table clauses).statement.Spells leaf (statementText table clauses) :=
  spells_select h (spells_columnList h)

theorem spells_count : (build table clauses).count.Spells leaf (countText table clauses) := by
  have hopen : Word 0 1 "SELECT count(*) FROM (" := by decide
  have hclose : Reads 1 0 0 ")".toList := by decide
  have hrows : Term.countRows.render.Spells leaf "count(*)" :=
    .word (show Reads 0 0 0 "count(*)".toList by decide)
  have hdistinct : (build table clauses).distinct = clauses.any Clause.isDistinct := by rw [build_eq]
  have hcolumns : (build table clauses).columns = (latest Clause.select? clauses).getD [] := by
    rw [build_eq]
  unfold count countText
  rw [hdistinct, hcolumns]
  by_cases hcase : clauses.any Clause.isDistinct ∧ (latest Clause.select? clauses).getD [] ≠ []
  · have hif : (clauses.any Clause.isDistinct && !((latest Clause.select? clauses).getD []).isEmpty) =
        true := by simpa using hcase
    rw [if_pos hcase, if_pos hif]
    exact .enclosed hopen (spells_statement h) hclose (by decide)
  · have hif : ¬ (clauses.any Clause.isDistinct && !((latest Clause.select? clauses).getD []).isEmpty) =
        true := by simpa using hcase
    rw [if_neg hcase, if_neg hif]
    exact spells_rows h false hrows

end

end Query

end TypedSql
