import TypedSql.Proofs.Engine.Window

/-!
The rows of a table in a window, from the clauses of a query to the answer of the engine. A query
that says nothing but a window is written as a text, and the text is read, planned and executed: the
answer is the window of the rows that the table holds, in their order. So whatever the name of the
table is and whichever limits and offsets are given, the text asks for what the query says.
-/

namespace TypedSql

open Sql (operandExpr wordToken symbolToken nameToken)

/-! ## Every column of every row -/

/-- The values of the rows, one for each column. -/
def Table.listing (t : Table) : List (List Datum) :=
  t.rows.map fun row => (List.range t.columns.length).map fun i => row.values[i]?.getD .null

namespace Formula

variable (indexes : List Nat)

theorem evalAll_columns (s : Scope) :
    evalAll s (indexes.map .column) = indexes.map fun i => s.row[i]?.getD .null := by
  induction indexes with
  | nil => rfl
  | cons i rest ih => rw [List.map_cons, evalAll, ih, eval, List.map_cons]

theorem allColumns_columns : allColumns (indexes.map .column) = indexes := by
  induction indexes with
  | nil => rfl
  | cons i rest ih =>
      rw [List.map_cons, allColumns, ih]
      rfl

theorem anyAggregate_columns : anyAggregate (indexes.map .column) = false := by
  induction indexes with
  | nil => rfl
  | cons i rest ih =>
      rw [List.map_cons, anyAggregate, ih]
      rfl

end Formula

namespace SelectPlan

/-- The plan of a query for every column of a table. -/
def everything (t : Table) : SelectPlan where
  names := t.columns.map (·.name)
  outputs := (List.range t.columns.length).map .column
  distinct := none
  condition := none
  order := []
  limit := none
  offset := none

variable (t : Table)

theorem of_star {Source : Type} (names : Names) (label : String) (source : Option Source) :
    SelectPlan.of names (.ofTable t label) ⟨false, [.star], source, none, [], none, none⟩ =
      .ok (everything t) := by
  let results : List (String × Formula) :=
    (t.columns.map (·.name)).zipIdx.map fun p => (p.1, .column p.2)
  have hnames : results.map (·.1) = t.columns.map (·.name) := by
    rw [List.map_map]
    exact List.zipIdx_map_fst 0 _
  have houtputs : results.map (·.2) = (List.range t.columns.length).map Formula.column := by
    rw [List.range_eq_range', List.map_map, ← List.length_map (fun c => c.name),
      ← List.zipIdx_map_snd, List.map_map]
    rfl
  have hof : SelectPlan.of names (.ofTable t label)
      ⟨false, [.star], source, none, [], none, none⟩ =
        .ok ⟨([results].flatten).map (·.1), ([results].flatten).map (·.2), none, none, [], none,
          none⟩ := rfl
  rw [hof, List.flatten_singleton, hnames, houtputs]
  rfl

/-- Nothing is left out, put together or put in another order. -/
theorem results_everything (parameters : List Datum) :
    (everything t).results parameters (t.rows.map (·.values)) = t.listing := by
  have haggregate : (everything t).isAggregate = false := Formula.anyAggregate_columns _
  have hheld (rows : List (List Datum)) :
      (rows.filter fun row => Formula.holds { parameters, row } (everything t).condition) = rows :=
    List.filter_eq_self.mpr fun _ _ => rfl
  have hsorted (xs : List (List Datum × List Datum)) :
      (xs.mergeSort fun a b => inOrder (everything t).order a.1 b.1) = xs :=
    List.mergeSort_of_pairwise (List.pairwise_of_forall fun _ _ => rfl)
  have hdistinct : (everything t).distinct = none := rfl
  have houtputs : (everything t).outputs = (List.range t.columns.length).map .column := rfl
  simp only [results, haggregate, hheld, hsorted, hdistinct, houtputs, Bool.false_eq_true, if_false,
    Formula.evalAll_columns, List.map_map]
  rfl

end SelectPlan

/-- A query that looks at every column goes along none of them. -/
theorem Table.visited_everything (t : Table) :
    t.visited (SelectPlan.everything t).used (SelectPlan.everything t).condition
      (SelectPlan.everything t).wantedColumn? = t.rows := by
  have hused : (SelectPlan.everything t).used = List.range t.columns.length := by
    show Formula.allColumns ((List.range t.columns.length).map .column) ++ [] ++ [] = _
    rw [Formula.allColumns_columns, List.append_nil, List.append_nil]
  have halong (column : Nat) : t.goesAlong column (List.range t.columns.length) none = false := by
    have hcovered : ((List.range t.columns.length).all
        (fun i => i == column || some i == t.keyIndex?) && decide (2 < t.columns.length)) =
          false := by
      rw [Bool.eq_false_iff]
      intro h
      simp only [Bool.and_eq_true, List.all_eq_true, List.mem_range, Bool.or_eq_true, beq_iff_eq,
        decide_eq_true_eq] at h
      obtain ⟨hall, hlength⟩ := h
      -- three columns cannot all be the one or the key
      have hzero := hall 0 (by omega)
      have hone := hall 1 (by omega)
      have htwo := hall 2 (by omega)
      cases hkey : t.keyIndex? with
      | none => simp only [hkey, reduceCtorEq, or_false] at hzero hone; omega
      | some key => simp only [hkey, Option.some.injEq] at hzero hone htwo; omega
    rw [goesAlong, hcovered]
    cases t.keyIndex? <;> rfl
  rw [hused]
  show t.visited _ none none = _
  unfold visited
  cases t.columns.findIdx? (fun c => c.unique && !c.primaryKey) with
  | none => rfl
  | some column => exact if_neg (by simp [halong])

/-! ## The text of the query -/

theorem nul_notMem_toString (n : Int) : '\x00' ∉ (toString n).toList := by
  rw [toList_toString_int, List.mem_append, not_or]
  constructor
  · cases decide (n < 0) <;> decide
  · intro hmem
    have hdigit := Nat.isDigit_of_mem_toDigits (by decide) (by decide) hmem
    cases hdigit

theorem Paging.nul_notMem_text (p : Paging) : '\x00' ∉ p.text.toList := by
  have hclause (word : String) (hword : '\x00' ∉ word.toList) (operand : Option Int) :
      '\x00' ∉ (Sql.clauseText word operand).toList := by
    cases operand with
    | none => simp [Sql.clauseText]
    | some n =>
        simp only [Sql.clauseText, String.toList_append, List.mem_append, not_or]
        exact ⟨⟨⟨by decide, hword⟩, by decide⟩, nul_notMem_toString n⟩
  rw [text_eq, String.toList_append, List.mem_append, not_or]
  exact ⟨hclause "LIMIT" (by decide) _, hclause "OFFSET" (by decide) _⟩

/-- A window that is written begins with its limit. -/
theorem Paging.tokens_cases (p : Paging) :
    p.tokens = [] ∨ ∃ rest, p.tokens = wordToken "LIMIT" :: rest := by
  obtain ⟨limit, offset⟩ := p
  cases limit with
  | some n => exact .inr ⟨_, rfl⟩
  | none =>
      cases offset with
      | some m => exact .inr ⟨_, rfl⟩
      | none => exact .inl rfl

namespace Sql

variable {table : String} (p : Paging)

/-- The text of a query for every column of a table in a window. -/
def everythingText (table : String) (p : Paging) : String :=
  "SELECT * FROM " ++ quoteIdentifier table ++ p.text

/-- What the text says. -/
def everythingIn (table : String) (p : Paging) : Select :=
  ⟨false, [.star], some (.table ⟨table, none⟩), none, [],
    operandExpr p.limitOperand, operandExpr p.offsetOperand⟩

/-- The text is cut into its words, the name and the window. -/
theorem tokens_everything (h : '\x00' ∉ table.toList) :
    (tokens (everythingText table p)).map Token.solid =
      [wordToken "SELECT", symbolToken "*", wordToken "FROM", nameToken table] ++ p.tokens := by
  have hnul : '\x00' ∉ (everythingText table p).toList := by
    simp only [everythingText, quoteIdentifier, String.toList_append, String.toList_ofList,
      List.mem_append, not_or]
    exact ⟨⟨by decide, nul_notMem_quoted (by decide) h⟩, p.nul_notMem_text⟩
  have hselect (s : List Char) :
      solid ("SELECT".toList ++ ' ' :: s) = wordToken "SELECT" :: solid (' ' :: s) :=
    solid_word "SELECT" ' ' (by decide) (fun _ => rfl) s
  have hfrom (s : List Char) :
      solid ("FROM".toList ++ ' ' :: s) = wordToken "FROM" :: solid (' ' :: s) :=
    solid_word "FROM" ' ' (by decide) (fun _ => rfl) s
  have hwindow : p.text.toList.head? ≠ some '"' ∧ solid p.text.toList = p.tokens := by
    have hsolid := p.solid_text (show EndsNumber [] from fun c hc => by cases hc)
    rw [List.append_nil, solid_nil, List.append_nil] at hsolid
    refine ⟨?_, hsolid⟩
    rw [p.text_eq]
    obtain ⟨limit, offset⟩ := p
    cases limit <;> cases offset <;> simp [Paging.limitOperand, Paging.offsetOperand, clauseText]
  rw [tokens_solid, takeWhile_noNul hnul, everythingText, String.toList_append,
    String.toList_append, List.append_assoc]
  show solid ("SELECT".toList ++ ' ' :: '*' :: ' ' :: ("FROM".toList ++ ' ' ::
    ((quoteIdentifier table).toList ++ p.text.toList))) = _
  rw [hselect, solid_blank, solid_symbol (fun _ => rfl), solid_blank, hfrom, solid_blank,
    solid_name table hwindow.1, hwindow.2]
  rfl

open Parse in
/-- The tokens of the text are read as a query for every column. -/
theorem parse_everything {ts : List Token}
    (h : ts.map Token.solid =
      [wordToken "SELECT", symbolToken "*", wordToken "FROM", nameToken table] ++ p.tokens) :
    parse ts = .ok ⟨.select (everythingIn table p), {}, []⟩ := by
  obtain ⟨select, ts, rfl, hselect, h⟩ := List.map_eq_cons_iff.mp h
  obtain ⟨star, ts, rfl, hstar, h⟩ := List.map_eq_cons_iff.mp h
  obtain ⟨fromWord, ts, rfl, hfrom, h⟩ := List.map_eq_cons_iff.mp h
  obtain ⟨name, ts, rfl, hname, hwindow⟩ := List.map_eq_cons_iff.mp h
  have hunbounded : unbounded source ⟨star :: fromWord :: name :: (ts ++ []), {}⟩ =
      .ok (⟨false, [.star], some (.table ⟨table, none⟩), none, [], none, none⟩,
        ⟨ts ++ [], {}⟩) := by
    rw [List.append_nil, Token.eq_of_solid hstar, Token.eq_of_solid hfrom, Token.eq_of_solid hname]
    conv => rhs; rw [← String.ofList_toList (s := table)]
    rcases p.tokens_cases with hnil | ⟨rest, hlimit⟩
    · rw [hnil] at hwindow
      obtain rfl := List.map_eq_nil_iff.mp hwindow
      rfl
    · rw [hlimit] at hwindow
      obtain ⟨limit, ts, rfl, hword, -⟩ := List.map_eq_cons_iff.mp hwindow
      rw [Token.eq_of_solid hword]
      rfl
  have hread := Paging.selectFrom_tokens hwindow (show ClosesQuery [] from nofun) hunbounded
  rw [List.append_nil] at hread
  rw [Token.eq_of_solid hselect]
  have hparse : parse (⟨.word, "SELECT".toList, select.space, select.offset⟩ ::
      star :: fromWord :: name :: ts) =
      (((selectFrom source ⟨star :: fromWord :: name :: ts, {}⟩ >>= fun r =>
          .ok (.select r.1, r.2) : Except Fault (Statement × Reader)) >>= fun r =>
        endOfStatement r.2 >>= fun ended => .ok (r.1, ended.2)) >>= fun r =>
        .ok ⟨r.1, r.2.parameters, r.2.rest⟩) := rfl
  rw [hparse, hread]
  rfl

end Sql

/-! ## The answer -/

/-- A table is found again by the name that it has. -/
theorem Content.table?_name {c : Content} {name : String} {t : Table} (h : c.table? name = some t) :
    c.table? t.name = some t := by
  have hsame : sameName t.name name = true :=
    List.find?_some (p := fun u : Table => sameName u.name name) h
  have hlike : (fun u : Table => sameName u.name t.name) = fun u => sameName u.name name := by
    funext u
    rw [sameName, sameName, beq_iff_eq.mp hsame]
  rw [table?, hlike]
  exact h

namespace Query

variable {table : String} {clauses : List Clause}

/-- A query that says nothing but a window is written as such. -/
theorem sql_statement_of_isPaging (h : ∀ c ∈ clauses, c.isPaging = true) :
    (build table clauses).statement.sql = Sql.everythingText table (.ofClauses clauses) := by
  have hnone : clauses.filter (!·.isPaging) = [] :=
    List.filter_eq_nil_iff.mpr fun c hc => by simp [h c hc]
  have hpaged := Rendering.render_build table clauses .statement
  rw [hnone] at hpaged
  have hall : (build table []).statement.sql = "SELECT * FROM " ++ quoteIdentifier table := by
    have hhead : "SELECT " ++ "*" ++ " FROM " = "SELECT * FROM " := rfl
    show "SELECT " ++ "*" ++ " FROM " ++ quoteIdentifier table ++ "" ++ "" ++ "" ++ ("" ++ "") = _
    simp only [hhead, String.append_empty]
  calc (build table clauses).statement.sql
      = (build table []).statement.sql ++ (Paging.ofClauses clauses).text :=
        congrArg Fragment.sql hpaged
    _ = Sql.everythingText table (.ofClauses clauses) := by rw [hall, Sql.everythingText]

end Query

namespace Engine

variable {e : Engine} {table : String} {t : Table} (p : Paging)

/-- The plan is over the table that goes by the name. -/
theorem plan_everythingIn (h : e.store.content.table? table = some t) :
    e.plan (.select (Sql.everythingIn table p)) =
      .ok (.select (.table t.name) ((SelectPlan.everything t).windowed p)) := by
  let names : Names := { functions := e.functions, collations := e.collations }
  have hsource : (Planner.mk names e.store.content e.foreignKeys).source
      (some (.table ⟨table, none⟩)) = .ok (.table t.name, .ofTable t table) := by
    rw [Planner.source, Planner.tableSource, Planner.table, h]
    rfl
  have hof : SelectPlan.of names (.ofTable t table) (Sql.everythingIn table p) =
      .ok ((SelectPlan.everything t).windowed p) := by
    have hoperands := SelectPlan.of_operands names (.ofTable t table) (Sql.everythingIn table p) p
    have hstar := SelectPlan.of_star t names table (Sql.everythingIn table p).source
    exact hoperands.trans (congrArg _ hstar)
  show Planner.plan _ (.select _) = _
  rw [Planner.plan, Planner.select, Sql.everythingIn, hsource]
  show (SelectPlan.of names (.ofTable t table) (Sql.everythingIn table p) >>= fun plan => _) = _
  rw [hof]
  rfl

/-- A query that says nothing but a window, over a table that is there, is prepared from its text.
Executed with any values it gives the rows of the table that are in the window, or a mismatch of
types where the window is too large. -/
theorem execute_build {clauses : List Clause} (hpaging : ∀ c ∈ clauses, c.isPaging = true)
    (htable : e.store.content.table? table = some t) (hnul : '\x00' ∉ table.toList) :
    let p := Paging.ofClauses clauses
    ∃ s, e.prepare (Query.build table clauses).statement.sql = .ok (s, e) ∧
      ∀ parameters, e.execute s parameters =
        (e, if p.Answered then { rows := p.rows t.listing } else .failed .typeMismatch) := by
  intro p
  have hplan := plan_everythingIn p htable
  refine ⟨⟨.select (Sql.everythingIn table p), {}, t.columns.map (·.name)⟩, ?_,
    fun parameters => ?_⟩
  · have hparse := Sql.parse_everything p (Sql.tokens_everything p hnul)
    rw [Query.sql_statement_of_isPaging hpaging, prepare, hparse]
    show e.compile _ = _
    rw [compile, hplan]
    rfl
  · have hanswer := (SelectPlan.everything t).answer_windowed p parameters (t.rows.map (·.values))
    rw [SelectPlan.results_everything] at hanswer
    have hvisited : t.visited ((SelectPlan.everything t).windowed p).used
        ((SelectPlan.everything t).windowed p).condition
        ((SelectPlan.everything t).windowed p).wantedColumn? = t.rows := t.visited_everything
    have hsource : (RowSource.table t.name).answer e.store.content parameters
        ((SelectPlan.everything t).windowed p) =
          if p.Answered then .ok (p.rows t.listing) else .error .typeMismatch := by
      simp only [RowSource.answer, Content.table?_name htable, hvisited, hanswer]
    rw [execute, hplan]
    simp only [perform, hsource]
    by_cases h : p.Answered
    · rw [if_pos h, if_pos h]
    · rw [if_neg h, if_neg h]

end Engine

end TypedSql
