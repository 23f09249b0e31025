import TypedSql.Proofs.Query.Counting
import TypedSql.Proofs.Query.Statements

namespace TypedSql

namespace Rendering

/-- Whether the rows of a statement are those that the condition of the query holds of. -/
def isFiltered : Rendering → Bool
  | .statement | .selectValue _ | .count | .update .. | .delete => true
  | .insert _ | .insertOr .. | .upsert .. => false

/-- Whether a statement changes the rows of its table. -/
def changesRows : Rendering → Bool
  | .statement | .selectValue _ | .count => false
  | .insert _ | .insertOr .. | .upsert .. | .update .. | .delete => true

def keyword : Rendering → String
  | .statement | .selectValue _ | .count => " FROM "
  | .insert _ | .insertOr .. | .upsert .. => " INTO "
  | .update .. => "UPDATE "
  | .delete => "DELETE FROM "

/-- The table as a source of rows under an alias. -/
def aliased (table : String) (aliasName : Option String) : Fragment :=
  { table, aliasName : Query }.source

/-- The table as a statement names it. -/
def namedBy (r : Rendering) (table : String) (aliasName : Option String) : Fragment :=
  if r.changesRows then .name table else aliased table aliasName

/-- Of a statement only the name of the table depends on the alias, and only what follows `WHERE` on
the condition. -/
def Introduces (r : Rendering) (q : Query) (source : Option String → Fragment) : Prop :=
  ∃ before between after : Fragment, ∀ aliasName filter,
    r.render { q with aliasName, filter } =
      before ++ .raw r.keyword ++ source aliasName ++ between ++
        Query.optionalClause " WHERE " filter ++ after

section
variable {r : Rendering} {q : Query}

/-- A `SELECT` from the table, or a statement around one. -/
theorem introduces_of_selecting (hkeyword : r.keyword = " FROM ") (q' : Query)
    (opening columns closing : Fragment)
    (h : ∀ aliasName filter, r.render { q with aliasName, filter } =
      opening ++ { q' with aliasName, filter }.selecting columns ++ closing) :
    r.Introduces q (aliased q'.table) := by
  refine ⟨opening ++ .raw (if q'.distinct then "SELECT DISTINCT " else "SELECT ") ++ columns,
    .raw "", Query.listClause " GROUP BY " q'.groupBy ++
      Query.optionalClause " HAVING " q'.having ++ closing, fun aliasName filter => ?_⟩
  rw [h, hkeyword, Fragment.append_raw_empty]
  simp only [Query.selecting, Query.whereClause, Fragment.append_assoc]
  rfl

theorem introduces_aliased (hr : r.changesRows = false) : r.Introduces q (aliased q.table) := by
  cases r with
  | statement =>
      apply introduces_of_selecting rfl q (.raw "") q.columnList q.ordering
      intro aliasName filter
      rw [Fragment.raw_empty_append]
      rfl
  | selectValue column =>
      apply introduces_of_selecting rfl q (.raw "") column.render q.ordering
      intro aliasName filter
      rw [Fragment.raw_empty_append]
      rfl
  | count =>
      by_cases h : q.countsTuples
      · apply introduces_of_selecting rfl q (.raw "SELECT count(*) FROM (") q.columnList
          (q.ordering ++ .raw ")")
        intro aliasName filter
        have hcount : { q with aliasName, filter }.countsTuples := h
        rw [render, Query.count_of_countsTuples hcount, Fragment.enclosed, Query.statement]
        simp only [Fragment.append_assoc]
        rfl
      · apply introduces_of_selecting rfl { q with distinct := false } (.raw "")
          Term.countRows.render (.raw "")
        intro aliasName filter
        have hcount : ¬ { q with aliasName, filter }.countsTuples := h
        rw [Fragment.raw_empty_append, Fragment.append_raw_empty]
        exact Query.count_of_not_countsTuples hcount
  | insert | insertOr | upsert | update | delete => cases hr

theorem introduces_name (hf : r.isFiltered = true) (hr : r.changesRows = true) :
    r.Introduces q fun _ => .name q.table := by
  cases r with
  | update first others =>
      refine ⟨.raw "", .raw " SET " ++ .assignments (first :: others), .raw "", fun _ filter => ?_⟩
      rw [Fragment.raw_empty_append, Fragment.append_raw_empty, ← Fragment.append_assoc]
      rfl
  | delete =>
      refine ⟨.raw "", .raw "", .raw "", fun _ filter => ?_⟩
      rw [Fragment.raw_empty_append, Fragment.append_raw_empty, Fragment.append_raw_empty]
      rfl
  | statement | selectValue | count => cases hr
  | insert | insertOr | upsert => cases hf

/-- A statement names its table with the alias, if it selects rows, and without, if it changes
them. -/
theorem introduces_namedBy (hf : r.isFiltered = true) : r.Introduces q (r.namedBy q.table) := by
  cases hr : r.changesRows with
  | false =>
      have h : r.namedBy q.table = aliased q.table := by
        funext aliasName
        simp [namedBy, hr]
      rw [h]
      exact introduces_aliased hr
  | true =>
      have h : r.namedBy q.table = fun _ => .name q.table := by
        funext aliasName
        simp [namedBy, hr]
      rw [h]
      exact introduces_name hf hr

/-- There is one way in which a statement names its table, up to text that is always the same. -/
theorem Introduces.length_add_eq {source source' : Option String → Fragment}
    (h : r.Introduces q source) (h' : r.Introduces q source') (a b : Option String) :
    (source a).sql.length + (source' b).sql.length =
      (source b).sql.length + (source' a).sql.length := by
  obtain ⟨before, between, after, hrender⟩ := h
  obtain ⟨before', between', after', hrender'⟩ := h'
  have ha := congrArg (String.length ∘ Fragment.sql) ((hrender a none).symm.trans (hrender' a none))
  have hb := congrArg (String.length ∘ Fragment.sql) ((hrender b none).symm.trans (hrender' b none))
  simp only [Function.comp_apply, Fragment.sql_append, String.length_append] at ha hb
  omega

theorem aliased_none (table : String) : aliased table none = .name table := rfl

theorem aliased_ne_name (table name : String) :
    (aliased table none).sql.length ≠ (aliased table (some name)).sql.length := by
  intro h
  simp only [aliased, Query.source, Fragment.sql_append, Fragment.sql_raw,
    String.length_append] at h
  have hword : " AS ".length = 4 := by decide
  omega

theorem introduces_aliased_iff (hf : r.isFiltered = true) :
    r.Introduces q (aliased q.table) ↔ r.changesRows = false := by
  constructor
  · intro h
    cases hr : r.changesRows with
    | false => rfl
    | true =>
        have hlength := h.length_add_eq (introduces_name hf hr) none (some "")
        exact absurd (Nat.add_right_cancel hlength) (aliased_ne_name q.table "")
  · exact introduces_aliased

theorem namedBy_eq_aliased_iff (table : String) (aliasName : Option String) :
    r.namedBy table aliasName = aliased table aliasName ↔
      (r.changesRows = true → aliasName = none) := by
  cases hr : r.changesRows with
  | false => simp [namedBy, hr]
  | true =>
      cases aliasName with
      | none => simp [namedBy, hr, aliased_none]
      | some name =>
          refine iff_of_false (fun h => ?_) fun h => nomatch h rfl
          rw [namedBy, if_pos hr, ← aliased_none] at h
          exact aliased_ne_name table name (by rw [h])

end

/-- After any clauses, a statement under a condition is made of the table, of the condition, and of
text that neither the alias nor the filters have a part in. The table is named as the source of the
query unless rows are changed: then it is not named by an alias, if there is one. -/
theorem introduces_build (table : String) (clauses : List Clause) {r : Rendering}
    (hf : r.isFiltered = true) :
    r.Introduces (Query.build table clauses) (r.namedBy table) ∧
      (r.Introduces (Query.build table clauses) (aliased table) ↔ r.changesRows = false) ∧
      (r.namedBy table (latest Clause.aliased? clauses) = (Query.build table clauses).source ↔
        (r.changesRows = true → latest Clause.aliased? clauses = none)) := by
  have htable : (Query.build table clauses).table = table := Query.table_build table clauses
  have hsource : (Query.build table clauses).source =
      aliased table (latest Clause.aliased? clauses) := by
    rw [Query.build_eq]
    rfl
  have hnamed := introduces_namedBy (q := Query.build table clauses) hf
  have haliased := introduces_aliased_iff (q := Query.build table clauses) hf
  rw [htable] at hnamed haliased
  rw [hsource]
  exact ⟨hnamed, haliased, namedBy_eq_aliased_iff table _⟩

/-- A condition on `u.k`, with the table called `u` in the one statement and not in the other. -/
theorem introduces_build_delete :
    (delete.render (Query.build "t" [.aliased "u", .filter (.qualified "u" "k" .untyped)])).sql =
        "DELETE FROM \"t\" WHERE \"u\".\"k\"" ∧
      statement.Introduces (Query.build "t" [.aliased "u", .filter (.qualified "u" "k" .untyped)])
        (aliased "t") ∧
      ¬ delete.Introduces (Query.build "t" [.aliased "u", .filter (.qualified "u" "k" .untyped)])
        (aliased "t") := by
  have hstatement := (introduces_build "t" [.aliased "u", .filter (.qualified "u" "k" .untyped)]
    (r := statement) rfl).2.1
  have hdelete := (introduces_build "t" [.aliased "u", .filter (.qualified "u" "k" .untyped)]
    (r := delete) rfl).2.1
  refine ⟨by decide, hstatement.mpr rfl, fun h => ?_⟩
  cases hdelete.mp h

end Rendering

end TypedSql
