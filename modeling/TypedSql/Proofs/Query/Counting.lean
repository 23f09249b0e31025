import TypedSql.Proofs.Fragment
import TypedSql.Query.Render

namespace TypedSql

/-- Whether a clause says nothing but the order or the window of the rows. -/
def Clause.isOrdering : Clause → Bool
  | .orderBy _ | .limit _ | .offset _ => true
  | _ => false

namespace Query

/-- Whether the rows that are counted are those of a subquery. -/
def countsTuples (q : Query) : Prop := q.distinct = true ∧ q.columns ≠ []

theorem count_of_countsTuples {q : Query} (h : q.countsTuples) :
    q.count = .enclosed "SELECT count(*) FROM (" q.statement ")" := by
  rw [count, if_pos]
  simpa [countsTuples] using h

theorem count_of_not_countsTuples {q : Query} (h : ¬ q.countsTuples) :
    q.count = { q with distinct := false }.selecting Term.countRows.render := by
  rw [count, if_neg]
  simpa [countsTuples] using h

/-! ## Where nothing is written of order and window -/

theorem append_eq_raw_iff {x y : Fragment} : x ++ y = .raw "" ↔ x = .raw "" ∧ y = .raw "" := by
  constructor
  · intro h
    have hsql : x.sql ++ y.sql = "" := congrArg Fragment.sql h
    have hcells : x.cells ++ y.cells = [] := congrArg Fragment.cells h
    obtain ⟨hx, hy⟩ := String.append_eq_empty_iff.mp hsql
    obtain ⟨hx', hy'⟩ := List.append_eq_nil_iff.mp hcells
    exact ⟨Fragment.eq_of_sql_eq hx hx', Fragment.eq_of_sql_eq hy hy'⟩
  · rintro ⟨rfl, rfl⟩
    rfl

theorem listClause_eq_raw_iff {keyword : String} (hk : keyword ≠ "") (xs : List Term) :
    listClause keyword xs = .raw "" ↔ xs = [] := by
  cases xs with
  | nil => exact iff_of_true rfl rfl
  | cons x xs =>
      refine iff_of_false (fun h => hk ?_) nofun
      exact congrArg Fragment.sql (append_eq_raw_iff.mp h).1

theorem window_eq_raw_iff (q : Query) :
    q.window = .raw "" ↔ q.limit = none ∧ q.offset = none := by
  unfold window
  cases q.limit <;> cases q.offset <;> simp [Fragment.raw]

/-- Nothing is written of order and window where the query asks for none. -/
theorem ordering_eq_raw_iff (q : Query) :
    q.ordering = .raw "" ↔ q.orderBy = [] ∧ q.limit = none ∧ q.offset = none := by
  rw [ordering, append_eq_raw_iff, listClause_eq_raw_iff (by decide), window_eq_raw_iff]

/-! ## Counting in another order and window -/

def reordered (q : Query) (orderBy : List Term) (limit offset : Option UInt64) : Query :=
  { q with orderBy, limit, offset }

theorem reordered_reordered (q : Query) (orderBy orderBy' : List Term)
    (limit limit' offset offset' : Option UInt64) :
    (q.reordered orderBy limit offset).reordered orderBy' limit' offset' =
      q.reordered orderBy' limit' offset' := rfl

theorem exists_add_eq_reordered (q : Query) {c : Clause} (h : c.isOrdering = true) :
    ∃ orderBy limit offset, q.add c = q.reordered orderBy limit offset := by
  cases c with
  | orderBy terms => exact ⟨terms, q.limit, q.offset, rfl⟩
  | limit n => exact ⟨q.orderBy, some n, q.offset, rfl⟩
  | offset n => exact ⟨q.orderBy, q.limit, some n, rfl⟩
  | aliased | filter | select | distinct | groupBy | having => cases h

/-- Clauses for order and window change nothing else. -/
theorem exists_foldl_add_eq_reordered (q : Query) {clauses : List Clause}
    (h : ∀ c ∈ clauses, c.isOrdering = true) :
    ∃ orderBy limit offset, clauses.foldl add q = q.reordered orderBy limit offset := by
  induction clauses generalizing q with
  | nil => exact ⟨q.orderBy, q.limit, q.offset, rfl⟩
  | cons c clauses ih =>
      obtain ⟨o, l, m, hc⟩ := q.exists_add_eq_reordered (h c List.mem_cons_self)
      obtain ⟨o', l', m', hrest⟩ := ih (q.add c) fun d hd => h d (List.mem_cons_of_mem c hd)
      refine ⟨o', l', m', ?_⟩
      rw [List.foldl_cons, hrest, hc, reordered_reordered]

/-- In another order and window a query has the same count, unless tuples are counted and the two
are written in different ways. -/
theorem count_reordered_eq_iff (q : Query) (orderBy : List Term) (limit offset : Option UInt64) :
    (q.reordered orderBy limit offset).count = q.count ↔
      (q.countsTuples → (q.reordered orderBy limit offset).ordering = q.ordering) := by
  by_cases h : q.countsTuples
  · have h' : (q.reordered orderBy limit offset).countsTuples := h
    have hcolumns : (q.reordered orderBy limit offset).selecting
        (q.reordered orderBy limit offset).columnList = q.selecting q.columnList := rfl
    rw [count_of_countsTuples h, count_of_countsTuples h', Fragment.enclosed_inj, statement,
      statement, hcolumns, Fragment.append_right_inj]
    exact ⟨fun he _ => he, fun he => he h⟩
  · have h' : ¬ (q.reordered orderBy limit offset).countsTuples := h
    rw [count_of_not_countsTuples h, count_of_not_countsTuples h']
    exact iff_of_true rfl fun ht => absurd ht h

/-- A query in no order and no window is the same in another one only if that is none either. -/
theorem ordering_reordered_eq_iff {q : Query} (hq : q.ordering = .raw "") (orderBy : List Term)
    (limit offset : Option UInt64) :
    (q.reordered orderBy limit offset).ordering = q.ordering ↔
      q.reordered orderBy limit offset = q := by
  constructor
  · intro h
    obtain ⟨horder, hlimit, hoffset⟩ := (ordering_eq_raw_iff _).mp (h.trans hq)
    obtain ⟨horder', hlimit', hoffset'⟩ := (ordering_eq_raw_iff q).mp hq
    cases q
    simp_all [reordered]
  · exact congrArg ordering

/-- Clauses for order and window, whatever they are and however many, leave a count as it is where
the rows of the table are counted. Where tuples are, it is the same exactly if the order and the
window are written as they were before: in a query that had none, exactly if there are none now. -/
theorem count_foldl_add_eq_iff (q : Query) {clauses : List Clause}
    (h : ∀ c ∈ clauses, c.isOrdering = true) :
    ((clauses.foldl add q).count = q.count ↔
        (q.countsTuples → (clauses.foldl add q).ordering = q.ordering)) ∧
      (q.ordering = .raw "" →
        ((clauses.foldl add q).count = q.count ↔ (q.countsTuples → clauses.foldl add q = q))) := by
  obtain ⟨orderBy, limit, offset, hq⟩ := q.exists_foldl_add_eq_reordered h
  rw [hq, count_reordered_eq_iff]
  exact ⟨.rfl, fun hnone => imp_congr_right fun _ => ordering_reordered_eq_iff hnone ..⟩

/-- A limit takes rows from the count of distinct names, and none from that of all rows. -/
theorem count_foldl_add_eq_iff_limit :
    (∀ c ∈ [Clause.orderBy [.column "k" .untyped], .limit 1, .offset 0], c.isOrdering = true) ∧
      ([.orderBy [.column "k" .untyped], .limit 1, .offset 0].foldl add
          (build "t" [.select [.column "k" .untyped], .distinct])).count ≠
        (build "t" [.select [.column "k" .untyped], .distinct]).count ∧
      ([.orderBy [.column "k" .untyped], .limit 1, .offset 0].foldl add
          (build "t" [.select [.column "k" .untyped]])).count =
        (build "t" [.select [.column "k" .untyped]]).count := by
  have hclauses : ∀ c ∈ [Clause.orderBy [.column "k" .untyped], .limit 1, .offset 0],
      c.isOrdering = true := by decide
  have htuples := count_foldl_add_eq_iff (build "t" [.select [.column "k" .untyped], .distinct])
    hclauses
  have hrows := count_foldl_add_eq_iff (build "t" [.select [.column "k" .untyped]]) hclauses
  refine ⟨hclauses, fun hsame => ?_, hrows.1.mpr fun h => ?_⟩
  · have hordering := htuples.1.mp hsame ⟨rfl, List.cons_ne_nil _ _⟩
    revert hordering
    decide
  · cases h.1

end Query

end TypedSql
