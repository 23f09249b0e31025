import TypedSql.Proofs.Query.Statements

namespace TypedSql

/-- Whether a clause says nothing but which rows to skip or how many to take. -/
def Clause.isPaging : Clause → Bool
  | .limit _ | .offset _ => true
  | _ => false

/-- How many rows to skip and how many to take of those left, each if it is given. -/
structure Paging where
  limit : Option UInt64
  offset : Option UInt64
deriving DecidableEq, Repr

namespace Paging

/-- No rows are skipped, and all are taken. -/
def all : Paging := ⟨none, none⟩

/-- What was given last. -/
def ofClauses (clauses : List Clause) : Paging :=
  ⟨latest Clause.limit? clauses, latest Clause.offset? clauses⟩

/-- The window as it is written. -/
def text (p : Paging) : String := Query.windowText p.limit p.offset

/-- The number that is written for a limit; -1 where there is only an offset. -/
def limitOperand (p : Paging) : Option Int :=
  match p.limit, p.offset with
  | some n, _ => some n.toNat
  | none, some _ => some (-1)
  | none, none => none

/-- The number that is written for an offset. -/
def offsetOperand (p : Paging) : Option Int := p.offset.map fun n => n.toNat

/-- The rows of the window. -/
def rows {α : Type} (p : Paging) (xs : List α) : List α :=
  let later := xs.drop (p.offset.elim 0 UInt64.toNat)
  match p.limit with
  | some n => later.take n.toNat
  | none => later

theorem latest_unpaged {kind : Clause → Option UInt64}
    (h : ∀ c, c.isPaging = false → kind c = none) (clauses : List Clause) :
    latest kind (clauses.filter (!·.isPaging)) = none := by
  have hnone : ∀ c ∈ clauses.filter (!·.isPaging), kind c = none := by
    intro c hc
    exact h c (by simpa using (List.mem_filter.mp hc).2)
  rw [latest, List.filterMap_eq_nil_iff.mpr hnone]
  rfl

theorem ofClauses_unpaged (clauses : List Clause) :
    ofClauses (clauses.filter (!·.isPaging)) = all := by
  rw [ofClauses, latest_unpaged, latest_unpaged, all]
  · intro c hc
    cases c <;> first | rfl | cases hc
  · intro c hc
    cases c <;> first | rfl | cases hc

end Paging

namespace Query

def paged (q : Query) (p : Paging) : Query := { q with limit := p.limit, offset := p.offset }

/-- The clauses for the window may be left out and the window given at the end. -/
theorem build_eq_paged (table : String) (clauses : List Clause) :
    build table clauses =
      (build table (clauses.filter (!·.isPaging))).paged (.ofClauses clauses) := by
  induction clauses using List.reverseRecOn with
  | nil => rfl
  | append_singleton clauses c ih =>
      have hbuild (cs : List Clause) : build table (cs ++ [c]) = (build table cs).add c := by
        simp [build]
      rw [hbuild, ih, List.filter_append, Paging.ofClauses, Paging.ofClauses, latest_append,
        latest_append]
      cases c with
      | limit n | offset n => simp [Clause.isPaging, Clause.limit?, Clause.offset?, add, paged]
      | aliased | filter | select | distinct | groupBy | having | orderBy =>
          simp only [Clause.isPaging, List.filter_cons, Bool.not_false, if_true, List.filter_nil,
            hbuild, Clause.limit?, Clause.offset?, Option.none_or]
          rfl

theorem window_paged (q : Query) (p : Paging) : (q.paged p).window = .raw p.text := by
  obtain ⟨limit, offset⟩ := p
  cases limit <;> cases offset <;> rfl

end Query

namespace Rendering

def paged (q : Query) (p : Paging) : Rendering → Fragment
  | .statement => q.statement ++ .raw p.text
  | .selectValue column => q.selectValue column ++ .raw p.text
  | .count =>
      if q.distinct && !q.columns.isEmpty then
        .enclosed "SELECT count(*) FROM (" (q.statement ++ .raw p.text) ")"
      else q.count
  | r => r.render q

theorem render_paged {q : Query} (hq : q.window = .raw "") (p : Paging) (r : Rendering) :
    r.render (q.paged p) = r.paged q p := by
  have hordering : (q.paged p).ordering = q.ordering ++ .raw p.text := by
    rw [Query.ordering, Query.ordering, hq, Fragment.append_raw_empty, Query.window_paged]
    rfl
  have hselect (columns : Fragment) :
      q.selecting columns ++ (q.paged p).ordering =
        q.selecting columns ++ q.ordering ++ .raw p.text := by
    rw [hordering, Fragment.append_assoc]
  cases r with
  | statement => exact hselect _
  | selectValue column => exact hselect _
  | count =>
      show (if q.distinct && !q.columns.isEmpty then _ else _) = _
      split
      · rename_i h
        rw [paged, if_pos h]
        exact congrArg (Fragment.enclosed _ · _) (hselect _)
      · rename_i h
        rw [paged, if_neg h, Query.count, if_neg h]
        rfl
  | insert | insertOr | upsert | update | delete => rfl

/-- However limits and offsets are given among the clauses, the last of each makes the window that
is written. -/
theorem render_build (table : String) (clauses : List Clause) (r : Rendering) :
    r.render (Query.build table clauses) =
      r.paged (Query.build table (clauses.filter (!·.isPaging))) (.ofClauses clauses) := by
  have hall := Query.build_eq_paged table (clauses.filter (!·.isPaging))
  rw [List.filter_filter, Paging.ofClauses_unpaged] at hall
  simp only [Bool.and_self] at hall
  have hwindow : (Query.build table (clauses.filter (!·.isPaging))).window = .raw "" := by
    rw [hall, Query.window_paged]
    rfl
  rw [Query.build_eq_paged, render_paged hwindow]

end Rendering

end TypedSql
