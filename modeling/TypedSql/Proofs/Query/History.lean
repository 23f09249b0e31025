import Mathlib.Data.List.Induction
import TypedSql.Query.Basic

namespace TypedSql

namespace Clause

def aliased? : Clause → Option String
  | .aliased name => some name
  | _ => none

def filter? : Clause → Option Term
  | .filter condition => some condition
  | _ => none

def select? : Clause → Option (List Term)
  | .select columns => some columns
  | _ => none

def isDistinct : Clause → Bool
  | .distinct => true
  | _ => false

def groupBy? : Clause → Option (List Term)
  | .groupBy columns => some columns
  | _ => none

def having? : Clause → Option Term
  | .having condition => some condition
  | _ => none

def orderBy? : Clause → Option (List Term)
  | .orderBy terms => some terms
  | _ => none

def limit? : Clause → Option UInt64
  | .limit n => some n
  | _ => none

def offset? : Clause → Option UInt64
  | .offset n => some n
  | _ => none

def terms : Clause → List Term
  | .filter condition | .having condition => [condition]
  | .select terms | .groupBy terms | .orderBy terms => terms
  | .aliased _ | .distinct | .limit _ | .offset _ => []

end Clause

/-- What the last clause of a kind says. -/
def latest {α : Type} (kind : Clause → Option α) (clauses : List Clause) : Option α :=
  (clauses.filterMap kind).getLast?

def filters (clauses : List Clause) : List Term := clauses.filterMap Clause.filter?

/-- Conditions joined by `AND`, nested to the left. -/
def conjunction : List Term → Option Term
  | [] => none
  | first :: others => some (others.foldl (.binary .and) first)

theorem latest_append {α : Type} (kind : Clause → Option α) (clauses : List Clause) (c : Clause) :
    latest kind (clauses ++ [c]) = (kind c).or (latest kind clauses) := by
  cases h : kind c <;> simp [latest, h]

theorem filters_append (clauses : List Clause) (c : Clause) :
    filters (clauses ++ [c]) = filters clauses ++ c.filter?.toList := by
  cases h : c.filter? <;> simp [filters, h]

theorem conjunction_append (conditions : List Term) (c : Term) :
    conjunction (conditions ++ [c]) = some (Query.both (conjunction conditions) c) := by
  cases conditions with
  | nil => rfl
  | cons first others => simp [conjunction, Query.both]

namespace Query

/-- A query in terms of the clauses that were given for it. -/
theorem build_eq (table : String) (clauses : List Clause) :
    build table clauses =
      { table
        aliasName := latest Clause.aliased? clauses
        filter := conjunction (filters clauses)
        columns := (latest Clause.select? clauses).getD []
        distinct := clauses.any Clause.isDistinct
        groupBy := (latest Clause.groupBy? clauses).getD []
        having := latest Clause.having? clauses
        orderBy := (latest Clause.orderBy? clauses).getD []
        limit := latest Clause.limit? clauses
        offset := latest Clause.offset? clauses } := by
  induction clauses using List.reverseRecOn with
  | nil => rfl
  | append_singleton clauses c ih =>
      have hbuild : build table (clauses ++ [c]) = (build table clauses).add c := by simp [build]
      rw [hbuild, ih]
      cases c <;>
        simp [add, latest_append, filters_append, conjunction_append, Clause.aliased?,
          Clause.filter?, Clause.select?, Clause.isDistinct, Clause.groupBy?, Clause.having?,
          Clause.orderBy?, Clause.limit?, Clause.offset?]

/-- A property of the expressions of a query's clauses, that of its condition apart. -/
structure Each (P : Term → Prop) (q : Query) : Prop where
  columns : ∀ x ∈ q.columns, P x
  groupBy : ∀ x ∈ q.groupBy, P x
  having : ∀ x ∈ q.having, P x
  orderBy : ∀ x ∈ q.orderBy, P x

theorem add_each {P : Term → Prop} {q : Query} (h : q.Each P) {c : Clause}
    (hc : ∀ x ∈ c.terms, P x) : (q.add c).Each P := by
  cases c with
  | select columns => exact { h with columns := hc }
  | groupBy columns => exact { h with groupBy := hc }
  | having condition =>
      have hcondition : ∀ x ∈ some condition, P x := by simpa [Clause.terms] using hc
      exact { h with having := hcondition }
  | orderBy terms => exact { h with orderBy := hc }
  | _ => exact ⟨h.columns, h.groupBy, h.having, h.orderBy⟩

/-- A query's expressions are those of the clauses that were given for it. -/
theorem build_each {P : Term → Prop} (table : String) {clauses : List Clause}
    (h : ∀ c ∈ clauses, ∀ x ∈ c.terms, P x) : (build table clauses).Each P := by
  induction clauses using List.reverseRecOn with
  | nil => exact ⟨by simp [build, ofTable], by simp [build, ofTable], by simp [build, ofTable],
      by simp [build, ofTable]⟩
  | append_singleton clauses c ih =>
      have hbuild : build table (clauses ++ [c]) = (build table clauses).add c := by simp [build]
      rw [hbuild]
      exact add_each (ih fun d hd => h d (by simp [hd])) (h c (by simp))

end Query

end TypedSql
