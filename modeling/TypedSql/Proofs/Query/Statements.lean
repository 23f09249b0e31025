import TypedSql.Proofs.Query.Compile

namespace TypedSql

open Fragment (Spells)

/-- The statements that a query is rendered to. -/
inductive Rendering where
  | statement
  | selectValue (column : Term)
  | count
  | insert (row : List Assignment)
  | insertOr (conflict : Conflict) (row : List Assignment)
  | upsert (row : List Assignment) (target : List Term) (changes : List Assignment)
  | update (first : Assignment) (others : List Assignment)
  | delete
deriving Repr

namespace Rendering

/-- The columns that are assigned to, and the values. -/
def sides (xs : List Assignment) : List Term := xs.map Assignment.column ++ xs.map Assignment.value

/-- The expressions of a statement that are not in a clause of the query. -/
def terms : Rendering → List Term
  | .statement | .count | .delete => []
  | .selectValue column => [column]
  | .insert row | .insertOr _ row => sides row
  | .upsert row target changes => sides row ++ target ++ sides changes
  | .update first others => sides (first :: others)

def render (q : Query) : Rendering → Fragment
  | .statement => q.statement
  | .selectValue column => q.selectValue column
  | .count => q.count
  | .insert row => q.insert row
  | .insertOr conflict row => q.insertOr conflict row
  | .upsert row target changes => q.upsert row target changes
  | .update first others => q.update first others
  | .delete => q.delete

def text (table : String) (clauses : List Clause) : Rendering → String
  | .statement => Query.statementText table clauses
  | .selectValue column => Query.selectText table clauses column.compiled
  | .count => Query.countText table clauses
  | .insert row => Query.insertText table "INSERT" row
  | .insertOr conflict row => Query.insertText table ("INSERT OR " ++ conflict.keyword) row
  | .upsert row target changes => Query.upsertText table row target changes
  | .update first others => Query.updateText table clauses (first :: others)
  | .delete => Query.deleteText table clauses

end Rendering

variable {leaf : Fragment → String → Prop}

theorem spelled_of_sides {xs : List Assignment} (h : ∀ x ∈ Rendering.sides xs, x.Spelled leaf) :
    ∀ a ∈ xs, a.Spelled leaf := by
  intro a ha
  have hcolumn : a.column ∈ Rendering.sides xs :=
    List.mem_append_left _ (List.mem_map_of_mem ha)
  have hvalue : a.value ∈ Rendering.sides xs :=
    List.mem_append_right _ (List.mem_map_of_mem ha)
  exact ⟨h _ hcolumn, h _ hvalue⟩

namespace Query

theorem word_insertOr (conflict : Conflict) :
    Word 0 0 ("INSERT OR " ++ conflict.keyword ++ " INTO ") := by
  cases conflict <;> decide

theorem table_build (table : String) (clauses : List Clause) :
    (build table clauses).table = table := by
  rw [build_eq]

theorem spells_upsert (q : Query) {row update : List Assignment} {target : List Term}
    (hrow : ∀ a ∈ row, a.Spelled leaf) (htarget : ∀ x ∈ target, x.Spelled leaf)
    (hupdate : ∀ a ∈ update, a.Spelled leaf) :
    (q.upsert row target update).Spells leaf (upsertText q.table row target update) := by
  have hverb : Word 0 0 ("INSERT" ++ " INTO ") := by decide
  have hconflict : Word 0 1 " ON CONFLICT (" := by decide
  have hinsert := spells_insertWith hverb q hrow
  have hfirst := hinsert.between hconflict (by decide) (spells_terms htarget)
  unfold upsert upsertText
  cases update with
  | nil =>
      have hnothing : Reads 1 0 0 ") DO NOTHING".toList := by decide
      exact hfirst.append_word hnothing (by decide)
  | cons a as =>
      have hset : Word 1 0 ") DO UPDATE SET " := by decide
      have haction := Spells.word_append hset (spells_assignments hupdate)
      exact hfirst.append haction (Fragment.apart_raw_append (by decide) _)

section
variable {table : String} {clauses : List Clause}
variable (h : ∀ c ∈ clauses, ∀ x ∈ c.terms, x.Spelled leaf)
include h

theorem spells_filtered {x : Fragment} {t : String} (hx : x.Spells leaf t) :
    (x ++ (build table clauses).whereClause).Spells leaf (t ++ whereText (filters clauses)) := by
  have hfilter : (build table clauses).filter = conjunction (filters clauses) := by rw [build_eq]
  have hwhere := spells_whereClause hfilter (filters_closed h)
  exact hx.append hwhere (apart_optionalClause (by decide) _)

theorem spells_delete : (build table clauses).delete.Spells leaf (deleteText table clauses) := by
  have hword : Word 0 0 "DELETE FROM " := by decide
  unfold delete deleteText
  rw [table_build]
  exact spells_filtered h (.word_append hword (spells_name table))

theorem spells_update {first : Assignment} {others : List Assignment}
    (hset : ∀ a ∈ first :: others, a.Spelled leaf) :
    ((build table clauses).update first others).Spells leaf
      (updateText table clauses (first :: others)) := by
  have hword : Word 0 0 "UPDATE " := by decide
  have hmiddle : Word 0 0 " SET " := by decide
  have hhead : (Fragment.raw "UPDATE " ++ .name table).Spells leaf ("UPDATE " ++ quoteIdentifier table) :=
    .word_append hword (spells_name table)
  have hassigned := hhead.between hmiddle (by decide) (spells_assignments hset)
  unfold update updateText
  rw [table_build]
  exact spells_filtered h hassigned

end

end Query

namespace Rendering

/-- A statement is put together of its words and its expressions, whichever it is. -/
theorem spells_text {table : String} {clauses : List Clause}
    (h : ∀ c ∈ clauses, ∀ x ∈ c.terms, x.Spelled leaf) (r : Rendering)
    (hr : ∀ x ∈ r.terms, x.Spelled leaf) :
    (r.render (Query.build table clauses)).Spells leaf (r.text table clauses) := by
  have hverb : Word 0 0 ("INSERT" ++ " INTO ") := by decide
  cases r with
  | statement => exact Query.spells_statement h
  | selectValue column =>
      have hcolumn := hr column (by simp [terms])
      exact Query.spells_select h hcolumn
  | count => exact Query.spells_count h
  | insert row =>
      have hinsert := Query.spells_insertWith hverb (Query.build table clauses) (spelled_of_sides hr)
      rwa [Query.table_build] at hinsert
  | insertOr conflict row =>
      have hinsert := Query.spells_insertWith (Query.word_insertOr conflict)
        (Query.build table clauses) (spelled_of_sides hr)
      rwa [Query.table_build] at hinsert
  | upsert row target changes =>
      have hrow : ∀ a ∈ row, a.Spelled leaf := spelled_of_sides fun x hx => hr x (by simp [terms, hx])
      have htarget : ∀ x ∈ target, x.Spelled leaf := fun x hx => hr x (by simp [terms, hx])
      have hchanges : ∀ a ∈ changes, a.Spelled leaf :=
        spelled_of_sides fun x hx => hr x (by simp [terms, hx])
      have hupsert := Query.spells_upsert (Query.build table clauses) hrow htarget hchanges
      rwa [Query.table_build] at hupsert
  | update first others => exact Query.spells_update h (spelled_of_sides hr)
  | delete => exact Query.spells_delete h

/-- Every statement of closed expressions compiles. The words of the statement are those that its
clauses call for, and each expression stands in its place as it compiles by itself. -/
theorem compile_build (table : String) (clauses : List Clause) (r : Rendering)
    (h : ∀ x ∈ clauses.flatMap Clause.terms ++ r.terms, x.render.Closed) :
    (r.render (Query.build table clauses)).compile = .ok (r.text table clauses) ∧
      ∀ x ∈ clauses.flatMap Clause.terms ++ r.terms, x.compile = .ok x.compiled := by
  have hspelled : ∀ x ∈ clauses.flatMap Clause.terms ++ r.terms, x.Spelled Fragment.FillsTo :=
    fun x hx => .leaf (h x hx).fillsTo
  have hclauses : ∀ c ∈ clauses, ∀ x ∈ c.terms, x.Spelled Fragment.FillsTo := by
    intro c hc x hx
    exact hspelled x (List.mem_append_left _ (List.mem_flatMap_of_mem hc hx))
  have hall : (r.render (Query.build table clauses)).Spells Fragment.FillsTo (r.text table clauses) :=
    spells_text hclauses r fun x hx => hspelled x (List.mem_append_right _ hx)
  exact ⟨(hall.fillsTo fun _ _ hx => hx).compile, fun x hx => (h x hx).fillsTo.compile⟩

theorem compile_build_hostile :
    ((Query.build "t" [.offset 3, .select [.column "a" .untyped],
        .filter (.verbatim "x = ? /* ? */" [some (.text "?1")] .untyped),
        .select [.verbatim "'?' || :n" [] .untyped, .value (.text "--")],
        .filter (.binary .less (.value (.integer 1)) (.value (.integer 2)))]).statement).compile =
      .ok "SELECT '?' || :n, '--' FROM \"t\" WHERE (x = '?1' /* ? */ AND (1 < 2)) LIMIT -1 OFFSET 3" := by
  have h := (compile_build "t" [.offset 3, .select [.column "a" .untyped],
        .filter (.verbatim "x = ? /* ? */" [some (.text "?1")] .untyped),
        .select [.verbatim "'?' || :n" [] .untyped, .value (.text "--")],
        .filter (.binary .less (.value (.integer 1)) (.value (.integer 2)))]
    .statement (by decide)).1
  exact h

end Rendering

end TypedSql
