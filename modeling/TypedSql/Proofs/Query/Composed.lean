import TypedSql.Proofs.Query.Statements
import TypedSql.Proofs.Scan.Unique
import TypedSql.Proofs.Term.Compile

/-!
The fragments that the algebra and the queries compose, and that what they compile to tells their
cells. Every word of theirs stands apart from what it follows, so a gap comes after each mark, and
no literal goes on in the text after it.
-/

namespace TypedSql

open Fragment (Spells Delimited Compositional Part)

namespace Term

mutual

/-- Whether operators, functions and separators written by hand are words that keep apart what
stands around them. -/
def keepsApart : Term → Bool
  | .column .. | .qualified .. | .verbatim .. | .value _ | .optional .. | .quoted _ | .countRows
  | .random => true
  | .binary _ l r => l.keepsApart && r.keepsApart
  | .unary _ x | .compareNull _ x | .nullCompare _ x | .isNull _ x | .between _ x _ _
  | .inList _ x _ | .likeEscape x _ _ | .collate x _ | .cast x _ | .aggregate _ _ x | .ordered x _
  | .untyped x => x.keepsApart
  | .call _ arguments | .coalesce _ arguments | .userCall _ arguments _ => allKeepApart arguments
  | .infixed operator l r _ =>
      decide (Word 0 0 (" " ++ operator ++ " ")) && (l.keepsApart && r.keepsApart)
  | .wrapped function x _ => decide (Word 0 1 (function ++ "(")) && x.keepsApart
  | .joined separator parts =>
      decide (Word 0 0 separator ∧ Parts separator) && allKeepApart parts

def allKeepApart : List Term → Bool
  | [] => true
  | x :: xs => x.keepsApart && allKeepApart xs

end

mutual

/-- The fragments that stand in an expression as they are. -/
def embedded : Term → List Fragment
  | .column .. | .qualified .. | .value _ | .optional .. | .quoted _ | .countRows | .random => []
  | .verbatim sql cells _ => [⟨sql, cells⟩]
  | .binary _ l r | .infixed _ l r _ => l.embedded ++ r.embedded
  | .unary _ x | .compareNull _ x | .nullCompare _ x | .isNull _ x | .between _ x _ _
  | .inList _ x _ | .likeEscape x _ _ | .collate x _ | .cast x _ | .aggregate _ _ x | .ordered x _
  | .untyped x | .wrapped _ x _ => x.embedded
  | .call _ arguments | .coalesce _ arguments | .userCall _ arguments _ | .joined _ arguments =>
      allEmbedded arguments

def allEmbedded : List Term → List Fragment
  | [] => []
  | x :: xs => x.embedded ++ allEmbedded xs

end

mutual

/-- An expression without SQL written by hand keeps its parts apart. -/
theorem keepsApart_of_isStructured (x : Term) (h : x.isStructured = true) :
    x.keepsApart = true ∧ x.embedded = [] := by
  cases x with
  | verbatim | infixed | wrapped | joined => simp [isStructured] at h
  | column | qualified | value | optional | quoted | countRows | random => exact ⟨rfl, rfl⟩
  | binary op l r =>
      rw [isStructured, Bool.and_eq_true] at h
      simp [keepsApart, embedded, l.keepsApart_of_isStructured h.1, r.keepsApart_of_isStructured h.2]
  | unary _ x | compareNull _ x | nullCompare _ x | isNull _ x | between _ x | inList _ x
  | likeEscape x | collate x | cast x | aggregate _ _ x | ordered x | untyped x =>
      exact x.keepsApart_of_isStructured h
  | call _ xs | coalesce _ xs | userCall _ xs => exact allKeepApart_of_allStructured xs h

theorem allKeepApart_of_allStructured (xs : List Term) (h : allStructured xs = true) :
    allKeepApart xs = true ∧ allEmbedded xs = [] := by
  cases xs with
  | nil => exact ⟨rfl, rfl⟩
  | cons x xs =>
      rw [allStructured, Bool.and_eq_true] at h
      simp [allKeepApart, allEmbedded, x.keepsApart_of_isStructured h.1,
        allKeepApart_of_allStructured xs h.2]

end

theorem parts_isWord (negated : Bool) (w : String) : Parts (" " ++ isWord negated ++ w) :=
  (parts_space.append (isWord negated)).append w

section
variable {P : Fragment → Prop} (hP : Compositional P)
include hP

theorem holds_separated {separator : String} {xs : List Term} (hw : Word 0 0 separator)
    (hp : Parts separator) (h : ∀ x ∈ xs, P x.render) :
    P (Fragment.joined separator (renderAll xs)) := by
  rw [renderAll_eq_map]
  exact hP.parts (.joined hw hp fun x hx => .part (h x hx))

theorem holds_applied_commas {function : String} (hf : Word 0 1 (function ++ "(")) {xs : List Term}
    (h : ∀ x ∈ xs, P x.render) : P ((Fragment.commas (renderAll xs)).applied function) := by
  have hcommas := holds_separated hP (show Word 0 0 ", " by decide) (by decide) h
  exact hP.parts (.applied hf (.part hcommas))

end

mutual

/-- An expression has a compositional property where its words keep apart and what it embeds has
the property. -/
theorem holds_render {P : Fragment → Prop} (hP : Compositional P) (x : Term)
    (hx : x.keepsApart = true) (h : ∀ y ∈ x.embedded, P y) : P x.render := by
  have bound (cell : Cell) : (Fragment.bound cell).Spells (Part P) "" := .part (hP.bound cell)
  cases x with
  | column name _ => exact hP.word (reads_quoteIdentifier name)
  | qualified table name _ =>
      exact hP.parts (.between (spells_name table) (show Word 0 0 "." by decide) (by decide)
        (spells_name name))
  | verbatim sql cells _ =>
      rw [render]
      exact h ⟨sql, cells⟩ (by simp [embedded])
  | value v => exact hP.bound (some v.store)
  | optional _ v => exact hP.bound (v.map Value.store)
  | quoted text => exact hP.word (reads_quoteLiteral text)
  | countRows => exact hP.word (show Reads 0 0 0 "count(*)".toList by decide)
  | random => exact hP.word (show Reads 0 0 0 "random()".toList by decide)
  | binary op l r =>
      rw [keepsApart, Bool.and_eq_true] at hx
      rw [embedded, List.forall_mem_append] at h
      exact hP.parts (.infixed (word_binary op) (.part (holds_render hP l hx.1 h.1))
        (.part (holds_render hP r hx.2 h.2)))
  | infixed op l r _ =>
      simp only [keepsApart, Bool.and_eq_true, decide_eq_true_eq] at hx
      rw [embedded, List.forall_mem_append] at h
      exact hP.parts (.infixed hx.1 (.part (holds_render hP l hx.2.1 h.1))
        (.part (holds_render hP r hx.2.2 h.2)))
  | unary op x => exact hP.parts (.applied (word_unary op) (.part (holds_render hP x hx h)))
  | wrapped f x _ =>
      simp only [keepsApart, Bool.and_eq_true, decide_eq_true_eq] at hx
      exact hP.parts (.applied hx.1 (.part (holds_render hP x hx.2 h)))
  | compareNull negated x =>
      exact hP.parts (.between (.part (holds_render hP x hx h)) (word_isWord negated)
        (parts_isWord negated " ") (bound none))
  | nullCompare negated x =>
      exact hP.parts (.between (bound none) (word_isWord negated) (parts_isWord negated " ")
        (.part (holds_render hP x hx h)))
  | isNull negated x =>
      exact hP.parts (.enclosed (show Word 0 1 "(" by decide) (.part (holds_render hP x hx h))
        (reads_isNull negated) (parts_isWord negated " NULL)"))
  | between negated x low high =>
      have bounds := (bound (some low.store)).between (show Word 0 0 " AND " by decide) (by decide)
        (bound (some high.store))
      exact hP.parts (.infixed (word_negatable negated (.inl rfl))
        (.part (holds_render hP x hx h)) bounds)
  | inList negated x values =>
      have list : (Fragment.commas (values.map fun v => .bound (some v.store))).Spells (Part P)
          (", ".intercalate (values.map fun _ => "")) :=
        .commas fun v _ => bound (some v.store)
      have hopen : Word 0 1 ("" ++ "(") := by decide
      exact hP.parts (.infixed (word_negatable negated (.inr rfl))
        (.part (holds_render hP x hx h)) (.applied hopen list))
  | likeEscape x pattern escape =>
      have operand := (bound (some (.text pattern))).between (show Word 0 0 " ESCAPE " by decide)
        (by decide) (bound (some (.text (String.singleton escape))))
      exact hP.parts (.infixed (show Word 0 0 (" " ++ "LIKE" ++ " ") by decide)
        (.part (holds_render hP x hx h)) operand)
  | collate x collation =>
      exact hP.parts (.infixed (show Word 0 0 (" " ++ "COLLATE" ++ " ") by decide)
        (.part (holds_render hP x hx h)) (spells_name collation.name))
  | cast x type =>
      exact hP.parts (.enclosed (show Word 0 1 "CAST (" by decide)
        (.part (holds_render hP x hx h)) (reads_declared type)
        ((parts_space.append "AS ").append _ |>.append _))
  | call f xs => exact holds_applied_commas hP (word_function f) (holds_renderAll hP xs hx h)
  | coalesce _ xs =>
      have hopen : Word 0 1 ("coalesce" ++ "(") := by decide
      exact holds_applied_commas hP hopen (holds_renderAll hP xs hx h)
  | userCall name xs _ =>
      have hopen := Word.open_after (reads_quoteIdentifier name)
      exact holds_applied_commas hP hopen (holds_renderAll hP xs hx h)
  | joined separator xs =>
      simp only [keepsApart, Bool.and_eq_true, decide_eq_true_eq] at hx
      exact holds_separated hP hx.1.1 hx.1.2 (holds_renderAll hP xs hx.2 h)
  | aggregate f distinct x =>
      have hpart : x.render.Spells (Part P) "" := .part (holds_render hP x hx h)
      have hword : Word 0 0 "DISTINCT " := by decide
      cases distinct with
      | false => exact hP.parts (.applied (word_aggregate f) hpart)
      | true => exact hP.parts (.applied (word_aggregate f) (.word_append hword hpart))
  | ordered x direction =>
      have hpart : x.render.Spells (Part P) "" := .part (holds_render hP x hx h)
      exact hP.parts (hpart.append_word (reads_direction direction)
        (parts_space.append direction.keyword))
  | untyped x => exact holds_render hP x hx h

theorem holds_renderAll {P : Fragment → Prop} (hP : Compositional P) (xs : List Term)
    (hx : allKeepApart xs = true) (h : ∀ y ∈ allEmbedded xs, P y) : ∀ x ∈ xs, P x.render := by
  cases xs with
  | nil => simp
  | cons x xs =>
      rw [allKeepApart, Bool.and_eq_true] at hx
      rw [allEmbedded, List.forall_mem_append] at h
      exact List.forall_mem_cons.mpr
        ⟨holds_render hP x hx.1 h.1, holds_renderAll hP xs hx.2 h.2⟩

end

end Term

namespace Fragment

/-- A fragment that is composed of names, values and words: an expression, an assignment or a
statement of a query, with such fragments in it. -/
inductive Composed : Fragment → Prop where
  /-- SQL that binds nothing and ends in code. -/
  | word {w : String} (h : Reads 0 0 0 w.toList) : Composed (.raw w)
  | term {x : Term} (hx : x.keepsApart = true) (h : ∀ y ∈ x.embedded, Composed y) :
      Composed x.render
  | assignment {a : Assignment} (hcolumn : Composed a.column.render)
      (hvalue : Composed a.value.render) : Composed a.render
  | statement (table : String) (clauses : List Clause) (r : Rendering)
      (h : ∀ x ∈ clauses.flatMap Clause.terms ++ r.terms, Composed x.render) :
      Composed (r.render (Query.build table clauses))

/-- Expressions without SQL written by hand are composed. -/
theorem Composed.of_isStructured {x : Term} (h : x.isStructured = true) : x.render.Composed := by
  have hx := x.keepsApart_of_isStructured h
  exact .term hx.1 (by simp [hx.2])

namespace Compositional

variable {P : Fragment → Prop} (hP : Compositional P)
include hP

theorem assignment {a : Assignment} (hcolumn : P a.column.render) (hvalue : P a.value.render) :
    P a.render :=
  hP.parts (Assignment.spells ⟨.leaf hcolumn, .leaf hvalue⟩)

theorem statement (table : String) (clauses : List Clause) (r : Rendering)
    (h : ∀ x ∈ clauses.flatMap Clause.terms ++ r.terms, P x.render) :
    P (r.render (Query.build table clauses)) := by
  have hspelled : ∀ x ∈ clauses.flatMap Clause.terms ++ r.terms, x.Spelled (Part P) :=
    fun x hx => .leaf (h x hx)
  have hclauses : ∀ c ∈ clauses, ∀ x ∈ c.terms, x.Spelled (Part P) := by
    intro c hc x hx
    exact hspelled x (List.mem_append_left _ (List.mem_flatMap_of_mem hc hx))
  exact hP.parts (Rendering.spells_text hclauses r fun x hx =>
    hspelled x (List.mem_append_right _ hx))

/-- A composed fragment has every compositional property. -/
theorem holds {x : Fragment} (h : x.Composed) : P x := by
  induction h with
  | word h => exact hP.word h
  | term hx _ ih => exact Term.holds_render hP _ hx ih
  | assignment _ _ ihcolumn ihvalue => exact hP.assignment ihcolumn ihvalue
  | statement table clauses r _ ih => exact hP.statement table clauses r ih

end Compositional

theorem Composed.delimited {x : Fragment} (h : x.Composed) : x.Delimited :=
  Delimited.compositional.holds h

/-- Composed fragments with the same SQL compile, and to the same text only where they bind the same
cells. Reals are excepted, since one that is no number is written as `NULL`. -/
theorem compile_eq_iff_cells_eq {x y : Fragment} (hx : x.Composed) (hy : y.Composed)
    (hsql : x.sql = y.sql) (hreal : ∀ cell ∈ x.cells ++ y.cells, cell.isReal = false) :
    (∃ t, x.compile = .ok t) ∧ (∃ t, y.compile = .ok t) ∧
      (x.compile = y.compile ↔ x.cells = y.cells) := by
  refine ⟨⟨_, hx.delimited.compile⟩, ⟨_, hy.delimited.compile⟩, ?_, fun hcells => ?_⟩
  · exact hx.delimited.cells_eq hy.delimited hsql hreal
  · rw [compile, compile, hsql, hcells]

theorem compile_eq_iff_cells_eq_hostile :
    (Term.userCall "f" [.value (.text "a', NULL, 'b"), .optional .text none] .untyped).compile ≠
      (Term.userCall "f" [.value (.text "a"), .value (.text "b', NULL)")] .untyped).compile := by
  intro heq
  have hcells := (compile_eq_iff_cells_eq
    (.of_isStructured (x := .userCall "f" [.value (.text "a', NULL, 'b"), .optional .text none]
      .untyped) (by decide))
    (.of_isStructured (x := .userCall "f" [.value (.text "a"), .value (.text "b', NULL)")] .untyped)
      (by decide)) rfl (by decide)).2.2.mp heq
  exact absurd hcells (by decide)

end Fragment

end TypedSql
