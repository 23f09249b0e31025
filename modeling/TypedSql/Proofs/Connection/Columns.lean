import Mathlib.Data.List.Forall2
import TypedSql.Connection.ResultRow
import TypedSql.Term.Render

/-!
Which value of a row a selected expression is given. Columns are found by their names only: an
expression is given its own value when no column before its own has the same name, and when no
column is called by its very text, unless its own column is.
-/

namespace TypedSql

/-! ## The last name of a quoted reference -/

/-- A name is read back up to its closing mark. -/
theorem closeIdentifier_doubled {rest : List Char} (h : rest.head? ≠ some '"') (name : List Char) :
    closeIdentifier (doubled '"' name ++ '"' :: rest) = some (name, rest) := by
  induction name with
  | nil =>
      rw [doubled, List.nil_append, closeIdentifier]
      · rfl
      · rintro more - rfl
        simp at h
  | cons c name ih =>
      by_cases hc : c = '"'
      · subst hc
        simp [doubled, closeIdentifier, ih]
      · rw [doubled, if_neg hc, List.cons_append, closeIdentifier, if_neg hc, ih]
        · rfl
        · rintro more rfl
          exact absurd rfl hc

theorem lastName_quoted (name : List Char) : lastName (quoted '"' name) = some name := by
  have hclose : closeIdentifier (doubled '"' name ++ ['"']) = some (name, []) :=
    closeIdentifier_doubled (by simp) name
  rw [quoted, lastName]
  split <;> simp_all

/-- A name before a dot does not count. -/
theorem lastName_dot (name more : List Char) :
    lastName (quoted '"' name ++ '.' :: more) = lastName more := by
  have hclose : closeIdentifier (doubled '"' name ++ '"' :: '.' :: more) = some (name, '.' :: more) :=
    closeIdentifier_doubled (by simp) name
  have hopen : quoted '"' name ++ '.' :: more = '"' :: (doubled '"' name ++ '"' :: '.' :: more) := by
    simp [quoted]
  rw [hopen, lastName]
  split <;> simp_all

theorem identifierTail_quoteIdentifier (name : String) :
    identifierTail (quoteIdentifier name) = some name := by
  rw [identifierTail, quoteIdentifier, String.toList_ofList, lastName_quoted, Option.map_some,
    String.ofList_toList]

theorem identifierTail_qualified (table name : String) :
    identifierTail (quoteIdentifier table ++ "." ++ quoteIdentifier name) = some name := by
  have hsql : (quoteIdentifier table ++ "." ++ quoteIdentifier name).toList =
      quoted '"' table.toList ++ '.' :: quoted '"' name.toList := by
    simp [quoteIdentifier]
  rw [identifierTail, hsql, lastName_dot, lastName_quoted, Option.map_some, String.ofList_toList]

/-! ## The columns of selected expressions -/

/-- How the engine calls the column of a selected expression: a quoted name is called so without
its marks and without the table that qualifies it, anything else as it is written. -/
inductive NamedAs : String → String → Prop where
  | plain (name : String) : NamedAs (quoteIdentifier name) name
  | qualified (table name : String) :
      NamedAs (quoteIdentifier table ++ "." ++ quoteIdentifier name) name
  | computed {sql : String} (hplain : ∀ name, sql ≠ quoteIdentifier name)
      (hqualified : ∀ table name, sql ≠ quoteIdentifier table ++ "." ++ quoteIdentifier name) :
      NamedAs sql sql

/-- A column is called by the text of its expression or by the last name in it. -/
theorem NamedAs.eq_or_identifierTail {sql column : String} (h : NamedAs sql column) :
    column = sql ∨ identifierTail sql = some column := by
  cases h with
  | plain => exact .inr (identifierTail_quoteIdentifier column)
  | qualified table => exact .inr (identifierTail_qualified table column)
  | computed => exact .inl rfl

/-- Text that begins with no mark names no column by itself. -/
theorem NamedAs.of_head {sql : String} (h : sql.toList.head? ≠ some '"') : NamedAs sql sql := by
  refine .computed ?_ ?_
  · rintro name rfl
    simp [quoteIdentifier, quoted] at h
  · rintro table name rfl
    simp [quoteIdentifier, quoted] at h

namespace ResultRow

/-- A name is found at its first place. -/
theorem position?_eq_some_iff {columns : List String} {name : String} {i : Nat} :
    position? columns name = some i ↔
      columns[i]? = some name ∧ ∀ j < i, columns[j]? ≠ some name := by
  simp only [position?, List.idxOf?_eq_some_iff, List.getElem?_eq_some_iff, ne_eq, not_exists]
  constructor
  · rintro ⟨hi, hname, hfirst⟩
    exact ⟨⟨hi, hname⟩, fun j hj _ => hfirst j hj⟩
  · rintro ⟨⟨hi, hname⟩, hfirst⟩
    exact ⟨hi, hname, fun j hj => hfirst j hj _⟩

/-- An expression is found where its own column is, if its name is met there first and if its text
is the name of no other column. -/
theorem resolve?_eq_some_iff {columns : List String} {sql column : String} {i : Nat}
    (hcolumn : columns[i]? = some column) (h : NamedAs sql column) :
    resolve? columns sql = some i ↔
      (∀ j < i, columns[j]? ≠ columns[i]?) ∧ (sql ∈ columns → columns[i]? = some sql) := by
  by_cases hsql : sql ∈ columns
  · have hexact : (position? columns sql).isSome := by
      rw [Option.isSome_iff_ne_none, position?, ne_eq, List.idxOf?_eq_none_iff, not_not]
      exact hsql
    rw [resolve?, Option.or_of_isSome hexact, position?_eq_some_iff]
    constructor
    · rintro ⟨hi, hfirst⟩
      exact ⟨hi ▸ hfirst, fun _ => hi⟩
    · rintro ⟨hfirst, hi⟩
      exact ⟨hi hsql, hi hsql ▸ hfirst⟩
  · have htail : identifierTail sql = some column := by
      refine h.eq_or_identifierTail.resolve_left ?_
      rintro rfl
      exact hsql (List.mem_of_getElem? hcolumn)
    have hnone : position? columns sql = none := List.idxOf?_eq_none_iff.mpr hsql
    rw [resolve?, hnone, Option.none_or, htail, Option.bind_some, position?_eq_some_iff, hcolumn]
    simp [hsql]

/-- Some row tells a column from all others. -/
theorem exists_row_apart (columns : List String) {i : Nat} (hi : i < columns.length) :
    ∃ r : ResultRow, r.columns = columns ∧ r.size = columns.length ∧
      (∃ value, r.get i .integer false = .ok value) ∧
      ∀ j, j ≠ i → ∀ value, r.get j .integer false ≠ .ok value := by
  refine ⟨⟨columns, (List.replicate columns.length none).set i (some (.integer 0))⟩, rfl,
    by simp [size], ⟨some (.integer 0), ?_⟩, fun j hj value => ?_⟩
  · rw [get, List.getElem?_set_self (by simpa using hi)]
    rfl
  · rw [get, List.getElem?_set_ne hj.symm, List.getElem?_replicate]
    by_cases hlt : j < columns.length
    · rw [if_pos hlt]
      simp [ValueType.readCell]
    · rw [if_neg hlt]
      simp

/-- Selected expressions and the names of the columns that the engine gives them. -/
def Selected (xs : List Fragment) (columns : List String) : Prop :=
  List.Forall₂ (fun x column => NamedAs x.sql column) xs columns

/-- The rows of a selection give an expression the value of its own column, whatever they hold and
whatever it is read as, exactly when no earlier column has the name of its column and no other
column has its text for a name. -/
theorem getColumn_eq_get_iff {xs : List Fragment} {columns : List String}
    (h : Selected xs columns) {i : Nat} (hi : i < xs.length) :
    (∀ r : ResultRow, r.columns = columns → r.size = xs.length → ∀ type nullable,
        r.getColumn xs[i].sql type nullable = r.get i type nullable) ↔
      (∀ j < i, columns[j]? ≠ columns[i]?) ∧
        (xs[i].sql ∈ columns → columns[i]? = some xs[i].sql) := by
  have hlen : i < columns.length := h.length_eq ▸ hi
  have hnamed : NamedAs xs[i].sql columns[i] := h.get hi hlen
  rw [← resolve?_eq_some_iff (List.getElem?_eq_getElem hlen) hnamed]
  constructor
  · intro hall
    obtain ⟨r, hcolumns, hsize, ⟨value, hvalue⟩, hother⟩ := exists_row_apart columns hlen
    have hsame := hall r hcolumns (hsize.trans h.length_eq.symm) .integer false
    rw [hvalue, getColumn, hcolumns] at hsame
    cases hr : resolve? columns xs[i].sql with
    | none => simp [hr] at hsame
    | some j =>
        by_cases hj : j = i
        · rw [hj]
        · rw [hr] at hsame
          exact absurd hsame (hother j hj value)
  · rintro hfound r rfl - type nullable
    rw [getColumn, hfound]

theorem getColumn_eq_get_iff_qualified :
    let xs := [(Term.column "id" .untyped).render, (Term.qualified "u" "name" .untyped).render]
    Selected xs ["id", "name"] ∧ 1 < xs.length ∧
      ∀ r : ResultRow, r.columns = ["id", "name"] → r.size = 2 → ∀ type nullable,
        r.getColumn "\"u\".\"name\"" type nullable = r.get 1 type nullable :=
  have hnamed : Selected
      [(Term.column "id" .untyped).render, (Term.qualified "u" "name" .untyped).render]
      ["id", "name"] := .cons (.plain "id") (.cons (.qualified "u" "name") .nil)
  ⟨hnamed, by decide, (getColumn_eq_get_iff hnamed (i := 1) (by decide)).mpr
    ⟨by decide, by decide⟩⟩

/-- Two bound values are written alike, and the second is given the value of the first. -/
theorem getColumn_bound_leftmost :
    let xs := [(Term.value (.integer 1)).render, (Term.value (.integer 2)).render]
    let r : ResultRow := ⟨["?", "?"], [some (.integer 1), some (.integer 2)]⟩
    xs.Nodup ∧ Selected xs r.columns ∧ r.size = xs.length ∧
      r.get 1 .integer false = .ok (some (.integer 2)) ∧
      r.getColumn xs[1].sql .integer false = .ok (some (.integer 1)) :=
  ⟨by decide, .cons (.of_head (by decide)) (.cons (.of_head (by decide)) .nil), rfl, rfl, rfl⟩

end ResultRow

end TypedSql
