import Mathlib.Data.List.Nodup
import TypedSql.Proofs.Connection.Columns
import TypedSql.Proofs.Record.Derivation

/-!
Whether the columns of a derived table are told apart by their names. A column is called by the last
name that the attributes of its field give, or else as the field is; nothing keeps two fields from
being given one name. A name finds the first of its columns, so the others are never found, and
their accessors read the first one.
-/

namespace TypedSql

theorem quoteIdentifier_injective : Function.Injective quoteIdentifier := by
  intro a b h
  have htail := congrArg identifierTail h
  rw [identifierTail_quoteIdentifier, identifierTail_quoteIdentifier] at htail
  exact Option.some.inj htail

/-- Each element stands first among its equals exactly if it has none. -/
theorem nodup_iff_idxOf {α : Type} [DecidableEq α] {xs : List α} :
    xs.Nodup ↔ ∀ i (hi : i < xs.length), xs.idxOf xs[i] = i := by
  constructor
  · intro h i hi
    exact h.idxOf_getElem i hi
  · intro h
    rw [List.nodup_iff_injective_get]
    intro i j hij
    have hi := h i i.isLt
    have hj := h j j.isLt
    rw [List.get_eq_getElem, List.get_eq_getElem] at hij
    rw [hij] at hi
    exact Fin.ext (hi.symm.trans hj)

namespace TableSchema

/-- A name finds the first column that has it, if any does. -/
theorem column?_eq_getElem? (t : TableSchema) (name : String) :
    t.column? name = t.columns[t.columnNames.idxOf name]? := by
  rw [column?, List.find?_eq_getElem?_findIdx, columnNames, List.idxOf, List.findIdx_map]
  rfl

/-- Where no two columns have the same name, each is found by its own. -/
theorem column?_name_of_nodup {t : TableSchema} (h : t.columnNames.Nodup) {i : Nat}
    {c : ColumnSchema} (hc : t.columns[i]? = some c) : t.column? c.name = some c := by
  obtain ⟨hi, rfl⟩ := List.getElem?_eq_some_iff.mp hc
  have hlength : i < t.columnNames.length := by
    rw [columnNames, List.length_map]
    exact hi
  have hname : t.columnNames[i] = t.columns[i].name := List.getElem_map _
  rw [column?_eq_getElem?, ← hname, h.idxOf_getElem i hlength, hc]

end TableSchema

def Field.givenName (f : Field) (ms : List ColumnMark) : String :=
  (ms.filterMap ColumnMark.name?).getLast?.getD f.name

namespace Description

variable {d : Description} {names : List String} {fields : List Field}
  {marks : List (List ColumnMark)}

theorem columns_described :
    (d.described names fields marks).columns = List.zipWith Field.givenName fields marks := by
  simp only [described, List.map_zipWith]
  rfl

/-- Fields that are given no names keep their own. -/
theorem zipWith_givenName (hmarked : List.Forall₂ Field.Says fields marks)
    (h : ∀ ms ∈ marks, ∀ m ∈ ms, m.name? = none) :
    List.zipWith Field.givenName fields marks = fields.map (·.name) := by
  induction hmarked with
  | nil => rfl
  | @cons f ms fields marks _ _ ih =>
      have hnone : ms.filterMap ColumnMark.name? = [] :=
        List.filterMap_eq_nil_iff.mpr (h ms List.mem_cons_self)
      have hrest := ih fun ms' hms' => h ms' (List.mem_cons_of_mem ms hms')
      rw [List.zipWith_cons_cons, hrest, Field.givenName, hnone]
      rfl

end Description

namespace DerivedTable

variable {t : DerivedTable} {fields : List Field}

theorem Agrees.accessorSql (h : t.Agrees fields) :
    t.accessors.map (fun a => a.term.render.sql) = t.columns.map quoteIdentifier := by
  rw [← h.columns, List.map_map]
  refine List.map_congr_left fun a ha => ?_
  exact congrArg Fragment.sql (h.sql a ha)

/-- How far names tell columns apart. A name finds the first column that has it. So each column is
found at its own place, and each accessor reads a column of its own, exactly if all names are
different. -/
structure NamedApart (t : DerivedTable) : Prop where
  found : ∀ name, t.schema.column? name = t.schema.columns[t.columns.idxOf name]?
  places : t.columns.Nodup ↔ ∀ i (hi : i < t.columns.length), t.columns.idxOf t.columns[i] = i
  columns : t.columns.Nodup → ∀ (i : Nat) (c : ColumnSchema), t.schema.columns[i]? = some c →
    t.schema.column? c.name = some c
  accessors : t.columns.Nodup ↔ (t.accessors.map fun a => a.term.render.sql).Nodup

theorem Agrees.namedApart (h : t.Agrees fields) : t.NamedApart where
  found name := by
    rw [← h.schema]
    exact t.schema.column?_eq_getElem? name
  places := nodup_iff_idxOf
  columns hnodup i c hc := by
    rw [← h.schema] at hnodup
    exact TableSchema.column?_name_of_nodup hnodup hc
  accessors := by
    rw [h.accessorSql]
    exact (List.nodup_map_iff quoteIdentifier_injective).symm

end DerivedTable

namespace Description

/-- The columns of a derived table have the names that their fields are given, and are told apart by
them exactly if those are different. Where no names are given the fields keep their own. -/
theorem derive_namedApart {d : Description} {t : DerivedTable} (h : d.derive = .ok t) :
    t.NamedApart ∧ ∃ names fields marks, d.Says names fields marks ∧
      t.columns = List.zipWith Field.givenName fields marks ∧
      ((∀ ms ∈ marks, ∀ m ∈ ms, m.name? = none) → t.columns = fields.map (·.name)) := by
  obtain ⟨names, fields, marks, hsays, rfl⟩ := (derive_eq_ok_iff d t).mp h
  have hnamed := DerivedTable.Agrees.namedApart hsays.agrees
  refine ⟨hnamed, names, fields, marks, hsays, columns_described, fun hown => ?_⟩
  rw [columns_described, zipWith_givenName hsays.marked hown]

/-- Two fields that take each other's names. -/
theorem derive_namedApart_exchanged :
    ∃ t : DerivedTable, (Description.mk "Row" [] (.record
        [⟨"a", .integer, false, [.list "name = \"b\""]⟩,
          ⟨"b", .text, true, [.list "name = \"a\""]⟩])).derive = .ok t ∧
      t.columns = ["b", "a"] ∧ t.schema.column? "a" = t.schema.columns[1]? ∧
      (t.accessors.map fun a => a.term.render.sql).Nodup := by
  have hderive : (Description.mk "Row" [] (.record
      [⟨"a", .integer, false, [.list "name = \"b\""]⟩,
        ⟨"b", .text, true, [.list "name = \"a\""]⟩])).derive =
      .ok
        { typeName := "RowTable"
          tableName := "row"
          columns := ["b", "a"]
          primaryKey := none
          schema := ⟨"row", [{ name := "b", type := .integer, nullable := false },
            { name := "a", type := .text, nullable := true }]⟩
          accessors := [⟨"a", .value .integer false, "b"⟩, ⟨"b", .value .text true, "a"⟩] } := by
    decide +kernel
  have hnamed := (derive_namedApart hderive).1
  refine ⟨_, hderive, rfl, hnamed.found "a", hnamed.accessors.mp ?_⟩
  decide

/-- Two fields may be given one name. -/
theorem derive_one_name :
    ∃ t : DerivedTable, (Description.mk "Row" [] (.record
        [⟨"a", .integer, false, [.list "name = \"x\""]⟩,
          ⟨"b", .text, true, [.list "name = \"x\""]⟩])).derive = .ok t ∧
      ¬ t.columns.Nodup ∧
      ¬ (∀ (i : Nat) (c : ColumnSchema), t.schema.columns[i]? = some c →
        t.schema.column? c.name = some c) ∧
      ¬ (t.accessors.map fun a => a.term.render.sql).Nodup := by
  refine ⟨
    { typeName := "RowTable"
      tableName := "row"
      columns := ["x", "x"]
      primaryKey := none
      schema := ⟨"row", [{ name := "x", type := .integer, nullable := false },
        { name := "x", type := .text, nullable := true }]⟩
      accessors := [⟨"a", .value .integer false, "x"⟩, ⟨"b", .value .text true, "x"⟩] },
    by decide +kernel, by decide, fun h => ?_, by decide⟩
  have hfirst := h 1 _ rfl
  revert hfirst
  decide

end Description

end TypedSql
