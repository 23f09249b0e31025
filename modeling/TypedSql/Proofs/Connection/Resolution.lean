import TypedSql.Proofs.Connection.Columns

/-!
How a column expression finds its column. Its text is taken apart into names exactly if it is
quoted names joined by dots, and then the last of them counts; any other text names nothing but
itself. The text as a whole goes before the last name in it, and of the columns with one name the
leftmost is found.
-/

namespace TypedSql

/-! ## Quoted names joined by dots -/

/-- What is read up to a closing mark is a name with its marks doubled. -/
theorem eq_of_closeIdentifier {cs name after : List Char}
    (h : closeIdentifier cs = some (name, after)) : cs = doubled '"' name ++ '"' :: after := by
  fun_induction closeIdentifier cs generalizing name after with
  | case1 => simp at h
  | case2 rest ih =>
      obtain ⟨⟨n, a⟩, hrest, he⟩ := Option.map_eq_some_iff.mp h
      cases he
      simp [doubled, ih hrest]
  | case3 rest =>
      cases h
      rfl
  | case4 c rest _ hc ih =>
      obtain ⟨⟨n, a⟩, hrest, he⟩ := Option.map_eq_some_iff.mp h
      cases he
      simp [doubled, hc, ih hrest]

def dotted (names : List (List Char)) : List Char := ['.'].intercalate (names.map (quoted '"'))

theorem dotted_cons {names : List (List Char)} (h : names ≠ []) (name : List Char) :
    dotted (name :: names) = quoted '"' name ++ '.' :: dotted names := by
  cases names with
  | nil => exact absurd rfl h
  | cons next names => simp [dotted, List.intercalate_cons_cons]

theorem lastName_dotted {names : List (List Char)} {last : List Char}
    (h : names.getLast? = some last) : lastName (dotted names) = some last := by
  induction names with
  | nil => simp at h
  | cons name names ih =>
      cases names with
      | nil =>
          obtain rfl : name = last := by simpa using h
          simpa [dotted] using lastName_quoted name
      | cons next names =>
          rw [dotted_cons (by simp), lastName_dot]
          exact ih (by simpa using h)

/-- Only quoted names joined by dots have a last name. -/
theorem exists_dotted {cs last : List Char} (h : lastName cs = some last) :
    ∃ names : List (List Char), names.getLast? = some last ∧ cs = dotted names := by
  fun_induction lastName cs generalizing last with
  | case1 rest name hclose =>
      cases h
      refine ⟨[name], rfl, ?_⟩
      simp [dotted, quoted, eq_of_closeIdentifier hclose]
  | case2 rest name more hclose ih =>
      obtain ⟨names, hlast, hmore⟩ := ih h
      have hne : names ≠ [] := by
        rintro rfl
        simp at hlast
      refine ⟨name :: names, ?_, ?_⟩
      · rw [List.getLast?_cons_of_ne_nil hne, hlast]
      · rw [dotted_cons hne, ← hmore, eq_of_closeIdentifier hclose]
        simp [quoted]
  | case3 => cases h
  | case4 => cases h

theorem lastName_eq_some_iff {cs last : List Char} :
    lastName cs = some last ↔
      ∃ names : List (List Char), names.getLast? = some last ∧ cs = dotted names :=
  ⟨exists_dotted, fun ⟨_, hlast, hcs⟩ => hcs ▸ lastName_dotted hlast⟩

theorem toList_intercalate_quoteIdentifier (segments : List String) :
    (".".intercalate (segments.map quoteIdentifier)).toList =
      dotted (segments.map String.toList) := by
  simp [dotted, quoteIdentifier, Function.comp_def]

theorem identifierTail_eq_some_iff {sql name : String} :
    identifierTail sql = some name ↔
      ∃ segments : List String, segments.getLast? = some name ∧
        sql = ".".intercalate (segments.map quoteIdentifier) := by
  rw [identifierTail, Option.map_eq_some_iff]
  constructor
  · rintro ⟨last, hlast, rfl⟩
    obtain ⟨names, hnames, hsql⟩ := lastName_eq_some_iff.mp hlast
    refine ⟨names.map String.ofList, by simp [hnames], String.toList_inj.mp ?_⟩
    rw [toList_intercalate_quoteIdentifier, hsql]
    simp [Function.comp_def]
  · rintro ⟨segments, hlast, rfl⟩
    refine ⟨name.toList, lastName_eq_some_iff.mpr ⟨segments.map String.toList, ?_, ?_⟩,
      String.ofList_toList⟩
    · simp [hlast]
    · exact toList_intercalate_quoteIdentifier segments

/-! ## The column that is found -/

namespace ResultRow

theorem position?_append {before : List String} {name : String} (h : name ∉ before)
    (after : List String) : position? (before ++ name :: after) name = some before.length := by
  rw [position?_eq_some_iff]
  refine ⟨by simp, fun j hj hname => h ?_⟩
  rw [List.getElem?_append_left hj] at hname
  exact List.mem_of_getElem? hname

theorem position?_eq_none {columns : List String} {name : String} (h : name ∉ columns) :
    position? columns name = none := List.idxOf?_eq_none_iff.mpr h

/-- A column expression is taken apart exactly if it is quoted names joined by dots, whatever the
names hold, and the last of them is its name. A row gives it the value of the leftmost column that
has its text for a name, else of the leftmost column that has its last name, else none. -/
theorem getColumn_resolved :
    (∀ sql name : String, identifierTail sql = some name ↔
      ∃ segments : List String, segments.getLast? = some name ∧
        sql = ".".intercalate (segments.map quoteIdentifier)) ∧
    (∀ name type, identifierTail (Term.column name type).sql = some name) ∧
    (∀ table name type, identifierTail (Term.qualified table name type).sql = some name) ∧
    ∀ (r : ResultRow) (sql : String) (type : ValueType) (nullable : Bool),
      (∀ before after, r.columns = before ++ sql :: after → sql ∉ before →
        r.getColumn sql type nullable = r.get before.length type nullable) ∧
      (sql ∉ r.columns →
        (∀ name, identifierTail sql = some name →
          ∀ before after, r.columns = before ++ name :: after → name ∉ before →
            r.getColumn sql type nullable = r.get before.length type nullable) ∧
        ((∀ name, identifierTail sql = some name → name ∉ r.columns) →
          r.getColumn sql type nullable = .error (.unknownColumn sql))) := by
  refine ⟨fun _ _ => identifierTail_eq_some_iff, fun name _ => identifierTail_quoteIdentifier name,
    fun table name _ => identifierTail_qualified table name, fun r sql type nullable => ⟨?_, ?_⟩⟩
  · intro before after hcolumns hfirst
    have hfound : resolve? r.columns sql = some before.length := by
      rw [resolve?, hcolumns, position?_append hfirst, Option.some_or]
    rw [getColumn, hfound]
  · intro hsql
    have hexact : position? r.columns sql = none := position?_eq_none hsql
    refine ⟨fun name htail before after hcolumns hfirst => ?_, fun hunknown => ?_⟩
    · have hfound : resolve? r.columns sql = some before.length := by
        rw [resolve?, hexact, Option.none_or, htail, Option.bind_some, hcolumns,
          position?_append hfirst]
      rw [getColumn, hfound]
    · have hfound : resolve? r.columns sql = none := by
        rw [resolve?, hexact, Option.none_or]
        cases htail : identifierTail sql with
        | none => rfl
        | some name => exact position?_eq_none (hunknown name htail)
      rw [getColumn, hfound]

/-- A name with a mark and a dot in it, behind a table without a name. -/
example : identifierTail "\"\".\"a\"\"b.c\"" = some "a\"b.c" := by decide +kernel

end ResultRow

end TypedSql
