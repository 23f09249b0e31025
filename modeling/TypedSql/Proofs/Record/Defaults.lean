import TypedSql.Proofs.Record.Decimals
import TypedSql.Proofs.Record.Derivation
import TypedSql.Proofs.Schema.Definition

/-!
What a number means that a field gives as the default of its column. It is recorded as its minus
signs, one right after the other, and a numeral. So it is the same number to the engine under one
sign at most, whereas two signs begin a comment, and the definition of the table ends with the line.
-/

namespace TypedSql

/-! ## The numbers that literals are -/

namespace Literal

def minuses : Literal → Nat
  | .negative x => x.minuses + 1
  | .text _ | .integer _ | .decimal _ | .boolean _ => 0

/-- Whether a number or a truth value stands under the signs. -/
def isNumber : Literal → Bool
  | .text _ => false
  | .integer _ | .decimal _ | .boolean _ => true
  | .negative x => x.isNumber

/-- The number that a literal is, truth as one and zero. -/
inductive Denotes : Literal → ℚ → Prop where
  | integer (n : Nat) : Denotes (.integer n) n
  | decimal (x : Sql.Numeral) : Denotes (.decimal (String.ofList x.text)) x.value
  | boolean (b : Bool) : Denotes (.boolean b) (if b then 1 else 0)
  | negative {x : Literal} {v : ℚ} (h : Denotes x v) : Denotes (.negative x) (-v)

/-- A number is written as its signs and a numeral. -/
theorem Denotes.exists_numeral {x : Literal} {v : ℚ} (h : x.Denotes v) :
    ∃ y : Sql.Numeral, x.sql.toList = List.replicate x.minuses '-' ++ y.text ∧
      v = (-1) ^ x.minuses * y.value := by
  induction h with
  | integer n =>
      refine ⟨.ofNat n, ?_, by simp [minuses, Sql.Numeral.value_ofNat]⟩
      rw [Sql.Numeral.text_ofNat]
      rfl
  | decimal y => exact ⟨y, String.toList_ofList, by simp [minuses]⟩
  | boolean b =>
      refine ⟨.ofNat (if b then 1 else 0), ?_, ?_⟩
      · rw [Sql.Numeral.text_ofNat]
        cases b <;> rfl
      · cases b <;> simp [minuses, Sql.Numeral.value_ofNat]
  | @negative x v _ ih =>
      obtain ⟨y, hsql, hv⟩ := ih
      refine ⟨y, ?_, ?_⟩
      · rw [sql, String.toList_append, hsql]
        rfl
      · rw [hv, minuses, pow_succ, mul_neg_one, neg_mul]

theorem Denotes.beginsComment {x : Literal} {v : ℚ} (h : x.Denotes v) (hk : 2 ≤ x.minuses) :
    Sql.BeginsComment x.sql.toList := by
  obtain ⟨y, hsql, -⟩ := h.exists_numeral
  obtain ⟨k, hminuses⟩ := Nat.exists_eq_add_of_le' hk
  rw [hsql, hminuses]
  exact y.beginsComment k

/-- A number under one minus sign at most is written so that it is read again, and no other is. -/
theorem Denotes.writesNumber_iff {x : Literal} {v : ℚ} (h : x.Denotes v) :
    Sql.WritesNumber x.sql.toList v ↔ x.minuses ≤ 1 := by
  constructor
  · intro hwrites
    by_contra hmany
    exact (h.beginsComment (by omega)).not_writesNumber v hwrites
  · intro hfew
    obtain ⟨y, hsql, hv⟩ := h.exists_numeral
    rw [hsql, hv]
    obtain hnone | hone : x.minuses = 0 ∨ x.minuses = 1 := by omega
    · rw [hnone]
      have hplain := y.writesNumber false
      simpa [sign] using hplain
    · rw [hone]
      have hminus := y.writesNumber true
      simpa [sign] using hminus

/-- Every number that is read is one. -/
theorem exists_denotes {x : Literal} (hx : x.isNumber = true)
    (h : ∀ digits, .decimal digits ∈ x.tokens → ∃ y : Sql.Numeral, digits = y.text) :
    ∃ v, x.Denotes v := by
  induction x with
  | text value => cases hx
  | integer n => exact ⟨_, .integer n⟩
  | decimal digits =>
      obtain ⟨y, hy⟩ := h digits.toList List.mem_cons_self
      obtain rfl : digits = String.ofList y.text := by rw [← hy, String.ofList_toList]
      exact ⟨_, .decimal y⟩
  | boolean b => exact ⟨_, .boolean b⟩
  | negative x ih =>
      obtain ⟨v, hv⟩ := ih hx fun digits hd => h digits (List.mem_cons_of_mem _ hd)
      exact ⟨_, .negative hv⟩

end Literal

/-! ## The literals of defaults -/

def ColumnMark.literal? : ColumnMark → Option Literal
  | .default value => some value
  | _ => none

/-- The literal that a field's column defaults to: the last that its marks give. -/
def lastDefault (ms : List ColumnMark) : Option Literal :=
  (ms.filterMap ColumnMark.literal?).getLast?

theorem defaultText_marked (f : Field) (ms : List ColumnMark) :
    (f.marked ms).defaultText = (lastDefault ms).map Literal.sql := by
  have hdefault : ColumnMark.default? = fun m => m.literal?.map Literal.sql := by
    funext m
    cases m <;> rfl
  rw [Field.marked, lastDefault, hdefault, ← List.map_filterMap, List.getLast?_map]

theorem mem_of_lastDefault {ms : List ColumnMark} {x : Literal} (h : lastDefault ms = some x) :
    .default x ∈ ms := by
  obtain ⟨m, hm, hx⟩ := List.mem_filterMap.mp (List.mem_of_getLast? h)
  cases m with
  | default value =>
      obtain rfl : value = x := Option.some.inj hx
      exact hm
  | _ => cases hx

theorem Spelled.mem {M : Type} {spell : M → List Token} {ms : List M} {tokens : List Token}
    (h : Spelled spell ms tokens) {m : M} (hm : m ∈ ms) {t : Token} (ht : t ∈ spell m) :
    t ∈ tokens := by
  induction h with
  | nil => cases hm
  | last n =>
      obtain rfl := List.mem_singleton.mp hm
      exact ht
  | cons n _ ih =>
      rcases List.mem_cons.mp hm with rfl | hm
      · exact List.mem_append_left _ ht
      · exact List.mem_append_right _ (List.mem_cons_of_mem _ (ih hm))

/-- Whatever number a field may give as a default is one. -/
theorem Field.Says.exists_denotes {f : Field} {ms : List ColumnMark} (h : f.Says ms) {x : Literal}
    (hx : .default x ∈ ms) (hnumber : x.isNumber = true) : ∃ v, x.Denotes v := by
  obtain ⟨-, mss, hmss, rfl⟩ := h
  obtain ⟨said, hsaid, hx⟩ := List.mem_flatten.mp hx
  obtain ⟨i, hi, rfl⟩ := List.getElem_of_mem hsaid
  have hmarks := hmss.get (by rwa [hmss.length_eq]) hi
  obtain ⟨-, hnone⟩ | ⟨arguments, tokens, -, htokens, hspelled⟩ := hmarks
  · rw [List.get_eq_getElem] at hnone
    rw [hnone] at hx
    cases hx
  · refine Literal.exists_denotes hnumber fun digits hd => ?_
    have hdefault : .decimal digits ∈ (ColumnMark.default x).tokens :=
      List.mem_cons_of_mem _ (List.mem_cons_of_mem _ hd)
    have hmem : .decimal digits ∈ tokens := hspelled.mem hx hdefault
    exact Token.exists_numeral_of_readAll htokens hmem

/-! ## Defaults in definitions -/

/-- The definition of a column up to the text of its default. -/
def ColumnSchema.upToDefault (c : ColumnSchema) : String :=
  quoteIdentifier c.name ++ declaration c.type c.nullable c.primaryKey c.autoincrement c.unique ++
    " DEFAULT "

namespace ColumnSchema

variable {c : ColumnSchema}

theorem sql_definition {text : String} (h : c.defaultText = some text) :
    c.definition.sql = c.upToDefault ++ text := by
  rw [definition, h, upToDefault, Fragment.sql_raw]
  simp only [String.append_assoc]

theorem reads_declared : Reads 0 0 0 (quoteIdentifier c.name ++
    declaration c.type c.nullable c.primaryKey c.autoincrement c.unique).toList :=
  (reads_quoteIdentifier c.name).append_option (reads_declaration ..) (.inr (parts_declaration ..))

theorem word_upToDefault : Word 0 0 c.upToDefault := by
  have hword : Word 0 0 " DEFAULT " := by decide
  refine ⟨reads_declared.append_option hword.reads (.inr (by decide)), ?_⟩
  rw [upToDefault, String.toList_append]
  exact after_append_boundary reads_declared.ends (by decide)

/-- A column is code if its default is. -/
theorem reads_definition (h : ∀ text ∈ c.defaultText, Reads 0 0 0 text.toList) :
    Reads 0 0 0 c.definition.sql.toList := by
  cases htext : c.defaultText with
  | none =>
      have hnone : c.definition.sql = quoteIdentifier c.name ++
          declaration c.type c.nullable c.primaryKey c.autoincrement c.unique := by
        rw [definition, htext]
        exact String.append_empty
      rw [hnone]
      exact reads_declared
  | some text =>
      rw [sql_definition htext, String.toList_append]
      exact word_upToDefault.reads.append (h text htext) (.inl word_upToDefault.settled)

end ColumnSchema

/-- The columns before another one, each with the comma after it. -/
def columnsBefore (columns : List ColumnSchema) : List Char :=
  columns.flatMap fun c => (c.definition.sql ++ ", ").toList

/-- The columns after another one, each with the comma before it, and the end of a definition. -/
def columnsAfter (columns : List ColumnSchema) : List Char :=
  (columns.flatMap fun c => (", " ++ c.definition.sql).toList) ++ [')']

theorem endsDefault_columnsAfter (columns : List ColumnSchema) :
    Sql.EndsDefault (columnsAfter columns) := by
  cases columns with
  | nil =>
      rintro _ ⟨⟩
      exact .inr rfl
  | cons c columns =>
      intro d hd
      rw [columnsAfter, List.flatMap_cons, String.toList_append] at hd
      obtain rfl : d = ',' := (Option.some.inj hd).symm
      exact .inl rfl

theorem after_columnsBefore {columns : List ColumnSchema}
    (h : ∀ c ∈ columns, Reads 0 0 0 c.definition.sql.toList) :
    Mode.code.after (columnsBefore columns) = .code := by
  induction columns with
  | nil => rfl
  | cons c columns ih =>
      have hc : Mode.code.after (c.definition.sql ++ ", ").toList = .code := by
        rw [String.toList_append]
        exact after_append_boundary (h c List.mem_cons_self).ends (by decide)
      rw [columnsBefore, List.flatMap_cons, Mode.after_append, hc]
      exact ih fun d hd => h d (List.mem_cons_of_mem c hd)

theorem toList_intercalate_cons (x : String) (xs : List String) :
    (", ".intercalate (x :: xs)).toList = x.toList ++ xs.flatMap fun y => (", " ++ y).toList := by
  induction xs generalizing x with
  | nil => simp
  | cons y ys ih =>
      rw [String.intercalate_cons_cons, String.toList_append, String.toList_append, ih,
        List.flatMap_cons, String.toList_append]
      simp only [List.append_assoc]

/-- The columns of a definition, with one of them told apart. -/
theorem toList_intercalate_columns (before : List ColumnSchema) (c : ColumnSchema)
    (after : List ColumnSchema) :
    (", ".intercalate ((before ++ c :: after).map (·.definition.sql))).toList ++ [')'] =
      columnsBefore before ++ (c.definition.sql.toList ++ columnsAfter after) := by
  induction before with
  | nil =>
      rw [List.nil_append, List.map_cons, toList_intercalate_cons, List.flatMap_map,
        List.append_assoc, columnsBefore, List.flatMap_nil, List.nil_append, columnsAfter]
  | cons b before ih =>
      obtain ⟨d, ds, hds⟩ : ∃ d ds, before ++ c :: after = d :: ds := by
        cases before <;> exact ⟨_, _, rfl⟩
      rw [hds, List.map_cons] at ih
      rw [List.cons_append, hds, List.map_cons, List.map_cons, String.intercalate_cons_cons,
        String.toList_append, List.append_assoc, ih, columnsBefore, columnsBefore,
        List.flatMap_cons, List.append_assoc]

namespace CreateTable

def openingText (table : String) : String := "CREATE TABLE " ++ quoteIdentifier table ++ " ("

theorem word_openingText (table : String) : Word 0 1 (openingText table) := by
  have hhead := word_head table false
  rw [if_neg Bool.false_ne_true, String.append_empty] at hhead
  exact hhead

theorem text_eq (table : String) (columns : List String) :
    text table false columns = openingText table ++ ", ".intercalate columns ++ ")" := by
  unfold text openingText
  rw [if_neg Bool.false_ne_true, String.append_empty]

theorem toList_ofSchema (t : TableSchema) : (ofSchema t).render.sql.toList =
    (openingText t.name).toList ++
      ((", ".intercalate (t.columns.map (·.definition.sql))).toList ++ [')']) := by
  have hsql : (ofSchema t).render.sql = text t.name false _ :=
    sql_render t.name false (t.columns.map ColumnSchema.definition)
  rw [text_eq, List.map_map] at hsql
  rw [hsql, String.toList_append, String.toList_append, List.append_assoc]
  rfl

/-- Where the default of a column stands in the definition of its table: after code, if the columns
before it are code. -/
theorem exists_upTo {t : TableSchema} {before after : List ColumnSchema} {c : ColumnSchema}
    (ht : t.columns = before ++ c :: after) {text : String} (htext : c.defaultText = some text)
    (hbefore : ∀ b ∈ before, ∀ text ∈ b.defaultText, Reads 0 0 0 text.toList) :
    ∃ upTo, (ofSchema t).render.sql.toList = upTo ++ (text.toList ++ columnsAfter after) ∧
      Mode.code.after upTo = .code := by
  have hreads := fun b hb => ColumnSchema.reads_definition (hbefore b hb)
  have hcolumns := toList_intercalate_columns before c after
  rw [ColumnSchema.sql_definition htext, String.toList_append, ← ht] at hcolumns
  refine ⟨(openingText t.name).toList ++ columnsBefore before ++ c.upToDefault.toList, ?_, ?_⟩
  · rw [toList_ofSchema, hcolumns]
    simp only [List.append_assoc]
  · rw [Mode.after_append, Mode.after_append, (word_openingText t.name).settled,
      after_columnsBefore hreads]
    exact ColumnSchema.word_upToDefault.settled

end CreateTable

/-! ## Derived defaults -/

/-- What becomes of a number that is the default of a column. Its text is the number again if one
minus sign at most stands before it, and a comment otherwise. -/
structure Literal.Recorded (x : Literal) (c : ColumnSchema) : Prop where
  text : c.defaultText = some x.sql
  denotes : ∃ v, x.Denotes v
  writes : ∀ v, x.Denotes v → (Sql.WritesNumber x.sql.toList v ↔ x.minuses ≤ 1)
  comment : 2 ≤ x.minuses → Sql.BeginsComment x.sql.toList

/-- Where a default stands in the definition of its table: code leads up to it, and what comes after
it, which is what ends a default, is code again, or else still the comment that it began. -/
structure Literal.Placed (x : Literal) (after : List ColumnSchema) (sql upTo : List Char) :
    Prop where
  split : sql = upTo ++ (x.sql.toList ++ columnsAfter after)
  ends : Sql.EndsDefault (columnsAfter after)
  before : Mode.code.after upTo = .code
  after : Mode.code.after (upTo ++ x.sql.toList) = if x.minuses ≤ 1 then .code else .lineComment

theorem Field.Says.recorded {f : Field} {ms : List ColumnMark} (h : f.Says ms) {x : Literal}
    (hx : lastDefault ms = some x) (hnumber : x.isNumber = true) : x.Recorded (f.marked ms) := by
  obtain ⟨v, hv⟩ := h.exists_denotes (mem_of_lastDefault hx) hnumber
  refine ⟨?_, ⟨v, hv⟩, fun _ hw => hw.writesNumber_iff, hv.beginsComment⟩
  rw [defaultText_marked, hx]
  rfl

namespace Literal.Recorded

variable {x : Literal} {c : ColumnSchema}

theorem after_sql (h : x.Recorded c) :
    Mode.code.after x.sql.toList = if x.minuses ≤ 1 then .code else .lineComment := by
  obtain ⟨v, hv⟩ := h.denotes
  split
  · rename_i hfew
    exact ((h.writes v hv).mpr hfew).code.settled
  · exact (h.comment (by omega)).opens

theorem exists_placed (h : x.Recorded c) {t : TableSchema} {before after : List ColumnSchema}
    (ht : t.columns = before ++ c :: after)
    (hbefore : ∀ b ∈ before, ∀ text ∈ b.defaultText, Reads 0 0 0 text.toList) :
    ∃ upTo, x.Placed after (CreateTable.ofSchema t).render.sql.toList upTo := by
  obtain ⟨upTo, hsplit, hcode⟩ := CreateTable.exists_upTo ht h.text hbefore
  refine ⟨upTo, hsplit, endsDefault_columnsAfter after, hcode, ?_⟩
  rw [Mode.after_append, hcode, h.after_sql]

end Literal.Recorded

namespace Description

theorem zipWith_marked {fields : List Field} {marks : List (List ColumnMark)}
    {before after : List (Field × List ColumnMark)} {f : Field} {ms : List ColumnMark}
    (h : fields.zip marks = before ++ (f, ms) :: after) :
    List.zipWith Field.marked fields marks =
      before.map (fun p => p.1.marked p.2) ++ f.marked ms :: after.map fun p => p.1.marked p.2 := by
  rw [← List.map_uncurry_zip_eq_zipWith, h, List.map_append, List.map_cons]
  rfl

/-- A number under minus signs that is accepted as a default is recorded as the number that it is if
there is one sign at most. With more of them its text is a comment: nothing that comes after it on
its line is left of the definition, and the columns that follow are no part of it. -/
theorem Says.default_number {d : Description} {names : List String} {fields : List Field}
    {marks : List (List ColumnMark)} (h : d.Says names fields marks)
    {before after : List (Field × List ColumnMark)} {f : Field} {ms : List ColumnMark}
    (hfields : fields.zip marks = before ++ (f, ms) :: after) {x : Literal}
    (hx : lastDefault ms = some x) (hnumber : x.isNumber = true) :
    ∃ t, d.derive = .ok t ∧
      t.schema.columns = before.map (fun p => p.1.marked p.2) ++
        f.marked ms :: after.map (fun p => p.1.marked p.2) ∧
      x.Recorded (f.marked ms) ∧
      ((∀ p ∈ before, ∀ text ∈ (p.1.marked p.2).defaultText, Reads 0 0 0 text.toList) →
        ∃ upTo, x.Placed (after.map fun p => p.1.marked p.2)
          t.createTable.render.sql.toList upTo) := by
  have hderive := (derive_eq_ok_iff d _).mpr ⟨names, fields, marks, h, rfl⟩
  have hcolumns := zipWith_marked hfields
  have hsays : f.Says ms := by
    have hmem : (f, ms) ∈ fields.zip marks := by simp [hfields]
    exact (List.forall₂_iff_zip.mp h.marked).2 hmem
  have hrecorded := hsays.recorded hx hnumber
  refine ⟨_, hderive, hcolumns, hrecorded, fun hbefore => ?_⟩
  apply hrecorded.exists_placed hcolumns
  intro b hb
  obtain ⟨p, hp, rfl⟩ := List.mem_map.mp hb
  exact hbefore p hp

/-- A number that is negated twice takes the next column with it. -/
theorem default_number_negated_twice :
    ∃ t, (Description.mk "Row" [] (.record [⟨"n", .integer, false, [.list "default = - -1"]⟩,
        ⟨"m", .text, false, []⟩])).derive = .ok t ∧ ¬ Sql.WritesNumber "--1".toList 1 ∧
      ∃ upTo, t.createTable.render.sql.toList = upTo ++ "--1, \"m\" TEXT NOT NULL)".toList ∧
        Mode.code.after (upTo ++ "--1".toList) = .lineComment := by
  have hmarks : (Attribute.list "default = - -1").Marks
      [.default (.negative (.negative (.integer 1)))] :=
    .inr ⟨_, _, rfl, by decide +kernel, .last _⟩
  have hsays : (Description.mk "Row" [] (.record
      [⟨"n", .integer, false, [.list "default = - -1"]⟩, ⟨"m", .text, false, []⟩])).Says []
      [⟨"n", .integer, false, [.list "default = - -1"]⟩, ⟨"m", .text, false, []⟩]
      [[.default (.negative (.negative (.integer 1)))], []] :=
    { named := ⟨[], .nil, rfl⟩
      item := rfl
      marked := .cons ⟨by decide, [_], .cons hmarks .nil, rfl⟩
        (.cons ⟨by decide, [], .nil, rfl⟩ .nil)
      key := by decide }
  have hfields : List.zip
      [⟨"n", .integer, false, [.list "default = - -1"]⟩, ⟨"m", .text, false, []⟩]
      [[ColumnMark.default (.negative (.negative (.integer 1)))], []] =
      [] ++ ((⟨"n", .integer, false, [.list "default = - -1"]⟩ : Field),
        [.default (.negative (.negative (.integer 1)))]) :: [(⟨"m", .text, false, []⟩, [])] := rfl
  have hlast : lastDefault [.default (.negative (.negative (.integer 1)))] =
      some (.negative (.negative (.integer 1))) := rfl
  obtain ⟨t, hderive, -, hrecorded, hplaced⟩ := hsays.default_number hfields hlast rfl
  obtain ⟨upTo, hupTo⟩ := hplaced nofun
  refine ⟨t, hderive, fun hwrites => ?_, upTo, hupTo.split, hupTo.after⟩
  have hdenotes : (Literal.negative (.negative (.integer 1))).Denotes 1 := by
    have hinteger := Literal.Denotes.negative (.negative (.integer 1))
    rwa [neg_neg, Nat.cast_one] at hinteger
  have hfew := (hrecorded.writes 1 hdenotes).mp hwrites
  revert hfew
  decide

end Description

end TypedSql
