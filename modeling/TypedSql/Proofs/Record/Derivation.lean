import Mathlib.Data.List.Forall2
import TypedSql.Proofs.Record.Marks

namespace TypedSql

/-! ## The first error of a list -/

/-- An element of the list fails with the error, and none before it fails. -/
inductive FirstError {α ε : Type} (Fails : α → ε → Prop) (e : ε) : List α → Prop where
  | here {x : α} {xs : List α} (h : Fails x e) : FirstError Fails e (x :: xs)
  | later {x : α} {xs : List α} (hx : ∀ e', ¬ Fails x e') (h : FirstError Fails e xs) :
      FirstError Fails e (x :: xs)

theorem bind_eq_error_iff {ε α β : Type} {x : Except ε α} {f : α → Except ε β} {e : ε} :
    (x >>= f) = .error e ↔ x = .error e ∨ ∃ a, x = .ok a ∧ f a = .error e := by
  cases x <;> simp [bind, Except.bind]

section

variable {α β ε : Type} {Fails : α → ε → Prop} {e : ε}

theorem not_firstError_nil : ¬ FirstError Fails e [] := nofun

theorem firstError_cons_iff {x : α} {xs : List α} :
    FirstError Fails e (x :: xs) ↔ Fails x e ∨ (∀ e', ¬ Fails x e') ∧ FirstError Fails e xs := by
  constructor
  · intro h
    cases h with
    | here hx => exact .inl hx
    | later hx hxs => exact .inr ⟨hx, hxs⟩
  · rintro (hx | ⟨hx, hxs⟩)
    · exact .here hx
    · exact .later hx hxs

theorem mapM_eq_ok_iff {f : α → Except ε β} {xs : List α} {ys : List β} :
    xs.mapM f = .ok ys ↔ List.Forall₂ (fun x y => f x = .ok y) xs ys := by
  induction xs generalizing ys with
  | nil =>
      rw [List.mapM_nil, List.forall₂_nil_left_iff]
      exact ⟨fun h => (Except.ok.inj h).symm, fun h => h ▸ rfl⟩
  | cons x xs ih =>
      rw [List.mapM_cons, List.forall₂_cons_left_iff]
      constructor
      · intro h
        obtain ⟨y, hy, h⟩ := ok_of_bind h
        obtain ⟨rest, hrest, h⟩ := ok_of_bind h
        exact ⟨y, rest, hy, ih.mp hrest, (Except.ok.inj h).symm⟩
      · rintro ⟨y, rest, hy, hrest, rfl⟩
        rw [hy, ih.mpr hrest]
        rfl

/-- What is done to every element fails as the first one does that fails. -/
theorem mapM_eq_error_iff {f : α → Except ε β} (hf : ∀ x e, f x = .error e ↔ Fails x e)
    {xs : List α} : xs.mapM f = .error e ↔ FirstError Fails e xs := by
  induction xs with
  | nil => exact ⟨nofun, fun h => absurd h not_firstError_nil⟩
  | cons x xs ih =>
      have hfine : (∀ e', ¬ Fails x e') ↔ ∃ y, f x = .ok y := by
        simp only [← hf, ← errorOf_eq_none_iff, ← errorOf_eq_some_iff]
        exact Option.eq_none_iff_forall_ne_some.symm
      rw [List.mapM_cons, bind_eq_error_iff, firstError_cons_iff, hf, hfine, ← ih]
      simp [bind_eq_error_iff, pure, Except.pure]

end

/-! ## Attributes of one kind -/

/-- Attributes are read as what they say, item by item, and no others are read; what was known
before makes no difference to what goes wrong. -/
structure ReadBy {σ M : Type} (read : σ → Attribute → Except DeriveError σ)
    (Says : Attribute → List M → Prop) (act : σ → M → σ) : Prop where
  ok_iff : ∀ known a known', read known a = .ok known' ↔
    ∃ ms, Says a ms ∧ known' = ms.foldl act known
  steady : ∀ known known' a, errorOf (read known a) = errorOf (read known' a)

/-- An attribute that says nothing that can be read, with what is wrong with it. -/
def Malformed {σ M : Type} (read : σ → Attribute → Except DeriveError σ) (start : σ)
    (Says : Attribute → List M → Prop) (a : Attribute) (e : DeriveError) : Prop :=
  (∀ ms, ¬ Says a ms) ∧ read start a = .error e

namespace ReadBy

variable {σ M : Type} {read : σ → Attribute → Except DeriveError σ}
  {Says : Attribute → List M → Prop} {act : σ → M → σ}

theorem malformed_iff (h : ReadBy read Says act) (start known : σ) (a : Attribute)
    (e : DeriveError) : Malformed read start Says a e ↔ read known a = .error e := by
  rw [Malformed, ← errorOf_eq_some_iff, h.steady start known, errorOf_eq_some_iff]
  refine ⟨And.right, fun herror => ⟨fun ms hms => ?_, herror⟩⟩
  rw [(h.ok_iff known a _).mpr ⟨ms, hms, rfl⟩] at herror
  cases herror

/-- Attributes are read one after another if all of them can be. -/
theorem foldlM_eq_ok_iff (h : ReadBy read Says act) {as : List Attribute} {known known' : σ} :
    as.foldlM read known = .ok known' ↔
      ∃ mss, List.Forall₂ Says as mss ∧ known' = mss.flatten.foldl act known := by
  induction as generalizing known with
  | nil =>
      rw [List.foldlM_nil]
      constructor
      · rintro ⟨⟩
        exact ⟨[], .nil, rfl⟩
      · rintro ⟨mss, hmss, rfl⟩
        cases hmss
        rfl
  | cons a as ih =>
      rw [List.foldlM_cons]
      constructor
      · intro hread
        obtain ⟨next, hnext, hread⟩ := ok_of_bind hread
        obtain ⟨ms, hms, rfl⟩ := (h.ok_iff known a next).mp hnext
        obtain ⟨mss, hmss, rfl⟩ := ih.mp hread
        exact ⟨ms :: mss, .cons hms hmss, by rw [List.flatten_cons, List.foldl_append]⟩
      · rintro ⟨mss, hmss, hknown'⟩
        cases hmss with
        | @cons _ ms _ mss hms hmss =>
            rw [List.flatten_cons, List.foldl_append] at hknown'
            rw [(h.ok_iff known a _).mpr ⟨ms, hms, rfl⟩]
            exact ih.mpr ⟨mss, hmss, hknown'⟩

/-- The first attribute that cannot be read is the one that is reported. -/
theorem foldlM_eq_error_iff (h : ReadBy read Says act) (start : σ) {as : List Attribute}
    {known : σ} {e : DeriveError} :
    as.foldlM read known = .error e ↔ FirstError (Malformed read start Says) e as := by
  induction as generalizing known with
  | nil => exact ⟨nofun, fun h => absurd h not_firstError_nil⟩
  | cons a as ih =>
      have hfine : (∀ e', ¬ Malformed read start Says a e') ↔ ∃ next, read known a = .ok next := by
        simp only [h.malformed_iff start known, ← errorOf_eq_none_iff, ← errorOf_eq_some_iff]
        exact Option.eq_none_iff_forall_ne_some.symm
      rw [List.foldlM_cons, bind_eq_error_iff, firstError_cons_iff, hfine,
        h.malformed_iff start known]
      simp [ih]

end ReadBy

/-- The arguments of an attribute spell these items. -/
def Attribute.Lists {M : Type} (spell : M → List Token) (a : Attribute) (ms : List M) : Prop :=
  ∃ arguments tokens, a = .list arguments ∧ Token.ofText? arguments = some tokens ∧
    Spelled spell ms tokens

theorem SpelledBy.list_eq_ok_iff {σ M : Type} {item : Items σ} {spell : M → List Token}
    {act : σ → M → σ} (h : SpelledBy item spell act) (known : σ) (arguments : String)
    (known' : σ) :
    readArguments item known arguments = .ok known' ↔
      ∃ ms, (Attribute.list arguments).Lists spell ms ∧ known' = ms.foldl act known := by
  rw [h.readArguments_eq_ok_iff]
  constructor
  · rintro ⟨tokens, ms, htokens, hms, rfl⟩
    exact ⟨ms, ⟨arguments, tokens, rfl, htokens, hms⟩, rfl⟩
  · rintro ⟨ms, ⟨_, tokens, ⟨⟩, htokens, hms⟩, rfl⟩
    exact ⟨tokens, ms, htokens, hms, rfl⟩

/-- What a table attribute says; it must have arguments in parentheses. -/
def Attribute.Names (a : Attribute) (names : List String) : Prop := a.Lists nameTokens names

/-- What a column attribute says; one without arguments says nothing. -/
def Attribute.Marks (a : Attribute) (ms : List ColumnMark) : Prop :=
  a = .bare ∧ ms = [] ∨ a.Lists ColumnMark.tokens ms

theorem tableAttribute_readBy :
    ReadBy tableAttribute Attribute.Names (fun _ name => some name) where
  ok_iff known a known' := by
    cases a with
    | bare | assigned => simp [tableAttribute, Attribute.Names, Attribute.Lists]
    | list arguments => exact tableItem_spelledBy.list_eq_ok_iff known arguments known'
  steady known known' a := by
    cases a with
    | bare | assigned => rfl
    | list arguments => exact tableItem_spelledBy.errorOf_readArguments known known' arguments

theorem columnAttribute_readBy :
    ReadBy columnAttribute Attribute.Marks ColumnMarks.add where
  ok_iff known a known' := by
    cases a with
    | bare => simp [columnAttribute, Attribute.Marks, Attribute.Lists, eq_comm]
    | assigned => simp [columnAttribute, Attribute.Marks, Attribute.Lists]
    | list arguments =>
        simp only [Attribute.Marks, reduceCtorEq, false_and, false_or]
        exact columnItem_spelledBy.list_eq_ok_iff known arguments known'
  steady known known' a := by
    cases a with
    | bare | assigned => rfl
    | list arguments => exact columnItem_spelledBy.errorOf_readArguments known known' arguments

/-! ## Fields -/

/-- What a field says of its column: the marks of all its attributes. The names of what every table
provides are not for fields. -/
def Field.Says (f : Field) (ms : List ColumnMark) : Prop :=
  f.name ∉ reservedNames ∧ ∃ mss, List.Forall₂ Attribute.Marks f.attributes mss ∧ ms = mss.flatten

def isKey (ms : List ColumnMark) : Bool := ms.contains .primaryKey || ms.contains .autoincrement

def Field.marked (f : Field) (ms : List ColumnMark) : ColumnSchema :=
  { name := (ms.filterMap ColumnMark.name?).getLast?.getD f.name
    type := f.type
    nullable := f.nullable
    primaryKey := isKey ms
    unique := ms.contains .unique
    autoincrement := ms.contains .autoincrement
    defaultText := (ms.filterMap ColumnMark.default?).getLast? }

/-- What is wrong with a field: its name if that is reserved, or else the first of its attributes
that is malformed. -/
inductive Field.Fails (f : Field) : DeriveError → Prop where
  | reserved (h : f.name ∈ reservedNames) : f.Fails (.reservedField f.name)
  | malformed {e : DeriveError} (hname : f.name ∉ reservedNames)
      (h : FirstError (Malformed columnAttribute {} Attribute.Marks) e f.attributes) : f.Fails e

theorem Field.column_eq_error_iff (f : Field) (e : DeriveError) :
    f.column = .error e ↔ f.Fails e := by
  rw [Field.column]
  split
  · rename_i hname
    constructor
    · rintro ⟨⟩
      exact .reserved hname
    · intro h
      cases h with
      | reserved => rfl
      | malformed hfree => exact absurd hname hfree
  · rename_i hname
    rw [bind_eq_error_iff, columnAttribute_readBy.foldlM_eq_error_iff {}]
    constructor
    · rintro (h | ⟨marks, -, ⟨⟩⟩)
      exact .malformed hname h
    · intro h
      cases h with
      | reserved hreserved => exact absurd hreserved hname
      | malformed _ h => exact .inl h

theorem Field.column_eq_ok_iff (f : Field) (c : ColumnSchema) :
    f.column = .ok c ↔ ∃ ms, f.Says ms ∧ c = f.marked ms := by
  rw [Field.column]
  split
  · rename_i hname
    exact ⟨nofun, fun ⟨_, hsays, _⟩ => absurd hname hsays.1⟩
  · rename_i hname
    constructor
    · intro h
      obtain ⟨marks, hmarks, h⟩ := ok_of_bind h
      obtain ⟨mss, hmss, rfl⟩ := columnAttribute_readBy.foldlM_eq_ok_iff.mp hmarks
      refine ⟨mss.flatten, ⟨hname, mss, hmss, rfl⟩, ?_⟩
      rw [ColumnMarks.foldl_add] at h
      cases h
      simp [marked, isKey]
    · rintro ⟨ms, ⟨-, mss, hmss, rfl⟩, rfl⟩
      rw [columnAttribute_readBy.foldlM_eq_ok_iff.mpr ⟨mss, hmss, rfl⟩, ColumnMarks.foldl_add]
      simp [marked, isKey, bind, Except.bind]

theorem columns_eq_ok_iff {fields : List Field} {columns : List ColumnSchema} :
    fields.mapM Field.column = .ok columns ↔
      ∃ marks, List.Forall₂ Field.Says fields marks ∧
        columns = List.zipWith Field.marked fields marks := by
  rw [mapM_eq_ok_iff]
  simp only [Field.column_eq_ok_iff]
  constructor
  · intro h
    induction h with
    | nil => exact ⟨[], .nil, rfl⟩
    | cons hc _ ih =>
        obtain ⟨ms, hms, rfl⟩ := hc
        obtain ⟨marks, hmarks, rfl⟩ := ih
        exact ⟨ms :: marks, .cons hms hmarks, rfl⟩
  · rintro ⟨marks, hmarks, rfl⟩
    induction hmarks with
    | nil => exact .nil
    | cons hms _ ih => exact .cons ⟨_, hms, rfl⟩ ih

theorem zipWith_accessor (fields : List Field) (marks : List (List ColumnMark)) :
    List.zipWith Field.accessor fields (List.zipWith Field.marked fields marks) =
      List.zipWith (fun f ms => f.accessor (f.marked ms)) fields marks := by
  induction fields generalizing marks with
  | nil => rfl
  | cons f fields ih =>
      cases marks with
      | nil => rfl
      | cons ms marks => simp only [List.zipWith_cons_cons, ih]

theorem countP_primaryKey {fields : List Field} {marks : List (List ColumnMark)}
    (h : List.Forall₂ Field.Says fields marks) :
    (List.zipWith Field.marked fields marks).countP (·.primaryKey) = marks.countP isKey := by
  induction h with
  | nil => rfl
  | cons _ _ ih => simp only [List.zipWith_cons_cons, List.countP_cons, ih, Field.marked]

theorem columnsOf_eq_ok_iff {fields : List Field} {columns : List ColumnSchema} :
    columnsOf fields = .ok columns ↔
      ∃ marks, List.Forall₂ Field.Says fields marks ∧ marks.countP isKey ≤ 1 ∧
        columns = List.zipWith Field.marked fields marks := by
  rw [columnsOf]
  constructor
  · intro h
    obtain ⟨read, hread, h⟩ := ok_of_bind h
    obtain ⟨marks, hmarks, rfl⟩ := columns_eq_ok_iff.mp hread
    rw [countP_primaryKey hmarks] at h
    split at h
    · cases h
    · rename_i hkeys
      cases h
      exact ⟨marks, hmarks, Nat.le_of_not_lt hkeys, rfl⟩
  · rintro ⟨marks, hmarks, hkeys, rfl⟩
    rw [columns_eq_ok_iff.mpr ⟨marks, hmarks, rfl⟩]
    simp only [bind, Except.bind, countP_primaryKey hmarks, if_neg (Nat.not_lt.mpr hkeys)]

/-- Fields are at fault one by one before they are together. -/
theorem columnsOf_eq_error_iff {fields : List Field} {e : DeriveError} :
    columnsOf fields = .error e ↔ FirstError Field.Fails e fields ∨
      ∃ marks, List.Forall₂ Field.Says fields marks ∧ 1 < marks.countP isKey ∧
        e = .manyPrimaryKeys := by
  rw [columnsOf, bind_eq_error_iff, mapM_eq_error_iff Field.column_eq_error_iff]
  refine or_congr_right ?_
  constructor
  · rintro ⟨read, hread, h⟩
    obtain ⟨marks, hmarks, rfl⟩ := columns_eq_ok_iff.mp hread
    rw [countP_primaryKey hmarks] at h
    split at h
    · rename_i hkeys
      cases h
      exact ⟨marks, hmarks, hkeys, rfl⟩
    · cases h
  · rintro ⟨marks, hmarks, hkeys, rfl⟩
    refine ⟨_, columns_eq_ok_iff.mpr ⟨marks, hmarks, rfl⟩, ?_⟩
    rw [countP_primaryKey hmarks, if_pos hkeys]

/-! ## Descriptions -/

namespace Description

/-- The names that the attributes of an item give to the table. -/
def Named (d : Description) (names : List String) : Prop :=
  ∃ nss, List.Forall₂ Attribute.Names d.attributes nss ∧ names = nss.flatten

/-- A well described record: all its attributes say something, no field has a reserved name, and at
most one column is the primary key. -/
structure Says (d : Description) (names : List String) (fields : List Field)
    (marks : List (List ColumnMark)) : Prop where
  named : d.Named names
  item : d.item = .record fields
  marked : List.Forall₂ Field.Says fields marks
  key : marks.countP isKey ≤ 1

/-- What is wrong with an item, each thing only where nothing before it is wrong. -/
inductive Fails (d : Description) : DeriveError → Prop where
  | malformed {e : DeriveError}
      (h : FirstError (Malformed tableAttribute none Attribute.Names) e d.attributes) : d.Fails e
  | notRecord {names : List String} (hnamed : d.Named names) (hitem : d.item = .other) :
      d.Fails .notRecord
  | unnamedFields {names : List String} (hnamed : d.Named names)
      (hitem : d.item = .unnamedFields) : d.Fails .unnamedFields
  | field {names : List String} {fields : List Field} {e : DeriveError} (hnamed : d.Named names)
      (hitem : d.item = .record fields) (h : FirstError Field.Fails e fields) : d.Fails e
  | keys {names : List String} {fields : List Field} {marks : List (List ColumnMark)}
      (hnamed : d.Named names) (hitem : d.item = .record fields)
      (hmarked : List.Forall₂ Field.Says fields marks) (hkeys : 1 < marks.countP isKey) :
      d.Fails .manyPrimaryKeys

/-- The table of a well described record. -/
def described (d : Description) (names : List String) (fields : List Field)
    (marks : List (List ColumnMark)) : DerivedTable :=
  let name := names.getLast?.getD (String.ofList (snakeCase d.name.toList))
  let columns := List.zipWith Field.marked fields marks
  { typeName := plainName d.name ++ "Table"
    tableName := name
    columns := columns.map (·.name)
    primaryKey := (columns.find? (·.primaryKey)).map (·.name)
    schema := ⟨name, columns⟩
    accessors := List.zipWith
      (fun f ms => ⟨f.name, .value f.type f.nullable, (f.marked ms).name⟩) fields marks }

theorem foldl_last (names : List String) (known : Option String) :
    names.foldl (fun _ name => some name) known = names.getLast?.or known := by
  induction names generalizing known with
  | nil => rfl
  | cons name names ih => rw [List.foldl_cons, ih, List.getLast?_cons]; cases names.getLast? <;> rfl

/-- The attributes of an item are read if they name the table, and the last name counts. -/
theorem names_eq_ok_iff {d : Description} {name : Option String} :
    d.attributes.foldlM tableAttribute none = .ok name ↔
      ∃ names, d.Named names ∧ name = names.getLast? := by
  rw [tableAttribute_readBy.foldlM_eq_ok_iff]
  simp only [foldl_last, Option.or_none]
  constructor
  · rintro ⟨nss, hnss, rfl⟩
    exact ⟨nss.flatten, ⟨nss, hnss, rfl⟩, rfl⟩
  · rintro ⟨_, ⟨nss, hnss, rfl⟩, rfl⟩
    exact ⟨nss, hnss, rfl⟩

theorem derive_eq_error_iff (d : Description) (e : DeriveError) :
    d.derive = .error e ↔ d.Fails e := by
  rw [derive, bind_eq_error_iff, tableAttribute_readBy.foldlM_eq_error_iff none]
  constructor
  · rintro (h | ⟨name, hname, h⟩)
    · exact .malformed h
    · obtain ⟨names, hnamed, -⟩ := names_eq_ok_iff.mp hname
      split at h
      · cases h
        exact .notRecord hnamed ‹_›
      · cases h
        exact .unnamedFields hnamed ‹_›
      · rename_i fields hitem
        obtain h | ⟨columns, -, ⟨⟩⟩ := bind_eq_error_iff.mp h
        obtain h | ⟨marks, hmarked, hkeys, rfl⟩ := columnsOf_eq_error_iff.mp h
        · exact .field hnamed hitem h
        · exact .keys hnamed hitem hmarked hkeys
  · intro h
    cases h with
    | malformed h => exact .inl h
    | notRecord hnamed hitem | unnamedFields hnamed hitem =>
        refine .inr ⟨_, names_eq_ok_iff.mpr ⟨_, hnamed, rfl⟩, ?_⟩
        rw [hitem]
    | field hnamed hitem h =>
        refine .inr ⟨_, names_eq_ok_iff.mpr ⟨_, hnamed, rfl⟩, ?_⟩
        rw [hitem]
        exact bind_eq_error_iff.mpr (.inl (columnsOf_eq_error_iff.mpr (.inl h)))
    | keys hnamed hitem hmarked hkeys =>
        refine .inr ⟨_, names_eq_ok_iff.mpr ⟨_, hnamed, rfl⟩, ?_⟩
        rw [hitem]
        exact bind_eq_error_iff.mpr
          (.inl (columnsOf_eq_error_iff.mpr (.inr ⟨_, hmarked, hkeys, rfl⟩)))

theorem derive_eq_ok_iff (d : Description) (t : DerivedTable) :
    d.derive = .ok t ↔
      ∃ names fields marks, d.Says names fields marks ∧ t = d.described names fields marks := by
  rw [derive]
  constructor
  · intro h
    obtain ⟨name, hname, h⟩ := ok_of_bind h
    obtain ⟨names, hnamed, rfl⟩ := names_eq_ok_iff.mp hname
    split at h
    · cases h
    · cases h
    · rename_i fields hitem
      obtain ⟨columns, hcolumns, h⟩ := ok_of_bind h
      obtain ⟨marks, hmarked, hkey, rfl⟩ := columnsOf_eq_ok_iff.mp hcolumns
      rw [zipWith_accessor] at h
      exact ⟨names, fields, marks, ⟨hnamed, hitem, hmarked, hkey⟩, (Except.ok.inj h).symm⟩
  · rintro ⟨names, fields, marks, h, rfl⟩
    rw [names_eq_ok_iff.mpr ⟨names, h.named, rfl⟩, h.item]
    have hcolumns := columnsOf_eq_ok_iff.mpr ⟨marks, h.marked, h.key, rfl⟩
    simp only [bind, Except.bind, hcolumns, zipWith_accessor]
    rfl

end Description

/-! ## Derived tables -/

/-- The parts of a table agree with the fields and with each other: every part has the fields in
their order, columns are read by their quoted names, and the primary key is the one column that is
marked so, if there is one. -/
structure DerivedTable.Agrees (t : DerivedTable) (fields : List Field) : Prop where
  accessors : t.accessors.map (·.name) = fields.map (·.name)
  columns : t.accessors.map (·.column) = t.columns
  schema : t.schema.columnNames = t.columns
  sql : ∀ a ∈ t.accessors, a.term.render = .raw (quoteIdentifier a.column)
  accessorTypes : t.accessors.map (·.type) = fields.map fun f => .value f.type f.nullable
  types : t.schema.columns.map (·.type) = fields.map (·.type)
  nullable : t.schema.columns.map (·.nullable) = fields.map (·.nullable)
  increments : ∀ c ∈ t.schema.columns, c.autoincrement = true → c.primaryKey = true
  key : (t.schema.columns.filter (·.primaryKey)).map (·.name) = t.primaryKey.toList
  name : t.tableName = t.schema.name
  query : t.query.table = t.schema.name
  createTable : t.createTable.table = t.schema.name

/-- What is made of the left elements alone is all of them. -/
theorem zipWith_left {α β γ : Type} {R : α → β → Prop} {xs : List α} {ys : List β}
    (h : List.Forall₂ R xs ys) (f : α → γ) : List.zipWith (fun x _ => f x) xs ys = xs.map f := by
  induction h with
  | nil => rfl
  | cons _ _ ih => rw [List.zipWith_cons_cons, ih, List.map_cons]

/-- Where at most one is found, the first is all that is found. -/
theorem filter_eq_find?_toList {α : Type} {p : α → Bool} {xs : List α} (h : xs.countP p ≤ 1) :
    xs.filter p = (xs.find? p).toList := by
  rw [List.countP_eq_length_filter] at h
  rw [← List.head?_filter]
  cases hfound : xs.filter p with
  | nil => rfl
  | cons x rest =>
      rw [hfound, List.length_cons] at h
      rw [List.length_eq_zero_iff.mp (Nat.le_zero.mp (Nat.le_of_succ_le_succ h))]
      rfl

namespace Description

theorem Says.agrees {d : Description} {names : List String} {fields : List Field}
    {marks : List (List ColumnMark)} (h : d.Says names fields marks) :
    (d.described names fields marks).Agrees fields where
  accessors := by
    simp only [described, List.map_zipWith]
    exact zipWith_left h.marked Field.name
  columns := by simp only [described, List.map_zipWith]
  schema := rfl
  sql _ _ := rfl
  accessorTypes := by
    simp only [described, List.map_zipWith]
    exact zipWith_left h.marked fun f : Field => ResultType.value f.type f.nullable
  types := by
    simp only [described, List.map_zipWith, Field.marked]
    exact zipWith_left h.marked Field.type
  nullable := by
    simp only [described, List.map_zipWith, Field.marked]
    exact zipWith_left h.marked Field.nullable
  increments c hc hincrements := by
    rw [described, ← List.map_uncurry_zip_eq_zipWith, List.mem_map] at hc
    obtain ⟨⟨f, ms⟩, -, rfl⟩ := hc
    exact Bool.or_eq_true_iff.mpr (.inr hincrements)
  key := by
    have hkey : (d.described names fields marks).schema.columns.countP (·.primaryKey) ≤ 1 :=
      Nat.le_trans (Nat.le_of_eq (countP_primaryKey h.marked)) h.key
    rw [filter_eq_find?_toList hkey, described]
    cases List.find? _ _ <;> rfl
  name := rfl
  query := rfl
  createTable := rfl

/-- A table is derived from exactly the well described records, anything else is refused with the
first error that there is, and whatever is derived has the names, flags and defaults that were
given, in parts that agree. -/
theorem derive_exact (d : Description) :
    (∀ e, d.derive = .error e ↔ d.Fails e) ∧
      (∀ t, d.derive = .ok t ↔
        ∃ names fields marks, d.Says names fields marks ∧ t = d.described names fields marks) ∧
      ∀ t, d.derive = .ok t → ∃ fields, d.item = .record fields ∧ t.Agrees fields := by
  refine ⟨derive_eq_error_iff d, derive_eq_ok_iff d, fun t ht => ?_⟩
  obtain ⟨names, fields, marks, h, rfl⟩ := (derive_eq_ok_iff d t).mp ht
  exact ⟨fields, h.item, h.agrees⟩

example :
    let id : Field := ⟨"id", .integer, false, [.bare, .list "autoincrement,"]⟩
    let seen : Field := ⟨"seen", .text, true, [.list "name = \"a\", unique", .list "name = \"b\""]⟩
    (Description.mk "UserName" [.list ""] (.record [id, seen])).derive =
      .ok
        { typeName := "UserNameTable"
          tableName := "user_name"
          columns := ["id", "b"]
          primaryKey := some "id"
          schema :=
            { name := "user_name"
              columns :=
                [{ name := "id", type := .integer, nullable := false, primaryKey := true,
                   autoincrement := true },
                 { name := "b", type := .text, nullable := true, unique := true }] }
          accessors :=
            [⟨"id", .value .integer false, "id"⟩, ⟨"seen", .value .text true, "b"⟩] } := by
  decide +kernel

end Description

end TypedSql
