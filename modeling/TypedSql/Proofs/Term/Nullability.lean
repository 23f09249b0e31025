import Mathlib.Data.List.Forall2
import TypedSql.Proofs.Connection.Act
import TypedSql.Proofs.Engine.Classes
import TypedSql.Proofs.Term.Nesting

/-!
What the type of an expression says of its value. An expression over columns and values is worked
out with values bound to its parameters and columns that hold what their types admit. Its value is
then one that its own type admits, so it is not `NULL` unless the type is nullable: the types keep
track of every `NULL` but those of arithmetic that has no value.
-/

namespace TypedSql

open Sql (Expr)

/-! ## Arithmetic that has a value -/

namespace Formula

mutual

/-- Whether no arithmetic in a formula is indeterminate. -/
def isDeterminate (s : Scope) : Formula → Bool
  | .constant _ | .parameter _ | .column _ | .countRows => true
  | .unary _ x | .isNull _ x | .countValues x | .largest _ x => x.isDeterminate s
  | .binary op _ l r =>
      l.isDeterminate s && r.isDeterminate s && !indeterminate op (l.eval s) (r.eval s)
  | .same _ _ l r => l.isDeterminate s && r.isDeterminate s
  | .between _ _ _ x low high => x.isDeterminate s && low.isDeterminate s && high.isDeterminate s
  | .inList _ _ x items => x.isDeterminate s && allDeterminate s items
  | .call _ arguments => allDeterminate s arguments

def allDeterminate (s : Scope) : List Formula → Bool
  | [] => true
  | x :: xs => x.isDeterminate s && allDeterminate s xs

end

end Formula

/-! ## Expressions over columns and values -/

/-- A column that an expression names, and the type it is given. -/
structure Reference where
  table : Option String
  name : String
  type : ResultType

namespace Term

mutual

/-- Whether an expression is made of columns and values by operators, predicates and the choice of
the first value that is not `NULL`. -/
def isTracked : Term → Bool
  | .column .. | .qualified .. | .value _ | .optional .. => true
  | .binary op l r => op.isEvaluated && l.isTracked && r.isTracked
  | .unary _ x | .compareNull _ x | .nullCompare _ x | .isNull _ x | .between _ x _ _
  | .inList _ x _ => x.isTracked
  | .call .ifnull arguments | .coalesce _ arguments => allTracked arguments
  | _ => false

def allTracked : List Term → Bool
  | [] => true
  | x :: xs => x.isTracked && allTracked xs

end

mutual

def references : Term → List Reference
  | .column name type => [⟨none, name, type⟩]
  | .qualified table name type => [⟨some table, name, type⟩]
  | .binary _ l r => l.references ++ r.references
  | .unary _ x | .compareNull _ x | .nullCompare _ x | .isNull _ x | .between _ x _ _
  | .inList _ x _ => x.references
  | .call _ arguments | .coalesce _ arguments => allReferences arguments
  | _ => []

def allReferences : List Term → List Reference
  | [] => []
  | x :: xs => x.references ++ allReferences xs

end

/-! ## Typing rules -/

mutual

/-- The typing rules of expressions over columns and values. -/
inductive Typed : Term → ResultType → Prop where
  | column (name : String) (type : ResultType) : Typed (column name type) type
  | qualified (table name : String) (type : ResultType) : Typed (qualified table name type) type
  | value (v : Value) : Typed (value v) (.value v.type false)
  | absent (t : ValueType) : Typed (optional t none) (.value t true)
  | present (v : Value) : Typed (optional v.type (some v)) (.value v.type true)
  | binary {op : BinaryOperator} {l r : Term} {t u : ValueType} {a b : Bool}
      (hop : op.isEvaluated = true) (hu : op.result t = some u) (hl : Typed l (.value t a))
      (hr : Typed r (.value t b)) : Typed (binary op l r) (.value u (a || b))
  | unary {op : UnaryOperator} {x : Term} {t : ValueType} {a : Bool} (hop : op.takes t = true)
      (hx : Typed x (.value t a)) : Typed (unary op x) (.value t a)
  | compareNull (negated : Bool) (x : Term) : Typed (compareNull negated x) (.value .boolean true)
  | nullCompare (negated : Bool) (x : Term) : Typed (nullCompare negated x) (.value .boolean false)
  | isNull (negated : Bool) (x : Term) : Typed (isNull negated x) (.value .boolean false)
  | between (negated : Bool) {x : Term} {low high : Value} {t : ValueType} {a : Bool}
      (hlow : low.type = t) (hhigh : high.type = t) (hx : Typed x (.value t a)) :
      Typed (between negated x low high) (.value .boolean a)
  | inList (negated : Bool) {x : Term} {values : List Value} {t : ValueType} {a : Bool}
      (hvalues : ∀ v ∈ values, v.type = t) (hx : Typed x (.value t a)) :
      Typed (inList negated x values) (.value .boolean a)
  | ifnull {arguments : List Term} {types : List ResultType} {type : ResultType}
      (htype : Function.ifnull.result types = some type) (h : AllTyped arguments types) :
      Typed (call .ifnull arguments) type
  | coalesce {t : ValueType} {arguments : List Term} {types : List ResultType}
      (htypes : ∀ u ∈ types, u = .value t true) (h : AllTyped arguments types) :
      Typed (coalesce t arguments) (.value t true)

inductive AllTyped : List Term → List ResultType → Prop where
  | nil : AllTyped [] []
  | cons {x : Term} {xs : List Term} {type : ResultType} {types : List ResultType}
      (hx : Typed x type) (hxs : AllTyped xs types) : AllTyped (x :: xs) (type :: types)

end

mutual

/-- An expression over columns and values has its type by the rules. -/
theorem typed_of_type? (x : Term) (hx : x.isTracked = true) {type : ResultType}
    (htype : x.type? = some type) : Typed x type := by
  cases x with
  | column name =>
      cases htype
      exact .column name type
  | qualified table name =>
      cases htype
      exact .qualified table name type
  | value v =>
      cases htype
      exact .value v
  | optional t v =>
      cases v with
      | none =>
          cases htype
          exact .absent t
      | some v =>
          rw [type?] at htype
          split at htype
          · rename_i hv
            cases htype
            exact hv ▸ .present v
          · cases htype
  | binary op l r =>
      rw [isTracked, Bool.and_eq_true, Bool.and_eq_true] at hx
      obtain ⟨⟨hop, hl⟩, hr⟩ := hx
      rw [type?] at htype
      split at htype
      · rename_i t a u b hlt hrt
        split at htype
        · rename_i htu
          subst htu
          obtain ⟨v, hv, rfl⟩ := Option.map_eq_some_iff.mp htype
          exact .binary hop hv (typed_of_type? l hl hlt) (typed_of_type? r hr hrt)
        · cases htype
      · cases htype
  | unary op x =>
      rw [type?] at htype
      split at htype
      · rename_i t a hxt
        split at htype
        · rename_i hop
          cases htype
          exact .unary hop (typed_of_type? x hx hxt)
        · cases htype
      · cases htype
  | compareNull negated x =>
      rw [type?] at htype
      split at htype <;> cases htype
      exact .compareNull negated x
  | nullCompare negated x =>
      rw [type?] at htype
      split at htype <;> cases htype
      exact .nullCompare negated x
  | isNull negated x =>
      rw [type?] at htype
      split at htype <;> cases htype
      exact .isNull negated x
  | between negated x low high =>
      rw [type?] at htype
      split at htype
      · rename_i t a hxt
        split at htype
        · rename_i htypes
          cases htype
          exact .between negated htypes.1 htypes.2 (typed_of_type? x hx hxt)
        · cases htype
      · cases htype
  | inList negated x values =>
      rw [type?] at htype
      split at htype
      · rename_i t a hxt
        split at htype
        · rename_i htypes
          cases htype
          exact .inList negated (by simpa using htypes) (typed_of_type? x hx hxt)
        · cases htype
      · cases htype
  | call function arguments =>
      cases function with
      | ifnull =>
          rw [type?] at htype
          split at htype
          · rename_i types htypes
            exact .ifnull htype (allTyped_of_types? arguments hx htypes)
          · cases htype
      | _ => cases hx
  | coalesce t arguments =>
      rw [type?] at htype
      split at htype
      · rename_i types htypes
        split at htype
        · rename_i hall
          cases htype
          exact .coalesce (by simpa using hall) (allTyped_of_types? arguments hx htypes)
        · cases htype
      · cases htype
  | _ => cases hx

theorem allTyped_of_types? (xs : List Term) (hx : allTracked xs = true) {types : List ResultType}
    (htypes : types? xs = some types) : AllTyped xs types := by
  cases xs with
  | nil =>
      cases htypes
      exact .nil
  | cons x xs =>
      rw [allTracked, Bool.and_eq_true] at hx
      rw [types?] at htypes
      split at htypes
      · rename_i type types' htype htypes'
        cases htypes
        exact .cons (typed_of_type? x hx.1 htype) (allTyped_of_types? xs hx.2 htypes')
      · cases htypes

end

end Term

theorem Fragment.cells_commas (xs : List Fragment) :
    (commas xs).cells = xs.flatMap Fragment.cells := by
  rw [commas]
  induction xs with
  | nil => rfl
  | cons x xs ih =>
      cases xs with
      | nil => simp [joined]
      | cons y ys => simp [joined, ih]

/-! ## Assignments -/

/-- Cells are bound to parameters, which come after `k` others, none of them is NaN, and columns
hold values that their types admit. -/
structure Assigns (n : Names) (s : Scope) (k : Nat) (cells : List Cell) (columns : List Reference) :
    Prop where
  bound : ∀ i cell, cells[i]? = some cell → s.parameters[k + i]? = some (.ofCell cell)
  numbers : ∀ x, some (.real x) ∈ cells → x.isNaN = false
  holds : ∀ c ∈ columns, ∀ f, n.nameFormula c.table c.name c.table.isNone 0 = .ok f →
    c.type.admits (f.eval s) = true

namespace Assigns

variable {n : Names} {s : Scope} {k : Nat} {cells more : List Cell} {cell : Cell}
  {columns others : List Reference}

theorem of_parameters (hbound : s.parameters = cells.map .ofCell)
    (hnumbers : ∀ x, some (.real x) ∈ cells → x.isNaN = false)
    (hholds : ∀ c ∈ columns, ∀ f, n.nameFormula c.table c.name c.table.isNone 0 = .ok f →
      c.type.admits (f.eval s) = true) : Assigns n s 0 cells columns where
  bound i cell hi := by
    rw [hbound, Nat.zero_add, List.getElem?_map, hi]
    rfl
  numbers := hnumbers
  holds := hholds

theorem left (h : Assigns n s k (cells ++ more) (columns ++ others)) :
    Assigns n s k cells columns where
  bound i cell hi := h.bound i cell (by
    rw [List.getElem?_append_left (List.getElem?_eq_some_iff.mp hi).1]
    exact hi)
  numbers x hx := h.numbers x (List.mem_append_left more hx)
  holds c hc := h.holds c (List.mem_append_left others hc)

theorem right (h : Assigns n s k (cells ++ more) (columns ++ others)) :
    Assigns n s (k + cells.length) more others where
  bound i cell hi := by
    have hcell : (cells ++ more)[cells.length + i]? = some cell := by
      rw [List.getElem?_append_right (Nat.le_add_right _ _), Nat.add_sub_cancel_left]
      exact hi
    rw [Nat.add_assoc]
    exact h.bound _ cell hcell
  numbers x hx := h.numbers x (List.mem_append_right cells hx)
  holds c hc := h.holds c (List.mem_append_right columns hc)

theorem tail (h : Assigns n s k (cell :: cells) columns) : Assigns n s (k + 1) cells columns where
  bound i c hi := by
    rw [Nat.add_assoc, Nat.add_comm 1 i]
    exact h.bound (i + 1) c hi
  numbers x hx := h.numbers x (List.mem_cons_of_mem cell hx)
  holds := h.holds

/-- The value of a parameter. -/
theorem eval_parameter (h : Assigns n s k (cell :: cells) columns) :
    (Formula.parameter (k + 1)).eval s = .ofCell cell := by
  have hcell := h.bound 0 cell rfl
  rw [Nat.add_zero] at hcell
  rw [Formula.eval, Nat.add_sub_cancel, hcell]
  rfl

/-- A value that is bound is admitted by its type. -/
theorem admits_value {v : Value} (h : Assigns n s k (some v.store :: cells) columns)
    (nullable : Bool) :
    (ResultType.value v.type nullable).admits ((Formula.parameter (k + 1)).eval s) = true := by
  rw [h.eval_parameter]
  apply ResultType.admits_of_isOf
  cases v with
  | real x =>
      have hx : x.isNaN = false := h.numbers x List.mem_cons_self
      simp [Value.store, Datum.ofCell, Datum.ofReal, hx, Value.type, ValueType.storage, Datum.isOf,
        Datum.isNumber]
  | _ => rfl

/-- Values of one type that are bound one after another. -/
theorem admits_values {t : ValueType} {values : List Value} (ht : ∀ v ∈ values, v.type = t)
    {fs : List Formula} (hfs : n.formulas (Term.parameters k values.length) = .ok fs)
    (h : Assigns n s k (values.map fun v => some v.store) []) :
    ∀ d ∈ Formula.evalAll s fs, (ResultType.value t false).admits d = true := by
  induction values generalizing k fs with
  | nil =>
      cases hfs
      simp [Formula.evalAll]
  | cons v vs ih =>
      rw [List.length_cons, Term.parameters, Names.formulas] at hfs
      obtain ⟨f, hf, hfs⟩ := ok_of_bind hfs
      obtain ⟨rest, hrest, hfs⟩ := ok_of_bind hfs
      cases hf
      cases hfs
      intro d hd
      rw [Formula.evalAll] at hd
      rcases List.mem_cons.mp hd with rfl | hd
      · rw [← ht v List.mem_cons_self]
        exact h.admits_value false
      · exact ih (fun w hw => ht w (List.mem_cons_of_mem v hw)) hrest h.tail d hd

end Assigns

namespace Names

/-- The operands of an operator are worked out before it. -/
theorem formula_binary {n : Names} {op : BinaryOperator} (hop : op.isEvaluated = true) {l r : Expr}
    {f : Formula} (h : n.formula (.binary op l r) = .ok f) :
    ∃ lf rf c, n.formula l = .ok lf ∧ n.formula r = .ok rf ∧ f = .binary op c lf rf := by
  rw [formula] at h
  · obtain ⟨lf, hl, h⟩ := ok_of_bind h
    obtain ⟨rf, hr, h⟩ := ok_of_bind h
    dsimp only at h
    split at h <;>
      · obtain ⟨c, -, h⟩ := ok_of_bind h
        cases h
        exact ⟨lf, rf, c, hl, hr, rfl⟩
  all_goals
    rintro rfl
    cases hop

theorem formula_same {n : Names} {negated : Bool} {l r : Expr} {f : Formula}
    (h : n.formula (.same negated l r) = .ok f) :
    ∃ lf rf c, n.formula l = .ok lf ∧ n.formula r = .ok rf ∧ f = .same negated c lf rf := by
  rw [formula] at h
  obtain ⟨lf, hl, h⟩ := ok_of_bind h
  obtain ⟨rf, hr, h⟩ := ok_of_bind h
  obtain ⟨c, -, h⟩ := ok_of_bind h
  cases h
  exact ⟨lf, rf, c, hl, hr, rfl⟩

/-- No function that a caller registered has the name of one that chooses the first value. -/
def KeepsChoice (n : Names) : Prop :=
  ∀ f ∈ n.functions, sameName f.name "ifnull" = false ∧ sameName f.name "coalesce" = false

theorem KeepsChoice.registered? {n : Names} (hn : n.KeepsChoice) {name : String}
    (hname : name = "ifnull" ∨ name = "coalesce") (count : Nat) :
    NamedFunction.registered? n.functions name count = none := by
  have hnone : n.functions.filter (fun f => sameName f.name name) = [] := by
    rw [List.filter_eq_nil_iff]
    intro f hf
    rcases hname with rfl | rfl
    · simp [(hn f hf).1]
    · simp [(hn f hf).2]
  rw [NamedFunction.registered?, hnone]
  rfl

theorem builtin?_choice {name : String} (hname : name = "ifnull" ∨ name = "coalesce") {count : Nat}
    {g : NamedFunction} (h : NamedFunction.builtin? name count = some g) :
    g.apply = NamedFunction.firstValue := by
  have hmem := List.mem_of_find?_eq_some h
  have hsame := List.find?_some h
  simp only [NamedFunction.builtin, List.mem_cons, List.not_mem_nil, or_false] at hmem
  rcases hmem with rfl | rfl | rfl | rfl | rfl
  · rfl
  · rfl
  all_goals rcases hname with rfl | rfl <;> cases hsame

/-- A choice is made by the engine's own function. -/
theorem formula_choice {n : Names} (hn : n.KeepsChoice) {name : String}
    (hname : name = "ifnull" ∨ name = "coalesce") {arguments : List Expr} {f : Formula}
    (h : n.formula (.call name false arguments 0) = .ok f) :
    ∃ fs, n.formulas arguments = .ok fs ∧ f = .call NamedFunction.firstValue fs := by
  rw [formula] at h
  obtain ⟨fs, hfs, h⟩ := ok_of_bind h
  have hcall : n.callFormula name fs 0 = .ok f := by
    unfold anyCallFormula at h
    rw [hn.registered? hname] at h
    split at h
    · rcases hname with rfl | rfl <;> exact h
    · exact h
  rw [callFormula, hn.registered? hname, Option.none_or] at hcall
  cases hg : NamedFunction.builtin? name fs.length with
  | none => simp [hg] at hcall
  | some g =>
      rw [hg] at hcall
      cases hcall
      exact ⟨fs, hfs, by rw [builtin?_choice hname hg]⟩

end Names

namespace Term

variable {n : Names} {s : Scope}

/-- A choice of two values has the type of the second. -/
theorem admits_ifnull {types : List ResultType} {type : ResultType} {ds : List Datum}
    (htype : Function.ifnull.result types = some type)
    (h : List.Forall₂ (fun type d => type.admits d = true) types ds) :
    type.admits (NamedFunction.firstValue ds) = true := by
  obtain ⟨t, m, rfl, rfl⟩ :
      ∃ t m, types = [.value t true, .value t m] ∧ type = .value t m := by
    rw [Function.result.eq_def] at htype
    split at htype <;> grind
  obtain _ | ⟨hfirst, h⟩ := h
  obtain _ | ⟨hsecond, h⟩ := h
  cases h
  exact Formula.admits_firstValue_pair hfirst hsecond

theorem exists_of_forall₂ {types : List ResultType} {ds : List Datum}
    (h : List.Forall₂ (fun type d => type.admits d = true) types ds) {d : Datum} (hd : d ∈ ds) :
    ∃ type ∈ types, type.admits d = true := by
  induction h with
  | nil => cases hd
  | @cons type e types ds he _ ih =>
      rcases List.mem_cons.mp hd with rfl | hd
      · exact ⟨type, List.mem_cons_self, he⟩
      · obtain ⟨u, hu, hadmits⟩ := ih hd
        exact ⟨u, List.mem_cons_of_mem type hu, hadmits⟩

/-! ## Soundness of the rules -/

/-- The value of an expression is admitted by the type, however many parameters come before it. -/
def Sound (n : Names) (s : Scope) (x : Term) (type : ResultType) : Prop :=
  ∀ (k : Nat) (f : Formula), n.formula (x.tree k) = .ok f →
    Assigns n s k x.render.cells x.references → f.isDeterminate s = true →
    type.admits (f.eval s) = true

/-- The values of expressions one after another are admitted by the types. -/
def AllSound (n : Names) (s : Scope) (xs : List Term) (types : List ResultType) : Prop :=
  ∀ (k : Nat) (fs : List Formula), n.formulas (trees k xs) = .ok fs →
    Assigns n s k ((renderAll xs).flatMap Fragment.cells) (allReferences xs) →
    Formula.allDeterminate s fs = true →
    List.Forall₂ (fun type d => type.admits d = true) types (Formula.evalAll s fs)

section

variable {x l r : Term} {xs : List Term} {t u : ValueType} {a b : Bool} {type : ResultType}
  {types : List ResultType}

theorem sound_column (name : String) (type : ResultType) : Sound n s (column name type) type :=
  fun _ f hf ha _ => ha.holds _ List.mem_cons_self f hf

theorem sound_qualified (table name : String) (type : ResultType) :
    Sound n s (qualified table name type) type :=
  fun _ f hf ha _ => ha.holds _ List.mem_cons_self f hf

theorem sound_value (v : Value) : Sound n s (value v) (.value v.type false) := by
  intro k f hf ha _
  cases hf
  exact ha.admits_value false

theorem sound_absent (t : ValueType) : Sound n s (optional t none) (.value t true) := by
  intro k f hf ha _
  cases hf
  rw [ha.eval_parameter]
  rfl

theorem sound_present (v : Value) :
    Sound n s (optional v.type (some v)) (.value v.type true) := by
  intro k f hf ha _
  cases hf
  exact ha.admits_value true

theorem sound_binary {op : BinaryOperator} (hop : op.isEvaluated = true)
    (hu : op.result t = some u) (hl : Sound n s l (.value t a)) (hr : Sound n s r (.value t b)) :
    Sound n s (binary op l r) (.value u (a || b)) := by
  intro k f hf ha hd
  obtain ⟨lf, rf, c, hlf, hrf, rfl⟩ := Names.formula_binary hop hf
  have hcells : (binary op l r).render.cells = l.render.cells ++ r.render.cells := by
    simp [render, Fragment.infixed]
  rw [hcells] at ha
  obtain ⟨hd, hdet⟩ := Bool.and_eq_true_iff.mp hd
  obtain ⟨hdl, hdr⟩ := Bool.and_eq_true_iff.mp hd
  exact Formula.admits_apply hop hu c.compareText (hl _ _ hlf ha.left hdl)
    (hr _ _ hrf ha.right hdr) (by simpa using hdet)

theorem sound_unary {op : UnaryOperator} (hop : op.takes t = true)
    (hx : Sound n s x (.value t a)) : Sound n s (unary op x) (.value t a) := by
  intro k f hf ha hd
  obtain ⟨xf, hxf, hf⟩ := ok_of_bind (x := n.formula (x.tree k)) hf
  cases hf
  have hcells : (unary op x).render.cells = x.render.cells := by
    simp [render, Fragment.applied, Fragment.enclosed]
  rw [hcells] at ha
  exact Formula.admits_applyUnary hop (hx _ _ hxf ha hd)

/-- Whether two values are the same is never open, whatever they are. -/
theorem admits_same {negated : Bool} {l r : Expr} {f : Formula}
    (hf : n.formula (.same negated l r) = .ok f) (nullable : Bool) :
    (ResultType.value .boolean nullable).admits (f.eval s) = true := by
  obtain ⟨lf, rf, c, -, -, rfl⟩ := Names.formula_same hf
  rfl

theorem sound_compareNull (negated : Bool) (x : Term) :
    Sound n s (compareNull negated x) (.value .boolean true) :=
  fun _ _ hf _ _ => admits_same hf true

theorem sound_nullCompare (negated : Bool) (x : Term) :
    Sound n s (nullCompare negated x) (.value .boolean false) :=
  fun _ _ hf _ _ => admits_same hf false

theorem sound_isNull (negated : Bool) (x : Term) :
    Sound n s (isNull negated x) (.value .boolean false) :=
  fun _ _ hf _ _ => admits_same hf false

theorem sound_between (negated : Bool) {low high : Value} (hlow : low.type = t)
    (hhigh : high.type = t) (hx : Sound n s x (.value t a)) :
    Sound n s (between negated x low high) (.value .boolean a) := by
  intro k f hf ha hd
  obtain ⟨xf, hxf, hf⟩ := ok_of_bind (x := n.formula (x.tree k)) hf
  obtain ⟨lf, hlf, hf⟩ := ok_of_bind hf
  obtain ⟨rf, hrf, hf⟩ := ok_of_bind hf
  obtain ⟨lc, -, hf⟩ := ok_of_bind hf
  obtain ⟨rc, -, hf⟩ := ok_of_bind hf
  cases hf
  cases hlf
  cases hrf
  have hcells : (between negated x low high).render.cells =
      x.render.cells ++ [some low.store, some high.store] := by
    simp [render, Fragment.infixed]
  rw [hcells, references, ← List.append_nil x.references] at ha
  obtain ⟨hd, -⟩ := Bool.and_eq_true_iff.mp hd
  obtain ⟨hdx, -⟩ := Bool.and_eq_true_iff.mp hd
  refine Formula.admits_between negated (hx _ _ hxf ha.left hdx) ?_ ?_
  · rw [← hlow]
    exact ha.right.admits_value false
  · rw [← hhigh]
    exact ha.right.tail.admits_value false

theorem sound_inList (negated : Bool) {values : List Value} (hvalues : ∀ v ∈ values, v.type = t)
    (hx : Sound n s x (.value t a)) : Sound n s (inList negated x values) (.value .boolean a) := by
  intro k f hf ha hd
  obtain ⟨xf, hxf, hf⟩ := ok_of_bind (x := n.formula (x.tree k)) hf
  obtain ⟨fs, hfs, hf⟩ := ok_of_bind hf
  obtain ⟨c, -, hf⟩ := ok_of_bind hf
  cases hf
  have hcells : (inList negated x values).render.cells =
      x.render.cells ++ values.map fun v => some v.store := by
    rw [List.map_eq_flatMap]
    simp [render, Fragment.infixed, Fragment.applied, Fragment.enclosed, Fragment.cells_commas,
      List.flatMap_map]
  rw [hcells, references, ← List.append_nil x.references] at ha
  obtain ⟨hdx, -⟩ := Bool.and_eq_true_iff.mp hd
  have hitems := ha.right.admits_values hvalues hfs
  refine ResultType.admits_ofTruth fun hnone => ?_
  rw [Option.map_eq_none_iff] at hnone
  exact Formula.isAmong_eq_none (hx _ _ hxf ha.left hdx) hitems hnone

theorem sound_ifnull (hn : n.KeepsChoice) (htype : Function.ifnull.result types = some type)
    (h : AllSound n s xs types) : Sound n s (call .ifnull xs) type := by
  intro k f hf ha hd
  obtain ⟨fs, hfs, rfl⟩ := Names.formula_choice hn (.inl rfl) hf
  have hcells : (call .ifnull xs).render.cells = (renderAll xs).flatMap Fragment.cells := by
    simp [render, Fragment.applied, Fragment.enclosed, Fragment.cells_commas]
  rw [hcells] at ha
  exact admits_ifnull htype (h _ _ hfs ha hd)

theorem sound_coalesce (hn : n.KeepsChoice) (htypes : ∀ u ∈ types, u = .value t true)
    (h : AllSound n s xs types) : Sound n s (coalesce t xs) (.value t true) := by
  intro k f hf ha hd
  obtain ⟨fs, hfs, rfl⟩ := Names.formula_choice hn (.inr rfl) hf
  have hcells : (coalesce t xs).render.cells = (renderAll xs).flatMap Fragment.cells := by
    simp [render, Fragment.applied, Fragment.enclosed, Fragment.cells_commas]
  rw [hcells] at ha
  refine Formula.admits_firstValue fun d hd' => ?_
  obtain ⟨u, hu, hadmits⟩ := exists_of_forall₂ (h _ _ hfs ha hd) hd'
  rwa [htypes u hu] at hadmits

theorem allSound_nil : AllSound n s [] [] := by
  intro k fs hfs _ _
  cases hfs
  exact .nil

theorem allSound_cons (hx : Sound n s x type) (hxs : AllSound n s xs types) :
    AllSound n s (x :: xs) (type :: types) := by
  intro k fs hfs ha hd
  obtain ⟨f, hf, hfs⟩ := ok_of_bind (x := n.formula (x.tree k)) hfs
  obtain ⟨rest, hrest, hfs⟩ := ok_of_bind hfs
  cases hfs
  obtain ⟨hdx, hdxs⟩ := Bool.and_eq_true_iff.mp hd
  rw [renderAll, List.flatMap_cons, allReferences] at ha
  exact .cons (hx _ _ hf ha.left hdx) (hxs _ _ hrest ha.right hdxs)

end

mutual

/-- An expression that has a type by the rules has values that the type admits. -/
theorem sound (hn : n.KeepsChoice) {x : Term} {type : ResultType} (h : Typed x type) :
    Sound n s x type := by
  cases h with
  | column name => exact sound_column name type
  | qualified table name => exact sound_qualified table name type
  | value v => exact sound_value v
  | absent t => exact sound_absent t
  | present v => exact sound_present v
  | binary hop hu hl hr => exact sound_binary hop hu (sound hn hl) (sound hn hr)
  | unary hop hx => exact sound_unary hop (sound hn hx)
  | compareNull negated x => exact sound_compareNull negated x
  | nullCompare negated x => exact sound_nullCompare negated x
  | isNull negated x => exact sound_isNull negated x
  | between negated hlow hhigh hx => exact sound_between negated hlow hhigh (sound hn hx)
  | inList negated hvalues hx => exact sound_inList negated hvalues (sound hn hx)
  | ifnull htype hxs => exact sound_ifnull hn htype (allSound hn hxs)
  | coalesce htypes hxs => exact sound_coalesce hn htypes (allSound hn hxs)

theorem allSound (hn : n.KeepsChoice) {xs : List Term} {types : List ResultType}
    (h : AllTyped xs types) : AllSound n s xs types := by
  cases h with
  | nil => exact allSound_nil
  | cons hx hxs => exact allSound_cons (sound hn hx) (allSound hn hxs)

end

/-- An expression whose type is not nullable has a value other than `NULL`, unless some arithmetic
in it has none: a division or a remainder by zero, or reals of which no number can be made. -/
theorem eval_ne_null {x : Term} (hx : x.isTracked = true) {t : ValueType}
    (htype : x.type? = some (.value t false)) (hn : n.KeepsChoice) {f : Formula}
    (hf : n.formula (x.tree 0) = .ok f) (ha : Assigns n s 0 x.render.cells x.references)
    (hd : f.isDeterminate s = true) : f.eval s ≠ .null := by
  intro hnull
  have hadmits := sound hn (typed_of_type? x hx htype) _ _ hf ha hd
  rw [hnull] at hadmits
  cases hadmits

theorem eval_ne_null_condition :
    let a : Term := .column "a" (.value .integer false)
    let b : Term := .column "b" (.value .text true)
    let x : Term := .binary .and
      (.binary .less (.binary .divide a (.value (.integer 2))) (.value (.integer 5)))
      (.nullCompare true b)
    let n : Names := ⟨[], [], columnNames "t" ["a", "b"] 0 false, []⟩
    let s : Scope := ⟨[.integer 2, .integer 5, .null], [.integer 7, .null], []⟩
    ∃ f, n.formula (x.tree 0) = .ok f ∧ f.isDeterminate s = true ∧ f.eval s ≠ .null := by
  intro a b x n s
  have hn : n.KeepsChoice := fun f hf => by cases hf
  have hassigns : Assigns n s 0 x.render.cells x.references := by
    have hcells : x.render.cells = [some (.integer 2), some (.integer 5), none] := rfl
    have hcolumns : x.references = [⟨none, "a", .value .integer false⟩,
      ⟨none, "b", .value .text true⟩] := rfl
    rw [hcells, hcolumns]
    refine .of_parameters rfl (by simp) fun c hc f hf => ?_
    simp only [List.mem_cons, List.not_mem_nil, or_false] at hc
    rcases hc with rfl | rfl <;> cases hf <;> rfl
  exact ⟨_, rfl, rfl, eval_ne_null (x := x) rfl (t := .boolean) rfl hn rfl hassigns rfl⟩

/-- The types do not tell that a quotient by zero is `NULL`. -/
theorem eval_divide_zero {x : Term} (htype : x.type? = some (.value .integer false)) {f : Formula}
    (hf : n.formula ((binary .divide x (.value (.integer 0))).tree 0) = .ok f)
    (ha : Assigns n s 0 (binary .divide x (.value (.integer 0))).render.cells x.references) :
    (binary .divide x (.value (.integer 0))).type? = some (.value .integer false) ∧
      f.eval s = .null := by
  have hcells : (binary .divide x (.value (.integer 0))).render.cells =
      x.render.cells ++ [some (.integer 0)] := by
    simp [render, Fragment.infixed, Value.store]
  rw [hcells, ← List.append_nil x.references] at ha
  obtain ⟨lf, rf, c, -, hrf, rfl⟩ := Names.formula_binary rfl hf
  cases hrf
  refine ⟨by simp [type?, htype, Value.type, BinaryOperator.result, ValueType.isNumber], ?_⟩
  have hzero : (Formula.parameter (0 + x.marks + 1)).eval s = .integer 0 := ha.right.eval_parameter
  rw [Formula.eval, hzero, Formula.apply_divide_zero]

end Term

end TypedSql
