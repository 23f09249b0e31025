import TypedSql.Proofs.Fragment
import TypedSql.Proofs.Term.Structured
import TypedSql.Term.Render

/-!
Rendering and compiling expressions without SQL written by hand. Whatever names, texts and values
occur in one, its SQL is read from code to code, enters no comment, keeps its parentheses and has
one question mark for each cell it binds. Compiling it is rendering it with each leaf's literal in
the leaf's own place.
-/

namespace TypedSql

namespace Term

mutual

/-- The SQL of an expression, with each bound leaf in a form of its own. -/
def renderBy (leaf : Cell → Fragment) : Term → Fragment
  | .column name _ => .name name
  | .qualified table name _ => .name table ++ .raw "." ++ .name name
  | .verbatim sql cells _ => ⟨sql, cells⟩
  | .value v => leaf (some v.store)
  | .optional _ v => leaf (v.map Value.store)
  | .quoted text => .raw (quoteLiteral text)
  | .countRows => .raw "count(*)"
  | .random => .raw "random()"
  | .binary op l r => .infixed op.symbol (l.renderBy leaf) (r.renderBy leaf)
  | .unary op x => .applied op.symbol (x.renderBy leaf)
  | .compareNull negated x => x.renderBy leaf ++ .raw (" " ++ isWord negated ++ " ") ++ leaf none
  | .nullCompare negated x => leaf none ++ .raw (" " ++ isWord negated ++ " ") ++ x.renderBy leaf
  | .isNull negated x => .enclosed "(" (x.renderBy leaf) (" " ++ isWord negated ++ " NULL)")
  | .between negated x low high =>
      .infixed (negatable negated "BETWEEN") (x.renderBy leaf)
        (leaf (some low.store) ++ .raw " AND " ++ leaf (some high.store))
  | .inList negated x values =>
      .infixed (negatable negated "IN") (x.renderBy leaf)
        (.applied "" (.commas (values.map fun v => leaf (some v.store))))
  | .likeEscape x pattern escape =>
      .infixed "LIKE" (x.renderBy leaf)
        (leaf (some (.text pattern)) ++ .raw " ESCAPE " ++
          leaf (some (.text (String.singleton escape))))
  | .collate x collation => .infixed "COLLATE" (x.renderBy leaf) (.name collation.name)
  | .cast x type => .enclosed "CAST (" (x.renderBy leaf) (" AS " ++ type.declared ++ ")")
  | .call function arguments => .applied function.name (.commas (renderAllBy leaf arguments))
  | .coalesce _ arguments => .applied "coalesce" (.commas (renderAllBy leaf arguments))
  | .aggregate function distinct x =>
      .applied function.name
        (if distinct then .raw "DISTINCT " ++ x.renderBy leaf else x.renderBy leaf)
  | .userCall name arguments _ =>
      .applied (quoteIdentifier name) (.commas (renderAllBy leaf arguments))
  | .ordered x direction => x.renderBy leaf ++ .raw (" " ++ direction.keyword)
  | .untyped x => x.renderBy leaf
  | .infixed operator l r _ => .infixed operator (l.renderBy leaf) (r.renderBy leaf)
  | .wrapped function x _ => .applied function (x.renderBy leaf)
  | .joined separator parts => .joined separator (renderAllBy leaf parts)

def renderAllBy (leaf : Cell → Fragment) : List Term → List Fragment
  | [] => []
  | x :: xs => x.renderBy leaf :: renderAllBy leaf xs

end

theorem renderAllBy_eq_map (leaf : Cell → Fragment) (xs : List Term) :
    renderAllBy leaf xs = xs.map (renderBy leaf) := by
  induction xs with
  | nil => simp [renderAllBy]
  | cons x xs ih => simp [renderAllBy, ih]

mutual

/-- Rendering is rendering with each leaf bound to a question mark. -/
theorem renderBy_bound (x : Term) : x.renderBy .bound = x.render := by
  cases x with
  | binary op l r => simp only [renderBy, render, renderBy_bound l, renderBy_bound r]
  | infixed op l r => simp only [renderBy, render, renderBy_bound l, renderBy_bound r]
  | unary op x | compareNull n x | nullCompare n x | isNull n x | between n x | inList n x
  | likeEscape x | collate x | cast x | aggregate f d x | ordered x | untyped x | wrapped f x =>
      simp only [renderBy, render, renderBy_bound x]
  | call f xs | coalesce t xs | userCall n xs | joined s xs =>
      simp only [renderBy, render, renderAllBy_bound xs]
  | _ => simp only [renderBy, render]

theorem renderAllBy_bound (xs : List Term) : renderAllBy .bound xs = renderAll xs := by
  cases xs with
  | nil => simp only [renderAllBy, renderAll]
  | cons x xs => simp only [renderAllBy, renderAll, renderBy_bound x, renderAllBy_bound xs]

end

/-- The SQL of an expression with each leaf's literal in its place. -/
def inlined (x : Term) : Fragment := x.renderBy fun cell => .raw cell.literal

end Term

/-! ## The words of the algebra -/

theorem word_binary (op : BinaryOperator) : Word 0 0 (" " ++ op.symbol ++ " ") := by
  cases op <;> decide

theorem word_unary (op : UnaryOperator) : Word 0 1 (op.symbol ++ "(") := by
  cases op <;> decide

theorem word_function (f : Function) : Word 0 1 (f.name ++ "(") := by
  cases f <;> decide

theorem word_aggregate (f : Aggregate) : Word 0 1 (f.name ++ "(") := by
  cases f <;> decide

theorem word_isWord (negated : Bool) : Word 0 0 (" " ++ Term.isWord negated ++ " ") := by
  cases negated <;> decide

theorem breaks_isWord (negated : Bool) (w : String) :
    Breaks (" " ++ Term.isWord negated ++ w) :=
  (breaks_space.append (Term.isWord negated)).append w

theorem reads_isNull (negated : Bool) :
    Reads 1 0 0 (" " ++ Term.isWord negated ++ " NULL)").toList := by
  cases negated <;> decide

theorem reads_direction (direction : Direction) : Reads 0 0 0 (" " ++ direction.keyword).toList := by
  cases direction <;> decide

theorem reads_declared (type : ValueType) : Reads 1 0 0 (" AS " ++ type.declared ++ ")").toList := by
  cases type <;> decide

theorem word_negatable (negated : Bool) {predicate : String}
    (h : predicate = "BETWEEN" ∨ predicate = "IN") :
    Word 0 0 (" " ++ Term.negatable negated predicate ++ " ") := by
  rcases h with rfl | rfl <;> cases negated <;> decide

theorem Fragment.InlinesTo.name_self (name : String) :
    (Fragment.name name).InlinesTo 0 0 (.name name) :=
  raw_self (reads_quoteIdentifier name)

/-! ## Inlining by structure -/

namespace Term

open Fragment (InlinesTo)

theorem commas_inlinesTo {xs : List Term} (h : ∀ x ∈ xs, x.render.InlinesTo 0 0 x.inlined) :
    (Fragment.commas (renderAll xs)).InlinesTo 0 0
      (.commas (renderAllBy (fun cell => .raw cell.literal) xs)) := by
  rw [renderAll_eq_map, renderAllBy_eq_map]
  exact InlinesTo.commas h

mutual

/-- An expression is inlined by inlining its leaves. -/
theorem inlinesTo_inlined (x : Term) (h : x.isStructured = true) :
    x.render.InlinesTo 0 0 x.inlined := by
  cases x with
  | column name _ => exact .name_self name
  | qualified table name _ =>
      exact (InlinesTo.name_self table).between (by decide) (by decide) (.name_self name)
  | verbatim | infixed | wrapped | joined => simp [isStructured] at h
  | value v => exact .bound_raw (some v.store)
  | optional _ v => exact .bound_raw (v.map Value.store)
  | quoted text => exact .raw_self (reads_quoteLiteral text)
  | countRows => exact .raw_self (by decide)
  | random => exact .raw_self (by decide)
  | binary op l r =>
      rw [isStructured, Bool.and_eq_true] at h
      exact .infixed (word_binary op) (l.inlinesTo_inlined h.1) (r.inlinesTo_inlined h.2)
  | unary op x => exact .applied (word_unary op) (x.inlinesTo_inlined h)
  | compareNull negated x =>
      exact (x.inlinesTo_inlined h).between (word_isWord negated) (breaks_isWord negated " ")
        (.bound_raw none)
  | nullCompare negated x =>
      exact (InlinesTo.bound_raw none).between (word_isWord negated) (breaks_isWord negated " ")
        (x.inlinesTo_inlined h)
  | isNull negated x =>
      have hx := (x.inlinesTo_inlined h).within 1
      have hopen : Word 0 1 "(" := by decide
      exact .enclosed hopen hx (reads_isNull negated) (breaks_isWord negated " NULL)")
  | between negated x low high =>
      have bounds := (InlinesTo.bound_raw (some low.store)).between (w := " AND ") (by decide)
        (by decide) (.bound_raw (some high.store))
      exact .infixed (word_negatable negated (.inl rfl)) (x.inlinesTo_inlined h) bounds
  | inList negated x values =>
      have list : (Fragment.commas (values.map fun v => .bound (some v.store))).InlinesTo 0 0
          (.commas (values.map fun v => .raw (Cell.literal (some v.store)))) :=
        .commas fun v _ => .bound_raw (some v.store)
      have hopen : Word 0 1 ("" ++ "(") := by decide
      exact .infixed (word_negatable negated (.inr rfl)) (x.inlinesTo_inlined h)
        (.applied hopen list)
  | likeEscape x pattern escape =>
      have operand := (InlinesTo.bound_raw (some (.text pattern))).between (w := " ESCAPE ")
        (by decide) (by decide) (.bound_raw (some (.text (String.singleton escape))))
      exact .infixed (word_binary .like) (x.inlinesTo_inlined h) operand
  | collate x collation =>
      have hop : Word 0 0 (" " ++ "COLLATE" ++ " ") := by decide
      exact .infixed hop (x.inlinesTo_inlined h) (.name_self collation.name)
  | cast x type =>
      have hx := (x.inlinesTo_inlined h).within 1
      have hopen : Word 0 1 "CAST (" := by decide
      have hb : Breaks " AS " := by decide
      exact .enclosed hopen hx (reads_declared type) ((hb.append type.declared).append ")")
  | call f xs =>
      exact .applied (word_function f) (commas_inlinesTo (inlinesTo_inlined_of_mem xs h))
  | coalesce _ xs =>
      have hopen : Word 0 1 ("coalesce" ++ "(") := by decide
      exact .applied hopen (commas_inlinesTo (inlinesTo_inlined_of_mem xs h))
  | userCall name xs _ =>
      exact .applied (.open_after (reads_quoteIdentifier name))
        (commas_inlinesTo (inlinesTo_inlined_of_mem xs h))
  | aggregate f distinct x =>
      have hx := x.inlinesTo_inlined h
      have hword : Word 0 0 "DISTINCT " := by decide
      cases distinct with
      | false => exact .applied (word_aggregate f) hx
      | true => exact .applied (word_aggregate f) (.word_append hword hx)
  | ordered x direction =>
      exact (x.inlinesTo_inlined h).append_word (reads_direction direction)
        (breaks_space.append direction.keyword)
  | untyped x => exact x.inlinesTo_inlined h

theorem inlinesTo_inlined_of_mem (xs : List Term) (h : allStructured xs = true) :
    ∀ x ∈ xs, x.render.InlinesTo 0 0 x.inlined := by
  cases xs with
  | nil => simp
  | cons y ys =>
      rw [allStructured, Bool.and_eq_true] at h
      exact List.forall_mem_cons.mpr ⟨y.inlinesTo_inlined h.1, inlinesTo_inlined_of_mem ys h.2⟩

end

end Term

/-! ## What a reader of the SQL may rely on -/

/-- The SQL of a fragment is closed in itself: read from code it ends in code and enters no
comment on the way, its parentheses match, and its parameters are one bare question mark for each
cell. -/
structure Fragment.SelfContained (x : Fragment) : Prop where
  ends : (Mode.code.after x.sql.toList).region = .code
  calm : ∀ p, p <+: x.sql.toList → (Mode.code.after p).inComment = false
  marks : parameters x.sql.toList = List.replicate x.cells.length (.positional [])
  nested : parenDepth 0 (Mode.code.bare x.sql.toList) = some 0

theorem Fragment.InlinesTo.selfContained {x y : Fragment} (h : x.InlinesTo 0 0 y) :
    x.SelfContained :=
  ⟨h.source.ends, (Mode.staysOut_iff _ _).mp h.source.calm, h.source.marks, h.source.nested⟩

namespace Term

/-- No name, text or value in an expression can change how the SQL around it is read. -/
theorem render_selfContained (x : Term) (h : x.isStructured = true) : x.render.SelfContained :=
  (x.inlinesTo_inlined h).selfContained

theorem render_selfContained_hostile :
    (Term.binary .and
      (.binary .equal (.column "a\" -- ?1" .untyped) (.value (.text "it's /* :b")))
      (.userCall "f(\"" [.unary .negate (.value (.integer (-1))), .quoted "'?"]
        .untyped)).render.SelfContained :=
  render_selfContained _ (by decide)

/-- Nor can one in an operand of operations that are chained. -/
theorem selfContained_chain {x : Term} (hx : x.isStructured = true) {operations : List Operation}
    (h : ∀ o ∈ operations, o.isStructured = true) : (x.chain operations).render.SelfContained :=
  ((x.chain operations).inlinesTo_inlined (isStructured_chain hx h)).selfContained

/-- Compiling an expression is rendering it with each leaf's own literal in the leaf's place, and
nothing in the text that this gives is a parameter. -/
theorem compile_eq_inlined (x : Term) (h : x.isStructured = true) :
    x.render = x.renderBy .bound ∧ x.compile = .ok x.inlined.sql ∧
      inlinePositional x.inlined.sql [] = .ok x.inlined.sql := by
  have hx := x.inlinesTo_inlined h
  exact ⟨x.renderBy_bound.symm, hx.compile, hx.target_inlinePositional⟩

theorem compile_eq_inlined_hostile :
    (Term.binary .subtract (.column "?" .untyped) (.value (.text "'?1' -- :a"))).compile =
      .ok "(\"?\" - '''?1'' -- :a')" := by
  have h := (compile_eq_inlined (.binary .subtract (.column "?" .untyped)
    (.value (.text "'?1' -- :a"))) (by decide)).2.1
  exact h

end Term

end TypedSql
