import TypedSql.Proofs.Term.Nesting
import TypedSql.Proofs.Term.Words

/-!
The text of an expression, read by the precedence of its operators. It is one sequence of operands
with the operators that have no parentheses around them in between, and in the parentheses of each
operand there is such a sequence again. That holds of an expression if it holds of its parts,
whatever it is followed by, as long as that begins apart from it.
-/

namespace TypedSql

open Sql (Expr Primary Link Level operatorLevel StaysNegated Begins Follows Path Tight Whole Ends
  Parameters Reader solid symbolToken)

/-- What may come after an expression: nothing, or something that begins apart from it. -/
structure Bounded (rest : List Char) : Prop where
  mark : ∀ c ∈ rest.head?, c = ' ' ∨ c = ')' ∨ c = ','
  apart : ∀ t ∈ (solid rest).head?, t.isSymbol "(" = false ∧ t.isSymbol "." = false

namespace Bounded

variable {rest : List Char}

theorem of_token {t : Sql.Token} {ts : List Sql.Token}
    (hmark : ∀ c ∈ rest.head?, c = ' ' ∨ c = ')' ∨ c = ',')
    (h : solid rest = t :: ts) (ht : t.isSymbol "(" = false ∧ t.isSymbol "." = false) :
    Bounded rest where
  mark := hmark
  apart := by
    rw [h]
    intro u hu
    cases hu
    exact ht

theorem nil : Bounded [] where
  mark := nofun
  apart := by
    rw [solid_nil]
    nofun

theorem close (s : List Char) : Bounded (')' :: s) :=
  .of_token (by simp) (solid_close s) ⟨rfl, rfl⟩

theorem digits (h : Bounded rest) : ∀ c ∈ rest.head?, c.isDigit = false := by
  intro c hc
  rcases h.mark c hc with rfl | rfl | rfl <;> decide

theorem quotes (h : Bounded rest) {mark : Char} (hmark : mark = '"' ∨ mark = '\'') :
    rest.head? ≠ some mark := by
  intro hrest
  rcases h.mark mark hrest with rfl | rfl | rfl <;> simp at hmark

end Bounded

namespace Term

mutual

/-- Whether an expression consists of operators, predicates, functions and leaves: it has no SQL
written by hand, and no order, which is for clauses. -/
def isExpression : Term → Bool
  | .column .. | .qualified .. | .value _ | .optional .. | .quoted _ | .countRows | .random => true
  | .verbatim .. | .infixed .. | .wrapped .. | .joined .. | .ordered .. => false
  | .binary _ l r => l.isExpression && r.isExpression
  | .unary _ x | .compareNull _ x | .nullCompare _ x | .isNull _ x | .between _ x _ _
  | .inList _ x _ | .likeEscape x _ _ | .collate x _ | .cast x _ | .aggregate _ _ x
  | .untyped x => x.isExpression
  | .call _ arguments | .coalesce _ arguments | .userCall _ arguments _ => allExpressions arguments

def allExpressions : List Term → Bool
  | [] => true
  | x :: xs => x.isExpression && allExpressions xs

end

/-- The text of an expression stands for the operands that it leaves without parentheses, wherever
it is followed by something apart from it. -/
def IsRead (x : Term) : Prop :=
  ∀ rest params, Bounded rest → params.count + x.marks ≤ maxParameter →
    ∃ m, Begins ⟨solid (x.sql.toList ++ rest), params⟩ (x.spread params.count).1 m ∧
      Path m (x.spread params.count).2 ⟨solid rest, params.skip x.marks⟩

section
variable {x y l r : Term} {rest : List Char} {params : Parameters}

/-- An expression that is one operand. -/
theorem IsRead.single {e : Nat → Expr} (hspread : ∀ k, x.spread k = (⟨false, e k⟩, []))
    (h : ∀ rest params, Bounded rest → params.count + x.marks ≤ maxParameter →
      Tight ⟨solid (x.sql.toList ++ rest), params⟩ (e params.count)
        ⟨solid rest, params.skip x.marks⟩) : x.IsRead := by
  intro rest params hrest hcount
  rw [hspread]
  exact ⟨_, .plain (h rest params hrest hcount), .nil⟩

/-- An expression up to a token that ends it. -/
theorem IsRead.whole (h : x.IsRead) (hrest : Bounded rest)
    (hcount : params.count + x.marks ≤ maxParameter)
    (hends : Ends ⟨solid rest, params.skip x.marks⟩) :
    Whole ⟨solid (x.sql.toList ++ rest), params⟩ (x.reading params.count)
      ⟨solid rest, params.skip x.marks⟩ := by
  obtain ⟨m, hbegins, hm⟩ := h rest params hrest hcount
  exact .of_path hbegins hm hends

/-- An expression up to a closing parenthesis. -/
theorem IsRead.whole_close (h : x.IsRead) (rest : List Char)
    (hcount : params.count + x.marks ≤ maxParameter) :
    Whole ⟨solid (x.sql.toList ++ ')' :: rest), params⟩ (x.reading params.count)
      ⟨symbolToken ")" :: solid rest, params.skip x.marks⟩ := by
  have hends : Ends ⟨solid (')' :: rest), params.skip x.marks⟩ := by
    rw [solid_close]
    exact Sql.ends_close _ _
  have hwhole := h.whole (.close rest) hcount hends
  rwa [solid_close] at hwhole

/-- An expression up to a comma. -/
theorem IsRead.whole_comma (h : x.IsRead) (rest : List Char)
    (hcount : params.count + x.marks ≤ maxParameter) :
    Whole ⟨solid (x.sql.toList ++ (", ".toList ++ rest)), params⟩ (x.reading params.count)
      ⟨symbolToken "," :: solid rest, params.skip x.marks⟩ := by
  have hcomma : Bounded (", ".toList ++ rest) :=
    .of_token (by simp) (solid_comma rest) ⟨rfl, rfl⟩
  have hends : Ends ⟨solid (", ".toList ++ rest), params.skip x.marks⟩ := by
    rw [solid_comma]
    exact Sql.ends_comma _ _
  have hwhole := h.whole hcomma hcount hends
  rwa [solid_comma] at hwhole

/-- An expression in parentheses. -/
theorem IsRead.tight (h : x.IsRead) (rest : List Char)
    (hcount : params.count + x.marks ≤ maxParameter) :
    Tight ⟨symbolToken "(" :: solid (x.sql.toList ++ ')' :: rest), params⟩ (x.reading params.count)
      ⟨solid rest, params.skip x.marks⟩ :=
  Sql.tight_parentheses (h.whole_close rest hcount)

/-- An expression in parentheses with further links after it. -/
theorem IsRead.followed (h : x.IsRead) {n : Nat} {w : List Char} {f : Nat → List Link}
    (hspread : ∀ k, y.spread k =
      (⟨false, (x.spread k).1.reading ((x.spread k).2 ++ f (k + x.marks))⟩, []))
    (htext : ∀ rest, y.sql.toList ++ rest = '(' :: (x.sql.toList ++ (w ++ ')' :: rest)))
    (hmarks : y.marks = x.marks + n) (hsuffix : ∀ rest, Bounded (w ++ rest))
    (hlinks : ∀ rest params, params.count + n ≤ maxParameter →
      Path ⟨solid (w ++ ')' :: rest), params⟩ (f params.count)
        ⟨symbolToken ")" :: solid rest, params.skip n⟩) : y.IsRead := by
  refine .single hspread fun rest params _ hcount => ?_
  rw [hmarks, ← Nat.add_assoc] at hcount
  obtain ⟨m, hbegins, hm⟩ := h _ params (hsuffix (')' :: rest)) (by omega)
  have hpath := hm.append (hlinks rest (params.skip x.marks) hcount)
  rw [Parameters.skip_skip, ← hmarks] at hpath
  rw [htext, solid_open]
  exact Sql.tight_parentheses (.of_path hbegins hpath (Sql.ends_close _ _))

/-! ## Leaves -/

theorem isRead_mark (hsql : x.sql = "?") (hmarks : x.marks = 1)
    (hspread : ∀ k, x.spread k = (⟨false, .parameter (k + 1)⟩, [])) : x.IsRead := by
  refine .single hspread fun rest params hrest hcount => ?_
  have htext : x.sql.toList ++ rest = '?' :: rest := by
    rw [hsql]
    rfl
  rw [hmarks] at hcount
  rw [htext, Sql.solid_mark hrest.digits, hmarks]
  exact Sql.tight_mark hcount

theorem isRead_column (name : String) (type : ResultType) : (Term.column name type).IsRead := by
  refine .single (e := fun _ => .name none name true 0) (fun _ => rfl) fun rest params hrest _ => ?_
  show Tight ⟨solid ((quoteIdentifier name).toList ++ rest), params⟩ _ ⟨solid rest, params⟩
  rw [Sql.solid_name name (hrest.quotes (.inl rfl))]
  exact Sql.tight_column name hrest.apart

theorem isRead_qualified (table name : String) (type : ResultType) :
    (Term.qualified table name type).IsRead := by
  refine .single (e := fun _ => .name (some table) name false 0) (fun _ => rfl)
    fun rest params hrest _ => ?_
  have htext : (Term.qualified table name type).sql.toList ++ rest =
      (quoteIdentifier table).toList ++ '.' :: ((quoteIdentifier name).toList ++ rest) := by
    simp [sql, render, Fragment.name]
  show Tight ⟨_, params⟩ _ ⟨solid rest, params⟩
  rw [htext, Sql.solid_name table (by simp), solid_dot,
    Sql.solid_name name (hrest.quotes (.inl rfl))]
  exact Sql.tight_qualified table name

theorem isRead_quoted (text : String) : (Term.quoted text).IsRead := by
  refine .single (e := fun _ => .literal (.ofText text)) (fun _ => rfl)
    fun rest params hrest _ => ?_
  show Tight ⟨solid ((quoteLiteral text).toList ++ rest), params⟩ _ ⟨solid rest, params⟩
  rw [Sql.solid_literal text (hrest.quotes (.inr rfl))]
  exact Sql.tight_text text

theorem isRead_countRows : Term.countRows.IsRead := by
  refine .single (e := fun _ => .callStar "count" 0) (fun _ => rfl) fun rest params _ _ => ?_
  show Tight ⟨solid ("count(*)".toList ++ rest), params⟩ _ ⟨solid rest, params⟩
  rw [solid_countRows]
  exact Sql.tight_callStar (names_word (by decide))

theorem isRead_random : Term.random.IsRead := by
  refine .single (e := fun _ => .call "random" false [] 0) (fun _ => rfl) fun rest params _ _ => ?_
  show Tight ⟨solid ("random()".toList ++ rest), params⟩ _ ⟨solid rest, params⟩
  rw [solid_random]
  exact Sql.tight_call_nil (names_word (by decide))

/-! ## Operators -/

theorem isRead_binary (op : BinaryOperator) (hl : l.IsRead) (hr : r.IsRead) :
    (Term.binary op l r).IsRead := by
  refine hl.followed (n := r.marks) (w := (" " ++ op.symbol ++ " ").toList ++ r.sql.toList)
    (f := fun k => .operator (operatorLevel op).rank (.binary op) (r.spread k).1 :: (r.spread k).2)
    (fun _ => rfl) (fun rest => ?_) ?_ (fun rest => ?_) fun rest params hcount => ?_
  · simp [sql, render, Fragment.infixed]
  · simp [marks, render, Fragment.infixed]
  · rw [List.append_assoc]
    exact .of_token (by simp) (solid_binary op _) (by cases op <;> exact ⟨rfl, rfl⟩)
  · -- what is open at the end of the right operand ends at the parenthesis
    obtain ⟨m, hbegins, hm⟩ := hr _ params (.close rest) hcount
    rw [List.append_assoc, solid_binary]
    rw [solid_close] at hm
    exact .cons (Sql.follows_binary op op.infix?_token op.token_escape hbegins) hm

/-! ## Signs -/

theorem staysNegated_spread_append {k : Nat} {ls : List Link}
    (hx : StaysNegated (x.spread k).1.value) (hls : ∀ l ∈ ls, l.StaysNegated) :
    StaysNegated ((x.spread k).1.reading ((x.spread k).2 ++ ls)) := by
  apply Sql.staysNegated_reading hx
  intro l hl
  rcases List.mem_append.mp hl with hl | hl
  · obtain ⟨n, q, rfl⟩ := (x.spreads k).bare.same l hl
    intro y z
    rfl
  · exact hls l hl

theorem staysNegated_reading_of_spread {k : Nat} (hx : StaysNegated (x.spread k).1.value) :
    StaysNegated (x.reading k) := by
  have hnil : ∀ l ∈ ([] : List Link), l.StaysNegated := fun l hl => absurd hl List.not_mem_nil
  have h := staysNegated_spread_append hx hnil
  rwa [List.append_nil] at h

/-- No expression begins with a number: values are bound. -/
theorem staysNegated_spread (k : Nat) (x : Term) : StaysNegated (x.spread k).1.value := by
  cases x with
  | binary op l r =>
      apply staysNegated_spread_append (staysNegated_spread k l)
      intro m hm
      rcases List.mem_cons.mp hm with rfl | hm
      · intro y z
        rfl
      · obtain ⟨n, q, rfl⟩ := (r.spreads _).bare.same m hm
        intro y z
        rfl
  | unary op x =>
      cases op with
      | not => exact staysNegated_reading_of_spread (staysNegated_spread k x)
      | _ => rfl
  | compareNull negated x => exact staysNegated_spread k x
  | untyped x => exact staysNegated_spread k x
  | isNull negated x | between negated x | inList negated x | likeEscape x | collate x =>
      apply staysNegated_spread_append (staysNegated_spread k x)
      intro m hm
      cases List.mem_singleton.mp hm
      simp [Link.same, Link.StaysNegated, StaysNegated, Sql.negated]
  | _ => rfl

theorem staysNegated_reading (k : Nat) (x : Term) : StaysNegated (x.reading k) :=
  staysNegated_reading_of_spread (staysNegated_spread k x)

theorem isRead_unary (op : UnaryOperator) (hx : x.IsRead) : (Term.unary op x).IsRead := by
  intro rest params hrest hcount
  have htext : (Term.unary op x).sql.toList ++ rest =
      (op.symbol ++ "(").toList ++ (x.sql.toList ++ ')' :: rest) := by
    simp [sql, render, Fragment.applied, Fragment.enclosed]
  have hmarks : (Term.unary op x).marks = x.marks := by
    simp [marks, render, Fragment.applied, Fragment.enclosed]
  rw [hmarks] at hcount ⊢
  rw [htext, solid_unary]
  have htight := hx.tight rest hcount
  cases op with
  | negate => exact ⟨_, .plain (Sql.tight_negate htight (x.staysNegated_reading _)), .nil⟩
  | complement => exact ⟨_, .plain (Sql.tight_complement htight), .nil⟩
  | not => exact ⟨_, .not rfl htight, .nil⟩

/-! ## Comparisons with `NULL` -/

theorem follows_isTokens (negated : Bool) {ts : List Sql.Token} {p : Primary} {s : Reader}
    (hp : Begins ⟨ts, params⟩ p s) :
    Follows ⟨isTokens negated ++ ts, params⟩ (.is negated p) s := by
  cases negated with
  | false => exact Sql.follows_is hp
  | true => exact Sql.follows_isNot hp

/-- `IS` or `IS NOT` before what is read by itself. -/
theorem follows_isTokens_plain (negated : Bool) {ts : List Sql.Token} {v : Expr} {s : Reader}
    (hv : Tight ⟨ts, params⟩ v s) :
    Follows ⟨isTokens negated ++ ts, params⟩ (.same negated ⟨false, v⟩) s := by
  have h := follows_isTokens negated (.plain hv)
  rwa [Link.is, Bool.and_false, if_neg Bool.false_ne_true] at h

theorem bounded_isWord (negated : Bool) (s : List Char) :
    Bounded ((" " ++ isWord negated ++ " ").toList ++ s) := by
  cases negated with
  | _ => exact .of_token (by simp) (solid_isWord _ s) ⟨rfl, rfl⟩

theorem isRead_compareNull (negated : Bool) (hx : x.IsRead) : (compareNull negated x).IsRead := by
  intro rest params hrest hcount
  have htext : (compareNull negated x).sql.toList ++ rest =
      x.sql.toList ++ ((" " ++ isWord negated ++ " ").toList ++ '?' :: rest) := by
    simp [sql, render]
  have hmarks : (compareNull negated x).marks = x.marks + 1 := by simp [marks, render]
  rw [hmarks] at hcount ⊢
  obtain ⟨m, hbegins, hm⟩ := hx _ params (bounded_isWord negated ('?' :: rest)) (by omega)
  have hlast : (params.skip x.marks).count < maxParameter := Nat.lt_of_succ_le hcount
  rw [solid_isWord, Sql.solid_mark hrest.digits] at hm
  rw [htext]
  refine ⟨m, hbegins, hm.append ?_⟩
  rw [← Parameters.skip_skip]
  exact .cons (follows_isTokens_plain negated (Sql.tight_mark hlast)) .nil

theorem isRead_nullCompare (negated : Bool) (hx : x.IsRead) : (nullCompare negated x).IsRead := by
  intro rest params hrest hcount
  have htext : (nullCompare negated x).sql.toList ++ rest =
      '?' :: ((" " ++ isWord negated ++ " ").toList ++ (x.sql.toList ++ rest)) := by
    simp [sql, render]
  have hmarks : (nullCompare negated x).marks = 1 + x.marks := by
    rw [marks, render, Fragment.cells_append, List.length_append]
    rfl
  rw [hmarks] at hcount ⊢
  have hbound := bounded_isWord negated (x.sql.toList ++ rest)
  -- the mark before it is the next parameter, so those of `x` come one later
  obtain ⟨m, hbegins, hm⟩ := hx rest (params.skip 1) hrest
    (show params.count + 1 + x.marks ≤ maxParameter by omega)
  rw [htext, Sql.solid_mark hbound.digits, solid_isWord]
  refine ⟨_, .plain (Sql.tight_mark (by omega)), .cons (follows_isTokens negated hbegins) ?_⟩
  rw [← Parameters.skip_skip]
  exact hm

theorem isRead_isNull (negated : Bool) (hx : x.IsRead) : (isNull negated x).IsRead := by
  refine hx.followed (n := 0) (w := (" " ++ isWord negated ++ " ").toList ++ "NULL".toList)
    (f := fun _ => [.same negated ⟨false, .literal .null⟩]) (fun _ => rfl) (fun rest => ?_) ?_
    (fun rest => ?_) fun rest params _ => ?_
  · simp [sql, render, Fragment.enclosed]
  · simp [marks, render, Fragment.enclosed]
  · rw [List.append_assoc]
    exact bounded_isWord negated _
  · rw [List.append_assoc, solid_isWord, solid_word "NULL" ')' (by decide) (fun _ => rfl),
      solid_close]
    exact .cons (follows_isTokens_plain negated Sql.tight_null) .nil

/-! ## Predicates with values of their own -/

theorem bounded_negatable (negated : Bool) {word : String} (h : word = "BETWEEN" ∨ word = "IN")
    (s : List Char) : Bounded ((" " ++ negatable negated word ++ " ").toList ++ s) := by
  have htext := solid_negatable negated h s
  cases negated with
  | _ => exact .of_token (by simp) htext ⟨rfl, rfl⟩

theorem isRead_between (negated : Bool) (low high : Value) (hx : x.IsRead) :
    (between negated x low high).IsRead := by
  refine hx.followed (n := 2)
    (w := (" " ++ negatable negated "BETWEEN" ++ " ").toList ++ '?' :: (" AND ".toList ++ ['?']))
    (f := fun k => [.predicate Level.equality.rank fun y =>
      .between negated y (.parameter (k + 1)) (.parameter (k + 2))])
    (fun _ => rfl) (fun rest => ?_) ?_ (fun rest => ?_) fun rest params hcount => ?_
  · simp [sql, render, Fragment.infixed]
  · simp [marks, render, Fragment.infixed]
  · rw [List.append_assoc]
    exact bounded_negatable negated (.inl rfl) _
  · have htext : ('?' :: (" AND ".toList ++ ['?'])) ++ ')' :: rest =
        '?' :: (" AND ".toList ++ '?' :: ')' :: rest) := by
      simp
    rw [List.append_assoc, solid_negatable negated (.inl rfl), htext, Sql.solid_mark (by simp),
      solid_and, Sql.solid_mark (by simp), solid_close]
    exact .cons (Sql.follows_between negated hcount (Sql.ends_close _ _)) .nil

theorem isRead_likeEscape (pattern : String) (escape : Char) (hx : x.IsRead) :
    (likeEscape x pattern escape).IsRead := by
  refine hx.followed (n := 2)
    (w := (" " ++ BinaryOperator.like.symbol ++ " ").toList ++
      '?' :: (" ESCAPE ".toList ++ ['?']))
    (f := fun k => [.predicate Level.equality.rank fun y =>
      .likeEscape y (.parameter (k + 1)) (.parameter (k + 2))])
    (fun _ => rfl) (fun rest => ?_) ?_ (fun rest => ?_) fun rest params hcount => ?_
  · simp [sql, render, Fragment.infixed, BinaryOperator.symbol]
  · simp [marks, render, Fragment.infixed]
  · rw [List.append_assoc]
    exact .of_token (by simp) (solid_binary .like _) ⟨rfl, rfl⟩
  · have htext : ('?' :: (" ESCAPE ".toList ++ ['?'])) ++ ')' :: rest =
        '?' :: (" ESCAPE ".toList ++ '?' :: ')' :: rest) := by
      simp
    rw [List.append_assoc, solid_binary, htext, Sql.solid_mark (by simp), solid_escape,
      Sql.solid_mark (by simp), solid_close]
    exact .cons (Sql.follows_likeEscape hcount (Sql.ends_close _ _)) .nil

theorem isRead_collate (collation : Collation) (hx : x.IsRead) : (collate x collation).IsRead := by
  refine hx.followed (n := 0) (w := " COLLATE ".toList ++ (quoteIdentifier collation.name).toList)
    (f := fun _ => [.predicate Level.collate.rank fun y => .collate y collation.name])
    (fun _ => rfl) (fun rest => ?_) ?_ (fun rest => ?_) fun rest params _ => ?_
  · simp [sql, render, Fragment.infixed, Fragment.name]
  · simp [marks, render, Fragment.infixed, Fragment.name]
  · rw [List.append_assoc]
    exact .of_token (by simp) (solid_collate _) ⟨rfl, rfl⟩
  · rw [List.append_assoc, solid_collate, Sql.solid_name _ (by simp), solid_close]
    exact .cons (Sql.follows_collate collation.name) .nil

/-! ## Functions -/

theorem isRead_cast (type : ValueType) (hx : x.IsRead) : (cast x type).IsRead := by
  refine .single (e := fun k => .cast (x.reading k) type.declared) (fun _ => rfl)
    fun rest params _ hcount => ?_
  have htext : (cast x type).sql.toList ++ rest =
      "CAST (".toList ++ (x.sql.toList ++ ((" AS " ++ type.declared ++ ")").toList ++ rest)) := by
    simp [sql, render, Fragment.enclosed]
  have hmarks : (cast x type).marks = x.marks := by simp [marks, render, Fragment.enclosed]
  rw [hmarks] at hcount ⊢
  have hbound : Bounded ((" AS " ++ type.declared ++ ")").toList ++ rest) :=
    .of_token (by simp) (solid_declared type rest) ⟨rfl, rfl⟩
  have hwhole := hx.whole hbound hcount (by
    rw [solid_declared]
    exact Sql.ends_as _ _)
  rw [solid_declared] at hwhole
  rw [htext, solid_cast]
  exact Sql.tight_cast (by cases type <;> rfl) hwhole

/-- Expressions with commas between them, before a closing parenthesis. -/
theorem items_renderAll {xs : List Term} (hne : xs ≠ []) (h : ∀ x ∈ xs, x.IsRead) (rest : List Char)
    (params : Parameters)
    (hcount : params.count + (Fragment.commas (renderAll xs)).cells.length ≤ maxParameter) :
    Sql.Items ⟨solid ((Fragment.commas (renderAll xs)).sql.toList ++ ')' :: rest), params⟩
      (readings params.count xs)
      ⟨symbolToken ")" :: solid rest,
        params.skip (Fragment.commas (renderAll xs)).cells.length⟩ := by
  induction xs generalizing params with
  | nil => exact absurd rfl hne
  | cons x xs ih =>
      have hx := h x List.mem_cons_self
      cases xs with
      | nil =>
          have hwhole := hx.whole_close rest hcount
          exact .last hwhole fun t ht => by
            cases ht
            rfl
      | cons y ys =>
          -- every item but the last ends at a comma
          have hcells : (Fragment.commas (renderAll (x :: y :: ys))).cells.length =
              x.marks + (Fragment.commas (renderAll (y :: ys))).cells.length := by
            simp [Fragment.commas, Fragment.joined, renderAll, marks]
          have htext : (Fragment.commas (renderAll (x :: y :: ys))).sql.toList ++ ')' :: rest =
              x.sql.toList ++ (", ".toList ++
                ((Fragment.commas (renderAll (y :: ys))).sql.toList ++ ')' :: rest)) := by
            simp [Fragment.commas, Fragment.joined, renderAll, sql]
          rw [hcells, ← Nat.add_assoc] at hcount
          have hitems := ih (List.cons_ne_nil y ys) (fun z hz => h z (List.mem_cons_of_mem x hz))
            (params.skip x.marks) hcount
          have hwhole := hx.whole_comma
            ((Fragment.commas (renderAll (y :: ys))).sql.toList ++ ')' :: rest)
            (show params.count + x.marks ≤ maxParameter by omega)
          rw [Parameters.skip_skip, ← hcells] at hitems
          rw [htext]
          exact .cons hwhole hitems

/-- Expressions in parentheses, or none. -/
theorem items_parentheses {xs : List Term} (h : ∀ x ∈ xs, x.IsRead) (rest : List Char)
    (params : Parameters)
    (hcount : params.count + (Fragment.commas (renderAll xs)).cells.length ≤ maxParameter) :
    (solid rest).length < (symbolToken "(" ::
        solid ((Fragment.commas (renderAll xs)).sql.toList ++ ')' :: rest)).length ∧
      ∀ fuel, 4 * (symbolToken "(" ::
          solid ((Fragment.commas (renderAll xs)).sql.toList ++ ')' :: rest)).length < fuel →
        Sql.Parse.items fuel ⟨symbolToken "(" ::
            solid ((Fragment.commas (renderAll xs)).sql.toList ++ ')' :: rest), params⟩ =
          .ok (readings params.count xs,
            ⟨solid rest, params.skip (Fragment.commas (renderAll xs)).cells.length⟩) := by
  by_cases hne : xs = []
  · subst hne
    have htokens : solid ((Fragment.commas (renderAll [])).sql.toList ++ ')' :: rest) =
        symbolToken ")" :: solid rest := solid_close rest
    rw [htokens]
    constructor
    · simp only [List.length_cons]
      omega
    · intro fuel hfuel
      simp only [List.length_cons] at hfuel
      obtain ⟨fuel, rfl⟩ : ∃ n, fuel = n + 1 := ⟨fuel - 1, by omega⟩
      exact Sql.items_nil fuel
  · have hitems := items_renderAll hne h rest params hcount
    constructor
    · have hshorter := hitems.shorter
      simp only [List.length_cons] at hshorter ⊢
      omega
    · intro fuel hfuel
      simp only [List.length_cons] at hfuel
      obtain ⟨fuel, rfl⟩ : ∃ n, fuel = n + 1 := ⟨fuel - 1, by omega⟩
      exact Sql.items_cons hitems (by omega)

/-- A function's arguments. -/
theorem isRead_applied {t : Sql.Token} {name function : String} {xs : List Term}
    (ht : Sql.Names t name)
    (hsolid : ∀ s, solid ((function ++ "(").toList ++ s) = t :: symbolToken "(" :: solid s)
    (hrender : x.render = .applied function (.commas (renderAll xs)))
    (hspread : ∀ k, x.spread k = (⟨false, .call name false (readings k xs) 0⟩, []))
    (h : ∀ y ∈ xs, y.IsRead) : x.IsRead := by
  refine .single hspread fun rest params _ hcount => ?_
  have htext : x.sql.toList ++ rest =
      (function ++ "(").toList ++ ((Fragment.commas (renderAll xs)).sql.toList ++ ')' :: rest) := by
    simp [sql, hrender, Fragment.applied, Fragment.enclosed]
  have hmarks : x.marks = (Fragment.commas (renderAll xs)).cells.length := by
    simp [marks, hrender, Fragment.applied, Fragment.enclosed]
  rw [hmarks] at hcount ⊢
  rw [htext, hsolid]
  by_cases hne : xs = []
  · subst hne
    show Tight ⟨t :: symbolToken "(" :: solid (')' :: rest), params⟩ _ ⟨solid rest, params⟩
    rw [solid_close]
    exact Sql.tight_call_nil ht
  · exact Sql.tight_call ht (items_renderAll hne h rest params hcount)

theorem isRead_call (function : Function) {xs : List Term} (h : ∀ y ∈ xs, y.IsRead) :
    (call function xs).IsRead :=
  isRead_applied (names_function function) (solid_function function) (by rw [render])
    (fun _ => rfl) h

theorem isRead_coalesce (type : ValueType) {xs : List Term} (h : ∀ y ∈ xs, y.IsRead) :
    (coalesce type xs).IsRead :=
  isRead_applied (names_word (by decide)) solid_coalesce (by rw [render]) (fun _ => rfl) h

theorem isRead_userCall (name : String) (type : ResultType) {xs : List Term}
    (h : ∀ y ∈ xs, y.IsRead) : (userCall name xs type).IsRead := by
  refine isRead_applied (Sql.names_quoted name) (fun s => ?_) (by rw [render]) (fun _ => rfl) h
  have htext : (quoteIdentifier name ++ "(").toList ++ s =
      (quoteIdentifier name).toList ++ '(' :: s := by
    simp
  rw [htext, Sql.solid_name name (by simp), solid_open]
  rfl

theorem isRead_aggregate (function : Aggregate) (distinct : Bool) (hx : x.IsRead) :
    (aggregate function distinct x).IsRead := by
  refine .single (e := fun k => .call function.name distinct [x.reading k] 0) (fun _ => rfl)
    fun rest params _ hcount => ?_
  have hmarks : (aggregate function distinct x).marks = x.marks := by
    cases distinct <;> simp [marks, render, Fragment.applied, Fragment.enclosed]
  rw [hmarks] at hcount ⊢
  have hitems : Sql.Items ⟨solid (x.sql.toList ++ ')' :: rest), params⟩ [x.reading params.count]
      ⟨symbolToken ")" :: solid rest, params.skip x.marks⟩ :=
    items_renderAll (List.cons_ne_nil x []) (by simpa using hx) rest params hcount
  cases distinct with
  | false =>
      have htext : (aggregate function false x).sql.toList ++ rest =
          (function.name ++ "(").toList ++ (x.sql.toList ++ ')' :: rest) := by
        simp [sql, render, Fragment.applied, Fragment.enclosed]
      rw [htext, solid_aggregate]
      exact Sql.tight_call (names_aggregate function) hitems
  | true =>
      have htext : (aggregate function true x).sql.toList ++ rest =
          (function.name ++ "(").toList ++
            ("DISTINCT ".toList ++ (x.sql.toList ++ ')' :: rest)) := by
        simp [sql, render, Fragment.applied, Fragment.enclosed]
      rw [htext, solid_aggregate, solid_distinct]
      exact Sql.tight_call_distinct (names_aggregate function) hitems

theorem isRead_value (v : Value) : (value v).IsRead := isRead_mark rfl rfl fun _ => rfl

theorem readings_values (k : Nat) (values : List Value) :
    readings k (values.map value) = parameters k values.length := by
  induction values generalizing k with
  | nil => rfl
  | cons v values ih =>
      have hv : (value v).reading k = .parameter (k + 1) := Primary.reading_plain _
      rw [List.map_cons, readings, List.length_cons, parameters, ← ih, ← hv]
      rfl

/-- A value is read as a mark, in a list of them too. -/
theorem isRead_inList (negated : Bool) (values : List Value) (hx : x.IsRead) :
    (inList negated x values).IsRead := by
  have hrender : (values.map fun v => Fragment.bound (some v.store)) =
      renderAll (values.map value) := by
    rw [renderAll_eq_map, List.map_map]
    rfl
  refine hx.followed (n := (Fragment.commas (renderAll (values.map value))).cells.length)
    (w := (" " ++ negatable negated "IN" ++ " ").toList ++
      '(' :: ((Fragment.commas (renderAll (values.map value))).sql.toList ++ [')']))
    (f := fun k => [.predicate Level.equality.rank fun y =>
      .inList negated y (parameters k values.length)])
    (fun _ => rfl) (fun rest => ?_) ?_ (fun rest => ?_) fun rest params hcount => ?_
  · simp [sql, render, hrender, Fragment.infixed, Fragment.applied, Fragment.enclosed]
  · simp [marks, render, hrender, Fragment.infixed, Fragment.applied, Fragment.enclosed]
  · rw [List.append_assoc]
    exact bounded_negatable negated (.inr rfl) _
  · have htext (s t : List Char) : '(' :: (s ++ [')']) ++ t = '(' :: (s ++ ')' :: t) := by simp
    rw [List.append_assoc, solid_negatable negated (.inr rfl), htext, solid_open,
      ← solid_close rest, ← readings_values]
    have hvalues : ∀ y ∈ values.map value, y.IsRead := by
      intro y hy
      obtain ⟨v, -, rfl⟩ := List.mem_map.mp hy
      exact isRead_value v
    obtain ⟨hshorter, hreads⟩ := items_parentheses hvalues (')' :: rest) params hcount
    exact .cons (Sql.follows_in negated hshorter hreads) .nil

mutual

/-- Every expression is read where something apart from it follows. -/
theorem isRead (x : Term) (h : x.isExpression = true) : x.IsRead := by
  cases x with
  | column name type => exact isRead_column name type
  | qualified table name type => exact isRead_qualified table name type
  | value v => exact isRead_value v
  | optional type v => exact isRead_mark rfl rfl fun _ => rfl
  | quoted text => exact isRead_quoted text
  | countRows => exact isRead_countRows
  | random => exact isRead_random
  | binary op l r =>
      rw [isExpression, Bool.and_eq_true] at h
      exact isRead_binary op (isRead l h.1) (isRead r h.2)
  | unary op x => exact isRead_unary op (isRead x h)
  | compareNull negated x => exact isRead_compareNull negated (isRead x h)
  | nullCompare negated x => exact isRead_nullCompare negated (isRead x h)
  | isNull negated x => exact isRead_isNull negated (isRead x h)
  | between negated x low high => exact isRead_between negated low high (isRead x h)
  | inList negated x values => exact isRead_inList negated values (isRead x h)
  | likeEscape x pattern escape => exact isRead_likeEscape pattern escape (isRead x h)
  | collate x collation => exact isRead_collate collation (isRead x h)
  | cast x type => exact isRead_cast type (isRead x h)
  | call function xs => exact isRead_call function (areRead xs h)
  | coalesce type xs => exact isRead_coalesce type (areRead xs h)
  | aggregate function distinct x => exact isRead_aggregate function distinct (isRead x h)
  | userCall name xs type => exact isRead_userCall name type (areRead xs h)
  | untyped x => exact isRead x h
  | verbatim | ordered | infixed | wrapped | joined => cases h

theorem areRead (xs : List Term) (h : allExpressions xs = true) : ∀ x ∈ xs, x.IsRead := by
  cases xs with
  | nil => exact fun x hx => absurd hx List.not_mem_nil
  | cons x xs =>
      rw [allExpressions, Bool.and_eq_true] at h
      intro y hy
      rcases List.mem_cons.mp hy with hy | hy
      · rw [hy]
        exact isRead x h.1
      · exact areRead xs h.2 y hy

end

/-- The text of an expression is read as the binding of its operators says. -/
theorem expressionIn_sql (h : x.isExpression = true) (hmarks : x.marks ≤ maxParameter) :
    Sql.expressionIn x.sql = some (x.reading 0) := by
  have hcount : ({} : Parameters).count + x.marks ≤ maxParameter := by
    rw [show ({} : Parameters).count = 0 from rfl]
    omega
  have hends : Ends ⟨solid [], ({} : Parameters).skip x.marks⟩ := by
    rw [solid_nil]
    exact ⟨rfl, nofun⟩
  have hwhole := (isRead x h).whole .nil hcount hends
  rw [List.append_nil, solid_nil] at hwhole
  have hread : Sql.Parse.expression ⟨solid x.sql.toList, {}⟩ =
      .ok (x.reading 0, ⟨[], ({} : Parameters).skip x.marks⟩) :=
    hwhole.reads (4 * (solid x.sql.toList).length + 4) (Nat.le_add_right _ _)
  rw [Sql.expressionIn, hread]

/-- The text of an expression says what the expression is, by the binding of the operators, if and
only if no comparison with `NULL` and no `NOT` in it takes an operand from an operator beside it, or
loses one to it. -/
theorem expressionIn_sql_eq_tree_iff (x : Term) (h : x.isExpression = true)
    (hmarks : x.marks ≤ maxParameter) :
    Sql.expressionIn x.sql = some (x.tree 0) ↔ x.nests = true := by
  rw [expressionIn_sql h hmarks, Option.some.injEq]
  exact reading_eq_tree 0 x

/-- Beside an `AND` a comparison with `NULL` is read as it is meant, and beside an `=` it is not. -/
theorem expressionIn_sql_eq_tree_iff_compareNull :
    Sql.expressionIn (binary .and (quoted "a") (compareNull false (quoted "b"))).sql =
        some ((binary .and (quoted "a") (compareNull false (quoted "b"))).tree 0) ∧
      Sql.expressionIn (binary .equal (quoted "a") (compareNull false (quoted "b"))).sql ≠
        some ((binary .equal (quoted "a") (compareNull false (quoted "b"))).tree 0) := by
  constructor
  · exact (expressionIn_sql_eq_tree_iff _ (by decide) (by decide)).mpr (by decide)
  · intro h
    have hnests := (expressionIn_sql_eq_tree_iff _ (by decide) (by decide)).mp h
    exact absurd hnests (by decide)

end

end Term

end TypedSql
