import TypedSql.Proofs.Sql.Phrases
import TypedSql.Term.Render

namespace TypedSql

open Sql (solid symbolToken wordToken)

def BinaryOperator.token (op : BinaryOperator) : Sql.Token :=
  match op with
  | .and | .or | .like | .glob | .matches => wordToken op.symbol
  | _ => symbolToken op.symbol

theorem BinaryOperator.infix?_token (op : BinaryOperator) :
    op.token.infix? = some (.binary op) := by
  cases op <;> rfl

theorem BinaryOperator.token_escape (op : BinaryOperator) : op.token.isWord "escape" = false := by
  cases op <;> rfl

theorem solid_binary (op : BinaryOperator) (s : List Char) :
    solid ((" " ++ op.symbol ++ " ").toList ++ s) = op.token :: solid s := by
  have hw : op.symbol.toList ≠ [] := by cases op <;> decide
  have hlexeme (s : List Char) : Sql.lexeme (op.symbol.toList.head hw)
      (op.symbol.toList.tail ++ ' ' :: s) = (op.token.lexeme, op.symbol.toList.tail.length) := by
    cases op <;> rfl
  have hspace : op.token.lexeme ≠ .space := by cases op <;> decide
  have htoken : op.token = ⟨op.token.lexeme, op.symbol.toList, [], 0⟩ := by cases op <;> rfl
  have htext : (" " ++ op.symbol ++ " ").toList ++ s = ' ' :: (op.symbol.toList ++ ' ' :: s) := by
    simp
  rw [htext, Sql.solid_blank, Sql.solid_append hw hlexeme hspace, Sql.solid_blank, ← htoken]

/-- A word before a character that ends it. -/
theorem solid_word (word : String) (d : Char) (hw : word.toList ≠ [])
    (h : ∀ s, Sql.lexeme (word.toList.head hw) (word.toList.tail ++ d :: s) =
      (.word, word.toList.tail.length)) (s : List Char) :
    solid (word.toList ++ d :: s) = wordToken word :: solid (d :: s) :=
  Sql.solid_append hw h (by decide) s

theorem solid_nil : solid [] = [] := by
  simp [solid, Sql.lexemes]

theorem solid_open (s : List Char) : solid ('(' :: s) = symbolToken "(" :: solid s :=
  Sql.solid_symbol (fun _ => rfl) s

theorem solid_close (s : List Char) : solid (')' :: s) = symbolToken ")" :: solid s :=
  Sql.solid_symbol (fun _ => rfl) s

theorem solid_comma (s : List Char) :
    solid (", ".toList ++ s) = symbolToken "," :: solid s := by
  show solid (',' :: ' ' :: s) = _
  rw [Sql.solid_symbol (fun _ => rfl), Sql.solid_blank]
  rfl

theorem solid_and (s : List Char) : solid (" AND ".toList ++ s) = wordToken "AND" :: solid s := by
  show solid (' ' :: ("AND".toList ++ ' ' :: s)) = _
  rw [Sql.solid_blank, solid_word "AND" ' ' (by decide) (fun _ => rfl), Sql.solid_blank]

theorem solid_escape (s : List Char) :
    solid (" ESCAPE ".toList ++ s) = wordToken "ESCAPE" :: solid s := by
  show solid (' ' :: ("ESCAPE".toList ++ ' ' :: s)) = _
  rw [Sql.solid_blank, solid_word "ESCAPE" ' ' (by decide) (fun _ => rfl), Sql.solid_blank]

theorem solid_collate (s : List Char) :
    solid (" COLLATE ".toList ++ s) = wordToken "COLLATE" :: solid s := by
  show solid (' ' :: ("COLLATE".toList ++ ' ' :: s)) = _
  rw [Sql.solid_blank, solid_word "COLLATE" ' ' (by decide) (fun _ => rfl), Sql.solid_blank]

theorem solid_distinct (s : List Char) :
    solid ("DISTINCT ".toList ++ s) = wordToken "DISTINCT" :: solid s := by
  show solid ("DISTINCT".toList ++ ' ' :: s) = _
  rw [solid_word "DISTINCT" ' ' (by decide) (fun _ => rfl), Sql.solid_blank]

theorem solid_cast (s : List Char) :
    solid ("CAST (".toList ++ s) = wordToken "CAST" :: symbolToken "(" :: solid s := by
  show solid ("CAST".toList ++ ' ' :: '(' :: s) = _
  rw [solid_word "CAST" ' ' (by decide) (fun _ => rfl), Sql.solid_blank, solid_open]

theorem solid_declared (type : ValueType) (s : List Char) :
    solid ((" AS " ++ type.declared ++ ")").toList ++ s) =
      wordToken "AS" :: wordToken type.declared :: symbolToken ")" :: solid s := by
  have hw : type.declared.toList ≠ [] := by cases type <;> decide
  have hlexeme (s : List Char) : Sql.lexeme (type.declared.toList.head hw)
      (type.declared.toList.tail ++ ')' :: s) = (.word, type.declared.toList.tail.length) := by
    cases type <;> rfl
  have htext : (" AS " ++ type.declared ++ ")").toList ++ s =
      ' ' :: ("AS".toList ++ ' ' :: (type.declared.toList ++ ')' :: s)) := by
    simp
  rw [htext, Sql.solid_blank, solid_word "AS" ' ' (by decide) (fun _ => rfl), Sql.solid_blank,
    solid_word _ _ hw hlexeme, solid_close]

def isTokens (negated : Bool) : List Sql.Token :=
  if negated then [wordToken "IS", wordToken "NOT"] else [wordToken "IS"]

theorem solid_isWord (negated : Bool) (s : List Char) :
    solid ((" " ++ Term.isWord negated ++ " ").toList ++ s) = isTokens negated ++ solid s := by
  cases negated with
  | false =>
      show solid (' ' :: ("IS".toList ++ ' ' :: s)) = _
      rw [Sql.solid_blank, solid_word "IS" ' ' (by decide) (fun _ => rfl), Sql.solid_blank]
      rfl
  | true =>
      show solid (' ' :: ("IS".toList ++ ' ' :: ("NOT".toList ++ ' ' :: s))) = _
      rw [Sql.solid_blank, solid_word "IS" ' ' (by decide) (fun _ => rfl), Sql.solid_blank,
        solid_word "NOT" ' ' (by decide) (fun _ => rfl), Sql.solid_blank]
      rfl

theorem solid_negatable (negated : Bool) {word : String} (h : word = "BETWEEN" ∨ word = "IN")
    (s : List Char) :
    solid ((" " ++ Term.negatable negated word ++ " ").toList ++ s) =
      Sql.predicateWords negated word ++ solid s := by
  have hword (s : List Char) :
      solid (' ' :: (word.toList ++ ' ' :: s)) = wordToken word :: solid s := by
    rcases h with rfl | rfl
    · rw [Sql.solid_blank, solid_word "BETWEEN" ' ' (by decide) (fun _ => rfl), Sql.solid_blank]
    · rw [Sql.solid_blank, solid_word "IN" ' ' (by decide) (fun _ => rfl), Sql.solid_blank]
  cases negated with
  | false =>
      have htext : (" " ++ Term.negatable false word ++ " ").toList ++ s =
          ' ' :: (word.toList ++ ' ' :: s) := by
        simp [Term.negatable]
      rw [htext, hword]
      rfl
  | true =>
      have htext : (" " ++ Term.negatable true word ++ " ").toList ++ s =
          ' ' :: ("NOT".toList ++ ' ' :: (word.toList ++ ' ' :: s)) := by
        simp [Term.negatable]
      rw [htext, Sql.solid_blank, solid_word "NOT" ' ' (by decide) (fun _ => rfl), hword]
      rfl

/-- The name of a function before its arguments. -/
theorem solid_function (f : Function) (s : List Char) :
    solid ((f.name ++ "(").toList ++ s) = wordToken f.name :: symbolToken "(" :: solid s := by
  have hw : f.name.toList ≠ [] := by cases f <;> decide
  have hlexeme (s : List Char) : Sql.lexeme (f.name.toList.head hw)
      (f.name.toList.tail ++ '(' :: s) = (.word, f.name.toList.tail.length) := by
    cases f <;> rfl
  have htext : (f.name ++ "(").toList ++ s = f.name.toList ++ '(' :: s := by simp
  rw [htext, solid_word _ _ hw hlexeme, solid_open]

theorem solid_aggregate (f : Aggregate) (s : List Char) :
    solid ((f.name ++ "(").toList ++ s) = wordToken f.name :: symbolToken "(" :: solid s := by
  have hw : f.name.toList ≠ [] := by cases f <;> decide
  have hlexeme (s : List Char) : Sql.lexeme (f.name.toList.head hw)
      (f.name.toList.tail ++ '(' :: s) = (.word, f.name.toList.tail.length) := by
    cases f <;> rfl
  have htext : (f.name ++ "(").toList ++ s = f.name.toList ++ '(' :: s := by simp
  rw [htext, solid_word _ _ hw hlexeme, solid_open]

theorem names_function (f : Function) : Sql.Names (wordToken f.name) f.name := by
  cases f <;> exact ⟨rfl, rfl, rfl, fun _ _ _ => rfl, rfl⟩

theorem names_aggregate (f : Aggregate) : Sql.Names (wordToken f.name) f.name := by
  cases f <;> exact ⟨rfl, rfl, rfl, fun _ _ _ => rfl, rfl⟩

theorem solid_dot (name : String) (s : List Char) :
    solid ('.' :: ((quoteIdentifier name).toList ++ s)) =
      symbolToken "." :: solid ((quoteIdentifier name).toList ++ s) := by
  rw [quoteIdentifier, String.toList_ofList]
  have hdot (s : List Char) :
      Sql.lexeme '.' ([] ++ '"' :: s) = (.symbol, ([] : List Char).length) := rfl
  exact Sql.solid_cons (hdot _) (by decide)

theorem solid_countRows (s : List Char) :
    solid ("count(*)".toList ++ s) =
      wordToken "count" :: symbolToken "(" :: symbolToken "*" :: symbolToken ")" :: solid s := by
  have hstar (s : List Char) :
      Sql.lexeme '*' ([] ++ ')' :: s) = (.symbol, ([] : List Char).length) := rfl
  show solid ("count".toList ++ '(' :: '*' :: ')' :: s) = _
  rw [solid_word "count" '(' (by decide) (fun _ => rfl), solid_open]
  exact congrArg (fun ts => _ :: _ :: ts)
    ((Sql.solid_cons (hstar s) (by decide)).trans (congrArg _ (solid_close s)))

theorem solid_random (s : List Char) :
    solid ("random()".toList ++ s) =
      wordToken "random" :: symbolToken "(" :: symbolToken ")" :: solid s := by
  show solid ("random".toList ++ '(' :: ')' :: s) = _
  rw [solid_word "random" '(' (by decide) (fun _ => rfl), solid_open, solid_close]

theorem solid_coalesce (s : List Char) :
    solid (("coalesce" ++ "(").toList ++ s) =
      wordToken "coalesce" :: symbolToken "(" :: solid s := by
  show solid ("coalesce".toList ++ '(' :: s) = _
  rw [solid_word "coalesce" '(' (by decide) (fun _ => rfl), solid_open]

def UnaryOperator.token : UnaryOperator → Sql.Token
  | .negate => symbolToken "-"
  | .complement => symbolToken "~"
  | .not => wordToken "NOT"

theorem solid_unary (op : UnaryOperator) (s : List Char) :
    solid ((op.symbol ++ "(").toList ++ s) = op.token :: symbolToken "(" :: solid s := by
  cases op with
  | negate =>
      have hminus (s : List Char) :
          Sql.lexeme '-' ([] ++ '(' :: s) = (.symbol, ([] : List Char).length) := rfl
      exact (Sql.solid_cons (hminus s) (by decide)).trans (congrArg _ (solid_open s))
  | complement =>
      show solid ('~' :: '(' :: s) = _
      rw [Sql.solid_symbol (fun _ => rfl), solid_open]
      rfl
  | not =>
      show solid ("NOT".toList ++ ' ' :: '(' :: s) = _
      rw [solid_word "NOT" ' ' (by decide) (fun _ => rfl), Sql.solid_blank, solid_open]
      rfl

theorem names_word {word : String} (h : word ∈ ["count", "random", "coalesce"]) :
    Sql.Names (wordToken word) word := by
  simp only [List.mem_cons, List.not_mem_nil, or_false] at h
  rcases h with rfl | rfl | rfl <;> exact ⟨rfl, rfl, rfl, fun _ _ _ => rfl, rfl⟩

end TypedSql
