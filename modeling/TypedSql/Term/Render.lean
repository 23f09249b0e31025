import TypedSql.Fragment
import TypedSql.Term.Basic

namespace TypedSql

def BinaryOperator.symbol : BinaryOperator → String
  | .add => "+"
  | .subtract => "-"
  | .multiply => "*"
  | .divide => "/"
  | .remainder => "%"
  | .shiftLeft => "<<"
  | .shiftRight => ">>"
  | .bitAnd => "&"
  | .bitOr => "|"
  | .concat => "||"
  | .and => "AND"
  | .or => "OR"
  | .equal => "="
  | .notEqual => "!="
  | .less => "<"
  | .lessEqual => "<="
  | .greater => ">"
  | .greaterEqual => ">="
  | .like => "LIKE"
  | .glob => "GLOB"
  | .matches => "MATCH"

/-- What stands before the parentheses of the operand. -/
def UnaryOperator.symbol : UnaryOperator → String
  | .negate => "-"
  | .complement => "~"
  | .not => "NOT "

def Function.name : Function → String
  | .length => "length"
  | .typeof => "typeof"
  | .abs => "abs"
  | .round => "round"
  | .lower => "lower"
  | .upper => "upper"
  | .ltrim => "ltrim"
  | .rtrim => "rtrim"
  | .trim => "trim"
  | .replace => "replace"
  | .substr => "substr"
  | .instr => "instr"
  | .ifnull => "ifnull"

def Aggregate.name : Aggregate → String
  | .count => "count"
  | .max => "max"
  | .min => "min"
  | .sum => "sum"
  | .average => "avg"
  | .total => "total"

def Direction.keyword : Direction → String
  | .ascending => "ASC"
  | .descending => "DESC"

def Fragment.name (name : String) : Fragment := .raw (quoteIdentifier name)

namespace Term

def isWord (negated : Bool) : String := if negated then "IS NOT" else "IS"

def negatable (negated : Bool) (predicate : String) : String :=
  if negated then "NOT " ++ predicate else predicate

mutual

/-- The SQL of an expression and the cells it binds. -/
def render : Term → Fragment
  | .column name _ => .name name
  | .qualified table name _ => .name table ++ .raw "." ++ .name name
  | .verbatim sql cells _ => ⟨sql, cells⟩
  | .value v => .bound (some v.store)
  | .optional _ v => .bound (v.map Value.store)
  | .quoted text => .raw (quoteLiteral text)
  | .countRows => .raw "count(*)"
  | .random => .raw "random()"
  | .binary op l r => .infixed op.symbol l.render r.render
  | .unary op x => .applied op.symbol x.render
  | .compareNull negated x => x.render ++ .raw (" " ++ isWord negated ++ " ") ++ .bound none
  | .nullCompare negated x => .bound none ++ .raw (" " ++ isWord negated ++ " ") ++ x.render
  | .isNull negated x => .enclosed "(" x.render (" " ++ isWord negated ++ " NULL)")
  | .between negated x low high =>
      .infixed (negatable negated "BETWEEN") x.render
        (.bound (some low.store) ++ .raw " AND " ++ .bound (some high.store))
  | .inList negated x values =>
      .infixed (negatable negated "IN") x.render
        (.applied "" (.commas (values.map fun v => .bound (some v.store))))
  | .likeEscape x pattern escape =>
      .infixed "LIKE" x.render
        (.bound (some (.text pattern)) ++ .raw " ESCAPE " ++
          .bound (some (.text (String.singleton escape))))
  | .collate x collation => .infixed "COLLATE" x.render (.name collation.name)
  | .cast x type => .enclosed "CAST (" x.render (" AS " ++ type.declared ++ ")")
  | .call function arguments => .applied function.name (.commas (renderAll arguments))
  | .coalesce _ arguments => .applied "coalesce" (.commas (renderAll arguments))
  | .aggregate function distinct x =>
      .applied function.name (if distinct then .raw "DISTINCT " ++ x.render else x.render)
  | .userCall name arguments _ => .applied (quoteIdentifier name) (.commas (renderAll arguments))
  | .ordered x direction => x.render ++ .raw (" " ++ direction.keyword)
  | .untyped x => x.render
  | .infixed operator l r _ => .infixed operator l.render r.render
  | .wrapped function x _ => .applied function x.render
  | .joined separator parts => .joined separator (renderAll parts)

def renderAll : List Term → List Fragment
  | [] => []
  | x :: xs => x.render :: renderAll xs

end

def sql (x : Term) : String := x.render.sql

def compile (x : Term) : Except BindingError String := x.render.compile

theorem renderAll_eq_map (xs : List Term) : renderAll xs = xs.map render := by
  induction xs with
  | nil => simp [renderAll]
  | cons x xs ih => simp [renderAll, ih]

end Term

end TypedSql
