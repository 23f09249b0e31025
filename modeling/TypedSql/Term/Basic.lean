import TypedSql.Value

/-!
SQL expressions as trees. A leaf is a column, a value to bind, a text, or SQL written by hand;
every other node is an operator, a predicate or a function of the algebra. What a tree evaluates
to is worked out by `Term.type?`, what it looks like by `Term.render`.
-/

namespace TypedSql

/-- What an expression evaluates to: nothing that can be decoded, or a value type. -/
inductive ResultType where
  | untyped
  | value (type : ValueType) (nullable : Bool)
deriving DecidableEq, Repr

inductive BinaryOperator where
  | add
  | subtract
  | multiply
  | divide
  | remainder
  | shiftLeft
  | shiftRight
  | bitAnd
  | bitOr
  | concat
  | and
  | or
  | equal
  | notEqual
  | less
  | lessEqual
  | greater
  | greaterEqual
  | like
  | glob
  | matches
deriving DecidableEq, Repr

inductive UnaryOperator where
  | negate
  | complement
  | not
deriving DecidableEq, Repr

inductive Function where
  | length
  | typeof
  | abs
  | round
  | lower
  | upper
  | ltrim
  | rtrim
  | trim
  | replace
  | substr
  | instr
  | ifnull
deriving DecidableEq, Repr

inductive Aggregate where
  | count
  | max
  | min
  | sum
  | average
  | total
deriving DecidableEq, Repr

/-- A collating sequence: one of the three that are built in, or one registered by name. -/
inductive Collation where
  | binary
  | noCase
  | rightTrim
  | custom (name : String)
deriving DecidableEq, Repr

def Collation.name : Collation → String
  | .binary => "BINARY"
  | .noCase => "NOCASE"
  | .rightTrim => "RTRIM"
  | .custom name => name

inductive Direction where
  | ascending
  | descending
deriving DecidableEq, Repr

inductive Term where
  | column (name : String) (type : ResultType)
  | qualified (table name : String) (type : ResultType)
  /-- SQL written by hand, with the cells its author says it binds. -/
  | verbatim (sql : String) (cells : List Cell) (type : ResultType)
  | value (v : Value)
  /-- A value that may be absent; `NULL` is bound for one that is. -/
  | optional (type : ValueType) (v : Option Value)
  /-- A text literal, written rather than bound. -/
  | quoted (text : String)
  /-- The count of rows. -/
  | countRows
  | random
  | binary (op : BinaryOperator) (l r : Term)
  | unary (op : UnaryOperator) (x : Term)
  /-- `x IS ?` with `NULL` bound, or `x IS NOT ?`. -/
  | compareNull (negated : Bool) (x : Term)
  /-- `? IS x` with `NULL` bound, or `? IS NOT x`. -/
  | nullCompare (negated : Bool) (x : Term)
  | isNull (negated : Bool) (x : Term)
  | between (negated : Bool) (x : Term) (low high : Value)
  | inList (negated : Bool) (x : Term) (values : List Value)
  | likeEscape (x : Term) (pattern : String) (escape : Char)
  | collate (x : Term) (collation : Collation)
  | cast (x : Term) (type : ValueType)
  | call (function : Function) (arguments : List Term)
  | coalesce (type : ValueType) (arguments : List Term)
  | aggregate (function : Aggregate) (distinct : Bool) (x : Term)
  /-- A function registered by name. -/
  | userCall (name : String) (arguments : List Term) (type : ResultType)
  | ordered (x : Term) (direction : Direction)
  /-- The same expression with its type forgotten. -/
  | untyped (x : Term)
  /-- An operator written by hand. -/
  | infixed (operator : String) (l r : Term) (type : ResultType)
  /-- A function written by hand. -/
  | wrapped (function : String) (x : Term) (type : ResultType)
  /-- Expressions with a separator written by hand. -/
  | joined (separator : String) (parts : List Term)
deriving Repr

end TypedSql
