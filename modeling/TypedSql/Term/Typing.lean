import TypedSql.Term.Basic

/-!
The type of an expression. Operators and functions ask for operands of their own value types,
and for a binary operator both must agree; a result is nullable when an operand is, unless the
operation itself decides. `Term.type?` gives nothing for a tree that breaks a rule anywhere.
-/

namespace TypedSql

namespace ValueType

def isNumber : ValueType → Bool
  | .integer | .real => true
  | _ => false

end ValueType

/-- What a binary operator makes of two operands of one value type. -/
def BinaryOperator.result : BinaryOperator → ValueType → Option ValueType
  | .add, t | .subtract, t | .multiply, t | .divide, t => if t.isNumber then some t else none
  | .remainder, .integer | .shiftLeft, .integer | .shiftRight, .integer => some .integer
  | .bitAnd, .integer | .bitOr, .integer => some .integer
  | .concat, .text => some .text
  | .and, .boolean | .or, .boolean => some .boolean
  | .equal, _ | .notEqual, _ => some .boolean
  | .less, _ | .lessEqual, _ | .greater, _ | .greaterEqual, _ => some .boolean
  | .like, .text | .glob, .text | .matches, .text => some .boolean
  | _, _ => none

/-- Whether a unary operator takes an operand of a type; it keeps that type. -/
def UnaryOperator.takes : UnaryOperator → ValueType → Bool
  | .negate, t => t.isNumber
  | .complement, .integer => true
  | .not, .boolean => true
  | _, _ => false

/-- What a function makes of its arguments. -/
def Function.result : Function → List ResultType → Option ResultType
  | .length, [.value _ n] => some (.value .integer n)
  | .typeof, [.value _ _] => some (.value .text false)
  | .abs, [.value t n] => if t.isNumber then some (.value t n) else none
  | .round, [.value .real n] => some (.value .real n)
  | .round, [.value .real n, .value .integer false] => some (.value .real n)
  | .lower, [.value .text n] => some (.value .text n)
  | .upper, [.value .text n] => some (.value .text n)
  | .ltrim, [.value .text n] => some (.value .text n)
  | .rtrim, [.value .text n] => some (.value .text n)
  | .trim, [.value .text n] => some (.value .text n)
  | .ltrim, [.value .text n, .value .text false] => some (.value .text n)
  | .rtrim, [.value .text n, .value .text false] => some (.value .text n)
  | .trim, [.value .text n, .value .text false] => some (.value .text n)
  | .replace, [.value .text n, .value .text false, .value .text false] => some (.value .text n)
  | .substr, [.value .text n, .value .integer false] => some (.value .text n)
  | .substr, [.value .text n, .value .integer false, .value .integer false] =>
      some (.value .text n)
  | .instr, [.value .text n, .value .text false] => some (.value .integer n)
  | .ifnull, [.value t true, .value d n] => if t = d then some (.value t n) else none
  | _, _ => none

/-- What an aggregate makes of its argument; over no rows most of them are `NULL`. -/
def Aggregate.result : Aggregate → ValueType → Option ResultType
  | .count, _ => some (.value .integer false)
  | .max, t | .min, t => some (.value t true)
  | .sum, t => if t.isNumber then some (.value t true) else none
  | .average, t => if t.isNumber then some (.value .real true) else none
  | .total, t => if t.isNumber then some (.value .real false) else none

namespace Term

mutual

def type? : Term → Option ResultType
  | .column _ type => some type
  | .qualified _ _ type => some type
  | .verbatim _ _ type => some type
  | .value v => some (.value v.type false)
  | .optional type none => some (.value type true)
  | .optional type (some v) => if v.type = type then some (.value type true) else none
  | .quoted _ => some .untyped
  | .countRows => some (.value .integer false)
  | .random => some (.value .integer false)
  | .binary op l r =>
      match l.type?, r.type? with
      | some (.value t n), some (.value u m) =>
          if t = u then (op.result t).map (ResultType.value · (n || m)) else none
      | _, _ => none
  | .unary op x =>
      match x.type? with
      | some (.value t n) => if op.takes t then some (.value t n) else none
      | _ => none
  | .compareNull _ x =>
      match x.type? with
      | some (.value _ _) => some (.value .boolean true)
      | _ => none
  | .nullCompare _ x =>
      match x.type? with
      | some (.value _ true) => some (.value .boolean false)
      | _ => none
  | .isNull _ x =>
      match x.type? with
      | some (.value _ true) => some (.value .boolean false)
      | _ => none
  | .between _ x low high =>
      match x.type? with
      | some (.value t n) =>
          if low.type = t ∧ high.type = t then some (.value .boolean n) else none
      | _ => none
  | .inList _ x values =>
      match x.type? with
      | some (.value t n) =>
          if values.all (·.type = t) then some (.value .boolean n) else none
      | _ => none
  | .likeEscape x _ _ =>
      match x.type? with
      | some (.value .text n) => some (.value .boolean n)
      | _ => none
  | .collate x _ =>
      match x.type? with
      | some (.value .text n) => some (.value .text n)
      | _ => none
  | .cast x type =>
      match x.type? with
      | some (.value _ n) => some (.value type n)
      | _ => none
  | .call function arguments =>
      match types? arguments with
      | some types => function.result types
      | none => none
  | .coalesce type arguments =>
      match types? arguments with
      | some types =>
          if types.all (· = .value type true) then some (.value type true) else none
      | none => none
  | .aggregate function _ x =>
      match x.type? with
      | some (.value t _) => function.result t
      | _ => none
  | .userCall _ arguments type => (types? arguments).map fun _ => type
  | .ordered x _ => x.type?.map fun _ => .untyped
  | .untyped x => x.type?.map fun _ => .untyped
  | .infixed _ l r type =>
      match l.type?, r.type? with
      | some _, some _ => some type
      | _, _ => none
  | .wrapped _ x type => x.type?.map fun _ => type
  | .joined _ parts => (types? parts).map fun _ => .untyped

def types? : List Term → Option (List ResultType)
  | [] => some []
  | x :: xs =>
      match x.type?, types? xs with
      | some type, some types => some (type :: types)
      | _, _ => none

end

/-- The value type of an expression, if it has one. -/
def base? (x : Term) : Option ValueType :=
  match x.type? with
  | some (.value t _) => some t
  | _ => none

def isCondition (x : Term) : Bool := x.base? = some .boolean

/-- Whether a tree obeys the typing rules everywhere. -/
def wellTyped (x : Term) : Bool := x.type?.isSome

end Term

end TypedSql
