import TypedSql.Engine.Table

/-!
Expressions whose names are decided: a column is a place in the row, a function is what it does and
a comparison knows its collation. Evaluation therefore never fails. Logic is three-valued, with
`NULL` for the third.

Values are taken as they are. SQLite would read a text or a blob as a number in arithmetic, as a
truth value and in a comparison with a numeric column; here arithmetic has no value on it, it is not
true and it is compared by its class. A cast is to text or to a blob and leaves other values alone.
Patterns have no meaning of their own: `LIKE`, `GLOB` and `MATCH` call the function of that name, if
one is registered.
-/

namespace TypedSql

/-- An expression over the values of a row. -/
inductive Formula where
  | constant (d : Datum)
  | parameter (number : Nat)
  | column (index : Nat)
  | unary (op : UnaryOperator) (x : Formula)
  | binary (op : BinaryOperator) (collation : NamedCollation) (l r : Formula)
  | same (negated : Bool) (collation : NamedCollation) (l r : Formula)
  | isNull (negated : Bool) (x : Formula)
  | between (negated : Bool) (lowCollation highCollation : NamedCollation) (x low high : Formula)
  | inList (negated : Bool) (collation : NamedCollation) (x : Formula) (items : List Formula)
  | call (function : List Datum → Datum) (arguments : List Formula)
  /-- The number of rows. -/
  | countRows
  /-- The number of rows in which a value is not `NULL`. -/
  | countValues (x : Formula)
  /-- The largest value among the rows. -/
  | largest (collation : NamedCollation) (x : Formula)

/-- What a formula is evaluated in: the values bound to parameters, the values of the row, and the
rows that aggregates run over. -/
structure Scope where
  parameters : List Datum
  row : List Datum := []
  group : List (List Datum) := []

namespace Formula

/-- The third value of logic where either operand leaves the answer open. -/
def and3 : Option Bool → Option Bool → Option Bool
  | some false, _ => some false
  | _, some false => some false
  | some true, some true => some true
  | _, _ => none

def or3 : Option Bool → Option Bool → Option Bool
  | some true, _ => some true
  | _, some true => some true
  | some false, some false => some false
  | _, _ => none

/-- Two values compared, unless one is `NULL`. -/
def compared (compareText : Comparison) (l r : Datum) : Option Ordering :=
  if l.isNull || r.isNull then none else some (l.order compareText r)

def comparison (op : BinaryOperator) (o : Ordering) : Bool :=
  match op with
  | .equal => o == .eq
  | .notEqual => o != .eq
  | .less => o == .lt
  | .lessEqual => o != .gt
  | .greater => o == .gt
  | .greaterEqual => o != .lt
  | _ => false

/-- A shift to the left; a negative distance shifts to the right, and the sign fills up. -/
def shifted (n : Int) (distance : Int) : Int :=
  if 0 ≤ distance then if distance < 64 then (n * Nat.pow 2 distance.toNat).bmod 18446744073709551616 else 0
  else Int.fdiv n (Nat.pow 2 (min (-distance).toNat 64))

/-- Arithmetic on reals. Division by zero has no value. -/
def realArithmetic (op : BinaryOperator) (x y : Binary64) : Option Binary64 :=
  match op with
  | .add => x.add y
  | .subtract => x.subtract y
  | .multiply => x.multiply y
  | .divide => if y.isZero then none else x.divide y
  | _ => none

/-- Arithmetic on integers, as far as 64 bits hold the result. -/
def integerArithmetic (op : BinaryOperator) (a b : Int64) : Option Int64 :=
  let fitting (n : Int) : Option Int64 :=
    if Int64.minValue.toInt ≤ n ∧ n ≤ Int64.maxValue.toInt then some (Int64.ofInt n) else none
  match op with
  | .add => fitting (a.toInt + b.toInt)
  | .subtract => fitting (a.toInt - b.toInt)
  | .multiply => fitting (a.toInt * b.toInt)
  | .divide => if b = 0 then none else fitting (a.toInt.tdiv b.toInt)
  | _ => none

/-- Sums, differences, products and quotients: of integers where 64 bits hold the result, and else
of reals. A text or a blob is no number here, where SQLite takes the one that it begins with. -/
def arithmetic (op : BinaryOperator) (l r : Datum) : Datum :=
  let whole? := match l, r with
    | .integer a, .integer b => integerArithmetic op a b
    | _, _ => none
  match whole?, l.real?, r.real? with
  | some n, _, _ => .integer n
  | none, some x, some y => ((realArithmetic op x y).map Datum.real).getD .null
  | none, _, _ => .null

/-- The remainder of a division of integers, which is a real where an operand is one. -/
def remainder (l r : Datum) : Datum :=
  match l.integer?, r.integer? with
  | some a, some b =>
      let rest := a.toInt.tmod b.toInt
      if b = 0 then .null
      else if l.isInteger && r.isInteger then .ofInt rest
      else .real (.ofInt rest)
  | _, _ => .null

def bitwise (op : BinaryOperator) (a b : Int64) : Int64 :=
  match op with
  | .bitAnd => a &&& b
  | .bitOr => a ||| b
  | .shiftLeft => Int64.ofInt (shifted a.toInt b.toInt)
  | .shiftRight => Int64.ofInt (shifted a.toInt (-b.toInt))
  | _ => 0

/-- A binary operator on values. Arithmetic is on numbers, and has no value on others. -/
def apply (op : BinaryOperator) (compareText : Comparison) (l r : Datum) : Datum :=
  match op with
  | .and => .ofTruth (and3 l.truth r.truth)
  | .or => .ofTruth (or3 l.truth r.truth)
  | .equal | .notEqual | .less | .lessEqual | .greater | .greaterEqual =>
      .ofTruth ((compared compareText l r).map (comparison op))
  | .concat =>
      match l.textBytes, r.textBytes with
      | some a, some b => .text (a ++ b)
      | _, _ => .null
  | .add | .subtract | .multiply | .divide => arithmetic op l r
  | .remainder => remainder l r
  | .bitAnd | .bitOr | .shiftLeft | .shiftRight =>
      match l.integer?, r.integer? with
      | some a, some b => .integer (bitwise op a b)
      | _, _ => .null
  | .like | .glob | .matches => .null

def applyUnary : UnaryOperator → Datum → Datum
  | .not, d => .ofTruth (d.truth.map (!·))
  | .negate, .integer n => .ofInt (-n.toInt)
  | .negate, .real x => .real (if x.isZero then ⟨0⟩ else x.negated)
  | .negate, _ => .null
  | .complement, d =>
      match d.integer? with
      | some n => .integer (~~~n)
      | none => .null

def isSame (compareText : Comparison) (l r : Datum) : Bool :=
  if l.isNull || r.isNull then l.isNull && r.isNull else l.order compareText r == .eq

/-- Whether a value is among others: unknown if it is not found and one of them, or itself, is
`NULL`. Among no others nothing is. -/
def isAmong (compareText : Comparison) (x : Datum) (items : List Datum) : Option Bool :=
  items.foldr (fun item found => or3 ((compared compareText x item).map (· == .eq)) found) (some false)

/-- The largest of some values; `NULL` counts only where there is nothing else. -/
def largestOf (compareText : Comparison) (values : List Datum) : Datum :=
  values.foldl
    (fun top d => if d.isNull || !top.isNull && d.order compareText top != .gt then top else d) .null

mutual

def eval (s : Scope) : Formula → Datum
  | .constant d => d
  | .parameter number => s.parameters[number - 1]?.getD .null
  | .column index => s.row[index]?.getD .null
  | .unary op x => applyUnary op (eval s x)
  | .binary op c l r => apply op c.compareText (eval s l) (eval s r)
  | .same negated c l r => .ofBool (isSame c.compareText (eval s l) (eval s r) != negated)
  | .isNull negated x => .ofBool ((eval s x).isNull != negated)
  | .between negated lowCollation highCollation x low high =>
      let d := eval s x
      .ofTruth
        ((and3 ((compared lowCollation.compareText d (eval s low)).map (· != .lt))
          ((compared highCollation.compareText d (eval s high)).map (· != .gt))).map (· != negated))
  | .inList negated c x items =>
      .ofTruth ((isAmong c.compareText (eval s x) (evalAll s items)).map (· != negated))
  | .call function arguments => function (evalAll s arguments)
  | .countRows => .integer (Int64.ofNat s.group.length)
  | .countValues x =>
      .integer (Int64.ofNat
        (s.group.filter fun row => !(eval { s with row } x).isNull).length)
  | .largest c x => largestOf c.compareText (s.group.map fun row => eval { s with row } x)

def evalAll (s : Scope) : List Formula → List Datum
  | [] => []
  | x :: xs => eval s x :: evalAll s xs

end

/-- Whether a row is wanted: the condition, if there is one, is true of it. -/
def holds (s : Scope) : Option Formula → Bool
  | none => true
  | some x => (eval s x).truth == some true

mutual

/-- Whether a formula is over many rows. -/
def isAggregate : Formula → Bool
  | .countRows | .countValues _ | .largest _ _ => true
  | .constant _ | .parameter _ | .column _ => false
  | .unary _ x | .isNull _ x => isAggregate x
  | .binary _ _ l r | .same _ _ l r => isAggregate l || isAggregate r
  | .between _ _ _ x low high => isAggregate x || isAggregate low || isAggregate high
  | .inList _ _ x items => isAggregate x || anyAggregate items
  | .call _ arguments => anyAggregate arguments

def anyAggregate : List Formula → Bool
  | [] => false
  | x :: xs => isAggregate x || anyAggregate xs

end

mutual

/-- The places in the row that a formula looks at. -/
def columns : Formula → List Nat
  | .column index => [index]
  | .constant _ | .parameter _ | .countRows => []
  | .unary _ x | .isNull _ x | .countValues x | .largest _ x => columns x
  | .binary _ _ l r | .same _ _ l r => columns l ++ columns r
  | .between _ _ _ x low high => columns x ++ columns low ++ columns high
  | .inList _ _ x items => columns x ++ allColumns items
  | .call _ arguments => allColumns arguments

def allColumns : List Formula → List Nat
  | [] => []
  | x :: xs => columns x ++ allColumns xs

end

end Formula

end TypedSql
