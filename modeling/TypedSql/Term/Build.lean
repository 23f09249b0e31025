import TypedSql.Term.Typing

namespace TypedSql

/-- The other side of an operator: an expression, a value, or a value that may be absent. -/
inductive Operand where
  | term (x : Term)
  | value (v : Value)
  | optional (v : Option Value)
deriving Repr

/-- The operand as an expression, beside a receiver of the given value type. -/
def Operand.toTerm (receiver : ValueType) : Operand → Term
  | .term x => x
  | .value v => .value v
  | .optional v => .optional receiver v

namespace Term

/-- The operand of a receiver as an expression; one without a value type has no valid operand. -/
def operand (x : Term) (r : Operand) : Term :=
  match x.base? with
  | some t => r.toTerm t
  | none => r.toTerm .integer

def apply (op : BinaryOperator) (x : Term) (r : Operand) : Term := .binary op x (x.operand r)

/-- An operator that means another one for receivers of a certain type. -/
def overloaded (usual special : BinaryOperator) (type : ValueType) (x : Term) : BinaryOperator :=
  if x.base? = some type then special else usual

def addOperator (x : Term) : BinaryOperator := overloaded .add .concat .text x

/-- A sum, or the concatenation of two texts. -/
def add (x : Term) (r : Operand) : Term := x.apply x.addOperator r

/-- The bits common to both, or the conjunction of two conditions. -/
def bitAnd (x : Term) (r : Operand) : Term := x.apply (overloaded .bitAnd .and .boolean x) r

/-- The bits of either, or the disjunction of two conditions. -/
def bitOr (x : Term) (r : Operand) : Term := x.apply (overloaded .bitOr .or .boolean x) r

/-- The bits of exactly one, as those of either that are not common to both. -/
def xorWith (x y : Term) : Term :=
  .binary .bitAnd (.unary .complement (.binary .bitAnd x y)) (.binary .bitOr x y)

def bitXor (x : Term) (r : Operand) : Term := xorWith x (x.operand r)

/-- The bits that are not set, or the negation of a condition. -/
def complement (x : Term) : Term :=
  .unary (if x.base? = some .boolean then .not else .complement) x

/-- Equality; with an absent value, whether the receiver is `NULL`. -/
def eq (x : Term) (r : Operand) : Term :=
  match r with
  | .optional none => .compareNull false x
  | r => x.apply .equal r

/-- Inequality; with an absent value, whether the receiver is not `NULL`. -/
def ne (x : Term) (r : Operand) : Term :=
  match r with
  | .optional none => .compareNull true x
  | r => x.apply .notEqual r

/-- A condition on a text. -/
def matching (op : BinaryOperator) (x : Term) (pattern : String) : Term :=
  .binary op x (.value (.text pattern))

/-- A function of a receiver and values. -/
def callWith (function : Function) (x : Term) (arguments : List Value) : Term :=
  .call function (x :: arguments.map Term.value)

/-- The number of positions from `first` up to and without `stop`, at least zero and kept in range. -/
def rangeLength (first stop : Int64) : Int64 :=
  Int64.ofInt (max 0 (min (stop.toInt - first.toInt) Int64.maxValue.toInt))

/-- The characters at the positions from `first` up to and without `stop`, counted from one. -/
def substrRange (x : Term) (first stop : Int64) : Term :=
  callWith .substr x [.integer first, .integer (rangeLength first stop)]

/-- The receiver, or another value where it is `NULL`. -/
def ifNull (x : Term) (r : Operand) : Term := .call .ifnull [x, x.operand r]

end Term

end TypedSql
