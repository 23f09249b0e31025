import TypedSql.Term.Build

namespace TypedSql

namespace Term

mutual

/-- Whether an expression contains no SQL written by hand. -/
def isStructured : Term → Bool
  | .column .. | .qualified .. | .value _ | .optional .. | .quoted _ | .countRows | .random => true
  | .verbatim .. | .infixed .. | .wrapped .. | .joined .. => false
  | .binary _ l r => l.isStructured && r.isStructured
  | .unary _ x | .compareNull _ x | .nullCompare _ x | .isNull _ x | .between _ x _ _
  | .inList _ x _ | .likeEscape x _ _ | .collate x _ | .cast x _ | .aggregate _ _ x | .ordered x _
  | .untyped x => x.isStructured
  | .call _ arguments | .coalesce _ arguments | .userCall _ arguments _ => allStructured arguments

def allStructured : List Term → Bool
  | [] => true
  | x :: xs => x.isStructured && allStructured xs

end

end Term

def Operand.isStructured : Operand → Bool
  | .term x => x.isStructured
  | .value _ | .optional _ => true

namespace Term

variable {x y : Term} {r : Operand}

attribute [local simp] isStructured allStructured

@[simp] theorem isStructured_operand (x : Term) (r : Operand) :
    (x.operand r).isStructured = r.isStructured := by
  unfold operand
  split <;> cases r <;> rfl

theorem isStructured_apply (op : BinaryOperator) (hx : x.isStructured = true)
    (hr : r.isStructured = true) : (x.apply op r).isStructured = true := by
  simp [apply, hx, hr]

theorem isStructured_xorWith (hx : x.isStructured = true) (hy : y.isStructured = true) :
    (xorWith x y).isStructured = true := by
  simp [xorWith, hx, hy]

theorem isStructured_complement (hx : x.isStructured = true) :
    x.complement.isStructured = true := by
  simp [complement, hx]

/-- A comparison is one with its operand, or with `NULL`. -/
theorem isStructured_eq (hx : x.isStructured = true) (hr : r.isStructured = true) :
    (x.eq r).isStructured = true := by
  unfold Term.eq
  split
  · simp [hx]
  · exact isStructured_apply .equal hx hr

theorem isStructured_ne (hx : x.isStructured = true) (hr : r.isStructured = true) :
    (x.ne r).isStructured = true := by
  unfold Term.ne
  split
  · simp [hx]
  · exact isStructured_apply .notEqual hx hr

theorem isStructured_callWith (f : Function) (values : List Value) (hx : x.isStructured = true) :
    (callWith f x values).isStructured = true := by
  have hvalues : allStructured (values.map Term.value) = true := by
    induction values with
    | nil => rfl
    | cons v vs ih => simp [ih]
  simp [callWith, hx, hvalues]

theorem isStructured_ifNull (hx : x.isStructured = true) (hr : r.isStructured = true) :
    (x.ifNull r).isStructured = true := by
  simp [ifNull, hx, hr]

/-- An operation of the algebra that is more than a node over its receiver: which node it makes
depends on the receiver or the operand, or it makes several. -/
inductive Operation where
  | apply (op : BinaryOperator) (r : Operand)
  | bitXor (r : Operand)
  | complement
  | eq (r : Operand)
  | ne (r : Operand)
  | matching (op : BinaryOperator) (pattern : String)
  | callWith (f : Function) (values : List Value)
  | ifNull (r : Operand)

namespace Operation

def on (x : Term) : Operation → Term
  | apply op r => x.apply op r
  | bitXor r => x.bitXor r
  | complement => x.complement
  | eq r => x.eq r
  | ne r => x.ne r
  | matching op pattern => x.matching op pattern
  | callWith f values => Term.callWith f x values
  | ifNull r => x.ifNull r

/-- Whether the operand, if there is one, has no SQL written by hand. -/
def isStructured : Operation → Bool
  | apply _ r | bitXor r | eq r | ne r | ifNull r => r.isStructured
  | complement | matching .. | callWith .. => true

theorem isStructured_on {o : Operation} (ho : o.isStructured = true) (hx : x.isStructured = true) :
    (o.on x).isStructured = true := by
  cases o with
  | apply op r => exact isStructured_apply op hx ho
  | bitXor r => exact isStructured_xorWith hx ((isStructured_operand x r).trans ho)
  | complement => exact isStructured_complement hx
  | eq r => exact isStructured_eq hx ho
  | ne r => exact isStructured_ne hx ho
  | matching op pattern => simp [on, Term.matching, hx]
  | callWith f values => exact isStructured_callWith f values hx
  | ifNull r => exact isStructured_ifNull hx ho

end Operation

def chain (x : Term) (operations : List Operation) : Term := operations.foldl Operation.on x

theorem isStructured_chain (hx : x.isStructured = true) {operations : List Operation}
    (h : ∀ o ∈ operations, o.isStructured = true) : (x.chain operations).isStructured = true := by
  induction operations generalizing x with
  | nil => exact hx
  | cons o rest ih =>
      rw [List.forall_mem_cons] at h
      exact ih (Operation.isStructured_on h.1 hx) h.2

end Term

end TypedSql
