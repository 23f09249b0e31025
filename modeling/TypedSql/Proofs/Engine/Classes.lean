import TypedSql.Engine.Function
import TypedSql.Proofs.Engine.Numbers
import TypedSql.Term.Typing

namespace TypedSql

def Datum.isOf : StorageClass → Datum → Bool
  | .integer, d | .real, d => d.isNumber
  | .text, .text _ | .blob, .blob _ => true
  | _, _ => false

/-- Whether a value may be met where a type is. -/
def ResultType.admits : ResultType → Datum → Bool
  | .untyped, _ => true
  | .value type nullable, d => if d.isNull then nullable else d.isOf type.storage

namespace ResultType

variable {t : ValueType} {n : Bool} {d : Datum}

theorem isNull_of_isOf {c : StorageClass} (h : d.isOf c = true) : d.isNull = false := by
  cases d <;> first | rfl | (cases c <;> cases h)

theorem admits_of_isOf (h : d.isOf t.storage = true) : (value t n).admits d = true := by
  rw [admits, isNull_of_isOf h]
  exact h

/-- A value is `NULL`, and the type is nullable, or it is of the storage class. -/
theorem null_or_isOf (h : (value t n).admits d = true) :
    d = .null ∧ n = true ∨ d.isOf t.storage = true := by
  cases d with
  | null => exact .inl ⟨rfl, h⟩
  | integer | real | text | blob => exact .inr h

theorem isNumber_of_isOf (ht : t.storage = .integer ∨ t.storage = .real)
    (h : d.isOf t.storage = true) : d.isNumber = true := by
  rcases ht with ht | ht <;> rwa [ht] at h

/-- A truth value, unknown only where the type is nullable. -/
theorem admits_ofTruth {b : Option Bool} (h : b = none → n = true) :
    (value .boolean n).admits (.ofTruth b) = true := by
  cases b with
  | none => exact h rfl
  | some b => rfl

theorem truth_eq_none (h : (value t n).admits d = true) (hd : d.truth = none) : n = true := by
  cases d with
  | null => exact h
  | integer | real | text | blob => simp [Datum.truth] at hd

end ResultType

/-- Whether a binary operator is worked out by itself, and not by a function of its name. -/
def BinaryOperator.isEvaluated : BinaryOperator → Bool
  | .like | .glob | .matches => false
  | _ => true

namespace Formula

open ResultType

variable {t u : ValueType} {n m : Bool} {l r : Datum} {op : BinaryOperator}

theorem and3_eq_none {a b : Option Bool} (h : and3 a b = none) : a = none ∨ b = none := by
  rcases a with _ | _ | _ <;> rcases b with _ | _ | _ <;> simp_all [and3]

theorem or3_eq_none {a b : Option Bool} (h : or3 a b = none) : a = none ∨ b = none := by
  rcases a with _ | _ | _ <;> rcases b with _ | _ | _ <;> simp_all [or3]

theorem compared_eq_none {c : Comparison} (hl : (value t n).admits l = true)
    (hr : (value u m).admits r = true) (h : compared c l r = none) : (n || m) = true := by
  rw [compared] at h
  rcases null_or_isOf hl with ⟨rfl, rfl⟩ | hl
  · rfl
  rcases null_or_isOf hr with ⟨rfl, rfl⟩ | hr
  · exact Bool.or_true n
  · simp [isNull_of_isOf hl, isNull_of_isOf hr] at h

/-- Arithmetic keeps to the type of its operands. -/
theorem admits_arithmetic (hop : op.isArithmetic = true)
    (ht : t.storage = .integer ∨ t.storage = .real) (c : Comparison)
    (hl : (value t n).admits l = true) (hr : (value t m).admits r = true)
    (hdet : indeterminate op l r = false) : (value t (n || m)).admits (apply op c l r) = true := by
  rcases null_or_isOf hl with ⟨rfl, rfl⟩ | hl
  · rw [apply_null hop c (.inl rfl), Bool.true_or]
    rfl
  rcases null_or_isOf hr with ⟨rfl, rfl⟩ | hr
  · rw [apply_null hop c (.inr rfl), Bool.or_true]
    rfl
  · have hnumber := apply_number hop c (isNumber_of_isOf ht hl) (isNumber_of_isOf ht hr)
    rw [hdet] at hnumber
    apply admits_of_isOf
    rcases ht with ht | ht <;> rw [ht] <;> exact hnumber

/-- The types that operators of arithmetic take are those of numbers, and they keep them. -/
theorem result_arithmetic (hop : op.isArithmetic = true) (h : op.result t = some u) :
    u = t ∧ (t.storage = .integer ∨ t.storage = .real) := by
  cases op with
  | add | subtract | multiply | divide =>
      cases t <;> simp_all [BinaryOperator.result, ValueType.isNumber, ValueType.storage]
  | remainder | shiftLeft | shiftRight | bitAnd | bitOr =>
      cases t <;> simp_all [BinaryOperator.result, ValueType.storage]
  | _ => cases hop

theorem admits_apply (hop : op.isEvaluated = true) (hresult : op.result t = some u) (c : Comparison)
    (hl : (value t n).admits l = true) (hr : (value t m).admits r = true)
    (hdet : indeterminate op l r = false) : (value u (n || m)).admits (apply op c l r) = true := by
  cases op with
  | add | subtract | multiply | divide | remainder | shiftLeft | shiftRight | bitAnd | bitOr =>
      obtain ⟨rfl, ht⟩ := result_arithmetic rfl hresult
      exact admits_arithmetic rfl ht c hl hr hdet
  | concat =>
      obtain ⟨rfl, rfl⟩ : t = .text ∧ u = .text := by
        cases t <;> simp_all [BinaryOperator.result]
      rcases null_or_isOf hl with ⟨rfl, rfl⟩ | hl
      · rfl
      rcases null_or_isOf hr with ⟨rfl, rfl⟩ | hr
      · cases l <;> exact Bool.or_true n
      · cases l <;> cases hl
        cases r <;> cases hr
        rfl
  | and | or =>
      obtain ⟨rfl, rfl⟩ : t = .boolean ∧ u = .boolean := by
        cases t <;> simp_all [BinaryOperator.result]
      refine admits_ofTruth fun h => ?_
      have hnone : l.truth = none ∨ r.truth = none := by
        first | exact and3_eq_none h | exact or3_eq_none h
      rcases hnone with h | h
      · rw [truth_eq_none hl h, Bool.true_or]
      · rw [truth_eq_none hr h, Bool.or_true]
  | equal | notEqual | less | lessEqual | greater | greaterEqual =>
      obtain rfl : u = .boolean := by
        cases t <;> simp_all [BinaryOperator.result]
      refine admits_ofTruth fun h => compared_eq_none (c := c) hl hr ?_
      simpa using h
  | _ => cases hop

theorem admits_applyUnary {op : UnaryOperator} (hop : op.takes t = true)
    (h : (value t n).admits l = true) : (value t n).admits (applyUnary op l) = true := by
  rcases null_or_isOf h with ⟨rfl, rfl⟩ | hl
  · cases op <;> rfl
  cases op with
  | negate =>
      have ht : t.storage = .integer ∨ t.storage = .real := by
        cases t <;> simp_all [UnaryOperator.takes, ValueType.isNumber, ValueType.storage]
      have hnumber : (applyUnary .negate l).isNumber = true := by
        cases l with
        | integer k => exact Datum.isNumber_ofInt _
        | real x => rfl
        | _ => cases isNumber_of_isOf ht hl
      apply admits_of_isOf
      rcases ht with ht | ht <;> rw [ht] <;> exact hnumber
  | complement =>
      obtain rfl : t = .integer := by
        cases t <;> simp_all [UnaryOperator.takes]
      obtain ⟨k, hk⟩ := Datum.exists_integer (isNumber_of_isOf (.inl rfl) hl)
      rw [applyUnary, hk]
      rfl
  | not =>
      obtain rfl : t = .boolean := by
        cases t <;> simp_all [UnaryOperator.takes]
      exact admits_ofTruth fun hnone => truth_eq_none h (by simpa using hnone)

/-! ## Predicates -/

theorem admits_between {lowCollation highCollation : Comparison} {low high : Datum} (negated : Bool)
    (h : (value t n).admits l = true) (hlow : (value t false).admits low = true)
    (hhigh : (value t false).admits high = true) :
    (value .boolean n).admits (.ofTruth
      ((and3 ((compared lowCollation l low).map (· != .lt))
        ((compared highCollation l high).map (· != .gt))).map (· != negated))) = true := by
  refine admits_ofTruth fun hnone => ?_
  rw [Option.map_eq_none_iff] at hnone
  rcases and3_eq_none hnone with hnone | hnone <;> rw [Option.map_eq_none_iff] at hnone
  · simpa using compared_eq_none h hlow hnone
  · simpa using compared_eq_none h hhigh hnone

/-- Whether a value is among others is unknown only where one of them, or itself, is `NULL`. -/
theorem isAmong_eq_none {c : Comparison} {items : List Datum}
    (h : (value t n).admits l = true) (hitems : ∀ d ∈ items, (value t false).admits d = true)
    (hnone : isAmong c l items = none) : n = true := by
  induction items with
  | nil => cases hnone
  | cons d ds ih =>
      rw [isAmong, List.foldr_cons, ← isAmong] at hnone
      rcases or3_eq_none hnone with hd | hds
      · rw [Option.map_eq_none_iff] at hd
        simpa using compared_eq_none h (hitems d List.mem_cons_self) hd
      · exact ih (fun e he => hitems e (List.mem_cons_of_mem d he)) hds

/-- Of two values the second counts only where the first is `NULL`. -/
theorem admits_firstValue_pair (hl : (value t true).admits l = true)
    (hr : (value t n).admits r = true) :
    (value t n).admits (NamedFunction.firstValue [l, r]) = true := by
  rcases null_or_isOf hl with ⟨rfl, -⟩ | hl
  · cases r <;> exact hr
  · rw [NamedFunction.firstValue, List.find?_cons_of_pos (by simp [isNull_of_isOf hl])]
    exact admits_of_isOf hl

theorem admits_firstValue {ds : List Datum} (h : ∀ d ∈ ds, (value t true).admits d = true) :
    (value t true).admits (NamedFunction.firstValue ds) = true := by
  rw [NamedFunction.firstValue]
  cases hfind : ds.find? fun d => !d.isNull with
  | none => rfl
  | some d => exact h d (List.mem_of_find?_eq_some hfind)

end Formula

end TypedSql
