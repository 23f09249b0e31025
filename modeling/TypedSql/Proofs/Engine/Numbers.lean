import Mathlib.Algebra.Group.Nat.Defs
import TypedSql.Engine.Formula

namespace TypedSql

namespace Binary64

/-! ## Integers as reals -/

theorem isZero_ofMagnitude {m : Nat} (hm : m < 2 ^ 63) (negative : Bool) :
    (ofMagnitude negative m).isZero = (m == 0) := by
  cases negative <;>
    simp only [isZero, ofMagnitude, UInt64.toNat_ofNat', Nat.pow_eq, if_true, if_false,
      Bool.false_eq_true]
  · rw [Nat.mod_eq_of_lt (a := m) (by omega), Nat.mod_eq_of_lt hm]
  · rw [Nat.mod_eq_of_lt (a := 2 ^ 63 + m) (by omega), Nat.add_mod_left, Nat.mod_eq_of_lt hm]

theorem isNegative_ofMagnitude {m : Nat} (hm : m < 2 ^ 63) (negative : Bool) :
    (ofMagnitude negative m).isNegative = negative := by
  cases negative <;>
    simp only [isNegative, ofMagnitude, UInt64.toNat_ofNat', Nat.pow_eq, if_true, if_false,
      Bool.false_eq_true, beq_iff_eq, beq_eq_false_iff_ne] <;> omega

theorem exponentField_ofMagnitude {m : Nat} (hm : m < 2 ^ 63) (negative : Bool) :
    (ofMagnitude negative m).exponentField = m / 2 ^ 52 := by
  cases negative <;>
    simp only [exponentField, ofMagnitude, UInt64.toNat_ofNat', Nat.pow_eq, if_true, if_false,
      Bool.false_eq_true] <;> omega

theorem fractionField_ofMagnitude (m : Nat) (negative : Bool) :
    (ofMagnitude negative m).fractionField = m % 2 ^ 52 := by
  cases negative <;>
    simp only [fractionField, ofMagnitude, UInt64.toNat_ofNat', Nat.pow_eq, if_true, if_false,
      Bool.false_eq_true] <;> omega

theorem isInfinite_ofMagnitude {m : Nat} (hm : m < infinite) (negative : Bool) :
    (ofMagnitude negative m).isInfinite = false := by
  have hbound : infinite = 2047 * 2 ^ 52 := rfl
  have hexponent := exponentField_ofMagnitude (m := m) (by omega) negative
  simp only [isInfinite, hexponent, Bool.and_eq_false_iff, beq_eq_false_iff_ne]
  exact .inl (by omega)

/-- At a scale of at most 54 bits a number is a quotient of as many. -/
theorem quotient_lt {n : Nat} {q : Int} (hq : (n.log2 : Int) - 53 ≤ q) :
    n * Nat.pow 2 (-q).toNat / (1 * Nat.pow 2 q.toNat) < 2 ^ 54 := by
  simp only [Nat.pow_eq, Nat.one_mul]
  have hn : n < 2 ^ (n.log2 + 1) := Nat.lt_log2_self
  by_cases hneg : q < 0
  · have hsize : n * 2 ^ (-q).toNat < 2 ^ 54 := calc
      n * 2 ^ (-q).toNat < 2 ^ (n.log2 + 1) * 2 ^ (-q).toNat :=
        Nat.mul_lt_mul_of_pos_right hn (Nat.two_pow_pos _)
      _ = 2 ^ (n.log2 + 1 + (-q).toNat) := (Nat.pow_add ..).symm
      _ ≤ 2 ^ 54 := Nat.pow_le_pow_right (by omega) (by omega)
    exact Nat.lt_of_le_of_lt (Nat.div_le_self _ _) hsize
  · have hscale : (-q).toNat = 0 := by omega
    rw [hscale, Nat.pow_zero, Nat.mul_one]
    refine Nat.div_lt_of_lt_mul ?_
    calc
      n < 2 ^ (n.log2 + 1) := hn
      _ ≤ 2 ^ (q.toNat + 54) := Nat.pow_le_pow_right (by omega) (by omega)
      _ = 2 ^ q.toNat * 2 ^ 54 := Nat.pow_add ..

/-- The value nearest to a whole number: some scale at which the number has at most 54 bits, and the
number at that scale, rounded. -/
theorem ofRatio_one (negative : Bool) {n : Nat} (hn : n ≠ 0) :
    ∃ (q : Int) (rounded : Nat), n.log2 - 53 ≤ q ∧ q ≤ max (n.log2 - 53 : Int) (-1074) + 1 ∧
      rounded ≤ 2 ^ 54 ∧
      ofRatio negative n 1 =
        ofMagnitude negative (min ((q + 1074).toNat * Nat.pow 2 52 + rounded) infinite) := by
  have hlog : Nat.log2 1 = 0 := by decide
  simp only [ofRatio, if_neg hn, hlog]
  generalize hq : (if _ < Nat.pow 2 53 then _ else _ : Int) = q
  have hlow : n.log2 - 53 ≤ q := by
    rw [← hq]
    split <;> omega
  have hhigh : q ≤ max (n.log2 - 53 : Int) (-1074) + 1 := by
    rw [← hq]
    split <;> omega
  refine ⟨q, _, hlow, hhigh, ?_, rfl⟩
  have hbound := quotient_lt hlow
  split
  · omega
  · split <;> omega

/-- An integer of 64 bits as a real: neither zero, unless it is, nor infinite. -/
theorem ofInt_magnitude {n : Int} (h0 : n ≠ 0) (hn : n.natAbs ≤ 2 ^ 63) :
    ∃ m, 0 < m ∧ m < infinite ∧ ofInt n = ofMagnitude (decide (n < 0)) m := by
  have hlog : n.natAbs.log2 < 64 := (Nat.log2_lt (by omega)).mpr (by omega)
  obtain ⟨q, rounded, hlow, hhigh, hrounded, heq⟩ :=
    ofRatio_one (decide (n < 0)) (show n.natAbs ≠ 0 by omega)
  have hinfinite : infinite = 2047 * Nat.pow 2 52 := rfl
  have hpow : Nat.pow 2 52 = 4503599627370496 := rfl
  have hscale : (q + 1074).toNat * Nat.pow 2 52 ≤ 1085 * Nat.pow 2 52 :=
    Nat.mul_le_mul_right _ (by omega)
  have hpos : 1 * Nat.pow 2 52 ≤ (q + 1074).toNat * Nat.pow 2 52 :=
    Nat.mul_le_mul_right _ (by omega)
  exact ⟨_, by omega, by omega, heq⟩

theorem natAbs_toInt_le (n : Int64) : n.toInt.natAbs ≤ 2 ^ 63 := by
  have hlow := n.le_toInt
  have hhigh := n.toInt_lt
  omega

theorem isZero_ofInt (n : Int64) : (ofInt n.toInt).isZero = (n == 0) := by
  by_cases hn : n = 0
  · subst hn
    rfl
  · have hint : n.toInt ≠ 0 := fun h => hn (Int64.toInt_inj.mp h)
    obtain ⟨m, hpos, hlt, heq⟩ := ofInt_magnitude hint (natAbs_toInt_le n)
    have hbound : infinite < 2 ^ 63 := by decide
    rw [heq, isZero_ofMagnitude (by omega), beq_eq_false_iff_ne.mpr hn,
      beq_eq_false_iff_ne.mpr (by omega)]

theorem isInfinite_ofInt (n : Int64) : (ofInt n.toInt).isInfinite = false := by
  by_cases hn : n = 0
  · subst hn
    rfl
  · have hint : n.toInt ≠ 0 := fun h => hn (Int64.toInt_inj.mp h)
    obtain ⟨m, -, hlt, heq⟩ := ofInt_magnitude hint (natAbs_toInt_le n)
    rw [heq, isInfinite_ofMagnitude hlt]

/-! ## Results that are left open -/

theorem isNegative_negated (x : Binary64) : x.negated.isNegative = !x.isNegative :=
  isNegative_ofMagnitude (Nat.mod_lt _ (by decide)) _

theorem isInfinite_negated (x : Binary64) : x.negated.isInfinite = x.isInfinite := by
  have hmagnitude : x.bits.toNat % Nat.pow 2 63 < 2 ^ 63 := Nat.mod_lt _ (by decide)
  have hexponent : x.negated.exponentField = x.exponentField := by
    rw [negated, exponentField_ofMagnitude hmagnitude, exponentField]
    simp only [Nat.pow_eq]
    omega
  have hfraction : x.negated.fractionField = x.fractionField := by
    rw [negated, fractionField_ofMagnitude, fractionField]
    simp only [Nat.pow_eq]
    omega
  rw [isInfinite, isInfinite, hexponent, hfraction]

/-- Whether an operator leaves a result of reals open: infinities that cancel out, an infinity of
zeros, and a quotient by zero or of infinities. -/
def leavesOpen (op : BinaryOperator) (x y : Binary64) : Bool :=
  match op with
  | .add => x.isInfinite && y.isInfinite && x.isNegative != y.isNegative
  | .subtract => x.isInfinite && y.isInfinite && x.isNegative == y.isNegative
  | .multiply => (x.isInfinite || y.isInfinite) && (x.isZero || y.isZero)
  | .divide => y.isZero || x.isInfinite && y.isInfinite
  | _ => false

theorem add_eq_none_iff (x y : Binary64) :
    x.add y = none ↔ (x.isInfinite && y.isInfinite && x.isNegative != y.isNegative) = true := by
  rw [add]
  cases x.isInfinite <;> cases y.isInfinite <;> cases x.isNegative <;> cases y.isNegative <;>
    simp [-Nat.reducePow]

end Binary64

namespace Formula

theorem realArithmetic_eq_none_iff {op : BinaryOperator}
    (hop : op ∈ [.add, .subtract, .multiply, .divide]) (x y : Binary64) :
    realArithmetic op x y = none ↔ x.leavesOpen op y = true := by
  simp only [List.mem_cons, List.not_mem_nil, or_false] at hop
  rcases hop with rfl | rfl | rfl | rfl
  · exact x.add_eq_none_iff y
  · rw [realArithmetic, Binary64.subtract, Binary64.add_eq_none_iff, Binary64.isInfinite_negated,
      Binary64.isNegative_negated, Binary64.leavesOpen]
    cases x.isNegative <;> cases y.isNegative <;> simp
  · rw [realArithmetic, Binary64.multiply, Binary64.leavesOpen]
    cases x.isInfinite <;> cases y.isInfinite <;> cases x.isZero <;> cases y.isZero <;>
      simp [-Nat.reducePow]
  · rw [realArithmetic, Binary64.divide, Binary64.leavesOpen]
    cases x.isInfinite <;> cases y.isInfinite <;> cases y.isZero <;> simp

end Formula

/-! ## Numbers among the values -/

namespace Datum

def isNumber : Datum → Bool
  | .integer _ | .real _ => true
  | _ => false

theorem isNumber_ofInt (n : Int) : (ofInt n).isNumber = true := by
  rw [ofInt]
  split <;> rfl

theorem exists_real {d : Datum} (h : d.isNumber = true) : ∃ x, d.real? = some x := by
  cases d <;> first | exact ⟨_, rfl⟩ | cases h

theorem exists_integer {d : Datum} (h : d.isNumber = true) : ∃ n, d.integer? = some n := by
  cases d <;> first | exact ⟨_, rfl⟩ | cases h

end Datum

def BinaryOperator.isArithmetic : BinaryOperator → Bool
  | .add | .subtract | .multiply | .divide | .remainder | .bitAnd | .bitOr | .shiftLeft
  | .shiftRight => true
  | _ => false

namespace Formula

/-- Whether two numbers have no value under an operator: the divisor is zero, or infinities leave
the result open. -/
def indeterminate (op : BinaryOperator) (l r : Datum) : Bool :=
  match op with
  | .remainder => r.integer? == some 0
  | _ =>
      match l.real?, r.real? with
      | some x, some y => x.leavesOpen op y
      | _, _ => false

/-- For integers it is the divisor alone. -/
theorem indeterminate_integers (op : BinaryOperator) (a b : Int64) :
    indeterminate op (.integer a) (.integer b) = true ↔
      (op = .divide ∨ op = .remainder) ∧ b = 0 := by
  cases op <;>
    simp [indeterminate, Datum.real?, Datum.integer?, Binary64.leavesOpen, Binary64.isZero_ofInt,
      Binary64.isInfinite_ofInt]

/-- What reals make, as a value. -/
theorem isNumber_realArithmetic {op : BinaryOperator}
    (hop : op ∈ [.add, .subtract, .multiply, .divide]) (x y : Binary64) :
    (((realArithmetic op x y).map Datum.real).getD .null).isNumber = !x.leavesOpen op y := by
  have hnone := realArithmetic_eq_none_iff hop x y
  cases h : realArithmetic op x y with
  | none => rw [hnone.mp h]; rfl
  | some z =>
      have hopen : x.leavesOpen op y = false := by
        rw [← Bool.not_eq_true, ← hnone, h]
        exact Option.some_ne_none z
      rw [hopen]
      rfl

theorem arithmetic_number {op : BinaryOperator} (hop : op ∈ [.add, .subtract, .multiply, .divide])
    {l r : Datum} (hl : l.isNumber = true) (hr : r.isNumber = true) :
    (arithmetic op l r).isNumber = !indeterminate op l r := by
  obtain ⟨x, hx⟩ := Datum.exists_real hl
  obtain ⟨y, hy⟩ := Datum.exists_real hr
  have hopen : indeterminate op l r = x.leavesOpen op y := by
    simp only [List.mem_cons, List.not_mem_nil, or_false] at hop
    rcases hop with rfl | rfl | rfl | rfl <;> simp only [indeterminate, hx, hy]
  by_cases hwhole : ∃ a b n, l = .integer a ∧ r = .integer b ∧ integerArithmetic op a b = some n
  · obtain ⟨a, b, n, rfl, rfl, hn⟩ := hwhole
    have hzero : ¬ indeterminate op (.integer a) (.integer b) = true := by
      rw [indeterminate_integers]
      rintro ⟨rfl | rfl, rfl⟩ <;> simp [integerArithmetic] at hn
    simp [arithmetic, hn, hzero, Datum.isNumber]
  · have hnone (a b : Int64) (ha : l = .integer a) (hb : r = .integer b) :
        integerArithmetic op a b = none :=
      Option.eq_none_iff_forall_ne_some.mpr fun n hn => hwhole ⟨a, b, n, ha, hb, hn⟩
    rw [hopen, ← isNumber_realArithmetic hop]
    unfold arithmetic
    rw [hx, hy]
    cases l <;> cases r <;> first | rfl | simp only [hnone]

theorem remainder_number {l r : Datum} (hl : l.isNumber = true) (hr : r.isNumber = true) :
    (remainder l r).isNumber = !indeterminate .remainder l r := by
  obtain ⟨a, ha⟩ := Datum.exists_integer hl
  obtain ⟨b, hb⟩ := Datum.exists_integer hr
  simp only [remainder, ha, hb, indeterminate]
  by_cases hzero : b = 0
  · simp [hzero, Datum.isNumber]
  · rw [if_neg hzero]
    split
    · simp [Datum.isNumber_ofInt, hzero]
    · simp [Datum.isNumber, hzero]

/-- Arithmetic makes a number of numbers, unless it is indeterminate. -/
theorem apply_number {op : BinaryOperator} (hop : op.isArithmetic = true) (c : Comparison)
    {l r : Datum} (hl : l.isNumber = true) (hr : r.isNumber = true) :
    (apply op c l r).isNumber = !indeterminate op l r := by
  cases op with
  | add | subtract | multiply | divide => exact arithmetic_number (by decide) hl hr
  | remainder => exact remainder_number hl hr
  | bitAnd | bitOr | shiftLeft | shiftRight =>
      obtain ⟨a, ha⟩ := Datum.exists_integer hl
      obtain ⟨b, hb⟩ := Datum.exists_integer hr
      obtain ⟨x, hx⟩ := Datum.exists_real hl
      obtain ⟨y, hy⟩ := Datum.exists_real hr
      simp only [apply, ha, hb, indeterminate, hx, hy, Binary64.leavesOpen]
      rfl
  | _ => cases hop

/-- Arithmetic with `NULL` is `NULL`. -/
theorem apply_null {op : BinaryOperator} (hop : op.isArithmetic = true) (c : Comparison)
    {l r : Datum} (h : l = .null ∨ r = .null) : apply op c l r = .null := by
  cases op with
  | add | subtract | multiply | divide | remainder | bitAnd | bitOr | shiftLeft | shiftRight =>
      rcases h with rfl | rfl
      · rfl
      · cases l <;> rfl
  | _ => cases hop

/-- Nothing is divided by zero. -/
theorem apply_divide_zero (c : Comparison) (d : Datum) :
    apply .divide c d (.integer 0) = .null := by
  cases d <;> rfl

end Formula

end TypedSql
