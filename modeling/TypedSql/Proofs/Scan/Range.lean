import TypedSql.Proofs.Scan.Positions

/-!
Which numbers the question marks of a text can have. A number that is written out is checked; that
of a bare mark follows from those before it and is not. The numbers of an accepted text go up to
that of its cells, and so are all numbers of parameters as long as that one is.
-/

namespace TypedSql

/-- Whether a statement can have a parameter of this number. -/
def IsParameterNumber (n : Nat) : Prop := 1 ≤ n ∧ n ≤ maxParameter

instance : DecidablePred IsParameterNumber := fun n =>
  inferInstanceAs (Decidable (1 ≤ n ∧ n ≤ maxParameter))

/-- Whether every number that is written out, and so belongs to a mark with digits, is one that a
parameter can have. -/
def WrittenInRange (ps : List Piece) : Prop :=
  ∀ x ∈ (marks ps).zip (numbers ps), x.1 ≠ [] → IsParameterNumber x.2

/-! ## The range of the numbers -/

theorem outOfRange_eq_false_iff {digits : List Char} :
    outOfRange digits = false ↔ (digits ≠ [] → IsParameterNumber (digitsValue digits)) := by
  simp only [outOfRange, IsParameterNumber, Bool.and_eq_false_imp, Bool.not_eq_true',
    List.isEmpty_eq_false_iff, Bool.not_eq_false', Bool.and_eq_true, decide_eq_true_eq]

theorem numberAfter_of_digits {digits : List Char} (h : digits ≠ []) (highest : Nat) :
    numberAfter highest digits = digitsValue digits := by
  simp [numberAfter, h]

/-- No digits are out of range if no number that is written out is. -/
theorem find?_outOfRange_eq_none_iff {ds : List (List Char)} (highest : Nat) :
    ds.find? outOfRange = none ↔
      ∀ x ∈ ds.zip (numbersFrom highest ds), x.1 ≠ [] → IsParameterNumber x.2 := by
  induction ds generalizing highest with
  | nil => simp
  | cons digits ds ih =>
      have hhead : outOfRange digits = false ↔
          (digits ≠ [] → IsParameterNumber (numberAfter highest digits)) := by
        rw [outOfRange_eq_false_iff]
        refine forall_congr' fun hd => ?_
        rw [numberAfter_of_digits hd]
      rw [numbersFrom, List.zip_cons_cons, List.forall_mem_cons, ← hhead, ← ih]
      simp

theorem largest_mem {ns : List Nat} (h : ns ≠ []) : largest ns ∈ ns := by
  rw [largest, List.max?_eq_some_max h]
  exact List.max_mem h

/-- Numbers that start at one are in range if the largest of them is. -/
theorem forall_isParameterNumber_iff {ns : List Nat} (h : ∀ n ∈ ns, 1 ≤ n) :
    (∀ n ∈ ns, IsParameterNumber n) ↔ largest ns ≤ maxParameter := by
  constructor
  · intro hall
    by_cases hns : ns = []
    · rw [hns]
      exact Nat.zero_le _
    · exact (hall _ (largest_mem hns)).2
  · intro hlargest n hn
    exact ⟨h n hn, Nat.le_trans (List.le_max?_getD_of_mem hn) hlargest⟩

/-! ## What inlining checks -/

theorem Divided.replacePositional {s : List Char} {ps : List Piece} (h : Divided s ps)
    (cells : List Cell) (highest : Nat) :
    replacePositional cells highest (scan s) = replacePositional cells highest ps := by
  rw [h.eq_spread_scan, replacePositional_spread]

section
variable {sql : String} {ps : List Piece} (h : Divided sql.toList ps) (cells : List Cell)
include h

/-- A number that is written out and out of range is an error. -/
theorem Divided.inlinePositional_outOfRange (hps : (marks ps).find? outOfRange ≠ none) :
    ∃ token, inlinePositional sql cells = .error (.invalidIndex token) := by
  obtain ⟨digits, hfirst⟩ := Option.ne_none_iff_exists'.mp hps
  refine ⟨String.ofList ('?' :: digits), ?_⟩
  rw [inlinePositional, h.replacePositional, replacePositional_outOfRange cells 0 hfirst]
  rfl

/-- With none of them all that is asked is that the cells are as many as the largest number. -/
theorem Divided.inlinePositional_inRange (hps : (marks ps).find? outOfRange = none) :
    ∃ out, inlinePositional sql cells =
      if largest (numbers ps) = cells.length then .ok out
      else .error (.countMismatch (largest (numbers ps)) cells.length) := by
  obtain ⟨out, hout, -⟩ := replacePositional_inRange cells 0 hps
  refine ⟨String.ofList out, ?_⟩
  rw [inlinePositional, h.replacePositional, hout, ← numbers, foldl_max_eq_largest]
  rfl

end

/-- The range that is checked is that of the numbers written out: one of them out of range is an
error, and nothing else is that error. With those in range a text is accepted if its largest number
is that of the cells, whatever it is. The numbers of all its marks, bare ones included, are then
numbers of parameters exactly if the largest is not beyond the last of those. -/
theorem inlinePositional_range (sql : String) (cells : List Cell) :
    ∃ ps, Divided sql.toList ps ∧
      ((∃ token, inlinePositional sql cells = .error (.invalidIndex token)) ↔
        ¬ WrittenInRange ps) ∧
      ((∃ out, inlinePositional sql cells = .ok out) ↔
        WrittenInRange ps ∧ largest (numbers ps) = cells.length) ∧
      (WrittenInRange ps →
        (largest (numbers ps) ≠ cells.length →
          inlinePositional sql cells =
            .error (.countMismatch (largest (numbers ps)) cells.length)) ∧
        ((∀ n ∈ numbers ps, IsParameterNumber n) ↔ largest (numbers ps) ≤ maxParameter)) := by
  obtain ⟨ps, hps⟩ := exists_divided sql.toList
  have hwritten : WrittenInRange ps ↔ (marks ps).find? outOfRange = none :=
    (find?_outOfRange_eq_none_iff 0).symm
  refine ⟨ps, hps, ?_⟩
  rw [hwritten]
  by_cases hnone : (marks ps).find? outOfRange = none
  · have hrange : (∀ n ∈ numbers ps, IsParameterNumber n) ↔ largest (numbers ps) ≤ maxParameter :=
      forall_isParameterNumber_iff fun n hn => one_le_of_mem_numbersFrom hnone hn
    obtain ⟨out, hout⟩ := hps.inlinePositional_inRange cells hnone
    by_cases hcount : largest (numbers ps) = cells.length
    · rw [if_pos hcount] at hout
      refine ⟨?_, ?_, fun _ => ⟨fun hne => absurd hcount hne, hrange⟩⟩
      · simp [hout, hnone]
      · simp [hout, hnone, hcount]
    · rw [if_neg hcount] at hout
      refine ⟨?_, ?_, fun _ => ⟨fun _ => hout, hrange⟩⟩
      · simp [hout, hnone]
      · simp [hout, hcount]
  · obtain ⟨token, htoken⟩ := hps.inlinePositional_outOfRange cells hnone
    refine ⟨?_, ?_, fun h => absurd h hnone⟩
    · simp [htoken, hnone]
    · simp [htoken, hnone]

/-- A number is written out for the last parameter that there is, and the bare mark after it has
the number after that. -/
example :
    inlinePositional "?32767" [] = .error (.invalidIndex "?32767") ∧
      inlinePositional "?32766, ?" [] = .error (.countMismatch 32767 0) :=
  ⟨by cbv, by cbv⟩

/-! ## Bare marks beyond the range -/

theorem divided_bare (n : Nat) :
    Divided (List.replicate n '?') (List.replicate n (.parameter (.positional []))) := by
  induction n with
  | zero => exact .nil
  | succ n ih =>
      have hrest : ∀ c ∈ (List.replicate n '?').head?, c.isDigit = false := by
        intro c hc
        rw [List.eq_of_mem_replicate (List.mem_of_mem_head? hc)]
        rfl
      exact .mark (List.forall_mem_nil _) hrest ih

theorem positionals_bare (n : Nat) :
    positionals (List.replicate n (.parameter (.positional []))) =
      List.replicate n (.positional []) := by
  induction n with
  | zero => rfl
  | succ n ih => exact congrArg (.positional [] :: ·) ih

theorem marks_bare (n : Nat) :
    marks (List.replicate n (.parameter (.positional []))) = List.replicate n [] := by
  induction n with
  | zero => rfl
  | succ n ih => exact congrArg ([] :: ·) ih

theorem numbersFrom_bare (highest n : Nat) :
    numbersFrom highest (List.replicate n []) = List.range' (highest + 1) n := by
  induction n generalizing highest with
  | zero => rfl
  | succ n ih =>
      have hnumber : numberAfter highest [] = highest + 1 := rfl
      rw [List.replicate_succ, numbersFrom, hnumber, Nat.max_eq_right (Nat.le_succ _), ih,
        List.range'_succ]

theorem fill_bare (cells : List Cell) :
    fill (List.replicate cells.length (.parameter (.positional []))) cells =
      cells.flatMap fun cell => cell.literal.toList := by
  induction cells with
  | nil => rfl
  | cons cell cells ih => exact congrArg (cell.literal.toList ++ ·) ih

/-- As many bare marks as there are cells are accepted, and are numbered up to that of the cells:
with more cells than there are parameters the numbers go beyond the range. -/
theorem inlinePositional_bare (cells : List Cell) :
    let sql := String.ofList (List.replicate cells.length '?')
    ∃ ps, Divided sql.toList ps ∧ numbers ps = List.range' 1 cells.length ∧
      inlinePositional sql cells =
        .ok (String.ofList (cells.flatMap fun cell => cell.literal.toList)) := by
  intro sql
  have hps : Divided sql.toList (List.replicate cells.length (.parameter (.positional []))) := by
    rw [String.toList_ofList]
    exact divided_bare cells.length
  refine ⟨_, hps, ?_, ?_⟩
  · rw [numbers, marks_bare, numbersFrom_bare]
  · have hfill := replacePositional_fill (positionals_bare cells.length) [] []
    rw [List.nil_append, List.append_nil, List.length_nil, Nat.zero_add, fill_bare] at hfill
    rw [inlinePositional, hps.replacePositional, hfill]
    exact if_pos rfl

end TypedSql
