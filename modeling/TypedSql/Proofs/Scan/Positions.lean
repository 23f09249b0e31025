import TypedSql.Proofs.Scan.Spans

/-!
How the question marks of a text are numbered and what inlining makes of them. The numbers are
those of a division of the text, not of the scanner: a mark with digits has the number that they
denote, a bare one the number after the largest before it.
-/

namespace TypedSql

def Piece.mark? : Piece → Option (List Char)
  | .parameter (.positional digits) => some digits
  | _ => none

/-- The digits of the question marks among pieces, from left to right; a bare mark has none. -/
def marks (ps : List Piece) : List (List Char) := ps.filterMap Piece.mark?

/-- Whether digits are given and the number they denote is no number of a parameter. -/
def outOfRange (digits : List Char) : Bool :=
  !digits.isEmpty && !(1 ≤ digitsValue digits && digitsValue digits ≤ maxParameter)

/-- The number of a mark when `highest` is the largest number before it. -/
def numberAfter (highest : Nat) (digits : List Char) : Nat :=
  if digits.isEmpty then highest + 1 else digitsValue digits

/-- The numbers of marks when `highest` is the largest number before them. -/
def numbersFrom (highest : Nat) : List (List Char) → List Nat
  | [] => []
  | digits :: rest =>
      numberAfter highest digits :: numbersFrom (max highest (numberAfter highest digits)) rest

def numbers (ps : List Piece) : List Nat := numbersFrom 0 (marks ps)

def largest (ns : List Nat) : Nat := ns.max?.getD 0

theorem foldl_max_eq_largest (ns : List Nat) : ns.foldl max 0 = largest ns := by
  cases ns with
  | nil => rfl
  | cons n ns =>
      rw [largest, List.max?_cons', Option.getD_some, List.foldl_cons, Nat.zero_max]

@[simp] theorem marks_mark (digits : List Char) (ps : List Piece) :
    marks (.parameter (.positional digits) :: ps) = digits :: marks ps := rfl

theorem marks_cons_copied {p : Piece} (hp : ∀ digits, p ≠ .parameter (.positional digits))
    (ps : List Piece) : marks (p :: ps) = marks ps := by
  cases p with
  | char c => rfl
  | parameter t =>
      cases t with
      | positional digits => exact absurd rfl (hp digits)
      | named sigil name => rfl

theorem positionalNumber_of_outOfRange {digits : List Char} (h : outOfRange digits = true)
    (highest : Nat) : positionalNumber highest digits =
      .error (.invalidIndex (String.ofList ('?' :: digits))) := by
  simp only [outOfRange, Bool.and_eq_true, Bool.not_eq_true', Bool.and_eq_false_iff,
    decide_eq_false_iff_not] at h
  have hrange : ¬ (1 ≤ digitsValue digits ∧ digitsValue digits ≤ maxParameter) :=
    fun ⟨hlow, hhigh⟩ => h.2.elim (· hlow) (· hhigh)
  simp only [positionalNumber, h.1, Bool.false_eq_true, if_false, if_neg hrange]
  rfl

theorem positionalNumber_of_inRange {digits : List Char} (h : outOfRange digits = false)
    (highest : Nat) : positionalNumber highest digits = .ok (numberAfter highest digits) := by
  rw [positionalNumber, numberAfter]
  by_cases hd : digits.isEmpty
  · rw [if_pos hd, if_pos hd]
  · simp only [outOfRange, hd, Bool.not_false, Bool.true_and, Bool.not_eq_false',
      Bool.and_eq_true, decide_eq_true_eq] at h
    rw [if_neg hd, if_neg hd, if_pos h]

/-- The first mark out of range is what inlining fails with. -/
theorem replacePositional_outOfRange (cells : List Cell) (highest : Nat) {ps : List Piece}
    {digits : List Char} (h : (marks ps).find? outOfRange = some digits) :
    replacePositional cells highest ps =
      .error (.invalidIndex (String.ofList ('?' :: digits))) := by
  induction ps generalizing highest with
  | nil => simp [marks] at h
  | cons p ps ih =>
      by_cases hp : ∃ ds, p = .parameter (.positional ds)
      · obtain ⟨ds, rfl⟩ := hp
        rw [marks_mark, List.find?_cons] at h
        cases hr : outOfRange ds with
        | true =>
            obtain rfl : ds = digits := by simpa [hr] using h
            rw [replacePositional, positionalNumber_of_outOfRange hr]
            rfl
        | false =>
            rw [replacePositional, positionalNumber_of_inRange hr]
            simp only [bind, Except.bind]
            rw [ih _ (by simpa [hr] using h)]
      · have hp' : ∀ ds, p ≠ .parameter (.positional ds) := fun ds hd => hp ⟨ds, hd⟩
        rw [marks_cons_copied hp'] at h
        rw [replacePositional_cons_copied _ _ hp', ih _ h]
        rfl

/-- Where no mark is out of range, the largest number is found, and the cells that have the numbers
of the marks take their places. -/
theorem replacePositional_inRange (cells : List Cell) (highest : Nat) {ps : List Piece}
    (h : (marks ps).find? outOfRange = none) :
    ∃ out, replacePositional cells highest ps =
        .ok ((numbersFrom highest (marks ps)).foldl max highest, out) ∧
      ∀ values, (numbersFrom highest (marks ps)).mapM (fun n => cells[n - 1]?) = some values →
        out = fill ps values := by
  induction ps generalizing highest with
  | nil => exact ⟨[], rfl, fun _ _ => rfl⟩
  | cons p ps ih =>
      by_cases hp : ∃ ds, p = .parameter (.positional ds)
      · obtain ⟨ds, rfl⟩ := hp
        rw [marks_mark, List.find?_cons] at h
        cases hr : outOfRange ds with
        | true => simp [hr] at h
        | false =>
            have hps : (marks ps).find? outOfRange = none := by simpa [hr] using h
            obtain ⟨out, hout, hvalues⟩ := ih (max highest (numberAfter highest ds)) hps
            refine ⟨literalAt cells (numberAfter highest ds) ++ out, ?_, fun values hmap => ?_⟩
            · rw [replacePositional, positionalNumber_of_inRange hr]
              simp only [bind, Except.bind, hout]
              rfl
            · rw [marks_mark, numbersFrom, List.mapM_cons] at hmap
              simp only [Option.bind_eq_bind, Option.bind_eq_some_iff, Option.pure_def,
                Option.some.injEq] at hmap
              obtain ⟨cell, hcell, rest, hrest, rfl⟩ := hmap
              rw [fill, ← hvalues rest hrest, literalAt, hcell]
      · have hp' : ∀ ds, p ≠ .parameter (.positional ds) := fun ds hd => hp ⟨ds, hd⟩
        rw [marks_cons_copied hp'] at h ⊢
        obtain ⟨out, hout, hvalues⟩ := ih highest h
        refine ⟨p.text ++ out, ?_, fun values hmap => ?_⟩
        · rw [replacePositional_cons_copied _ _ hp', hout]
          rfl
        · rw [fill_cons_copied hp', hvalues values hmap]

/-- Characters are copied, as the name they make up would be. -/
theorem replacePositional_spread (cells : List Cell) (highest : Nat) (ps : List Piece) :
    replacePositional cells highest (spread ps) = replacePositional cells highest ps := by
  induction ps generalizing highest with
  | nil => rfl
  | cons p ps ih =>
      rw [spread, List.flatMap_cons, ← spread]
      cases p with
      | char c =>
          rw [Piece.spread, List.singleton_append, replacePositional_cons_copied _ _ (by simp),
            replacePositional_cons_copied _ _ (by simp), ih]
          all_goals simp
      | parameter t =>
          cases t with
          | positional digits =>
              rw [Piece.spread, List.singleton_append]
              simp only [replacePositional, ih]
              simp
          | named sigil name =>
              have hchars : ((sigil :: name).map Piece.char).filterMap Piece.parameter? = [] := by
                rw [List.filterMap_map]
                simp [Piece.parameter?]
              rw [Piece.spread, replacePositional_append,
                replacePositional_of_no_parameter _ _ hchars,
                replacePositional_cons_copied _ _ (by simp), ← ih]
              simp only [Except.bind]
              rw [List.flatMap_map]
              simp [Piece.text, Parameter.text]

/-- The number of a mark in range is at least one. -/
theorem one_le_numberAfter {digits : List Char} (h : outOfRange digits = false) (highest : Nat) :
    1 ≤ numberAfter highest digits := by
  rw [numberAfter]
  split
  · exact Nat.le_add_left 1 highest
  · simp_all [outOfRange]

theorem one_le_of_mem_numbersFrom {ds : List (List Char)} {highest n : Nat}
    (h : ds.find? outOfRange = none) (hn : n ∈ numbersFrom highest ds) : 1 ≤ n := by
  induction ds generalizing highest with
  | nil => simp [numbersFrom] at hn
  | cons digits ds ih =>
      obtain ⟨hdigits, hds⟩ : outOfRange digits = false ∧ ds.find? outOfRange = none := by
        simpa using h
      rcases List.mem_cons.mp hn with rfl | hn
      · exact one_le_numberAfter hdigits highest
      · exact ih hds hn

/-- Numbers that cells have are those of some of them. -/
theorem exists_mapM_getElem? {cells : List Cell} {ns : List Nat}
    (h : ∀ n ∈ ns, 1 ≤ n ∧ n ≤ cells.length) :
    ∃ values, ns.mapM (fun n => cells[n - 1]?) = some values := by
  induction ns with
  | nil => exact ⟨[], rfl⟩
  | cons n ns ih =>
      obtain ⟨hlow, hhigh⟩ := h n List.mem_cons_self
      obtain ⟨values, hvalues⟩ := ih fun k hk => h k (List.mem_cons_of_mem n hk)
      have hcell : cells[n - 1]? = some cells[n - 1] := List.getElem?_eq_getElem (by omega)
      exact ⟨cells[n - 1] :: values, by simp [hcell, hvalues]⟩

/-- Inlining by position follows the division of the text into tokens and the rest: the first
question mark whose digits denote no number of a parameter is an error; then the largest number has
to be that of the cells; then every mark is replaced by the literal of the cell of its number, and
all other text is left as it is. -/
theorem inlinePositional_divided (sql : String) (cells : List Cell) :
    (∃ ps, Divided sql.toList ps) ∧
      ∀ ps, Divided sql.toList ps →
        (∀ digits, (marks ps).find? outOfRange = some digits →
          inlinePositional sql cells = .error (.invalidIndex (String.ofList ('?' :: digits)))) ∧
        ((marks ps).find? outOfRange = none → largest (numbers ps) ≠ cells.length →
          inlinePositional sql cells =
            .error (.countMismatch (largest (numbers ps)) cells.length)) ∧
        ((marks ps).find? outOfRange = none → largest (numbers ps) = cells.length →
          ∃ values, (numbers ps).mapM (fun n => cells[n - 1]?) = some values ∧
            inlinePositional sql cells = .ok (String.ofList (fill ps values))) := by
  refine ⟨exists_divided sql.toList, fun ps hps => ?_⟩
  have hread : replacePositional cells 0 (scan sql.toList) = replacePositional cells 0 ps := by
    rw [hps.eq_spread_scan, replacePositional_spread]
  rw [inlinePositional, hread]
  refine ⟨fun digits hfirst => ?_, fun hnone hcount => ?_, fun hnone hcount => ?_⟩
  · rw [replacePositional_outOfRange cells 0 hfirst]
    rfl
  · obtain ⟨out, hout, -⟩ := replacePositional_inRange cells 0 hnone
    rw [hout, ← numbers, foldl_max_eq_largest]
    exact if_neg hcount
  · obtain ⟨out, hout, hvalues⟩ := replacePositional_inRange cells 0 hnone
    have hrange : ∀ n ∈ numbers ps, 1 ≤ n ∧ n ≤ cells.length := fun n hn =>
      ⟨one_le_of_mem_numbersFrom hnone hn, hcount ▸ List.le_max?_getD_of_mem hn⟩
    obtain ⟨values, hmap⟩ := exists_mapM_getElem? hrange
    refine ⟨values, hmap, ?_⟩
    rw [hout, hvalues values hmap, ← numbers, foldl_max_eq_largest]
    exact if_pos hcount

end TypedSql
