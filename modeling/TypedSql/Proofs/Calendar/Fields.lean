import Mathlib.Algebra.Group.Nat.Defs
import TypedSql.Calendar.Read
import TypedSql.Calendar.Write

namespace TypedSql

/-! ## Digits -/

/-- Text that digits before it do not go on in. -/
def EndsDigits (rest : List Char) : Prop := ∀ c ∈ rest.head?, c.isDigit = false

theorem endsDigits_nil : EndsDigits [] := by simp [EndsDigits]

theorem endsDigits_cons {c : Char} (h : c.isDigit = false) (cs : List Char) :
    EndsDigits (c :: cs) := by simpa [EndsDigits] using h

theorem foldl_digits (digits : List Char) :
    digits.foldl (fun n c => n * 10 + (c.toNat - '0'.toNat)) 0 = Nat.ofDigitChars 10 digits 0 := by
  simp only [Nat.ofDigitChars_eq_foldl, Nat.mul_comm 10]

theorem not_isBlank_of_isDigit {c : Char} (h : c.isDigit = true) : isBlank c = false := by
  simp only [Char.isDigit, Bool.and_eq_true, decide_eq_true_eq, UInt32.le_iff_toNat_le] at h
  have hlow : 48 ≤ c.toNat := h.1
  have hhigh : c.toNat ≤ 57 := h.2
  simp [isBlank, blankRanges]
  omega

section padded

variable {width n : Nat}

theorem isDigit_of_mem_padded {c : Char} (h : c ∈ padded width n) : c.isDigit = true := by
  rcases List.mem_append.mp h with h | h
  · rw [List.eq_of_mem_replicate h]
    decide
  · exact Nat.isDigit_of_mem_toDigits (by decide) (by decide) h

theorem padded_ne_nil : padded width n ≠ [] := by
  simp [padded, Nat.toDigits_ne_nil]

theorem le_length_padded (width n : Nat) : width ≤ (padded width n).length := by
  simp only [padded, List.length_append, List.length_replicate]
  omega

/-- A number that fits takes just the digits it is padded to. -/
theorem length_padded (hwidth : 0 < width) (h : n < 10 ^ width) :
    (padded width n).length = width := by
  have hfits := (Nat.length_toDigits_le_iff (b := 10) (by decide) hwidth).mpr h
  simp only [padded, List.length_append, List.length_replicate]
  omega

theorem ofDigitChars_padded : Nat.ofDigitChars 10 (padded width n) 0 = n := by
  rw [padded, Nat.ofDigitChars_append, Nat.ofDigitChars_replicate_zero, Nat.mul_zero,
    Nat.ofDigitChars_ten_toDigits]

/-- The digits among the first characters are those of the number. -/
theorem takeWhile_padded {most : Nat} {rest : List Char} (hmost : (padded width n).length ≤ most)
    (hrest : (padded width n).length = most ∨ EndsDigits rest) :
    ((padded width n ++ rest).take most).takeWhile Char.isDigit = padded width n := by
  have hdigits : ∀ c ∈ padded width n, c.isDigit = true := fun c => isDigit_of_mem_padded
  have hnone : (rest.take (most - (padded width n).length)).takeWhile Char.isDigit = [] := by
    rcases hrest with hlength | hends
    · simp [hlength]
    · cases rest with
      | nil => simp
      | cons c cs =>
          have hc : c.isDigit = false := hends c rfl
          cases most - (padded width n).length <;> simp [hc]
  rw [List.take_append, List.take_of_length_le hmost,
    List.takeWhile_append_of_pos hdigits, hnone, List.append_nil]

theorem readNumber_padded {most : Nat} {rest : List Char} (hn : n ≤ maxField)
    (hmost : (padded width n).length ≤ most)
    (hrest : (padded width n).length = most ∨ EndsDigits rest) :
    readNumber most (padded width n ++ rest) = .ok (n, rest) := by
  have hne : padded width n ≠ [] := padded_ne_nil
  simp only [readNumber, takeWhile_padded hmost hrest, foldl_digits, ofDigitChars_padded,
    List.drop_left]
  rw [if_neg (by simp [hne]), if_neg (by simp [hne]), if_neg (by omega)]

theorem readDigits_padded (hwidth : 0 < width) (h : n < 10 ^ width) (rest : List Char) :
    readDigits width (padded width n ++ rest) = .ok (n, rest) := by
  have hlength := length_padded hwidth h
  have hdrop : (padded width n ++ rest).drop width = rest := by
    rw [List.drop_append_of_le_length (by omega), List.drop_of_length_le (by omega), List.nil_append]
  simp only [readDigits, takeWhile_padded (Nat.le_of_eq hlength) (.inl hlength), hlength,
    foldl_digits, ofDigitChars_padded, hdrop, Nat.lt_irrefl, if_false]

/-- A number begins with a digit. -/
theorem exists_padded_eq_cons (width n : Nat) : ∃ c cs, padded width n = c :: cs ∧ c.isDigit = true := by
  obtain ⟨c, cs, hp⟩ : ∃ c cs, padded width n = c :: cs :=
    List.exists_cons_of_ne_nil padded_ne_nil
  have hmem : c ∈ padded width n := by simp [hp]
  exact ⟨c, cs, hp, isDigit_of_mem_padded hmem⟩

theorem dropWhile_padded (rest : List Char) :
    (padded width n ++ rest).dropWhile isBlank = padded width n ++ rest := by
  obtain ⟨c, cs, hp, hc⟩ := exists_padded_eq_cons width n
  simp [hp, not_isBlank_of_isDigit hc]

end padded

/-- A field of two digits. -/
theorem readBounded_padded {low high n : Nat} (hn : n < 100) (hlow : low ≤ n) (hhigh : n ≤ high)
    (rest : List Char) : readBounded low high 2 (padded 2 n ++ rest) = .ok (n, rest) := by
  have hlength : (padded 2 n).length = 2 := length_padded (by decide) hn
  have hnumber : readNumber 2 (padded 2 n ++ rest) = .ok (n, rest) :=
    readNumber_padded (by simp only [maxField]; omega) (Nat.le_of_eq hlength) (.inl hlength)
  rw [readBounded, readField, dropWhile_padded, hnumber]
  exact if_pos ⟨hlow, hhigh⟩

/-! ## Years -/

/-- A year without a sign is read in its first four characters. -/
theorem readYear_digits {year : Nat} (h : year ≤ 9999) (rest : List Char) :
    readYear (padded 4 year ++ rest) = .ok ((year : Int), rest) := by
  have hlength : (padded 4 year).length = 4 := length_padded (by decide) (by omega)
  have hnumber : readNumber 4 (padded 4 year ++ rest) = .ok (year, rest) :=
    readNumber_padded (by simp only [maxField]; omega) (Nat.le_of_eq hlength) (.inl hlength)
  have hrange : -2147483648 ≤ (year : Int) ∧ (year : Int) ≤ 2147483647 := by omega
  obtain ⟨c, cs, hp, hc⟩ := exists_padded_eq_cons 4 year
  have unsigned {sign : Char} (hsign : sign.isDigit = false) (r : List Char) :
      padded 4 year ++ rest ≠ sign :: r := by
    rintro h
    rw [hp, List.cons_append, List.cons.injEq] at h
    simp [h.1, hsign] at hc
  rw [readYear, dropWhile_padded]
  split
  · exact absurd ‹_› (unsigned (by decide) _)
  · exact absurd ‹_› (unsigned (by decide) _)
  · simp only [hnumber, Except.map, bind, Except.bind]
    exact if_pos hrange

theorem readYear_yearText {year : Int} (h : minYear ≤ year ∧ year ≤ maxYear) {rest : List Char}
    (hrest : EndsDigits rest) : readYear (yearText year ++ rest) = .ok (year, rest) := by
  have hrange : -2147483648 ≤ year ∧ year ≤ 2147483647 := by
    simp only [minYear, maxYear] at h
    omega
  have hfield : year.natAbs ≤ maxField := by
    simp only [maxField]
    omega
  have hsigned : readNumber (padded 4 year.natAbs ++ rest).length (padded 4 year.natAbs ++ rest) =
      .ok (year.natAbs, rest) := readNumber_padded hfield (by simp) (.inr hrest)
  rw [yearText]
  by_cases hneg : year < 0
  · have hminus : -(year.natAbs : Int) = year := by omega
    have hblank : isBlank '-' = false := by decide
    rw [if_pos hneg, List.cons_append, readYear, List.dropWhile_cons_of_neg (by simp [hblank])]
    simp only [hsigned, Except.map, bind, Except.bind, hminus]
    exact if_pos hrange
  · have hplus : (year.natAbs : Int) = year := by omega
    rw [if_neg hneg]
    by_cases hlong : 9999 < year
    · have hblank : isBlank '+' = false := by decide
      rw [if_pos hlong, List.cons_append, readYear, List.dropWhile_cons_of_neg (by simp [hblank])]
      simp only [hsigned, Except.map, bind, Except.bind, hplus]
      exact if_pos hrange
    · rw [if_neg hlong, readYear_digits (by omega), hplus]

/-! ## Fractions of a second -/

theorem readFraction_padded {width n : Nat} (hwidth : 0 < width) (hnine : width ≤ 9)
    (h : n < 10 ^ width) {rest : List Char} (hrest : EndsDigits rest) :
    readFraction (padded width n ++ rest) = .ok (n * 10 ^ (9 - width), rest) := by
  have hlength := length_padded hwidth h
  have hfield : n ≤ maxField := by
    have hpow : 10 ^ width ≤ 10 ^ 9 := Nat.pow_le_pow_right (by decide) hnine
    simp only [maxField]
    omega
  have hnumber : readNumber 9 (padded width n ++ rest) = .ok (n, rest) :=
    readNumber_padded hfield (by omega) (.inr hrest)
  have hdrop : rest.dropWhile Char.isDigit = rest := by
    cases rest with
    | nil => rfl
    | cons c cs => simp [hrest c rfl]
  simp only [readFraction, hnumber, bind, Except.bind, hdrop, List.length_append, hlength]
  rw [Nat.add_sub_cancel]
  rfl

theorem readOptionalFraction_fractionText {nanosecond : Nat} (h : nanosecond < 1000000000)
    {rest : List Char} (hrest : EndsDigits rest) (hpoint : rest.head? ≠ some '.') :
    readOptionalFraction (fractionText nanosecond ++ rest) = .ok (nanosecond, rest) := by
  rw [fractionText]
  by_cases hzero : nanosecond = 0
  · rw [if_pos hzero, List.nil_append, readOptionalFraction]
    · rw [hzero]
    · rintro r rfl
      exact hpoint rfl
  rw [if_neg hzero]
  by_cases hmilli : nanosecond % 1000000 = 0
  · have hwhole : nanosecond / 1000000 * 10 ^ (9 - 3) = nanosecond := by omega
    rw [if_pos hmilli, List.cons_append, readOptionalFraction,
      readFraction_padded (by decide) (by decide) (by omega) hrest, hwhole]
  rw [if_neg hmilli]
  by_cases hmicro : nanosecond % 1000 = 0
  · have hwhole : nanosecond / 1000 * 10 ^ (9 - 6) = nanosecond := by omega
    rw [if_pos hmicro, List.cons_append, readOptionalFraction,
      readFraction_padded (by decide) (by decide) (by omega) hrest, hwhole]
  · rw [if_neg hmicro, List.cons_append, readOptionalFraction,
      readFraction_padded (by decide) (by decide) h hrest, Nat.sub_self, Nat.pow_zero, Nat.mul_one]

end TypedSql
