import Mathlib.Tactic.SplitIfs
import TypedSql.Proofs.Sql.Numerals
import TypedSql.Record.Token

namespace TypedSql

namespace Token

theorem isDigit_of_isDigitIn {c : Char} (h : isDigitIn 10 c = true) (hc : c ≠ '_') :
    c.isDigit = true := by
  simp only [isDigitIn, Bool.or_eq_true, beq_iff_eq, hc, false_or] at h
  unfold digitValue? at h
  split at h
  · assumption
  · split at h
    · simp at h
    · split at h
      · simp at h
      · cases h

/-- The digits at the front of a text, without underscores. -/
def frontDigits (s : List Char) : List Char := (s.takeWhile (isDigitIn 10)).filter (· != '_')

theorem isDigit_frontDigits (s : List Char) : ∀ c ∈ frontDigits s, c.isDigit = true := by
  intro c hc
  obtain ⟨hc, hunderscore⟩ := List.mem_filter.mp hc
  have hdigit := List.all_eq_true.mp List.all_takeWhile c hc
  exact isDigit_of_isDigitIn hdigit (by simpa using hunderscore)

theorem frontDigits_ne_nil {c : Char} (hc : c.isDigit = true) (r : List Char) :
    frontDigits (c :: r) ≠ [] := by
  have hin : isDigitIn 10 c = true := by
    simp only [Char.isDigit, Bool.and_eq_true, decide_eq_true_eq, UInt32.le_iff_toNat_le] at hc
    have hhigh : c.toNat ≤ 57 := hc.2
    have hdigit : c.isDigit = true := by
      simpa [Char.isDigit, UInt32.le_iff_toNat_le] using hc
    have hvalue : c.toNat - 48 < 10 := by omega
    simp [isDigitIn, digitValue?, hdigit, hvalue]
  have hne : c ≠ '_' := by
    rintro rfl
    cases hc
  simp [frontDigits, hin, hne]

theorem readExponent_eq_some {s chars rest : List Char}
    (h : readExponent s = some (chars, rest)) :
    ∃ negative digits, chars = 'e' :: (sign negative ++ digits) ∧ digits ≠ [] ∧
      ∀ c ∈ digits, c.isDigit = true := by
  unfold readExponent at h
  split at h
  · cases h
  · split at h
    · split at h
      rename_i minus digits hread
      have hminus : ∃ negative, minus = sign negative := by
        split at hread
        · cases hread
          exact ⟨true, rfl⟩
        · cases hread
          exact ⟨false, rfl⟩
        · cases hread
          exact ⟨false, rfl⟩
      obtain ⟨negative, rfl⟩ := hminus
      dsimp only at h
      split at h
      · cases h
      · rename_i hne
        cases h
        exact ⟨negative, frontDigits digits, rfl, by simpa [frontDigits] using hne,
          isDigit_frontDigits digits⟩
    · cases h

/-- A decimal is a numeral: what follows its whole digits is a point with digits, or nothing, and
then an exponent, or none. -/
theorem exists_numeral {c : Char} (hc : c.isDigit = true) {r : List Char} {t : Token}
    {rest : List Char} (h : readDecimal (c :: r) = some (t, rest)) :
    ∃ x : Sql.Numeral, t = .decimal x.text := by
  unfold readDecimal at h
  extract_lets whole tail at h
  have hwhole : whole = frontDigits (c :: r) := rfl
  clear_value whole tail
  split at h
  rename_i fraction after hread
  have hfraction : ∃ digits : Option (List Char), (∀ ds ∈ digits, ∀ c ∈ ds, c.isDigit = true) ∧
      fraction = digits.elim [] ('.' :: ·) := by
    split at hread
    · rename_i more
      split at hread
      · cases hread
        exact ⟨none, by simp, rfl⟩
      · cases hread
        refine ⟨some (frontDigits more), ?_, rfl⟩
        rintro _ ⟨⟩
        exact isDigit_frontDigits more
    · cases hread
      exact ⟨none, by simp, rfl⟩
  obtain ⟨digits, hdigits, hfraction⟩ := hfraction
  split at h
  · rename_i hexponent
    obtain ⟨negative, power, rfl, hne, hpower⟩ := readExponent_eq_some hexponent
    cases h
    refine ⟨⟨frontDigits (c :: r), digits, some (negative, power), frontDigits_ne_nil hc r,
      isDigit_frontDigits _, hdigits, ?_, ?_⟩, ?_⟩
    · rintro _ ⟨⟩
      exact hne
    · rintro _ ⟨⟩
      exact hpower
    · rw [hwhole, hfraction, List.append_assoc]
      cases digits <;> rfl
  · split at h
    · cases h
    · cases h
      refine ⟨⟨frontDigits (c :: r), digits, none, frontDigits_ne_nil hc r,
        isDigit_frontDigits _, hdigits, by simp, by simp⟩, ?_⟩
      rw [hwhole, hfraction, Sql.Numeral.text, Sql.Numeral.exponentText, List.append_nil]
      cases digits <;> rfl

/-- A decimal is read from digits only. -/
theorem exists_numeral_of_readNumber {c : Char} (hc : c.isDigit = true) {r rest : List Char}
    {digits : List Char} (h : readNumber (c :: r) = some (.decimal digits, rest)) :
    ∃ x : Sql.Numeral, digits = x.text := by
  have hinteger {base : Nat} {s : List Char} :
      readInteger base s ≠ some (.decimal digits, rest) := by
    unfold readInteger
    dsimp only
    split <;> simp
  unfold readNumber at h
  split at h
  · exact absurd h hinteger
  · exact absurd h hinteger
  · exact absurd h hinteger
  · cases hdecimal : readDecimal (c :: r) with
    | none =>
        rw [hdecimal] at h
        exact absurd h hinteger
    | some read =>
        obtain ⟨x, hx⟩ := exists_numeral hc hdecimal
        rw [hdecimal] at h
        cases h
        exact ⟨x, Token.decimal.inj hx⟩

section
variable {digits rest : List Char}

theorem ofText_ne_decimal (keep : Bool) (found : Option (List Char × List Char)) :
    ofText keep found ≠ some (.decimal digits, rest) := by
  cases found with
  | none => nofun
  | some found => cases keep <;> simp [ofText]

theorem readQuoted_ne_decimal (s : List Char) : readQuoted s ≠ some (.decimal digits, rest) := by
  unfold readQuoted
  split
  · nofun
  · nofun
  · split <;> nofun
  · nofun

theorem readWord_ne_decimal (s : List Char) : readWord s ≠ some (.decimal digits, rest) := by
  unfold readWord
  dsimp only
  split
  · exact ofText_ne_decimal _ _
  · exact ofText_ne_decimal _ _
  · exact readQuoted_ne_decimal _
  · split
    · exact ofText_ne_decimal _ _
    · nofun
  · split
    · exact ofText_ne_decimal _ _
    · nofun
  · split
    · exact ofText_ne_decimal _ _
    · nofun
    · nofun
  · nofun

theorem exists_numeral_of_read {c : Char} {r : List Char}
    (h : read c r = some (.decimal digits, rest)) : ∃ x : Sql.Numeral, digits = x.text := by
  unfold read at h
  split_ifs at h with hdigit
  · exact exists_numeral_of_readNumber hdigit h
  · exact absurd h (readWord_ne_decimal _)
  · exact absurd h (ofText_ne_decimal _ _)
  · exact absurd h (readQuoted_ne_decimal _)
  all_goals cases h

end

/-- The decimals among the tokens of a text are numerals. -/
theorem exists_numeral_of_readAll {n : Nat} {s : List Char} {tokens : List Token}
    (h : readAll n s = some tokens) {digits : List Char} (hd : .decimal digits ∈ tokens) :
    ∃ x : Sql.Numeral, digits = x.text := by
  induction n generalizing s tokens with
  | zero =>
      cases h
      cases hd
  | succ n ih =>
      cases s with
      | nil =>
          cases h
          cases hd
      | cons c r =>
          rw [readAll] at h
          split at h
          · exact ih h hd
          · obtain ⟨⟨t, rest⟩, ht, h⟩ := Option.bind_eq_some_iff.mp h
            obtain ⟨more, hmore, rfl⟩ := Option.map_eq_some_iff.mp h
            rcases List.mem_cons.mp hd with rfl | hd
            · exact exists_numeral_of_read ht
            · exact ih hmore hd

end Token

end TypedSql
