import TypedSql.Proofs.Scan.Reading
import TypedSql.Stored

/-!
Names and literals are read as they stand. A mark that is doubled inside quoted text never closes
it, so no name and no text leaves its marks; the characters of a number are code, and none of its
minus signs stands next to another one. What a name or a value holds is therefore never read as
anything else.
-/

namespace TypedSql

/-! ## Quoted text -/

namespace Mode

variable {mark : Char}

theorem after_doubled (hm : mark ≠ ']') (s : List Char) :
    (quoted mark).after (doubled mark s) = .quoted mark := by
  induction s with
  | nil => rfl
  | cons c cs ih =>
      by_cases hc : c = mark
      · simp [doubled, hc, after, step, hm, ih]
      · simp [doubled, hc, after, step, ih]

theorem yields_doubled (hm : mark ≠ ']') (s : List Char) :
    (quoted mark).yields (doubled mark s) = (doubled mark s).map .char := by
  induction s with
  | nil => rfl
  | cons c cs ih =>
      by_cases hc : c = mark
      · simp [doubled, hc, yields, step, hm, ih]
      · simp [doubled, hc, yields, step, ih]

theorem staysOut_doubled (hm : mark ≠ ']') (s : List Char) :
    (quoted mark).staysOut (doubled mark s) = true := by
  induction s with
  | nil => rfl
  | cons c cs ih =>
      by_cases hc : c = mark
      · simp [doubled, hc, staysOut, step, hm, ih, inComment]
      · simp [doubled, hc, staysOut, step, ih, inComment]

/-- Of the marks that are doubled the second one is a character of code to the scanner, which
makes no difference to what is counted there. -/
theorem bare_doubled (hm : mark ≠ ']') (s : List Char) :
    ∀ c ∈ (quoted mark).bare (doubled mark s), c = mark := by
  induction s with
  | nil => simp [doubled, bare]
  | cons c cs ih =>
      by_cases hc : c = mark
      · simpa [doubled, hc, bare, step, hm] using ih
      · simpa [doubled, hc, bare, step] using ih

/-- Either mark opens quoted text. -/
theorem start_mark (h : mark = '"' ∨ mark = '\'') : start mark = ([.char mark], .quoted mark) := by
  rcases h with rfl | rfl <;> rfl

end Mode

/-- Characters that are no parentheses leave the depth as it is. -/
theorem parenDepth_of_forall {s : List Char} (h : ∀ c ∈ s, c ≠ '(' ∧ c ≠ ')') (d : Nat) :
    parenDepth d s = some d := by
  induction s with
  | nil => rfl
  | cons c cs ih =>
      obtain ⟨ho, hc⟩ := h c (by simp)
      rw [parenDepth, if_neg ho, if_neg hc]
      exact ih fun x hx => h x (by simp [hx])

section
variable {mark : Char} (h : mark = '"' ∨ mark = '\'')
include h

/-- Quoted text ends where its last mark stands. -/
theorem after_quoted (s : List Char) : Mode.code.after (quoted mark s) = .closing mark := by
  have hm : mark ≠ ']' := by rcases h with rfl | rfl <;> decide
  simp [quoted, Mode.after, Mode.step, Mode.start_mark h, Mode.after_append,
    Mode.after_doubled hm, hm]

/-- Quoted text has nothing but characters. -/
theorem scan_quoted (s : List Char) : scan (quoted mark s) = (quoted mark s).map .char := by
  have hm : mark ≠ ']' := by rcases h with rfl | rfl <;> decide
  rw [scan, after_quoted h]
  simp [quoted, Mode.yields, Mode.step, Mode.start_mark h, Mode.yields_append,
    Mode.after_doubled hm, Mode.yields_doubled hm, Mode.finish]

theorem staysOut_quoted (s : List Char) : Mode.code.staysOut (quoted mark s) = true := by
  have hm : mark ≠ ']' := by rcases h with rfl | rfl <;> decide
  simp [quoted, Mode.staysOut, Mode.step, Mode.start_mark h, Mode.staysOut_append,
    Mode.after_doubled hm, Mode.staysOut_doubled hm, hm, Mode.inComment]

theorem bare_quoted (s : List Char) : ∀ c ∈ Mode.code.bare (quoted mark s), c = mark := by
  have hm : mark ≠ ']' := by rcases h with rfl | rfl <;> decide
  intro c hc
  simp only [quoted, Mode.bare, Mode.step, Mode.start_mark h, Mode.bare_append,
    Mode.after_doubled hm] at hc
  have hb := Mode.bare_doubled hm s c
  simp at hc
  exact hc.elim id hb

/-- Quoted text is read as nothing else, whatever it quotes. -/
theorem reads_quoted (s : List Char) : Reads 0 0 0 (quoted mark s) where
  ends := by rw [after_quoted h]; rfl
  calm := staysOut_quoted h s
  marks := by
    rw [parameters, scan_quoted h, List.filterMap_map, List.filterMap_eq_nil_iff.mpr]
    · rfl
    · simp [Piece.parameter?]
  nested := by
    apply parenDepth_of_forall
    intro c hc
    rw [bare_quoted h s c hc]
    rcases h with rfl | rfl <;> decide

end

theorem reads_quoteIdentifier (name : String) : Reads 0 0 0 (quoteIdentifier name).toList := by
  rw [quoteIdentifier, String.toList_ofList]
  exact reads_quoted (.inl rfl) _

theorem reads_quoteLiteral (text : String) : Reads 0 0 0 (quoteLiteral text).toList := by
  rw [quoteLiteral, String.toList_ofList]
  exact reads_quoted (.inr rfl) _

/-! ## Numbers -/

def isNumeral (c : Char) : Bool := c.isDigit || c == '.' || c == 'e'

namespace Mode

theorem start_numeral {c : Char} (h : isNumeral c = true) : start c = ([.char c], .code) := by
  have ne {d : Char} (hd : isNumeral d = false) : c ≠ d := by
    rintro rfl
    simp [h] at hd
  simp [start, ne (d := '?') (by decide), ne (d := ':') (by decide), ne (d := '@') (by decide),
    ne (d := '$') (by decide), ne (d := '\'') (by decide), ne (d := '"') (by decide),
    ne (d := '\x60') (by decide), ne (d := '[') (by decide), ne (d := '-') (by decide),
    ne (d := '/') (by decide)]

/-- After a dash a numeral is read like after nothing. -/
theorem step_numeral {m : Mode} (hm : m = .code ∨ m = .dash) {c : Char}
    (h : isNumeral c = true) : m.step c = ([.char c], .code) := by
  rcases hm with rfl | rfl
  · exact start_numeral h
  · have hc : c ≠ '-' := by
      rintro rfl
      simp [isNumeral] at h
    rw [step, if_neg hc, start_numeral h]

theorem yields_numerals {m : Mode} (hm : m = .code ∨ m = .dash) {s : List Char}
    (h : ∀ c ∈ s, isNumeral c = true) : m.yields s = s.map .char := by
  induction s generalizing m with
  | nil => rfl
  | cons c cs ih =>
      rw [yields, step_numeral hm (h c (by simp)), ih (.inl rfl) fun x hx => h x (by simp [hx])]
      rfl

theorem staysOut_numerals {m : Mode} (hm : m = .code ∨ m = .dash) {s : List Char}
    (h : ∀ c ∈ s, isNumeral c = true) : m.staysOut s = true := by
  have hout : m.inComment = false := by rcases hm with rfl | rfl <;> rfl
  induction s generalizing m with
  | nil => simp [staysOut, hout]
  | cons c cs ih =>
      rw [staysOut, step_numeral hm (h c (by simp)), hout,
        ih (.inl rfl) (fun x hx => h x (by simp [hx])) rfl]
      rfl

theorem after_numerals {m : Mode} (hm : m = .code ∨ m = .dash) {s : List Char}
    (h : ∀ c ∈ s, isNumeral c = true) (hne : s ≠ []) : m.after s = .code := by
  induction s generalizing m with
  | nil => exact absurd rfl hne
  | cons c cs ih =>
      rw [after, step_numeral hm (h c (by simp))]
      cases cs with
      | nil => rfl
      | cons d ds => exact ih (.inl rfl) (fun x hx => h x (by simp [hx])) (by simp)

theorem bare_numerals {m : Mode} (hm : m = .code ∨ m = .dash) {s : List Char}
    (h : ∀ c ∈ s, isNumeral c = true) : m.bare s = s := by
  have hcode : m.region = .code := by rcases hm with rfl | rfl <;> rfl
  induction s generalizing m with
  | nil => rfl
  | cons c cs ih =>
      rw [bare, if_pos hcode, step_numeral hm (h c (by simp)),
        ih (.inl rfl) (fun x hx => h x (by simp [hx])) rfl]

end Mode

def sign (negative : Bool) : List Char := if negative then ['-'] else []

theorem after_sign (negative : Bool) :
    Mode.code.after (sign negative) = .code ∨ Mode.code.after (sign negative) = .dash := by
  cases negative
  · exact .inl rfl
  · exact .inr rfl

theorem after_signed (negative : Bool) {s : List Char} (h : ∀ c ∈ s, isNumeral c = true)
    (hne : s ≠ []) : Mode.code.after (sign negative ++ s) = .code := by
  rw [Mode.after_append]
  exact Mode.after_numerals (after_sign negative) h hne

/-- Numerals after a sign are code. -/
theorem reads_signed (negative : Bool) {s : List Char} (h : ∀ c ∈ s, isNumeral c = true) :
    Reads 0 0 0 (sign negative ++ s) := by
  have hm := after_sign negative
  have hmode : Mode.code.after (sign negative ++ s) = .code ∨
      Mode.code.after (sign negative ++ s) = .dash := by
    by_cases hs : s = []
    · simpa [hs] using hm
    · exact .inl (after_signed negative h hs)
  have hy : Mode.code.yields (sign negative) = (sign negative).map .char := by
    cases negative <;> rfl
  have hscan : scan (sign negative ++ s) = (sign negative ++ s).map .char := by
    have hfinish : (Mode.code.after (sign negative ++ s)).finish = [] := by
      rcases hmode with e | e <;> rw [e] <;> rfl
    rw [scan, hfinish, Mode.yields_append, hy, Mode.yields_numerals hm h]
    simp
  refine ⟨?_, ?_, ?_, ?_⟩
  · rcases hmode with e | e <;> rw [e] <;> rfl
  · have hsign : Mode.code.staysOut (sign negative) = true := by cases negative <;> rfl
    rw [Mode.staysOut_append, hsign, Mode.staysOut_numerals hm h]
    rfl
  · rw [parameters, hscan, List.filterMap_map, List.filterMap_eq_nil_iff.mpr]
    · rfl
    · simp [Piece.parameter?]
  · apply parenDepth_of_forall
    intro c hc
    rw [Mode.bare_append, Mode.bare_numerals hm h, List.mem_append] at hc
    rcases hc with hc | hc
    · have hdash : c = '-' := by
        cases negative
        · simp [sign, Mode.bare] at hc
        · simpa [sign, Mode.bare] using hc
      rw [hdash]
      decide
    · have hn := h c hc
      constructor <;> rintro rfl <;> simp [isNumeral] at hn

theorem isNumeral_of_mem_toDigits {n : Nat} {c : Char} (h : c ∈ Nat.toDigits 10 n) :
    isNumeral c = true := by
  simp [isNumeral, Nat.isDigit_of_mem_toDigits (by decide) (by decide) h]

/-- An integer is written as a sign and digits. -/
theorem toList_toString_int (n : Int) :
    (toString n).toList = sign (n < 0) ++ Nat.toDigits 10 n.natAbs := by
  cases n with
  | ofNat n => simp [toString, sign, Int.repr, Nat.toList_repr]
  | negSucc n => simp [toString, sign, Int.repr, Nat.toList_repr]

theorem after_toString_int (n : Int) : Mode.code.after (toString n).toList = .code := by
  rw [toList_toString_int]
  exact after_signed _ (fun _ => isNumeral_of_mem_toDigits) Nat.toDigits_ne_nil

theorem reads_toString_int (n : Int) : Reads 0 0 0 (toString n).toList := by
  rw [toList_toString_int]
  exact reads_signed _ fun _ => isNumeral_of_mem_toDigits

namespace Decimal

theorem isNumeral_of_mem_trimmed {d : Decimal} {c : Char} (h : c ∈ d.trimmed) :
    isNumeral c = true := by
  have hd : c ∈ (Nat.toDigits 10 d.digits).reverse :=
    (List.dropWhile_sublist _).mem (List.mem_reverse.mp h)
  exact isNumeral_of_mem_toDigits (List.mem_reverse.mp hd)

/-- A decimal in positional notation has no sign in it. -/
theorem isNumeral_of_mem_positional {digits : List Char} (h : ∀ c ∈ digits, isNumeral c = true)
    (e : Int) : ∀ c ∈ positional digits e, isNumeral c = true := by
  intro c hc
  have zeros {n : Nat} (hz : c ∈ List.replicate n '0') : isNumeral c = true := by
    rw [List.eq_of_mem_replicate hz]
    decide
  unfold positional at hc
  split at hc
  · simp only [List.mem_append] at hc
    rcases hc with (hc | hc) | hc
    · simp at hc
      rcases hc with rfl | rfl <;> decide
    · exact zeros hc
    · exact h c hc
  · simp only [List.mem_append, List.mem_cons] at hc
    rcases hc with (hc | hc) | rfl | hc
    · exact h c (List.mem_of_mem_take hc)
    · exact zeros hc
    · decide
    · split at hc
      · rw [List.mem_singleton.mp hc]
        decide
      · exact h c (List.mem_of_mem_drop hc)

theorem positional_ne_nil (digits : List Char) (e : Int) : positional digits e ≠ [] := by
  unfold positional
  split <;> simp

/-- Scientific notation is numerals, the mark of the exponent among them, and an integer. -/
theorem exists_scientific {digits : List Char} (h : ∀ c ∈ digits, isNumeral c = true) (e : Int) :
    ∃ front, front ≠ [] ∧ (∀ c ∈ front, isNumeral c = true) ∧
      scientific digits e = front ++ (toString e).toList := by
  refine ⟨digits.take 1 ++
    (if (digits.drop 1).isEmpty then [] else '.' :: digits.drop 1) ++ ['e'],
    by simp, fun c hc => ?_, by simp [scientific]⟩
  simp only [List.mem_append, List.mem_singleton] at hc
  rcases hc with (hc | hc) | rfl
  · exact h c (List.mem_of_mem_take hc)
  · split at hc
    · simp at hc
    · rcases List.mem_cons.mp hc with rfl | hc
      · decide
      · exact h c (List.mem_of_mem_drop hc)
  · decide

end Decimal

/-- A finite number is a sign and numerals, and with an exponent an integer after them. -/
theorem exists_decimalText (x : Binary64) :
    ∃ s, s ≠ [] ∧ (∀ c ∈ s, isNumeral c = true) ∧
      (x.decimalText.toList = sign x.isNegative ++ s ∨
        ∃ e : Int, x.decimalText.toList = sign x.isNegative ++ s ++ (toString e).toList) := by
  have hsign (body : List Char) :
      (if x.isNegative then '-' :: body else body) = sign x.isNegative ++ body := by
    cases x.isNegative <;> rfl
  simp only [Binary64.decimalText, String.toList_ofList, hsign]
  split
  · exact ⟨_, by decide, List.all_eq_true.mp (by decide), .inl rfl⟩
  · split
    · exact ⟨_, Decimal.positional_ne_nil _ _,
        Decimal.isNumeral_of_mem_positional (fun _ => Decimal.isNumeral_of_mem_trimmed) _, .inl rfl⟩
    · obtain ⟨front, hne, hfront, hsplit⟩ :=
        Decimal.exists_scientific (fun _ => Decimal.isNumeral_of_mem_trimmed) _
      exact ⟨front, hne, hfront, .inr ⟨_, by rw [hsplit, List.append_assoc]⟩⟩

theorem after_decimalText (x : Binary64) : Mode.code.after x.decimalText.toList = .code := by
  obtain ⟨s, hne, hs, h | ⟨e, h⟩⟩ := exists_decimalText x
  · rw [h]
    exact after_signed _ hs hne
  · rw [h, Mode.after_append, after_signed _ hs hne]
    exact after_toString_int e

theorem reads_decimalText (x : Binary64) : Reads 0 0 0 x.decimalText.toList := by
  obtain ⟨s, hne, hs, h | ⟨e, h⟩⟩ := exists_decimalText x
  · rw [h]
    exact reads_signed _ hs
  · rw [h]
    exact (reads_signed _ hs).append (reads_toString_int e) (.inl (after_signed _ hs hne))

theorem after_realLiteral (x : Binary64) : Mode.code.after (realLiteral x).toList = .code := by
  unfold realLiteral
  split
  · rfl
  · split
    · split <;> rfl
    · exact after_decimalText x

theorem reads_realLiteral (x : Binary64) : Reads 0 0 0 (realLiteral x).toList := by
  unfold realLiteral
  split
  · decide
  · split
    · split <;> decide
    · exact reads_decimalText x

/-! ## Blobs -/

/-- A text without the mark has nothing to double. -/
theorem doubled_of_not_mem {mark : Char} {s : List Char} (h : mark ∉ s) : doubled mark s = s := by
  induction s with
  | nil => rfl
  | cons c cs ih =>
      rw [List.mem_cons, not_or] at h
      rw [doubled, if_neg (Ne.symm h.1), ih h.2]

theorem hexDigit_ne_mark : ∀ n, n < 16 → hexDigit n ≠ '\'' := by
  decide

theorem mark_not_mem_hexDigits (bytes : List UInt8) : '\'' ∉ hexDigits bytes := by
  induction bytes with
  | nil => simp [hexDigits]
  | cons b bs ih =>
      have hb := b.toNat_lt
      simp only [hexDigits, List.mem_cons, not_or]
      exact ⟨(hexDigit_ne_mark _ (by omega)).symm, (hexDigit_ne_mark _ (by omega)).symm, ih⟩

/-- The digits of a blob are quoted after an `X`. -/
theorem toList_blobLiteral (bytes : List UInt8) :
    (blobLiteral bytes).toList = 'X' :: quoted '\'' (hexDigits bytes) := by
  rw [blobLiteral, String.toList_ofList, quoted, doubled_of_not_mem (mark_not_mem_hexDigits bytes)]

theorem reads_blobLiteral (bytes : List UInt8) : Reads 0 0 0 (blobLiteral bytes).toList := by
  rw [toList_blobLiteral]
  have hx : Reads 0 0 0 ['X'] := by decide
  exact hx.append (reads_quoted (.inr rfl) _) (.inl rfl)

/-- The literal of a cell is read as nothing but itself, whatever the cell holds. -/
theorem reads_literal (cell : Cell) : Reads 0 0 0 cell.literal.toList := by
  cases cell with
  | none => decide
  | some v =>
      cases v with
      | integer n => exact reads_toString_int _
      | real x => exact reads_realLiteral x
      | text s => exact reads_quoteLiteral s
      | blob bytes => exact reads_blobLiteral bytes

end TypedSql
