import Mathlib.Algebra.Order.Field.Rat
import Mathlib.Data.List.Basic
import TypedSql.Proofs.Calendar.Fields
import TypedSql.Proofs.Engine.Numbers
import TypedSql.Proofs.Scan.Literal
import TypedSql.Proofs.Scan.Spans
import TypedSql.Proofs.Sql.Phrases
import TypedSql.Sql.Statement

/-!
Numbers as the engine reads them. A numeral is one token, whatever closes it, and as the default of
a column it is the number that it writes, an integer or the nearest real. One minus sign before it
makes that number negative; two begin a comment.
-/

namespace TypedSql

/-! ## Negative reals -/

namespace Binary64

theorem negated_ofMagnitude {m : Nat} (hm : m < 2 ^ 63) :
    (ofMagnitude false m).negated = ofMagnitude true m := by
  have hbits : (ofMagnitude false m).bits.toNat % Nat.pow 2 63 = m := by
    simp only [ofMagnitude, UInt64.toNat_ofNat', Nat.pow_eq, Bool.false_eq_true, if_false]
    omega
  rw [negated, isNegative_ofMagnitude hm, hbits]
  rfl

theorem negated_ofRatio (numerator denominator : Nat) :
    (ofRatio false numerator denominator).negated = ofRatio true numerator denominator := by
  have hinfinite : infinite < 2 ^ 63 := by decide
  have hmin (k : Nat) : min k infinite < 2 ^ 63 :=
    Nat.lt_of_le_of_lt (Nat.min_le_right k infinite) hinfinite
  simp only [ofRatio]
  rw [negated_ofMagnitude]
  split
  · decide
  · exact hmin _

/-- The number nearest to a negative decimal is the negative of that nearest to the decimal. -/
theorem negated_ofDecimal (digits : Nat) (exponent : Int) :
    (ofDecimal false digits exponent).negated = ofDecimal true digits exponent := by
  simp only [ofDecimal]
  split
  · rw [negated_ofMagnitude (by decide)]
  · split
    · rw [negated_ofMagnitude (by decide)]
    · rw [negated_ofRatio]

end Binary64

/-- The value that the engine keeps for a number: an integer that 64 bits hold, or the nearest
real. -/
inductive Datum.Stands : Datum → ℚ → Prop where
  | integer (n : Int) : Stands (.ofInt n) n
  | real (negative : Bool) (digits : Nat) (exponent : Int) :
      Stands (.real (.ofDecimal negative digits exponent))
        ((if negative then -1 else 1) * (digits * 10 ^ exponent))

/-! ## Text that is code throughout -/

/-- A text of which every character is code, with no comment and no parameter, that leaves nothing
pending. -/
structure AllCode (s : List Char) : Prop where
  reads : Reads 0 0 0 s
  settled : Mode.code.after s = .code
  bare : Mode.code.bare s = s

theorem AllCode.append {s t : List Char} (hs : AllCode s) (ht : AllCode t) : AllCode (s ++ t) where
  reads := hs.reads.append ht.reads (.inl hs.settled)
  settled := by rw [Mode.after_append, hs.settled, ht.settled]
  bare := by rw [Mode.bare_append, hs.settled, hs.bare, ht.bare]

theorem allCode_signed (negative : Bool) {s : List Char} (h : ∀ c ∈ s, isNumeral c = true)
    (hne : s ≠ []) : AllCode (sign negative ++ s) where
  reads := reads_signed negative h
  settled := after_signed negative h hne
  bare := by
    have hsign : Mode.code.bare (sign negative) = sign negative := by cases negative <;> rfl
    rw [Mode.bare_append, hsign, Mode.bare_numerals (after_sign negative) h]

theorem isNumeral_of_isDigit {c : Char} (h : c.isDigit = true) : isNumeral c = true := by
  simp [isNumeral, h]

/-- Two minus signs begin a comment, which goes on to the end of the line. -/
theorem after_minuses {s : List Char} (h : '\n' ∉ s) :
    Mode.code.after ('-' :: '-' :: s) = .lineComment :=
  (Mode.Copies.line h).ends

namespace Sql

/-! ## Numbers in text -/

/-- Text that numbers before it do not go on in: what follows a default in a definition. -/
def EndsDefault (rest : List Char) : Prop := ∀ c ∈ rest.head?, c = ',' ∨ c = ')'

theorem EndsDefault.endsDigits {rest : List Char} (h : EndsDefault rest) : EndsDigits rest := by
  intro c hc
  obtain rfl | rfl := h c hc <;> rfl

theorem takeWhile_digits {digits rest : List Char} (h : ∀ c ∈ digits, c.isDigit = true)
    (hrest : EndsDigits rest) : (digits ++ rest).takeWhile Char.isDigit = digits := by
  have hnone : rest.takeWhile Char.isDigit = [] := by
    cases rest with
    | nil => rfl
    | cons c cs => exact List.takeWhile_cons_of_neg (by simp [hrest c rfl])
  rw [List.takeWhile_append_of_pos h, hnone, List.append_nil]

/-- Digits are counted in the same way wherever numbers are read. -/
theorem digitsNumber_ten {digits : List Char} (h : ∀ c ∈ digits, c.isDigit = true) :
    digitsNumber 10 digits = Nat.ofDigitChars 10 digits 0 := by
  have hvalue : ∀ n, ∀ c ∈ digits,
      n * 10 + hexDigitValue c = n * 10 + (c.toNat - '0'.toNat) := by
    intro n c hc
    rw [hexDigitValue, if_pos (h c hc)]
  rw [← foldl_digits]
  exact List.foldl_ext _ _ _ fun n c hc => hvalue n c hc

theorem EndsDefault.run_isWordChar {rest : List Char} (h : EndsDefault rest) :
    run isWordChar rest = 0 := by
  cases rest with
  | nil => rfl
  | cons c cs =>
      have hc : isWordChar c = false := by
        obtain rfl | rfl := h c rfl <;> decide
      simp [run, hc]

/-- A number that does not begin as one in base sixteen. -/
theorem number_of_decimal {s : List Char} {l : Lexeme} {n : Nat}
    (hx : ∀ c cs, s = '0' :: c :: cs → c ≠ 'x' ∧ c ≠ 'X')
    (h : number.decimal s = (l, n)) (hmore : run isWordChar (s.drop n) = 0) :
    number s = (l, n) := by
  rw [number.eq_def]
  split
  rename_i hread
  split at hread
  · rename_i c cs
    obtain ⟨hlower, hupper⟩ := hx c cs rfl
    rw [if_neg (by simp [hlower, hupper]), h] at hread
    cases hread
    exact if_pos hmore
  · rw [h] at hread
    cases hread
    exact if_pos hmore

theorem lexeme_digit {c : Char} (h : c.isDigit = true) (cs : List Char) :
    lexeme c cs = ((number (c :: cs)).1, (number (c :: cs)).2 - 1) := by
  have hne {d : Char} (hd : d.isDigit = false) : c ≠ d := by
    rintro rfl
    rw [h] at hd
    cases hd
  have hspace : isSpaceChar c = false := by
    simp [isSpaceChar, hne (d := ' ') (by decide), hne (d := '\t') (by decide),
      hne (d := '\n') (by decide), hne (d := '\x0c') (by decide), hne (d := '\r') (by decide)]
  simp [lexeme, hspace, h, hne (d := '-') (by decide), hne (d := '/') (by decide),
    hne (d := '\'') (by decide), hne (d := '"') (by decide), hne (d := '\x60') (by decide),
    hne (d := '[') (by decide)]

/-- Two minus signs are space, and so is what comes after them on their line. -/
theorem solid_minuses {s : List Char} (h : '\n' ∉ s) (rest : List Char) :
    solid ('-' :: '-' :: (s ++ rest)) = solid (rest.dropWhile (· != '\n')) := by
  have hcomment : lexeme '-' ('-' :: (s ++ rest)) =
      (.space, run (· != '\n') ('-' :: (s ++ rest))) := by
    simp [lexeme, isSpaceChar]
  have hline : ('-' :: s ++ rest).dropWhile (· != '\n') = rest.dropWhile (· != '\n') := by
    refine List.dropWhile_append_of_pos fun c hc => bne_iff_ne.mpr ?_
    rintro rfl
    rcases List.mem_cons.mp hc with hc | hc
    · cases hc
    · exact h hc
  rw [List.cons_append] at hline
  rw [solid, lexemes, hcomment, drop_run, hline]
  simp [solid, solidToken?]

/-! ## Numerals -/

/-- A number as it is written: digits, and after them a point with digits, an exponent with a sign
and digits, or both. -/
structure Numeral where
  whole : List Char
  fraction : Option (List Char)
  exponent : Option (Bool × List Char)
  whole_ne_nil : whole ≠ []
  isDigit_whole : ∀ c ∈ whole, c.isDigit = true
  isDigit_fraction : ∀ digits ∈ fraction, ∀ c ∈ digits, c.isDigit = true
  exponent_ne_nil : ∀ e ∈ exponent, e.2 ≠ []
  isDigit_exponent : ∀ e ∈ exponent, ∀ c ∈ e.2, c.isDigit = true

namespace Numeral

variable (x : Numeral)

def pointText : List Char :=
  match x.fraction with
  | some digits => '.' :: digits
  | none => []

def exponentText : List Char :=
  match x.exponent with
  | some (negative, digits) => 'e' :: (sign negative ++ digits)
  | none => []

def text : List Char := x.whole ++ (x.pointText ++ x.exponentText)

/-- The number that all digits write, without the point. -/
def digits : Nat := Nat.ofDigitChars 10 (x.whole ++ x.fraction.getD []) 0

/-- The power of ten by which the digits count. -/
def scale : Int :=
  (match x.exponent with
    | some (negative, digits) =>
        (if negative then -1 else 1) * (Nat.ofDigitChars 10 digits 0 : Int)
    | none => 0) - (x.fraction.getD []).length

def value : ℚ := x.digits * 10 ^ x.scale

def isWhole : Bool := x.fraction.isNone && x.exponent.isNone

def lexeme : Lexeme :=
  if x.isWhole then .integer x.digits else .real (.ofDecimal false x.digits x.scale)

/-- The numeral after a minus sign, or without, as a value. -/
def datum (negative : Bool) : Datum :=
  if x.isWhole then .ofInt (if negative then -x.digits else x.digits)
  else .real (.ofDecimal negative x.digits x.scale)

theorem stands_datum (negative : Bool) :
    (x.datum negative).Stands ((if negative then -1 else 1) * x.value) := by
  unfold datum value
  split
  · rename_i hwhole
    have hscale : x.scale = 0 := by
      simp only [isWhole, Bool.and_eq_true, Option.isNone_iff_eq_none] at hwhole
      simp [scale, hwhole.1, hwhole.2]
    have hvalue : (if negative then -1 else 1) * ((x.digits : ℚ) * 10 ^ x.scale) =
        ((if negative then -x.digits else x.digits : Int) : ℚ) := by
      cases negative <;> simp [hscale]
    rw [hvalue]
    exact .integer _
  · exact .real ..

/-! ## Reading numerals -/

section
variable {rest : List Char} (hrest : EndsDefault rest)
include hrest

theorem endsDigits_exponentText : EndsDigits (x.exponentText ++ rest) := by
  unfold exponentText
  split
  · exact endsDigits_cons (by decide) _
  · exact hrest.endsDigits

theorem endsDigits_pointText : EndsDigits (x.pointText ++ (x.exponentText ++ rest)) := by
  unfold pointText
  split
  · exact endsDigits_cons (by decide) _
  · exact x.endsDigits_exponentText hrest

theorem exponentLength_append :
    exponentLength (x.exponentText ++ rest) = x.exponentText.length := by
  unfold exponentText
  have hne := x.exponent_ne_nil
  have hdigits := x.isDigit_exponent
  cases he : x.exponent with
  | none =>
      cases rest with
      | nil => rfl
      | cons c cs =>
          cases cs with
          | nil => rfl
          | cons d ds =>
              have hc : c ≠ 'e' ∧ c ≠ 'E' := by
                obtain rfl | rfl := hrest c rfl <;> decide
              simp [exponentLength, hc]
  | some e =>
      obtain ⟨negative, digits⟩ := e
      have hrun : run Char.isDigit (digits ++ rest) = digits.length := by
        rw [run, takeWhile_digits (hdigits _ he) (hrest.endsDigits)]
      cases digits with
      | nil => exact absurd rfl (hne _ he)
      | cons d ds =>
          have hd : d.isDigit = true := hdigits _ he d List.mem_cons_self
          rw [List.cons_append] at hrun
          cases negative with
          | false => simp [sign, exponentLength, hd, hrun]; omega
          | true => simp [sign, exponentLength, hrun]; omega

end

theorem exponentValue_exponentText :
    exponentValue x.exponentText - (x.fraction.getD []).length = x.scale := by
  unfold exponentText scale
  have hne := x.exponent_ne_nil
  have hdigits := x.isDigit_exponent
  cases he : x.exponent with
  | none => rfl
  | some e =>
      obtain ⟨negative, digits⟩ := e
      have hnumber := digitsNumber_ten (hdigits _ he)
      cases negative with
      | true => simp [sign, exponentValue, hnumber]
      | false =>
          cases digits with
          | nil => exact absurd rfl (hne _ he)
          | cons d ds =>
              have hd : d.isDigit = true := hdigits _ he d List.mem_cons_self
              have hvalue : exponentValue ('e' :: d :: ds) = digitsNumber 10 (d :: ds) := by
                unfold exponentValue
                split <;> simp_all
              simp [sign, hvalue, hnumber]

theorem isDigit_digits : ∀ c ∈ x.whole ++ x.fraction.getD [], c.isDigit = true := by
  intro c hc
  rcases List.mem_append.mp hc with hc | hc
  · exact x.isDigit_whole c hc
  · have hfraction := x.isDigit_fraction
    cases hf : x.fraction with
    | none => simp [hf] at hc
    | some digits => exact hfraction digits hf c (by simpa [hf] using hc)

theorem eq_point_of_mem {c : Char} (hc : c ∈ x.pointText) : c = '.' ∨ c.isDigit = true := by
  have hdigits := x.isDigit_fraction
  cases hf : x.fraction with
  | none => simp [pointText, hf] at hc
  | some digits =>
      rw [pointText, hf] at hc
      rcases List.mem_cons.mp hc with rfl | hc
      · exact .inl rfl
      · exact .inr (hdigits digits hf c hc)

theorem eq_letter_of_mem {c : Char} (hc : c ∈ x.exponentText) :
    c = 'e' ∨ c = '-' ∨ c.isDigit = true := by
  have hdigits := x.isDigit_exponent
  cases he : x.exponent with
  | none => simp [exponentText, he] at hc
  | some e =>
      rw [exponentText, he] at hc
      rcases List.mem_cons.mp hc with rfl | hc
      · exact .inl rfl
      · rcases List.mem_append.mp hc with hc | hc
        · cases hnegative : e.1 <;> simp [hnegative, sign] at hc
          exact .inr (.inl hc)
        · exact .inr (.inr (hdigits e he c hc))

/-- A numeral is made of digits, a point and the letter of its exponent, and the sign of that. -/
theorem text_forall {P : Char → Prop} (hdigit : ∀ c, c.isDigit = true → P c) (hpoint : P '.')
    (hletter : P 'e') (hminus : P '-') : ∀ c ∈ x.text, P c := by
  intro c hc
  rcases List.mem_append.mp hc with hc | hc
  · exact hdigit c (x.isDigit_whole c hc)
  · rcases List.mem_append.mp hc with hc | hc
    · rcases x.eq_point_of_mem hc with rfl | hc
      · exact hpoint
      · exact hdigit c hc
    · rcases x.eq_letter_of_mem hc with rfl | rfl | hc
      · exact hletter
      · exact hminus
      · exact hdigit c hc

theorem exponentText_eq_nil_iff : x.exponentText = [] ↔ x.exponent = none := by
  unfold exponentText
  cases x.exponent with
  | none => exact iff_of_true rfl rfl
  | some e => exact iff_of_false (List.cons_ne_nil _ _) nofun

theorem take_exponent {rest : List Char} (hrest : EndsDefault rest) :
    (x.exponentText ++ rest).take (exponentLength (x.exponentText ++ rest)) = x.exponentText := by
  rw [x.exponentLength_append hrest, List.take_left]

/-- What follows digits without a point does not begin with one. -/
theorem exponentText_append_ne {rest : List Char} (hrest : EndsDefault rest) (cs : List Char) :
    x.exponentText ++ rest ≠ '.' :: cs := by
  unfold exponentText
  split
  · simp
  · rintro rfl
    obtain h | h := hrest '.' rfl <;> cases h

theorem decimal_append {rest : List Char} (hrest : EndsDefault rest) :
    number.decimal (x.text ++ rest) = (x.lexeme, x.text.length) := by
  have hwhole := takeWhile_digits x.isDigit_whole (x.endsDigits_pointText hrest)
  have hnumber := digitsNumber_ten x.isDigit_digits
  have hscale := x.exponentValue_exponentText
  have htake := x.take_exponent hrest
  have htext : x.text ++ rest = x.whole ++ (x.pointText ++ (x.exponentText ++ rest)) := by
    simp only [text, List.append_assoc]
  have hlength : x.text.length = x.whole.length + x.pointText.length + x.exponentText.length := by
    simp only [text, List.length_append, Nat.add_assoc]
  rw [htext, hlength]
  unfold lexeme isWhole digits
  cases hf : x.fraction with
  | none =>
      have hpoint : x.pointText = [] := by
        rw [pointText, hf]
      have hnone : ∀ cs, x.exponentText ++ rest = '.' :: cs → False :=
        x.exponentText_append_ne hrest
      have hexponent := x.exponentText_eq_nil_iff
      rw [hpoint, List.nil_append] at hwhole ⊢
      rw [hf, Option.getD_none, List.append_nil] at hnumber
      rw [hf, Option.getD_none, List.length_nil, Nat.cast_zero, Int.sub_zero] at hscale
      simp only [number.decimal, hwhole, List.drop_left, List.drop_zero, htake, List.append_nil,
        hnumber, List.length_nil, Nat.cast_zero, Int.sub_zero, hscale]
      by_cases he : x.exponent = none
      · simp [he, hexponent.mpr he]
      · simp [he, mt hexponent.mp he]
  | some ds =>
      have hpoint : x.pointText = '.' :: ds := by
        rw [pointText, hf]
      have hfraction :=
        takeWhile_digits (x.isDigit_fraction ds hf) (x.endsDigits_exponentText hrest)
      rw [hpoint, List.cons_append] at hwhole ⊢
      rw [hf, Option.getD_some] at hnumber hscale
      simp [number.decimal, hwhole, hfraction, htake, hnumber, hscale, Nat.add_comm 1]

theorem exists_cons : ∃ c cs, x.text = c :: cs ∧ c.isDigit = true := by
  have hne := x.whole_ne_nil
  have hdigits := x.isDigit_whole
  cases hw : x.whole with
  | nil => exact absurd hw hne
  | cons c cs =>
      rw [hw] at hdigits
      exact ⟨c, _, by rw [text, hw, List.cons_append], hdigits c List.mem_cons_self⟩

theorem number_append {rest : List Char} (hrest : EndsDefault rest) :
    number (x.text ++ rest) = (x.lexeme, x.text.length) := by
  apply number_of_decimal ?_ (x.decimal_append hrest)
  · rw [List.drop_left]
    exact hrest.run_isWordChar
  · intro c cs hs
    have htext : ∀ d ∈ x.text, d ≠ 'x' ∧ d ≠ 'X' := by
      refine x.text_forall (fun d hd => ?_) (by decide) (by decide) (by decide)
      constructor <;> rintro rfl <;> cases hd
    obtain ⟨d, ds, hd, -⟩ := x.exists_cons
    rw [hd, List.cons_append] at hs
    have htail := (List.cons.inj hs).2
    cases ds with
    | nil =>
        rw [List.nil_append] at htail
        obtain rfl | rfl := hrest c (by rw [htail]; rfl) <;> decide
    | cons e es =>
        obtain ⟨rfl, -⟩ := List.cons.inj htail
        exact htext e (by rw [hd]; simp)

theorem lexeme_ne_space : x.lexeme ≠ .space := by
  unfold lexeme
  split <;> nofun

/-- A numeral is one token, whatever closes it. -/
theorem solid_append {rest : List Char} (hrest : EndsDefault rest) :
    solid (x.text ++ rest) = ⟨x.lexeme, x.text, [], 0⟩ :: solid rest := by
  have hnumber := x.number_append hrest
  obtain ⟨c, cs, hc, hdigit⟩ := x.exists_cons
  have hlexeme : Sql.lexeme c (cs ++ rest) = (x.lexeme, cs.length) := by
    rw [lexeme_digit hdigit, ← List.cons_append, ← hc, hnumber, hc]
    rfl
  rw [hc]
  exact solid_cons hlexeme x.lexeme_ne_space

/-- One minus sign before a numeral is a token of its own. -/
theorem solid_minus {rest : List Char} (hrest : EndsDefault rest) :
    solid ('-' :: (x.text ++ rest)) =
      symbolToken "-" :: ⟨x.lexeme, x.text, [], 0⟩ :: solid rest := by
  rw [← x.solid_append hrest]
  obtain ⟨c, cs, hc, hdigit⟩ := x.exists_cons
  have hminus : Sql.lexeme '-' ([] ++ (x.text ++ rest)) = (.symbol, 0) := by
    have hne : c ≠ '-' := by
      rintro rfl
      cases hdigit
    simp [Sql.lexeme, hc, hne, isSpaceChar, isWordStart]
  exact solid_cons hminus (by decide)

/-- The tokens of a numeral after a minus sign, or without. -/
def tokens (negative : Bool) : List Token :=
  if negative then [symbolToken "-", ⟨x.lexeme, x.text, [], 0⟩]
  else [⟨x.lexeme, x.text, [], 0⟩]

theorem solid_signed (negative : Bool) {rest : List Char} (hrest : EndsDefault rest) :
    solid (sign negative ++ x.text ++ rest) = x.tokens negative ++ solid rest := by
  cases negative with
  | false => exact x.solid_append hrest
  | true => exact x.solid_minus hrest

open Parse

/-- A real after a minus sign, whatever comes next. -/
theorem prefixed_minus_real {t : Token} {v : Binary64} (ht : t.lexeme = .real v)
    (more : List Token) (params : Parameters) :
    prefixed 6 ⟨symbolToken "-" :: t :: more, params⟩ =
      .ok (.literal (.real v.negated), ⟨more, params⟩) := by
  obtain ⟨_, text, space, offset⟩ := t
  obtain rfl : _ = Lexeme.real v := ht
  have hreal : prefixed 4 ⟨⟨.real v, text, space, offset⟩ :: more, params⟩ =
      .ok (.literal (.real v), ⟨more, params⟩) := rfl
  have hoperand : operand 5 Level.sign.rank ⟨⟨.real v, text, space, offset⟩ :: more, params⟩ =
      .ok (.literal (.real v), ⟨more, params⟩) := by
    rw [operand, bind_ok hreal]
    exact stops_sign _ 4 _
  show (operand 5 Level.sign.rank >>= fun x => pure (negated x) : Parse Expr)
    ⟨⟨.real v, text, space, offset⟩ :: more, params⟩ = _
  rw [bind_ok hoperand]
  rfl

/-- A numeral as the default of a column is its value. -/
theorem defaultValue_tokens (negative : Bool) (more : List Token) (params : Parameters) :
    defaultValue ⟨x.tokens negative ++ more, params⟩ = .ok (x.datum negative, ⟨more, params⟩) := by
  unfold tokens datum lexeme
  cases negative with
  | false => cases x.isWhole <;> rfl
  | true =>
      cases hwhole : x.isWhole with
      | true => rfl
      | false =>
          have hreal := prefixed_minus_real
            (t := ⟨.real (.ofDecimal false x.digits x.scale), x.text, [], 0⟩) rfl more params
          rw [Binary64.negated_ofDecimal] at hreal
          exact (bind_ok (peek_cons ..)).trans (bind_ok hreal)

/-! ## Numerals as code -/

theorem isNumeral_front : ∀ c ∈ x.whole ++ x.pointText, isNumeral c = true := by
  intro c hc
  rcases List.mem_append.mp hc with hc | hc
  · exact isNumeral_of_isDigit (x.isDigit_whole c hc)
  · rcases x.eq_point_of_mem hc with rfl | hc
    · rfl
    · exact isNumeral_of_isDigit hc

/-- The sign of an exponent stands after its letter, so it begins no comment. -/
theorem allCode_signed_text (negative : Bool) : AllCode (sign negative ++ x.text) := by
  have hfront := x.isNumeral_front
  have hne : x.whole ++ x.pointText ≠ [] := List.append_ne_nil_of_left_ne_nil x.whole_ne_nil _
  have hnil := x.exponent_ne_nil
  have hdigits := x.isDigit_exponent
  cases he : x.exponent with
  | none =>
      have htext : x.text = x.whole ++ x.pointText := by
        rw [text, x.exponentText_eq_nil_iff.mpr he, List.append_nil]
      rw [htext]
      exact allCode_signed negative hfront hne
  | some e =>
      obtain ⟨minus, digits⟩ := e
      have htext : x.text = x.whole ++ x.pointText ++ ['e'] ++ (sign minus ++ digits) := by
        simp [text, exponentText, he]
      have hletter : ∀ c ∈ x.whole ++ x.pointText ++ ['e'], isNumeral c = true := by
        intro c hc
        rcases List.mem_append.mp hc with hc | hc
        · exact hfront c hc
        · rw [List.mem_singleton.mp hc]
          rfl
      rw [htext, ← List.append_assoc]
      exact (allCode_signed negative hletter (by simp)).append
        (allCode_signed minus (fun c hc => isNumeral_of_isDigit (hdigits _ he c hc)) (hnil _ he))

/-! ## Numerals under minus signs -/

theorem newline_not_mem_text : '\n' ∉ x.text := by
  intro h
  have hne : ∀ c ∈ x.text, c ≠ '\n' := by
    refine x.text_forall (fun c hc => ?_) (by decide) (by decide) (by decide)
    rintro rfl
    cases hc
  exact hne '\n' h rfl

/-- The digits of a number. -/
def ofNat (n : Nat) : Numeral where
  whole := Nat.toDigits 10 n
  fraction := none
  exponent := none
  whole_ne_nil := Nat.toDigits_ne_nil
  isDigit_whole _ hc := Nat.isDigit_of_mem_toDigits (by decide) (by decide) hc
  isDigit_fraction := nofun
  exponent_ne_nil := nofun
  isDigit_exponent := nofun

theorem text_ofNat (n : Nat) : (ofNat n).text = (toString n).toList := by
  simp [text, ofNat, pointText, exponentText]

theorem value_ofNat (n : Nat) : (ofNat n).value = n := by
  simp [value, digits, scale, ofNat, Nat.ofDigitChars_ten_toDigits]

end Numeral

/-- A text that is a number wherever a default is: all of it is code, and the engine reads its
tokens, whatever comes after them, as a value that stands for the number. -/
structure WritesNumber (text : List Char) (v : ℚ) : Prop where
  code : AllCode text
  value : ∃ ts d, (∀ rest, EndsDefault rest → solid (text ++ rest) = ts ++ solid rest) ∧
    (∀ more params, Parse.defaultValue ⟨ts ++ more, params⟩ = .ok (d, ⟨more, params⟩)) ∧ d.Stands v

/-- A text that is a comment, together with what comes after it on its line. -/
structure BeginsComment (text : List Char) : Prop where
  opens : Mode.code.after text = .lineComment
  solid : ∀ rest, solid (text ++ rest) = solid (rest.dropWhile (· != '\n'))

theorem BeginsComment.not_writesNumber {text : List Char} (h : BeginsComment text) (v : ℚ) :
    ¬ WritesNumber text v := by
  intro hv
  have hmode := h.opens.symm.trans hv.code.settled
  cases hmode

theorem Numeral.writesNumber (x : Numeral) (negative : Bool) :
    WritesNumber (sign negative ++ x.text) ((if negative then -1 else 1) * x.value) where
  code := x.allCode_signed_text negative
  value := ⟨x.tokens negative, x.datum negative, fun _ hrest => x.solid_signed negative hrest,
    x.defaultValue_tokens negative, x.stands_datum negative⟩

theorem Numeral.beginsComment (x : Numeral) (k : Nat) :
    BeginsComment (List.replicate (k + 2) '-' ++ x.text) := by
  have hminuses : List.replicate (k + 2) '-' ++ x.text =
      '-' :: '-' :: (List.replicate k '-' ++ x.text) := rfl
  have hline : '\n' ∉ List.replicate k '-' ++ x.text := by
    rw [List.mem_append, not_or]
    refine ⟨fun h => ?_, x.newline_not_mem_text⟩
    cases List.eq_of_mem_replicate h
  rw [hminuses]
  exact ⟨after_minuses hline, solid_minuses hline⟩

end Sql

end TypedSql
