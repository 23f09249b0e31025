import TypedSql.Proofs.Query.Paging
import TypedSql.Proofs.Sql.Numerals
import TypedSql.Proofs.Sql.Phrases
import TypedSql.Proofs.Term.Words
import TypedSql.Sql.Statement

namespace TypedSql

namespace Sql

/-! ## The tokens of numbers -/

/-- Text that the digits before it do not go on in. -/
def EndsNumber (rest : List Char) : Prop := ∀ c ∈ rest.head?, isWordChar c = false ∧ c ≠ '.'

theorem endsNumber_cons {c : Char} (h : isWordChar c = false ∧ c ≠ '.') (cs : List Char) :
    EndsNumber (c :: cs) := by
  intro d hd
  cases hd
  exact h

theorem isWordChar_of_isDigit {c : Char} (h : c.isDigit = true) : isWordChar c = true := by
  simp [isWordChar, Char.isAlphanum, h]

section
variable {rest : List Char} (hrest : EndsNumber rest)
include hrest

theorem EndsNumber.endsDigits : EndsDigits rest := by
  intro c hc
  by_contra hdigit
  have hword := isWordChar_of_isDigit (Bool.not_eq_false _ ▸ hdigit)
  rw [(hrest c hc).1] at hword
  cases hword

theorem EndsNumber.exponentLength_eq_zero : exponentLength rest = 0 := by
  cases rest with
  | nil => rfl
  | cons c cs =>
      have hletter : c ≠ 'e' ∧ c ≠ 'E' := by
        have hword := (hrest c rfl).1
        constructor <;> rintro rfl <;> cases hword
      cases cs <;> simp [exponentLength, hletter]

theorem decimal_digits {digits : List Char} (hdigits : ∀ c ∈ digits, c.isDigit = true) :
    number.decimal (digits ++ rest) = (.integer (digitsNumber 10 digits), digits.length) := by
  have hwhole := takeWhile_digits hdigits hrest.endsDigits
  have hpoint : ∀ cs, rest = '.' :: cs → False := by
    rintro cs rfl
    exact (hrest '.' rfl).2 rfl
  simp [number.decimal, hwhole, hrest.exponentLength_eq_zero]

theorem number_digits (n : Nat) :
    number (Nat.toDigits 10 n ++ rest) = (.integer n, (Nat.toDigits 10 n).length) := by
  have hdigits : ∀ c ∈ Nat.toDigits 10 n, c.isDigit = true := fun c hc =>
    Nat.isDigit_of_mem_toDigits (by decide) (by decide) hc
  refine number_of_decimal (fun c cs hs => ?_) ?_ ?_
  · -- after the first digit comes another one, or the end of the number
    have hc : c.isDigit = true ∨ isWordChar c = false := by
      obtain ⟨d, ds, hd⟩ := List.exists_cons_of_ne_nil (Nat.toDigits_ne_nil (b := 10) (n := n))
      rw [hd, List.cons_append, List.cons.injEq] at hs
      cases ds with
      | nil => exact .inr (hrest c (by rw [← List.nil_append rest, hs.2]; rfl)).1
      | cons e es => exact .inl ((List.cons.inj hs.2).1 ▸ hdigits e (by rw [hd]; simp))
    constructor <;> rintro rfl <;> rcases hc with hc | hc <;> cases hc
  · rw [decimal_digits hrest hdigits, digitsNumber_ten hdigits, Nat.ofDigitChars_ten_toDigits]
  · rw [List.drop_left]
    cases rest with
    | nil => rfl
    | cons c cs => simp [run, (hrest c rfl).1]

/-- The digits of a number are one token. -/
theorem solid_digits (n : Nat) :
    solid (Nat.toDigits 10 n ++ rest) = ⟨.integer n, Nat.toDigits 10 n, [], 0⟩ :: solid rest := by
  have hnumber := number_digits hrest n
  obtain ⟨c, cs, hc⟩ := List.exists_cons_of_ne_nil (Nat.toDigits_ne_nil (b := 10) (n := n))
  have hdigit : c.isDigit = true :=
    Nat.isDigit_of_mem_toDigits (by decide) (by decide) (hc ▸ List.mem_cons_self)
  rw [hc] at hnumber ⊢
  refine solid_cons ?_ nofun
  rw [lexeme_digit hdigit, ← List.cons_append, hnumber]
  rfl

end

def numberTokens (n : Int) : List Token :=
  if n < 0 then [symbolToken "-", ⟨.integer n.natAbs, Nat.toDigits 10 n.natAbs, [], 0⟩]
  else [⟨.integer n.natAbs, Nat.toDigits 10 n.natAbs, [], 0⟩]

theorem solid_int (n : Int) {rest : List Char} (hrest : EndsNumber rest) :
    solid ((toString n).toList ++ rest) = numberTokens n ++ solid rest := by
  have hdigits := solid_digits hrest n.natAbs
  rw [toList_toString_int, numberTokens, List.append_assoc]
  by_cases hn : n < 0
  · have hminus : lexeme '-' ([] ++ (Nat.toDigits 10 n.natAbs ++ rest)) = (.symbol, 0) := by
      obtain ⟨c, cs, hc⟩ :=
        List.exists_cons_of_ne_nil (Nat.toDigits_ne_nil (b := 10) (n := n.natAbs))
      have hne : c ≠ '-' := by
        rintro rfl
        have hdigit := Nat.isDigit_of_mem_toDigits (by decide) (by decide)
          (hc ▸ List.mem_cons_self : '-' ∈ Nat.toDigits 10 n.natAbs)
        cases hdigit
      simp [lexeme, hc, hne, isSpaceChar, isWordStart]
    rw [if_pos hn, decide_eq_true hn]
    refine (solid_cons hminus (by decide)).trans ?_
    rw [hdigits]
    rfl
  · rw [if_neg hn, decide_eq_false hn]
    exact hdigits

/-! ## The tokens of a window -/

def clauseText (word : String) : Option Int → String
  | some n => " " ++ word ++ " " ++ toString n
  | none => ""

def clauseTokens (word : String) : Option Int → List Token
  | some n => wordToken word :: numberTokens n
  | none => []

theorem endsNumber_clauseText (word : String) (operand : Option Int) {rest : List Char}
    (hrest : EndsNumber rest) : EndsNumber ((clauseText word operand).toList ++ rest) := by
  cases operand with
  | none => exact hrest
  | some n =>
      simp only [clauseText, String.toList_append, List.append_assoc]
      exact endsNumber_cons (by decide) _

theorem solid_clauseText {word : String} (h : word = "LIMIT" ∨ word = "OFFSET")
    (operand : Option Int) {rest : List Char} (hrest : EndsNumber rest) :
    solid ((clauseText word operand).toList ++ rest) = clauseTokens word operand ++ solid rest := by
  have hword (s : List Char) :
      solid (word.toList ++ ' ' :: s) = wordToken word :: solid (' ' :: s) := by
    rcases h with rfl | rfl
    · exact solid_word "LIMIT" ' ' (by decide) (fun _ => rfl) s
    · exact solid_word "OFFSET" ' ' (by decide) (fun _ => rfl) s
  cases operand with
  | none => rfl
  | some n =>
      simp only [clauseText, String.toList_append, List.append_assoc]
      show solid (' ' :: (word.toList ++ ' ' :: ((toString n).toList ++ rest))) = _
      rw [solid_blank, hword, solid_blank, solid_int n hrest]
      rfl

end Sql

namespace Paging

def tokens (p : Paging) : List Sql.Token :=
  Sql.clauseTokens "LIMIT" p.limitOperand ++ Sql.clauseTokens "OFFSET" p.offsetOperand

theorem text_eq (p : Paging) :
    p.text = Sql.clauseText "LIMIT" p.limitOperand ++ Sql.clauseText "OFFSET" p.offsetOperand := by
  have hlimit (n : Int) : Sql.clauseText "LIMIT" (some n) = " LIMIT " ++ toString n := rfl
  have hoffset (n : Int) : Sql.clauseText "OFFSET" (some n) = " OFFSET " ++ toString n := rfl
  have hunbounded : " LIMIT -1 OFFSET " = " LIMIT " ++ toString (-1 : Int) ++ " OFFSET " := by
    decide
  obtain ⟨limit, offset⟩ := p
  cases limit with
  | some n =>
      cases offset with
      | some m =>
          rw [limitOperand, offsetOperand, Option.map_some, hlimit, hoffset, ← String.append_assoc]
          rfl
      | none =>
          rw [limitOperand, offsetOperand, Option.map_none, hlimit]
          exact String.append_empty.symm
  | none =>
      cases offset with
      | some m =>
          rw [limitOperand, offsetOperand, Option.map_some, hlimit, hoffset, ← String.append_assoc,
            ← hunbounded]
          rfl
      | none => rfl

/-- In front of anything that ends a number the window is cut into its own tokens. -/
theorem solid_text (p : Paging) {rest : List Char} (hrest : Sql.EndsNumber rest) :
    Sql.solid (p.text.toList ++ rest) = p.tokens ++ Sql.solid rest := by
  rw [text_eq, String.toList_append, List.append_assoc, tokens, List.append_assoc,
    Sql.solid_clauseText (.inl rfl) _ (Sql.endsNumber_clauseText _ _ hrest),
    Sql.solid_clauseText (.inr rfl) _ hrest]

end Paging

/-! ## Reading a window -/

namespace Sql

open Parse

/-- What may follow a query: nothing, or what closes it. -/
def ClosesQuery (ts : List Token) : Prop :=
  ∀ t ∈ ts.head?, t.isSymbol ")" = true ∨ t.isSymbol ";" = true

section
variable {ts more : List Token} {params : Parameters}

theorem ClosesQuery.isWord (h : ClosesQuery more) (word : String) :
    ∀ t ∈ more.head?, t.isWord word = false := by
  intro t ht
  have hsymbol : t.lexeme = .symbol := by
    rcases h t ht with h | h <;> simp only [Token.isSymbol, Bool.and_eq_true, beq_iff_eq] at h <;>
      exact h.1
  simp [Token.isWord, hsymbol]

theorem ClosesQuery.ends (h : ClosesQuery more) : Ends ⟨more, params⟩ where
  noOperator := by
    cases more with
    | nil => rfl
    | cons t ts =>
        obtain ⟨l, text, space, offset⟩ := t
        rcases h _ rfl with h | h <;>
          simp only [Token.isSymbol, Bool.and_eq_true, beq_iff_eq] at h <;>
          obtain ⟨rfl, rfl⟩ := h <;> rfl
  noEscape := h.isWord "escape"

/-- A token by what it is and how it is written. -/
theorem Token.eq_of_solid {t : Token} {l : Lexeme} {text : List Char}
    (h : t.solid = ⟨l, text, [], 0⟩) : t = ⟨l, text, t.space, t.offset⟩ := by
  obtain ⟨_, _, _, _⟩ := t
  cases h
  rfl

theorem ends_of_offset {t : Token} (ht : t.solid = wordToken "OFFSET") :
    Ends ⟨t :: more, params⟩ where
  noOperator := by
    rw [Token.eq_of_solid ht]
    rfl
  noEscape := by
    intro u hu
    cases hu
    rw [Token.eq_of_solid ht]
    rfl

/-- The tokens of a number are read as the literal that it is. -/
theorem expression_number {n : Int} (hts : ts.map Token.solid = numberTokens n)
    (hmore : Ends ⟨more, params⟩) :
    expression ⟨ts ++ more, params⟩ = .ok (.literal (.ofInt n), ⟨more, params⟩) := by
  have htight : Tight ⟨ts ++ more, params⟩ (.literal (.ofInt n)) ⟨more, params⟩ := by
    rw [numberTokens] at hts
    split at hts
    · rename_i hn
      obtain ⟨minus, ts, rfl, hminus, hts⟩ := List.map_eq_cons_iff.mp hts
      obtain ⟨digits, ts, rfl, hdigits, hts⟩ := List.map_eq_cons_iff.mp hts
      obtain rfl := List.map_eq_nil_iff.mp hts
      have hvalue : -(n.natAbs : Int) = n := by omega
      rw [Token.eq_of_solid hminus, Token.eq_of_solid hdigits]
      refine .intro rfl rfl (Nat.le_succ _) fun fuel _ => ?_
      conv => rhs; rw [← hvalue]
      rfl
    · rename_i hn
      obtain ⟨digits, ts, rfl, hdigits, hts⟩ := List.map_eq_cons_iff.mp hts
      obtain rfl := List.map_eq_nil_iff.mp hts
      have hvalue : (n.natAbs : Int) = n := by omega
      rw [Token.eq_of_solid hdigits]
      refine .intro rfl rfl (Nat.le_refl _) fun fuel _ => ?_
      conv => rhs; rw [← hvalue]
      rfl
  exact operand_stops htight (hmore.stops 0) _ (by dsimp only; omega)

/-- The literal that is read for a number, if one is written. -/
def operandExpr (operand : Option Int) : Option Expr :=
  operand.map fun n => .literal (.ofInt n)

/-- A word and a number, if they are there. -/
theorem after_clause {word lower : String} {operand : Option Int}
    (hword : (wordToken word).isWord lower = true)
    (hts : ts.map Token.solid = clauseTokens word operand) (hmore : Ends ⟨more, params⟩)
    (hnone : ∀ t ∈ more.head?, t.isWord lower = false) :
    after lower expression ⟨ts ++ more, params⟩ =
      .ok (operandExpr operand, ⟨more, params⟩) := by
  cases operand with
  | none =>
      obtain rfl := List.map_eq_nil_iff.mp hts
      have htake : takeWord lower ⟨more, params⟩ = .ok (false, ⟨more, params⟩) := takeIf_neg hnone
      rw [List.nil_append, after, bind_ok htake]
      rfl
  | some n =>
      obtain ⟨t, ts, rfl, ht, hts⟩ := List.map_eq_cons_iff.mp hts
      have hlower : t.isWord lower = true := by
        rw [Token.eq_of_solid ht]
        exact hword
      have htake : takeWord lower ⟨t :: (ts ++ more), params⟩ = .ok (true, ⟨ts ++ more, params⟩) :=
        takeIf_pos hlower
      rw [List.cons_append, after, bind_ok htake, if_pos rfl, map_eq_pure_bind,
        bind_ok (expression_number hts hmore)]
      rfl

end

namespace Parse

/-- The window of a query. -/
def window : Parse (Option Expr × Option Expr) := do
  let limit ← after "limit" expression
  let offset ← match limit with
    | some _ => after "offset" expression
    | none => pure none
  pure (limit, offset)

/-- A query, after its first word and up to its window. -/
def unbounded {Source : Type} (source : Parse Source) : Parse (SelectFrom Source) := do
  let distinct ← takeWord "distinct"
  if !distinct then let _ ← takeWord "all"
  let items ← commas resultItem
  let source ← after "from" source
  let condition ← after "where" expression
  let order ← after "order" do
    word "by"
    commas orderTerm
  pure
    { distinct, items, source, condition, order := order.getD [], limit := none, offset := none }

theorem selectFrom_eq {Source : Type} (source : Parse Source) :
    selectFrom source =
      unbounded source >>= fun q => window >>= fun w =>
        pure { q with limit := w.1, offset := w.2 } := by
  simp only [selectFrom, unbounded, window, bind_assoc, pure_bind]
  refine bind_congr fun distinct => ?_
  cases distinct with
  | true | false =>
      simp only [Bool.not_true, Bool.not_false, Bool.false_eq_true, if_true, if_false, bind_assoc,
        pure_bind]
      repeat refine bind_congr fun _ => ?_
      split <;> simp only [bind_assoc, pure_bind]

end Parse

end Sql

namespace Paging

open Sql Parse

theorem offsetOperand_of_limitOperand {p : Paging} (h : p.limitOperand = none) :
    p.offsetOperand = none := by
  obtain ⟨limit, offset⟩ := p
  cases limit <;> cases offset <;> first | rfl | cases h

section
variable {p : Paging} {ts more : List Sql.Token} {params : Parameters}

/-- The tokens of a window are read as the literals of its numbers. -/
theorem window_tokens (hts : ts.map Sql.Token.solid = p.tokens) (hmore : ClosesQuery more) :
    window ⟨ts ++ more, params⟩ =
      .ok ((operandExpr p.limitOperand, operandExpr p.offsetOperand), ⟨more, params⟩) := by
  obtain ⟨ls, os, rfl, hls, hos⟩ := List.map_eq_append_iff.mp hts
  have hends : Ends ⟨more, params⟩ := hmore.ends
  have hoffset := after_clause rfl hos hends (hmore.isWord "offset")
  have hrest : Ends ⟨os ++ more, params⟩ ∧ ∀ t ∈ (os ++ more).head?, t.isWord "limit" = false := by
    cases hp : p.offsetOperand with
    | none =>
        rw [hp] at hos
        obtain rfl := List.map_eq_nil_iff.mp hos
        exact ⟨hends, hmore.isWord "limit"⟩
    | some n =>
        rw [hp] at hos
        obtain ⟨t, os, rfl, ht, -⟩ := List.map_eq_cons_iff.mp hos
        refine ⟨ends_of_offset ht, fun u hu => ?_⟩
        cases hu
        rw [Sql.Token.eq_of_solid ht]
        rfl
  have hlimit := after_clause rfl hls hrest.1 hrest.2
  rw [List.append_assoc, window, bind_ok hlimit]
  cases hp : p.limitOperand with
  | none =>
      have hnone := offsetOperand_of_limitOperand hp
      rw [hnone] at hos ⊢
      obtain rfl := List.map_eq_nil_iff.mp hos
      rfl
  | some n => exact bind_ok hoffset

/-- A query is read with the window that stands at its end. -/
theorem selectFrom_tokens {Source : Type} {source : Parse Source} {r : Reader}
    {q : SelectFrom Source} (hts : ts.map Sql.Token.solid = p.tokens) (hmore : ClosesQuery more)
    (hq : unbounded source r = .ok (q, ⟨ts ++ more, params⟩)) :
    selectFrom source r =
      .ok ({ q with limit := operandExpr p.limitOperand, offset := operandExpr p.offsetOperand },
        ⟨more, params⟩) := by
  rw [selectFrom_eq, bind_ok hq, bind_ok (window_tokens hts hmore)]
  rfl

end

end Paging

end TypedSql
