import TypedSql.Proofs.Connection.Act
import TypedSql.Record.Table

/-!
What the arguments of an attribute may be. They are items separated by commas, with a comma after
the last one or without; an item is a word, or a word, an equals sign and a literal. Arguments that
are spelled so are read as the items that they spell, and no others are read at all.
-/

namespace TypedSql

/-! ## Literals -/

/-- A literal: text, a number or a truth value, under any number of minus signs. -/
inductive Literal where
  | text (value : String)
  | integer (n : Nat)
  | decimal (digits : String)
  | boolean (b : Bool)
  | negative (x : Literal)
deriving DecidableEq, Repr

namespace Literal

def written : Literal → Written
  | .text value => .text value
  | .integer n => .integer n
  | .decimal digits => .decimal digits
  | .boolean b => .boolean b
  | .negative x => .negative x.written

def sql : Literal → String
  | .text value => value
  | .integer n => toString n
  | .decimal digits => digits
  | .boolean b => if b then "1" else "0"
  | .negative x => "-" ++ x.sql

def tokens : Literal → List Token
  | .text value => [.text value.toList]
  | .integer n => [.integer n]
  | .decimal digits => [.decimal digits.toList]
  | .boolean b => [.word (if b then "true" else "false").toList]
  | .negative x => .mark '-' :: x.tokens

theorem sql?_written (x : Literal) : x.written.sql? = some x.sql := by
  induction x with
  | negative x ih => simp [written, sql, Written.sql?, ih]
  | text | integer | decimal | boolean => rfl

end Literal

/-- Literals are the expressions that are a default. -/
theorem Written.exists_literal {x : Written} {text : String} (h : x.sql? = some text) :
    ∃ literal : Literal, literal.written = x ∧ literal.sql = text := by
  induction x generalizing text with
  | text value => exact ⟨.text value, rfl, Option.some.inj h⟩
  | integer n => exact ⟨.integer n, rfl, Option.some.inj h⟩
  | decimal digits => exact ⟨.decimal digits, rfl, Option.some.inj h⟩
  | boolean b => exact ⟨.boolean b, rfl, Option.some.inj h⟩
  | negative x ih =>
      simp only [Written.sql?, Option.map_eq_some_iff] at h
      obtain ⟨inner, hx, rfl⟩ := h
      obtain ⟨literal, rfl, rfl⟩ := ih hx
      exact ⟨.negative literal, rfl, rfl⟩
  | other => cases h

/-! ## Reading literals and paths -/

/-- What may follow an item: nothing, or a comma. -/
def Closes (rest : List Token) : Prop := ∀ t ∈ rest.head?, t = .mark ','

theorem closeLiteral_of_closes {rest : List Token} (h : Closes rest) (x : Written) :
    closeLiteral x rest = (x, rest) := by
  cases rest with
  | nil => rfl
  | cons t rest =>
      obtain rfl : t = .mark ',' := h t rfl
      rfl

theorem readExpression_literal {rest : List Token} (h : Closes rest) (x : Literal) :
    readExpression (x.tokens ++ rest) = .ok (x.written, rest) := by
  induction x with
  | text value =>
      simp [Literal.tokens, readExpression, closeLiteral_of_closes h, Literal.written]
  | integer n => simp [Literal.tokens, readExpression, closeLiteral_of_closes h, Literal.written]
  | decimal digits =>
      simp [Literal.tokens, readExpression, closeLiteral_of_closes h, Literal.written]
  | boolean b =>
      cases b <;>
        simp [Literal.tokens, readExpression, closeLiteral_of_closes h, Literal.written]
  | negative x ih => simp [Literal.tokens, readExpression, ih, Literal.written, bind, Except.bind]

/-- An expression that goes on after a literal is no literal. -/
theorem eq_of_closeLiteral {x y : Written} {tokens rest : List Token}
    (h : closeLiteral x tokens = (y, rest)) (hy : y ≠ .other) : x = y ∧ tokens = rest := by
  rw [closeLiteral] at h
  split at h
  · cases h
    exact absurd rfl hy
  · cases h
    exact ⟨rfl, rfl⟩

theorem Literal.written_ne_other (x : Literal) : x.written ≠ .other := by
  cases x <;> simp [Literal.written]

theorem tokens_of_readExpression {x : Literal} {tokens rest : List Token}
    (h : readExpression tokens = .ok (x.written, rest)) : tokens = x.tokens ++ rest := by
  fun_induction readExpression tokens generalizing x with
  | case1 | case10 | case13 => cases h
  | case2 value r =>
      obtain ⟨hx, rfl⟩ := eq_of_closeLiteral (Except.ok.inj h) x.written_ne_other
      cases x <;> cases hx
      simp [Literal.tokens]
  | case3 n r =>
      obtain ⟨hx, rfl⟩ := eq_of_closeLiteral (Except.ok.inj h) x.written_ne_other
      cases x <;> cases hx
      rfl
  | case4 digits r =>
      obtain ⟨hx, rfl⟩ := eq_of_closeLiteral (Except.ok.inj h) x.written_ne_other
      cases x <;> cases hx
      simp [Literal.tokens]
  | case6 r | case7 r =>
      obtain ⟨hx, rfl⟩ := eq_of_closeLiteral (Except.ok.inj h) x.written_ne_other
      cases x <;> cases hx
      rfl
  | case5 r =>
      obtain ⟨hx, -⟩ := eq_of_closeLiteral (Except.ok.inj h) x.written_ne_other
      exact absurd hx.symm x.written_ne_other
  | case8 | case9 | case12 =>
      exact absurd (congrArg Prod.fst (Except.ok.inj h)).symm x.written_ne_other
  | case11 r ih =>
      obtain ⟨⟨y, r'⟩, hy, h⟩ := ok_of_bind h
      cases x <;> cases h
      rw [Literal.tokens, ih hy, List.cons_append]

theorem readPath_word {rest : List Token} (h : rest.head? ≠ some (.mark ':')) (w : List Char) :
    readPath (.word w :: rest) = .ok ([w], rest) := by
  have hrest : readPathRest rest = .ok ([], rest) := by
    rw [readPathRest]
    · rintro v r rfl
      exact h rfl
    · rintro r rfl
      exact h rfl
  rw [readPath, hrest]
  rfl

theorem eq_of_readPathRest {tokens rest : List Token} (h : readPathRest tokens = .ok ([], rest)) :
    tokens = rest := by
  rw [readPathRest.eq_def] at h
  split at h
  · obtain ⟨⟨names, r⟩, -, h⟩ := ok_of_bind h
    cases h
  · cases h
  · cases h
    rfl

theorem eq_word_of_readPath {tokens rest : List Token} {w : List Char}
    (h : readPath tokens = .ok ([w], rest)) : tokens = .word w :: rest := by
  rw [readPath.eq_def] at h
  split at h
  · obtain ⟨⟨names, r⟩, -, h⟩ := ok_of_bind h
    cases h
  · obtain ⟨⟨names, r⟩, hrest, h⟩ := ok_of_bind h
    cases h
    rw [eq_of_readPathRest hrest]
  all_goals cases h

/-- A word, an equals sign and an expression are read as what they are. -/
theorem readAssigned_literal {rest : List Token} (h : Closes rest) (x : Literal) :
    readAssigned (.mark '=' :: x.tokens ++ rest) = .ok (x.written, rest) :=
  readExpression_literal h x

theorem tokens_of_readAssigned {x : Literal} {tokens rest : List Token}
    (h : readAssigned tokens = .ok (x.written, rest)) : tokens = .mark '=' :: x.tokens ++ rest := by
  rw [readAssigned.eq_def] at h
  split at h
  · rw [tokens_of_readExpression h, List.cons_append]
  · cases h

/-! ## Items -/

/-- What went wrong, if anything did. -/
def errorOf {ε α : Type} : Except ε α → Option ε
  | .ok _ => none
  | .error e => some e

theorem errorOf_eq_some_iff {ε α : Type} {x : Except ε α} {e : ε} :
    errorOf x = some e ↔ x = .error e := by
  cases x <;> simp [errorOf]

theorem errorOf_eq_none_iff {ε α : Type} {x : Except ε α} : errorOf x = none ↔ ∃ a, x = .ok a := by
  cases x <;> simp [errorOf]

/-- Items separated by commas, with one after the last of them or without. -/
inductive Spelled {M : Type} (spell : M → List Token) : List M → List Token → Prop where
  | nil : Spelled spell [] []
  | last (m : M) : Spelled spell [m] (spell m)
  | cons (m : M) {ms : List M} {tokens : List Token} (h : Spelled spell ms tokens) :
      Spelled spell (m :: ms) (spell m ++ .mark ',' :: tokens)

/-- The items of one kind are read as they are spelled, and no others are read; what was known
before makes no difference to how it goes. -/
structure SpelledBy {σ M : Type} (item : Items σ) (spell : M → List Token) (act : σ → M → σ) :
    Prop where
  nonempty : ∀ m, spell m ≠ []
  accepts : ∀ m known rest, Closes rest → ∃ path tail,
    readPath (spell m ++ rest) = .ok (path, tail) ∧ item path known tail = .ok (act known m, rest)
  sound : ∀ tokens path tail known known' rest, readPath tokens = .ok (path, tail) →
    item path known tail = .ok (known', rest) →
    ∃ m, tokens = spell m ++ rest ∧ known' = act known m
  steady : ∀ path known known' tail,
    (item path known tail).map Prod.snd = (item path known' tail).map Prod.snd

namespace SpelledBy

variable {σ M : Type} {item : Items σ} {spell : M → List Token} {act : σ → M → σ}

theorem eq_nil (h : SpelledBy item spell act) {ms : List M} (hms : Spelled spell ms []) :
    ms = [] := by
  generalize htokens : ([] : List Token) = tokens at hms
  cases hms with
  | nil => rfl
  | last m => exact absurd htokens.symm (h.nonempty m)
  | cons m => simp at htokens

theorem readItems_of_spelled (h : SpelledBy item spell act) {ms : List M} {tokens : List Token}
    (hms : Spelled spell ms tokens) (hne : tokens ≠ []) {n : Nat} (hn : tokens.length ≤ n)
    (known : σ) : readItems item n known tokens = .ok (ms.foldl act known) := by
  induction hms generalizing n known with
  | nil => exact absurd rfl hne
  | last m =>
      obtain ⟨path, tail, hpath, hitem⟩ := h.accepts m known [] (by simp [Closes])
      rw [List.append_nil] at hpath
      cases n with
      | zero => exact absurd (List.length_eq_zero_iff.mp (Nat.le_zero.mp hn)) hne
      | succ n => simp [readItems, hpath, hitem, bind, Except.bind]
  | @cons m ms tokens hms ih =>
      have hcloses : Closes (.mark ',' :: tokens) := by simp [Closes]
      obtain ⟨path, tail, hpath, hitem⟩ := h.accepts m known _ hcloses
      cases n with
      | zero => simp at hn
      | succ n =>
          have hlen : tokens.length ≤ n := by
            simp only [List.length_append, List.length_cons] at hn
            omega
          simp only [readItems, hpath, hitem, bind, Except.bind]
          by_cases hempty : tokens = []
          · subst hempty
            rw [h.eq_nil hms]
            rfl
          · rw [if_neg (by simpa using hempty), ih hempty hlen]
            rfl

theorem spelled_of_readItems (h : SpelledBy item spell act) {n : Nat} {known known' : σ}
    {tokens : List Token} (hne : tokens ≠ []) (hn : tokens.length ≤ n)
    (hread : readItems item n known tokens = .ok known') :
    ∃ ms, Spelled spell ms tokens ∧ known' = ms.foldl act known := by
  induction n generalizing known tokens with
  | zero => exact absurd (List.length_eq_zero_iff.mp (Nat.le_zero.mp hn)) hne
  | succ n ih =>
      rw [readItems] at hread
      obtain ⟨⟨path, tail⟩, hpath, hread⟩ := ok_of_bind hread
      obtain ⟨⟨next, rest⟩, hitem, hread⟩ := ok_of_bind hread
      obtain ⟨m, rfl, rfl⟩ := h.sound tokens path tail known next rest hpath hitem
      dsimp only at hread
      split at hread
      · cases hread
        rw [List.append_nil]
        exact ⟨[m], .last m, rfl⟩
      · rename_i more _
        by_cases hempty : more = []
        · subst hempty
          cases hread
          exact ⟨[m], .cons m .nil, rfl⟩
        · rw [if_neg (by simpa using hempty)] at hread
          have hlen : more.length ≤ n := by
            simp only [List.length_append, List.length_cons] at hn
            omega
          obtain ⟨ms, hms, rfl⟩ := ih hempty hlen hread
          exact ⟨m :: ms, .cons m hms, rfl⟩
      · cases hread

/-- Arguments are read if their tokens spell items, and each of the items counts, in their order. -/
theorem readArguments_eq_ok_iff (h : SpelledBy item spell act) {known known' : σ}
    {arguments : String} :
    readArguments item known arguments = .ok known' ↔
      ∃ tokens ms, Token.ofText? arguments = some tokens ∧ Spelled spell ms tokens ∧
        known' = ms.foldl act known := by
  cases htokens : Token.ofText? arguments with
  | none => simp [readArguments, htokens]
  | some tokens =>
      by_cases hne : tokens = []
      · subst hne
        simp only [readArguments, htokens]
        constructor
        · rintro ⟨⟩
          exact ⟨[], [], rfl, .nil, rfl⟩
        · rintro ⟨tokens, ms, ⟨⟩, hms, rfl⟩
          rw [h.eq_nil hms]
          rfl
      · have hread : readArguments item known arguments =
            readItems item tokens.length known tokens := by
          rw [readArguments, htokens]
          cases tokens with
          | nil => exact absurd rfl hne
          | cons t ts => rfl
        rw [hread]
        constructor
        · intro hok
          obtain ⟨ms, hms, hknown⟩ := h.spelled_of_readItems hne (Nat.le_refl _) hok
          exact ⟨tokens, ms, rfl, hms, hknown⟩
        · rintro ⟨tokens, ms, ⟨⟩, hms, rfl⟩
          exact h.readItems_of_spelled hms hne (Nat.le_refl _) known

theorem errorOf_readItems (h : SpelledBy item spell act) (n : Nat) (known known' : σ)
    (tokens : List Token) :
    errorOf (readItems item n known tokens) = errorOf (readItems item n known' tokens) := by
  induction n generalizing known known' tokens with
  | zero => rfl
  | succ n ih =>
      rw [readItems, readItems]
      cases readPath tokens with
      | error e => rfl
      | ok read =>
          obtain ⟨path, tail⟩ := read
          have hsteady := h.steady path known known' tail
          simp only [bind, Except.bind]
          cases hitem : item path known tail <;> cases hitem' : item path known' tail <;>
            simp only [hitem, hitem', Except.map, reduceCtorEq, Except.error.injEq,
              Except.ok.injEq] at hsteady
          case error.error => rw [hsteady]
          case ok.ok next next' =>
            obtain ⟨state, rest⟩ := next
            obtain ⟨state', rest'⟩ := next'
            obtain rfl : rest = rest' := hsteady
            dsimp only
            split
            · rfl
            · rename_i more
              cases hempty : more.isEmpty with
              | true => rfl
              | false => exact ih state state' more
            · rfl

/-- What goes wrong with arguments does not depend on what was known before. -/
theorem errorOf_readArguments (h : SpelledBy item spell act) (known known' : σ)
    (arguments : String) :
    errorOf (readArguments item known arguments) =
      errorOf (readArguments item known' arguments) := by
  rw [readArguments, readArguments]
  split
  · rfl
  · rfl
  · exact h.errorOf_readItems _ known known' _

end SpelledBy

end TypedSql
