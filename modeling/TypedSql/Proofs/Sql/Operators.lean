import TypedSql.Proofs.Sql.Climb

/-!
The reader climbs. Where operands and the operators between them stand in the text, it reads what
climbing makes of them, and it stops where nothing more of that level follows. How deep it may go is
bounded by the tokens that are left: an operand is read within four times as many.
-/

namespace TypedSql

namespace Sql

namespace Parse

theorem bind_ok {α β : Type} {x : Parse α} {f : α → Parse β} {r s : Reader} {a : α}
    (h : x r = .ok (a, s)) : (x >>= f) r = f a s := by
  show (x r >>= fun p => f p.1 p.2) = _
  rw [h]
  rfl

theorem peek_cons (t : Token) (ts : List Token) (params : Parameters) :
    peek ⟨t :: ts, params⟩ = .ok (some t, ⟨t :: ts, params⟩) := rfl

theorem skip_cons (t : Token) (ts : List Token) (params : Parameters) :
    skip ⟨t :: ts, params⟩ = .ok ((), ⟨ts, params⟩) := rfl

theorem takeIf_pos {q : Token → Bool} {t : Token} {ts : List Token} {params : Parameters}
    (h : q t = true) : takeIf q ⟨t :: ts, params⟩ = .ok (true, ⟨ts, params⟩) := by
  show (if q t then skip >>= fun _ => pure true else pure false : Parse Bool) _ = _
  rw [if_pos h]
  rfl

theorem takeIf_neg {q : Token → Bool} {r : Reader} (h : ∀ t ∈ r.rest.head?, q t = false) :
    takeIf q r = .ok (false, r) := by
  obtain ⟨_ | ⟨t, ts⟩, params⟩ := r
  · rfl
  · show (if q t then skip >>= fun _ => pure true else pure false : Parse Bool) _ = _
    rw [if_neg (by simp [h t rfl])]
    rfl

end Parse

open Parse

/-! ## What comes next -/

/-- No `ESCAPE` comes next. -/
def NoEscape (r : Reader) : Prop := ∀ t ∈ r.rest.head?, t.isWord "escape" = false

/-- No operator comes next. -/
structure Ends (r : Reader) : Prop where
  noOperator : r.rest.head?.bind Token.infix? = none
  noEscape : NoEscape r

/-- An operator of a rank comes next. -/
structure Comes (r : Reader) (rank : Nat) : Prop where
  operator : ∃ op, r.rest.head?.bind Token.infix? = some op ∧ op.level.rank = rank
  noEscape : NoEscape r

/-- Whether an argument may begin with the token. -/
def Token.isOpening (t : Token) : Bool :=
  !t.isWord "distinct" && !t.isSymbol "*" && !t.isSymbol ")"

/-- An expression that is read by itself, whatever comes after it. -/
structure Tight (r : Reader) (x : Expr) (s : Reader) : Prop where
  shorter : s.rest.length < r.rest.length
  noNot : ∀ t ∈ r.rest.head?, t.isWord "not" = false
  opening : ∀ t ∈ r.rest.head?, t.isOpening = true
  reads : ∀ fuel, 4 * r.rest.length ≤ fuel + 1 → prefixed fuel r = .ok (x, s)

/-- An operand comes next, with or without a `NOT`. -/
inductive Begins : Reader → Primary → Reader → Prop
  | plain {r x s} : Tight r x s → Begins r ⟨false, x⟩ s
  | not {t ts params x s} : t.isWord "not" = true → Tight ⟨ts, params⟩ x s →
      Begins ⟨t :: ts, params⟩ ⟨true, x⟩ s

/-- A link comes next. -/
inductive Follows : Reader → Link → Reader → Prop
  | operator {r m s rank f p} (comes : Comes r rank) (shorter : m.rest.length < r.rest.length)
      (takes : ∀ fuel level x y t, level ≤ rank → operand fuel (rank + 1) m = .ok (y, t) →
        NoEscape t → operators (fuel + 1) level x r = operators fuel level (f x y) t)
      (begins : Begins m p s) : Follows r (.operator rank f p) s
  | predicate {r s rank f} (comes : Comes r rank) (shorter : s.rest.length < r.rest.length)
      (takes : ∀ fuel level x, level ≤ rank → 4 * r.rest.length ≤ fuel + 1 →
        operators (fuel + 1) level x r = operators fuel level (f x) s) :
      Follows r (.predicate rank f) s

/-- Links come one after another. -/
inductive Path : Reader → List Link → Reader → Prop
  | nil {r} : Path r [] r
  | cons {r l m ls s} : Follows r l m → Path m ls s → Path r (l :: ls) s

section
variable {r m s : Reader} {p : Primary} {l : Link} {ls ms : List Link}

theorem Begins.shorter (h : Begins r p s) : s.rest.length < r.rest.length := by
  cases h with
  | plain h => exact h.shorter
  | not _ h => exact Nat.lt_succ_of_lt h.shorter

theorem Follows.shorter (h : Follows r l s) : s.rest.length < r.rest.length := by
  cases h with
  | operator _ hlt _ hbegins => exact Nat.lt_trans hbegins.shorter hlt
  | predicate _ hlt _ => exact hlt

theorem Follows.comes (h : Follows r l s) : Comes r l.rank := by
  cases h with
  | operator hcomes _ _ _ => exact hcomes
  | predicate hcomes _ _ => exact hcomes

theorem Path.append (h : Path r ls m) (h' : Path m ms s) : Path r (ls ++ ms) s := by
  induction h with
  | nil => exact h'
  | cons hl _ ih => exact .cons hl (ih h')

theorem Path.noEscape (h : Path r ls s) (hs : Ends s) : NoEscape r := by
  cases h with
  | nil => exact hs.noEscape
  | cons hl _ => exact hl.comes.noEscape

end

/-! ## Climbing -/

section
variable {r m s : Reader} {x y : Expr} {ls rest : List Link}

theorem operators_ends (h : r.rest.head?.bind Token.infix? = none) (fuel level : Nat) (x : Expr) :
    operators fuel level x r = .ok (x, r) := by
  cases fuel with
  | zero => rw [operators]; rfl
  | succ fuel =>
      have hpeek : peek r = .ok (r.rest.head?, r) := rfl
      rw [operators, bind_ok hpeek, h]
      rfl

theorem operators_loose {op : Infix} (hop : r.rest.head?.bind Token.infix? = some op) {level : Nat}
    (hlevel : op.level.rank < level) (fuel : Nat) (x : Expr) :
    operators fuel level x r = .ok (x, r) := by
  cases fuel with
  | zero => rw [operators]; rfl
  | succ fuel =>
      have hpeek : peek r = .ok (r.rest.head?, r) := rfl
      rw [operators, bind_ok hpeek, hop]
      show (if op.level.rank < level then pure x else _ : Parse Expr) r = _
      rw [if_pos hlevel]
      rfl

/-- An operand is what comes first and the operators after it. -/
theorem operand_tight (h : Tight r x m) {fuel : Nat} (hfuel : 4 * r.rest.length ≤ fuel + 1)
    (level : Nat) : operand (fuel + 1) level r = operators fuel level x m := by
  rw [operand, bind_ok (h.reads fuel hfuel)]

/-- After a `NOT`, an operand goes on after what the `NOT` takes. -/
theorem operand_not {t : Token} {ts : List Token} {params : Parameters} {w : Expr}
    (ht : t.isWord "not" = true) {fuel : Nat}
    (hw : operand fuel Level.not.rank ⟨ts, params⟩ = .ok (w, m)) (level : Nat) :
    operand (fuel + 2) level ⟨t :: ts, params⟩ = operators (fuel + 1) level (.unary .not w) m := by
  have hprefixed : prefixed (fuel + 1) ⟨t :: ts, params⟩ = .ok (.unary .not w, m) := by
    have htake : takeWord "not" ⟨t :: ts, params⟩ = .ok (true, ⟨ts, params⟩) := takeIf_pos ht
    rw [prefixed, bind_ok htake, if_pos rfl, bind_ok hw]
    rfl
  rw [operand, bind_ok hprefixed]

/-- Where links come next, the reader takes those that climbing takes, and makes the same of
them. -/
theorem operators_climbs {level : Nat} (h : Climbs level x ls y rest) (hpath : Path r ls s)
    (hs : Ends s) :
    ∃ t, Path t rest s ∧ t.rest.length ≤ r.rest.length ∧
      ∀ fuel, 4 * r.rest.length ≤ fuel → operators fuel level x r = .ok (y, t) := by
  induction h generalizing r with
  | nil =>
      cases hpath with
      | nil => exact ⟨_, .nil, Nat.le_refl _, fun fuel _ => operators_ends hs.noOperator fuel _ _⟩
  | loose hloose =>
      cases hpath with
      | cons hl htail =>
          obtain ⟨op, hop, hrank⟩ := hl.comes.operator
          exact ⟨r, .cons hl htail, Nat.le_refl _,
            fun fuel _ => operators_loose hop (hrank ▸ hloose) fuel _⟩
  | predicate hlevel _ ih =>
      cases hpath with
      | cons hl htail =>
          cases hl with
          | predicate _ hshorter htakes =>
              obtain ⟨t, ht, hlen, hread⟩ := ih htail
              refine ⟨t, ht, by omega, fun fuel hfuel => ?_⟩
              obtain ⟨fuel, rfl⟩ : ∃ n, fuel = n + 1 := ⟨fuel - 1, by omega⟩
              rw [htakes fuel _ _ hlevel (by omega), hread fuel (by omega)]
  | operator hlevel _ _ ih1 ih2 =>
      cases hpath with
      | cons hl htail =>
          cases hl with
          | operator _ hshorter htakes hbegins =>
              cases hbegins with
              | plain htight =>
                  -- the fuel for the two steps is that of the operator's token, which is gone by then
                  have hm := htight.shorter
                  obtain ⟨t, ht, hlen, hread⟩ := ih1 htail
                  obtain ⟨u, hu, hlen', hread'⟩ := ih2 ht
                  refine ⟨u, hu, by omega, fun fuel hfuel => ?_⟩
                  obtain ⟨fuel, rfl⟩ : ∃ n, fuel = n + 2 := ⟨fuel - 2, by omega⟩
                  have hoperand := (operand_tight htight (by omega) _).trans
                    (hread fuel (by omega))
                  rw [htakes (fuel + 1) _ _ _ _ hlevel hoperand (ht.noEscape hs),
                    hread' (fuel + 1) (by omega)]
  | not hlevel _ _ _ ih1 ih2 ih3 =>
      cases hpath with
      | cons hl htail =>
          cases hl with
          | operator _ hshorter htakes hbegins =>
              cases hbegins with
              | not hnot htight =>
                  have hm := htight.shorter
                  simp only [List.length_cons] at hshorter hm
                  obtain ⟨t, ht, hlen, hread⟩ := ih1 htail
                  obtain ⟨u, hu, hlen', hread'⟩ := ih2 ht
                  obtain ⟨v, hv, hlen'', hread''⟩ := ih3 hu
                  refine ⟨v, hv, by omega, fun fuel hfuel => ?_⟩
                  obtain ⟨fuel, rfl⟩ : ∃ n, fuel = n + 4 := ⟨fuel - 4, by omega⟩
                  have hinner := (operand_tight htight (by dsimp only; omega) _).trans
                    (hread fuel (by omega))
                  have hoperand := (operand_not hnot hinner _).trans
                    (hread' (fuel + 2) (by omega))
                  rw [htakes (fuel + 3) _ _ _ _ hlevel hoperand (hu.noEscape hs),
                    hread'' (fuel + 3) (by omega)]

/-- A whole sequence of operands is read as climbing reads it. -/
theorem operand_reading {p : Primary} (hp : Begins r p m) (hpath : Path m ls s) (hs : Ends s)
    {fuel : Nat} (hfuel : 4 * r.rest.length ≤ fuel) :
    operand fuel 0 r = .ok (p.reading ls, s) := by
  have hall {x ls r} (hpath : Path r ls s) :
      ∀ fuel, 4 * r.rest.length ≤ fuel → operators fuel 0 x r = .ok ((climb 0 x ls).1, s) := by
    intro fuel hfuel
    obtain ⟨t, ht, -, hread⟩ := operators_climbs (climbs 0 x ls) hpath hs
    rw [(climbs 0 x ls).eq_nil fun _ _ => Nat.zero_le _] at ht
    cases ht
    exact hread fuel hfuel
  cases hp with
  | plain htight =>
      have hm := htight.shorter
      obtain ⟨fuel, rfl⟩ : ∃ n, fuel = n + 1 := ⟨fuel - 1, by omega⟩
      rw [operand_tight htight (by omega), hall hpath fuel (by omega), Primary.reading,
        Primary.climb_plain]
  | not hnot htight =>
      have hm := htight.shorter
      simp only [List.length_cons] at hfuel hm
      obtain ⟨t, ht, hlen, hread⟩ := operators_climbs (climbs Level.not.rank _ ls) hpath hs
      obtain ⟨fuel, rfl⟩ : ∃ n, fuel = n + 3 := ⟨fuel - 3, by omega⟩
      have hinner := (operand_tight htight (by dsimp only; omega) _).trans (hread fuel (by omega))
      rw [operand_not hnot hinner, hall ht (fuel + 2) (by omega), Primary.reading,
        Primary.climb_not]

end

/-! ## Operators in the text -/

section
variable {t : Token} {ts : List Token} {params : Parameters} {p : Primary} {s : Reader}

theorem comes_operator (op : Infix) (ht : t.infix? = some op)
    (hescape : t.isWord "escape" = false) :
    Comes ⟨t :: ts, params⟩ op.level.rank where
  operator := ⟨op, ht, rfl⟩
  noEscape := fun u hu => by
    cases hu
    exact hescape

theorem follows_binary (op : BinaryOperator) (ht : t.infix? = some (.binary op))
    (hescape : t.isWord "escape" = false) (hp : Begins ⟨ts, params⟩ p s) :
    Follows ⟨t :: ts, params⟩ (.operator (operatorLevel op).rank (.binary op) p) s := by
  refine .operator (comes_operator _ ht hescape) (Nat.lt_succ_self _) ?_ hp
  intro fuel level x y u hlevel hy hu
  have hloose : ¬(Infix.binary op).level.rank < level := Nat.not_lt.mpr hlevel
  rw [operators, bind_ok (peek_cons t ts params)]
  simp only [Option.bind_some, ht]
  rw [if_neg hloose, bind_ok (skip_cons t ts params)]
  -- `LIKE` looks for an `ESCAPE` after its operand, and finds none
  by_cases hop : op = .like
  · subst hop
    have hnone : takeWord "escape" u = .ok (false, u) := takeIf_neg hu
    have hright : operand fuel (Level.equality.rank + 1) ⟨ts, params⟩ = .ok (y, u) := hy
    dsimp only
    rw [bind_ok hright, bind_ok hnone, if_neg Bool.false_ne_true]
    rfl
  · cases op with
    | like => exact absurd rfl hop
    | _ =>
      dsimp only
      rw [bind_ok hy]
      rfl

def wordToken (word : String) : Token := ⟨.word, word.toList, [], 0⟩

def symbolToken (symbol : String) : Token := ⟨.symbol, symbol.toList, [], 0⟩

section
variable {negated : Bool} {fuel level : Nat} {x y : Expr} {m u : Reader}

theorem operators_is (hnot : takeWord "not" ⟨ts, params⟩ = .ok (negated, m))
    (hlevel : level ≤ Level.equality.rank)
    (hy : operand fuel (Level.equality.rank + 1) m = .ok (y, u)) :
    operators (fuel + 1) level x ⟨wordToken "IS" :: ts, params⟩ =
      operators fuel level (.same negated x y) u := by
  have his : (wordToken "IS").infix? = some .is := rfl
  have hloose : ¬Infix.is.level.rank < level := Nat.not_lt.mpr hlevel
  rw [operators, bind_ok (peek_cons _ _ _)]
  simp only [Option.bind_some, his]
  rw [if_neg hloose, bind_ok (skip_cons _ _ _), bind_ok hnot]
  cases negated with
  | true =>
      rw [if_pos rfl, bind_ok hy]
      rfl
  | false =>
      rw [if_neg Bool.false_ne_true, bind_ok hy]
      rfl

end

/-- `IS` before an operand. -/
theorem follows_is (hp : Begins ⟨ts, params⟩ p s) :
    Follows ⟨wordToken "IS" :: ts, params⟩ (.is false p) s := by
  have hcomes : Comes ⟨wordToken "IS" :: ts, params⟩ Level.equality.rank :=
    comes_operator .is rfl rfl
  cases hp with
  | plain htight =>
      exact .operator hcomes (Nat.lt_succ_self _)
        (fun fuel level x y u hlevel hy _ =>
          operators_is (takeIf_neg htight.noNot) hlevel hy) (.plain htight)
  | not hnot htight =>
      exact .operator hcomes (Nat.lt_succ_of_lt (Nat.lt_succ_self _))
        (fun fuel level x y u hlevel hy _ => operators_is (takeIf_pos hnot) hlevel hy)
        (.plain htight)

/-- `IS NOT` before an operand. -/
theorem follows_isNot (hp : Begins ⟨ts, params⟩ p s) :
    Follows ⟨wordToken "IS" :: wordToken "NOT" :: ts, params⟩ (.is true p) s :=
  .operator (comes_operator .is rfl rfl) (Nat.lt_succ_of_lt (Nat.lt_succ_self _))
    (fun _ _ _ _ _ hlevel hy _ => operators_is (takeIf_pos rfl) hlevel hy) hp

end

end Sql

end TypedSql
