import TypedSql.Sql.Expression

/-!
Operands and the operators between them, as a flat sequence. Which operands an operator takes is
settled from left to right: it takes what comes before it up to an operator that binds looser, and
after it what binds tighter. Where the sequence goes on after an operand matters only if the operand
leaves something open at its end, which a `NOT` does for all that binds tighter than `NOT`, and a
last operator for all that binds tighter than it.
-/

namespace TypedSql

namespace Sql

/-- An operand: an expression that is read by itself, or the one after a `NOT`. -/
structure Primary where
  negated : Bool
  value : Expr

/-- What follows an operand: an operator with its other operand, or a predicate about it. -/
inductive Link where
  | operator (rank : Nat) (apply : Expr → Expr → Expr) (right : Primary)
  | predicate (rank : Nat) (apply : Expr → Expr)

/-- How tightly it binds. -/
def Link.rank : Link → Nat
  | .operator rank _ _ => rank
  | .predicate rank _ => rank

/-! ## Reading a sequence -/

mutual

/-- `climb` with what it leaves of the links. -/
def climbSuffix (level : Nat) (x : Expr) : (ls : List Link) → {r : Expr × List Link // r.2 <:+ ls}
  | [] => ⟨(x, []), List.suffix_refl _⟩
  | .predicate rank f :: ls =>
      if rank < level then ⟨(x, .predicate rank f :: ls), List.suffix_refl _⟩
      else
        let r := climbSuffix level (f x) ls
        ⟨r.1, r.2.trans (List.suffix_cons _ _)⟩
  | .operator rank f p :: ls =>
      if rank < level then ⟨(x, .operator rank f p :: ls), List.suffix_refl _⟩
      else
        match p.climbSuffix (rank + 1) ls with
        | ⟨(y, rest), h⟩ =>
            let r := climbSuffix level (f x y) rest
            ⟨r.1, (r.2.trans h).trans (List.suffix_cons _ _)⟩
termination_by ls => (ls.length, 0)
decreasing_by
  · decreasing_tactic
  · decreasing_tactic
  · exact Prod.Lex.left _ _ (Nat.lt_succ_of_le h.length_le)

def Primary.climbSuffix (p : Primary) (level : Nat) (ls : List Link) :
    {r : Expr × List Link // r.2 <:+ ls} :=
  if p.negated then
    match Sql.climbSuffix Level.not.rank p.value ls with
    | ⟨(y, rest), h⟩ =>
        let r := Sql.climbSuffix level (.unary .not y) rest
        ⟨r.1, r.2.trans h⟩
  else Sql.climbSuffix level p.value ls
termination_by (ls.length, 1)
decreasing_by
  · exact Prod.Lex.right _ Nat.zero_lt_one
  · rcases Nat.lt_or_eq_of_le h.length_le with hlt | heq
    · exact Prod.Lex.left _ _ hlt
    · rw [heq]
      exact Prod.Lex.right _ Nat.zero_lt_one
  · exact Prod.Lex.right _ Nat.zero_lt_one

end

/-- An operand with those of the links after it that bind no looser than a level, and the links that
are left. -/
def climb (level : Nat) (x : Expr) (ls : List Link) : Expr × List Link :=
  (climbSuffix level x ls).1

/-- The same from the first operand on. A `NOT` takes what binds tighter than itself. -/
def Primary.climb (p : Primary) (level : Nat) (ls : List Link) : Expr × List Link :=
  (p.climbSuffix level ls).1

/-- What a whole sequence is read as. -/
def Primary.reading (p : Primary) (ls : List Link) : Expr := (p.climb 0 ls).1

section
variable {level rank : Nat} {x v : Expr} {l : Link} {ls : List Link}

@[simp] theorem climb_nil : climb level x [] = (x, []) := by
  rw [climb, climbSuffix]

theorem climb_loose (h : l.rank < level) : climb level x (l :: ls) = (x, l :: ls) := by
  cases l with
  | operator rank f p => rw [climb, climbSuffix, if_pos (show rank < level from h)]
  | predicate rank f => rw [climb, climbSuffix, if_pos (show rank < level from h)]

theorem climb_predicate {f : Expr → Expr} (h : level ≤ rank) :
    climb level x (.predicate rank f :: ls) = climb level (f x) ls := by
  rw [climb, climbSuffix, if_neg (Nat.not_lt.mpr h)]
  rfl

theorem climb_operator {f : Expr → Expr → Expr} {p : Primary} (h : level ≤ rank) :
    climb level x (.operator rank f p :: ls) =
      climb level (f x (p.climb (rank + 1) ls).1) (p.climb (rank + 1) ls).2 := by
  rw [climb, climbSuffix, if_neg (Nat.not_lt.mpr h)]
  rfl

theorem Primary.climb_plain :
    (⟨false, v⟩ : Primary).climb level ls = Sql.climb level v ls := by
  rw [Primary.climb, Primary.climbSuffix]
  rfl

theorem Primary.climb_not :
    (⟨true, v⟩ : Primary).climb level ls =
      Sql.climb level (.unary .not (Sql.climb Level.not.rank v ls).1)
        (Sql.climb Level.not.rank v ls).2 := by
  rw [Primary.climb, Primary.climbSuffix]
  rfl

end

@[simp] theorem Primary.reading_plain (v : Expr) : (⟨false, v⟩ : Primary).reading [] = v := by
  rw [reading, climb_plain, climb_nil]

@[simp] theorem Primary.reading_not (v : Expr) :
    (⟨true, v⟩ : Primary).reading [] = .unary .not v := by
  rw [reading, climb_not, climb_nil, climb_nil]

/-- The same as steps: what is left after an operand is climbed goes on with the outer operator. -/
inductive Climbs : Nat → Expr → List Link → Expr → List Link → Prop
  | nil {level x} : Climbs level x [] x []
  | loose {level x l ls} : l.rank < level → Climbs level x (l :: ls) x (l :: ls)
  | predicate {level rank f x ls y rest} : level ≤ rank → Climbs level (f x) ls y rest →
      Climbs level x (.predicate rank f :: ls) y rest
  | operator {level rank f x v ls y m z rest} : level ≤ rank → Climbs (rank + 1) v ls y m →
      Climbs level (f x y) m z rest → Climbs level x (.operator rank f ⟨false, v⟩ :: ls) z rest
  | not {level rank f x v ls w k y m z rest} : level ≤ rank → Climbs Level.not.rank v ls w k →
      Climbs (rank + 1) (.unary .not w) k y m → Climbs level (f x y) m z rest →
      Climbs level x (.operator rank f ⟨true, v⟩ :: ls) z rest

namespace Climbs

variable {level : Nat} {x y : Expr} {l : Link} {ls ms rest : List Link}

theorem suffix (h : Climbs level x ls y rest) : rest <:+ ls := by
  induction h with
  | nil => exact List.suffix_refl _
  | loose _ => exact List.suffix_refl _
  | predicate _ _ ih => exact ih.trans (List.suffix_cons _ _)
  | operator _ _ _ ih1 ih2 => exact (ih2.trans ih1).trans (List.suffix_cons _ _)
  | not _ _ _ _ ih1 ih2 ih3 => exact ((ih3.trans ih2).trans ih1).trans (List.suffix_cons _ _)

theorem eq (h : Climbs level x ls y rest) : climb level x ls = (y, rest) := by
  induction h with
  | nil => exact climb_nil
  | loose hl => exact climb_loose hl
  | predicate hl _ ih => rw [climb_predicate hl, ih]
  | operator hl _ _ ih1 ih2 => rw [climb_operator hl, Primary.climb_plain, ih1, ih2]
  | not hl _ _ _ ih1 ih2 ih3 =>
      rw [climb_operator hl, Primary.climb_not, ih1, ih2, ih3]

end Climbs

theorem climbs (level : Nat) (x : Expr) (ls : List Link) :
    Climbs level x ls (climb level x ls).1 (climb level x ls).2 := by
  induction hn : ls.length using Nat.strongRecOn generalizing level x ls with
  | _ n ih =>
      have shorter (level x ms) (h : ms.length < ls.length) :
          Climbs level x ms (climb level x ms).1 (climb level x ms).2 := ih _ (hn ▸ h) _ _ _ rfl
      cases ls with
      | nil =>
          rw [climb_nil]
          exact .nil
      | cons l ls =>
          by_cases hl : l.rank < level
          · rw [climb_loose hl]
            exact .loose hl
          · cases l with
            | predicate rank f =>
                have hlevel : level ≤ rank := Nat.not_lt.mp hl
                rw [climb_predicate hlevel]
                exact .predicate hlevel (shorter _ _ _ (Nat.lt_succ_self _))
            | operator rank f p =>
                have hlevel : level ≤ rank := Nat.not_lt.mp hl
                obtain ⟨negated, v⟩ := p
                rw [climb_operator hlevel]
                cases negated with
                | false =>
                    rw [Primary.climb_plain]
                    have hv := shorter (rank + 1) v ls (Nat.lt_succ_self _)
                    have hleft := hv.suffix.length_le
                    exact .operator hlevel hv (shorter _ _ _ (Nat.lt_succ_of_le hleft))
                | true =>
                    rw [Primary.climb_not]
                    have hv := shorter Level.not.rank v ls (Nat.lt_succ_self _)
                    have hleft := hv.suffix.length_le
                    have hw := shorter (rank + 1) (.unary .not (climb Level.not.rank v ls).1) _
                      (Nat.lt_succ_of_le hleft)
                    have hleft' := Nat.le_trans hw.suffix.length_le hleft
                    exact .not hlevel hv hw (shorter _ _ _ (Nat.lt_succ_of_le hleft'))

/-- The loosest level at which the link's own operand takes what comes after it. -/
def Link.opens : Link → Nat
  | .operator rank _ p => if p.negated then min Level.not.rank (rank + 1) else rank + 1
  | .predicate rank _ => rank + 1

namespace Climbs

variable {level : Nat} {x y z : Expr} {l : Link} {ls ms rest u : List Link}

/-- Links that all bind tightly enough are all taken. -/
theorem eq_nil (h : Climbs level x ls y rest) (hls : ∀ l ∈ ls, level ≤ l.rank) : rest = [] := by
  induction h with
  | nil => rfl
  | loose hl => exact absurd (hls _ List.mem_cons_self) (Nat.not_le.mpr hl)
  | predicate _ _ ih => exact ih fun l hl => hls l (List.mem_cons_of_mem _ hl)
  | operator _ h1 _ _ ih2 =>
      exact ih2 fun l hl => hls l (List.mem_cons_of_mem _ (h1.suffix.subset hl))
  | not _ h1 h2 _ _ _ ih3 =>
      exact ih3 fun l hl =>
        hls l (List.mem_cons_of_mem _ (h1.suffix.subset (h2.suffix.subset hl)))

/-- For links that are all taken the level does not matter. -/
theorem at_level {other : Nat} (h : Climbs level x ls y rest)
    (hls : ∀ l ∈ ls, level ≤ l.rank ∧ other ≤ l.rank) : Climbs other x ls y rest := by
  induction h with
  | nil => exact .nil
  | loose hl => exact absurd (hls _ List.mem_cons_self).1 (Nat.not_le.mpr hl)
  | predicate _ _ ih =>
      exact .predicate (hls _ List.mem_cons_self).2
        (ih fun l hl => hls l (List.mem_cons_of_mem _ hl))
  | operator _ h1 _ _ ih2 =>
      exact .operator (hls _ List.mem_cons_self).2 h1
        (ih2 fun l hl => hls l (List.mem_cons_of_mem _ (h1.suffix.subset hl)))
  | not _ h1 h2 _ _ _ ih3 =>
      exact .not (hls _ List.mem_cons_self).2 h1 h2
        (ih3 fun l hl =>
          hls l (List.mem_cons_of_mem _ (h1.suffix.subset (h2.suffix.subset hl))))

/-- A property of what is read that every operator gives to its result is had in the end. -/
theorem preserves (P : Expr → Prop) (h : Climbs level x ls y rest)
    (hoperator : ∀ rank f p, .operator rank f p ∈ ls → ∀ x y, P x → P (f x y))
    (hpredicate : ∀ rank f, .predicate rank f ∈ ls → ∀ x, P x → P (f x)) (hx : P x) : P y := by
  induction h with
  | nil => exact hx
  | loose _ => exact hx
  | predicate _ _ ih =>
      exact ih (fun r f p hm => hoperator r f p (List.mem_cons_of_mem _ hm))
        (fun r f hm => hpredicate r f (List.mem_cons_of_mem _ hm))
        (hpredicate _ _ List.mem_cons_self _ hx)
  | operator _ h1 _ _ ih2 =>
      have hleft := h1.suffix.subset
      exact ih2 (fun r f p hm => hoperator r f p (List.mem_cons_of_mem _ (hleft hm)))
        (fun r f hm => hpredicate r f (List.mem_cons_of_mem _ (hleft hm)))
        (hoperator _ _ _ List.mem_cons_self _ _ hx)
  | not _ h1 h2 _ _ _ ih3 =>
      have hleft := (h2.suffix.trans h1.suffix).subset
      exact ih3 (fun r f p hm => hoperator r f p (List.mem_cons_of_mem _ (hleft hm)))
        (fun r f hm => hpredicate r f (List.mem_cons_of_mem _ (hleft hm)))
        (hoperator _ _ _ List.mem_cons_self _ _ hx)

/-- A link that binds looser than all that the links before it leave open comes after what they are
read as. -/
theorem append (h : Climbs level x ls y rest) (hl : ∀ m ∈ ls, l.rank < m.opens)
    (hall : rest = [] → Climbs level y (l :: ms) z u)
    (hsome : rest ≠ [] → z = y ∧ u = rest ++ l :: ms) :
    Climbs level x (ls ++ l :: ms) z u := by
  induction h generalizing z u with
  | nil => exact hall rfl
  | loose hloose =>
      obtain ⟨rfl, rfl⟩ := hsome (List.cons_ne_nil _ _)
      exact .loose hloose
  | predicate hlevel _ ih =>
      exact .predicate hlevel (ih (fun m hm => hl m (List.mem_cons_of_mem _ hm)) hall hsome)
  | operator hlevel h1 _ ih1 ih2 =>
      -- the operator's operand stops at the link, so what goes on with it is further out
      have hopens := hl _ List.mem_cons_self
      have hrest := fun m hm => hl m (List.mem_cons_of_mem _ hm)
      have hoperand := ih1 hrest (fun h => by rw [h]; exact .loose hopens) fun _ => ⟨rfl, rfl⟩
      exact .operator hlevel hoperand
        (ih2 (fun m hm => hrest m (h1.suffix.subset hm)) hall hsome)
  | not hlevel h1 h2 _ ih1 ih2 ih3 =>
      obtain ⟨hnot, hopens⟩ := Nat.lt_min.mp (hl _ List.mem_cons_self)
      have hrest := fun m hm => hl m (List.mem_cons_of_mem _ hm)
      have hleft := fun m hm => hrest m (h1.suffix.subset hm)
      have hnegated := ih1 hrest (fun h => by rw [h]; exact .loose hnot) fun _ => ⟨rfl, rfl⟩
      have hoperand := ih2 hleft (fun h => by rw [h]; exact .loose hopens) fun _ => ⟨rfl, rfl⟩
      exact .not hlevel hnegated hoperand
        (ih3 (fun m hm => hleft m (h2.suffix.subset hm)) hall hsome)

end Climbs

theorem Primary.climb_suffix (p : Primary) (level : Nat) (ls : List Link) :
    (p.climb level ls).2 <:+ ls := (p.climbSuffix level ls).2

/-- A link that binds tightly enough is taken. -/
theorem climb_suffix_of_le {level : Nat} {l : Link} (h : level ≤ l.rank) (x : Expr)
    (ls : List Link) : (climb level x (l :: ls)).2 <:+ ls := by
  cases l with
  | operator rank f p =>
      have hrank : level ≤ rank := h
      rw [climb_operator hrank]
      exact (climbs _ _ _).suffix.trans (p.climb_suffix _ _)
  | predicate rank f =>
      have hrank : level ≤ rank := h
      rw [climb_predicate hrank]
      exact (climbs _ _ _).suffix

/-! ## Operands with `IS` between them -/

/-- `IS` or `IS NOT`, as a link. -/
def Link.same (negated : Bool) (right : Primary) : Link :=
  .operator Level.equality.rank (.same negated) right

/-- The word `IS`, or `IS NOT`, before an operand. A `NOT` right after `IS` is taken for a part of
it. -/
def Link.is (negated : Bool) (right : Primary) : Link :=
  if !negated && right.negated then .same true ⟨false, right.value⟩ else .same negated right

/-- Whether the link's own operand comes after a `NOT`. -/
def Link.negated : Link → Bool
  | .operator _ _ p => p.negated
  | .predicate _ _ => false

/-- The operators of an expression without parentheses around it: all of them are `IS` or `IS NOT`,
and there is at most one `NOT`. -/
structure Bare (p : Primary) (ls : List Link) : Prop where
  same : ∀ l ∈ ls, ∃ n q, l = .same n q
  once : p.negated = true → ∀ l ∈ ls, l.negated = false

/-- The level from which what comes after such an expression is taken by its last operand, which is
tighter than all operators if it has none itself. -/
def tail (p : Primary) (ls : List Link) : Nat :=
  if p.negated || ls.any Link.negated then Level.not.rank
  else if ls.isEmpty then Level.sign.rank + 1
  else Level.equality.rank + 1

section
variable {p q : Primary} {l : Link} {ls ms : List Link}

theorem tail_of_no_not (hp : p.negated = false) (h : ∀ m ∈ ls, m.negated = false) :
    tail p ls = if ls.isEmpty then Level.sign.rank + 1 else Level.equality.rank + 1 := by
  have hany : ls.any Link.negated = false := by simpa using h
  simp [tail, hp, hany]

theorem equality_lt_tail (hp : p.negated = false) (h : ∀ m ∈ ls, m.negated = false) :
    Level.equality.rank < tail p ls := by
  rw [tail_of_no_not hp h]
  cases ls.isEmpty <;> decide

theorem not_le_tail : Level.not.rank ≤ tail p ls := by
  unfold tail
  split
  · exact Nat.le_refl _
  · split <;> decide

theorem rank_same (h : ∀ m ∈ ms, ∃ n q, m = Link.same n q) :
    ∀ m ∈ ms, m.rank = Level.equality.rank := by
  intro m hm
  obtain ⟨n, q, rfl⟩ := h m hm
  rfl

/-- The expression is an `IS` with this on its left, or with another `IS`. -/
def FromLeft (x e : Expr) : Prop :=
  ∃ n y z, e = .same n y z ∧ (y = x ∨ ∃ n' y' z', y = .same n' y' z')

/-- What is read of operands with `IS` between them goes on from the first one. -/
theorem fromLeft_climb (h : ∀ m ∈ ms, ∃ n q, m = Link.same n q) (hms : ms ≠ []) (x : Expr) :
    FromLeft x (climb 0 x ms).1 := by
  cases ms with
  | nil => exact absurd rfl hms
  | cons m ms =>
      obtain ⟨n, q, rfl⟩ := h m List.mem_cons_self
      rw [Link.same, climb_operator (Nat.zero_le _)]
      have hleft := (q.climb_suffix (Level.equality.rank + 1) ms).subset
      refine Climbs.preserves (FromLeft x) (climbs 0 _ _) ?_ ?_ ⟨n, x, _, rfl, .inl rfl⟩
      · intro rank f p hp y z hy
        obtain ⟨n', q', hlink⟩ := h _ (List.mem_cons_of_mem _ (hleft hp))
        cases hlink
        obtain ⟨k, y', z', rfl, -⟩ := hy
        exact ⟨n', _, z, rfl, .inr ⟨k, y', z', rfl⟩⟩
      · intro rank f hp
        obtain ⟨n', q', hlink⟩ := h _ (List.mem_cons_of_mem _ (hleft hp))
        cases hlink

theorem tail_le_opens {m : Link} (h : ∀ m ∈ ls, ∃ n q, m = Link.same n q) (hm : m ∈ ls) :
    tail p ls ≤ m.opens := by
  obtain ⟨n, q, rfl⟩ := h m hm
  have hne : ls.isEmpty = false := by
    cases ls with
    | nil => cases hm
    | cons => rfl
  have hopens : (Link.same n q).opens =
      if q.negated then Level.not.rank else Level.equality.rank + 1 := by
    cases hq : q.negated with
    | false => simp [Link.same, Link.opens, hq]
    | true =>
        simp only [Link.same, Link.opens, hq, if_true]
        decide
  rw [hopens, tail, hne]
  cases hq : q.negated with
  | true =>
      have hany : ls.any Link.negated = true := List.any_eq_true.mpr ⟨_, hm, hq⟩
      simp [hany]
  | false =>
      cases p.negated || ls.any Link.negated <;> decide

/-- An operator that binds looser than the tail of what comes before it takes all of that. -/
theorem Bare.reading_append (h : Bare p ls) (hl : l.rank < tail p ls) :
    p.reading (ls ++ l :: ms) = (climb 0 (p.reading ls) (l :: ms)).1 := by
  have hopens : ∀ m ∈ ls, l.rank < m.opens := fun m hm =>
    Nat.lt_of_lt_of_le hl (tail_le_opens h.same hm)
  obtain ⟨negated, v⟩ := p
  cases negated with
  | false =>
      have hrest := (climbs 0 v ls).eq_nil fun _ _ => Nat.zero_le _
      have happend := (climbs 0 v ls).append hopens (fun _ => climbs 0 _ (l :: ms))
        fun hne => absurd hrest hne
      rw [Primary.reading, Primary.climb_plain, happend.eq, Primary.reading, Primary.climb_plain]
  | true =>
      -- the `NOT` is done before the operator
      have hnot : l.rank < Level.not.rank := hl
      have hrest := (climbs Level.not.rank v ls).eq_nil fun m hm => by
        rw [rank_same h.same m hm]
        decide
      have hstops : Climbs Level.not.rank (climb Level.not.rank v ls).1 (l :: ms) _ (l :: ms) :=
        .loose hnot
      have happend := (climbs Level.not.rank v ls).append hopens (fun _ => hstops)
        fun hne => absurd hrest hne
      rw [Primary.reading, Primary.climb_not, happend.eq, Primary.reading, Primary.climb_not, hrest,
        climb_nil]

/-- After an operand that comes after a `NOT`, what binds tighter than `NOT` is all read with it. -/
theorem climb_not_all {v : Expr} (h : ∀ m ∈ ls, Level.not.rank ≤ m.rank) (level : Nat) :
    ∃ w, (⟨true, v⟩ : Primary).climb level ls = (.unary .not w, []) := by
  have hrest := (climbs Level.not.rank v ls).eq_nil h
  rw [Primary.climb_not, hrest, climb_nil]
  exact ⟨_, rfl⟩

section
variable (hms : ∀ m ∈ ms, ∃ n q, m = Link.same n q)
include hms

theorem not_le_rank (hl : Level.not.rank ≤ l.rank) {ks : List Link}
    (hks : ∀ k ∈ ks, ∃ n q, k = Link.same n q) :
    ∀ m ∈ ks ++ l :: ms, Level.not.rank ≤ m.rank := by
  intro m hm
  rcases List.mem_append.mp hm with hk | hm
  · rw [rank_same hks m hk]
    decide
  · rcases List.mem_cons.mp hm with rfl | hm
    · exact hl
    · rw [rank_same hms m hm]
      decide

/-- From the first `NOT` on, what binds tighter than `NOT` is read with its operand. -/
theorem Bare.reading_find_not {v : Expr} {m : Link} (h : Bare ⟨false, v⟩ ls)
    (hl : Level.not.rank ≤ l.rank) (hfind : ls.find? Link.negated = some m) :
    ∃ n y w, (⟨false, v⟩ : Primary).reading (ls ++ l :: ms) = .same n y (.unary .not w) := by
  obtain ⟨hm, before, later, rfl, hbefore⟩ := List.find?_eq_some_iff_append.mp hfind
  obtain ⟨n, ⟨_, u⟩, rfl⟩ := h.same m (by simp)
  cases hm
  have hbare : Bare ⟨false, v⟩ before := ⟨fun k hk => h.same k (by simp [hk]), nofun⟩
  have htail : (Link.same n ⟨true, u⟩).rank < tail ⟨false, v⟩ before :=
    equality_lt_tail rfl (by simpa using hbefore)
  have hlater : ∀ k ∈ later, ∃ n q, k = Link.same n q := fun k hk => h.same k (by simp [hk])
  obtain ⟨w, hw⟩ := climb_not_all (v := u) (not_le_rank hms hl hlater) (Level.equality.rank + 1)
  rw [List.append_assoc, List.cons_append, hbare.reading_append htail, Link.same,
    climb_operator (Nat.zero_le _), hw, climb_nil]
  exact ⟨n, _, w, rfl⟩

/-- What binds tighter than `IS` is read with the operand on the right of the last `IS`. -/
theorem Bare.reading_last {v : Expr} {m : Link} (h : Bare ⟨false, v⟩ (ls ++ [m]))
    (hno : ∀ k ∈ ls ++ [m], k.negated = false) (hrank : Level.equality.rank < l.rank) :
    ∃ n y z, (⟨false, v⟩ : Primary).reading (ls ++ [m] ++ l :: ms) = .same n y z := by
  obtain ⟨n, ⟨negated, u⟩, rfl⟩ := h.same m (by simp)
  obtain rfl : negated = false := hno (.same n ⟨negated, u⟩) (by simp)
  have hbare : Bare ⟨false, v⟩ ls := ⟨fun k hk => h.same k (by simp [hk]), nofun⟩
  have htail : (Link.same n ⟨false, u⟩).rank < tail ⟨false, v⟩ ls :=
    equality_lt_tail rfl fun k hk => hno k (by simp [hk])
  have hleft := (climb_suffix_of_le hrank u ms).subset
  rw [List.append_assoc, List.singleton_append, hbare.reading_append htail, Link.same,
    climb_operator (Nat.zero_le _), Primary.climb_plain]
  refine Climbs.preserves (fun e => ∃ n y z, e = .same n y z) (climbs 0 _ _) ?_ ?_ ⟨_, _, _, rfl⟩
  · intro rank f p hp y z _
    obtain ⟨n', q', hlink⟩ := hms _ (hleft hp)
    cases hlink
    exact ⟨n', y, z, rfl⟩
  · intro rank f hp
    obtain ⟨n', q', hlink⟩ := hms _ (hleft hp)
    cases hlink

end

/-- What is read where the last operand took an operator of a rank: the operator is inside a `NOT`,
or on the right of an `IS`. -/
def Within (rank : Nat) (e : Expr) : Prop :=
  (∃ w, e = .unary .not w) ∨
    ∃ n y z, e = .same n y z ∧ ((∃ w, z = .unary .not w) ∨ Level.equality.rank < rank)

/-- An operator that binds tighter than the tail of what comes before it is taken by the last
operand of that. -/
theorem Bare.reading_within (h : Bare p ls) (hl : tail p ls ≤ l.rank)
    (hle : l.rank ≤ Level.sign.rank) (hms : ∀ m ∈ ms, ∃ n q, m = Link.same n q) :
    Within l.rank (p.reading (ls ++ l :: ms)) := by
  have htight := Nat.le_trans not_le_tail hl
  obtain ⟨negated, v⟩ := p
  cases negated with
  | true =>
      obtain ⟨w, hw⟩ := climb_not_all (v := v) (not_le_rank hms htight h.same) 0
      exact .inl ⟨w, congrArg Prod.fst hw⟩
  | false =>
      cases hfind : ls.find? Link.negated with
      | some m =>
          obtain ⟨n, y, w, hw⟩ := h.reading_find_not hms htight hfind
          exact .inr ⟨n, y, _, hw, .inl ⟨w, rfl⟩⟩
      | none =>
          have hno : ∀ m ∈ ls, m.negated = false := by simpa using hfind
          rw [tail_of_no_not rfl hno] at hl
          rcases List.eq_nil_or_concat ls with rfl | ⟨before, m, hls⟩
          · exact absurd (Nat.le_trans hl hle) (by decide)
          · rw [List.concat_eq_append] at hls
            subst hls
            have hrank : Level.equality.rank + 1 ≤ l.rank := by simpa using hl
            obtain ⟨n, y, z, hy⟩ := h.reading_last hms hno hrank
            exact .inr ⟨n, y, z, hy, .inr hrank⟩

/-- What an operator has on its right is read by itself if the operator binds looser than `IS`, or
if there is nothing after the first operand, or all of it is after a `NOT`. -/
theorem climb_operator_reading {rank : Nat} {f : Expr → Expr → Expr} (x : Expr)
    (hms : ∀ m ∈ ms, ∃ n q, m = Link.same n q)
    (h : rank < Level.equality.rank ∨ q.negated = true ∨ ms = []) :
    (climb 0 x (.operator rank f q :: ms)).1 = f x (q.reading ms) := by
  have hright : q.climb (rank + 1) ms = (q.reading ms, []) := by
    obtain ⟨negated, v⟩ := q
    have htight : ∀ m ∈ ms, Level.not.rank ≤ m.rank := fun m hm => by
      rw [rank_same hms m hm]
      decide
    cases negated with
    | true =>
        have hrest := (climbs Level.not.rank v ms).eq_nil htight
        rw [Primary.climb_not, Primary.reading, Primary.climb_not, hrest, climb_nil, climb_nil]
    | false =>
        rw [Primary.climb_plain, Primary.reading, Primary.climb_plain]
        rcases h with hrank | hq | rfl
        · have hboth : ∀ m ∈ ms, 0 ≤ m.rank ∧ rank + 1 ≤ m.rank := fun m hm => by
            rw [rank_same hms m hm]
            exact ⟨Nat.zero_le _, hrank⟩
          have hclimbs := (climbs 0 v ms).at_level hboth
          rw [hclimbs.eq, hclimbs.eq_nil fun m hm => (hboth m hm).2]
        · cases hq
        · rw [climb_nil, climb_nil]
  rw [climb_operator (Nat.zero_le _), hright, climb_nil]

/-- Otherwise it has the first operand only. -/
theorem climb_operator_fromLeft {rank : Nat} {f : Expr → Expr → Expr} (x : Expr)
    (hms : ∀ m ∈ ms, ∃ n q, m = Link.same n q)
    (h : ¬(rank < Level.equality.rank ∨ q.negated = true ∨ ms = [])) :
    FromLeft (f x q.value) (climb 0 x (.operator rank f q :: ms)).1 := by
  simp only [not_or, Nat.not_lt] at h
  obtain ⟨hrank, hq, hne⟩ := h
  obtain ⟨negated, v⟩ := q
  cases negated with
  | true => exact absurd rfl hq
  | false =>
      have hright : climb (rank + 1) v ms = (v, ms) := by
        cases ms with
        | nil => exact climb_nil
        | cons m ms =>
            have hm := rank_same hms m List.mem_cons_self
            exact climb_loose (by omega)
      rw [climb_operator (Nat.zero_le _), Primary.climb_plain, hright]
      exact fromLeft_climb hms hne _

end

end Sql

end TypedSql
