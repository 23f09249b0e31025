import TypedSql.Proofs.Sql.Climb
import TypedSql.Proofs.Term.Structured
import TypedSql.Term.Render

/-!
What the text of an expression says, by the binding of its operators, beside the expression itself.
All operators but two have parentheses around them. A comparison with `NULL` is written bare, and so
is the `NOT` before its operand; next to an operator that binds tighter these lose an operand to it,
or take one from it. `Term.nests` is the condition under which that happens nowhere in an
expression, and under which, no more and no less, the text says what the expression is.
-/

namespace TypedSql

open Sql (Expr Primary Link Level Bare operatorLevel)

namespace Term

/-- The number of values that an expression binds. -/
def marks (x : Term) : Nat := x.render.cells.length

/-- Parameters one after another, after some that came before. -/
def parameters (k : Nat) : Nat → List Expr
  | 0 => []
  | n + 1 => .parameter (k + 1) :: parameters (k + 1) n

mutual

/-- An expression as the engine represents it, with its parameters numbered in the order of the
text, after `k` that came before. SQL written by hand is left out. -/
def tree (k : Nat) : Term → Expr
  | .column name _ => .name none name true 0
  | .qualified table name _ => .name (some table) name false 0
  | .value _ | .optional .. => .parameter (k + 1)
  | .quoted text => .literal (.ofText text)
  | .countRows => .callStar "count" 0
  | .random => .call "random" false [] 0
  | .binary op l r => .binary op (l.tree k) (r.tree (k + l.marks))
  | .unary op x => .unary op (x.tree k)
  | .compareNull negated x => .same negated (x.tree k) (.parameter (k + x.marks + 1))
  | .nullCompare negated x => .same negated (.parameter (k + 1)) (x.tree (k + 1))
  | .isNull negated x => .same negated (x.tree k) (.literal .null)
  | .between negated x _ _ =>
      .between negated (x.tree k) (.parameter (k + x.marks + 1)) (.parameter (k + x.marks + 2))
  | .inList negated x values => .inList negated (x.tree k) (parameters (k + x.marks) values.length)
  | .likeEscape x _ _ =>
      .likeEscape (x.tree k) (.parameter (k + x.marks + 1)) (.parameter (k + x.marks + 2))
  | .collate x collation => .collate (x.tree k) collation.name
  | .cast x type => .cast (x.tree k) type.declared
  | .call function arguments => .call function.name false (trees k arguments) 0
  | .coalesce _ arguments => .call "coalesce" false (trees k arguments) 0
  | .aggregate function distinct x => .call function.name distinct [x.tree k] 0
  | .userCall name arguments _ => .call name false (trees k arguments) 0
  | .untyped x => x.tree k
  | .verbatim .. | .ordered .. | .infixed .. | .wrapped .. | .joined .. => .literal .null

def trees (k : Nat) : List Term → List Expr
  | [] => []
  | x :: xs => x.tree k :: trees (k + x.marks) xs

end

mutual

/-- The operands that an expression's text leaves without parentheses, with the operators between
them. -/
def spread (k : Nat) : Term → Primary × List Link
  | .binary op l r =>
      (⟨false, (l.spread k).1.reading ((l.spread k).2 ++
        .operator (operatorLevel op).rank (.binary op) (r.spread (k + l.marks)).1 ::
          (r.spread (k + l.marks)).2)⟩, [])
  | .unary .not x => (⟨true, (x.spread k).1.reading (x.spread k).2⟩, [])
  | .unary op x => (⟨false, .unary op ((x.spread k).1.reading (x.spread k).2)⟩, [])
  | .compareNull negated x =>
      ((x.spread k).1, (x.spread k).2 ++ [.same negated ⟨false, .parameter (k + x.marks + 1)⟩])
  | .nullCompare negated x =>
      (⟨false, .parameter (k + 1)⟩, .is negated (x.spread (k + 1)).1 :: (x.spread (k + 1)).2)
  | .isNull negated x =>
      (⟨false, (x.spread k).1.reading
        ((x.spread k).2 ++ [.same negated ⟨false, .literal .null⟩])⟩, [])
  | .between negated x _ _ =>
      (⟨false, (x.spread k).1.reading ((x.spread k).2 ++ [.predicate Level.equality.rank fun y =>
        .between negated y (.parameter (k + x.marks + 1)) (.parameter (k + x.marks + 2))])⟩, [])
  | .inList negated x values =>
      (⟨false, (x.spread k).1.reading ((x.spread k).2 ++ [.predicate Level.equality.rank fun y =>
        .inList negated y (parameters (k + x.marks) values.length)])⟩, [])
  | .likeEscape x _ _ =>
      (⟨false, (x.spread k).1.reading ((x.spread k).2 ++ [.predicate Level.equality.rank fun y =>
        .likeEscape y (.parameter (k + x.marks + 1)) (.parameter (k + x.marks + 2))])⟩, [])
  | .collate x collation =>
      (⟨false, (x.spread k).1.reading ((x.spread k).2 ++ [.predicate Level.collate.rank fun y =>
        .collate y collation.name])⟩, [])
  | .cast x type => (⟨false, .cast ((x.spread k).1.reading (x.spread k).2) type.declared⟩, [])
  | .call function arguments => (⟨false, .call function.name false (readings k arguments) 0⟩, [])
  | .coalesce _ arguments => (⟨false, .call "coalesce" false (readings k arguments) 0⟩, [])
  | .aggregate function distinct x =>
      (⟨false, .call function.name distinct [(x.spread k).1.reading (x.spread k).2] 0⟩, [])
  | .userCall name arguments _ => (⟨false, .call name false (readings k arguments) 0⟩, [])
  | .untyped x => x.spread k
  | x => (⟨false, x.tree k⟩, [])

def readings (k : Nat) : List Term → List Expr
  | [] => []
  | x :: xs => (x.spread k).1.reading (x.spread k).2 :: readings (k + x.marks) xs

end

/-- What an expression's text is read as. -/
def reading (k : Nat) (x : Term) : Expr := (x.spread k).1.reading (x.spread k).2

/-- Whether a comparison with `NULL` stands in the text of an expression without parentheses. -/
def comparesNull : Term → Bool
  | .compareNull .. | .nullCompare .. => true
  | .untyped x => x.comparesNull
  | _ => false

/-- Whether the text of an expression begins with `NOT`. -/
def leadsNot : Term → Bool
  | .unary op _ => op = .not
  | .compareNull _ x | .untyped x => x.leadsNot
  | _ => false

/-- Whether what comes after an expression may be read with the operand of a `NOT`. A `NOT` after
`IS` is taken for a part of it. -/
def opensNot : Term → Bool
  | .unary op _ => op = .not
  | .compareNull _ x | .untyped x => x.opensNot
  | .nullCompare negated x => (negated || !x.leadsNot) && x.opensNot
  | _ => false

/-- The level from which what comes after an expression is read with its last operand. -/
def tail (x : Term) : Nat :=
  if x.opensNot then Level.not.rank
  else if x.comparesNull then Level.equality.rank + 1
  else Level.sign.rank + 1

mutual

/-- Whether every operator in an expression is read with its own operands. -/
def nests : Term → Bool
  | .binary op l r =>
      l.nests && r.nests && (operatorLevel op).rank < l.tail &&
        ((operatorLevel op).rank < Level.equality.rank || !r.comparesNull)
  | .nullCompare negated x => x.nests && !x.comparesNull && (negated || !x.leadsNot)
  | .compareNull _ x | .isNull _ x | .between _ x _ _ | .inList _ x _ | .likeEscape x _ _ =>
      x.nests && Level.equality.rank < x.tail
  | .collate x _ => x.nests && Level.collate.rank < x.tail
  | .unary _ x | .cast x _ | .aggregate _ _ x | .untyped x => x.nests
  | .call _ arguments | .coalesce _ arguments | .userCall _ arguments _ => allNest arguments
  | _ => true

def allNest : List Term → Bool
  | [] => true
  | x :: xs => x.nests && allNest xs

end

/-! ## The text beside the expression -/

/-- An expression and the operands that its text leaves without parentheses. -/
structure Spreads (x : Term) (p : Primary) (ls : List Link) : Prop where
  bare : Bare p ls
  leads : p.negated = x.leadsNot
  compares : ls.isEmpty = !x.comparesNull
  opens : (p.negated || ls.any Link.negated) = x.opensNot

namespace Spreads

variable {x : Term} {p : Primary} {ls : List Link}

theorem tail (h : x.Spreads p ls) : Sql.tail p ls = x.tail := by
  rw [Sql.tail, h.opens, h.compares, Term.tail]
  cases x.comparesNull <;> rfl

/-- An expression that stands by itself. -/
theorem single (hleads : p.negated = x.leadsNot) (hcompares : x.comparesNull = false)
    (hopens : p.negated = x.opensNot) : x.Spreads p [] where
  bare := ⟨fun _ h => absurd h List.not_mem_nil, fun _ _ h => absurd h List.not_mem_nil⟩
  leads := hleads
  compares := by rw [hcompares]; rfl
  opens := by rw [← hopens]; simp

theorem same (h : x.Spreads p ls) (negated : Bool) (y : Expr) :
    (Term.compareNull negated x).Spreads p (ls ++ [.same negated ⟨false, y⟩]) where
  bare :=
    { same := fun l hl => by
        rcases List.mem_append.mp hl with hl | hl
        · exact h.bare.same l hl
        · cases List.mem_singleton.mp hl
          exact ⟨_, _, rfl⟩
      once := fun hp l hl => by
        rcases List.mem_append.mp hl with hl | hl
        · exact h.bare.once hp l hl
        · cases List.mem_singleton.mp hl
          rfl }
  leads := h.leads
  compares := by simp [comparesNull]
  opens := by
    rw [opensNot, ← h.opens]
    simp [Link.same, Link.negated]

theorem is (h : x.Spreads p ls) (negated : Bool) (y : Expr) :
    (Term.nullCompare negated x).Spreads ⟨false, y⟩ (.is negated p :: ls) where
  bare :=
    { same := fun l hl => by
        rcases List.mem_cons.mp hl with rfl | hl
        · unfold Link.is
          split <;> exact ⟨_, _, rfl⟩
        · exact h.bare.same l hl
      once := nofun }
  leads := rfl
  compares := rfl
  opens := by
    rw [opensNot, ← h.opens, ← h.leads]
    cases hp : p.negated with
    | false => cases negated <;> simp [Link.is, Link.same, Link.negated, hp]
    | true =>
        have hno : ls.any Link.negated = false := by simpa using h.bare.once hp
        cases negated <;> simp [Link.is, Link.same, Link.negated, hp, hno]

end Spreads

theorem spreads (k : Nat) (x : Term) : x.Spreads (x.spread k).1 (x.spread k).2 := by
  cases x with
  | compareNull negated x => exact (spreads k x).same negated _
  | nullCompare negated x => exact (spreads (k + 1) x).is negated _
  | untyped x =>
      have h := spreads k x
      exact ⟨h.bare, h.leads, h.compares, h.opens⟩
  | unary op x => cases op <;> exact .single rfl rfl rfl
  | _ => exact .single rfl rfl rfl

theorem opensNot_of_leadsNot (x : Term) (h : x.leadsNot = true) : x.opensNot = true := by
  cases x with
  | unary op x => exact h
  | compareNull negated x => exact opensNot_of_leadsNot x h
  | untyped x => exact opensNot_of_leadsNot x h
  | _ => cases h

/-- A `NOT` that is compared with `NULL` takes the comparison. -/
theorem nests_of_leadsNot (x : Term) (hleads : x.leadsNot = true) (h : x.comparesNull = true) :
    x.nests = false := by
  cases x with
  | compareNull negated x =>
      have htail : x.tail = Level.not.rank := by
        rw [tail, opensNot_of_leadsNot x hleads]
        rfl
      rw [nests, htail, Bool.and_eq_false_iff]
      exact .inr rfl
  | untyped x => exact nests_of_leadsNot x hleads h
  | nullCompare => cases hleads
  | _ => cases h

section
variable {k : Nat} {x r : Term} {y t : Expr}

/-- An operator with nothing more on its right takes the whole expression before it if that has no
looser operator at its end. -/
theorem closed_iff {l : Link} {f : Expr → Expr} (hl : ∀ y, (Sql.climb 0 y [l]).1 = f y)
    (hf : ∀ y z, f y = f z → y = z) (hle : l.rank ≤ Level.sign.rank)
    (hwithin : ¬Sql.Within l.rank (f (x.tree k)))
    (ih : x.reading k = x.tree k ↔ x.nests = true) :
    (x.spread k).1.reading ((x.spread k).2 ++ [l]) = f (x.tree k) ↔
      (x.nests && l.rank < x.tail) = true := by
  have hx := spreads k x
  by_cases hrank : l.rank < x.tail
  · rw [← hx.tail] at hrank
    rw [hx.bare.reading_append hrank, hl, ← hx.tail, decide_eq_true hrank, Bool.and_true, ← ih]
    exact ⟨hf _ _, congrArg f⟩
  · rw [decide_eq_false hrank, Bool.and_false]
    rw [← hx.tail, Nat.not_lt] at hrank
    have hread := hx.bare.reading_within hrank hle fun m hm => absurd hm List.not_mem_nil
    exact ⟨fun h => absurd (h ▸ hread) hwithin, fun h => absurd h Bool.false_ne_true⟩

/-- An operator takes the whole expression on its right if it binds looser than a comparison with
`NULL`, or there is none to be taken from it. -/
theorem operator_iff (rank : Nat) {f : Expr → Expr → Expr}
    (hf : ∀ y y' z z', f y z = f y' z' ↔ y = y' ∧ z = z')
    (hleft : ¬Sql.FromLeft (f y (r.spread k).1.value) (f t (r.tree k)))
    (ih : r.reading k = r.tree k ↔ r.nests = true) :
    (Sql.climb 0 y (.operator rank f (r.spread k).1 :: (r.spread k).2)).1 = f t (r.tree k) ↔
      y = t ∧ (r.nests && (rank < Level.equality.rank || !r.comparesNull)) = true := by
  have hr := spreads k r
  by_cases hwhole : rank < Level.equality.rank ∨ (r.spread k).1.negated = true ∨ (r.spread k).2 = []
  · rw [Sql.climb_operator_reading _ hr.bare.same hwhole, hf]
    refine and_congr_right fun _ => ih.trans ?_
    cases hnests : r.nests with
    | false => simp
    | true =>
        have hfree : rank < Level.equality.rank ∨ r.comparesNull = false := by
          rcases hwhole with hrank | hnegated | hempty
          · exact .inl hrank
          · refine .inr (Bool.eq_false_iff.mpr fun hcompares => ?_)
            rw [nests_of_leadsNot r (hr.leads ▸ hnegated) hcompares] at hnests
            cases hnests
          · have hcompares := hr.compares
            rw [hempty] at hcompares
            exact .inr (by simpa using hcompares.symm)
        simpa using hfree
  · have hfrom := Sql.climb_operator_fromLeft (f := f) y hr.bare.same hwhole
    simp only [not_or] at hwhole
    obtain ⟨hrank, -, hne⟩ := hwhole
    have hcompares : r.comparesNull = true := by
      have hempty := hr.compares
      cases hc : r.comparesNull with
      | true => rfl
      | false =>
          rw [hc] at hempty
          exact absurd (List.isEmpty_iff.mp hempty) hne
    rw [decide_eq_false hrank, hcompares]
    simp only [Bool.not_true, Bool.or_false, Bool.and_false, Bool.false_eq_true, and_false,
      iff_false]
    exact fun h => hleft (h ▸ hfrom)

end

/-- A comparison with `NULL` on the left of a predicate, which has it as its own operand. -/
theorem same_iff (k : Nat) (negated : Bool) (x : Term) {v : Expr} (hv : ∀ w, v ≠ .unary .not w)
    (ih : x.reading k = x.tree k ↔ x.nests = true) :
    (x.spread k).1.reading ((x.spread k).2 ++ [.same negated ⟨false, v⟩]) =
        .same negated (x.tree k) v ↔
      (x.nests && Level.equality.rank < x.tail) = true := by
  have hle : (Link.same negated ⟨false, v⟩).rank ≤ Level.sign.rank :=
    show Level.equality.rank ≤ Level.sign.rank by decide
  refine closed_iff (f := fun y => .same negated y v) (fun y => ?_) (fun y z h => ?_) hle ?_ ih
  · rw [Link.same, Sql.climb_operator (Nat.zero_le _), Primary.climb_plain, Sql.climb_nil,
      Sql.climb_nil]
  · cases h
    rfl
  · rintro (⟨w, hw⟩ | ⟨n, y, z, hy, ⟨w, rfl⟩ | hlt⟩)
    · cases hw
    · cases hy
      exact hv w rfl
    · exact absurd hlt (Nat.lt_irrefl _)

/-- A predicate that is written after its operand. -/
theorem predicate_iff (k : Nat) {rank : Nat} (x : Term) {f : Expr → Expr}
    (hf : ∀ y z, f y = f z → y = z) (hle : rank ≤ Level.sign.rank)
    (hnot : ∀ y w, f y ≠ .unary .not w) (hsame : ∀ y n u w, f y ≠ .same n u w)
    (ih : x.reading k = x.tree k ↔ x.nests = true) :
    (x.spread k).1.reading ((x.spread k).2 ++ [.predicate rank f]) = f (x.tree k) ↔
      (x.nests && rank < x.tail) = true := by
  refine closed_iff (fun y => ?_) hf hle ?_ ih
  · rw [Sql.climb_predicate (Nat.zero_le _), Sql.climb_nil]
  · rintro (⟨w, hw⟩ | ⟨n, y, z, hy, -⟩)
    · exact hnot _ _ hw
    · exact hsame _ _ _ _ hy

theorem binary_iff (k : Nat) (op : BinaryOperator) {l r : Term}
    (ihl : l.reading k = l.tree k ↔ l.nests = true)
    (ihr : r.reading (k + l.marks) = r.tree (k + l.marks) ↔ r.nests = true) :
    (Term.binary op l r).reading k = (Term.binary op l r).tree k ↔
      (Term.binary op l r).nests = true := by
  have hl := spreads k l
  have hr := spreads (k + l.marks) r
  have hle : (operatorLevel op).rank ≤ Level.sign.rank := by cases op <;> decide
  rw [reading, spread, Primary.reading_plain, tree, nests]
  by_cases hrank : (operatorLevel op).rank < l.tail
  · have hleft : ¬Sql.FromLeft (.binary op (l.reading k) (r.spread (k + l.marks)).1.value)
        (.binary op (l.tree k) (r.tree (k + l.marks))) := by
      rintro ⟨n, y, z, hy, -⟩
      cases hy
    have hoperator := operator_iff (operatorLevel op).rank (by simp) hleft ihr
    rw [hl.bare.reading_append (l := .operator (operatorLevel op).rank (.binary op) _)
      (hl.tail ▸ hrank)]
    refine hoperator.trans ?_
    rw [ihl]
    simp [hrank, and_assoc]
  · have hread := hl.bare.reading_within
      (l := .operator (operatorLevel op).rank (.binary op) (r.spread (k + l.marks)).1)
      (hl.tail ▸ Nat.not_lt.mp hrank) hle hr.bare.same
    rw [decide_eq_false hrank, Bool.and_false, Bool.false_and]
    refine ⟨fun h => ?_, fun h => absurd h Bool.false_ne_true⟩
    rw [h] at hread
    rcases hread with ⟨w, hw⟩ | ⟨n, y, z, hy, -⟩
    · cases hw
    · cases hy

theorem not_fromLeft_parameter {n m : Bool} {i : Nat} {y v e : Expr} :
    ¬Sql.FromLeft (.same n y v) (.same m (.parameter i) e) := by
  rintro ⟨n', y', z', hy, rfl | ⟨n'', y'', z'', rfl⟩⟩
  · cases hy
  · cases hy

theorem nullCompare_iff (k : Nat) (negated : Bool) {x : Term}
    (ih : x.reading (k + 1) = x.tree (k + 1) ↔ x.nests = true) :
    (Term.nullCompare negated x).reading k = (Term.nullCompare negated x).tree k ↔
      (Term.nullCompare negated x).nests = true := by
  have hx := spreads (k + 1) x
  rw [reading, spread, Primary.reading, Primary.climb_plain, tree, nests, Link.is, ← hx.leads]
  cases hfused : !negated && (x.spread (k + 1)).1.negated with
  | true =>
      -- the `NOT` is read with the `IS`, whatever else is
      obtain ⟨rfl, hnot⟩ : negated = false ∧ (x.spread (k + 1)).1.negated = true := by
        simpa using hfused
      rw [if_pos rfl, hnot, Link.same]
      refine ⟨fun h => ?_, fun h => by simp at h⟩
      by_cases hempty : (x.spread (k + 1)).2 = []
      · rw [Sql.climb_operator_reading _ hx.bare.same (.inr (.inr hempty))] at h
        cases h
      · have hfrom := Sql.climb_operator_fromLeft (f := .same true) (.parameter (k + 1))
          (q := ⟨false, (x.spread (k + 1)).1.value⟩) hx.bare.same
          (by simp [hempty] : ¬(Level.equality.rank < Level.equality.rank ∨ _ ∨ _))
        rw [h] at hfrom
        exact absurd hfrom not_fromLeft_parameter
  | false =>
      have hoperator := operator_iff Level.equality.rank (f := .same negated)
        (y := .parameter (k + 1)) (t := .parameter (k + 1)) (by simp) not_fromLeft_parameter ih
      rw [if_neg Bool.false_ne_true, Link.same]
      refine hoperator.trans ?_
      have happart : (negated || !(x.spread (k + 1)).1.negated) = true := by
        cases negated with
        | true => rfl
        | false => simpa using hfused
      simp [happart]

mutual

/-- The text of an expression says what the expression is if every operator is read with its own
operands, and otherwise it says something else. -/
theorem reading_eq_tree (k : Nat) (x : Term) : x.reading k = x.tree k ↔ x.nests = true := by
  cases x with
  | binary op l r => exact binary_iff k op (reading_eq_tree k l) (reading_eq_tree _ r)
  | unary op x =>
      have ih := reading_eq_tree k x
      cases op with
      | _ => simpa [reading, spread, tree, nests] using ih
  | compareNull negated x =>
      exact same_iff k negated x nofun (reading_eq_tree k x)
  | nullCompare negated x => exact nullCompare_iff k negated (reading_eq_tree _ x)
  | isNull negated x =>
      rw [reading, spread, Primary.reading_plain]
      exact same_iff k negated x nofun (reading_eq_tree k x)
  | between negated x low high =>
      rw [reading, spread, Primary.reading_plain]
      exact predicate_iff k x (by simp) (by decide) nofun nofun (reading_eq_tree k x)
  | inList negated x values =>
      rw [reading, spread, Primary.reading_plain]
      exact predicate_iff k x (by simp) (by decide) nofun nofun (reading_eq_tree k x)
  | likeEscape x pattern escape =>
      rw [reading, spread, Primary.reading_plain]
      exact predicate_iff k x (by simp) (by decide) nofun nofun (reading_eq_tree k x)
  | collate x collation =>
      rw [reading, spread, Primary.reading_plain]
      exact predicate_iff k x (by simp) (by decide) nofun nofun (reading_eq_tree k x)
  | cast x type =>
      have ih := reading_eq_tree k x
      simpa [reading, spread, tree, nests] using ih
  | call f xs =>
      have ih := readings_eq_trees k xs
      simpa [reading, spread, tree, nests] using ih
  | coalesce type xs =>
      have ih := readings_eq_trees k xs
      simpa [reading, spread, tree, nests] using ih
  | userCall name xs type =>
      have ih := readings_eq_trees k xs
      simpa [reading, spread, tree, nests] using ih
  | aggregate f distinct x =>
      have ih := reading_eq_tree k x
      simpa [reading, spread, tree, nests] using ih
  | untyped x => exact reading_eq_tree k x
  | _ => simp [reading, spread, nests]

theorem readings_eq_trees (k : Nat) (xs : List Term) :
    readings k xs = trees k xs ↔ allNest xs = true := by
  cases xs with
  | nil => simp [readings, trees, allNest]
  | cons x xs =>
      rw [readings, trees, allNest, List.cons.injEq, Bool.and_eq_true, ← reading_eq_tree k x,
        ← readings_eq_trees _ xs]
      rfl

end

/-! ## Expressions without bare operators -/

mutual

/-- Whether every operator in an expression has parentheses around itself: no comparison with `NULL`
is in it, and no `NOT`. -/
def isEnclosed : Term → Bool
  | .compareNull .. | .nullCompare .. => false
  | .unary op x => op != .not && x.isEnclosed
  | .binary _ l r => l.isEnclosed && r.isEnclosed
  | .isNull _ x | .between _ x _ _ | .inList _ x _ | .likeEscape x _ _ | .collate x _ | .cast x _
  | .aggregate _ _ x | .untyped x => x.isEnclosed
  | .call _ arguments | .coalesce _ arguments | .userCall _ arguments _ => allEnclosed arguments
  | _ => true

def allEnclosed : List Term → Bool
  | [] => true
  | x :: xs => x.isEnclosed && allEnclosed xs

end

theorem comparesNull_of_isEnclosed (x : Term) (h : x.isEnclosed = true) :
    x.comparesNull = false := by
  cases x with
  | compareNull | nullCompare => cases h
  | untyped x => exact comparesNull_of_isEnclosed x h
  | _ => rfl

theorem opensNot_of_isEnclosed (x : Term) (h : x.isEnclosed = true) : x.opensNot = false := by
  cases x with
  | compareNull | nullCompare => cases h
  | unary op x =>
      rw [isEnclosed, Bool.and_eq_true] at h
      simpa [opensNot] using h.1
  | untyped x => exact opensNot_of_isEnclosed x h
  | _ => rfl

theorem tail_of_isEnclosed (x : Term) (h : x.isEnclosed = true) :
    x.tail = Level.sign.rank + 1 := by
  simp [tail, opensNot_of_isEnclosed x h, comparesNull_of_isEnclosed x h]

mutual

/-- Without a bare operator, every operator is read with its own operands, however deep it is. -/
theorem nests_of_isEnclosed (x : Term) (h : x.isEnclosed = true) : x.nests = true := by
  cases x with
  | compareNull | nullCompare => cases h
  | binary op l r =>
      rw [isEnclosed, Bool.and_eq_true] at h
      have hrank : (operatorLevel op).rank < l.tail := by
        rw [tail_of_isEnclosed l h.1]
        cases op <;> decide
      simp [nests, nests_of_isEnclosed l h.1, nests_of_isEnclosed r h.2, hrank,
        comparesNull_of_isEnclosed r h.2]
  | unary op x =>
      rw [isEnclosed, Bool.and_eq_true] at h
      exact nests_of_isEnclosed x h.2
  | isNull _ x | between _ x | inList _ x | likeEscape x =>
      have hx : x.isEnclosed = true := h
      rw [nests, nests_of_isEnclosed x hx, tail_of_isEnclosed x hx]
      rfl
  | collate x =>
      have hx : x.isEnclosed = true := h
      rw [nests, nests_of_isEnclosed x hx, tail_of_isEnclosed x hx]
      rfl
  | cast x | aggregate _ _ x | untyped x => exact nests_of_isEnclosed x h
  | call _ xs | coalesce _ xs | userCall _ xs => exact allNest_of_allEnclosed xs h
  | _ => rfl

theorem allNest_of_allEnclosed (xs : List Term) (h : allEnclosed xs = true) :
    allNest xs = true := by
  cases xs with
  | nil => rfl
  | cons x xs =>
      rw [allEnclosed, Bool.and_eq_true] at h
      rw [allNest, nests_of_isEnclosed x h.1, allNest_of_allEnclosed xs h.2]
      rfl

end

end Term

end TypedSql
